import AgentFleet.Inventory.Record
import AgentFleet.Text.Blank

/-!
# Host patterns

A pattern such as `nodes:loadgenerators:!spare` selects hosts of an inventory.
Its tokens are replayed from left to right: an inclusion appends the hosts of a
group that are not selected yet, an exclusion drops the hosts of a group. A
pattern without an inclusion starts from every host. Hosts are told apart by
their identity, and of several records with one identity the first is selected.
-/

namespace AgentFleet

/-- One token of a pattern. -/
inductive PatternToken where
  /-- Adds the hosts of a group. -/
  | inclusion (name : String)
  /-- Drops the hosts of a group. -/
  | exclusion (name : String)
  deriving DecidableEq, Repr

namespace PatternToken

/-- The group that a token names. -/
def name : PatternToken → String
  | inclusion n | exclusion n => n

/-- Whether a token adds hosts. -/
def isInclude : PatternToken → Bool
  | inclusion _ => true
  | exclusion _ => false

/-- The group name that stands for every host. -/
def everyHost : String := "all"

/-- Whether a host belongs to the group that a token names. -/
def matchesHost (t : PatternToken) (r : HostRecord) : Bool :=
  t.name == everyHost || r.inGroup t.name

/-- The text of a token. -/
def text : PatternToken → String
  | inclusion n => n
  | exclusion n => "!" ++ n

/-- The token that a piece of a pattern spells; empty pieces spell none. -/
def ofPiece? (piece : String) : Option PatternToken :=
  match piece.toList with
  | [] => none
  | '!' :: cs => some (exclusion (String.ofList cs))
  | _ => some (inclusion piece)

end PatternToken

/-- A selection in the making. The identities of the chosen records are kept beside their places, so
that a record is known to be chosen without a look at the inventory. -/
structure Selection where
  /-- The places of the chosen records in the inventory, in the order in which they were added. -/
  places : List Nat := []
  /-- The identities of the chosen records. -/
  identities : List (String × Option String) := []

namespace Selection

/-- Chooses the record at a place, unless one with its identity is chosen. -/
def choose (s : Selection) (r : HostRecord) (place : Nat) : Selection :=
  if s.identities.contains r.identity then s
  else { places := s.places ++ [place], identities := r.identity :: s.identities }

/-- Chooses the wanted ones of some records, of which the first stands at `place`. -/
def addFrom (s : Selection) (place : Nat) (records : List HostRecord)
    (wanted : HostRecord → Bool) : Selection :=
  (records.zipIdx place).foldl (fun s e => if wanted e.1 then s.choose e.1 e.2 else s) s

/-- Chooses the wanted records of an inventory. -/
def add (s : Selection) (hosts : List HostRecord) (wanted : HostRecord → Bool) : Selection :=
  s.addFrom 0 hosts wanted

/-- Drops the unwanted records of an inventory. -/
def drop (s : Selection) (hosts : List HostRecord) (unwanted : HostRecord → Bool) : Selection :=
  { places := s.places.filter fun place => !(hosts[place]?).any unwanted
    identities := s.identities.removeAll ((hosts.filter unwanted).map HostRecord.identity) }

/-- The chosen records of an inventory. -/
def records (s : Selection) (hosts : List HostRecord) : List HostRecord :=
  s.places.filterMap fun place => hosts[place]?

end Selection

/-- A host pattern. -/
structure HostPattern where
  /-- The tokens in order. -/
  tokens : List PatternToken
  deriving DecidableEq, Repr

namespace HostPattern

/-- The pattern that selects every host. -/
def everyHost : HostPattern :=
  ⟨[.inclusion PatternToken.everyHost]⟩

/-- The pattern that a text spells. -/
def parse (s : String) : HostPattern :=
  ⟨(Text.split ':' s).filterMap PatternToken.ofPiece?⟩

/-- The text of a pattern. -/
def text (p : HostPattern) : String :=
  Text.join ":" (p.tokens.map PatternToken.text)

/-- Whether a pattern has an inclusion. -/
def hasInclude (p : HostPattern) : Bool :=
  p.tokens.any PatternToken.isInclude

/-- The selection after one more token. -/
def step (hosts : List HostRecord) (s : Selection) (t : PatternToken) : Selection :=
  match t with
  | .inclusion _ => s.add hosts t.matchesHost
  | .exclusion _ => s.drop hosts t.matchesHost

/-- What the replay of the tokens starts from. -/
def seed (p : HostPattern) (hosts : List HostRecord) : Selection :=
  if p.hasInclude then {} else Selection.add {} hosts fun _ => true

/-- The hosts that a pattern selects, in the order in which they were added. -/
def select (p : HostPattern) (hosts : List HostRecord) : List HostRecord :=
  (p.tokens.foldl (step hosts) (p.seed hosts)).records hosts

end HostPattern

end AgentFleet
