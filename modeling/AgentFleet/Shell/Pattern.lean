import AgentFleet.Text.Utf8

/-!
# Patterns

Shell patterns: `*` stands for any text, `?` for one unit of text and brackets for one of several
units, unless they were quoted. A pattern is first cut into its parts. Scripts match byte by byte,
archives character by character, so that a unit is a whole number: a byte with its sign, or the
code of a character.
-/

namespace AgentFleet.Shell

/-- A pattern; quoted characters are inactive. -/
abbrev Pattern := List (Char × Bool)

/-- A unit of text, as patterns compare it. -/
abbrev TextUnit := Int

/-- The units of a text whose bytes are compared. -/
def byteUnits (cs : List Char) : List TextUnit :=
  (Text.encode (String.ofList cs)).map fun b =>
    if b.toNat < 128 then (b.toNat : Int) else (b.toNat : Int) - 256

/-- The units of a text whose characters are compared. -/
def charUnits (cs : List Char) : List TextUnit :=
  cs.map fun c => (c.toNat : Int)

/-- The unit of a character of ASCII. -/
def unitOf (c : Char) : TextUnit :=
  c.toNat

/-! ### Parts -/

/-- A part of a pattern. -/
inductive PatternPart where
  /-- Any text. -/
  | anything
  /-- One unit that is allowed. -/
  | one (allows : TextUnit → Bool)

/-- The classes of characters between brackets by their names. -/
def characterClasses : List (String × (Char → Bool)) :=
  [("alnum", Char.isAlphanum), ("alpha", Char.isAlpha),
    ("blank", fun c => c == ' ' || c == '\t'), ("cntrl", fun c => c.toNat < 32 || c.toNat == 127),
    ("digit", Char.isDigit), ("graph", fun c => 32 < c.toNat && c.toNat < 127),
    ("lower", Char.isLower), ("print", fun c => 32 ≤ c.toNat && c.toNat < 127),
    ("punct", fun c => 32 < c.toNat && c.toNat < 127 && !c.isAlphanum),
    ("space", fun c => c == ' ' || (9 ≤ c.toNat && c.toNat ≤ 13)), ("upper", Char.isUpper),
    ("xdigit", fun c => c.isDigit || ('a' ≤ c && c ≤ 'f') || ('A' ≤ c && c ≤ 'F'))]

/-- Whether a unit belongs to a class of ASCII characters. -/
def classHas (test : Char → Bool) (u : TextUnit) : Bool :=
  0 ≤ u && u < 128 && test (Char.ofNat u.toNat)

/-- The text that names a class between brackets. -/
def classText (name : String) : List TextUnit :=
  charUnits ("[:" ++ name ++ ":]").toList

/-- A class between brackets that units begin with, and how many units name it. -/
def classAt? (p : List (TextUnit × Bool)) : Option ((TextUnit → Bool) × Nat) :=
  characterClasses.findSome? fun (name, test) =>
    let text := classText name
    if text.isPrefixOf (p.map Prod.fst) then some (classHas test, text.length) else none

/-- The units between brackets: what they allow, and how many units there are with the closing
bracket. `skip` of them are passed over; the `first` one does not close the brackets. -/
def bracketUnits (skip : Nat) (first : Bool) :
    List (TextUnit × Bool) → Option ((TextUnit → Bool) × Nat)
  | [] => none
  | (u, active) :: rest =>
    let found (allows : TextUnit → Bool) (skip : Nat) : Option ((TextUnit → Bool) × Nat) :=
      (bracketUnits skip false rest).map fun (more, n) => (fun v => allows v || more v, n + 1)
    match skip with
    | n + 1 => found (fun _ => false) n
    | 0 =>
      if active && u == unitOf ']' && !first then some (fun _ => false, 1)
      else
        match if active && u == unitOf '[' then classAt? ((u, active) :: rest) else none with
        | some (test, n) => found test (n - 1)
        | none =>
          match active && u == unitOf '\\', rest with
          | true, (v, _) :: _ => found (· == v) 1
          | _, (d, true) :: (v, a) :: more =>
            if d == unitOf '-' && !(a && v == unitOf ']') then
              match a && v == unitOf '\\', more with
              | true, (w, _) :: _ => found (fun x => u ≤ x && x ≤ w) 3
              | _, _ => found (fun x => u ≤ x && x ≤ v) 2
            else found (· == u) 0
          | _, _ => found (· == u) 0

/-- The parts of a pattern of units, of which `skip` are passed over. The units of `negations`
negate the brackets that they begin. -/
def patternParts (negations : List TextUnit) (skip : Nat) :
    List (TextUnit × Bool) → List PatternPart
  | [] => []
  | (u, active) :: rest =>
    match skip with
    | n + 1 => patternParts negations n rest
    | 0 =>
      if !active then .one (· == u) :: patternParts negations 0 rest
      else if u == unitOf '*' then .anything :: patternParts negations 0 rest
      else if u == unitOf '?' then .one (fun _ => true) :: patternParts negations 0 rest
      else if u == unitOf '\\' then
        match rest with
        | (v, _) :: _ => .one (· == v) :: patternParts negations 1 rest
        | [] => [.one (· == u)]
      else if u == unitOf '[' then
        let negated := match rest with
          | (v, true) :: _ => negations.contains v
          | _ => false
        match bracketUnits 0 true (if negated then rest.drop 1 else rest) with
        | some (allows, n) =>
          .one (fun v => allows v != negated) ::
            patternParts negations (if negated then n + 1 else n) rest
        | none => .one (· == u) :: patternParts negations 0 rest
      else .one (· == u) :: patternParts negations 0 rest

/-- Whether the parts of a pattern stand for a text. -/
def matchesParts : List PatternPart → List TextUnit → Bool
  | [], text => text.isEmpty
  | .anything :: ps, [] => matchesParts ps []
  | .anything :: ps, u :: text => matchesParts ps (u :: text) || matchesParts (.anything :: ps) text
  | .one allows :: ps, u :: text => allows u && matchesParts ps text
  | .one _ :: _, [] => false
termination_by ps text => ps.length + text.length

namespace Pattern

/-- The pattern in which no character was quoted. -/
def ofString (s : String) : Pattern :=
  s.toList.map fun c => (c, true)

/-- The text of a pattern. -/
def text (p : Pattern) : String :=
  String.ofList (p.map Prod.fst)

/-- Whether a pattern stands for more than its text. -/
def isActive : Pattern → Bool
  | ('\\', true) :: _ :: rest => isActive rest
  | (c, active) :: rest => active && (c == '*' || c == '?' || c == '[') || isActive rest
  | [] => false

/-- The text that a pattern without active characters stands for. -/
def plain : Pattern → List Char
  | ('\\', true) :: (c, _) :: rest => c :: plain rest
  | (c, _) :: rest => c :: plain rest
  | [] => []

/-- The parts of a pattern whose bytes are compared, as scripts do. -/
def byteParts (p : Pattern) : List PatternPart :=
  patternParts [unitOf '!'] 0 (p.flatMap fun (c, active) => (byteUnits [c]).map fun u => (u, active))

/-- The parts of a pattern whose characters are compared, as archives do. -/
def charParts (p : Pattern) : List PatternPart :=
  patternParts [unitOf '!', unitOf '^'] 0 (p.map fun (c, active) => (unitOf c, active))

/-- Whether a pattern stands for the text of a script. -/
def matchesString (p : Pattern) (s : String) : Bool :=
  matchesParts p.byteParts (byteUnits s.toList)

/-- Whether a pattern stands for the name of a member of an archive. -/
def matchesName (p : Pattern) (s : String) : Bool :=
  matchesParts p.charParts (charUnits s.toList)

/-! ### Removing what a pattern stands for -/

/-- `s` without a leading part that a pattern stands for, the shortest or the longest. -/
def dropLeading (p : Pattern) (longest : Bool) (s : String) : String :=
  let bytes := Text.encode s
  let units := byteUnits s.toList
  let parts := p.byteParts
  let lengths := (List.range (units.length + 1)).filter fun n => matchesParts parts (units.take n)
  match if longest then lengths.getLast? else lengths.head? with
  | some n => Text.decodeLossy (bytes.drop n)
  | none => s

/-- `s` without a trailing part that a pattern stands for, the shortest or the longest. -/
def dropTrailing (p : Pattern) (longest : Bool) (s : String) : String :=
  let bytes := Text.encode s
  let units := byteUnits s.toList
  let parts := p.byteParts
  let starts := (List.range (units.length + 1)).filter fun n => matchesParts parts (units.drop n)
  match if longest then starts.head? else starts.getLast? with
  | some n => Text.decodeLossy (bytes.take n)
  | none => s

end Pattern

end AgentFleet.Shell
