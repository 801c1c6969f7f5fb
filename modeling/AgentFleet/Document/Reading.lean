import AgentFleet.Document.Lexer
import AgentFleet.Document.Node
import AgentFleet.Document.Scalar
import AgentFleet.Text.Blank

/-!
# Reading a document

The value of a text: its tree with every scalar resolved, every reference
followed, and no key repeated in a mapping. Nesting and the number of references
that are followed are limited, so that a small text cannot stand for a huge or
endless value.
-/

namespace AgentFleet.Document

/-- The name of a tag that a value keeps: what follows its mark, of which a second one does not
count. The other tags only guide how a scalar is read. -/
def keptTag? (tag : Option String) : Option String :=
  match tag with
  | some t =>
    match t.toList with
    | ['!'] | ['!', '!'] => some "!"
    | '!' :: '!' :: name | '!' :: name => some (String.ofList name)
    | _ => none
  | none => none

/-- The value of a scalar that is asked to be of a certain kind. -/
def scalarOfKind? (kind text : String) : Option Value :=
  if kind == "bool" then (Scalar.bool? text).map Value.bool
  else if kind == "int" then ((Scalar.integer? text).filter Scalar.fitsWord).map Value.int
  else if kind == "float" then (Scalar.float? text).map Value.float
  else if kind == "null" then if Scalar.isNull text then some .null else none
  else some (.str text)

/-- The value of a scalar. -/
def scalarValue? (tag : Option String) (text : String) (plain : Bool) : Option Value :=
  match tag with
  | none => if plain then Scalar.resolve? text else some (.str text)
  | some t =>
    match keptTag? tag with
    | some name =>
      (if plain then Scalar.resolve? text else some (.str text)).map fun v => .tagged name v
    | none => scalarOfKind? ((Text.strip? "tag:yaml.org,2002:" t).getD "") text

/-- A value under the tag that it keeps. -/
def withTag (tag : Option String) (v : Value) : Value :=
  match keptTag? tag with
  | some name => .tagged name v
  | none => v

/-- Whether a key occurs twice. -/
def hasRepeatedKey : Mapping → Bool
  | [] => false
  | (k, _) :: rest => Mapping.hasKey rest k || hasRepeatedKey rest

/-- What the references of a document stand for, and how many may be followed. -/
structure References where
  /-- The anchored nodes in the order in which they begin; the last of a number counts. -/
  nodes : List (Nat × Node)
  /-- How many references may be followed. -/
  limit : Nat

/-- A composer of a value; it counts the references that were followed. -/
abbrev Composer (α : Type) := StateT Nat Option α

/-- The node that a node stands for. -/
def References.follow (r : References) : Node → Composer Node
  | .alias id => do
    let count ← get
    set (count + 1)
    if r.limit < count + 1 then failure
    else
      match r.nodes.reverse.lookup id with
      | some node => return node
      | none => failure
  | .anchored _ node => return node
  | node => return node

/-- The value of a node with at most `depth` collections around each other. -/
def compose (r : References) : Nat → Node → Composer Value
  | 0, node => do
    match ← r.follow node with
    | .scalar tag text plain => StateT.lift (scalarValue? tag text plain)
    | _ => failure
  | depth + 1, node => do
    match ← r.follow node with
    | .scalar tag text plain => StateT.lift (scalarValue? tag text plain)
    | .sequence tag items =>
      let values ← items.mapM fun n => compose r depth n
      return withTag tag (.seq values)
    | .mapping tag entries =>
      let entries ← entries.mapM fun e => do
        let key ← compose r depth e.1
        let value ← compose r depth e.2
        return (key, value)
      if hasRepeatedKey entries then failure else return withTag tag (.map entries)
    | .alias _ | .anchored .. => failure

/-- The value of a document, `none` when the text is none. -/
def read? (s : String) : Option Value :=
  match (tokens? s).bind Node.ofTokens? with
  | none => none
  | some node =>
    let r : References := ⟨node.anchors, 100 * node.weight⟩
    ((compose r 128 node).run 0).map Prod.fst

end AgentFleet.Document
