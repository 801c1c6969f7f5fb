import AgentFleet.Number.Shortest

/-!
# Document values

The values that an inventory document is made of: scalars, sequences, mappings
from values to values, and values under a tag. A mapping keeps the order in
which its keys first appeared; keys are compared by value, the order inside a
mapping key aside. Reading a field (`Value.get?`, `Value.asMapping?`) looks
through tags, while matching on a constructor does not.
-/

namespace AgentFleet

/-- A value of a document. -/
inductive Value where
  /-- The absent value. -/
  | null
  /-- A truth value. -/
  | bool (b : Bool)
  /-- An integer. -/
  | int (n : Int)
  /-- A floating-point number. -/
  | float (x : Binary64)
  /-- A text. -/
  | str (s : String)
  /-- A sequence. -/
  | seq (items : List Value)
  /-- A mapping, as its entries in order. -/
  | map (entries : List (Value × Value))
  /-- A value under a tag, which is named without its leading mark. -/
  | tagged (tag : String) (value : Value)
  deriving Repr, Inhabited

/-- The entries of a mapping in the order of their first appearance. -/
abbrev Mapping := List (Value × Value)

namespace Value

mutual

/-- Whether two values are the same key: equal up to the order inside mappings. -/
def same : Value → Value → Bool
  | .null, .null => true
  | .bool a, .bool b => a == b
  | .int a, .int b => a == b
  | .float a, .float b => a.same b
  | .str a, .str b => a == b
  | .seq as, .seq bs => sameItems as bs
  | .map as, .map bs => as.length == bs.length && sameEntries as bs
  | .tagged s a, .tagged t b => s == t && same a b
  | _, _ => false

/-- Whether two sequences agree item by item. -/
def sameItems : List Value → List Value → Bool
  | [], [] => true
  | a :: as, b :: bs => same a b && sameItems as bs
  | _, _ => false

/-- Whether every entry of the first mapping occurs in the second. -/
def sameEntries : List (Value × Value) → List (Value × Value) → Bool
  | [], _ => true
  | (k, v) :: as, bs => (bs.any fun e => same k e.1 && same v e.2) && sameEntries as bs

end

/-- The value below all tags. -/
def untagged : Value → Value
  | .tagged _ v => untagged v
  | v => v

/-- The entries of a mapping, through tags. -/
def asMapping? (v : Value) : Option Mapping :=
  match v.untagged with
  | .map entries => some entries
  | _ => none

/-- The text of a string, through tags. -/
def asString? (v : Value) : Option String :=
  match v.untagged with
  | .str s => some s
  | _ => none

/-- The text of a scalar; null, empty texts, sequences and mappings have none. -/
def scalarText : Value → Option String
  | .str s => if s.isEmpty then none else some s
  | .int n => some (toString n)
  | .float x => some x.text
  | .bool b => some (if b then "true" else "false")
  | .tagged _ v => scalarText v
  | _ => none

/-- Whether a value counts as set; anything under a tag does. -/
def isTruthy : Value → Bool
  | .null => false
  | .bool b => b
  | .str s => !s.isEmpty
  | .seq items => !items.isEmpty
  | .map entries => !entries.isEmpty
  | .int _ | .float _ | .tagged _ _ => true

end Value

namespace Mapping

/-- The value under a text key; only an untagged text is such a key. -/
def get? (m : Mapping) (name : String) : Option Value :=
  match m with
  | [] => none
  | (.str s, v) :: rest => if s == name then some v else get? rest name
  | _ :: rest => get? rest name

/-- The mapping with `key` set to `value`, in place when the key occurs and at the end otherwise. -/
def insert (m : Mapping) (key value : Value) : Mapping :=
  match m with
  | [] => [(key, value)]
  | (k, v) :: rest => if k.same key then (k, value) :: rest else (k, v) :: insert rest key value

/-- The mapping with all entries of `fields` set one after the other. -/
def insertAll (m fields : Mapping) : Mapping :=
  fields.foldl (fun m e => m.insert e.1 e.2) m

/-- The mapping without the entry under a text key; the others keep their order. -/
def erase (m : Mapping) (name : String) : Mapping :=
  match m with
  | [] => []
  | (.str s, v) :: rest => if s == name then rest else (.str s, v) :: erase rest name
  | e :: rest => e :: erase rest name

/-- Whether a value is a key of the mapping. -/
def hasKey (m : Mapping) (key : Value) : Bool :=
  m.any fun e => key.same e.1

/-- The keys of the mapping are pairwise different. -/
def Distinct (m : Mapping) : Prop :=
  m.Pairwise fun a b => a.1.same b.1 = false

end Mapping

/-- The value under a text key of a mapping, through tags on the mapping. -/
def Value.get? (v : Value) (name : String) : Option Value :=
  match v.asMapping? with
  | some entries => Mapping.get? entries name
  | none => none

end AgentFleet
