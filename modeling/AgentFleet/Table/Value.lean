/-!
# Tables

The values of a settings file: texts, numbers, lists and tables with text keys. A table remembers
how it came to be, because that decides which later parts of the file may add
to it.
-/

namespace AgentFleet

/-- How a table of a settings file came to be. -/
inductive TableOrigin where
  /-- By a header of its own. -/
  | header
  /-- As part of the header of another table. -/
  | implied
  /-- As part of a dotted key. -/
  | dotted
  /-- Between braces. -/
  | inline
  deriving DecidableEq, Repr, Inhabited

/-- A value of a settings file. -/
inductive TableValue where
  /-- A text. -/
  | text (s : String)
  /-- An integer. -/
  | integer (n : Int)
  /-- A number that is no integer. -/
  | real
  /-- A truth value. -/
  | truth (b : Bool)
  /-- A date, a time, or both. -/
  | moment
  /-- A list; `growing` when headers append tables to it. -/
  | list (growing : Bool) (items : List TableValue)
  /-- A table. -/
  | table (origin : TableOrigin) (entries : List (String × TableValue))
  deriving Repr, Inhabited

/-- The entries of a table in the order of their first appearance. -/
abbrev Table := List (String × TableValue)

namespace Table

/-- The table with a key set to a value, in place when the key occurs. -/
def put (t : Table) (key : String) (v : TableValue) : Table :=
  match t with
  | [] => [(key, v)]
  | (k, w) :: rest => if k == key then (k, v) :: rest else (k, w) :: put rest key v

/-- Adds a value under a dotted key. Tables on the way must come from dotted keys or be implied by
headers, and come from a dotted key thereafter. -/
def add (t : Table) (v : TableValue) : List String → Option Table
  | [] => none
  | [key] => if (t.lookup key).isSome then none else some (t.put key v)
  | key :: keys =>
    match t.lookup key with
    | none => (add [] v keys).map fun inner => t.put key (.table .dotted inner)
    | some (.table origin inner) =>
      if origin == .dotted || origin == .implied then
        (add inner v keys).map fun inner => t.put key (.table .dotted inner)
      else none
    | some _ => none

/-- Changes the table that a header names; of a growing list it is the last item. -/
def change (t : Table) (f : Table → Option Table) : List String → Option Table
  | [] => f t
  | key :: keys =>
    match t.lookup key with
    | some (.table origin inner) => (change inner f keys).map fun u => t.put key (.table origin u)
    | some (.list true items) =>
      match items.getLast? with
      | some (.table origin inner) =>
        (change inner f keys).map fun u =>
          t.put key (.list true (items.dropLast ++ [.table origin u]))
      | _ => none
    | _ => none

/-- Changes what a header names below the tables that it implies. -/
def changeBelow (t : Table) (f : Table → String → Option Table) : List String → Option Table
  | [] => none
  | [key] => f t key
  | key :: keys =>
    match t.lookup key with
    | none => (changeBelow [] f keys).map fun inner => t.put key (.table .implied inner)
    | some (.table origin inner) =>
      if origin == .inline then none
      else (changeBelow inner f keys).map fun inner => t.put key (.table origin inner)
    | some (.list true items) =>
      match items.getLast? with
      | some (.table origin inner) =>
        (changeBelow inner f keys).map fun inner =>
          t.put key (.list true (items.dropLast ++ [.table origin inner]))
      | _ => none
    | some _ => none

/-- Begins the table of a header; it must be new or only implied. -/
def openTable (t : Table) (keys : List String) : Option Table :=
  changeBelow t
    (fun t key =>
      match t.lookup key with
      | none => some (t.put key (.table .header []))
      | some (.table .implied inner) => some (t.put key (.table .header inner))
      | some _ => none)
    keys

/-- Begins a further item of the growing list of a header. -/
def openItem (t : Table) (keys : List String) : Option Table :=
  changeBelow t
    (fun t key =>
      match t.lookup key with
      | none => some (t.put key (.list true [.table .header []]))
      | some (.list true items) => some (t.put key (.list true (items ++ [.table .header []])))
      | some _ => none)
    keys

end Table

end AgentFleet
