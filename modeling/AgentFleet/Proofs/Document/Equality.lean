import AgentFleet.Inventory.Record

/-!
# Equality of values

Values and host records can be compared by computation, the order of the entries
inside mappings included. `Value.same` compares keys instead and leaves that
order aside.
-/

namespace AgentFleet

namespace Value

mutual

/-- Whether two values are equal. -/
def identical : Value → Value → Bool
  | .null, .null => true
  | .bool a, .bool b => a == b
  | .int a, .int b => a == b
  | .float a, .float b => a == b
  | .str a, .str b => a == b
  | .seq as, .seq bs => identicalItems as bs
  | .map as, .map bs => identicalEntries as bs
  | .tagged s a, .tagged t b => s == t && identical a b
  | _, _ => false

/-- Whether two sequences are equal, item by item. -/
def identicalItems : List Value → List Value → Bool
  | [], [] => true
  | a :: as, b :: bs => identical a b && identicalItems as bs
  | _, _ => false

/-- Whether two mappings are equal, entry by entry. -/
def identicalEntries : List (Value × Value) → List (Value × Value) → Bool
  | [], [] => true
  | (k, v) :: as, (l, w) :: bs => identical k l && identical v w && identicalEntries as bs
  | _, _ => false

end

mutual

theorem identical_iff : (a b : Value) → (identical a b = true ↔ a = b)
  | .null, b => by cases b <;> simp [identical]
  | .bool _, b => by cases b <;> simp [identical]
  | .int _, b => by cases b <;> simp [identical]
  | .float _, b => by cases b <;> simp [identical]
  | .str _, b => by cases b <;> simp [identical]
  | .seq as, b => by cases b <;> simp [identical, identicalItems_iff as]
  | .map as, b => by cases b <;> simp [identical, identicalEntries_iff as]
  | .tagged _ a, b => by cases b <;> simp [identical, identical_iff a]

theorem identicalItems_iff : (as bs : List Value) → (identicalItems as bs = true ↔ as = bs)
  | [], bs => by cases bs <;> simp [identicalItems]
  | a :: as, bs => by
    cases bs <;> simp [identicalItems, identical_iff a, identicalItems_iff as]

theorem identicalEntries_iff :
    (as bs : List (Value × Value)) → (identicalEntries as bs = true ↔ as = bs)
  | [], bs => by cases bs <;> simp [identicalEntries]
  | (k, v) :: as, bs => by
    cases bs <;>
      simp [identicalEntries, identical_iff k, identical_iff v, identicalEntries_iff as,
        Prod.ext_iff]

end

instance : DecidableEq Value :=
  fun a b => decidable_of_iff _ (identical_iff a b)

end Value

deriving instance DecidableEq for HostRecord

end AgentFleet
