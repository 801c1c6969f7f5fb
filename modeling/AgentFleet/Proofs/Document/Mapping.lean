import AgentFleet.Document.Value

/-!
# Mappings

Setting a field keeps the keys of a mapping different from each other, and so
does leaving a field out. In a mapping with different keys, leaving fields out is
the same as filtering by key, so that the other fields stay unchanged and in
order. A field that is set is the one that is looked up, and setting a field
commutes with leaving others out. A field with a new key goes to the end, and
leaving it out again gives the mapping back.
-/

namespace AgentFleet

/-! ### Text keys -/

namespace Value

/-- Whether a value is a given text without a tag. -/
def isText (name : String) : Value → Bool
  | .str s => s == name
  | _ => false

theorem isText_iff {name : String} {v : Value} : v.isText name = true ↔ v = .str name := by
  cases v <;> simp [isText]

/-- A key is the same as a text key when it is that text. -/
theorem same_str (v : Value) (name : String) : v.same (.str name) = v.isText name := by
  cases v <;> simp [same, isText]

theorem str_same (name : String) (v : Value) : (Value.str name).same v = v.isText name := by
  cases v <;> simp [same, isText, Bool.beq_comm]

/-- Values that are the same key are the same text, or neither is a text. -/
theorem isText_eq_of_same {v w : Value} (h : v.same w = true) (name : String) :
    v.isText name = w.isText name := by
  cases v with
  | str s => rw [isText_iff.mp ((str_same s w).symm.trans h)]
  | _ => cases w with
    | str s => simp [same] at h
    | _ => rfl

end Value

namespace Mapping

/-! ### Looking a field up -/

theorem get?_cons (e : Value × Value) (m : Mapping) (name : String) :
    Mapping.get? (e :: m) name = if e.1.isText name then some e.2 else m.get? name := by
  obtain ⟨k, v⟩ := e
  cases k <;> simp [get?, Value.isText]

theorem get?_append (m n : Mapping) (name : String) :
    Mapping.get? (m ++ n) name = (m.get? name).or (n.get? name) := by
  induction m with
  | nil => rfl
  | cons e m ih =>
    rw [List.cons_append, get?_cons, get?_cons, ih]
    split <;> rfl

theorem get?_eq_none_iff {m : Mapping} {name : String} :
    m.get? name = none ↔ ∀ e ∈ m, e.1.isText name = false := by
  induction m with
  | nil => simp [get?]
  | cons e m ih =>
    rw [get?_cons, List.forall_mem_cons, ← ih]
    cases e.1.isText name <;> simp

theorem mem_of_get?_eq_some {m : Mapping} {name : String} {v : Value} (h : m.get? name = some v) :
    (.str name, v) ∈ m := by
  induction m with
  | nil => cases h
  | cons e m ih =>
    rw [get?_cons] at h
    cases he : e.1.isText name with
    | true =>
      rw [he, if_pos rfl] at h
      obtain rfl := Option.some.inj h
      rw [← Value.isText_iff.mp he]
      exact List.mem_cons_self
    | false =>
      rw [he, if_neg Bool.false_ne_true] at h
      exact List.mem_cons_of_mem _ (ih h)

/-- In a mapping without repeated keys, a field has the value that stands with its key. -/
theorem get?_eq_some_iff {m : Mapping} (h : m.Distinct) {name : String} {v : Value} :
    m.get? name = some v ↔ (.str name, v) ∈ m := by
  refine ⟨mem_of_get?_eq_some, fun hmem => ?_⟩
  induction m with
  | nil => cases hmem
  | cons e m ih =>
    obtain ⟨he, hm⟩ := List.pairwise_cons.mp h
    rw [get?_cons]
    rcases List.mem_cons.mp hmem with rfl | hmem
    · simp [Value.isText]
    · have hne : e.1.isText name = false := (Value.same_str e.1 name).symm.trans (he _ hmem)
      rw [hne, if_neg Bool.false_ne_true]
      exact ih hm hmem

/-- Fields that are kept or left out by their keys are looked up as before or not at all. -/
theorem get?_filter (m : Mapping) (kept : Value → Bool) (name : String) :
    Mapping.get? (m.filter fun e => kept e.1) name =
      if kept (.str name) then m.get? name else none := by
  induction m with
  | nil => simp [get?]
  | cons e m ih =>
    rw [List.filter_cons, get?_cons]
    by_cases hname : e.1.isText name = true
    · have hkey := Value.isText_iff.mp hname
      by_cases hkept : kept (.str name) = true
      · simp [hkey, hkept, get?_cons, Value.isText]
      · simp [hkey, hkept, ih]
    · by_cases hkept : kept e.1 = true
      · simp [hkept, get?_cons, hname, ih]
      · simp [hkept, hname, ih]

/-! ### Setting fields -/

theorem mem_keys_insert {m : Mapping} {k v : Value} {e : Value × Value} (h : e ∈ m.insert k v) :
    e.1 = k ∨ ∃ a ∈ m, a.1 = e.1 := by
  induction m with
  | nil =>
    rw [insert, List.mem_singleton] at h
    exact Or.inl (by rw [h])
  | cons a m ih =>
    rw [insert] at h
    split at h
    · rcases List.mem_cons.mp h with rfl | h
      · exact Or.inr ⟨a, List.mem_cons_self, rfl⟩
      · exact Or.inr ⟨e, List.mem_cons_of_mem _ h, rfl⟩
    · rcases List.mem_cons.mp h with rfl | h
      · exact Or.inr ⟨_, List.mem_cons_self, rfl⟩
      · rcases ih h with h | ⟨b, hb, he⟩
        · exact Or.inl h
        · exact Or.inr ⟨b, List.mem_cons_of_mem _ hb, he⟩

/-- Setting a field keeps the keys different. -/
theorem Distinct.insert {m : Mapping} (h : m.Distinct) (k v : Value) :
    (m.insert k v).Distinct := by
  induction m with
  | nil => exact List.pairwise_singleton _ _
  | cons a m ih =>
    obtain ⟨ha, hm⟩ := List.pairwise_cons.mp h
    rw [Mapping.insert]
    split
    case isTrue hs => exact List.pairwise_cons.mpr ⟨ha, hm⟩
    case isFalse hs =>
      refine List.pairwise_cons.mpr ⟨fun e he => ?_, ih hm⟩
      rcases mem_keys_insert he with hk | ⟨b, hb, hk⟩
      · rw [hk]
        simpa using hs
      · rw [← hk]
        exact ha b hb

theorem Distinct.insertAll {m : Mapping} (h : m.Distinct) (fields : Mapping) :
    (m.insertAll fields).Distinct := by
  unfold Mapping.insertAll
  induction fields generalizing m with
  | nil => exact h
  | cons e fields ih => exact ih (h.insert e.1 e.2)

/-- A text key is looked up where it has been set. -/
theorem get?_insert (m : Mapping) (k v : Value) (name : String) :
    (m.insert k v).get? name = if k.isText name then some v else m.get? name := by
  induction m with
  | nil => rw [insert, get?_cons]
  | cons a m ih =>
    rw [insert, get?_cons a m]
    split
    case isTrue hs =>
      rw [get?_cons, Value.isText_eq_of_same hs]
      cases k.isText name <;> rfl
    case isFalse hs =>
      rw [get?_cons, ih]
      cases ha : a.1.isText name with
      | false => rfl
      | true =>
        -- the key of `a` is the text `name`, so `k` is another one
        rw [Value.isText_iff.mp ha, Value.str_same, Bool.not_eq_true] at hs
        rw [hs]
        rfl

theorem get?_eq_none_of_fresh {m : Mapping} {name : String}
    (h : ∀ e ∈ m, (Value.str name).same e.1 = false) : m.get? name = none :=
  get?_eq_none_iff.mpr fun e he => (Value.str_same name e.1).symm.trans (h e he)

/-- A field that is set stands for the one of the mapping. -/
theorem get?_insertAll (m : Mapping) {fields : Mapping} (h : fields.Distinct) (name : String) :
    (m.insertAll fields).get? name = (fields.get? name).or (m.get? name) := by
  induction fields generalizing m with
  | nil => rfl
  | cons a fields ih =>
    obtain ⟨ha, hfields⟩ := List.pairwise_cons.mp h
    have hcons : m.insertAll (a :: fields) = (m.insert a.1 a.2).insertAll fields := rfl
    rw [hcons, ih (m.insert a.1 a.2) hfields, get?_insert, get?_cons]
    cases hk : a.1.isText name with
    | false => rfl
    | true =>
      rw [get?_eq_none_of_fresh fun e he => Value.isText_iff.mp hk ▸ ha e he]
      rfl

theorem insert_of_fresh {m : Mapping} {k : Value} (h : ∀ e ∈ m, e.1.same k = false) (v : Value) :
    m.insert k v = m ++ [(k, v)] := by
  induction m with
  | nil => rfl
  | cons a m ih =>
    obtain ⟨ha, hm⟩ := List.forall_mem_cons.mp h
    rw [insert, ha, ih hm]
    rfl

/-- Fields with new keys are appended. -/
theorem insertAll_of_distinct {m fields : Mapping} (h : Mapping.Distinct (m ++ fields)) :
    m.insertAll fields = m ++ fields := by
  induction fields generalizing m with
  | nil => rw [List.append_nil]; rfl
  | cons a fields ih =>
    have hfresh : ∀ e ∈ m, e.1.same a.1 = false := fun e he =>
      (List.pairwise_append.mp h).2.2 e he a List.mem_cons_self
    have hcons : m.insertAll (a :: fields) = (m.insert a.1 a.2).insertAll fields := rfl
    have happend : m ++ a :: fields = (m ++ [a]) ++ fields := by simp
    rw [hcons, insert_of_fresh hfresh, ih (happend ▸ h), happend]

/-! ### Leaving fields out -/

theorem erase_cons (e : Value × Value) (m : Mapping) (name : String) :
    Mapping.erase (e :: m) name = if e.1.isText name then m else e :: m.erase name := by
  obtain ⟨k, v⟩ := e
  cases k <;> simp [erase, Value.isText]

/-- Without one field the others have the values that they had. -/
theorem get?_erase_of_ne {name other : String} (h : name ≠ other) (m : Mapping) :
    (m.erase name).get? other = m.get? other := by
  induction m with
  | nil => rfl
  | cons e m ih =>
    rw [erase_cons, get?_cons]
    cases hname : e.1.isText name with
    | false => rw [if_neg Bool.false_ne_true, get?_cons, ih]
    | true =>
      have hother : e.1.isText other = false := by
        rw [Value.isText_iff.mp hname]
        simpa [Value.isText] using h
      rw [hother, if_pos rfl, if_neg Bool.false_ne_true]

theorem get?_foldl_erase {names : List String} {other : String} (h : other ∉ names) (m : Mapping) :
    (names.foldl Mapping.erase m).get? other = m.get? other := by
  induction names generalizing m with
  | nil => rfl
  | cons name names ih =>
    obtain ⟨hname, hnames⟩ := not_or.mp (mt List.mem_cons.mpr h)
    rw [List.foldl_cons, ih hnames, get?_erase_of_ne (Ne.symm hname)]

/-- Without one field the others are left, unchanged and in order. -/
theorem erase_eq_filter {m : Mapping} (h : m.Distinct) (name : String) :
    m.erase name = m.filter fun e => !e.1.isText name := by
  induction m with
  | nil => rfl
  | cons a m ih =>
    obtain ⟨ha, hm⟩ := List.pairwise_cons.mp h
    obtain ⟨k, v⟩ := a
    rw [erase_cons, List.filter_cons]
    cases hk : k.isText name with
    | false => simp [ih hm]
    | true =>
      -- no other key is this text, so that the filter keeps all the rest
      have hrest : ∀ e ∈ m, (!e.1.isText name) = true := fun e he => by
        have hne : k.same e.1 = false := ha e he
        rw [Value.isText_iff.mp hk, Value.str_same] at hne
        rw [hne, Bool.not_false]
      simp [List.filter_eq_self.mpr hrest]

/-- A mapping without several fields. -/
theorem foldl_erase_eq_filter {m : Mapping} (h : m.Distinct) (names : List String) :
    names.foldl Mapping.erase m = m.filter fun e => !names.any fun name => e.1.isText name := by
  induction names generalizing m with
  | nil => exact (List.filter_eq_self.mpr fun _ _ => rfl).symm
  | cons name names ih =>
    rw [List.foldl_cons, erase_eq_filter h, ih (List.Pairwise.filter _ h), List.filter_filter]
    refine List.filter_congr fun e _ => ?_
    rw [List.any_cons, Bool.not_or, Bool.and_comm]

/-- An entry whose key is none of some names. -/
def isOutside (names : List String) (e : Value × Value) : Bool :=
  !names.any fun name => e.1.isText name

theorem isOutside_eq_of_same (names : List String) {a b : Value × Value} (h : a.1.same b.1 = true) :
    isOutside names a = isOutside names b := by
  simp only [isOutside, Value.isText_eq_of_same h]

/-- Setting a field and leaving fields out can be done in either order. -/
theorem filter_insert (m : Mapping) (names : List String) (k v : Value) :
    (m.insert k v).filter (isOutside names) =
      if isOutside names (k, v) then Mapping.insert (m.filter (isOutside names)) k v
      else m.filter (isOutside names) := by
  induction m with
  | nil =>
    rw [insert, List.filter_cons, List.filter_nil]
    rfl
  | cons a m ih =>
    rw [insert]
    split
    case isTrue hs =>
      have ha : isOutside names (a.1, v) = isOutside names (k, v) := isOutside_eq_of_same names hs
      have ha' : isOutside names a = isOutside names (k, v) := isOutside_eq_of_same names hs
      rw [List.filter_cons, List.filter_cons, ha, ha']
      cases isOutside names (k, v) with
      | false => rfl
      | true => simp only [if_true]; rw [insert, if_pos hs]
    case isFalse hs =>
      rw [List.filter_cons, ih, List.filter_cons]
      cases isOutside names a with
      | false => rfl
      | true =>
        cases isOutside names (k, v) with
        | false => rfl
        | true => simp only [if_true]; rw [insert, if_neg hs]

theorem filter_insertAll (m fields : Mapping) (names : List String) :
    (m.insertAll fields).filter (isOutside names) =
      Mapping.insertAll (m.filter (isOutside names)) (fields.filter (isOutside names)) := by
  induction fields generalizing m with
  | nil => rfl
  | cons a fields ih =>
    have hcons : m.insertAll (a :: fields) = (m.insert a.1 a.2).insertAll fields := rfl
    rw [hcons, ih, filter_insert, List.filter_cons]
    cases isOutside names (a.1, a.2) <;> rfl

/-! ### A field that is new -/

theorem get?_cons_eq_none_iff {e : Value × Value} {m : Mapping} {name : String} :
    Mapping.get? (e :: m) name = none ↔ e.1.isText name = false ∧ m.get? name = none := by
  rw [get?_cons]
  cases e.1.isText name <;> simp

/-- A text key that a mapping does not have is added at its end. -/
theorem insert_of_get?_eq_none {m : Mapping} {name : String} (h : m.get? name = none) (v : Value) :
    m.insert (.str name) v = m ++ [(.str name, v)] :=
  insert_of_fresh (fun e he => (Value.same_str e.1 name).trans (get?_eq_none_iff.mp h e he)) v

theorem get?_insertAll_of_get?_eq_none (m : Mapping) {fields : Mapping} {name : String}
    (h : fields.get? name = none) : (m.insertAll fields).get? name = m.get? name := by
  induction fields generalizing m with
  | nil => rfl
  | cons e fields ih =>
    obtain ⟨he, hfields⟩ := get?_cons_eq_none_iff.mp h
    have hcons : m.insertAll (e :: fields) = (m.insert e.1 e.2).insertAll fields := rfl
    rw [hcons, ih _ hfields, get?_insert, he, if_neg Bool.false_ne_true]

theorem erase_of_get?_eq_none {m : Mapping} {name : String} (h : m.get? name = none) :
    m.erase name = m := by
  induction m with
  | nil => rfl
  | cons e m ih =>
    obtain ⟨he, hm⟩ := get?_cons_eq_none_iff.mp h
    rw [erase_cons, he, if_neg Bool.false_ne_true, ih hm]

theorem get?_erase_eq_none {m : Mapping} {name : String} (h : m.get? name = none) (other : String) :
    (m.erase other).get? name = none := by
  induction m with
  | nil => exact h
  | cons e m ih =>
    obtain ⟨he, hm⟩ := get?_cons_eq_none_iff.mp h
    rw [erase_cons]
    split
    · exact hm
    · exact get?_cons_eq_none_iff.mpr ⟨he, ih hm⟩

theorem erase_append_self {m : Mapping} {name : String} (h : m.get? name = none) (v : Value) :
    Mapping.erase (m ++ [(.str name, v)]) name = m := by
  induction m with
  | nil => simp [erase]
  | cons e m ih =>
    obtain ⟨he, hm⟩ := get?_cons_eq_none_iff.mp h
    rw [List.cons_append, erase_cons, he, if_neg Bool.false_ne_true, ih hm]

theorem erase_append_of_ne {name other : String} (h : name ≠ other) (m : Mapping) (v : Value) :
    Mapping.erase (m ++ [(.str name, v)]) other = m.erase other ++ [(.str name, v)] := by
  induction m with
  | nil => simp [erase, h]
  | cons e m ih =>
    rw [List.cons_append, erase_cons, erase_cons, ih]
    split <;> rfl

/-- A new field that is left out again with others has never been there. -/
theorem foldl_erase_append {m : Mapping} {name : String} {names : List String}
    (h : m.get? name = none) (hname : name ∈ names) (v : Value) :
    names.foldl Mapping.erase (m ++ [(.str name, v)]) = names.foldl Mapping.erase m := by
  induction names generalizing m with
  | nil => cases hname
  | cons other names ih =>
    rw [List.foldl_cons, List.foldl_cons]
    by_cases heq : name = other
    · rw [← heq, erase_append_self h, erase_of_get?_eq_none h]
    · rw [erase_append_of_ne heq]
      exact ih (get?_erase_eq_none h other) ((List.mem_cons.mp hname).resolve_left heq)

end Mapping

end AgentFleet
