import AgentFleet.Inventory.Normalize
import AgentFleet.Proofs.Checked

/-!
# What normalization yields

The text of a known field is that of a scalar, through tags, and is never empty.
Normalization succeeds when the address has a text and no known field is a
sequence or a mapping, and then every field of the record is determined by the
texts of the entry and the defaults (`normalize_eq_ok_iff`). It fails with
nothing but a validation error (`normalize_failsOnlyWith`).
-/

namespace AgentFleet

open Checked

/-! ### Texts of scalars -/

theorem layout_ne_empty (plus : String) (digits : Nat) (power : Int) :
    Binary64.layout plus digits power ≠ "" := by
  unfold Binary64.layout
  dsimp only
  repeat' split
  all_goals simp

theorem text_ne_empty (x : Binary64) : x.text ≠ "" := by
  unfold Binary64.text Binary64.textWith
  cases x with
  | nan => decide
  | infinite negative => cases negative <;> decide
  | finite negative m q =>
    dsimp only
    split
    · simp
    · simp [layout_ne_empty]

theorem toString_int_ne_empty (n : Int) : toString n ≠ "" := by
  cases n with
  | ofNat n => exact Nat.repr_ne_empty
  | negSucc n =>
    show "-" ++ Nat.repr (n + 1) ≠ ""
    simp

/-- The text of a scalar is not empty. -/
theorem scalarText_ne_empty {v : Value} {s : String} (h : v.scalarText = some s) : s ≠ "" := by
  fun_induction Value.scalarText v with
  | case1 s' he => cases h
  | case2 s' he =>
    obtain rfl := Option.some.inj h
    simpa using he
  | case3 n =>
    obtain rfl := Option.some.inj h
    exact toString_int_ne_empty n
  | case4 x =>
    obtain rfl := Option.some.inj h
    exact text_ne_empty x
  | case5 b =>
    obtain rfl := Option.some.inj h
    cases b <;> decide
  | case6 tag v ih => exact ih h
  | case7 v => cases h

/-- A value without a text: null, an empty text, a sequence or a mapping, through tags. -/
def Value.Textless (v : Value) : Prop :=
  v.untagged = .null ∨ v.untagged = .str "" ∨ (∃ items, v.untagged = .seq items) ∨
    ∃ entries, v.untagged = .map entries

theorem scalarText_eq_none_iff {v : Value} : v.scalarText = none ↔ v.Textless := by
  unfold Value.Textless
  fun_induction Value.scalarText v with
  | case1 s he => simp [Value.untagged, String.isEmpty_iff.mp he]
  | case2 s he => simpa [Value.untagged] using he
  | case3 n => simp [Value.untagged]
  | case4 x => simp [Value.untagged]
  | case5 b => simp [Value.untagged]
  | case6 tag v ih => exact ih
  | case7 v => cases v <;> simp_all [Value.untagged]

/-! ### Known fields -/

/-- The names of the known fields in the order in which they are read. -/
def FieldNames.all (f : FieldNames) : List String :=
  [f.publicIp, f.privateIp, f.sshUser, f.sshOptions, f.agentPort, f.groupname, f.connection]

/-- Whether a value is a sequence or a mapping without a tag. -/
def Value.isCollection : Value → Bool
  | .seq _ | .map _ => true
  | _ => false

theorem isCollection_eq_false_of_scalarText {v : Value} {s : String} (h : v.scalarText = some s) :
    v.isCollection = false := by
  cases v with
  | seq items => cases h
  | map entries => cases h
  | _ => rfl

namespace Mapping

/-- The text of a field, if it is a scalar that has one. -/
def text? (m : Mapping) (name : String) : Option String :=
  (m.get? name).bind Value.scalarText

/-- Whether a field is a sequence or a mapping. -/
def holdsCollection (m : Mapping) (name : String) : Bool :=
  (m.get? name).any Value.isCollection

theorem text?_ne_empty {m : Mapping} {name s : String} (h : m.text? name = some s) : s ≠ "" := by
  obtain ⟨v, -, hv⟩ := Option.bind_eq_some_iff.mp h
  exact scalarText_ne_empty hv

/-- A field with a text is no collection. -/
theorem holdsCollection_eq_false_of_text? {m : Mapping} {name s : String}
    (h : m.text? name = some s) : m.holdsCollection name = false := by
  obtain ⟨v, hfield, hv⟩ := Option.bind_eq_some_iff.mp h
  rw [holdsCollection, hfield, Option.any_some, isCollection_eq_false_of_scalarText hv]

/-- The text that a field gives; it may be absent. -/
inductive Gives (m : Mapping) (name : String) : Option String → Prop
  /-- The field is missing. -/
  | missing : m.get? name = none → Gives m name none
  /-- The field has no text. -/
  | textless {v : Value} : m.get? name = some v → v.Textless → Gives m name none
  /-- The field is a scalar with a text. -/
  | text {v : Value} {s : String} : m.get? name = some v → v.scalarText = some s → s ≠ "" →
      Gives m name (some s)

theorem gives_text? (m : Mapping) (name : String) : m.Gives name (m.text? name) := by
  unfold text?
  cases hfield : m.get? name with
  | none => exact .missing hfield
  | some v =>
    rw [Option.bind_some]
    cases htext : v.scalarText with
    | none => exact .textless hfield (scalarText_eq_none_iff.mp htext)
    | some s => exact .text hfield htext (scalarText_ne_empty htext)

theorem Gives.eq_text? {m : Mapping} {name : String} {t : Option String} (h : m.Gives name t) :
    t = m.text? name := by
  unfold text?
  cases h with
  | missing hfield => rw [hfield, Option.bind_none]
  | textless hfield htextless =>
    rw [hfield, Option.bind_some, scalarText_eq_none_iff.mpr htextless]
  | text hfield htext => rw [hfield, Option.bind_some, htext]

/-- The text of a known field is read unless the field is a collection. -/
theorem fieldText_eq_ok_iff {m : Mapping} {name : String} {t : Option String} :
    m.fieldText name = .ok t ↔ m.holdsCollection name = false ∧ m.text? name = t := by
  unfold fieldText holdsCollection text?
  cases m.get? name with
  | none => simp
  | some v => cases v <;> simp [Value.isCollection, Value.scalarText]

theorem fieldText_of_text? {m : Mapping} {name s : String} (h : m.text? name = some s) :
    m.fieldText name = .ok (some s) :=
  fieldText_eq_ok_iff.mpr ⟨holdsCollection_eq_false_of_text? h, h⟩

theorem fieldText_failsOnlyWith (m : Mapping) (name : String) :
    FailsOnlyWith (fun e => ∃ text, e = .validation text) (m.fieldText name) := by
  intro e h
  unfold fieldText at h
  split at h
  · cases h
  · cases h
  · exact ⟨_, (Except.error.inj h).symm⟩
  · exact ⟨_, (Except.error.inj h).symm⟩
  · cases h

end Mapping

/-! ### Records -/

/-- The record of an entry whose known fields can all be read. -/
def HostRecord.ofEntry (raw : Mapping) (d : HostDefaults) : HostRecord :=
  { publicIp := (raw.text? field.publicIp).getD ""
    privateIp := raw.text? field.privateIp
    sshUser := (raw.text? field.sshUser).getD d.sshUser
    sshOptions := (raw.text? field.sshOptions).getD d.sshOptions
    agentPort := (raw.text? field.agentPort).getD d.agentPort
    groupname := raw.text? field.groupname
    connection := Connection.ofField (raw.text? field.connection)
    extra := raw.withoutKnown }

theorem normalize_eq_ok_iff {raw : Mapping} {d : HostDefaults} {r : HostRecord} :
    normalize raw d = .ok r ↔
      (∃ ip, raw.text? field.publicIp = some ip) ∧
        (∀ name ∈ field.all, raw.holdsCollection name = false) ∧ HostRecord.ofEntry raw d = r := by
  unfold normalize
  cases hip : (raw.get? field.publicIp).bind Value.scalarText with
  | none => simp [Mapping.text?, hip]
  | some ip =>
    have hex : ∃ ip, raw.text? field.publicIp = some ip := ⟨ip, hip⟩
    simp only [bind_eq_ok_iff, Mapping.fieldText_eq_ok_iff, pure_eq_ok_iff, and_assoc,
      exists_and_left, exists_eq_left', hex, true_and, FieldNames.all, List.forall_mem_cons,
      List.not_mem_nil, false_imp_iff, implies_true, HostRecord.ofEntry]

/-- Every error of normalization is a validation error. -/
theorem normalize_failsOnlyWith (raw : Mapping) (d : HostDefaults) :
    FailsOnlyWith (fun e => ∃ text, e = .validation text) (normalize raw d) := by
  unfold normalize
  split
  · intro e h
    exact ⟨_, (Except.error.inj h).symm⟩
  · -- one step for each of the seven fields
    iterate 7 refine (Mapping.fieldText_failsOnlyWith raw _).bind fun _ => ?_
    exact FailsOnlyWith.ok _

/-- The address of a normalized record is not empty. -/
theorem publicIp_ne_empty_of_normalize {raw : Mapping} {d : HostDefaults} {r : HostRecord}
    (h : normalize raw d = .ok r) : r.publicIp ≠ "" := by
  obtain ⟨⟨ip, hip⟩, -, rfl⟩ := normalize_eq_ok_iff.mp h
  simpa [HostRecord.ofEntry, hip] using Mapping.text?_ne_empty hip

end AgentFleet
