import AgentFleet.Document.Reading
import AgentFleet.Proofs.Document.Mapping

/-!
# Well-formed values

In a well-formed value no mapping, however deep, has a key twice. Every value
that is read from a text is well-formed (`read?_wellFormed`), because a mapping
with a repeated key is refused where it is composed.
-/

namespace AgentFleet

/-- A value in which the keys of every mapping are pairwise different. -/
inductive Value.WellFormed : Value → Prop
  | null : WellFormed .null
  | bool (b : Bool) : WellFormed (.bool b)
  | int (n : Int) : WellFormed (.int n)
  | float (x : Binary64) : WellFormed (.float x)
  | str (s : String) : WellFormed (.str s)
  | seq {items : List Value} : (∀ v ∈ items, WellFormed v) → WellFormed (.seq items)
  | map {entries : Mapping} : entries.Distinct → (∀ e ∈ entries, WellFormed e.1) →
      (∀ e ∈ entries, WellFormed e.2) → WellFormed (.map entries)
  | tagged (tag : String) {v : Value} : WellFormed v → WellFormed (.tagged tag v)

namespace Value.WellFormed

/-! ### Parts of a value -/

theorem items {items : List Value} (h : (Value.seq items).WellFormed) :
    ∀ v ∈ items, v.WellFormed := by
  cases h with
  | seq h => exact h

theorem distinct {entries : Mapping} (h : (Value.map entries).WellFormed) : entries.Distinct := by
  cases h with
  | map hd _ _ => exact hd

theorem of_mem {entries : Mapping} {e : Value × Value} (h : (Value.map entries).WellFormed)
    (he : e ∈ entries) : e.2.WellFormed := by
  cases h with
  | map _ _ hv => exact hv e he

theorem untagged {v : Value} (h : v.WellFormed) : v.untagged.WellFormed := by
  induction h with
  | null => exact null
  | bool b => exact bool b
  | int n => exact int n
  | float x => exact float x
  | str s => exact str s
  | seq hi _ => exact seq hi
  | map hd hk hv _ _ => exact map hd hk hv
  | tagged tag _ ih => exact ih

theorem asMapping? {v : Value} {m : Mapping} (h : v.WellFormed) (hm : v.asMapping? = some m) :
    (Value.map m).WellFormed := by
  unfold Value.asMapping? at hm
  have hu := h.untagged
  split at hm
  case h_1 entries he =>
    obtain rfl := Option.some.inj hm
    rwa [he] at hu
  case h_2 => cases hm

theorem mapping_get? {m : Mapping} {name : String} {v : Value} (h : (Value.map m).WellFormed)
    (hv : m.get? name = some v) : v.WellFormed :=
  h.of_mem (Mapping.mem_of_get?_eq_some hv)

theorem get? {v w : Value} {name : String} (h : v.WellFormed) (hw : v.get? name = some w) :
    w.WellFormed := by
  unfold Value.get? at hw
  split at hw
  case h_1 entries he => exact (h.asMapping? he).mapping_get? hw
  case h_2 => cases hw

end Value.WellFormed

/-! ### Composed values -/

namespace Document

/-- Every result of a composer has a property. -/
def Yields {α : Type} (P : α → Prop) (c : Composer α) : Prop :=
  ∀ n a n', c.run n = some (a, n') → P a

section

variable {α β : Type} {P : α → Prop} {Q : β → Prop}

theorem Yields.bind {c : Composer α} {f : α → Composer β} (hc : Yields P c)
    (hf : ∀ a, P a → Yields Q (f a)) : Yields Q (c >>= f) := by
  intro n b n' h
  rw [StateT.run_bind] at h
  obtain ⟨⟨a, m⟩, ha, hb⟩ := Option.bind_eq_some_iff.mp h
  exact hf a (hc n a m ha) m b n' hb

theorem Yields.pure {a : α} (h : P a) : Yields P (pure a : Composer α) := by
  intro n b n' hb
  obtain ⟨rfl, -⟩ := Prod.mk.inj (Option.some.inj hb)
  exact h

theorem Yields.failure : Yields P (failure : Composer α) := by
  rintro n b n' ⟨⟩

theorem Yields.lift {x : Option α} (h : ∀ a, x = some a → P a) :
    Yields P (StateT.lift x : Composer α) := by
  intro n b n' hb
  rw [StateT.run_lift] at hb
  obtain ⟨a, ha, hb⟩ := Option.bind_eq_some_iff.mp hb
  obtain ⟨rfl, -⟩ := Prod.mk.inj (Option.some.inj hb)
  exact h a ha

theorem Yields.trivial (c : Composer α) : Yields (fun _ => True) c :=
  fun _ _ _ _ => True.intro

/-- Items composed one after the other all have what each of them has. -/
theorem Yields.mapM {f : α → Composer β} (hf : ∀ a, Yields Q (f a)) (xs : List α) :
    Yields (fun ys => ∀ y ∈ ys, Q y) (xs.mapM f) := by
  induction xs with
  | nil => exact Yields.pure (by simp)
  | cons x xs ih =>
    rw [List.mapM_cons]
    exact (hf x).bind fun y hy => ih.bind fun ys hys =>
      Yields.pure (List.forall_mem_cons.mpr ⟨hy, hys⟩)

end

theorem distinct_of_hasRepeatedKey {m : Mapping} (h : hasRepeatedKey m = false) : m.Distinct := by
  induction m with
  | nil => exact List.Pairwise.nil
  | cons e m ih =>
    simp only [hasRepeatedKey, Mapping.hasKey, Bool.or_eq_false_iff, List.any_eq_false] at h
    exact List.pairwise_cons.mpr ⟨fun a ha => by simpa using h.1 a ha, ih h.2⟩

theorem withTag_wellFormed (tag : Option String) {v : Value} (h : v.WellFormed) :
    (withTag tag v).WellFormed := by
  unfold withTag
  split
  · exact .tagged _ h
  · exact h

theorem resolve?_wellFormed {s : String} {v : Value} (h : Scalar.resolve? s = some v) :
    v.WellFormed := by
  unfold Scalar.resolve? at h
  split at h
  · exact Option.some.inj h ▸ .null
  · split at h
    · exact Option.some.inj h ▸ .bool _
    · split at h
      · split at h
        · exact Option.some.inj h ▸ .int _
        · cases h
      · split at h
        · exact Option.some.inj h ▸ .float _
        · exact Option.some.inj h ▸ .str _

theorem scalarOfKind?_wellFormed {kind text : String} {v : Value}
    (h : scalarOfKind? kind text = some v) : v.WellFormed := by
  unfold scalarOfKind? at h
  split at h
  · obtain ⟨b, -, rfl⟩ := Option.map_eq_some_iff.mp h
    exact .bool b
  · split at h
    · obtain ⟨n, -, rfl⟩ := Option.map_eq_some_iff.mp h
      exact .int n
    · split at h
      · obtain ⟨x, -, rfl⟩ := Option.map_eq_some_iff.mp h
        exact .float x
      · split at h
        · split at h
          · exact Option.some.inj h ▸ .null
          · cases h
        · exact Option.some.inj h ▸ .str _

/-- A scalar without quotes or with them. -/
theorem textValue_wellFormed {text : String} {plain : Bool} {v : Value}
    (h : (if plain then Scalar.resolve? text else some (.str text)) = some v) : v.WellFormed := by
  split at h
  · exact resolve?_wellFormed h
  · exact Option.some.inj h ▸ .str _

theorem scalarValue?_wellFormed {tag : Option String} {text : String} {plain : Bool} {v : Value}
    (h : scalarValue? tag text plain = some v) : v.WellFormed := by
  unfold scalarValue? at h
  split at h
  · exact textValue_wellFormed h
  · split at h
    · obtain ⟨w, hw, rfl⟩ := Option.map_eq_some_iff.mp h
      exact .tagged _ (textValue_wellFormed hw)
    · exact scalarOfKind?_wellFormed h

theorem compose_wellFormed (r : References) (depth : Nat) (node : Node) :
    Yields Value.WellFormed (compose r depth node) := by
  induction depth generalizing node with
  | zero =>
    unfold compose
    refine (Yields.trivial _).bind fun n _ => ?_
    split
    · exact Yields.lift fun _ => scalarValue?_wellFormed
    · exact Yields.failure
  | succ depth ih =>
    unfold compose
    refine (Yields.trivial _).bind fun n _ => ?_
    split
    case h_1 => exact Yields.lift fun _ => scalarValue?_wellFormed
    case h_2 tag items =>
      exact (Yields.mapM ih items).bind fun values hv =>
        Yields.pure (withTag_wellFormed tag (.seq hv))
    case h_3 tag entries =>
      have hentry : ∀ e : Node × Node, Yields (fun p : Value × Value => p.1.WellFormed ∧ p.2.WellFormed)
          (do
            let key ← compose r depth e.1
            let value ← compose r depth e.2
            return (key, value)) := fun e =>
        (ih e.1).bind fun k hk => (ih e.2).bind fun v hv => Yields.pure ⟨hk, hv⟩
      refine (Yields.mapM hentry entries).bind fun es hes => ?_
      split
      · exact Yields.failure
      · rename_i hrep
        exact Yields.pure (withTag_wellFormed tag (.map (distinct_of_hasRepeatedKey (by simpa using hrep))
          (fun e he => (hes e he).1) fun e he => (hes e he).2))
    case h_4 => exact Yields.failure
    case h_5 => exact Yields.failure

/-- A value that is read from a text is well-formed. -/
theorem read?_wellFormed {s : String} {v : Value} (h : read? s = some v) : v.WellFormed := by
  unfold read? at h
  split at h
  · cases h
  · obtain ⟨⟨w, n⟩, hw, rfl⟩ := Option.map_eq_some_iff.mp h
    exact compose_wellFormed _ _ _ 0 w n hw

end Document

end AgentFleet
