import AgentFleet.Proofs.Inventory.Acceptance
import AgentFleet.Proofs.Related

/-!
# Entries that are read alike

Normalization looks at the texts of the known fields, at whether one of them is a
collection, and at the other fields. Entries that agree in these are normalized
to the same record or are both refused, and then only the wording of the error
can differ, since it quotes the entry. Documents whose entries are alike one by
one are therefore the same inventory.
-/

namespace AgentFleet

open Checked

/-- Errors that differ at most in the wording of why an entry cannot be used. -/
inductive InventoryError.Alike : InventoryError → InventoryError → Prop
  | refl (e : InventoryError) : Alike e e
  | validation (t u : String) : Alike (.validation t) (.validation u)

namespace Mapping

/-- Entries between which normalization makes no difference. -/
structure Alike (a b : Mapping) : Prop where
  text : ∀ name ∈ field.all, a.text? name = b.text? name
  collection : ∀ name ∈ field.all, a.holdsCollection name = b.holdsCollection name
  extra : a.withoutKnown = b.withoutKnown

variable {a b : Mapping}

theorem Alike.ofEntry_eq (h : a.Alike b) (d : HostDefaults) :
    HostRecord.ofEntry a d = HostRecord.ofEntry b d := by
  have htext := h.text
  simp only [FieldNames.all, List.forall_mem_cons] at htext
  obtain ⟨h1, h2, h3, h4, h5, h6, h7, -⟩ := htext
  simp only [HostRecord.ofEntry, h1, h2, h3, h4, h5, h6, h7, h.extra]

theorem Alike.normalize_eq_ok_iff (h : a.Alike b) (d : HostDefaults) (r : HostRecord) :
    normalize a d = .ok r ↔ normalize b d = .ok r := by
  have hcollection : (∀ name ∈ field.all, a.holdsCollection name = false) ↔
      ∀ name ∈ field.all, b.holdsCollection name = false :=
    forall₂_congr fun name hname => by rw [h.collection name hname]
  rw [AgentFleet.normalize_eq_ok_iff, AgentFleet.normalize_eq_ok_iff, h.ofEntry_eq d, hcollection,
    h.text field.publicIp (by simp [FieldNames.all])]

/-- Entries that are alike give the same record or are both refused. -/
theorem Alike.related_normalize (h : a.Alike b) (d : HostDefaults) :
    Related InventoryError.Alike Eq (normalize a d) (normalize b d) := by
  cases ha : normalize a d with
  | ok r =>
    rw [(h.normalize_eq_ok_iff d r).mp ha]
    exact .ok rfl
  | error e =>
    cases hb : normalize b d with
    | ok r =>
      rw [(h.normalize_eq_ok_iff d r).mpr hb] at ha
      cases ha
    | error f =>
      obtain ⟨t, rfl⟩ := normalize_failsOnlyWith a d e ha
      obtain ⟨u, rfl⟩ := normalize_failsOnlyWith b d f hb
      exact .error (.validation t u)

end Mapping

/-- Documents whose entries are alike one by one are the same inventory. -/
theorem related_inventory {doc doc' : Value} {d : HostDefaults}
    (h : List.Forall₂ Mapping.Alike (Layout.rawEntries doc d) (Layout.rawEntries doc' d)) :
    Related InventoryError.Alike Eq (inventory doc d) (inventory doc' d) := by
  unfold inventory
  rw [Layout.firstEntries_all, Layout.firstEntries_all]
  refine (Related.mapM (h.imp fun _ _ ha => ha.related_normalize d)).bind fun rs rs' hrs => ?_
  obtain rfl : rs = rs' := List.forall₂_eq_eq_eq ▸ hrs
  exact Related.refl .refl (fun _ => rfl) _

end AgentFleet
