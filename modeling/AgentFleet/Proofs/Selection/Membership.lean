import AgentFleet.Proofs.Selection.Replay
import Mathlib.Data.List.Induction

/-!
# Which hosts a pattern selects

The last token that covers a host decides: an inclusion selects it and an
exclusion does not. A host that no token covers is selected by a pattern without
inclusions only. Records with one identity are covered by the same tokens, and of
them the first one of the inventory is selected. `mem_chosen_iff` states this for
any part of the tokens that has been replayed.
-/

namespace AgentFleet.HostPattern

open Selection

/-! ### The last token decides -/

/-- The last of some tokens that covers a host. -/
def lastMatch? (ts : List PatternToken) (r : HostRecord) : Option PatternToken :=
  (ts.filter fun t => t.matchesHost r).getLast?

/-- The host is selected by the last token that covers it, or else by the lack of inclusions. -/
def Admits (p : HostPattern) (r : HostRecord) : Prop :=
  (∃ t, lastMatch? p.tokens r = some t ∧ t.isInclude = true) ∨
    (∀ t ∈ p.tokens, t.matchesHost r = false) ∧ ∀ t ∈ p.tokens, t.isInclude = false

/-- Whether a host is selected after some tokens, when the replay began with every host or none. -/
def standing (seeded : Bool) (ts : List PatternToken) (r : HostRecord) : Bool :=
  ((lastMatch? ts r).map PatternToken.isInclude).getD seeded

theorem standing_nil (seeded : Bool) (r : HostRecord) : standing seeded [] r = seeded := rfl

theorem standing_concat (seeded : Bool) (ts : List PatternToken) (t : PatternToken)
    (r : HostRecord) :
    standing seeded (ts ++ [t]) r = if t.matchesHost r then t.isInclude else standing seeded ts r := by
  by_cases h : t.matchesHost r = true
  · simp [standing, lastMatch?, List.filter_append, h]
  · simp [standing, lastMatch?, List.filter_append, h]

theorem standing_congr (seeded : Bool) (ts : List PatternToken) {a b : HostRecord}
    (h : a.identity = b.identity) : standing seeded ts a = standing seeded ts b := by
  have hm : (fun t : PatternToken => t.matchesHost a) = fun t => t.matchesHost b :=
    funext fun t => t.matchesHost_congr h
  rw [standing, lastMatch?, hm, standing, lastMatch?]

theorem hasInclude_eq_false_iff (p : HostPattern) :
    p.hasInclude = false ↔ ∀ t ∈ p.tokens, t.isInclude = false := by
  simp [hasInclude]

theorem standing_iff_admits (p : HostPattern) (r : HostRecord) :
    standing (!p.hasInclude) p.tokens r = true ↔ p.Admits r := by
  unfold standing Admits
  cases hl : lastMatch? p.tokens r with
  | none =>
    have hno : ∀ t ∈ p.tokens, t.matchesHost r = false := by
      simpa [lastMatch?, List.filter_eq_nil_iff] using hl
    rw [← hasInclude_eq_false_iff, and_iff_right hno]
    simp
  | some t =>
    have ht : t ∈ p.tokens ∧ t.matchesHost r = true :=
      List.mem_filter.mp (List.mem_of_getLast? hl)
    simp only [Option.map_some, Option.getD_some, Option.some.injEq, exists_eq_left']
    constructor
    · exact Or.inl
    · rintro (h | ⟨hno, -⟩)
      · exact h
      · exact absurd ((hno t ht.1).symm.trans ht.2) Bool.false_ne_true

/-! ### The chosen records -/

/-- First records with one identity are one record. -/
theorem eq_of_mem_firsts {hosts : List HostRecord} {a b : HostRecord} (ha : a ∈ firsts hosts)
    (hb : b ∈ firsts hosts) (h : a.identity = b.identity) : a = b := by
  rw [mem_firsts_iff] at ha hb
  rw [h, hb] at ha
  exact (Option.some.inj ha).symm

/-- What has been chosen after any tokens: the first records that are still standing. -/
theorem mem_chosen_iff (p : HostPattern) (hosts : List HostRecord) (ts : List PatternToken)
    (r : HostRecord) :
    r ∈ p.chosen hosts ts ↔ r ∈ firsts hosts ∧ standing (!p.hasInclude) ts r = true := by
  induction ts using List.reverseRecOn generalizing r with
  | nil =>
    rw [chosen_nil, standing_nil]
    cases p.hasInclude <;> simp
  | append_singleton ts t ih =>
    rw [standing_concat]
    cases t with
    | inclusion n =>
      rw [chosen_concat_inclusion, List.mem_append, mem_fresh_iff, ih]
      by_cases hm : (PatternToken.inclusion n).matchesHost r = true
      · simp only [hm, if_true, PatternToken.isInclude, and_true, true_and]
        constructor
        · rintro (⟨hr, -⟩ | ⟨hr, -⟩) <;> exact hr
        · intro hr
          by_cases hs : standing (!p.hasInclude) ts r = true
          · exact Or.inl ⟨hr, hs⟩
          · refine Or.inr ⟨hr, fun hmem => hs ?_⟩
            obtain ⟨a, ha, he⟩ := List.mem_map.mp hmem
            obtain rfl := eq_of_mem_firsts ((ih a).mp ha).1 hr he
            exact ((ih a).mp ha).2
      · simp [hm]
    | exclusion n =>
      rw [chosen_concat_exclusion, List.mem_filter, ih]
      by_cases hm : (PatternToken.exclusion n).matchesHost r = true
      · simp [hm, PatternToken.isInclude]
      · simp [hm]

theorem mem_select_iff (p : HostPattern) (hosts : List HostRecord) (r : HostRecord) :
    r ∈ p.select hosts ↔ r ∈ firsts hosts ∧ p.Admits r := by
  rw [← chosen_tokens, mem_chosen_iff, standing_iff_admits]

theorem admits_congr (p : HostPattern) {a b : HostRecord} (h : a.identity = b.identity) :
    p.Admits a ↔ p.Admits b := by
  rw [← standing_iff_admits, ← standing_iff_admits, standing_congr _ _ h]

theorem mem_map_identity_select (p : HostPattern) (hosts : List HostRecord) (r : HostRecord) :
    r.identity ∈ (p.select hosts).map HostRecord.identity ↔
      r.identity ∈ hosts.map HostRecord.identity ∧ p.Admits r := by
  rw [← mem_map_identity_firsts hosts]
  constructor
  · intro h
    obtain ⟨a, ha, he⟩ := List.mem_map.mp h
    obtain ⟨hfirst, hadmits⟩ := (mem_select_iff p hosts a).mp ha
    exact ⟨he ▸ List.mem_map_of_mem hfirst, (p.admits_congr he).mp hadmits⟩
  · rintro ⟨h, hadmits⟩
    obtain ⟨a, ha, he⟩ := List.mem_map.mp h
    rw [← he]
    exact List.mem_map_of_mem ((mem_select_iff p hosts a).mpr ⟨ha, (p.admits_congr he).mpr hadmits⟩)

/-- A selection holds records of the inventory. -/
theorem mem_of_mem_select {p : HostPattern} {hosts : List HostRecord} {r : HostRecord}
    (h : r ∈ p.select hosts) : r ∈ hosts :=
  List.mem_of_find?_eq_some (mem_firsts_iff.mp ((mem_select_iff p hosts r).mp h).1)

/-- No identity is chosen twice. -/
theorem nodup_identity_chosen (p : HostPattern) (hosts : List HostRecord) (ts : List PatternToken) :
    ((p.chosen hosts ts).map HostRecord.identity).Nodup := by
  induction ts using List.reverseRecOn with
  | nil =>
    rw [chosen_nil]
    split
    · exact List.nodup_nil
    · exact nodup_identity_firsts hosts
  | append_singleton ts t ih =>
    cases t with
    | inclusion n =>
      rw [chosen_concat_inclusion, List.map_append, List.nodup_append]
      refine ⟨ih, (nodup_identity_firsts hosts).sublist (List.filter_sublist.map _), ?_⟩
      rintro x hx y hy rfl
      obtain ⟨r, hr, rfl⟩ := List.mem_map.mp hy
      exact (mem_fresh_iff.mp hr).2.2 hx
    | exclusion n =>
      rw [chosen_concat_exclusion]
      exact ih.sublist (List.filter_sublist.map _)

theorem nodup_identity_select (p : HostPattern) (hosts : List HostRecord) :
    ((p.select hosts).map HostRecord.identity).Nodup :=
  nodup_identity_chosen p hosts p.tokens

/-- A pattern without tokens selects the first records of the inventory. -/
theorem select_of_tokens_eq_nil {p : HostPattern} (h : p.tokens = []) (hosts : List HostRecord) :
    p.select hosts = firsts hosts := by
  rw [← chosen_tokens, h, chosen_nil, (hasInclude_eq_false_iff p).mpr (by simp [h])]
  rfl

/-- A first token for every host chooses the first records of the inventory. -/
theorem chosen_everyHost {p : HostPattern} (hp : p.hasInclude = true) (hosts : List HostRecord) :
    p.chosen hosts [.inclusion PatternToken.everyHost] = firsts hosts := by
  have hall : (PatternToken.inclusion PatternToken.everyHost).matchesHost = fun _ => true :=
    funext fun _ => by simp [PatternToken.matchesHost, PatternToken.name]
  have hnil : p.chosen hosts [] = [] := by
    rw [chosen_nil, hp]
    rfl
  calc p.chosen hosts [.inclusion PatternToken.everyHost]
      = p.chosen hosts ([] ++ [.inclusion PatternToken.everyHost]) := rfl
    _ = p.chosen hosts [] ++ fresh hosts (fun _ => true) (p.chosen hosts []) := by
        rw [chosen_concat_inclusion, hall]
    _ = firsts hosts := by simp [hnil, fresh]

/-- The pattern for every host selects the first records of the inventory. -/
theorem select_everyHost (hosts : List HostRecord) : everyHost.select hosts = firsts hosts :=
  chosen_everyHost rfl hosts

/-- The law of membership. The identities of a selection are those of the inventory that the pattern
admits, none of them twice, and each is represented by its first record in the inventory. -/
theorem select_membership (p : HostPattern) (hosts : List HostRecord) :
    (∀ r : HostRecord, r.identity ∈ (p.select hosts).map HostRecord.identity ↔
      r.identity ∈ hosts.map HostRecord.identity ∧ p.Admits r) ∧
    ((p.select hosts).map HostRecord.identity).Nodup ∧
    ∀ r ∈ p.select hosts, hosts.find? (fun s => s.identity == r.identity) = some r :=
  ⟨mem_map_identity_select p hosts, nodup_identity_select p hosts,
    fun r hr => mem_firsts_iff.mp ((mem_select_iff p hosts r).mp hr).1⟩

end AgentFleet.HostPattern
