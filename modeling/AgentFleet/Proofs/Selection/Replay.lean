import AgentFleet.Inventory.Pattern

/-!
# Replaying a pattern

A selection in the making keeps places and identities side by side. This module
shows that the two stay in step (`InStep`) and what the chosen records are after
one more token: an inclusion appends the wanted ones among the first records of
the inventory whose identity is not chosen yet (`chosen_concat_inclusion`), an
exclusion keeps the others in their order (`chosen_concat_exclusion`). The laws
of a selection are proved from these two equations and `chosen_nil`, so that no
later module looks at places or identities.
-/

namespace AgentFleet

theorem PatternToken.matchesHost_congr (t : PatternToken) {a b : HostRecord}
    (h : a.identity = b.identity) : t.matchesHost a = t.matchesHost b := by
  have hg : a.groupname = b.groupname := congrArg Prod.snd h
  simp only [matchesHost, HostRecord.inGroup, hg]

namespace Selection

/-! ### The first records of an inventory -/

/-- The first record of each identity, in the order of the inventory. -/
def firsts : List HostRecord → List HostRecord
  | [] => []
  | r :: rest => r :: (firsts rest).filter fun s => s.identity != r.identity

/-- The place of the first record with the identity of `r`. -/
def place (hosts : List HostRecord) (r : HostRecord) : Nat :=
  hosts.findIdx fun s => s.identity == r.identity

theorem place_cons_self (r : HostRecord) (rest : List HostRecord) : place (r :: rest) r = 0 := by
  simp [place, List.findIdx_cons]

theorem place_cons_of_ne {r s : HostRecord} (h : s.identity ≠ r.identity) (rest : List HostRecord) :
    place (r :: rest) s = place rest s + 1 := by
  have hne : (r.identity == s.identity) = false := by simpa using Ne.symm h
  simp [place, List.findIdx_cons, hne]

/-- A record is a first one when a search for its identity finds it. -/
theorem mem_firsts_iff {hosts : List HostRecord} {r : HostRecord} :
    r ∈ firsts hosts ↔ hosts.find? (fun s => s.identity == r.identity) = some r := by
  induction hosts with
  | nil => simp [firsts]
  | cons a rest ih =>
    by_cases h : a.identity = r.identity
    · simp only [firsts, List.mem_cons, List.mem_filter, h, bne_self_eq_false, Bool.false_eq_true,
        and_false, or_false, List.find?_cons, beq_self_eq_true, Option.some.injEq]
      exact eq_comm
    · have hne : r ≠ a := fun e => h (e ▸ rfl)
      have hid : (a.identity == r.identity) = false := by simpa using h
      simp [firsts, hid, hne, ih, Ne.symm h]

/-- The first records have the identities of the inventory. -/
theorem mem_map_identity_firsts (hosts : List HostRecord) (x : String × Option String) :
    x ∈ (firsts hosts).map HostRecord.identity ↔ x ∈ hosts.map HostRecord.identity := by
  induction hosts with
  | nil => simp [firsts]
  | cons a rest ih =>
    simp only [List.mem_map] at ih
    by_cases h : x = a.identity
    · simp [firsts, h]
    · have hne : ¬ a.identity = x := fun e => h e.symm
      simp only [firsts, List.map_cons, List.mem_cons, h, false_or, List.mem_map, List.mem_filter,
        bne_iff_ne]
      constructor
      · rintro ⟨r, ⟨hr, -⟩, rfl⟩
        exact ih.mp ⟨r, hr, rfl⟩
      · intro hx
        obtain ⟨r, hr, rfl⟩ := ih.mpr hx
        exact ⟨r, ⟨hr, h⟩, rfl⟩

/-- The first records stand in the order of their places. -/
theorem pairwise_place_firsts (hosts : List HostRecord) :
    (firsts hosts).Pairwise fun a b => place hosts a < place hosts b := by
  induction hosts with
  | nil => exact List.Pairwise.nil
  | cons r rest ih =>
    have hne : ∀ a ∈ (firsts rest).filter fun s => s.identity != r.identity,
        place (r :: rest) a = place rest a + 1 := by
      intro a ha
      exact place_cons_of_ne (by simpa using (List.mem_filter.mp ha).2) rest
    refine List.pairwise_cons.mpr ⟨fun a ha => ?_, ?_⟩
    · rw [place_cons_self, hne a ha]
      exact Nat.succ_pos _
    · refine (ih.filter _).imp_of_mem fun {a b} ha hb hab => ?_
      rw [hne a ha, hne b hb]
      exact Nat.succ_lt_succ hab

/-- No identity occurs twice among the first records. -/
theorem nodup_identity_firsts (hosts : List HostRecord) :
    ((firsts hosts).map HostRecord.identity).Nodup := by
  refine List.pairwise_map.mpr ((pairwise_place_firsts hosts).imp fun {a b} hab he => ?_)
  have : place hosts a = place hosts b := by rw [place, place, he]
  omega

/-- An inventory without repetitions consists of first records. -/
theorem firsts_eq_self {hosts : List HostRecord} (h : (hosts.map HostRecord.identity).Nodup) :
    firsts hosts = hosts := by
  induction hosts with
  | nil => rfl
  | cons r rest ih =>
    obtain ⟨hr, hrest⟩ := List.nodup_cons.mp h
    rw [firsts, ih hrest, List.filter_eq_self.mpr fun s hs => ?_]
    simp only [bne_iff_ne]
    exact fun he => hr (he ▸ List.mem_map_of_mem hs)

/-! ### Places and identities -/

/-- The places are places of the inventory, and the identities are those of the chosen records. -/
structure InStep (hosts : List HostRecord) (s : Selection) : Prop where
  places : ∀ i ∈ s.places, i < hosts.length
  identities : ∀ x, x ∈ s.identities ↔ x ∈ (s.records hosts).map HostRecord.identity

theorem InStep.empty (hosts : List HostRecord) : InStep hosts {} :=
  ⟨by simp, by simp [records]⟩

variable {hosts : List HostRecord} {s : Selection}

theorem records_choose {r : HostRecord} {i : Nat} (h : InStep hosts s) (hr : hosts[i]? = some r) :
    (s.choose r i).records hosts =
      if r.identity ∈ (s.records hosts).map HostRecord.identity then s.records hosts
      else s.records hosts ++ [r] := by
  simp only [choose, List.contains_iff_mem, h.identities]
  split
  · rfl
  · simp [records, hr]

theorem InStep.choose {r : HostRecord} {i : Nat} (h : InStep hosts s) (hr : hosts[i]? = some r) :
    InStep hosts (s.choose r i) := by
  have hrec := records_choose h hr
  refine ⟨fun j hj => ?_, fun x => ?_⟩
  · simp only [Selection.choose] at hj
    split at hj
    · exact h.places j hj
    · rcases List.mem_append.mp hj with hj | hj
      · exact h.places j hj
      · obtain rfl := List.mem_singleton.mp hj
        exact (List.getElem?_eq_some_iff.mp hr).1
  · rw [hrec]
    simp only [Selection.choose, List.contains_iff_mem, h.identities]
    split
    · exact h.identities x
    · simp [h.identities, or_comm, eq_comm]

/-- The records that are appended to `chosen`: the first records of the inventory that are wanted
and whose identity is not chosen. -/
def fresh (hosts : List HostRecord) (wanted : HostRecord → Bool) (chosen : List HostRecord) :
    List HostRecord :=
  (firsts hosts).filter fun r => wanted r && !(chosen.map HostRecord.identity).contains r.identity

theorem mem_fresh_iff {wanted : HostRecord → Bool} {chosen : List HostRecord} {r : HostRecord} :
    r ∈ fresh hosts wanted chosen ↔
      r ∈ firsts hosts ∧ wanted r = true ∧ r.identity ∉ chosen.map HostRecord.identity := by
  simp [fresh, List.mem_filter]

/-- What is appended when the record `r` is passed over: `r` itself is no longer waited for. -/
theorem fresh_cons_of_skip {wanted : HostRecord → Bool} {chosen rest : List HostRecord}
    {r : HostRecord} (hw : ∀ a b : HostRecord, a.identity = b.identity → wanted a = wanted b)
    (h : wanted r = false ∨ r.identity ∈ chosen.map HostRecord.identity) :
    fresh (r :: rest) wanted chosen = fresh rest wanted chosen := by
  have hr : (wanted r && !(chosen.map HostRecord.identity).contains r.identity) = false := by
    rcases h with h | h
    · rw [h, Bool.false_and]
    · rw [List.contains_iff_mem.mpr h, Bool.not_true, Bool.and_false]
  rw [fresh, firsts, List.filter_cons, hr, fresh, List.filter_filter]
  refine List.filter_congr fun a _ => ?_
  by_cases ha : a.identity = r.identity
  · rw [hw a r ha, ha, hr, Bool.false_and]
  · simp [ha]

/-- What is appended when the record `r` is the next one. -/
theorem fresh_cons_of_take {wanted : HostRecord → Bool} {chosen rest : List HostRecord}
    {r : HostRecord} (hr : wanted r = true) (hc : r.identity ∉ chosen.map HostRecord.identity) :
    fresh (r :: rest) wanted chosen = r :: fresh rest wanted (chosen ++ [r]) := by
  have hkeep : (wanted r && !(chosen.map HostRecord.identity).contains r.identity) = true := by
    simpa [hr] using hc
  rw [fresh, firsts, List.filter_cons, hkeep, fresh, List.filter_filter]
  refine congrArg (r :: ·) (List.filter_congr fun a _ => ?_)
  by_cases ha : a.identity = r.identity <;> simp [ha]

/-- Choosing from a part of the inventory that begins behind `done`. -/
theorem InStep.addFrom {wanted : HostRecord → Bool}
    (hw : ∀ a b : HostRecord, a.identity = b.identity → wanted a = wanted b)
    (done rest : List HostRecord) (hh : hosts = done ++ rest) (h : InStep hosts s) :
    InStep hosts (s.addFrom done.length rest wanted) ∧
      (s.addFrom done.length rest wanted).records hosts =
        s.records hosts ++ fresh rest wanted (s.records hosts) := by
  induction rest generalizing done s with
  | nil => exact ⟨h, by simp [Selection.addFrom, fresh, firsts]⟩
  | cons r rest ih =>
    have hr : hosts[done.length]? = some r := by simp [hh]
    have hcons : s.addFrom done.length (r :: rest) wanted =
        (if wanted r then s.choose r done.length else s).addFrom (done ++ [r]).length rest wanted := by
      simp [Selection.addFrom]
    have hdone : hosts = (done ++ [r]) ++ rest := by simp [hh]
    rw [hcons]
    by_cases hwr : wanted r = true
    · rw [if_pos hwr]
      obtain ⟨hin, hrec⟩ := ih (done ++ [r]) hdone (h.choose hr)
      refine ⟨hin, ?_⟩
      rw [hrec, records_choose h hr]
      split
      case isTrue hc => rw [fresh_cons_of_skip hw (Or.inr hc)]
      case isFalse hc => rw [fresh_cons_of_take hwr hc, List.append_assoc, List.singleton_append]
    · rw [if_neg hwr, fresh_cons_of_skip hw (Or.inl (by simpa using hwr))]
      exact ih (done ++ [r]) hdone h

theorem InStep.add {wanted : HostRecord → Bool}
    (hw : ∀ a b : HostRecord, a.identity = b.identity → wanted a = wanted b) (h : InStep hosts s) :
    InStep hosts (s.add hosts wanted) ∧
      (s.add hosts wanted).records hosts =
        s.records hosts ++ fresh hosts wanted (s.records hosts) :=
  h.addFrom hw [] hosts rfl

theorem records_drop (hosts : List HostRecord) (s : Selection) (unwanted : HostRecord → Bool) :
    (s.drop hosts unwanted).records hosts = (s.records hosts).filter fun r => !unwanted r := by
  rw [records, Selection.drop, List.filterMap_filter, records, List.filter_filterMap]
  congr 1
  funext i
  cases hosts[i]? <;> simp [Option.filter]

theorem mem_of_mem_records {r : HostRecord} (hr : r ∈ s.records hosts) : r ∈ hosts := by
  obtain ⟨i, -, hi⟩ := List.mem_filterMap.mp hr
  exact List.mem_of_getElem? hi

/-- The identities are dropped by the records of the inventory, the places by the chosen ones; both
agree because records of one identity are unwanted together. -/
theorem InStep.drop {unwanted : HostRecord → Bool}
    (hu : ∀ a b : HostRecord, a.identity = b.identity → unwanted a = unwanted b)
    (h : InStep hosts s) : InStep hosts (s.drop hosts unwanted) := by
  refine ⟨fun i hi => h.places i (List.mem_filter.mp hi).1, fun x => ?_⟩
  rw [records_drop]
  simp only [Selection.drop, List.removeAll, List.mem_filter, h.identities, List.mem_map]
  constructor
  · rintro ⟨⟨r, hr, rfl⟩, hx⟩
    refine ⟨r, ⟨hr, ?_⟩, rfl⟩
    cases hur : unwanted r with
    | false => rfl
    | true =>
      have hmem : r.identity ∈ (hosts.filter unwanted).map HostRecord.identity :=
        List.mem_map_of_mem (List.mem_filter.mpr ⟨mem_of_mem_records hr, hur⟩)
      simp [hmem] at hx
  · rintro ⟨r, ⟨hr, hur⟩, rfl⟩
    refine ⟨⟨r, hr, rfl⟩, ?_⟩
    have hnot : r.identity ∉ (hosts.filter unwanted).map HostRecord.identity := by
      intro hmem
      obtain ⟨a, ha, he⟩ := List.mem_map.mp hmem
      rw [hu r a he.symm, (List.mem_filter.mp ha).2] at hur
      exact Bool.false_ne_true hur
    simpa using hnot

end Selection

/-! ### One more token -/

namespace HostPattern

open Selection

/-- A token keeps places and identities in step. -/
theorem step_inStep {hosts : List HostRecord} {s : Selection} (t : PatternToken)
    (h : InStep hosts s) : InStep hosts (step hosts s t) := by
  cases t with
  | inclusion n => exact (h.add fun _ _ => PatternToken.matchesHost_congr (.inclusion n)).1
  | exclusion n => exact h.drop fun _ _ => PatternToken.matchesHost_congr (.exclusion n)

theorem seed_inStep (p : HostPattern) (hosts : List HostRecord) : InStep hosts (p.seed hosts) := by
  unfold seed
  split
  · exact InStep.empty hosts
  · exact ((InStep.empty hosts).add fun _ _ _ => rfl).1

/-- Any tokens keep places and identities in step. -/
theorem foldl_step_inStep {hosts : List HostRecord} {s : Selection} (ts : List PatternToken)
    (h : InStep hosts s) : InStep hosts (ts.foldl (step hosts) s) := by
  induction ts generalizing s with
  | nil => exact h
  | cons t ts ih => exact ih (step_inStep t h)

/-- The records that are chosen once the tokens `ts` have been replayed. -/
def chosen (p : HostPattern) (hosts : List HostRecord) (ts : List PatternToken) : List HostRecord :=
  (ts.foldl (step hosts) (p.seed hosts)).records hosts

theorem chosen_tokens (p : HostPattern) (hosts : List HostRecord) :
    p.chosen hosts p.tokens = p.select hosts := rfl

theorem chosen_nil (p : HostPattern) (hosts : List HostRecord) :
    p.chosen hosts [] = if p.hasInclude then [] else firsts hosts := by
  unfold chosen seed
  rw [List.foldl_nil]
  split
  · rfl
  · rw [((InStep.empty hosts).add fun _ _ _ => rfl).2]
    simp [records, fresh]

/-- An inclusion appends the records of its group that are not chosen yet. -/
theorem chosen_concat_inclusion (p : HostPattern) (hosts : List HostRecord)
    (ts : List PatternToken) (n : String) :
    p.chosen hosts (ts ++ [.inclusion n]) =
      p.chosen hosts ts ++
        fresh hosts (PatternToken.inclusion n).matchesHost (p.chosen hosts ts) := by
  unfold chosen
  rw [List.foldl_append]
  exact ((foldl_step_inStep ts (seed_inStep p hosts)).add
    fun _ _ => PatternToken.matchesHost_congr (.inclusion n)).2

/-- An exclusion keeps the records of other groups in their order. -/
theorem chosen_concat_exclusion (p : HostPattern) (hosts : List HostRecord)
    (ts : List PatternToken) (n : String) :
    p.chosen hosts (ts ++ [.exclusion n]) =
      (p.chosen hosts ts).filter fun r => !(PatternToken.exclusion n).matchesHost r := by
  unfold chosen
  rw [List.foldl_append]
  exact records_drop hosts _ _

end HostPattern

end AgentFleet
