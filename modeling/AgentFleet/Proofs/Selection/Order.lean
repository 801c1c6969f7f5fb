import AgentFleet.Proofs.Selection.Membership
import Mathlib.Data.List.DropRight

/-!
# The order of a selection

A selected host stands where its entry token put it: the first inclusion that
covers it behind the last exclusion that covers it. Hosts with one entry token
stand in the order of the inventory. So an exclusion makes a host lose its old
place and leaves the order of the others alone, however often hosts are dropped
and added again. A pattern without inclusions has no entry tokens; its hosts come
from the seed and keep the order of the inventory.
-/

namespace AgentFleet

/-- Whether a token brings a host into the selection. -/
def PatternToken.brings (t : PatternToken) (r : HostRecord) : Bool :=
  t.isInclude && t.matchesHost r

/-- Whether a token removes a host from the selection. -/
def PatternToken.removes (t : PatternToken) (r : HostRecord) : Bool :=
  !t.isInclude && t.matchesHost r

namespace HostPattern

open Selection

/-! ### Entry tokens -/

/-- The tokens behind the last one that removes a host. -/
def behindRemovals (ts : List PatternToken) (r : HostRecord) : List PatternToken :=
  ts.rtakeWhile fun t => !t.removes r

/-- How many of some tokens stand before the entry token of a host: up to the last one that removes
it, and from there on up to the first one that brings it. -/
def entryIndex (ts : List PatternToken) (r : HostRecord) : Nat :=
  ts.length - (behindRemovals ts r).length + (behindRemovals ts r).findIdx fun t => t.brings r

/-- The number of the entry token of a host. The tokens of a pattern are numbered from one, and the
seed of a pattern without inclusions stands before them all. -/
def entry (p : HostPattern) (r : HostRecord) : Nat :=
  if p.hasInclude then entryIndex p.tokens r + 1 else 0

/-- Behind the last token that removes a host, some tokens do not cover it. -/
def IsAbsence (ts : List PatternToken) (r : HostRecord) : Prop :=
  ∃ dropped idle, ts = dropped ++ idle ∧ (∀ u ∈ dropped.getLast?, u.removes r = true) ∧
    ∀ u ∈ idle, u.matchesHost r = false

/-- The token with `i` others before it is the entry token of a host: it brings the host, no token
behind it removes the host, and before it the host is absent. -/
def IsEntry (ts : List PatternToken) (r : HostRecord) (i : Nat) : Prop :=
  ∃ before t kept, ts = before ++ t :: kept ∧ before.length = i ∧ IsAbsence before r ∧
    t.brings r = true ∧ ∀ u ∈ kept, u.removes r = false

/-- The number of the token at which a host enters a selection: zero when there are no inclusions. -/
def EntersAt (p : HostPattern) (r : HostRecord) (n : Nat) : Prop :=
  (p.hasInclude = false ∧ n = 0) ∨ ∃ i, n = i + 1 ∧ IsEntry p.tokens r i

/-- One host stands before another: it enters at an earlier token, or at the same token and its
first record is earlier in the inventory. -/
def Precedes (p : HostPattern) (hosts : List HostRecord) (a b : HostRecord) : Prop :=
  p.entry a < p.entry b ∨ p.entry a = p.entry b ∧ place hosts a < place hosts b

theorem behindRemovals_concat (ts : List PatternToken) (t : PatternToken) (r : HostRecord) :
    behindRemovals (ts ++ [t]) r = if t.removes r then [] else behindRemovals ts r ++ [t] := by
  rw [behindRemovals, List.rtakeWhile_concat, behindRemovals]
  cases t.removes r <;> rfl

theorem length_behindRemovals_le (ts : List PatternToken) (r : HostRecord) :
    (behindRemovals ts r).length ≤ ts.length :=
  List.IsSuffix.length_le (List.rtakeWhile_suffix _ ts)

/-- In a pattern with inclusions the selected hosts are those with an entry token. -/
theorem standing_iff_exists_brings (ts : List PatternToken) (r : HostRecord) :
    standing false ts r = true ↔ ∃ t ∈ behindRemovals ts r, t.brings r = true := by
  induction ts using List.reverseRecOn with
  | nil => simp [standing_nil, behindRemovals]
  | append_singleton ts t ih =>
    rw [standing_concat, behindRemovals_concat]
    by_cases hm : t.matchesHost r = true
    · cases t <;> simp [PatternToken.removes, PatternToken.brings, PatternToken.isInclude, hm]
    · simp [PatternToken.removes, PatternToken.brings, hm, ih]

theorem entryIndex_lt {ts : List PatternToken} {r : HostRecord}
    (h : standing false ts r = true) : entryIndex ts r < ts.length := by
  have hlt := List.findIdx_lt_length.mpr ((standing_iff_exists_brings ts r).mp h)
  have hle := length_behindRemovals_le ts r
  unfold entryIndex
  omega

/-- A host that has entered keeps its entry token until a token removes it. -/
theorem entryIndex_concat_of_standing {ts : List PatternToken} {t : PatternToken} {r : HostRecord}
    (ht : t.removes r = false) (h : standing false ts r = true) :
    entryIndex (ts ++ [t]) r = entryIndex ts r := by
  have hlt := List.findIdx_lt_length.mpr ((standing_iff_exists_brings ts r).mp h)
  unfold entryIndex
  rw [behindRemovals_concat, if_neg (by simp [ht]), List.findIdx_append, if_pos hlt]
  simp only [List.length_append, List.length_singleton, Nat.add_sub_add_right]

/-- A token that brings a host which has not entered is its entry token. -/
theorem entryIndex_concat_of_brings {ts : List PatternToken} {t : PatternToken} {r : HostRecord}
    (ht : t.brings r = true) (h : standing false ts r = false) :
    entryIndex (ts ++ [t]) r = ts.length := by
  have hkeep : t.removes r = false := by
    simp only [PatternToken.brings, Bool.and_eq_true] at ht
    simp [PatternToken.removes, ht.1]
  have hle := length_behindRemovals_le ts r
  have hnot : ¬ (behindRemovals ts r).findIdx (fun t => t.brings r) < (behindRemovals ts r).length := by
    rw [List.findIdx_lt_length, ← standing_iff_exists_brings, h]
    exact Bool.false_ne_true
  unfold entryIndex
  rw [behindRemovals_concat, if_neg (by simp [hkeep]), List.findIdx_append, if_neg hnot,
    List.findIdx_cons, ht]
  simp only [List.length_append, List.length_singleton, cond_true]
  omega

/-! ### Entry tokens exist -/

/-- A host that has not entered is absent. -/
theorem isAbsence_of_not_standing {ts : List PatternToken} {r : HostRecord}
    (h : standing false ts r = false) : IsAbsence ts r := by
  induction ts using List.reverseRecOn with
  | nil => exact ⟨[], [], rfl, by simp, by simp⟩
  | append_singleton ts t ih =>
    rw [standing_concat] at h
    by_cases hm : t.matchesHost r = true
    · rw [if_pos hm] at h
      exact ⟨ts ++ [t], [], by simp, by simp [PatternToken.removes, h, hm], by simp⟩
    · rw [if_neg hm] at h
      obtain ⟨dropped, idle, rfl, hdropped, hidle⟩ := ih h
      refine ⟨dropped, idle ++ [t], by simp, hdropped, fun u hu => ?_⟩
      rcases List.mem_append.mp hu with hu | hu
      · exact hidle u hu
      · rw [List.mem_singleton.mp hu]
        simpa using hm

/-- A host that has entered has its entry token where `entryIndex` says. -/
theorem isEntry_of_standing {ts : List PatternToken} {r : HostRecord}
    (h : standing false ts r = true) : IsEntry ts r (entryIndex ts r) := by
  induction ts using List.reverseRecOn with
  | nil => exact absurd h Bool.false_ne_true
  | append_singleton ts t ih =>
    have hkeep : t.removes r = false := by
      rw [standing_concat] at h
      by_cases hm : t.matchesHost r = true
      · rw [if_pos hm] at h
        simp [PatternToken.removes, h]
      · simp [PatternToken.removes, hm]
    cases hs : standing false ts r with
    | true =>
      -- the host has entered before, so that the entry token stays
      obtain ⟨before, u, kept, hts, hlen, habsent, hu, hkept⟩ := ih hs
      rw [entryIndex_concat_of_standing hkeep hs]
      refine ⟨before, u, kept ++ [t], by simp [hts], hlen, habsent, hu, fun v hv => ?_⟩
      rcases List.mem_append.mp hv with hv | hv
      · exact hkept v hv
      · rwa [List.mem_singleton.mp hv]
    | false =>
      have ht : t.brings r = true := by
        rw [standing_concat, hs] at h
        by_cases hm : t.matchesHost r = true
        · rw [if_pos hm] at h
          simp [PatternToken.brings, h, hm]
        · rw [if_neg hm] at h
          exact absurd h Bool.false_ne_true
      rw [entryIndex_concat_of_brings ht hs]
      exact ⟨ts, t, [], rfl, rfl, isAbsence_of_not_standing hs, ht, by simp⟩

/-! ### The order -/

theorem standing_of_mem_chosen {p : HostPattern} (hp : p.hasInclude = true)
    {hosts : List HostRecord} {ts : List PatternToken} {r : HostRecord}
    (hr : r ∈ p.chosen hosts ts) : standing false ts r = true := by
  simpa [hp] using ((mem_chosen_iff p hosts ts r).mp hr).2

/-- The records that an inclusion appends enter there. -/
theorem entryIndex_concat_of_mem_fresh {p : HostPattern} (hp : p.hasInclude = true)
    {hosts : List HostRecord} {ts : List PatternToken} {n : String} {r : HostRecord}
    (hr : r ∈ fresh hosts (PatternToken.inclusion n).matchesHost (p.chosen hosts ts)) :
    entryIndex (ts ++ [.inclusion n]) r = ts.length := by
  obtain ⟨hfirst, hm, hnot⟩ := mem_fresh_iff.mp hr
  have hbrings : (PatternToken.inclusion n).brings r = true := by
    simp [PatternToken.brings, PatternToken.isInclude, hm]
  refine entryIndex_concat_of_brings hbrings ?_
  -- a first record that is standing would have been chosen before
  cases hs : standing false ts r with
  | false => rfl
  | true =>
    have hchosen : r ∈ p.chosen hosts ts :=
      (mem_chosen_iff p hosts ts r).mpr ⟨hfirst, by simpa [hp] using hs⟩
    exact absurd (List.mem_map_of_mem hchosen) hnot

/-- What a pattern with inclusions has chosen stands in the order of entry tokens and places. -/
theorem pairwise_chosen {p : HostPattern} (hp : p.hasInclude = true) (hosts : List HostRecord)
    (ts : List PatternToken) :
    (p.chosen hosts ts).Pairwise fun a b =>
      entryIndex ts a < entryIndex ts b ∨
        entryIndex ts a = entryIndex ts b ∧ place hosts a < place hosts b := by
  induction ts using List.reverseRecOn with
  | nil => simp [chosen_nil, hp]
  | append_singleton ts t ih =>
    cases t with
    | inclusion n =>
      have hold : ∀ r ∈ p.chosen hosts ts,
          entryIndex (ts ++ [.inclusion n]) r = entryIndex ts r := fun r hr =>
        entryIndex_concat_of_standing rfl (standing_of_mem_chosen hp hr)
      rw [chosen_concat_inclusion, List.pairwise_append]
      refine ⟨ih.imp_of_mem fun {a b} ha hb hab => ?_, ?_, fun a ha b hb => ?_⟩
      · rwa [hold a ha, hold b hb]
      · refine ((pairwise_place_firsts hosts).filter _).imp_of_mem fun {a b} ha hb hab => ?_
        rw [entryIndex_concat_of_mem_fresh hp ha, entryIndex_concat_of_mem_fresh hp hb]
        exact Or.inr ⟨rfl, hab⟩
      · rw [hold a ha, entryIndex_concat_of_mem_fresh hp hb]
        exact Or.inl (entryIndex_lt (standing_of_mem_chosen hp ha))
    | exclusion n =>
      have hold : ∀ r ∈ (p.chosen hosts ts).filter fun r => !(PatternToken.exclusion n).matchesHost r,
          entryIndex (ts ++ [.exclusion n]) r = entryIndex ts r := by
        intro r hr
        obtain ⟨hr, hm⟩ := List.mem_filter.mp hr
        have hkeep : (PatternToken.exclusion n).removes r = false := by
          simpa [PatternToken.removes] using fun _ => hm
        exact entryIndex_concat_of_standing hkeep (standing_of_mem_chosen hp hr)
      rw [chosen_concat_exclusion]
      refine (ih.filter _).imp_of_mem fun {a b} ha hb hab => ?_
      rwa [hold a ha, hold b hb]

/-- What exclusions alone have chosen stands in the order of places. -/
theorem pairwise_place_chosen {p : HostPattern} (hp : p.hasInclude = false)
    (hosts : List HostRecord) (ts : List PatternToken) (hts : ∀ t ∈ ts, t.isInclude = false) :
    (p.chosen hosts ts).Pairwise fun a b => place hosts a < place hosts b := by
  induction ts using List.reverseRecOn with
  | nil => simpa [chosen_nil, hp] using pairwise_place_firsts hosts
  | append_singleton ts t ih =>
    cases t with
    | inclusion n => exact Bool.noConfusion (hts (.inclusion n) (by simp))
    | exclusion n =>
      rw [chosen_concat_exclusion]
      exact (ih fun t ht => hts t (List.mem_append_left _ ht)).filter _

theorem pairwise_precedes_select (p : HostPattern) (hosts : List HostRecord) :
    (p.select hosts).Pairwise (p.Precedes hosts) := by
  rw [← chosen_tokens]
  cases hp : p.hasInclude with
  | true =>
    refine (pairwise_chosen hp hosts p.tokens).imp fun {a b} hab => ?_
    simp only [Precedes, entry, hp, if_true]
    omega
  | false =>
    refine (pairwise_place_chosen hp hosts p.tokens ((hasInclude_eq_false_iff p).mp hp)).imp ?_
    intro a b hab
    simpa [Precedes, entry, hp] using hab

/-- Of two selected hosts the one that precedes the other is the one that comes first. -/
theorem precedes_getElem_iff (p : HostPattern) (hosts : List HostRecord)
    (i j : Fin (p.select hosts).length) :
    p.Precedes hosts (p.select hosts)[i] (p.select hosts)[j] ↔ i < j := by
  have hpair := List.pairwise_iff_getElem.mp (pairwise_precedes_select p hosts)
  refine ⟨fun h => ?_, fun hij => hpair i j i.isLt j.isLt hij⟩
  rcases Nat.lt_trichotomy i j with hij | hij | hij
  · exact hij
  · obtain rfl := Fin.ext hij
    simp [Precedes] at h
  · have := hpair j i j.isLt i.isLt hij
    simp only [Precedes, Fin.getElem_fin] at h this
    omega

theorem entersAt_entry (p : HostPattern) {hosts : List HostRecord} {r : HostRecord}
    (hr : r ∈ p.select hosts) : p.EntersAt r (p.entry r) := by
  have hs := ((mem_chosen_iff p hosts p.tokens r).mp (chosen_tokens p hosts ▸ hr)).2
  unfold EntersAt entry
  cases hp : p.hasInclude with
  | true => exact Or.inr ⟨_, rfl, isEntry_of_standing (by simpa [hp] using hs)⟩
  | false => exact Or.inl ⟨rfl, rfl⟩

/-- The law of order. The records of a selection are sorted by entry token and, under one token, by
place in the inventory; the entry token of each is the first inclusion that covers it behind the
last exclusion that does, or the seed. -/
theorem select_order (p : HostPattern) (hosts : List HostRecord) :
    (∀ i j : Fin (p.select hosts).length,
      p.Precedes hosts (p.select hosts)[i] (p.select hosts)[j] ↔ i < j) ∧
    ∀ r ∈ p.select hosts, p.EntersAt r (p.entry r) :=
  ⟨precedes_getElem_iff p hosts, fun _ => entersAt_entry p⟩

example :
    let host (ip group : String) : HostRecord :=
      { publicIp := ip, sshUser := "", sshOptions := "", agentPort := "", groupname := some group }
    ((parse "a:b:!a:a").select [host "h1" "a", host "h2" "b", host "h3" "a"]).map
      HostRecord.publicIp = ["h2", "h1", "h3"] := by
  decide

end HostPattern

end AgentFleet
