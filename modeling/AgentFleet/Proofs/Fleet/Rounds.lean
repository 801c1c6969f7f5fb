import AgentFleet.Fleet.Operations
import AgentFleet.Proofs.Fleet.Dispatch

/-!
# Rounds in sequence

An operation of several rounds begins each of them only after the one before has
succeeded on all hosts, and the first round that fails is its last one (`Rounds`).
So whatever happens in a round happens after everything that the rounds before it
have done (`Rounds.barrier`), and the error of an operation lists the failures of
its last round (`Rounds.of_not_succeeds`).
-/

namespace AgentFleet

variable {ρ σ α : Type} {carrier : Carrier ρ σ} {hosts : List HostRecord}

/-! ### Rounds that succeed -/

/-- Every host has come to a value. -/
def RoundLog.Succeeds (log : RoundLog α) : Prop :=
  ∀ result ∈ log.results, ∃ a, result = .ok a

/-- In a round that has completed every host has a result. -/
theorem RoundLog.Completes.exists_serves {log : RoundLog α} {work : Nat → HostRecord → HostTask α}
    (h : log.Completes carrier hosts work) {i : Nat} {host : HostRecord}
    (hhost : hosts[i]? = some host) :
    ∃ result ∈ log.results, Serves carrier host (work i host) (log.trace.of i) result := by
  obtain ⟨hi, -⟩ := List.getElem?_eq_some_iff.mp hhost
  have hi : i < log.results.length := h.length ▸ hi
  exact ⟨log.results[i], List.getElem_mem hi, h.serves i host _ hhost (List.getElem?_eq_getElem hi)⟩

theorem RoundLog.Completes.serves_of_succeeds {log : RoundLog α}
    {work : Nat → HostRecord → HostTask α} (h : log.Completes carrier hosts work)
    (hsucceeds : log.Succeeds) {i : Nat} {host : HostRecord} (hhost : hosts[i]? = some host) :
    ∃ a, Serves carrier host (work i host) (log.trace.of i) (.ok a) := by
  obtain ⟨result, hresult, hserves⟩ := h.exists_serves hhost
  obtain ⟨a, rfl⟩ := hsucceeds result hresult
  exact ⟨a, hserves⟩

/-- A round of a fleet completes, and it succeeds when its log does. -/
theorem Fleet.exists_log_roundUnit (f : Fleet ρ σ) (n : Nat) (hosts : List HostRecord)
    (work : Nat → HostRecord → HostTask Unit) (s : σ) :
    ∃ log t, Happens f.carrier hosts s (RoundLog.trace log) t ∧ log.Completes f.carrier hosts work ∧
      (log.Succeeds ∧ f.roundUnit n hosts work s = (.ok (), t) ∨
        ¬ log.Succeeds ∧ f.roundUnit n hosts work s =
          (.error (.round ⟨failures hosts log.results, hosts.length⟩), t)) := by
  obtain ⟨log, hhappens, hcompletes, hround⟩ :=
    exists_completes_runRound f.carrier (f.turns n) hosts work s
  refine ⟨log, _, hhappens, hcompletes, ?_⟩
  rw [RoundLog.Succeeds, ← failures_eq_nil_iff hcompletes.length]
  rcases collect_eq hosts log.results with ⟨hnil, hcollect⟩ | ⟨hne, hcollect⟩
  · refine Or.inl ⟨hnil, ?_⟩
    simp only [Fleet.roundUnit, Fleet.round, hround, hcollect]
    rfl
  · refine Or.inr ⟨hne, ?_⟩
    simp only [Fleet.roundUnit, Fleet.round, hround, hcollect]
    rfl

/-! ### Sequences -/

/-- What a round does: the work for the host at each position. -/
abbrev RoundWork := Nat → HostRecord → HostTask Unit

/-- Rounds with these works begin one after the other as long as they succeed. -/
inductive Rounds (carrier : Carrier ρ σ) (hosts : List HostRecord) :
    List RoundWork → σ → List (RoundLog Unit) → Except FleetError Unit → σ → Prop
  /-- All rounds have succeeded. -/
  | nil {s : σ} : Rounds carrier hosts [] s [] (.ok ()) s
  /-- A round succeeds, and the next one begins. -/
  | passed {s t u : σ} {work : RoundWork} {works : List RoundWork} {log : RoundLog Unit}
      {logs : List (RoundLog Unit)} {result : Except FleetError Unit} :
      Happens carrier hosts s log.trace t → log.Completes carrier hosts work → log.Succeeds →
      Rounds carrier hosts works t logs result u →
      Rounds carrier hosts (work :: works) s (log :: logs) result u
  /-- A round fails, and no other one begins. -/
  | failed {s t : σ} {work : RoundWork} {works : List RoundWork} {log : RoundLog Unit} :
      Happens carrier hosts s log.trace t → log.Completes carrier hosts work → ¬ log.Succeeds →
      Rounds carrier hosts (work :: works) s [log]
        (.error (.round ⟨failures hosts log.results, hosts.length⟩)) t

/-- A round of a fleet is a sequence of its own. -/
theorem Fleet.exists_rounds_roundUnit (f : Fleet ρ σ) (n : Nat) (hosts : List HostRecord)
    (work : RoundWork) (s : σ) :
    ∃ log, Rounds f.carrier hosts [work] s [log] (f.roundUnit n hosts work s).1
      (f.roundUnit n hosts work s).2 := by
  obtain ⟨log, t, hhappens, hcompletes, ⟨hsucceeds, hround⟩ | ⟨hfails, hround⟩⟩ :=
    f.exists_log_roundUnit n hosts work s
  · rw [hround]
    exact ⟨log, .passed hhappens hcompletes hsucceeds .nil⟩
  · rw [hround]
    exact ⟨log, .failed hhappens hcompletes hfails⟩

section Rounds

variable {works : List RoundWork} {s t : σ} {logs : List (RoundLog Unit)}
  {result : Except FleetError Unit}

theorem Rounds.happens (h : Rounds carrier hosts works s logs result t) :
    Happens carrier hosts s (logs.flatMap RoundLog.trace) t := by
  induction h with
  | nil => exact .nil
  | passed hhappens _ _ _ ih => exact hhappens.append ih
  | failed hhappens => simpa using hhappens

/-- In each round that has begun every host has finished its work for that round. -/
theorem Rounds.completes (h : Rounds carrier hosts works s logs result t) {k : Nat}
    {log : RoundLog Unit} (hlog : logs[k]? = some log) :
    ∃ work, works[k]? = some work ∧ log.Completes carrier hosts work := by
  induction h generalizing k with
  | nil => cases hlog
  | @passed _ _ _ work _ _ _ _ _ hcompletes _ _ ih =>
    cases k with
    | zero =>
      obtain rfl := Option.some.inj hlog
      exact ⟨work, rfl, hcompletes⟩
    | succ k => exact ih hlog
  | @failed _ _ work _ _ _ hcompletes =>
    cases k with
    | zero =>
      obtain rfl := Option.some.inj hlog
      exact ⟨work, rfl, hcompletes⟩
    | succ k => cases hlog

/-- Every round that another one has followed has succeeded. -/
theorem Rounds.succeeds_of_append (h : Rounds carrier hosts works s logs result t)
    {earlier later : List (RoundLog Unit)} {log : RoundLog Unit}
    (hlogs : logs = earlier ++ log :: later) : ∀ l ∈ earlier, l.Succeeds := by
  induction h generalizing earlier with
  | nil => simp at hlogs
  | passed _ _ hsucceeds _ ih =>
    cases earlier with
    | nil => simp
    | cons first earlier =>
      obtain ⟨rfl, rfl⟩ := List.cons.inj hlogs
      exact List.forall_mem_cons.mpr ⟨hsucceeds, ih rfl⟩
  | failed =>
    cases earlier with
    | nil => simp
    | cons first earlier => simp at hlogs

theorem exists_log_of_flatMap_eq {logs : List (RoundLog α)} {before after : Trace}
    {event : Nat × Exchange} (h : logs.flatMap RoundLog.trace = before ++ event :: after) :
    ∃ earlier log later rest, logs = earlier ++ log :: later ∧
      before = earlier.flatMap RoundLog.trace ++ rest ∧ event ∈ log.trace := by
  induction logs generalizing before with
  | nil => simp at h
  | cons log logs ih =>
    rw [List.flatMap_cons, List.append_eq_append_iff] at h
    rcases h with ⟨rest, rfl, h⟩ | ⟨rest, hlog, h⟩
    · obtain ⟨earlier, log', later, rest, rfl, rfl, hmem⟩ := ih h
      exact ⟨log :: earlier, log', later, rest, rfl, by simp, hmem⟩
    · rcases List.cons_eq_append_iff.mp h with ⟨rfl, h⟩ | ⟨rest, rfl, -⟩
      · obtain ⟨earlier, log', later, rest, rfl, hrest, hmem⟩ := @ih [] h.symm
        exact ⟨log :: earlier, log', later, rest, rfl, by simp [hlog, ← hrest], hmem⟩
      · exact ⟨[], log, logs, before, rfl, rfl, by simp [hlog]⟩

/-- A call of a round is made for the work of that round, and it happens after all rounds before it:
their work has succeeded on every host. -/
theorem Rounds.barrier (h : Rounds carrier hosts works s logs result t) {before after : Trace}
    {i : Nat} {e : Exchange} (htrace : logs.flatMap RoundLog.trace = before ++ (i, e) :: after) :
    ∃ (n : Nat) (work : RoundWork) (host : HostRecord) (exchanges : List Exchange)
      (outcome : Except TaskFailure Unit), works[n]? = some work ∧ hosts[i]? = some host ∧
      Serves carrier host (work i host) exchanges outcome ∧ e ∈ exchanges ∧
      ∀ k < n, ∀ work' : RoundWork, works[k]? = some work' → ∀ j host', hosts[j]? = some host' →
        ∃ earlier a, Serves carrier host' (work' j host') earlier (.ok a) ∧ earlier ⊆ before.of j := by
  obtain ⟨earlier, log, later, rest, hlogs, rfl, hmem⟩ := exists_log_of_flatMap_eq htrace
  have hlog : logs[earlier.length]? = some log := by simp [hlogs]
  obtain ⟨work, hwork, hcompletes⟩ := h.completes hlog
  obtain ⟨host, hhost⟩ := h.happens.exists_host (htrace ▸ List.mem_append_right _ List.mem_cons_self)
  obtain ⟨outcome, -, hserves⟩ := hcompletes.exists_serves hhost
  refine ⟨earlier.length, work, host, _, outcome, hwork, hhost, hserves, Trace.mem_of_iff.mpr hmem,
    fun k hk work' hwork' j host' hhost' => ?_⟩
  have hk' : logs[k]? = some earlier[k] := by
    rw [hlogs, List.getElem?_append_left hk, List.getElem?_eq_getElem hk]
  obtain ⟨work'', hwork'', hcompletes'⟩ := h.completes hk'
  obtain rfl := Option.some.inj (hwork'.symm.trans hwork'')
  obtain ⟨a, hserves'⟩ := hcompletes'.serves_of_succeeds
    (h.succeeds_of_append hlogs _ (List.getElem_mem hk)) hhost'
  refine ⟨_, a, hserves', fun x hx => ?_⟩
  rw [Trace.mem_of_iff] at hx ⊢
  exact List.mem_append_left _ (List.mem_flatMap.mpr ⟨_, List.getElem_mem hk, hx⟩)

/-- No round follows one that fails, and the error of the operation lists the failures of this one. -/
theorem Rounds.of_not_succeeds (h : Rounds carrier hosts works s logs result t)
    {earlier later : List (RoundLog Unit)} {log : RoundLog Unit}
    (hlogs : logs = earlier ++ log :: later) (hfails : ¬ log.Succeeds) :
    later = [] ∧ result = .error (.round ⟨failures hosts log.results, hosts.length⟩) := by
  induction h generalizing earlier with
  | nil => simp at hlogs
  | passed _ _ hsucceeds _ ih =>
    cases earlier with
    | nil =>
      obtain ⟨rfl, -⟩ := List.cons.inj hlogs
      exact absurd hsucceeds hfails
    | cons first earlier =>
      obtain ⟨-, rfl⟩ := List.cons.inj hlogs
      exact ih rfl
  | failed =>
    cases earlier with
    | nil =>
      obtain ⟨rfl, rfl⟩ := List.cons.inj hlogs
      exact ⟨rfl, rfl⟩
    | cons first earlier => simp at hlogs

/-- An operation succeeds when every round has begun and succeeded. -/
theorem Rounds.of_ok (h : Rounds carrier hosts works s logs (.ok ()) t) :
    List.Forall₂ (fun work log => RoundLog.Completes log carrier hosts work ∧ log.Succeeds)
      works logs := by
  generalize hresult : (.ok () : Except FleetError Unit) = result at h
  induction h with
  | nil => exact .nil
  | passed _ hcompletes hsucceeds _ ih => exact .cons ⟨hcompletes, hsucceeds⟩ (ih hresult)
  | failed => cases hresult

theorem Rounds.eq_ok_iff (h : Rounds carrier hosts works s logs result t) :
    result = .ok () ↔ ∀ log ∈ logs, log.Succeeds := by
  induction h with
  | nil => simp
  | passed _ _ hsucceeds _ ih =>
    rw [ih, List.forall_mem_cons]
    exact (and_iff_right hsucceeds).symm
  | failed _ _ hfails => exact iff_of_false (by simp) fun hall => hfails (hall _ (by simp))

end Rounds

end AgentFleet
