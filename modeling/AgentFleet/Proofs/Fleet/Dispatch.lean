import AgentFleet.Proofs.Fleet.Trace
import Mathlib.Data.List.Zip
import Mathlib.Data.Set.List

/-!
# What a round gives back

A round gives all values in the order of the hosts, or else one failure for each
host whose task has no value, in that order and under the address of that very
host. When the outcome of every task is given, so is the result of the round,
in every order of turns (`runRound_of_outcomes`). Hosts are told apart by their
positions, since several may have one address.
-/

namespace AgentFleet

variable {ρ σ α : Type} {carrier : Carrier ρ σ} {hosts : List HostRecord}
  {work : Nat → HostRecord → HostTask α}

/-! ### Collecting results -/

/-- What a round reports of a host whose task has come to a result. -/
def HostRecord.failure? (host : HostRecord) : Except TaskFailure α → Option HostFailure
  | .ok _ => none
  | .error e => some ⟨host.publicIp, e.message⟩

/-- The failures of the hosts with these results. -/
def failures (hosts : List HostRecord) (results : List (Except TaskFailure α)) : List HostFailure :=
  (hosts.zip results).filterMap fun p => p.1.failure? p.2

theorem failures_cons_ok (host : HostRecord) (a : α) (results : List (Except TaskFailure α)) :
    failures (host :: hosts) (.ok a :: results) = failures hosts results := rfl

theorem failures_cons_error (host : HostRecord) (e : TaskFailure)
    (results : List (Except TaskFailure α)) :
    failures (host :: hosts) (.error e :: results) =
      ⟨host.publicIp, e.message⟩ :: failures hosts results := rfl

theorem length_failures_le (hosts : List HostRecord) (results : List (Except TaskFailure α)) :
    (failures hosts results).length ≤ hosts.length :=
  calc (failures hosts results).length
      ≤ (hosts.zip results).length := List.length_filterMap_le _ _
    _ ≤ hosts.length := by rw [List.length_zip]; exact Nat.min_le_left _ _

theorem failuresOf_zip (hosts : List HostRecord) (results : List (Except TaskFailure α)) :
    failuresOf (hosts.zip results) = failures hosts results := by
  induction hosts generalizing results with
  | nil => rfl
  | cons host hosts ih =>
    rcases results with _ | ⟨e | a, results⟩
    · rfl
    · rw [List.zip_cons_cons, failuresOf, ih, failures_cons_error]
    · rw [List.zip_cons_cons, failuresOf, ih, failures_cons_ok]

/-- No host has failed when every result is a value, and only then. -/
theorem failures_eq_nil_iff {results : List (Except TaskFailure α)}
    (hlen : results.length = hosts.length) :
    failures hosts results = [] ↔ ∀ result ∈ results, ∃ a, result = .ok a := by
  induction hosts generalizing results with
  | nil =>
    obtain rfl := List.length_eq_zero_iff.mp hlen
    exact iff_of_true rfl (by simp)
  | cons host hosts ih =>
    obtain ⟨result, results, rfl⟩ := List.exists_cons_of_length_eq_add_one hlen
    rw [List.forall_mem_cons]
    cases result with
    | error e => simp [failures_cons_error]
    | ok a =>
      rw [failures_cons_ok, ih (Nat.succ.inj hlen)]
      exact (and_iff_right ⟨a, rfl⟩).symm

/-- Results that are all values are a list of values. -/
theorem exists_values_iff {results : List (Except TaskFailure α)} :
    (∃ values : List α, results = values.map .ok) ↔ ∀ result ∈ results, ∃ a, result = .ok a := by
  have h := Set.ext_iff.mp (Set.range_list_map (.ok : α → Except TaskFailure α)) results
  simpa [eq_comm] using h

theorem valuesOf_zip_map_ok {values : List α} (hlen : values.length = hosts.length) :
    valuesOf (hosts.zip (values.map .ok)) = values := by
  induction values generalizing hosts with
  | nil => simp [valuesOf]
  | cons a values ih =>
    obtain ⟨host, hosts, rfl⟩ := List.exists_cons_of_length_eq_add_one hlen.symm
    rw [List.map_cons, List.zip_cons_cons, valuesOf, ih (Nat.succ.inj hlen)]

/-- Results are collected to their values, or else to the failures among them. -/
theorem collect_eq (hosts : List HostRecord) (results : List (Except TaskFailure α)) :
    (failures hosts results = [] ∧ collect hosts results = .ok (valuesOf (hosts.zip results))) ∨
      failures hosts results ≠ [] ∧
        collect hosts results = .error ⟨failures hosts results, hosts.length⟩ := by
  unfold collect
  dsimp only
  rw [failuresOf_zip]
  cases failures hosts results with
  | nil => exact Or.inl ⟨rfl, rfl⟩
  | cons failure rest => exact Or.inr ⟨List.cons_ne_nil _ _, rfl⟩

theorem collect_eq_ok_iff {results : List (Except TaskFailure α)} {values : List α}
    (hlen : results.length = hosts.length) :
    collect hosts results = .ok values ↔ results = values.map .ok := by
  rcases collect_eq hosts results with ⟨hnil, hcollect⟩ | ⟨hne, hcollect⟩
  · obtain ⟨values', rfl⟩ := exists_values_iff.mpr ((failures_eq_nil_iff hlen).mp hnil)
    rw [List.length_map] at hlen
    rw [hcollect, valuesOf_zip_map_ok hlen, Except.ok.injEq]
    exact (List.map_injective_iff.mpr fun _ _ => Except.ok.inj).eq_iff.symm
  · rw [hcollect]
    refine iff_of_false (by simp) fun h => hne ((failures_eq_nil_iff hlen).mpr ?_)
    exact exists_values_iff.mp ⟨values, h⟩

theorem collect_eq_error_iff {results : List (Except TaskFailure α)} {failure : RoundFailure} :
    collect hosts results = .error failure ↔
      failures hosts results ≠ [] ∧ failure = ⟨failures hosts results, hosts.length⟩ := by
  rcases collect_eq hosts results with ⟨hnil, hcollect⟩ | ⟨hne, hcollect⟩
  · rw [hcollect]
    exact iff_of_false (by simp) fun h => h.1 hnil
  · rw [hcollect, Except.error.injEq, eq_comm]
    exact (and_iff_right hne).symm

/-! ### Outcomes -/

/-- A host can answer a call in this way, in some state. -/
def CanAnswer (carrier : Carrier ρ σ) (host : HostRecord) (e : Exchange) : Prop :=
  ∃ remote s t, carrier.remoteFor host = .ok remote ∧
    carrier.perform remote e.call s = (e.answer, t)

/-- The work for a host has an outcome: it ends with it, whichever answers the host gives. -/
def ComesTo (carrier : Carrier ρ σ) (host : HostRecord) (task : HostTask α)
    (outcome : Except TaskFailure α) : Prop :=
  ∀ exchanges result, (∀ e ∈ exchanges, CanAnswer carrier host e) →
    Serves carrier host task exchanges result → result = outcome

theorem Happens.canAnswer {s t : σ} {trace : Trace} (h : Happens carrier hosts s trace t) {i : Nat}
    {host : HostRecord} (hhost : hosts[i]? = some host) :
    ∀ e ∈ trace.of i, CanAnswer carrier host e := by
  induction h with
  | nil => simp
  | @cons s t _ j e trace host' remote hhost' hremote hperform _ ih =>
    intro e' he'
    rcases List.mem_cons.mp (Trace.mem_of_iff.mp he') with heq | hmem
    · obtain ⟨rfl, rfl⟩ := Prod.mk.inj heq
      obtain rfl := Option.some.inj (hhost.symm.trans hhost')
      exact ⟨remote, s, t, hremote, hperform⟩
    · exact ih e' (Trace.mem_of_iff.mpr hmem)

/-- The failures of given outcomes, each with the host at its position. -/
theorem failures_outcomes (hosts : List HostRecord) (outcome : Nat → Except TaskFailure α) :
    failures hosts ((List.range hosts.length).map outcome) =
      hosts.zipIdx.filterMap fun p => p.1.failure? (outcome p.2) := by
  rw [failures, List.zip_map_right, List.filterMap_map, List.zipIdx_eq_zip_range',
    List.range_eq_range']
  rfl

/-- When the work for every host has an outcome, the outcomes are the results. -/
theorem RoundLog.Completes.results_eq {log : RoundLog α} {s t : σ}
    {outcome : Nat → Except TaskFailure α} (h : log.Completes carrier hosts work)
    (hhappens : Happens carrier hosts s log.trace t)
    (houtcome : ∀ i host, hosts[i]? = some host → ComesTo carrier host (work i host) (outcome i)) :
    log.results = (List.range hosts.length).map outcome := by
  refine List.ext_getElem (by simp [h.length]) fun i hi _ => ?_
  have hlt : i < hosts.length := h.length ▸ hi
  have hhost : hosts[i]? = some hosts[i] := List.getElem?_eq_getElem hlt
  rw [List.getElem_map, List.getElem_range]
  exact houtcome i _ hhost _ _ (hhappens.canAnswer hhost)
    (h.serves i _ _ hhost (List.getElem?_eq_getElem hi))

/-- With given outcomes a round ends with each of them, and collects them. -/
theorem exists_trace_runRound {outcome : Nat → Except TaskFailure α}
    (houtcome : ∀ i host, hosts[i]? = some host → ComesTo carrier host (work i host) (outcome i))
    (turns : Turns) (s : σ) :
    ∃ trace : Trace, Happens carrier hosts s trace (runRound carrier turns hosts work s).2 ∧
      (∀ i host, hosts[i]? = some host →
        Serves carrier host (work i host) (trace.of i) (outcome i)) ∧
      (runRound carrier turns hosts work s).1 =
        collect hosts ((List.range hosts.length).map outcome) := by
  obtain ⟨log, hhappens, hcompletes, hround⟩ := exists_completes_runRound carrier turns hosts work s
  have hresults := hcompletes.results_eq hhappens houtcome
  refine ⟨log.trace, hhappens, fun i host hhost => hcompletes.serves i host _ hhost ?_, ?_⟩
  · obtain ⟨hi, -⟩ := List.getElem?_eq_some_iff.mp hhost
    rw [hresults]
    simp [hi]
  · rw [hround, hresults]

/-- Given the outcome of the work for every host, a round is over when all of it is, and its result
does not depend on the order of turns: it is all values in the order of the hosts, or else the
failures in that order, each with the address of its host and the wording of its task. -/
theorem runRound_of_outcomes {outcome : Nat → Except TaskFailure α}
    (houtcome : ∀ i host, hosts[i]? = some host → ComesTo carrier host (work i host) (outcome i))
    (turns : Turns) (s : σ) :
    let round := runRound carrier turns hosts work s
    (∃ trace, Happens carrier hosts s trace round.2 ∧ ∀ i host, hosts[i]? = some host →
      Serves carrier host (work i host) (trace.of i) (outcome i)) ∧
    (∀ values, round.1 = .ok values ↔ (List.range hosts.length).map outcome = values.map .ok) ∧
    (∀ failure, round.1 = .error failure → failure.total = hosts.length ∧
      failure.failures = hosts.zipIdx.filterMap (fun p => p.1.failure? (outcome p.2)) ∧
      1 ≤ failure.failures.length ∧ failure.failures.length ≤ failure.total) ∧
    ∀ turns' s', (runRound carrier turns' hosts work s').1 = round.1 := by
  intro round
  obtain ⟨trace, hhappens, hserves, hround⟩ := exists_trace_runRound houtcome turns s
  refine ⟨⟨trace, hhappens, hserves⟩, fun values => ?_, fun failure hfailure => ?_, fun turns' s' => ?_⟩
  · rw [show round.1 = _ from hround]
    exact collect_eq_ok_iff (by simp)
  · obtain ⟨hne, rfl⟩ := collect_eq_error_iff.mp (hround.symm.trans hfailure)
    exact ⟨rfl, failures_outcomes hosts outcome, List.length_pos_iff.mpr hne, length_failures_le _ _⟩
  · obtain ⟨-, -, -, hround'⟩ := exists_trace_runRound houtcome turns' s'
    rw [hround', show round.1 = _ from hround]

/-- Hosts that can be found, and that refuse every call. -/
def unplugged : Carrier Unit Unit where
  remoteFor _ := .ok ()
  perform _ _ s := (.error (.io "unplugged"), s)

/-- Three hosts of one address. -/
def twins : List HostRecord :=
  List.replicate 3 { publicIp := "10.0.0.1", sshUser := "", sshOptions := "", agentPort := "" }

/-- The first host needs no answer, the second one breaks off on any, and the others need a good one. -/
def mixedWork : Nat → HostRecord → HostTask Nat
  | 0, _ => .done (.ok 7)
  | 1, _ => .call (.exec "true" {}) fun _ => .done (.error (.panic "broken"))
  | _ + 2, _ => .attempt (.exec "true" {}) fun _ => .done (.ok 8)

/-- What the work comes to when nobody answers. -/
def mixedOutcome : Nat → Except TaskFailure Nat
  | 0 => .ok 7
  | 1 => .error (.panic "broken")
  | _ + 2 => .error (.error (.remote (.io "unplugged")))

theorem comesTo_mixedWork (i : Nat) (host : HostRecord) :
    ComesTo unplugged host (mixedWork i host) (mixedOutcome i) := by
  rintro exchanges result hcan (⟨-, hleads⟩ | ⟨⟨⟩⟩)
  match i with
  | 0 =>
    cases hleads
    rfl
  | 1 =>
    obtain _ | ⟨⟨⟩⟩ := hleads
    rfl
  | i + 2 =>
    rw [mixedWork, HostTask.attempt] at hleads
    obtain _ | @⟨_, _, answer, _, _, hleads⟩ := hleads
    obtain ⟨_, _, _, -, hanswer⟩ := hcan _ List.mem_cons_self
    have hanswer : .error (.io "unplugged") = answer := (Prod.mk.inj hanswer).1
    subst hanswer
    cases hleads
    rfl

theorem runRound_of_outcomes_twins :
    (runRound unplugged [2, 1, 0, 1] twins mixedWork ()).1 =
        (runRound unplugged [] twins mixedWork ()).1 ∧
      (runRound unplugged [2, 1, 0, 1] twins mixedWork ()).1 =
        .error ⟨[⟨"10.0.0.1", "task # panicked with message \"broken\""⟩,
          ⟨"10.0.0.1", "I/O error: unplugged"⟩], 3⟩ := by
  have houtcome : ∀ i host, twins[i]? = some host →
      ComesTo unplugged host (mixedWork i host) (mixedOutcome i) :=
    fun i host _ => comesTo_mixedWork i host
  obtain ⟨-, hok, herror, hsame⟩ := runRound_of_outcomes houtcome [2, 1, 0, 1] ()
  refine ⟨(hsame [] ()).symm, ?_⟩
  cases hround : (runRound unplugged [2, 1, 0, 1] twins mixedWork ()).1 with
  | ok values =>
    have hall := (hok values).mp hround
    rcases values with _ | ⟨_, _ | ⟨_, _⟩⟩ <;> simp [twins, mixedOutcome, List.range_succ] at hall
  | error failure =>
    obtain ⟨htotal, hfailures, -, -⟩ := herror failure hround
    obtain ⟨failures, total⟩ := failure
    subst htotal hfailures
    decide +kernel

end AgentFleet
