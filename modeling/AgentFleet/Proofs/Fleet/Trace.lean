import AgentFleet.Fleet.Round
import Mathlib.Data.List.Basic

/-!
# Traces of rounds

A trace lists the calls of a round with their answers, each under the position
of its host; a carrier that records its calls records the trace
(`Happens.recorded`). Whatever the order of turns, a round comes to an end in which
every task has got its own answers up to its own result
(`exists_completes_runRound`). The invariant is `Underway`: what has happened leads
each worker from its task to what is left of it. A turn preserves it
(`Underway.takeTurn`), so all turns do. Any host can be the next one to finish
(`exists_turns_finish`), and the hosts that finish one after the other in the end
only take more turns (`exists_turns_finishAll`).
-/

namespace AgentFleet

variable {ρ σ α : Type} {carrier : Carrier ρ σ} {hosts : List HostRecord}
  {work : Nat → HostRecord → HostTask α}

/-- A call to a host with its answer. -/
structure Exchange where
  /-- What the host was asked. -/
  call : Call
  /-- What it answered. -/
  answer : Except RemoteError call.Answer

/-! ### Traces -/

/-- Exchanges in the order in which they have happened, each under the position of its host. -/
abbrev Trace := List (Nat × Exchange)

/-- The exchanges of the host at a position. -/
def Trace.of (trace : Trace) (i : Nat) : List Exchange :=
  (trace.filter fun event => event.1 == i).map Prod.snd

@[simp] theorem Trace.of_nil (i : Nat) : Trace.of [] i = [] := rfl

@[simp] theorem Trace.of_append (trace trace' : Trace) (i : Nat) :
    Trace.of (trace ++ trace') i = trace.of i ++ trace'.of i := by
  simp [Trace.of]

/-- The trace of exchanges with one host. -/
def Trace.single (i : Nat) (exchanges : List Exchange) : Trace :=
  exchanges.map fun e => (i, e)

theorem Trace.of_single_self (i : Nat) (exchanges : List Exchange) :
    (Trace.single i exchanges).of i = exchanges := by
  induction exchanges with
  | nil => rfl
  | cons e exchanges ih => simpa [Trace.single, Trace.of] using ih

theorem Trace.of_single_of_ne {i j : Nat} (h : i ≠ j) (exchanges : List Exchange) :
    (Trace.single i exchanges).of j = [] := by
  simp [Trace.single, Trace.of, h]

theorem Trace.mem_of_iff {trace : Trace} {i : Nat} {e : Exchange} :
    e ∈ trace.of i ↔ (i, e) ∈ trace := by
  simp [Trace.of]

/-- The exchanges of a trace happen one after the other, from a state to another one. -/
inductive Happens (carrier : Carrier ρ σ) (hosts : List HostRecord) : σ → Trace → σ → Prop
  /-- Nothing happens. -/
  | nil {s : σ} : Happens carrier hosts s [] s
  /-- A host answers a call, and the rest happens afterwards. -/
  | cons {s t u : σ} {i : Nat} {e : Exchange} {trace : Trace} {host : HostRecord} {remote : ρ} :
      hosts[i]? = some host → carrier.remoteFor host = .ok remote →
      carrier.perform remote e.call s = (e.answer, t) → Happens carrier hosts t trace u →
      Happens carrier hosts s ((i, e) :: trace) u

theorem Happens.append {s t u : σ} {trace trace' : Trace} (h : Happens carrier hosts s trace t)
    (h' : Happens carrier hosts t trace' u) : Happens carrier hosts s (trace ++ trace') u := by
  induction h with
  | nil => exact h'
  | cons hhost hremote hperform _ ih => exact .cons hhost hremote hperform (ih h')

theorem Happens.exists_host {s t : σ} {trace : Trace} (h : Happens carrier hosts s trace t) {i : Nat}
    {e : Exchange} (hmem : (i, e) ∈ trace) : ∃ host, hosts[i]? = some host := by
  induction h with
  | nil => cases hmem
  | @cons _ _ _ j _ _ host _ hhost _ _ _ ih =>
    rcases List.mem_cons.mp hmem with heq | hmem
    · obtain ⟨rfl, -⟩ := Prod.mk.inj heq
      exact ⟨host, hhost⟩
    · exact ih hmem

/-- A carrier that also keeps a list of the calls that were made through its remotes. -/
def Carrier.recorded (carrier : Carrier ρ σ) : Carrier ρ (σ × List (ρ × Exchange)) where
  remoteFor := carrier.remoteFor
  perform remote c s :=
    ((carrier.perform remote c s.1).1, (carrier.perform remote c s.1).2,
      s.2 ++ [(remote, ⟨c, (carrier.perform remote c s.1).1⟩)])

/-- A trace is what a recording carrier has recorded: the same exchanges in the same order, each with
the remote of the host at its position. -/
theorem Happens.recorded {s t : σ × List (ρ × Exchange)} {trace : Trace}
    (h : Happens carrier.recorded hosts s trace t) :
    Happens carrier hosts s.1 trace t.1 ∧ ∃ made, t.2 = s.2 ++ made ∧
      List.Forall₂ (fun event entry => event.2 = entry.2 ∧
        ∃ host, hosts[event.1]? = some host ∧ carrier.remoteFor host = .ok entry.1) trace made := by
  induction h with
  | nil => exact ⟨.nil, [], (List.append_nil _).symm, .nil⟩
  | @cons s t u i e trace host remote hhost hremote hperform _ ih =>
    obtain ⟨hhappens, made, hmade, hall⟩ := ih
    obtain ⟨c, answer⟩ := e
    obtain ⟨hanswer, rfl⟩ := Prod.mk.inj hperform
    dsimp only at hanswer
    subst hanswer
    refine ⟨.cons hhost hremote rfl hhappens, (remote, _) :: made, ?_,
      .cons ⟨rfl, host, hhost, hremote⟩ hall⟩
    rw [hmade, List.append_assoc]
    rfl

/-! ### What is left of a task -/

/-- A task has made some calls and got these answers, and something is left of it. -/
inductive HostTask.Leads : HostTask α → List Exchange → HostTask α → Prop
  /-- All of it is left. -/
  | refl {task : HostTask α} : Leads task [] task
  /-- It goes on with the answer of its first call. -/
  | call {c : Call} {next : Except RemoteError c.Answer → HostTask α}
      {answer : Except RemoteError c.Answer} {exchanges : List Exchange} {rest : HostTask α} :
      Leads (next answer) exchanges rest → Leads (.call c next) (⟨c, answer⟩ :: exchanges) rest

theorem HostTask.Leads.concat {task : HostTask α} {exchanges : List Exchange} {c : Call}
    {next : Except RemoteError c.Answer → HostTask α}
    (h : task.Leads exchanges (.call c next)) (answer : Except RemoteError c.Answer) :
    task.Leads (exchanges ++ [⟨c, answer⟩]) (next answer) := by
  generalize hrest : HostTask.call c next = rest at h
  induction h with
  | refl =>
    subst hrest
    exact .call .refl
  | call _ ih => exact .call (ih hrest)

/-- The task of a host has ended with a result after some exchanges; without a remote there is none
and the task has failed. -/
inductive Serves (carrier : Carrier ρ σ) (host : HostRecord) (task : HostTask α) :
    List Exchange → Except TaskFailure α → Prop
  /-- The host has a remote, and nothing is left of the task. -/
  | ended {remote : ρ} {exchanges : List Exchange} {result : Except TaskFailure α} :
      carrier.remoteFor host = .ok remote → task.Leads exchanges (.done result) →
      Serves carrier host task exchanges result
  /-- The host has no remote. -/
  | unreached {e : FleetError} : carrier.remoteFor host = .error e →
      Serves carrier host task [] (.error (.error e))

theorem Serves.exists_remote {host : HostRecord} {task : HostTask α} {exchanges : List Exchange}
    {a : α} (h : Serves carrier host task exchanges (.ok a)) :
    ∃ remote, carrier.remoteFor host = .ok remote := by
  cases h with
  | ended hremote _ => exact ⟨_, hremote⟩

/-- A worker is where the exchanges have led the task of its host. -/
inductive Worker.Reached (carrier : Carrier ρ σ) (host : HostRecord) (task : HostTask α) :
    List Exchange → Worker ρ α → Prop
  /-- Something is left to do. -/
  | busy {remote : ρ} {exchanges : List Exchange} {rest : HostTask α} :
      carrier.remoteFor host = .ok remote → task.Leads exchanges rest →
      Reached carrier host task exchanges (.busy remote rest)
  /-- The task has ended. -/
  | idle {exchanges : List Exchange} {result : Except TaskFailure α} :
      Serves carrier host task exchanges result → Reached carrier host task exchanges (.idle result)

theorem Worker.reached_start (carrier : Carrier ρ σ) (host : HostRecord) (task : HostTask α) :
    (Worker.start carrier host task).Reached carrier host task [] := by
  unfold Worker.start
  cases hremote : carrier.remoteFor host with
  | ok remote => exact .busy hremote .refl
  | error e => exact .idle (.unreached hremote)

theorem Worker.serves_of_reached_idle {host : HostRecord} {task : HostTask α}
    {exchanges : List Exchange} {result : Except TaskFailure α}
    (h : (Worker.idle result : Worker ρ α).Reached carrier host task exchanges) :
    Serves carrier host task exchanges result := by
  cases h with
  | idle hserves => exact hserves

/-- A turn of a worker makes one call or none, and the worker is where the answer leads. -/
theorem Worker.reached_turn {i : Nat} {host : HostRecord} {task : HostTask α}
    {exchanges : List Exchange} {w : Worker ρ α} (hhost : hosts[i]? = some host)
    (h : w.Reached carrier host task exchanges) (s : σ) :
    ∃ more, Happens carrier hosts s (Trace.single i more) (w.turn carrier s).2 ∧
      (w.turn carrier s).1.Reached carrier host task (exchanges ++ more) := by
  cases h with
  | @busy remote _ rest hremote hleads =>
    cases rest with
    | done result =>
      refine ⟨[], .nil, ?_⟩
      rw [List.append_nil]
      exact .idle (.ended hremote hleads)
    | call c next =>
      exact ⟨[⟨c, (carrier.perform remote c s).1⟩], .cons hhost hremote rfl .nil,
        .busy hremote (hleads.concat _)⟩
  | idle hserves =>
    refine ⟨[], .nil, ?_⟩
    rw [List.append_nil]
    exact .idle hserves

/-! ### A round that is underway -/

/-- A round with these workers is underway: a trace has happened since its beginning, and it has led
every host to where its worker is. -/
structure Underway (carrier : Carrier ρ σ) (hosts : List HostRecord)
    (work : Nat → HostRecord → HostTask α) (s₀ : σ) (trace : Trace) (ws : List (Worker ρ α)) (s : σ) :
    Prop where
  happens : Happens carrier hosts s₀ trace s
  length : ws.length = hosts.length
  reached : ∀ i host (w : Worker ρ α), hosts[i]? = some host → ws[i]? = some w →
    w.Reached carrier host (work i host) (trace.of i)

theorem underway_startAll (carrier : Carrier ρ σ) (hosts : List HostRecord)
    (work : Nat → HostRecord → HostTask α) (s : σ) :
    Underway carrier hosts work s [] (startAll carrier hosts work) s where
  happens := .nil
  length := by simp [startAll]
  reached := by
    intro i host w hhost hw
    rw [startAll, List.getElem?_mapIdx, hhost] at hw
    obtain rfl := Option.some.inj hw
    exact Worker.reached_start carrier host (work i host)

/-- A turn of any host keeps a round underway. -/
theorem Underway.takeTurn {s₀ s : σ} {trace : Trace} {ws : List (Worker ρ α)}
    (h : Underway carrier hosts work s₀ trace ws s) (i : Nat) :
    ∃ trace', Underway carrier hosts work s₀ trace' (takeTurn carrier ws s i).1
      (takeTurn carrier ws s i).2 := by
  unfold AgentFleet.takeTurn
  cases hw : ws[i]? with
  | none => exact ⟨trace, h⟩
  | some w =>
    obtain ⟨hi, -⟩ := List.getElem?_eq_some_iff.mp hw
    obtain ⟨host, hhost⟩ : ∃ host, hosts[i]? = some host :=
      ⟨_, List.getElem?_eq_getElem (h.length ▸ hi)⟩
    obtain ⟨more, hhappens, hreached⟩ :=
      Worker.reached_turn hhost (h.reached i host w hhost hw) s
    refine ⟨trace ++ Trace.single i more, h.happens.append hhappens, by simpa using h.length, ?_⟩
    intro j host' w' hhost' hw'
    rw [Trace.of_append]
    by_cases hij : i = j
    · subst hij
      rw [List.getElem?_set_self hi] at hw'
      obtain rfl := Option.some.inj hw'
      obtain rfl := Option.some.inj (hhost.symm.trans hhost')
      rw [Trace.of_single_self]
      exact hreached
    · rw [List.getElem?_set_ne hij] at hw'
      rw [Trace.of_single_of_ne hij, List.append_nil]
      exact h.reached j host' w' hhost' hw'

/-- All turns keep a round underway. -/
theorem Underway.takeTurns {s₀ s : σ} {trace : Trace} {ws : List (Worker ρ α)}
    (h : Underway carrier hosts work s₀ trace ws s) (turns : Turns) :
    ∃ trace', Underway carrier hosts work s₀ trace' (takeTurns carrier turns ws s).1
      (takeTurns carrier turns ws s).2 := by
  induction turns generalizing trace ws s with
  | nil => exact ⟨trace, h⟩
  | cons i turns ih =>
    obtain ⟨trace', h'⟩ := h.takeTurn i
    exact ih h'

/-! ### Finishing -/

theorem takeTurns_append (carrier : Carrier ρ σ) (turns more : Turns) (ws : List (Worker ρ α))
    (s : σ) :
    takeTurns carrier (turns ++ more) ws s =
      takeTurns carrier more (takeTurns carrier turns ws s).1 (takeTurns carrier turns ws s).2 := by
  induction turns generalizing ws s with
  | nil => rfl
  | cons i turns ih => exact ih _ _

theorem takeTurn_append_cons (carrier : Carrier ρ σ) (before : List (Worker ρ α)) (w : Worker ρ α)
    (after : List (Worker ρ α)) (s : σ) :
    takeTurn carrier (before ++ w :: after) s before.length =
      (before ++ (w.turn carrier s).1 :: after, (w.turn carrier s).2) := by
  simp [takeTurn]

/-- A host finishes its task by taking turns. -/
theorem exists_turns_runTask (carrier : Carrier ρ σ) (remote : ρ) (task : HostTask α)
    (before after : List (Worker ρ α)) (s : σ) :
    ∃ turns, takeTurns carrier turns (before ++ .busy remote task :: after) s =
      (before ++ .idle (Worker.runTask carrier remote task s).1 :: after,
        (Worker.runTask carrier remote task s).2) := by
  induction task generalizing s with
  | done result =>
    refine ⟨[before.length], ?_⟩
    rw [takeTurns, takeTurn_append_cons]
    rfl
  | call c next ih =>
    obtain ⟨turns, hturns⟩ := ih (carrier.perform remote c s).1 (carrier.perform remote c s).2
    refine ⟨before.length :: turns, ?_⟩
    rw [takeTurns, takeTurn_append_cons]
    exact hturns

theorem exists_turns_finish (carrier : Carrier ρ σ) (w : Worker ρ α)
    (before after : List (Worker ρ α)) (s : σ) :
    ∃ turns, takeTurns carrier turns (before ++ w :: after) s =
      (before ++ .idle (w.finish carrier s).1 :: after, (w.finish carrier s).2) := by
  cases w with
  | busy remote task => exact exists_turns_runTask carrier remote task before after s
  | idle result => exact ⟨[], rfl⟩

/-- All hosts finish by taking turns. -/
theorem exists_turns_finishAll (carrier : Carrier ρ σ) (ws : List (Worker ρ α)) (s : σ) :
    ∃ turns, takeTurns carrier turns ws s =
      ((finishAll carrier ws s).1.map Worker.idle, (finishAll carrier ws s).2) := by
  -- the workers before the one that finishes next are idle already and stay so
  suffices h : ∀ before : List (Worker ρ α), ∃ turns, takeTurns carrier turns (before ++ ws) s =
      (before ++ (finishAll carrier ws s).1.map Worker.idle, (finishAll carrier ws s).2) from h []
  induction ws generalizing s with
  | nil => exact fun before => ⟨[], rfl⟩
  | cons w ws ih =>
    intro before
    obtain ⟨turns, hturns⟩ := exists_turns_finish carrier w before ws s
    obtain ⟨more, hmore⟩ := ih (w.finish carrier s).2 (before ++ [.idle (w.finish carrier s).1])
    refine ⟨turns ++ more, ?_⟩
    rw [takeTurns_append, hturns]
    simpa [finishAll] using hmore

/-! ### Rounds that are over -/

/-- A round that is over: its trace and the result of each host. -/
structure RoundLog (α : Type) where
  /-- What has happened. -/
  trace : Trace
  /-- How the task of each host has ended. -/
  results : List (Except TaskFailure α)

/-- In a round every host has finished its task. -/
structure RoundLog.Completes (log : RoundLog α) (carrier : Carrier ρ σ) (hosts : List HostRecord)
    (work : Nat → HostRecord → HostTask α) : Prop where
  length : log.results.length = hosts.length
  serves : ∀ i host result, hosts[i]? = some host → log.results[i]? = some result →
    Serves carrier host (work i host) (log.trace.of i) result

/-- In every order of turns a round ends with every task, and its result collects theirs. -/
theorem exists_completes_runRound (carrier : Carrier ρ σ) (turns : Turns) (hosts : List HostRecord)
    (work : Nat → HostRecord → HostTask α) (s : σ) :
    ∃ log : RoundLog α, Happens carrier hosts s log.trace (runRound carrier turns hosts work s).2 ∧
      log.Completes carrier hosts work ∧
      (runRound carrier turns hosts work s).1 = collect hosts log.results := by
  let workers := takeTurns carrier turns (startAll carrier hosts work) s
  obtain ⟨more, hmore⟩ := exists_turns_finishAll carrier workers.1 workers.2
  obtain ⟨trace, hall⟩ := (underway_startAll carrier hosts work s).takeTurns (turns ++ more)
  rw [takeTurns_append, hmore] at hall
  refine ⟨⟨trace, (finishAll carrier workers.1 workers.2).1⟩, hall.happens, ⟨?_, ?_⟩, rfl⟩
  · simpa using hall.length
  · intro i host result hhost hresult
    refine Worker.serves_of_reached_idle (hall.reached i host (.idle result) hhost ?_)
    rw [List.getElem?_map, hresult]
    rfl

end AgentFleet
