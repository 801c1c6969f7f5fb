import AgentFleet.Fleet.Operations
import AgentFleet.Proofs.Fleet.Trace

/-!
# Recording changes nothing

A carrier that only sees a part of the state is followed by one that sees all of
it, when every call gives the same answer and leaves the same part behind
(`Carrier.Views`). Then a round gives the same result through either of them, in
every order of turns (`Carrier.Views.runRound`): each turn does, so all turns do,
and so do the tasks that are finished in the end. A carrier that records its calls
is the case in which the rest of the state is the record, so whatever is found in
the record of a round has happened in the round itself.
-/

namespace AgentFleet

variable {ρ σ τ α : Type}

/-! ### Carriers on a larger state -/

/-- A carrier does on a larger state what another one does on the part that it sees. -/
structure Carrier.Views (large : Carrier ρ τ) (small : Carrier ρ σ) (view : τ → σ) : Prop where
  remoteFor : ∀ host, large.remoteFor host = small.remoteFor host
  perform : ∀ remote c t, Prod.map id view (large.perform remote c t) = small.perform remote c (view t)

theorem Carrier.recorded_views (carrier : Carrier ρ σ) : carrier.recorded.Views carrier Prod.fst where
  remoteFor _ := rfl
  perform _ _ _ := rfl

namespace Carrier.Views

variable {large : Carrier ρ τ} {small : Carrier ρ σ} {view : τ → σ}

theorem turn (h : large.Views small view) (w : Worker ρ α) (t : τ) :
    Prod.map id view (w.turn large t) = w.turn small (view t) := by
  cases w with
  | idle result => rfl
  | busy remote task =>
    cases task with
    | done result => rfl
    | call c next =>
      simp only [Worker.turn, ← h.perform]
      rfl

theorem takeTurn (h : large.Views small view) (ws : List (Worker ρ α)) (t : τ) (i : Nat) :
    Prod.map id view (takeTurn large ws t i) = takeTurn small ws (view t) i := by
  unfold AgentFleet.takeTurn
  cases ws[i]? with
  | none => rfl
  | some w =>
    simp only [← h.turn]
    rfl

theorem takeTurns (h : large.Views small view) (turns : Turns) (ws : List (Worker ρ α)) (t : τ) :
    Prod.map id view (takeTurns large turns ws t) = takeTurns small turns ws (view t) := by
  induction turns generalizing ws t with
  | nil => rfl
  | cons i turns ih =>
    simp only [AgentFleet.takeTurns, ← h.takeTurn]
    exact ih _ _

theorem runTask (h : large.Views small view) (remote : ρ) (task : HostTask α) (t : τ) :
    Prod.map id view (Worker.runTask large remote task t) = Worker.runTask small remote task (view t) := by
  induction task generalizing t with
  | done result => rfl
  | call c next ih =>
    simp only [Worker.runTask, ← h.perform]
    exact ih _ _

theorem finish (h : large.Views small view) (w : Worker ρ α) (t : τ) :
    Prod.map id view (w.finish large t) = w.finish small (view t) := by
  cases w with
  | busy remote task => exact h.runTask remote task t
  | idle result => rfl

theorem finishAll (h : large.Views small view) (ws : List (Worker ρ α)) (t : τ) :
    Prod.map id view (finishAll large ws t) = finishAll small ws (view t) := by
  induction ws generalizing t with
  | nil => rfl
  | cons w ws ih =>
    simp only [AgentFleet.finishAll, ← h.finish, Prod.map, ← ih]
    rfl

theorem startAll (h : large.Views small view) (hosts : List HostRecord)
    (work : Nat → HostRecord → HostTask α) : startAll large hosts work = startAll small hosts work := by
  simp only [AgentFleet.startAll, Worker.start, h.remoteFor]

/-- A round gives the same result through either carrier. -/
theorem runRound (h : large.Views small view) (turns : Turns) (hosts : List HostRecord)
    (work : Nat → HostRecord → HostTask α) (t : τ) :
    Prod.map id view (runRound large turns hosts work t) = runRound small turns hosts work (view t) := by
  simp only [AgentFleet.runRound, ← h.startAll, ← h.takeTurns, Prod.map, ← h.finishAll]
  rfl

end Carrier.Views

/-! ### Fleets that record their calls -/

/-- The same machine beside a record that it does not touch. -/
def Machine.beside (m : Machine σ) : Machine (σ × τ) where
  run i s := ((m.run i s.1).1, (m.run i s.1).2, s.2)
  readFile path s := m.readFile path s.1
  pathExists path s := m.pathExists path s.1
  createDirectories path s :=
    ((m.createDirectories path s.1).1, (m.createDirectories path s.1).2, s.2)
  environment? name s := m.environment? name s.1
  accountHome? s := m.accountHome? s.1

namespace Fleet

/-- The same fleet with a record of the calls to its hosts. -/
def recorded (f : Fleet ρ σ) : Fleet ρ (σ × List (ρ × Exchange)) where
  machine := f.machine.beside
  carrier := f.carrier.recorded
  agents := f.agents
  turns := f.turns

theorem round_recorded (f : Fleet ρ σ) (n : Nat) (hosts : List HostRecord)
    (work : Nat → HostRecord → HostTask α) (s : σ) (calls : List (ρ × Exchange)) :
    Prod.map id Prod.fst (f.recorded.round n hosts work (s, calls)) = f.round n hosts work s := by
  have h := f.carrier.recorded_views.runRound (f.turns n) hosts work (s, calls)
  simp only [Fleet.round, ← h]
  rfl

theorem roundUnit_recorded (f : Fleet ρ σ) (n : Nat) (hosts : List HostRecord)
    (work : Nat → HostRecord → HostTask Unit) (s : σ) (calls : List (ρ × Exchange)) :
    Prod.map id Prod.fst (f.recorded.roundUnit n hosts work (s, calls)) =
      f.roundUnit n hosts work s := by
  simp only [Fleet.roundUnit, ← f.round_recorded n hosts work s calls]
  rfl

end Fleet

end AgentFleet
