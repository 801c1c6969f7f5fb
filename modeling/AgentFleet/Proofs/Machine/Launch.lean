import AgentFleet.Machine.Basic
import AgentFleet.Transport.Target

/-!
# Starting processes

A tool may name no program, the system may refuse to start the one it names, and
otherwise a process runs to its end. These three ways (`Launch`) are all that a
caller sees of a process that it starts (`launch_witnessed`). A witnessed machine
keeps what it has been asked to do together with its answers, and gives the same
answers as before.
-/

namespace AgentFleet

variable {σ : Type}

theorem status_eq_zero_iff (o : Outcome) : o.status = 0 ↔ o.ending = .exited 0 := by
  unfold Outcome.status
  cases o.ending with
  | exited code => simp [Ending.status]
  | signaled => simp [Ending.status]

/-! ### The ways of starting a process -/

/-- What starting a process comes to. -/
inductive Launch where
  /-- The tool names no program. -/
  | noProgram
  /-- The system does not start the program. -/
  | refused (e : OsError)
  /-- The process has run to its end. -/
  | ended (o : Outcome)
  deriving DecidableEq, Repr

namespace Machine

/-- Starts a process for a tool with further arguments. -/
def launch (m : Machine σ) (tool : Tool) (arguments : List String) (input : List UInt8) (s : σ) :
    Launch × σ :=
  match tool with
  | [] => (.noProgram, s)
  | program :: base =>
    match m.run ⟨program, base ++ arguments, input⟩ s with
    | (.ok o, s) => (.ended o, s)
    | (.error e, s) => (.refused e, s)

/-- A machine without files, on which the program and its arguments decide how a process comes out. -/
def answering (answer : Invocation → Except OsError Outcome) : Machine Unit where
  run i s := (answer i, s)
  readFile _ _ := .error .notFound
  pathExists _ _ := false
  createDirectories _ s := (.ok (), s)
  environment? _ _ := none

end Machine

/-! ### What a machine has done -/

/-- Something that a machine has been asked to do, with its answer. -/
inductive Deed where
  /-- A process was to be run. -/
  | ran (i : Invocation) (answer : Except OsError Outcome)
  /-- A directory was to be created. -/
  | created (path : String) (answer : Except OsError Unit)

/-- The exit status of a process that has run to its end. -/
def Deed.status? : Deed → Option Int
  | ran _ (.ok o) => some o.status
  | ran _ (.error _) | created _ _ => none

namespace Machine

/-- The machine that also keeps a list of what it has done. -/
def witnessed (m : Machine σ) : Machine (σ × List Deed) where
  run i s := ((m.run i s.1).1, (m.run i s.1).2, s.2 ++ [.ran i (m.run i s.1).1])
  readFile path s := m.readFile path s.1
  pathExists path s := m.pathExists path s.1
  createDirectories path s :=
    ((m.createDirectories path s.1).1, (m.createDirectories path s.1).2,
      s.2 ++ [.created path (m.createDirectories path s.1).1])
  environment? name s := m.environment? name s.1
  accountHome? s := m.accountHome? s.1

/-- What starting a process has a machine do: it runs one, unless the tool names no program. -/
def launchDeeds (m : Machine σ) (tool : Tool) (arguments : List String) (input : List UInt8) (s : σ) :
    List Deed :=
  match tool with
  | [] => []
  | program :: base =>
    [.ran ⟨program, base ++ arguments, input⟩ (m.run ⟨program, base ++ arguments, input⟩ s).1]

theorem launch_witnessed (m : Machine σ) (tool : Tool) (arguments : List String)
    (input : List UInt8) (s : σ) (deeds : List Deed) :
    m.witnessed.launch tool arguments input (s, deeds) =
      ((m.launch tool arguments input s).1, (m.launch tool arguments input s).2,
        deeds ++ m.launchDeeds tool arguments input s) := by
  cases tool with
  | nil => simp [launch, launchDeeds]
  | cons program base =>
    simp only [launch, launchDeeds, witnessed]
    rcases m.run ⟨program, base ++ arguments, input⟩ s with ⟨e | o, t⟩
    · rfl
    · rfl

end Machine

end AgentFleet
