/-!
# Transport errors

Why a call to a host failed, the one wording of each reason, and the exit status
that some reasons carry.
-/

namespace AgentFleet

/-- The direction of a transfer. -/
inductive Direction where
  /-- From here to the host. -/
  | toHost
  /-- From the host to here. -/
  | fromHost
  deriving DecidableEq, Repr, Inhabited

/-- The wording of a direction. -/
def Direction.text : Direction → String
  | toHost => "copy-to"
  | fromHost => "copy-from"

/-- Why a call to a host failed. -/
inductive RemoteError where
  /-- The host was to be reachable and is not. -/
  | connect (host : String) (status : Int)
  /-- A command failed that was to succeed. -/
  | command (host text : String) (status : Int) (output : String)
  /-- A transfer failed. -/
  | transfer (host : String) (direction : Direction) (status : Int) (detail : String)
  /-- A local program could not be started. -/
  | spawn (program message : String)
  /-- A local directory could not be created. -/
  | io (text : String)
  deriving DecidableEq, Repr, Inhabited

namespace RemoteError

/-- The wording of a transport error. -/
def message : RemoteError → String
  | connect host status => "connect to " ++ host ++ " failed with exit status " ++ toString status
  | command host text status output =>
    "exec on " ++ host ++ " failed with exit status " ++ toString status ++ ": \x60" ++ text ++
      "\x60\n" ++ output
  | transfer host direction status detail =>
    direction.text ++ " on " ++ host ++ " failed with exit status " ++ toString status ++ ": " ++
      detail
  | spawn program message => "failed to spawn " ++ program ++ ": " ++ message
  | io text => "I/O error: " ++ text

/-- The exit status that an error carries. -/
def exitStatus? : RemoteError → Option Int
  | connect _ status | command _ _ status _ | transfer _ _ status _ => some status
  | spawn _ _ | io _ => none

end RemoteError

end AgentFleet
