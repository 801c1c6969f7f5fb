import AgentFleet.Inventory.Error
import AgentFleet.Transport.Error

/-!
# Fleet errors

Why an operation on the fleet failed. A round of work over all hosts reports the
failure of every host, in the order of the hosts.
-/

namespace AgentFleet

/-- The failure of the work for one host. -/
structure HostFailure where
  /-- The address of the host. -/
  host : String
  /-- The wording of the reason. -/
  message : String
  deriving DecidableEq, Repr, Inhabited

/-- A failure with its host. -/
def HostFailure.text (f : HostFailure) : String :=
  f.host ++ ": " ++ f.message

/-- A round that did not succeed on every host. -/
structure RoundFailure where
  /-- The failures in the order of the hosts. -/
  failures : List HostFailure
  /-- How many hosts there were. -/
  total : Nat
  deriving DecidableEq, Repr, Inhabited

/-- The wording of a failed round. -/
def RoundFailure.message (f : RoundFailure) : String :=
  toString f.failures.length ++ " of " ++ toString f.total ++ " hosts failed"

/-- Why an operation on the fleet failed. -/
inductive FleetError where
  /-- A call to a host failed. -/
  | remote (e : RemoteError)
  /-- The inventory could not be loaded. -/
  | inventory (e : InventoryError)
  /-- A host has no address. -/
  | missingAddress (host : String)
  /-- The settings could not be loaded. -/
  | config (text : String)
  /-- Some hosts of a round failed. -/
  | round (f : RoundFailure)
  /-- A local directory could not be created. -/
  | io (text : String)
  deriving DecidableEq, Repr

/-- The wording of a fleet error. -/
def FleetError.message : FleetError → String
  | remote e => e.message
  | inventory e => e.message
  | missingAddress host => "host " ++ host ++ " is missing required field \x60public_ip\x60"
  | config text => "configuration error: " ++ text
  | round f => f.message
  | io text => "I/O error: " ++ text

end AgentFleet
