import AgentFleet.Fleet.Round

/-!
# Reaching hosts

The connection that a record names decides where its host is. A host in a pod
takes its addressing from fields of its own; without a pod the address is the
pod. A record without an address has no host.
-/

namespace AgentFleet

/-- The fields that address a pod. -/
structure PodFieldNames where
  /-- The name of the pod. -/
  pod : String := "pod"
  /-- The namespace. -/
  namespaceName : String := "namespace"
  /-- The container. -/
  container : String := "container"
  /-- The context. -/
  context : String := "context"
  /-- The configuration file. -/
  kubeconfig : String := "kubeconfig"

/-- The names of the fields that address a pod. -/
def podField : PodFieldNames := {}

namespace HostRecord

/-- Refuses a record without an address. -/
def requireAddress (r : HostRecord) : Except FleetError Unit :=
  if r.publicIp.isEmpty then .error (.missingAddress r.publicIp) else .ok ()

/-- The host of a record behind a secure shell. -/
def sshTarget (r : HostRecord) : Except FleetError SshTarget := do
  r.requireAddress
  return { host := r.publicIp, user := r.sshUser, options := r.sshOptions }

/-- The host of a record in a pod. -/
def podTarget (r : HostRecord) : Except FleetError PodTarget := do
  r.requireAddress
  return {
    pod := (r.extraText? podField.pod).getD r.publicIp
    namespaceName := r.extraText? podField.namespaceName
    container := r.extraText? podField.container
    context := r.extraText? podField.context
    kubeconfig := r.extraText? podField.kubeconfig }

/-- Where the host of a record is. -/
def target (r : HostRecord) : Except FleetError Target :=
  match r.connection with
  | .ssh => r.sshTarget.map Target.ssh
  | .kubectl => r.podTarget.map Target.pod

end HostRecord

/-- The remote of a record. -/
def Tools.remoteFor (tools : Tools) (r : HostRecord) : Except FleetError Remote :=
  r.target.map fun target => ⟨tools, target⟩

/-- Reaches hosts by tools on a machine. -/
def Carrier.ofTools {σ : Type} (m : Machine σ) (tools : Tools) : Carrier Remote σ where
  remoteFor := tools.remoteFor
  perform := Remote.perform m

end AgentFleet
