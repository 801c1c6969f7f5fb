/-!
# Targets and tools

Where a host is: behind a secure shell or in a pod. The local programs that
carry calls to it are tools, each a program with its first arguments.
-/

namespace AgentFleet

/-- A program and its first arguments. -/
abbrev Tool := List String

/-- The local programs that carry calls. -/
structure Tools where
  /-- The secure shell. -/
  ssh : Tool := ["ssh"]
  /-- The copy program of the secure shell. -/
  scp : Tool := ["scp"]
  /-- The synchronizing copy program. -/
  rsync : Tool := ["rsync"]
  /-- The cluster's command line. -/
  kubectl : Tool := ["kubectl"]
  /-- The archive program that unpacks what a pod sends. -/
  tar : Tool := ["tar"]
  deriving DecidableEq, Repr, Inhabited

/-- A host behind a secure shell. -/
structure SshTarget where
  /-- The address. -/
  host : String
  /-- The login user. -/
  user : String
  /-- The options of the login, as one text. -/
  options : String := ""
  deriving DecidableEq, Repr, Inhabited

/-- The user and the address of a host as the secure shell writes them. -/
def SshTarget.destination (t : SshTarget) : String :=
  t.user ++ "@" ++ t.host

/-- A container in a pod. -/
structure PodTarget where
  /-- The name of the pod. -/
  pod : String
  /-- The namespace, or else the current one. -/
  namespaceName : Option String := none
  /-- The container, or else the first one. -/
  container : Option String := none
  /-- The context of the configuration, or else the current one. -/
  context : Option String := none
  /-- The configuration file; a leading tilde stands for the home directory. -/
  kubeconfig : Option String := none
  deriving DecidableEq, Repr, Inhabited

/-- Where a host is. -/
inductive Target where
  /-- Behind a secure shell. -/
  | ssh (t : SshTarget)
  /-- In a pod. -/
  | pod (t : PodTarget)
  deriving DecidableEq, Repr, Inhabited

namespace Target

/-- What messages call a host. -/
def name : Target → String
  | ssh t => t.host
  | pod t => t.pod

/-- The name of the way to a host. -/
def transport : Target → String
  | ssh _ => "ssh"
  | pod _ => "kubectl"

end Target

/-! ### Commands -/

/-- How a command is run and when its status is an error. -/
structure ExecOptions where
  /-- Discard the output. -/
  silent : Bool := false
  /-- Take a status other than zero as an error. -/
  failOnError : Bool := true
  deriving DecidableEq, Repr, Inhabited

/-- The options of a question whose answer is the status. -/
def ExecOptions.probe : ExecOptions :=
  { silent := true, failOnError := false }

/-- What a command left behind. -/
structure ExecResult where
  /-- The exit status. -/
  status : Int
  /-- Both outputs, the standard output first; nothing for a silent command. -/
  output : String
  deriving DecidableEq, Repr, Inhabited

/-- Whether a command succeeded. -/
def ExecResult.success (r : ExecResult) : Bool :=
  r.status == 0

end AgentFleet
