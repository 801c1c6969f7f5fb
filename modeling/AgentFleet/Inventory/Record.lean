import AgentFleet.Document.Value

/-!
# Host records

A host of the fleet as the rest of the library sees it: how it is reached, the
group it was declared in, and every other field of its entry unchanged. A record
is also a flat mapping, the known fields first.
-/

namespace AgentFleet

/-- How the commands for a host travel. -/
inductive Connection where
  /-- By a secure shell to the host's address. -/
  | ssh
  /-- By a command executed in a pod. -/
  | kubectl
  deriving DecidableEq, Repr, Inhabited

namespace Connection

/-- The spelling of a connection in an inventory. -/
def text : Connection → String
  | ssh => "ssh"
  | kubectl => "kubectl"

/-- The connection that a field names, if it names one. -/
def ofText? (s : String) : Option Connection :=
  if s == "ssh" then some ssh else if s == "kubectl" then some kubectl else none

/-- The connection of a host that names none. -/
def standard : Connection := ssh

end Connection

/-- What an entry that leaves a field out is given. -/
structure HostDefaults where
  /-- The login user. -/
  sshUser : String := "simulator"
  /-- The private key of the login. -/
  identityFile : String := "key"
  /-- The seconds to wait for a connection. -/
  connectTimeoutSecs : Nat := 60
  /-- The port of the agent. -/
  agentPort : String := "9000"
  deriving DecidableEq, Repr, Inhabited

namespace HostDefaults

/-- The options of a login with a given private key. -/
def sshOptionsForKey (d : HostDefaults) (key : String) : String :=
  "-i " ++ key ++ " -o StrictHostKeyChecking=no -o ConnectTimeout=" ++ toString d.connectTimeoutSecs

/-- The options of a login with the default key. -/
def sshOptions (d : HostDefaults) : String :=
  d.sshOptionsForKey d.identityFile

end HostDefaults

/-- A host of the fleet. -/
structure HostRecord where
  /-- The address that reaches the host; with the group it identifies the record. -/
  publicIp : String
  /-- The address inside the cluster. -/
  privateIp : Option String := none
  /-- The login user. -/
  sshUser : String
  /-- The options of the login. -/
  sshOptions : String
  /-- The port of the agent. -/
  agentPort : String
  /-- The group that the host was declared in. -/
  groupname : Option String := none
  /-- How commands travel to the host. -/
  connection : Connection := .ssh
  /-- The fields without a meaning here, unchanged and in order. -/
  extra : Mapping := []
  deriving Inhabited

/-- The names of the fields with a meaning. -/
structure FieldNames where
  /-- The address. -/
  publicIp : String
  /-- The address inside the cluster. -/
  privateIp : String
  /-- The login user. -/
  sshUser : String
  /-- The options of the login. -/
  sshOptions : String
  /-- The port of the agent. -/
  agentPort : String
  /-- The group. -/
  groupname : String
  /-- The connection. -/
  connection : String

/-- The field names of an inventory. -/
def field : FieldNames :=
  { publicIp := "public_ip"
    privateIp := "private_ip"
    sshUser := "ssh_user"
    sshOptions := "ssh_options"
    agentPort := "agent_port"
    groupname := "groupname"
    connection := "connection" }

namespace HostRecord

/-- What no two records of an inventory share: the address and the group. -/
def identity (r : HostRecord) : String × Option String :=
  (r.publicIp, r.groupname)

/-- Whether the host was declared in a group. -/
def inGroup (r : HostRecord) (group : String) : Bool :=
  r.groupname == some group

/-- A field without a meaning here. -/
def extra? (r : HostRecord) (name : String) : Option Value :=
  Mapping.get? r.extra name

/-- The text of a field without a meaning here, if it is a scalar with a text. -/
def extraText? (r : HostRecord) (name : String) : Option String :=
  (r.extra? name).bind Value.scalarText

/-- An entry for a text that may be absent. -/
def entryOf (name : String) : Option String → Mapping
  | none => []
  | some s => [(.str name, .str s)]

/-- The known fields of a record as a mapping; absent ones are left out. -/
def knownFields (r : HostRecord) : Mapping :=
  [(.str field.publicIp, .str r.publicIp)] ++ entryOf field.privateIp r.privateIp ++
    [(.str field.sshUser, .str r.sshUser), (.str field.sshOptions, .str r.sshOptions),
      (.str field.agentPort, .str r.agentPort)] ++
    entryOf field.groupname r.groupname ++ [(.str field.connection, .str r.connection.text)]

/-- The record as a flat mapping: the known fields and then the others. -/
def toMapping (r : HostRecord) : Mapping :=
  r.knownFields ++ r.extra

/-- Hosts as a document: the sequence of their flat mappings. -/
def listing (hosts : List HostRecord) : Value :=
  .seq (hosts.map fun r => .map r.toMapping)

/-- Whether two records are equal, the order of the other fields aside. -/
def same (a b : HostRecord) : Bool :=
  a.publicIp == b.publicIp && a.privateIp == b.privateIp && a.sshUser == b.sshUser &&
    a.sshOptions == b.sshOptions && a.agentPort == b.agentPort && a.groupname == b.groupname &&
    a.connection == b.connection && (Value.map a.extra).same (.map b.extra)

end HostRecord

end AgentFleet
