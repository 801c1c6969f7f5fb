import AgentFleet.Inventory.Pattern
import AgentFleet.Inventory.Reading
import AgentFleet.Machine.Basic
import AgentFleet.Transport.Target

/-!
# Loading inventories

An inventory is read from its file. When the file cannot be read, is refused or
lists no host, two inventory tools are asked instead: one lists the names that
match the pattern, the other dumps all hosts with their variables. The tools
apply the pattern, so their answer is not selected from again.
-/

namespace AgentFleet

variable {σ : Type}

/-- Where an inventory is and which tools can read it. -/
structure InventorySettings where
  /-- The inventory file. -/
  path : String := "inventory.yaml"
  /-- The tool that lists the names of hosts. -/
  ansible : Tool := ["ansible"]
  /-- The tool that dumps an inventory. -/
  ansibleInventory : Tool := ["ansible-inventory"]
  deriving DecidableEq, Repr, Inhabited

/-! ### The inventory tools -/

/-- The output of a tool that has ended; its status must be zero. -/
def toolOutput (program : String) (o : Outcome) : Except InventoryError String :=
  if o.status == 0 then .ok (Text.decodeLossy o.stdout)
  else
    .error (.fallback (program ++ " exited with " ++ toString o.status ++ ": " ++
      Text.trim (Text.decodeLossy o.stderr)))

/-- Runs an inventory tool with further arguments. -/
def runInventoryTool (m : Machine σ) (tool : Tool) (arguments : List String) (s : σ) :
    Except InventoryError String × σ :=
  match tool with
  | [] => (.error (.fallback "empty command prefix"), s)
  | program :: base =>
    match m.run { program := program, arguments := base ++ arguments } s with
    | (.ok o, s) => (toolOutput program o, s)
    | (.error e, s) => (.error (.fallback ("failed to run " ++ program ++ ": " ++ e.message)), s)

/-- The names that a listing gives, below its first line. -/
def listedNames (listing : String) : List String :=
  (((Text.lines listing).drop 1).map Text.trim).filter fun name => !name.isEmpty

/-- The records of the hosts of a dump that have been listed. -/
def listedRecords (names : List String) (doc : Value) (d : HostDefaults) :
    Except InventoryError (List HostRecord) :=
  (((Layout.ansibleHosts doc d).getD []).filter fun host => names.contains host.1).mapM
    fun host => normalize host.2 d

/-- The records of the hosts of the text of a dump that have been listed. -/
def dumpedRecords (names : List String) (dump : String) (d : HostDefaults) :
    Except InventoryError (List HostRecord) :=
  match Document.read? dump with
  | some doc => listedRecords names doc d
  | none => .error (.fallback "the text is no document")

/-- Asks the inventory tools for the hosts that match a pattern. -/
def resolve (m : Machine σ) (settings : InventorySettings) (d : HostDefaults) (path : String)
    (pattern : HostPattern) (s : σ) : Except InventoryError (List HostRecord) × σ :=
  match runInventoryTool m settings.ansible ["-i", path, "--list-hosts", pattern.text] s with
  | (.error e, s) => (.error e, s)
  | (.ok listing, s) =>
    match runInventoryTool m settings.ansibleInventory ["-i", path, "-y", "--list"] s with
    | (.error e, s) => (.error e, s)
    | (.ok dump, s) => (dumpedRecords (listedNames listing) dump d, s)

/-! ### Loading -/

/-- The records of an inventory file. -/
def readInventory (m : Machine σ) (d : HostDefaults) (path : String) (s : σ) :
    Except InventoryError (List HostRecord) :=
  match m.readText path s with
  | .error text => .error (.io (path ++ ": " ++ text))
  | .ok text => inventoryOfText text d

/-- The answer of the inventory tools, after what reading the file came to. -/
def preferNative (native : Except InventoryError (List HostRecord))
    (answer : Except InventoryError (List HostRecord)) : Except InventoryError (List HostRecord) :=
  match answer, native with
  | .ok records, _ => .ok records
  | .error _, .error e => .error e
  | .error e, .ok _ => .error e

/-- Loads the hosts of an inventory that match a pattern. -/
def loadInventory (m : Machine σ) (settings : InventorySettings) (d : HostDefaults)
    (path : Option String) (pattern : HostPattern) (s : σ) :
    Except InventoryError (List HostRecord) × σ :=
  let path := path.getD settings.path
  if !m.pathExists path s then (.error (.notFound path), s)
  else
    match readInventory m d path s with
    | .ok (r :: rs) => (.ok (pattern.select (r :: rs)), s)
    | native =>
      let (answer, s) := resolve m settings d path pattern s
      (preferNative native answer, s)

end AgentFleet
