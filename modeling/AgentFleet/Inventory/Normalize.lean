import AgentFleet.Document.Writer
import AgentFleet.Inventory.Error
import AgentFleet.Inventory.Record
import AgentFleet.Text.Blank
import AgentFleet.Text.Quoted

/-!
# Normalization

A raw entry becomes a host record. An entry needs an address; every other known
field may be absent, null or an empty text, which all count as absent and take
the default. A known field that is a sequence or a mapping is refused. All other
fields are carried along unchanged.
-/

namespace AgentFleet

/-! ### Naming a value in a message -/

mutual

/-- The structure of a value spelled out, for values without a document text. -/
def Value.outline : Value → String
  | .null => "Null"
  | .bool b => "Bool(" ++ (if b then "true" else "false") ++ ")"
  | .int n => "Number(" ++ toString n ++ ")"
  | .float x => "Number(" ++ x.text ++ ")"
  | .str s => "String(" ++ Text.quoted s ++ ")"
  | .seq items => "Sequence [" ++ Text.join ", " (outlines items) ++ "]"
  | .map entries =>
    if entries.isEmpty then "Mapping \x7b\x7d"
    else "Mapping \x7b" ++ Text.join ", " (entryOutlines entries) ++ "\x7d"
  | .tagged tag v => "TaggedValue \x7b tag: !" ++ tag ++ ", value: " ++ outline v ++ " \x7d"

/-- The items of a sequence spelled out. -/
def Value.outlines : List Value → List String
  | [] => []
  | v :: vs => outline v :: outlines vs

/-- The entries of a mapping spelled out; scalar keys stand without their kind. -/
def Value.entryOutlines : List (Value × Value) → List String
  | [] => []
  | (.str s, v) :: es => (Text.quoted s ++ ": " ++ outline v) :: entryOutlines es
  | (.int n, v) :: es => (toString n ++ ": " ++ outline v) :: entryOutlines es
  | (.float x, v) :: es => (x.text ++ ": " ++ outline v) :: entryOutlines es
  | (.bool b, v) :: es =>
    ((if b then "true" else "false") ++ ": " ++ outline v) :: entryOutlines es
  | (k, v) :: es => (outline k ++ ": " ++ outline v) :: entryOutlines es

end

/-- A value on one line of a message: its document text with commas for line breaks. -/
def Value.describe (v : Value) : String :=
  match Writer.write? v with
  | some text => Text.replace '\n' ", " (Text.trim text)
  | none => v.outline

/-! ### Known fields -/

/-- The text of a known field that is set: the others of its kind take a default. -/
def Mapping.fieldText (m : Mapping) (name : String) : Except InventoryError (Option String) :=
  match m.get? name with
  | none | some .null => .ok none
  | some (.seq items) =>
    .error (.validation
      ("field " ++ name ++ " must be a scalar, got " ++ (Value.seq items).describe))
  | some (.map entries) =>
    .error (.validation
      ("field " ++ name ++ " must be a scalar, got " ++ (Value.map entries).describe))
  | some v => .ok v.scalarText

/-- A mapping without the known fields. -/
def Mapping.withoutKnown (m : Mapping) : Mapping :=
  (((((((m.erase field.publicIp).erase field.privateIp).erase field.sshUser).erase
    field.sshOptions).erase field.agentPort).erase field.groupname).erase field.connection)

/-- The connection that a field names; an unknown or absent name is the standard connection. -/
def Connection.ofField (text : Option String) : Connection :=
  (text.bind Connection.ofText?).getD .standard

/-- The record of a raw entry under given defaults. -/
def normalize (raw : Mapping) (d : HostDefaults) : Except InventoryError HostRecord :=
  match (raw.get? field.publicIp).bind Value.scalarText with
  | none =>
    .error (.validation ("could not find public_ip in host entry " ++ (Value.map raw).describe))
  | some _ => do
    let publicIp ← raw.fieldText field.publicIp
    let privateIp ← raw.fieldText field.privateIp
    let sshUser ← raw.fieldText field.sshUser
    let sshOptions ← raw.fieldText field.sshOptions
    let agentPort ← raw.fieldText field.agentPort
    let groupname ← raw.fieldText field.groupname
    let connection ← raw.fieldText field.connection
    return {
      publicIp := publicIp.getD ""
      privateIp := privateIp
      sshUser := sshUser.getD d.sshUser
      sshOptions := sshOptions.getD d.sshOptions
      agentPort := agentPort.getD d.agentPort
      groupname := groupname
      connection := Connection.ofField connection
      extra := raw.withoutKnown }

end AgentFleet
