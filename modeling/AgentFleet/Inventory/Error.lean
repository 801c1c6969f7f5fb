/-!
# Inventory errors

Why an inventory could not be loaded, and the one wording of each reason.
-/

namespace AgentFleet

/-- Why an inventory could not be loaded. -/
inductive InventoryError where
  /-- A host entry cannot be used. -/
  | validation (text : String)
  /-- An address is declared twice in one group. -/
  | duplicateHost (publicIp groupname : String)
  /-- The inventory file does not exist. -/
  | notFound (path : String)
  /-- The inventory file cannot be read. -/
  | io (text : String)
  /-- The inventory file is no document. -/
  | malformed (text : String)
  /-- The inventory tools could not answer either. -/
  | fallback (text : String)
  deriving DecidableEq, Repr

namespace InventoryError

/-- The wording of an inventory error. -/
def message : InventoryError → String
  | validation text => "invalid host entry: " ++ text
  | duplicateHost ip group => "duplicate host " ++ ip ++ " in group " ++ group
  | notFound path => "could not find inventory [" ++ path ++ "]"
  | io text => "I/O error: " ++ text
  | malformed text => "YAML parse error: " ++ text
  | fallback text => "inventory tool fallback failed: " ++ text

/-- Whether the error is about the content of the inventory. -/
def isValidation : InventoryError → Bool
  | validation _ | duplicateHost _ _ => true
  | _ => false

end InventoryError

end AgentFleet
