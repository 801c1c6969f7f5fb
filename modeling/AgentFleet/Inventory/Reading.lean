import AgentFleet.Document.Reading
import AgentFleet.Inventory.Layout

/-!
# Inventories as text

The records of an inventory that is given as the text of a document.
-/

namespace AgentFleet

/-- The records of the text of an inventory. -/
def inventoryOfText (text : String) (d : HostDefaults) : Except InventoryError (List HostRecord) :=
  match Document.read? text with
  | some doc => inventory doc d
  | none => .error (.malformed "the text is no document")

end AgentFleet
