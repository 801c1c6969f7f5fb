import AgentFleet.Fleet.Carrier
import AgentFleet.Proofs.Document.Mapping
import AgentFleet.Proofs.Inventory.Acceptance
import AgentFleet.Proofs.Loading.Identities
import AgentFleet.Proofs.Selection.Membership

/-!
# Where the hosts of an inventory are

Every record that an inventory gives is the record of some entry
(`Produced.exists_entry`): parsing and the inventory tools normalize entries, and a
selection makes no records of its own. Such a record has an address, and the fields
that address a pod are carried along from its entry, so that its host can be reached
and the entry says where it is (`remoteFor_addresses`). Any other record has a host
as long as it has an address (`remoteFor_eq_error_iff`).
-/

namespace AgentFleet

open Checked

variable {σ : Type} {raw : Mapping} {d : HostDefaults} {r : HostRecord} {tools : Tools}

/-! ### The entries of records -/

theorem exists_entry_of_mem_inventory {doc : Value} {records : List HostRecord}
    (h : inventory doc d = .ok records) (hr : r ∈ records) : ∃ raw, normalize raw d = .ok r := by
  obtain ⟨raw, -, hraw⟩ := exists_of_map_eq (inventory_eq_ok_iff.mp h).1 hr
  exact ⟨raw, hraw⟩

theorem exists_entry_of_mem_inventoryOfText {text : String} {records : List HostRecord}
    (h : inventoryOfText text d = .ok records) (hr : r ∈ records) :
    ∃ raw, normalize raw d = .ok r := by
  unfold inventoryOfText at h
  split at h
  case h_1 doc hread => exact exists_entry_of_mem_inventory h hr
  case h_2 => cases h

theorem exists_entry_of_mem_listedRecords {names : List String} {doc : Value}
    {records : List HostRecord} (h : listedRecords names doc d = .ok records) (hr : r ∈ records) :
    ∃ raw, normalize raw d = .ok r := by
  obtain ⟨host, -, hhost⟩ := exists_of_map_eq ((mapM_eq_ok_iff _ _ _).mp h) hr
  exact ⟨host.2, hhost⟩

/-- Loaded records are normalized from the file or from what the tools have dumped. -/
theorem exists_entry_of_mem_loadInventory {m : Machine σ} {settings : InventorySettings}
    {path : Option String} {p : HostPattern} {s : σ} {hosts : List HostRecord}
    (h : (loadInventory m settings d path p s).1 = .ok hosts) (hr : r ∈ hosts) :
    ∃ raw, normalize raw d = .ok r := by
  rcases loadInventory_eq_ok h with ⟨first, rest, hread, rfl⟩ | ⟨-, hresolve⟩
  · unfold readInventory at hread
    split at hread
    case h_1 => cases hread
    case h_2 text htext =>
      exact exists_entry_of_mem_inventoryOfText hread (HostPattern.mem_of_mem_select hr)
  · obtain ⟨listing, dump, doc, -, -, hlisted⟩ := resolve_eq_ok_iff.mp (Prod.ext hresolve rfl)
    exact exists_entry_of_mem_listedRecords hlisted hr

/-- A record that an inventory gives, in any of the ways in which it gives records. -/
inductive Produced : HostRecord → Prop
  /-- It is normalized from an entry. -/
  | normalized {raw : Mapping} {d : HostDefaults} {r : HostRecord} :
      normalize raw d = .ok r → Produced r
  /-- It is a record of a document. -/
  | parsed {doc : Value} {d : HostDefaults} {records : List HostRecord} {r : HostRecord} :
      inventory doc d = .ok records → r ∈ records → Produced r
  /-- It is selected from other such records. -/
  | selected {p : HostPattern} {hosts : List HostRecord} {r : HostRecord} :
      (∀ host ∈ hosts, Produced host) → r ∈ p.select hosts → Produced r
  /-- It is loaded, from the file or from the answer of the tools. -/
  | loaded {σ : Type} {m : Machine σ} {settings : InventorySettings} {d : HostDefaults}
      {path : Option String} {p : HostPattern} {s : σ} {hosts : List HostRecord} {r : HostRecord} :
      (loadInventory m settings d path p s).1 = .ok hosts → r ∈ hosts → Produced r

/-- Every record of an inventory is the record of some entry. -/
theorem Produced.exists_entry (h : Produced r) : ∃ raw d, normalize raw d = .ok r := by
  induction h with
  | @normalized raw d r hraw => exact ⟨raw, d, hraw⟩
  | @parsed doc d records r hrecords hr =>
    obtain ⟨raw, hraw⟩ := exists_entry_of_mem_inventory hrecords hr
    exact ⟨raw, d, hraw⟩
  | selected _ hr ih => exact ih _ (HostPattern.mem_of_mem_select hr)
  | @loaded σ m settings d path p s hosts r hhosts hr =>
    obtain ⟨raw, hraw⟩ := exists_entry_of_mem_loadInventory hhosts hr
    exact ⟨raw, d, hraw⟩

/-! ### Fields that are carried along -/

/-- A field without a meaning gives the same text in the record as in the entry. -/
theorem extraText?_of_normalize {name : String} (h : normalize raw d = .ok r)
    (hname : name ∉ field.all) : r.extraText? name = raw.text? name := by
  obtain ⟨-, -, rfl⟩ := normalize_eq_ok_iff.mp h
  have hfield : raw.withoutKnown.get? name = raw.get? name := Mapping.get?_foldl_erase hname raw
  rw [HostRecord.extraText?, HostRecord.extra?, Mapping.text?, HostRecord.ofEntry, hfield]

/-! ### Addressing -/

/-- Where the host of a record with an address is. -/
def HostRecord.addressedTarget (r : HostRecord) : Target :=
  match r.connection with
  | .ssh => .ssh { host := r.publicIp, user := r.sshUser, options := r.sshOptions }
  | .kubectl =>
    .pod {
      pod := (r.extraText? podField.pod).getD r.publicIp
      namespaceName := r.extraText? podField.namespaceName
      container := r.extraText? podField.container
      context := r.extraText? podField.context
      kubeconfig := r.extraText? podField.kubeconfig }

theorem target_eq (r : HostRecord) :
    r.target =
      if r.publicIp = "" then .error (.missingAddress "") else .ok r.addressedTarget := by
  have haddress : r.requireAddress =
      if r.publicIp = "" then .error (.missingAddress "") else .ok () := by
    unfold HostRecord.requireAddress
    by_cases hempty : r.publicIp = "" <;> simp [hempty]
  unfold HostRecord.target HostRecord.addressedTarget HostRecord.sshTarget HostRecord.podTarget
  rw [haddress]
  by_cases hempty : r.publicIp = ""
  · rw [if_pos hempty, if_pos hempty]
    cases r.connection <;> rfl
  · rw [if_neg hempty, if_neg hempty]
    cases r.connection <;> rfl

theorem remoteFor_eq (tools : Tools) (r : HostRecord) :
    tools.remoteFor r =
      if r.publicIp = "" then .error (.missingAddress "") else .ok ⟨tools, r.addressedTarget⟩ := by
  rw [Tools.remoteFor, target_eq]
  split <;> rfl

/-- A record has no remote when it has no address, and this is the only error. -/
theorem remoteFor_eq_error_iff {e : FleetError} :
    tools.remoteFor r = .error e ↔ r.publicIp = "" ∧ e = .missingAddress "" := by
  rw [remoteFor_eq]
  by_cases hempty : r.publicIp = "" <;> simp [hempty, eq_comm]

/-- What messages call a host with an address is not empty. -/
theorem name_addressedTarget_ne_empty (h : r.publicIp ≠ "") : r.addressedTarget.name ≠ "" := by
  unfold HostRecord.addressedTarget
  cases r.connection with
  | ssh => exact h
  | kubectl =>
    cases hpod : r.extraText? podField.pod with
    | none => simpa [Target.name] using h
    | some pod =>
      have hpod : Mapping.text? r.extra podField.pod = some pod := hpod
      simpa [Target.name] using Mapping.text?_ne_empty hpod

/-- Where an entry with these defaults says that the host of its record is. -/
inductive Addresses (raw : Mapping) (d : HostDefaults) (r : HostRecord) : Target → Prop
  /-- The host is behind a secure shell. -/
  | ssh {connection user options : Option String} :
      raw.Gives "connection" connection → Connection.ofField connection = .ssh →
      raw.Gives "public_ip" (some r.publicIp) →
      raw.Gives "ssh_user" user → r.sshUser = user.getD d.sshUser →
      raw.Gives "ssh_options" options → r.sshOptions = options.getD d.sshOptions →
      Addresses raw d r (.ssh { host := r.publicIp, user := r.sshUser, options := r.sshOptions })
  /-- The host is in a pod, and without a pod of its own the address is the pod. -/
  | pod {connection pod namespaceName container context kubeconfig : Option String} :
      raw.Gives "connection" connection → Connection.ofField connection = .kubectl →
      raw.Gives "public_ip" (some r.publicIp) → raw.Gives "pod" pod →
      raw.Gives "namespace" namespaceName → raw.Gives "container" container →
      raw.Gives "context" context → raw.Gives "kubeconfig" kubeconfig →
      Addresses raw d r
        (.pod { pod := pod.getD r.publicIp, namespaceName, container, context, kubeconfig })

/-- The host of a normalized record is where the entry says. -/
theorem addresses_of_normalize (h : normalize raw d = .ok r) :
    Addresses raw d r r.addressedTarget := by
  have htext : ∀ name, name ∉ field.all → r.extraText? name = raw.text? name :=
    fun name hname => extraText?_of_normalize h hname
  obtain ⟨⟨ip, hip⟩, -, hr⟩ := normalize_eq_ok_iff.mp h
  have haddress : raw.Gives "public_ip" (some r.publicIp) := by
    have hpublic : raw.text? field.publicIp = some r.publicIp := by
      rw [← hr, HostRecord.ofEntry, hip]
      rfl
    exact hpublic ▸ raw.gives_text? field.publicIp
  have hconnection : Connection.ofField (raw.text? field.connection) = r.connection := by
    rw [← hr, HostRecord.ofEntry]
  unfold HostRecord.addressedTarget
  cases hkind : r.connection with
  | ssh =>
    refine .ssh (raw.gives_text? _) (hconnection.trans hkind) haddress (raw.gives_text? _) ?_
      (raw.gives_text? _) ?_
    · rw [← hr]
      rfl
    · rw [← hr]
      rfl
  | kubectl =>
    dsimp only
    rw [htext podField.pod (by decide), htext podField.namespaceName (by decide),
      htext podField.container (by decide), htext podField.context (by decide),
      htext podField.kubeconfig (by decide)]
    exact .pod (raw.gives_text? _) (hconnection.trans hkind) haddress (raw.gives_text? _)
      (raw.gives_text? _) (raw.gives_text? _) (raw.gives_text? _) (raw.gives_text? _)

/-- There is a remote for the host of a record; the host has a name and is where the entry says. -/
def Reached (tools : Tools) (raw : Mapping) (d : HostDefaults) (r : HostRecord) : Prop :=
  ∃ target, tools.remoteFor r = .ok ⟨tools, target⟩ ∧ target.name ≠ "" ∧ Addresses raw d r target

theorem reached_of_normalize (tools : Tools) (h : normalize raw d = .ok r) :
    Reached tools raw d r := by
  have haddress := publicIp_ne_empty_of_normalize h
  refine ⟨r.addressedTarget, ?_, name_addressedTarget_ne_empty haddress, addresses_of_normalize h⟩
  rw [remoteFor_eq, if_neg haddress]

/-- The host of every record of an inventory can be reached, and it is where the entry of the record
says. Of all records just those without an address have no remote. -/
theorem remoteFor_addresses (tools : Tools) (r : HostRecord) :
    (∀ raw d, normalize raw d = .ok r → Reached tools raw d r) ∧
    (Produced r → ∃ raw d, normalize raw d = .ok r ∧ Reached tools raw d r) ∧
    ∀ e, tools.remoteFor r = .error e ↔ r.publicIp = "" ∧ e = .missingAddress "" := by
  refine ⟨fun raw d => reached_of_normalize tools, fun hproduced => ?_,
    fun e => remoteFor_eq_error_iff⟩
  obtain ⟨raw, d, hraw⟩ := hproduced.exists_entry
  exact ⟨raw, d, hraw, reached_of_normalize tools hraw⟩

/-- A tagged number is an address, an empty text names no pod, and a truth value names a namespace. -/
example :
    (normalize [(.str "public_ip", .tagged "node" (.int 7)), (.str "connection", .str "kubectl"),
      (.str "pod", .str ""), (.str "namespace", .bool true)] {}).map HostRecord.addressedTarget =
      .ok (.pod { pod := "7", namespaceName := some "true" }) := by
  decide +kernel

end AgentFleet
