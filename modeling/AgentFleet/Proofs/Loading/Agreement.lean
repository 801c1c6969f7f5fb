import AgentFleet.Proofs.Document.Equality
import AgentFleet.Proofs.Inventory.Entries
import AgentFleet.Proofs.Loading.Tools
import AgentFleet.Proofs.Related
import Mathlib.Data.List.Nodup

/-!
# Selecting here and asking the tools

An inventory in the Ansible layout can be read here, and then a pattern selects
records by their groups; or the tools list names for the pattern, and the records
of a dump are found by name. When the listing has the names of the selected
hosts and the dump is the inventory, the tools give the records that go by these
names (`resolve_selectedNames`): all selected ones, and another one only when its
host has the name of a selected host.
-/

namespace AgentFleet

open Checked

variable {doc : Value} {d : HostDefaults} {p : HostPattern} {hosts : List (String × Mapping)}
  {records : List HostRecord}

/-! ### Records by name -/

/-- The records of the hosts that have one of some names, in the order of the hosts. -/
def namedRecords (names : List String) (hosts : List (String × Mapping))
    (records : List HostRecord) : List HostRecord :=
  ((hosts.zip records).filter fun e => names.contains e.1.1).map Prod.snd

/-- The names of the hosts whose records a pattern selects. -/
def selectedNames (p : HostPattern) (hosts : List (String × Mapping)) (records : List HostRecord) :
    List String :=
  ((hosts.zip records).filter fun e => e.2 ∈ p.select records).map fun e => e.1.1

theorem mem_namedRecords_iff {names : List String} {r : HostRecord} :
    r ∈ namedRecords names hosts records ↔ ∃ host, (host, r) ∈ hosts.zip records ∧ host.1 ∈ names := by
  simp [namedRecords]

theorem mem_selectedNames_iff {name : String} :
    name ∈ selectedNames p hosts records ↔
      ∃ e ∈ hosts.zip records, e.2 ∈ p.select records ∧ e.1.1 = name := by
  simp [selectedNames]

/-- Names in another order, or repeated, list the same records. -/
theorem listedRecords_congr {names names' : List String} (h : ∀ name, name ∈ names ↔ name ∈ names') :
    listedRecords names doc d = listedRecords names' doc d := by
  have hcontains : (fun host : String × Mapping => names.contains host.1) =
      fun host => names'.contains host.1 := by
    funext host
    rw [Bool.eq_iff_iff, List.contains_iff_mem, List.contains_iff_mem, h]
  rw [listedRecords, listedRecords, hcontains]

/-- The listed hosts of a dump have the records that go by their names. -/
theorem listedRecords_eq_namedRecords (hhosts : Layout.ansibleHosts doc d = some hosts)
    (h : List.Forall₂ (fun host r => normalize host.2 d = .ok r) hosts records)
    (names : List String) :
    listedRecords names doc d = .ok (namedRecords names hosts records) := by
  rw [listedRecords, hhosts, Option.getD_some, mapM_eq_ok_iff, namedRecords]
  -- the induction is on the hosts and their records alone, whatever document they come from
  clear hhosts
  induction h with
  | nil => rfl
  | @cons host r hosts records hr _ ih =>
    rw [List.zip_cons_cons, List.filter_cons, List.filter_cons]
    by_cases hname : names.contains host.1 = true
    · rw [if_pos hname, if_pos hname, List.map_cons, List.map_cons, List.map_cons, hr, ih]
    · rw [if_neg hname, if_neg hname, ih]

/-! ### Inventories in the Ansible layout -/

/-- A document that is accepted in the Ansible layout, with its hosts and their records. -/
structure AnsibleInventory (doc : Value) (d : HostDefaults) (hosts : List (String × Mapping))
    (records : List HostRecord) : Prop where
  /-- The hosts are what the layout yields. -/
  declared : Layout.ansibleHosts doc d = some hosts
  /-- There is a host. -/
  inhabited : hosts ≠ []
  /-- The records are the inventory. -/
  accepted : inventory doc d = .ok records

namespace AnsibleInventory

/-- Each host has its record. -/
theorem normalized (h : AnsibleInventory doc d hosts records) :
    List.Forall₂ (fun host r => normalize host.2 d = .ok r) hosts records := by
  have hextract : Layout.ansible.extract doc d = some (hosts.map Prod.snd) := by
    rw [Layout.extract, h.declared, Option.map_some]
  have hraw := Layout.rawEntries_of_ansible hextract (by simpa using h.inhabited)
  have hmap := (inventory_eq_ok_iff.mp h.accepted).1
  rw [hraw] at hmap
  exact List.forall₂_map_left_iff.mp (forall₂_of_map_eq hmap)

theorem nodup_identity (h : AnsibleInventory doc d hosts records) :
    (records.map HostRecord.identity).Nodup :=
  (inventory_eq_ok_iff.mp h.accepted).2

/-- The hosts that stand beside the records are all of them, in their order. -/
theorem map_fst_zip (h : AnsibleInventory doc d hosts records) :
    (hosts.zip records).map Prod.fst = hosts :=
  List.map_fst_zip (Nat.le_of_eq h.normalized.length_eq)

theorem map_snd_zip (h : AnsibleInventory doc d hosts records) :
    (hosts.zip records).map Prod.snd = records :=
  List.map_snd_zip (Nat.le_of_eq h.normalized.length_eq.symm)

theorem nodup_map_snd_zip (h : AnsibleInventory doc d hosts records) :
    ((hosts.zip records).map Prod.snd).Nodup := by
  rw [h.map_snd_zip]
  exact h.nodup_identity.of_map _

/-- A selected host has a name. -/
theorem ne_empty_of_mem_selectedNames (h : AnsibleInventory doc d hosts records) {name : String}
    (hname : name ∈ selectedNames p hosts records) : name ≠ "" := by
  obtain ⟨e, he, -, rfl⟩ := mem_selectedNames_iff.mp hname
  obtain ⟨_, _, _, hentry⟩ := Layout.exists_of_mem_ansibleHosts h.declared (List.of_mem_zip he).1
  obtain ⟨hostname, htext, hhost⟩ := Option.map_eq_some_iff.mp hentry
  rw [← hhost]
  exact scalarText_ne_empty htext

/-- A record goes by a name when its own host has it, since no other host has the record. -/
theorem mem_namedRecords_iff_of_mem_zip (h : AnsibleInventory doc d hosts records)
    {names : List String} {e : (String × Mapping) × HostRecord} (he : e ∈ hosts.zip records) :
    e.2 ∈ namedRecords names hosts records ↔ e.1.1 ∈ names := by
  rw [mem_namedRecords_iff]
  constructor
  · rintro ⟨host, hmem, hname⟩
    have hsame : (host, e.2) = e := List.inj_on_of_nodup_map h.nodup_map_snd_zip hmem he rfl
    rwa [← hsame]
  · exact fun hname => ⟨e.1, he, hname⟩

/-- Every selected record goes by the name of a selected host. -/
theorem mem_namedRecords_of_mem_select (h : AnsibleInventory doc d hosts records) {r : HostRecord}
    (hr : r ∈ p.select records) : r ∈ namedRecords (selectedNames p hosts records) hosts records := by
  have hmem := HostPattern.mem_of_mem_select hr
  rw [← h.map_snd_zip] at hmem
  obtain ⟨e, he, rfl⟩ := List.mem_map.mp hmem
  exact (h.mem_namedRecords_iff_of_mem_zip he).mpr (mem_selectedNames_iff.mpr ⟨e, he, hr, rfl⟩)

/-- When every host has a name of its own, only the selected records go by the selected names. -/
theorem mem_select_of_mem_namedRecords (h : AnsibleInventory doc d hosts records)
    (hunique : (hosts.map Prod.fst).Nodup) {r : HostRecord}
    (hr : r ∈ namedRecords (selectedNames p hosts records) hosts records) : r ∈ p.select records := by
  obtain ⟨host, hmem, hname⟩ := mem_namedRecords_iff.mp hr
  obtain ⟨e, he, hselected, hsame⟩ := mem_selectedNames_iff.mp hname
  rw [← h.map_fst_zip, List.map_map] at hunique
  obtain rfl := List.inj_on_of_nodup_map hunique he hmem hsame
  exact hselected

/-- When every host has a name of its own, the selected names give a reordering of the selection. -/
theorem namedRecords_perm_select (h : AnsibleInventory doc d hosts records)
    (hunique : (hosts.map Prod.fst).Nodup) :
    (namedRecords (selectedNames p hosts records) hosts records).Perm (p.select records) := by
  have hnamed : (namedRecords (selectedNames p hosts records) hosts records).Nodup :=
    h.nodup_map_snd_zip.sublist (List.filter_sublist.map _)
  have hselect : (p.select records).Nodup := (p.nodup_identity_select records).of_map _
  rw [List.perm_ext_iff_of_nodup hnamed hselect]
  exact fun r => ⟨h.mem_select_of_mem_namedRecords hunique, h.mem_namedRecords_of_mem_select⟩

end AnsibleInventory

/-! ### The two ways of reading an inventory -/

variable {σ : Type} {m : Machine σ} {settings : InventorySettings} {path : String}

/-- Selecting here and asking the tools agree. Let the tools list the names of the hosts that a
pattern selects, and dump the inventory. They then give the records of exactly the hosts with these
names, in the order of the document: every selected record, none of a host whose name has not been
selected, and a reordering of the selection if no two hosts share a name. -/
theorem resolve_selectedNames {s s' : σ} {listing dump : String}
    (h : AnsibleInventory doc d hosts records)
    (hanswered : Answered m settings path p s listing dump s')
    (hlists : Lists (selectedNames p hosts records) listing)
    (htrim : ∀ name ∈ selectedNames p hosts records, Text.trim name = name)
    (hread : Document.read? dump = some doc) :
    resolve m settings d path p s =
        (.ok (namedRecords (selectedNames p hosts records) hosts records), s') ∧
      List.Forall₂ (fun host r => normalize host.2 d = .ok r) hosts records ∧
      (∀ r ∈ p.select records, r ∈ namedRecords (selectedNames p hosts records) hosts records) ∧
      (∀ e ∈ hosts.zip records, e.2 ∈ namedRecords (selectedNames p hosts records) hosts records ↔
        e.1.1 ∈ selectedNames p hosts records) ∧
      ((hosts.map Prod.fst).Nodup →
        (namedRecords (selectedNames p hosts records) hosts records).Perm (p.select records)) := by
  have hnames := mem_listedNames_iff hlists fun name hname =>
    ⟨h.ne_empty_of_mem_selectedNames hname, htrim name hname⟩
  refine ⟨?_, h.normalized, fun r => h.mem_namedRecords_of_mem_select,
    fun e => h.mem_namedRecords_iff_of_mem_zip, h.namedRecords_perm_select⟩
  rw [resolve_eq_listedRecords hanswered hread, listedRecords_congr hnames,
    listedRecords_eq_namedRecords h.declared h.normalized]

/-- Two groups of hosts; one host has an address of its own. -/
def benchDocument : Value :=
  .map [(.str "all", .map [(.str "children", .map [
    (.str "nodes", .map [(.str "hosts", .map [
      (.str "a", .null), (.str "b", .map [(.str "public_ip", .str "10.0.0.2")])])]),
    (.str "probes", .map [(.str "hosts", .map [(.str "c", .null)])])])])]

/-- The hosts of that document. -/
def benchHosts : List (String × Mapping) :=
  [("a", [(.str "public_ip", .str "a"), (.str "groupname", .str "nodes")]),
    ("b", [(.str "public_ip", .str "10.0.0.2"), (.str "groupname", .str "nodes")]),
    ("c", [(.str "public_ip", .str "c"), (.str "groupname", .str "probes")])]

/-- The records of those hosts. -/
def benchRecords : List HostRecord :=
  [("a", "nodes"), ("10.0.0.2", "nodes"), ("c", "probes")].map fun host =>
    { publicIp := host.1
      sshUser := "simulator"
      sshOptions := ({} : HostDefaults).sshOptions
      agentPort := "9000"
      groupname := some host.2 }

/-- A listing of all three, with indentation, an empty line and another order. -/
def benchListing : String :=
  Text.join "\n" ["  hosts (3):", "\tb ", "", "  c", "      a"]

/-- A text of the document. -/
def benchDump : String :=
  Text.join "\n" ["all:", "  children:", "    nodes:", "      hosts:", "        a:",
    "        b: \x7bpublic_ip: 10.0.0.2\x7d", "    probes:", "      hosts:", "        c:"]

theorem lists_benchListing : Lists ["a", "b", "c"] benchListing := by
  have hb : Text.Padded "b" "\tb " := Text.padded_of_trim_eq (by decide)
  have hempty : Text.Padded "" "" := Text.padded_of_trim_eq (by decide)
  have hc : Text.Padded "c" "  c" := Text.padded_of_trim_eq (by decide)
  have ha : Text.Padded "a" "      a" := Text.padded_of_trim_eq (by decide)
  exact ⟨_, _, rfl, by decide, by simp [hb, hempty, hc, ha], by simp [hb, hc, ha]⟩

theorem resolve_selectedNames_bench :
    AnsibleInventory benchDocument {} benchHosts benchRecords ∧
      Answered (deskMachine "" benchListing benchDump) {} "inventory.yaml" (.parse "probes:nodes") ()
        benchListing benchDump () ∧
      Document.read? benchDump = some benchDocument ∧
      resolve (deskMachine "" benchListing benchDump) {} {} "inventory.yaml" (.parse "probes:nodes") () =
        (.ok benchRecords, ()) ∧
      benchRecords.Perm ((HostPattern.parse "probes:nodes").select benchRecords) := by
  have h : AnsibleInventory benchDocument {} benchHosts benchRecords :=
    { declared := by decide +kernel
      inhabited := by decide
      accepted := by decide +kernel }
  have hanswered : Answered (deskMachine "" benchListing benchDump) {} "inventory.yaml"
      (.parse "probes:nodes") () benchListing benchDump () :=
    ⟨(), ⟨_, _, _, rfl, rfl, rfl, by decide +kernel⟩, ⟨_, _, _, rfl, rfl, rfl, by decide +kernel⟩⟩
  have hread : Document.read? benchDump = some benchDocument := by decide +kernel
  have hselected : selectedNames (.parse "probes:nodes") benchHosts benchRecords = ["a", "b", "c"] := by
    decide +kernel
  have hnamed : namedRecords ["a", "b", "c"] benchHosts benchRecords = benchRecords := by
    decide +kernel
  obtain ⟨hresolve, -, -, -, hperm⟩ := resolve_selectedNames h hanswered
    (hselected ▸ lists_benchListing) (by rw [hselected]; decide) hread
  rw [hselected, hnamed] at hresolve hperm
  exact ⟨h, hanswered, hread, hresolve, hperm (by decide)⟩

end AgentFleet
