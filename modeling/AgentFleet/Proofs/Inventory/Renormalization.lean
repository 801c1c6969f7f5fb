import AgentFleet.Proofs.Inventory.RoundTrip

/-!
# Normalizing a record again

A normalized record has settled every field, so that its flat mapping normalizes
to the record itself. The defaults matter only for a login user or a port that is
empty in the record, because an empty text counts as absent and is filled in
again: the record comes back exactly from those defaults that leave such a field
empty (`normalize_toMapping_iff`). Once both are filled in, later defaults change
nothing.
-/

namespace AgentFleet

namespace HostRecord

variable {d : HostDefaults} {r : HostRecord}

/-- A record that is normal under some defaults is normal under all that fill no empty field of it. -/
theorem Normal.of_defaults {e : HostDefaults} (h : r.Normal d)
    (hu : r.sshUser = "" → e.sshUser = "") (hp : r.agentPort = "" → e.agentPort = "") :
    r.Normal e :=
  { h with sshUser := hu, agentPort := hp }

/-- The defaults under which the flat mapping of a normal record gives the record back. -/
theorem Normal.normalize_toMapping_iff (h : r.Normal d) (e : HostDefaults) :
    normalize r.toMapping e = .ok r ↔
      (r.sshUser = "" → e.sshUser = "") ∧ (r.agentPort = "" → e.agentPort = "") := by
  constructor
  · intro hr
    have hn := normal_of_normalize h.toMapping_distinct hr
    exact ⟨hn.sshUser, hn.agentPort⟩
  · rintro ⟨hu, hp⟩
    exact (h.of_defaults hu hp).normalize_toMapping

/-- Defaults that name a login user and a port leave neither empty in a record. -/
theorem Normal.filled (h : r.Normal d) (hu : d.sshUser ≠ "") (hp : d.agentPort ≠ "") :
    r.sshUser ≠ "" ∧ r.agentPort ≠ "" :=
  ⟨fun he => hu (h.sshUser he), fun he => hp (h.agentPort he)⟩

end HostRecord

/-- Normalization is idempotent, and it is frozen against later defaults. The flat mapping of a
normalized record gives the record back under the same defaults, and under any other defaults as
soon as the record has a login user and a port, as it has when the first defaults have them. -/
theorem normalize_again {raw : Mapping} {d : HostDefaults} {r : HostRecord}
    (hraw : raw.Distinct) (h : normalize raw d = .ok r) :
    normalize r.toMapping d = .ok r ∧
      (r.sshUser ≠ "" → r.agentPort ≠ "" → ∀ e, normalize r.toMapping e = .ok r) ∧
      (d.sshUser ≠ "" → d.agentPort ≠ "" →
        r.sshUser ≠ "" ∧ r.agentPort ≠ "" ∧ ∀ e, normalize r.toMapping e = .ok r) := by
  have hn := normal_of_normalize hraw h
  have hfrozen : r.sshUser ≠ "" → r.agentPort ≠ "" → ∀ e, normalize r.toMapping e = .ok r := by
    intro hu hp e
    exact (hn.normalize_toMapping_iff e).mpr ⟨fun he => absurd he hu, fun he => absurd he hp⟩
  refine ⟨hn.normalize_toMapping, hfrozen, fun hu hp => ?_⟩
  obtain ⟨hru, hrp⟩ := hn.filled hu hp
  exact ⟨hru, hrp, hfrozen hru hrp⟩

/-- An entry with a tagged address, a number for a port, an empty login user, a null group and two
further fields, of which one has the name of a known field under a tag. -/
def mixedEntry : Mapping :=
  [(.str "rack", .seq [.int 4, .null]), (.str "public_ip", .tagged "v4" (.str "10.0.0.1")),
    (.str "agent_port", .int 9100), (.str "ssh_user", .str ""), (.str "groupname", .null),
    (.tagged "old" (.str "ssh_user"), .bool true)]

/-- The record of that entry under the standard defaults. -/
def mixedRecord : HostRecord :=
  { publicIp := "10.0.0.1"
    sshUser := "simulator"
    sshOptions := "-i key -o StrictHostKeyChecking=no -o ConnectTimeout=60"
    agentPort := "9100"
    extra := [(.str "rack", .seq [.int 4, .null]), (.tagged "old" (.str "ssh_user"), .bool true)] }

theorem normalize_again_mixed :
    mixedEntry.Distinct ∧ normalize mixedEntry {} = .ok mixedRecord ∧
      normalize mixedRecord.toMapping {} = .ok mixedRecord ∧
      ∀ e, normalize mixedRecord.toMapping e = .ok mixedRecord := by
  have hraw : mixedEntry.Distinct := by simp [mixedEntry, Mapping.Distinct, Value.same]
  have h : normalize mixedEntry {} = .ok mixedRecord := by rfl
  obtain ⟨hsame, hfrozen, hfilled⟩ := normalize_again hraw h
  exact ⟨hraw, h, hsame, (hfilled (by decide) (by decide)).2.2⟩

end AgentFleet
