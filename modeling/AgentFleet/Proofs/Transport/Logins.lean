import AgentFleet.Proofs.Fleet.Addressing
import AgentFleet.Proofs.Text.Words
import AgentFleet.Proofs.Transport.Transfers

/-!
# One login for commands and copies

A command is carried by the secure shell itself, which is given the options of a
login as words. A copy from the host is carried by the copy program, which is given
the secure shell and the options as one text and cuts it into words. Both start the
same secure shell: the words of that text are those of the tool and then those of
the options (`words_shellText`), whatever blanks the options hold. `LoginContract`
says this of the processes that are started.
-/

namespace AgentFleet

open Text

variable {σ : Type}

/-! ### The standard options -/

theorem isBlank_eq_false_of_isDigit {c : Char} (h : c.isDigit = true) : isBlank c = false := by
  have hrange : 48 ≤ c.toNat ∧ c.toNat ≤ 57 := Char.isDigit_iff_toNat.mp h
  simp only [isBlank, Bool.or_eq_false_iff, Bool.and_eq_false_iff, decide_eq_false_iff_not,
    beq_eq_false_iff_ne]
  omega

theorem isWord_append_toString {s : String} (h : IsWord s) (n : Nat) : IsWord (s ++ toString n) := by
  refine ⟨by simp [h.1], fun c hc => ?_⟩
  rw [String.toList_append, List.mem_append] at hc
  rcases hc with hc | hc
  · exact h.2 c hc
  · have hdigits : c ∈ Nat.toDigits 10 n := by simpa [Nat.repr] using hc
    exact isBlank_eq_false_of_isDigit (Nat.isDigit_of_mem_toDigits (by decide) (by decide) hdigits)

namespace HostDefaults

/-- The words of the options of a login with a given key. -/
def keyWords (d : HostDefaults) (key : String) : List String :=
  ["-i", key, "-o", "StrictHostKeyChecking=no", "-o",
    "ConnectTimeout=" ++ toString d.connectTimeoutSecs]

theorem sshOptionsForKey_eq_join (d : HostDefaults) (key : String) :
    d.sshOptionsForKey key = join " " (d.keyWords key) := by
  refine String.toList_injective ?_
  simp [sshOptionsForKey, keyWords, join]

theorem words_sshOptionsForKey (d : HostDefaults) {key : String} (h : IsWord key) :
    words (d.sshOptionsForKey key) = d.keyWords key := by
  rw [sshOptionsForKey_eq_join, words_join]
  refine flatMap_words_of_isWord ?_
  simp only [keyWords, List.forall_mem_cons]
  exact ⟨by decide, h, by decide, by decide, by decide,
    isWord_append_toString (by decide) d.connectTimeoutSecs, by simp⟩

end HostDefaults

/-- The options of a host behind a secure shell are those of its record. -/
theorem HostRecord.options_of_target {r : HostRecord} {t : SshTarget} (h : r.target = .ok (.ssh t)) :
    t.options = r.sshOptions := by
  rw [target_eq] at h
  split at h
  case isTrue => cases h
  case isFalse =>
    unfold addressedTarget at h
    split at h
    · obtain rfl := Target.ssh.inj (Except.ok.inj h)
      rfl
    · cases h

/-- An entry that leaves the options out is given those of the defaults. -/
theorem options_of_normalize {raw : Mapping} {d : HostDefaults} {r : HostRecord} {t : SshTarget}
    (hr : normalize raw d = .ok r) (hunset : raw.text? field.sshOptions = none)
    (ht : r.target = .ok (.ssh t)) : t.options = d.sshOptions := by
  obtain ⟨-, -, rfl⟩ := normalize_eq_ok_iff.mp hr
  rw [HostRecord.options_of_target ht, HostRecord.ofEntry, hunset, Option.getD_none]

/-! ### The text of the secure shell -/

namespace SshTarget

theorem words_shellText (t : SshTarget) (ssh : Tool) :
    words (t.shellText ssh) = ssh.flatMap words ++ words t.options := by
  rw [← words_trim t.options]
  unfold shellText
  dsimp only
  split
  case isTrue hempty =>
    rw [String.append_empty, words_join, String.isEmpty_iff.mp hempty]
    exact (List.append_nil _).symm
  case isFalse => rw [← String.append_assoc, words_append_space, words_join]

end SshTarget

/-! ### The processes that are started -/

namespace Remote

theorem exec_witnessed (r : Remote) (m : Machine σ) (command : String) (options : ExecOptions)
    (s : σ) :
    (r.exec m.witnessed command options (s, [])).2.2 =
      m.launchDeeds (r.execLine (m.home? s) command).1 (r.execLine (m.home? s) command).2 [] s := by
  have hhome : m.witnessed.home? (s, []) = m.home? s := rfl
  rw [exec_eq, carry, hhome]
  dsimp only
  rw [m.launch_witnessed, List.nil_append]

theorem transfer_witnessed (m : Machine σ) (name : String) (direction : Direction) (tool : Tool)
    (arguments : List String) (s : σ) :
    (transfer m.witnessed name direction tool arguments (s, [])).2.2 =
      m.launchDeeds tool arguments [] s := by
  rw [transfer_eq, m.launch_witnessed, List.nil_append]

end Remote

/-- What can be relied on when the secure shell is started for a host. -/
structure LoginContract (tools : Tools) (t : SshTarget) : Prop where
  /-- A command is started with the words of the options, the destination and itself. -/
  exec : ∀ {σ : Type} (m : Machine σ) (s : σ) (command : String) (options : ExecOptions),
    ((Remote.mk tools (.ssh t)).exec m.witnessed command options (s, [])).2.2 =
      m.launchDeeds tools.ssh (words t.options ++ [t.user ++ "@" ++ t.host, command]) [] s
  /-- A copy from the host is started with the secure shell as one argument. -/
  copyFrom : ∀ {σ : Type} (m : Machine σ) (s : σ) (source target : String),
    ((Remote.mk tools (.ssh t)).copyFrom m.witnessed source target none (s, [])).2.2 =
      m.launchDeeds tools.rsync
        ["--copy-links", "-avvz", "--compress-level=9", "-e", t.shellText tools.ssh,
          t.user ++ "@" ++ t.host ++ ":" ++ source, target] [] s
  /-- A pattern of what is left out is one more argument, in the fourth place. -/
  excluded : ∀ {σ : Type} (m : Machine σ) (s : σ) (source target pattern : String),
    ((Remote.mk tools (.ssh t)).copyFrom m.witnessed source target (some pattern) (s, [])).2.2 =
      m.launchDeeds tools.rsync
        ((t.copyFromArguments tools.ssh source target none).insertIdx 3 ("--exclude=" ++ pattern))
        [] s
  /-- The words of the secure shell are those of the tool and then those of the options. -/
  words_shellText : words (t.shellText tools.ssh) = tools.ssh.flatMap words ++ words t.options
  /-- So a tool of words is started as it is for a command. -/
  same : (∀ w ∈ tools.ssh, IsWord w) → ∀ command,
    words (t.shellText tools.ssh) ++ [t.destination, command] =
      tools.ssh ++ t.execArguments command
  /-- The standard options are six words. -/
  standard : ∀ d : HostDefaults, t.options = d.sshOptions → IsWord d.identityFile →
    words t.options = ["-i", d.identityFile, "-o", "StrictHostKeyChecking=no", "-o",
      "ConnectTimeout=" ++ toString d.connectTimeoutSecs]
  /-- They are the options of a host whose entry leaves them out. -/
  unset : ∀ raw d r, normalize raw d = .ok r → raw.text? field.sshOptions = none →
    r.target = .ok (.ssh t) → t.options = d.sshOptions

/-- A host keeps the contract of logins, whatever tools there are and whatever options it has. -/
theorem keepsLoginContract (tools : Tools) (t : SshTarget) : LoginContract tools t where
  exec := fun m s command options => Remote.exec_witnessed _ m command options s
  copyFrom := fun m s source target =>
    Remote.transfer_witnessed m t.host .fromHost tools.rsync _ s
  excluded := fun m s source target pattern =>
    Remote.transfer_witnessed m t.host .fromHost tools.rsync _ s
  words_shellText := t.words_shellText tools.ssh
  same := by
    intro hwords command
    rw [t.words_shellText, flatMap_words_of_isWord hwords, SshTarget.execArguments,
      SshTarget.optionWords, List.append_assoc]
  standard := by
    intro d hoptions hkey
    rw [hoptions]
    exact d.words_sshOptionsForKey hkey
  unset := fun _ _ _ => options_of_normalize

/-- The standard options with a key in the home directory, and options that are padded. -/
theorem keepsLoginContract_padded :
    let d : HostDefaults := { identityFile := "~/.ssh/bench.pem" }
    let standard : SshTarget := { host := "10.0.0.1", user := "simulator", options := d.sshOptions }
    let padded : SshTarget := { host := "10.0.0.1", user := "simulator", options := "  -i   key " }
    words standard.options =
        ["-i", "~/.ssh/bench.pem", "-o", "StrictHostKeyChecking=no", "-o", "ConnectTimeout=60"] ∧
      padded.shellText ["microk8s", "ssh"] = "microk8s ssh -i   key" ∧
      words (padded.shellText ["microk8s", "ssh"]) ++ [padded.destination, "uptime"] =
        ["microk8s", "ssh", "-i", "key", "simulator@10.0.0.1", "uptime"] := by
  intro d standard padded
  refine ⟨?_, by decide, ?_⟩
  · rw [(keepsLoginContract {} standard).standard d rfl (by decide)]
    decide
  · rw [(keepsLoginContract { ssh := ["microk8s", "ssh"] } padded).same (by decide)]
    decide

end AgentFleet
