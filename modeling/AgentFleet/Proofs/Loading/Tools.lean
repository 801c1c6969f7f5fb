import AgentFleet.Inventory.Loading
import AgentFleet.Proofs.Checked
import AgentFleet.Proofs.Machine.Launch
import AgentFleet.Proofs.Text.Lines

/-!
# What the inventory tools answer

A tool has printed a text when it was started and exited with zero. The tools have
answered when the first has printed a listing and then the second a dump; only
then does asking them give records, and they are the listed ones of the dump
(`resolve_eq_ok_iff`). A listing gives exactly the names that stand on its lines
below the header, whatever blanks surround them (`mem_listedNames_iff`).
-/

namespace AgentFleet

open Checked

variable {σ : Type} {m : Machine σ} {settings : InventorySettings} {d : HostDefaults} {path : String}
  {p : HostPattern}

/-! ### Running a tool -/

/-- A tool with further arguments exits with zero, and a text is what it has printed. -/
def Prints (m : Machine σ) (tool : Tool) (arguments : List String) (s : σ) (text : String) (s' : σ) :
    Prop :=
  ∃ program base o, tool = program :: base ∧
    m.run { program := program, arguments := base ++ arguments } s = (.ok o, s') ∧
    o.ending = .exited 0 ∧ Text.decodeLossy o.stdout = text

theorem toolOutput_eq_ok_iff {program text : String} {o : Outcome} :
    toolOutput program o = .ok text ↔ o.ending = .exited 0 ∧ Text.decodeLossy o.stdout = text := by
  rw [← status_eq_zero_iff]
  unfold toolOutput
  by_cases h : o.status = 0 <;> simp [h]

theorem runInventoryTool_eq_ok_iff {tool : Tool} {arguments : List String} {s s' : σ}
    {text : String} :
    runInventoryTool m tool arguments s = (.ok text, s') ↔ Prints m tool arguments s text s' := by
  unfold runInventoryTool Prints
  cases tool with
  | nil => simp
  | cons program base =>
    dsimp only
    split
    case h_1 o t hrun =>
      rw [Prod.mk.injEq, toolOutput_eq_ok_iff]
      constructor
      · rintro ⟨⟨hending, htext⟩, rfl⟩
        exact ⟨program, base, o, rfl, hrun, hending, htext⟩
      · rintro ⟨_, _, o', ⟨⟩, hrun', hending, htext⟩
        obtain ⟨⟨⟩, rfl⟩ := Prod.mk.inj (hrun.symm.trans hrun')
        exact ⟨⟨hending, htext⟩, rfl⟩
    case h_2 e t hrun =>
      constructor
      · rintro ⟨⟩
      · rintro ⟨_, _, o', ⟨⟩, hrun', -⟩
        cases hrun.symm.trans hrun'

/-! ### Asking both tools -/

/-- The first tool prints a listing for a pattern, and the second one prints a dump. -/
def Answered (m : Machine σ) (settings : InventorySettings) (path : String) (p : HostPattern) (s : σ)
    (listing dump : String) (s' : σ) : Prop :=
  ∃ t, Prints m settings.ansible ["-i", path, "--list-hosts", p.text] s listing t ∧
    Prints m settings.ansibleInventory ["-i", path, "-y", "--list"] t dump s'

theorem resolve_eq_of_answered {s s' : σ} {listing dump : String}
    (h : Answered m settings path p s listing dump s') :
    resolve m settings d path p s = (dumpedRecords (listedNames listing) dump d, s') := by
  obtain ⟨t, hfirst, hsecond⟩ := h
  rw [resolve, runInventoryTool_eq_ok_iff.mpr hfirst]
  dsimp only
  rw [runInventoryTool_eq_ok_iff.mpr hsecond]

theorem dumpedRecords_eq_ok_iff {names : List String} {dump : String} {records : List HostRecord} :
    dumpedRecords names dump d = .ok records ↔
      ∃ doc, Document.read? dump = some doc ∧ listedRecords names doc d = .ok records := by
  unfold dumpedRecords
  cases Document.read? dump with
  | none => simp
  | some doc => simp

/-- When the tools have answered and the dump is a document, its listed hosts are what they give. -/
theorem resolve_eq_listedRecords {s s' : σ} {listing dump : String} {doc : Value}
    (h : Answered m settings path p s listing dump s') (hread : Document.read? dump = some doc) :
    resolve m settings d path p s = (listedRecords (listedNames listing) doc d, s') := by
  rw [resolve_eq_of_answered h, dumpedRecords, hread]

/-- The tools give records when both have answered and the listed hosts of the dump can be read. -/
theorem resolve_eq_ok_iff {s s' : σ} {records : List HostRecord} :
    resolve m settings d path p s = (.ok records, s') ↔
      ∃ listing dump doc, Answered m settings path p s listing dump s' ∧
        Document.read? dump = some doc ∧ listedRecords (listedNames listing) doc d = .ok records := by
  constructor
  · intro h
    unfold resolve at h
    split at h
    case h_1 => cases h
    case h_2 listing t hfirst =>
      split at h
      case h_1 => cases h
      case h_2 dump u hsecond =>
        obtain ⟨hrecords, rfl⟩ := Prod.mk.inj h
        obtain ⟨doc, hread, hlisted⟩ := dumpedRecords_eq_ok_iff.mp hrecords
        exact ⟨listing, dump, doc, ⟨t, runInventoryTool_eq_ok_iff.mp hfirst,
          runInventoryTool_eq_ok_iff.mp hsecond⟩, hread, hlisted⟩
  · rintro ⟨listing, dump, doc, hanswered, hread, hlisted⟩
    rw [resolve_eq_listedRecords hanswered hread, hlisted]

/-- A machine on which the inventory has a text and the two inventory tools print others. -/
def deskMachine (file listing dump : String) : Machine Unit where
  run i s :=
    (.ok { ending := .exited 0, stdout := Text.encode (if i.program == "ansible" then listing else dump) }, s)
  readFile _ _ := .ok (Text.encode file)
  pathExists _ _ := true
  createDirectories _ s := (.ok (), s)
  environment? _ _ := none

/-! ### Listings -/

/-- A text lists names: below any header, each line is blank or one of the names with blanks around
it, and each name stands on a line. -/
def Lists (names : List String) (text : String) : Prop :=
  ∃ header ls, text = Text.join "\n" (header :: ls) ∧ (∀ l ∈ header :: ls, '\n' ∉ l.toList) ∧
    (∀ l ∈ ls, Text.Padded "" l ∨ ∃ name ∈ names, Text.Padded name l) ∧
    ∀ name ∈ names, ∃ l ∈ ls, Text.Padded name l

/-- The names of a listing are read back from it. -/
theorem mem_listedNames_iff {names : List String} {text : String} (h : Lists names text)
    (hnames : ∀ name ∈ names, name ≠ "" ∧ Text.trim name = name) (name : String) :
    name ∈ listedNames text ↔ name ∈ names := by
  obtain ⟨header, ls, rfl, hbreak, hlines, hall⟩ := h
  have htrim : Text.trim "" = "" := by decide
  have hempty : ∀ {l : String}, Text.trim l ≠ "" → l ≠ "" := by
    rintro _ hl rfl
    exact hl htrim
  unfold listedNames
  rw [List.mem_filter, List.mem_map]
  constructor
  · rintro ⟨⟨l, hl, rfl⟩, hne⟩
    have hne : Text.trim l ≠ "" := by simpa using hne
    rw [Text.mem_drop_lines_join_iff hbreak (hempty hne)] at hl
    rcases hlines l hl with hblank | ⟨name, hname, hpad⟩
    · exact absurd (Text.trim_of_padded htrim hblank) hne
    · rw [Text.trim_of_padded (hnames name hname).2 hpad]
      exact hname
  · intro hname
    obtain ⟨hne, hself⟩ := hnames name hname
    obtain ⟨l, hl, hpad⟩ := hall name hname
    have hl' : Text.trim l = name := Text.trim_of_padded hself hpad
    refine ⟨⟨l, ?_, hl'⟩, by simpa using hne⟩
    exact (Text.mem_drop_lines_join_iff hbreak (hempty (hl' ▸ hne))).mpr hl

end AgentFleet
