import AgentFleet.Proofs.Shell.Reading
import AgentFleet.Proofs.Transport.Commands

/-!
# Quoting for a shell

A shell cuts a script into words and operators, one character after the other. What
it makes of a character depends on what the character stands between (`Enclosure`):
between single quotes every character stands for itself, between double quotes all
but four do, and outside of quotes a blank or an operator ends a word. Quoted parts
that touch are one word. The text of an expansion, which a later step of the shell
reads, belongs to its word as it stands. A script in which a quote or an expansion is
left open is refused.

Operators are read one character at a time, and the texts of here-documents like
other lines.

A quoted text is one word without a letter that is not quoted, whatever it holds
(`read_shellQuote`), and so is the pattern in the script that packs a directory
(`read_archiveScript`).
-/

namespace AgentFleet.Quoting

/-! ### Tokens -/

/-- A character of a word. -/
structure Letter where
  /-- The character. -/
  char : Char
  /-- Whether it stands for itself, so that no later step of the shell gives it a meaning. -/
  quoted : Bool
  deriving DecidableEq, Repr

/-- The characters of a text, all of them quoted or none. -/
def letters (quoted : Bool) (s : String) : List Letter :=
  s.toList.map fun c => ⟨c, quoted⟩

/-- A token of a script. -/
inductive Token where
  /-- A word. -/
  | word (w : List Letter)
  /-- A character of an operator, or a line end. -/
  | operator (c : Char)
  deriving DecidableEq, Repr

/-! ### Reading one character -/

/-- What a character stands between. -/
inductive Enclosure where
  /-- Single quotes. -/
  | single
  /-- Double quotes. -/
  | double
  /-- The beginning of an expansion and the character that ends it. -/
  | expansion (close : Char)
  /-- A number sign and the end of the line. -/
  | comment
  deriving DecidableEq, Repr

/-- How far a script has been read. -/
structure Scan where
  /-- The letters of the word that has begun. -/
  word : Option (List Letter) := none
  /-- What the next character stands between, the innermost first. -/
  inside : List Enclosure := []
  /-- Whether a backslash takes away the meaning of the next character. -/
  hidden : Bool := false
  /-- Whether the next character may begin an expansion with the dollar sign before it. -/
  dollar : Bool := false
  deriving DecidableEq, Repr

namespace Scan

/-- Whether the next character belongs to the text of an expansion. -/
def isExpanding (s : Scan) : Bool :=
  s.inside.any fun
    | .expansion _ => true
    | _ => false

/-- Takes a character into the word. -/
def take (s : Scan) (c : Char) (quoted : Bool) : Scan :=
  { s with
    word := some (s.word.getD [] ++ [⟨c, quoted && !s.isExpanding⟩])
    hidden := false
    dollar := false }

/-- Takes a quote, which begins a word and belongs to it in the text of an expansion only. -/
def takeQuote (s : Scan) (c : Char) : Scan :=
  if s.isExpanding then s.take c false
  else { s with word := some (s.word.getD []), hidden := false, dollar := false }

/-- Goes inside something. -/
def enter (s : Scan) (e : Enclosure) : Scan :=
  { s with inside := e :: s.inside }

/-- Leaves the innermost enclosure. -/
def leave (s : Scan) : Scan :=
  { s with inside := s.inside.tail }

/-- The word that ends here, if one has begun. -/
def ended (s : Scan) : List Token :=
  (s.word.map Token.word).toList

/-- The end of the expansion that a character begins. -/
def closing? (s : Scan) (c : Char) : Option Char :=
  if c == '\x60' then some '\x60'
  else if c == '(' && (s.dollar || s.inside.head? == some (.expansion ')')) then some ')'
  else if c == '{' && s.dollar then some '}'
  else none

/-- Reads a character behind a backslash. -/
def stepHidden (s : Scan) (c : Char) : Scan :=
  if s.isExpanding then s.take c false
  else if c == '\n' then { s with hidden := false }
  else if s.inside == [.double] && !(['$', '\x60', '\"', '\\'].contains c) then
    (s.take '\\' true).take c true
  else s.take c true

/-- Reads a character where backslashes, dollar signs and backquotes have a meaning. -/
def stepSpecial (s : Scan) (c : Char) (quoted : Bool) : Scan :=
  if c == '\\' then
    { (if s.isExpanding then s.take c false else s) with hidden := true, dollar := false }
  else if c == '$' then { s.take c false with dollar := true }
  else
    match s.closing? c with
    | some close => (s.take c false).enter (.expansion close)
    | none => s.take c quoted

/-- Reads a character outside of quotes. -/
def stepBare (s : Scan) (c : Char) : List Token × Scan :=
  if (s.closing? c).isSome then ([], s.stepSpecial c false)
  else if c == '\'' then ([], (s.takeQuote c).enter .single)
  else if c == '\"' then ([], (s.takeQuote c).enter .double)
  else if c == '#' && s.word.isNone then ([], s.enter .comment)
  else if c == ' ' || c == '\t' then (s.ended, {})
  else if ['\n', ';', '&', '|', '<', '>', '(', ')'].contains c then (s.ended ++ [.operator c], {})
  else ([], s.stepSpecial c false)

/-- Reads a character of the text of an expansion. -/
def stepExpansion (s : Scan) (close c : Char) : Scan :=
  if c == close then (s.take c false).leave
  else if close == '\x60' then { s.take c false with hidden := c == '\\' }
  else if c == '\'' then (s.takeQuote c).enter .single
  else if c == '\"' then (s.takeQuote c).enter .double
  else s.stepSpecial c false

/-- Reads a character: the tokens that end with it, and what has been read then. -/
def step (s : Scan) (c : Char) : List Token × Scan :=
  if s.hidden then ([], s.stepHidden c)
  else
    match s.inside with
    | [] => s.stepBare c
    | .single :: _ => ([], if c == '\'' then (s.takeQuote c).leave else s.take c true)
    | .double :: _ => ([], if c == '\"' then (s.takeQuote c).leave else s.stepSpecial c true)
    | .expansion close :: _ => ([], s.stepExpansion close c)
    | .comment :: _ => if c == '\n' then ([.operator c], s.leave) else ([], s)

/-! ### Reading a script -/

/-- Reads some characters. -/
def run (s : Scan) : List Char → List Token × Scan
  | [] => ([], s)
  | c :: cs =>
    let more := (s.step c).2.run cs
    ((s.step c).1 ++ more.1, more.2)

/-- What is left to take when a script ends, unless something has been left open. -/
def finish (s : Scan) : Option (List Token) :=
  match s.inside with
  | [] | [.comment] => some (if s.hidden then s.take '\\' true else s).ended
  | _ => none

end Scan

/-- The tokens of a script. -/
def read (script : String) : Option (List Token) :=
  let last := Scan.run {} script.toList
  last.2.finish.map (last.1 ++ ·)

/-- Quoted parts that touch are one word, and what they hold does not end it. -/
example : read "tar --exclude='a; b'\"'\"c; ls" = some [.word (letters false "tar"),
    .word (letters false "--exclude=" ++ letters true "a; b'" ++ letters false "c"), .operator ';',
    .word (letters false "ls")] := by decide

/-- An expansion is left to a later step, and a quote that is left open is refused. -/
example : read "echo \"$(date)\"" =
      some [.word (letters false "echo"), .word (letters false "$(date)")] ∧
    read "echo 'a" = none := by decide

/-! ### Parts of a script -/

namespace Scan

theorem run_append (s : Scan) (cs ds : List Char) :
    s.run (cs ++ ds) = ((s.run cs).1 ++ ((s.run cs).2.run ds).1, ((s.run cs).2.run ds).2) := by
  induction cs generalizing s with
  | nil => rfl
  | cons c cs ih => rw [List.cons_append, run, ih, run, List.append_assoc]

/-- Between single quotes, a text whose quotes stand between double quotes is taken as it is. -/
theorem run_single (w : List Letter) (cs : List Char) :
    run { word := some w, inside := [.single] }
        (cs.flatMap fun c => if c == '\'' then "'\"'\"'".toList else [c]) =
      ([], { word := some (w ++ cs.map fun c => ⟨c, true⟩), inside := [.single] }) := by
  induction cs generalizing w with
  | nil => rw [List.flatMap_nil, run, List.map_nil, List.append_nil]
  | cons c cs ih =>
    have hc : run { word := some w, inside := [.single] }
        (if c == '\'' then "'\"'\"'".toList else [c]) =
          ([], { word := some (w ++ [⟨c, true⟩]), inside := [.single] }) := by
      by_cases hquote : c = '\''
      · -- out of the single quotes, through double ones and in again
        rw [hquote]
        rfl
      · simp [run, step, hquote, take, isExpanding]
    rw [List.flatMap_cons, run_append, hc, ih]
    simp

/-- A quoted text goes on with the word that has begun, or begins one. -/
theorem run_shellQuote (w : Option (List Letter)) (v : String) :
    run { word := w } (shellQuote v).toList = ([], { word := some (w.getD [] ++ letters true v) }) := by
  have hopen : step { word := w } '\'' = ([], { word := some (w.getD []), inside := [.single] }) := rfl
  rw [Shell.toList_shellQuote, run, hopen, run_append, run_single]
  rfl

end Scan

theorem read_shellQuote (v : String) : read (shellQuote v) = some [.word (letters true v)] := by
  rw [read, Scan.run_shellQuote]
  rfl

/-- A quoted text completes the word that it stands in, and what stands around it is read without it. -/
theorem read_around {opening closing : String} {before after : List Token} {w : List Letter}
    (hopening : Scan.run {} opening.toList = (before, { word := some w }))
    (hclosing : ∀ w, Scan.run { word := some w } closing.toList = (.word w :: after, {}))
    (v rest : String) :
    read (opening ++ shellQuote v ++ closing ++ rest) =
      (read rest).map ((before ++ .word (w ++ letters true v) :: after) ++ ·) := by
  have hquoted : Scan.run {} (opening ++ shellQuote v ++ closing).toList =
      (before ++ .word (w ++ letters true v) :: after, {}) := by
    rw [String.toList_append, String.toList_append, Scan.run_append, Scan.run_append, hopening,
      Scan.run_shellQuote, hclosing, List.append_nil, Option.getD_some]
  rw [read, String.toList_append, Scan.run_append, hquoted, read, Option.map_map]
  simp only [Function.comp_def, List.append_assoc]

/-- The words of the script that packs a directory, up to the directory. -/
def packingWords (excluded : String) : List Token :=
  [.word (letters false "tar"), .word (letters false "czf"), .word (letters false "-"),
    .word (letters false "--exclude=" ++ letters true excluded), .word (letters false "-C")]

/-- The pattern is the end of one word, and the directory is read as if nothing stood before it. -/
theorem read_archiveScript (source excluded : String) :
    read (archiveScript source excluded) =
      (read (source ++ " .")).map (packingWords excluded ++ ·) := by
  have hopening : Scan.run {} "tar czf - --exclude=".toList =
      ([.word (letters false "tar"), .word (letters false "czf"), .word (letters false "-")],
        { word := some (letters false "--exclude=") }) := by decide
  have hclosing : ∀ w, Scan.run { word := some w } " -C ".toList =
      ([.word w, .word (letters false "-C")], {}) := by
    intro w
    rw [show " -C ".toList = [' ', '-', 'C', ' '] by decide]
    rfl
  have hscript : archiveScript source excluded =
      "tar czf - --exclude=" ++ shellQuote excluded ++ " -C " ++ (source ++ " .") :=
    String.append_assoc
  rw [hscript, read_around hopening hclosing]
  rfl

/-! ### The script that a pod runs -/

/-- When a directory has been created for it, an archive is packed by a shell in the pod that is
given the script as one argument. -/
theorem copyFrom_witnessed {σ : Type} (tools : Tools) (t : PodTarget) (m : Machine σ) {s u : σ}
    {target : String} (hcreate : m.createDirectories target s = (.ok (), u))
    (source excluded : String) :
    ∃ later, ((Remote.mk tools (.pod t)).copyFrom m.witnessed source target (some excluded)
        (s, [])).2.2 =
      .created target (.ok ()) :: (m.launchDeeds tools.kubectl
        (t.execArguments (m.home? u) (archiveScript source excluded)) [] u ++ later) := by
  have hcreated : m.witnessed.createDirectories target (s, []) =
      (.ok (), u, [.created target (.ok ())]) := by
    simp only [Machine.witnessed, hcreate, List.nil_append]
  have hhome : m.witnessed.home? (u, [.created target (.ok ())]) = m.home? u := rfl
  simp only [Remote.copyFrom, Remote.copyArchive, hcreated, hhome, startTool_eq,
    m.launch_witnessed]
  generalize t.execArguments (m.home? u) (archiveScript source excluded) = arguments
  cases (m.launch tools.kubectl arguments [] u).1.outcome (Text.join " " tools.kubectl) with
  | error e => exact ⟨[], by simp⟩
  | ok packed =>
    dsimp only
    generalize (m.launch tools.kubectl arguments [] u).2 = v
    refine ⟨m.launchDeeds tools.tar ["xzf", "-", "-C", target] packed.stdout v, ?_⟩
    cases (m.launch tools.tar ["xzf", "-", "-C", target] packed.stdout v).1.outcome
      (programName tools.tar) with
    | error e => rfl
    | ok unpacked => rfl

/-- A pattern cannot break out of the script that packs a directory. Quoted, any text is one word with
no letter that a later step of the shell gives a meaning; so the words of the script are those of
packing without the pattern and then what the directory reads as on its own, which is left open when
the directory leaves something open. The shell that stands behind the fleet's tools takes the same
words and finds the directory next. And this is the script that a shell in the pod is given. -/
theorem pattern_contained :
    (∀ v, read (shellQuote v) = some [.word (letters true v)]) ∧
    (∀ source excluded, read (archiveScript source excluded) =
      (read (source ++ " .")).map (packingWords excluded ++ ·)) ∧
    (∀ source excluded, ∃ w, Shell.IsQuoted w excluded ∧
      Shell.ReadsWithin (2 * excluded.length + 20) (fun fuel => Shell.readTokens fuel 5)
        (archiveScript source excluded).toList
        [.word [.text false "tar"], .word [.text false "czf"], .word [.text false "-"],
          .word (.text false "--exclude=" :: w), .word [.text false "-C"]]
        (' ' :: (source ++ " .").toList)) ∧
    ∀ {σ : Type} (tools : Tools) (t : PodTarget) (m : Machine σ) (s u : σ)
      (source target excluded : String), m.createDirectories target s = (.ok (), u) →
      ∃ later, ((Remote.mk tools (.pod t)).copyFrom m.witnessed source target (some excluded)
          (s, [])).2.2 =
        .created target (.ok ()) :: (m.launchDeeds tools.kubectl
          (t.globalFlags (m.home? u) ++ ["exec", t.pod] ++ t.containerFlag ++
            ["--", "sh", "-c", archiveScript source excluded]) [] u ++ later) :=
  ⟨read_shellQuote, read_archiveScript, Shell.readTokens_archiveScript,
    fun tools t m _ _ source _ excluded hcreate => copyFrom_witnessed tools t m hcreate source excluded⟩

/-- A pattern with quotes, an expansion and a semicolon, before a directory that is read and before
one whose quote is left open. -/
theorem pattern_contained_hostile :
    let excluded := "it's \"; $(reboot) \\"
    let m := Machine.answering fun _ => .ok { ending := .exited 0 }
    read (archiveScript "workers" excluded) =
        some (packingWords excluded ++ [.word (letters false "workers"), .word (letters false ".")]) ∧
      read (archiveScript "wor'kers" excluded) = none ∧
      ∃ later, ((Remote.mk {} (.pod { pod := "member-0" })).copyFrom m.witnessed "workers" "out"
          (some excluded) ((), [])).2.2 =
        .created "out" (.ok ()) :: (m.launchDeeds ["kubectl"] ["exec", "member-0", "--", "sh", "-c",
          archiveScript "workers" excluded] [] () ++ later) := by
  intro excluded m
  obtain ⟨-, hscript, -, hpod⟩ := pattern_contained
  refine ⟨?_, ?_, hpod {} { pod := "member-0" } m () () "workers" "out" excluded rfl⟩
  · rw [hscript]
    decide
  · rw [hscript]
    decide

end AgentFleet.Quoting
