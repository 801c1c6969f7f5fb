import AgentFleet.Shell.Reader
import AgentFleet.Transport.Arguments
import Mathlib.Tactic.Common

/-!
# Reading words

What a reader of scripts does with the characters that it finds (`Reads`), for the
readers of words and tokens. Outside of quotes a character that stands for itself
goes on with the word, a quote begins a quoted text, and a word goes on to the next
character that ends one. So a text quoted for the shell is read as one word of
quoted texts (`readPieces_shellQuote`), and the tokens of a script that holds one
are known one after the other.
-/

namespace AgentFleet.Shell

variable {α β : Type}

/-! ### Readers and characters -/

/-- A reader that finds certain characters gives a result and leaves the last of them. No token has
been given back before, and none is. -/
def Reads (x : SourceReader α) (cs : List Char) (a : α) (rest : List Char) : Prop :=
  ∀ s : Source, s.rest = cs → s.pushed = none →
    ∃ s', x s = .ok (a, s') ∧ s'.rest = rest ∧ s'.pushed = none

namespace Reads

variable {cs mid rest : List Char} {a : α} {b : β}

theorem pure (a : α) (cs : List Char) : Reads (Pure.pure a) cs a cs :=
  fun s hrest hpushed => ⟨s, rfl, hrest, hpushed⟩

theorem bind {x : SourceReader α} {f : α → SourceReader β} (hx : Reads x cs a mid)
    (hf : Reads (f a) mid b rest) : Reads (x >>= f) cs b rest := by
  intro s hrest hpushed
  obtain ⟨s₁, h₁, hrest₁, hpushed₁⟩ := hx s hrest hpushed
  obtain ⟨s₂, h₂, hrest₂, hpushed₂⟩ := hf s₁ hrest₁ hpushed₁
  refine ⟨s₂, ?_, hrest₂, hpushed₂⟩
  simp only [Bind.bind, StateT.bind, h₁, Except.bind, h₂]

theorem map {x : SourceReader α} (f : α → β) (hx : Reads x cs a rest) :
    Reads (x >>= fun a => Pure.pure (f a)) cs (f a) rest :=
  hx.bind (pure (f a) rest)

theorem get_bind {f : Source → SourceReader β}
    (hf : ∀ s : Source, s.rest = cs → s.pushed = none → Reads (f s) cs b rest) :
    Reads (get >>= f) cs b rest :=
  fun s hrest hpushed => hf s hrest hpushed s hrest hpushed

theorem skip (c : Char) (cs : List Char) : Reads SourceReader.skip (c :: cs) () cs := by
  rintro ⟨_, line, pushed, cut, aliases⟩ rfl hpushed
  by_cases hc : c = '\n'
  · rw [hc]
    exact ⟨_, rfl, rfl, hpushed⟩
  · refine ⟨⟨cs, line, pushed, cut, aliases⟩, ?_, rfl, hpushed⟩
    simp [SourceReader.skip, modify, modifyGet, MonadStateOf.modifyGet, StateT.modifyGet, hc,
      Pure.pure, Except.pure]

theorem skipText (text rest : List Char) :
    Reads (SourceReader.skipText text.length) (text ++ rest) () rest := by
  induction text with
  | nil => exact pure () rest
  | cons c text ih => exact (skip c _).bind ih

/-- Lines are joined at a backslash only. -/
theorem joinLines (h : cs.head? ≠ some '\\') (fuel : Nat) :
    Reads (SourceReader.joinLines fuel) cs () cs := by
  cases fuel with
  | zero => exact pure () cs
  | succ fuel =>
    refine get_bind fun s hs _ => ?_
    rw [hs]
    split
    · simp at h
    · exact pure () cs

theorem upcoming (h : cs.head? ≠ some '\\') : Reads SourceReader.upcoming cs cs cs := by
  refine get_bind fun s hs _ => (joinLines h _).bind (get_bind fun t ht _ => ?_)
  rw [ht]
  exact pure cs cs

theorem accept {c : Char} (hc : c ≠ '\\') (cs : List Char) :
    Reads (SourceReader.accept c) (c :: cs) true cs := by
  refine (upcoming (by simpa using hc)).bind ?_
  rw [List.head?_cons, beq_self_eq_true, if_pos rfl]
  exact (skip c cs).map _

end Reads

/-- A reader reads so with any fuel from some amount on. -/
def ReadsWithin (n : Nat) (x : Nat → SourceReader α) (cs : List Char) (a : α) (rest : List Char) :
    Prop :=
  ∀ fuel, n ≤ fuel → Reads (x fuel) cs a rest

namespace ReadsWithin

variable {n m : Nat} {x : Nat → SourceReader α} {cs rest : List Char} {a : α}

theorem mono (h : ReadsWithin n x cs a rest) (hnm : n ≤ m) : ReadsWithin m x cs a rest :=
  fun fuel hfuel => h fuel (Nat.le_trans hnm hfuel)

/-- A reader that has something to do takes one more of fuel than what it calls. -/
theorem of_succ (h : ∀ fuel, n ≤ fuel → Reads (x (fuel + 1)) cs a rest) :
    ReadsWithin (n + 1) x cs a rest := by
  intro fuel hfuel
  obtain ⟨k, rfl⟩ := Nat.exists_eq_add_of_le' hfuel
  exact h (k + n) (Nat.le_add_left n k)

end ReadsWithin

/-! ### Parts of words outside of quotes -/

section Pieces

variable {n : Nat} {mid rest : List Char} {w : Word}

/-- Whether a character stands for itself outside of quotes and ends no word. -/
def isPlain (c : Char) : Bool :=
  !isMeta c && c != '\\' && c != '\'' && c != '\"' && c != '$' && c != '\x60'

theorem isPlain_iff {c : Char} : isPlain c = true ↔
    isMeta c = false ∧ c ≠ '\\' ∧ c ≠ '\'' ∧ c ≠ '\"' ∧ c ≠ '$' ∧ c ≠ '\x60' := by
  simp [isPlain, and_assoc]

theorem readPieces_end (h : ∀ c ∈ rest.head?, isMeta c = true) :
    ReadsWithin 1 (readPieces .bare false 0) rest [] rest := by
  refine ReadsWithin.of_succ fun fuel _ => ?_
  rw [readPieces]
  cases rest with
  | nil => exact (Reads.upcoming (by simp)).bind (.pure [] [])
  | cons c cs =>
    have hc : isMeta c = true := h c rfl
    have hback : c ≠ '\\' := by
      rintro rfl
      revert hc
      decide
    refine (Reads.upcoming (by simpa using hback)).bind ?_
    split
    case h_1 hnil => cases hnil
    case h_2 heq => exact absurd (List.cons.inj heq).1 hback
    case h_3 heq =>
      obtain ⟨rfl, rfl⟩ := List.cons.inj heq
      rw [if_pos (by simp [hc])]
      exact .pure [] _

theorem readPieces_plain {c : Char} (hc : isPlain c = true)
    (hmore : ReadsWithin n (readPieces .bare false 0) mid w rest) :
    ReadsWithin (n + 1) (readPieces .bare false 0) (c :: mid)
      (consPiece (.text false (String.singleton c)) w) rest := by
  obtain ⟨hmeta, hback, hsingle, hdouble, hdollar, hcommand⟩ := isPlain_iff.mp hc
  refine ReadsWithin.of_succ fun fuel hfuel => ?_
  rw [readPieces]
  refine (Reads.upcoming (by simpa using hback)).bind ?_
  split
  case h_1 hnil => cases hnil
  case h_2 heq => exact absurd (List.cons.inj heq).1 hback
  case h_3 heq =>
    obtain ⟨rfl, rfl⟩ := List.cons.inj heq
    simp +decide only [hmeta, hsingle, hdouble, hdollar, hcommand, beq_iff_eq, Bool.and_eq_true,
      false_and, and_false, if_false]
    exact (Reads.skip _ _).bind ((hmore fuel hfuel).map _)

/-- Single quotes hold everything up to the next one. -/
theorem readPieces_single {text : List Char} (htext : '\'' ∉ text)
    (hmore : ReadsWithin n (readPieces .bare false 0) mid w rest) :
    ReadsWithin (n + 1) (readPieces .bare false 0) ('\'' :: (text ++ '\'' :: mid))
      (consPiece (.text true (String.ofList text)) w) rest := by
  have htake : (text ++ '\'' :: mid).takeWhile (fun c => c != '\'') = text := by
    rw [List.takeWhile_append_of_pos fun c hc => by simpa using ne_of_mem_of_not_mem hc htext]
    simp
  refine ReadsWithin.of_succ fun fuel hfuel => ?_
  rw [readPieces]
  refine (Reads.upcoming (by simp)).bind ?_
  -- the quote rules out all cases but its own
  simp +decide only [htake]
  refine (Reads.skip _ _).bind ((Reads.skipText _ _).bind (.get_bind fun s hs _ => ?_))
  rw [hs]
  exact (Reads.skip _ _).bind ((hmore fuel hfuel).map _)

/-- Double quotes around a single one. -/
theorem readPieces_double (hmore : ReadsWithin (n + 2) (readPieces .bare false 0) mid w rest) :
    ReadsWithin (n + 3) (readPieces .bare false 0) ('\"' :: '\'' :: '\"' :: mid)
      (.text true "'" :: w) rest := by
  refine ReadsWithin.of_succ fun fuel hfuel => ?_
  obtain ⟨k, rfl⟩ : ∃ k, fuel = k + 2 := ⟨fuel - 2, by omega⟩
  have hend : Reads (readPieces .quotes false 0 (k + 1)) ('\"' :: mid) [] ('\"' :: mid) := by
    rw [readPieces]
    exact (Reads.upcoming (by simp)).bind (.pure [] _)
  have hinside : Reads (readPieces .quotes false 0 (k + 2)) ('\'' :: '\"' :: mid)
      [.text true "'"] ('\"' :: mid) := by
    rw [readPieces]
    exact (Reads.upcoming (by simp)).bind ((Reads.skip _ _).bind (hend.map _))
  rw [readPieces]
  refine (Reads.upcoming (by simp)).bind ((Reads.skip _ _).bind (hinside.bind ?_))
  exact (Reads.accept (by decide) _).bind ((hmore _ hfuel).map _)

/-- Characters that stand for themselves are one part of a word, unless what follows them is too. -/
theorem readPieces_text {text : List Char} (htext : text.all isPlain = true) (hne : text ≠ [])
    (hw : ∀ s, consPiece (.text false s) w = .text false s :: w)
    (hmore : ReadsWithin n (readPieces .bare false 0) mid w rest) :
    ReadsWithin (n + text.length) (readPieces .bare false 0) (text ++ mid)
      (.text false (String.ofList text) :: w) rest := by
  induction text with
  | nil => exact absurd rfl hne
  | cons c text ih =>
    obtain ⟨hc, hlater⟩ : isPlain c = true ∧ text.all isPlain = true := by simpa using htext
    by_cases hlast : text = []
    · have h := readPieces_plain hc hmore
      rw [hw] at h
      rw [hlast]
      exact h
    · have h := readPieces_plain hc (ih hlater hlast)
      have hjoined : consPiece (.text false (String.singleton c)) (.text false (String.ofList text) :: w) =
          .text false (String.ofList (c :: text)) :: w := by
        simp [consPiece, String.ofList_cons]
      rw [hjoined] at h
      exact h

end Pieces

/-! ### Quoted texts -/

/-- A word whose parts are quoted texts, which together are a certain text. -/
structure IsQuoted (w : Word) (v : String) : Prop where
  /-- There is a part. -/
  ne_nil : w ≠ []
  /-- All parts are quoted texts. -/
  quoted : ∀ p ∈ w, ∃ s, p = .text true s
  /-- Together they are the text. -/
  text : plainText w = v

theorem IsQuoted.cons {w : Word} {v : String} (h : IsQuoted w v) (s : String) :
    IsQuoted (.text true s :: w) (s ++ v) :=
  ⟨by simp, by simpa using h.quoted, by rw [plainText, h.text]⟩

theorem IsQuoted.consPiece_false {w : Word} {v : String} (h : IsQuoted w v) (s : String) :
    consPiece (.text false s) w = .text false s :: w := by
  cases w with
  | nil => rfl
  | cons p w =>
    obtain ⟨t, rfl⟩ := h.quoted p (List.mem_cons_self ..)
    rfl

theorem toList_shellQuote (v : String) : (shellQuote v).toList =
    '\'' :: ((v.toList.flatMap fun c => if c == '\'' then "'\"'\"'".toList else [c]) ++ ['\'']) := by
  simp only [shellQuote, Text.replace, String.toList_append, String.toList_ofList]
  rfl

/-- A text between single quotes, with double quotes around its own. The induction is on what has not
been read of it; `text` is what has been read since the last single quote. -/
theorem readPieces_quoted (cs text : List Char) (htext : '\'' ∉ text) {rest : List Char}
    (hrest : ∀ c ∈ rest.head?, isMeta c = true) :
    ∃ w, IsQuoted w (String.ofList (text ++ cs)) ∧
      ReadsWithin (2 * cs.length + 2) (readPieces .bare false 0)
        ('\'' :: (text ++ ((cs.flatMap fun c => if c == '\'' then "'\"'\"'".toList else [c]) ++
          '\'' :: rest))) w rest := by
  induction cs generalizing text with
  | nil =>
    refine ⟨[.text true (String.ofList text)], ⟨by simp, by simp, by simp [plainText]⟩, ?_⟩
    exact readPieces_single htext (readPieces_end hrest)
  | cons c cs ih =>
    by_cases hc : c = '\''
    · obtain ⟨w, hw, hreads⟩ := ih [] (by simp)
      refine ⟨.text true (String.ofList text ++ "'") :: w, ?_, ?_⟩
      · have hjoined : String.ofList (text ++ c :: cs) =
            String.ofList text ++ "'" ++ String.ofList ([] ++ cs) := by
          rw [hc]
          simp [String.ofList_append, String.ofList_cons, String.append_assoc]
        rw [hjoined]
        exact hw.cons _
      · rw [hc]
        exact readPieces_single htext (readPieces_double hreads)
    · obtain ⟨w, hw, hreads⟩ := ih (text ++ [c]) (by simp [htext, Ne.symm hc])
      refine ⟨w, by simpa using hw, ?_⟩
      have hstep : (if c == '\'' then "'\"'\"'".toList else [c]) = [c] := if_neg (by simpa using hc)
      rw [List.flatMap_cons, hstep]
      rw [List.append_assoc, ← List.append_assoc text]
      exact hreads.mono (by rw [List.length_cons]; omega)

/-- A quoted text is read as one word of quoted texts. -/
theorem readPieces_shellQuote (v : String) {rest : List Char}
    (hrest : ∀ c ∈ rest.head?, isMeta c = true) :
    ∃ w, IsQuoted w v ∧ ReadsWithin (2 * v.length + 2) (readPieces .bare false 0)
      ((shellQuote v).toList ++ rest) w rest := by
  obtain ⟨w, hw, hreads⟩ := readPieces_quoted v.toList [] (by simp) hrest
  refine ⟨w, by simpa using hw, ?_⟩
  rw [String.length_toList] at hreads
  rw [toList_shellQuote, List.cons_append, List.append_assoc, List.singleton_append]
  exact hreads

/-! ### Tokens -/

section Tokens

variable {n : Nat} {cs mid rest : List Char} {w : Word} {t : ScriptToken}

theorem readWordToken_word (hw : ReadsWithin n (readPieces .bare false 0) cs w rest)
    (hrest : ∀ c ∈ rest.head?, c ≠ '<' ∧ c ≠ '>') :
    ReadsWithin (n + 1) (readWordToken .bare) cs (.word w) rest := by
  refine ReadsWithin.of_succ fun fuel hfuel => ?_
  rw [readWordToken]
  refine (hw fuel hfuel).bind (.get_bind fun s hs _ => ?_)
  rw [hs]
  dsimp only
  split
  case h_1 c _ hc _ =>
    obtain ⟨hless, hgreater⟩ := hrest c hc
    simp only [hless, hgreater, beq_iff_eq, Bool.or_eq_true, or_self, if_false]
    exact .pure _ rest
  case h_2 => exact .pure _ rest

theorem readRaw_blank (h : ReadsWithin n (readRaw .bare) cs t rest) :
    ReadsWithin (n + 1) (readRaw .bare) (' ' :: cs) t rest := by
  refine ReadsWithin.of_succ fun fuel hfuel => ?_
  rw [readRaw]
  exact (Reads.upcoming (by simp)).bind ((Reads.skip _ _).bind (h fuel hfuel))

theorem readRaw_word {c : Char} (hc : isPlain c = true ∧ c ≠ '#')
    (hw : ReadsWithin n (readPieces .bare false 0) (c :: cs) w rest)
    (hrest : ∀ c ∈ rest.head?, c ≠ '<' ∧ c ≠ '>') :
    ReadsWithin (n + 2) (readRaw .bare) (c :: cs) (.word w) rest := by
  refine ReadsWithin.of_succ fun fuel hfuel => ?_
  rw [readRaw]
  have hback : c ≠ '\\' := (isPlain_iff.mp hc.1).2.1
  refine (Reads.upcoming (by simpa using hback)).bind ?_
  split
  case h_1 hnil => cases hnil
  case h_11 => exact readWordToken_word hw hrest fuel hfuel
  all_goals
    -- no other token begins with a plain character
    obtain ⟨rfl, -⟩ := List.cons.inj ‹_ :: _ = _ :: _›
    exact absurd hc (by decide)

/-- A word that begins with characters that stand for themselves, and with no number sign. -/
theorem readRaw_text (c : Char) (text : List Char) (hc : c ≠ '#')
    (htext : (c :: text).all isPlain = true)
    (hw : ∀ s, consPiece (.text false s) w = .text false s :: w)
    (hmore : ReadsWithin n (readPieces .bare false 0) mid w rest)
    (hrest : ∀ c ∈ rest.head?, c ≠ '<' ∧ c ≠ '>') :
    ReadsWithin (n + (c :: text).length + 2) (readRaw .bare) (c :: text ++ mid)
      (.word (.text false (String.ofList (c :: text)) :: w)) rest :=
  readRaw_word ⟨List.all_eq_true.mp htext c (List.mem_cons_self ..), hc⟩
    (readPieces_text htext (List.cons_ne_nil c text) hw hmore) hrest

theorem readRaw_text_blank (c : Char) (text : List Char) (hc : c ≠ '#')
    (htext : (c :: text).all isPlain = true) (cs : List Char) :
    ReadsWithin (1 + (c :: text).length + 2) (readRaw .bare) (c :: text ++ ' ' :: cs)
      (.word [.text false (String.ofList (c :: text))]) (' ' :: cs) :=
  readRaw_text c text hc htext (fun _ => rfl) (readPieces_end (by simp; decide)) (by simp)

theorem readToken_of_readRaw (h : ReadsWithin n (readRaw .bare) cs (.word w) rest) :
    ReadsWithin (n + 1) (readToken false false) cs (.word w) rest := by
  refine ReadsWithin.of_succ fun fuel hfuel => ?_
  rw [readToken]
  refine .get_bind fun s hs hpushed => ?_
  rw [hpushed]
  refine (h fuel hfuel).bind ?_
  dsimp only
  split <;> exact .pure _ rest

/-- Reads some tokens, one after the other. -/
def readTokens (fuel : Nat) : Nat → SourceReader (List ScriptToken)
  | 0 => return []
  | k + 1 => do
    let t ← readToken false false fuel
    return t :: (← readTokens fuel k)

theorem readTokens_nil (cs : List Char) : ReadsWithin 0 (fun fuel => readTokens fuel 0) cs [] cs :=
  fun _ _ => .pure [] cs

theorem readTokens_cons {m k : Nat} {ts : List ScriptToken}
    (ht : ReadsWithin n (readToken false false) cs t mid)
    (hts : ReadsWithin m (fun fuel => readTokens fuel k) mid ts rest) :
    ReadsWithin (max n m) (fun fuel => readTokens fuel (k + 1)) cs (t :: ts) rest :=
  fun fuel hfuel => (ht fuel (by omega)).bind ((hts fuel (by omega)).map _)

end Tokens

/-! ### The script that packs a directory -/

/-- The script is read as the words of packing, with the pattern at the end of one of them, and what is
left then is the directory. -/
theorem readTokens_archiveScript (source excluded : String) :
    ∃ w, IsQuoted w excluded ∧ ReadsWithin (2 * excluded.length + 20)
      (fun fuel => readTokens fuel 5) (archiveScript source excluded).toList
      [.word [.text false "tar"], .word [.text false "czf"], .word [.text false "-"],
        .word (.text false "--exclude=" :: w), .word [.text false "-C"]]
      (' ' :: (source ++ " .").toList) := by
  have hscript : (archiveScript source excluded).toList = ['t', 'a', 'r'] ++ ' ' :: (['c', 'z', 'f'] ++
      ' ' :: (['-'] ++ ' ' :: (['-', '-', 'e', 'x', 'c', 'l', 'u', 'd', 'e', '='] ++
        ((shellQuote excluded).toList ++ ' ' :: (['-', 'C'] ++ ' ' :: (source ++ " .").toList))))) := by
    have hopening : "tar czf - --exclude=".toList = ['t', 'a', 'r'] ++ ' ' :: (['c', 'z', 'f'] ++
        ' ' :: (['-'] ++ ' ' :: ['-', '-', 'e', 'x', 'c', 'l', 'u', 'd', 'e', '='])) := by decide
    have hclosing : " -C ".toList = ' ' :: ['-', 'C'] ++ [' '] := by decide
    unfold archiveScript
    simp only [String.toList_append, hopening, hclosing, List.append_assoc, List.cons_append,
      List.nil_append]
  rw [hscript]
  generalize (source ++ " .").toList = directory
  obtain ⟨w, hw, hquoted⟩ := @readPieces_shellQuote excluded (' ' :: (['-', 'C'] ++ ' ' :: directory))
    (by simp; decide)
  have htar := readRaw_text_blank 't' ['a', 'r'] (by decide) (by decide)
  have hczf := readRaw_text_blank 'c' ['z', 'f'] (by decide) (by decide)
  have hdash := readRaw_text_blank '-' [] (by decide) (by decide)
  have hexclude := readRaw_text '-' ['-', 'e', 'x', 'c', 'l', 'u', 'd', 'e', '='] (by decide)
    (by decide) hw.consPiece_false hquoted (by simp)
  have hdirectory := readRaw_text_blank '-' ['C'] (by decide) (by decide)
  refine ⟨w, hw, ReadsWithin.mono
    (readTokens_cons (readToken_of_readRaw (htar _))
    (readTokens_cons (readToken_of_readRaw (readRaw_blank (hczf _)))
    (readTokens_cons (readToken_of_readRaw (readRaw_blank (hdash _)))
    (readTokens_cons (readToken_of_readRaw (readRaw_blank hexclude))
    (readTokens_cons (readToken_of_readRaw (readRaw_blank (hdirectory _)))
    (readTokens_nil _)))))) ?_⟩
  simp

end AgentFleet.Shell
