import AgentFleet.Proofs.Text.Lines

/-!
# Words

The words of a text are its pieces between blanks that are not empty
(`words_eq_splitOnP`). So a blank between two texts separates their words, and
neither further blanks nor blanks at the ends make a difference: texts that are
joined by spaces have the words of each in order (`words_join`), and trimming
loses none (`words_trim`).
-/

namespace AgentFleet.Text

/-- A text that is not empty and holds no blank. -/
def IsWord (s : String) : Prop :=
  s ≠ "" ∧ ∀ c ∈ s.toList, isBlank c = false

instance decidableIsWord (s : String) : Decidable (IsWord s) :=
  decidable_of_iff (s ≠ "" ∧ s.toList.all (fun c => !isBlank c) = true) (by simp [IsWord])

theorem wordsFrom_eq_filter (word cs : List Char) :
    wordsFrom word cs = (cs.splitOnPPrepend isBlank word).filter fun w => !w.isEmpty := by
  induction cs generalizing word with
  | nil => cases word <;> simp [wordsFrom]
  | cons c cs ih =>
    rw [wordsFrom, List.splitOnPPrepend_cons_eq_if]
    split
    · rw [ih, List.splitOnPPrepend_nil_right]
      cases word <;> simp
    · exact ih _

/-- Words are the pieces between blanks that are not empty. -/
theorem words_eq_splitOnP (s : String) :
    words s = ((s.toList.splitOnP isBlank).filter fun w => !w.isEmpty).map String.ofList := by
  rw [words, wordsFrom_eq_filter, List.splitOnPPrepend_nil_right]

theorem words_of_isWord {s : String} (h : IsWord s) : words s = [s] := by
  have hs : s.toList.isEmpty = false := by simpa using h.1
  rw [words_eq_splitOnP, List.splitOnP_eq_singleton h.2]
  simp [hs]

/-- Texts that are words are what they have for words. -/
theorem flatMap_words_of_isWord {ss : List String} (h : ∀ s ∈ ss, IsWord s) :
    ss.flatMap words = ss := by
  induction ss with
  | nil => rfl
  | cons s ss ih =>
    obtain ⟨hs, hss⟩ := List.forall_mem_cons.mp h
    rw [List.flatMap_cons, words_of_isWord hs, ih hss, List.singleton_append]

/-! ### Blanks between words -/

/-- A blank separates the words before it from those behind it. -/
theorem words_of_blank {s before after : String} {c : Char} (hc : isBlank c = true)
    (hs : s.toList = before.toList ++ c :: after.toList) :
    words s = words before ++ words after := by
  rw [words_eq_splitOnP, hs, List.splitOnP_append_cons _ _ hc, List.filter_append, List.map_append,
    words_eq_splitOnP, words_eq_splitOnP]

theorem words_append_space (s t : String) : words (s ++ " " ++ t) = words s ++ words t :=
  words_of_blank (by decide : isBlank ' ' = true) (by simp)

theorem words_join (ss : List String) : words (join " " ss) = ss.flatMap words := by
  induction ss with
  | nil => rfl
  | cons s ss ih =>
    cases ss with
    | nil => simp [join]
    | cons t ss =>
      have hjoin : join " " (s :: t :: ss) = s ++ " " ++ join " " (t :: ss) := rfl
      rw [hjoin, words_append_space, ih]
      rfl

/-! ### Blanks at the ends -/

theorem words_ofList_blanks {cs : List Char} (h : ∀ c ∈ cs, isBlank c = true) :
    words (String.ofList cs) = [] := by
  induction cs with
  | nil => rfl
  | cons c cs ih =>
    obtain ⟨hc, hcs⟩ := List.forall_mem_cons.mp h
    have hsplit : (String.ofList (c :: cs)).toList = "".toList ++ c :: (String.ofList cs).toList := by
      simp
    rw [words_of_blank hc hsplit, ih hcs]
    rfl

theorem words_ofList_blanks_append {before : List Char} (h : ∀ c ∈ before, isBlank c = true)
    (s : String) : words (String.ofList (before ++ s.toList)) = words s := by
  rcases List.eq_nil_or_concat' before with rfl | ⟨before, c, rfl⟩
  · simp
  · have hc : isBlank c = true := h c (by simp)
    have hsplit : (String.ofList (before ++ [c] ++ s.toList)).toList =
        (String.ofList before).toList ++ c :: s.toList := by simp
    rw [words_of_blank hc hsplit, words_ofList_blanks fun d hd => h d (List.mem_append_left _ hd),
      List.nil_append]

theorem words_ofList_append_blanks {after : List Char} (h : ∀ c ∈ after, isBlank c = true)
    (s : String) : words (String.ofList (s.toList ++ after)) = words s := by
  cases after with
  | nil => simp
  | cons c after =>
    obtain ⟨hc, hafter⟩ := List.forall_mem_cons.mp h
    have hsplit : (String.ofList (s.toList ++ c :: after)).toList =
        s.toList ++ c :: (String.ofList after).toList := by simp
    rw [words_of_blank hc hsplit, words_ofList_blanks hafter, List.append_nil]

/-- Blanks around a text are around its words. -/
theorem words_of_padded {s line : String} (h : Padded s line) : words line = words s := by
  obtain ⟨before, after, hbefore, hafter, hline⟩ := h
  have hlist : line = String.ofList (before ++ (String.ofList (s.toList ++ after)).toList) := by
    refine String.toList_injective ?_
    rw [hline]
    simp
  rw [hlist, words_ofList_blanks_append hbefore, words_ofList_append_blanks hafter]

theorem words_trim (s : String) : words (trim s) = words s :=
  (words_of_padded (padded_of_trim_eq rfl)).symm

end AgentFleet.Text
