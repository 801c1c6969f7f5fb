import AgentFleet.Text.Blank
import Mathlib.Data.List.Basic
import Mathlib.Data.List.TakeWhile

/-!
# Lines and surrounding blanks

Pieces that do not hold a separator are what a text is split into that joins them
(`split_join`), and a separator between two texts ends the pieces of the first
(`split_append`). The lines of a text are its pieces between line breaks, but for an
empty last one (`mem_drop_lines_join_iff`). A text without surrounding blanks is
found again in a line that pads it with blanks (`trim_of_padded`).
-/

namespace AgentFleet.Text

/-! ### Pieces -/

theorem splitFrom_eq_splitOnPPrepend (sep : Char) (piece cs : List Char) :
    splitFrom sep piece cs = cs.splitOnPPrepend (· == sep) piece := by
  induction cs generalizing piece with
  | nil => rfl
  | cons c cs ih =>
    rw [splitFrom, List.splitOnPPrepend_cons_eq_if, ih, ih, List.splitOnPPrepend_nil_right]

theorem split_eq_splitOn (sep : Char) (s : String) :
    split sep s = (s.toList.splitOn sep).map String.ofList := by
  rw [split, splitFrom_eq_splitOnPPrepend, List.splitOnPPrepend_nil_right,
    List.splitOn_eq_splitOnP]

theorem toList_join (sep : Char) (pieces : List String) :
    (join (String.singleton sep) pieces).toList = [sep].intercalate (pieces.map String.toList) := by
  induction pieces with
  | nil => rfl
  | cons p pieces ih =>
    cases pieces with
    | nil => simp [join]
    | cons q pieces =>
      have hjoin : join (String.singleton sep) (p :: q :: pieces) =
          p ++ String.singleton sep ++ join (String.singleton sep) (q :: pieces) := rfl
      rw [hjoin, String.toList_append, String.toList_append, ih]
      simp

/-- Pieces without the separator are found again between the separators. -/
theorem split_join {sep : Char} {pieces : List String} (hne : pieces ≠ [])
    (h : ∀ p ∈ pieces, sep ∉ p.toList) :
    split sep (join (String.singleton sep) pieces) = pieces := by
  have hlists : ∀ cs ∈ pieces.map String.toList, sep ∉ cs := by simpa using h
  rw [split_eq_splitOn, toList_join, List.splitOn_intercalate sep hlists (by simpa using hne)]
  simp [Function.comp_def]

/-- A separator between two texts lies between their pieces. -/
theorem split_append (sep : Char) (s t : String) :
    split sep (s ++ String.singleton sep ++ t) = split sep s ++ split sep t := by
  have hlist : (s ++ String.singleton sep ++ t).toList = s.toList ++ sep :: t.toList := by simp
  rw [split_eq_splitOn, hlist, List.splitOn_append_cons_self, List.map_append, split_eq_splitOn,
    split_eq_splitOn]

theorem not_mem_of_mem_splitFrom {sep : Char} {cs piece q : List Char} (hpiece : sep ∉ piece)
    (hq : q ∈ splitFrom sep piece cs) : sep ∉ q := by
  induction cs generalizing piece with
  | nil =>
    rw [List.mem_singleton.mp hq, List.mem_reverse]
    exact hpiece
  | cons c cs ih =>
    rw [splitFrom] at hq
    split at hq
    case isTrue =>
      rcases List.mem_cons.mp hq with rfl | hq
      · rwa [List.mem_reverse]
      · exact ih List.not_mem_nil hq
    case isFalse hc =>
      have hne : sep ≠ c := fun he => hc (by simp [he])
      exact ih (List.not_mem_cons_of_ne_of_not_mem hne hpiece) hq

/-- No piece holds the separator. -/
theorem not_mem_of_mem_split {sep : Char} {s p : String} (hp : p ∈ split sep s) :
    sep ∉ p.toList := by
  obtain ⟨cs, hcs, rfl⟩ := List.mem_map.mp hp
  rw [String.toList_ofList]
  exact not_mem_of_mem_splitFrom List.not_mem_nil hcs

/-- Below its first line, a text has the lines that it joins, but perhaps for an empty one. -/
theorem mem_drop_lines_join_iff {header : String} {ls : List String}
    (h : ∀ l ∈ header :: ls, '\n' ∉ l.toList) {l : String} (hl : l ≠ "") :
    l ∈ (lines (join "\n" (header :: ls))).drop 1 ↔ l ∈ ls := by
  have hsplit : split '\n' (join "\n" (header :: ls)) = header :: ls :=
    split_join (List.cons_ne_nil _ _) h
  unfold lines
  rw [hsplit]
  dsimp only
  rcases List.eq_nil_or_concat' ls with rfl | ⟨ls, last, rfl⟩
  · simp only [List.not_mem_nil, iff_false]
    split <;> simp
  · rw [← List.cons_append, List.getLast?_concat]
    by_cases hlast : last = ""
    · rw [hlast, beq_self_eq_true, if_pos rfl, List.dropLast_concat]
      simp [hl]
    · simp [hlast]

/-! ### Padding -/

/-- A line that is a text with blanks around it. -/
def Padded (s line : String) : Prop :=
  ∃ before after : List Char, (∀ c ∈ before, isBlank c = true) ∧ (∀ c ∈ after, isBlank c = true) ∧
    line.toList = before ++ s.toList ++ after

theorem toList_trim (s : String) :
    (trim s).toList = ((s.toList.dropWhile isBlank).reverse.dropWhile isBlank).reverse := by
  simp [trim, trimEnd, trimStart]

/-- A text without surrounding blanks loses nothing at either end. -/
theorem dropWhile_isBlank_of_trim_eq {s : String} (h : trim s = s) :
    s.toList.dropWhile isBlank = s.toList ∧
      s.toList.reverse.dropWhile isBlank = s.toList.reverse := by
  have hlist : ((s.toList.dropWhile isBlank).reverse.dropWhile isBlank).reverse = s.toList := by
    rw [← toList_trim, h]
  have hstart := List.dropWhile_suffix (l := s.toList) isBlank
  have hend := List.dropWhile_suffix (l := (s.toList.dropWhile isBlank).reverse) isBlank
  -- trimming never lengthens: as the whole keeps its length, so does each of its two steps
  have hlen := congrArg List.length hlist
  rw [List.length_reverse] at hlen
  have hle := hend.length_le
  rw [List.length_reverse, hlen] at hle
  have hs := hstart.eq_of_length (Nat.le_antisymm hstart.length_le hle)
  rw [hs] at hlist
  exact ⟨hs, by rw [← List.reverse_reverse (List.dropWhile isBlank _), hlist]⟩

/-- A text without surrounding blanks is what trimming leaves of a line that pads it. -/
theorem trim_of_padded {s line : String} (hs : trim s = s) (h : Padded s line) : trim line = s := by
  obtain ⟨before, after, hbefore, hafter, hline⟩ := h
  obtain ⟨hstart, hend⟩ := dropWhile_isBlank_of_trim_eq hs
  have hafter' : ∀ c ∈ after.reverse, isBlank c = true := fun c hc => hafter c (List.mem_reverse.mp hc)
  have hnone : (after ++ []).dropWhile isBlank = [] := List.dropWhile_append_of_pos hafter
  rw [List.append_nil] at hnone
  refine String.toList_injective ?_
  rw [toList_trim, hline, List.append_assoc, List.dropWhile_append_of_pos hbefore,
    List.dropWhile_append, hstart]
  split
  case isTrue hempty =>
    have hnil : s.toList = [] := by simpa using hempty
    simp [hnone, hnil]
  case isFalse =>
    rw [List.reverse_append, List.dropWhile_append_of_pos hafter', hend, List.reverse_reverse]

/-- A line pads what trimming leaves of it. -/
theorem padded_of_trim_eq {s line : String} (h : trim line = s) : Padded s line := by
  subst h
  set rest := line.toList.dropWhile isBlank with hrest
  refine ⟨line.toList.takeWhile isBlank, (rest.reverse.takeWhile isBlank).reverse,
    fun c => List.mem_takeWhile_imp,
    fun c hc => List.mem_takeWhile_imp (List.mem_reverse.mp hc), ?_⟩
  rw [toList_trim, List.append_assoc, ← hrest, ← List.reverse_append,
    List.takeWhile_append_dropWhile, List.reverse_reverse, List.takeWhile_append_dropWhile]

/-- Trimming the end of a text takes the blanks behind its last other character. -/
theorem exists_toList_eq_trimEnd_append (s : String) :
    ∃ blanks : List Char, s.toList = (trimEnd s).toList ++ blanks ∧
      (∀ c ∈ blanks, isBlank c = true) ∧ ∀ c ∈ (trimEnd s).toList.getLast?, isBlank c = false := by
  have hlist : (trimEnd s).toList = (s.toList.reverse.dropWhile isBlank).reverse := by
    simp [trimEnd]
  refine ⟨(s.toList.reverse.takeWhile isBlank).reverse, ?_,
    fun c hc => List.mem_takeWhile_imp (List.mem_reverse.mp hc), fun c hc => ?_⟩
  · rw [hlist, ← List.reverse_append, List.takeWhile_append_dropWhile, List.reverse_reverse]
  · have hhead := List.head?_dropWhile_not isBlank s.toList.reverse
    rw [hlist, List.getLast?_reverse] at hc
    rw [Option.mem_def.mp hc] at hhead
    exact hhead

end AgentFleet.Text
