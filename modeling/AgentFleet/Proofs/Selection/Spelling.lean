import AgentFleet.Inventory.Pattern
import AgentFleet.Proofs.Text.Lines

/-!
# The spelling of a pattern

The text of a pattern and its tokens determine each other. The tokens that a text
can spell are known one by one (`PatternToken.IsSpelled`): an included name is not
empty, does not begin with the mark of an exclusion and holds no separator, an
excluded name only holds no separator. The text of such tokens spells them again,
the text of a pattern is the one that it was read from without the empty pieces
(`text_parse`), and a separator between two texts puts their tokens one after the
other. So a pattern that is handed on as a text selects the same hosts there
(`pattern_spelling`).
-/

namespace AgentFleet

/-! ### Tokens and pieces -/

namespace PatternToken

/-- Whether a pattern can spell a token. -/
def IsSpelled : PatternToken → Prop
  | inclusion n => n ≠ "" ∧ ':' ∉ n.toList ∧ n.toList.head? ≠ some '!'
  | exclusion n => ':' ∉ n.toList

instance decidableIsSpelled (t : PatternToken) : Decidable t.IsSpelled :=
  match t with
  | inclusion n => inferInstanceAs (Decidable (n ≠ "" ∧ ':' ∉ n.toList ∧ n.toList.head? ≠ some '!'))
  | exclusion n => inferInstanceAs (Decidable (':' ∉ n.toList))

theorem toList_text_exclusion (n : String) : (exclusion n).text.toList = '!' :: n.toList := by
  simp [text]

/-- A piece spells the token whose text it is; only an included name must not look like another
token. -/
theorem ofPiece?_eq_some_iff {piece : String} {t : PatternToken} :
    ofPiece? piece = some t ↔
      t.text = piece ∧ ∀ n, t = .inclusion n → n ≠ "" ∧ n.toList.head? ≠ some '!' := by
  constructor
  · intro h
    unfold ofPiece? at h
    split at h
    case h_1 => cases h
    case h_2 cs hcs =>
      obtain rfl := Option.some.inj h
      refine ⟨String.toList_injective ?_, fun n hn => PatternToken.noConfusion hn⟩
      rw [toList_text_exclusion, String.toList_ofList, hcs]
    case h_3 hempty hmarked =>
      obtain rfl := Option.some.inj h
      refine ⟨rfl, fun n hn => ?_⟩
      obtain rfl := PatternToken.inclusion.inj hn
      refine ⟨fun he => hempty (by rw [he]; rfl), fun hhead => ?_⟩
      obtain ⟨cs, hcs⟩ := List.head?_eq_some_iff.mp hhead
      exact hmarked cs hcs
  · rintro ⟨rfl, hplain⟩
    cases t with
    | exclusion n =>
      unfold ofPiece?
      rw [toList_text_exclusion]
      simp
    | inclusion n =>
      obtain ⟨hne, hhead⟩ := hplain n rfl
      unfold ofPiece?
      split
      case h_1 hnil => exact absurd (String.toList_eq_nil_iff.mp hnil) hne
      case h_2 cs hcs =>
        rw [text] at hcs
        rw [hcs] at hhead
        exact absurd rfl hhead
      case h_3 => rfl

/-- Tokens are spelled by pieces without a separator. -/
theorem isSpelled_iff {t : PatternToken} :
    t.IsSpelled ↔ ':' ∉ t.text.toList ∧ ofPiece? t.text = some t := by
  rw [ofPiece?_eq_some_iff]
  cases t with
  | inclusion n =>
    simp only [IsSpelled, text, true_and, inclusion.injEq, forall_eq']
    exact and_left_comm
  | exclusion n => simp [IsSpelled, toList_text_exclusion]

end PatternToken

/-! ### Patterns and texts -/

namespace HostPattern

open PatternToken

theorem tokens_parse_append (s t : String) :
    (parse (s ++ ":" ++ t)).tokens = (parse s).tokens ++ (parse t).tokens := by
  have hsplit : Text.split ':' (s ++ ":" ++ t) = Text.split ':' s ++ Text.split ':' t :=
    Text.split_append ':' s t
  rw [parse, hsplit, List.filterMap_append]
  rfl

theorem isSpelled_of_mem_parse {s : String} {t : PatternToken} (h : t ∈ (parse s).tokens) :
    t.IsSpelled := by
  obtain ⟨piece, hpiece, ht⟩ := List.mem_filterMap.mp h
  obtain rfl := (ofPiece?_eq_some_iff.mp ht).1
  exact isSpelled_iff.mpr ⟨Text.not_mem_of_mem_split hpiece, ht⟩

/-- The text of tokens that can be spelled spells them. -/
theorem parse_text {p : HostPattern} (h : ∀ t ∈ p.tokens, t.IsSpelled) : parse p.text = p := by
  rcases p with ⟨ts⟩
  by_cases hts : ts = []
  · rw [hts]
    rfl
  · have hsplit : Text.split ':' (text ⟨ts⟩) = ts.map PatternToken.text := by
      refine Text.split_join (by simpa using hts) fun piece hpiece => ?_
      obtain ⟨t, ht, rfl⟩ := List.mem_map.mp hpiece
      exact (isSpelled_iff.mp (h t ht)).1
    have hpieces : ∀ t ∈ ts, (ofPiece? ∘ PatternToken.text) t = some t :=
      fun t ht => (isSpelled_iff.mp (h t ht)).2
    rw [parse, hsplit, List.filterMap_map, List.filterMap_congr hpieces, List.filterMap_some]

/-- The text of a pattern is the text that it was read from without the empty pieces. -/
theorem text_parse (s : String) :
    (parse s).text = Text.join ":" ((Text.split ':' s).filter fun piece => piece ≠ "") := by
  have hpiece : ∀ piece : String,
      (ofPiece? piece).map PatternToken.text = if piece ≠ "" then some piece else none := by
    intro piece
    split
    case isTrue hne =>
      cases hp : ofPiece? piece with
      | some t => rw [Option.map_some, (ofPiece?_eq_some_iff.mp hp).1]
      | none =>
        unfold ofPiece? at hp
        split at hp
        case h_1 hnil => exact absurd (String.toList_eq_nil_iff.mp hnil) hne
        case h_2 => cases hp
        case h_3 => cases hp
    case isFalse he =>
      rw [not_not.mp he]
      rfl
  have hmap : ((Text.split ':' s).filterMap ofPiece?).map PatternToken.text =
      (Text.split ':' s).filter fun piece => piece ≠ "" := by
    rw [List.map_filterMap, ← List.filterMap_eq_filter]
    refine List.filterMap_congr fun piece _ => ?_
    rw [hpiece, Option.guard]
    simp
  rw [text, parse, hmap]

/-- The law of spelling. Every text spells a pattern, two texts around a separator spell the tokens
of both, and the text of a pattern spells the pattern again. The tokens that a text spells are
exactly those that can be spelled, and their own text spells them. -/
theorem pattern_spelling :
    (∀ s t : String, (parse (s ++ ":" ++ t)).tokens = (parse s).tokens ++ (parse t).tokens) ∧
    (∀ s : String, parse (parse s).text = parse s) ∧
    (∀ ts : List PatternToken, (∃ s, (parse s).tokens = ts) ↔ ∀ t ∈ ts, t.IsSpelled) ∧
    ∀ ts : List PatternToken, (∀ t ∈ ts, t.IsSpelled) → (parse (text ⟨ts⟩)).tokens = ts := by
  have hspells : ∀ ts : List PatternToken, (∀ t ∈ ts, t.IsSpelled) →
      (parse (text ⟨ts⟩)).tokens = ts := fun ts h => by rw [parse_text h]
  refine ⟨tokens_parse_append, fun s => parse_text fun _ => isSpelled_of_mem_parse,
    fun ts => ⟨?_, fun h => ⟨text ⟨ts⟩, hspells ts h⟩⟩, hspells⟩
  rintro ⟨s, rfl⟩ t ht
  exact isSpelled_of_mem_parse ht

/-- Bare and doubled marks between empty pieces. -/
theorem pattern_spelling_marks :
    let ts : List PatternToken := [.inclusion "a", .exclusion "", .exclusion "!b", .inclusion "all"]
    (∀ t ∈ ts, t.IsSpelled) ∧ (parse (text ⟨ts⟩)).tokens = ts ∧ text ⟨ts⟩ = "a:!:!!b:all" ∧
      parse (parse ":a::!:!!b:all:").text = ⟨ts⟩ := by
  obtain ⟨-, hagain, -, hspelled⟩ := pattern_spelling
  intro ts
  have hts : ∀ t ∈ ts, t.IsSpelled := by decide
  refine ⟨hts, hspelled ts hts, by decide, ?_⟩
  rw [hagain]
  decide

end HostPattern

end AgentFleet
