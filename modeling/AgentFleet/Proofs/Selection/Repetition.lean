import AgentFleet.Proofs.Selection.Order
import AgentFleet.Proofs.Selection.Spelling
import Mathlib.Data.List.Sort

/-!
# Repeated selections

A selection is an inventory again, in another order. Selecting from it by the same
pattern gives the same records in the same order: entry tokens do not depend on
places, and among the hosts of one entry token the places of the first selection
are the order that the first selection gave them. Selecting by two patterns one
after the other keeps the hosts that both of them admit, whichever comes first
(`mem_select_select_iff`). All of this is so because what is chosen depends on the
first records of an inventory only (`chosen_congr`), and `RepetitionLaws` states
it together.
-/

namespace AgentFleet

namespace Selection

/-- Records that are put behind an inventory count when their identities are new. -/
theorem firsts_append (hosts extra : List HostRecord) :
    firsts (hosts ++ extra) = firsts hosts ++
      (firsts extra).filter fun r => !(hosts.map HostRecord.identity).contains r.identity := by
  induction hosts with
  | nil => simp [firsts]
  | cons r rest ih =>
    have hnew : ∀ s : HostRecord,
        (s.identity != r.identity && !(rest.map HostRecord.identity).contains s.identity) =
          !((r :: rest).map HostRecord.identity).contains s.identity := by
      intro s
      rw [List.map_cons, List.contains_cons, Bool.not_or]
      rfl
    rw [List.cons_append, firsts, ih, List.filter_append, List.filter_filter, firsts,
      List.cons_append]
    simp only [hnew]

theorem firsts_append_of_known {hosts extra : List HostRecord}
    (h : ∀ r ∈ extra, r.identity ∈ hosts.map HostRecord.identity) :
    firsts (hosts ++ extra) = firsts hosts := by
  have hnone : (firsts extra).filter
      (fun r => !(hosts.map HostRecord.identity).contains r.identity) = [] := by
    refine List.filter_eq_nil_iff.mpr fun r hr => ?_
    have hmem : r ∈ extra := List.mem_of_find?_eq_some (mem_firsts_iff.mp hr)
    rw [List.contains_iff_mem.mpr (h r hmem)]
    exact Bool.false_ne_true
  rw [firsts_append, hnone, List.append_nil]

end Selection

namespace HostPattern

open Selection

/-- What is chosen depends on the first records of an inventory only. -/
theorem chosen_congr (p : HostPattern) {hosts hosts' : List HostRecord}
    (h : firsts hosts = firsts hosts') (ts : List PatternToken) :
    p.chosen hosts ts = p.chosen hosts' ts := by
  induction ts using List.reverseRecOn with
  | nil => rw [chosen_nil, chosen_nil, h]
  | append_singleton ts t ih =>
    cases t with
    | inclusion n => rw [chosen_concat_inclusion, chosen_concat_inclusion, ih, fresh, fresh, h]
    | exclusion n => rw [chosen_concat_exclusion, chosen_concat_exclusion, ih]

theorem select_append_of_known (p : HostPattern) {hosts extra : List HostRecord}
    (h : ∀ r ∈ extra, r.identity ∈ hosts.map HostRecord.identity) :
    p.select (hosts ++ extra) = p.select hosts :=
  p.chosen_congr (firsts_append_of_known h) p.tokens

/-! ### Selecting from a selection -/

theorem firsts_select (p : HostPattern) (hosts : List HostRecord) :
    firsts (p.select hosts) = p.select hosts :=
  firsts_eq_self (nodup_identity_select p hosts)

/-- A selection from a selection holds the first records that both patterns admit. -/
theorem mem_select_select_iff (p q : HostPattern) (hosts : List HostRecord) (r : HostRecord) :
    r ∈ q.select (p.select hosts) ↔ r ∈ firsts hosts ∧ p.Admits r ∧ q.Admits r := by
  rw [mem_select_iff, firsts_select, mem_select_iff, and_assoc]

/-- Which of two patterns comes first does not matter to the hosts. -/
theorem select_select_perm (p q : HostPattern) (hosts : List HostRecord) :
    (q.select (p.select hosts)).Perm (p.select (q.select hosts)) := by
  have hnodup : ∀ (p : HostPattern) (hosts : List HostRecord), (p.select hosts).Nodup :=
    fun p hosts => (nodup_identity_select p hosts).of_map HostRecord.identity
  refine (List.perm_ext_iff_of_nodup (hnodup q _) (hnodup p _)).mpr fun r => ?_
  rw [mem_select_select_iff, mem_select_select_iff, and_comm (a := p.Admits r)]

theorem mem_map_identity_select_select (p q : HostPattern) (hosts : List HostRecord)
    (x : String × Option String) :
    x ∈ (q.select (p.select hosts)).map HostRecord.identity ↔
      x ∈ (p.select hosts).map HostRecord.identity ∧
        x ∈ (q.select hosts).map HostRecord.identity := by
  have hrecord : ∀ r : HostRecord, r.identity ∈ (q.select (p.select hosts)).map HostRecord.identity ↔
      r.identity ∈ (p.select hosts).map HostRecord.identity ∧
        r.identity ∈ (q.select hosts).map HostRecord.identity := by
    intro r
    rw [mem_map_identity_select q, mem_map_identity_select q, mem_map_identity_select p]
    exact ⟨fun ⟨⟨hr, hp⟩, hq⟩ => ⟨⟨hr, hp⟩, hr, hq⟩, fun ⟨hrp, _, hq⟩ => ⟨hrp, hq⟩⟩
  -- every identity is that of some record
  exact hrecord { publicIp := x.1, sshUser := "", sshOptions := "", agentPort := "", groupname := x.2 }

/-- A selection is in the order that selecting from it by the same pattern gives. -/
theorem pairwise_precedes_self (p : HostPattern) (hosts : List HostRecord) :
    (p.select hosts).Pairwise (p.Precedes (p.select hosts)) := by
  have hplace := pairwise_place_firsts (p.select hosts)
  rw [firsts_select] at hplace
  refine ((pairwise_precedes_select p hosts).and hplace).imp ?_
  rintro a b ⟨hentry | ⟨hentry, -⟩, hab⟩
  · exact Or.inl hentry
  · exact Or.inr ⟨hentry, hab⟩

theorem precedes_irrefl (p : HostPattern) (hosts : List HostRecord) (a : HostRecord) :
    ¬ p.Precedes hosts a a := by
  simp [Precedes]

theorem precedes_asymm {p : HostPattern} {hosts : List HostRecord} {a b : HostRecord}
    (hab : p.Precedes hosts a b) : ¬ p.Precedes hosts b a := by
  simp only [Precedes] at hab ⊢
  omega

/-- Selecting twice is selecting once. -/
theorem select_select (p : HostPattern) (hosts : List HostRecord) :
    p.select (p.select hosts) = p.select hosts := by
  have : Std.Irrefl (p.Precedes (p.select hosts)) := ⟨precedes_irrefl p _⟩
  have : Std.Antisymm (p.Precedes (p.select hosts)) :=
    ⟨fun _ _ hab hba => absurd hba (precedes_asymm hab)⟩
  refine (pairwise_precedes_select p _).eq_of_mem_iff (pairwise_precedes_self p hosts) fun r => ?_
  rw [mem_select_select_iff, mem_select_iff, and_self]

/-! ### Patterns of exclusions -/

/-- A first token for every host takes the place of the seed. -/
theorem chosen_everyHost_cons {p p' : HostPattern} (hp : p.hasInclude = false)
    (hp' : p'.hasInclude = true) (hosts : List HostRecord) (ts : List PatternToken) :
    p'.chosen hosts (.inclusion PatternToken.everyHost :: ts) = p.chosen hosts ts := by
  induction ts using List.reverseRecOn with
  | nil =>
    rw [chosen_everyHost hp', chosen_nil, hp]
    rfl
  | append_singleton ts t ih =>
    rw [← List.cons_append]
    cases t with
    | inclusion n => rw [chosen_concat_inclusion, chosen_concat_inclusion, ih]
    | exclusion n => rw [chosen_concat_exclusion, chosen_concat_exclusion, ih]

theorem select_everyHost_cons {p : HostPattern} (hp : p.hasInclude = false)
    (hosts : List HostRecord) :
    (mk (.inclusion PatternToken.everyHost :: p.tokens)).select hosts = p.select hosts :=
  chosen_everyHost_cons hp rfl hosts p.tokens

theorem parse_everyHost_append (s : String) :
    parse ("all:" ++ s) = ⟨.inclusion PatternToken.everyHost :: (parse s).tokens⟩ := by
  have hall : (parse "all").tokens = [.inclusion PatternToken.everyHost] := by decide
  have htokens := tokens_parse_append "all" s
  rw [hall] at htokens
  exact congrArg HostPattern.mk htokens

/-! ### The laws -/

/-- What can be relied on when hosts are selected from an inventory again. -/
structure RepetitionLaws (hosts : List HostRecord) (p q : HostPattern) : Prop where
  /-- The same pattern selects the same records in the same order. -/
  again : p.select (p.select hosts) = p.select hosts
  /-- Two patterns select what each of them selects. -/
  both : ∀ x, x ∈ (q.select (p.select hosts)).map HostRecord.identity ↔
    x ∈ (p.select hosts).map HostRecord.identity ∧ x ∈ (q.select hosts).map HostRecord.identity
  /-- Two patterns select the same records in either order. -/
  either : (q.select (p.select hosts)).Perm (p.select (q.select hosts))
  /-- Records whose identities are known may follow the inventory. -/
  known : ∀ extra : List HostRecord,
    (∀ r ∈ extra, r.identity ∈ hosts.map HostRecord.identity) →
      p.select (hosts ++ extra) = p.select hosts
  /-- A pattern of exclusions may begin with every host. -/
  exclusions : p.hasInclude = false →
    p.select hosts = (mk (.inclusion PatternToken.everyHost :: p.tokens)).select hosts
  /-- So may its text. -/
  spelled : ∀ s, (parse s).hasInclude = false →
    (parse s).select hosts = (parse ("all:" ++ s)).select hosts

/-- The laws of repetition hold for every inventory, with or without repeated identities. -/
theorem select_repetition (hosts : List HostRecord) (p q : HostPattern) :
    RepetitionLaws hosts p q where
  again := select_select p hosts
  both := mem_map_identity_select_select p q hosts
  either := select_select_perm p q hosts
  known := fun _ => select_append_of_known p
  exclusions := fun hp => (select_everyHost_cons hp hosts).symm
  spelled := fun s hs => by rw [parse_everyHost_append, select_everyHost_cons hs]

/-- Hosts that are dropped and added again, so that the first selection turns the inventory around. -/
theorem select_repetition_turned :
    let host (ip group : String) : HostRecord :=
      { publicIp := ip, sshUser := "", sshOptions := "", agentPort := "", groupname := some group }
    let hosts := [host "h1" "a", host "h2" "b", host "h3" "a"]
    let turned := (parse "a:b:!a:a").select hosts
    turned.map HostRecord.publicIp = ["h2", "h1", "h3"] ∧
      (parse "a:b:!a:a").select turned = turned ∧
      (parse "a:b:!a:a").select (hosts ++ [host "h1" "a"]) = turned ∧
      (parse "!b").select hosts = (parse "all:!b").select hosts := by
  intro host hosts turned
  have hlaws := select_repetition hosts (parse "a:b:!a:a") (parse "!b")
  exact ⟨by decide, hlaws.again, hlaws.known [host "h1" "a"] (by decide),
    hlaws.spelled "!b" (by decide)⟩

end HostPattern

end AgentFleet
