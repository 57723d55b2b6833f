import Criteria.Proofs.Comparison.Guard
import Criteria.Proofs.Comparison.Opposite
/-!
# Lists of patterns

Tags and addresses are compared with a list of patterns, of which some has to match or none may. Each
pattern is put to the live value by itself, and what is no pattern is left out. So a comparison with a
list goes by the patterns in it, whatever their order and number, and one with two lists in a row by
those with either, where a negative operator takes no notice of a list without any pattern.
-/
namespace Criteria

private theorem Value.text?_eq_some {v : Value} {s : String} : v.text? = some s ↔ v = .text s := by
  cases v <;> simp [text?]

private theorem Value.mem_patterns_list {items : List Value} {p : String} :
    p ∈ (Value.list items).patterns ↔ .text p ∈ items := by
  simp [patterns, List.mem_filterMap, text?_eq_some]

namespace ValueType

def TakesPatterns (t : ValueType) : Prop :=
  t = .tagSet ∨ t = .ipPattern ∨ t = .emailPattern

/-- The texts that are patterns for a type: for tags all but the empty one. -/
def isPattern (t : ValueType) (p : String) : Bool :=
  match t with
  | tagSet => !p.isEmpty
  | ipPattern => (IpPattern.parse? p).isSome
  | emailPattern => (EmailPattern.parse? p).isSome
  | _ => false

/-- The answer of some patterns to a question: whether one of them says yes. Those that do not answer are
left out, and without any other the answer is open. -/
def poll (ask : String → Option Bool) (patterns : List String) : Option Bool :=
  if (patterns.filterMap ask).isEmpty then none else some ((patterns.filterMap ask).any id)

variable {t : ValueType} {op pos neg : Operator} {live threshold : Value}
  {ask : String → Option Bool} {ps : List String}

theorem poll_eq_true : poll ask ps = some true ↔ ∃ p ∈ ps, ask p = some true := by
  rw [poll]
  split
  · next hempty =>
    rw [List.isEmpty_iff, List.filterMap_eq_nil_iff] at hempty
    simp only [reduceCtorEq, false_iff, not_exists, not_and]
    intro p hp
    simp [hempty p hp]
  · rw [Option.some.injEq, List.any_eq_true]
    simp only [List.mem_filterMap, id_eq, exists_eq_right]

theorem poll_eq_false :
    poll ask ps = some false ↔
      (∃ p ∈ ps, (ask p).isSome = true) ∧ ¬∃ p ∈ ps, ask p = some true := by
  have hanswer : (poll ask ps).isSome = true ↔ ∃ p ∈ ps, (ask p).isSome = true := by
    rw [poll]
    split
    · next hempty =>
      rw [List.isEmpty_iff, List.filterMap_eq_nil_iff] at hempty
      simpa using hempty
    · next hempty =>
      rw [List.isEmpty_iff, List.filterMap_eq_nil_iff] at hempty
      simpa [Option.isSome_iff_ne_none] using hempty
  rw [← hanswer, ← poll_eq_true]
  cases poll ask ps with
  | none => simp
  | some b => simp

/-- A positive and a negative operator compare by one poll, in which each pattern of the type answers,
or none does when the live value cannot be read. -/
structure Polls (t : ValueType) (pos neg : Operator) (live : Value) (ask : String → Option Bool) :
    Prop where
  positive : ∀ threshold, t.compare pos live threshold = (poll ask threshold.patterns == some true)
  negative : ∀ threshold, t.compare neg live threshold = (poll ask threshold.patterns == some false)
  answers : (∀ p, (ask p).isSome = t.isPattern p) ∨ ∀ p, ask p = none
  valid : ∀ threshold, t.isValidThreshold neg threshold = threshold.patterns.any t.isPattern

/-! ### The polls of the three types -/

private theorem isValidThreshold_of_takesPatterns (ht : t.TakesPatterns) (hs : t.supports op = true)
    (threshold : Value) : t.isValidThreshold op threshold = threshold.patterns.any t.isPattern := by
  rcases ht with rfl | rfl | rfl
  all_goals
    have hi : op.ignoresThreshold = false := by
      cases op with
      | empty | notEmpty | yes | no => cases hs
      | _ => rfl
    rw [isValidThreshold, hs, hi]
    rfl

private theorem fitsAny?_eq_poll (check? : String → String → Option Bool) (live threshold : Value) :
    Comparison.fitsAny? check? live threshold =
      poll (fun p => live.text?.bind (check? · p)) threshold.patterns := by
  cases hlive : live.text? with
  | none => simp [Comparison.fitsAny?, poll, hlive]
  | some s => simp [Comparison.fitsAny?, poll, hlive]

theorem compare_of_takesPatterns (ht : t.TakesPatterns) :
    t.compare op live threshold = t.family op live threshold := by
  apply compare_eq_family
  · intro h
    rcases ht with rfl | rfl | rfl <;> cases h.1
  · intro h
    rcases ht with rfl | rfl | rfl <;> rcases h.1 with h | h <;> cases h

private theorem polls_of_check {check? : String → String → Option Bool} {isLive : String → Prop}
    (ht : t.TakesPatterns) (hs : t.supports neg = true)
    (hcheck : ∀ s p, (check? s p).isSome = true ↔ t.isPattern p = true ∧ isLive s)
    (hpos : t.family pos = fun live threshold =>
      Comparison.fitsAny? check? live threshold == some true)
    (hneg : t.family neg = fun live threshold =>
      Comparison.fitsAny? check? live threshold == some false) (live : Value) :
    t.Polls pos neg live fun p => live.text?.bind (check? · p) := by
  refine ⟨?_, ?_, ?_, isValidThreshold_of_takesPatterns ht hs⟩
  · intro threshold
    rw [compare_of_takesPatterns ht, hpos, ← fitsAny?_eq_poll]
  · intro threshold
    rw [compare_of_takesPatterns ht, hneg, ← fitsAny?_eq_poll]
  · cases live.text? with
    | none => exact .inr fun _ => rfl
    | some s =>
      by_cases hlive : isLive s
      · refine .inl fun p => ?_
        rw [Option.bind_some, Bool.eq_iff_iff, hcheck, and_iff_left hlive]
      · refine .inr fun p => Option.not_isSome_iff_eq_none.mp ?_
        rw [Option.bind_some, hcheck]
        exact fun h => hlive h.2

/-- The answer of a tag pattern about a live value. -/
def tagAnswer (relation : TextRelation) (live : Value) (p : String) : Option Bool :=
  if p.isEmpty then none else live.scalarText?.map (relation.holds · p)

private theorem filterMap_tagAnswer {relation : TextRelation} {s : String}
    (hlive : live.scalarText? = some s) (ps : List String) :
    ps.filterMap (tagAnswer relation live) =
      (ps.filter fun p => !p.isEmpty).map (relation.holds s) := by
  rw [← List.filterMap_eq_map, List.filterMap_filter]
  congr 1
  funext p
  rw [tagAnswer, hlive]
  cases p.isEmpty <;> rfl

theorem tags_eq_poll {any : Bool} {relation : TextRelation}
    (h : op.tagParts? = some (any, relation)) (live threshold : Value) :
    Comparison.tags op live threshold =
      (poll (tagAnswer relation live) threshold.patterns == some any) := by
  rw [Comparison.tags, h]
  cases hlive : live.scalarText? with
  | none => simp [poll, tagAnswer, hlive]
  | some s =>
    rw [poll, filterMap_tagAnswer hlive, List.isEmpty_map, List.any_map]
    dsimp only
    split
    · rfl
    · rfl

private theorem polls_tags {relation : TextRelation} (hpos : pos.tagParts? = some (true, relation))
    (hneg : neg.tagParts? = some (false, relation)) (live : Value) :
    tagSet.Polls pos neg live (tagAnswer relation live) := by
  have hs : tagSet.supports neg = true := Operator.supports_of_tagParts? hneg
  refine ⟨?_, ?_, ?_, isValidThreshold_of_takesPatterns (.inl rfl) hs⟩
  · intro threshold
    rw [compare_of_takesPatterns (.inl rfl), family, tags_eq_poll hpos]
  · intro threshold
    rw [compare_of_takesPatterns (.inl rfl), family, tags_eq_poll hneg]
  · cases hlive : live.scalarText? with
    | none => exact .inr fun p => by simp [tagAnswer, hlive]
    | some s => exact .inl fun p => by cases h : p.isEmpty <;> simp [tagAnswer, isPattern, hlive, h]

theorem exists_polls (ht : t.TakesPatterns) (h : pos.Opposite neg) (hs : t.supports pos = true)
    (live : Value) : ∃ ask, t.Polls pos neg live ask := by
  rcases ht with rfl | rfl | rfl
  · obtain ⟨relation, hpos, hneg⟩ := tagParts?_opposite h hs
    exact ⟨_, polls_tags hpos hneg live⟩
  · cases h with
    | ipMatch => exact ⟨_, polls_of_check (.inr (.inl rfl)) rfl isSome_check?_ip rfl rfl live⟩
    | _ => cases hs
  · cases h with
    | emailMatch =>
      have hcheck (s p : String) : (EmailPattern.check? s p).isSome = true ↔ _ :=
        EmailPattern.isSome_check?_iff
      exact ⟨_, polls_of_check (.inr (.inr rfl)) rfl hcheck rfl rfl live⟩
    | _ => cases hs

/-! ### The laws of polls -/

namespace Polls

variable (h : t.Polls pos neg live ask) {items others : List Value}

include h

private theorem isPattern_of_isSome {p : String} (hp : (ask p).isSome = true) :
    t.isPattern p = true := by
  rcases h.answers with hask | hask
  · rwa [← hask p]
  · rw [hask p] at hp
    cases hp

theorem positive_iff :
    t.compare pos live threshold = true ↔ ∃ p ∈ threshold.patterns, ask p = some true := by
  rw [h.positive, beq_iff_eq, poll_eq_true]

theorem negative_iff :
    t.compare neg live threshold = true ↔
      (∃ p ∈ threshold.patterns, (ask p).isSome = true) ∧
        ¬∃ p ∈ threshold.patterns, ask p = some true := by
  rw [h.negative, beq_iff_eq, poll_eq_false]

private theorem negative_eq :
    (∀ threshold, t.compare neg live threshold =
      (t.isValidThreshold neg threshold && !t.compare pos live threshold)) ∨
    ∀ threshold, t.compare neg live threshold = false := by
  rcases h.answers with hask | hask
  · refine .inl fun threshold => ?_
    rw [Bool.eq_iff_iff, h.negative_iff, Bool.and_eq_true, Bool.not_eq_true', Bool.eq_false_iff,
      Ne, h.positive_iff, h.valid, List.any_eq_true]
    simp only [hask]
  · refine .inr fun threshold => Bool.eq_false_iff.mpr fun hneg => ?_
    obtain ⟨⟨p, -, hp⟩, -⟩ := h.negative_iff.mp hneg
    rw [hask p] at hp
    cases hp

private theorem isValidThreshold_of_positive (hpos : t.compare pos live threshold = true) :
    t.isValidThreshold neg threshold = true := by
  obtain ⟨p, hp, hask⟩ := h.positive_iff.mp hpos
  rw [h.valid, List.any_eq_true]
  exact ⟨p, hp, h.isPattern_of_isSome (Option.isSome_of_eq_some hask)⟩

private theorem positive_append :
    t.compare pos live (.list (items ++ others)) =
      (t.compare pos live (.list items) || t.compare pos live (.list others)) := by
  rw [Bool.eq_iff_iff, Bool.or_eq_true, h.positive_iff, h.positive_iff, h.positive_iff]
  simp only [Value.mem_patterns_list, List.mem_append, or_and_right, exists_or]

private theorem isValidThreshold_append :
    t.isValidThreshold neg (.list (items ++ others)) =
      (t.isValidThreshold neg (.list items) || t.isValidThreshold neg (.list others)) := by
  rw [h.valid, h.valid, h.valid, Value.patterns, List.filterMap_append, List.any_append]
  rfl

/-- A list without a pattern hits nothing and does not make a negative comparison fail. -/
private theorem negative_append :
    t.compare neg live (.list (items ++ others)) =
      match t.isValidThreshold neg (.list items), t.isValidThreshold neg (.list others) with
      | true, true => t.compare neg live (.list items) && t.compare neg live (.list others)
      | true, false => t.compare neg live (.list items)
      | false, true => t.compare neg live (.list others)
      | false, false => false := by
  have hinvalid (threshold : Value) (hv : t.isValidThreshold neg threshold = false) :
      t.compare pos live threshold = false :=
    Bool.eq_false_iff.mpr fun hpos => by simp [h.isValidThreshold_of_positive hpos] at hv
  rcases h.negative_eq with hneg | hneg
  · rw [hneg, hneg, hneg, h.positive_append, h.isValidThreshold_append]
    cases hi : t.isValidThreshold neg (.list items) with
    | true =>
      cases ho : t.isValidThreshold neg (.list others) with
      | true => simp
      | false => simp [hinvalid _ ho]
    | false =>
      cases ho : t.isValidThreshold neg (.list others) with
      | true => simp [hinvalid _ hi]
      | false => rfl
  · rw [hneg, hneg, hneg]
    split <;> rfl

private theorem congr {other : Value}
    (hsame : ∀ p, t.isPattern p = true → (p ∈ threshold.patterns ↔ p ∈ other.patterns)) :
    t.compare pos live threshold = t.compare pos live other ∧
      t.compare neg live threshold = t.compare neg live other := by
  have hasked (P : Option Bool → Prop) (hP : ∀ a, P a → a.isSome = true) :
      (∃ p ∈ threshold.patterns, P (ask p)) ↔ ∃ p ∈ other.patterns, P (ask p) := by
    refine exists_congr fun p => and_congr_left fun hp => ?_
    exact hsame p (h.isPattern_of_isSome (hP _ hp))
  have hyes := hasked (· = some true) fun _ => Option.isSome_of_eq_some
  have hsome := hasked (fun a => a.isSome = true) fun _ ha => ha
  rw [Bool.eq_iff_iff, h.positive_iff, h.positive_iff, hyes, Bool.eq_iff_iff, h.negative_iff,
    h.negative_iff, hsome, hyes]
  exact ⟨Iff.rfl, Iff.rfl⟩

end Polls

/-- The entries of a list that count as patterns. Texts that are none do not, nor do other values. -/
def Counts (t : ValueType) (v : Value) : Prop :=
  ∃ p, v = .text p ∧ t.isPattern p = true

/-- Of two lists of patterns in a row a positive operator has to hold for one, and a negative one
for both. A list is told by its patterns. -/
theorem pattern_lists_distribute (ht : t.TakesPatterns) (h : pos.Opposite neg)
    (hs : t.supports pos = true) (live : Value) :
    (∀ xs ys, t.compare pos live (.list (xs ++ ys)) =
      (t.compare pos live (.list xs) || t.compare pos live (.list ys))) ∧
    (∀ xs ys, t.compare neg live (.list (xs ++ ys)) =
      match t.isValidThreshold neg (.list xs), t.isValidThreshold neg (.list ys) with
      | true, true => t.compare neg live (.list xs) && t.compare neg live (.list ys)
      | true, false => t.compare neg live (.list xs)
      | false, true => t.compare neg live (.list ys)
      | false, false => false) ∧
    ∀ op, op = pos ∨ op = neg →
      (∀ xs ys, (∀ v, t.Counts v → (v ∈ xs ↔ v ∈ ys)) →
        t.compare op live (.list xs) = t.compare op live (.list ys)) ∧
      ∀ s, t.compare op live (.text s) = t.compare op live (.list [.text s]) := by
  obtain ⟨ask, hpolls⟩ := exists_polls ht h hs live
  refine ⟨fun _ _ => hpolls.positive_append, fun _ _ => hpolls.negative_append, ?_⟩
  intro op hop
  have hcongr {threshold other : Value}
      (hsame : ∀ p, t.isPattern p = true → (p ∈ threshold.patterns ↔ p ∈ other.patterns)) :
      t.compare op live threshold = t.compare op live other := by
    obtain ⟨hpos, hneg⟩ := hpolls.congr hsame
    rcases hop with rfl | rfl
    · exact hpos
    · exact hneg
  refine ⟨?_, ?_⟩
  · intro xs ys hsame
    refine hcongr fun p hp => ?_
    rw [Value.mem_patterns_list, Value.mem_patterns_list]
    exact hsame _ ⟨p, rfl, hp⟩
  · intro s
    exact hcongr fun p _ => Iff.rfl

/-- A list without any network that can be read says nothing beside another list. -/
theorem pattern_lists_distribute_of_unreadable_network :
    let live := Value.text "10.0.0.5"
    let broken := [Value.text "10.0.0.0/33", .nat 5]
    let other := [Value.text "192.168.0.0/16"]
    ipPattern.compare .ipNotMatch live (.list broken) = false ∧
    ipPattern.compare .ipNotMatch live (.list (broken ++ other)) = true ∧
    ipPattern.compare .ipMatch live (.list (broken ++ [.text "10.0.0.0/24"])) = true ∧
    ipPattern.compare .ipNotMatch live (.list (other ++ .nat 5 :: other)) =
      ipPattern.compare .ipNotMatch live (.text "192.168.0.0/16") := by
  intro live broken other
  obtain ⟨hpos, hneg, hlists⟩ :=
    pattern_lists_distribute (t := ipPattern) (.inr (.inl rfl)) .ipMatch rfl live
  obtain ⟨hsame, htext⟩ := hlists .ipNotMatch (.inr rfl)
  have hmiss : ipPattern.compare .ipNotMatch live (.list other) = true := by decide +kernel
  have hinvalid : ipPattern.isValidThreshold .ipNotMatch (.list broken) = false := by decide +kernel
  have hvalid : ipPattern.isValidThreshold .ipNotMatch (.list other) = true := by decide +kernel
  have htwice := hsame (other ++ .nat 5 :: other) other fun v hv => by
    obtain ⟨p, rfl, -⟩ := hv
    simp [other, Value.nat]
  refine ⟨by decide +kernel, ?_, ?_, htwice.trans (htext _).symm⟩
  · rw [hneg, hinvalid, hvalid]
    exact hmiss
  · rw [hpos, Bool.or_eq_true]
    exact .inr (by decide +kernel)

end ValueType
end Criteria
