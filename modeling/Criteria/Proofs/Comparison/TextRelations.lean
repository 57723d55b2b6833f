import Criteria.Proofs.Comparison.Choices
import Criteria.Proofs.Comparison.PatternLists
/-!
# One question to several types

Whether a live text equals another one, starts or ends with it or contains it can be asked of a
text, of a single choice, of several choices and of tags. Each type reads and compares the live
value in a way of its own, and all of them give one answer: whether the text of the live value
stands in that relation to the pattern. Among the tag operators a narrower relation implies a wider
one, and the other way round where no pattern may match.
-/
namespace Criteria

namespace TextRelation

/-- What it means for a text to stand in a relation to a pattern text. -/
def Stands (relation : TextRelation) (text pattern : String) : Prop :=
  match relation with
  | exact => text = pattern
  | starts => pattern.toList <+: text.toList
  | ends => pattern.toList <:+ text.toList
  | contains => pattern.toList <:+: text.toList

/-- A text that stands in the first relation to a pattern stands in the second as well. -/
inductive Narrower : TextRelation → TextRelation → Prop
  | exact_starts : Narrower exact starts
  | exact_ends : Narrower exact ends
  | starts_contains : Narrower starts contains
  | ends_contains : Narrower ends contains

variable {relation narrow wide : TextRelation} {s p : String}

private theorem holds_eq_true : relation.holds s p = true ↔ relation.Stands s p := by
  cases relation with
  | exact => exact beq_iff_eq
  | starts => exact List.isPrefixOf_iff_prefix
  | ends => exact List.isSuffixOf_iff_suffix
  | contains => exact Text.occursIn_eq_true

private theorem Narrower.stands (h : narrow.Narrower wide) (hs : narrow.Stands s p) :
    wide.Stands s p := by
  cases h with
  | exact_starts =>
    cases hs
    exact List.prefix_refl _
  | exact_ends =>
    cases hs
    exact List.suffix_refl _
  | starts_contains => exact List.IsPrefix.isInfix hs
  | ends_contains => exact List.IsSuffix.isInfix hs

end TextRelation

/-- What a tag operator asks of a live text: to stand in a relation to some pattern, or to none. -/
inductive Operator.AsksTags : Operator → TextRelation → Bool → Prop
  | anyExact : AsksTags anyExact .exact true
  | anyStarts : AsksTags anyStarts .starts true
  | anyEnds : AsksTags anyEnds .ends true
  | anyContains : AsksTags anyContains .contains true
  | noneExact : AsksTags noneExact .exact false
  | noneStarts : AsksTags noneStarts .starts false
  | noneEnds : AsksTags noneEnds .ends false
  | noneContains : AsksTags noneContains .contains false

private theorem Operator.AsksTags.tagParts? {op : Operator} {relation : TextRelation}
    {wanted : Bool} (h : op.AsksTags relation wanted) : op.tagParts? = some (wanted, relation) := by
  cases h <;> rfl

namespace ValueType

/-- An operator of a type asks with a threshold whether a live text stands in a relation to the
pattern `p`, or whether it does not. Texts and single choices take the pattern as it is, tags and
several choices take it in a list. -/
inductive Asks (p : String) : ValueType → Operator → Value → TextRelation → Bool → Prop
  | textEqual {t : ValueType} : t = .text ∨ t = .textWithUnit →
    Asks p t .equal (.text p) .exact true
  | textNotEqual {t : ValueType} : t = .text ∨ t = .textWithUnit →
    Asks p t .notEqual (.text p) .exact false
  | startsWith {t : ValueType} : t = .text ∨ t = .textWithUnit →
    Asks p t .startsWith (.text p) .starts true
  | endsWith {t : ValueType} : t = .text ∨ t = .textWithUnit →
    Asks p t .endsWith (.text p) .ends true
  | contains {t : ValueType} : t = .text ∨ t = .textWithUnit →
    Asks p t .contains (.text p) .contains true
  | notContains {t : ValueType} : t = .text ∨ t = .textWithUnit →
    Asks p t .notContains (.text p) .contains false
  | choiceEqual {t : ValueType} : t = .singleSelect ∨ t = .referentialSingle →
    Asks p t .equal (.text p) .exact true
  | choiceNotEqual {t : ValueType} : t = .singleSelect ∨ t = .referentialSingle →
    Asks p t .notEqual (.text p) .exact false
  | anyOf {t : ValueType} : t = .multiSelect ∨ t = .referentialMulti →
    Asks p t .anyOf (.list [.text p]) .exact true
  | allOf {t : ValueType} : t = .multiSelect ∨ t = .referentialMulti →
    Asks p t .allOf (.list [.text p]) .exact true
  | noneOf {t : ValueType} : t = .multiSelect ∨ t = .referentialMulti →
    Asks p t .noneOf (.list [.text p]) .exact false
  | tags {op : Operator} {relation : TextRelation} {wanted : Bool} : op.AsksTags relation wanted →
    Asks p .tagSet op (.list [.text p]) relation wanted

variable {t : ValueType} {op : Operator} {live threshold : Value} {relation : TextRelation}
  {wanted : Bool} {s p : String}

/-! ### The answer of each type -/

private theorem compare_of_text (ht : t = .text ∨ t = .textWithUnit) (hop : op ≠ .regex) :
    t.compare op live threshold = Comparison.text op live threshold := by
  obtain rfl | rfl := ht
  · exact compare_eq_family (fun h => nomatch h.1) fun h => hop h.2.1
  · exact compare_eq_family (fun h => nomatch h.1) fun h => hop h.2.1

private theorem compare_of_choice (ht : t = .singleSelect ∨ t = .referentialSingle) :
    t.compare op live threshold = Comparison.select op live threshold := by
  obtain rfl | rfl := ht
  · exact compare_eq_family (fun h => nomatch h.1) fun h => nomatch h.1
  · exact compare_eq_family (fun h => nomatch h.1) fun h => nomatch h.1

private theorem choices?_of_scalarText? (h : live.scalarText? = some s) :
    live.choices? = some {s} := by
  rw [Value.choices?_eq]
  cases live with
  | text _ | number _ | bool _ => simp [Value.textSet?, h]
  | _ => cases h

private theorem relates_of_choices (ht : t = .multiSelect ∨ t = .referentialMulti)
    (hlive : live.scalarText? = some s) :
    t.compare op live (.list [.text p]) = true ↔ op.Relates {s} {p} := by
  have hp : (Value.list [.text p]).choices? = some {p} := rfl
  simp [compare_iff_choices ht, choices?_of_scalarText? hlive, hp]

private theorem poll_singleton (ask : String → Option Bool) (p : String) :
    poll ask [p] = ask p := by
  cases h : ask p <;> simp [poll, h]

private theorem compare_of_tag (h : op.tagParts? = some (wanted, relation))
    (hlive : live.scalarText? = some s) (hp : p ≠ "") :
    tagSet.compare op live (.list [.text p]) = (relation.holds s p == wanted) := by
  have hanswer : tagAnswer relation live p = some (relation.holds s p) := by
    simp [tagAnswer, hlive, hp]
  rw [compare_of_takesPatterns (.inl rfl), family, tags_eq_poll h]
  change (poll (tagAnswer relation live) [p] == some wanted) = _
  rw [poll_singleton, hanswer]
  rfl

/-- A type answers a question about a scalar as the text of the scalar stands to the pattern. -/
private theorem compare_eq_wanted (h : Asks p t op threshold relation wanted)
    (hlive : live.scalarText? = some s) (hp : p ≠ "") :
    t.compare op live threshold = wanted ↔ relation.Stands s p := by
  rw [← TextRelation.holds_eq_true]
  have hpattern : (Value.text p).scalarText? = some p := rfl
  cases h with
  | textEqual ht | startsWith ht | endsWith ht | contains ht =>
    simp [compare_of_text ht, Comparison.text, hlive, hpattern]
  | textNotEqual ht | notContains ht =>
    simp [compare_of_text ht, Comparison.text, hlive, hpattern]
  | choiceEqual ht | choiceNotEqual ht =>
    simp [compare_of_choice ht, Comparison.select, hlive, hpattern, TextRelation.holds]
  | anyOf ht =>
    simp [relates_of_choices ht hlive, Operator.Relates, Finset.Nonempty, TextRelation.holds]
  | allOf ht =>
    simp [relates_of_choices ht hlive, Operator.Relates, TextRelation.holds, @eq_comm _ p]
  | noneOf ht =>
    rw [Bool.eq_false_iff, Ne, relates_of_choices ht hlive]
    simp [Operator.Relates, TextRelation.holds]
  | tags h =>
    rw [compare_of_tag h.tagParts? hlive hp]
    cases relation.holds s p <;> cases wanted <;> decide

/-! ### Wider and narrower relations -/

private theorem tagAnswer_widen {narrow wide : TextRelation} (h : narrow.Narrower wide)
    (hyes : tagAnswer narrow live p = some true) : tagAnswer wide live p = some true := by
  rw [tagAnswer] at hyes ⊢
  split at hyes
  · cases hyes
  · next hp =>
    obtain ⟨s, hs, hholds⟩ := Option.map_eq_some_iff.mp hyes
    rw [if_neg hp, hs, Option.map_some, Option.some_inj]
    exact TextRelation.holds_eq_true.mpr (h.stands (TextRelation.holds_eq_true.mp hholds))

private theorem isSome_tagAnswer : (tagAnswer relation live p).isSome = true ↔
    p.isEmpty = false ∧ live.scalarText?.isSome = true := by
  cases hp : p.isEmpty <;> simp [tagAnswer, hp]

theorem compare_tags : tagSet.compare op live threshold = Comparison.tags op live threshold :=
  compare_of_takesPatterns (.inl rfl)

theorem compare_widen {narrow wide : TextRelation} {op wider : Operator} (h : narrow.Narrower wide)
    (hop : op.AsksTags narrow true) (hwider : wider.AsksTags wide true)
    (hc : tagSet.compare op live threshold = true) :
    tagSet.compare wider live threshold = true := by
  rw [compare_tags, tags_eq_poll hop.tagParts?, beq_iff_eq, poll_eq_true] at hc
  rw [compare_tags, tags_eq_poll hwider.tagParts?, beq_iff_eq, poll_eq_true]
  obtain ⟨p, hp, hyes⟩ := hc
  exact ⟨p, hp, tagAnswer_widen h hyes⟩

theorem compare_narrow {narrow wide : TextRelation} {op wider : Operator} (h : narrow.Narrower wide)
    (hop : op.AsksTags narrow false) (hwider : wider.AsksTags wide false)
    (hc : tagSet.compare wider live threshold = true) :
    tagSet.compare op live threshold = true := by
  rw [compare_tags, tags_eq_poll hwider.tagParts?, beq_iff_eq, poll_eq_false] at hc
  rw [compare_tags, tags_eq_poll hop.tagParts?, beq_iff_eq, poll_eq_false]
  obtain ⟨⟨p, hp, hanswer⟩, hno⟩ := hc
  refine ⟨⟨p, hp, ?_⟩, ?_⟩
  -- Whether a pattern is answered at all does not rest on the relation.
  · rw [isSome_tagAnswer] at hanswer ⊢
    exact hanswer
  · rintro ⟨q, hq, hyes⟩
    exact hno ⟨q, hq, tagAnswer_widen h hyes⟩

/-! ### One question, one answer -/

private theorem compare_of_same_question {t' : ValueType} {op' : Operator}
    {live' threshold' : Value} {wanted' : Bool} (h : Asks p t op threshold relation wanted)
    (h' : Asks p t' op' threshold' relation wanted') (hlive : live.scalarText? = some s)
    (hlive' : live'.scalarText? = some s) (hp : p ≠ "") :
    t'.compare op' live' threshold' =
      if wanted' = wanted then t.compare op live threshold else !t.compare op live threshold := by
  have hiff : t'.compare op' live' threshold' = wanted' ↔ t.compare op live threshold = wanted :=
    (compare_eq_wanted h' hlive' hp).trans (compare_eq_wanted h hlive hp).symm
  revert hiff
  cases t.compare op live threshold <;> cases t'.compare op' live' threshold' <;>
    cases wanted <;> cases wanted' <;> decide

/-- One question about a text has one answer, whichever type asks it, and a tag operator goes by the
strength of its relation. -/
theorem types_agree_on_texts (live : Value) :
    (live.IsScalar → ∃ s, live.scalarText? = some s ∧ ∀ p, p ≠ "" →
      (∀ t op threshold relation wanted, Asks p t op threshold relation wanted →
        (t.compare op live threshold = wanted ↔ relation.Stands s p) ∧
        t.compare op live threshold = t.compare op (.text s) threshold) ∧
      ∀ t op threshold t' op' threshold' relation wanted wanted',
        Asks p t op threshold relation wanted → Asks p t' op' threshold' relation wanted' →
          t'.compare op' live threshold' =
            if wanted' = wanted then t.compare op live threshold
            else !t.compare op live threshold) ∧
    ∀ narrow wide, TextRelation.Narrower narrow wide → ∀ op wider threshold,
      (op.AsksTags narrow true → wider.AsksTags wide true →
        tagSet.compare op live threshold = true → tagSet.compare wider live threshold = true) ∧
      (op.AsksTags narrow false → wider.AsksTags wide false →
        tagSet.compare wider live threshold = true → tagSet.compare op live threshold = true) := by
  refine ⟨?_, ?_⟩
  · intro hscalar
    obtain ⟨s, hlive⟩ := Option.isSome_iff_exists.mp (Value.isSome_scalarText?.mpr hscalar)
    refine ⟨s, hlive, fun p hp => ⟨?_, ?_⟩⟩
    · intro t op threshold relation wanted h
      have hwritten : (Value.text s).scalarText? = some s := rfl
      have htext := compare_of_same_question h h hwritten hlive hp
      rw [if_pos rfl] at htext
      exact ⟨compare_eq_wanted h hlive hp, htext⟩
    · intro t op threshold t' op' threshold' relation wanted wanted' h h'
      exact compare_of_same_question h h' hlive hlive hp
  · intro narrow wide h op wider threshold
    exact ⟨compare_widen h, compare_narrow h⟩

/-- A number is asked for the start of its text, as a text and as a tag, and for another text. -/
theorem types_agree_on_texts_of_number :
    let live := Value.nat 150
    let patterns := Value.list [.text "15"]
    live.scalarText? = some "150" ∧
    text.compare .startsWith live (.text "15") = true ∧
    tagSet.compare .anyStarts live patterns = true ∧
    tagSet.compare .anyContains live patterns = true ∧
    singleSelect.compare .equal live (.text "15") = false ∧
    multiSelect.compare .noneOf live patterns = true ∧
    multiSelect.compare .allOf live patterns = multiSelect.compare .allOf (.text "150") patterns := by
  intro live patterns
  obtain ⟨hquestions, htags⟩ := types_agree_on_texts live
  obtain ⟨s, hs, hasked⟩ := hquestions trivial
  obtain rfl : "150" = s := Option.some.inj hs
  obtain ⟨hanswer, hsame⟩ := hasked "15" (by decide)
  have hstarts : text.compare .startsWith live (.text "15") = true := by
    refine (hanswer _ _ _ _ _ (.startsWith (.inl rfl))).1.mpr ?_
    exact (by decide : "15".toList <+: "150".toList)
  have htag : tagSet.compare .anyStarts live patterns = true :=
    (hsame _ _ _ _ _ _ _ _ _ (.startsWith (.inl rfl)) (.tags .anyStarts)).trans hstarts
  have hequal : singleSelect.compare .equal live (.text "15") = false := by
    rw [Bool.eq_false_iff, Ne, (hanswer _ _ _ _ _ (.choiceEqual (.inl rfl))).1]
    exact (by decide : ¬"150" = "15")
  refine ⟨hs, hstarts, htag, ?_, hequal, ?_, ?_⟩
  · exact (htags _ _ .starts_contains _ _ patterns).1 .anyStarts .anyContains htag
  · rw [hsame _ _ _ _ _ _ _ _ _ (.choiceEqual (.inl rfl)) (.noneOf (.inl rfl)), hequal]
    rfl
  · exact (hanswer _ _ _ _ _ (.allOf (.inl rfl))).2

end ValueType
end Criteria
