import Criteria.Threshold
/-!
# The guard of a comparison

Whether a threshold is valid and whether a live value compares with it are two tables over types and
operators. They agree: a family that finds its comparison true has been given an operator that its
types support and a threshold that they can read, so that the guard takes nothing away. It does so in
two cases only: times have no comparison for two of the operators on an order, and a regular
expression has to be written as a text.
-/
namespace Criteria

private theorem Regex.isPattern_of_search {pattern text : String} (h : search pattern text = true) :
    isPattern pattern = true := by
  rw [search] at h
  split at h
  · next hp => rw [isPattern, hp, Option.isSome_some]
  · cases h

private theorem Value.text?_of_scalarText? {v : Value} {s : String} (ht : v.text? ≠ none)
    (hs : v.scalarText? = some s) : v.text? = some s := by
  cases v with
  | text t => exact hs
  | _ => exact absurd rfl ht

private theorem Operator.supports_of_ordered {op : Operator} {o : Ordering}
    (h : op.ordered o = true) :
    ValueType.number.supports op = true := by
  cases op with
  | equal | notEqual | greater | less | atLeast | atMost => rfl
  | _ => cases h

theorem Operator.supports_of_tagParts? {op : Operator} {parts : Bool × TextRelation}
    (h : op.tagParts? = some parts) : ValueType.tagSet.supports op = true := by
  cases op with
  | anyEnds | anyStarts | anyContains | anyExact => rfl
  | noneEnds | noneStarts | noneContains | noneExact => rfl
  | _ => cases h

namespace ValueType

variable {t : ValueType} {op : Operator} {live threshold : Value}

private theorem isValidThreshold_of_reads (hs : t.supports op = true)
    (hr : t.reads op threshold = true) :
    t.isValidThreshold op threshold = true := by
  rw [isValidThreshold, hs, hr, Bool.or_true, Bool.and_true]

/-! ### What each family has found -/

/-- Texts compare by an operator of their type with a scalar; only a regular expression may be a
scalar that is no text. -/
private theorem isValidThreshold_of_text (h : Comparison.text op live threshold = true)
    (hr : op = .regex → threshold.text? ≠ none) : text.isValidThreshold op threshold = true := by
  unfold Comparison.text at h
  split at h
  · rfl
  · rfl
  · split at h
    · next s pattern hs hp =>
      have hscalar : threshold.scalarText?.isSome = true := by rw [hp, Option.isSome_some]
      cases op with
      | equal | notEqual | contains | notContains | startsWith | endsWith =>
        exact isValidThreshold_of_reads rfl hscalar
      | regex =>
        have hread : text.reads .regex threshold = true := by
          simp [reads, Value.text?_of_scalarText? (hr rfl) hp, Regex.isPattern_of_search h]
        exact isValidThreshold_of_reads rfl hread
      | _ => cases h
    · cases h

private theorem isValidThreshold_of_number (h : Comparison.number op live threshold = true) :
    number.isValidThreshold op threshold = true := by
  rw [Comparison.number] at h
  split at h
  · next x y hx hy =>
    have hs : number.supports op = true := by
      split at h
      · rfl
      · rfl
      · exact Operator.supports_of_ordered h
    exact isValidThreshold_of_reads hs (by rw [reads, hy, Option.isSome_some])
  · cases h

private theorem isValidThreshold_of_boolean (h : Comparison.boolean op live = true) :
    boolean.isValidThreshold op threshold = true := by
  cases op with
  | yes | no => rfl
  | _ => cases h

private theorem isValidThreshold_of_date (h : Comparison.date op live threshold = true) :
    date.isValidThreshold op threshold = true := by
  rw [Comparison.date] at h
  split at h
  · next a b ha hb =>
    exact isValidThreshold_of_reads (Operator.supports_of_ordered h)
      (by rw [reads, hb, Option.isSome_some])
  · cases h

private theorem isValidThreshold_of_time (h : Comparison.time op live threshold = true)
    (hop : op ≠ .atLeast ∧ op ≠ .atMost) : time.isValidThreshold op threshold = true := by
  rw [Comparison.time] at h
  split at h
  · next a b ha hb =>
    have hs : time.supports op = true := by
      cases op with
      | equal | notEqual | greater | less => rfl
      | atLeast => exact absurd rfl hop.1
      | atMost => exact absurd rfl hop.2
      | _ => cases h
    exact isValidThreshold_of_reads hs (by rw [reads, hb, Option.isSome_some])
  · cases h

private theorem isValidThreshold_of_select (h : Comparison.select op live threshold = true) :
    singleSelect.isValidThreshold op threshold = true := by
  rw [Comparison.select] at h
  split at h
  · next s pattern hs hp =>
    have hscalar : threshold.scalarText?.isSome = true := by rw [hp, Option.isSome_some]
    split at h
    · exact isValidThreshold_of_reads rfl hscalar
    · exact isValidThreshold_of_reads rfl hscalar
    · cases h
  · cases h

private theorem isValidThreshold_of_set (h : Comparison.set op live threshold = true) :
    multiSelect.isValidThreshold op threshold = true := by
  rw [Comparison.set] at h
  split at h
  · next ss ts hs ht =>
    split at h
    · cases h
    · next hne =>
      have hread : multiSelect.reads op threshold = true := by
        simpa [reads, ht] using hne
      split at h
      · exact isValidThreshold_of_reads rfl hread
      · exact isValidThreshold_of_reads rfl hread
      · exact isValidThreshold_of_reads rfl hread
      · cases h
  · cases h

private theorem isValidThreshold_of_tags (h : Comparison.tags op live threshold = true) :
    tagSet.isValidThreshold op threshold = true := by
  rw [Comparison.tags] at h
  split at h
  · next any relation s hp hs =>
    dsimp only at h
    split at h
    · cases h
    · next hne =>
      have hread : tagSet.reads op threshold = true := by
        simpa [reads, List.isEmpty_iff, List.filter_eq_nil_iff] using hne
      exact isValidThreshold_of_reads (Operator.supports_of_tagParts? hp) hread
  · cases h

private theorem exists_checked_of_fitsAny? {check? : String → String → Option Bool} {b : Bool}
    (h : Comparison.fitsAny? check? live threshold = some b) :
    ∃ s, ∃ p ∈ threshold.patterns, (check? s p).isSome = true := by
  rw [Comparison.fitsAny?, Option.bind_eq_bind, Option.bind_eq_some_iff] at h
  obtain ⟨s, _, h⟩ := h
  dsimp only at h
  split at h
  · cases h
  · next hne =>
    rw [List.isEmpty_iff] at hne
    obtain ⟨answer, ha⟩ := List.exists_mem_of_ne_nil _ hne
    obtain ⟨p, hp, hc⟩ := List.mem_filterMap.mp ha
    exact ⟨s, p, hp, by rw [hc, Option.isSome_some]⟩

private theorem isSome_parse?_of_ip {s p : String} (h : (IpPattern.check? s p).isSome = true) :
    (IpPattern.parse? p).isSome = true :=
  Option.isSome_of_isSome_bind h

private theorem isSome_parse?_of_email {s p : String}
    (h : (EmailPattern.check? s p).isSome = true) :
    (EmailPattern.parse? p).isSome = true :=
  Option.isSome_of_isSome_bind h

private theorem isValidThreshold_of_ip (h : Comparison.ip op live threshold = true) :
    ipPattern.isValidThreshold op threshold = true := by
  have hread {b : Bool} (hb : Comparison.fitsAny? IpPattern.check? live threshold = some b) :
      ipPattern.reads op threshold = true := by
    obtain ⟨s, p, hp, hc⟩ := exists_checked_of_fitsAny? hb
    exact List.any_eq_true.mpr ⟨p, hp, isSome_parse?_of_ip hc⟩
  cases op with
  | ipMatch | ipNotMatch => exact isValidThreshold_of_reads rfl (hread (eq_of_beq h))
  | _ => cases h

private theorem isValidThreshold_of_email (h : Comparison.email op live threshold = true) :
    emailPattern.isValidThreshold op threshold = true := by
  have hread {b : Bool} (hb : Comparison.fitsAny? EmailPattern.check? live threshold = some b) :
      emailPattern.reads op threshold = true := by
    obtain ⟨s, p, hp, hc⟩ := exists_checked_of_fitsAny? hb
    exact List.any_eq_true.mpr ⟨p, hp, isSome_parse?_of_email hc⟩
  cases op with
  | emailMatch | emailNotMatch => exact isValidThreshold_of_reads rfl (hread (eq_of_beq h))
  | _ => cases h

/-! ### The two tables -/

/-- Times can be put in order, but do not support two of the operators on an order. -/
def WithholdsOrder (t : ValueType) (op : Operator) : Prop :=
  t = .time ∧ (op = .atLeast ∨ op = .atMost)

/-- A regular expression that is not written as a text, which a text could still be searched for. -/
def UnwrittenRegex (t : ValueType) (op : Operator) (threshold : Value) : Prop :=
  (t = .text ∨ t = .textWithUnit) ∧ op = .regex ∧ threshold.text? = none

theorem isValidThreshold_of_family (h : t.family op live threshold = true)
    (ho : ¬t.WithholdsOrder op) (hu : ¬t.UnwrittenRegex op threshold) :
    t.isValidThreshold op threshold = true := by
  have hr (ht : t = .text ∨ t = .textWithUnit) (hop : op = .regex) : threshold.text? ≠ none :=
    fun hn => hu ⟨ht, hop, hn⟩
  cases t with
  | text => exact isValidThreshold_of_text h (hr (.inl rfl))
  | textWithUnit => exact isValidThreshold_of_text h (hr (.inr rfl))
  | number | numberWithUnit => exact isValidThreshold_of_number h
  | singleSelect | referentialSingle => exact isValidThreshold_of_select h
  | multiSelect | referentialMulti => exact isValidThreshold_of_set h
  | boolean => exact isValidThreshold_of_boolean h
  | date => exact isValidThreshold_of_date h
  | time =>
    have hop : op ≠ .atLeast ∧ op ≠ .atMost :=
      ⟨fun hop => ho ⟨rfl, .inl hop⟩, fun hop => ho ⟨rfl, .inr hop⟩⟩
    exact isValidThreshold_of_time h hop
  | ipPattern => exact isValidThreshold_of_ip h
  | emailPattern => exact isValidThreshold_of_email h
  | tagSet => exact isValidThreshold_of_tags h

theorem compare_eq_family (ho : ¬t.WithholdsOrder op) (hu : ¬t.UnwrittenRegex op threshold) :
    t.compare op live threshold = t.family op live threshold := by
  rw [compare]
  cases hf : t.family op live threshold with
  | false => rw [Bool.and_false]
  | true => rw [isValidThreshold_of_family hf ho hu, Bool.true_and]

private theorem compare_of_withholdsOrder (h : t.WithholdsOrder op) :
    t.compare op live threshold = false := by
  obtain ⟨rfl, rfl | rfl⟩ := h
  · rfl
  · rfl

private theorem compare_of_unwrittenRegex (h : t.UnwrittenRegex op threshold) :
    t.compare op live threshold = false := by
  obtain ⟨rfl | rfl, rfl, hn⟩ := h
  · simp [compare, isValidThreshold, reads, hn, Operator.ignoresThreshold]
  · simp [compare, isValidThreshold, reads, hn, Operator.ignoresThreshold]

/-- A comparison is what the family of its type finds, but for the two cases in which the guard
overrules it. -/
theorem guard_agrees_with_family (t : ValueType) (op : Operator) :
    (∀ live threshold, ¬t.WithholdsOrder op → ¬t.UnwrittenRegex op threshold →
      t.compare op live threshold = t.family op live threshold) ∧
    (∀ live threshold, t.WithholdsOrder op ∨ t.UnwrittenRegex op threshold →
      t.compare op live threshold = false) ∧
    (t.WithholdsOrder op → ∃ live threshold, t.family op live threshold = true) ∧
    ((t = .text ∨ t = .textWithUnit) → op = .regex → ∃ live threshold,
      t.UnwrittenRegex op threshold ∧ t.family op live threshold = true) ∧
    ∀ live threshold, t.supports op = true → ¬t.UnwrittenRegex op threshold →
      t.isValidThreshold op threshold = false → t.family op live threshold = false := by
  refine ⟨fun _ _ => compare_eq_family, ?_, ?_, ?_, ?_⟩
  · intro live threshold h
    exact h.elim compare_of_withholdsOrder compare_of_unwrittenRegex
  · intro h
    refine ⟨.text "10:00", .text "10:00", ?_⟩
    obtain ⟨rfl, rfl | rfl⟩ := h
    · decide +kernel
    · decide +kernel
  · intro ht hop
    refine ⟨.text "8080", .nat 80, ⟨ht, hop, rfl⟩, ?_⟩
    obtain rfl | rfl := ht
    · subst hop
      decide +kernel
    · subst hop
      decide +kernel
  · intro live threshold hs hu hv
    have ho : ¬t.WithholdsOrder op := by
      intro ho
      obtain ⟨rfl, rfl | rfl⟩ := ho
      · cases hs
      · cases hs
    rw [← compare_eq_family ho hu, compare, hv, Bool.false_and]

/-- A comparison that is left alone, two that are overruled, and a threshold without a pattern. -/
theorem guard_agrees_with_family_of_overruled :
    number.compare .greater (.nat 150) (.text " 100 ") = true ∧
    time.family .atLeast (.text "10:00") (.text "09:00") = true ∧
    time.compare .atLeast (.text "10:00") (.text "09:00") = false ∧
    text.family .regex (.text "8080") (.nat 80) = true ∧
    text.compare .regex (.text "8080") (.nat 80) = false ∧
    tagSet.family .noneEnds (.text "report.pdf") (.list [.text ""]) = false := by
  have hn := (guard_agrees_with_family .number .greater).1 (.nat 150) (.text " 100 ")
    (by simp [WithholdsOrder]) (by simp [UnwrittenRegex])
  have ht := (guard_agrees_with_family .time .atLeast).2.1 (.text "10:00") (.text "09:00")
    (.inl ⟨rfl, .inl rfl⟩)
  have hr := (guard_agrees_with_family .text .regex).2.1 (.text "8080") (.nat 80)
    (.inr ⟨.inl rfl, rfl, rfl⟩)
  have hf := (guard_agrees_with_family .tagSet .noneEnds).2.2.2.2 (.text "report.pdf")
    (.list [.text ""]) rfl (by simp [UnwrittenRegex]) rfl
  exact ⟨hn.trans (by decide +kernel), by decide +kernel, ht, by decide +kernel, hr, hf⟩

end ValueType
end Criteria
