import Criteria.Proofs.EmailPattern.Demand
import Criteria.Threshold
/-!
# Opposite operators

Some operators come in pairs of which one asks for the opposite of the other. A comparison answers
such a pair in opposite ways wherever it means something: where the threshold is valid and the live
value is one that the type can read. Everywhere else it answers both with false, so that a negative
operator never holds of a value that nobody could compare.
-/
namespace Criteria

/-- The second operator asks for the opposite of the first. -/
inductive Operator.Opposite : Operator → Operator → Prop
  | equal : Opposite equal notEqual
  | greater : Opposite greater atMost
  | less : Opposite less atLeast
  | contains : Opposite contains notContains
  | empty : Opposite empty notEmpty
  | yes : Opposite yes no
  | anyOf : Opposite anyOf noneOf
  | anyEnds : Opposite anyEnds noneEnds
  | anyStarts : Opposite anyStarts noneStarts
  | anyContains : Opposite anyContains noneContains
  | anyExact : Opposite anyExact noneExact
  | ipMatch : Opposite ipMatch ipNotMatch
  | emailMatch : Opposite emailMatch emailNotMatch

namespace Value

def IsScalar : Value → Prop
  | text _ | number _ | bool _ => True
  | null | list _ | object _ => False

instance : DecidablePred IsScalar
  | text _ | number _ | bool _ => isTrue trivial
  | null | list _ | object _ => isFalse id

def IsChoice : Value → Prop
  | list items => ∀ v ∈ items, v.IsScalar
  | object _ => False
  | null | text _ | number _ | bool _ => True

theorem isSome_scalarText? {v : Value} : v.scalarText?.isSome = true ↔ v.IsScalar := by
  cases v <;> simp [scalarText?, IsScalar]

theorem mapM_scalarText?_eq (items : List Value) :
    items.mapM scalarText? =
      if ∀ v ∈ items, v.IsScalar then some (items.filterMap scalarText?) else none := by
  induction items with
  | nil => rfl
  | cons v rest ih =>
    rw [List.mapM_cons, ih]
    cases hv : v.scalarText? with
    | none =>
      have hscalar : ¬v.IsScalar := by
        rw [← isSome_scalarText?, hv]
        exact Bool.noConfusion
      simp [hscalar]
    | some s =>
      have hscalar : v.IsScalar := by
        rw [← isSome_scalarText?, hv]
        rfl
      simp only [List.forall_mem_cons, hscalar, true_and]
      split <;> simp [hv]

private theorem isSome_mapM_scalarText? {items : List Value} :
    (items.mapM scalarText?).isSome = true ↔ ∀ v ∈ items, v.IsScalar := by
  rw [mapM_scalarText?_eq]
  split
  · next h => simpa using h
  · next h => simpa using h

private theorem isSome_textSet? {v : Value} : v.textSet?.isSome = true ↔ v.IsChoice := by
  cases v with
  | list items => exact isSome_mapM_scalarText?
  | _ => simp [textSet?, scalarText?, IsChoice]

end Value

namespace ValueType

/-- The live values that a type can compare. -/
def Readable (t : ValueType) (live : Value) : Prop :=
  match t with
  | text | textWithUnit | singleSelect | referentialSingle | tagSet => live.IsScalar
  | number | numberWithUnit => ∃ x, live.finite? = some x
  | boolean => True
  | date => ∃ s d, live = .text s ∧ Date.parse? s = some d
  | time => ∃ s d, live = .text s ∧ TimeOfDay.parse? s = some d
  | multiSelect | referentialMulti => live.IsChoice
  | ipPattern => ∃ s a, live = .text s ∧ IpAddress.read? (Text.stripBlanks s.toList) = some a
  | emailPattern => ∃ s localPart labels, live = .text s ∧
      EmailPattern.IsAddress (Text.stripBlanks s.toList) localPart labels

variable {t : ValueType} {op neg : Operator} {live threshold : Value}

/-- Two operators have opposite answers where threshold and live value can be read, and none of them
holds of a live value that cannot be. -/
structure Opposed (t : ValueType) (op neg : Operator) (live threshold : Value) : Prop where
  opposite : t.reads op threshold = true → t.Readable live →
    t.family neg live threshold = !t.family op live threshold
  unread : ¬t.Readable live →
    t.family op live threshold = false ∧ t.family neg live threshold = false

/-- A family is opposed when it answers oppositely on what it can read, and with false on a live
value that it could not. -/
private theorem Opposed.of_reading {α : Type} {x : Option α}
    (hx : x.isSome = true ↔ t.Readable live)
    (hsome : t.reads op threshold = true → ∀ a, x = some a →
      t.family neg live threshold = !t.family op live threshold)
    (hnone : x = none → t.family op live threshold = false ∧ t.family neg live threshold = false) :
    t.Opposed op neg live threshold := by
  refine ⟨?_, ?_⟩
  · intro hr hl
    obtain ⟨a, ha⟩ := Option.isSome_iff_exists.mp (hx.mpr hl)
    exact hsome hr a ha
  · intro hl
    have hn : ¬x.isSome = true := fun h => hl (hx.mp h)
    exact hnone (Option.not_isSome_iff_eq_none.mp hn)

/-! ### One family after the other -/

private theorem opposed_text (h : op.Opposite neg) (hs : text.supports op = true)
    (hi : op.ignoresThreshold = false) : text.Opposed op neg live threshold := by
  refine .of_reading Value.isSome_scalarText? ?_ ?_
  · intro hr s hlive
    cases h with
    | equal | contains =>
      obtain ⟨p, hp⟩ := Option.isSome_iff_exists.mp hr
      simp [family, Comparison.text, hlive, hp]
    | empty => cases hi
    | _ => cases hs
  · intro hlive
    cases h with
    | equal | contains => simp [family, Comparison.text, hlive]
    | empty => cases hi
    | _ => cases hs

private theorem opposed_select (h : op.Opposite neg) (hs : singleSelect.supports op = true) :
    singleSelect.Opposed op neg live threshold := by
  refine .of_reading Value.isSome_scalarText? ?_ ?_
  · intro hr s hlive
    obtain ⟨p, hp⟩ := Option.isSome_iff_exists.mp hr
    cases h with
    | equal => simp [family, Comparison.select, hlive, hp, bne]
    | _ => cases hs
  · intro hlive
    simp [family, Comparison.select, hlive]

private theorem ordered_opposite (h : op.Opposite neg) (hs : number.supports op = true)
    (o : Ordering) :
    neg.ordered o = !op.ordered o := by
  cases h with
  | equal | greater | less => cases o <;> rfl
  | _ => cases hs

private theorem opposed_number (h : op.Opposite neg) (hs : number.supports op = true) :
    number.Opposed op neg live threshold := by
  refine .of_reading Option.isSome_iff_exists ?_ ?_
  · intro hr x hx
    obtain ⟨y, hy⟩ := Option.isSome_iff_exists.mp hr
    have hord := ordered_opposite h hs (Ord.compare x.amount y.amount)
    cases h with
    | equal => simp [family, Comparison.number, hx, hy]
    | greater | less => simpa [family, Comparison.number, hx, hy] using hord
    | _ => cases hs
  · intro hx
    simp [family, Comparison.number, hx]

private theorem isSome_date? : live.date?.isSome = true ↔ date.Readable live := by
  cases live <;> simp [Value.date?, Value.text?, Readable, Option.isSome_iff_exists]

private theorem opposed_date (h : op.Opposite neg) (hs : date.supports op = true) :
    date.Opposed op neg live threshold := by
  refine .of_reading isSome_date? ?_ ?_
  · intro hr a ha
    obtain ⟨b, hb⟩ := Option.isSome_iff_exists.mp hr
    simpa [family, Comparison.date, ha, hb] using ordered_opposite h hs (a.compare b)
  · intro ha
    simp [family, Comparison.date, ha]

private theorem isSome_time? : live.time?.isSome = true ↔ time.Readable live := by
  cases live <;> simp [Value.time?, Value.text?, Readable, Option.isSome_iff_exists]

private theorem opposed_time (h : op.Opposite neg) (hs : time.supports op = true) :
    time.Opposed op neg live threshold := by
  refine .of_reading isSome_time? ?_ ?_
  · intro hr a ha
    obtain ⟨b, hb⟩ := Option.isSome_iff_exists.mp hr
    have hn : number.supports op = true := by
      cases h with
      | equal | greater | less => rfl
      | _ => cases hs
    simpa [family, Comparison.time, ha, hb] using ordered_opposite h hn (a.compare b)
  · intro ha
    simp [family, Comparison.time, ha]

private theorem opposed_set (h : op.Opposite neg) (hs : multiSelect.supports op = true) :
    multiSelect.Opposed op neg live threshold := by
  refine .of_reading Value.isSome_textSet? ?_ ?_
  · intro hr ss hlive
    obtain ⟨ts, hts, hne⟩ : ∃ ts, threshold.textSet? = some ts ∧ ts.isEmpty = false := by
      simpa [reads, Option.any_eq_true] using hr
    cases h with
    | anyOf => simp [family, Comparison.set, hlive, hts, hne]
    | _ => cases hs
  · intro hlive
    simp [family, Comparison.set, hlive]

theorem tagParts?_opposite (h : op.Opposite neg) (hs : tagSet.supports op = true) :
    ∃ relation, op.tagParts? = some (true, relation) ∧ neg.tagParts? = some (false, relation) := by
  cases h with
  | anyEnds | anyStarts | anyContains | anyExact => exact ⟨_, rfl, rfl⟩
  | _ => cases hs

private theorem opposed_tags (h : op.Opposite neg) (hs : tagSet.supports op = true) :
    tagSet.Opposed op neg live threshold := by
  obtain ⟨relation, hop, hneg⟩ := tagParts?_opposite h hs
  refine .of_reading Value.isSome_scalarText? ?_ ?_
  · intro hr s hlive
    have hne : (threshold.patterns.filter fun p => !p.isEmpty).isEmpty = false := by
      simpa [reads, List.filter_eq_nil_iff] using hr
    simp [family, Comparison.tags, hop, hneg, hlive, hne]
  · intro hlive
    simp [family, Comparison.tags, hlive]

private theorem Opposed.of_answer {answer : Option Bool}
    (ha : answer.isSome = true ↔ t.reads op threshold = true ∧ t.Readable live)
    (hop : t.family op live threshold = (answer == some true))
    (hneg : t.family neg live threshold = (answer == some false)) :
    t.Opposed op neg live threshold := by
  refine ⟨?_, ?_⟩
  · intro hr hl
    obtain ⟨b, hb⟩ := Option.isSome_iff_exists.mp (ha.mpr ⟨hr, hl⟩)
    rw [hop, hneg, hb]
    cases b <;> rfl
  · intro hl
    have hn : ¬answer.isSome = true := fun h => hl (ha.mp h).2
    rw [hop, hneg, Option.not_isSome_iff_eq_none.mp hn]
    exact ⟨rfl, rfl⟩

private theorem isSome_fitsAny? {check? : String → String → Option Bool} {isPattern : String → Bool}
    {isLive : String → Prop}
    (hc : ∀ s p, (check? s p).isSome = true ↔ isPattern p = true ∧ isLive s) :
    (Comparison.fitsAny? check? live threshold).isSome = true ↔
      threshold.patterns.any isPattern = true ∧ ∃ s, live = .text s ∧ isLive s := by
  have hfilled (s : String) : (threshold.patterns.filterMap (check? s)).isEmpty = false ↔
      threshold.patterns.any isPattern = true ∧ isLive s := by
    rw [List.isEmpty_eq_false_iff_exists_mem, List.any_eq_true]
    constructor
    · intro h
      obtain ⟨b, hb⟩ := h
      obtain ⟨p, hp, hs⟩ := List.mem_filterMap.mp hb
      obtain ⟨hpattern, hlive⟩ := (hc s p).mp (by rw [hs, Option.isSome_some])
      exact ⟨⟨p, hp, hpattern⟩, hlive⟩
    · intro h
      obtain ⟨⟨p, hp, hpattern⟩, hlive⟩ := h
      obtain ⟨b, hb⟩ := Option.isSome_iff_exists.mp ((hc s p).mpr ⟨hpattern, hlive⟩)
      exact ⟨b, List.mem_filterMap.mpr ⟨p, hp, hb⟩⟩
  cases live with
  | text s =>
    have hlive : (∃ s', Value.text s = .text s' ∧ isLive s') ↔ isLive s := by simp
    have hanswer : Comparison.fitsAny? check? (.text s) threshold =
        if (threshold.patterns.filterMap (check? s)).isEmpty then none
        else some ((threshold.patterns.filterMap (check? s)).any id) := rfl
    rw [hlive, ← hfilled, hanswer]
    split <;> simp_all
  | _ => simp [Comparison.fitsAny?, Value.text?]

theorem isSome_check?_ip (s p : String) :
    (IpPattern.check? s p).isSome = true ↔ (IpPattern.parse? p).isSome = true ∧
      ∃ a, IpAddress.read? (Text.stripBlanks s.toList) = some a := by
  rw [IpPattern.check?]
  cases IpPattern.parse? p <;> cases IpAddress.read? (Text.stripBlanks s.toList) <;> simp

private theorem opposed_ip (h : op.Opposite neg) (hs : ipPattern.supports op = true) :
    ipPattern.Opposed op neg live threshold := by
  have ha : (Comparison.fitsAny? IpPattern.check? live threshold).isSome = true ↔
      ipPattern.reads op threshold = true ∧ ipPattern.Readable live := by
    simpa only [reads, Readable, exists_and_left] using isSome_fitsAny? isSome_check?_ip
  cases h with
  | ipMatch => exact .of_answer ha rfl rfl
  | _ => cases hs

private theorem opposed_email (h : op.Opposite neg) (hs : emailPattern.supports op = true) :
    emailPattern.Opposed op neg live threshold := by
  have ha : (Comparison.fitsAny? EmailPattern.check? live threshold).isSome = true ↔
      emailPattern.reads op threshold = true ∧ emailPattern.Readable live := by
    have hcheck (s p : String) : (EmailPattern.check? s p).isSome = true ↔ _ :=
      EmailPattern.isSome_check?_iff
    simpa only [reads, Readable, exists_and_left] using isSome_fitsAny? hcheck
  cases h with
  | emailMatch => exact .of_answer ha rfl rfl
  | _ => cases hs

/-! ### All types -/

private theorem Opposed.of_alike {u : ValueType} (ho : t.Opposed op neg live threshold)
    (hf : ∀ o, u.family o live threshold = t.family o live threshold)
    (hr : u.reads op threshold = t.reads op threshold) (hl : u.Readable live ↔ t.Readable live) :
    u.Opposed op neg live threshold := by
  refine ⟨?_, ?_⟩
  · rw [hf, hf, hr, hl]
    exact ho.opposite
  · rw [hf, hf, hl]
    exact ho.unread

theorem opposed (h : op.Opposite neg) (hs : t.supports op = true)
    (hi : op.ignoresThreshold = false) : t.Opposed op neg live threshold := by
  cases t with
  | text => exact opposed_text h hs hi
  | textWithUnit => exact (opposed_text h hs hi).of_alike (fun _ => rfl) rfl Iff.rfl
  | number => exact opposed_number h hs
  | numberWithUnit => exact (opposed_number h hs).of_alike (fun _ => rfl) rfl Iff.rfl
  | singleSelect => exact opposed_select h hs
  | referentialSingle => exact (opposed_select h hs).of_alike (fun _ => rfl) rfl Iff.rfl
  | multiSelect => exact opposed_set h hs
  | referentialMulti => exact (opposed_set h hs).of_alike (fun _ => rfl) rfl Iff.rfl
  | boolean =>
    cases h with
    | yes => cases hi
    | _ => cases hs
  | date => exact opposed_date h hs
  | time => exact opposed_time h hs
  | ipPattern => exact opposed_ip h hs
  | emailPattern => exact opposed_email h hs
  | tagSet => exact opposed_tags h hs

theorem isValidThreshold_opposite (h : op.Opposite neg) (hs : t.supports op = true)
    (hn : t.supports neg = true) :
    t.isValidThreshold neg threshold = t.isValidThreshold op threshold := by
  have hi : neg.ignoresThreshold = op.ignoresThreshold := by cases h <;> rfl
  have hop : op ≠ .regex := by cases h <;> simp
  have hneg : neg ≠ .regex := by cases h <;> simp
  have hr : t.reads neg threshold = t.reads op threshold := by cases t <;> simp [reads, hop, hneg]
  rw [isValidThreshold, isValidThreshold, hs, hn, hi, hr]

theorem compare_of_ignored (h : op.Opposite neg) (hs : t.supports op = true)
    (hi : op.ignoresThreshold = true) :
    t.compare neg live threshold = !t.compare op live threshold := by
  have hnot : live.truthy = !!live.truthy := (Bool.not_not _).symm
  cases h with
  | empty =>
    cases t with
    | text | textWithUnit => exact hnot
    | _ => cases hs
  | yes =>
    cases t with
    | boolean => rfl
    | _ => cases hs
  | _ => cases hi

private theorem Opposed.compare (ho : t.Opposed op neg live threshold)
    (hv : t.isValidThreshold neg threshold = t.isValidThreshold op threshold)
    (hr : t.isValidThreshold op threshold = t.reads op threshold) :
    ¬(t.compare op live threshold = true ∧ t.compare neg live threshold = true) ∧
      (t.compare op live threshold = false ∧ t.compare neg live threshold = false ↔
        t.isValidThreshold op threshold = false ∨ ¬t.Readable live) := by
  rw [ValueType.compare, ValueType.compare, hv]
  cases hvalid : t.isValidThreshold op threshold with
  | false => simp
  | true =>
    by_cases hl : t.Readable live
    · have hneg := ho.opposite (hr.symm.trans hvalid) hl
      simp [hneg, hl]
    · obtain ⟨hop, hneg⟩ := ho.unread hl
      simp [hop, hneg, hl]

/-- A type never finds two opposite operators true, and finds both false exactly where it cannot
read the threshold or the live value. -/
theorem opposites_exclude (t : ValueType) (op neg : Operator) (h : op.Opposite neg)
    (hs : t.supports op = true) (hn : t.supports neg = true) (live threshold : Value) :
    ¬(t.compare op live threshold = true ∧ t.compare neg live threshold = true) ∧
    t.isValidThreshold neg threshold = t.isValidThreshold op threshold ∧
    (op.ignoresThreshold = false →
      (t.compare op live threshold = false ∧ t.compare neg live threshold = false ↔
        t.isValidThreshold op threshold = false ∨ ¬t.Readable live)) ∧
    (op.ignoresThreshold = true →
      t.compare neg live threshold = !t.compare op live threshold) := by
  have hv : t.isValidThreshold neg threshold = t.isValidThreshold op threshold :=
    isValidThreshold_opposite h hs hn
  cases hi : op.ignoresThreshold with
  | true =>
    have hc : t.compare neg live threshold = !t.compare op live threshold :=
      compare_of_ignored h hs hi
    have hboth : ¬(t.compare op live threshold = true ∧ t.compare neg live threshold = true) := by
      rw [hc]
      simp
    exact ⟨hboth, hv, fun hf => absurd hf Bool.noConfusion, fun _ => hc⟩
  | false =>
    have hr : t.isValidThreshold op threshold = t.reads op threshold := by
      rw [isValidThreshold, hs, hi, Bool.true_and, Bool.false_or]
    obtain ⟨hboth, hneither⟩ := (opposed h hs hi).compare hv hr
    exact ⟨hboth, hv, fun _ => hneither, fun hf => absurd hf Bool.noConfusion⟩

/-- A mail address without a domain matches no pattern and fails none, and an empty text is empty.
-/
theorem opposites_exclude_of_no_address :
    emailPattern.compare .emailMatch (.text "nobody") (.text "@example.com") = false ∧
    emailPattern.compare .emailNotMatch (.text "nobody") (.text "@example.com") = false ∧
    ¬emailPattern.Readable (.text "nobody") ∧
    date.compare .greater (.text "2024-03-01") (.text "2024-02-29") = true ∧
    date.compare .atMost (.text "2024-03-01") (.text "2024-02-29") = false ∧
    text.compare .notEmpty (.text "") .null = false := by
  have hmatch :
      emailPattern.compare .emailMatch (.text "nobody") (.text "@example.com") = false := by
    decide +kernel
  have hmiss :
      emailPattern.compare .emailNotMatch (.text "nobody") (.text "@example.com") = false := by
    decide +kernel
  have hvalid : emailPattern.isValidThreshold .emailMatch (.text "@example.com") = true := by
    decide +kernel
  have hmail := opposites_exclude emailPattern .emailMatch .emailNotMatch .emailMatch rfl rfl
    (.text "nobody") (.text "@example.com")
  have hunread : ¬emailPattern.Readable (.text "nobody") := by
    refine ((hmail.2.2.1 rfl).mp ⟨hmatch, hmiss⟩).resolve_left ?_
    rw [hvalid]
    exact Bool.noConfusion
  have hlater : date.compare .greater (.text "2024-03-01") (.text "2024-02-29") = true := by
    decide +kernel
  have hday := opposites_exclude date .greater .atMost .greater rfl rfl (.text "2024-03-01")
    (.text "2024-02-29")
  have hempty := opposites_exclude text .empty .notEmpty .empty rfl rfl (.text "") .null
  refine ⟨hmatch, hmiss, hunread, hlater, ?_, hempty.2.2.2 rfl⟩
  exact Bool.eq_false_iff.mpr fun hnot => hday.1 ⟨hlater, hnot⟩

end ValueType
end Criteria
