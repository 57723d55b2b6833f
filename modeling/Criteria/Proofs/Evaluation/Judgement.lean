import Criteria.Evaluation
/-!
# The judgement of a rule

What decides the outcome of one rule, and when it asks a resolver. A rule is compared when its
condition is known, all required arguments are provided and its operator is one that the condition
allows; it is skipped when a required argument of its known condition is missing. Outcome and log of
every other statement about evaluation come from the three characterizations here.
-/
namespace Criteria

namespace Condition

private theorem missingArgument?_eq_none {c : Condition} {context : Context} :
    c.missingArgument? context = none ↔ ∀ key ∈ c.required, context.has key = true := by
  simp [missingArgument?, List.find?_eq_none]

private theorem live_snd_of_resolver {c : Condition} {run : Resolver} {pass : Bool}
    (h : c.origin = some (.resolver run pass)) (authored : Value) (context : Context) :
    (c.live authored context).2 = [c.call pass authored context] := by
  rw [live, h]

private theorem live_snd_of_key {c : Condition}
    (h : ∀ run pass, c.origin ≠ some (.resolver run pass))
    (authored : Value) (context : Context) : (c.live authored context).2 = [] := by
  rw [live]
  split
  · rfl
  · rfl
  · next run pass hr => exact absurd hr (h run pass)

end Condition

@[simp] theorem Outcome.ofBool_eq_holds {b : Bool} : Outcome.ofBool b = .holds ↔ b = true := by
  cases b <;> simp [ofBool]

@[simp] theorem Outcome.ofBool_ne_skipped (b : Bool) : Outcome.ofBool b ≠ .skipped := by
  cases b <;> simp [ofBool]

namespace Evaluator

/-- A rule is compared under a condition and by an operator. -/
structure Compares (e : Evaluator) (r : Rule) (c : Condition) (op : Operator) : Prop where
  known : e.catalogue.get? r.condition = some c
  provided : ∀ key ∈ c.required, e.context.has key = true
  named : r.operator? = some op
  allowed : c.allows op = true

/-- A rule is skipped: a required argument of its condition is missing. -/
def Skips (e : Evaluator) (r : Rule) : Prop :=
  ∃ c, e.catalogue.get? r.condition = some c ∧ ∃ key ∈ c.required, e.context.has key = false

/-- A rule that is compared asks the resolver of its condition. -/
def Asks (e : Evaluator) (r : Rule) (c : Condition) (pass : Bool) : Prop :=
  (∃ op, e.Compares r c op) ∧ ∃ run, c.origin = some (.resolver run pass)

/-- The log of a rule: one call if it asks a resolver, and none otherwise. -/
def Logs (e : Evaluator) (r : Rule) (calls : List Call) : Prop :=
  (∃ c pass, e.Asks r c pass ∧ calls = [c.call pass r.value e.context]) ∨
    ((¬∃ c pass, e.Asks r c pass) ∧ calls = [])

variable {e : Evaluator} {r : Rule}

theorem comparison_eq_ok {c : Condition} {op : Operator} :
    e.comparison r = .ok (c, op) ↔ e.Compares r c op := by
  constructor
  · intro h
    rw [comparison] at h
    split at h
    · cases h
    · next d hd =>
      split at h
      · cases h
      · next hm =>
        have hp := Condition.missingArgument?_eq_none.mp (Option.not_isSome_iff_eq_none.mp hm)
        split at h
        · next o ho =>
          split at h
          · next ha =>
            cases h
            exact ⟨hd, hp, ho, ha⟩
          · cases h
        · cases h
  · intro h
    obtain ⟨hk, hp, hn, ha⟩ := h
    have hm := Condition.missingArgument?_eq_none.mpr hp
    simp [comparison, hk, hm, hn, ha]

private theorem comparison_eq_skipped : e.comparison r = .error .skipped ↔ e.Skips r := by
  constructor
  · intro h
    rw [comparison] at h
    split at h
    · cases h
    · next c hc =>
      split at h
      · next hm =>
        obtain ⟨key, hkey⟩ := Option.isSome_iff_exists.mp hm
        have hno := List.find?_some hkey
        exact ⟨c, hc, key, List.mem_of_find?_eq_some hkey, by simpa using hno⟩
      · split at h
        · split at h <;> cases h
        · cases h
  · intro h
    obtain ⟨c, hc, key, hkey, hno⟩ := h
    have hm : (c.missingArgument? e.context).isSome := by
      rw [Condition.missingArgument?, List.find?_isSome]
      exact ⟨key, hkey, by simp [hno]⟩
    simp [comparison, hc, hm]

private theorem comparison_ne_holds : e.comparison r ≠ .error .holds := by
  rw [comparison]
  split
  · simp
  · split
    · simp
    · split
      · split <;> simp
      · simp

theorem judge_of_error {o : Outcome} (h : e.comparison r = .error o) : e.judge r = (o, []) := by
  rw [judge, h]

theorem judge_of_unknown (h : e.catalogue.get? r.condition = none) : e.judge r = (.fails, []) := by
  apply judge_of_error
  rw [comparison, h]

/-- A rule that is compared takes the calls of its live value, and has the outcome of the comparison
of its type. Without a live value it fails. -/
theorem judge_of_compares {c : Condition} {op : Operator} (h : e.Compares r c op) :
    e.judge r =
      (match (c.live r.value e.context).1 with
        | .ok live => .ofBool (c.type.compare op live (c.type.threshold r.value))
        | .error _ => .fails,
      (c.live r.value e.context).2) := by
  rw [judge, comparison_eq_ok.mpr h]
  dsimp only [Condition.resolve]
  cases (c.live r.value e.context).1 with
  | ok live => rfl
  | error err => rfl

theorem judge_eq_of_live_eq {k : Catalogue} {c₁ c₂ : Context}
    (h : ∀ c, k.get? r.condition = some c →
      c.missingArgument? c₁ = c.missingArgument? c₂ ∧ c.live r.value c₁ = c.live r.value c₂)
    (traced : Bool) : (mk k c₁ traced).judge r = (mk k c₂ traced).judge r := by
  cases hc : k.get? r.condition with
  | none => rw [judge_of_unknown hc, judge_of_unknown hc]
  | some c =>
    obtain ⟨hmissing, hlive⟩ := h c hc
    have hcomparison : (mk k c₁ traced).comparison r = (mk k c₂ traced).comparison r := by
      simp only [comparison, hc, hmissing]
    -- a live value is looked up only where no argument is missing and the operator is known
    cases h₁ : (mk k c₁ traced).comparison r with
    | error o => rw [judge_of_error h₁, judge_of_error (hcomparison.symm.trans h₁)]
    | ok p =>
      obtain ⟨d, op⟩ := p
      have h₂ := comparison_eq_ok.mp (hcomparison.symm.trans h₁)
      obtain rfl : c = d := Option.some.inj (hc.symm.trans h₂.known)
      rw [judge_of_compares (comparison_eq_ok.mp h₁), judge_of_compares h₂, hlive]

theorem outcome_eq_holds :
    e.outcome r = .holds ↔ ∃ c op live, e.Compares r c op ∧
      (c.live r.value e.context).1 = .ok live ∧
      c.type.compare op live (c.type.threshold r.value) = true := by
  constructor
  · intro h
    cases hc : e.comparison r with
    | error o =>
      have ho : o = .holds := by simpa only [outcome, judge_of_error hc] using h
      exact absurd (ho ▸ hc) comparison_ne_holds
    | ok p =>
      obtain ⟨c, op⟩ := p
      have hp := comparison_eq_ok.mp hc
      rw [outcome, judge_of_compares hp] at h
      cases hl : (c.live r.value e.context).1 with
      | error err => simp [hl] at h
      | ok live =>
        have ht : c.type.compare op live (c.type.threshold r.value) = true := by
          simpa [hl] using h
        exact ⟨c, op, live, hp, hl, ht⟩
  · intro h
    obtain ⟨c, op, live, hp, hl, ht⟩ := h
    rw [outcome, judge_of_compares hp]
    simpa [hl] using ht

theorem outcome_eq_skipped : e.outcome r = .skipped ↔ e.Skips r := by
  rw [← comparison_eq_skipped]
  constructor
  · intro h
    cases hc : e.comparison r with
    | error o =>
      rw [outcome, judge_of_error hc] at h
      rw [← h]
    | ok p =>
      obtain ⟨c, op⟩ := p
      rw [outcome, judge_of_compares (comparison_eq_ok.mp hc)] at h
      cases hl : (c.live r.value e.context).1 with
      | error err => simp [hl] at h
      | ok live => simp [hl] at h
  · intro h
    rw [outcome, judge_of_error h]

theorem judge_logs (e : Evaluator) (r : Rule) : e.Logs r (e.judge r).2 := by
  cases hc : e.comparison r with
  | error o =>
    refine .inr ⟨?_, by rw [judge_of_error hc]⟩
    intro h
    obtain ⟨c, pass, ⟨op, hp⟩, _⟩ := h
    rw [comparison_eq_ok.mpr hp] at hc
    cases hc
  | ok p =>
    obtain ⟨c, op⟩ := p
    have h := comparison_eq_ok.mp hc
    rw [judge_of_compares h]
    by_cases ho : ∃ run pass, c.origin = some (.resolver run pass)
    · obtain ⟨run, pass, ho⟩ := ho
      exact .inl ⟨c, pass, ⟨⟨op, h⟩, run, ho⟩, Condition.live_snd_of_resolver ho _ _⟩
    · refine .inr ⟨?_, Condition.live_snd_of_key (fun run pass hr => ho ⟨run, pass, hr⟩) _ _⟩
      intro ha
      obtain ⟨d, pass, ⟨op', hd⟩, run, hr⟩ := ha
      have hcd : c = d := Option.some.inj (h.known.symm.trans hd.known)
      exact ho ⟨run, pass, hcd ▸ hr⟩

end Evaluator
end Criteria
