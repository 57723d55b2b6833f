import Criteria.Matches
/-!
# Evaluators that judge alike

Everything about an evaluation rests on the judgements of its rules: two evaluators that judge the
rules of a ruleset alike give it the same result, the same record and the same calls, and two that
evaluate rulesets alike report the same first match and the same matches.
-/
namespace Criteria.Evaluator

variable {e₁ e₂ : Evaluator}

/-- Two evaluators judge rules alike, and both of them record or neither. -/
structure JudgeAlike (e₁ e₂ : Evaluator) (rs : List Rule) : Prop where
  traced : e₁.traced = e₂.traced
  judge : ∀ r ∈ rs, e₁.judge r = e₂.judge r

private theorem JudgeAlike.record {rs : List Rule} (h : JudgeAlike e₁ e₂ rs)
    (lines : List TraceLine) :
    e₁.record lines = e₂.record lines := by
  rw [Evaluator.record, Evaluator.record, h.traced]

private theorem JudgeAlike.mono {rs more : List Rule} (h : JudgeAlike e₁ e₂ more)
    (hsub : rs ⊆ more) :
    JudgeAlike e₁ e₂ rs :=
  ⟨h.traced, fun r hr => h.judge r (hsub hr)⟩

private theorem rules_congr {rs : List Rule} (h : JudgeAlike e₁ e₂ rs) (g i : Nat) :
    e₁.rules g i rs = e₂.rules g i rs := by
  induction rs generalizing i with
  | nil => rfl
  | cons r rest ih =>
    have hrest := ih (h.mono (List.subset_cons_self r rest)) (i + 1)
    simp only [rules, h.judge r List.mem_cons_self, h.record, hrest]

private theorem group_congr {rs : Group} (h : JudgeAlike e₁ e₂ rs) (g : Nat) :
    e₁.group g rs = e₂.group g rs := by
  simp only [group, h.record, rules_congr h]

private theorem groups_congr {gs : List Group} (h : JudgeAlike e₁ e₂ gs.flatten) (id : String)
    (g : Nat) :
    e₁.groups id g gs = e₂.groups id g gs := by
  induction gs generalizing g with
  | nil => simp only [groups, h.record]
  | cons rs rest ih =>
    rw [List.flatten_cons] at h
    have hfirst := group_congr (h.mono (List.subset_append_left rs rest.flatten)) g
    have hrest := ih (h.mono (List.subset_append_right rs rest.flatten)) (g + 1)
    simp only [groups, hfirst, h.record, hrest]

theorem ruleset_congr {r : Ruleset} (h : JudgeAlike e₁ e₂ r.groups.flatten) :
    e₁.ruleset r = e₂.ruleset r :=
  groups_congr h r.id 0

theorem first_congr {rs : List Ruleset} (h : ∀ r ∈ rs, e₁.ruleset r = e₂.ruleset r) :
    e₁.first rs = e₂.first rs := by
  induction rs with
  | nil => rfl
  | cons r rest ih =>
    have hrest := ih fun s hs => h s (List.mem_cons_of_mem r hs)
    simp only [first, h r List.mem_cons_self, hrest]

theorem all_congr {rs : List Ruleset} (h : ∀ r ∈ rs, e₁.ruleset r = e₂.ruleset r) :
    e₁.all rs = e₂.all rs := by
  induction rs with
  | nil => rfl
  | cons r rest ih =>
    have hrest := ih fun s hs => h s (List.mem_cons_of_mem r hs)
    simp only [all, h r List.mem_cons_self, hrest]

end Criteria.Evaluator
