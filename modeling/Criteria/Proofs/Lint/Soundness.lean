import Criteria.Lint
import Criteria.Proofs.Evaluation.FirstGroup
/-!
# What a finding says about evaluation

A rule with a finding never holds and an empty group never matches, in every context and whatever
the resolvers give. The linter looks at the operator before it would look at arguments, and an
evaluation the other way round, so that a rule with a finding may be skipped as well as fail.
-/
namespace Criteria

namespace Catalogue

variable {k : Catalogue}

theorem issue?_eq_none {r : Rule} :
    k.issue? r = none ↔ ∃ c op, k.get? r.condition = some c ∧ r.operator? = some op ∧
      c.allows op = true ∧ c.type.isValidThreshold op (c.type.threshold r.value) = true := by
  constructor
  · intro h
    rw [issue?] at h
    split at h
    · cases h
    · next c hc =>
      split at h
      · cases h
      · next op ho =>
        split at h
        · cases h
        · next ha =>
          split at h
          · next hv => exact ⟨c, op, hc, ho, by simpa using ha, hv⟩
          · cases h
  · intro h
    obtain ⟨c, op, hc, ho, ha, hv⟩ := h
    simp [issue?, hc, ho, ha, hv]

/-- The findings of the group in position `n`. -/
inductive Flags (k : Catalogue) (n : Nat) : Group → Finding → Prop
  | empty : Flags k n [] ⟨n, none, .emptyGroup⟩
  | rule {g : Group} {i : Nat} {r : Rule} {issue : Issue} :
    g[i]? = some r → k.issue? r = some issue → Flags k n g ⟨n, some i, issue⟩

theorem mem_lintRules {n i : Nat} {rs : List Rule} {f : Finding} :
    f ∈ k.lintRules n i rs ↔ ∃ (j : Nat) (r : Rule) (issue : Issue),
      rs[j]? = some r ∧ k.issue? r = some issue ∧ f = ⟨n, some (i + j), issue⟩ := by
  induction rs generalizing i with
  | nil => simp [lintRules]
  | cons r rest ih =>
    have htail : f ∈ k.lintRules n (i + 1) rest ↔ ∃ (j : Nat) (s : Rule) (issue : Issue),
        (r :: rest)[j + 1]? = some s ∧ k.issue? s = some issue ∧
          f = ⟨n, some (i + (j + 1)), issue⟩ := by
      simp only [ih, List.getElem?_cons_succ, Nat.add_assoc, Nat.add_comm 1]
    rw [lintRules]
    constructor
    · intro h
      split at h
      · next issue hi =>
        rcases List.mem_cons.mp h with rfl | h
        · exact ⟨0, r, issue, rfl, hi, rfl⟩
        · obtain ⟨j, hj⟩ := htail.mp h
          exact ⟨j + 1, hj⟩
      · obtain ⟨j, hj⟩ := htail.mp h
        exact ⟨j + 1, hj⟩
    · intro h
      obtain ⟨j, s, issue, hs, hi, rfl⟩ := h
      cases j with
      | zero =>
        cases hs
        rw [hi]
        exact List.mem_cons_self
      | succ j =>
        have hm := htail.mpr ⟨j, s, issue, hs, hi, rfl⟩
        split
        · exact List.mem_cons_of_mem _ hm
        · exact hm

theorem mem_lintGroup {n : Nat} {g : Group} {f : Finding} :
    f ∈ (if g.isEmpty then [⟨n, none, .emptyGroup⟩] else k.lintRules n 0 g) ↔ k.Flags n g f := by
  cases g with
  | nil =>
    constructor
    · intro h
      rw [List.mem_singleton.mp h]
      exact .empty
    · intro h
      cases h with
      | empty => exact List.mem_singleton_self _
      | rule hr hi => cases hr
  | cons r rest =>
    rw [List.isEmpty_cons, if_neg Bool.false_ne_true, mem_lintRules]
    constructor
    · intro h
      obtain ⟨j, s, issue, hs, hi, rfl⟩ := h
      rw [Nat.zero_add]
      exact .rule hs hi
    · intro h
      cases h with
      | rule hr hi => exact ⟨_, _, _, hr, hi, by rw [Nat.zero_add]⟩

theorem mem_lintGroups {n : Nat} {gs : List Group} {f : Finding} :
    f ∈ k.lintGroups n gs ↔ ∃ (j : Nat) (g : Group), gs[j]? = some g ∧ k.Flags (n + j) g f := by
  induction gs generalizing n with
  | nil => simp [lintGroups]
  | cons g rest ih =>
    rw [lintGroups, List.mem_append, mem_lintGroup, ih]
    constructor
    · intro h
      rcases h with h | ⟨j, s, hs, hf⟩
      · exact ⟨0, g, rfl, h⟩
      · exact ⟨j + 1, s, hs, by rwa [Nat.add_right_comm] at hf⟩
    · intro h
      obtain ⟨j, s, hs, hf⟩ := h
      cases j with
      | zero =>
        cases hs
        exact .inl hf
      | succ j => exact .inr ⟨j, s, hs, by rwa [Nat.add_right_comm]⟩

theorem mem_lint {r : Ruleset} {f : Finding} :
    f ∈ k.lint r ↔ ∃ (n : Nat) (g : Group), r.groups[n]? = some g ∧ k.Flags n g f := by
  rw [lint, mem_lintGroups]
  simp only [Nat.zero_add]

theorem mem_lint_rule {r : Ruleset} {n i : Nat} {issue : Issue} :
    ⟨n, some i, issue⟩ ∈ k.lint r ↔ ∃ (g : Group) (rule : Rule),
      r.groups[n]? = some g ∧ g[i]? = some rule ∧ k.issue? rule = some issue := by
  rw [mem_lint]
  constructor
  · intro h
    obtain ⟨m, g, hg, hf⟩ := h
    cases hf with
    | rule hr hi => exact ⟨g, _, hg, hr, hi⟩
  · intro h
    obtain ⟨g, rule, hg, hr, hi⟩ := h
    exact ⟨n, g, hg, .rule hr hi⟩

theorem mem_lint_group {r : Ruleset} {n : Nat} {issue : Issue} :
    ⟨n, none, issue⟩ ∈ k.lint r ↔ r.groups[n]? = some [] ∧ issue = .emptyGroup := by
  rw [mem_lint]
  constructor
  · intro h
    obtain ⟨m, g, hg, hf⟩ := h
    cases hf with
    | empty => exact ⟨hg, rfl⟩
  · intro h
    obtain ⟨hg, rfl⟩ := h
    exact ⟨n, [], hg, .empty⟩

/-- The findings rule out a group: it is reported as empty, or a rule of it is reported that no
missing argument can have skipped. -/
def RulesOut (k : Catalogue) (r : Ruleset) (n : Nat) : Prop :=
  ⟨n, none, .emptyGroup⟩ ∈ k.lint r ∨
    ∃ (i : Nat) (issue : Issue) (g : Group) (rule : Rule), ⟨n, some i, issue⟩ ∈ k.lint r ∧
      r.groups[n]? = some g ∧ g[i]? = some rule ∧
      ∀ c, k.get? rule.condition = some c → c.required = []

end Catalogue

namespace Evaluator

variable {e : Evaluator}

private theorem issue?_of_holds {r : Rule} (h : e.outcome r = .holds) :
    e.catalogue.issue? r = none := by
  obtain ⟨c, op, live, hc, _, ht⟩ := outcome_eq_holds.mp h
  rw [ValueType.compare, Bool.and_eq_true] at ht
  exact Catalogue.issue?_eq_none.mpr ⟨c, op, hc.known, hc.named, hc.allowed, ht.1⟩

/-- A rule with an issue is skipped when a required argument is missing, and fails otherwise. -/
theorem outcome_of_issue {r : Rule} {issue : Issue} (h : e.catalogue.issue? r = some issue) :
    e.outcome r ≠ .holds ∧ (e.Skips r → e.outcome r = .skipped) ∧
      (¬e.Skips r → e.outcome r = .fails) := by
  have hn : e.outcome r ≠ .holds := by
    intro hh
    rw [issue?_of_holds hh] at h
    cases h
  refine ⟨hn, outcome_eq_skipped.mpr, fun hs => ?_⟩
  have hk : e.outcome r ≠ .skipped := fun ho => hs (outcome_eq_skipped.mp ho)
  cases ho : e.outcome r with
  | skipped => exact absurd ho hk
  | holds => exact absurd ho hn
  | fails => rfl

private theorem not_holds_of_rulesOut {r : Ruleset} {n : Nat} {g : Group}
    (hg : r.groups[n]? = some g) (h : e.catalogue.RulesOut r n) : ¬e.Holds g := by
  intro hh
  obtain ⟨hne, hall⟩ := hh
  rcases h with h | ⟨i, issue, g₁, rule, h, hg₁, hr, hreq⟩
  · have hempty := (Catalogue.mem_lint_group.mp h).1
    rw [hg] at hempty
    exact hne (Option.some.inj hempty)
  · obtain ⟨g₂, rule₂, hg₂, hr₂, hi⟩ := Catalogue.mem_lint_rule.mp h
    have h₁ : g = g₁ := Option.some.inj (hg.symm.trans hg₁)
    have h₂ : g = g₂ := Option.some.inj (hg.symm.trans hg₂)
    subst h₁ h₂
    have hrule : rule = rule₂ := Option.some.inj (hr.symm.trans hr₂)
    subst hrule
    have hskip : ¬e.Skips rule := by
      intro hs
      obtain ⟨c, hc, key, hkey, _⟩ := hs
      rw [hreq c hc] at hkey
      cases hkey
    exact hall rule (List.mem_of_getElem? hr) ((outcome_of_issue hi).2.2 hskip)

/-- A rule with a finding never holds, and a ruleset of which every group is ruled out matches
nowhere. -/
theorem lint_sound (e : Evaluator) (r : Ruleset) :
    (∀ n i issue, ⟨n, some i, issue⟩ ∈ e.catalogue.lint r →
      ∃ (g : Group) (rule : Rule), r.groups[n]? = some g ∧ g[i]? = some rule ∧
        e.outcome rule ≠ .holds ∧ (e.Skips rule → e.outcome rule = .skipped) ∧
        (¬e.Skips rule → e.outcome rule = .fails)) ∧
    (∀ n issue, ⟨n, none, issue⟩ ∈ e.catalogue.lint r →
      r.groups[n]? = some [] ∧ (e.group n []).result = false ∧ (e.ruleset r).result ≠ some n) ∧
    ((∀ n < r.groups.length, e.catalogue.RulesOut r n) → (e.ruleset r).result = none) := by
  refine ⟨?_, ?_, ?_⟩
  · intro n i issue h
    obtain ⟨g, rule, hg, hr, hi⟩ := Catalogue.mem_lint_rule.mp h
    exact ⟨g, rule, hg, hr, outcome_of_issue hi⟩
  · intro n issue h
    have hg := (Catalogue.mem_lint_group.mp h).1
    refine ⟨hg, rfl, ?_⟩
    intro hm
    obtain ⟨⟨g, hg', hh⟩, _⟩ := e.ruleset_result_eq_some.mp hm
    rw [hg] at hg'
    exact hh.1 (Option.some.inj hg').symm
  · intro h
    rw [ruleset_result_eq_none]
    intro g hg
    obtain ⟨n, hn⟩ := List.mem_iff_getElem?.mp hg
    obtain ⟨hlt, _⟩ := List.getElem?_eq_some_iff.mp hn
    exact not_holds_of_rulesOut hn (h n hlt)

/-- An empty group and a threshold that is no number rule out both groups of a ruleset. -/
theorem lint_sound_of_bad_threshold :
    let e : Evaluator :=
      ⟨⟨[.ofOrigin "total" .number (some (.argument "total"))], [("total", 0)]⟩, .empty, false⟩
    let bad : Rule := ⟨"", "total", ">", .text "lots"⟩
    let r : Ruleset := ⟨"r", "", true, [[], [bad]], []⟩
    e.outcome bad = .fails ∧ (∀ n < r.groups.length, e.catalogue.RulesOut r n) ∧
      (e.ruleset r).result = none := by
  intro e bad r
  have hl : e.catalogue.lint r =
      [⟨0, none, .emptyGroup⟩, ⟨1, some 0, .invalidThreshold "total" .greater⟩] := by
    decide +kernel
  have hsound := lint_sound e r
  have hfails : e.outcome bad = .fails := by
    obtain ⟨g, rule, hg, hr, _, _, hf⟩ :=
      hsound.1 1 0 (.invalidThreshold "total" .greater) (by simp [hl])
    cases hg
    cases hr
    apply hf
    intro hs
    obtain ⟨c, hc, key, hkey, _⟩ := hs
    cases hc
    cases hkey
  have hempty : e.catalogue.RulesOut r 0 := .inl (by simp [hl])
  have hrule : e.catalogue.RulesOut r 1 := by
    refine .inr ⟨0, .invalidThreshold "total" .greater, [bad], bad, by simp [hl], rfl, rfl, ?_⟩
    intro c hc
    cases hc
    rfl
  have h : ∀ n < r.groups.length, e.catalogue.RulesOut r n := by
    intro n hn
    match n, hn with
    | 0, _ => exact hempty
    | 1, _ => exact hrule
  exact ⟨hfails, h, hsound.2.2 h⟩

end Evaluator
end Criteria
