import Criteria.Proofs.Lint.Soundness
import Mathlib.Data.List.Nodup
/-!
# Lint finds what is wrong and nothing else

The findings of a ruleset stand in the order of their places, one for each empty group and one for
each rule that lacks one of the four things that a comparison needs. No other place has a finding,
and no two findings have one path. A rule without a finding is compared as soon as its arguments are
provided and its live value is found out, and then it holds exactly when the comparison of its type
does.
-/
namespace Criteria

namespace Finding

/-- The place of a finding stands before that of another: in an earlier group, or earlier among the
rules of the same group. -/
inductive Before : Finding → Finding → Prop
  | group {f later : Finding} : f.group < later.group → Before f later
  | rule {f later : Finding} {i j : Nat} : f.group = later.group → f.rule = some i →
    later.rule = some j → i < j → Before f later

def isAt (f : Finding) (group : Nat) (rule : Option Nat) : Bool :=
  f.group == group && f.rule == rule

private theorem isAt_eq_true {f : Finding} {group : Nat} {rule : Option Nat} :
    f.isAt group rule = true ↔ f.group = group ∧ f.rule = rule := by
  rw [isAt, Bool.and_eq_true, beq_iff_eq, beq_iff_eq]

/-! ### Paths -/

private theorem toList_path (f : Finding) :
    f.path.toList = 'g' :: (Text.digits f.group ++
      match f.rule with
      | none => []
      | some i => '.' :: 'r' :: Text.digits i) := by
  rw [path]
  cases f.rule with
  | none =>
    simp only [String.toList_append, Nat.toString_eq_repr, Nat.toList_repr, Text.digits,
      List.append_nil]
    rfl
  | some i =>
    simp only [String.toList_append, Nat.toString_eq_repr, Nat.toList_repr, Text.digits,
      List.append_assoc]
    rfl

private theorem point_notMem_digits (n : Nat) : '.' ∉ Text.digits n :=
  fun h => absurd (Text.isDigit_of_mem_digits h) (by decide)

private theorem digits_ne_append_point (n m : Nat) (tail : List Char) :
    Text.digits n ≠ Text.digits m ++ '.' :: tail := by
  intro h
  have hpoint : '.' ∈ Text.digits n := h ▸ List.mem_append_right _ List.mem_cons_self
  exact point_notMem_digits n hpoint

/-- A path tells the place of its finding: a point stands in it where there is a rule, and then
behind the number of the group. -/
private theorem place_eq_of_path_eq {f f' : Finding} (h : f.path = f'.path) :
    f.group = f'.group ∧ f.rule = f'.rule := by
  have hlist := congrArg String.toList h
  rw [toList_path, toList_path, List.cons_inj_right] at hlist
  cases hr : f.rule with
  | none =>
    cases hr' : f'.rule with
    | none =>
      simp only [hr, hr', List.append_nil] at hlist
      exact ⟨Text.digits_inj hlist, rfl⟩
    | some j =>
      simp only [hr, hr', List.append_nil] at hlist
      exact absurd hlist (digits_ne_append_point _ _ _)
  | some i =>
    cases hr' : f'.rule with
    | none =>
      simp only [hr, hr', List.append_nil] at hlist
      exact absurd hlist.symm (digits_ne_append_point _ _ _)
    | some j =>
      simp only [hr, hr'] at hlist
      have hsplit := congrArg (Text.splitOnce '.') hlist
      rw [Text.splitOnce_append (point_notMem_digits _),
        Text.splitOnce_append (point_notMem_digits _), Option.some_inj, Prod.mk.injEq] at hsplit
      obtain ⟨hg, hi⟩ := hsplit
      exact ⟨Text.digits_inj hg, congrArg some (Text.digits_inj (List.cons.inj hi).2)⟩

private theorem Before.path_ne {f later : Finding} (h : f.Before later) : f.path ≠ later.path := by
  intro hp
  obtain ⟨hg, hr⟩ := place_eq_of_path_eq hp
  cases h with
  | group hlt => exact Nat.ne_of_lt hlt hg
  | rule _ hi hj hlt =>
    rw [hi, hj, Option.some_inj] at hr
    exact Nat.ne_of_lt hlt hr

end Finding

namespace Catalogue

variable {k : Catalogue}

/-! ### The order of the findings -/

private theorem group_of_flags {n : Nat} {g : Group} {f : Finding} (h : k.Flags n g f) :
    f.group = n := by
  cases h <;> rfl

private theorem pairwise_lintRules (n i : Nat) (rs : List Rule) :
    (k.lintRules n i rs).Pairwise Finding.Before := by
  induction rs generalizing i with
  | nil => exact List.Pairwise.nil
  | cons r rest ih =>
    rw [lintRules]
    split
    · next issue _ =>
      refine List.pairwise_cons.mpr ⟨fun f hf => ?_, ih (i + 1)⟩
      obtain ⟨j, _, _, _, _, rfl⟩ := mem_lintRules.mp hf
      exact .rule rfl rfl rfl (by omega)
    · exact ih (i + 1)

private theorem pairwise_lintGroups (n : Nat) (gs : List Group) :
    (k.lintGroups n gs).Pairwise Finding.Before := by
  induction gs generalizing n with
  | nil => exact List.Pairwise.nil
  | cons g rest ih =>
    rw [lintGroups]
    refine List.pairwise_append.mpr ⟨?_, ih (n + 1), ?_⟩
    · split
      · exact List.pairwise_singleton _ _
      · exact pairwise_lintRules n 0 g
    · intro f hf later hlater
      obtain ⟨j, _, _, hflags⟩ := mem_lintGroups.mp hlater
      refine .group ?_
      rw [group_of_flags (mem_lintGroup.mp hf), group_of_flags hflags]
      omega

theorem pairwise_lint (k : Catalogue) (r : Ruleset) : (k.lint r).Pairwise Finding.Before :=
  pairwise_lintGroups 0 r.groups

theorem nodup_paths_lint (k : Catalogue) (r : Ruleset) :
    ((k.lint r).map Finding.path).Nodup := by
  rw [List.Nodup, List.pairwise_map]
  exact (pairwise_lint k r).imp Finding.Before.path_ne

/-! ### What a rule lacks -/

/-- A rule can be compared, as far as its form goes: its condition is registered and allows the
operator that the rule names, and the threshold is valid for the type and the operator. -/
structure Clean (k : Catalogue) (r : Rule) (c : Condition) (op : Operator) : Prop where
  known : k.get? r.condition = some c
  named : r.operator? = some op
  allowed : c.allows op = true
  valid : c.type.isValidThreshold op (c.type.threshold r.value) = true

/-- The first thing that a rule lacks. -/
inductive Lacks (k : Catalogue) (r : Rule) : Issue → Prop
  | condition : k.get? r.condition = none → Lacks k r (.unknownCondition r.condition)
  | operator {c : Condition} : k.get? r.condition = some c → r.operator? = none →
    Lacks k r (.unknownOperator r.operator)
  | permission {c : Condition} {op : Operator} : k.get? r.condition = some c →
    r.operator? = some op → c.allows op = false → Lacks k r (.operatorNotAllowed r.condition op)
  | threshold {c : Condition} {op : Operator} : k.get? r.condition = some c →
    r.operator? = some op → c.allows op = true →
    c.type.isValidThreshold op (c.type.threshold r.value) = false →
    Lacks k r (.invalidThreshold r.condition op)

variable {r : Rule} {issue : Issue}

private theorem issue?_eq_some : k.issue? r = some issue ↔ k.Lacks r issue := by
  constructor
  · intro h
    rw [issue?] at h
    split at h
    · next hc =>
      cases h
      exact .condition hc
    · next c hc =>
      split at h
      · next ho =>
        cases h
        exact .operator hc ho
      · next op ho =>
        split at h
        · next ha =>
          cases h
          exact .permission hc ho (by simpa using ha)
        · next ha =>
          split at h
          · cases h
          · next hv =>
            cases h
            exact .threshold hc ho (by simpa using ha) (by simpa using hv)
  · intro h
    cases h with
    | condition hc => rw [issue?, hc]
    | operator hc ho => simp only [issue?, hc, ho]
    | permission hc ho ha => simp [issue?, hc, ho, ha]
    | threshold hc ho ha hv => simp [issue?, hc, ho, ha, hv]

theorem issue?_eq_none_iff_clean : k.issue? r = none ↔ ∃ c op, k.Clean r c op := by
  rw [issue?_eq_none]
  constructor
  · rintro ⟨c, op, hk, hn, ha, hv⟩
    exact ⟨c, op, hk, hn, ha, hv⟩
  · rintro ⟨c, op, hk, hn, ha, hv⟩
    exact ⟨c, op, hk, hn, ha, hv⟩

/-! ### The findings at one place -/

/-- The findings at one place: that of a group, or that of a rule in it. -/
def findingsAt (k : Catalogue) (r : Ruleset) (group : Nat) (rule : Option Nat) : List Finding :=
  (k.lint r).filter (·.isAt group rule)

private theorem nodup_findingsAt (k : Catalogue) (r : Ruleset) (group : Nat) (rule : Option Nat) :
    (k.findingsAt r group rule).Nodup :=
  (List.Nodup.of_map _ (nodup_paths_lint k r)).filter _

/-- The findings of a list without repetitions that are of one place are the issues there. -/
theorem findingsAt_eq {r : Ruleset} {n : Nat} {place : Option Nat} {here : Option Issue}
    (h : ∀ issue, ⟨n, place, issue⟩ ∈ k.lint r ↔ here = some issue) :
    k.findingsAt r n place = here.toList.map fun issue => ⟨n, place, issue⟩ := by
  have hmem (f : Finding) :
      f ∈ k.findingsAt r n place ↔ f ∈ here.toList.map fun issue => Finding.mk n place issue := by
    obtain ⟨group, rule, issue⟩ := f
    simp only [findingsAt, List.mem_filter, Finding.isAt_eq_true, List.mem_map, Option.mem_toList,
      Finding.mk.injEq]
    constructor
    · rintro ⟨hf, rfl, rfl⟩
      exact ⟨issue, (h issue).mp hf, rfl, rfl, rfl⟩
    · rintro ⟨_, hi, rfl, rfl, rfl⟩
      exact ⟨(h _).mpr hi, rfl, rfl⟩
  cases here with
  | none => exact List.eq_nil_iff_forall_not_mem.mpr fun f hf => by simpa using (hmem f).mp hf
  | some issue =>
    -- Paths are distinct, so no finding stands here twice and membership decides on the list.
    refine List.perm_singleton.mp ?_
    refine (List.perm_ext_iff_of_nodup ?_ (List.nodup_singleton _)).mpr hmem
    exact nodup_findingsAt k r n place

private theorem findingsAt_group {r : Ruleset} {n : Nat} (h : r.groups[n]? = some []) :
    k.findingsAt r n none = [⟨n, none, .emptyGroup⟩] := by
  have hhere (issue : Issue) : ⟨n, none, issue⟩ ∈ k.lint r ↔ some .emptyGroup = some issue := by
    rw [mem_lint_group, and_iff_right h, Option.some_inj, eq_comm]
  exact findingsAt_eq hhere

private theorem findingsAt_rule {r : Ruleset} {n i : Nat} {g : Group} {rule : Rule}
    (hg : r.groups[n]? = some g) (hr : g[i]? = some rule) :
    k.findingsAt r n (some i) = (k.issue? rule).toList.map fun issue => ⟨n, some i, issue⟩ := by
  refine findingsAt_eq fun issue => ?_
  rw [mem_lint_rule]
  constructor
  · rintro ⟨g', rule', hg', hr', hi⟩
    obtain rfl : g = g' := Option.some.inj (hg.symm.trans hg')
    obtain rfl : rule = rule' := Option.some.inj (hr.symm.trans hr')
    exact hi
  · intro hi
    exact ⟨g, rule, hg, hr, hi⟩

/-! ### Rules without a finding -/

/-- A clean rule is compared by the family of its type once it has its arguments and a live value.
-/
theorem Clean.outcome_eq {rule : Rule} {c : Condition} {op : Operator} (h : k.Clean rule c op)
    {context : Context} (hp : ∀ key ∈ c.required, context.has key = true) {live : Value}
    (hl : (c.live rule.value context).1 = .ok live) (traced : Bool) :
    (Evaluator.mk k context traced).outcome rule =
      .ofBool (c.type.compare op live (c.type.threshold rule.value)) := by
  have hc : (Evaluator.mk k context traced).Compares rule c op :=
    ⟨h.known, hp, h.named, h.allowed⟩
  rw [Evaluator.outcome, Evaluator.judge_of_compares hc, hl]

private theorem Clean.compare_eq_family {rule : Rule} {c : Condition} {op : Operator}
    (h : k.Clean rule c op) (live : Value) :
    c.type.compare op live (c.type.threshold rule.value) =
      c.type.family op live (c.type.threshold rule.value) := by
  rw [ValueType.compare, h.valid, Bool.true_and]

private theorem Clean.supports {rule : Rule} {c : Condition} {op : Operator}
    (h : k.Clean rule c op) :
    c.type.supports op = true :=
  (Bool.and_eq_true _ _ ▸ h.valid : _ ∧ _).1

/-- Every empty group and every rule that is not clean has one finding, in the order of their
places, and a clean rule is really compared. -/
theorem lint_exact (k : Catalogue) (r : Ruleset) :
    (k.lint r).Pairwise Finding.Before ∧
    ((k.lint r).map Finding.path).Nodup ∧
    (∀ f ∈ k.lint r, ∃ g, r.groups[f.group]? = some g ∧
      (g = [] ∧ f.rule = none ∨
        ∃ i rule, f.rule = some i ∧ g[i]? = some rule ∧ k.Lacks rule f.issue)) ∧
    (∀ n, r.groups[n]? = some [] → k.findingsAt r n none = [⟨n, none, .emptyGroup⟩]) ∧
    ∀ n i g rule, r.groups[n]? = some g → g[i]? = some rule →
      ((¬∃ c op, k.Clean rule c op) → ∃ issue, k.Lacks rule issue ∧
        k.findingsAt r n (some i) = [⟨n, some i, issue⟩]) ∧
      ((∃ c op, k.Clean rule c op) → k.findingsAt r n (some i) = []) ∧
      (k.findingsAt r n (some i) = [] → ∃ c op, k.Clean rule c op ∧ c.type.supports op = true ∧
        ∀ context, (∀ key ∈ c.required, context.has key = true) →
          ∀ live, (c.live rule.value context).1 = .ok live → ∀ traced,
            ((Evaluator.mk k context traced).outcome rule = .holds ↔
              c.type.compare op live (c.type.threshold rule.value) = true) ∧
            c.type.compare op live (c.type.threshold rule.value) =
              c.type.family op live (c.type.threshold rule.value)) := by
  refine ⟨pairwise_lint k r, nodup_paths_lint k r, ?_, fun _ => findingsAt_group, ?_⟩
  · intro f hf
    obtain ⟨n, g, hg, hflags⟩ := mem_lint.mp hf
    cases hflags with
    | empty => exact ⟨[], hg, .inl ⟨rfl, rfl⟩⟩
    | rule hr hi => exact ⟨g, hg, .inr ⟨_, _, rfl, hr, issue?_eq_some.mp hi⟩⟩
  · intro n i g rule hg hr
    have hplace := findingsAt_rule (k := k) hg hr
    refine ⟨?_, ?_, ?_⟩
    · intro hunclean
      rw [← issue?_eq_none_iff_clean] at hunclean
      obtain ⟨issue, hi⟩ := Option.ne_none_iff_exists'.mp hunclean
      exact ⟨issue, issue?_eq_some.mp hi, by rw [hplace, hi]; rfl⟩
    · intro hclean
      rw [hplace, issue?_eq_none_iff_clean.mpr hclean]
      rfl
    · intro hempty
      rw [hplace, List.map_eq_nil_iff, Option.toList_eq_nil_iff] at hempty
      obtain ⟨c, op, hclean⟩ := issue?_eq_none_iff_clean.mp hempty
      refine ⟨c, op, hclean, hclean.supports, fun context hp live hl traced => ⟨?_, ?_⟩⟩
      · rw [hclean.outcome_eq hp hl, Outcome.ofBool_eq_holds]
      · exact hclean.compare_eq_family live

/-- An empty group and a rule with an operator that does not exist have one finding each, and a
clean rule in front of it has none. -/
theorem lint_exact_of_unknown_operator :
    let k : Catalogue := ⟨[.ofOrigin "total" .number (some (.argument "total"))], [("total", 0)]⟩
    let high : Rule := ⟨"", "total", ">", .text "100"⟩
    let broken : Rule := ⟨"", "total", "above", .nat 100⟩
    let r : Ruleset := ⟨"r", "", true, [[], [high, broken]], []⟩
    let context : Context := ⟨[("total", .nat 150)]⟩
    k.findingsAt r 0 none = [⟨0, none, .emptyGroup⟩] ∧
      k.findingsAt r 1 (some 1) = [⟨1, some 1, .unknownOperator "above"⟩] ∧
      k.findingsAt r 1 (some 0) = [] ∧
      (Evaluator.mk k context false).outcome high = .holds := by
  intro k high broken r context
  obtain ⟨-, -, -, hempty, hrules⟩ := lint_exact k r
  obtain ⟨-, hclean, hevaluates⟩ := hrules 1 0 [high, broken] high rfl rfl
  obtain ⟨hunclean, -, -⟩ := hrules 1 1 [high, broken] broken rfl rfl
  have hissue : k.issue? broken = some (.unknownOperator "above") := by decide +kernel
  have hhigh : k.findingsAt r 1 (some 0) = [] :=
    hclean (issue?_eq_none_iff_clean.mp (by decide +kernel))
  refine ⟨hempty 0 rfl, ?_, hhigh, ?_⟩
  · have hno : ¬∃ c op, k.Clean broken c op := by
      rw [← issue?_eq_none_iff_clean, hissue]
      simp
    obtain ⟨issue, hlacks, hfound⟩ := hunclean hno
    obtain rfl : issue = .unknownOperator "above" :=
      Option.some.inj ((issue?_eq_some.mpr hlacks).symm.trans hissue)
    exact hfound
  · obtain ⟨c, op, h, -, houtcome⟩ := hevaluates hhigh
    obtain rfl : .ofOrigin "total" .number (some (.argument "total")) = c := Option.some.inj h.known
    have hgreater : high.operator? = some .greater := by decide +kernel
    obtain rfl : .greater = op := Option.some.inj (hgreater.symm.trans h.named)
    refine (houtcome context (fun key hkey => ?_) (.nat 150) rfl false).1.mpr (by decide +kernel)
    cases hkey

end Catalogue
end Criteria
