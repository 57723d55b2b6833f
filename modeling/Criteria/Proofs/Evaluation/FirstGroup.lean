import Criteria.Proofs.Evaluation.Judgement
import Mathlib.Order.Bounds.Defs
/-!
# The first group that holds

A ruleset is two loops, one inside the other, and both stop early. Its result is the least group
that has a rule and none that fails, and its log is that of the rules which the two loops read: the
groups up to the one that holds, and of each group the rules up to the first that fails.
-/
namespace Criteria.Evaluator

/-- A group holds when it has a rule and none of its rules fails. Skipped rules do not count against
it, so that a group in which all are skipped holds. -/
def Holds (e : Evaluator) (g : Group) : Prop :=
  g ≠ [] ∧ ∀ r ∈ g, e.outcome r ≠ .fails

instance (e : Evaluator) : DecidablePred e.Holds := fun g =>
  inferInstanceAs (Decidable (g ≠ [] ∧ ∀ r ∈ g, e.outcome r ≠ .fails))

/-- The rules of a group that are read: up to and with the first that fails. -/
def readRules (e : Evaluator) (g : Group) : List Rule :=
  g.take (g.findIdx (fun r => e.outcome r = .fails) + 1)

/-- The groups that are read: up to and with the one that holds, or all when none does. -/
def readGroups (gs : List Group) : Option Nat → List Group
  | some i => gs.take (i + 1)
  | none => gs

theorem readGroups_cons_succ (g : Group) (gs : List Group) (o : Option Nat) :
    readGroups (g :: gs) (o.map (· + 1)) = g :: readGroups gs o := by
  cases o with
  | none => rfl
  | some i => rfl

variable (e : Evaluator)

theorem rules_cons_of_fails {r : Rule} (h : e.outcome r = .fails) (g i : Nat) (rest : List Rule) :
    e.rules g i (r :: rest) =
      ⟨false, e.record (.rule g i r .fails :: if rest.isEmpty then [] else [.rulesLeft g]),
        (e.judge r).2⟩ := by
  have hj : (e.judge r).1 = .fails := h
  simp [rules, hj]

theorem rules_cons_of_passes {r : Rule} (h : e.outcome r ≠ .fails) (g i : Nat) (rest : List Rule) :
    e.rules g i (r :: rest) =
      (e.rules g (i + 1) rest).after (e.record [.rule g i r (e.outcome r)]) (e.judge r).2 := by
  have hj : (e.judge r).1 ≠ .fails := h
  simp [rules, hj, outcome]

theorem rules_result (g i : Nat) (rs : List Rule) :
    (e.rules g i rs).result = true ↔ ∀ r ∈ rs, e.outcome r ≠ .fails := by
  induction rs generalizing i with
  | nil => simp [rules]
  | cons r rest ih =>
    by_cases h : e.outcome r = .fails
    · simp [rules_cons_of_fails e h, h]
    · rw [rules_cons_of_passes e h]
      simpa [Evaluation.after, h] using ih (i + 1)

theorem rules_calls (g i : Nat) (rs : List Rule) :
    (e.rules g i rs).calls = (e.readRules rs).flatMap fun r => (e.judge r).2 := by
  induction rs generalizing i with
  | nil => rfl
  | cons r rest ih =>
    by_cases h : e.outcome r = .fails
    · simp [rules_cons_of_fails e h, readRules, List.findIdx_cons, h]
    · rw [rules_cons_of_passes e h]
      simp [Evaluation.after, ih (i + 1), readRules, List.findIdx_cons, h]

theorem group_result (n : Nat) (g : Group) : (e.group n g).result = true ↔ e.Holds g := by
  cases g with
  | nil => simp [group, Holds]
  | cons r rest =>
    have h := e.rules_result n 0 (r :: rest)
    simpa [group, Holds] using h

theorem group_calls (n : Nat) (g : Group) :
    (e.group n g).calls = (e.readRules g).flatMap fun r => (e.judge r).2 := by
  cases g with
  | nil => rfl
  | cons r rest => exact e.rules_calls n 0 (r :: rest)

theorem groups_cons_of_holds {g : Group} (h : e.Holds g) (id : String) (n : Nat)
    (rest : List Group) :
    e.groups id n (g :: rest) =
      ⟨some n, (e.group n g).trace ++
        e.record (if rest.isEmpty then [] else [.groupsLeft n rest.length]), (e.group n g).calls⟩ := by
  simp [groups, (e.group_result n g).mpr h]

theorem groups_cons_of_not_holds {g : Group} (h : ¬e.Holds g) (id : String) (n : Nat)
    (rest : List Group) :
    e.groups id n (g :: rest) =
      (e.groups id (n + 1) rest).after (e.group n g).trace (e.group n g).calls := by
  have hg : (e.group n g).result ≠ true := fun hr => h ((e.group_result n g).mp hr)
  simp [groups, hg]

theorem groups_result (id : String) (n : Nat) (gs : List Group) :
    (e.groups id n gs).result = (gs.findIdx? fun g => e.Holds g).map (n + ·) := by
  induction gs generalizing n with
  | nil => rfl
  | cons g rest ih =>
    by_cases h : e.Holds g
    · simp [groups_cons_of_holds e h, List.findIdx?_cons, h]
    · rw [groups_cons_of_not_holds e h]
      simp only [Evaluation.after, ih (n + 1), List.findIdx?_cons, h, decide_false,
        Bool.false_eq_true, if_false, Option.map_map]
      congr 1
      funext j
      simp only [Function.comp_apply]
      omega

theorem groups_calls (id : String) (n : Nat) (gs : List Group) :
    (e.groups id n gs).calls =
      (readGroups gs (gs.findIdx? fun g => e.Holds g)).flatMap fun g =>
        (e.readRules g).flatMap fun r => (e.judge r).2 := by
  induction gs generalizing n with
  | nil => rfl
  | cons g rest ih =>
    by_cases h : e.Holds g
    · simp [groups_cons_of_holds e h, List.findIdx?_cons, h, group_calls, readGroups]
    · have hidx : (g :: rest).findIdx? (fun g => e.Holds g) =
          (rest.findIdx? fun g => e.Holds g).map (· + 1) := by
        simp [List.findIdx?_cons, h]
      rw [groups_cons_of_not_holds e h, hidx, readGroups_cons_succ]
      simp [Evaluation.after, ih (n + 1), group_calls]

theorem ruleset_result (r : Ruleset) :
    (e.ruleset r).result = r.groups.findIdx? fun g => e.Holds g := by
  rw [ruleset, groups_result]
  simp

theorem ruleset_result_eq_some {r : Ruleset} {i : Nat} :
    (e.ruleset r).result = some i ↔
      IsLeast {j | ∃ g, r.groups[j]? = some g ∧ e.Holds g} i := by
  rw [ruleset_result, List.findIdx?_eq_some_iff_getElem]
  constructor
  · intro h
    obtain ⟨hi, hh, hlt⟩ := h
    refine ⟨⟨r.groups[i], List.getElem?_eq_getElem hi, of_decide_eq_true hh⟩, ?_⟩
    intro j hj
    obtain ⟨g, hg, hj⟩ := hj
    obtain ⟨hlen, rfl⟩ := List.getElem?_eq_some_iff.mp hg
    apply Nat.le_of_not_lt
    intro hji
    exact hlt j hji (decide_eq_true hj)
  · intro h
    obtain ⟨⟨g, hg, hh⟩, hle⟩ := h
    obtain ⟨hi, rfl⟩ := List.getElem?_eq_some_iff.mp hg
    refine ⟨hi, decide_eq_true hh, ?_⟩
    intro j hji hj
    have hlen : j < r.groups.length := by omega
    have hij : i ≤ j := hle ⟨r.groups[j], List.getElem?_eq_getElem hlen, of_decide_eq_true hj⟩
    omega

theorem ruleset_result_eq_none {r : Ruleset} :
    (e.ruleset r).result = none ↔ ∀ g ∈ r.groups, ¬e.Holds g := by
  rw [ruleset_result, List.findIdx?_eq_none_iff]
  simp

theorem ruleset_calls (r : Ruleset) :
    (e.ruleset r).calls = (readGroups r.groups (e.ruleset r).result).flatMap fun g =>
      (e.readRules g).flatMap fun rule => (e.judge rule).2 := by
  rw [ruleset_result]
  exact e.groups_calls r.id 0 r.groups

/-- A ruleset matches at its least group that has a rule and none that fails, and its log is that of
the rules which are read. -/
theorem ruleset_first_group (r : Ruleset) :
    (∀ i, (e.ruleset r).result = some i ↔
      IsLeast {j | ∃ g, r.groups[j]? = some g ∧ e.Holds g} i) ∧
    ((e.ruleset r).result = none ↔
      ¬∃ (j : Nat) (g : Group), r.groups[j]? = some g ∧ e.Holds g) ∧
    ((e.ruleset r).calls = (readGroups r.groups (e.ruleset r).result).flatMap fun g =>
      (e.readRules g).flatMap fun rule => (e.judge rule).2) ∧
    ∀ rule, e.Logs rule (e.judge rule).2 := by
  refine ⟨fun i => e.ruleset_result_eq_some, ?_, e.ruleset_calls r, e.judge_logs⟩
  rw [ruleset_result_eq_none]
  constructor
  · intro h hex
    obtain ⟨j, g, hg, hh⟩ := hex
    exact h g (List.mem_of_getElem? hg) hh
  · intro h g hg hh
    obtain ⟨j, hj⟩ := List.mem_iff_getElem?.mp hg
    exact h ⟨j, g, hj, hh⟩

end Criteria.Evaluator
