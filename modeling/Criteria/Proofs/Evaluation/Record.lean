import Criteria.Proofs.Evaluation.FirstGroup
/-!
# The record of an evaluation

A record is what a reader of the two loops would write down: a line for every rule that is read, and a
line wherever a loop stops early or finds nothing. Keeping one changes neither the result nor the
calls, and without one nothing is written.
-/
namespace Criteria.Evaluator

/-- What the line on a rule says of its outcome. -/
def verdict (e : Evaluator) (r : Rule) : String :=
  match e.outcome r with
  | .holds => "TRUE"
  | .fails => "FALSE"
  | .skipped => "SKIPPED"

/-- The line on the rule in position `i` of the group in position `n`. -/
def ruleLine (e : Evaluator) (n i : Nat) (r : Rule) : String :=
  s!"g{n}.r{i}: {r.condition} {r.operator} {r.value.compactText} => {e.verdict r}"

/-- The lines on a group: one for each of its rules up to the first that fails, and one more when
rules are left behind that. An empty group has a single line. -/
def groupLines (e : Evaluator) (n : Nat) (g : Group) : List String :=
  if g.isEmpty then [s!"g{n}: 空组，不匹配"]
  else (e.readRules g).mapIdx (e.ruleLine n) ++
    if (e.readRules g).length < g.length then [s!"g{n}: AND 短路"] else []

/-- The last line on a ruleset of `total` groups: how many are left behind the one that holds, if any
are, or that none holds. -/
def closingLines (id : String) (total : Nat) : Option Nat → List String
  | some n => if n + 1 < total then [s!"g{n}: 匹配，短路跳过剩余 {total - n - 1} 个组"] else []
  | none => [s!"{id}: 无匹配组"]

/-- The lines on a ruleset: those on its groups up to the one that holds, or on all of them, and the
last line. -/
def lines (e : Evaluator) (r : Ruleset) : List String :=
  ((readGroups r.groups (e.ruleset r).result).mapIdx e.groupLines).flatten ++
    closingLines r.id r.groups.length (e.ruleset r).result

/-! ### With a record -/

private theorem text_rule (e : Evaluator) (n i : Nat) (r : Rule) :
    (TraceLine.rule n i r (e.outcome r)).text = e.ruleLine n i r := by
  have hverdict : (e.outcome r).text = e.verdict r := by
    unfold verdict
    cases e.outcome r with
    | skipped => rfl
    | holds => rfl
    | fails => rfl
  unfold TraceLine.text ruleLine
  rw [← hverdict]

section Traced

variable {e : Evaluator} (ht : e.traced = true)
include ht

private theorem record_of_traced (lines : List TraceLine) : e.record lines = lines := by
  rw [record, if_pos ht]

private theorem rules_trace (n i : Nat) (rs : List Rule) :
    (e.rules n i rs).trace.map TraceLine.text =
      ((e.readRules rs).mapIdx fun j r => e.ruleLine n (i + j) r) ++
        if (e.readRules rs).length < rs.length then [s!"g{n}: AND 短路"] else [] := by
  induction rs generalizing i with
  | nil => rfl
  | cons r rest ih =>
    have hline : (TraceLine.rule n i r (e.outcome r)).text = e.ruleLine n i r :=
      text_rule e n i r
    have hleft : (TraceLine.rulesLeft n).text = s!"g{n}: AND 短路" := rfl
    by_cases h : e.outcome r = .fails
    · have hread : e.readRules (r :: rest) = [r] := by simp [readRules, List.findIdx_cons, h]
      rw [rules_cons_of_fails e h, record_of_traced ht, hread, ← h]
      cases rest with
      | nil => simp [hline]
      | cons s rest => simp [hline, hleft]
    · have hread : e.readRules (r :: rest) = r :: e.readRules rest := by
        simp [readRules, List.findIdx_cons, h]
      rw [rules_cons_of_passes e h, record_of_traced ht, hread]
      simp [Evaluation.after, hline, ih (i + 1), Nat.add_assoc, Nat.add_comm 1]

private theorem group_trace (n : Nat) (g : Group) :
    (e.group n g).trace.map TraceLine.text = e.groupLines n g := by
  cases g with
  | nil => exact congrArg (List.map TraceLine.text) (record_of_traced ht _)
  | cons r rest =>
    have h := rules_trace ht n 0 (r :: rest)
    simp only [Nat.zero_add] at h
    exact h

private theorem groups_trace (id : String) (n : Nat) (gs : List Group) :
    (e.groups id n gs).trace.map TraceLine.text =
      ((readGroups gs (gs.findIdx? fun g => e.Holds g)).mapIdx
        fun i g => e.groupLines (n + i) g).flatten ++
      closingLines id (n + gs.length) (e.groups id n gs).result := by
  induction gs generalizing n with
  | nil => exact congrArg (List.map TraceLine.text) (record_of_traced ht _)
  | cons g rest ih =>
    by_cases h : e.Holds g
    · have hread : readGroups (g :: rest) ((g :: rest).findIdx? fun g => e.Holds g) = [g] := by
        simp [readGroups, List.findIdx?_cons, h]
      have hclosing : closingLines id (n + (g :: rest).length) (some n) =
          (if rest.isEmpty then [] else [TraceLine.groupsLeft n rest.length]).map
            TraceLine.text := by
        have hleft (k : Nat) : (TraceLine.groupsLeft n k).text =
            s!"g{n}: 匹配，短路跳过剩余 {k} 个组" := rfl
        cases rest with
        | nil => simp [closingLines]
        | cons _ others => simp [closingLines, hleft]
      rw [groups_cons_of_holds e h, record_of_traced ht, List.map_append, group_trace ht, hread,
        hclosing]
      simp
    · have hread : readGroups (g :: rest) ((g :: rest).findIdx? fun g => e.Holds g) =
          g :: readGroups rest (rest.findIdx? fun g => e.Holds g) := by
        simp [List.findIdx?_cons, h, readGroups_cons_succ]
      have htotal : n + 1 + rest.length = n + (g :: rest).length := by
        simp [Nat.add_assoc, Nat.add_comm 1]
      rw [groups_cons_of_not_holds e h, hread]
      simp [Evaluation.after, group_trace ht, ih (n + 1), htotal, Nat.add_assoc, Nat.add_comm 1]

theorem ruleset_trace (r : Ruleset) :
    (e.ruleset r).trace.map TraceLine.text = e.lines r := by
  have hresult : (e.groups r.id 0 r.groups).result = r.groups.findIdx? fun g => e.Holds g :=
    e.ruleset_result r
  have h := groups_trace ht r.id 0 r.groups
  simp only [Nat.zero_add, hresult] at h
  rw [lines, ruleset_result]
  exact h

end Traced

/-! ### Without one -/

section Untraced

variable {e : Evaluator} (ht : e.traced = false)
include ht

private theorem record_of_untraced (lines : List TraceLine) : e.record lines = [] := by
  simp [record, ht]

private theorem rules_untraced (n i : Nat) (rs : List Rule) : (e.rules n i rs).trace = [] := by
  induction rs generalizing i with
  | nil => rfl
  | cons r rest ih =>
    by_cases h : e.outcome r = .fails
    · rw [rules_cons_of_fails e h, record_of_untraced ht]
    · rw [rules_cons_of_passes e h, record_of_untraced ht]
      exact ih (i + 1)

private theorem group_untraced (n : Nat) (g : Group) : (e.group n g).trace = [] := by
  cases g with
  | nil => exact record_of_untraced ht _
  | cons r rest => exact rules_untraced ht n 0 (r :: rest)

theorem groups_untraced (id : String) (n : Nat) (gs : List Group) :
    (e.groups id n gs).trace = [] := by
  induction gs generalizing n with
  | nil => exact record_of_untraced ht _
  | cons g rest ih =>
    by_cases h : e.Holds g
    · rw [groups_cons_of_holds e h, group_untraced ht, record_of_untraced ht, List.append_nil]
    · rw [groups_cons_of_not_holds e h, group_untraced ht]
      exact ih (n + 1)

end Untraced

/-- A record changes neither the result nor the calls, and has exactly the lines on what is read.
Without one nothing is written. -/
theorem ruleset_record_exact (k : Catalogue) (c : Context) (r : Ruleset) :
    (∀ rule, (mk k c true).outcome rule = (mk k c false).outcome rule) ∧
    ((mk k c true).ruleset r).result = ((mk k c false).ruleset r).result ∧
    ((mk k c true).ruleset r).calls = ((mk k c false).ruleset r).calls ∧
    ((mk k c false).ruleset r).trace = [] ∧
    ((mk k c true).ruleset r).trace.map TraceLine.text = (mk k c true).lines r := by
  have hresult : ((mk k c true).ruleset r).result = ((mk k c false).ruleset r).result := by
    rw [ruleset_result, ruleset_result]
    rfl
  refine ⟨fun _ => rfl, hresult, ?_, groups_untraced rfl r.id 0 r.groups, ruleset_trace rfl r⟩
  rw [ruleset_calls, ruleset_calls, hresult]
  rfl

/-- A group of each kind: empty, failing before its end, and holding with one behind it. -/
example :
    let yes : Rule := ⟨"", "vip", "yes", .null⟩
    let no : Rule := ⟨"", "vip", "no", .null⟩
    let e : Evaluator :=
      ⟨⟨[.ofOrigin "vip" .boolean none], [("vip", 0)]⟩, ⟨[("vip", .bool true)]⟩, true⟩
    (e.ruleset ⟨"r", "", true, [[], [no, yes], [yes], [no]], []⟩).trace.map TraceLine.text =
      ["g0: 空组，不匹配", "g1.r0: vip no null => FALSE", "g1: AND 短路",
        "g2.r0: vip yes null => TRUE", "g2: 匹配，短路跳过剩余 1 个组"] := by
  decide +kernel

end Criteria.Evaluator
