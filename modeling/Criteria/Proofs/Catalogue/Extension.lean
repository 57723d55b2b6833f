import Criteria.Proofs.Catalogue.Registration
import Criteria.Proofs.Evaluation.Congruence
import Criteria.Proofs.Evaluation.Judgement
import Criteria.Proofs.Lint.Soundness
/-!
# Extending a catalogue

A registration puts its condition behind the others and moves none of them: every name that stood for
a condition goes on to stand for that one. Evaluation, lint and the collection of keys ask a catalogue
only for the conditions that a ruleset names. So a ruleset notices a registration only if it names the
new condition.
-/
namespace Criteria

/-- A ruleset uses a condition: a rule of it names the condition. -/
def Ruleset.Uses (r : Ruleset) (name : String) : Prop :=
  ∃ rule ∈ r.groups.flatten, rule.condition = name

namespace Catalogue

variable {k k₁ k₂ : Catalogue}

/-! ### What a ruleset can notice of a catalogue -/

/-- A ruleset has the same results, records and resolver calls under two catalogues, the same
findings and the same keys. -/
structure SameFor (k₁ k₂ : Catalogue) (r : Ruleset) : Prop where
  evaluation : ∀ context traced,
    (Evaluator.mk k₁ context traced).ruleset r = (Evaluator.mk k₂ context traced).ruleset r
  findings : k₁.lint r = k₂.lint r
  keys : k₁.requiredKeys r = k₂.requiredKeys r

section SameLookUp

variable {rule : Rule} (h : k₁.get? rule.condition = k₂.get? rule.condition)
include h

private theorem judge_of_get?_eq (context : Context) (traced : Bool) :
    (Evaluator.mk k₁ context traced).judge rule = (Evaluator.mk k₂ context traced).judge rule := by
  simp only [Evaluator.judge, Evaluator.comparison, h]

private theorem issue?_of_get?_eq : k₁.issue? rule = k₂.issue? rule := by
  rw [issue?, issue?, h]

private theorem ruleKeys_of_get?_eq : k₁.ruleKeys rule = k₂.ruleKeys rule := by
  rw [ruleKeys, ruleKeys, h]

end SameLookUp

private theorem lintRules_congr {rs : List Rule} (h : ∀ rule ∈ rs, k₁.issue? rule = k₂.issue? rule)
    (n i : Nat) : k₁.lintRules n i rs = k₂.lintRules n i rs := by
  induction rs generalizing i with
  | nil => rfl
  | cons rule rest ih =>
    have hrest := ih (fun other hr => h other (List.mem_cons_of_mem rule hr)) (i + 1)
    rw [lintRules, lintRules, h rule List.mem_cons_self, hrest]

private theorem lintGroups_congr {gs : List Group}
    (h : ∀ rule ∈ gs.flatten, k₁.issue? rule = k₂.issue? rule) (n : Nat) :
    k₁.lintGroups n gs = k₂.lintGroups n gs := by
  induction gs generalizing n with
  | nil => rfl
  | cons g rest ih =>
    rw [List.flatten_cons] at h
    have hfirst := lintRules_congr (fun rule hr => h rule (List.mem_append_left rest.flatten hr)) n 0
    have hrest := ih (fun rule hr => h rule (List.mem_append_right g hr)) (n + 1)
    rw [lintGroups, lintGroups, hfirst, hrest]

/-- Only the conditions under the names that it uses matter to a ruleset. -/
theorem sameFor_of_get?_eq {r : Ruleset}
    (h : ∀ name, r.Uses name → k₁.get? name = k₂.get? name) : SameFor k₁ k₂ r := by
  have hrule : ∀ rule ∈ r.groups.flatten, k₁.get? rule.condition = k₂.get? rule.condition :=
    fun rule hr => h rule.condition ⟨rule, hr, rfl⟩
  refine ⟨?_, ?_, ?_⟩
  · intro context traced
    exact Evaluator.ruleset_congr
      ⟨rfl, fun rule hr => judge_of_get?_eq (hrule rule hr) context traced⟩
  · exact lintGroups_congr (fun rule hr => issue?_of_get?_eq (hrule rule hr)) 0
  · rw [requiredKeys, requiredKeys,
      List.flatMap_congr fun rule hr => ruleKeys_of_get?_eq (hrule rule hr)]

/-! ### What a registration changes -/

theorem WellFormed.get?_append (h : k.WellFormed) (c : Condition) (name : String) :
    (k.append c).get? name = if c.name = name then some c else k.get? name := by
  simp only [get?, Catalogue.append, Table.find?_insert]
  split
  · exact List.getElem?_concat_length
  · cases hi : k.index.find? name with
    | none => rfl
    | some i =>
      obtain ⟨d, hd, _⟩ := (h.indexed name i).mp hi
      exact (getElem?_append_eq_some.mpr (.inl hd)).trans hd.symm

/-- A name is new in a larger catalogue. -/
def Adds (k larger : Catalogue) (name : String) : Prop :=
  k.get? name = none ∧ larger.get? name ≠ none

theorem get?_run_append {calls more : List Registration} {name : String}
    (h : ¬Adds (run calls) (run (calls ++ more)) name) :
    (run calls).get? name = (run (calls ++ more)).get? name := by
  cases hk : (run calls).get? name with
  | none =>
    by_contra hne
    exact h ⟨hk, Ne.symm hne⟩
  | some c => exact (get?_run.mpr ((get?_run.mp hk).append more)).symm

/-- Neither a registration nor any further calls are noticed by rules and rulesets that do not name
what they add. -/
theorem extension_conservative (calls : List Registration) :
    (∀ d larger, (run calls).register d = .ok larger →
      (∀ rule : Rule, rule.condition ≠ d.name → ∀ context traced,
        (Evaluator.mk larger context traced).judge rule =
          (Evaluator.mk (run calls) context traced).judge rule) ∧
      (∀ (r : Ruleset) n i g rule issue, r.groups[n]? = some g → g[i]? = some rule →
        rule.condition ≠ d.name →
          (⟨n, some i, issue⟩ ∈ larger.lint r ↔ ⟨n, some i, issue⟩ ∈ (run calls).lint r)) ∧
      (∀ rule : Rule, rule.condition = d.name → ∀ context traced,
        (Evaluator.mk (run calls) context traced).judge rule = (.fails, [])) ∧
      ∀ r : Ruleset, ¬r.Uses d.name → SameFor (run calls) larger r) ∧
    ∀ more (r : Ruleset),
      (∀ name, r.Uses name → ¬Adds (run calls) (run (calls ++ more)) name) →
        SameFor (run calls) (run (calls ++ more)) r := by
  constructor
  · intro d larger h
    obtain ⟨_, hnew, rfl⟩ := register_eq_ok.mp h
    have hother : ∀ name, name ≠ d.name → ((run calls).append d).get? name = (run calls).get? name :=
      fun name hne => by rw [(wellFormed_run calls).get?_append, if_neg hne.symm]
    refine ⟨?_, ?_, ?_, ?_⟩
    · intro rule hne context traced
      exact judge_of_get?_eq (hother rule.condition hne) context traced
    · intro r n i g rule issue hg hr hne
      have hissue := issue?_of_get?_eq (hother rule.condition hne)
      simp only [mem_lint_rule, hg, Option.some_inj, exists_and_left, exists_eq_left', hr, hissue]
    · intro rule hname context traced
      have hunknown : (run calls).get? rule.condition = none := by
        rw [hname, get?, hnew, Option.bind_none]
      exact Evaluator.judge_of_unknown hunknown
    · intro r hr
      refine sameFor_of_get?_eq fun name hname => (hother name ?_).symm
      rintro rfl
      exact hr hname
  · intro more r h
    exact sameFor_of_get?_eq fun name hname => get?_run_append (h name hname)

/-- A ruleset asks only for the total and does not notice a flag that is registered behind it. -/
theorem extension_conservative_of_new_flag :
    let total : Condition := .ofOrigin "total" .number (some (.argument "cart.total"))
    let vip : Condition := .ofOrigin "vip" .boolean none
    let calls : List Registration := [.register total]
    let larger := (run calls).append vip
    let more : List Registration := [.extend vip, .register (.ofOrigin "total" .boolean none)]
    let high : Rule := ⟨"", "total", ">", .nat 100⟩
    let bad : Rule := ⟨"", "total", ">", .text "lots"⟩
    let flag : Rule := ⟨"", "vip", "yes", .null⟩
    let plain : Ruleset := ⟨"plain", "", true, [[high], [bad]], []⟩
    let mixed : Ruleset := ⟨"mixed", "", true, [[flag], [flag, bad]], []⟩
    let context : Context := ⟨[("cart", .object [("total", .nat 150)]), ("vip", .bool true)]⟩
    (run calls).register vip = .ok larger ∧
      (Evaluator.mk (run calls) context true).judge flag = (.fails, []) ∧
      (Evaluator.mk larger context true).outcome flag = .holds ∧
      ⟨1, some 1, .invalidThreshold "total" .greater⟩ ∈ larger.lint mixed ∧
      (Evaluator.mk larger context true).judge bad =
        (Evaluator.mk (run calls) context true).judge bad ∧
      SameFor (run calls) larger plain ∧ SameFor (run calls) (run (calls ++ more)) plain ∧
      ((Evaluator.mk larger context true).ruleset plain).result = some 0 := by
  intro total vip calls larger more high bad flag plain mixed context
  have hlarger : (run calls).register vip = .ok larger :=
    register_eq_ok.mpr ⟨Condition.defect?_eq_none.mp (by decide), by decide +kernel, rfl⟩
  obtain ⟨hone, hmany⟩ := extension_conservative calls
  obtain ⟨hjudge, hlint, hfails, hsame⟩ := hone vip larger hlarger
  have huses : ∀ name, plain.Uses name → name = "total" := by
    rintro name ⟨rule, hr, rfl⟩
    have hcases : rule = high ∨ rule = bad := by simpa [plain] using hr
    rcases hcases with rfl | rfl
    · rfl
    · rfl
  have hplain : SameFor (run calls) larger plain :=
    hsame plain fun h => absurd (huses _ h) (by decide)
  have hmore : SameFor (run calls) (run (calls ++ more)) plain := by
    refine hmany more plain fun name hname hadds => ?_
    obtain rfl := huses name hname
    have hknown : (run calls).get? "total" ≠ none := by decide +kernel
    exact hknown hadds.1
  refine ⟨hlarger, hfails flag rfl context true, by decide +kernel, ?_,
    hjudge bad (by decide) context true, hplain, hmore, ?_⟩
  · refine (hlint mixed 1 1 [flag, bad] bad _ rfl rfl (by decide)).mpr ?_
    decide +kernel
  · rw [← hplain.evaluation]
    decide +kernel

end Catalogue
end Criteria
