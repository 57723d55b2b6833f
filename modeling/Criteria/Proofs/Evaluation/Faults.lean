import Criteria.Engine
import Criteria.Proofs.Evaluation.Congruence
import Criteria.Proofs.Evaluation.FirstGroup
/-!
# Faults stay with their rule

A resolver that fails spoils the rule that asks it and nothing else. Which fault it was can be read
nowhere: catalogues whose resolvers fail on the same inputs, each in its own way, give every rule the
same outcome and every ruleset the same result, record and calls. An engine itself fails only when a
catalogue is missing or its source fails.
-/
namespace Criteria

/-- Two resolvers give the same values, and where one fails the other fails as well, perhaps in another
way. -/
def Resolver.SameUpToFaults (run₁ run₂ : Resolver) : Prop :=
  ∀ context authored, (run₁ context authored).toOption = (run₂ context authored).toOption

inductive Origin.SameUpToFaults : Origin → Origin → Prop
  | argument (key : String) : SameUpToFaults (.argument key) (.argument key)
  | resolver {run₁ run₂ : Resolver} (run : run₁.SameUpToFaults run₂) (pass : Bool) :
    SameUpToFaults (.resolver run₁ pass) (.resolver run₂ pass)

/-- A condition is the same up to faults with another resolver in place of its own. -/
inductive Condition.SameUpToFaults (c : Condition) : Condition → Prop
  | withOrigin {origin : Option Origin} (same : Option.Rel Origin.SameUpToFaults c.origin origin) :
    SameUpToFaults c { c with origin := origin }

structure Catalogue.SameUpToFaults (k₁ k₂ : Catalogue) : Prop where
  conditions : ∀ i : Nat,
    Option.Rel Condition.SameUpToFaults k₁.conditions[i]? k₂.conditions[i]?
  index : k₁.index = k₂.index

/-- Two engines fetch from the same source, record or not, and have the same catalogues up to faults. -/
structure Engine.SameUpToFaults (e₁ e₂ : Engine) : Prop where
  source : e₁.source = e₂.source
  traced : e₁.traced = e₂.traced
  catalogues : ∀ source,
    Option.Rel Catalogue.SameUpToFaults (e₁.catalogue? source) (e₂.catalogue? source)

/-! ### From a resolver to a rule -/

private theorem none_or_some_of_rel {α β : Type} {R : α → β → Prop} {x : Option α} {y : Option β}
    (h : Option.Rel R x y) :
    x = none ∧ y = none ∨ ∃ a b, x = some a ∧ y = some b ∧ R a b := by
  cases h with
  | none => exact .inl ⟨rfl, rfl⟩
  | some h => exact .inr ⟨_, _, rfl, rfl, h⟩

private theorem toOption_mapError {ε δ α : Type} (f : ε → δ) (x : Except ε α) :
    (x.mapError f).toOption = x.toOption := by
  cases x <;> rfl

namespace Condition.SameUpToFaults

variable {c₁ c₂ : Condition} (h : c₁.SameUpToFaults c₂)
include h

private theorem type_eq : c₁.type = c₂.type := by
  cases h
  rfl

private theorem missingArgument?_eq (context : Context) :
    c₁.missingArgument? context = c₂.missingArgument? context := by
  cases h
  rfl

private theorem allows_eq (op : Operator) : c₁.allows op = c₂.allows op := by
  cases h
  rfl

private theorem live_eq (authored : Value) (context : Context) :
    (c₁.live authored context).1.toOption = (c₂.live authored context).1.toOption ∧
      (c₁.live authored context).2 = (c₂.live authored context).2 := by
  obtain ⟨same⟩ := h
  rw [live, live]
  rcases none_or_some_of_rel same with ⟨h₁, rfl⟩ | ⟨origin₁, origin₂, h₁, rfl, horigin⟩
  · rw [h₁]
    exact ⟨rfl, rfl⟩
  · rw [h₁]
    cases horigin with
    | argument key => exact ⟨rfl, rfl⟩
    | resolver run pass =>
      simp only [toOption_mapError]
      exact ⟨run _ _, rfl⟩

end Condition.SameUpToFaults

private theorem Catalogue.SameUpToFaults.get? {k₁ k₂ : Catalogue} (h : k₁.SameUpToFaults k₂)
    (name : String) : Option.Rel Condition.SameUpToFaults (k₁.get? name) (k₂.get? name) := by
  rw [Catalogue.get?, Catalogue.get?, h.index]
  cases k₂.index.find? name with
  | none => exact .none
  | some i => exact h.conditions i

namespace Evaluator

/-- The outcome of a rule that is compared, told by the live value that there is, if there is one. -/
private theorem judge_of_compares_toOption {e : Evaluator} {r : Rule} {c : Condition}
    {op : Operator} (h : e.Compares r c op) :
    e.judge r = (((c.live r.value e.context).1.toOption.map fun live =>
      Outcome.ofBool (c.type.compare op live (c.type.threshold r.value))).getD .fails,
        (c.live r.value e.context).2) := by
  rw [judge_of_compares h]
  cases (c.live r.value e.context).1 <;> rfl

theorem judge_of_sameUpToFaults {k₁ k₂ : Catalogue} (h : k₁.SameUpToFaults k₂)
    (context : Context) (traced : Bool) (r : Rule) :
    (mk k₁ context traced).judge r = (mk k₂ context traced).judge r := by
  rcases none_or_some_of_rel (h.get? r.condition) with ⟨hc₁, hc₂⟩ | ⟨c₁, c₂, hc₁, hc₂, same⟩
  · rw [judge_of_unknown hc₁, judge_of_unknown hc₂]
  · have hcomparison : (mk k₂ context traced).comparison r =
        ((mk k₁ context traced).comparison r).map fun p => (c₂, p.2) := by
      simp only [comparison, hc₁, hc₂, same.missingArgument?_eq, same.allows_eq]
      split
      · rfl
      · split
        · split <;> rfl
        · rfl
    cases h₁ : (mk k₁ context traced).comparison r with
    | error o =>
      rw [h₁] at hcomparison
      rw [judge_of_error h₁, judge_of_error hcomparison]
    | ok p =>
      obtain ⟨c, op⟩ := p
      rw [h₁] at hcomparison
      have hp₁ := comparison_eq_ok.mp h₁
      have hp₂ := comparison_eq_ok.mp hcomparison
      obtain rfl : c₁ = c := Option.some.inj (hc₁.symm.trans hp₁.known)
      obtain ⟨hlive, hcalls⟩ := same.live_eq r.value context
      rw [judge_of_compares_toOption hp₁, judge_of_compares_toOption hp₂]
      simp only [hlive, hcalls, same.type_eq]

theorem ruleset_of_sameUpToFaults {k₁ k₂ : Catalogue} (h : k₁.SameUpToFaults k₂)
    (context : Context) (traced : Bool) (r : Ruleset) :
    (mk k₁ context traced).ruleset r = (mk k₂ context traced).ruleset r :=
  ruleset_congr ⟨rfl, fun rule _ => judge_of_sameUpToFaults h context traced rule⟩

/-- A rule breaks: it is compared, and the resolver of its condition fails. -/
def Breaks (e : Evaluator) (r : Rule) (fault : Resolver.Fault) : Prop :=
  ∃ c op run pass, e.Compares r c op ∧ c.origin = some (.resolver run pass) ∧
    run (c.call pass r.value e.context).context (c.call pass r.value e.context).authored =
      .error fault

private theorem outcome_of_breaks {e : Evaluator} {r : Rule} {fault : Resolver.Fault}
    (h : e.Breaks r fault) : e.outcome r = .fails := by
  obtain ⟨c, op, run, pass, hp, ho, hrun⟩ := h
  have hlive : (c.live r.value e.context).1 = .error (c.errorOf fault) := by
    simp only [Condition.live, ho, hrun]
    rfl
  rw [outcome, judge_of_compares hp, hlive]

end Evaluator

/-! ### Up to the engine -/

namespace Engine

/-- An engine fails for a source: the source has no catalogue, or the fetch fails. -/
def FailsWith (e : Engine) (source : String) (q : Query) (error : Error) : Prop :=
  e.catalogue? source = none ∧ error = .catalogueNotFound source ∨
    (∃ k, e.catalogue? source = some k) ∧ e.source source q = .error error

private theorem prepare_eq_error {e : Engine} {source : String} {q : Query} {error : Error} :
    e.prepare source q = .error error ↔ e.FailsWith source q error := by
  rw [prepare, FailsWith]
  cases e.catalogue? source with
  | none => simp [eq_comm]
  | some k => cases e.source source q <;> simp [Except.map]

private theorem map_eq_error {ε α β : Type} {x : Except ε α} {f : α → β} {error : ε} :
    x.map f = .error error ↔ x = .error error := by
  cases x <;> simp [Except.map]

theorem first_eq_error {e : Engine} {source : String} {q : Query} {context : Context}
    {error : Error} :
    e.first source q context = .error error ↔ e.FailsWith source q error := by
  rw [first, map_eq_error, prepare_eq_error]

theorem all_eq_error {e : Engine} {source : String} {q : Query} {context : Context}
    {error : Error} :
    e.all source q context = .error error ↔ e.FailsWith source q error := by
  rw [all, map_eq_error, prepare_eq_error]

private theorem first_all_of_sameUpToFaults {e₁ e₂ : Engine} (h : e₁.SameUpToFaults e₂)
    (source : String) (q : Query) (context : Context) :
    e₁.first source q context = e₂.first source q context ∧
      e₁.all source q context = e₂.all source q context := by
  rw [first, first, all, all, prepare, prepare, h.source, h.traced]
  rcases none_or_some_of_rel (h.catalogues source) with ⟨h₁, h₂⟩ | ⟨k₁, k₂, h₁, h₂, same⟩
  · rw [h₁, h₂]
    exact ⟨rfl, rfl⟩
  · rw [h₁, h₂]
    cases e₂.source source q with
    | error error => exact ⟨rfl, rfl⟩
    | ok rs =>
      have hrulesets : ∀ r ∈ rs, (Evaluator.mk k₁ context e₂.traced).ruleset r =
          (Evaluator.mk k₂ context e₂.traced).ruleset r :=
        fun r _ => Evaluator.ruleset_of_sameUpToFaults same context e₂.traced r
      exact ⟨congrArg Except.ok (Evaluator.first_congr hrulesets),
        congrArg Except.ok (Evaluator.all_congr hrulesets)⟩

/-- A resolver that fails spoils its own rule alone. An engine fails only without a catalogue or
when the fetch fails. -/
theorem broken_rule_fails_alone :
    (∀ (e : Engine) source q context error,
      (e.first source q context = .error error ↔ e.FailsWith source q error) ∧
      (e.all source q context = .error error ↔ e.FailsWith source q error)) ∧
    (∀ (e : Engine) source, e.catalogue? source = none → ∀ (other : RulesetSource) q context,
      first { e with source := other } source q context = .error (.catalogueNotFound source) ∧
      all { e with source := other } source q context = .error (.catalogueNotFound source)) ∧
    (∀ k₁ k₂ : Catalogue, k₁.SameUpToFaults k₂ → ∀ context traced,
      (∀ rule, (Evaluator.mk k₁ context traced).outcome rule =
        (Evaluator.mk k₂ context traced).outcome rule) ∧
      ∀ r, (Evaluator.mk k₁ context traced).ruleset r =
        (Evaluator.mk k₂ context traced).ruleset r) ∧
    (∀ e₁ e₂ : Engine, e₁.SameUpToFaults e₂ → ∀ source q context,
      e₁.first source q context = e₂.first source q context ∧
      e₁.all source q context = e₂.all source q context) ∧
    ∀ (e : Evaluator) rule fault, e.Breaks rule fault →
      e.outcome rule = .fails ∧ ∀ g, rule ∈ g → ¬e.Holds g := by
  refine ⟨fun _ _ _ _ _ => ⟨first_eq_error, all_eq_error⟩, ?_, ?_,
    fun _ _ h => first_all_of_sameUpToFaults h, ?_⟩
  · intro e source hnone other q context
    have hfails : FailsWith { e with source := other } source q (.catalogueNotFound source) :=
      .inl ⟨hnone, rfl⟩
    exact ⟨first_eq_error.mpr hfails, all_eq_error.mpr hfails⟩
  · intro k₁ k₂ h context traced
    refine ⟨fun rule => ?_, Evaluator.ruleset_of_sameUpToFaults h context traced⟩
    rw [Evaluator.outcome, Evaluator.outcome, Evaluator.judge_of_sameUpToFaults h]
  · intro e rule fault h
    have hfails := Evaluator.outcome_of_breaks h
    exact ⟨hfails, fun g hg hh => hh.2 rule hg hfails⟩

/-- A resolver that reports an error and one that breaks down spoil the same rule, and no more. -/
theorem broken_rule_fails_alone_of_missing_score :
    let scoreOr (fault : Resolver.Fault) : Resolver := fun context _ =>
      match context.get? "score" with
      | some v => .ok v
      | none => .error fault
    let reports := scoreOr (.reported ⟨"score", "no score"⟩)
    let crashes := scoreOr (.crashed none)
    let k (run : Resolver) : Catalogue :=
      ⟨[.ofOrigin "score" .number (some (.resolver run false)), .ofOrigin "vip" .boolean none],
        [("score", 0), ("vip", 1)]⟩
    let scored : Rule := ⟨"", "score", ">", .nat 1⟩
    let vip : Rule := ⟨"", "vip", "yes", .null⟩
    let st := Store.empty.replace "shop"
      [⟨"scored", "", true, [[scored, vip]], []⟩, ⟨"others", "", true, [[vip]], []⟩]
    let e (run : Resolver) : Engine := ⟨st.source, [("shop", k run)], true⟩
    let context : Context := ⟨[("vip", .bool true)]⟩
    (k reports).SameUpToFaults (k crashes) ∧ (e reports).SameUpToFaults (e crashes) ∧
      (Evaluator.mk (k crashes) context true).outcome scored = .fails ∧
      (e reports).first "shop" {} context = (e crashes).first "shop" {} context ∧
      ((e crashes).first "shop" {} context).toOption.map (·.1.hit.map (·.1.id)) =
        some (some "others") ∧
      (e crashes).first "depot" {} context = .error (.catalogueNotFound "depot") := by
  intro scoreOr reports crashes k scored vip st e context
  obtain ⟨-, hmissing, -, hengine, hbreaks⟩ := broken_rule_fails_alone
  have hrun : reports.SameUpToFaults crashes := by
    intro context authored
    simp only [reports, crashes, scoreOr]
    split <;> rfl
  have hk : (k reports).SameUpToFaults (k crashes) := by
    refine ⟨fun i => ?_, rfl⟩
    match i with
    | 0 => exact .some (.withOrigin (.some (.resolver hrun false)))
    | 1 => exact .some (.withOrigin .none)
    | i + 2 => exact .none
  have he : (e reports).SameUpToFaults (e crashes) := by
    refine ⟨rfl, rfl, fun source => ?_⟩
    simp only [Engine.catalogue?, e, Table.find?]
    split
    · exact .some hk
    · exact .none
  have hb : (Evaluator.mk (k crashes) context true).Breaks scored (.crashed none) := by
    refine ⟨_, .greater, crashes, false, ⟨rfl, ?_, by decide, rfl⟩, rfl, rfl⟩
    intro key hkey
    cases hkey
  exact ⟨hk, he, (hbreaks _ _ _ hb).1, (hengine _ _ he "shop" {} context).1,
    by decide +kernel,
    (hmissing (e crashes) "depot" rfl _ {} context).1⟩

end Engine
end Criteria
