import Criteria.Lint
import Criteria.Proofs.Evaluation.Congruence
import Criteria.Proofs.Evaluation.Judgement
import Mathlib.Data.List.Find
/-!
# The keys that an evaluation reads

An evaluation that asks no resolver reads a context at the keys that the linter collects, and nowhere
else: contexts that agree there give every rule the same outcome and the ruleset the same result and
the same record. The argument goes up from one look-up to the ruleset; above the judgement of a rule
it does not matter where that judgement comes from.
-/
namespace Criteria

/-- Two contexts agree on keys: each of these has the same value in both, or no value in both. -/
def Context.AgreeOn (keys : List String) (c₁ c₂ : Context) : Prop :=
  ∀ key ∈ keys, c₁.get? key = c₂.get? key

private theorem Context.AgreeOn.mono {keys more : List String} {c₁ c₂ : Context}
    (h : AgreeOn more c₁ c₂) (hsub : keys ⊆ more) : AgreeOn keys c₁ c₂ :=
  fun key hkey => h key (hsub hkey)

namespace Condition

variable {c : Condition} {c₁ c₂ : Context}

theorem missingArgument?_congr (h : Context.AgreeOn c.required c₁ c₂) :
    c.missingArgument? c₁ = c.missingArgument? c₂ := by
  rw [missingArgument?, missingArgument?]
  apply List.find?_congr
  intro key hkey
  rw [Context.has, Context.has, h key hkey]

private theorem live_congr (hk : c.key? ≠ none) (h : Context.AgreeOn c.key?.toList c₁ c₂)
    (authored : Value) : c.live authored c₁ = c.live authored c₂ := by
  cases ho : c.origin with
  | none =>
    have hkey := h c.name (by simp [key?, ho])
    simp only [live, ho, argument, hkey]
  | some origin =>
    cases origin with
    | argument key =>
      have hkey := h key (by simp [key?, ho])
      simp only [live, ho, argument, hkey]
    | resolver run pass => exact absurd (by rw [key?, ho]) hk

private theorem key?_ne_none (h : ∀ run pass, c.origin ≠ some (.resolver run pass)) :
    c.key? ≠ none := by
  rw [key?]
  split
  · simp
  · next run pass hr => exact absurd hr (h run pass)
  · simp

end Condition

namespace Catalogue

private theorem mem_conditions_of_get? {k : Catalogue} {name : String} {c : Condition}
    (h : k.get? name = some c) : c ∈ k.conditions := by
  obtain ⟨i, _, hi⟩ := Option.bind_eq_some_iff.mp h
  exact List.mem_of_getElem? hi

private theorem ruleKeys_of_known {k : Catalogue} {r : Rule} {c : Condition}
    (h : k.get? r.condition = some c) : k.ruleKeys r = c.key?.toList ++ c.required := by
  rw [ruleKeys, h]

private theorem ruleKeys_subset {k : Catalogue} {r : Ruleset} {g : Group} {rule : Rule}
    (hg : g ∈ r.groups) (hr : rule ∈ g) : k.ruleKeys rule ⊆ k.requiredKeys r := by
  intro key hkey
  rw [requiredKeys, Names.mem_ofList, List.mem_flatMap]
  exact ⟨rule, List.mem_flatten_of_mem hg hr, hkey⟩

/-- All known conditions of a ruleset are looked up in the context, under a key of their own or, for
a truth value without an origin, under their name. -/
def LooksUp (k : Catalogue) (r : Ruleset) : Prop :=
  ∀ g ∈ r.groups, ∀ rule ∈ g, ∀ c, k.get? rule.condition = some c →
    ∀ run pass, c.origin ≠ some (.resolver run pass)

end Catalogue

namespace Evaluator

theorem judge_congr {k : Catalogue} {c₁ c₂ : Context} {r : Rule}
    (hk : ∀ c, k.get? r.condition = some c → c.key? ≠ none)
    (h : Context.AgreeOn (k.ruleKeys r) c₁ c₂) (traced : Bool) :
    (mk k c₁ traced).judge r = (mk k c₂ traced).judge r := by
  refine judge_eq_of_live_eq (fun c hc => ?_) traced
  rw [Catalogue.ruleKeys_of_known hc] at h
  have hmissing := Condition.missingArgument?_congr
    (h.mono (List.subset_append_right c.key?.toList c.required))
  have hlive := Condition.live_congr (hk c hc)
    (h.mono (List.subset_append_left c.key?.toList c.required)) r.value
  exact ⟨hmissing, hlive⟩

/-- The keys that the linter collects are all that an evaluation without resolvers reads. -/
theorem required_keys_cover (k : Catalogue) (r : Ruleset) (c₁ c₂ : Context) (traced : Bool)
    (hl : k.LooksUp r) (h : Context.AgreeOn (k.requiredKeys r) c₁ c₂) :
    (∀ g ∈ r.groups, ∀ rule ∈ g,
      (mk k c₁ traced).outcome rule = (mk k c₂ traced).outcome rule) ∧
    (mk k c₁ traced).ruleset r = (mk k c₂ traced).ruleset r := by
  have hjudge : ∀ g ∈ r.groups, ∀ rule ∈ g,
      (mk k c₁ traced).judge rule = (mk k c₂ traced).judge rule := by
    intro g hg rule hr
    have hk : ∀ c, k.get? rule.condition = some c → c.key? ≠ none :=
      fun c hc => Condition.key?_ne_none (hl g hg rule hr c hc)
    exact judge_congr hk (h.mono (Catalogue.ruleKeys_subset hg hr)) traced
  refine ⟨?_, ruleset_congr ⟨rfl, ?_⟩⟩
  · intro g hg rule hr
    rw [outcome, outcome, hjudge g hg rule hr]
  · intro rule hr
    obtain ⟨g, hg, hr⟩ := List.mem_flatten.mp hr
    exact hjudge g hg rule hr

/-- A dotted path, a required argument and a truth value without an origin are what is read. -/
theorem required_keys_cover_of_more_facts :
    let k : Catalogue :=
      ⟨[(Condition.ofOrigin "total" .number (some (.argument "cart.total"))).require ["user"],
        .ofOrigin "vip" .boolean none], [("total", 0), ("vip", 1)]⟩
    let r : Ruleset :=
      ⟨"r", "", true, [[⟨"", "vip", "yes", .null⟩], [⟨"", "total", ">", .nat 100⟩,
        ⟨"", "other", "==", .nat 1⟩], [⟨"", "total", ">", .nat 100⟩]], []⟩
    let c₁ : Context := ⟨[("cart", .object [("total", .nat 150)]), ("user", .text "u")]⟩
    let c₂ : Context :=
      ⟨[("cart", .object [("note", .text "n"), ("total", .nat 150)]), ("seen", .bool true),
        ("user", .text "u")]⟩
    k.requiredKeys r = ["cart.total", "user", "vip"] ∧ k.LooksUp r ∧
      Context.AgreeOn (k.requiredKeys r) c₁ c₂ ∧
      (mk k c₁ true).ruleset r = (mk k c₂ true).ruleset r ∧
      ((mk k c₂ true).ruleset r).result = some 2 := by
  intro k r c₁ c₂
  have hkeys : k.requiredKeys r = ["cart.total", "user", "vip"] := by decide +kernel
  have hl : k.LooksUp r := by
    intro g _ rule _ c hc run pass ho
    have hmem := Catalogue.mem_conditions_of_get? hc
    simp only [k, List.mem_cons, List.not_mem_nil, or_false] at hmem
    rcases hmem with rfl | rfl
    · cases ho
    · cases ho
  have h : Context.AgreeOn (k.requiredKeys r) c₁ c₂ := by
    rw [hkeys]
    intro key hkey
    simp only [List.mem_cons, List.not_mem_nil, or_false] at hkey
    rcases hkey with rfl | rfl | rfl
    · rfl
    · rfl
    · rfl
  have hc := required_keys_cover k r c₁ c₂ true hl h
  exact ⟨hkeys, hl, h, hc.2, by rw [← hc.2]; decide +kernel⟩

end Evaluator
end Criteria
