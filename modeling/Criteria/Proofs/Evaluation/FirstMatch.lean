import Criteria.Engine
import Criteria.Proofs.Evaluation.FirstGroup
/-!
# The first match and all matches

Evaluation up to the first match agrees with evaluation of all rulesets: it reports the first of all
matches, has evaluated the rulesets up to that one, and has recorded and called what these record and
call. The two modes fail together, before anything is evaluated.
-/
namespace Criteria

/-- The report of a first match says whether there is one, and names a ruleset and a group exactly
when it says so. -/
def FirstMatch.Coherent (m : FirstMatch) : Prop :=
  m.document.member? "matched" = some (.bool m.hit.isSome) ∧
  (m.document.member? "ruleset" ≠ some .null ↔ m.hit.isSome = true) ∧
  (m.document.member? "matched_group_index" ≠ some .null ↔ m.hit.isSome = true)

/-- The report of a match names its ruleset and its group. -/
def Match.Coherent (m : Match) : Prop :=
  m.document.member? "ruleset" = some m.ruleset.document ∧
  m.document.member? "matched_group_index" = some (.nat m.group)

private theorem FirstMatch.coherent (m : FirstMatch) : m.Coherent := by
  cases h : m.hit with
  | none => simp [Coherent, document, Value.member?, Table.find?, h]
  | some p => simp [Coherent, document, Value.member?, Table.find?, h, Ruleset.document, Value.nat]

private theorem Match.coherent (m : Match) : m.Coherent := by
  simp [Coherent, document, Value.member?, Table.find?]

/-- A group index designates a group of the ruleset that has a rule. -/
def Ruleset.HasRuleAt (r : Ruleset) (g : Nat) : Prop :=
  ∃ rules : Group, r.groups[g]? = some rules ∧ rules ≠ []

namespace Evaluator

def matchOf? (e : Evaluator) (r : Ruleset) : Option Match :=
  (e.ruleset r).result.map fun g => ⟨r, g, (e.ruleset r).trace⟩

/-- What the first mode reports on a list of rulesets, told by what the other mode reports. -/
structure FirstOfAll (e : Evaluator) (rs : List Ruleset) (first : FirstMatch × List Call)
    (all : List Match × List Call) : Prop where
  matched : first.1.hit.isSome = true ↔ all.1 ≠ []
  hit : first.1.hit = all.1.head?.map fun m => (m.ruleset, m.group)
  evaluated_all : all.1 = [] → first.1.evaluated = rs.length
  evaluated_up_to : ∀ m, all.1.head? = some m →
    ∃ p, IsLeast {p | rs[p]? = some m.ruleset} p ∧ first.1.evaluated = p + 1
  trace : first.1.trace = (rs.take first.1.evaluated).flatMap fun r => (e.ruleset r).trace
  trace_ends : ∀ m, all.1.head? = some m → m.trace <:+ first.1.trace
  calls : first.2 <+: all.2
  hit_coherent : first.1.Coherent
  match_coherent : ∀ m ∈ all.1, m.Coherent
  hit_group : ∀ r g, first.1.hit = some (r, g) → r.HasRuleAt g
  match_group : ∀ m ∈ all.1, m.ruleset.HasRuleAt m.group

variable (e : Evaluator)

private theorem hasRuleAt_of_result {r : Ruleset} {g : Nat} (h : (e.ruleset r).result = some g) :
    r.HasRuleAt g := by
  obtain ⟨⟨rules, hr, hh⟩, _⟩ := e.ruleset_result_eq_some.mp h
  exact ⟨rules, hr, hh.1⟩

theorem matchOf?_eq_some {r : Ruleset} {m : Match} :
    e.matchOf? r = some m ↔
      (e.ruleset r).result = some m.group ∧ m.ruleset = r ∧ m.trace = (e.ruleset r).trace := by
  constructor
  · intro h
    obtain ⟨g, hg, rfl⟩ := Option.map_eq_some_iff.mp h
    exact ⟨hg, rfl, rfl⟩
  · intro h
    obtain ⟨hg, rfl, ht⟩ := h
    rw [matchOf?, hg, ← ht]
    rfl

theorem all_eq (rs : List Ruleset) :
    e.all rs = (rs.filterMap e.matchOf?, rs.flatMap fun r => (e.ruleset r).calls) := by
  induction rs with
  | nil => rfl
  | cons r rest ih =>
    rw [all, ih]
    cases h : (e.ruleset r).result with
    | none => simp [matchOf?, h]
    | some g => simp [matchOf?, h]

private theorem first_of_no_match {rs : List Ruleset} (h : ∀ r ∈ rs, (e.ruleset r).result = none) :
    e.first rs = (⟨none, rs.length, rs.flatMap fun r => (e.ruleset r).trace⟩,
      rs.flatMap fun r => (e.ruleset r).calls) := by
  induction rs with
  | nil => rfl
  | cons r rest ih =>
    have hr := h r List.mem_cons_self
    have hrest := ih fun b hb => h b (List.mem_cons_of_mem r hb)
    simp [first, hr, hrest, FirstMatch.after]

private theorem first_append_cons {before : List Ruleset} {r : Ruleset} {g : Nat}
    (hb : ∀ b ∈ before, (e.ruleset b).result = none) (hr : (e.ruleset r).result = some g)
    (behind : List Ruleset) :
    e.first (before ++ r :: behind) =
      (⟨some (r, g), before.length + 1, (before ++ [r]).flatMap fun b => (e.ruleset b).trace⟩,
        (before ++ [r]).flatMap fun b => (e.ruleset b).calls) := by
  induction before with
  | nil => simp [first, hr]
  | cons b rest ih =>
    have hn := hb b List.mem_cons_self
    have hrest := ih fun a ha => hb a (List.mem_cons_of_mem b ha)
    rw [List.cons_append, first, hn, hrest]
    simp [FirstMatch.after]

private theorem no_match_or_first (rs : List Ruleset) :
    (∀ r ∈ rs, (e.ruleset r).result = none) ∨
      ∃ before r behind g, rs = before ++ r :: behind ∧
        (∀ b ∈ before, (e.ruleset b).result = none) ∧ (e.ruleset r).result = some g := by
  cases h : rs.find? fun r => (e.ruleset r).result.isSome with
  | none =>
    left
    intro r hr
    simpa using List.find?_eq_none.mp h r hr
  | some r =>
    right
    obtain ⟨hr, before, behind, rfl, hb⟩ := List.find?_eq_some_iff_append.mp h
    obtain ⟨g, hg⟩ := Option.isSome_iff_exists.mp hr
    exact ⟨before, r, behind, g, rfl, fun b hm => by simpa using hb b hm, hg⟩

private theorem filterMap_matchOf?_of_no_match {rs : List Ruleset}
    (h : ∀ r ∈ rs, (e.ruleset r).result = none) : rs.filterMap e.matchOf? = [] := by
  rw [List.filterMap_eq_nil_iff]
  intro r hr
  simp [matchOf?, h r hr]

private theorem match_group_of_all {rs : List Ruleset} {m : Match} (h : m ∈ (e.all rs).1) :
    m.ruleset.HasRuleAt m.group := by
  rw [all_eq] at h
  obtain ⟨r, _, hm⟩ := List.mem_filterMap.mp h
  obtain ⟨hg, rfl, _⟩ := e.matchOf?_eq_some.mp hm
  exact e.hasRuleAt_of_result hg

/-- The first ruleset that matches stands nowhere further in front: an equal one would have matched
there as well. -/
private theorem isLeast_position {before : List Ruleset} {r : Ruleset} {g : Nat}
    (hb : ∀ b ∈ before, (e.ruleset b).result = none) (hr : (e.ruleset r).result = some g)
    (behind : List Ruleset) :
    IsLeast {p : Nat | (before ++ r :: behind)[p]? = some r} before.length := by
  constructor
  · change (before ++ r :: behind)[before.length]? = some r
    simp
  · intro p hp
    change (before ++ r :: behind)[p]? = some r at hp
    refine Nat.le_of_not_lt fun hlt => ?_
    rw [List.getElem?_append_left hlt] at hp
    have hn := hb r (List.mem_of_getElem? hp)
    rw [hn] at hr
    cases hr

private theorem firstOfAll_of_no_match {rs : List Ruleset}
    (h : ∀ r ∈ rs, (e.ruleset r).result = none) :
    e.FirstOfAll rs (e.first rs) (e.all rs) := by
  have hall : (e.all rs).1 = [] := by rw [all_eq, filterMap_matchOf?_of_no_match e h]
  have hfirst := e.first_of_no_match h
  have hcalls : (e.first rs).2 = (e.all rs).2 := by rw [hfirst, all_eq]
  exact
    { matched := by simp [hfirst, hall]
      hit := by simp [hfirst, hall]
      evaluated_all := by simp [hfirst]
      evaluated_up_to := by simp [hall]
      trace := by simp [hfirst]
      trace_ends := by simp [hall]
      calls := hcalls ▸ List.prefix_rfl
      hit_coherent := FirstMatch.coherent _
      match_coherent := fun m _ => m.coherent
      hit_group := by simp [hfirst]
      match_group := fun _ => e.match_group_of_all }

private theorem firstOfAll_of_match {before : List Ruleset} {r : Ruleset} {g : Nat}
    (hb : ∀ b ∈ before, (e.ruleset b).result = none) (hr : (e.ruleset r).result = some g)
    (behind : List Ruleset) :
    e.FirstOfAll (before ++ r :: behind) (e.first (before ++ r :: behind))
      (e.all (before ++ r :: behind)) := by
  have hall : (e.all (before ++ r :: behind)).1 =
      ⟨r, g, (e.ruleset r).trace⟩ :: behind.filterMap e.matchOf? := by
    rw [all_eq, List.filterMap_append, filterMap_matchOf?_of_no_match e hb]
    simp [matchOf?, hr]
  have hhead : ∀ m, (e.all (before ++ r :: behind)).1.head? = some m →
      m = ⟨r, g, (e.ruleset r).trace⟩ := by
    intro m hm
    rw [hall, List.head?_cons, Option.some.injEq] at hm
    exact hm.symm
  have htake : (before ++ r :: behind).take (before.length + 1) = before ++ [r] := by
    rw [List.take_append, List.take_of_length_le (Nat.le_succ _)]
    simp
  have hfirst := e.first_append_cons hb hr behind
  exact
    { matched := by simp [hfirst, hall]
      hit := by simp [hfirst, hall]
      evaluated_all := by simp [hall]
      evaluated_up_to := by
        intro m hm
        rw [hhead m hm]
        exact ⟨before.length, e.isLeast_position hb hr behind, by rw [hfirst]⟩
      trace := by rw [hfirst, htake]
      trace_ends := by
        intro m hm
        rw [hhead m hm, hfirst, List.flatMap_append, List.flatMap_singleton]
        exact List.suffix_append _ _
      calls := by
        rw [hfirst, all_eq]
        simp only [List.flatMap_append, List.flatMap_cons, List.flatMap_nil, List.append_nil,
          ← List.append_assoc]
        exact List.prefix_append _ _
      hit_coherent := FirstMatch.coherent _
      match_coherent := fun m _ => m.coherent
      hit_group := by
        intro r' g' h
        rw [hfirst] at h
        cases h
        exact e.hasRuleAt_of_result hr
      match_group := fun _ => e.match_group_of_all }

theorem firstOfAll (rs : List Ruleset) : e.FirstOfAll rs (e.first rs) (e.all rs) := by
  obtain hn | ⟨before, r, behind, g, rfl, hb, hr⟩ := e.no_match_or_first rs
  · exact e.firstOfAll_of_no_match hn
  · exact e.firstOfAll_of_match hb hr behind

end Evaluator

namespace Engine

/-- The two modes fail with the same error, or else both succeed on the rulesets that were fetched,
and the first mode reports what the other says. -/
theorem first_agrees_with_all (e : Engine) (source : String) (q : Query) (context : Context) :
    (∃ error, e.first source q context = .error error ∧
      e.all source q context = .error error) ∨
    ∃ k rs first all, e.catalogue? source = some k ∧ e.source source q = .ok rs ∧
      e.first source q context = .ok first ∧ e.all source q context = .ok all ∧
      (Evaluator.mk k context e.traced).FirstOfAll rs first all := by
  rw [first, all, prepare]
  cases hk : e.catalogue? source with
  | none => exact .inl ⟨.catalogueNotFound source, rfl, rfl⟩
  | some k =>
    cases hs : e.source source q with
    | error error => exact .inl ⟨error, rfl, rfl⟩
    | ok rs => exact .inr ⟨k, rs, _, _, rfl, rfl, rfl, rfl, Evaluator.firstOfAll _ rs⟩

end Engine
end Criteria
