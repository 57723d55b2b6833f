import Criteria.Proofs.Lint.RequiredKeys
import Criteria.Proofs.Resolution.Injection
import Mathlib.Data.List.TakeWhile
/-!
# Arguments that a context does not have

A condition whose key has no value is judged as if the zero of its type stood under the key. The
entry of the zero is itself found under this key alone: a path that begins with its name would have
to lead into the zero, which has no parts, and without the entry it led nowhere either. So the
required arguments of the condition are provided with the entry as they are without it.
-/
namespace Criteria

/-- A value into which no path leads. -/
def Value.IsPartless (v : Value) : Prop :=
  ∀ segment, v.part? segment = none

private theorem ValueType.isPartless_zero (t : ValueType) : t.zero.IsPartless := by
  intro segment
  cases t with
  | multiSelect | referentialMulti =>
    rw [zero, Value.part?]
    cases position? segment <;> rfl
  | _ => rfl

/-! ### One more entry in a context -/

namespace Context

variable {c : Context} {key other : String} {v : Value}

private theorem head_of_point_notMem (h : '.' ∉ key.toList) : head key = key := by
  have hall : key.toList.takeWhile (· != '.') = key.toList := by
    rw [List.takeWhile_eq_self_iff]
    intro d hd
    rw [bne_iff_ne]
    rintro rfl
    exact h hd
  rw [head, hall, String.ofList_toList]

private theorem find?_data_of_get? (h : c.get? key = none) : c.data.find? key = none := by
  rw [get?] at h
  split at h
  · cases h
  · next hd => exact hd

private theorem get?_insert_self (c : Context) (key : String) (v : Value) :
    (c.insert key v).get? key = some v := by
  rw [get?, insert, Table.find?_insert_self]

private theorem follow?_of_isPartless (hd : c.data.find? (head other) = some v) (hv : v.IsPartless)
    (hpoint : '.' ∈ other.toList) : c.follow? (Text.splitOn '.' other.toList) = none := by
  obtain ⟨piece, pieces, hs⟩ := Text.exists_splitOn_eq_of_mem hpoint
  rw [head] at hd
  rw [hs, follow?, hd, Option.bind_some, List.foldlM_cons, hv piece]
  rfl

private theorem follow?_of_absent (hd : c.data.find? (head other) = none) :
    c.follow? (Text.splitOn '.' other.toList) = none := by
  obtain ⟨pieces, hs⟩ := Text.exists_splitOn_eq '.' other.toList
  rw [head] at hd
  rw [hs, follow?, hd, Option.bind_none]

/-- An entry without parts under a key that had no value is found under this key alone. -/
theorem get?_insert_of_isPartless (hne : key ≠ other) (hnone : c.get? key = none)
    (hv : v.IsPartless) : (c.insert key v).get? other = c.get? other := by
  have hwhole : (c.insert key v).data.find? other = c.data.find? other :=
    Table.find?_insert_ne c.data v hne
  by_cases hhead : key = head other
  · -- the path of the other key begins at the entry, and without the entry nowhere
    have hpoint : '.' ∈ other.toList := by
      by_contra hno
      exact hne (hhead.trans (head_of_point_notMem hno))
    have habsent : c.data.find? (head other) = none := hhead ▸ find?_data_of_get? hnone
    have hentry : (c.insert key v).data.find? (head other) = some v :=
      hhead ▸ Table.find?_insert_self c.data key v
    simp only [get?, hwhole, follow?_of_isPartless hentry hv hpoint, follow?_of_absent habsent]
  · exact get?_congr hwhole (Table.find?_insert_ne c.data v hhead)

end Context

/-! ### Conditions on an absent argument -/

namespace Condition

variable {c : Condition} {context : Context} {key : String}

theorem live_of_key (h : c.key? = some key) (authored : Value) (context : Context) :
    c.live authored context = (.ok ((context.get? key).getD c.type.zero), []) := by
  cases ho : c.origin with
  | none =>
    rw [key?, ho] at h
    cases h
    simp only [live, ho, argument]
  | some origin =>
    rw [key?, ho] at h
    cases origin with
    | argument k =>
      cases h
      simp only [live, ho, argument]
    | resolver run pass => cases h

private theorem missingArgument?_insert (hreq : key ∉ c.required) (hnone : context.get? key = none)
    {v : Value} (hv : v.IsPartless) :
    c.missingArgument? (context.insert key v) = c.missingArgument? context := by
  refine missingArgument?_congr fun other hother => ?_
  have hne : key ≠ other := fun he => hreq (he ▸ hother)
  exact Context.get?_insert_of_isPartless hne hnone hv

end Condition

namespace Evaluator

/-- An entry of the zero under the key of an absent argument changes neither the outcome of the rule
nor any other look-up. -/
theorem absent_argument_as_zero {k : Catalogue} {c : Condition} {r : Rule} {key : String}
    {context : Context} (hc : k.get? r.condition = some c) (hkey : c.key? = some key)
    (hreq : key ∉ c.required) (hnone : context.get? key = none) (traced : Bool) :
    let filled := context.insert key c.type.zero
    c.live r.value context = (.ok c.type.zero, []) ∧
      c.live r.value filled = (.ok c.type.zero, []) ∧
      (∀ other, other ≠ key → filled.get? other = context.get? other) ∧
      (mk k context traced).outcome r = (mk k filled traced).outcome r := by
  intro filled
  have hlive : c.live r.value context = (.ok c.type.zero, []) := by
    rw [Condition.live_of_key hkey, hnone, Option.getD_none]
  have hfilled : c.live r.value filled = (.ok c.type.zero, []) := by
    rw [Condition.live_of_key hkey, Context.get?_insert_self, Option.getD_some]
  have hmissing : c.missingArgument? filled = c.missingArgument? context :=
    Condition.missingArgument?_insert hreq hnone c.type.isPartless_zero
  refine ⟨hlive, hfilled, ?_, ?_⟩
  · intro other hne
    exact Context.get?_insert_of_isPartless hne.symm hnone c.type.isPartless_zero
  · have hjudge : (mk k context traced).judge r = (mk k filled traced).judge r := by
      refine judge_eq_of_live_eq (fun d hd => ?_) traced
      obtain rfl : c = d := Option.some.inj (hc.symm.trans hd)
      exact ⟨hmissing.symm, hlive.trans hfilled.symm⟩
    rw [outcome, outcome, hjudge]

/-- A total is absent from a cart although its key leads into it, and a list of tags is absent. -/
theorem absent_argument_as_zero_of_paths :
    let total : Condition :=
      (Condition.ofOrigin "total" .number (some (.argument "cart.total"))).require ["cart.items.0"]
    let tags : Condition :=
      (Condition.ofOrigin "tags" .multiSelect (some (.argument "tags"))).require ["tags.0"]
    let k : Catalogue := ⟨[total, tags], [("tags", 1), ("total", 0)]⟩
    let context : Context := ⟨[("cart", .object [("items", .list [.text "a"])])]⟩
    let small : Rule := ⟨"", "total", "<", .nat 100⟩
    let tagged : Rule := ⟨"", "tags", "none", .texts ["b"]⟩
    ((mk k context false).outcome small = .holds ∧
      (mk k (context.insert "cart.total" (.nat 0)) false).outcome small = .holds) ∧
    ((mk k context false).outcome tagged = .skipped ∧
      (mk k (context.insert "tags" (.list [])) false).outcome tagged = .skipped) := by
  intro total tags k context small tagged
  have htotal : k.get? small.condition = some total := rfl
  have htags : k.get? tagged.condition = some tags := rfl
  have hnoTotal : context.get? "cart.total" = none := by rfl
  have hnoTags : context.get? "tags" = none := by rfl
  have hsmall := absent_argument_as_zero htotal rfl (by decide +kernel) hnoTotal false
  have htagged := absent_argument_as_zero htags rfl (by decide +kernel) hnoTags false
  have hholds : (mk k context false).outcome small = .holds := by decide +kernel
  have hskipped : (mk k context false).outcome tagged = .skipped := by decide +kernel
  exact ⟨⟨hholds, hsmall.2.2.2.symm.trans hholds⟩, hskipped, htagged.2.2.2.symm.trans hskipped⟩

end Evaluator
end Criteria
