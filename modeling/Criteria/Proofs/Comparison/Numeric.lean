import Criteria.Proofs.Binary64.Agreement
import Criteria.Proofs.Comparison.Guard
/-!
# Operators on numbers

The order of numbers is exact, their equality allows for the last bit. So the operators on an order
fit together except on different numbers that agree: these compare equal and less or greater at once,
and the operators that include equality do not take notice of it.
-/
namespace Criteria

namespace Operator

/-- Exactly one of greater, equal and less holds; at least is greater or equal, at most is less or
equal. -/
structure Consistent (holds : Operator → Bool) : Prop where
  one : [greater, equal, less].countP holds = 1
  atLeast : holds .atLeast = (holds .greater || holds .equal)
  atMost : holds .atMost = (holds .less || holds .equal)

/-- Equal and either greater or less hold; at least is no more than greater, at most no more than
less. -/
structure Blurred (holds : Operator → Bool) : Prop where
  equal : holds .equal = true
  strict : holds .greater = !holds .less
  atLeast : holds .atLeast = holds .greater
  atMost : holds .atMost = holds .less

private theorem Blurred.not_consistent {holds : Operator → Bool} (h : Blurred holds) :
    ¬Consistent holds := by
  intro hc
  have hone := hc.one
  rw [List.countP_cons, List.countP_cons, List.countP_singleton, h.equal, h.strict] at hone
  cases hless : holds .less with
  | false => rw [hless] at hone; cases hone
  | true => rw [hless] at hone; cases hone

/-- The answers to an equality and an order of two values. -/
def answer (agree : Bool) (o : Ordering) (op : Operator) : Bool :=
  match op with
  | .equal => agree
  | .notEqual => !agree
  | _ => op.ordered o

private theorem consistent_answer {agree : Bool} {o : Ordering} (h : agree = (o == .eq)) :
    Consistent (answer agree o) := by
  subst h
  cases o with
  | lt => exact ⟨rfl, rfl, rfl⟩
  | eq => exact ⟨rfl, rfl, rfl⟩
  | gt => exact ⟨rfl, rfl, rfl⟩

private theorem blurred_answer {o : Ordering} (h : o ≠ .eq) : Blurred (answer true o) := by
  cases o with
  | lt => exact ⟨rfl, rfl, rfl, rfl⟩
  | eq => exact absurd rfl h
  | gt => exact ⟨rfl, rfl, rfl, rfl⟩

end Operator

namespace Binary64

variable {x y : Binary64}

theorem blurs_iff_compare : x.Blurs y ↔
    x.agrees y = true ∧ Ord.compare x.amount y.amount ≠ .eq := by
  rw [blurs_iff, and_comm, Ne, Ne, Int.compare_eq_eq]

private theorem agrees_eq_of_not_blurs (h : ¬x.Blurs y) :
    x.agrees y = (Ord.compare x.amount y.amount == .eq) := by
  rw [blurs_iff_compare] at h
  by_cases heq : Ord.compare x.amount y.amount = .eq
  · have hamount : (x.amount == y.amount) = true := beq_iff_eq.mpr (Int.compare_eq_eq.mp heq)
    rw [heq, agrees, hamount, Bool.true_or]
    rfl
  · have hagree : x.agrees y = false := Bool.eq_false_iff.mpr fun ha => h ⟨ha, heq⟩
    rw [hagree, beq_eq_false_iff_ne.mpr heq]

private theorem not_blurs_of_ofInt? {m n : Int} (hm : m.natAbs < 2 ^ 52) (hn : n.natAbs < 2 ^ 52)
    (hx : ofInt? m = some x) (hy : ofInt? n = some y) : ¬x.Blurs y := by
  intro h
  have hxm : x.amount = m * unit := amount_of_ofInt? (by omega) hx
  have hyn : y.amount = n * unit := amount_of_ofInt? (by omega) hy
  have hapart : apart x y = (m - n).natAbs * unit := by
    rw [apart, hxm, hyn, ← Int.sub_mul, Int.natAbs_mul, Int.natAbs_natCast]
  have hmax : max x.units y.units ≤ (2 ^ 52 - 1) * unit := by
    rw [← natAbs_amount, ← natAbs_amount, hxm, hyn, Int.natAbs_mul, Int.natAbs_mul, Int.natAbs_natCast]
    exact Nat.max_le.mpr ⟨Nat.mul_le_mul_right _ (by omega), Nat.mul_le_mul_right _ (by omega)⟩
  have hone : unit ≤ apart x y := by
    have hpos : 0 < (m - n).natAbs := Nat.pos_of_mul_pos_right (hapart ▸ h.1)
    rw [hapart]
    exact Nat.le_mul_of_pos_left _ hpos
  have hunit : 2 ^ 52 ≤ unit := by
    obtain ⟨k, hk, heq⟩ := exists_unit_eq_pow
    rw [heq]
    exact Nat.pow_le_pow_right Nat.two_pos hk
  have hclose := h.close
  omega

end Binary64

namespace ValueType

variable {t : ValueType} {op : Operator} {live threshold : Value} {x y : Binary64}

private theorem compare_number (ht : t = .number ∨ t = .numberWithUnit) :
    t.compare op live threshold = Comparison.number op live threshold := by
  obtain rfl | rfl := ht
  · exact compare_eq_family (fun h => nomatch h.1) (fun h => nomatch h.1)
  · exact compare_eq_family (fun h => nomatch h.1) (fun h => nomatch h.1)

theorem compare_of_finite (ht : t = .number ∨ t = .numberWithUnit)
    (hx : live.finite? = some x) (hy : threshold.finite? = some y) :
    (t.compare · live threshold) =
      Operator.answer (x.agrees y) (Ord.compare x.amount y.amount) := by
  funext op
  rw [compare_number ht, Comparison.number, hx, hy]
  rfl

/-- The operators on an order fit together for two numbers exactly where these are not blurred. -/
theorem consistent_iff_not_blurs (ht : t = .number ∨ t = .numberWithUnit)
    (hx : live.finite? = some x) (hy : threshold.finite? = some y) :
    (Operator.Consistent (t.compare · live threshold) ↔ ¬x.Blurs y) ∧
    (x.Blurs y → Operator.Blurred (t.compare · live threshold)) ∧
    (0 < Binary64.apart x y → Binary64.apart x y * 2 ^ 52 ≤ max x.units y.units → x.Blurs y) ∧
    (x.Blurs y → 2 * (Binary64.apart x y * 2 ^ 52) ≤ 2 * max x.units y.units + 2 ^ 52) ∧
    (∀ m n : Int, live = .number (.integer m) → threshold = .number (.integer n) →
      m.natAbs < 2 ^ 52 → n.natAbs < 2 ^ 52 → ¬x.Blurs y) := by
  rw [compare_of_finite ht hx hy]
  have hblurred (h : x.Blurs y) :
      Operator.Blurred (Operator.answer (x.agrees y) (Ord.compare x.amount y.amount)) := by
    obtain ⟨hagree, hne⟩ := Binary64.blurs_iff_compare.mp h
    rw [hagree]
    exact Operator.blurred_answer hne
  refine ⟨⟨?_, ?_⟩, hblurred, Binary64.Blurs.of_close, Binary64.Blurs.close, ?_⟩
  · intro hc h
    exact (hblurred h).not_consistent hc
  · intro h
    exact Operator.consistent_answer (Binary64.agrees_eq_of_not_blurs h)
  · rintro m n rfl rfl hm hn
    exact Binary64.not_blurs_of_ofInt? hm hn hx hy

/-- Two neighbours above 2^52, one of them written as a text. -/
theorem consistent_iff_not_blurs_of_neighbours :
    ∃ x y, (Value.number (.integer 4503599627370496)).finite? = some x ∧
      (Value.text "4503599627370497").finite? = some y ∧ x.Blurs y ∧
      Operator.Blurred (numberWithUnit.compare · (.number (.integer 4503599627370496))
        (.text "4503599627370497")) := by
  let x := (Value.number (.integer 4503599627370496)).finite?.get (by decide +kernel)
  let y := (Value.text "4503599627370497").finite?.get (by decide +kernel)
  have hx : (Value.number (.integer 4503599627370496)).finite? = some x := (Option.some_get _).symm
  have hy : (Value.text "4503599627370497").finite? = some y := (Option.some_get _).symm
  have hblurs : x.Blurs y := by decide +kernel
  exact ⟨x, y, hx, hy, hblurs, (consistent_iff_not_blurs (.inr rfl) hx hy).2.1 hblurs⟩

/-- Of two neighbours above 2^52 the first compares equal to the second and less than it. -/
theorem not_consistent_of_neighbours :
    (Value.number (.integer 4503599627370496)).finite?.isSome = true ∧
    (Value.number (.integer 4503599627370497)).finite?.isSome = true ∧
    ¬Operator.Consistent (number.compare · (.number (.integer 4503599627370496))
      (.number (.integer 4503599627370497))) := by
  refine ⟨by decide +kernel, by decide +kernel, fun h => ?_⟩
  have hcount : [Operator.greater, .equal, .less].countP
      (number.compare · (.number (.integer 4503599627370496))
        (.number (.integer 4503599627370497))) = 2 := by decide +kernel
  rw [h.one] at hcount
  cases hcount

end ValueType
end Criteria
