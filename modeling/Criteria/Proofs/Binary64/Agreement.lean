import Criteria.Binary64
import Mathlib.Algebra.Group.Nat.Defs
import Mathlib.Data.Nat.Log
/-!
# Agreement of numbers

Two numbers agree when their difference is within a tolerance, and both of these are rounded. The
rounding of the difference never matters: where it is small enough to be within the tolerance, it is a
number of the format itself. The tolerance is 2^-52 of the larger magnitude, up to half a unit.
-/
namespace Criteria

private theorem roundDiv_mul (n : Nat) {den : Nat} (h : 0 < den) : roundDiv (n * den) den = n := by
  rw [roundDiv, Nat.mul_div_cancel n h, Nat.mul_mod_left]
  exact if_pos (by omega)

private theorem roundDiv_error (num : Nat) {den : Nat} (h : 0 < den) :
    2 * (roundDiv num den * den) ≤ 2 * num + den ∧
      2 * num ≤ 2 * (roundDiv num den * den) + den := by
  have hnum : num / den * den + num % den = num := Nat.div_add_mod' num den
  have hrest : num % den < den := Nat.mod_lt num h
  rw [roundDiv]
  split
  · omega
  · split
    · rw [Nat.add_mul]
      omega
    · rw [Nat.add_mul]
      rcases Nat.mod_two_eq_zero_or_one (num / den) with heven | hodd
      · rw [heven]
        omega
      · rw [hodd]
        omega

private theorem log2_mono {m n : Nat} (h : m ≤ n) : m.log2 ≤ n.log2 := by
  rw [Nat.log2_eq_log_two, Nat.log2_eq_log_two]
  exact Nat.log_mono_right h

namespace Binary64

/-! ### The grid -/

private theorem gap_pos (units : Nat) : 0 < gap units :=
  Nat.pow_pos Nat.two_pos

private theorem gap_dvd_gap {m n : Nat} (h : m ≤ n) : gap m ∣ gap n :=
  Nat.pow_dvd_pow 2 (Nat.sub_le_sub_right (log2_mono h) 52)

private theorem gap_le {units : Nat} (h : 0 < units) : gap units ≤ units :=
  calc gap units ≤ 2 ^ units.log2 := Nat.pow_le_pow_right Nat.two_pos (Nat.sub_le _ _)
    _ ≤ units := Nat.log2_self_le (Nat.ne_of_gt h)

theorem representable_iff {units : Nat} :
    representable units = true ↔ gap units ∣ units ∧ units.log2 < 2098 := by
  rw [representable, Bool.and_eq_true, beq_iff_eq, decide_eq_true_eq, Nat.dvd_iff_mod_eq_zero]

private theorem gap_dvd_units (x : Binary64) : gap x.units ∣ x.units :=
  (representable_iff.mp x.units_representable).1

private theorem roundUnits_one (units : Nat) :
    roundUnits units 1 = roundDiv units (gap units) * gap units := by
  rw [roundUnits, Nat.div_one, Nat.one_mul]

private theorem roundUnits_one_of_dvd {units : Nat} (h : gap units ∣ units) :
    roundUnits units 1 = units := by
  obtain ⟨n, hn⟩ := h
  have hdiv : roundDiv units (gap units) = n := by
    have hmul := roundDiv_mul n (gap_pos units)
    rwa [Nat.mul_comm, ← hn] at hmul
  rw [roundUnits_one, hdiv, Nat.mul_comm, ← hn]

private theorem le_two_mul_roundUnits_one {units : Nat} (h : 0 < units) :
    units ≤ 2 * roundUnits units 1 := by
  have herror := (roundDiv_error units (gap_pos units)).2
  have hgap := gap_le h
  rw [roundUnits_one]
  omega

/-- A number of the format over 2^52 is off by half a unit at most: above the smallest numbers it is
a number of the format again. -/
private theorem roundUnits_pow {units : Nat} (h : gap units ∣ units) :
    2 * (roundUnits units (2 ^ 52) * 2 ^ 52) ≤ 2 * units + 2 ^ 52 ∧
      2 * units ≤ 2 * (roundUnits units (2 ^ 52) * 2 ^ 52) + 2 ^ 52 := by
  have hlog : (units / 2 ^ 52).log2 = units.log2 - 52 := by
    rw [Nat.log2_eq_log_two, Nat.log2_eq_log_two, Nat.log_div_base_pow]
  by_cases hsmall : units.log2 - 52 ≤ 52
  · have hstep : gap (units / 2 ^ 52) = 1 := by
      rw [gap, hlog, Nat.sub_eq_zero_of_le hsmall]
    rw [roundUnits, hstep, Nat.mul_one, Nat.mul_one]
    exact roundDiv_error units (by decide)
  · have hstep : 2 ^ 52 * gap (units / 2 ^ 52) = gap units := by
      have hexponent : 52 + (units.log2 - 52 - 52) = units.log2 - 52 := by omega
      rw [gap, gap, hlog, Nat.pow_eq, Nat.pow_eq, ← Nat.pow_add, hexponent]
    obtain ⟨n, hn⟩ := h
    have hdiv : roundDiv units (2 ^ 52 * gap (units / 2 ^ 52)) = n := by
      have hmul := roundDiv_mul n (gap_pos units)
      rwa [Nat.mul_comm, ← hn, ← hstep] at hmul
    have hexact : roundUnits units (2 ^ 52) * 2 ^ 52 = units := by
      rw [roundUnits, hdiv, Nat.mul_assoc, Nat.mul_comm _ (2 ^ 52), hstep, Nat.mul_comm, ← hn]
    omega

/-! ### Differences -/

/-- The exact distance of two numbers in units. -/
def apart (x y : Binary64) : Nat :=
  (x.amount - y.amount).natAbs

/-- The rounded distance up to which two numbers agree. -/
def tolerance (x y : Binary64) : Nat :=
  roundUnits (max x.units y.units) (2 ^ 52)

theorem natAbs_amount (x : Binary64) : x.amount.natAbs = x.units := by
  rw [amount]
  split
  · rw [Int.natAbs_neg, Int.natAbs_natCast]
  · rw [Int.natAbs_natCast]

variable (x y : Binary64)

private theorem gap_dvd_max : gap (max x.units y.units) ∣ max x.units y.units := by
  rcases Nat.le_total x.units y.units with h | h
  · rw [Nat.max_eq_right h]
    exact y.gap_dvd_units
  · rw [Nat.max_eq_left h]
    exact x.gap_dvd_units

private theorem gap_min_dvd_apart : gap (min x.units y.units) ∣ apart x y := by
  have hdvd : ∀ z : Binary64, min x.units y.units ≤ z.units →
      ((gap (min x.units y.units) : Nat) : Int) ∣ z.amount := by
    intro z hz
    rw [← Int.dvd_natAbs, natAbs_amount, Int.natCast_dvd_natCast]
    exact Nat.dvd_trans (gap_dvd_gap hz) z.gap_dvd_units
  rw [apart, ← Int.natCast_dvd_natCast, Int.dvd_natAbs]
  exact Int.dvd_sub (hdvd x (Nat.min_le_left _ _)) (hdvd y (Nat.min_le_right _ _))

/-- A difference of at most half the larger magnitude is a number of the format. -/
private theorem representable_apart (h : 2 * apart x y ≤ max x.units y.units) :
    representable (apart x y) = true := by
  have hx := natAbs_amount x
  have hy := natAbs_amount y
  have hmin : apart x y ≤ min x.units y.units := by
    rw [apart] at h ⊢
    omega
  refine representable_iff.mpr ⟨?_, ?_⟩
  · exact Nat.dvd_trans (gap_dvd_gap hmin) (gap_min_dvd_apart x y)
  · have hrange : x.units.log2 < 2098 := (representable_iff.mp x.units_representable).2
    exact Nat.lt_of_le_of_lt (log2_mono (Nat.le_trans hmin (Nat.min_le_left _ _))) hrange

/-- The tolerance is 2^-52 of the larger magnitude, up to half a unit. -/
theorem tolerance_bounds :
    2 * (tolerance x y * 2 ^ 52) ≤ 2 * max x.units y.units + 2 ^ 52 ∧
      2 * max x.units y.units ≤ 2 * (tolerance x y * 2 ^ 52) + 2 ^ 52 :=
  roundUnits_pow (gap_dvd_max x y)

private theorem agrees_eq_true : x.agrees y = true ↔ apart x y = 0 ∨
    representable (roundUnits (apart x y) 1) = true ∧ roundUnits (apart x y) 1 ≤ tolerance x y := by
  have hequal : (x.amount == y.amount) = true ↔ apart x y = 0 := by
    rw [beq_iff_eq, apart, Int.natAbs_eq_zero, Int.sub_eq_zero]
  rw [agrees, Bool.or_eq_true, hequal, distance?, ← apart]
  cases representable (roundUnits (apart x y) 1) with
  | false => simp
  | true => simp [tolerance]

/-- Numbers agree when their exact distance is within the tolerance. -/
theorem agrees_iff : x.agrees y = true ↔ apart x y ≤ tolerance x y := by
  have hbounds := tolerance_bounds x y
  rw [agrees_eq_true]
  by_cases h : 2 * apart x y ≤ max x.units y.units
  · have hrep := representable_apart x y h
    rw [roundUnits_one_of_dvd (representable_iff.mp hrep).1, and_iff_right hrep]
    omega
  -- a larger difference is beyond the tolerance, and so is half of it
  · have hround : apart x y ≤ 2 * roundUnits (apart x y) 1 := le_two_mul_roundUnits_one (by omega)
    omega

/-- Different numbers that agree. -/
def Blurs : Prop :=
  0 < apart x y ∧ apart x y ≤ tolerance x y

instance : Decidable (x.Blurs y) :=
  inferInstanceAs (Decidable (_ ∧ _))

variable {x y}

theorem blurs_iff : x.Blurs y ↔ x.amount ≠ y.amount ∧ x.agrees y = true := by
  have hne : 0 < apart x y ↔ x.amount ≠ y.amount := by
    rw [apart]
    omega
  rw [Blurs, agrees_iff, hne]

theorem Blurs.of_close (hne : 0 < apart x y)
    (h : apart x y * 2 ^ 52 ≤ max x.units y.units) : x.Blurs y := by
  have hbounds := tolerance_bounds x y
  exact ⟨hne, by omega⟩

theorem Blurs.close (h : x.Blurs y) :
    2 * (apart x y * 2 ^ 52) ≤ 2 * max x.units y.units + 2 ^ 52 := by
  have hbounds := tolerance_bounds x y
  have hle := h.2
  omega

/-! ### Integers -/

theorem exists_unit_eq_pow : ∃ k, 52 ≤ k ∧ unit = 2 ^ k := by
  have hk : 52 ≤ 1074 := by decide
  unfold unit
  generalize 1074 = k at hk
  exact ⟨k, hk, rfl⟩

private theorem gap_dvd_mul_unit {n : Nat} (h : n < 2 ^ 53) : gap (n * unit) ∣ n * unit := by
  obtain ⟨k, -, hk⟩ := exists_unit_eq_pow
  rw [hk]
  rcases Nat.eq_zero_or_pos n with rfl | hpos
  · rw [Nat.zero_mul]
    exact Nat.dvd_zero _
  · have hlog : (n * 2 ^ k).log2 < 53 + k := by
      rw [Nat.log2_lt (Nat.ne_of_gt (Nat.mul_pos hpos (Nat.two_pow_pos k))), Nat.pow_add]
      exact Nat.mul_lt_mul_of_pos_right h (Nat.two_pow_pos k)
    have hexponent : (n * 2 ^ k).log2 - 52 ≤ k := by omega
    exact Nat.dvd_mul_left_of_dvd (Nat.pow_dvd_pow 2 hexponent) n

theorem amount_of_ofInt? {n : Int} (h : n.natAbs < 2 ^ 53) (hx : ofInt? n = some x) :
    x.amount = n * unit := by
  rw [ofInt?, ofQuotient?, roundUnits_one_of_dvd (gap_dvd_mul_unit h), ofUnits?] at hx
  split at hx
  · cases hx
    rw [amount]
    dsimp only
    rw [Int.natCast_mul]
    rcases Int.lt_or_le n 0 with hneg | hnonneg
    · rw [decide_eq_true hneg, if_pos rfl, ← Int.neg_mul, Int.ofNat_natAbs_of_nonpos (by omega),
        Int.neg_neg]
    · rw [decide_eq_false (by omega), if_neg (by decide), Int.natAbs_of_nonneg hnonneg]
  · cases hx

end Binary64
end Criteria
