import Criteria.Text.Digits
import Mathlib.Data.List.Basic
import Mathlib.Data.List.Induction
/-!
# Numerals

A numeral of a number has the digits of the number, perhaps with zeros in front. Main statements: the
readers of decimal and of hexadecimal digits accept exactly the numerals in their base, a hexadecimal
one in letters of either case, and find the number that they denote.
-/
namespace Criteria.Text

/-- The digits of a number in a base, perhaps with zeros in front. -/
def Denotes (base : Nat) (cs : List Char) (n : Nat) : Prop :=
  ∃ zeros, cs = List.replicate zeros '0' ++ Nat.toDigits base n

/-- The number that a list of digits comes to, the highest digit first. -/
def placeValue (base : Nat) (ds : List Nat) : Nat :=
  ds.foldl (fun n d => n * base + d) 0

variable {base n : Nat} {cs : List Char} {ds : List Nat}

theorem placeValue_concat (base : Nat) (ds : List Nat) (d : Nat) :
    placeValue base (ds ++ [d]) = placeValue base ds * base + d := by
  rw [placeValue, List.foldl_append]
  rfl

private theorem placeValue_zeros_append (base zeros : Nat) (ds : List Nat) :
    placeValue base (List.replicate zeros 0 ++ ds) = placeValue base ds := by
  have hzeros : placeValue base (List.replicate zeros 0) = 0 := by
    induction zeros with
    | zero => rfl
    | succ zeros ih => rw [List.replicate_succ', placeValue_concat, ih, Nat.zero_mul]
  rw [placeValue, List.foldl_append]
  exact congrArg (ds.foldl _) hzeros

/-! ### Digits and their number -/

private theorem exists_toDigits_eq_map (hbase : 1 < base) (n : Nat) :
    ∃ ds, ds ≠ [] ∧ (∀ d ∈ ds, d < base) ∧ Nat.toDigits base n = ds.map Nat.digitChar ∧
      placeValue base ds = n := by
  induction n using Nat.strongRecOn with
  | ind n ih =>
    rw [Nat.toDigits_eq_if hbase]
    split
    · next hn =>
      exact ⟨[n], by simp, by simpa using hn, rfl, by simp [placeValue]⟩
    · next hn =>
      obtain ⟨ds, hne, hlt, htext, hvalue⟩ := ih (n / base) (Nat.div_lt_self (by omega) hbase)
      refine ⟨ds ++ [n % base], by simp, ?_, by simp [htext], ?_⟩
      · intro d hd
        rcases List.mem_append.mp hd with hd | hd
        · exact hlt d hd
        · rw [List.mem_singleton.mp hd]
          exact Nat.mod_lt _ (by omega)
      · rw [placeValue_concat, hvalue, Nat.div_add_mod']

private theorem denotes_placeValue (hbase : 1 < base) (hne : ds ≠ []) (hlt : ∀ d ∈ ds, d < base) :
    Denotes base (ds.map Nat.digitChar) (placeValue base ds) := by
  induction ds using List.reverseRecOn with
  | nil => exact absurd rfl hne
  | append_singleton ds d ih =>
    have hd : d < base := hlt d (by simp)
    rw [placeValue_concat, List.map_append, List.map_singleton]
    by_cases hds : ds = []
    · subst hds
      exact ⟨0, by simp [placeValue, Nat.toDigits_of_lt_base hd]⟩
    · obtain ⟨zeros, hzeros⟩ := ih hds fun e he => hlt e (List.mem_append_left _ he)
      by_cases hvalue : placeValue base ds = 0
      -- all digits so far are zeros, of which the number shows none
      · refine ⟨zeros + 1, ?_⟩
        rw [hzeros, hvalue, Nat.zero_mul, Nat.zero_add, Nat.toDigits_zero,
          Nat.toDigits_of_lt_base hd, ← List.replicate_succ']
      · refine ⟨zeros, ?_⟩
        rw [hzeros, List.append_assoc, ← Nat.toDigits_of_lt_base hd,
          Nat.toDigits_append_toDigits hbase (Nat.pos_of_ne_zero hvalue) hd, Nat.mul_comm]

theorem denotes_iff (hbase : 1 < base) :
    Denotes base cs n ↔ ∃ ds, ds ≠ [] ∧ (∀ d ∈ ds, d < base) ∧ cs = ds.map Nat.digitChar ∧
      placeValue base ds = n := by
  constructor
  · intro h
    obtain ⟨zeros, rfl⟩ := h
    obtain ⟨ds, hne, hlt, htext, hvalue⟩ := exists_toDigits_eq_map hbase n
    refine ⟨List.replicate zeros 0 ++ ds, by simp [hne], ?_, ?_, ?_⟩
    · intro d hd
      rcases List.mem_append.mp hd with hd | hd
      · rw [List.eq_of_mem_replicate hd]
        omega
      · exact hlt d hd
    · rw [htext, List.map_append, List.map_replicate]
      rfl
    · rw [placeValue_zeros_append, hvalue]
  · intro h
    obtain ⟨ds, hne, hlt, rfl, rfl⟩ := h
    exact denotes_placeValue hbase hne hlt

/-! ### Decimal digits -/

theorem digitChar_of_isDigit {c : Char} (h : c.isDigit = true) :
    c.toNat - 48 < 10 ∧ Nat.digitChar (c.toNat - 48) = c := by
  have hr : 48 ≤ c.toNat ∧ c.toNat ≤ 57 := Char.isDigit_iff_toNat.mp h
  have hlt : c.toNat - 48 < 10 := by omega
  refine ⟨hlt, Char.toNat_inj.mp ?_⟩
  rw [Nat.toNat_digitChar_of_lt_ten hlt]
  omega

private theorem digitsValue_map_digitChar (h : ∀ d ∈ ds, d < 10) :
    digitsValue (ds.map Nat.digitChar) = placeValue 10 ds := by
  rw [digitsValue, placeValue, List.foldl_map]
  refine List.foldl_ext _ _ 0 fun n d hd => ?_
  have hvalue : (Nat.digitChar d).toNat - 48 = d := Nat.toNat_digitChar_sub_48_of_lt_ten (h d hd)
  exact congrArg (n * 10 + ·) hvalue

private theorem exists_map_digitChar (h : ∀ c ∈ cs, c.isDigit = true) :
    ∃ ds : List Nat, (∀ d ∈ ds, d < 10) ∧ cs = ds.map Nat.digitChar := by
  refine ⟨cs.map fun c => c.toNat - 48, ?_, ?_⟩
  · intro d hd
    obtain ⟨c, hc, rfl⟩ := List.mem_map.mp hd
    exact (digitChar_of_isDigit (h c hc)).1
  · rw [List.map_map]
    conv_lhs => rw [← List.map_id cs]
    exact List.map_congr_left fun c hc => (digitChar_of_isDigit (h c hc)).2.symm

theorem denotes_ten_iff :
    Denotes 10 cs n ↔ cs ≠ [] ∧ (∀ c ∈ cs, c.isDigit = true) ∧ digitsValue cs = n := by
  rw [denotes_iff (by decide)]
  constructor
  · intro h
    obtain ⟨ds, hne, hlt, rfl, rfl⟩ := h
    refine ⟨by simpa using hne, ?_, digitsValue_map_digitChar hlt⟩
    intro c hc
    obtain ⟨d, hd, rfl⟩ := List.mem_map.mp hc
    simpa [Nat.isDigit_digitChar] using hlt d hd
  · intro h
    obtain ⟨hne, hdigit, rfl⟩ := h
    obtain ⟨ds, hlt, rfl⟩ := exists_map_digitChar hdigit
    exact ⟨ds, by simpa using hne, hlt, rfl, (digitsValue_map_digitChar hlt).symm⟩

/-! ### Hexadecimal digits -/

theorem toNat_toLower (c : Char) :
    c.toLower.toNat = if 65 ≤ c.toNat ∧ c.toNat ≤ 90 then c.toNat + 32 else c.toNat := by
  unfold Char.toLower
  split
  · next h =>
    have hr : 65 ≤ c.toNat ∧ c.toNat ≤ 90 := h
    rw [if_pos hr]
    have hv : (c.toNat + 32) % 4294967296 = c.toNat + 32 := Nat.mod_eq_of_lt (by omega)
    exact hv
  · next h =>
    have hr : ¬(65 ≤ c.toNat ∧ c.toNat ≤ 90) := h
    rw [if_neg hr]

private theorem toNat_digitChar {d : Nat} (h : d < 16) :
    (Nat.digitChar d).toNat = if d < 10 then 48 + d else 87 + d := by
  decide +revert

private theorem hexDigit?_eq_some {c : Char} {d : Nat} :
    hexDigit? c = some d ↔ d < 16 ∧ c.toLower = Nat.digitChar d := by
  rw [← Char.toNat_inj, toNat_toLower]
  have hdigit : c.isDigit = true ↔ 48 ≤ c.toNat ∧ c.toNat ≤ 57 := Char.isDigit_iff_toNat
  have hlower : ('a' ≤ c ∧ c ≤ 'f') ↔ 97 ≤ c.toNat ∧ c.toNat ≤ 102 := Iff.rfl
  have hupper : ('A' ≤ c ∧ c ≤ 'F') ↔ 65 ≤ c.toNat ∧ c.toNat ≤ 70 := Iff.rfl
  have hvalue : hexDigit? c = if 48 ≤ c.toNat ∧ c.toNat ≤ 57 then some (c.toNat - 48)
      else if 97 ≤ c.toNat ∧ c.toNat ≤ 102 then some (c.toNat - 97 + 10)
      else if 65 ≤ c.toNat ∧ c.toNat ≤ 70 then some (c.toNat - 65 + 10)
      else none := by
    simp only [hexDigit?, hdigit, hlower, hupper]
    rfl
  rw [hvalue]
  constructor
  · intro h
    have hd : d < 16 := by grind
    rw [toNat_digitChar hd]
    grind
  · intro h
    obtain ⟨hd, h⟩ := h
    rw [toNat_digitChar hd] at h
    grind

private theorem hexValue?_eq_some : hexValue? cs = some n ↔
    ∃ ds : List Nat, (∀ d ∈ ds, d < 16) ∧ cs.map Char.toLower = ds.map Nat.digitChar ∧
      placeValue 16 ds = n := by
  rw [hexValue?]
  simp only [placeValue]
  generalize 0 = start
  induction cs generalizing start with
  | nil => simp
  | cons c cs ih =>
    rw [List.foldlM_cons, Option.bind_eq_bind, Option.bind_eq_some_iff]
    constructor
    · intro h
      obtain ⟨next, hnext, h⟩ := h
      obtain ⟨d, hd, rfl⟩ := Option.map_eq_some_iff.mp hnext
      obtain ⟨hlt, hchar⟩ := hexDigit?_eq_some.mp hd
      obtain ⟨ds, hds, htext, rfl⟩ := (ih _).mp h
      exact ⟨d :: ds, by simpa [hlt] using hds, by simp [hchar, htext], rfl⟩
    · intro h
      obtain ⟨ds, hds, htext, rfl⟩ := h
      obtain ⟨d, ds, rfl⟩ := List.exists_cons_of_ne_nil (l := ds) (by rintro rfl; cases htext)
      rw [List.forall_mem_cons] at hds
      obtain ⟨hchar, htext⟩ := List.cons.inj htext
      refine ⟨start * 16 + d, ?_, (ih _).mpr ⟨ds, hds.2, htext, rfl⟩⟩
      rw [hexDigit?_eq_some.mpr ⟨hds.1, hchar⟩, Option.map_some]

theorem denotes_sixteen_iff :
    Denotes 16 (cs.map Char.toLower) n ↔ cs ≠ [] ∧ hexValue? cs = some n := by
  rw [denotes_iff (by decide), hexValue?_eq_some]
  constructor
  · intro h
    obtain ⟨ds, hne, hlt, htext, hvalue⟩ := h
    refine ⟨?_, ds, hlt, htext, hvalue⟩
    rintro rfl
    exact hne (List.map_eq_nil_iff.mp htext.symm)
  · intro h
    obtain ⟨hne, ds, hlt, htext, hvalue⟩ := h
    refine ⟨ds, ?_, hlt, htext, hvalue⟩
    rintro rfl
    exact hne (List.map_eq_nil_iff.mp htext)

end Criteria.Text
