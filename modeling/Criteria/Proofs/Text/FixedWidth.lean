import Criteria.Proofs.Text.Numeral
import Mathlib.Algebra.Group.Nat.Defs
import Mathlib.Data.List.Induction
/-!
# Numerals of a fixed width

A number written with zeros in front up to a width. Main statements: every list of digits is the
numeral of its number in its own width, and texts that begin with numerals of one width stand in the
order of the numbers, and of what follows them where the numbers are equal.
-/
namespace Criteria.Text

/-- The last `width` digits of a number, with zeros in front where it has fewer. -/
def padded : (width : Nat) → Nat → List Char
  | 0, _ => []
  | width + 1, n => padded width (n / 10) ++ [Nat.digitChar (n % 10)]

variable {width m n : Nat} {cs : List Char}

@[simp] theorem length_padded (width n : Nat) : (padded width n).length = width := by
  induction width generalizing n with
  | zero => rfl
  | succ width ih => rw [padded, List.length_append, ih, List.length_singleton]

theorem padded_ne_nil (h : 0 < width) (n : Nat) : padded width n ≠ [] := by
  rw [← List.length_pos_iff, length_padded]
  exact h

@[simp] theorem take_padded_append (width n : Nat) (rest : List Char) :
    (padded width n ++ rest).take width = padded width n :=
  List.take_left' (length_padded width n)

@[simp] theorem drop_padded_append (width n : Nat) (rest : List Char) :
    (padded width n ++ rest).drop width = rest :=
  List.drop_left' (length_padded width n)

theorem isDigit_of_mem_padded : ∀ c ∈ padded width n, c.isDigit = true := by
  induction width generalizing n with
  | zero => intro c hc; cases hc
  | succ width ih =>
    intro c hc
    rcases List.mem_append.mp hc with hc | hc
    · exact ih c hc
    · rw [List.mem_singleton.mp hc, Nat.isDigit_digitChar, decide_eq_true_iff]
      exact Nat.mod_lt n (by decide)

private theorem digitsValue_concat (cs : List Char) (c : Char) :
    digitsValue (cs ++ [c]) = digitsValue cs * 10 + (c.toNat - 48) := by
  rw [digitsValue, List.foldl_append]
  rfl

theorem digitsValue_padded (h : n < 10 ^ width) : digitsValue (padded width n) = n := by
  induction width generalizing n with
  | zero =>
    rw [Nat.pow_zero, Nat.lt_one_iff] at h
    exact h.symm
  | succ width ih =>
    have hfront : n / 10 < 10 ^ width := by
      rw [Nat.pow_succ] at h
      omega
    rw [padded, digitsValue_concat, ih hfront,
      Nat.toNat_digitChar_sub_48_of_lt_ten (Nat.mod_lt n (by decide)), Nat.div_add_mod']

theorem padded_digitsValue (h : ∀ c ∈ cs, c.isDigit = true) :
    padded cs.length (digitsValue cs) = cs ∧ digitsValue cs < 10 ^ cs.length := by
  induction cs using List.reverseRecOn with
  | nil => exact ⟨rfl, Nat.one_pos⟩
  | append_singleton cs c ih =>
    obtain ⟨hcs, hlt⟩ := ih fun d hd => h d (List.mem_append_left _ hd)
    obtain ⟨hten, hchar⟩ := digitChar_of_isDigit (h c (by simp))
    have hdiv : (digitsValue cs * 10 + (c.toNat - 48)) / 10 = digitsValue cs := by omega
    have hmod : (digitsValue cs * 10 + (c.toNat - 48)) % 10 = c.toNat - 48 := by omega
    rw [digitsValue_concat, List.length_append, List.length_singleton, padded, hdiv, hmod, hcs,
      hchar, Nat.pow_succ]
    exact ⟨rfl, by omega⟩

/-! ### Bytes and their order -/

def bytes (s : String) : List UInt8 :=
  s.toUTF8.data.toList

def encoded (cs : List Char) : List UInt8 :=
  cs.flatMap String.utf8EncodeChar

theorem bytes_ofList (cs : List Char) : bytes (String.ofList cs) = encoded cs := by
  rw [bytes, encoded, String.toUTF8, String.toByteArray_ofList, List.utf8Encode,
    List.data_toByteArray, List.toList_toArray]

private theorem encoded_append (front back : List Char) :
    encoded (front ++ back) = encoded front ++ encoded back :=
  List.flatMap_append

private theorem encoded_digitChar {d : Nat} (h : d < 10) :
    encoded [Nat.digitChar d] = [UInt8.ofNat (48 + d)] := by
  decide +revert

private theorem length_encoded_padded (width n : Nat) :
    (encoded (padded width n)).length = width := by
  induction width generalizing n with
  | zero => rfl
  | succ width ih =>
    rw [padded, encoded_append, encoded_digitChar (Nat.mod_lt n (by decide)), List.length_append,
      ih, List.length_singleton]

theorem append_lt_append_iff {xs ys : List UInt8} (h : xs.length = ys.length)
    (xs' ys' : List UInt8) : xs ++ xs' < ys ++ ys' ↔ xs < ys ∨ xs = ys ∧ xs' < ys' := by
  induction xs generalizing ys with
  | nil =>
    rw [List.length_nil, eq_comm, List.length_eq_zero_iff] at h
    subst h
    simp
  | cons x xs ih =>
    obtain ⟨y, ys, rfl⟩ := List.exists_cons_of_length_eq_add_one h.symm
    rw [List.cons_append, List.cons_append, List.cons_lt_cons_iff, List.cons_lt_cons_iff,
      ih (Nat.succ.inj h), List.cons.injEq]
    tauto

private theorem ofNat_lt_ofNat_iff {d e : Nat} (hd : d < 10) (he : e < 10) :
    UInt8.ofNat (48 + d) < UInt8.ofNat (48 + e) ↔ d < e := by
  rw [UInt8.lt_iff_toNat_lt, UInt8.toNat_ofNat', UInt8.toNat_ofNat']
  omega

private theorem encoded_inj {cs ds : List Char} : encoded cs = encoded ds ↔ cs = ds := by
  constructor
  · intro h
    rw [← bytes_ofList, ← bytes_ofList, bytes, bytes, Array.toList_inj, ← ByteArray.ext_iff,
      String.toUTF8, String.toUTF8, String.toByteArray_inj, String.ofList_inj] at h
    exact h
  · exact congrArg encoded

private theorem padded_inj (hm : m < 10 ^ width) (hn : n < 10 ^ width) :
    padded width m = padded width n ↔ m = n := by
  constructor
  · intro h
    rw [← digitsValue_padded hm, h, digitsValue_padded hn]
  · exact congrArg (padded width)

/-- Of two texts that begin with numerals of one width, the numerals decide unless they are the
same. -/
theorem encoded_padded_append_lt_iff (width m n : Nat) (xs ys : List UInt8) :
    encoded (padded width m) ++ xs < encoded (padded width n) ++ ys ↔
      encoded (padded width m) < encoded (padded width n) ∨
        padded width m = padded width n ∧ xs < ys := by
  have hlength : (encoded (padded width m)).length = (encoded (padded width n)).length := by
    rw [length_encoded_padded, length_encoded_padded]
  rw [append_lt_append_iff hlength, encoded_inj]

theorem encoded_padded_lt_iff (hm : m < 10 ^ width) (hn : n < 10 ^ width) :
    encoded (padded width m) < encoded (padded width n) ↔ m < n := by
  induction width generalizing m n with
  | zero =>
    rw [Nat.pow_zero, Nat.lt_one_iff] at hm hn
    subst hm hn
    simp [padded, encoded]
  | succ width ih =>
    rw [Nat.pow_succ] at hm hn
    have hfrontm : m / 10 < 10 ^ width := by omega
    have hfrontn : n / 10 < 10 ^ width := by omega
    have hlastm := Nat.mod_lt m (y := 10) (by decide)
    have hlastn := Nat.mod_lt n (y := 10) (by decide)
    rw [padded, padded, encoded_append, encoded_append, encoded_padded_append_lt_iff,
      ih hfrontm hfrontn, padded_inj hfrontm hfrontn, encoded_digitChar hlastm,
      encoded_digitChar hlastn, List.cons_lt_cons_iff, ofNat_lt_ofNat_iff hlastm hlastn]
    simp only [List.not_lt_nil, and_false, or_false]
    omega

theorem encoded_padded_cons_lt_iff (hm : m < 10 ^ width) (hn : n < 10 ^ width) (mark : Char)
    (cs ds : List Char) :
    encoded (padded width m ++ mark :: cs) < encoded (padded width n ++ mark :: ds) ↔
      m < n ∨ m = n ∧ encoded cs < encoded ds := by
  have hcons (cs : List Char) : encoded (mark :: cs) = encoded [mark] ++ encoded cs :=
    encoded_append [mark] cs
  rw [encoded_append, encoded_append, encoded_padded_append_lt_iff, encoded_padded_lt_iff hm hn,
    padded_inj hm hn, hcons cs, hcons ds, append_lt_append_iff rfl]
  simp only [List.lt_irrefl, false_or, true_and]

end Criteria.Text
