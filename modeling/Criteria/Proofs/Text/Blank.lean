import Criteria.Proofs.Text.Numeral
import Criteria.Text.Blank
import Mathlib.Data.List.DropRight
import Mathlib.Data.List.TakeWhile
/-!
# Blanks around a text, and the case of its letters

Main statements: blanks that are set around a text are stripped with those that it has, a text whose
ends are not blank is left as it is, and what is stripped does not depend on the case of letters.
-/
namespace Criteria.Text

variable {c : Char} {cs front back : List Char}

theorem isBlank_of_isDigit (h : c.isDigit = true) : isBlank c = false := by
  have hr : 48 ≤ c.toNat ∧ c.toNat ≤ 57 := Char.isDigit_iff_toNat.mp h
  exact isBlank_of_visible (by omega)

/-! ### Stripping -/

theorem stripBlanks_eq (cs : List Char) :
    stripBlanks cs = (cs.dropWhile isBlank).rdropWhile isBlank :=
  rfl

private theorem rdropWhile_append_of_blank (h : ∀ c ∈ back, isBlank c = true) :
    (cs ++ back).rdropWhile isBlank = cs.rdropWhile isBlank := by
  have hr : ∀ c ∈ back.reverse, isBlank c = true := fun c hc => h c (List.mem_reverse.mp hc)
  rw [List.rdropWhile, List.reverse_append, List.dropWhile_append_of_pos hr, List.rdropWhile]

theorem rdropWhile_append_cons (hc : isBlank c = false) (front back : List Char) :
    (front ++ c :: back).rdropWhile isBlank = front ++ c :: back.rdropWhile isBlank := by
  have hcons : (c :: front.reverse).dropWhile isBlank = c :: front.reverse :=
    List.dropWhile_cons_of_neg (by simp [hc])
  rw [List.rdropWhile, List.rdropWhile, List.reverse_append, List.reverse_cons, List.append_assoc,
    List.singleton_append, List.dropWhile_append, hcons]
  split
  · next he => simp [List.isEmpty_iff.mp he]
  · simp

private theorem dropWhile_append_cons (hc : isBlank c = false) (front back : List Char) :
    (front ++ c :: back).dropWhile isBlank = front.dropWhile isBlank ++ c :: back := by
  have hcons : (c :: back).dropWhile isBlank = c :: back :=
    List.dropWhile_cons_of_neg (by simp [hc])
  rw [List.dropWhile_append, hcons]
  split
  · next he => rw [List.isEmpty_iff.mp he, List.nil_append]
  · rfl

theorem stripBlanks_append_cons (hc : isBlank c = false) (front back : List Char) :
    stripBlanks (front ++ c :: back) =
      front.dropWhile isBlank ++ c :: back.rdropWhile isBlank := by
  rw [stripBlanks_eq, dropWhile_append_cons hc, rdropWhile_append_cons hc]

theorem stripBlanks_surround (hf : ∀ c ∈ front, isBlank c = true)
    (hb : ∀ c ∈ back, isBlank c = true) : stripBlanks (front ++ cs ++ back) = stripBlanks cs := by
  rw [stripBlanks_eq, stripBlanks_eq, List.append_assoc, List.dropWhile_append_of_pos hf,
    List.dropWhile_append]
  split
  · next he =>
    have hback : back.dropWhile isBlank = [] := List.dropWhile_eq_nil_iff.mpr hb
    rw [hback, List.isEmpty_iff.mp he]
  · exact rdropWhile_append_of_blank hb

theorem stripBlanks_subset (cs : List Char) : stripBlanks cs ⊆ cs := by
  rw [stripBlanks_eq]
  intro c hc
  exact (List.dropWhile_suffix isBlank).subset ((List.rdropWhile_prefix isBlank _).subset hc)

theorem stripBlanks_of_ends (hhead : ∀ c ∈ cs.head?, isBlank c = false)
    (hlast : ∀ c ∈ cs.getLast?, isBlank c = false) : stripBlanks cs = cs := by
  have hdrop : cs.dropWhile isBlank = cs := by
    cases cs with
    | nil => rfl
    | cons c cs => exact List.dropWhile_cons_of_neg (by simp [hhead c rfl])
  rw [stripBlanks_eq, hdrop, List.rdropWhile_eq_self_iff]
  intro hne
  simp [hlast _ (List.getLast?_eq_getLast_of_ne_nil hne)]

/-! ### Letters of ASCII -/

/-- What holds of the characters of ASCII in lower case holds of all: no other changes. -/
theorem apply_toLower {α : Type} (f : Char → α)
    (h : ∀ n < 128, f (Char.ofNat n).toLower = f (Char.ofNat n)) (c : Char) :
    f c.toLower = f c := by
  by_cases hc : c.toNat < 128
  · have he := h c.toNat hc
    rwa [Char.ofNat_toNat] at he
  · have hsame : c.toLower = c := by
      rw [← Char.toNat_inj, toNat_toLower, if_neg (by omega)]
    rw [hsame]

theorem isBlank_toLower (c : Char) : isBlank c.toLower = isBlank c :=
  apply_toLower isBlank (by decide +kernel) c

private theorem isUpper_iff : c.isUpper = true ↔ 65 ≤ c.toNat ∧ c.toNat ≤ 90 := by
  change decide _ = true ↔ _
  rw [decide_eq_true_iff]
  rfl

private theorem isLower_iff : c.isLower = true ↔ 97 ≤ c.toNat ∧ c.toNat ≤ 122 := by
  change (decide _ && decide _) = true ↔ _
  rw [Bool.and_eq_true, decide_eq_true_iff, decide_eq_true_iff]
  rfl

theorem isUpper_toLower (c : Char) : c.toLower.isUpper = false := by
  rw [Bool.eq_false_iff, Ne, isUpper_iff, toNat_toLower]
  split <;> omega

theorem toLower_of_not_isUpper (h : c.isUpper = false) : c.toLower = c := by
  rw [Bool.eq_false_iff, Ne, isUpper_iff] at h
  rw [← Char.toNat_inj, toNat_toLower, if_neg h]

theorem toLower_eq_iff {d : Char} (hd : d.isAlpha = false) : c.toLower = d ↔ c = d := by
  obtain ⟨hupper, hlower⟩ := Bool.or_eq_false_iff.mp hd
  rw [Bool.eq_false_iff, Ne, isLower_iff] at hlower
  constructor
  · rintro rfl
    rw [toNat_toLower] at hlower
    split at hlower
    · omega
    · next h => rw [← Char.toNat_inj, toNat_toLower, if_neg h]
  · rintro rfl
    exact toLower_of_not_isUpper hupper

private theorem dropWhile_map_toLower (cs : List Char) :
    (cs.map Char.toLower).dropWhile isBlank = (cs.dropWhile isBlank).map Char.toLower := by
  have hcomp : isBlank ∘ Char.toLower = isBlank := funext isBlank_toLower
  rw [List.dropWhile_map, hcomp]

theorem rdropWhile_map_toLower (cs : List Char) :
    (cs.map Char.toLower).rdropWhile isBlank = (cs.rdropWhile isBlank).map Char.toLower := by
  rw [List.rdropWhile, ← List.map_reverse, dropWhile_map_toLower, ← List.map_reverse,
    List.rdropWhile]

theorem stripBlanks_map_toLower (cs : List Char) :
    stripBlanks (cs.map Char.toLower) = (stripBlanks cs).map Char.toLower := by
  rw [stripBlanks_eq, stripBlanks_eq, dropWhile_map_toLower, rdropWhile_map_toLower]

theorem any_isBlank_map_toLower (cs : List Char) :
    (cs.map Char.toLower).any isBlank = cs.any isBlank := by
  have hcomp : isBlank ∘ Char.toLower = isBlank := funext isBlank_toLower
  rw [List.any_map, hcomp]

end Criteria.Text
