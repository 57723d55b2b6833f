import Criteria.EmailPattern
import Criteria.Proofs.Text.Blank
/-!
# Domains as lists of labels

A domain is a list of labels with points between them. No label has a point in it, so the list can be
read off the text, and what stands at the end of a domain behind a point is the end of its list.
-/
namespace Criteria.EmailPattern

open Text

def joined (labels : List (List Char)) : List Char :=
  ['.'].intercalate labels

def PointFree (labels : List (List Char)) : Prop :=
  ∀ l ∈ labels, '.' ∉ l

/-- The labels of a domain: there is one at least, and each has letters, numerals, hyphens or
underscores and nothing else. -/
structure IsLabels (labels : List (List Char)) : Prop where
  ne_nil : labels ≠ []
  label : ∀ l ∈ labels, l ≠ [] ∧ ∀ c ∈ l, isLabelChar c = true

/-- The labels in lower case, as far as their letters are those of ASCII. -/
def lower (labels : List (List Char)) : List (List Char) :=
  labels.map fun l => l.map Char.toLower

variable {labels xs ys : List (List Char)}

/-! ### Labels and their text -/

private theorem splitOn_joined (hne : labels ≠ []) (h : PointFree labels) :
    (joined labels).splitOn '.' = labels :=
  List.splitOn_intercalate '.' h hne

private theorem joined_append (hx : xs ≠ []) (hy : ys ≠ []) :
    joined (xs ++ ys) = joined xs ++ '.' :: joined ys := by
  induction xs with
  | nil => exact absurd rfl hx
  | cons x xs ih =>
    cases xs with
    | nil => simp [joined, List.intercalate_cons_of_ne_nil hy, List.intercalate_singleton]
    | cons x' xs =>
      have hrest := ih (List.cons_ne_nil x' xs)
      rw [joined] at hrest
      simp only [joined, List.cons_append, List.intercalate_cons_cons] at hrest ⊢
      rw [hrest]
      simp

theorem joined_inj (hx : xs ≠ []) (hxs : PointFree xs) (hy : ys ≠ []) (hys : PointFree ys) :
    joined xs = joined ys ↔ xs = ys := by
  constructor
  · intro h
    rw [← splitOn_joined hx hxs, h, splitOn_joined hy hys]
  · exact congrArg joined

private theorem exists_front_iff (hx : xs ≠ []) (hxs : PointFree xs) (hy : ys ≠ [])
    (hys : PointFree ys) :
    (∃ front, joined ys = front ++ '.' :: joined xs) ↔ ∃ zs, zs ≠ [] ∧ ys = zs ++ xs := by
  constructor
  · intro h
    obtain ⟨front, h⟩ := h
    refine ⟨front.splitOn '.', List.splitOn_ne_nil '.' front, ?_⟩
    rw [← splitOn_joined hy hys, h, List.splitOn_append_cons_self, splitOn_joined hx hxs]
  · intro h
    obtain ⟨zs, hz, rfl⟩ := h
    exact ⟨joined zs, joined_append hz hx⟩

/-! ### Domains -/

theorem IsLabels.pointFree (h : IsLabels labels) : PointFree labels := by
  intro l hl hc
  have hpoint := (h.label l hl).2 '.' hc
  exact absurd hpoint (by decide)

theorem IsLabels.at_not_mem (h : IsLabels labels) : '@' ∉ joined labels := by
  rw [joined, mem_intercalate]
  intro hc
  rcases hc with ⟨hc, _⟩ | ⟨l, hl, hc⟩
  · cases hc
  · exact absurd ((h.label l hl).2 '@' hc) (by decide)

theorem IsLabels.exists_cons (h : IsLabels labels) :
    ∃ c rest, joined labels = c :: rest ∧ isLabelChar c = true := by
  obtain ⟨l, rest, rfl⟩ := List.exists_cons_of_ne_nil h.ne_nil
  have hl := h.label l List.mem_cons_self
  obtain ⟨c, cs, rfl⟩ := List.exists_cons_of_ne_nil hl.1
  exact ⟨c, _, List.intercalate_cons_cons_left, hl.2 c List.mem_cons_self⟩

theorem isLabels_iff : IsLabels labels ↔
    labels ≠ [] ∧ (labels.all fun l => !l.isEmpty && l.all isLabelChar) = true := by
  constructor
  · intro h
    exact ⟨h.ne_nil, by simpa using h.label⟩
  · intro h
    exact ⟨h.1, by simpa using h.2⟩

instance : Decidable (IsLabels labels) :=
  decidable_of_iff _ isLabels_iff.symm

theorem isDomain_iff {cs : List Char} :
    isDomain cs = true ↔ ∃ labels, IsLabels labels ∧ cs = joined labels := by
  rw [isDomain, splitOn_eq]
  constructor
  · intro h
    exact ⟨cs.splitOn '.', isLabels_iff.mpr ⟨List.splitOn_ne_nil '.' cs, h⟩,
      (List.intercalate_splitOn '.').symm⟩
  · intro h
    obtain ⟨labels, hl, rfl⟩ := h
    rw [splitOn_joined hl.ne_nil hl.pointFree]
    exact (isLabels_iff.mp hl).2

theorem map_toLower_joined (labels : List (List Char)) :
    (joined labels).map Char.toLower = joined (lower labels) := by
  induction labels with
  | nil => rfl
  | cons l rest ih =>
    cases rest with
    | nil => simp [joined, lower, List.intercalate_singleton]
    | cons m rest =>
      simp only [joined, lower, List.map_cons, List.intercalate_cons_cons, List.map_append] at ih ⊢
      rw [ih]
      rfl

theorem lower_ne_nil (h : labels ≠ []) : lower labels ≠ [] := by
  simpa [lower] using h

theorem PointFree.lower (h : PointFree labels) : PointFree (lower labels) := by
  intro l hl hc
  obtain ⟨m, hm, rfl⟩ := List.mem_map.mp hl
  obtain ⟨c, hcm, hc⟩ := List.mem_map.mp hc
  exact h m hm ((toLower_eq_iff rfl).mp hc ▸ hcm)

theorem readDomain?_eq_some {cs : List Char} {name : String} :
    readDomain? cs = some name ↔
      ∃ labels, IsLabels labels ∧ cs = joined labels ∧
        name = String.ofList (joined (lower labels)) := by
  rw [readDomain?]
  constructor
  · intro h
    split at h
    · next hd =>
      obtain ⟨labels, hl, rfl⟩ := isDomain_iff.mp hd
      cases h
      exact ⟨labels, hl, rfl, by rw [map_toLower_joined]⟩
    · cases h
  · intro h
    obtain ⟨labels, hl, rfl, rfl⟩ := h
    rw [if_pos (isDomain_iff.mpr ⟨labels, hl, rfl⟩), map_toLower_joined]

/-! ### The end of a domain -/

theorem front?_eq_some {cs ending front : List Char} :
    front? cs ending = some front ↔ cs = front ++ ending := by
  rw [front?]
  constructor
  · intro h
    split at h
    · next hs =>
      obtain ⟨before, rfl⟩ := List.isSuffixOf_iff_suffix.mp hs
      rw [Option.some.injEq] at h
      simpa using h
    · cases h
  · intro h
    subst h
    rw [if_pos (List.isSuffixOf_iff_suffix.mpr (List.suffix_append front ending))]
    simp

private theorem front?_point_iff (hx : xs ≠ []) (hxs : PointFree xs) (hy : ys ≠ [])
    (hys : PointFree ys) :
    (∃ front, front? (joined ys) (joined xs) = some front ∧ front.getLast? = some '.') ↔
      ∃ zs, zs ≠ [] ∧ ys = zs ++ xs := by
  rw [← exists_front_iff hx hxs hy hys]
  constructor
  · intro h
    obtain ⟨front, hf, hl⟩ := h
    obtain ⟨before, rfl⟩ := List.getLast?_eq_some_iff.mp hl
    exact ⟨before, by simpa using front?_eq_some.mp hf⟩
  · intro h
    obtain ⟨front, hf⟩ := h
    exact ⟨front ++ ['.'], front?_eq_some.mpr (by simpa using hf), by simp⟩

private theorem properSuffix_iff : (xs <:+ ys ∧ xs ≠ ys) ↔ ∃ zs, zs ≠ [] ∧ ys = zs ++ xs := by
  constructor
  · intro h
    obtain ⟨⟨zs, rfl⟩, hne⟩ := h
    refine ⟨zs, ?_, rfl⟩
    rintro rfl
    exact hne rfl
  · intro h
    obtain ⟨zs, hz, rfl⟩ := h
    refine ⟨List.suffix_append zs xs, ?_⟩
    intro he
    exact hz (List.append_left_eq_self.mp he.symm)

/-- Since no label is empty, a whole label stands in front of a point that does not start the text. -/
private theorem one_lt_length_front (hy : ys ≠ []) (hys : PointFree ys) (hne : ∀ l ∈ ys, l ≠ [])
    {ending front : List Char} (hf : front? (joined ys) ending = some front)
    (hl : front.getLast? = some '.') : 1 < front.length := by
  obtain ⟨before, rfl⟩ := List.getLast?_eq_some_iff.mp hl
  have hbefore : before ≠ [] := by
    rintro rfl
    have hsplit : ys = [] :: ending.splitOn '.' := by
      rw [← splitOn_joined hy hys, front?_eq_some.mp hf]
      exact List.splitOn_append_cons_self [] ending
    exact hne [] (hsplit ▸ List.mem_cons_self) rfl
  simpa using List.length_pos_iff.mpr hbefore

theorem fits_domain (hx : xs ≠ []) (hxs : PointFree xs) (hy : ys ≠ []) (hys : PointFree ys)
    (localPart : String) :
    (EmailPattern.domain (String.ofList (joined xs))).fits localPart
      (String.ofList (joined ys)) = true ↔ xs <:+ ys := by
  have hfront := front?_point_iff hx hxs hy hys
  rw [← properSuffix_iff] at hfront
  have hsuffix : xs <:+ ys ↔ ys = xs ∨ (xs <:+ ys ∧ xs ≠ ys) := by
    constructor
    · intro h
      by_cases he : xs = ys
      · exact .inl he.symm
      · exact .inr ⟨h, he⟩
    · intro h
      rcases h with rfl | h
      · exact List.suffix_rfl
      · exact h.1
  rw [hsuffix, ← hfront, ← joined_inj hy hys hx hxs]
  simp only [fits, Bool.or_eq_true, beq_iff_eq, String.ofList_inj, String.toList_ofList]
  cases front? (joined ys) (joined xs) with
  | none => simp
  | some front => simp

theorem fits_ending (hx : xs ≠ []) (hxs : PointFree xs) (hy : ys ≠ []) (hys : PointFree ys)
    (hne : ∀ l ∈ ys, l ≠ []) (localPart : String) :
    (EmailPattern.ending (String.ofList (joined xs))).fits localPart
      (String.ofList (joined ys)) = true ↔ xs <:+ ys ∧ xs ≠ ys := by
  rw [properSuffix_iff, ← front?_point_iff hx hxs hy hys]
  simp only [fits, String.toList_ofList]
  cases hf : front? (joined ys) (joined xs) with
  | none => simp
  | some front =>
    have hlength := one_lt_length_front hy hys hne hf
    simpa using hlength

end Criteria.EmailPattern
