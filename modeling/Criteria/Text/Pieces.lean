/-!
# Pieces of a text

Splitting at a separator, and the test whether one text occurs in another. Main statements: splitting
everywhere is that of the library for lists, splitting once cuts at the first separator, and a text
occurs in another when it is an infix of it.
-/
namespace Criteria.Text

/-- Split at every occurrence of one character; the pieces may be empty, and there is at least one. -/
def splitOn (sep : Char) : List Char → List (List Char)
  | [] => [[]]
  | c :: cs =>
    if c = sep then [] :: splitOn sep cs
    else
      match splitOn sep cs with
      | [] => [[c]]
      | piece :: pieces => (c :: piece) :: pieces

theorem splitOn_eq (sep : Char) (cs : List Char) : splitOn sep cs = cs.splitOn sep := by
  induction cs with
  | nil => rfl
  | cons c cs ih =>
    rw [splitOn, List.splitOn_cons_eq_if_modifyHead, ih]
    by_cases hc : c = sep
    · simp [hc]
    · cases h : cs.splitOn sep with
      | nil => exact absurd h (List.splitOn_ne_nil sep cs)
      | cons piece pieces => simp [hc]

theorem exists_splitOn_eq (sep : Char) (cs : List Char) :
    ∃ pieces, splitOn sep cs = cs.takeWhile (· != sep) :: pieces := by
  induction cs with
  | nil => exact ⟨[], rfl⟩
  | cons c cs ih =>
    obtain ⟨pieces, h⟩ := ih
    by_cases hc : c = sep
    · exact ⟨splitOn sep cs, by simp [splitOn, hc]⟩
    · exact ⟨pieces, by simp [splitOn, hc, h]⟩

theorem exists_splitOn_eq_of_mem {sep : Char} {cs : List Char} (h : sep ∈ cs) :
    ∃ piece pieces, splitOn sep cs = cs.takeWhile (· != sep) :: piece :: pieces := by
  induction cs with
  | nil => cases h
  | cons c cs ih =>
    by_cases hc : c = sep
    · obtain ⟨pieces, hp⟩ := exists_splitOn_eq sep cs
      exact ⟨cs.takeWhile (· != sep), pieces, by simp [splitOn, hc, hp]⟩
    · obtain ⟨piece, pieces, hp⟩ := ih ((List.mem_cons.mp h).resolve_left (Ne.symm hc))
      exact ⟨piece, pieces, by simp [splitOn, hc, hp]⟩

theorem splitOn_map {sep : Char} {f : Char → Char} (h : ∀ c, f c = sep ↔ c = sep)
    (cs : List Char) : splitOn sep (cs.map f) = (splitOn sep cs).map (List.map f) := by
  induction cs with
  | nil => rfl
  | cons c cs ih =>
    rw [List.map_cons, splitOn, splitOn, ih]
    by_cases hc : c = sep
    · rw [if_pos ((h c).mpr hc), if_pos hc, List.map_cons, List.map_nil]
    · rw [if_neg fun hf => hc ((h c).mp hf), if_neg hc]
      cases splitOn sep cs <;> rfl

theorem mem_intercalate {sep c : Char} {ps : List (List Char)} :
    c ∈ [sep].intercalate ps ↔ (c = sep ∧ 1 < ps.length) ∨ ∃ p ∈ ps, c ∈ p := by
  induction ps with
  | nil => simp [List.intercalate_nil]
  | cons p ps ih =>
    cases ps with
    | nil => simp [List.intercalate_singleton]
    | cons q ps =>
      rw [List.intercalate_cons_cons, List.mem_append, List.mem_append, ih]
      simp only [List.mem_cons, List.length_cons]
      grind

/-- The pieces between spaces and line ends, without the empty ones. -/
def words (cs : List Char) : List (List Char) :=
  ((splitOn '\n' cs).flatMap (splitOn ' ')).filter fun w => !w.isEmpty

/-- Split at the first occurrence of one character, when there is one. -/
def splitOnce (sep : Char) : List Char → Option (List Char × List Char)
  | [] => none
  | c :: cs =>
    if c = sep then some ([], cs)
    else (splitOnce sep cs).map fun (front, back) => (c :: front, back)

theorem splitOnce_append {sep : Char} {front : List Char} (h : sep ∉ front) (back : List Char) :
    splitOnce sep (front ++ sep :: back) = some (front, back) := by
  induction front with
  | nil => simp [splitOnce]
  | cons c front ih =>
    rw [List.mem_cons, not_or] at h
    rw [List.cons_append, splitOnce, if_neg (Ne.symm h.1), ih h.2, Option.map_some]

theorem splitOnce_eq_some {sep : Char} {cs front back : List Char} :
    splitOnce sep cs = some (front, back) ↔ cs = front ++ sep :: back ∧ sep ∉ front := by
  constructor
  · intro h
    induction cs generalizing front with
    | nil => cases h
    | cons c cs ih =>
      by_cases hc : c = sep
      · rw [splitOnce, if_pos hc] at h
        cases h
        simp [hc]
      · rw [splitOnce, if_neg hc, Option.map_eq_some_iff] at h
        obtain ⟨⟨front', back'⟩, hs, he⟩ := h
        cases he
        obtain ⟨rfl, hn⟩ := ih hs
        simp [hn, Ne.symm hc]
  · intro h
    obtain ⟨rfl, hn⟩ := h
    exact splitOnce_append hn back

def occursIn (part : List Char) : List Char → Bool
  | [] => part.isEmpty
  | c :: cs => part.isPrefixOf (c :: cs) || occursIn part cs

theorem occursIn_eq_true {part cs : List Char} : occursIn part cs = true ↔ part <:+: cs := by
  induction cs with
  | nil => rw [occursIn, List.isEmpty_iff, List.infix_nil]
  | cons c cs ih =>
    rw [occursIn, Bool.or_eq_true, List.isPrefixOf_iff_prefix, ih, List.infix_cons_iff]

end Criteria.Text
