import Criteria.Proofs.Comparison.Guard
import Criteria.Proofs.Comparison.Opposite
import Mathlib.Data.Finset.Disjoint
import Mathlib.Data.Finset.Lattice.Lemmas
/-!
# Sets of choices

Where several choices can be made, both sides of a comparison stand for sets of texts. The comparison is
that of the sets: they meet, are disjoint, or one holds the other. So the order of the choices does not
matter, nor does it how often one is made, or whether a number is written as a text.
-/
namespace Criteria

namespace Value

/-- The set of texts that a value stands for. Null stands for the empty set, a list of scalars for the
set of their texts and a scalar for the set of its own; any other value stands for no set. -/
def choices? : Value → Option (Finset String)
  | null => some ∅
  | list items =>
    if ∀ v ∈ items, v.IsScalar then some (items.filterMap scalarText?).toFinset else none
  | object _ => none
  | v => v.scalarText?.map fun s => {s}

/-- A scalar written as a text; other values are left as they are. -/
def inText (v : Value) : Value :=
  match v.scalarText? with
  | some s => text s
  | none => v

variable {items others : List Value}

theorem choices?_eq (v : Value) : v.choices? = v.textSet?.map List.toFinset := by
  cases v with
  | list items =>
    rw [choices?, textSet?, mapM_scalarText?_eq]
    split <;> rfl
  | null | object _ => rfl
  | text _ | number _ | bool _ => rfl

/-! ### Other spellings of a set -/

@[simp] theorem scalarText?_inText (v : Value) : v.inText.scalarText? = v.scalarText? := by
  rw [inText]
  split
  · next s hs => rw [hs, scalarText?]
  · rfl

@[simp] theorem isScalar_inText (v : Value) : v.inText.IsScalar ↔ v.IsScalar := by
  rw [← isSome_scalarText?, scalarText?_inText, isSome_scalarText?]

private theorem choices?_map_inText (items : List Value) :
    (list (items.map inText)).choices? = (list items).choices? := by
  simp [choices?, List.filterMap_map]

private theorem choices?_of_mem_iff (h : ∀ v, v ∈ items ↔ v ∈ others) :
    (list items).choices? = (list others).choices? := by
  have htexts : (items.filterMap scalarText?).toFinset = (others.filterMap scalarText?).toFinset := by
    ext s
    simp only [List.mem_toFinset, List.mem_filterMap, h]
  simp only [choices?, htexts, h]

private theorem choices?_of_sameTexts (h : ∀ v, v ∈ items.map inText ↔ v ∈ others.map inText) :
    (list items).choices? = (list others).choices? := by
  rw [← choices?_map_inText items, ← choices?_map_inText others, choices?_of_mem_iff h]

end Value

/-- What an operator on choices asks of the sets of a live value and of a threshold. -/
def Operator.Relates (op : Operator) (live threshold : Finset String) : Prop :=
  match op with
  | .anyOf => (live ∩ threshold).Nonempty
  | .noneOf => Disjoint live threshold
  | .allOf => threshold ⊆ live
  | _ => False

namespace ValueType

variable {t : ValueType} {op : Operator} {live threshold : Value}

private theorem set_iff_relates {ss ts : List String} (hlive : live.textSet? = some ss)
    (hthreshold : threshold.textSet? = some ts) :
    Comparison.set op live threshold = true ↔ ts ≠ [] ∧ op.Relates ss.toFinset ts.toFinset := by
  simp only [Comparison.set, hlive, hthreshold, List.isEmpty_iff]
  split
  · next hempty => simp [hempty]
  · next hne =>
    rw [and_iff_right hne]
    cases op with
    | anyOf => simp [Operator.Relates, Finset.Nonempty, and_comm]
    | noneOf => simp [Operator.Relates, Finset.disjoint_right]
    | allOf => simp [Operator.Relates, Finset.subset_iff]
    | _ => simp [Operator.Relates]

theorem set_iff_choices :
    Comparison.set op live threshold = true ↔
      ∃ L T, live.choices? = some L ∧ threshold.choices? = some T ∧ T.Nonempty ∧ op.Relates L T := by
  simp only [Value.choices?_eq, Option.map_eq_some_iff]
  constructor
  · intro h
    cases hlive : live.textSet? with
    | none => simp [Comparison.set, hlive] at h
    | some ss =>
      cases hthreshold : threshold.textSet? with
      | none => simp [Comparison.set, hlive, hthreshold] at h
      | some ts =>
        obtain ⟨hne, hrel⟩ := (set_iff_relates hlive hthreshold).mp h
        exact ⟨_, _, ⟨ss, rfl, rfl⟩, ⟨ts, rfl, rfl⟩, (List.toFinset_nonempty_iff ts).mpr hne, hrel⟩
  · rintro ⟨_, _, ⟨ss, hlive, rfl⟩, ⟨ts, hthreshold, rfl⟩, hne, hrel⟩
    exact (set_iff_relates hlive hthreshold).mpr ⟨(List.toFinset_nonempty_iff ts).mp hne, hrel⟩

theorem compare_iff_choices (ht : t = .multiSelect ∨ t = .referentialMulti) :
    t.compare op live threshold = true ↔
      ∃ L T, live.choices? = some L ∧ threshold.choices? = some T ∧ T.Nonempty ∧ op.Relates L T := by
  have hfamily : t.compare op live threshold = Comparison.set op live threshold := by
    obtain rfl | rfl := ht
    · exact compare_eq_family (fun h => nomatch h.1) (fun h => nomatch h.1)
    · exact compare_eq_family (fun h => nomatch h.1) (fun h => nomatch h.1)
  rw [hfamily, set_iff_choices]

theorem compare_congr_choices {live' threshold' : Value}
    (ht : t = .multiSelect ∨ t = .referentialMulti) (hlive : live.choices? = live'.choices?)
    (hthreshold : threshold.choices? = threshold'.choices?) :
    t.compare op live threshold = t.compare op live' threshold' := by
  rw [Bool.eq_iff_iff, compare_iff_choices ht, compare_iff_choices ht, hlive, hthreshold]

/-- Choices compare as the sets of texts that they stand for. -/
theorem compare_by_choices (ht : t = .multiSelect ∨ t = .referentialMulti)
    (live threshold : Value) :
    (∀ op, t.compare op live threshold = true ↔
      ∃ L T, live.choices? = some L ∧ threshold.choices? = some T ∧ T.Nonempty ∧ op.Relates L T) ∧
    (∀ op items others, (∀ v, v ∈ items.map Value.inText ↔ v ∈ others.map Value.inText) →
      t.compare op (.list items) threshold = t.compare op (.list others) threshold ∧
      t.compare op live (.list items) = t.compare op live (.list others)) ∧
    (t.compare .allOf live threshold = true → t.compare .anyOf live threshold = true) := by
  refine ⟨fun _ => compare_iff_choices ht, ?_, ?_⟩
  · intro op items others hsame
    have hchoices := Value.choices?_of_sameTexts hsame
    exact ⟨compare_congr_choices ht hchoices rfl, compare_congr_choices ht rfl hchoices⟩
  · intro hall
    obtain ⟨L, T, hlive, hthreshold, hne, hsub⟩ := (compare_iff_choices ht).mp hall
    refine (compare_iff_choices ht).mpr ⟨L, T, hlive, hthreshold, hne, ?_⟩
    rw [Operator.Relates, Finset.inter_eq_right.mpr hsub]
    exact hne

/-- A number and a text that is read as the same choice, in another order; and a threshold that
stands for no set. -/
theorem compare_by_choices_of_number_and_text :
    let live := Value.list [.nat 1, .text "a", .text "a"]
    let threshold := Value.list [.text "a", .text "1"]
    multiSelect.compare .allOf live threshold = true ∧
    multiSelect.compare .anyOf live threshold = true ∧
    multiSelect.compare .noneOf live (.list [.nat 2, .null]) = false ∧
    multiSelect.compare .noneOf live (.list [.nat 1]) =
      multiSelect.compare .noneOf live (.list [.text "1", .text "1"]) := by
  intro live threshold
  obtain ⟨hsets, -, hsome⟩ := compare_by_choices (t := multiSelect) (.inl rfl) live threshold
  obtain ⟨hnull, -, -⟩ :=
    compare_by_choices (t := multiSelect) (.inl rfl) live (.list [.nat 2, .null])
  obtain ⟨-, hsame, -⟩ := compare_by_choices (t := multiSelect) (.inl rfl) live .null
  have hall : multiSelect.compare .allOf live threshold = true :=
    (hsets .allOf).mpr ⟨{"1", "a"}, {"a", "1"}, by decide +kernel, by decide +kernel,
      by decide +kernel, (by decide +kernel : ({"a", "1"} : Finset String) ⊆ {"1", "a"})⟩
  refine ⟨hall, hsome hall, ?_, ?_⟩
  · rw [Bool.eq_false_iff, Ne, hnull]
    rintro ⟨_, _, -, hthreshold, -⟩
    have hnone : (Value.list [.nat 2, .null]).choices? = none := by decide +kernel
    rw [hnone] at hthreshold
    cases hthreshold
  · refine (hsame .noneOf [.nat 1] [.text "1", .text "1"] fun v => ?_).2
    have hone : (Value.nat 1).inText = .text "1" := by rfl
    have htext : (Value.text "1").inText = .text "1" := by rfl
    simp only [List.map_cons, List.map_nil, hone, htext, List.mem_cons, or_self_left]

end ValueType
end Criteria
