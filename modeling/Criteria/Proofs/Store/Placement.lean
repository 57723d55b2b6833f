import Criteria.Store
import Mathlib.Data.List.Nodup
/-!
# Placement by identifier

What placing a ruleset does to a list whose identifiers are distinct: an identifier that is there
keeps its place, a new one goes behind all others, and the identifiers stay distinct.
-/
namespace Criteria

def DistinctIds (rs : List Ruleset) : Prop :=
  (rs.map Ruleset.id).Nodup

theorem placeRuleset_of_new {rs : List Ruleset} {r : Ruleset} (h : r.id ∉ rs.map Ruleset.id) :
    placeRuleset rs r = rs ++ [r] := by
  induction rs with
  | nil => rfl
  | cons s rest ih =>
    rw [List.map_cons, List.mem_cons, not_or] at h
    rw [placeRuleset, if_neg (Ne.symm h.1), ih h.2, List.cons_append]

theorem map_id_placeRuleset {rs : List Ruleset} {r : Ruleset} (h : r.id ∈ rs.map Ruleset.id) :
    (placeRuleset rs r).map Ruleset.id = rs.map Ruleset.id := by
  induction rs with
  | nil => cases h
  | cons s rest ih =>
    rw [placeRuleset]
    by_cases hs : s.id = r.id
    · rw [if_pos hs, List.map_cons, List.map_cons, hs]
    · have hr : r.id ∈ rest.map Ruleset.id :=
        (List.mem_cons.mp h).resolve_left (Ne.symm hs)
      rw [if_neg hs, List.map_cons, List.map_cons, ih hr]

theorem map_id_placeRuleset_of_new {rs : List Ruleset} {r : Ruleset}
    (h : r.id ∉ rs.map Ruleset.id) :
    (placeRuleset rs r).map Ruleset.id = rs.map Ruleset.id ++ [r.id] := by
  rw [placeRuleset_of_new h, List.map_append, List.map_singleton]

theorem DistinctIds.placeRuleset {rs : List Ruleset} (h : DistinctIds rs) (r : Ruleset) :
    DistinctIds (placeRuleset rs r) := by
  by_cases hr : r.id ∈ rs.map Ruleset.id
  · rwa [DistinctIds, map_id_placeRuleset hr]
  · rw [DistinctIds, map_id_placeRuleset_of_new hr, List.nodup_append]
    refine ⟨h, List.nodup_singleton _, ?_⟩
    intro a ha b hb hab
    have hid : a = r.id := hab.trans (List.mem_singleton.mp hb)
    exact hr (hid ▸ ha)

theorem mem_placeRuleset {rs : List Ruleset} (h : DistinctIds rs) {r s : Ruleset} :
    s ∈ placeRuleset rs r ↔ s = r ∨ s ∈ rs ∧ s.id ≠ r.id := by
  induction rs with
  | nil => simp [placeRuleset]
  | cons t rest ih =>
    have hhead : ∀ u ∈ rest, u.id ≠ t.id := by
      intro u hu he
      exact (List.nodup_cons.mp h).1 (he ▸ List.mem_map_of_mem hu)
    have htail : DistinctIds rest := (List.nodup_cons.mp h).2
    rw [placeRuleset]
    by_cases ht : t.id = r.id
    · rw [if_pos ht, List.mem_cons, List.mem_cons]
      constructor
      · intro h
        rcases h with hs | hs
        · exact .inl hs
        · exact .inr ⟨.inr hs, ht ▸ hhead s hs⟩
      · intro h
        rcases h with hs | ⟨rfl | hs, hn⟩
        · exact .inl hs
        · exact absurd ht hn
        · exact .inr hs
    · rw [if_neg ht, List.mem_cons, List.mem_cons, ih htail]
      constructor
      · intro h
        rcases h with rfl | hs | ⟨hs, hn⟩
        · exact .inr ⟨.inl rfl, ht⟩
        · exact .inl hs
        · exact .inr ⟨.inr hs, hn⟩
      · intro h
        rcases h with hs | ⟨rfl | hs, hn⟩
        · exact .inr (.inl hs)
        · exact .inl rfl
        · exact .inr (.inr ⟨hs, hn⟩)

theorem foldl_placeRuleset {rs added : List Ruleset} (h : DistinctIds (rs ++ added)) :
    added.foldl placeRuleset rs = rs ++ added := by
  induction added generalizing rs with
  | nil => rw [List.foldl_nil, List.append_nil]
  | cons r rest ih =>
    have hnew : r.id ∉ rs.map Ruleset.id := by
      intro hm
      rw [DistinctIds, List.map_append, List.nodup_append] at h
      exact h.2.2 r.id hm r.id List.mem_cons_self rfl
    have hrest : DistinctIds (rs ++ [r] ++ rest) := by
      rwa [List.append_assoc, List.singleton_append]
    rw [List.foldl_cons, placeRuleset_of_new hnew, ih hrest, List.append_assoc,
      List.singleton_append]

theorem find?_id_eq_some {rs : List Ruleset} (h : DistinctIds rs) {id : String} {r : Ruleset} :
    (rs.find? fun s => s.id == id) = some r ↔ r ∈ rs ∧ r.id = id := by
  constructor
  · intro hf
    exact ⟨List.mem_of_find?_eq_some hf, by simpa using List.find?_some hf⟩
  · intro hm
    obtain ⟨hr, rfl⟩ := hm
    cases hf : rs.find? fun s => s.id == r.id with
    | none =>
      have hn := List.find?_eq_none.mp hf r hr
      simp at hn
    | some s =>
      have hs := List.mem_of_find?_eq_some hf
      have he : s.id = r.id := by simpa using List.find?_some hf
      rw [List.inj_on_of_nodup_map h hs hr he]

end Criteria
