import Criteria.Catalogue
import Mathlib.Data.List.Induction
import Mathlib.Data.List.Nodup
/-!
# Grouping

The conditions of a catalogue go into their groups one after the other, each behind the last of its
group or into a new group behind all others. Whatever prefix of the conditions has been placed, the
groups stand in the order of their first use, and each holds those of the prefix that use it, in
their order. So the whole catalogue is parted without a loss, a repetition or a change of order
inside a group.
-/
namespace Criteria.Catalogue

/-- The position of the first condition that uses a group. -/
def firstUse (cs : List Condition) (name : String) : Nat :=
  cs.findIdx fun c => c.group = name

/-- A list of conditions is parted into named groups that keep its order: a group holds those that
use it as they stand in the list, and the groups stand as the list first uses them. -/
structure PartedInto (cs : List Condition) (gs : List (String × List Condition)) : Prop where
  ordered : (gs.map Prod.fst).Pairwise fun m n => firstUse cs m < firstUse cs n
  members : ∀ g ∈ gs, g.2 = cs.filter fun c => c.group = g.1
  inhabited : ∀ g ∈ gs, g.2 ≠ []
  complete : (gs.flatMap Prod.snd).Perm cs

variable {gs : List (String × List Condition)} {g : String × List Condition}
  {cs : List Condition} {c : Condition} {name : String}

/-! ### The group of one condition -/

/-- A condition goes behind the others of its group, or founds a group behind all others. -/
theorem addToGroup_cases (gs : List (String × List Condition)) (c : Condition) :
    (∃ before members after, gs = before ++ (c.group, members) :: after ∧
      addToGroup gs c = before ++ (c.group, members ++ [c]) :: after) ∨
    c.group ∉ gs.map Prod.fst ∧ addToGroup gs c = gs ++ [(c.group, [c])] := by
  induction gs with
  | nil => exact .inr ⟨List.not_mem_nil, rfl⟩
  | cons g rest ih =>
    obtain ⟨name, members⟩ := g
    rw [addToGroup]
    by_cases hname : name = c.group
    · subst hname
      exact .inl ⟨[], members, rest, rfl, if_pos rfl⟩
    · rw [if_neg hname]
      rcases ih with ⟨before, others, after, hrest, hadd⟩ | ⟨hnew, hadd⟩
      · exact .inl ⟨(name, members) :: before, others, after, congrArg _ hrest, congrArg _ hadd⟩
      · refine .inr ⟨?_, congrArg _ hadd⟩
        rw [List.map_cons, List.mem_cons, not_or]
        exact ⟨Ne.symm hname, hnew⟩

private theorem addToGroup_perm (gs : List (String × List Condition)) (c : Condition) :
    ((addToGroup gs c).flatMap Prod.snd).Perm (gs.flatMap Prod.snd ++ [c]) := by
  rcases addToGroup_cases gs c with ⟨before, members, after, rfl, hadd⟩ | ⟨_, hadd⟩
  · rw [hadd]
    simp only [List.flatMap_append, List.flatMap_cons, List.append_assoc]
    exact (List.perm_append_comm.append_left members).append_left _
  · rw [hadd, List.flatMap_append, List.flatMap_singleton]

private theorem mem_addToGroup (hn : (gs.map Prod.fst).Nodup) (hg : g ∈ addToGroup gs c) :
    g ∈ gs ∧ g.1 ≠ c.group ∨ ∃ members, g = (c.group, members ++ [c]) ∧
      ((c.group, members) ∈ gs ∨ c.group ∉ gs.map Prod.fst ∧ members = []) := by
  rcases addToGroup_cases gs c with ⟨before, members, after, rfl, hadd⟩ | ⟨hnew, hadd⟩
  · rw [List.map_append, List.map_cons, List.nodup_middle, List.nodup_cons, ← List.map_append] at hn
    rw [hadd, List.mem_append, List.mem_cons, or_left_comm, ← List.mem_append] at hg
    rcases hg with hg | hg
    · exact .inr ⟨members, hg, .inl (List.mem_append_right _ List.mem_cons_self)⟩
    · refine .inl ⟨?_, fun hname => hn.1 (List.mem_map.mpr ⟨g, hg, hname⟩)⟩
      exact List.perm_middle.mem_iff.mpr (List.mem_cons_of_mem _ hg)
  · rw [hadd, List.mem_append, List.mem_singleton] at hg
    rcases hg with hg | hg
    · exact .inl ⟨hg, fun hname => hnew (List.mem_map.mpr ⟨g, hg, hname⟩)⟩
    · exact .inr ⟨[], hg, .inr ⟨hnew, rfl⟩⟩

/-! ### One more condition -/

private theorem firstUse_lt_length : firstUse cs name < cs.length ↔ ∃ c ∈ cs, c.group = name := by
  simp [firstUse, List.findIdx_lt_length]

private theorem firstUse_concat_of_used (h : ∃ d ∈ cs, d.group = name) :
    firstUse (cs ++ [c]) name = firstUse cs name := by
  rw [firstUse, List.findIdx_append]
  exact if_pos (firstUse_lt_length.mpr h)

private theorem firstUse_concat_self (h : ¬∃ d ∈ cs, d.group = c.group) :
    firstUse (cs ++ [c]) c.group = cs.length := by
  rw [firstUse, List.findIdx_append]
  exact (if_neg (mt firstUse_lt_length.mp h)).trans (by simp [List.findIdx_singleton])

private theorem filter_group_concat :
    ((cs ++ [c]).filter fun d => d.group = name) =
      if c.group = name then (cs.filter fun d => d.group = name) ++ [c]
      else cs.filter fun d => d.group = name := by
  rw [List.filter_append, List.filter_singleton]
  split
  · next h => simp [h]
  · next h => simp [h]

namespace PartedInto

private theorem distinct (h : PartedInto cs gs) : (gs.map Prod.fst).Nodup := by
  refine h.ordered.imp ?_
  rintro m n hlt rfl
  exact Nat.lt_irrefl _ hlt

theorem mem_names_iff (h : PartedInto cs gs) :
    name ∈ gs.map Prod.fst ↔ ∃ c ∈ cs, c.group = name := by
  constructor
  · intro hname
    obtain ⟨g, hg, rfl⟩ := List.mem_map.mp hname
    obtain ⟨c, hc⟩ := List.exists_mem_of_ne_nil g.2 (h.inhabited g hg)
    rw [h.members g hg, List.mem_filter] at hc
    exact ⟨c, hc.1, of_decide_eq_true hc.2⟩
  · rintro ⟨c, hc, rfl⟩
    obtain ⟨g, hg, hcg⟩ := List.mem_flatMap.mp (h.complete.mem_iff.mpr hc)
    rw [h.members g hg, List.mem_filter] at hcg
    exact List.mem_map.mpr ⟨g, hg, (of_decide_eq_true hcg.2).symm⟩

private theorem ordered_addToGroup (h : PartedInto cs gs) :
    ((addToGroup gs c).map Prod.fst).Pairwise
      fun m n => firstUse (cs ++ [c]) m < firstUse (cs ++ [c]) n := by
  have hkept : (gs.map Prod.fst).Pairwise
      fun m n => firstUse (cs ++ [c]) m < firstUse (cs ++ [c]) n := by
    refine h.ordered.imp_of_mem fun hm hn hlt => ?_
    rwa [firstUse_concat_of_used (h.mem_names_iff.mp hm),
      firstUse_concat_of_used (h.mem_names_iff.mp hn)]
  rcases addToGroup_cases gs c with ⟨before, members, after, rfl, hadd⟩ | ⟨hnew, hadd⟩
  · rw [hadd, List.map_append, List.map_cons]
    rwa [List.map_append, List.map_cons] at hkept
  · -- A new group is first used by the new condition, at the end of the longer list.
    rw [hadd, List.map_append, List.pairwise_append]
    refine ⟨hkept, List.pairwise_singleton _ _, fun m hm n hn => ?_⟩
    have hused := h.mem_names_iff.mp hm
    rw [List.mem_singleton.mp hn, firstUse_concat_of_used hused,
      firstUse_concat_self (mt h.mem_names_iff.mpr hnew)]
    exact firstUse_lt_length.mpr hused

private theorem members_addToGroup (h : PartedInto cs gs) (hg : g ∈ addToGroup gs c) :
    g.2 = (cs ++ [c]).filter (fun d => d.group = g.1) ∧ g.2 ≠ [] := by
  rcases mem_addToGroup h.distinct hg with ⟨hg, hne⟩ | ⟨members, rfl, hold⟩
  · rw [filter_group_concat, if_neg hne.symm]
    exact ⟨h.members g hg, h.inhabited g hg⟩
  · have hmembers : members = cs.filter fun d => d.group = c.group := by
      rcases hold with hold | ⟨hnew, rfl⟩
      · exact h.members _ hold
      · have hunused := mt h.mem_names_iff.mpr hnew
        rw [eq_comm, List.filter_eq_nil_iff]
        exact fun d hd hdc => hunused ⟨d, hd, of_decide_eq_true hdc⟩
    rw [filter_group_concat, if_pos rfl, ← hmembers]
    exact ⟨rfl, List.append_ne_nil_of_right_ne_nil _ (List.cons_ne_nil _ _)⟩

theorem concat (h : PartedInto cs gs) (c : Condition) :
    PartedInto (cs ++ [c]) (addToGroup gs c) where
  ordered := h.ordered_addToGroup
  members _ hg := (h.members_addToGroup hg).1
  inhabited _ hg := (h.members_addToGroup hg).2
  complete := (addToGroup_perm gs c).trans (h.complete.append_right [c])

end PartedInto

/-! ### All conditions -/

theorem partedInto_foldl (cs : List Condition) : PartedInto cs (cs.foldl addToGroup []) := by
  -- The invariant speaks of the conditions that have been placed, so it grows at their end.
  induction cs using List.reverseRecOn with
  | nil => exact ⟨List.Pairwise.nil, by simp, by simp, List.Perm.refl _⟩
  | append_singleton cs c ih =>
    rw [List.foldl_concat]
    exact ih.concat c

/-- The groups of a catalogue are a stable partition of its conditions, in the order of their first
use. -/
theorem grouped_stable_partition (k : Catalogue) :
    (k.grouped.map Prod.fst).Nodup ∧
    (∀ name, name ∈ k.grouped.map Prod.fst ↔ ∃ c ∈ k.conditions, c.group = name) ∧
    ((k.grouped.map Prod.fst).Pairwise fun m n =>
      firstUse k.conditions m < firstUse k.conditions n) ∧
    (∀ g ∈ k.grouped, g.2 ≠ [] ∧ g.2 = k.conditions.filter fun c => c.group = g.1) ∧
    (k.grouped.flatMap Prod.snd).Perm k.conditions := by
  have hparts : PartedInto k.conditions k.grouped := partedInto_foldl k.conditions
  refine ⟨hparts.distinct, fun name => hparts.mem_names_iff, hparts.ordered, ?_, hparts.complete⟩
  exact fun g hg => ⟨hparts.inhabited g hg, hparts.members g hg⟩

/-- Two groups take turns, and the one that comes first by name is used last. -/
theorem grouped_stable_partition_of_turns :
    let vip : Condition := ⟨"vip", "VIP", "user", .boolean, none, none, []⟩
    let total : Condition := ⟨"total", "Total", "cart", .number, none, some (.argument "total"), []⟩
    let age : Condition := ⟨"age", "Age", "user", .number, none, some (.argument "age"), []⟩
    let k : Catalogue := ⟨[vip, total, age], [("age", 2), ("total", 1), ("vip", 0)]⟩
    ofConditions [vip, total, age] = .ok k ∧
      k.grouped = [("user", [vip, age]), ("cart", [total])] ∧
      firstUse k.conditions "user" < firstUse k.conditions "cart" ∧
      [vip, age] = k.conditions.filter (fun c => c.group = "user") ∧
      [vip, age, total].Perm k.conditions := by
  intro vip total age k
  have hgrouped : k.grouped = [("user", [vip, age]), ("cart", [total])] := by rfl
  obtain ⟨-, -, hordered, hmembers, hcomplete⟩ := grouped_stable_partition k
  rw [hgrouped] at hordered hmembers hcomplete
  have hfirst := (List.pairwise_cons.mp hordered).1 "cart" (List.mem_singleton_self "cart")
  exact ⟨by cbv, hgrouped, hfirst, (hmembers _ List.mem_cons_self).2, hcomplete⟩

end Criteria.Catalogue
