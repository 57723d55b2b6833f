/-!
# Tables

Lists of named entries in increasing order of their names. Main statements: after an insertion the
inserted name finds its new entry, every other name finds what it found before, and the names are in
order if they were so before; in a table that is laid over another its own names find its entries, and
all others what they found before.
-/
namespace Criteria

/-- Entries under distinct names, in the order of the code points of the names. -/
abbrev Table (α : Type) := List (String × α)

namespace Table

def find? {α : Type} : Table α → String → Option α
  | [], _ => none
  | (k, v) :: rest, name => if k = name then some v else find? rest name

/-- Put an entry under a name, in place of the one that is there. -/
def insert {α : Type} : Table α → String → α → Table α
  | [], name, v => [(name, v)]
  | (k, w) :: rest, name, v =>
    if k = name then (name, v) :: rest
    else if name < k then (name, v) :: (k, w) :: rest
    else (k, w) :: insert rest name v

/-- Insert the entries of a second table one after the other. -/
def overlay {α : Type} (below above : Table α) : Table α :=
  above.foldl (fun t (k, v) => t.insert k v) below

def names {α : Type} (t : Table α) : List String :=
  t.map (·.1)

@[simp] theorem find?_nil {α : Type} (name : String) : find? ([] : Table α) name = none := rfl

@[simp] theorem find?_insert_self {α : Type} (t : Table α) (name : String) (v : α) :
    (t.insert name v).find? name = some v := by
  induction t with
  | nil => simp [insert, find?]
  | cons e rest ih =>
    obtain ⟨k, w⟩ := e
    simp only [insert]
    split
    · simp [find?]
    · split
      · simp [find?]
      · next hk _ => simp [find?, hk, ih]

theorem find?_insert_ne {α : Type} (t : Table α) {name other : String} (v : α)
    (h : name ≠ other) : (t.insert name v).find? other = t.find? other := by
  induction t with
  | nil => simp [insert, find?, h]
  | cons e rest ih =>
    obtain ⟨k, w⟩ := e
    simp only [insert]
    split
    · next hk => subst hk; simp [find?, h]
    · split
      · simp [find?, h]
      · simp [find?, ih]

theorem find?_insert {α : Type} (t : Table α) (name other : String) (v : α) :
    (t.insert name v).find? other = if name = other then some v else t.find? other := by
  by_cases h : name = other
  · rw [if_pos h, ← h, find?_insert_self]
  · rw [if_neg h, find?_insert_ne t v h]

/-- The names of a table stand in increasing order, so that none of them occurs twice. -/
def Ordered {α : Type} (t : Table α) : Prop :=
  t.Pairwise fun m n => m.1 < n.1

variable {α : Type} {t : Table α} {name : String} {v : α}

theorem eq_or_mem_of_mem_insert {m : String × α} (h : m ∈ t.insert name v) :
    m = (name, v) ∨ m ∈ t := by
  induction t with
  | nil => exact .inl (List.mem_singleton.mp h)
  | cons e rest ih =>
    obtain ⟨k, w⟩ := e
    rw [insert] at h
    split at h
    · rcases List.mem_cons.mp h with h | h
      · exact .inl h
      · exact .inr (List.mem_cons_of_mem _ h)
    · split at h
      · exact List.mem_cons.mp h
      · rcases List.mem_cons.mp h with rfl | h
        · exact .inr List.mem_cons_self
        · exact (ih h).imp_right (List.mem_cons_of_mem _)

theorem subset_insert (h : ∀ w, t.find? name = some w → w = v) : t ⊆ t.insert name v := by
  induction t with
  | nil => exact List.nil_subset _
  | cons e rest ih =>
    obtain ⟨k, w⟩ := e
    rw [insert]
    split
    · next hk =>
      obtain rfl : w = v := h w (by rw [find?, if_pos hk])
      rw [hk]
      exact List.Subset.refl _
    · next hk =>
      split
      · exact List.subset_cons_self _ _
      · rw [find?, if_neg hk] at h
        exact List.cons_subset_cons _ (ih h)

theorem insert_perm (h : name ∉ t.names) : (t.insert name v).Perm ((name, v) :: t) := by
  induction t with
  | nil => exact List.Perm.refl _
  | cons e rest ih =>
    obtain ⟨k, w⟩ := e
    obtain ⟨hk, hrest⟩ := not_or.mp fun hn => h (List.mem_cons.mpr hn)
    rw [insert, if_neg (Ne.symm hk)]
    split
    · exact List.Perm.refl _
    · exact ((ih hrest).cons (k, w)).trans (List.Perm.swap (name, v) (k, w) rest)

theorem overlay_append (below first second : Table α) :
    below.overlay (first ++ second) = (below.overlay first).overlay second :=
  List.foldl_append

theorem find?_overlay_of_notMem {below above : Table α} (h : name ∉ above.names) :
    (below.overlay above).find? name = below.find? name := by
  induction above generalizing below with
  | nil => rfl
  | cons e rest ih =>
    obtain ⟨k, w⟩ := e
    obtain ⟨hk, hrest⟩ := not_or.mp fun hm => h (List.mem_cons.mpr hm)
    have hoverlay : below.overlay ((k, w) :: rest) = (below.insert k w).overlay rest := rfl
    rw [hoverlay, ih hrest, find?_insert_ne _ _ (Ne.symm hk)]

/-- Of two tables that are laid over each other the upper one decides, where its names are distinct. -/
theorem find?_overlay_of_mem {below above : Table α} (hn : above.names.Nodup)
    (h : (name, v) ∈ above) : (below.overlay above).find? name = some v := by
  induction above generalizing below with
  | nil => cases h
  | cons e rest ih =>
    obtain ⟨k, w⟩ := e
    obtain ⟨hk, hrest⟩ := List.nodup_cons.mp hn
    have hoverlay : below.overlay ((k, w) :: rest) = (below.insert k w).overlay rest := rfl
    rw [hoverlay]
    rcases List.mem_cons.mp h with he | h
    · cases he
      rw [find?_overlay_of_notMem hk, find?_insert_self]
    · exact ih hrest h

theorem overlay_perm {below above : Table α} (h : (names (above ++ below)).Nodup) :
    (below.overlay above).Perm (above ++ below) := by
  induction above generalizing below with
  | nil => exact List.Perm.refl _
  | cons e rest ih =>
    obtain ⟨k, w⟩ := e
    have hnew : k ∉ below.names := fun hk =>
      (List.nodup_cons.mp h).1 (by simpa [names] using Or.inr hk)
    have hmoved : (rest ++ below.insert k w).Perm ((k, w) :: rest ++ below) :=
      ((insert_perm hnew).append_left rest).trans List.perm_middle
    have hnames : (names (rest ++ below.insert k w)).Nodup := (hmoved.map Prod.fst).nodup_iff.mpr h
    exact (ih hnames).trans hmoved

theorem Ordered.insert (h : t.Ordered) : (t.insert name v).Ordered := by
  induction t with
  | nil => exact List.pairwise_singleton _ _
  | cons e rest ih =>
    obtain ⟨k, w⟩ := e
    obtain ⟨hhead, hrest⟩ := List.pairwise_cons.mp h
    rw [Table.insert]
    split
    · next hk =>
      subst hk
      exact List.pairwise_cons.mpr ⟨hhead, hrest⟩
    · next hk =>
      split
      · next hlt =>
        refine List.pairwise_cons.mpr ⟨fun m hm => ?_, h⟩
        rcases List.mem_cons.mp hm with rfl | hm
        · exact hlt
        · exact String.lt_trans hlt (hhead m hm)
      · next hnot =>
        have hlt : k < name := Std.lt_of_le_of_ne (String.not_lt.mp hnot) hk
        refine List.pairwise_cons.mpr ⟨fun m hm => ?_, ih hrest⟩
        rcases eq_or_mem_of_mem_insert hm with rfl | hm
        · exact hlt
        · exact hhead m hm

theorem Ordered.overlay (h : t.Ordered) (above : Table α) : (t.overlay above).Ordered := by
  induction above generalizing t with
  | nil => exact h
  | cons e rest ih => exact ih h.insert

end Table
end Criteria
