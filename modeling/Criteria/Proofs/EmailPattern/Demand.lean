import Criteria.Proofs.EmailPattern.Labels
/-!
# What a mail pattern asks for

A threshold asks for one address, for a domain and all below it, or for the domains below an ending.
What it asks for can be told by labels: the labels of a domain have to be the last ones of the live
domain, and those of an ending the last ones with at least one more in front. The comparison of the
texts comes to the same.
-/
namespace Criteria.EmailPattern

open Text

/-- A text is an address: it has one at sign, a local part in front of it and labels behind it. -/
structure IsAddress (cs localPart : List Char) (labels : List (List Char)) : Prop where
  text : cs = localPart ++ '@' :: joined labels
  one_at : cs.count '@' = 1
  local_ne_nil : localPart ≠ []
  labels : IsLabels labels

private theorem isAddress_iff {cs localPart : List Char} {labels : List (List Char)} :
    IsAddress cs localPart labels ↔ cs = localPart ++ '@' :: joined labels ∧ cs.count '@' = 1 ∧
      localPart ≠ [] ∧ IsLabels labels :=
  ⟨fun h => ⟨h.text, h.one_at, h.local_ne_nil, h.labels⟩, fun h => ⟨h.1, h.2.1, h.2.2.1, h.2.2.2⟩⟩

instance {cs localPart : List Char} {labels : List (List Char)} :
    Decidable (IsAddress cs localPart labels) :=
  decidable_of_iff _ isAddress_iff.symm

inductive Demand
  | address (localPart : List Char) (labels : List (List Char))
  | domain (labels : List (List Char))
  | ending (labels : List (List Char))

namespace Demand

/-- The texts that make a demand: an address, a domain with or without an at sign in front, and an
ending with a point in front. -/
def IsWritten (cs : List Char) : Demand → Prop
  | address localPart labels => IsAddress cs localPart labels
  | domain labels => IsLabels labels ∧ (cs = joined labels ∨ cs = '@' :: joined labels)
  | ending labels => IsLabels labels ∧ cs = '.' :: joined labels

instance (cs : List Char) : DecidablePred (IsWritten cs)
  | address localPart labels => inferInstanceAs (Decidable (IsAddress cs localPart labels))
  | domain labels =>
    inferInstanceAs (Decidable (IsLabels labels ∧ (cs = joined labels ∨ cs = '@' :: joined labels)))
  | ending labels => inferInstanceAs (Decidable (IsLabels labels ∧ cs = '.' :: joined labels))

/-- Whether a local part and the labels of a domain meet a demand. The case of ASCII letters does not
matter in labels. -/
def IsMet (localPart : List Char) (labels : List (List Char)) : Demand → Prop
  | address expected wanted => expected = localPart ∧ lower wanted = lower labels
  | domain wanted => lower wanted <:+ lower labels
  | ending wanted => lower wanted <:+ lower labels ∧ lower wanted ≠ lower labels

def pattern : Demand → EmailPattern
  | address localPart labels =>
    .address (String.ofList localPart) (String.ofList (joined (EmailPattern.lower labels)))
  | domain labels => .domain (String.ofList (joined (EmailPattern.lower labels)))
  | ending labels => .ending (String.ofList (joined (EmailPattern.lower labels)))

end Demand

variable {cs localPart : List Char} {labels : List (List Char)}

theorem IsAddress.at_not_mem (h : IsAddress cs localPart labels) : '@' ∉ localPart := by
  have hcount := h.one_at
  rw [h.text, List.count_append, List.count_cons_self] at hcount
  exact List.count_eq_zero.mp (by omega)

theorem IsLabels.isAddress (h : IsLabels labels) (hat : '@' ∉ localPart) (hne : localPart ≠ []) :
    IsAddress (localPart ++ '@' :: joined labels) localPart labels := by
  have hcount : (localPart ++ '@' :: joined labels).count '@' = 1 := by
    rw [List.count_append, List.count_cons_self, List.count_eq_zero.mpr hat,
      List.count_eq_zero.mpr h.at_not_mem]
  exact ⟨rfl, hcount, hne, h⟩

private theorem readAddress?_eq_some {l d : String} :
    readAddress? cs = some (l, d) ↔ ∃ localPart labels, IsAddress cs localPart labels ∧
      l = String.ofList localPart ∧ d = String.ofList (joined (lower labels)) := by
  constructor
  · intro h
    rw [readAddress?, Option.bind_eq_bind, Option.bind_eq_some_iff] at h
    obtain ⟨⟨front, back⟩, hs, h⟩ := h
    obtain ⟨rfl, hfront⟩ := splitOnce_eq_some.mp hs
    dsimp only at h
    split at h
    · cases h
    · next hne =>
      obtain ⟨name, hd, he⟩ := Option.bind_eq_some_iff.mp h
      obtain ⟨labels, hl, rfl, rfl⟩ := readDomain?_eq_some.mp hd
      cases he
      exact ⟨front, labels, hl.isAddress hfront (by simpa using hne), rfl, rfl⟩
  · intro h
    obtain ⟨localPart, labels, h, rfl, rfl⟩ := h
    have hs : splitOnce '@' cs = some (localPart, joined labels) :=
      splitOnce_eq_some.mpr ⟨h.text, h.at_not_mem⟩
    have hd := readDomain?_eq_some.mpr ⟨labels, h.labels, rfl, rfl⟩
    simp [readAddress?, hs, hd, h.local_ne_nil]

/-! ### Reading a threshold -/

section Readings

variable {threshold : String} {c : Char} {rest : List Char}
  (hblank : ¬(stripBlanks threshold.toList).any isBlank = true)

include hblank

theorem parse?_of_front_at (h : stripBlanks threshold.toList = '@' :: rest) :
    parse? threshold = (readDomain? rest).map .domain := by
  unfold parse?
  dsimp only
  rw [if_neg hblank, h]
  rfl

theorem parse?_of_front_point (h : stripBlanks threshold.toList = '.' :: rest) (hat : '@' ∉ rest) :
    parse? threshold = (readDomain? rest).map .ending := by
  unfold parse?
  dsimp only
  rw [if_neg hblank, h]
  simp [hat]

theorem parse?_of_inner_at (h : stripBlanks threshold.toList = c :: rest) (hc : c ≠ '@')
    (hat : '@' ∈ rest) :
    parse? threshold = (readAddress? (c :: rest)).map fun (l, d) => .address l d := by
  unfold parse?
  dsimp only
  rw [if_neg hblank, h]
  simp [hat]

theorem parse?_of_bare (h : stripBlanks threshold.toList = c :: rest) (hc : c ≠ '@')
    (hpoint : c ≠ '.') (hat : '@' ∉ rest) :
    parse? threshold = (readDomain? (c :: rest)).map .domain := by
  unfold parse?
  dsimp only
  rw [if_neg hblank, h]
  simp [hc.symm, hpoint, hat]

end Readings

private theorem parse?_of_isAddress {threshold : String}
    (hblank : ¬(stripBlanks threshold.toList).any isBlank = true)
    (h : IsAddress (stripBlanks threshold.toList) localPart labels) :
    parse? threshold =
      some (.address (String.ofList localPart) (String.ofList (joined (lower labels)))) := by
  have hread := readAddress?_eq_some.mpr ⟨localPart, labels, h, rfl, rfl⟩
  obtain ⟨c, rest, hlocal⟩ := List.exists_cons_of_ne_nil h.local_ne_nil
  have hc : c ≠ '@' := by
    rintro rfl
    exact h.at_not_mem (hlocal ▸ List.mem_cons_self)
  have hcs : stripBlanks threshold.toList = c :: (rest ++ '@' :: joined labels) := by
    rw [h.text, hlocal, List.cons_append]
  rw [parse?_of_inner_at hblank hcs hc (by simp), ← hcs, hread]
  rfl

private theorem parse?_of_isLabels {threshold : String}
    (hblank : ¬(stripBlanks threshold.toList).any isBlank = true) (hl : IsLabels labels)
    (h : stripBlanks threshold.toList = joined labels) :
    parse? threshold = some (.domain (String.ofList (joined (lower labels)))) := by
  have hread := readDomain?_eq_some.mpr ⟨labels, hl, rfl, rfl⟩
  obtain ⟨c, rest, hcons, hc⟩ := hl.exists_cons
  have hat : '@' ∉ c :: rest := hcons ▸ hl.at_not_mem
  have hpoint : c ≠ '.' := by
    rintro rfl
    exact absurd hc (by decide)
  rw [List.mem_cons, not_or] at hat
  rw [parse?_of_bare hblank (h.trans hcons) (Ne.symm hat.1) hpoint hat.2, ← hcons, hread]
  rfl

private theorem parse?_of_isWritten {threshold : String} {d : Demand}
    (hblank : ¬(stripBlanks threshold.toList).any isBlank = true)
    (h : d.IsWritten (stripBlanks threshold.toList)) : parse? threshold = some d.pattern := by
  cases d with
  | address localPart labels => exact parse?_of_isAddress hblank h
  | domain labels =>
    obtain ⟨hl, h | h⟩ := h
    · exact parse?_of_isLabels hblank hl h
    · have hread := readDomain?_eq_some.mpr ⟨labels, hl, rfl, rfl⟩
      rw [parse?_of_front_at hblank h, hread]
      rfl
  | ending labels =>
    obtain ⟨hl, h⟩ := h
    have hread := readDomain?_eq_some.mpr ⟨labels, hl, rfl, rfl⟩
    rw [parse?_of_front_point hblank h hl.at_not_mem, hread]
    rfl

theorem parse?_eq_some {threshold : String} {p : EmailPattern} :
    parse? threshold = some p ↔ (∀ c ∈ stripBlanks threshold.toList, isBlank c = false) ∧
      ∃ d : Demand, d.IsWritten (stripBlanks threshold.toList) ∧ p = d.pattern := by
  constructor
  · intro h
    rw [parse?] at h
    dsimp only at h
    split at h
    · cases h
    next hblank =>
    refine ⟨by simpa using hblank, ?_⟩
    split at h
    · cases h
    · next rest hcs =>
      rw [hcs]
      obtain ⟨name, hread, rfl⟩ := Option.map_eq_some_iff.mp h
      obtain ⟨labels, hl, rfl, rfl⟩ := readDomain?_eq_some.mp hread
      exact ⟨.domain labels, ⟨hl, .inr rfl⟩, rfl⟩
    · next c rest hc hcs =>
      split at h
      · obtain ⟨⟨l, name⟩, hread, rfl⟩ := Option.map_eq_some_iff.mp h
        obtain ⟨localPart, labels, ha, rfl, rfl⟩ := readAddress?_eq_some.mp hread
        exact ⟨.address localPart labels, ha, rfl⟩
      split at h
      · next hpoint =>
        rw [hcs, hpoint]
        obtain ⟨name, hread, rfl⟩ := Option.map_eq_some_iff.mp h
        obtain ⟨labels, hl, rfl, rfl⟩ := readDomain?_eq_some.mp hread
        exact ⟨.ending labels, ⟨hl, rfl⟩, rfl⟩
      · obtain ⟨name, hread, rfl⟩ := Option.map_eq_some_iff.mp h
        obtain ⟨labels, hl, htext, rfl⟩ := readDomain?_eq_some.mp hread
        exact ⟨.domain labels, ⟨hl, .inl htext⟩, rfl⟩
  · intro h
    obtain ⟨hblank, d, hd, rfl⟩ := h
    exact parse?_of_isWritten (by simpa using hblank) hd

theorem isSome_parse?_iff {threshold : String} :
    (parse? threshold).isSome = true ↔
      (∀ c ∈ stripBlanks threshold.toList, isBlank c = false) ∧
        ∃ d : Demand, d.IsWritten (stripBlanks threshold.toList) := by
  constructor
  · intro h
    obtain ⟨p, hp⟩ := Option.isSome_iff_exists.mp h
    obtain ⟨hblank, d, hd, -⟩ := parse?_eq_some.mp hp
    exact ⟨hblank, d, hd⟩
  · intro h
    obtain ⟨hblank, d, hd⟩ := h
    exact Option.isSome_of_eq_some (parse?_eq_some.mpr ⟨hblank, d, hd, rfl⟩)

/-! ### Meeting a demand -/

theorem IsLabels.lower_label_ne_nil (h : IsLabels labels) : ∀ l ∈ lower labels, l ≠ [] := by
  intro l hl
  obtain ⟨m, hm, rfl⟩ := List.mem_map.mp hl
  simpa using (h.label m hm).1

theorem Demand.fits_pattern {threshold : List Char} {d : Demand} (hd : d.IsWritten threshold)
    (h : IsAddress cs localPart labels) :
    d.pattern.fits (String.ofList localPart) (String.ofList (joined (lower labels))) = true ↔
      d.IsMet localPart labels := by
  have hne := lower_ne_nil h.labels.ne_nil
  have hfree := h.labels.pointFree.lower
  cases d with
  | address expected wanted =>
    have hw := IsAddress.labels hd
    have hinj := joined_inj (lower_ne_nil hw.ne_nil) hw.pointFree.lower hne hfree
    simp only [Demand.pattern, Demand.IsMet, fits, Bool.and_eq_true, beq_iff_eq, String.ofList_inj,
      hinj]
  | domain wanted =>
    have hw := hd.1
    exact fits_domain (lower_ne_nil hw.ne_nil) hw.pointFree.lower hne hfree _
  | ending wanted =>
    have hw := hd.1
    exact fits_ending (lower_ne_nil hw.ne_nil) hw.pointFree.lower hne hfree
      h.labels.lower_label_ne_nil _

/-! ### The check -/

theorem isSome_check?_iff {live threshold : String} :
    (check? live threshold).isSome = true ↔ (parse? threshold).isSome = true ∧
      ∃ localPart labels, IsAddress (stripBlanks live.toList) localPart labels := by
  have hread : (readAddress? (stripBlanks live.toList)).isSome = true ↔
      ∃ localPart labels, IsAddress (stripBlanks live.toList) localPart labels := by
    constructor
    · intro h
      obtain ⟨⟨l, name⟩, h⟩ := Option.isSome_iff_exists.mp h
      obtain ⟨localPart, labels, ha, -⟩ := readAddress?_eq_some.mp h
      exact ⟨localPart, labels, ha⟩
    · intro h
      obtain ⟨localPart, labels, ha⟩ := h
      rw [readAddress?_eq_some.mpr ⟨localPart, labels, ha, rfl, rfl⟩]
      rfl
  rw [← hread, check?]
  cases parse? threshold <;> cases readAddress? (stripBlanks live.toList) <;> simp

/-- A live address is checked where it and the threshold can be read, and fits when its labels meet
the demand that the threshold makes. -/
theorem check?_by_labels (live threshold : String) :
    ((check? live threshold).isSome = true ↔ (parse? threshold).isSome = true ∧
        ∃ localPart labels, IsAddress (stripBlanks live.toList) localPart labels) ∧
      ((parse? threshold).isSome = true ↔
        (∀ c ∈ stripBlanks threshold.toList, isBlank c = false) ∧
          ∃ d : Demand, d.IsWritten (stripBlanks threshold.toList)) ∧
      ∀ b, check? live threshold = some b →
        ∀ d : Demand, d.IsWritten (stripBlanks threshold.toList) →
          ∀ localPart labels, IsAddress (stripBlanks live.toList) localPart labels →
            (b = true ↔ d.IsMet localPart labels) := by
  refine ⟨isSome_check?_iff, isSome_parse?_iff, ?_⟩
  intro b hb d hd localPart labels h
  have hsome := (isSome_check?_iff.mp (Option.isSome_of_eq_some hb)).1
  have hblank := (isSome_parse?_iff.mp hsome).1
  have hparse := parse?_eq_some.mpr ⟨hblank, d, hd, rfl⟩
  have hread := readAddress?_eq_some.mpr ⟨localPart, labels, h, rfl, rfl⟩
  have hfits := Demand.fits_pattern hd h
  rw [check?, hparse, hread] at hb
  rwa [Option.some.inj hb] at hfits

/-- A domain takes in the domains below it, and none that only ends with the same letters. -/
theorem check?_by_labels_of_domain :
    (check? " Alice@Mail.Example.com " "@EXAMPLE.com" = some true ∧
      Demand.IsMet "Alice".toList ["Mail".toList, "Example".toList, "com".toList]
        (.domain ["EXAMPLE".toList, "com".toList])) ∧
    (check? "bob@notexample.com" "@EXAMPLE.com" = some false ∧
      ¬ Demand.IsMet "bob".toList ["notexample".toList, "com".toList]
        (.domain ["EXAMPLE".toList, "com".toList])) := by
  have hwritten : Demand.IsWritten (stripBlanks "@EXAMPLE.com".toList)
      (.domain ["EXAMPLE".toList, "com".toList]) := by
    decide +kernel
  have halice : IsAddress (stripBlanks " Alice@Mail.Example.com ".toList) "Alice".toList
      ["Mail".toList, "Example".toList, "com".toList] := by
    decide +kernel
  have hbob : IsAddress (stripBlanks "bob@notexample.com".toList) "bob".toList
      ["notexample".toList, "com".toList] := by
    decide +kernel
  have htrue : check? " Alice@Mail.Example.com " "@EXAMPLE.com" = some true := by decide +kernel
  have hfalse : check? "bob@notexample.com" "@EXAMPLE.com" = some false := by decide +kernel
  have hmet := (check?_by_labels _ _).2.2 true htrue _ hwritten _ _ halice
  have hmissed := (check?_by_labels _ _).2.2 false hfalse _ hwritten _ _ hbob
  exact ⟨⟨htrue, hmet.mp rfl⟩, hfalse, fun h => Bool.false_ne_true (hmissed.mpr h)⟩

end Criteria.EmailPattern
