import Criteria.Proofs.EmailPattern.Demand
/-!
# Patterns and their texts

A pattern is written as its local part and its domain with an at sign between them, as its domain
behind an at sign, or as its ending behind a point. The patterns that are read from texts are those
whose local part has no at sign, whose domain has no capital letters of ASCII, and whose text has no
blanks; and their texts are read as them. Blanks around a text and the case of its domain do not
matter to what is read, nor does the at sign in front of a domain.
-/
namespace Criteria.EmailPattern

open Text

variable {labels : List (List Char)} {cs ds localPart : List Char} {p : EmailPattern} {s t : String}

/-! ### Domains in lower case -/

private theorem isLabelChar_toLower (c : Char) : isLabelChar c.toLower = isLabelChar c :=
  apply_toLower isLabelChar (by decide +kernel) c

private theorem IsLabels.lower (h : IsLabels labels) : IsLabels (lower labels) := by
  refine ⟨lower_ne_nil h.ne_nil, ?_⟩
  intro l hl
  refine ⟨h.lower_label_ne_nil l hl, ?_⟩
  obtain ⟨m, hm, rfl⟩ := List.mem_map.mp hl
  intro c hc
  obtain ⟨d, hd, rfl⟩ := List.mem_map.mp hc
  rw [isLabelChar_toLower]
  exact (h.label m hm).2 d hd

private theorem isUpper_of_mem_lower : ∀ l ∈ lower labels, ∀ c ∈ l, c.isUpper = false := by
  intro l hl c hc
  obtain ⟨m, -, rfl⟩ := List.mem_map.mp hl
  obtain ⟨d, -, rfl⟩ := List.mem_map.mp hc
  exact isUpper_toLower d

private theorem lower_eq_self (h : ∀ l ∈ labels, ∀ c ∈ l, c.isUpper = false) :
    lower labels = labels := by
  have hlabel : ∀ l ∈ labels, l.map Char.toLower = l := by
    intro l hl
    rw [List.map_congr_left fun c hc => toLower_of_not_isUpper (h l hl c hc), List.map_id']
  rw [lower, List.map_congr_left hlabel, List.map_id']

private theorem isDomain_map_toLower (cs : List Char) :
    isDomain (cs.map Char.toLower) = isDomain cs := by
  have hsplit : splitOn '.' (cs.map Char.toLower) = (splitOn '.' cs).map (List.map Char.toLower) :=
    splitOn_map (fun _ => toLower_eq_iff rfl) cs
  have hlabel : isLabelChar ∘ Char.toLower = isLabelChar := funext isLabelChar_toLower
  rw [isDomain, isDomain, hsplit, List.all_map]
  congr 1
  funext label
  rw [Function.comp_apply, List.isEmpty_map, List.all_map, hlabel]

private theorem readDomain?_congr (h : cs.map Char.toLower = ds.map Char.toLower) :
    readDomain? cs = readDomain? ds := by
  rw [readDomain?, readDomain?, ← isDomain_map_toLower cs, h, isDomain_map_toLower]

/-! ### Patterns that are read, and their texts -/

def text : EmailPattern → String
  | address localPart name => localPart ++ "@" ++ name
  | domain name => "@" ++ name
  | ending name => "." ++ name

/-- A domain as it is stored: labels without capital letters of ASCII. -/
def IsStoredDomain (name : String) : Prop :=
  ∃ labels, IsLabels labels ∧ (∀ l ∈ labels, ∀ c ∈ l, c.isUpper = false) ∧
    name = String.ofList (joined labels)

/-- A pattern has a stored domain and, if it is an address, a local part without an at sign. -/
def HasParts : EmailPattern → Prop
  | address localPart name => localPart ≠ "" ∧ '@' ∉ localPart.toList ∧ IsStoredDomain name
  | domain name => IsStoredDomain name
  | ending name => IsStoredDomain name

structure IsWellFormed (p : EmailPattern) : Prop where
  parts : p.HasParts
  blankFree : ∀ c ∈ p.text.toList, isBlank c = false

@[simp] theorem toList_text_address (l d : String) :
    (address l d).text.toList = l.toList ++ '@' :: d.toList := by
  simp [text]

@[simp] theorem toList_text_domain (d : String) : (domain d).text.toList = '@' :: d.toList := by
  simp [text]

@[simp] theorem toList_text_ending (d : String) : (ending d).text.toList = '.' :: d.toList := by
  simp [text]

private theorem isStoredDomain_lower (h : IsLabels labels) :
    IsStoredDomain (String.ofList (joined (lower labels))) :=
  ⟨lower labels, h.lower, isUpper_of_mem_lower, rfl⟩

private theorem Demand.hasParts_pattern {d : Demand} (h : d.IsWritten cs) : d.pattern.HasParts := by
  cases d with
  | address localPart labels =>
    refine ⟨?_, ?_, isStoredDomain_lower h.labels⟩
    · simpa using h.local_ne_nil
    · simpa using h.at_not_mem
  | domain labels => exact isStoredDomain_lower h.1
  | ending labels => exact isStoredDomain_lower h.1

private theorem isBlank_of_mem_joined_lower (h : ∀ c ∈ joined labels, isBlank c = false) :
    ∀ c ∈ joined (lower labels), isBlank c = false := by
  intro c hc
  rw [← map_toLower_joined] at hc
  obtain ⟨d, hd, rfl⟩ := List.mem_map.mp hc
  rw [isBlank_toLower, h d hd]

private theorem Demand.blankFree_text_pattern {d : Demand} (h : d.IsWritten cs)
    (hblank : ∀ c ∈ cs, isBlank c = false) : ∀ c ∈ d.pattern.text.toList, isBlank c = false := by
  cases d with
  | address localPart labels =>
    rw [h.text, List.forall_mem_append, List.forall_mem_cons] at hblank
    rw [pattern, toList_text_address, String.toList_ofList, String.toList_ofList,
      List.forall_mem_append, List.forall_mem_cons]
    exact ⟨hblank.1, hblank.2.1, isBlank_of_mem_joined_lower hblank.2.2⟩
  | domain labels =>
    have hjoined : ∀ c ∈ joined labels, isBlank c = false := by
      rcases h.2 with rfl | rfl
      · exact hblank
      · exact (List.forall_mem_cons.mp hblank).2
    rw [pattern, toList_text_domain, String.toList_ofList, List.forall_mem_cons]
    exact ⟨rfl, isBlank_of_mem_joined_lower hjoined⟩
  | ending labels =>
    rw [h.2, List.forall_mem_cons] at hblank
    rw [pattern, toList_text_ending, String.toList_ofList, List.forall_mem_cons]
    exact ⟨rfl, isBlank_of_mem_joined_lower hblank.2⟩

theorem isWellFormed_of_parse? (h : parse? s = some p) : p.IsWellFormed := by
  obtain ⟨hblank, d, hd, rfl⟩ := parse?_eq_some.mp h
  exact ⟨d.hasParts_pattern hd, d.blankFree_text_pattern hd hblank⟩

private theorem HasParts.exists_demand (h : p.HasParts) :
    ∃ d : Demand, d.IsWritten p.text.toList ∧ p = d.pattern := by
  cases p with
  | address l name =>
    obtain ⟨hne, hat, labels, hl, hupper, rfl⟩ := h
    refine ⟨.address l.toList labels, ?_, ?_⟩
    · rw [toList_text_address, String.toList_ofList]
      exact hl.isAddress hat (by simpa using hne)
    · rw [Demand.pattern, lower_eq_self hupper, String.ofList_toList]
  | domain name =>
    obtain ⟨labels, hl, hupper, rfl⟩ := h
    refine ⟨.domain labels, ?_, ?_⟩
    · rw [toList_text_domain, String.toList_ofList]
      exact ⟨hl, .inr rfl⟩
    · rw [Demand.pattern, lower_eq_self hupper]
  | ending name =>
    obtain ⟨labels, hl, hupper, rfl⟩ := h
    refine ⟨.ending labels, ?_, ?_⟩
    · rw [toList_text_ending, String.toList_ofList]
      exact ⟨hl, rfl⟩
    · rw [Demand.pattern, lower_eq_self hupper]

theorem parse?_text (h : p.IsWellFormed) : parse? p.text = some p := by
  obtain ⟨d, hd, hp⟩ := h.parts.exists_demand
  have hstrip : stripBlanks p.text.toList = p.text.toList := stripBlanks_of_forall h.blankFree
  rw [parse?_eq_some, hstrip]
  exact ⟨h.blankFree, d, hd, hp⟩

/-! ### Texts that are read alike -/

theorem parse?_congr (h : stripBlanks s.toList = stripBlanks t.toList) : parse? s = parse? t := by
  rw [parse?, parse?, h]

private theorem parse?_of_inner_blank (h : (stripBlanks s.toList).any isBlank = true) :
    parse? s = none := by
  rw [parse?, if_pos h]

private theorem parse?_of_no_text (h : stripBlanks s.toList = []) : parse? s = none := by
  rw [parse?, h]
  rfl

private theorem readAddress?_append (hat : '@' ∉ localPart) (hne : localPart ≠ [])
    (back : List Char) :
    readAddress? (localPart ++ '@' :: back) =
      (readDomain? back).map fun name => (String.ofList localPart, name) := by
  rw [readAddress?, splitOnce_append hat, Option.map_eq_bind]
  exact if_neg (by simpa using hne)

/-- Two texts differ at most in the case of the ASCII letters of their domain: that is what stands
behind the first at sign, or all of a text that has none. -/
inductive SameButDomainCase : List Char → List Char → Prop
  | whole {cs ds : List Char} : '@' ∉ cs → cs.map Char.toLower = ds.map Char.toLower →
    SameButDomainCase cs ds
  | behindAt {front cs ds : List Char} : '@' ∉ front → cs.map Char.toLower = ds.map Char.toLower →
    SameButDomainCase (front ++ '@' :: cs) (front ++ '@' :: ds)

namespace SameButDomainCase

private theorem at_notMem (h : cs.map Char.toLower = ds.map Char.toLower) (hat : '@' ∉ cs) :
    '@' ∉ ds := by
  intro hd
  have hmem : '@' ∈ cs.map Char.toLower := h ▸ List.mem_map_of_mem hd
  obtain ⟨c, hc, hlower⟩ := List.mem_map.mp hmem
  rw [toLower_eq_iff rfl] at hlower
  exact hat (hlower ▸ hc)

private theorem stripBlanks (h : SameButDomainCase cs ds) :
    SameButDomainCase (stripBlanks cs) (stripBlanks ds) := by
  cases h with
  | whole hat hcase =>
    refine .whole (fun hc => hat (stripBlanks_subset cs hc)) ?_
    rw [← stripBlanks_map_toLower, hcase, stripBlanks_map_toLower]
  | behindAt hat hcase =>
    rw [stripBlanks_append_cons rfl, stripBlanks_append_cons rfl]
    refine .behindAt (fun hc => hat ((List.dropWhile_suffix isBlank).subset hc)) ?_
    rw [← rdropWhile_map_toLower, hcase, rdropWhile_map_toLower]

private theorem any_isBlank (h : SameButDomainCase cs ds) : cs.any isBlank = ds.any isBlank := by
  cases h with
  | whole _ hcase => rw [← any_isBlank_map_toLower, hcase, any_isBlank_map_toLower]
  | @behindAt front cs ds _ hcase =>
    have hback : cs.any isBlank = ds.any isBlank := by
      rw [← any_isBlank_map_toLower, hcase, any_isBlank_map_toLower]
    rw [List.any_append, List.any_append, List.any_cons, List.any_cons, hback]

/-- Without an at sign the two texts are both empty, both endings, or both bare domains. -/
private theorem parse?_of_whole (hs : ¬(Text.stripBlanks s.toList).any isBlank = true)
    (ht : ¬(Text.stripBlanks t.toList).any isBlank = true) (hat : '@' ∉ Text.stripBlanks s.toList)
    (hcase : (Text.stripBlanks s.toList).map Char.toLower =
      (Text.stripBlanks t.toList).map Char.toLower) : parse? s = parse? t := by
  have hat' := at_notMem hcase hat
  cases hcs : Text.stripBlanks s.toList with
  | nil =>
    rw [hcs, List.map_nil, eq_comm, List.map_eq_nil_iff] at hcase
    rw [parse?_of_no_text hcs, parse?_of_no_text hcase]
  | cons c cs =>
    cases hds : Text.stripBlanks t.toList with
    | nil => simp [hcs, hds] at hcase
    | cons d ds =>
      rw [hcs, hds, List.map_cons, List.map_cons, List.cons.injEq] at hcase
      rw [hcs, List.mem_cons, not_or] at hat
      rw [hds, List.mem_cons, not_or] at hat'
      have hpoint : c = '.' ↔ d = '.' := by
        rw [← toLower_eq_iff (d := '.') rfl, hcase.1, toLower_eq_iff rfl]
      by_cases hc : c = '.'
      · have hd := hpoint.mp hc
        subst hc hd
        rw [parse?_of_front_point hs hcs hat.2, parse?_of_front_point ht hds hat'.2,
          readDomain?_congr hcase.2]
      · have hd := mt hpoint.mpr hc
        have hall : (c :: cs).map Char.toLower = (d :: ds).map Char.toLower := by
          rw [List.map_cons, List.map_cons, hcase.1, hcase.2]
        rw [parse?_of_bare hs hcs (Ne.symm hat.1) hc hat.2,
          parse?_of_bare ht hds (Ne.symm hat'.1) hd hat'.2, readDomain?_congr hall]

private theorem parse?_of_behindAt {front : List Char}
    (hs : ¬(Text.stripBlanks s.toList).any isBlank = true)
    (ht : ¬(Text.stripBlanks t.toList).any isBlank = true) (hat : '@' ∉ front)
    (hcase : cs.map Char.toLower = ds.map Char.toLower)
    (hcs : Text.stripBlanks s.toList = front ++ '@' :: cs)
    (hds : Text.stripBlanks t.toList = front ++ '@' :: ds) : parse? s = parse? t := by
  cases front with
  | nil =>
    rw [parse?_of_front_at hs hcs, parse?_of_front_at ht hds, readDomain?_congr hcase]
  | cons c front =>
    have hc : c ≠ '@' := fun he => hat (he ▸ List.mem_cons_self)
    have hread := readAddress?_append hat (List.cons_ne_nil c front)
    rw [List.cons_append] at hcs hds
    simp only [List.cons_append] at hread
    rw [parse?_of_inner_at hs hcs hc (by simp), parse?_of_inner_at ht hds hc (by simp), hread,
      hread, readDomain?_congr hcase]

private theorem parse?_eq (h : SameButDomainCase s.toList t.toList) : parse? s = parse? t := by
  have hstrip := h.stripBlanks
  have hany := hstrip.any_isBlank
  by_cases hs : (Text.stripBlanks s.toList).any isBlank = true
  · rw [parse?_of_inner_blank hs, parse?_of_inner_blank (hany ▸ hs)]
  · have ht : ¬(Text.stripBlanks t.toList).any isBlank = true := hany ▸ hs
    generalize hcs : Text.stripBlanks s.toList = cs at hstrip
    generalize hds : Text.stripBlanks t.toList = ds at hstrip
    cases hstrip with
    | whole hat hcase =>
      subst hcs hds
      exact parse?_of_whole hs ht hat hcase
    | behindAt hat hcase => exact parse?_of_behindAt hs ht hat hcase hcs hds

end SameButDomainCase

/-- A text without an at sign that begins with neither a point nor a blank. -/
def IsBare (cs : List Char) : Prop :=
  '@' ∉ cs ∧ ∀ c ∈ cs.head?, c ≠ '.' ∧ isBlank c = false

private theorem parse?_of_isBare (h : IsBare s.toList) : parse? ("@" ++ s) = parse? s := by
  have hlist : ("@" ++ s).toList = '@' :: s.toList := by simp
  obtain ⟨hat, hhead⟩ := h
  cases hcs : s.toList with
  | nil =>
    have hs : stripBlanks s.toList = [] := by rw [hcs]; rfl
    have ha : stripBlanks ("@" ++ s).toList = ['@'] := by rw [hlist, hcs]; rfl
    have hany : ¬(stripBlanks ("@" ++ s).toList).any isBlank = true := by rw [ha]; decide
    rw [parse?_of_no_text hs, parse?_of_front_at hany ha]
    rfl
  | cons c cs =>
    rw [hcs, List.mem_cons, not_or] at hat
    rw [hcs] at hlist hhead
    obtain ⟨hpoint, hblank⟩ := hhead c rfl
    have hs : stripBlanks s.toList = c :: cs.rdropWhile isBlank := by
      rw [hcs]
      exact stripBlanks_append_cons hblank [] cs
    have ha : stripBlanks ("@" ++ s).toList = '@' :: c :: cs.rdropWhile isBlank := by
      rw [hlist]
      exact (stripBlanks_append_cons rfl [] (c :: cs)).trans
        (congrArg ('@' :: ·) (rdropWhile_append_cons hblank [] cs))
    have hrest : '@' ∉ cs.rdropWhile isBlank := fun hc =>
      hat.2 ((List.rdropWhile_prefix isBlank cs).subset hc)
    by_cases hany : (stripBlanks s.toList).any isBlank = true
    · have hany' : (stripBlanks ("@" ++ s).toList).any isBlank = true := by
        rw [ha, List.any_cons, ← hs, hany, Bool.or_true]
      rw [parse?_of_inner_blank hany, parse?_of_inner_blank hany']
    · have hany' : ¬(stripBlanks ("@" ++ s).toList).any isBlank = true := by
        rw [ha, List.any_cons, ← hs]
        exact hany
      rw [parse?_of_bare hany hs (Ne.symm hat.1) hpoint hrest, parse?_of_front_at hany' ha]

private theorem IsStoredDomain.isBare {name : String} (h : IsStoredDomain name)
    (hblank : ∀ c ∈ name.toList, isBlank c = false) : IsBare name.toList := by
  obtain ⟨labels, hl, -, rfl⟩ := h
  rw [String.toList_ofList] at hblank ⊢
  refine ⟨hl.at_not_mem, ?_⟩
  obtain ⟨c, rest, hcons, hc⟩ := hl.exists_cons
  rw [hcons] at hblank ⊢
  rintro d hd
  obtain rfl : c = d := Option.some.inj hd
  refine ⟨?_, hblank c List.mem_cons_self⟩
  rintro rfl
  exact absurd hc (by decide)

/-- What is read from a text is well-formed, and a well-formed pattern is read from its own text. -/
theorem patterns_read_back :
    (∀ s p, parse? s = some p → p.IsWellFormed) ∧
    (∀ p : EmailPattern, p.IsWellFormed → parse? p.text = some p) ∧
    (∀ name, (domain name).IsWellFormed → parse? name = some (.domain name)) ∧
    (∀ s : String, IsBare s.toList → parse? ("@" ++ s) = parse? s) ∧
    (∀ s t : String, SameButDomainCase s.toList t.toList → parse? s = parse? t) ∧
    ∀ s before after : String, isAllBlank before = true → isAllBlank after = true →
      parse? (before ++ s ++ after) = parse? s := by
  refine ⟨fun s p => isWellFormed_of_parse?, fun p => parse?_text, ?_, fun s => parse?_of_isBare,
    fun s t => SameButDomainCase.parse?_eq, ?_⟩
  · intro name h
    have hblank : ∀ c ∈ name.toList, isBlank c = false := by
      have htext := h.blankFree
      rw [toList_text_domain, List.forall_mem_cons] at htext
      exact htext.2
    have hstored : IsStoredDomain name := h.parts
    have hread := parse?_text h
    rwa [text, parse?_of_isBare (hstored.isBare hblank)] at hread
  · intro s before after hbefore hafter
    rw [isAllBlank, List.all_eq_true] at hbefore hafter
    apply parse?_congr
    rw [String.toList_append, String.toList_append]
    exact stripBlanks_surround hbefore hafter

/-- An address with blanks around it is stored with its domain in lower case. A domain is read alike
in capitals and with an at sign. -/
theorem patterns_read_back_of_capitals :
    let alice : EmailPattern := .address "Alice.B" "mail.example.com"
    let shop : EmailPattern := .domain "shop.co.uk"
    (parse? " Alice.B@Mail.EXAMPLE.com\n" = some alice ∧ alice.IsWellFormed ∧
      parse? "Alice.B@mail.example.com" = some alice) ∧
    (parse? "@shop.co.uk" = some shop ∧ parse? "shop.co.uk" = some shop ∧
      parse? "Shop.CO.UK" = some shop) := by
  intro alice shop
  obtain ⟨hwell, htext, hname, -, hcase, -⟩ := patterns_read_back
  have halice : parse? " Alice.B@Mail.EXAMPLE.com\n" = some alice := by decide +kernel
  have hshop : parse? "@shop.co.uk" = some shop := by decide +kernel
  have hplain : parse? "shop.co.uk" = some shop := hname "shop.co.uk" (hwell _ shop hshop)
  have hupper : SameButDomainCase "Shop.CO.UK".toList "shop.co.uk".toList :=
    .whole (by decide +kernel) (by decide +kernel)
  refine ⟨⟨halice, hwell _ alice halice, ?_⟩, hshop, hplain, ?_⟩
  · exact htext alice (hwell _ alice halice)
  · exact (hcase _ _ hupper).trans hplain

end Criteria.EmailPattern
