import Criteria.IpPattern
import Criteria.Proofs.IpPattern.Alphabet
import Criteria.Proofs.Text.Numeral
import Mathlib.Data.List.Forall2
import Mathlib.Data.Set.Lattice
import Mathlib.Order.CompletePartialOrder
/-!
# The grammar of patterns

What a text has to look like to be an exact address, a network or a wildcard. The readers accept these
texts and no others. The characters of a text tell which of the three it can be: a network has a slash,
a wildcard a star, and an address neither. So no text is of two kinds, and the readers can be tried in
any order.
-/
namespace Criteria.IpPattern

open Text

/-- How a number of leading bits is written: as a decimal numeral of a number up to 255, perhaps with a
plus sign in front. -/
def IsCount (cs : List Char) (n : Nat) : Prop :=
  n ≤ 255 ∧ (Denotes 10 cs n ∨ ∃ ds, cs = '+' :: ds ∧ Denotes 10 ds n)

/-- How a place of a wildcard is written: a free one as a star, an octet in its decimal digits, and a
segment as a hexadecimal numeral of up to four digits, in which case does not matter. -/
def IsPlace (isV6 : Bool) (cs : List Char) : Option Nat → Prop
  | none => cs = ['*']
  | some n =>
    if isV6 then cs.length ≤ 4 ∧ Denotes 16 (cs.map Char.toLower) n else n ≤ 255 ∧ cs = digits n

/-- What stands between the places of a wildcard. -/
def divider (isV6 : Bool) : Char :=
  if isV6 then ':' else '.'

def placeCount (isV6 : Bool) : Nat :=
  if isV6 then 8 else 4

/-- How a pattern is written. Of an address, the text forms are those of its reader. -/
def IsWritten (cs : List Char) : IpPattern → Prop
  | exact address => ∃ a, IpAddress.read? cs = some a ∧ address = a.canonical
  | network address bits =>
    ∃ front back, cs = front ++ '/' :: back ∧ '/' ∉ front ∧
      IpAddress.read? (stripBlanks front) = some address ∧ IsCount (stripBlanks back) bits ∧
      bits ≤ address.width
  | wildcard isV6 segments =>
    '*' ∈ cs ∧ segments.length = placeCount isV6 ∧
      ∃ places, cs = [divider isV6].intercalate places ∧
        List.Forall₂ (IsPlace isV6) places segments

def addresses : Set (List Char) :=
  {cs | ∃ address, IsWritten cs (exact address)}

def networks : Set (List Char) :=
  {cs | ∃ address bits, IsWritten cs (network address bits)}

def wildcards : Set (List Char) :=
  {cs | ∃ isV6 segments, IsWritten cs (wildcard isV6 segments)}

def readExact? (cs : List Char) : Option IpPattern :=
  (IpAddress.read? cs).map fun a => exact a.canonical

variable {cs : List Char} {p q : IpPattern} {n : Nat} {isV6 : Bool} {place : Option Nat}
  {segments : List (Option Nat)}

/-! ### Addresses and networks -/

theorem readExact?_eq_some :
    readExact? cs = some p ↔ ∃ address, p = exact address ∧ IsWritten cs p := by
  rw [readExact?, Option.map_eq_some_iff]
  constructor
  · rintro ⟨a, ha, rfl⟩
    exact ⟨_, rfl, a, ha, rfl⟩
  · rintro ⟨_, rfl, a, ha, rfl⟩
    exact ⟨a, ha, rfl⟩

private theorem readBits?_eq_some : readBits? cs = some n ↔ IsCount cs n := by
  have hunsigned (ds : List Char) :
      (if ds.isEmpty || !ds.all Char.isDigit || 255 < digitsValue ds then none
        else some (digitsValue ds)) = some n ↔ n ≤ 255 ∧ Denotes 10 ds n := by
    rw [denotes_ten_iff]
    simp only [Option.ite_none_left_eq_some, Bool.or_eq_true, List.isEmpty_iff, Bool.not_eq_true',
      decide_eq_true_eq, not_or, Bool.not_eq_false, List.all_eq_true, Nat.not_lt, Option.some.injEq]
    constructor
    · rintro ⟨⟨⟨hne, hdigit⟩, hle⟩, rfl⟩
      exact ⟨hle, hne, hdigit, rfl⟩
    · rintro ⟨hle, hne, hdigit, rfl⟩
      exact ⟨⟨⟨hne, hdigit⟩, hle⟩, rfl⟩
  have hsign {ds : List Char} : ¬Denotes 10 ('+' :: ds) n := fun h =>
    absurd ((denotes_ten_iff.mp h).2.1 '+' List.mem_cons_self) (by decide)
  unfold readBits?
  split
  · next ds => simp only [hunsigned, IsCount, hsign, false_or, List.cons.injEq, true_and,
      exists_eq_left']
  · next hplus =>
    have hno : ¬∃ ds, cs = '+' :: ds ∧ Denotes 10 ds n := fun ⟨ds, h, _⟩ => hplus ds h
    simp only [hunsigned, IsCount, hno, or_false]

theorem readNetwork?_eq_some :
    readNetwork? cs = some p ↔ ∃ address bits, p = network address bits ∧ IsWritten cs p := by
  simp only [readNetwork?, Option.bind_eq_bind, Option.bind_eq_some_iff, Prod.exists,
    splitOnce_eq_some, readBits?_eq_some, Option.ite_none_right_eq_some, Option.some.injEq]
  constructor
  · rintro ⟨front, back, ⟨rfl, hfront⟩, address, ha, bits, hbits, hle, rfl⟩
    exact ⟨address, bits, rfl, front, back, rfl, hfront, ha, hbits, hle⟩
  · rintro ⟨address, bits, rfl, front, back, rfl, hfront, ha, hbits, hle⟩
    exact ⟨front, back, ⟨rfl, hfront⟩, address, ha, bits, hbits, hle, rfl⟩

/-! ### Places -/

theorem readOctet?_eq_some : readOctet? cs = some n ↔ n ≤ 255 ∧ cs = digits n := by
  simp only [readOctet?, Option.ite_none_left_eq_some, Bool.or_eq_true, Bool.and_eq_true,
    List.isEmpty_iff, Bool.not_eq_true', decide_eq_true_eq, beq_iff_eq, not_or, not_and,
    Bool.not_eq_false, List.all_eq_true, Nat.not_lt, Option.some.injEq]
  constructor
  · rintro ⟨⟨⟨⟨⟨hne, -⟩, hdigit⟩, hzero⟩, hle⟩, rfl⟩
    obtain ⟨zeros, hcs⟩ := denotes_ten_iff.mpr ⟨hne, hdigit, rfl⟩
    refine ⟨hle, ?_⟩
    cases zeros with
    | zero => exact hcs
    | succ zeros =>
      -- a zero in front of other digits, which is not allowed
      have hlength : 1 < cs.length := by
        have hpos := List.length_pos_iff.mpr (digits_ne_nil (digitsValue cs))
        rw [hcs, List.length_append, List.length_replicate]
        exact Nat.lt_of_lt_of_le (Nat.lt_add_of_pos_left (Nat.succ_pos zeros))
          (Nat.add_le_add_left hpos _)
      exact absurd (by rw [hcs]; rfl) (hzero hlength)
  · rintro ⟨hle, rfl⟩
    rw [digitsValue_digits]
    refine ⟨⟨⟨⟨⟨digits_ne_nil n, length_digits_le_three (by omega)⟩, ?_⟩, ?_⟩, hle⟩, rfl⟩
    · exact fun c hc => isDigit_of_mem_digits hc
    · intro hlength
      apply head?_digits
      rintro rfl
      exact absurd hlength (by decide)

theorem readSegment?_eq_some :
    readSegment? cs = some n ↔ cs.length ≤ 4 ∧ Denotes 16 (cs.map Char.toLower) n := by
  rw [denotes_sixteen_iff, readSegment?]
  simp only [Option.ite_none_left_eq_some, Bool.or_eq_true, List.isEmpty_iff, decide_eq_true_eq,
    not_or, Nat.not_lt]
  tauto

/-- The reader of the numbers in the places of a wildcard. -/
def readNumber? (isV6 : Bool) : List Char → Option Nat :=
  if isV6 then readSegment? else readOctet?

private theorem isSome_hexDigit?_of_readNumber? (h : readNumber? isV6 cs = some n) :
    ∀ c ∈ cs, (hexDigit? c).isSome = true := by
  intro c hc
  cases isV6 with
  | false =>
    obtain ⟨-, rfl⟩ := readOctet?_eq_some.mp h
    rw [hexDigit?, if_pos (isDigit_of_mem_digits hc), Option.isSome_some]
  | true =>
    obtain ⟨-, hvalue⟩ := denotes_sixteen_iff.mp (readSegment?_eq_some.mp h).2
    exact isSome_hexDigit?_of_hexValue? hvalue c hc

private theorem readPlace?_eq_some :
    readPlace? (readNumber? isV6) cs = some place ↔ IsPlace isV6 cs place := by
  have hnumber {m : Nat} : readNumber? isV6 cs = some m ↔ IsPlace isV6 cs (some m) := by
    cases isV6 with
    | false => exact readOctet?_eq_some
    | true => exact readSegment?_eq_some
  rw [readPlace?]
  split
  · next hstar =>
    cases place with
    | none => simp [IsPlace, hstar]
    | some m =>
      simp only [Option.some.injEq, reduceCtorEq, false_iff]
      intro h
      have hdigit := isSome_hexDigit?_of_readNumber? (hnumber.mpr h) '*' (by simp [hstar])
      exact absurd hdigit (by decide)
  · next hstar =>
    cases place with
    | none => simp [IsPlace, hstar]
    | some m => simp [hnumber]

private theorem star_or_hexDigit_of_isPlace (h : IsPlace isV6 cs place) :
    ∀ c ∈ cs, c = '*' ∨ (hexDigit? c).isSome = true := by
  intro c hc
  cases place with
  | none =>
    rw [IsPlace] at h
    exact .inl (List.mem_singleton.mp (h ▸ hc))
  | some n =>
    have hread := readPlace?_eq_some.mpr h
    rw [readPlace?] at hread
    split at hread
    · cases hread
    · obtain ⟨m, hm, -⟩ := Option.map_eq_some_iff.mp hread
      exact .inr (isSome_hexDigit?_of_readNumber? hm c hc)

/-! ### Wildcards -/

private theorem mapM_eq_some_iff {α β : Type} {f : α → Option β} {xs : List α} {ys : List β} :
    xs.mapM f = some ys ↔ List.Forall₂ (fun x y => f x = some y) xs ys := by
  induction xs generalizing ys with
  | nil => cases ys <;> simp
  | cons x xs ih =>
    rw [List.mapM_cons, Option.bind_eq_bind, Option.bind_eq_some_iff]
    constructor
    · intro h
      obtain ⟨y, hy, h⟩ := h
      obtain ⟨rest, hrest, he⟩ := Option.bind_eq_some_iff.mp h
      cases he
      exact .cons hy (ih.mp hrest)
    · intro h
      cases h with
      | cons hy hrest => exact ⟨_, hy, by rw [ih.mpr hrest]; rfl⟩

theorem star_or_hexDigit_of_places {places : List (List Char)}
    (h : List.Forall₂ (IsPlace isV6) places segments) :
    ∀ cs ∈ places, ∀ c ∈ cs, c = '*' ∨ (hexDigit? c).isSome = true := by
  induction h with
  | nil => simp
  | cons hplace _ ih => exact List.forall_mem_cons.mpr ⟨star_or_hexDigit_of_isPlace hplace, ih⟩

private theorem divider_not_in_place (isV6 : Bool) :
    ¬(divider isV6 = '*' ∨ (hexDigit? (divider isV6)).isSome = true) := by
  cases isV6 with
  | false => decide
  | true => decide

private theorem mapM_readPlace?_eq_some (hlength : segments.length = placeCount isV6) :
    (splitOn (divider isV6) cs).mapM (readPlace? (readNumber? isV6)) = some segments ↔
      ∃ places, cs = [divider isV6].intercalate places ∧
        List.Forall₂ (IsPlace isV6) places segments := by
  rw [mapM_eq_some_iff, splitOn_eq]
  simp only [readPlace?_eq_some]
  constructor
  · intro h
    exact ⟨cs.splitOn (divider isV6), (List.intercalate_splitOn _).symm, h⟩
  · intro h
    obtain ⟨places, rfl, hplaces⟩ := h
    have hdivider : ∀ cs ∈ places, divider isV6 ∉ cs := by
      intro cs hcs hd
      exact divider_not_in_place isV6 (star_or_hexDigit_of_places hplaces cs hcs _ hd)
    have hplaces_ne : places ≠ [] := by
      rintro rfl
      rw [List.forall₂_nil_left_iff.mp hplaces] at hlength
      cases isV6 <;> cases hlength
    rwa [List.splitOn_intercalate _ hdivider hplaces_ne]

/-- The colons of a text tell the family of the wildcard that it can be. -/
private theorem contains_colon_of_isWritten (h : IsWritten cs (wildcard isV6 segments)) :
    cs.contains ':' = isV6 := by
  obtain ⟨-, hlength, places, rfl, hplaces⟩ := h
  cases isV6 with
  | false =>
    rw [List.contains_eq_mem, decide_eq_false_iff_not, mem_intercalate]
    intro hcolon
    rcases hcolon with ⟨hcolon, -⟩ | ⟨cs, hcs, hcolon⟩
    · cases hcolon
    · exact absurd (star_or_hexDigit_of_places hplaces cs hcs _ hcolon) (by decide)
  | true =>
    rw [List.contains_eq_mem, decide_eq_true_eq, mem_intercalate]
    have hcount : places.length = 8 := hplaces.length_eq.trans hlength
    exact .inl ⟨rfl, by omega⟩

private theorem readWildcard?_eq (cs : List Char) :
    readWildcard? cs =
      if '*' ∈ cs then
        ((splitOn (divider (cs.contains ':')) cs).mapM
          (readPlace? (readNumber? (cs.contains ':')))).bind fun segments =>
            if segments.length = placeCount (cs.contains ':') then
              some (wildcard (cs.contains ':') segments)
            else none
      else none := by
  rw [readWildcard?]
  by_cases hstar : '*' ∈ cs
  · cases hcolon : cs.contains ':' with
    | false => simp [hstar, divider, placeCount, readNumber?]
    | true => simp [hstar, divider, placeCount, readNumber?]
  · simp [hstar]

theorem readWildcard?_eq_some :
    readWildcard? cs = some p ↔ ∃ isV6 segments, p = wildcard isV6 segments ∧ IsWritten cs p := by
  rw [readWildcard?_eq]
  simp only [Option.ite_none_right_eq_some, Option.bind_eq_some_iff, Option.some.injEq]
  constructor
  · intro h
    obtain ⟨hstar, segments, hplaces, hlength, rfl⟩ := h
    exact ⟨_, segments, rfl, hstar, hlength, (mapM_readPlace?_eq_some hlength).mp hplaces⟩
  · intro h
    obtain ⟨isV6, segments, rfl, h⟩ := h
    have hcolon := contains_colon_of_isWritten h
    obtain ⟨hstar, hlength, hplaces⟩ := h
    rw [hcolon]
    exact ⟨hstar, segments, (mapM_readPlace?_eq_some hlength).mpr hplaces, hlength, rfl⟩

/-! ### The three kinds -/

private theorem slash_mem_iff (h : IsWritten cs p) :
    '/' ∈ cs ↔ ∃ address bits, p = network address bits := by
  cases p with
  | exact address =>
    obtain ⟨a, ha, -⟩ := h
    have hslash : '/' ∉ cs := fun hc => absurd (IpAddress.isAddressChar_of_read? ha _ hc) (by decide)
    simp [hslash]
  | network address bits =>
    obtain ⟨front, back, rfl, -⟩ := h
    simp
  | wildcard isV6 segments =>
    have hslash : '/' ∉ cs := by
      obtain ⟨-, -, places, rfl, hplaces⟩ := h
      rw [mem_intercalate]
      intro hc
      rcases hc with ⟨hc, -⟩ | ⟨cs, hcs, hc⟩
      · cases isV6 <;> cases hc
      · exact absurd (star_or_hexDigit_of_places hplaces cs hcs _ hc) (by decide)
    simp [hslash]

private theorem star_not_mem_of_isWritten {address : IpAddress} (h : IsWritten cs (exact address)) :
    '*' ∉ cs := by
  obtain ⟨a, ha, -⟩ := h
  exact fun hc => absurd (IpAddress.isAddressChar_of_read? ha _ hc) (by decide)

private theorem read_of_isWritten (h : IsWritten cs p) :
    (if '/' ∈ cs then readNetwork? cs else if '*' ∈ cs then readWildcard? cs else readExact? cs) =
      some p := by
  have hslash := slash_mem_iff h
  cases p with
  | exact address =>
    have hread : readExact? cs = some (exact address) := readExact?_eq_some.mpr ⟨_, rfl, h⟩
    simp [hslash, star_not_mem_of_isWritten h, hread]
  | network address bits =>
    have hread : readNetwork? cs = some (network address bits) :=
      readNetwork?_eq_some.mpr ⟨_, _, rfl, h⟩
    simp [hslash, hread]
  | wildcard isV6 segments =>
    have hread : readWildcard? cs = some (wildcard isV6 segments) :=
      readWildcard?_eq_some.mpr ⟨_, _, rfl, h⟩
    simp [hslash, h.1, hread]

/-- A text is written for one pattern at most. -/
private theorem IsWritten.unique (hp : IsWritten cs p) (hq : IsWritten cs q) : p = q :=
  Option.some.inj ((read_of_isWritten hp).symm.trans (read_of_isWritten hq))

private theorem exists_attempt_iff :
    (∃ attempt ∈ [readExact?, readNetwork?, readWildcard?], attempt cs = some p) ↔
      IsWritten cs p := by
  simp only [List.exists_mem_cons_iff, List.not_mem_nil, false_and, exists_false, or_false,
    readExact?_eq_some, readNetwork?_eq_some, readWildcard?_eq_some]
  constructor
  · rintro (⟨_, -, h⟩ | ⟨_, _, -, h⟩ | ⟨_, _, -, h⟩)
    · exact h
    · exact h
    · exact h
  · intro h
    cases p with
    | exact address => exact .inl ⟨_, rfl, h⟩
    | network address bits => exact .inr (.inl ⟨_, _, rfl, h⟩)
    | wildcard isV6 segments => exact .inr (.inr ⟨_, _, rfl, h⟩)

private theorem findSome?_attempts {attempts : List (List Char → Option IpPattern)}
    (h : attempts.Perm [readExact?, readNetwork?, readWildcard?]) (cs : List Char) :
    attempts.findSome? (· cs) = some p ↔ IsWritten cs p := by
  have hmem {q : IpPattern} : (∃ attempt ∈ attempts, attempt cs = some q) ↔ IsWritten cs q := by
    simp only [h.mem_iff]
    exact exists_attempt_iff
  constructor
  · intro hfind
    exact hmem.mp (List.exists_of_findSome?_eq_some hfind)
  · intro hp
    have hsome : (attempts.findSome? (· cs)).isSome = true := by
      obtain ⟨attempt, ha, hread⟩ := hmem.mpr hp
      exact List.findSome?_isSome_iff.mpr ⟨attempt, ha, Option.isSome_of_eq_some hread⟩
    obtain ⟨q, hq⟩ := Option.isSome_iff_exists.mp hsome
    have hwritten := hmem.mp (List.exists_of_findSome?_eq_some hq)
    rw [hq, hp.unique hwritten]

theorem parse?_eq_attempts (s : String) :
    parse? s =
      [readExact?, readNetwork?, readWildcard?].findSome? (· (stripBlanks s.toList)) := by
  rw [parse?, List.findSome?_cons, List.findSome?_cons, List.findSome?_cons, readExact?]
  cases IpAddress.read? (stripBlanks s.toList) with
  | some a => rfl
  | none =>
    cases readNetwork? (stripBlanks s.toList) with
    | some p => rfl
    | none => cases readWildcard? (stripBlanks s.toList) <;> rfl

theorem parse?_eq_some {s : String} : parse? s = some p ↔ IsWritten (stripBlanks s.toList) p := by
  rw [parse?_eq_attempts]
  exact findSome?_attempts (List.Perm.refl _) _

/-- A text is read, blanks around it apart, as the one pattern that it is written for, if there is
one. -/
theorem parse?_by_grammar (s : String) :
    (∀ p, parse? s = some p ↔ IsWritten (stripBlanks s.toList) p) ∧
    (parse? s = none ↔ ∀ p, ¬IsWritten (stripBlanks s.toList) p) ∧
    [addresses, networks, wildcards].Pairwise Disjoint ∧
    ∀ attempts : List (List Char → Option IpPattern),
      attempts.Perm [readExact?, readNetwork?, readWildcard?] →
        attempts.findSome? (· (stripBlanks s.toList)) = parse? s := by
  refine ⟨fun _ => parse?_eq_some, ?_, ?_, ?_⟩
  · simp only [← parse?_eq_some, Option.eq_none_iff_forall_ne_some, ne_eq]
  · simp only [List.pairwise_cons, List.mem_cons, List.not_mem_nil, or_false, forall_eq_or_imp,
      forall_eq, Set.disjoint_left, false_imp_iff, implies_true, List.Pairwise.nil, and_true]
    refine ⟨⟨?_, ?_⟩, ?_⟩
    · rintro cs ⟨_, hp⟩ ⟨_, _, hq⟩
      cases hp.unique hq
    · rintro cs ⟨_, hp⟩ ⟨_, _, hq⟩
      cases hp.unique hq
    · rintro cs ⟨_, _, hp⟩ ⟨_, _, hq⟩
      cases hp.unique hq
  · intro attempts h
    ext p
    rw [findSome?_attempts h, parse?_eq_some]

/-- A sign and zeros stand in front of a number of bits, and an octet with a zero too many is not
read. -/
theorem parse?_by_grammar_of_signed_count :
    let net := IpAddress.v6 0x20010db8000000000000000000000000#128
    (parse? " 2001:DB8:: / +032 " = some (network net 32) ∧
      [readWildcard?, readNetwork?, readExact?].findSome? (· "2001:DB8:: / +032".toList) =
        some (network net 32)) ∧
    IsWritten "10.0.*.255".toList (wildcard false [some 10, some 0, none, some 255]) ∧
    ∀ p, ¬IsWritten "10.0.*.00".toList p := by
  intro net
  have hnetwork : parse? " 2001:DB8:: / +032 " = some (network net 32) := by decide +kernel
  have hstrip : stripBlanks " 2001:DB8:: / +032 ".toList = "2001:DB8:: / +032".toList := by
    decide +kernel
  have horder := (parse?_by_grammar " 2001:DB8:: / +032 ").2.2.2
    [readWildcard?, readNetwork?, readExact?]
    (List.reverse_perm [readExact?, readNetwork?, readWildcard?])
  rw [hstrip, hnetwork] at horder
  have hwildcard := (parse?_by_grammar "10.0.*.255").1
    (wildcard false [some 10, some 0, none, some 255])
  have hnone := (parse?_by_grammar "10.0.*.00").2.1
  exact ⟨⟨hnetwork, horder⟩, hwildcard.mp (by decide +kernel), hnone.mp (by decide +kernel)⟩

end Criteria.IpPattern
