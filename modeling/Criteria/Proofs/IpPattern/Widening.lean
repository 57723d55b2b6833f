import Criteria.Proofs.IpPattern.LeadingBits
/-!
# Widening an address

An address can be widened to a network, by a number of leading bits, or to a wildcard, by stars for
some of its parts. The address itself still fits what it is widened to, and a network of all its bits
is as narrow as the address. There is one exception: an address of the second family that stands for
one of the first is compared as the one that it stands for, while a network and a wildcard keep the
family in which they are written. So such an address fits neither its own networks nor its wildcards.
-/
namespace Criteria

namespace IpAddress

/-- An address of the second family that stands for one of the first. -/
def IsMapped (a : IpAddress) : Prop :=
  a.canonical ≠ a

instance : DecidablePred IsMapped := fun a => inferInstanceAs (Decidable (a.canonical ≠ a))

/-- The octets or the segments of an address, the highest one first. -/
def parts : IpAddress → List Nat
  | v4 bits => octets bits
  | v6 bits => segments bits

def separator : IpAddress → Char
  | v4 _ => '.'
  | v6 _ => ':'

/-- How a part is written: an octet in decimal digits, and a segment in one to four hexadecimal
digits, perhaps with zeros in front. -/
def IsNumeral : IpAddress → List Char → Nat → Prop
  | v4 _, cs, n => cs = Text.digits n
  | v6 _, cs, n => cs ≠ [] ∧ cs.length ≤ 4 ∧ Text.hexValue? cs = some n

instance (a : IpAddress) (cs : List Char) (n : Nat) : Decidable (a.IsNumeral cs n) :=
  match a with
  | v4 _ => inferInstanceAs (Decidable (cs = Text.digits n))
  | v6 _ => inferInstanceAs (Decidable (cs ≠ [] ∧ cs.length ≤ 4 ∧ Text.hexValue? cs = some n))

/-- A text is an address written out with a star for at least one part. -/
def IsStarred (a : IpAddress) (text : String) : Prop :=
  ∃ places, text.toList = [a.separator].intercalate places ∧ ['*'] ∈ places ∧
    List.Forall₂ (fun cs n => cs = ['*'] ∨ a.IsNumeral cs n) places a.parts

private theorem stripBlanks_of_read? {cs : List Char} {a : IpAddress} (h : read? cs = some a) :
    Text.stripBlanks cs = cs :=
  Text.stripBlanks_of_forall fun c hc => isBlank_of_isAddressChar (isAddressChar_of_read? h c hc)

private theorem exists_v4_of_isMapped {a : IpAddress} (h : a.IsMapped) :
    ∃ bits low, a = v6 bits ∧ a.canonical = v4 low := by
  cases a with
  | v4 bits => exact absurd rfl h
  | v6 bits =>
    rw [IsMapped, canonical] at h
    split at h
    · next hm => exact ⟨bits, bits.setWidth 32, rfl, by rw [canonical, if_pos hm]⟩
    · exact absurd rfl h

private theorem sameLeadingBits_self (count : Nat) (a : IpAddress) :
    a.sameLeadingBits count a = true := by
  cases a with
  | v4 bits => exact beq_self_eq_true _
  | v6 bits => exact beq_self_eq_true _

private theorem sameLeadingBits_width (a b : IpAddress) :
    b.sameLeadingBits a.width a = (a == b) := by
  cases a with
  | v4 m =>
    cases b with
    | v4 n =>
      rw [width, sameLeadingBits, leadingMask_width, BitVec.and_allOnes, BitVec.and_allOnes,
        Bool.eq_iff_iff, beq_iff_eq, beq_iff_eq, v4.injEq, eq_comm]
    | v6 n => rfl
  | v6 m =>
    cases b with
    | v4 n => rfl
    | v6 n =>
      rw [width, sameLeadingBits, leadingMask_width, BitVec.and_allOnes, BitVec.and_allOnes,
        Bool.eq_iff_iff, beq_iff_eq, beq_iff_eq, v6.injEq, eq_comm]

private theorem width_le (a : IpAddress) : a.width ≤ 128 := by
  cases a with
  | v4 bits => simp [width]
  | v6 bits => simp [width]

private theorem lt_of_mem_octets {bits : BitVec 32} {n : Nat} (h : n ∈ octets bits) : n < 256 := by
  obtain ⟨shift, _, rfl⟩ := List.mem_map.mp h
  exact Nat.mod_lt _ (by decide)

end IpAddress

namespace IpPattern

open Text IpAddress

private theorem check?_of_parse? {live threshold : String} {p : IpPattern} {a : IpAddress}
    (hp : parse? threshold = some p) (ha : read? (stripBlanks live.toList) = some a) :
    check? live threshold = some (p.fits a) := by
  rw [check?, hp, ha]
  rfl

/-! ### Networks -/

private theorem isBlank_of_mem_digits {n : Nat} {c : Char} (h : c ∈ digits n) : isBlank c = false :=
  isBlank_of_isAddressChar (isAddressChar_of_isDigit (isDigit_of_mem_digits h))

theorem parse?_network {A : String} {a : IpAddress} (h : read? A.toList = some a) {n : Nat}
    (hn : n ≤ a.width) : parse? (A ++ "/" ++ toString n) = some (.network a n) := by
  have htext : (A ++ "/" ++ toString n).toList = A.toList ++ '/' :: digits n := by
    simp [digits]
  have hblank : ∀ c ∈ A.toList ++ '/' :: digits n, isBlank c = false := by
    intro c hc
    simp only [List.mem_append, List.mem_cons] at hc
    rcases hc with hc | rfl | hc
    · exact isBlank_of_isAddressChar (isAddressChar_of_read? h c hc)
    · decide
    · exact isBlank_of_mem_digits hc
  have hslash : '/' ∉ A.toList := fun hc => absurd (isAddressChar_of_read? h _ hc) (by decide)
  rw [parse?_eq_some, htext, stripBlanks_of_forall hblank]
  refine ⟨A.toList, digits n, rfl, hslash, ?_, ?_, hn⟩
  · rw [stripBlanks_of_read? h, h]
  · have hwidth := width_le a
    rw [stripBlanks_of_forall fun _ => isBlank_of_mem_digits]
    exact ⟨by omega, .inl ⟨0, rfl⟩⟩

theorem parse?_exact {A : String} {a : IpAddress} (h : read? A.toList = some a) :
    parse? A = some (.exact a.canonical) :=
  parse?_eq_some.mpr ⟨a, by rw [stripBlanks_of_read? h, h], rfl⟩

private theorem fits_network {a b : IpAddress} (h : ¬a.IsMapped) :
    (network a a.width).fits b = (IpPattern.exact a.canonical).fits b := by
  rw [IsMapped, not_not] at h
  rw [fits, fits, h, sameLeadingBits_width]

theorem fits_own_network (a : IpAddress) (n : Nat) :
    (network a n).fits a = decide ¬a.IsMapped := by
  by_cases h : a.IsMapped
  · obtain ⟨bits, low, rfl, hc⟩ := exists_v4_of_isMapped h
    simp [fits, hc, sameLeadingBits, h]
  · have hc : a.canonical = a := not_not.mp h
    simp [fits, hc, sameLeadingBits_self, h]

/-! ### Wildcards -/

private theorem divider_eq_separator (a : IpAddress) :
    divider (a.separator == ':') = a.separator := by
  cases a with
  | v4 bits => rfl
  | v6 bits => rfl

private theorem length_parts (a : IpAddress) :
    a.parts.length = placeCount (a.separator == ':') := by
  cases a with
  | v4 bits => rfl
  | v6 bits => rfl

private theorem isPlace_of_isNumeral {a : IpAddress} {cs : List Char} {n : Nat} (hn : n ∈ a.parts)
    (h : a.IsNumeral cs n) : IsPlace (a.separator == ':') cs (some n) := by
  cases a with
  | v4 bits => exact ⟨Nat.le_of_lt_succ (lt_of_mem_octets hn), h⟩
  | v6 bits => exact ⟨h.2.1, denotes_sixteen_iff.mpr ⟨h.1, h.2.2⟩⟩

private theorem exists_filled_places {isV6 : Bool} {places : List (List Char)} {ns : List Nat}
    (h : List.Forall₂ (fun cs n => cs = ['*'] ∨ IsPlace isV6 cs (some n)) places ns) :
    ∃ segments, List.Forall₂ (IsPlace isV6) places segments ∧ fills segments ns = true := by
  induction h with
  | nil => exact ⟨[], .nil, rfl⟩
  | @cons cs n places ns hplace _ ih =>
    obtain ⟨segments, hplaces, hfills⟩ := ih
    rw [fills] at hfills
    rcases hplace with hstar | hnumber
    · exact ⟨none :: segments, .cons hstar hplaces, by simpa [fills] using hfills⟩
    · exact ⟨some n :: segments, .cons hnumber hplaces, by simpa [fills] using hfills⟩

private theorem stripBlanks_of_isWritten {cs : List Char} {isV6 : Bool}
    {segments : List (Option Nat)}
    (h : IsWritten cs (wildcard isV6 segments)) : stripBlanks cs = cs := by
  obtain ⟨-, -, places, rfl, hplaces⟩ := h
  refine stripBlanks_of_forall fun c hc => ?_
  rw [mem_intercalate] at hc
  rcases hc with ⟨rfl, -⟩ | ⟨place, hplace, hc⟩
  · cases isV6 with
    | false => decide
    | true => decide
  · rcases star_or_hexDigit_of_places hplaces place hplace c hc with rfl | hdigit
    · decide
    · exact isBlank_of_isAddressChar (isAddressChar_of_hexDigit hdigit)

private theorem exists_wildcard_of_isStarred {a : IpAddress} {w : String} (h : a.IsStarred w) :
    ∃ segments, parse? w = some (.wildcard (a.separator == ':') segments) ∧
      fills segments a.parts = true := by
  obtain ⟨places, htext, hstar, hplaces⟩ := h
  have hread : List.Forall₂
      (fun cs n => cs = ['*'] ∨ IsPlace (a.separator == ':') cs (some n)) places a.parts := by
    have hmem := (List.forall₂_and_left _ _).mpr ⟨fun _ hn => hn, hplaces.flip⟩
    apply hmem.flip.imp
    intro cs n hp
    exact hp.2.imp_right (isPlace_of_isNumeral hp.1)
  obtain ⟨segments, hsegments, hfills⟩ := exists_filled_places hread
  have hwritten : IsWritten w.toList (wildcard (a.separator == ':') segments) := by
    refine ⟨?_, ?_, places, ?_, hsegments⟩
    · rw [htext, mem_intercalate]
      exact .inr ⟨['*'], hstar, List.mem_singleton_self _⟩
    · rw [← length_parts, ← hread.length_eq, hsegments.length_eq]
    · rw [htext, divider_eq_separator]
  refine ⟨segments, parse?_eq_some.mpr ?_, hfills⟩
  rwa [stripBlanks_of_isWritten hwritten]

theorem fits_own_wildcard {a : IpAddress} {segments : List (Option Nat)}
    (h : fills segments a.parts = true) :
    (wildcard (a.separator == ':') segments).fits a = decide ¬a.IsMapped := by
  by_cases hm : a.IsMapped
  · obtain ⟨bits, low, rfl, hc⟩ := exists_v4_of_isMapped hm
    simp [fits, hc, separator, hm]
  · have hc : a.canonical = a := not_not.mp hm
    cases a with
    | v4 bits => simpa [fits, hc, separator, parts, hm] using h
    | v6 bits => simpa [fits, hc, separator, parts, hm] using h

/-! ### Addresses and what they are widened to -/

/-- Every text of an address fits its networks and its wildcards, unless the address is one of the
second family that stands for one of the first. -/
theorem address_fits_widened {A : String} {a : IpAddress} (h : read? A.toList = some a) :
    (∀ n ≤ a.width, check? A (A ++ "/" ++ toString n) = some (decide ¬a.IsMapped)) ∧
    (∀ w, a.IsStarred w → check? A w = some (decide ¬a.IsMapped)) ∧
    ((∀ live, check? live (A ++ "/" ++ toString a.width) = check? live A) ↔ ¬a.IsMapped) := by
  have hlive : read? (stripBlanks A.toList) = some a := by rw [stripBlanks_of_read? h, h]
  have hnetwork : ∀ n ≤ a.width,
      check? A (A ++ "/" ++ toString n) = some (decide ¬a.IsMapped) := by
    intro n hn
    rw [check?_of_parse? (parse?_network h hn) hlive, fits_own_network]
  refine ⟨hnetwork, ?_, ?_, ?_⟩
  · intro w hw
    obtain ⟨segments, hp, hf⟩ := exists_wildcard_of_isStarred hw
    rw [check?_of_parse? hp hlive, fits_own_wildcard hf]
  · intro hall hm
    have hexact : check? A A = some true := by
      rw [check?_of_parse? (parse?_exact h) hlive, fits, beq_self_eq_true]
    have hown := hall A
    rw [hnetwork a.width le_rfl, hexact] at hown
    simp [hm] at hown
  · intro hm live
    rw [check?, check?, parse?_network h le_rfl, parse?_exact h]
    cases read? (stripBlanks live.toList) with
    | none => rfl
    | some b => exact congrArg some (fits_network hm)

/-- An address with a run of zeros left out, two networks of it, and a wildcard in upper case. -/
theorem address_fits_widened_of_run :
    check? "2001:db8::1" "2001:db8::1/32" = some true ∧
    check? "2001:db8::1" "2001:0DB8:*:0:*:0:*:0001" = some true ∧
    check? "2001:db8::2" "2001:db8::1/128" = check? "2001:db8::2" "2001:db8::1" := by
  have ha : read? "2001:db8::1".toList = some (.v6 0x20010db8000000000000000000000001#128) := by
    decide +kernel
  have hm : ¬IsMapped (.v6 0x20010db8000000000000000000000001#128) := by
    decide +kernel
  have hs : IsStarred (.v6 0x20010db8000000000000000000000001#128)
      "2001:0DB8:*:0:*:0:*:0001" :=
    ⟨["2001", "0DB8", "*", "0", "*", "0", "*", "0001"].map String.toList, by decide +kernel,
      by decide +kernel, by decide +kernel⟩
  have h := address_fits_widened ha
  have h₃₂ : "2001:db8::1" ++ "/" ++ toString 32 = "2001:db8::1/32" := by decide +kernel
  have h₁₂₈ : "2001:db8::1" ++ "/" ++ toString 128 = "2001:db8::1/128" := by decide +kernel
  have hnetwork := h.1 32 (by decide)
  have hwildcard := h.2.1 _ hs
  have hall := h.2.2.mpr hm "2001:db8::2"
  rw [h₃₂, decide_eq_true hm] at hnetwork
  rw [decide_eq_true hm] at hwildcard
  rw [width, h₁₂₈] at hall
  exact ⟨hnetwork, hwildcard, hall⟩

/-- An address that stands for one of the first family fits itself, but not its networks and
wildcards. -/
theorem mapped_address_lost_when_widened :
    check? "::ffff:10.0.0.5" "::ffff:10.0.0.5" = some true ∧
    check? "::ffff:10.0.0.5" "::ffff:10.0.0.5/128" = some false ∧
    check? "::ffff:10.0.0.5" "0:0:0:0:0:ffff:a00:*" = some false := by
  decide +kernel

end IpPattern
end Criteria
