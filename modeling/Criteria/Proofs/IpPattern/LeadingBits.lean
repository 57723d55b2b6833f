import Criteria.Proofs.IpPattern.Grammar
/-!
# Leading bits

A network is compared with an address under a mask. The mask is a shift that stays inside the word, for
every number of bits that a network can be read with, and the comparison under it is agreement on that
many leading bits. An address that stands for one of the first family is compared as that one.
-/
namespace Criteria

namespace IpAddress

/-- Two addresses are of one family and have the same first bits. -/
def AgreeOnFirst (count : Nat) : IpAddress → IpAddress → Prop
  | v4 a, v4 b => ∀ i < count, a.getMsbD i = b.getMsbD i
  | v6 a, v6 b => ∀ i < count, a.getMsbD i = b.getMsbD i
  | _, _ => False

def SameFamily : IpAddress → IpAddress → Prop
  | v4 _, v4 _ | v6 _, v6 _ => True
  | _, _ => False

/-- The address of the second family that stands for one of the first. -/
def mapped (bits : BitVec 32) : IpAddress :=
  .v6 (0xffff#96 ++ bits)

variable {width count : Nat}

private theorem getMsbD_leadingMask (h : count ≤ width) (i : Nat) :
    (leadingMask width count).getMsbD i = decide (i < count) := by
  rw [leadingMask]
  split
  · next hzero => simp [hzero]
  · rw [BitVec.getMsbD_shiftLeft, BitVec.getMsbD_allOnes, decide_eq_decide]
    omega

theorem leadingMask_width (width : Nat) : leadingMask width width = BitVec.allOnes width := by
  refine BitVec.eq_of_getMsbD_eq fun i _ => ?_
  rw [getMsbD_leadingMask (Nat.le_refl width), BitVec.getMsbD_allOnes]

private theorem and_leadingMask_eq_iff (h : count ≤ width) (a b : BitVec width) :
    a &&& leadingMask width count = b &&& leadingMask width count ↔
      ∀ i < count, a.getMsbD i = b.getMsbD i := by
  constructor
  · intro hab i hi
    have hbit := congrArg (BitVec.getMsbD · i) hab
    simpa [BitVec.getMsbD_and, getMsbD_leadingMask h, hi] using hbit
  · intro hab
    refine BitVec.eq_of_getMsbD_eq fun i _ => ?_
    rw [BitVec.getMsbD_and, BitVec.getMsbD_and, getMsbD_leadingMask h]
    by_cases hi : i < count
    · rw [hab i hi]
    · simp [hi]

theorem sameLeadingBits_iff {a b : IpAddress} (h : count ≤ b.width) :
    a.sameLeadingBits count b = true ↔ AgreeOnFirst count a b := by
  cases a with
  | v4 m =>
    cases b with
    | v4 n => exact beq_iff_eq.trans (and_leadingMask_eq_iff h m n)
    | v6 n => simp [sameLeadingBits, AgreeOnFirst]
  | v6 m =>
    cases b with
    | v4 n => simp [sameLeadingBits, AgreeOnFirst]
    | v6 n => exact beq_iff_eq.trans (and_leadingMask_eq_iff h m n)

private theorem AgreeOnFirst.mono {a b : IpAddress} (h : AgreeOnFirst count a b) {fewer : Nat}
    (hle : fewer ≤ count) : AgreeOnFirst fewer a b := by
  cases a with
  | v4 m =>
    cases b with
    | v4 n => exact fun i hi => h i (Nat.lt_of_lt_of_le hi hle)
    | v6 n => exact h
  | v6 m =>
    cases b with
    | v4 n => exact h
    | v6 n => exact fun i hi => h i (Nat.lt_of_lt_of_le hi hle)

private theorem AgreeOnFirst.sameFamily {a b : IpAddress} (h : AgreeOnFirst count a b) :
    SameFamily a b := by
  cases a with
  | v4 m =>
    cases b with
    | v4 n => trivial
    | v6 n => exact h
  | v6 m =>
    cases b with
    | v4 n => exact h
    | v6 n => trivial

private theorem canonical_mapped (bits : BitVec 32) : (mapped bits).canonical = v4 bits := by
  have hhigh : (0xffff#96 ++ bits) >>> 32 = 0xffff#(96 + 32) := by
    apply BitVec.eq_of_toNat_eq
    rw [BitVec.toNat_ushiftRight, BitVec.toNat_append, Nat.shiftRight_or_distrib,
      Nat.shiftLeft_shiftRight, Nat.shiftRight_eq_div_pow, Nat.div_eq_of_lt bits.isLt]
    rfl
  have hlow : (0xffff#96 ++ bits).setWidth 32 = bits := by
    rw [BitVec.setWidth_append, dif_pos (Nat.le_refl 32), BitVec.setWidth_eq]
  rw [mapped, canonical, if_pos hhigh, hlow]

end IpAddress

namespace IpPattern

open IpAddress

variable {net : IpAddress} {bits : Nat}

/-- A network is read with no more bits than its address has. -/
theorem bits_le_of_parse? {raw : String} (h : parse? raw = some (.network net bits)) :
    bits ≤ net.width := by
  obtain ⟨_, _, _, _, _, _, hle⟩ := parse?_eq_some.mp h
  exact hle

theorem fits_network_iff (h : bits ≤ net.width) (a : IpAddress) :
    (network net bits).fits a = true ↔ AgreeOnFirst bits a.canonical net := by
  rw [fits]
  exact sameLeadingBits_iff h

/-- An address matches a network when its canonical form has the family and the first bits of the
network. -/
theorem network_fits_leading_bits {raw : String} (h : parse? raw = some (.network net bits)) :
    bits ≤ net.width ∧ (bits ≠ 0 → net.width - bits < net.width) ∧
    (∀ a, (network net bits).fits a = true ↔ AgreeOnFirst bits a.canonical net) ∧
    (∀ low, (network net bits).fits (mapped low) = (network net bits).fits (v4 low)) ∧
    (∀ low live live', read? (Text.stripBlanks live.toList) = some (v4 low) →
      read? (Text.stripBlanks live'.toList) = some (mapped low) →
        check? live' raw = check? live raw) ∧
    (∀ a, ¬SameFamily a.canonical net → (network net bits).fits a = false) ∧
    ∀ a fewer, fewer ≤ bits → (network net bits).fits a = true →
      (network net fewer).fits a = true := by
  have hbits : bits ≤ net.width := bits_le_of_parse? h
  have hmapped (low : BitVec 32) :
      (network net bits).fits (mapped low) = (network net bits).fits (v4 low) := by
    rw [fits, fits, canonical_mapped, canonical]
  refine ⟨hbits, ?_, fits_network_iff hbits, hmapped, ?_, ?_, ?_⟩
  · intro hpos
    omega
  · intro low live live' hlive hlive'
    simp [check?, h, hlive, hlive', hmapped]
  · intro a hother
    rw [Bool.eq_false_iff]
    exact fun hfits => hother ((fits_network_iff hbits a).mp hfits).sameFamily
  · intro a fewer hle hfits
    have hagree := (fits_network_iff hbits a).mp hfits
    exact (fits_network_iff (Nat.le_trans hle hbits) a).mpr (hagree.mono hle)

/-- An address in the form of the second family matches a network of the first, the loopback address
of the second does not. -/
theorem network_fits_leading_bits_of_mapped_live :
    let raw := "10.0.0.0/24"
    let net := ofOctets 10 0 0 0
    let low := 0x0a000005#32
    parse? raw = some (.network net 24) ∧ check? "::ffff:10.0.0.5" raw = check? "10.0.0.5" raw ∧
      check? "10.0.0.5" raw = some true ∧ AgreeOnFirst 24 (v4 low) net ∧
      (network net 24).fits (v6 1#128) = false ∧ (network net 0).fits (v4 low) = true := by
  intro raw net low
  have hparse : parse? raw = some (.network net 24) := by decide +kernel
  have hmatch : check? "10.0.0.5" raw = some true := by decide +kernel
  have hfits : (network net 24).fits (v4 low) = true := by decide +kernel
  obtain ⟨-, -, hiff, -, hsame, hother, hfewer⟩ := network_fits_leading_bits hparse
  refine ⟨hparse, hsame low "10.0.0.5" "::ffff:10.0.0.5" ?_ ?_, hmatch, (hiff _).mp hfits,
    hother _ ?_, hfewer _ 0 (Nat.zero_le 24) hfits⟩
  · decide +kernel
  · decide +kernel
  · exact id

end IpPattern
end Criteria
