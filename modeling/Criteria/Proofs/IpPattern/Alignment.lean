import Criteria.Proofs.IpPattern.LeadingBits
/-!
# Networks that end with a part

An octet has eight bits and a segment sixteen. A network whose bits are those of some parts matches what
a wildcard with these parts in front and stars behind them matches: words agree on the bits of a part
when they agree in the part. Both leave out the addresses of the other family, and both look at an
address that stands for one of the first family as that one.
-/
namespace Criteria

namespace IpAddress

variable {width length count k : Nat}

/-- One of the parts of equal length that a word can be cut into, the highest one first. -/
def part (length : Nat) (bits : BitVec width) (i : Nat) : BitVec length :=
  bits.extractLsb' (width - length * (i + 1)) length

/-- The first parts of a word, as numbers. -/
def partNumbers (length count : Nat) (bits : BitVec width) : List Nat :=
  (List.range count).map fun i => (part length bits i).toNat

private theorem octets_eq (bits : BitVec 32) : octets bits = partNumbers 8 4 bits := by
  simp [octets, partNumbers, part, List.range_succ]

private theorem segments_eq (bits : BitVec 128) : segments bits = partNumbers 16 8 bits := by
  simp [segments, partNumbers, part, List.range_succ]

private theorem getMsbD_part {i j : Nat} (h : length * (i + 1) ≤ width) (hj : j < length)
    (bits : BitVec width) : (part length bits i).getMsbD j = bits.getMsbD (length * i + j) := by
  rw [Nat.mul_succ] at h
  rw [part, BitVec.getMsbD_eq_getLsbD, BitVec.getLsbD_extractLsb', BitVec.getMsbD_eq_getLsbD,
    decide_eq_true hj, Bool.true_and, decide_eq_true (by omega), Bool.true_and,
    decide_eq_true (by omega), Bool.true_and, Nat.mul_succ]
  congr 1
  omega

private theorem part_eq_iff {i : Nat} (h : length * (i + 1) ≤ width) (a b : BitVec width) :
    part length a i = part length b i ↔
      ∀ j < length, a.getMsbD (length * i + j) = b.getMsbD (length * i + j) := by
  constructor
  · intro hab j hj
    rw [← getMsbD_part h hj, ← getMsbD_part h hj, hab]
  · intro hbits
    refine BitVec.eq_of_getMsbD_eq fun j hj => ?_
    rw [getMsbD_part h hj, getMsbD_part h hj, hbits j hj]

theorem agree_iff_parts (hlength : 0 < length) (h : length * k ≤ width) (a b : BitVec width) :
    (∀ i < length * k, a.getMsbD i = b.getMsbD i) ↔
      ∀ i < k, part length a i = part length b i := by
  have hpart {i : Nat} (hi : i < k) : length * (i + 1) ≤ width :=
    Nat.le_trans (Nat.mul_le_mul_left length hi) h
  constructor
  · intro hbits i hi
    rw [part_eq_iff (hpart hi)]
    intro j hj
    apply hbits
    calc length * i + j < length * (i + 1) := by rw [Nat.mul_succ]; omega
      _ ≤ length * k := Nat.mul_le_mul_left length hi
  · intro hparts i hi
    have hquot : i / length < k := Nat.div_lt_of_lt_mul hi
    have hbit := (part_eq_iff (hpart hquot) a b).mp (hparts _ hquot) _ (Nat.mod_lt i hlength)
    rwa [Nat.div_add_mod] at hbit

end IpAddress

namespace IpPattern

open IpAddress

/-- The places of a wildcard that holds the first of some numbers and leaves the other places free. -/
def frontPlaces (k : Nat) (numbers : List Nat) : List (Option Nat) :=
  (numbers.take k).map some ++ List.replicate (numbers.length - k) none

private theorem fills_frontPlaces {k : Nat} {ns ms : List Nat} (h : ns.length = ms.length) :
    fills (frontPlaces k ns) ms = true ↔ ns.take k = ms.take k := by
  have hfree (places : Nat) (ms : List Nat) : fills (List.replicate places none) ms = true := by
    rw [fills, List.all_eq_true]
    rintro ⟨place, m⟩ hmem
    rw [List.eq_of_mem_replicate (List.of_mem_zip hmem).1]
  induction ns generalizing k ms with
  | nil =>
    rw [List.eq_nil_of_length_eq_zero h.symm]
    simp [frontPlaces, fills]
  | cons n ns ih =>
    obtain ⟨m, ms, rfl⟩ := List.exists_cons_of_length_eq_add_one h.symm
    cases k with
    | zero => simpa [frontPlaces] using hfree _ _
    | succ k =>
      have hrest : fills (frontPlaces k ns) ms = true ↔ ns.take k = ms.take k :=
        ih (Nat.succ.inj h)
      have hfront : frontPlaces (k + 1) (n :: ns) = some n :: frontPlaces k ns := by
        simp [frontPlaces]
      have hfills : fills (some n :: frontPlaces k ns) (m :: ms) =
          (n == m && fills (frontPlaces k ns) ms) := rfl
      rw [hfront, hfills, Bool.and_eq_true, beq_iff_eq, hrest, List.take_succ_cons,
        List.take_succ_cons, List.cons.injEq]

/-- A wildcard whose first places hold the first parts of a word takes the words that agree with it on
the bits of these parts. -/
private theorem fills_partNumbers {width length count k : Nat} (hlength : 0 < length)
    (hwidth : length * count = width) (hk : k ≤ count) (a b : BitVec width) :
    fills (frontPlaces k (partNumbers length count b)) (partNumbers length count a) = true ↔
      ∀ i < length * k, a.getMsbD i = b.getMsbD i := by
  have hle : length * k ≤ width := hwidth ▸ Nat.mul_le_mul_left length hk
  rw [fills_frontPlaces (by simp [partNumbers]), agree_iff_parts hlength hle, partNumbers, partNumbers,
    ← List.map_take, ← List.map_take, List.take_range, Nat.min_eq_left hk, List.map_inj_left]
  simp only [List.mem_range, BitVec.toNat_inj, eq_comm]

/-- A network of some whole octets or segments matches the same addresses as the wildcard that has
these in front. -/
theorem network_fits_as_wildcard :
    (∀ (net : BitVec 32), ∀ k ≤ 4, ∀ a,
      (network (v4 net) (8 * k)).fits a =
        (wildcard false (frontPlaces k (octets net))).fits a) ∧
    ∀ (net : BitVec 128), ∀ k ≤ 8, ∀ a,
      (network (v6 net) (16 * k)).fits a =
        (wildcard true (frontPlaces k (IpAddress.segments net))).fits a := by
  refine ⟨?_, ?_⟩
  · intro net k hk a
    have hbits : 8 * k ≤ (v4 net).width := by
      rw [width]
      omega
    rw [Bool.eq_iff_iff, fits_network_iff hbits]
    unfold fits
    cases a.canonical with
    | v4 bits =>
      have hparts := fills_partNumbers (show 0 < 8 by decide) rfl hk bits net
      rw [← octets_eq, ← octets_eq] at hparts
      exact hparts.symm
    | v6 bits => simp [AgreeOnFirst]
  · intro net k hk a
    have hbits : 16 * k ≤ (v6 net).width := by
      rw [width]
      omega
    rw [Bool.eq_iff_iff, fits_network_iff hbits]
    unfold fits
    cases a.canonical with
    | v4 bits => simp [AgreeOnFirst]
    | v6 bits =>
      have hparts := fills_partNumbers (show 0 < 16 by decide) rfl hk bits net
      rw [← segments_eq, ← segments_eq] at hparts
      exact hparts.symm

/-- A live address that stands for one of the first family, and one of the second. -/
theorem network_fits_as_wildcard_of_three_octets :
    let net := 0x0a010200#32
    frontPlaces 3 (octets net) = [some 10, some 1, some 2, none] ∧
    (network (v4 net) 24).fits (mapped 0x0a0102ff#32) = true ∧
    (wildcard false (frontPlaces 3 (octets net))).fits (mapped 0x0a0102ff#32) = true ∧
    (wildcard true (frontPlaces 2 (IpAddress.segments 0x20010db8000000000000000000000000#128))).fits
      (v6 0x20010db9000000000000000000000001#128) = false := by
  intro net
  have hnetwork : (network (v4 net) 24).fits (mapped 0x0a0102ff#32) = true := by decide +kernel
  have hsecond := network_fits_as_wildcard.2 0x20010db8000000000000000000000000#128 2 (by decide)
    (v6 0x20010db9000000000000000000000001#128)
  have hfirst := network_fits_as_wildcard.1 net 3 (by decide) (mapped 0x0a0102ff#32)
  exact ⟨by decide +kernel, hnetwork, hfirst.symm.trans hnetwork,
    hsecond.symm.trans (by decide +kernel)⟩

end IpPattern
end Criteria
