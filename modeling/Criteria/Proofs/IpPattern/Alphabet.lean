import Criteria.IpAddress
import Criteria.Text.Blank
import Mathlib.Data.List.TakeWhile
/-!
# The alphabet of addresses

An address is written with hexadecimal digits, points and colons. So no text with a slash, a star or
a blank in it is an address, which tells networks and wildcards from addresses. Every reader takes
characters of this alphabet off the front of a text; what is left over may be anything.
-/
namespace Criteria.IpAddress

open Text

/-- The characters of addresses: hexadecimal digits, points and colons. -/
def isAddressChar (c : Char) : Bool :=
  (hexDigit? c).isSome || c == '.' || c == ':'

theorem isAddressChar_of_hexDigit {c : Char} (h : (hexDigit? c).isSome = true) :
    isAddressChar c = true := by
  rw [isAddressChar, h, Bool.true_or, Bool.true_or]

theorem isAddressChar_of_isDigit {c : Char} (h : c.isDigit = true) : isAddressChar c = true :=
  isAddressChar_of_hexDigit (by rw [hexDigit?, if_pos h, Option.isSome_some])

theorem isBlank_of_isAddressChar {c : Char} (h : isAddressChar c = true) : isBlank c = false := by
  have hr : 46 ≤ c.toNat ∧ c.toNat ≤ 102 := by
    simp only [isAddressChar, Bool.or_eq_true, beq_iff_eq] at h
    rcases h with (h | rfl) | rfl
    · have hd := toNat_of_hexDigit? h
      omega
    · decide
    · decide
  exact isBlank_of_visible (by omega)

/-- A reader takes nothing but characters of addresses off the front of a text. -/
def TakesAddressChars {α : Type} (part : List Char → Option (α × List Char)) : Prop :=
  ∀ cs x rest, part cs = some (x, rest) → ∀ c ∈ cs, isAddressChar c = true ∨ c ∈ rest

private theorem readOctet?_takes : TakesAddressChars readOctet? := by
  intro cs n rest h c hc
  simp only [readOctet?, Option.ite_none_left_eq_some, Option.some.injEq, Prod.mk.injEq] at h
  obtain ⟨_, _, rfl⟩ := h
  rw [← List.takeWhile_append_dropWhile (p := Char.isDigit) (l := cs), List.mem_append] at hc
  exact hc.imp_left fun hd => isAddressChar_of_isDigit (List.mem_takeWhile_imp hd)

private theorem readNextOctet?_takes : TakesAddressChars readNextOctet? := by
  intro cs n rest h c hc
  unfold readNextOctet? at h
  split at h
  · next cs =>
    rcases List.mem_cons.mp hc with rfl | hc
    · exact .inl rfl
    · exact readOctet?_takes cs n rest h c hc
  · cases h

private theorem readOctets?_takes : TakesAddressChars readOctets? := by
  intro cs ns rest h c hc
  simp only [readOctets?, Option.bind_eq_bind, Option.bind_eq_some_iff, Prod.exists] at h
  obtain ⟨n₁, cs₁, h₁, n₂, cs₂, h₂, n₃, cs₃, h₃, n₄, cs₄, h₄, he⟩ := h
  cases he
  rcases readOctet?_takes cs n₁ cs₁ h₁ c hc with hc | hc
  · exact .inl hc
  rcases readNextOctet?_takes cs₁ n₂ cs₂ h₂ c hc with hc | hc
  · exact .inl hc
  rcases readNextOctet?_takes cs₂ n₃ cs₃ h₃ c hc with hc | hc
  · exact .inl hc
  exact readNextOctet?_takes cs₃ n₄ _ h₄ c hc

private theorem readSegment?_takes : TakesAddressChars readSegment? := by
  intro cs n rest h c hc
  simp only [readSegment?, Option.ite_none_left_eq_some, Option.map_eq_some_iff] at h
  obtain ⟨_, m, _, he⟩ := h
  cases he
  have hd {d : Char} (hd : d ∈ cs.takeWhile fun c => (hexDigit? c).isSome) :
      isAddressChar d = true :=
    isAddressChar_of_hexDigit (List.mem_takeWhile_imp (p := fun c => (hexDigit? c).isSome) hd)
  have hp := List.prefix_iff_eq_take.mp
    (List.takeWhile_prefix (l := cs) fun c => (hexDigit? c).isSome)
  rw [← List.take_append_drop (cs.takeWhile fun c => (hexDigit? c).isSome).length cs, ← hp,
    List.mem_append] at hc
  exact hc.imp_left hd

private theorem TakesAddressChars.behindColon {α : Type} {part : List Char → Option (α × List Char)}
    (hp : TakesAddressChars part) (first : Bool) : TakesAddressChars (behindColon? first part) := by
  intro cs x rest h c hc
  unfold behindColon? at h
  split at h
  · exact hp cs x rest h c hc
  · split at h
    · next cs =>
      rcases List.mem_cons.mp hc with rfl | hc
      · exact .inl rfl
      · exact hp cs x rest h c hc
    · cases h

private theorem readSegments_takes (first : Bool) (room : Nat) (cs : List Char) :
    ∀ c ∈ cs, isAddressChar c = true ∨ c ∈ (readSegments first room cs).2.2 := by
  induction room generalizing first cs with
  | zero => exact fun c hc => .inr hc
  | succ room ih =>
    intro c hc
    rw [readSegments]
    split
    · next rest ho =>
      split at ho
      · exact readOctets?_takes.behindColon first cs _ rest ho c hc
      · cases ho
    · split
      · next n rest hs =>
        exact (readSegment?_takes.behindColon first cs n rest hs c hc).elim .inl (ih false rest c)
      · exact .inr hc

private theorem isAddressChar_of_readV6? {cs : List Char} {a : IpAddress}
    (h : readV6? cs = some a) :
    ∀ c ∈ cs, isAddressChar c = true := by
  intro c hc
  have hfront := readSegments_takes true 8 cs c hc
  rw [readV6?] at h
  generalize readSegments true 8 cs = taken at hfront h
  obtain ⟨front, mixed, rest⟩ := taken
  dsimp only at hfront h
  split at h
  · split at h
    · next hr =>
      rw [List.isEmpty_iff.mp hr] at hfront
      exact hfront.resolve_right List.not_mem_nil
    · cases h
  · split at h
    · cases h
    · split at h
      · next rest =>
        split at h
        · next hr =>
          -- The run of zeros that is left out stands where the two colons are.
          have hback := readSegments_takes true (7 - front.length) rest c
          rw [List.isEmpty_iff.mp hr] at hback
          simp only [List.mem_cons] at hfront
          rcases hfront with hc | rfl | rfl | hc
          · exact hc
          · rfl
          · rfl
          · exact (hback hc).resolve_right List.not_mem_nil
        · cases h
      · cases h

theorem isAddressChar_of_read? {cs : List Char} {a : IpAddress} (h : read? cs = some a) :
    ∀ c ∈ cs, isAddressChar c = true := by
  intro c hc
  rw [read?] at h
  split at h
  · next rest ho =>
    split at h
    · next hr =>
      rw [List.isEmpty_iff] at hr
      subst hr
      exact (readOctets?_takes cs _ _ ho c hc).resolve_right List.not_mem_nil
    · cases h
  · exact isAddressChar_of_readV6? h c hc

end Criteria.IpAddress
