import Criteria.Json.Reader
import Criteria.Json.Writer
/-!
# Scalars read back

What stands between quotes and what a number is written as are read as the same text and the same
number, whatever follows them. Main statements: a quoted text is read back up to its closing quote,
and an integer in range is read back when a comma, a closing bracket or the end follows.
-/
namespace Criteria.Json

theorem skipSpace_cons {c : Char} (h : isSpace c = false) (cs : List Char) :
    skipSpace (c :: cs) = c :: cs :=
  List.dropWhile_cons_of_neg (by simp [h])

/-- What may follow a value: the end of the text, a comma, or a closing bracket or brace. -/
inductive Stops : List Char → Prop
  | nil : Stops []
  | comma (cs : List Char) : Stops (',' :: cs)
  | bracket (cs : List Char) : Stops (']' :: cs)
  | brace (cs : List Char) : Stops ('}' :: cs)

/-! ### Texts -/

private theorem hexDigits_of_control {n : Nat} (h : n < 0x20) :
    let high := Nat.digitChar (n / 16)
    let low := Nat.digitChar (n % 16)
    Text.hexDigits 4 n = ['0', '0', high, low] ∧ codeUnit? '0' '0' high low = some n := by
  revert n
  decide

private theorem readText_unicodeEscape {n : Nat} (h : n < 0x20) (acc rest : List Char) :
    readText acc ('\\' :: 'u' :: (Text.hexDigits 4 n ++ rest)) =
      readText (Char.ofNat n :: acc) rest := by
  obtain ⟨hdigits, hvalue⟩ := hexDigits_of_control h
  have hlow : isLowHalf n = false := by grind [isLowHalf]
  have hhigh : isHighHalf n = false := by grind [isHighHalf]
  rw [hdigits]
  simp [readText, hvalue, hlow, hhigh]

private theorem readText_escapeChar (c : Char) (acc rest : List Char) :
    readText acc (escapeChar c ++ rest) = readText (c :: acc) rest := by
  rw [escapeChar]
  split
  · next hc => subst hc; simp [readText, escapedChar?]
  split
  · next hc => subst hc; simp [readText, escapedChar?]
  split
  · next hcontrol =>
    have hc : c = Char.ofNat c.toNat := (Char.ofNat_toNat c).symm
    generalize c.toNat = n at hc hcontrol
    subst hc
    -- five control characters have a letter of their own, the others are written by number
    split
    case h_6 => exact readText_unicodeEscape hcontrol acc rest
    all_goals simp [readText, escapedChar?]
  · next hquote hback hplain => simp [readText, hplain]

private theorem readText_flatMap_escapeChar (cs acc rest : List Char) :
    readText acc (cs.flatMap escapeChar ++ '"' :: rest) =
      .ok (String.ofList (acc.reverse ++ cs), rest) := by
  induction cs generalizing acc with
  | nil => simp [readText]
  | cons c cs ih =>
    rw [List.flatMap_cons, List.append_assoc, readText_escapeChar, ih, List.reverse_cons,
      List.append_assoc, List.singleton_append]

theorem exists_quote_append (s : String) (rest : List Char) :
    ∃ cs, quote s ++ rest = '"' :: cs ∧ readText [] cs = .ok (s, rest) := by
  refine ⟨s.toList.flatMap escapeChar ++ '"' :: rest, by simp [quote], ?_⟩
  rw [readText_flatMap_escapeChar, List.reverse_nil, List.nil_append, String.ofList_toList]

/-! ### Numbers -/

private theorem Stops.spanDigits_append {rest : List Char} (h : Stops rest) {ds : List Char}
    (hds : ∀ c ∈ ds, c.isDigit = true) : Text.spanDigits (ds ++ rest) = (ds, rest) := by
  refine Text.spanDigits_append hds fun c hc => ?_
  cases h <;> cases hc <;> rfl

private theorem Stops.readFraction_eq {rest : List Char} (h : Stops rest) (early : Failure) :
    readFraction early rest = .ok (none, rest) := by
  cases h <;> rfl

private theorem Stops.readExponent_eq {rest : List Char} (h : Stops rest) (early : Failure) :
    readExponent early rest = .ok (none, rest) := by
  cases h <;> rfl

private theorem Stops.readDigits_append {rest : List Char} (h : Stops rest) (early : Failure)
    (n : Nat) :
    readDigits early (Text.digits n ++ rest) = .ok (Text.digits n, rest) := by
  rw [readDigits, h.spanDigits_append fun c hc => Text.isDigit_of_mem_digits hc]
  split
  · next hnil => exact absurd (Prod.mk.inj hnil).1 (Text.digits_ne_nil n)
  · next hnil => exact absurd (Prod.mk.inj hnil).1 (Text.digits_ne_nil n)
  · next heq => rw [← heq]

/-- The digits of a number are read as a whole: only zero is written with a zero in front. -/
private theorem Stops.readWhole_append {rest : List Char} (h : Stops rest) (early : Failure)
    (n : Nat) :
    readWhole early (Text.digits n ++ rest) = .ok (Text.digits n, rest) := by
  rw [readWhole, h.readDigits_append]
  by_cases hn : n = 0
  · subst hn; rfl
  · have hhead := Text.head?_digits hn
    simp only [bind, Except.bind]
    split
    · next hdigits => simp [hdigits] at hhead
    · rfl

theorem Stops.readNumber_digits {rest : List Char} (h : Stops rest) {n : Nat}
    (hn : n < 0x10000000000000000) :
    readNumber (Text.digits n ++ rest) = .ok (.integer n, rest) := by
  have hminus : ∀ cs, Text.digits n ++ rest ≠ '-' :: cs := by
    intro cs heq
    obtain ⟨d, ds, hds⟩ := List.exists_cons_of_ne_nil (Text.digits_ne_nil n)
    have hd : d.isDigit = true := Text.isDigit_of_mem_digits (hds ▸ List.mem_cons_self)
    rw [hds, List.cons_append, List.cons.injEq] at heq
    rw [heq.1] at hd
    exact absurd hd (by decide)
  have hvalue : numeralValue? false (Text.digits n) none none = some (.integer n) := by
    simp [numeralValue?, hn]
  rw [readNumber]
  · simp only [bind, Except.bind, h.readWhole_append, h.readFraction_eq, h.readExponent_eq, hvalue]
    rfl
  · exact hminus

theorem Stops.readNumber_minus_digits {rest : List Char} (h : Stops rest) {n : Nat} (hpos : 0 < n)
    (hn : n ≤ 0x8000000000000000) :
    readNumber ('-' :: (Text.digits n ++ rest)) = .ok (.integer (-n), rest) := by
  have hvalue : numeralValue? true (Text.digits n) none none = some (.integer (-n)) := by
    simp [numeralValue?, hpos, hn]
  simp only [readNumber, bind, Except.bind, h.readWhole_append, h.readFraction_eq,
    h.readExponent_eq, hvalue]
  rfl

end Criteria.Json

namespace Criteria.Number

private theorem text_natCast (n : Nat) : (integer n).text = Text.digits n := by
  have hrepr : toString (n : Int) = n.repr := rfl
  rw [text, hrepr, Nat.toList_repr, Text.digits]

private theorem text_neg_natCast {n : Nat} (h : 0 < n) :
    (integer (-n)).text = '-' :: Text.digits n := by
  obtain ⟨m, rfl⟩ : ∃ m, n = m + 1 := ⟨n - 1, by omega⟩
  have hrepr : toString (-((m + 1 : Nat) : Int)) = "-" ++ (m + 1).repr := rfl
  rw [text, hrepr, String.toList_append, Nat.toList_repr, Text.digits]
  rfl

theorem exists_text_cons (n : Int) :
    ∃ c cs, (integer n).text = c :: cs ∧ (c = '-' ∨ c.isDigit = true) := by
  obtain ⟨m, rfl | rfl⟩ := n.eq_nat_or_neg
  · obtain ⟨c, cs, hcs⟩ := List.exists_cons_of_ne_nil (Text.digits_ne_nil m)
    have hc : c.isDigit = true := Text.isDigit_of_mem_digits (hcs ▸ List.mem_cons_self)
    exact ⟨c, cs, (text_natCast m).trans hcs, .inr hc⟩
  · obtain rfl | hpos := Nat.eq_zero_or_pos m
    · exact ⟨'0', [], text_natCast 0, .inr rfl⟩
    · exact ⟨'-', _, text_neg_natCast hpos, .inl rfl⟩

theorem readNumber_text {n : Int} (hlow : -0x8000000000000000 ≤ n) (hhigh : n < 0x10000000000000000)
    {rest : List Char} (h : Json.Stops rest) :
    Json.readNumber ((integer n).text ++ rest) = .ok (integer n, rest) := by
  obtain ⟨m, rfl | rfl⟩ := n.eq_nat_or_neg
  · rw [text_natCast, h.readNumber_digits (by omega)]
  · obtain rfl | hpos := Nat.eq_zero_or_pos m
    · rw [Int.natCast_zero, Int.neg_zero, ← Int.natCast_zero, text_natCast,
        h.readNumber_digits (by omega)]
    · rw [text_neg_natCast hpos, List.cons_append, h.readNumber_minus_digits hpos (by omega)]

end Criteria.Number
