import Criteria.Proofs.Calendar.Written
/-!
# Written timestamps

A timestamp is a day, a time of day, perhaps with a fraction of a second, and an offset from
universal time. Main statements: the texts that are read as timestamps are the written ones, and
each is read as the day that it begins with, whatever its time and offset.
-/
namespace Criteria

open Text

/-- A fraction of a second: nothing, or a point with digits. -/
inductive IsFraction : List Char → Prop
  | none : IsFraction []
  | digits {ds : List Char} : ds ≠ [] → (∀ c ∈ ds, c.isDigit = true) → IsFraction ('.' :: ds)

/-- An offset from universal time: `Z` for none, or a sign, hours below a day and minutes. -/
inductive IsOffset : List Char → Prop
  | universal {c : Char} : c = 'Z' ∨ c = 'z' → IsOffset [c]
  | signed {sign : Char} {hour minute : Nat} : sign = '+' ∨ sign = '-' ∨ sign = '\u2212' →
    hour < 24 → minute < 60 → IsOffset (sign :: (padded 2 hour ++ ':' :: padded 2 minute))

structure Timestamp where
  date : Date
  mark : Char
  time : TimeOfDay
  fraction : List Char
  offset : List Char

namespace Timestamp

/-- The second may be a leap second. -/
structure IsValid (ts : Timestamp) : Prop where
  date : ts.date.IsFourDigit
  mark : ts.mark = 'T' ∨ ts.mark = 't' ∨ ts.mark = ' '
  time : ts.time.isValid = true
  fraction : IsFraction ts.fraction
  offset : IsOffset ts.offset

def written (ts : Timestamp) : List Char :=
  ts.date.written ++ ts.mark :: (ts.time.written ++ (ts.fraction ++ ts.offset))

def text (ts : Timestamp) : String :=
  String.ofList ts.written

end Timestamp

/-! ### Reading a timestamp -/

private theorem IsOffset.exists_cons {cs : List Char} (h : IsOffset cs) :
    ∃ c rest, cs = c :: rest ∧ c.isDigit = false ∧ c ≠ '.' := by
  cases h with
  | universal hc => obtain rfl | rfl := hc <;> exact ⟨_, _, rfl, by decide, by decide⟩
  | signed hsign => obtain rfl | rfl | rfl := hsign <;> exact ⟨_, _, rfl, by decide, by decide⟩

private theorem IsOffset.isBlank_of_mem {cs : List Char} (h : IsOffset cs) :
    ∀ c ∈ cs, isBlank c = false := by
  cases h with
  | universal hc =>
    rw [List.forall_mem_singleton]
    obtain rfl | rfl := hc <;> decide
  | signed hsign =>
    simp only [List.forall_mem_append, List.forall_mem_cons]
    refine ⟨?_, Calendar.isBlank_of_mem_padded, by decide, Calendar.isBlank_of_mem_padded⟩
    obtain rfl | rfl | rfl := hsign <;> decide

namespace Calendar

variable {cs rest : List Char}

theorem isOffset_iff : isOffset cs = true ↔ IsOffset cs := by
  constructor
  · intro h
    unfold isOffset at h
    split at h
    · exact .universal (.inl rfl)
    · exact .universal (.inr rfl)
    · next sign a b c d =>
      simp only [Bool.and_eq_true, Bool.or_eq_true, beq_iff_eq, decide_eq_true_iff,
        List.all_eq_true, or_assoc] at h
      obtain ⟨⟨⟨hsign, hdigits⟩, hhour⟩, hminute⟩ := h
      have hab : ∀ x ∈ [a, b], x.isDigit = true := fun x hx =>
        hdigits x (List.mem_append_left [c, d] hx)
      have hcd : ∀ x ∈ [c, d], x.isDigit = true := fun x hx =>
        hdigits x (List.mem_append_right [a, b] hx)
      have hfirst : padded 2 (digitsValue [a, b]) = [a, b] := (padded_digitsValue hab).1
      have hlast : padded 2 (digitsValue [c, d]) = [c, d] := (padded_digitsValue hcd).1
      have hwritten := IsOffset.signed hsign hhour hminute
      rwa [hfirst, hlast] at hwritten
    · cases h
  · intro h
    cases h with
    | universal hc => obtain rfl | rfl := hc <;> rfl
    | @signed sign hour minute hsign hhour hminute =>
      have htwo (n : Nat) : ∃ a b, padded 2 n = [a, b] := ⟨_, _, rfl⟩
      obtain ⟨a, b, hab⟩ := htwo hour
      obtain ⟨c, d, hcd⟩ := htwo minute
      have hdigits : ∀ x ∈ padded 2 hour ++ padded 2 minute, x.isDigit = true := fun x hx =>
        (List.mem_append.mp hx).elim (isDigit_of_mem_padded x) (isDigit_of_mem_padded x)
      have hhourValue := digitsValue_padded (show hour < 10 ^ 2 by omega)
      have hminuteValue := digitsValue_padded (show minute < 10 ^ 2 by omega)
      rw [hab, hcd, ← List.all_eq_true] at hdigits
      rw [hab] at hhourValue ⊢
      rw [hcd] at hminuteValue ⊢
      simpa [isOffset, or_assoc, hsign, hhourValue, hminuteValue, hhour, hminute] using hdigits

private theorem skipFraction?_eq_some (h : IsOffset rest) :
    skipFraction? cs = some rest ↔ ∃ fraction, IsFraction fraction ∧ cs = fraction ++ rest := by
  obtain ⟨c, back, rfl, hdigit, hpoint⟩ := h.exists_cons
  constructor
  · intro hread
    unfold skipFraction? at hread
    split at hread
    · next cs =>
      dsimp only at hread
      split at hread
      · cases hread
      · next hne =>
        rw [Option.some_inj] at hread
        refine ⟨'.' :: (spanDigits cs).1, .digits (by simpa using hne) ?_, ?_⟩
        · intro d hd
          exact List.all_eq_true.mp List.all_takeWhile d hd
        · rw [← hread, List.cons_append, spanDigits, List.takeWhile_append_dropWhile]
    · exact ⟨[], .none, Option.some_inj.mp hread⟩
  · rintro ⟨fraction, hfraction, rfl⟩
    cases hfraction with
    | none =>
      rw [List.nil_append, skipFraction?]
      intro cs hcs
      exact hpoint (List.cons_eq_cons.mp hcs).1
    | @digits ds hne hds =>
      have hspan : spanDigits (ds ++ c :: back) = (ds, c :: back) :=
        spanDigits_append hds (by simpa using hdigit)
      rw [List.cons_append, skipFraction?, hspan]
      simp [hne]

/-- What is read behind the mark of a timestamp: its day is the given one, when a time and an offset
follow. -/
def dayBefore? (d : Date) (cs : List Char) : Option Date := do
  let (hour, cs) ← exactly? 2 cs
  let cs ← skip? ':' cs
  let (minute, cs) ← exactly? 2 cs
  let cs ← skip? ':' cs
  let (second, cs) ← exactly? 2 cs
  let cs ← skipFraction? cs
  if isOffset cs && d.isValid && (TimeOfDay.mk hour minute second).isValid then some d else none

private theorem dayBefore?_eq_some {d e : Date} : dayBefore? d cs = some e ↔
    e = d ∧ d.isValid = true ∧ ∃ (t : TimeOfDay) (fraction offset : List Char),
      t.isValid = true ∧ IsFraction fraction ∧ IsOffset offset ∧
        cs = t.written ++ (fraction ++ offset) := by
  simp only [dayBefore?, Option.bind_eq_bind, Option.bind_eq_some_iff, Prod.exists,
    exactly?_eq_some, skip?_eq_some]
  constructor
  · rintro ⟨hour, _, ⟨hhour, rfl⟩, _, rfl, minute, _, ⟨hminute, rfl⟩, _, rfl, second, _,
      ⟨hsecond, rfl⟩, offset, hfraction, h⟩
    split at h
    · next hvalid =>
      simp only [Bool.and_eq_true, isOffset_iff] at hvalid
      obtain ⟨⟨hoffset, hday⟩, htime⟩ := hvalid
      obtain ⟨fraction, hf, rfl⟩ := (skipFraction?_eq_some hoffset).mp hfraction
      refine ⟨(Option.some_inj.mp h).symm, hday, ⟨hour, minute, second⟩, fraction, offset, htime,
        hf, hoffset, ?_⟩
      simp [TimeOfDay.written]
    · cases h
  · rintro ⟨rfl, hday, t, fraction, offset, htime, hf, hoffset, rfl⟩
    obtain ⟨hhour, hminute, hsecond⟩ := TimeOfDay.fields_of_isValid htime
    refine ⟨t.hour, _, ⟨by omega, ?_⟩, _, rfl, t.minute, _, ⟨by omega, rfl⟩, _, rfl, t.second, _,
      ⟨by omega, rfl⟩, offset, (skipFraction?_eq_some hoffset).mpr ⟨fraction, hf, rfl⟩, ?_⟩
    · simp [TimeOfDay.written]
    · simp [isOffset_iff.mpr hoffset, hday, htime]

private theorem timestampDate?_written {ts : Timestamp} (h : ts.IsValid) :
    timestampDate? ts.written = some ts.date := by
  obtain ⟨hmonth, hday⟩ := Date.fields_of_isValid h.date.isValid
  have hyear : ts.date.year.toNat < 10 ^ 4 := h.date.toNat_lt
  have hnat : (ts.date.year.toNat : Int) = ts.date.year := Int.toNat_of_nonneg h.date.nonneg
  have hrest := dayBefore?_eq_some.mpr
    ⟨rfl, h.date.isValid, ts.time, ts.fraction, ts.offset, h.time, h.fraction, h.offset, rfl⟩
  simp only [timestampDate?, Timestamp.written, Date.written, List.append_assoc, List.cons_append,
    exactly?_padded_append hyear, exactly?_padded_append (show ts.date.month < 10 ^ 2 by omega),
    exactly?_padded_append (show ts.date.day < 10 ^ 2 by omega), skip?_cons_self, hnat,
    Option.bind_eq_bind, Option.bind_some]
  obtain hmark | hmark | hmark := h.mark
  · rw [hmark]
    exact hrest
  · rw [hmark]
    exact hrest
  · rw [hmark]
    exact hrest

/-- The texts that are read as timestamps are the written ones, each with its own day. -/
theorem timestampDate?_eq_some {d : Date} :
    timestampDate? cs = some d ↔ ∃ ts : Timestamp, ts.IsValid ∧ cs = ts.written ∧ d = ts.date := by
  constructor
  · intro h
    simp only [timestampDate?, Option.bind_eq_bind, Option.bind_eq_some_iff, Prod.exists,
      exactly?_eq_some, skip?_eq_some] at h
    obtain ⟨year, _, ⟨hyear, rfl⟩, _, rfl, month, _, ⟨hmonth, rfl⟩, _, rfl, day, back, ⟨hday, rfl⟩,
      h⟩ := h
    obtain ⟨mark, rest, hmark, rfl, hrest⟩ : ∃ mark rest, (mark = 'T' ∨ mark = 't' ∨ mark = ' ') ∧
        back = mark :: rest ∧ dayBefore? ⟨year, month, day⟩ rest = some d := by
      split at h
      · exact ⟨_, _, .inl rfl, rfl, h⟩
      · exact ⟨_, _, .inr (.inl rfl), rfl, h⟩
      · exact ⟨_, _, .inr (.inr rfl), rfl, h⟩
      · cases h
    obtain ⟨rfl, hvalid, time, fraction, offset, htime, hfraction, hoffset, rfl⟩ :=
      dayBefore?_eq_some.mp hrest
    have hdate : (Date.mk year month day).IsFourDigit :=
      ⟨hvalid, Int.natCast_nonneg year, Int.le_of_lt_add_one (Int.ofNat_lt.mpr hyear)⟩
    refine ⟨⟨_, mark, time, fraction, offset⟩, ⟨hdate, hmark, htime, hfraction, hoffset⟩, ?_, rfl⟩
    simp [Timestamp.written, Date.written]
  · rintro ⟨ts, hts, rfl, rfl⟩
    exact timestampDate?_written hts

end Calendar

namespace Timestamp

variable {ts : Timestamp}

private theorem stripBlanks_written (h : ts.IsValid) : stripBlanks ts.written = ts.written := by
  refine stripBlanks_of_ends ?_ ?_
  · have hfour : 0 < 4 := by decide
    rw [written, Date.written, List.append_assoc]
    obtain ⟨c, cs, hcons, hc⟩ := Calendar.exists_padded_append_eq_cons hfour ts.date.year.toNat _
    rw [hcons]
    intro c' hc'
    rw [← Option.some_inj.mp hc']
    exact isBlank_of_isDigit hc
  · obtain ⟨c, rest, hcons, _⟩ := h.offset.exists_cons
    have hne : ts.offset ≠ [] := by simp [hcons]
    have hsplit : ts.written =
        (ts.date.written ++ ts.mark :: (ts.time.written ++ ts.fraction)) ++ ts.offset := by
      simp [written]
    rw [hsplit, List.getLast?_append_of_ne_nil _ hne]
    intro c hc
    exact h.offset.isBlank_of_mem c (List.mem_of_getLast? hc)

theorem parse?_text (h : ts.IsValid) : Date.parse? ts.text = some ts.date := by
  have hdate := Date.date?_written_append h.date
    (ts.mark :: (ts.time.written ++ (ts.fraction ++ ts.offset)))
  have hstamp := Calendar.timestampDate?_eq_some.mpr ⟨ts, h, rfl, rfl⟩
  rw [Date.parse?, text, String.toList_ofList, stripBlanks_written h, hstamp, written, hdate]
  rfl

theorem take_written (ts : Timestamp) : ts.written.take 10 = ts.date.written :=
  List.take_left' ts.date.length_written

end Timestamp
end Criteria
