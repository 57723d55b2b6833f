import Criteria.Calendar
import Criteria.Proofs.Text.Blank
import Criteria.Proofs.Text.FixedWidth
/-!
# Written dates and times

Days as `YYYY-MM-DD` and times of day as `HH:MM` or `HH:MM:SS`, with all their zeros. Main
statements: a written day and a written time are read as themselves.
-/
namespace Criteria

open Text

/-! ### The written forms -/

namespace Date

/-- A day of the calendar in a year of four digits. -/
structure IsFourDigit (d : Date) : Prop where
  isValid : d.isValid = true
  nonneg : 0 ≤ d.year
  le : d.year ≤ 9999

def written (d : Date) : List Char :=
  padded 4 d.year.toNat ++ '-' :: (padded 2 d.month ++ '-' :: padded 2 d.day)

def text (d : Date) : String :=
  String.ofList d.written

end Date

def TimeOfDay.written (t : TimeOfDay) : List Char :=
  padded 2 t.hour ++ ':' :: (padded 2 t.minute ++ ':' :: padded 2 t.second)

/-- A time of day as a clock shows it, with or without seconds. -/
inductive Clock
  | toMinute (hour minute : Nat)
  | toSecond (t : TimeOfDay)

namespace Clock

def time : Clock → TimeOfDay
  | toMinute hour minute => ⟨hour, minute, 0⟩
  | toSecond t => t

/-- The seconds are from 00 to 59. -/
structure IsValid (c : Clock) : Prop where
  hour : c.time.hour < 24
  minute : c.time.minute < 60
  second : c.time.second < 60

def written : Clock → List Char
  | toMinute hour minute => padded 2 hour ++ ':' :: padded 2 minute
  | toSecond t => t.written

def text (c : Clock) : String :=
  String.ofList c.written

/-- The text with seconds: `:00` is appended to a text without. -/
def fullText : Clock → String
  | c@(toMinute ..) => c.text ++ ":00"
  | c@(toSecond _) => c.text

end Clock

/-! ### Reading numbers -/

namespace Calendar

variable {count width n : Nat} {c : Char} {cs rest : List Char}

theorem exactly?_eq_some :
    exactly? count cs = some (n, rest) ↔ n < 10 ^ count ∧ cs = padded count n ++ rest := by
  rw [exactly?]
  constructor
  · intro h
    split at h
    · next hds =>
      obtain ⟨hlength, hdigits⟩ := hds
      cases h
      obtain ⟨hpadded, hlt⟩ := padded_digitsValue (List.all_eq_true.mp hdigits)
      rw [hlength] at hpadded hlt
      exact ⟨hlt, by rw [hpadded, List.take_append_drop]⟩
    · cases h
  · intro h
    obtain ⟨hlt, rfl⟩ := h
    have hdigits : (padded count n).all Char.isDigit = true :=
      List.all_eq_true.mpr isDigit_of_mem_padded
    simp only [take_padded_append, drop_padded_append, length_padded, hdigits,
      digitsValue_padded hlt, and_self, if_true]

theorem exactly?_padded_append (h : n < 10 ^ count) (rest : List Char) :
    exactly? count (padded count n ++ rest) = some (n, rest) :=
  exactly?_eq_some.mpr ⟨h, rfl⟩

private theorem upTo?_padded_append (hw : 0 < width) (h : n < 10 ^ width) (rest : List Char) :
    upTo? width (padded width n ++ rest) = some (n, rest) := by
  have hwhile : (padded width n).takeWhile Char.isDigit = padded width n :=
    List.takeWhile_eq_self_iff.mpr isDigit_of_mem_padded
  have hne : (padded width n).isEmpty = false := List.isEmpty_eq_false_iff.mpr (padded_ne_nil hw n)
  simp only [upTo?, take_padded_append, hwhile, hne, length_padded, drop_padded_append,
    digitsValue_padded h]
  rfl

theorem skip?_eq_some : skip? c cs = some rest ↔ cs = c :: rest := by
  cases cs with
  | nil => simp [skip?]
  | cons d cs =>
    rw [skip?]
    by_cases hd : d = c <;> simp [hd]

@[simp] theorem skip?_cons_self (c : Char) (rest : List Char) : skip? c (c :: rest) = some rest :=
  skip?_eq_some.mpr rfl

theorem exists_padded_append_eq_cons (hw : 0 < width) (n : Nat) (rest : List Char) :
    ∃ c cs, padded width n ++ rest = c :: cs ∧ c.isDigit = true := by
  obtain ⟨c, cs, hcons⟩ := List.exists_cons_of_ne_nil (padded_ne_nil hw n)
  refine ⟨c, cs ++ rest, by rw [hcons, List.cons_append], ?_⟩
  exact isDigit_of_mem_padded c (hcons ▸ List.mem_cons_self)

theorem isBlank_of_mem_padded : ∀ c ∈ padded width n, isBlank c = false :=
  fun c hc => isBlank_of_isDigit (isDigit_of_mem_padded c hc)

private theorem skipBlanks_padded_append (hw : 0 < width) (n : Nat) (rest : List Char) :
    skipBlanks (padded width n ++ rest) = padded width n ++ rest := by
  obtain ⟨c, cs, hcons, hc⟩ := exists_padded_append_eq_cons hw n rest
  rw [hcons, skipBlanks]
  exact List.dropWhile_cons_of_neg (by simp [isBlank_of_isDigit hc])

private theorem field?_padded_append (h : n < 100) (rest : List Char) :
    field? (padded 2 n ++ rest) = some (n, rest) := by
  rw [field?, skipBlanks_padded_append (by decide), upTo?_padded_append (by decide) h]

private theorem year?_padded_append (h : n < 10 ^ 4) (rest : List Char) :
    year? (padded 4 n ++ rest) = some ((n : Int), rest) := by
  have hfour : 0 < 4 := by decide
  have hread := upTo?_padded_append hfour h rest
  rw [year?, skipBlanks_padded_append hfour]
  obtain ⟨c, cs, hcons, hc⟩ := exists_padded_append_eq_cons hfour n rest
  rw [hcons] at hread ⊢
  split
  -- a digit is no sign
  · next he =>
    cases he
    cases hc
  · next he =>
    cases he
    cases hc
  · rw [hread, Option.map_some]

end Calendar

/-! ### Dates and times are read as themselves -/

namespace Date

variable {d : Date}

theorem IsFourDigit.toNat_lt (h : d.IsFourDigit) : d.year.toNat < 10 ^ 4 := by
  have := h.le
  omega

private theorem daysInMonth_le (year : Int) (month : Nat) : daysInMonth year month ≤ 31 := by
  unfold daysInMonth
  repeat' split
  all_goals decide

private theorem daysInMonth_eq_zero (year : Int) {month : Nat} (h : 12 < month) :
    daysInMonth year month = 0 := by
  unfold daysInMonth
  split <;> omega

theorem fields_of_isValid (h : d.isValid = true) : d.month ≤ 12 ∧ d.day ≤ 31 := by
  simp only [isValid, Bool.and_eq_true, decide_eq_true_eq] at h
  obtain ⟨⟨_, hpos⟩, hday⟩ := h
  refine ⟨?_, hday.trans (daysInMonth_le _ _)⟩
  by_contra hmonth
  rw [daysInMonth_eq_zero d.year (by omega)] at hday
  omega

theorem date?_written_append (h : d.IsFourDigit) (rest : List Char) :
    Calendar.date? (d.written ++ rest) = if rest.isEmpty then some d else none := by
  obtain ⟨hmonth, hday⟩ := fields_of_isValid h.isValid
  have hyear : d.year.toNat < 10 ^ 4 := h.toNat_lt
  have hnat : (d.year.toNat : Int) = d.year := Int.toNat_of_nonneg h.nonneg
  simp only [Calendar.date?, written, List.append_assoc, List.cons_append,
    Calendar.year?_padded_append hyear, Calendar.field?_padded_append (show d.month < 100 by omega),
    Calendar.field?_padded_append (show d.day < 100 by omega), Calendar.skip?_cons_self, hnat,
    Option.bind_eq_bind, Option.bind_some, h.isValid, Bool.and_true]

theorem length_written (d : Date) : d.written.length = 10 := by
  simp [written]

private theorem isBlank_of_mem_written : ∀ c ∈ d.written, isBlank c = false := by
  have hhyphen : isBlank '-' = false := by decide
  simp only [written, List.forall_mem_append, List.forall_mem_cons]
  exact ⟨Calendar.isBlank_of_mem_padded, hhyphen, Calendar.isBlank_of_mem_padded, hhyphen,
    Calendar.isBlank_of_mem_padded⟩

theorem parse?_text (h : d.IsFourDigit) : parse? d.text = some d := by
  have hread := date?_written_append h []
  rw [List.append_nil] at hread
  rw [parse?, text, String.toList_ofList, stripBlanks_of_forall isBlank_of_mem_written, hread]
  rfl

end Date

namespace TimeOfDay

variable {t : TimeOfDay}

theorem fields_of_isValid (h : t.isValid = true) : t.hour < 24 ∧ t.minute < 60 ∧ t.second ≤ 60 := by
  simpa [isValid, and_assoc] using h

private theorem longTime?_written (h : t.isValid = true) :
    Calendar.longTime? t.written = some t := by
  obtain ⟨hhour, hminute, hsecond⟩ := fields_of_isValid h
  have hlast := Calendar.field?_padded_append (show t.second < 100 by omega) []
  rw [List.append_nil] at hlast
  simp only [Calendar.longTime?, written, hlast,
    Calendar.field?_padded_append (show t.hour < 100 by omega),
    Calendar.field?_padded_append (show t.minute < 100 by omega), Calendar.skip?_cons_self,
    Option.bind_eq_bind, Option.bind_some, h, List.isEmpty_nil, Bool.and_true, if_true]

end TimeOfDay

namespace Clock

variable {c : Clock}

private theorem IsValid.isValid (h : c.IsValid) : c.time.isValid = true := by
  obtain ⟨hhour, hminute, hsecond⟩ := h
  simp only [TimeOfDay.isValid, Bool.and_eq_true, decide_eq_true_iff]
  omega

private theorem isBlank_of_mem_written : ∀ x ∈ c.written, isBlank x = false := by
  have hcolon : isBlank ':' = false := by decide
  cases c with
  | toMinute hour minute =>
    simp only [written, List.forall_mem_append, List.forall_mem_cons]
    exact ⟨Calendar.isBlank_of_mem_padded, hcolon, Calendar.isBlank_of_mem_padded⟩
  | toSecond t =>
    simp only [written, TimeOfDay.written, List.forall_mem_append, List.forall_mem_cons]
    exact ⟨Calendar.isBlank_of_mem_padded, hcolon, Calendar.isBlank_of_mem_padded, hcolon,
      Calendar.isBlank_of_mem_padded⟩

/-- A time without seconds is not mistaken for one with seconds. -/
private theorem read_toMinute {hour minute : Nat} (h : (toMinute hour minute).IsValid) :
    Calendar.longTime? (toMinute hour minute).written = none ∧
    Calendar.shortTime? (toMinute hour minute).written = some (toMinute hour minute).time := by
  have hvalid : (TimeOfDay.mk hour minute 0).isValid = true := h.isValid
  have hhour : hour < 24 := h.hour
  have hminute : minute < 60 := h.minute
  have hfirst := Calendar.field?_padded_append (show hour < 100 by omega) (':' :: padded 2 minute)
  have hlast := Calendar.field?_padded_append (show minute < 100 by omega) []
  rw [List.append_nil] at hlast
  constructor
  · simp [Calendar.longTime?, written, hfirst, hlast, Calendar.skip?]
  · simp [Calendar.shortTime?, written, hfirst, hlast, hvalid, time]

theorem parse?_text (h : c.IsValid) : TimeOfDay.parse? c.text = some c.time := by
  rw [TimeOfDay.parse?, text, String.toList_ofList, stripBlanks_of_forall isBlank_of_mem_written]
  cases c with
  | toMinute hour minute =>
    obtain ⟨hlong, hshort⟩ := read_toMinute h
    rw [hlong, hshort]
    rfl
  | toSecond t =>
    have hlong : Calendar.longTime? (toSecond t).written = some t :=
      TimeOfDay.longTime?_written h.isValid
    rw [hlong]
    rfl

theorem fullText_eq (c : Clock) : c.fullText = String.ofList c.time.written := by
  cases c with
  | toMinute hour minute =>
    have hzero : ":00" = String.ofList (':' :: padded 2 0) := rfl
    rw [fullText, hzero, text, written, ← String.ofList_append, List.append_assoc, List.cons_append]
    rfl
  | toSecond t => rfl

end Clock

end Criteria
