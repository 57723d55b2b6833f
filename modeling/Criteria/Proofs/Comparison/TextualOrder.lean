import Criteria.Proofs.Calendar.Timestamp
import Criteria.Proofs.Comparison.Guard
/-!
# Textual order of dates and times

Written days and times stand in the order of their texts, byte by byte, since their fields have
fixed widths and come from the longest unit to the shortest. So an operator on an order relates two
days as it does their texts, and two times as their texts with seconds. A timestamp compares as the
day that it begins with.
-/
namespace Criteria

open Text

/-! ### The operators on an order -/

namespace Operator

/-- What an operator on an order asks of two things; other operators ask for nothing that can be. -/
def Compares {α : Type} [LT α] [LE α] (op : Operator) (a b : α) : Prop :=
  match op with
  | equal => a = b
  | notEqual => a ≠ b
  | greater => b < a
  | less => a < b
  | atLeast => b ≤ a
  | atMost => a ≤ b
  | _ => False

variable {α : Type} [LT α] [LE α] [Std.IsLinearOrder α] [Std.LawfulOrderLT α] {op : Operator}
  {o : Ordering} {a b : α}

/-- The outcome of a comparison by any means is that in a linear order, when both agree on which of
two things is less. -/
private theorem ordered_iff_compares (hlt : o = .lt ↔ a < b) (hgt : o = .gt ↔ b < a) :
    op.ordered o = true ↔ op.Compares a b := by
  have heq : o = .eq ↔ a = b := by
    constructor
    · rintro rfl
      exact Std.le_antisymm (Std.not_lt.mp fun h => nomatch hgt.mpr h)
        (Std.not_lt.mp fun h => nomatch hlt.mpr h)
    · rintro rfl
      cases o with
      | eq => rfl
      | lt => exact absurd (hlt.mp rfl) Std.lt_irrefl
      | gt => exact absurd (hgt.mp rfl) Std.lt_irrefl
  cases op with
  | equal => exact beq_iff_eq.trans heq
  | notEqual => exact bne_iff_ne.trans (not_congr heq)
  | greater => exact beq_iff_eq.trans hgt
  | less => exact beq_iff_eq.trans hlt
  | atLeast => exact bne_iff_ne.trans ((not_congr hlt).trans Std.not_lt)
  | atMost => exact bne_iff_ne.trans ((not_congr hgt).trans Std.not_lt)
  | _ => simp [ordered, Compares]

end Operator

/-! ### The order of written dates and times -/

private theorem Value.date?_text (s : String) : (text s).date? = Date.parse? s :=
  rfl

private theorem Value.time?_text (s : String) : (text s).time? = TimeOfDay.parse? s :=
  rfl

private theorem Date.bytes_text_lt_iff {a b : Date} (ha : a.IsFourDigit) (hb : b.IsFourDigit) :
    bytes a.text < bytes b.text ↔ a.rank < b.rank := by
  obtain ⟨hamonth, haday⟩ := fields_of_isValid ha.isValid
  obtain ⟨hbmonth, hbday⟩ := fields_of_isValid hb.isValid
  have hayear := ha.nonneg
  have hbyear := hb.nonneg
  rw [text, text, bytes_ofList, bytes_ofList, written, written,
    encoded_padded_cons_lt_iff ha.toNat_lt hb.toNat_lt,
    encoded_padded_cons_lt_iff (by omega) (by omega), encoded_padded_lt_iff (by omega) (by omega),
    rank, rank]
  omega

private theorem Clock.bytes_fullText_lt_iff {a b : Clock} (ha : a.IsValid) (hb : b.IsValid) :
    bytes a.fullText < bytes b.fullText ↔ a.time.rank < b.time.rank := by
  obtain ⟨hahour, haminute, hasecond⟩ := ha
  obtain ⟨hbhour, hbminute, hbsecond⟩ := hb
  rw [fullText_eq, fullText_eq, bytes_ofList, bytes_ofList, TimeOfDay.written, TimeOfDay.written,
    encoded_padded_cons_lt_iff (by omega) (by omega),
    encoded_padded_cons_lt_iff (by omega) (by omega), encoded_padded_lt_iff (by omega) (by omega),
    TimeOfDay.rank, TimeOfDay.rank]
  omega

namespace ValueType

variable {op : Operator} {live threshold : Value}

/-! ### Days -/

private theorem compare_date : date.compare op live threshold = Comparison.date op live threshold :=
  compare_eq_family (fun h => nomatch h.1) fun h => nomatch h.1

private theorem compare_date_congr {live' threshold' : Value} (hlive : live.date? = live'.date?)
    (hthreshold : threshold.date? = threshold'.date?) :
    date.compare op live threshold = date.compare op live' threshold' := by
  rw [compare_date, compare_date, Comparison.date, Comparison.date, hlive, hthreshold]

theorem compare_date_iff {a b : Date} (ha : a.IsFourDigit) (hb : b.IsFourDigit) :
    date.compare op (.text a.text) (.text b.text) = true ↔
      op.Compares (bytes a.text) (bytes b.text) := by
  simp only [compare_date, Comparison.date, Value.date?_text, Date.parse?_text ha,
    Date.parse?_text hb]
  refine Operator.ordered_iff_compares ?_ ?_
  · rw [Date.bytes_text_lt_iff ha hb, Date.compare, Std.compare_eq_lt]
  · rw [Date.bytes_text_lt_iff hb ha, Date.compare, Std.compare_eq_gt]

/-! ### Times -/

private theorem compare_time (hop : time.supports op = true) :
    time.compare op live threshold = Comparison.time op live threshold := by
  refine compare_eq_family ?_ fun h => nomatch h.1
  rintro ⟨-, rfl | rfl⟩
  · cases hop
  · cases hop

theorem compare_time_iff {a b : Clock} (ha : a.IsValid) (hb : b.IsValid)
    (hop : time.supports op = true) : time.compare op (.text a.text) (.text b.text) = true ↔
      op.Compares (bytes a.fullText) (bytes b.fullText) := by
  simp only [compare_time hop, Comparison.time, Value.time?_text, Clock.parse?_text ha,
    Clock.parse?_text hb]
  refine Operator.ordered_iff_compares ?_ ?_
  · rw [Clock.bytes_fullText_lt_iff ha hb, TimeOfDay.compare, Std.compare_eq_lt]
  · rw [Clock.bytes_fullText_lt_iff hb ha, TimeOfDay.compare, Std.compare_eq_gt]

/-! ### Textual order -/

/-- Written days and times compare as their texts, byte by byte, and a timestamp as the day that it
begins with. -/
theorem compare_as_texts :
    (∀ a b : Date, a.IsFourDigit → b.IsFourDigit → ∀ op : Operator,
      date.compare op (.text a.text) (.text b.text) = true ↔
        op.Compares (bytes a.text) (bytes b.text)) ∧
    (∀ a b : Clock, a.IsValid → b.IsValid → ∀ op ∈ [.equal, .notEqual, .greater, .less],
      (time.compare op (.text a.text) (.text b.text) = true ↔
        op.Compares (bytes a.fullText) (bytes b.fullText))) ∧
    ∀ ts : Timestamp, ts.IsValid → ∀ front : String, front.toList = ts.text.toList.take 10 →
      (∃ d : Date, d.IsFourDigit ∧ front = d.text) ∧ ∀ (op : Operator) (v : Value),
        date.compare op (.text ts.text) v = date.compare op (.text front) v ∧
        date.compare op v (.text ts.text) = date.compare op v (.text front) := by
  refine ⟨?_, ?_, ?_⟩
  · intro a b ha hb op
    exact compare_date_iff ha hb
  · intro a b ha hb op hop
    exact compare_time_iff ha hb (List.contains_iff_mem.mpr hop)
  · intro ts hts front hfront
    have hdate : front = ts.date.text := by
      rw [← String.toList_inj, hfront, Timestamp.text, Date.text, String.toList_ofList,
        String.toList_ofList, Timestamp.take_written]
    refine ⟨⟨ts.date, hts.date, hdate⟩, fun op v => ?_⟩
    have hread : (Value.text ts.text).date? = (Value.text front).date? := by
      rw [hdate, Value.date?_text, Value.date?_text, Timestamp.parse?_text hts,
        Date.parse?_text hts.date]
    exact ⟨compare_date_congr hread rfl, compare_date_congr rfl hread⟩

/-- A leap day and the day before it, a time with and without seconds, and a timestamp that is on
the next day in universal time. -/
theorem compare_as_texts_of_leap_day :
    date.compare .greater (.text "2024-02-29") (.text "2024-02-28") = true ∧
    time.compare .equal (.text "09:05") (.text "09:05:00") = true ∧
    date.compare .equal (.text "2024-02-29T23:30:00.5-05:00") (.text "2024-02-29") = true := by
  have hleap : (Date.mk 2024 2 29).IsFourDigit := ⟨by decide, by decide, by decide⟩
  have hbefore : (Date.mk 2024 2 28).IsFourDigit := ⟨by decide, by decide, by decide⟩
  have hshort : (Clock.toMinute 9 5).IsValid := ⟨by decide, by decide, by decide⟩
  have hlong : (Clock.toSecond ⟨9, 5, 0⟩).IsValid := ⟨by decide, by decide, by decide⟩
  let ts : Timestamp := ⟨⟨2024, 2, 29⟩, 'T', ⟨23, 30, 0⟩, ['.', '5'], "-05:00".toList⟩
  have hts : ts.IsValid :=
    ⟨hleap, .inl rfl, by decide, .digits (by decide) (List.forall_mem_singleton.mpr rfl),
      .signed (.inr (.inl rfl)) (show 5 < 24 by decide) (show 0 < 60 by decide)⟩
  obtain ⟨hdates, htimes, hstamps⟩ := compare_as_texts
  have hgreater := (hdates _ _ hleap hbefore .greater).mpr
    (show bytes "2024-02-28" < bytes "2024-02-29" by decide +kernel)
  have hsame := (htimes _ _ hshort hlong .equal List.mem_cons_self).mpr
    (show bytes "09:05:00" = bytes "09:05:00" from rfl)
  have hday := (hdates _ _ hleap hleap .equal).mpr rfl
  have hstamp := (hstamps ts hts "2024-02-29" (by decide +kernel)).2 .equal (.text "2024-02-29")
  have hleapText : (Date.mk 2024 2 29).text = "2024-02-29" := by decide +kernel
  have hbeforeText : (Date.mk 2024 2 28).text = "2024-02-28" := by decide +kernel
  have hshortText : (Clock.toMinute 9 5).text = "09:05" := by decide +kernel
  have hlongText : (Clock.toSecond ⟨9, 5, 0⟩).text = "09:05:00" := by decide +kernel
  have hstampText : ts.text = "2024-02-29T23:30:00.5-05:00" := by decide +kernel
  rw [hleapText] at hgreater hday
  rw [hbeforeText] at hgreater
  rw [hshortText, hlongText] at hsame
  rw [hstampText] at hstamp
  exact ⟨hgreater, hsame, hstamp.1.trans hday⟩

end ValueType
end Criteria
