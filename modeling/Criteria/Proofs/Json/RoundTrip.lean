import Criteria.Proofs.Json.Enclosed
/-!
# Values and records read back

What is written is read back as it was: any value with integers in range and the members of its
objects in order, as long as its lists and objects do not stand inside one another too often, and any
list, table or record of what is read back.
-/
namespace Criteria

namespace Table

private theorem insert_of_forall_lt {α : Type} {t : Table α} {name : String}
    (h : ∀ m ∈ t, m.1 < name) (v : α) : t.insert name v = t ++ [(name, v)] := by
  induction t with
  | nil => rfl
  | cons m t ih =>
    have hm : m.1 < name := h m List.mem_cons_self
    have hne : m.1 ≠ name := String.ne_of_lt hm
    have hnot : ¬name < m.1 := String.lt_asymm hm
    rw [insert, if_neg hne, if_neg hnot, ih fun n hn => h n (List.mem_cons_of_mem _ hn),
      List.cons_append]

end Table

/-- A value that documents can hold and whose lists and objects stand inside one another at most
`depth` times: its numbers are integers from -2^63 below 2^64, and the names of its objects are
distinct and in order. -/
inductive Value.Storable : (depth : Nat) → Value → Prop
  | null {depth : Nat} : Storable depth null
  | bool {depth : Nat} (b : Bool) : Storable depth (bool b)
  | integer {depth : Nat} {n : Int} (low : -0x8000000000000000 ≤ n)
    (high : n < 0x10000000000000000) : Storable depth (number (.integer n))
  | text {depth : Nat} (s : String) : Storable depth (text s)
  | list {depth : Nat} {items : List Value} (each : ∀ v ∈ items, Storable depth v) :
    Storable (depth + 1) (list items)
  | object {depth : Nat} {members : List (String × Value)}
    (ordered : members.Pairwise fun m n => m.1 < n.1) (each : ∀ m ∈ members, Storable depth m.2) :
    Storable (depth + 1) (object members)

namespace Json

/-! ### Lists and tables -/

section Lists

variable {α : Type} {item : Decoder α} {depth : Nat}

theorem reads_list (write : α → Value) {xs : List α}
    (h : ∀ y ∈ xs, Reads (item depth) (compact (write y)) y) :
    Reads (Decoder.list item (depth + 1)) (compact (.list (xs.map write))) xs := by
  refine ⟨⟨'[', _, rfl, rfl, by decide⟩, ?_⟩
  intro rest _
  rw [compact, ← readList_compactItems write h rest]
  rfl

private theorem takes_readEntry {α : Type} {item : List Char → Except Failure (α × List Char)}
    {v : Value} {x : α} (h : Reads item (compact v) x) (t : Table α) (name : String) :
    Takes (readEntry item) t name v (t.insert name x) := by
  intro rest hrest
  rw [readEntry]
  simp only [bind, Except.bind, expectColon, skipSpace_cons (show isSpace ':' = false from rfl),
    h.reads rest hrest]
  rfl

private theorem takesAll_readEntry {item : List Char → Except Failure (Value × List Char)}
    {ms : List (String × Value)} (h : ∀ m ∈ ms, Reads item (compact m.2) m.2) (t : Table Value)
    (ordered : (t ++ ms).Pairwise fun m n => m.1 < n.1) :
    TakesAll (readEntry item) t ms (t ++ ms) := by
  induction ms generalizing t with
  | nil => rw [List.append_nil]; exact .nil t
  | cons m ms ih =>
    have hlast : t.insert m.1 m.2 = t ++ [m] :=
      Table.insert_of_forall_lt
        (fun n hn => (List.pairwise_append.mp ordered).2.2 n hn m List.mem_cons_self) m.2
    have hfirst := takes_readEntry (h m List.mem_cons_self) t m.1
    rw [List.append_cons] at ordered ⊢
    rw [hlast] at hfirst
    exact .cons hfirst (ih (fun n hn => h n (List.mem_cons_of_mem _ hn)) _ ordered)

theorem reads_table {item : Decoder Value} {ms : List (String × Value)}
    (h : ∀ m ∈ ms, Reads (item depth) (compact m.2) m.2)
    (ordered : ms.Pairwise fun m n => m.1 < n.1) :
    Reads (Decoder.table item (depth + 1)) (compact (.object ms)) ms := by
  refine ⟨⟨'{', _, rfl, rfl, by decide⟩, ?_⟩
  intro rest _
  have hread := readObject_compactMembers (takesAll_readEntry h [] ordered) rest
  rw [List.nil_append] at hread
  rw [compact, ← hread]
  rfl

end Lists

/-! ### Values -/

theorem reads_text (depth : Nat) (s : String) :
    Reads (Decoder.text depth) (compact (.text s)) s := by
  refine ⟨⟨'"', _, rfl, rfl, by decide⟩, ?_⟩
  intro rest _
  obtain ⟨cs, hquote, hread⟩ := exists_quote_append s rest
  rw [compact, hquote, ← hread]
  rfl

theorem reads_bool (depth : Nat) (b : Bool) :
    Reads (Decoder.bool depth) (compact (.bool b)) b := by
  cases b with
  | false => exact ⟨⟨'f', _, rfl, rfl, by decide⟩, fun _ _ => rfl⟩
  | true => exact ⟨⟨'t', _, rfl, rfl, by decide⟩, fun _ _ => rfl⟩

theorem Reads.value {α : Type} {item : Decoder α} {depth : Nat} {v : Value} {x : α}
    (h : Reads (item depth) (compact v) x) (f : α → Value)
    (hread : ∀ rest, readValue depth (compact v ++ rest) =
      (item depth (compact v ++ rest)).map fun p => (f p.1, p.2)) :
    Reads (readValue depth) (compact v) (f x) := by
  refine ⟨h.opens, ?_⟩
  intro rest hrest
  rw [hread, h.reads rest hrest]
  rfl

private theorem opens_numeral {c : Char} (h : c = '-' ∨ c.isDigit = true) (cs : List Char) :
    Opens (c :: cs) := by
  refine ⟨c, cs, rfl, ?_, ?_⟩
  · rw [← Bool.not_eq_true]
    intro hspace
    simp only [isSpace, Bool.or_eq_true, beq_iff_eq] at hspace
    rcases hspace with ((rfl | rfl) | rfl) | rfl <;> exact absurd h (by decide)
  · rintro rfl
    exact absurd h (by decide)

private theorem readValue_numeral {c : Char} (h : c = '-' ∨ c.isDigit = true) (depth : Nat)
    (cs : List Char) :
    readValue depth (c :: cs) = (readNumber (c :: cs)).map fun (n, rest) => (.number n, rest) := by
  rw [readValue, (opens_numeral h cs).skipSpace_eq]
  split
  case h_8 heq => cases heq; rw [if_pos h]
  case h_1 heq => cases heq
  all_goals
    next heq =>
      cases heq
      exact absurd h (by decide)

theorem reads_integer {n : Int} (low : -0x8000000000000000 ≤ n) (high : n < 0x10000000000000000)
    (depth : Nat) :
    Reads (readValue depth) (compact (.number (.integer n))) (.number (.integer n)) := by
  obtain ⟨c, cs, hcs, hc⟩ := Number.exists_text_cons n
  rw [compact]
  refine ⟨hcs ▸ opens_numeral hc cs, ?_⟩
  intro rest hrest
  have hread := Number.readNumber_text low high hrest
  rw [hcs, List.cons_append] at hread ⊢
  rw [readValue_numeral hc, hread]
  rfl

theorem reads_value {depth : Nat} {v : Value} (h : v.Storable depth) :
    Reads (readValue depth) (compact v) v := by
  induction h with
  | null =>
    refine ⟨⟨'n', _, rfl, rfl, by decide⟩, ?_⟩
    intro rest _
    rw [readValue]
    rfl
  | @bool depth b =>
    refine (reads_bool depth b).value .bool fun rest => ?_
    rw [readValue]
    cases b <;> rfl
  | integer low high => exact reads_integer low high _
  | @text depth s =>
    refine (reads_text depth s).value .text fun rest => ?_
    rw [readValue]
    rfl
  | list each ih =>
    have hlist := reads_list id ih
    rw [List.map_id] at hlist
    refine hlist.value .list fun rest => ?_
    rw [readValue]
    rfl
  | object ordered each ih =>
    refine (reads_table ih ordered).value .object fun rest => ?_
    rw [readValue]
    rfl

/-! ### Records and whole texts -/

section Records

variable {α β σ : Type} {item : Decoder α} {depth : Nat} {x : α}

theorem Reads.map {text : List Char} (h : Reads (item depth) text x) (f : α → β) :
    Reads (item.map f depth) text (f x) := by
  refine ⟨h.opens, ?_⟩
  intro rest hrest
  rw [Decoder.map, h.reads rest hrest]
  rfl

theorem takes_readMember {fields : List (Field σ)} {name : String} {required : Bool}
    {get : σ → Option α} {set : σ → α → σ} {s : σ} {v : Value}
    (hfind : fields.find? (fun f => f.name == name) = some (.of name required get set item))
    (hunread : get s = none) (hread : Reads (item depth) (compact v) x) :
    Takes (Field.readMember fields depth) s name v (set s x) := by
  intro rest hrest
  have hcolon : expectColon (':' :: (compact v ++ rest)) = .ok (compact v ++ rest) := rfl
  rw [Field.readMember, hfind]
  simp only [Field.of, hunread, bind, Except.bind, hcolon, hread.reads rest hrest]
  rfl

/-- An object is read as a record when its members fill the required fields, each field once. -/
theorem reads_record {record : String} {fields : List (Field σ)} {empty s : σ}
    {ms : List (String × Value)} (h : TakesAll (Field.readMember fields depth) empty ms s)
    (hrequired : Field.requireAll fields s = .ok ()) :
    Reads (Decoder.record record fields empty (depth + 1)) (compact (.object ms)) s := by
  refine ⟨⟨'{', _, rfl, rfl, by decide⟩, ?_⟩
  intro rest _
  have hopen (cs : List Char) :
      Decoder.record record fields empty (depth + 1) ('{' :: cs) =
        (readObject (Field.readMember fields depth) empty cs).bind fun p =>
          (Field.requireAll fields p.1).map fun _ => p := rfl
  rw [compact, List.cons_append, hopen, readObject_compactMembers h rest, Except.bind, hrequired]
  rfl

theorem decode_compactText {v : Value} (h : Reads (item maxDepth) (compact v) x) :
    decode item v.compactText = .ok x := by
  have hread := h.reads [] .nil
  rw [List.append_nil] at hread
  rw [decode, Value.compactText, String.toList_ofList, hread]
  rfl

end Records

end Json
end Criteria
