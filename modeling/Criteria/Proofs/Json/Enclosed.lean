import Criteria.Json.Decoder
import Criteria.Proofs.Json.Scalar
/-!
# Lists and objects read back

The items of a list and the members of an object are read back one after the other when each of them
is, whatever reads them: the readers of lists and objects take the reader of an item or a member as an
argument.
-/
namespace Criteria.Json

/-- A text that begins neither with a blank nor with the end of a list. -/
def Opens (cs : List Char) : Prop :=
  ∃ c rest, cs = c :: rest ∧ isSpace c = false ∧ c ≠ ']'

private theorem Opens.append {cs : List Char} (h : Opens cs) (rest : List Char) :
    Opens (cs ++ rest) := by
  obtain ⟨c, cs, rfl, hc⟩ := h
  exact ⟨c, cs ++ rest, rfl, hc⟩

theorem Opens.skipSpace_eq {cs : List Char} (h : Opens cs) : skipSpace cs = cs := by
  obtain ⟨c, cs, rfl, hspace, -⟩ := h
  exact skipSpace_cons hspace cs

/-! ### Lists -/

/-- The text of a value, which `item` reads as `x` in front of whatever may follow a value. -/
structure Reads {α : Type} (item : List Char → Except Failure (α × List Char)) (text : List Char)
    (x : α) : Prop where
  opens : Opens text
  reads : ∀ rest, Stops rest → item (text ++ rest) = .ok (x, rest)

section Lists

variable {α : Type} {item : List Char → Except Failure (α × List Char)} {write : α → Value} {x : α}
  {text : List Char}

private theorem readItems_last (h : Reads item text x) (fuel : Nat) (acc : List α)
    (rest : List Char) :
    readItems item (fuel + 1) acc (text ++ ']' :: rest) = .ok ((x :: acc).reverse, rest) := by
  rw [readItems, h.reads _ (.bracket rest)]
  rfl

private theorem readItems_next (h : Reads item text x) {next : List Char} (hnext : Opens next)
    (fuel : Nat) (acc : List α) :
    readItems item (fuel + 1) acc (text ++ ',' :: next) = readItems item fuel (x :: acc) next := by
  obtain ⟨c, cs, rfl, hspace, hc⟩ := hnext
  have hcomma : skipSpace (',' :: c :: cs) = ',' :: c :: cs := rfl
  rw [readItems, h.reads _ (.comma _)]
  simp only [bind, Except.bind, hcomma, skipSpace_cons hspace]
  split
  · next heq => cases heq
  · next heq => cases heq; exact absurd rfl hc
  · rfl

private theorem compactItems_cons_cons (v w : Value) (vs : List Value) (rest : List Char) :
    compactItems (v :: w :: vs) ++ rest = compact v ++ ',' :: (compactItems (w :: vs) ++ rest) := by
  rw [compactItems, List.append_assoc, List.cons_append]

private theorem opens_compactItems {v : Value} (h : Opens (compact v)) (vs : List Value) :
    Opens (compactItems (v :: vs)) := by
  cases vs with
  | nil => exact h.append _
  | cons w vs => exact h.append _

theorem readItems_compactItems {xs : List α}
    (h : ∀ y ∈ x :: xs, Reads item (compact (write y)) y) {fuel : Nat} (hfuel : xs.length < fuel)
    (acc : List α) (rest : List Char) :
    readItems item fuel acc (compactItems ((x :: xs).map write) ++ rest) =
      .ok (acc.reverse ++ x :: xs, rest) := by
  induction xs generalizing x acc fuel with
  | nil =>
    obtain ⟨fuel, rfl⟩ := Nat.exists_eq_add_one.mpr hfuel
    rw [List.map_singleton, compactItems, List.append_assoc, List.singleton_append,
      readItems_last (h x List.mem_cons_self), List.reverse_cons]
  | cons y ys ih =>
    obtain ⟨fuel, rfl⟩ := Nat.exists_eq_add_one.mpr (Nat.zero_lt_of_lt hfuel)
    have hys : ∀ z ∈ y :: ys, Reads item (compact (write z)) z :=
      fun z hz => h z (List.mem_cons_of_mem _ hz)
    have hopens : Opens (compactItems ((y :: ys).map write) ++ rest) :=
      (opens_compactItems (hys y List.mem_cons_self).opens _).append rest
    rw [List.map_cons, List.map_cons, compactItems_cons_cons, ← List.map_cons,
      readItems_next (h x List.mem_cons_self) hopens,
      ih hys (Nat.lt_of_succ_lt_succ hfuel), List.reverse_cons, List.append_assoc,
      List.singleton_append]

private theorem length_le_length_compactItems (vs : List Value) :
    vs.length ≤ (compactItems vs).length := by
  induction vs with
  | nil => exact Nat.zero_le _
  | cons v vs ih =>
    cases vs with
    | nil => simp [compactItems]
    | cons w vs =>
      simp only [compactItems, List.length_append, List.length_cons] at ih ⊢
      omega

theorem readList_compactItems (write : α → Value) {xs : List α}
    (h : ∀ y ∈ xs, Reads item (compact (write y)) y) (rest : List Char) :
    readList item (compactItems (xs.map write) ++ rest) = .ok (xs, rest) := by
  cases xs with
  | nil => rfl
  | cons x xs =>
    have hopens : Opens (compactItems ((x :: xs).map write) ++ rest) :=
      (opens_compactItems (h x List.mem_cons_self).opens _).append rest
    have hfuel : xs.length < (compactItems ((x :: xs).map write) ++ rest).length := by
      have hlength := length_le_length_compactItems ((x :: xs).map write)
      rw [List.length_map, List.length_cons] at hlength
      rw [List.length_append]
      omega
    rw [readList, hopens.skipSpace_eq]
    obtain ⟨c, cs, heq, -, hc⟩ := hopens
    have hread := readItems_compactItems h hfuel [] rest
    rw [heq] at hread ⊢
    split
    · next hnil => cases hnil
    · next hend => cases hend; exact absurd rfl hc
    · exact hread

end Lists

/-! ### Objects -/

section Objects

variable {σ : Type} {member : σ → String → List Char → Except Failure (σ × List Char)}
  {s s' : σ} {name : String} {v : Value}

/-- From behind a name `member` reads a value and goes on from `s` to `s'`. -/
def Takes (member : σ → String → List Char → Except Failure (σ × List Char)) (s : σ)
    (name : String) (v : Value) (s' : σ) : Prop :=
  ∀ rest, Stops rest → member s name (':' :: (compact v ++ rest)) = .ok (s', rest)

/-- `member` goes on from `s` to `s'` when it reads the given members one after the other. -/
inductive TakesAll (member : σ → String → List Char → Except Failure (σ × List Char)) :
    σ → List (String × Value) → σ → Prop
  | nil (s : σ) : TakesAll member s [] s
  | cons {s s₁ s₂ : σ} {name : String} {v : Value} {ms : List (String × Value)}
      (first : Takes member s name v s₁) (rest : TakesAll member s₁ ms s₂) :
      TakesAll member s ((name, v) :: ms) s₂

private theorem readMembers_last (h : Takes member s name v s') (fuel : Nat) (rest : List Char) :
    readMembers member (fuel + 1) s (quote name ++ ':' :: (compact v ++ '}' :: rest)) =
      .ok (s', rest) := by
  obtain ⟨cs, hquote, hname⟩ := exists_quote_append name (':' :: (compact v ++ '}' :: rest))
  rw [hquote, readMembers]
  simp only [bind, Except.bind, hname, h _ (.brace rest)]
  rfl

private theorem readMembers_next (h : Takes member s name v s') (fuel : Nat) (next : List Char) :
    readMembers member (fuel + 1) s (quote name ++ ':' :: (compact v ++ ',' :: '"' :: next)) =
      readMembers member fuel s' ('"' :: next) := by
  obtain ⟨cs, hquote, hname⟩ := exists_quote_append name (':' :: (compact v ++ ',' :: '"' :: next))
  rw [hquote, readMembers]
  simp only [bind, Except.bind, hname, h _ (.comma _)]
  rfl

private theorem compactMembers_singleton (name : String) (v : Value) (rest : List Char) :
    compactMembers [(name, v)] ++ rest = quote name ++ ':' :: (compact v ++ '}' :: rest) := by
  simp [compactMembers]

private theorem compactMembers_cons_cons (name : String) (v : Value) (m : String × Value)
    (ms : List (String × Value)) (rest : List Char) :
    compactMembers ((name, v) :: m :: ms) ++ rest =
      quote name ++ ':' :: (compact v ++ ',' :: (compactMembers (m :: ms) ++ rest)) := by
  simp [compactMembers]

private theorem exists_compactMembers_cons (m : String × Value) (ms : List (String × Value)) :
    ∃ cs, compactMembers (m :: ms) = '"' :: cs := by
  cases ms <;> exact ⟨_, rfl⟩

theorem readMembers_compactMembers {m : String × Value} {ms : List (String × Value)}
    (h : TakesAll member s (m :: ms) s') {fuel : Nat} (hfuel : ms.length < fuel)
    (rest : List Char) :
    readMembers member fuel s (compactMembers (m :: ms) ++ rest) = .ok (s', rest) := by
  induction ms generalizing m s fuel with
  | nil =>
    obtain ⟨fuel, rfl⟩ := Nat.exists_eq_add_one.mpr hfuel
    cases h with
    | cons first others =>
      cases others
      rw [compactMembers_singleton, readMembers_last first]
  | cons n ms ih =>
    obtain ⟨fuel, rfl⟩ := Nat.exists_eq_add_one.mpr (Nat.zero_lt_of_lt hfuel)
    cases h with
    | cons first others =>
      have hread := ih others (Nat.lt_of_succ_lt_succ hfuel)
      obtain ⟨cs, hcs⟩ := exists_compactMembers_cons n ms
      rw [hcs, List.cons_append] at hread
      rw [compactMembers_cons_cons, hcs, List.cons_append, readMembers_next first, hread]

private theorem length_le_length_compactMembers (ms : List (String × Value)) :
    ms.length ≤ (compactMembers ms).length := by
  induction ms with
  | nil => exact Nat.zero_le _
  | cons m ms ih =>
    cases ms with
    | nil =>
      simp only [compactMembers, List.length_append, List.length_cons]
      omega
    | cons n ms =>
      simp only [compactMembers, List.length_append, List.length_cons] at ih ⊢
      omega

/-- An object is read back when each of its members is. -/
theorem readObject_compactMembers {ms : List (String × Value)} (h : TakesAll member s ms s')
    (rest : List Char) :
    readObject member s (compactMembers ms ++ rest) = .ok (s', rest) := by
  cases ms with
  | nil => cases h; rfl
  | cons m ms =>
    have hfuel : ms.length < (compactMembers (m :: ms) ++ rest).length := by
      have hlength := length_le_length_compactMembers (m :: ms)
      rw [List.length_cons] at hlength
      rw [List.length_append]
      omega
    have hread := readMembers_compactMembers h hfuel rest
    obtain ⟨cs, hcs⟩ := exists_compactMembers_cons m ms
    rw [hcs, List.cons_append] at hread ⊢
    exact hread

end Objects

end Criteria.Json
