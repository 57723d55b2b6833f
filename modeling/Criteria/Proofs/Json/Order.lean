import Criteria.Json.Decoder
/-!
# Tables in order

Whatever order the members of an object have in a document, and however often a name is repeated, the
table that is read from it has each name once and the names in increasing order. The readers of objects
keep what the reader of a member keeps.
-/
namespace Criteria.Json

private theorem exists_of_bind_eq_ok {α β : Type} {x : Except Failure α} {f : α → Except Failure β}
    {y : β} (h : x >>= f = .ok y) : ∃ a, x = .ok a ∧ f a = .ok y := by
  cases x with
  | error e => cases h
  | ok a => exact ⟨a, rfl, h⟩

section Objects

variable {σ : Type} {P : σ → Prop}
  {member : σ → String → List Char → Except Failure (σ × List Char)}
  (keeps : ∀ {s name cs s' rest}, P s → member s name cs = .ok (s', rest) → P s')
include keeps

private theorem readMembers_keeps {fuel : Nat} {s s' : σ} {cs rest : List Char} (hs : P s)
    (h : readMembers member fuel s cs = .ok (s', rest)) : P s' := by
  induction fuel generalizing s cs with
  | zero => cases h
  | succ fuel ih =>
    unfold readMembers at h
    split at h
    · obtain ⟨⟨name, behind⟩, -, h⟩ := exists_of_bind_eq_ok h
      obtain ⟨⟨s₁, rest₁⟩, hmember, h⟩ := exists_of_bind_eq_ok h
      have hs₁ : P s₁ := keeps hs hmember
      dsimp only at h
      split at h
      · cases h
      · cases h
        exact hs₁
      · split at h
        · cases h
        · exact ih hs₁ h
      · cases h
    · cases h

theorem readObject_keeps {s s' : σ} {cs rest : List Char} (hs : P s)
    (h : readObject member s cs = .ok (s', rest)) : P s' := by
  rw [readObject] at h
  split at h
  · cases h
  · cases h
    exact hs
  · exact readMembers_keeps keeps hs h

end Objects

variable {α : Type}

private theorem readEntry_ordered {value : List Char → Except Failure (α × List Char)}
    {t t' : Table α} {name : String} {cs rest : List Char} (ht : t.Ordered)
    (h : readEntry value t name cs = .ok (t', rest)) : t'.Ordered := by
  rw [readEntry] at h
  obtain ⟨behind, -, h⟩ := exists_of_bind_eq_ok h
  obtain ⟨⟨v, left⟩, -, h⟩ := exists_of_bind_eq_ok h
  cases h
  exact ht.insert

private theorem table_ordered {item : Decoder α} {depth : Nat} {cs rest : List Char} {t : Table α}
    (h : Decoder.table item depth cs = .ok (t, rest)) : t.Ordered := by
  unfold Decoder.table at h
  split at h
  · cases h
  · exact readObject_keeps readEntry_ordered List.Pairwise.nil h
  · cases h

theorem decode_table_ordered {item : Decoder α} {text : String} {t : Table α}
    (h : decode (.table item) text = .ok t) : t.Ordered := by
  rw [decode] at h
  obtain ⟨⟨u, left⟩, htable, h⟩ := exists_of_bind_eq_ok h
  dsimp only at h
  split at h
  · cases h
    exact table_ordered htable
  · cases h

end Criteria.Json
