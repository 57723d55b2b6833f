import Criteria.Proofs.Json.Order
import Criteria.Proofs.Store.Operation
/-!
# All or nothing

A store is changed in place, one ruleset after the other, so that a failure may come after a change.
Loading from a text and removing are nevertheless done as a whole or not at all: a document is checked
to its end before the first of its rulesets is loaded, and a removal that turns out to have found
nothing has taken nothing away.
-/
namespace Criteria.Store

/-! ### Changes in place -/

/-- A change of a store in place. What a failing one has changed by then stays changed. -/
abbrev Update := EStateM Error Store

/-- What a document of sources holds. -/
def readSources (text : String) : Except Json.Failure (Table (List Ruleset)) :=
  Json.decode (.table (.list Ruleset.decoder)) text

namespace Update

def refuse : Option EmptyIdentifier → Update Unit
  | some e => throw (.invalid e)
  | none => return ()

def check (source : String) (r : Ruleset) : Update Unit :=
  refuse (emptyIdentifier? source r)

def put (source : String) (r : Ruleset) : Update Unit :=
  modify fun st => st.load source r

def loadText (source text : String) : Update Ruleset :=
  match Ruleset.ofText text with
  | .error f => throw (.document f)
  | .ok r => do
    check source r
    put source r
    return r

/-- Load what a document has for one source, and count it on. -/
def putAll (n : Nat) (entry : String × List Ruleset) : Update Nat := do
  entry.2.forM (put entry.1)
  return n + entry.2.length

/-- Check all rulesets of a document, then load them one after the other and count them. -/
def loadSources (text : String) : Update Nat :=
  match readSources text with
  | .error f => throw (.document f)
  | .ok document => do
    document.forM fun entry => entry.2.forM (check entry.1)
    document.foldlM putAll 0

/-- Keep the rulesets of a source with other identifiers, and see only then whether any are gone. -/
def remove (source id : String) : Update Unit := do
  match (← get).sources.find? source with
  | none => throw (.rulesetNotFound source id)
  | some rs =>
    let kept := rs.filter fun r => r.id != id
    modify fun st => st.replace source kept
    if kept.length = rs.length then throw (.rulesetNotFound source id)

end Update

/-- Two stores have the same sources, and each source has the same rulesets in the same order. -/
def SameSources (st₁ st₂ : Store) : Prop :=
  ∀ source, st₁.sources.find? source = st₂.sources.find? source

/-- A change in place amounts to an operation that is done at once: it gives the same result and the
same store, or it fails with the same error and every source is as it was. -/
def AllOrNothing {α : Type} (st : Store) (update : Update α) :
    (atOnce : Except Error (Store × α)) → Prop
  | .ok (next, x) => update.run st = .ok x next
  | .error e => ∃ left, update.run st = .error e left ∧ left.SameSources st

namespace Update

private theorem forM_refuse {α : Type} (f : α → Option EmptyIdentifier) (xs : List α) :
    (xs.forM fun x => refuse (f x)) = refuse (xs.findSome? f) := by
  induction xs with
  | nil => rfl
  | cons x xs ih =>
    rw [List.forM_eq_forM, List.forM_cons, ← List.forM_eq_forM, ih, List.findSome?_cons]
    cases f x with
    | none => rfl
    | some e => rfl

private theorem forM_check (document : Table (List Ruleset)) :
    (document.forM fun entry => entry.2.forM (check entry.1)) =
      refuse (firstEmptyIdentifier? document) := by
  have hentry : (fun entry : String × List Ruleset => entry.2.forM (check entry.1)) =
      fun entry => refuse (entry.2.findSome? (emptyIdentifier? entry.1)) :=
    funext fun entry => forM_refuse (emptyIdentifier? entry.1) entry.2
  rw [hentry]
  exact forM_refuse _ document

private theorem forM_put (source : String) (rs : List Ruleset) :
    rs.forM (put source) = modify fun st => st.loadAll source rs := by
  induction rs with
  | nil => rfl
  | cons r rest ih =>
    rw [List.forM_eq_forM, List.forM_cons, ← List.forM_eq_forM, ih]
    rfl

private theorem foldlM_putAll (document : Table (List Ruleset)) (n : Nat) :
    document.foldlM putAll n = (do
      modify fun st => st.loadDocument document
      return n + (document.flatMap (·.2)).length) := by
  induction document generalizing n with
  | nil => rfl
  | cons entry rest ih =>
    have hput : putAll n entry = (do
        modify fun st => st.loadAll entry.1 entry.2
        return n + entry.2.length) := by rw [putAll, forM_put]
    rw [List.foldlM_cons, hput, bind_assoc]
    simp only [pure_bind, ih]
    rw [List.flatMap_cons, List.length_append, ← Nat.add_assoc]
    rfl

end Update

/-! ### What a document needs -/

/-- Every ruleset of a document has an identifier, and so has every source that has a ruleset. -/
structure Identified (document : Table (List Ruleset)) : Prop where
  rulesets : ∀ entry ∈ document, ∀ r ∈ entry.2, r.id ≠ ""
  sources : ∀ entry ∈ document, entry.2 ≠ [] → entry.1 ≠ ""

/-- The rulesets of a document with their sources, in the order of the document. -/
def entries (document : Table (List Ruleset)) : List (String × Ruleset) :=
  document.flatMap fun (source, rs) => rs.map fun r => (source, r)

private theorem emptyIdentifier?_eq_none {source : String} {r : Ruleset} :
    emptyIdentifier? source r = none ↔ source ≠ "" ∧ r.id ≠ "" := by
  rw [emptyIdentifier?]
  by_cases hs : source = ""
  · simp [hs]
  · by_cases hr : r.id = "" <;> simp [hs, hr]

private theorem firstEmptyIdentifier?_eq_none {document : Table (List Ruleset)} :
    firstEmptyIdentifier? document = none ↔ Identified document := by
  simp only [firstEmptyIdentifier?, List.findSome?_eq_none_iff, emptyIdentifier?_eq_none]
  constructor
  · intro h
    refine ⟨fun entry he r hr => (h entry he r hr).2, fun entry he hne => ?_⟩
    obtain ⟨r, hr⟩ := List.exists_mem_of_ne_nil _ hne
    exact (h entry he r hr).1
  · intro h entry he r hr
    exact ⟨h.sources entry he (List.ne_nil_of_mem hr), h.rulesets entry he r hr⟩

private theorem length_entries (document : Table (List Ruleset)) :
    (entries document).length = (document.flatMap (·.2)).length := by
  simp [entries, List.length_flatMap]

variable {st : Store}

private theorem loadDocument_eq_foldl (st : Store) (document : Table (List Ruleset)) :
    st.loadDocument document = (entries document).foldl (fun st p => st.load p.1 p.2) st := by
  rw [entries, List.foldl_flatMap, loadDocument]
  simp only [List.foldl_map]
  rfl

theorem loadSources_eq_ok {text : String} {next : Store} {n : Nat} :
    st.loadSources text = .ok (next, n) ↔ ∃ document, readSources text = .ok document ∧
      Identified document ∧ n = (entries document).length ∧
      next = (entries document).foldl (fun st p => st.load p.1 p.2) st := by
  rw [loadSources, readSources]
  cases Json.decode (.table (.list Ruleset.decoder)) text with
  | error f => simp
  | ok document =>
    simp only [Except.ok.injEq, exists_eq_left', ← firstEmptyIdentifier?_eq_none, length_entries,
      ← loadDocument_eq_foldl]
    cases firstEmptyIdentifier? document with
    | some e => simp
    | none => simp [eq_comm, and_comm]

/-! ### What a removal takes -/

/-- A removal fails when no ruleset has the identifier, and filters the source otherwise. -/
theorem remove_eq (st : Store) (source id : String) :
    st.remove source id =
      if ∀ r ∈ st.rulesets source, r.id ≠ id then .error (.rulesetNotFound source id)
      else .ok (st.replace source ((st.rulesets source).filter fun r => r.id != id)) := by
  have hkept : ((st.rulesets source).filter fun r => r.id != id).length =
      (st.rulesets source).length ↔ ∀ r ∈ st.rulesets source, r.id ≠ id := by
    simp [List.length_filter_eq_length_iff]
  simp only [remove, hkept]

theorem remove_eq_error {source id : String} {e : Error} :
    st.remove source id = .error e ↔
      e = .rulesetNotFound source id ∧ ∀ r ∈ st.rulesets source, r.id ≠ id := by
  rw [remove_eq]
  split
  · next h =>
    rw [Except.error.injEq, eq_comm, and_iff_left h]
  · next h => simp [h]

theorem find?_of_remove_eq_ok {source id : String} {next : Store}
    (h : st.remove source id = .ok next) (other : String) :
    next.sources.find? other =
      if source = other then some ((st.rulesets source).filter fun r => r.id != id)
      else st.sources.find? other := by
  rw [remove_eq] at h
  split at h
  · cases h
  · cases h
    exact Table.find?_insert _ _ _ _

/-! ### In place and at once -/

theorem allOrNothing_loadText (st : Store) (source text : String) :
    AllOrNothing st (Update.loadText source text) (st.loadText source text) := by
  rw [Update.loadText, loadText]
  cases Ruleset.ofText text with
  | error f => exact ⟨st, rfl, fun _ => rfl⟩
  | ok r =>
    simp only [Update.check]
    cases emptyIdentifier? source r with
    | some e => exact ⟨st, rfl, fun _ => rfl⟩
    | none => exact rfl

theorem allOrNothing_loadSources (st : Store) (text : String) :
    AllOrNothing st (Update.loadSources text) (st.loadSources text) := by
  rw [Update.loadSources, readSources, loadSources]
  cases Json.decode (.table (.list Ruleset.decoder)) text with
  | error f => exact ⟨st, rfl, fun _ => rfl⟩
  | ok document =>
    simp only [Update.forM_check, Update.foldlM_putAll, Nat.zero_add]
    cases firstEmptyIdentifier? document with
    | some e => exact ⟨st, rfl, fun _ => rfl⟩
    | none => exact rfl

private theorem Update.run_remove {st : Store} {source : String} {rs : List Ruleset}
    (hfind : st.sources.find? source = some rs) (id : String) :
    (Update.remove source id).run st =
      let kept := rs.filter fun r => r.id != id
      if kept.length = rs.length then .error (.rulesetNotFound source id) (st.replace source kept)
      else .ok () (st.replace source kept) := by
  rw [Update.remove, EStateM.run_bind, EStateM.run_get]
  dsimp only
  rw [hfind]
  dsimp only
  rw [EStateM.run_bind, EStateM.run_modify]
  dsimp only
  split <;> rfl

theorem allOrNothing_remove (st : Store) (source id : String) :
    AllOrNothing st (Update.remove source id) ((st.remove source id).map fun next => (next, ())) := by
  rw [remove, rulesets]
  cases hfind : st.sources.find? source with
  | none =>
    refine ⟨st, ?_, fun _ => rfl⟩
    rw [Update.remove, EStateM.run_bind, EStateM.run_get]
    dsimp only
    rw [hfind]
    rfl
  | some rs =>
    have hrun := Update.run_remove hfind id
    dsimp only [Option.getD_some] at hrun ⊢
    split
    · next hlen =>
      have hkept : (rs.filter fun r => r.id != id) = rs :=
        List.filter_eq_self.mpr (List.length_filter_eq_length_iff.mp hlen)
      rw [if_pos hlen, hkept] at hrun
      refine ⟨st.replace source rs, hrun, fun other => ?_⟩
      rw [replace, Table.find?_insert]
      split
      · next hs => rw [← hs, hfind]
      · rfl
    · next hlen =>
      rw [if_neg hlen] at hrun
      exact hrun

/-- Loading from a text and removing are done as a whole or not at all. -/
theorem loads_and_removals_atomic (st : Store) :
    (∀ source text, AllOrNothing st (Update.loadText source text) (st.loadText source text)) ∧
    (∀ text, AllOrNothing st (Update.loadSources text) (st.loadSources text)) ∧
    (∀ source id, AllOrNothing st (Update.remove source id)
      ((st.remove source id).map fun next => (next, ()))) ∧
    (∀ text next n, st.loadSources text = .ok (next, n) ↔ ∃ document,
      readSources text = .ok document ∧ Identified document ∧ n = (entries document).length ∧
      next = (entries document).foldl (fun st p => st.load p.1 p.2) st) ∧
    (∀ text document, readSources text = .ok document → document.Ordered) ∧
    (∀ source id e, st.remove source id = .error e ↔
      e = .rulesetNotFound source id ∧ ∀ r ∈ st.rulesets source, r.id ≠ id) ∧
    ∀ source id next, st.remove source id = .ok next → ∀ other, next.sources.find? other =
      if source = other then some ((st.rulesets source).filter fun r => r.id != id)
      else st.sources.find? other :=
  ⟨allOrNothing_loadText st, allOrNothing_loadSources st, allOrNothing_remove st,
    fun _ _ _ => loadSources_eq_ok, fun _ _ => Json.decode_table_ordered,
    fun _ _ _ => remove_eq_error, fun _ _ _ => find?_of_remove_eq_ok⟩

/-- A document whose last ruleset lacks an identifier loads nothing of its first source, and a
removal takes both rulesets that have the identifier. -/
theorem loads_and_removals_atomic_of_late_defect :
    let x : Ruleset := ⟨"x", "", true, [], []⟩
    let y : Ruleset := ⟨"y", "", true, [], []⟩
    let st : Store := empty.replace "a" [x, y, x]
    let text := "\x7b\"b\":[\x7b\"id\":\"\"\x7d],\"a\":[\x7b\"id\":\"z\"\x7d]\x7d"
    (∃ document, readSources text = .ok document ∧ document.Ordered ∧
      document.map (·.1) = ["a", "b"]) ∧
    (∃ left, (Update.loadSources text).run st = .error (.invalid (.ruleset "b")) left ∧
      left.SameSources st) ∧
    ∃ next, st.remove "a" "x" = .ok next ∧ next.sources.find? "a" = some [y] := by
  intro x y st text
  obtain ⟨-, hload, -, -, hordered, -, hremove⟩ := loads_and_removals_atomic st
  have hread : (readSources text).map (·.map (·.1)) = .ok ["a", "b"] := by decide +kernel
  have hfails : (st.loadSources text).map (·.2) = .error (.invalid (.ruleset "b")) := by
    decide +kernel
  have hremoved : st.remove "a" "x" = .ok (st.replace "a" [y]) := rfl
  refine ⟨?_, ?_, _, hremoved, hremove "a" "x" _ hremoved "a"⟩
  · cases hdocument : readSources text with
    | error f => rw [hdocument] at hread; cases hread
    | ok document =>
      rw [hdocument] at hread
      exact ⟨document, rfl, hordered text document hdocument, Except.ok.inj hread⟩
  · have h := hload text
    cases hresult : st.loadSources text with
    | ok answer => rw [hresult] at hfails; cases hfails
    | error e =>
      rw [hresult] at h hfails
      cases hfails
      exact h

end Criteria.Store
