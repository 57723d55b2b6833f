import Criteria.Proofs.Store.Placement
/-!
# Operations on a store

The operations that change a store and the runs that they make up. A failing operation leaves the
store as it is. Through the rulesets of one source, each operation is a list of placements, a filter
or a fresh list.
-/
namespace Criteria

namespace Store

inductive Operation
  | load (source : String) (r : Ruleset)
  | loadText (source text : String)
  | loadAll (source : String) (rs : List Ruleset)
  | loadSources (text : String)
  | replace (source : String) (rs : List Ruleset)
  | remove (source id : String)
  | clear

/-- The store after an operation that succeeds. -/
def apply (st : Store) : Operation → Except Error Store
  | .load source r => .ok (st.load source r)
  | .loadText source text => (st.loadText source text).map (·.1)
  | .loadAll source rs => .ok (st.loadAll source rs)
  | .loadSources text => (st.loadSources text).map (·.1)
  | .replace source rs => .ok (st.replace source rs)
  | .remove source id => st.remove source id
  | .clear => .ok empty

/-- The store after an operation; one that fails changes nothing. -/
def step (st : Store) (op : Operation) : Store :=
  match st.apply op with
  | .ok next => next
  | .error _ => st

/-- The store after operations on the empty store, one after the other. -/
def run (ops : List Operation) : Store :=
  ops.foldl step empty

/-- The ruleset that a text brings to a source: there is none when the text cannot be read or an
identifier is empty. -/
def admitted? (source text : String) : Option Ruleset :=
  match Ruleset.ofText text with
  | .error _ => none
  | .ok r => if (emptyIdentifier? source r).isNone then some r else none

/-- The rulesets that a text of sources brings, by source: all of them or none. -/
def admittedSources (text : String) : Table (List Ruleset) :=
  match Json.decode (.table (.list Ruleset.decoder)) text with
  | .error _ => []
  | .ok document => if (firstEmptyIdentifier? document).isNone then document else []

/-- What a document of sources has for one of them. -/
def ofSource (document : Table (List Ruleset)) (source : String) : List Ruleset :=
  document.flatMap fun (s, rs) => if s = source then rs else []

variable (st : Store) (source : String)

@[simp] theorem rulesets_empty : empty.rulesets source = [] := rfl

theorem rulesets_replace (s : String) (rs : List Ruleset) :
    (st.replace s rs).rulesets source = if s = source then rs else st.rulesets source := by
  rw [rulesets, replace, Table.find?_insert]
  split
  · rfl
  · rfl

theorem rulesets_load (s : String) (r : Ruleset) :
    (st.load s r).rulesets source =
      if s = source then placeRuleset (st.rulesets source) r else st.rulesets source := by
  have h := rulesets_replace st source s (placeRuleset (st.rulesets s) r)
  rw [replace] at h
  rw [load, h]
  split
  · next hs => rw [hs]
  · rfl

theorem rulesets_loadAll (s : String) (rs : List Ruleset) :
    (st.loadAll s rs).rulesets source =
      (if s = source then rs else []).foldl placeRuleset (st.rulesets source) := by
  induction rs generalizing st with
  | nil => simp [loadAll]
  | cons r rest ih =>
    have hstep : st.loadAll s (r :: rest) = (st.load s r).loadAll s rest := rfl
    rw [hstep, ih, rulesets_load]
    split <;> simp

theorem rulesets_loadDocument (document : Table (List Ruleset)) :
    (st.loadDocument document).rulesets source =
      (ofSource document source).foldl placeRuleset (st.rulesets source) := by
  induction document generalizing st with
  | nil => rfl
  | cons entry rest ih =>
    obtain ⟨s, rs⟩ := entry
    have hstep : st.loadDocument ((s, rs) :: rest) = (st.loadAll s rs).loadDocument rest := rfl
    have hof : ofSource ((s, rs) :: rest) source =
        (if s = source then rs else []) ++ ofSource rest source := rfl
    rw [hstep, ih, rulesets_loadAll, hof, List.foldl_append]

theorem step_loadText (s text : String) :
    st.step (.loadText s text) = (admitted? s text).elim st (st.load s) := by
  rw [step, apply, loadText, admitted?]
  cases Ruleset.ofText text with
  | error f => rfl
  | ok r => cases h : emptyIdentifier? s r <;> simp [h, Except.map]

theorem step_loadSources (text : String) :
    st.step (.loadSources text) = st.loadDocument (admittedSources text) := by
  rw [step, apply, loadSources, admittedSources]
  cases Json.decode (.table (.list Ruleset.decoder)) text with
  | error f => rfl
  | ok document =>
    cases h : firstEmptyIdentifier? document with
    | some e => simp [h, Except.map, loadDocument]
    | none => simp [h, Except.map]

theorem rulesets_step_remove (s id : String) :
    (st.step (.remove s id)).rulesets source =
      if s = source then (st.rulesets source).filter fun r => r.id != id
      else st.rulesets source := by
  rw [step, apply, remove]
  split
  · next next hok =>
    split at hok
    · cases hok
    · cases hok
      rw [rulesets_replace]
      split
      · next hs => rw [hs]
      · rfl
  · next hfail =>
    split at hfail
    · next hlen =>
      split
      · next hs =>
        subst hs
        exact (List.filter_eq_self.mpr (List.length_filter_eq_length_iff.mp hlen)).symm
      · rfl
    · cases hfail

end Store
end Criteria
