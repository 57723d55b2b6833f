import Criteria.Engine
import Criteria.Proofs.Store.Atomicity
/-!
# Sources apart

An engine is used while its store is changed and catalogues are registered. Every such step is for one
source, or for those that a document names; what the engine and the store answer about any other source
stays as it was, however many steps are taken and whether they succeed or fail.
-/
namespace Criteria

namespace Store

/-- An operation does nothing under the name of a source. A text that cannot be read names none. -/
def Operation.Spares (source : String) : Operation → Prop
  | .load s _ | .loadText s _ | .loadAll s _ | .replace s _ | .remove s _ => s ≠ source
  | .loadSources text => ∀ document, readSources text = .ok document → source ∉ document.names
  | .clear => False

private theorem find?_foldl_load (st : Store) {source : String} {ps : List (String × Ruleset)}
    (h : ∀ p ∈ ps, p.1 ≠ source) :
    (ps.foldl (fun st p => st.load p.1 p.2) st).sources.find? source = st.sources.find? source := by
  induction ps generalizing st with
  | nil => rfl
  | cons p rest ih =>
    have hrest := ih (st.load p.1 p.2) fun q hq => h q (List.mem_cons_of_mem p hq)
    have hfirst : (st.load p.1 p.2).sources.find? source = st.sources.find? source :=
      Table.find?_insert_ne _ _ (h p List.mem_cons_self)
    rw [List.foldl_cons, hrest, hfirst]

private theorem ne_of_mem_entries {document : Table (List Ruleset)} {source : String}
    (h : source ∉ document.names) : ∀ p ∈ entries document, p.1 ≠ source := by
  rintro p hp rfl
  obtain ⟨⟨s, rs⟩, he, hp⟩ := List.mem_flatMap.mp hp
  obtain ⟨r, _, rfl⟩ := List.mem_map.mp hp
  exact h (List.mem_map_of_mem he)

private theorem find?_step_of_spares (st : Store) {op : Operation} {source : String}
    (h : op.Spares source) : (st.step op).sources.find? source = st.sources.find? source := by
  cases op with
  | load s r => exact Table.find?_insert_ne _ _ h
  | loadText s text =>
    rw [step_loadText]
    cases admitted? s text with
    | none => rfl
    | some r => exact Table.find?_insert_ne _ _ h
  | loadAll s rs =>
    have hall : st.loadAll s rs =
        (rs.map fun r => (s, r)).foldl (fun st p => st.load p.1 p.2) st := by
      rw [List.foldl_map, loadAll]
    rw [step, apply, hall]
    refine find?_foldl_load st fun p hp => ?_
    obtain ⟨r, _, rfl⟩ := List.mem_map.mp hp
    exact h
  | loadSources text =>
    rw [step, apply]
    cases hload : st.loadSources text with
    | error e => rfl
    | ok answer =>
      obtain ⟨document, hread, -, -, hnext⟩ := loadSources_eq_ok.mp hload
      have hfold := find?_foldl_load st (ne_of_mem_entries (h document hread))
      rwa [← hnext] at hfold
  | replace s rs => exact Table.find?_insert_ne _ _ h
  | remove s id =>
    rw [step, apply]
    cases hremove : st.remove s id with
    | error e => rfl
    | ok next =>
      have hfind := find?_of_remove_eq_ok hremove source
      rwa [if_neg h] at hfind
  | clear => exact h.elim

end Store

/-- An engine over a store in memory that goes on changing. -/
structure Session where
  store : Store
  catalogues : Table Catalogue
  traced : Bool

namespace Session

def engine (s : Session) : Engine :=
  ⟨s.store.source, s.catalogues, s.traced⟩

inductive Step
  | change (op : Store.Operation)
  | register (source : String) (k : Catalogue)
  | first (source : String) (q : Query) (context : Context)
  | all (source : String) (q : Query) (context : Context)
  | lint (source : String)

/-- The session after a step. A question is answered and leaves everything as it is. -/
def after (s : Session) : Step → Session
  | .change op => { s with store := s.store.step op }
  | .register source k => { s with catalogues := (s.engine.register source k).catalogues }
  | .first .. | .all .. | .lint _ => s

def run (s : Session) (steps : List Step) : Session :=
  steps.foldl after s

/-- A step changes nothing under the name of a source. Questions may be about any source. -/
def Step.Spares (source : String) : Step → Prop
  | .change op => op.Spares source
  | .register s _ => s ≠ source
  | .first .. | .all .. | .lint _ => True

/-- Two sessions hold the same of a source. -/
structure AgreeOn (source : String) (s₁ s₂ : Session) : Prop where
  stored : s₁.store.sources.find? source = s₂.store.sources.find? source
  catalogue : s₁.engine.catalogue? source = s₂.engine.catalogue? source
  traced : s₁.traced = s₂.traced

variable {source : String} {s s₁ s₂ : Session}

theorem agreeOn_after {step : Step} (h : step.Spares source) : AgreeOn source (s.after step) s := by
  cases step with
  | change op => exact ⟨s.store.find?_step_of_spares h, rfl, rfl⟩
  | register other k => exact ⟨rfl, Table.find?_insert_ne _ _ h, rfl⟩
  | first | all | lint => exact ⟨rfl, rfl, rfl⟩

theorem agreeOn_run {steps : List Step} (h : ∀ step ∈ steps, step.Spares source) :
    AgreeOn source (s.run steps) s := by
  induction steps generalizing s with
  | nil => exact ⟨rfl, rfl, rfl⟩
  | cons step rest ih =>
    have hfirst : AgreeOn source (s.after step) s := agreeOn_after (h step List.mem_cons_self)
    have hrest : AgreeOn source ((s.after step).run rest) (s.after step) :=
      ih fun other ho => h other (List.mem_cons_of_mem step ho)
    exact ⟨hrest.stored.trans hfirst.stored, hrest.catalogue.trans hfirst.catalogue,
      hrest.traced.trans hfirst.traced⟩

namespace AgreeOn

variable (h : AgreeOn source s₁ s₂)
include h

private theorem rulesets : s₁.store.rulesets source = s₂.store.rulesets source := by
  rw [Store.rulesets, Store.rulesets, h.stored]

private theorem fetch (q : Query) : s₁.store.fetch source q = s₂.store.fetch source q := by
  rw [Store.fetch, Store.fetch, h.rulesets]

private theorem prepare (q : Query) : s₁.engine.prepare source q = s₂.engine.prepare source q := by
  have hsource : s₁.engine.source source q = s₂.engine.source source q :=
    congrArg Except.ok (h.fetch q)
  rw [Engine.prepare, Engine.prepare, h.catalogue, hsource]

private theorem first (q : Query) (context : Context) :
    s₁.engine.first source q context = s₂.engine.first source q context := by
  have htraced : s₁.engine.traced = s₂.engine.traced := h.traced
  rw [Engine.first, Engine.first, h.prepare, htraced]

private theorem all (q : Query) (context : Context) :
    s₁.engine.all source q context = s₂.engine.all source q context := by
  have htraced : s₁.engine.traced = s₂.engine.traced := h.traced
  rw [Engine.all, Engine.all, h.prepare, htraced]

private theorem lint : s₁.engine.lint source = s₂.engine.lint source := by
  rw [Engine.lint, Engine.lint, h.prepare]

end AgreeOn

/-- Steps that change nothing under the name of a source leave all its answers as they were. -/
theorem sources_isolated (s : Session) (source : String) (steps : List Step)
    (h : ∀ step ∈ steps, step.Spares source) :
    (s.run steps).engine.catalogue? source = s.engine.catalogue? source ∧
    (∀ q, (s.run steps).store.fetch source q = s.store.fetch source q) ∧
    (∀ id, (s.run steps).store.get? source id = s.store.get? source id) ∧
    (∀ q context,
      (s.run steps).engine.first source q context = s.engine.first source q context) ∧
    (∀ q context, (s.run steps).engine.all source q context = s.engine.all source q context) ∧
    (s.run steps).engine.lint source = s.engine.lint source := by
  have hagree : AgreeOn source (s.run steps) s := agreeOn_run h
  refine ⟨hagree.catalogue, hagree.fetch, fun id => ?_, hagree.first, hagree.all, hagree.lint⟩
  rw [Store.get?, Store.get?, hagree.rulesets]

/-- A source keeps its match while another one is loaded, fails to load, loses nothing in a removal,
and gets a catalogue. -/
theorem sources_isolated_of_busy_neighbour :
    let vip : Rule := ⟨"", "vip", "yes", .null⟩
    let x : Ruleset := ⟨"x", "", true, [[vip]], []⟩
    let k : Catalogue := ⟨[.ofOrigin "vip" .boolean none], [("vip", 0)]⟩
    let s : Session := ⟨Store.empty.load "shop" x, [("shop", k)], true⟩
    let context : Context := ⟨[("vip", .bool true)]⟩
    let text := "\x7b\"fair\":[\x7b\"id\":\"x\",\"enabled\":false\x7d]\x7d"
    let steps : List Step := [.change (.loadText "fair" "\x7b"), .first "shop" {} context,
      .change (.loadSources text),
      .change (.remove "fair" "y"), .register "fair" .empty, .lint "fair",
      .change (.loadAll "fair" [x, x])]
    let hit (s : Session) : Option (Option String) :=
      (s.engine.first "shop" {} context).toOption.map fun answer =>
        answer.1.hit.map fun hit => hit.1.id
    (∀ step ∈ steps, step.Spares "shop") ∧ hit (s.run steps) = some (some "x") := by
  intro vip x k s context text steps hit
  have hnames : (Store.readSources text).map Table.names = .ok ["fair"] := by decide +kernel
  have hspares : ∀ step ∈ steps, step.Spares "shop" := by
    simp only [steps, List.forall_mem_cons, Step.Spares, Store.Operation.Spares]
    refine ⟨by decide, trivial, ?_, by decide, by decide, trivial, by decide, by simp⟩
    intro document hread
    rw [hread] at hnames
    rw [Except.ok.inj hnames]
    decide
  obtain ⟨-, -, -, hfirst, -, -⟩ := sources_isolated s "shop" steps hspares
  refine ⟨hspares, ?_⟩
  simp only [hit, hfirst]
  decide +kernel

end Session
end Criteria
