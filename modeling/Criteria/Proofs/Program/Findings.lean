import Criteria.Program
import Criteria.Proofs.Store.Atomicity
import Criteria.Proofs.Store.History
/-!
# What lint writes

The engine reports findings as a list, and the program writes a table of them by the identifiers of the
rulesets. No two rulesets of a source that was loaded from a document have one identifier, also when the
document repeats some, so that the table has all that the report has. The program fails exactly when
there is something in it.
-/
namespace Criteria

/-- However often a document repeats an identifier, a source that is loaded from it has it once. -/
private theorem Store.distinctIds_of_loadSources {text : String} {st : Store} {n : Nat}
    (h : empty.loadSources text = .ok (st, n)) (source : String) :
    DistinctIds (st.rulesets source) := by
  have hrun : run [.loadSources text] = st := by
    rw [run, List.foldl_cons, List.foldl_nil, step, apply, h]
    rfl
  have hdistinct : ∀ op ∈ [Operation.loadSources text], op.Distinct := by simp [Operation.Distinct]
  rw [← hrun]
  exact (reflects_run hdistinct source).distinct

namespace Catalogue

/-- The rulesets that have findings, by identifier. -/
def flagged (k : Catalogue) (rs : List Ruleset) : List (String × List Finding) :=
  (rs.filter fun r => !(k.lint r).isEmpty).map fun r => (r.id, k.lint r)

theorem mem_flagged {k : Catalogue} {rs : List Ruleset} {id : String} {findings : List Finding} :
    (id, findings) ∈ k.flagged rs ↔
      ∃ r ∈ rs, r.id = id ∧ k.lint r = findings ∧ findings ≠ [] := by
  simp only [flagged, List.mem_map, List.mem_filter, Prod.mk.injEq, Bool.not_eq_true',
    List.isEmpty_eq_false_iff]
  constructor
  · rintro ⟨r, ⟨hr, hne⟩, hid, rfl⟩
    exact ⟨r, hr, hid, rfl, hne⟩
  · rintro ⟨r, hr, hid, rfl, hne⟩
    exact ⟨r, ⟨hr, hne⟩, hid, rfl⟩

private theorem nodup_flagged (k : Catalogue) {rs : List Ruleset} (h : DistinctIds rs) :
    (Table.names (k.flagged rs)).Nodup := by
  rw [Table.names, flagged, List.map_map]
  exact h.sublist (List.filter_sublist.map Ruleset.id)

end Catalogue

theorem Engine.lint_of_store {catalogues : Table Catalogue} {source : String} {k : Catalogue}
    (hk : catalogues.find? source = some k) (st : Store) (traced : Bool) :
    (mk st.source catalogues traced).lint source = .ok (k.flagged (st.rulesets source)) := by
  have hall : st.fetch source ⟨[], false⟩ = st.rulesets source :=
    List.filter_eq_self.mpr fun r _ => rfl
  have hprepare : (mk st.source catalogues traced).prepare source ⟨[], false⟩ =
      .ok (k, st.rulesets source) := by
    rw [prepare, catalogue?, hk, ← hall]
    rfl
  have hreport : ((st.rulesets source).map fun r => (r.id, k.lint r)).filter
      (fun p => !p.2.isEmpty) = k.flagged (st.rulesets source) := List.filter_map
  rw [lint, hprepare, ← hreport]
  rfl

namespace Action

variable (files : String → Option String) (input : String)

private theorem report_readFiles (paths : List String) (next : List (Option String) → Action) :
    (readFiles paths next).report files input = (next (paths.map files)).report files input := by
  induction paths generalizing next with
  | nil => rfl
  | cons path rest ih => exact ih fun texts => next (files path :: texts)

end Action

namespace Program

/-- The settings that configuration files hold, or those that hold by default. -/
def settingsIn (files : String → Option String) (environment : Table String) : Settings :=
  let service := "rule-engine"
  let paths := (Settings.fileNames service environment).map
    (pathIn (configurationDirectory environment))
  (Settings.ofTexts? service environment (paths.map files)).getD {}

/-- The files that an invocation asks for hold a catalogue and the rulesets of a store. -/
structure Loads (files : String → Option String) (settings : Settings) (i : Invocation)
    (k : Catalogue) (st : Store) : Prop where
  catalogue : ∃ path text, i.catalogue.or settings.engine.cataloguePath = some path ∧
    files path = some text ∧ Catalogue.ofText text = .ok k
  rulesets : ∃ path text n, i.rulesets.or settings.engine.rulesetsPath = some path ∧
    files path = some text ∧ Store.empty.loadSources text = .ok (st, n)

variable {files : String → Option String} (input : String) {environment : Table String}
  {settings : Settings} {i : Invocation} {k : Catalogue} {st : Store}

private theorem report_withData (h : Loads files settings i k st)
    (next : Catalogue → Store → Action) :
    (withData settings i next).report files input = (next k st).report files input := by
  obtain ⟨cataloguePath, text, hpath, hfile, hk⟩ := h.catalogue
  obtain ⟨rulesetsPath, document, n, hpath', hfile', hst⟩ := h.rulesets
  simp only [withData, hpath, hpath', Action.report, hfile, hfile', Option.map_some, hk, hst]

private theorem report_run {words : List String} (hwords : CommandLine.parse words = .ok i)
    (h : Loads files (settingsIn files environment) i k st) :
    (run words environment).report files input =
      (runCommand (settingsIn files environment) i k st).report files input := by
  rw [run, hwords]
  exact (Action.report_readFiles files input _ _).trans (report_withData input h _)

private theorem lintTable_perm {report : List (String × List Finding)}
    (h : (Table.names report).Nodup) :
    (lintTable report).Perm report := by
  have happend : report ++ [] = report := List.append_nil report
  have hperm : (lintTable report).Perm (report ++ []) := Table.overlay_perm (by rwa [happend])
  rwa [happend] at hperm

private theorem ordered_lintTable (report : List (String × List Finding)) :
    (lintTable report).Ordered :=
  Table.Ordered.overlay List.Pairwise.nil report

theorem report_lint (files : String → Option String) {e : Engine} {source : String}
    {report : List (String × List Finding)} (h : e.lint source = .ok report) :
    ((lint e source).report files input).output =
        (findingsDocument (lintTable report)).indentedText ++ "\n" ∧
      (((lint e source).report files input).exitCode ≠ 0 ↔ lintTable report ≠ []) := by
  rw [lint, h]
  dsimp only
  cases lintTable report with
  | nil => exact ⟨rfl, by simp [Action.report]⟩
  | cons entry rest => exact ⟨rfl, by simp [Action.report]⟩

/-- The lint command writes one entry for each ruleset of the source that has findings, and fails
exactly when there is one. -/
theorem lint_writes_all_findings {words : List String} (hwords : CommandLine.parse words = .ok i)
    (hlint : i.command = .lint) (h : Loads files (settingsIn files environment) i k st) :
    ∃ report, (engineFor i.source k st false).lint i.source = .ok report ∧
      (lintTable report).Ordered ∧
      (lintTable report).Perm (k.flagged (st.rulesets i.source)) ∧
      (∀ id findings, (id, findings) ∈ lintTable report ↔
        ∃ r ∈ st.rulesets i.source, r.id = id ∧ k.lint r = findings ∧ findings ≠ []) ∧
      ((run words environment).report files input).output =
        (findingsDocument (lintTable report)).indentedText ++ "\n" ∧
      (((run words environment).report files input).exitCode ≠ 0 ↔
        ∃ r ∈ st.rulesets i.source, k.lint r ≠ []) := by
  obtain ⟨_, _, _, _, _, hst⟩ := h.rulesets
  have hids : DistinctIds (st.rulesets i.source) := Store.distinctIds_of_loadSources hst i.source
  have hreport : (engineFor i.source k st false).lint i.source =
      .ok (k.flagged (st.rulesets i.source)) :=
    Engine.lint_of_store (Table.find?_insert_self _ _ _) st false
  have hperm : (lintTable (k.flagged (st.rulesets i.source))).Perm
      (k.flagged (st.rulesets i.source)) := lintTable_perm (k.nodup_flagged hids)
  have hmem : ∀ id findings, (id, findings) ∈ lintTable (k.flagged (st.rulesets i.source)) ↔
      ∃ r ∈ st.rulesets i.source, r.id = id ∧ k.lint r = findings ∧ findings ≠ [] :=
    fun id findings => hperm.mem_iff.trans Catalogue.mem_flagged
  have hrun : (run words environment).report files input =
      (lint (engineFor i.source k st false) i.source).report files input := by
    rw [report_run input hwords h, runCommand, hlint]
  obtain ⟨houtput, hcode⟩ := report_lint input files hreport
  refine ⟨_, hreport, ordered_lintTable _, hperm, hmem, by rw [hrun, houtput], ?_⟩
  rw [hrun, hcode]
  constructor
  · intro hne
    obtain ⟨⟨id, findings⟩, he⟩ := List.exists_mem_of_ne_nil _ hne
    obtain ⟨r, hr, -, rfl, hfindings⟩ := (hmem id findings).mp he
    exact ⟨r, hr, hfindings⟩
  · rintro ⟨r, hr, hfindings⟩
    exact List.ne_nil_of_mem ((hmem r.id (k.lint r)).mpr ⟨r, hr, rfl, rfl, hfindings⟩)

/-- A disabled ruleset is in the table, and so is one whose identifier stands twice in the document,
with the findings of the later form. -/
theorem lint_writes_all_findings_of_repeated_identifier :
    let words := ["lint", "--catalogue", "c.json", "--rulesets", "r.json", "-s", "shop"]
    let declared := "[\x7b\"name\":\"total\",\"type\":\"number\"\x7d]"
    let document := "\x7b\"shop\":[\x7b\"id\":\"a\",\"groups\":[]\x7d," ++
      "\x7b\"id\":\"b\",\"enabled\":false,\"groups\":[[\x7b\"condition\":\"city\"," ++
      "\"operator\":\"==\"\x7d]]\x7d,\x7b\"id\":\"a\",\"groups\":[[],[]]\x7d]\x7d"
    let files := fun path => if path = "c.json" then some declared
      else if path = "r.json" then some document else none
    let i : Invocation := ⟨some "c.json", some "r.json", "shop", .lint⟩
    let rows : List (String × List Finding) :=
      [("a", [⟨0, none, .emptyGroup⟩, ⟨1, none, .emptyGroup⟩]),
        ("b", [⟨0, some 0, .unknownCondition "city"⟩])]
    ∃ k st report, CommandLine.parse words = .ok i ∧ Loads files (settingsIn files []) i k st ∧
      (engineFor "shop" k st false).lint "shop" = .ok report ∧ (lintTable report).Perm rows ∧
      ((run words []).report files "").exitCode ≠ 0 := by
  intro words declared document files i rows
  have hwords : CommandLine.parse words = .ok i := by decide +kernel
  have hflagged : ((Catalogue.ofText declared).toOption.bind fun k =>
      (Store.empty.loadSources document).toOption.map fun answer =>
        k.flagged (answer.1.rulesets "shop")) = some rows := by decide +kernel
  cases hk : Catalogue.ofText declared with
  | error e => rw [hk] at hflagged; cases hflagged
  | ok k =>
    cases hst : Store.empty.loadSources document with
    | error e => rw [hk, hst] at hflagged; cases hflagged
    | ok answer =>
      obtain ⟨st, n⟩ := answer
      rw [hk, hst] at hflagged
      have hloads : Loads files (settingsIn files []) i k st :=
        ⟨⟨"c.json", declared, rfl, rfl, hk⟩, ⟨"r.json", document, n, rfl, rfl, hst⟩⟩
      obtain ⟨report, hreport, -, hperm, hmem, -, hcode⟩ :=
        lint_writes_all_findings "" hwords rfl hloads
      have hrows : k.flagged (st.rulesets i.source) = rows := Option.some.inj hflagged
      rw [hrows] at hperm
      obtain ⟨r, hr, -, hfindings, hne⟩ := (hmem _ _).mp (hperm.mem_iff.mpr List.mem_cons_self)
      rw [← hfindings] at hne
      exact ⟨k, st, report, hwords, hloads, hreport, hperm, hcode.mpr ⟨r, hr, hne⟩⟩

end Program
end Criteria
