import Criteria.Error
import Criteria.Proofs.Catalogue.Registration
/-!
# Catalogues from documents

A document of declarations becomes a catalogue as a whole or not at all. It does so when every
declaration is valid and no name comes twice, and then the catalogue holds what the document
declares, one condition for each declaration and in their order. Otherwise the first declaration
that is refused decides on the error, and of what is wrong with that declaration the type comes
first, then its operators, then the condition that it declares, and a name that is taken comes last.
-/
namespace Criteria

private theorem foldlM_eq_error {ε α σ : Type} {f : σ → α → Except ε σ} {xs : List α} {start : σ}
    {e : ε} :
    xs.foldlM f start = .error e ↔ ∃ before x after state, xs = before ++ x :: after ∧
      before.foldlM f start = .ok state ∧ f state x = .error e := by
  induction xs generalizing start with
  | nil => simp [pure, Except.pure]
  | cons x xs ih =>
    rw [List.foldlM_cons]
    constructor
    · intro h
      cases hx : f start x with
      | error e' =>
        rw [hx] at h
        cases h
        exact ⟨[], x, xs, start, rfl, rfl, hx⟩
      | ok next =>
        rw [hx] at h
        obtain ⟨before, y, after, state, rfl, hbefore, hy⟩ := ih.mp h
        refine ⟨x :: before, y, after, state, rfl, ?_, hy⟩
        rw [List.foldlM_cons, hx]
        exact hbefore
    · rintro ⟨before, y, after, state, he, hbefore, hy⟩
      cases before with
      | nil =>
        cases he
        cases hbefore
        rw [hy]
        rfl
      | cons x' before =>
        cases he
        rw [List.foldlM_cons] at hbefore
        cases hx : f start x with
        | error e' =>
          rw [hx] at hbefore
          cases hbefore
        | ok next =>
          rw [hx] at hbefore
          exact ih.mpr ⟨before, y, after, state, rfl, hbefore, hy⟩

namespace Declaration

variable {d : Declaration} {c : Condition}

/-! ### Valid declarations -/

/-- What a declaration needs by itself: a known type, a name and a key that are not blank, and where
it lists operators at least one, all of them known and supported by the type. -/
structure Valid (d : Declaration) : Prop where
  typed : ∃ t, ValueType.parse? d.type = some t
  known : ∀ names, d.operators = some names → ∀ s ∈ names, ∃ op, Operator.parse? s = some op
  named : Text.isAllBlank d.name = false
  keyed : Text.isAllBlank (d.argument.getD d.name) = false
  operable : d.operators ≠ some []
  supported : ∀ t names s op, ValueType.parse? d.type = some t → d.operators = some names →
    s ∈ names → Operator.parse? s = some op → t.supports op = true

private theorem Declares.operators_of_listed (h : d.Declares c) {names : List String}
    (hn : d.operators = some names) :
    ∃ ops, c.explicitOperators = some ops ∧ ops.map some = names.map Operator.parse? := by
  have hops := h.operators
  rw [hn, Option.map_some] at hops
  obtain ⟨ops, ho, hmap⟩ := Option.map_eq_some_iff.mp hops
  exact ⟨ops, ho, hmap⟩

private theorem valid_of_declares (h : d.Declares c) (hs : c.Sound) : d.Valid := by
  have hlisted {names : List String} (hn : d.operators = some names) :
      ∃ ops, c.operators = ops ∧ ops.map some = names.map Operator.parse? := by
    obtain ⟨ops, ho, hmap⟩ := h.operators_of_listed hn
    exact ⟨ops, by rw [Condition.operators, ho, Option.getD_some], hmap⟩
  refine ⟨⟨c.type, h.type⟩, ?_, ?_, hs.keyed _ h.origin, ?_, ?_⟩
  · intro names hn s hmem
    obtain ⟨ops, -, hmap⟩ := hlisted hn
    have hparse : Operator.parse? s ∈ ops.map some := hmap ▸ List.mem_map_of_mem hmem
    obtain ⟨op, -, hop⟩ := List.mem_map.mp hparse
    exact ⟨op, hop.symm⟩
  · rw [← h.name]
    exact hs.named
  · intro hn
    obtain ⟨ops, ho, hmap⟩ := hlisted hn
    exact hs.operable (ho.trans (List.map_eq_nil_iff.mp hmap))
  · intro t names s op ht hn hmem hop
    obtain ⟨ops, ho, hmap⟩ := hlisted hn
    obtain rfl : c.type = t := Option.some.inj (h.type.symm.trans ht)
    have hparse : some op ∈ ops.map some := hmap ▸ hop ▸ List.mem_map_of_mem hmem
    obtain ⟨op', hmem', he⟩ := List.mem_map.mp hparse
    cases he
    exact hs.supported op (ho ▸ hmem')

private theorem Valid.map_some_operators (h : d.Valid) :
    (d.operators.map (·.filterMap Operator.parse?)).map (·.map some) =
      d.operators.map (·.map Operator.parse?) := by
  cases hn : d.operators with
  | none => rfl
  | some names =>
    have hall : ∀ o ∈ names.map Operator.parse?, o.isSome = true := by
      intro o ho
      obtain ⟨s, hs, rfl⟩ := List.mem_map.mp ho
      obtain ⟨op, hop⟩ := h.known names hn s hs
      rw [hop, Option.isSome_some]
    rw [Option.map_some, Option.map_some, Option.map_some,
      List.map_filterMap_some_eq_filter_map_isSome, List.filter_eq_self.mpr hall]

private theorem Valid.exists_declares (h : d.Valid) : ∃ c, d.Declares c ∧ c.Sound := by
  obtain ⟨t, ht⟩ := h.typed
  let c : Condition :=
    ⟨d.name, d.label.getD d.name, d.group.getD "", t, d.operators.map (·.filterMap Operator.parse?),
      some (.argument (d.argument.getD d.name)), Names.ofList d.required⟩
  have hdeclares : d.Declares c := ⟨rfl, rfl, rfl, ht, h.map_some_operators, rfl, rfl⟩
  have hoperators : c.operatorDefect? = none := by
    cases hn : d.operators with
    | none => simp [c, Condition.operatorDefect?, hn]
    | some names =>
      obtain ⟨ops, ho, hmap⟩ := hdeclares.operators_of_listed hn
      have hne : ops ≠ [] := by
        rintro rfl
        have hnil : names = [] := List.map_eq_nil_iff.mp hmap.symm
        exact h.operable (hnil ▸ hn)
      have hsupported : ∀ op ∈ ops, t.supports op = true := by
        intro op hop
        have hparse : some op ∈ names.map Operator.parse? := hmap ▸ List.mem_map_of_mem hop
        obtain ⟨s, hs, hparse⟩ := List.mem_map.mp hparse
        exact h.supported t names s op ht hn hs hparse
      rw [Condition.operatorDefect?, ho, Option.bind_some, if_neg (by simpa using hne),
        Option.map_eq_none_iff, List.find?_eq_none]
      intro op hop
      simp [c, hsupported op hop]
  obtain ⟨hoperable, hsupported⟩ := Condition.operatorDefect?_eq_none.mp hoperators
  refine ⟨c, hdeclares, h.named, fun _ => by simp [c], ?_, hoperable, hsupported⟩
  intro key hkey
  cases hkey
  exact h.keyed

/-! ### Refused declarations -/

/-- Why a declaration is refused where some names are taken: its type is unknown, or else an
operator of it is, of which the first counts, or else the condition that it declares has a defect,
or else its name is taken. -/
inductive Refuses (taken : List String) (d : Declaration) : RegistrationError → Prop
  | unknownType : ValueType.parse? d.type = none → Refuses taken d (.unknownType d.name d.type)
  | unknownOperator {t : ValueType} {before after : List String} {s : String} :
    ValueType.parse? d.type = some t → d.operators = some (before ++ s :: after) →
    (∀ o ∈ before, ∃ op, Operator.parse? o = some op) → Operator.parse? s = none →
    Refuses taken d (.malformed d.name (.unknownOperator s))
  | malformed {c : Condition} {defect : Defect} : d.Declares c → c.defect? = some defect →
    Refuses taken d (.malformed d.name defect)
  | duplicate : d.Valid → d.name ∈ taken → Refuses taken d (.duplicate d.name)

theorem readOperators_eq_error {names : List String} {defect : Defect} :
    readOperators names = .error defect ↔ ∃ before s after, names = before ++ s :: after ∧
      (∀ o ∈ before, ∃ op, Operator.parse? o = some op) ∧ Operator.parse? s = none ∧
      defect = .unknownOperator s := by
  induction names with
  | nil => simp [readOperators, pure, Except.pure]
  | cons name names ih =>
    rw [readOperators_cons]
    constructor
    · intro h
      split at h
      · next op hop =>
        cases hr : readOperators names with
        | ok ops =>
          rw [hr] at h
          cases h
        | error e =>
          rw [hr] at h
          cases h
          obtain ⟨before, s, after, rfl, hbefore, hs, he⟩ := ih.mp hr
          exact ⟨name :: before, s, after, rfl, List.forall_mem_cons.mpr ⟨⟨op, hop⟩, hbefore⟩, hs, he⟩
      · next hnone =>
        cases h
        exact ⟨[], name, names, rfl, List.forall_mem_nil _, hnone, rfl⟩
    · rintro ⟨before, s, after, he, hbefore, hs, rfl⟩
      cases before with
      | nil =>
        cases he
        rw [hs]
      | cons o before =>
        cases he
        obtain ⟨⟨op, hop⟩, hrest⟩ := List.forall_mem_cons.mp hbefore
        rw [hop, ih.mpr ⟨before, s, after, rfl, hrest, hs, rfl⟩]
        rfl

private theorem mapM_readOperators_eq_error {names? : Option (List String)} {defect : Defect} :
    (names?.mapM readOperators : Except Defect (Option (List Operator))) = .error defect ↔
      ∃ names, names? = some names ∧ readOperators names = .error defect := by
  cases names? with
  | none => simp [pure, Except.pure]
  | some names =>
    change (readOperators names).map some = .error defect ↔ _
    simp only [Option.some.injEq, exists_eq_left']
    cases readOperators names <;> simp [Except.map]

theorem condition_eq_error {e : RegistrationError} :
    d.condition = .error e ↔
      ValueType.parse? d.type = none ∧ e = .unknownType d.name d.type ∨
      ∃ t names defect, ValueType.parse? d.type = some t ∧ d.operators = some names ∧
        readOperators names = .error defect ∧ e = .malformed d.name defect := by
  rw [condition]
  cases ValueType.parse? d.type with
  | none => simp [eq_comm]
  | some t =>
    dsimp only
    cases hops : (d.operators.mapM readOperators : Except Defect (Option (List Operator))) with
    | error defect =>
      obtain ⟨names, hn, hr⟩ := mapM_readOperators_eq_error.mp hops
      simp [hn, hr, eq_comm]
    | ok ops =>
      have hnone : ∀ names defect, d.operators = some names →
          readOperators names ≠ .error defect := by
        intro names defect hn hr
        have herror := mapM_readOperators_eq_error.mpr ⟨names, hn, hr⟩
        rw [hops] at herror
        cases herror
      simp +contextual [hnone]

end Declaration

namespace Catalogue

variable {k : Catalogue} {c : Condition} {d : Declaration} {e : RegistrationError}

theorem register_eq_error :
    k.register c = .error e ↔ (∃ defect, c.defect? = some defect ∧ e = .malformed c.name defect) ∨
      c.Sound ∧ k.index.find? c.name ≠ none ∧ e = .duplicate c.name := by
  rw [register, ← Condition.defect?_eq_none]
  cases c.defect? with
  | some defect => simp [eq_comm]
  | none =>
    cases k.index.find? c.name with
    | some i => simp [eq_comm]
    | none => simp

theorem declare_eq_ok {next : Catalogue} :
    k.declare d = .ok next ↔ ∃ c, d.Declares c ∧ c.Sound ∧ k.index.find? c.name = none ∧
      next = k.append c := by
  have happly : k.apply (.declare d) = k.declare d := rfl
  rw [← happly, apply_eq_ok]
  constructor
  · rintro ⟨c, ⟨⟩, h⟩
    exact ⟨c, ‹_›, h⟩
  · rintro ⟨c, hd, h⟩
    exact ⟨c, .declare hd, h⟩

private theorem WellFormed.find?_eq_none_iff_notMem (hk : k.WellFormed) {name : String} :
    k.index.find? name = none ↔ name ∉ k.conditions.map Condition.name := by
  rw [hk.find?_eq_none]
  simp

theorem declare_eq_error (hk : k.WellFormed) :
    k.declare d = .error e ↔ d.Refuses (k.conditions.map Condition.name) e := by
  have htaken {name : String} :
      k.index.find? name ≠ none ↔ name ∈ k.conditions.map Condition.name := by
    rw [Ne, hk.find?_eq_none_iff_notMem, not_not]
  constructor
  · intro h
    rw [declare] at h
    cases hc : d.condition with
    | error e' =>
      rw [hc] at h
      cases h
      rcases Declaration.condition_eq_error.mp hc with ⟨ht, rfl⟩ | ⟨t, names, defect, ht, hn, hr, rfl⟩
      · exact .unknownType ht
      · obtain ⟨before, s, after, rfl, hbefore, hs, rfl⟩ := Declaration.readOperators_eq_error.mp hr
        exact .unknownOperator ht hn hbefore hs
    | ok c =>
      rw [hc] at h
      have hd := Declaration.condition_eq_ok.mp hc
      rcases register_eq_error.mp h with ⟨defect, hdefect, rfl⟩ | ⟨hs, hfind, rfl⟩
      · rw [hd.name]
        exact .malformed hd hdefect
      · rw [hd.name] at hfind ⊢
        exact .duplicate (Declaration.valid_of_declares hd hs) (htaken.mp hfind)
  · intro h
    rw [declare]
    cases h with
    | unknownType ht => rw [Declaration.condition_eq_error.mpr (.inl ⟨ht, rfl⟩)]; rfl
    | @unknownOperator _ before after s ht hn hbefore hs =>
      have hr := Declaration.readOperators_eq_error.mpr ⟨before, s, after, rfl, hbefore, hs, rfl⟩
      rw [Declaration.condition_eq_error.mpr (.inr ⟨_, _, _, ht, hn, hr, rfl⟩)]
      rfl
    | malformed hd hdefect =>
      rw [Declaration.condition_eq_ok.mpr hd, ← hd.name]
      exact register_eq_error.mpr (.inl ⟨_, hdefect, rfl⟩)
    | duplicate hv hname =>
      obtain ⟨c, hd, hs⟩ := hv.exists_declares
      rw [Declaration.condition_eq_ok.mpr hd, ← hd.name]
      rw [← hd.name] at hname
      exact register_eq_error.mpr (.inr ⟨hs, htaken.mpr hname, rfl⟩)

/-! ### One declaration after the other -/

private theorem exists_declare (hk : k.WellFormed) :
    (∃ next, k.declare d = .ok next) ↔ d.Valid ∧ d.name ∉ k.conditions.map Condition.name := by
  simp only [declare_eq_ok]
  constructor
  · rintro ⟨_, c, hd, hs, hnone, -⟩
    rw [hd.name] at hnone
    exact ⟨Declaration.valid_of_declares hd hs, hk.find?_eq_none_iff_notMem.mp hnone⟩
  · rintro ⟨hv, hname⟩
    obtain ⟨c, hd, hs⟩ := hv.exists_declares
    rw [← hd.name] at hname
    exact ⟨_, c, hd, hs, hk.find?_eq_none_iff_notMem.mpr hname, rfl⟩

private theorem ofDeclarations_concat_eq_ok {ds : List Declaration} {next : Catalogue} :
    ofDeclarations (ds ++ [d]) = .ok next ↔
      ∃ before, ofDeclarations ds = .ok before ∧ before.declare d = .ok next := by
  have hlast (before : Catalogue) : [d].foldlM declare before = before.declare d := by
    rw [List.foldlM_cons]
    cases before.declare d <;> rfl
  rw [ofDeclarations, ofDeclarations, List.foldlM_append]
  simp only [hlast]
  cases ds.foldlM declare empty <;> simp [bind, Except.bind]

theorem ofDeclarations_eq_run {ds : List Declaration} (h : ofDeclarations ds = .ok k) :
    k = run (ds.map .declare) ∧ List.Forall₂ Declaration.Declares ds k.conditions := by
  induction ds using List.reverseRecOn generalizing k with
  | nil =>
    cases h
    exact ⟨rfl, .nil⟩
  | append_singleton ds d ih =>
    obtain ⟨before, hds, hlast⟩ := ofDeclarations_concat_eq_ok.mp h
    obtain ⟨hrun, hall⟩ := ih hds
    have hstep : before.step (.declare d) = k := step_of_ok hlast
    obtain ⟨c, hd, -, -, rfl⟩ := declare_eq_ok.mp hlast
    refine ⟨?_, List.rel_append hall (.cons hd .nil)⟩
    rw [List.map_append, List.map_singleton, run_concat, ← hrun, hstep]

private theorem names_of_declares {ds : List Declaration} {cs : List Condition}
    (h : List.Forall₂ Declaration.Declares ds cs) :
    cs.map Condition.name = ds.map Declaration.name := by
  induction h with
  | nil => rfl
  | cons hd _ ih => rw [List.map_cons, List.map_cons, hd.name, ih]

/-- Declarations make a catalogue exactly when all of them are valid and no name comes twice. -/
theorem exists_ofDeclarations {ds : List Declaration} :
    (∃ k, ofDeclarations ds = .ok k) ↔
      (∀ d ∈ ds, d.Valid) ∧ (ds.map Declaration.name).Nodup := by
  -- From the end, since the last declaration meets the catalogue of all the others.
  induction ds using List.reverseRecOn with
  | nil => exact ⟨fun _ => ⟨List.forall_mem_nil _, List.nodup_nil⟩, fun _ => ⟨empty, rfl⟩⟩
  | append_singleton ds d ih =>
    have hnodup : ((ds ++ [d]).map Declaration.name).Nodup ↔
        d.name ∉ ds.map Declaration.name ∧ (ds.map Declaration.name).Nodup := by
      rw [List.map_append, List.map_singleton, ← List.concat_eq_append, List.nodup_concat]
    simp only [ofDeclarations_concat_eq_ok, List.forall_mem_append, List.forall_mem_singleton, hnodup]
    constructor
    · rintro ⟨k, before, hds, hlast⟩
      obtain ⟨hv, hn⟩ := ih.mp ⟨before, hds⟩
      obtain ⟨hrun, hall⟩ := ofDeclarations_eq_run hds
      obtain ⟨hd, hfree⟩ := (exists_declare (hrun ▸ wellFormed_run _)).mp ⟨k, hlast⟩
      rw [names_of_declares hall] at hfree
      exact ⟨⟨hv, hd⟩, hfree, hn⟩
    · rintro ⟨⟨hv, hd⟩, hfree, hn⟩
      obtain ⟨before, hds⟩ := ih.mpr ⟨hv, hn⟩
      obtain ⟨hrun, hall⟩ := ofDeclarations_eq_run hds
      rw [← names_of_declares hall] at hfree
      obtain ⟨k, hlast⟩ := (exists_declare (hrun ▸ wellFormed_run _)).mpr ⟨hd, hfree⟩
      exact ⟨k, before, hds, hlast⟩

/-- Declarations fail at the first that is refused, with the names of those before it taken. -/
theorem ofDeclarations_eq_error {ds : List Declaration} :
    ofDeclarations ds = .error e ↔ ∃ before d after, ds = before ++ d :: after ∧
      (∀ b ∈ before, b.Valid) ∧ (before.map Declaration.name).Nodup ∧
      d.Refuses (before.map Declaration.name) e := by
  have hrefuses {before : List Declaration} {state : Catalogue} {d : Declaration}
      (h : ofDeclarations before = .ok state) :
      state.declare d = .error e ↔ d.Refuses (before.map Declaration.name) e := by
    obtain ⟨hrun, hall⟩ := ofDeclarations_eq_run h
    rw [declare_eq_error (hrun ▸ wellFormed_run _), names_of_declares hall]
  rw [ofDeclarations, foldlM_eq_error]
  constructor
  · rintro ⟨before, d, after, state, rfl, hbefore, hd⟩
    obtain ⟨hv, hn⟩ := exists_ofDeclarations.mp ⟨state, hbefore⟩
    exact ⟨before, d, after, rfl, hv, hn, (hrefuses hbefore).mp hd⟩
  · rintro ⟨before, d, after, rfl, hv, hn, hd⟩
    obtain ⟨state, hbefore⟩ := exists_ofDeclarations.mpr ⟨hv, hn⟩
    exact ⟨before, d, after, state, rfl, hbefore, (hrefuses hbefore).mpr hd⟩

private theorem exists_declares_of_mem {ds : List Declaration} {cs : List Condition}
    (h : List.Forall₂ Declaration.Declares ds cs) (hd : d ∈ ds) : ∃ c ∈ cs, d.Declares c := by
  induction h with
  | nil => cases hd
  | cons hfirst _ ih =>
    rcases List.mem_cons.mp hd with rfl | hd
    · exact ⟨_, List.mem_cons_self, hfirst⟩
    · obtain ⟨c, hc, hdeclares⟩ := ih hd
      exact ⟨c, List.mem_cons_of_mem _ hc, hdeclares⟩

private theorem get?_of_ofDeclarations {ds : List Declaration} (h : ofDeclarations ds = .ok k)
    (hd : d ∈ ds) : ∃ c, k.get? d.name = some c ∧ d.Declares c := by
  obtain ⟨hrun, hall⟩ := ofDeclarations_eq_run h
  have hk : k.WellFormed := hrun ▸ wellFormed_run _
  obtain ⟨c, hc, hdeclares⟩ := exists_declares_of_mem hall hd
  exact ⟨c, hk.get?_eq_some.mpr ⟨hc, hdeclares.name⟩, hdeclares⟩

/-- A text of declarations becomes a catalogue as a whole and in their order, or the first that is
refused decides on the error. -/
theorem ofText_all_or_nothing {text : String} {ds : List Declaration}
    (h : Json.decode (.list Declaration.decoder) text = .ok ds) :
    ((∃ k, ofText text = .ok k) ↔
      (∀ d ∈ ds, d.Valid) ∧ (ds.map Declaration.name).Nodup) ∧
    (∀ k, ofText text = .ok k →
      List.Forall₂ Declaration.Declares ds k.conditions ∧
      (∀ d ∈ ds, ∃ c, k.get? d.name = some c ∧ d.Declares c ∧
        c.key? = some (d.argument.getD d.name)) ∧
      k = run (ds.map .declare)) ∧
    ∀ error, ofText text = .error error ↔ ∃ before d after e, ds = before ++ d :: after ∧
      error = .registration e ∧
      (∀ b ∈ before, b.Valid) ∧ (before.map Declaration.name).Nodup ∧
      (run (before.map .declare)).apply (.declare d) = .error e ∧
      d.Refuses (before.map Declaration.name) e := by
  have hread : ofText text = (ofDeclarations ds).mapError .registration := by rw [ofText, h]
  have hok {k : Catalogue} : ofText text = .ok k ↔ ofDeclarations ds = .ok k := by
    rw [hread]
    cases ofDeclarations ds <;> simp [Except.mapError]
  refine ⟨?_, ?_, ?_⟩
  · simp only [hok, exists_ofDeclarations]
  · intro k hk
    rw [hok] at hk
    obtain ⟨hrun, hall⟩ := ofDeclarations_eq_run hk
    refine ⟨hall, fun d hd => ?_, hrun⟩
    obtain ⟨c, hc, hdeclares⟩ := get?_of_ofDeclarations hk hd
    exact ⟨c, hc, hdeclares, by rw [Condition.key?, hdeclares.origin]⟩
  · intro error
    have herror : ofText text = .error error ↔
        ∃ e, ofDeclarations ds = .error e ∧ error = .registration e := by
      rw [hread]
      cases ofDeclarations ds <;> simp [Except.mapError, eq_comm]
    rw [herror]
    constructor
    · rintro ⟨e, he, rfl⟩
      obtain ⟨before, d, after, rfl, hv, hn, hd⟩ := ofDeclarations_eq_error.mp he
      obtain ⟨state, hbefore⟩ := exists_ofDeclarations.mpr ⟨hv, hn⟩
      obtain ⟨rfl, hall⟩ := ofDeclarations_eq_run hbefore
      refine ⟨before, d, after, e, rfl, rfl, hv, hn, ?_, hd⟩
      rw [← names_of_declares hall] at hd
      exact (declare_eq_error (wellFormed_run _)).mpr hd
    · rintro ⟨before, d, after, e, rfl, rfl, hv, hn, -, hd⟩
      exact ⟨e, ofDeclarations_eq_error.mpr ⟨before, d, after, rfl, hv, hn, hd⟩, rfl⟩

/-- Two declarations become a catalogue. Behind the first of them an unknown operator decides,
although the key is blank and a later type is unknown. -/
theorem ofText_all_or_nothing_of_unknown_operator :
    let total : Declaration := ⟨"total", none, none, "number", none, none, []⟩
    let city : Declaration := ⟨"city", none, none, "Text", none, some "user.city", []⟩
    let broken : Declaration := ⟨"city", none, none, "text", some ["==", "near"], some " ", []⟩
    let price : Declaration := ⟨"price", none, none, "currency", none, none, []⟩
    let good := "[[\"total\",null,null,\"number\"]," ++
      "[\"city\",null,null,\"Text\",null,\"user.city\"]]"
    let bad := "[[\"total\",null,null,\"number\"]," ++
      "[\"city\",null,null,\"text\",[\"==\",\"near\"],\" \"],[\"price\",null,null,\"currency\"]]"
    Json.decode (.list Declaration.decoder) good = .ok [total, city] ∧
      Json.decode (.list Declaration.decoder) bad = .ok [total, broken, price] ∧
      (∃ k c, ofText good = .ok k ∧ k.get? "city" = some c ∧ c.key? = some "user.city") ∧
      ofText bad = .error (.registration (.malformed "city" (.unknownOperator "near"))) := by
  intro total city broken price good bad
  have hgood : Json.decode (.list Declaration.decoder) good = .ok [total, city] := by
    simp only [good]
    rfl
  have hbad : Json.decode (.list Declaration.decoder) bad = .ok [total, broken, price] := by
    simp only [bad]
    rfl
  have hboth : (∀ d ∈ [total, city], d.Valid) ∧ ([total, city].map Declaration.name).Nodup := by
    have hsome : (ofDeclarations [total, city]).toOption.isSome = true := by decide +kernel
    cases hk : ofDeclarations [total, city] with
    | ok k => exact exists_ofDeclarations.mp ⟨k, hk⟩
    | error e =>
      rw [hk] at hsome
      cases hsome
  refine ⟨hgood, hbad, ?_, ?_⟩
  · obtain ⟨hsucceeds, hholds, -⟩ := ofText_all_or_nothing hgood
    obtain ⟨k, hk⟩ := hsucceeds.mpr hboth
    obtain ⟨c, hc, -, hkey⟩ := (hholds k hk).2.1 city (by simp)
    exact ⟨k, c, hk, hc, hkey⟩
  · obtain ⟨-, -, hfails⟩ := ofText_all_or_nothing hbad
    have hknown : ∀ o ∈ ["=="], ∃ op, Operator.parse? o = some op := by
      simpa using ⟨.equal, by decide +kernel⟩
    have htext : ValueType.parse? broken.type = some .text := by decide +kernel
    have hrefuses : broken.Refuses ["total"] (.malformed "city" (.unknownOperator "near")) :=
      @Declaration.Refuses.unknownOperator _ broken _ _ [] _ htext rfl hknown (by decide +kernel)
    have htotal : (run [.declare total]).conditions.map Condition.name = ["total"] := by
      decide +kernel
    refine (hfails _).mpr ⟨[total], broken, [price], _, rfl, rfl, ?_, by decide, ?_, hrefuses⟩
    · exact fun b hb => hboth.1 b (List.mem_cons.mpr (.inl (List.mem_singleton.mp hb)))
    · exact (declare_eq_error (wellFormed_run _)).mpr (htotal ▸ hrefuses)

end Catalogue
end Criteria
