import Criteria.Catalogue
import Mathlib.Data.List.Induction
import Mathlib.Data.List.Nodup
/-!
# Registration

A catalogue keeps its conditions twice, as a list and as an index of their names, and only
registrations change it. Whatever calls it went through, the list and the index agree, every condition
in it is sound, and a name stands for the first sound condition that was offered under it. A call
succeeds exactly when it offers a sound condition under a new name; one that fails leaves everything
as it was.
-/
namespace Criteria

/-! ### What a call offers -/

namespace Condition

/-- What a condition needs to be registered. -/
structure Sound (c : Condition) : Prop where
  named : Text.isAllBlank c.name = false
  sourced : c.type ≠ .boolean → c.origin ≠ none
  keyed : ∀ key, c.origin = some (.argument key) → Text.isAllBlank key = false
  operable : c.operators ≠ []
  supported : ∀ op ∈ c.operators, c.type.supports op = true

theorem originDefect?_eq_none {c : Condition} :
    c.originDefect? = none ↔ (c.type ≠ .boolean → c.origin ≠ none) ∧
      ∀ key, c.origin = some (.argument key) → Text.isAllBlank key = false := by
  rw [originDefect?]
  cases c.origin with
  | none => simp
  | some origin =>
    cases origin with
    | argument key => simp
    | resolver run pass => simp

theorem operatorDefect?_eq_none {c : Condition} :
    c.operatorDefect? = none ↔
      c.operators ≠ [] ∧ ∀ op ∈ c.operators, c.type.supports op = true := by
  rw [operatorDefect?, operators]
  cases c.explicitOperators with
  | none =>
    have hsome : c.type.operators ≠ [] := by cases c.type <;> simp [ValueType.operators]
    simp [hsome, ValueType.supports]
  | some ops =>
    cases ops with
    | nil => simp
    | cons op ops => simp [List.find?_eq_none]

theorem defect?_eq_none {c : Condition} : c.defect? = none ↔ c.Sound := by
  rw [defect?]
  constructor
  · intro h
    split at h
    · cases h
    · next hn =>
      obtain ⟨ho, hops⟩ := Option.or_eq_none_iff.mp h
      obtain ⟨hs, hk⟩ := originDefect?_eq_none.mp ho
      obtain ⟨hne, hsup⟩ := operatorDefect?_eq_none.mp hops
      exact ⟨by simpa using hn, hs, hk, hne, hsup⟩
  · intro h
    rw [h.named, if_neg Bool.false_ne_true, Option.or_eq_none_iff]
    exact ⟨originDefect?_eq_none.mpr ⟨h.sourced, h.keyed⟩,
      operatorDefect?_eq_none.mpr ⟨h.operable, h.supported⟩⟩

end Condition

namespace Declaration

/-- A condition has everything as a declaration says it, its operators one by one, or what stands in
for a part that the declaration leaves out. -/
structure Declares (d : Declaration) (c : Condition) : Prop where
  name : c.name = d.name
  label : c.label = d.label.getD d.name
  group : c.group = d.group.getD ""
  type : ValueType.parse? d.type = some c.type
  operators : c.explicitOperators.map (·.map some) = d.operators.map (·.map Operator.parse?)
  origin : c.origin = some (.argument (d.argument.getD d.name))
  required : c.required = Names.ofList d.required

theorem readOperators_cons (name : String) (names : List String) :
    readOperators (name :: names) =
      match Operator.parse? name with
      | some op => (readOperators names).map (op :: ·)
      | none => .error (.unknownOperator name) := by
  rw [readOperators, List.mapM_cons]
  cases Operator.parse? name with
  | none => rfl
  | some op => rfl

theorem readOperators_eq_ok {names : List String} {ops : List Operator} :
    readOperators names = .ok ops ↔ ops.map some = names.map Operator.parse? := by
  induction names generalizing ops with
  | nil =>
    rw [List.map_nil, List.map_eq_nil_iff]
    exact ⟨fun h => (Except.ok.inj h).symm, fun h => congrArg Except.ok h.symm⟩
  | cons name names ih =>
    rw [readOperators_cons, List.map_cons]
    cases Operator.parse? name with
    | none => cases ops <;> simp
    | some op =>
      constructor
      · intro h
        cases hr : readOperators names with
        | error defect =>
          rw [hr] at h
          cases h
        | ok rest =>
          rw [hr] at h
          cases h
          rw [List.map_cons, ih.mp hr]
      · intro h
        obtain ⟨first, rest, rfl, hf, hr⟩ := List.map_eq_cons_iff.mp h
        rw [ih.mpr hr, Option.some.inj hf]
        rfl

private theorem mapM_readOperators_eq_ok {names : Option (List String)}
    {ops : Option (List Operator)} :
    (names.mapM readOperators : Except Defect (Option (List Operator))) = .ok ops ↔
      ops.map (·.map some) = names.map (·.map Operator.parse?) := by
  cases names with
  | none =>
    change Except.ok none = Except.ok ops ↔ _
    cases ops <;> simp
  | some names =>
    change (readOperators names).map some = Except.ok ops ↔ _
    cases ops with
    | none => cases readOperators names <;> simp [Except.map]
    | some ops =>
      rw [Option.map_some, Option.map_some, Option.some_inj, ← readOperators_eq_ok]
      cases readOperators names <;> simp [Except.map]

theorem condition_eq_ok {d : Declaration} {c : Condition} :
    d.condition = .ok c ↔ d.Declares c := by
  rw [condition]
  constructor
  · intro h
    split at h
    · cases h
    · next type ht =>
      split at h
      · cases h
      · next ops hops =>
        cases h
        exact ⟨rfl, rfl, rfl, ht, mapM_readOperators_eq_ok.mp hops, rfl, rfl⟩
  · intro h
    obtain ⟨hn, hl, hg, ht, hops, ho, hr⟩ := h
    rw [ht, mapM_readOperators_eq_ok.mpr hops]
    dsimp only
    rw [← hl, ← hg, ← ho, ← hr, ← hn]

end Declaration

namespace Catalogue

/-- A call that changes a catalogue: a condition is registered in it, or in the catalogue that takes
its place, or a declared one is. -/
inductive Registration
  | register (c : Condition)
  | extend (c : Condition)
  | declare (d : Declaration)

/-- The condition that a call brings. -/
inductive Registration.Offers : Registration → Condition → Prop
  | register (c : Condition) : Offers (.register c) c
  | extend (c : Condition) : Offers (.extend c) c
  | declare {d : Declaration} {c : Condition} : d.Declares c → Offers (.declare d) c

/-- The catalogue after a call that succeeds. -/
def apply (k : Catalogue) : Registration → Except RegistrationError Catalogue
  | .register c => k.register c
  | .extend c => k.register c
  | .declare d => k.declare d

/-- The catalogue after a call; one that fails changes nothing. -/
def step (k : Catalogue) (call : Registration) : Catalogue :=
  match k.apply call with
  | .ok next => next
  | .error _ => k

/-- The catalogue after calls on the empty one, one after the other. -/
def run (calls : List Registration) : Catalogue :=
  calls.foldl step empty

/-- A condition behind the others, and its position in the index. -/
def append (k : Catalogue) (c : Condition) : Catalogue :=
  ⟨k.conditions ++ [c], k.index.insert c.name k.conditions.length⟩

/-! ### One call -/

variable {k : Catalogue}

theorem register_eq_ok {c : Condition} {next : Catalogue} :
    k.register c = .ok next ↔ c.Sound ∧ k.index.find? c.name = none ∧ next = k.append c := by
  rw [register, ← Condition.defect?_eq_none]
  cases c.defect? with
  | some defect => simp
  | none =>
    cases k.index.find? c.name with
    | some i => simp
    | none => simp [append, eq_comm]

theorem apply_eq_ok {call : Registration} {next : Catalogue} :
    k.apply call = .ok next ↔ ∃ c, call.Offers c ∧ c.Sound ∧ k.index.find? c.name = none ∧
      next = k.append c := by
  constructor
  · intro h
    cases call with
    | register c => exact ⟨c, .register c, register_eq_ok.mp h⟩
    | extend c => exact ⟨c, .extend c, register_eq_ok.mp h⟩
    | declare d =>
      rw [apply, declare] at h
      cases hc : d.condition with
      | error e =>
        rw [hc] at h
        cases h
      | ok c =>
        rw [hc] at h
        exact ⟨c, .declare (Declaration.condition_eq_ok.mp hc), register_eq_ok.mp h⟩
  · intro h
    obtain ⟨c, ho, h⟩ := h
    cases ho with
    | register | extend => exact register_eq_ok.mpr h
    | declare hd =>
      rw [apply, declare, Declaration.condition_eq_ok.mpr hd]
      exact register_eq_ok.mpr h

theorem step_of_error {call : Registration} {e : RegistrationError}
    (h : k.apply call = .error e) : k.step call = k := by
  rw [step, h]

theorem step_of_ok {call : Registration} {next : Catalogue} (h : k.apply call = .ok next) :
    k.step call = next := by
  rw [step, h]

/-! ### What every call keeps -/

/-- The two halves of a catalogue agree, and every condition in it is sound. -/
structure WellFormed (k : Catalogue) : Prop where
  distinct : (k.conditions.map Condition.name).Nodup
  indexed : ∀ name i,
    k.index.find? name = some i ↔ ∃ c, k.conditions[i]? = some c ∧ c.name = name
  sound : ∀ c ∈ k.conditions, c.Sound

theorem wellFormed_empty : empty.WellFormed where
  distinct := List.nodup_nil
  indexed name i := by simp [empty]
  sound c hc := by cases hc

theorem WellFormed.find?_eq_none (h : k.WellFormed) {name : String} :
    k.index.find? name = none ↔ ∀ c ∈ k.conditions, c.name ≠ name := by
  constructor
  · intro hnone c hc hname
    obtain ⟨i, hi⟩ := List.mem_iff_getElem?.mp hc
    have hsome := (h.indexed name i).mpr ⟨c, hi, hname⟩
    rw [hnone] at hsome
    cases hsome
  · intro hnew
    rw [Option.eq_none_iff_forall_ne_some]
    intro i hi
    obtain ⟨c, hc, hname⟩ := (h.indexed name i).mp hi
    exact hnew c (List.mem_of_getElem? hc) hname

theorem WellFormed.get?_eq_some (h : k.WellFormed) {name : String} {c : Condition} :
    k.get? name = some c ↔ c ∈ k.conditions ∧ c.name = name := by
  rw [get?, Option.bind_eq_some_iff]
  constructor
  · intro hget
    obtain ⟨i, hi, hc⟩ := hget
    obtain ⟨d, hd, hname⟩ := (h.indexed name i).mp hi
    obtain rfl : c = d := Option.some.inj (hc.symm.trans hd)
    exact ⟨List.mem_of_getElem? hc, hname⟩
  · intro hmem
    obtain ⟨hc, hname⟩ := hmem
    obtain ⟨i, hi⟩ := List.mem_iff_getElem?.mp hc
    exact ⟨i, (h.indexed name i).mpr ⟨c, hi, hname⟩, hi⟩

theorem getElem?_append_eq_some {c d : Condition} {i : Nat} :
    (k.append c).conditions[i]? = some d ↔
      k.conditions[i]? = some d ∨ i = k.conditions.length ∧ d = c := by
  rw [append]
  rcases Nat.lt_trichotomy i k.conditions.length with hi | hi | hi
  · rw [List.getElem?_append_left hi]
    simp [Nat.ne_of_lt hi]
  · subst hi
    simp [eq_comm]
  · have hnone : k.conditions[i]? = none := List.getElem?_eq_none (Nat.le_of_lt hi)
    have hend : (k.conditions ++ [c])[i]? = none := by
      rw [List.getElem?_eq_none]
      simpa using Nat.succ_le_of_lt hi
    simp [hnone, hend, Nat.ne_of_gt hi]

theorem WellFormed.append (h : k.WellFormed) {c : Condition} (hs : c.Sound)
    (hnew : k.index.find? c.name = none) : (k.append c).WellFormed := by
  have hfree : ∀ d ∈ k.conditions, d.name ≠ c.name := h.find?_eq_none.mp hnew
  refine ⟨?_, ?_, ?_⟩
  · rw [Catalogue.append, List.map_append, List.map_singleton, ← List.concat_eq_append,
      List.nodup_concat]
    refine ⟨?_, h.distinct⟩
    intro hmem
    obtain ⟨d, hd, hname⟩ := List.mem_map.mp hmem
    exact hfree d hd hname
  · intro name i
    simp only [getElem?_append_eq_some, or_and_right, exists_or, ← h.indexed]
    have hfind : (k.append c).index.find? name =
        if c.name = name then some k.conditions.length else k.index.find? name :=
      Table.find?_insert _ _ _ _
    rw [hfind]
    split
    · next hname =>
      subst hname
      simp [hnew, eq_comm]
    · next hname => simp [hname]
  · intro d hd
    rcases List.mem_append.mp hd with hd | hd
    · exact h.sound d hd
    · rwa [List.mem_singleton.mp hd]

theorem WellFormed.step (h : k.WellFormed) (call : Registration) : (k.step call).WellFormed := by
  cases hc : k.apply call with
  | error e => rwa [step_of_error hc]
  | ok next =>
    obtain ⟨c, _, hs, hnew, rfl⟩ := apply_eq_ok.mp hc
    rw [step_of_ok hc]
    exact h.append hs hnew

theorem run_concat (calls : List Registration) (call : Registration) :
    run (calls ++ [call]) = (run calls).step call := by
  rw [run, run, List.foldl_append, List.foldl_cons, List.foldl_nil]

theorem wellFormed_run (calls : List Registration) : (run calls).WellFormed := by
  induction calls using List.reverseRecOn with
  | nil => exact wellFormed_empty
  | append_singleton calls call ih =>
    rw [run_concat]
    exact ih.step call

/-! ### Who holds a name -/

/-- No sound condition was offered under a name. -/
def Unclaimed (calls : List Registration) (name : String) : Prop :=
  ∀ call ∈ calls, ∀ c, call.Offers c → c.Sound → c.name ≠ name

/-- The first sound condition that was offered under a name. -/
def FirstOffer (calls : List Registration) (name : String) (c : Condition) : Prop :=
  ∃ before call later, calls = before ++ call :: later ∧ Unclaimed before name ∧
    call.Offers c ∧ c.Sound ∧ c.name = name

section Offers

variable {calls : List Registration} {call : Registration} {name : String} {c d : Condition}

private theorem Registration.Offers.unique (hc : call.Offers c) (hd : call.Offers d) : c = d := by
  cases hc with
  | register | extend => cases hd; rfl
  | declare hc =>
    cases hd with
    | declare hd =>
      have hok := Declaration.condition_eq_ok.mpr hc
      rw [Declaration.condition_eq_ok.mpr hd] at hok
      exact (Except.ok.inj hok).symm

private theorem unclaimed_concat :
    Unclaimed (calls ++ [call]) name ↔
      Unclaimed calls name ∧ ∀ c, call.Offers c → c.Sound → c.name ≠ name := by
  simp [Unclaimed, or_imp, forall_and]

theorem FirstOffer.append (h : FirstOffer calls name c) (more : List Registration) :
    FirstOffer (calls ++ more) name c := by
  obtain ⟨before, call, later, rfl, h⟩ := h
  exact ⟨before, call, later ++ more, by simp, h⟩

private theorem FirstOffer.name_eq (h : FirstOffer calls name c) : c.name = name := by
  obtain ⟨before, call, later, _, _, _, _, hname⟩ := h
  exact hname

private theorem firstOffer_concat :
    FirstOffer (calls ++ [call]) name c ↔ FirstOffer calls name c ∨
      Unclaimed calls name ∧ call.Offers c ∧ c.Sound ∧ c.name = name := by
  constructor
  · intro h
    obtain ⟨before, first, later, he, h⟩ := h
    rcases List.eq_nil_or_concat' later with rfl | ⟨later, last, rfl⟩
    · obtain ⟨rfl, hlast⟩ := List.append_inj' he rfl
      cases hlast
      exact .inr h
    · rw [← List.cons_append, ← List.append_assoc] at he
      obtain ⟨rfl, -⟩ := List.append_inj' he rfl
      exact .inl ⟨before, first, later, rfl, h⟩
  · intro h
    rcases h with h | h
    · exact h.append [call]
    · exact ⟨calls, call, [], rfl, h⟩

private theorem unclaimed_iff : Unclaimed calls name ↔ ∀ c, ¬FirstOffer calls name c := by
  induction calls using List.reverseRecOn with
  | nil =>
    have hnone : ∀ c, ¬FirstOffer [] name c := by
      intro c h
      obtain ⟨before, call, later, he, _⟩ := h
      simp at he
    exact ⟨fun _ => hnone, fun _ call hcall => by cases hcall⟩
  | append_singleton calls call ih =>
    simp only [unclaimed_concat, firstOffer_concat, not_or, forall_and, ← ih]
    refine and_congr_right fun hfree => forall_congr' fun c => ?_
    simp [hfree]

end Offers

private theorem WellFormed.find?_eq_none_iff_unclaimed {calls : List Registration}
    (h : k.WellFormed) (hm : ∀ c, c ∈ k.conditions ↔ FirstOffer calls c.name c) (name : String) :
    k.index.find? name = none ↔ Unclaimed calls name := by
  rw [h.find?_eq_none, unclaimed_iff]
  constructor
  · intro hfree c hc
    have hname := hc.name_eq
    subst hname
    exact hfree c ((hm c).mpr hc) rfl
  · intro hnone c hc hname
    subst hname
    exact hnone c ((hm c).mp hc)

/-- The conditions of a catalogue are those that were the first under their names. -/
theorem mem_run {calls : List Registration} {c : Condition} :
    c ∈ (run calls).conditions ↔ FirstOffer calls c.name c := by
  induction calls using List.reverseRecOn generalizing c with
  | nil => simp [run, empty, FirstOffer]
  | append_singleton calls call ih =>
    have hfree := (wellFormed_run calls).find?_eq_none_iff_unclaimed fun c => ih
    rw [run_concat, firstOffer_concat, ← ih]
    cases ha : (run calls).apply call with
    | error e =>
      rw [step_of_error ha]
      have hnone : ¬(Unclaimed calls c.name ∧ call.Offers c ∧ c.Sound ∧ c.name = c.name) := by
        intro h
        obtain ⟨hf, ho, hs, _⟩ := h
        have hok := apply_eq_ok.mpr ⟨c, ho, hs, (hfree _).mpr hf, rfl⟩
        rw [ha] at hok
        cases hok
      rw [or_iff_left hnone]
    | ok next =>
      obtain ⟨d, hd, hs, hnew, rfl⟩ := apply_eq_ok.mp ha
      rw [step_of_ok ha, append, List.mem_append, List.mem_singleton]
      refine or_congr_right ?_
      constructor
      · intro h
        subst h
        exact ⟨(hfree _).mp hnew, hd, hs, rfl⟩
      · intro h
        exact h.2.1.unique hd

theorem get?_run {calls : List Registration} {name : String} {c : Condition} :
    (run calls).get? name = some c ↔ FirstOffer calls name c := by
  rw [(wellFormed_run calls).get?_eq_some, mem_run]
  constructor
  · intro h
    obtain ⟨hc, rfl⟩ := h
    exact hc
  · intro h
    have hname := h.name_eq
    subst hname
    exact ⟨h, rfl⟩

theorem find?_run_eq_none {calls : List Registration} {name : String} :
    (run calls).index.find? name = none ↔ Unclaimed calls name :=
  (wellFormed_run calls).find?_eq_none_iff_unclaimed (fun _ => mem_run) name

theorem exists_apply_run {calls : List Registration} {call : Registration} :
    (∃ next, (run calls).apply call = .ok next) ↔
      ∃ c, call.Offers c ∧ c.Sound ∧ Unclaimed calls c.name := by
  simp only [apply_eq_ok, find?_run_eq_none]
  constructor
  · intro h
    obtain ⟨_, c, ho, hs, hf, _⟩ := h
    exact ⟨c, ho, hs, hf⟩
  · intro h
    obtain ⟨c, ho, hs, hf⟩ := h
    exact ⟨_, c, ho, hs, hf, rfl⟩

/-- Whatever calls were made, a name stands for the first sound condition that was offered under it,
and a call that fails changes nothing. -/
theorem run_keeps_first_offers (calls : List Registration) :
    (run calls).WellFormed ∧
    (∀ name c, (run calls).get? name = some c ↔ FirstOffer calls name c) ∧
    (∀ name, (run calls).contains name = false ↔ Unclaimed calls name) ∧
    (∀ name ops, (run calls).operators? name = some ops ↔
      ∃ c, FirstOffer calls name c ∧ ops = c.explicitOperators.getD c.type.operators) ∧
    (∀ name c, (run calls).get? name = some c →
      ∀ more, (run (calls ++ more)).get? name = some c) ∧
    (∀ call, (∃ next, (run calls).apply call = .ok next) ↔
      ∃ c, call.Offers c ∧ c.Sound ∧ Unclaimed calls c.name) ∧
    ∀ call e, (run calls).apply call = .error e → run (calls ++ [call]) = run calls := by
  refine ⟨wellFormed_run calls, fun _ _ => get?_run, ?_, ?_, ?_, fun _ => exists_apply_run, ?_⟩
  · intro name
    rw [contains, Option.isSome_eq_false_iff, Option.isNone_iff_eq_none, find?_run_eq_none]
  · intro name ops
    rw [operators?, Option.map_eq_some_iff]
    simp only [get?_run, Condition.operators, @eq_comm _ _ ops]
  · intro name c h more
    exact get?_run.mpr ((get?_run.mp h).append more)
  · intro call e h
    rw [run_concat, step_of_error h]

/-- A second condition of one name comes to nothing. -/
theorem run_keeps_first_offers_of_duplicate :
    let total : Condition :=
      ⟨"total", "Total", "", .number, some [.greater, .less], some (.argument "cart.total"), []⟩
    let city : Declaration := ⟨"city", none, none, "Text", some ["==", " contains "], none, []⟩
    let calls : List Registration := [.register total, .declare city]
    let other : Condition := .ofOrigin "total" .boolean none
    (run calls).operators? "city" = some [.equal, .contains] ∧
      (∃ e, (run calls).apply (.extend other) = .error e) ∧
      run (calls ++ [.extend other]) = run calls ∧
      (run (calls ++ [.extend other])).get? "total" = some total := by
  intro total city calls other
  have hsound : total.Sound := Condition.defect?_eq_none.mp (by decide)
  have htotal : FirstOffer calls "total" total :=
    ⟨[], .register total, [.declare city], rfl, by simp [Unclaimed], .register total, hsound, rfl⟩
  let listed : Condition :=
    ⟨"city", "city", "", .text, some [.equal, .contains], some (.argument "city"), []⟩
  have hcity : FirstOffer calls "city" listed := by
    refine ⟨[.register total], .declare city, [], rfl, ?_, .declare ?_, ?_, rfl⟩
    · intro call hcall c hc _
      rw [List.mem_singleton.mp hcall] at hc
      cases hc
      decide
    · exact ⟨rfl, rfl, rfl, by decide +kernel, by decide +kernel, rfl, rfl⟩
    · exact Condition.defect?_eq_none.mp (by decide)
  obtain ⟨-, hget, -, hops, hkeep, hok, hfail⟩ := run_keeps_first_offers calls
  have hfound := (hget "total" total).mpr htotal
  cases happ : (run calls).apply (.extend other) with
  | ok next =>
    obtain ⟨c, hc, -, hnew⟩ := (hok (.extend other)).mp ⟨next, happ⟩
    cases hc
    exact absurd rfl (hnew (.register total) List.mem_cons_self total (.register total) hsound)
  | error e =>
    exact ⟨(hops "city" _).mpr ⟨listed, hcity, rfl⟩, ⟨e, rfl⟩, hfail (.extend other) e happ,
      hkeep "total" total hfound _⟩

end Catalogue
end Criteria
