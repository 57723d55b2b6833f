import Criteria.Proofs.Evaluation.FirstMatch
import Mathlib.Data.List.Basic
/-!
# Selection and evaluation

Every ruleset is evaluated for itself. Rulesets may therefore be selected before the evaluation or
their matches after it, with the same matches in the same order, and the matches of rulesets that stand
one behind the other are those of the first ones in front of those of the others.
-/
namespace Criteria

namespace Query

/-- A query asks for all that another asks for, and perhaps for more metadata besides. -/
structure Narrows (narrower q : Query) : Prop where
  enabledOnly : narrower.enabledOnly = q.enabledOnly
  metadata : q.metadata ⊆ narrower.metadata

private theorem Narrows.admits {narrower q : Query} (h : narrower.Narrows q) {r : Ruleset}
    (hr : narrower.admits r = true) : q.admits r = true := by
  rw [Query.admits, h.enabledOnly, Bool.and_eq_true, List.all_eq_true] at hr
  rw [Query.admits, Bool.and_eq_true, List.all_eq_true]
  exact ⟨hr.1, fun entry he => hr.2 entry (h.metadata he)⟩

/-- An entry narrows a query, unless it takes the place of one that asks for another value. -/
theorem narrows_withMetadata {q : Query} {key : String} {v : Value}
    (h : ∀ w, q.metadata.find? key = some w → w = v) : (q.withMetadata key v).Narrows q :=
  ⟨rfl, Table.subset_insert h⟩

example :
    ((({} : Query).withMetadata "region" (.text "eu")).withMetadata "region" (.text "us")).metadata =
      [("region", .text "us")] := rfl

private theorem admits_includingDisabled (r : Ruleset) :
    ({} : Query).includingDisabled.admits r = true :=
  rfl

private theorem admits_default (r : Ruleset) : ({} : Query).admits r = r.enabled := by
  simp [admits]

end Query

namespace Evaluator

variable (e : Evaluator)

private theorem all_filter (p : Ruleset → Bool) (rs : List Ruleset) :
    (e.all (rs.filter p)).1 = (e.all rs).1.filter fun m => p m.ruleset := by
  simp only [all_eq, List.filterMap_filter, List.filter_filterMap]
  congr 1
  funext r
  cases h : e.matchOf? r with
  | none => simp
  | some m =>
    obtain ⟨-, hr, -⟩ := e.matchOf?_eq_some.mp h
    simp [Option.filter, hr]

theorem all_append (rs₁ rs₂ : List Ruleset) :
    e.all (rs₁ ++ rs₂) = ((e.all rs₁).1 ++ (e.all rs₂).1, (e.all rs₁).2 ++ (e.all rs₂).2) := by
  simp only [all_eq, List.filterMap_append, List.flatMap_append]

end Evaluator

namespace Engine

section Stores

variable {catalogues : Table Catalogue} {source : String} {k : Catalogue}
  (hk : catalogues.find? source = some k) (st : Store) (traced : Bool) (context : Context)
include hk

private theorem all_of_store (q : Query) :
    (mk st.source catalogues traced).all source q context =
      .ok ((Evaluator.mk k context traced).all (st.fetch source q)) := by
  rw [all, prepare, catalogue?, hk]
  rfl

/-- Over a store, selecting by a query before the evaluation is selecting by it afterwards. -/
theorem selection_commutes :
    ∃ collection : Query → List Match,
      (∀ q, ∃ calls, (mk st.source catalogues traced).all source q context =
        .ok (collection q, calls)) ∧
      (∀ q, collection q = (collection ({} : Query).includingDisabled).filter
        fun m => q.admits m.ruleset) ∧
      (collection {} = (collection ({} : Query).includingDisabled).filter
        fun m => m.ruleset.enabled) ∧
      (∀ narrower q : Query, narrower.Narrows q →
        (collection narrower).Sublist (collection q)) ∧
      (∀ q key v, (∀ w, q.metadata.find? key = some w → w = v) →
        (collection (q.withMetadata key v)).Sublist (collection q)) ∧
      ∀ st₁ st₂ : Store, st.rulesets source = st₁.rulesets source ++ st₂.rulesets source →
        ∀ q, ∃ ms₁ ms₂ calls₁ calls₂,
          (mk st₁.source catalogues traced).all source q context = .ok (ms₁, calls₁) ∧
          (mk st₂.source catalogues traced).all source q context = .ok (ms₂, calls₂) ∧
          (mk st.source catalogues traced).all source q context =
            .ok (ms₁ ++ ms₂, calls₁ ++ calls₂) := by
  let e := Evaluator.mk k context traced
  have hcollection : ∀ q : Query, (e.all (st.fetch source q)).1 =
      (e.all (st.rulesets source)).1.filter fun m => q.admits m.ruleset :=
    fun q => e.all_filter q.admits (st.rulesets source)
  have hwhole : (e.all (st.fetch source ({} : Query).includingDisabled)).1 =
      (e.all (st.rulesets source)).1 := by
    rw [hcollection]
    exact List.filter_eq_self.mpr fun m _ => Query.admits_includingDisabled m.ruleset
  have hnarrows : ∀ narrower q : Query, narrower.Narrows q →
      ((e.all (st.fetch source narrower)).1).Sublist (e.all (st.fetch source q)).1 := by
    intro narrower q h
    rw [hcollection, hcollection]
    exact List.monotone_filter_right _ fun m hm => h.admits hm
  refine ⟨fun q => (e.all (st.fetch source q)).1, fun q => ⟨_, all_of_store hk st traced context q⟩,
    fun q => ?_, ?_, hnarrows, fun q key v h => hnarrows _ q (Query.narrows_withMetadata h),
    fun st₁ st₂ h q => ?_⟩
  · dsimp only
    rw [hwhole, hcollection]
  · dsimp only
    rw [hwhole, hcollection]
    simp only [Query.admits_default]
  · refine ⟨_, _, _, _, all_of_store hk st₁ traced context q,
      all_of_store hk st₂ traced context q, ?_⟩
    rw [all_of_store hk, Store.fetch, h, List.filter_append]
    exact congrArg Except.ok (e.all_append _ _)

end Stores

/-- A disabled ruleset and one of another region match as well, and are left out before the
evaluation as they would be after it. -/
theorem selection_commutes_of_region :
    let k : Catalogue := ⟨[.ofOrigin "vip" .boolean none], [("vip", 0)]⟩
    let groups : List Group := [[⟨"", "vip", "yes", .null⟩]]
    let near : Ruleset := ⟨"near", "", true, groups, [("region", .text "eu")]⟩
    let off : Ruleset := ⟨"off", "", false, groups, [("region", .text "eu")]⟩
    let far : Ruleset := ⟨"far", "", true, groups, [("region", .text "us")]⟩
    let st := Store.empty.replace "shop" [off, far, near]
    let context : Context := ⟨[("vip", .bool true)]⟩
    let ids (q : Query) : Option (List String) :=
      ((mk st.source [("shop", k)] true).all "shop" q context).toOption.map
        fun answer => answer.1.map fun m => m.ruleset.id
    ids ({} : Query).includingDisabled = some ["off", "far", "near"] ∧
      ids {} = some ["far", "near"] ∧
      ∃ shorter longer, ids (({} : Query).withMetadata "region" (.text "eu")) = some shorter ∧
        ids {} = some longer ∧ shorter.Sublist longer := by
  intro k groups near off far st context ids
  have hk : Table.find? [("shop", k)] "shop" = some k := rfl
  obtain ⟨collection, hall, -, -, -, hadd, -⟩ := selection_commutes hk st true context
  have hids : ∀ q, ids q = some ((collection q).map fun m => m.ruleset.id) := by
    intro q
    obtain ⟨calls, hq⟩ := hall q
    simp only [ids, hq]
    rfl
  refine ⟨by decide +kernel, by decide +kernel, _, _, hids _, hids _, ?_⟩
  exact (hadd {} "region" (.text "eu") fun w hw => by cases hw).map _

end Engine
end Criteria
