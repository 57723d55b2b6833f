import Criteria.Proofs.Store.Operation
import Mathlib.Data.List.Induction
/-!
# The history of a source

A store tells nothing of how it came about, but its answers are those of the history of operations:
a look-up gives what was last written and not taken away since, and the rulesets of a source stand in
the order in which their present stays began. A stay begins when an identifier is written that is not
there, and ends when it is taken away; writing it again in between changes the ruleset and not the
stay.
-/
namespace Criteria.Store

inductive Change
  | written (r : Ruleset)
  | removed (id : String)
  | emptied

def Change.Writes (id : String) : Change → Prop
  | .written r => r.id = id
  | _ => False

def Change.Takes (id : String) : Change → Prop
  | .written _ => False
  | .removed gone => gone = id
  | .emptied => True

/-- What an operation does to a source, one ruleset after the other. A replacement empties the source
and then writes the new rulesets in their order. -/
def Operation.changes (source : String) : Operation → List Change
  | .load s r => if s = source then [.written r] else []
  | .loadText s text => if s = source then (admitted? s text).toList.map .written else []
  | .loadAll s rs => if s = source then rs.map .written else []
  | .loadSources text => (ofSource (admittedSources text) source).map .written
  | .replace s rs => if s = source then .emptied :: rs.map .written else []
  | .remove s id => if s = source then [.removed id] else []
  | .clear => [.emptied]

def history (source : String) (ops : List Operation) : List Change :=
  ops.flatMap (Operation.changes source)

/-- Some change of a history began something, and every later one keeps it. What begins may depend on
what happened before. -/
def Since (begins : List Change → Change → Prop) (keeps : Change → Prop) (h : List Change) : Prop :=
  ∃ before c later, h = before ++ c :: later ∧ begins before c ∧ ∀ d ∈ later, keeps d

/-- A ruleset was written under an identifier, which was neither written nor taken away since. -/
def Current (h : List Change) (id : String) (r : Ruleset) : Prop :=
  Since (fun _ c => c = .written r ∧ r.id = id) (fun d => ¬d.Writes id ∧ ¬d.Takes id) h

/-- The present stay of an identifier began at a time: it was written then, was not there before, and
was not taken away since. -/
def StayBegan (h : List Change) (id : String) (t : Nat) : Prop :=
  Since (fun before c => before.length = t ∧ c.Writes id ∧ ∀ r, ¬Current before id r)
    (fun d => ¬d.Takes id) h

/-- The present stay of one identifier began before that of another. -/
def StayedLonger (h : List Change) (a b : String) : Prop :=
  ∃ s t, StayBegan h a s ∧ StayBegan h b t ∧ s < t

def Precedes (rs : List Ruleset) (a b : Ruleset) : Prop :=
  ∃ i j : Nat, i < j ∧ rs[i]? = some a ∧ rs[j]? = some b

section Histories

variable {h : List Change} {id : String} {r : Ruleset} {t : Nat}

private theorem not_since_nil {begins : List Change → Change → Prop} {keeps : Change → Prop} :
    ¬Since begins keeps [] := by
  intro h
  obtain ⟨before, c, later, he, _⟩ := h
  simp at he

private theorem since_concat {begins : List Change → Change → Prop} {keeps : Change → Prop}
    {d : Change} :
    Since begins keeps (h ++ [d]) ↔ begins h d ∨ Since begins keeps h ∧ keeps d := by
  constructor
  · intro hs
    obtain ⟨before, c, later, he, hb, hk⟩ := hs
    rcases List.eq_nil_or_concat' later with rfl | ⟨later', last, rfl⟩
    · obtain ⟨rfl, hd⟩ := List.append_inj' he rfl
      cases hd
      exact .inl hb
    · rw [← List.cons_append, ← List.append_assoc] at he
      obtain ⟨hl, hd⟩ := List.append_inj' he rfl
      cases hd
      refine .inr ⟨⟨before, c, later', hl, hb, fun x hx => hk x ?_⟩, hk d ?_⟩
      · exact List.mem_append_left _ hx
      · exact List.mem_append_right _ (List.mem_singleton_self d)
  · intro hs
    rcases hs with hb | ⟨⟨before, c, later, rfl, hb, hk⟩, hd⟩
    · exact ⟨h, d, [], rfl, hb, by simp⟩
    · refine ⟨before, c, later ++ [d], by simp, hb, ?_⟩
      intro x hx
      rcases List.mem_append.mp hx with hx | hx
      · exact hk x hx
      · rwa [List.mem_singleton.mp hx]

private theorem current_written {s : Ruleset} :
    Current (h ++ [.written s]) id r ↔ s = r ∧ r.id = id ∨ Current h id r ∧ s.id ≠ id := by
  rw [Current, since_concat, ← Current]
  simp [Change.Writes, Change.Takes]

private theorem current_removed {gone : String} :
    Current (h ++ [.removed gone]) id r ↔ Current h id r ∧ gone ≠ id := by
  rw [Current, since_concat, ← Current]
  simp [Change.Writes, Change.Takes]

private theorem not_current_emptied : ¬Current (h ++ [.emptied]) id r := by
  rw [Current, since_concat]
  simp [Change.Takes]

theorem stayBegan_concat {d : Change} :
    StayBegan (h ++ [d]) id t ↔
      (h.length = t ∧ d.Writes id ∧ ∀ r, ¬Current h id r) ∨ StayBegan h id t ∧ ¬d.Takes id :=
  since_concat

private theorem StayBegan.concat {d : Change} (hs : StayBegan h id t) (hd : ¬d.Takes id) :
    StayBegan (h ++ [d]) id t :=
  stayBegan_concat.mpr (.inr ⟨hs, hd⟩)

private theorem StayBegan.lt_length (hs : StayBegan h id t) : t < h.length := by
  obtain ⟨before, c, later, rfl, ⟨rfl, _⟩, _⟩ := hs
  simp

private theorem StayBegan.current (hs : StayBegan h id t) : ∃ r, Current h id r := by
  induction h using List.reverseRecOn with
  | nil => exact absurd hs not_since_nil
  | append_singleton h d ih =>
    cases d with
    | written s =>
      by_cases hid : s.id = id
      · exact ⟨s, current_written.mpr (.inl ⟨rfl, hid⟩)⟩
      · rcases stayBegan_concat.mp hs with ⟨_, hw, _⟩ | ⟨hold, _⟩
        · exact absurd hw hid
        · obtain ⟨r, hr⟩ := ih hold
          exact ⟨r, current_written.mpr (.inr ⟨hr, hid⟩)⟩
    | removed gone =>
      rcases stayBegan_concat.mp hs with ⟨_, hw, _⟩ | ⟨hold, hn⟩
      · exact hw.elim
      · obtain ⟨r, hr⟩ := ih hold
        exact ⟨r, current_removed.mpr ⟨hr, hn⟩⟩
    | emptied =>
      rcases stayBegan_concat.mp hs with ⟨_, hw, _⟩ | ⟨_, hn⟩
      · exact hw.elim
      · exact absurd trivial hn

private theorem StayBegan.unique {s : Nat} (hs : StayBegan h id s) (ht : StayBegan h id t) :
    s = t := by
  induction h using List.reverseRecOn with
  | nil => exact absurd hs not_since_nil
  | append_singleton h d ih =>
    rcases stayBegan_concat.mp hs with ⟨rfl, _, hn⟩ | ⟨hs, _⟩
    · rcases stayBegan_concat.mp ht with ⟨rfl, _⟩ | ⟨ht, _⟩
      · rfl
      -- a stay cannot begin during another: the identifier would have to be absent
      · obtain ⟨r, hr⟩ := ht.current
        exact absurd hr (hn r)
    · rcases stayBegan_concat.mp ht with ⟨_, _, hn⟩ | ⟨ht, _⟩
      · obtain ⟨r, hr⟩ := hs.current
        exact absurd hr (hn r)
      · exact ih hs ht

private theorem StayedLonger.concat {a b : String} {d : Change} (hl : StayedLonger h a b)
    (ha : ¬d.Takes a) (hb : ¬d.Takes b) : StayedLonger (h ++ [d]) a b := by
  obtain ⟨s, t, hs, ht, hlt⟩ := hl
  exact ⟨s, t, hs.concat ha, ht.concat hb, hlt⟩

private theorem StayedLonger.asymm {a b : String} (hl : StayedLonger h a b) :
    ¬StayedLonger h b a := by
  intro hl'
  obtain ⟨s, t, hs, ht, hlt⟩ := hl
  obtain ⟨t', s', ht', hs', hlt'⟩ := hl'
  have hss : s = s' := hs.unique hs'
  have htt : t = t' := ht.unique ht'
  omega

end Histories

def Change.act (rs : List Ruleset) : Change → List Ruleset
  | .written r => placeRuleset rs r
  | .removed id => rs.filter fun r => r.id != id
  | .emptied => []

/-- A list of rulesets is what a history says: it has the current ones, in the order in which their
stays began. -/
structure Reflects (h : List Change) (rs : List Ruleset) : Prop where
  distinct : DistinctIds rs
  current : ∀ {id r}, Current h id r ↔ r ∈ rs ∧ r.id = id
  stays : ∀ {id}, id ∈ rs.map Ruleset.id → ∃ t, StayBegan h id t
  ordered : (rs.map Ruleset.id).Pairwise (StayedLonger h)

section Reflection

variable {h : List Change} {rs : List Ruleset}

private theorem reflects_nil : Reflects [] [] where
  distinct := List.nodup_nil
  current := ⟨fun hc => absurd hc not_since_nil, fun hm => by simp at hm⟩
  stays hm := by simp at hm
  ordered := .nil

private theorem Reflects.begins (hr : Reflects h rs) {r : Ruleset} (hn : r.id ∉ rs.map Ruleset.id) :
    StayBegan (h ++ [.written r]) r.id h.length := by
  refine stayBegan_concat.mpr (.inl ⟨rfl, rfl, fun s hs => hn ?_⟩)
  obtain ⟨hmem, hid⟩ := hr.current.mp hs
  exact hid ▸ List.mem_map_of_mem hmem

private theorem Reflects.stays_concat (hr : Reflects h rs) {d : Change} {id : String}
    (hid : id ∈ rs.map Ruleset.id) (hd : ¬d.Takes id) : ∃ t, StayBegan (h ++ [d]) id t := by
  obtain ⟨t, ht⟩ := hr.stays hid
  exact ⟨t, ht.concat hd⟩

private theorem Reflects.current_written (hr : Reflects h rs) (r : Ruleset) {id : String}
    {s : Ruleset} :
    Current (h ++ [.written r]) id s ↔ s ∈ placeRuleset rs r ∧ s.id = id := by
  rw [Store.current_written, hr.current, mem_placeRuleset hr.distinct]
  constructor
  · intro hs
    rcases hs with ⟨rfl, hid⟩ | ⟨⟨hs, rfl⟩, hne⟩
    · exact ⟨.inl rfl, hid⟩
    · exact ⟨.inr ⟨hs, Ne.symm hne⟩, rfl⟩
  · intro hs
    obtain ⟨rfl | ⟨hs, hne⟩, rfl⟩ := hs
    · exact .inl ⟨rfl, rfl⟩
    · exact .inr ⟨⟨hs, rfl⟩, Ne.symm hne⟩

private theorem Reflects.written (hr : Reflects h rs) (r : Ruleset) :
    Reflects (h ++ [.written r]) (placeRuleset rs r) := by
  have hkeep : ∀ a, ¬(Change.written r).Takes a := fun a ha => ha
  have hold : (rs.map Ruleset.id).Pairwise (StayedLonger (h ++ [.written r])) :=
    hr.ordered.imp fun hl => hl.concat (hkeep _) (hkeep _)
  by_cases hmem : r.id ∈ rs.map Ruleset.id
  -- an identifier that is there keeps its place, and its stay goes on
  · have hids := map_id_placeRuleset hmem
    refine ⟨hr.distinct.placeRuleset r, hr.current_written r, ?_, ?_⟩
    · intro id hid
      rw [hids] at hid
      exact hr.stays_concat hid (hkeep id)
    · rw [hids]
      exact hold
  -- a new one goes behind all others, and its stay begins after theirs
  · have hids := map_id_placeRuleset_of_new hmem
    have hnew := hr.begins hmem
    refine ⟨hr.distinct.placeRuleset r, hr.current_written r, ?_, ?_⟩
    · intro id hid
      rw [hids] at hid
      rcases List.mem_append.mp hid with hid | hid
      · exact hr.stays_concat hid (hkeep id)
      · rw [List.mem_singleton.mp hid]
        exact ⟨h.length, hnew⟩
    · rw [hids, List.pairwise_append]
      refine ⟨hold, List.pairwise_singleton _ _, ?_⟩
      intro a ha b hb
      rw [List.mem_singleton.mp hb]
      obtain ⟨t, ht⟩ := hr.stays ha
      exact ⟨t, h.length, ht.concat (hkeep a), hnew, ht.lt_length⟩

private theorem Reflects.current_removed (hr : Reflects h rs) (gone : String) {id : String}
    {r : Ruleset} : Current (h ++ [.removed gone]) id r ↔
      r ∈ (rs.filter fun r => r.id != gone) ∧ r.id = id := by
  rw [Store.current_removed, hr.current, List.mem_filter, bne_iff_ne]
  constructor
  · intro hs
    obtain ⟨⟨hmem, rfl⟩, hne⟩ := hs
    exact ⟨⟨hmem, Ne.symm hne⟩, rfl⟩
  · intro hs
    obtain ⟨⟨hmem, hne⟩, rfl⟩ := hs
    exact ⟨⟨hmem, rfl⟩, Ne.symm hne⟩

private theorem Reflects.removed (hr : Reflects h rs) (gone : String) :
    Reflects (h ++ [.removed gone]) (rs.filter fun r => r.id != gone) := by
  have hids : (rs.filter fun r => r.id != gone).map Ruleset.id =
      (rs.map Ruleset.id).filter (· != gone) := by
    rw [List.filter_map]
    rfl
  have hkeep : ∀ {a}, a ∈ (rs.map Ruleset.id).filter (· != gone) →
      a ∈ rs.map Ruleset.id ∧ ¬(Change.removed gone).Takes a := by
    intro a ha
    obtain ⟨hmem, hne⟩ := List.mem_filter.mp ha
    exact ⟨hmem, Ne.symm (bne_iff_ne.mp hne)⟩
  refine ⟨?_, hr.current_removed gone, ?_, ?_⟩
  · rw [DistinctIds, hids]
    exact hr.distinct.filter _
  · intro id hid
    rw [hids] at hid
    obtain ⟨hmem, hn⟩ := hkeep hid
    exact hr.stays_concat hmem hn
  · rw [hids]
    apply (hr.ordered.filter _).imp_of_mem
    intro a b ha hb hl
    exact hl.concat (hkeep ha).2 (hkeep hb).2

private theorem reflects_emptied : Reflects (h ++ [.emptied]) [] where
  distinct := List.nodup_nil
  current := ⟨fun hc => absurd hc not_current_emptied, fun hm => by simp at hm⟩
  stays hm := by simp at hm
  ordered := .nil

theorem Reflects.act (hr : Reflects h rs) (c : Change) : Reflects (h ++ [c]) (c.act rs) := by
  cases c with
  | written r => exact hr.written r
  | removed gone => exact hr.removed gone
  | emptied => exact reflects_emptied

theorem reflects_foldl (h : List Change) : Reflects h (h.foldl Change.act []) := by
  induction h using List.reverseRecOn with
  | nil => exact reflects_nil
  | append_singleton h c ih =>
    rw [List.foldl_append]
    exact ih.act c

/-- In a list that reflects a history, also in a part of it that keeps the order, one ruleset stands
in front of another exactly when its stay began before. -/
private theorem Reflects.precedes_iff (hr : Reflects h rs) (p : Ruleset → Bool) {a b : Ruleset}
    (ha : a ∈ rs.filter p) (hb : b ∈ rs.filter p) :
    Precedes (rs.filter p) a b ↔ StayedLonger h a.id b.id := by
  have hord : (rs.filter p).Pairwise fun r s => StayedLonger h r.id s.id :=
    (List.pairwise_map.mp hr.ordered).filter p
  have hget : ∀ {i j : Nat} {r s : Ruleset}, (rs.filter p)[i]? = some r →
      (rs.filter p)[j]? = some s → i < j → StayedLonger h r.id s.id := by
    intro i j r s hi hj hij
    obtain ⟨hilt, rfl⟩ := List.getElem?_eq_some_iff.mp hi
    obtain ⟨hjlt, rfl⟩ := List.getElem?_eq_some_iff.mp hj
    exact List.pairwise_iff_getElem.mp hord i j hilt hjlt hij
  constructor
  · intro hp
    obtain ⟨i, j, hij, hi, hj⟩ := hp
    exact hget hi hj hij
  · intro hl
    obtain ⟨i, hi⟩ := List.mem_iff_getElem?.mp ha
    obtain ⟨j, hj⟩ := List.mem_iff_getElem?.mp hb
    rcases Nat.lt_trichotomy i j with hij | rfl | hij
    · exact ⟨i, j, hij, hi, hj⟩
    · rw [hi] at hj
      cases hj
      exact absurd hl hl.asymm
    · exact absurd (hget hj hi hij) hl.asymm

end Reflection

/-- An operation replaces the rulesets of a source only by such with distinct identifiers. -/
def Operation.Distinct : Operation → Prop
  | .replace _ rs => DistinctIds rs
  | _ => True

private theorem foldl_written (rs added : List Ruleset) :
    (added.map Change.written).foldl Change.act rs = added.foldl placeRuleset rs := by
  rw [List.foldl_map]
  rfl

/-- An operation does to a source what its changes do. -/
theorem rulesets_step (st : Store) {op : Operation} (hd : op.Distinct) (source : String) :
    (st.step op).rulesets source = (op.changes source).foldl Change.act (st.rulesets source) := by
  cases op with
  | load s r =>
    change (st.load s r).rulesets source = _
    rw [rulesets_load, Operation.changes]
    split <;> rfl
  | loadText s text =>
    rw [step_loadText, Operation.changes]
    cases admitted? s text with
    | none => split <;> rfl
    | some r =>
      change (st.load s r).rulesets source = _
      rw [rulesets_load]
      split <;> rfl
  | loadAll s rs =>
    change (st.loadAll s rs).rulesets source = _
    rw [rulesets_loadAll, Operation.changes]
    split
    · exact (foldl_written _ _).symm
    · rfl
  | loadSources text =>
    rw [step_loadSources, rulesets_loadDocument, Operation.changes, foldl_written]
  | replace s rs =>
    change (st.replace s rs).rulesets source = _
    rw [rulesets_replace, Operation.changes]
    split
    -- distinct rulesets that are written to the emptied source make up the list again
    · have hnew : rs.foldl placeRuleset [] = [] ++ rs := foldl_placeRuleset hd
      rw [List.foldl_cons, foldl_written]
      exact hnew.symm
    · rfl
  | remove s id =>
    rw [rulesets_step_remove, Operation.changes]
    split <;> rfl
  | clear => rfl

theorem rulesets_foldl_step {ops : List Operation} (hd : ∀ op ∈ ops, op.Distinct) (st : Store)
    (source : String) :
    (ops.foldl step st).rulesets source =
      (history source ops).foldl Change.act (st.rulesets source) := by
  induction ops generalizing st with
  | nil => rfl
  | cons op rest ih =>
    have hop := hd op List.mem_cons_self
    have hrest := ih (fun o ho => hd o (List.mem_cons_of_mem op ho)) (st.step op)
    rw [List.foldl_cons, hrest, rulesets_step st hop, history, history, List.flatMap_cons,
      List.foldl_append]

theorem reflects_run {ops : List Operation} (hd : ∀ op ∈ ops, op.Distinct) (source : String) :
    Reflects (history source ops) ((run ops).rulesets source) := by
  rw [run, rulesets_foldl_step hd]
  exact reflects_foldl _

/-- Whatever operations were run, a source holds what was written last and not taken away since, in
the order in which the stays began. -/
theorem run_tells_history (ops : List Operation) (hd : ∀ op ∈ ops, op.Distinct) (source : String) :
    DistinctIds ((run ops).rulesets source) ∧
    (∀ id r, (run ops).get? source id = some r ↔ Current (history source ops) id r) ∧
    (∀ id, (run ops).get? source id = none ↔ ∀ r, ¬Current (history source ops) id r) ∧
    (∀ r ∈ (run ops).rulesets source, ∃! t, StayBegan (history source ops) r.id t) ∧
    ∀ q a b, a ∈ (run ops).fetch source q → b ∈ (run ops).fetch source q →
      (Precedes ((run ops).fetch source q) a b ↔
        ∃ s t, StayBegan (history source ops) a.id s ∧ StayBegan (history source ops) b.id t ∧
          s < t) := by
  have hr := reflects_run hd source
  have hget : ∀ id r, (run ops).get? source id = some r ↔ Current (history source ops) id r := by
    intro id r
    rw [get?, find?_id_eq_some hr.distinct, hr.current]
  refine ⟨hr.distinct, hget, ?_, ?_, fun q a b ha hb => hr.precedes_iff q.admits ha hb⟩
  · intro id
    rw [Option.eq_none_iff_forall_ne_some]
    exact forall_congr' fun r => not_congr (hget id r)
  · intro r hmem
    obtain ⟨t, ht⟩ := hr.stays (List.mem_map_of_mem hmem)
    exact ⟨t, ht, fun s hs => hs.unique ht⟩

/-- A ruleset that is removed and loaded again stands behind one that stayed, and a removal that
fails changes nothing. -/
theorem run_tells_history_of_reload :
    let a : Ruleset := ⟨"a", "first", true, [], []⟩
    let a' : Ruleset := ⟨"a", "again", true, [], []⟩
    let b : Ruleset := ⟨"b", "", true, [], []⟩
    let ops : List Operation := [.replace "shop" [a, b], .remove "shop" "c", .load "other" a,
      .remove "shop" "a", .load "shop" a', .load "shop" b]
    (∀ op ∈ ops, op.Distinct) ∧ Current (history "shop" ops) "a" a' ∧
      StayedLonger (history "shop" ops) "b" "a" := by
  intro a a' b ops
  have hd : ∀ op ∈ ops, op.Distinct := by
    simp [ops, Operation.Distinct, DistinctIds, a, b]
  obtain ⟨-, hget, -, -, hord⟩ := run_tells_history ops hd "shop"
  have hfetch : (run ops).fetch "shop" {} = [b, a'] := by cbv
  have hb : b ∈ (run ops).fetch "shop" {} := by rw [hfetch]; exact List.mem_cons_self
  have ha : a' ∈ (run ops).fetch "shop" {} := by
    rw [hfetch]
    exact List.mem_cons_of_mem b List.mem_cons_self
  refine ⟨hd, (hget "a" a').mp (by cbv), (hord {} b a' hb ha).mp ?_⟩
  rw [hfetch]
  exact ⟨0, 1, Nat.zero_lt_one, rfl, rfl⟩

end Criteria.Store
