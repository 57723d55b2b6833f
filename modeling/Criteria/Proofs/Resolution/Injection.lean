import Criteria.Resolution
/-!
# What a resolver sees of an authored value

A resolver is handed the context of the evaluation with the measure and the unit of the authored
object laid over it. A key is looked up as a whole and then by its path, and both begin at a name of
the top level. So only the keys that begin with an injected name can notice the injection, and of
two authored objects that differ in their unit a resolver sees the difference under that name alone.
-/
namespace Criteria

/-! ### Keys and the names with which they begin -/

namespace Context

/-- The name with which a key begins: all of it up to the first point. -/
def head (key : String) : String :=
  String.ofList (key.toList.takeWhile (· != '.'))

variable {c c₁ c₂ : Context} {key : String} {above : Table Value} {v : Value}

/-- A look-up rests on the entries under the key itself and under the name with which it begins. -/
theorem get?_congr (hkey : c₁.data.find? key = c₂.data.find? key)
    (hhead : c₁.data.find? (head key) = c₂.data.find? (head key)) : c₁.get? key = c₂.get? key := by
  obtain ⟨path, hpath⟩ := Text.exists_splitOn_eq '.' key.toList
  rw [head] at hhead
  simp only [get?, hkey, hpath, follow?, hhead]

/-- Two contexts give a key the same value or both none. -/
def AnswerAlike (c₁ c₂ : Context) (key : String) : Prop :=
  c₁.get? key = c₂.get? key ∧ c₁.has key = c₂.has key

private theorem AnswerAlike.of_get? (h : c₁.get? key = c₂.get? key) : AnswerAlike c₁ c₂ key :=
  ⟨h, by rw [has, has, h]⟩

private theorem get?_overlay_of_notMem (hkey : key ∉ above.names) (hhead : head key ∉ above.names) :
    (c.overlay above).get? key = c.get? key :=
  get?_congr (Table.find?_overlay_of_notMem hkey) (Table.find?_overlay_of_notMem hhead)

private theorem get?_overlay_of_mem (hn : above.names.Nodup) (h : (key, v) ∈ above) :
    (c.overlay above).get? key = some v := by
  rw [get?, overlay, Table.find?_overlay_of_mem hn h]

end Context

/-! ### What is injected -/

/-- The names that a type injects from an authored value, with what stands under them: the unit, and
the number or the text that it belongs to, each where the authored object has it. -/
inductive ValueType.Injects (authored : Value) : ValueType → String → Value → Prop
  | number {v : Value} : authored.member? "number" = some v →
    Injects authored .numberWithUnit "_number" v
  | unitOfNumber {v : Value} : authored.member? "unit" = some v →
    Injects authored .numberWithUnit "_unit" v
  | text {v : Value} : authored.member? "text" = some v → Injects authored .textWithUnit "_text" v
  | unitOfText {v : Value} : authored.member? "unit" = some v →
    Injects authored .textWithUnit "_unit" v

theorem mem_injection {members : Table Value} {name key : String} {v : Value} :
    (key, v) ∈ injection members name ↔ members.find? name = some v ∧ key = "_" ++ name := by
  rw [injection]
  cases members.find? name with
  | none => simp
  | some w => simp [eq_comm, and_comm]

private theorem nodup_names_injection {name other : String} (h : name ≠ other)
    (members : Table Value) :
    (injection members name ++ injection members other).names.Nodup := by
  have hne : "_" ++ name ≠ "_" ++ other := fun he => h (String.append_right_inj "_" |>.mp he)
  rw [injection, injection]
  cases members.find? name <;> cases members.find? other <;> simp [Table.names, hne]

namespace ValueType

variable {t : ValueType} {authored : Value} {key : String} {v : Value}

private theorem mem_injected : (key, v) ∈ t.injected authored ↔ t.Injects authored key v := by
  constructor
  · intro h
    cases authored with
    | object members =>
      cases t with
      | numberWithUnit =>
        rcases List.mem_append.mp h with h | h
        · obtain ⟨hv, rfl⟩ := mem_injection.mp h
          exact .number hv
        · obtain ⟨hv, rfl⟩ := mem_injection.mp h
          exact .unitOfNumber hv
      | textWithUnit =>
        rcases List.mem_append.mp h with h | h
        · obtain ⟨hv, rfl⟩ := mem_injection.mp h
          exact .text hv
        · obtain ⟨hv, rfl⟩ := mem_injection.mp h
          exact .unitOfText hv
      | _ => cases h
    | _ => cases t <;> cases h
  · intro h
    cases authored with
    | object members =>
      cases h with
      | number hv | text hv => exact List.mem_append_left _ (mem_injection.mpr ⟨hv, rfl⟩)
      | unitOfNumber hv | unitOfText hv =>
        exact List.mem_append_right _ (mem_injection.mpr ⟨hv, rfl⟩)
    | _ => cases h <;> contradiction

private theorem mem_names_injected :
    key ∈ (t.injected authored).names ↔ ∃ v, t.Injects authored key v := by
  simp [Table.names, mem_injected]

private theorem nodup_names_injected (t : ValueType) (authored : Value) :
    (t.injected authored).names.Nodup := by
  cases authored with
  | object members =>
    cases t with
    | numberWithUnit => exact nodup_names_injection (by decide) members
    | textWithUnit => exact nodup_names_injection (by decide) members
    | _ => exact List.nodup_nil
  | _ => cases t <;> exact List.nodup_nil

private theorem Injects.head_eq (h : t.Injects authored key v) : Context.head key = key := by
  cases h <;> decide +kernel

private theorem Injects.isUnitQualified (h : t.Injects authored key v) :
    t.isUnitQualified = true := by
  cases h <;> rfl

private theorem Injects.exists_object (h : t.Injects authored key v) :
    ∃ members, authored = .object members := by
  cases authored with
  | object members => exact ⟨members, rfl⟩
  | _ => cases h <;> contradiction

theorem measure?_eq_some {field : String} (h : t.measure? = some field) :
    (t = .textWithUnit ∧ field = "text") ∨ (t = .numberWithUnit ∧ field = "number") := by
  cases t with
  | textWithUnit =>
    cases h
    exact .inl ⟨rfl, rfl⟩
  | numberWithUnit =>
    cases h
    exact .inr ⟨rfl, rfl⟩
  | _ => cases h

private theorem ne_unit_of_measure? {field : String} (h : t.measure? = some field) :
    field ≠ "unit" := by
  rcases measure?_eq_some h with ⟨-, rfl⟩ | ⟨-, rfl⟩
  · decide
  · decide

/-! ### Objects that differ in their unit -/

section OtherUnit

variable {members others : Table Value}
  (hsame : ∀ name, name ≠ "unit" → members.find? name = others.find? name)
include hsame

private theorem find?_overlay_injected_of_unit {name : String} (hname : name ≠ "_unit")
    (below : Table Value) :
    (below.overlay (t.injected (.object members))).find? name =
      (below.overlay (t.injected (.object others))).find? name := by
  cases hm : t.measure? with
  | none => simp only [injected, hm]
  | some field =>
    have hunit (ms : Table Value) : name ∉ (injection ms "unit").names := by
      simp only [Table.names, List.mem_map, not_exists, not_and]
      rintro ⟨k, v⟩ hk rfl
      exact hname (mem_injection.mp hk).2
    have hmeasure : injection members field = injection others field := by
      rw [injection, injection, hsame field (ne_unit_of_measure? hm)]
    simp only [injected, hm, Table.overlay_append, Table.find?_overlay_of_notMem (hunit _), hmeasure]

private theorem threshold_of_unit (ht : t.isUnitQualified = true) :
    t.threshold (.object members) = t.threshold (.object others) := by
  obtain ⟨field, hm⟩ := Option.isSome_iff_exists.mp ht
  simp only [threshold, hm, hsame field (ne_unit_of_measure? hm)]

end OtherUnit

end ValueType

namespace Value

private theorem authoredMember?_eq (name : String) (members : List (String × Value)) :
    authoredMember? name members = (Table.find? members name).map authoredText? := by
  induction members with
  | nil => rfl
  | cons e rest ih =>
    obtain ⟨k, v⟩ := e
    rw [authoredMember?, Table.find?, ih]
    split <;> rfl

theorem authoredText?_object (members : List (String × Value)) :
    (object members).authoredText? =
      ((Table.find? members "text").or (Table.find? members "number")).bind authoredText? := by
  rw [authoredText?, authoredMember?_eq, authoredMember?_eq]
  cases Table.find? members "text" with
  | none => cases Table.find? members "number" <;> rfl
  | some v => rfl

end Value

/-! ### What the resolver sees -/

namespace Condition

variable {c : Condition} {context : Context} {authored : Value} {key : String} {v : Value}

theorem live_of_resolver {run : Resolver} {pass : Bool} (h : c.origin = some (.resolver run pass))
    (authored : Value) (context : Context) :
    c.live authored context =
      ((run (c.call pass authored context).context
        (c.call pass authored context).authored).mapError c.errorOf,
      [c.call pass authored context]) := by
  rw [live, h]

theorem get?_call_of_injects (h : c.type.Injects authored key v) (pass : Bool) :
    (c.call pass authored context).context.get? key = some v :=
  Context.get?_overlay_of_mem (c.type.nodup_names_injected authored) (ValueType.mem_injected.mpr h)

theorem get?_call_of_not_injects (h : ∀ v, ¬c.type.Injects authored (Context.head key) v)
    (pass : Bool) : (c.call pass authored context).context.get? key = context.get? key := by
  refine Context.get?_overlay_of_notMem ?_ ?_
  · intro hkey
    obtain ⟨v, hv⟩ := ValueType.mem_names_injected.mp hkey
    rw [← hv.head_eq] at hv
    exact h v hv
  · intro hhead
    obtain ⟨v, hv⟩ := ValueType.mem_names_injected.mp hhead
    exact h v hv

theorem get?_call_of_no_injection
    (h : c.type.isUnitQualified = false ∨ ∀ members, authored ≠ .object members) (pass : Bool) :
    (c.call pass authored context).context.get? key = context.get? key := by
  refine get?_call_of_not_injects (fun v hv => ?_) pass
  rcases h with h | h
  · rw [hv.isUnitQualified] at h
    cases h
  · obtain ⟨members, he⟩ := hv.exists_object
    exact h members he

theorem get?_call_of_unit {members others : Table Value}
    (hsame : ∀ name, name ≠ "unit" → members.find? name = others.find? name)
    (hkey : Context.head key ≠ "_unit") (pass : Bool) :
    (c.call pass (.object members) context).context.get? key =
      (c.call pass (.object others) context).context.get? key := by
  have hwhole : key ≠ "_unit" := by
    rintro rfl
    exact hkey (by decide +kernel)
  exact Context.get?_congr (ValueType.find?_overlay_injected_of_unit hsame hwhole _)
    (ValueType.find?_overlay_injected_of_unit hsame hkey _)

/-- A resolver is handed the context of the evaluation but for the injected names, and a change of
the unit shows under the unit alone. -/
theorem injection_touches_nothing_else {run : Resolver} {pass : Bool}
    (h : c.origin = some (.resolver run pass)) (context : Context) :
    (∀ authored,
      let call := c.call pass authored context
      c.live authored context = ((run call.context call.authored).mapError c.errorOf, [call]) ∧
      (∀ key v, c.type.Injects authored key v → call.context.get? key = some v) ∧
      (∀ key, (∀ v, ¬c.type.Injects authored (Context.head key) v) →
        call.context.AnswerAlike context key) ∧
      (c.type.isUnitQualified = false ∨ (∀ members, authored ≠ .object members) →
        ∀ key, call.context.AnswerAlike context key)) ∧
    (c.type.isUnitQualified = true → ∀ members others : Table Value,
      (∀ name, name ≠ "unit" → members.find? name = others.find? name) →
        c.type.threshold (.object members) = c.type.threshold (.object others) ∧
        (Value.object members).authoredText? = (Value.object others).authoredText? ∧
        (c.call pass (.object members) context).authored =
          (c.call pass (.object others) context).authored ∧
        ∀ key, Context.head key ≠ "_unit" →
          (c.call pass (.object members) context).context.AnswerAlike
            (c.call pass (.object others) context).context key) := by
  refine ⟨?_, ?_⟩
  · intro authored
    refine ⟨live_of_resolver h authored context, ?_, ?_, ?_⟩
    · intro key v hv
      exact get?_call_of_injects hv pass
    · intro key hkey
      exact .of_get? (get?_call_of_not_injects hkey pass)
    · intro hnone key
      exact .of_get? (get?_call_of_no_injection hnone pass)
  · intro ht members others hsame
    have htext : (Value.object members).authoredText? = (Value.object others).authoredText? := by
      rw [Value.authoredText?_object, Value.authoredText?_object, hsame "text" (by decide),
        hsame "number" (by decide)]
    refine ⟨ValueType.threshold_of_unit hsame ht, htext, by rw [call, call, htext], ?_⟩
    intro key hkey
    exact .of_get? (get?_call_of_unit hsame hkey pass)

/-- A resolver finds the unit and the number of the author in place of those in the context, and
beside them the facts of the context. -/
theorem injection_touches_nothing_else_of_weight :
    let run : Resolver := fun context _ => .ok ((context.get? "_unit").getD .null)
    let c : Condition := (ofOrigin "weight" .numberWithUnit (some (.resolver run false))).withAuthored
    let weight (unit : String) : Table Value := [("number", .nat 5), ("unit", .text unit)]
    let context : Context :=
      ⟨[("_unit", .text "g"), ("_units", .object [("all", .text "g")]), ("cart", .list [.nat 3])]⟩
    let kilograms := c.call true (.object (weight "kg")) context
    let pounds := c.call true (.object (weight "lb")) context
    c.live (.object (weight "kg")) context = (.ok (.text "kg"), [kilograms]) ∧
      kilograms.context.get? "_unit" = some (.text "kg") ∧
      kilograms.context.get? "_number" = some (.nat 5) ∧
      kilograms.context.get? "cart.0" = some (.nat 3) ∧
      kilograms.context.get? "_units.all" = some (.text "g") ∧
      kilograms.authored = pounds.authored ∧
      kilograms.context.AnswerAlike pounds.context "_number" := by
  intro run c weight context kilograms pounds
  have ho : c.origin = some (.resolver run true) := rfl
  obtain ⟨hcall, hunits⟩ := injection_touches_nothing_else ho context
  obtain ⟨hlive, hinjected, hother, -⟩ := hcall (.object (weight "kg"))
  have hunit : kilograms.context.get? "_unit" = some (.text "kg") :=
    hinjected "_unit" _ (.unitOfNumber rfl)
  have hkeep {key : String} (hn : Context.head key ≠ "_number") (hu : Context.head key ≠ "_unit") :
      kilograms.context.get? key = context.get? key := by
    refine (hother key fun v hv => ?_).1
    generalize Context.head key = name at hn hu hv
    cases hv with
    | number => exact hn rfl
    | unitOfNumber => exact hu rfl
  have hsame : ∀ name, name ≠ "unit" → (weight "kg").find? name = (weight "lb").find? name := by
    intro name hname
    simp [weight, Table.find?, hname.symm]
  obtain ⟨-, -, hauthored, hagree⟩ := hunits rfl (weight "kg") (weight "lb") hsame
  refine ⟨hlive, hunit, hinjected "_number" _ (.number rfl), ?_, ?_, hauthored, ?_⟩
  · exact (hkeep (by decide +kernel) (by decide +kernel)).trans rfl
  · exact (hkeep (by decide +kernel) (by decide +kernel)).trans rfl
  · exact hagree "_number" (by decide +kernel)

end Condition
end Criteria
