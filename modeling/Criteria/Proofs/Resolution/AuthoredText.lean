import Criteria.Proofs.Resolution.Injection
/-!
# The authored text and the threshold

Of an object that an author wrote, the threshold is the member that the type measures, and the
authored text that of the member `text`, or else of the member `number`, whatever the type. For a
text with a unit the two are one part of the rule. For a number with a unit they are so unless the
object has a text beside its number: then a resolver sees the text and is compared with the number.
-/
namespace Criteria

private theorem Value.authoredText?_of_scalarText? {v : Value} {s : String}
    (h : v.scalarText? = some s) :
    v.authoredText? = some s := by
  cases v with
  | object members => cases h
  | _ => simpa only [authoredText?] using h

namespace ValueType

variable {t : ValueType} {members : Table Value} {field s : String}

private theorem threshold_of_not_object {authored : Value}
    (h : ∀ members, authored ≠ .object members) :
    t.threshold authored = authored := by
  cases authored with
  | object members => exact absurd rfl (h members)
  | _ => cases t <;> rfl

private theorem exists_member_of_threshold (hm : t.measure? = some field)
    (hs : (t.threshold (.object members)).scalarText? = some s) :
    ∃ v, members.find? field = some v ∧ v.scalarText? = some s := by
  simp only [threshold, hm] at hs
  cases hv : members.find? field with
  | none =>
    rw [hv] at hs
    cases hs
  | some v =>
    rw [hv, Option.getD_some] at hs
    exact ⟨v, rfl, hs⟩

/-- A number with a unit is authored with a member `text` beside it, whose own authored text is
another than `s`. -/
def TextPrecedes (t : ValueType) (authored : Value) (s : String) : Prop :=
  t = .numberWithUnit ∧ ∃ v, authored.member? "text" = some v ∧ v.authoredText? ≠ some s

private theorem authoredText?_object_eq_iff (hm : t.measure? = some field)
    (hs : (t.threshold (.object members)).scalarText? = some s) :
    (Value.object members).authoredText? = some s ↔ ¬t.TextPrecedes (.object members) s := by
  obtain ⟨v, hv, hscalar⟩ := exists_member_of_threshold hm hs
  have htext : v.authoredText? = some s := Value.authoredText?_of_scalarText? hscalar
  rw [Value.authoredText?_object, TextPrecedes, Value.member?]
  rcases measure?_eq_some hm with ⟨rfl, rfl⟩ | ⟨rfl, rfl⟩
  · simp [hv, htext]
  · cases hw : members.find? "text" with
    | none => simp [hv, htext]
    | some w => simp

theorem authoredText?_eq_iff {authored : Value} (hm : t.measure? = some field)
    (hs : (t.threshold authored).scalarText? = some s) :
    authored.authoredText? = some s ↔ ¬t.TextPrecedes authored s := by
  cases authored with
  | object members => exact authoredText?_object_eq_iff hm hs
  | _ =>
    rw [threshold_of_not_object (by nofun)] at hs
    refine iff_of_true (Value.authoredText?_of_scalarText? hs) ?_
    rintro ⟨-, v, hv, -⟩
    cases hv

/-- The authored text is that of the scalar threshold, unless a number has a text beside it that
precedes. -/
theorem authored_text_is_threshold (ht : t.isUnitQualified = true) {authored : Value}
    (hs : (t.threshold authored).scalarText? = some s) :
    (authored.authoredText? = some s ↔ ¬t.TextPrecedes authored s) ∧
    (∀ v, authored.member? "text" = some v → authored.authoredText? = v.authoredText?) ∧
    ∀ (c : Condition) (run : Resolver), c.type = t → c.origin = some (.resolver run true) →
      ∀ context,
        let call := c.call true authored context
        call.authored = authored.authoredText? ∧
          c.resolve authored context =
            (((run call.context call.authored).mapError c.errorOf).map
              fun live => ⟨live, t.threshold authored⟩, [call]) := by
  obtain ⟨field, hm⟩ := Option.isSome_iff_exists.mp ht
  refine ⟨?_, ?_, ?_⟩
  · exact authoredText?_eq_iff hm hs
  · intro v hv
    cases authored with
    | object members =>
      rw [Value.member?] at hv
      rw [Value.authoredText?_object, hv, Option.some_or, Option.bind_some]
    | _ => cases hv
  · intro c run hc ho context call
    refine ⟨rfl, ?_⟩
    rw [Condition.resolve, Condition.live_of_resolver ho authored context, hc]

/-- Five kilograms are handed to a resolver as they are compared. With a text beside it the number
is handed over as that text. -/
theorem authored_text_is_threshold_of_weight :
    let weight : Value := .object [("number", .nat 5), ("unit", .text "kg")]
    let size : Value := .object [("number", .nat 5), ("text", .text "L"), ("unit", .text "eu")]
    let spelled : Value := .object [("number", .nat 5), ("text", .text "five"), ("unit", .text "kg")]
    weight.authoredText? = some "5" ∧ size.authoredText? = some "L" ∧
      spelled.authoredText? = some "five" := by
  intro weight size spelled
  have hfive : (numberWithUnit.threshold weight).scalarText? = some "5" := by decide +kernel
  have hlarge : (textWithUnit.threshold size).scalarText? = some "L" := by decide +kernel
  have hspelled : (numberWithUnit.threshold spelled).scalarText? = some "5" := by decide +kernel
  have hweight : ¬numberWithUnit.TextPrecedes weight "5" := by
    rintro ⟨-, v, hv, -⟩
    cases hv
  have hsize : ¬textWithUnit.TextPrecedes size "L" := by
    rintro ⟨ht, -⟩
    cases ht
  exact ⟨(authored_text_is_threshold rfl hfive).1.mpr hweight,
    (authored_text_is_threshold rfl hlarge).1.mpr hsize,
    (authored_text_is_threshold rfl hspelled).2.1 (.text "five") rfl⟩

/-- A number with a text beside it is compared as the number, and its authored text is that text. -/
theorem not_authored_text_is_threshold :
    ¬∀ (t : ValueType) (authored : Value) (s : String), t.isUnitQualified = true →
      (t.threshold authored).scalarText? = some s → authored.authoredText? = some s := by
  intro h
  have htext : (Value.object [("number", .nat 5), ("text", .text "five")]).authoredText? = some "5" :=
    h .numberWithUnit _ "5" rfl (by decide +kernel)
  rw [Value.authoredText?_object] at htext
  exact absurd htext (by decide +kernel)

end ValueType
end Criteria
