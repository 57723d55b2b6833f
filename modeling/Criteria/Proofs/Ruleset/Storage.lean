import Criteria.Proofs.Json.RoundTrip
import Criteria.Ruleset
/-!
# Stored rulesets

A ruleset that is written as a document and read again is the same ruleset, down to the identifiers of
its rules, operators that do not exist, groups without rules and values that are null.
-/
namespace Criteria

open Json

/-- A value of a rule stands within the object of the rule, its group, the list of groups and the
ruleset, a value of the metadata within the metadata and the ruleset; each may nest what is left of the
127 levels that a document may have. -/
structure Ruleset.Storable (r : Ruleset) : Prop where
  values : ∀ g ∈ r.groups, ∀ rule ∈ g, rule.value.Storable 123
  ordered : r.metadata.Pairwise fun m n => m.1 < n.1
  metadata : ∀ m ∈ r.metadata, m.2.Storable 125

namespace Rule

theorem reads_document {depth : Nat} {r : Rule} (h : r.value.Storable depth) :
    Reads (decoder (depth + 1)) (compact r.document) r := by
  have hfields : TakesAll (Field.readMember fields depth) {}
      [("id", .text r.id), ("condition", .text r.condition), ("operator", .text r.operator),
        ("value", r.value)]
      { id := some r.id, condition := some r.condition, operator := some r.operator,
        value := some r.value } := by
    refine .cons (takes_readMember rfl rfl (reads_text depth r.id)) ?_
    refine .cons (takes_readMember rfl rfl (reads_text depth r.condition)) ?_
    refine .cons (takes_readMember rfl rfl (reads_text depth r.operator)) ?_
    refine .cons (takes_readMember rfl rfl (reads_value h)) ?_
    exact .nil _
  exact (reads_record hfields rfl).map Draft.rule

end Rule

namespace Ruleset

theorem reads_document {r : Ruleset} (h : r.Storable) :
    Reads (decoder maxDepth) (compact r.document) r := by
  have hgroups : Reads (Decoder.list (Decoder.list Rule.decoder) 126)
      (compact (.list (r.groups.map fun g => .list (g.map Rule.document)))) r.groups := by
    refine reads_list (fun g : Group => .list (g.map Rule.document)) fun g hg => ?_
    refine reads_list Rule.document fun rule hrule => ?_
    exact Rule.reads_document (h.values g hg rule hrule)
  have hmetadata : Reads (Decoder.table Decoder.value 126) (compact (.object r.metadata))
      r.metadata :=
    reads_table (fun m hm => reads_value (h.metadata m hm)) h.ordered
  have hfields : TakesAll (Field.readMember fields 126) {}
      [("id", .text r.id), ("title", .text r.title), ("enabled", .bool r.enabled),
        ("groups", .list (r.groups.map fun g => .list (g.map Rule.document))),
        ("meta", .object r.metadata)]
      { id := some r.id, title := some r.title, enabled := some r.enabled,
        groups := some r.groups, metadata := some r.metadata } := by
    refine .cons (takes_readMember rfl rfl (reads_text 126 r.id)) ?_
    refine .cons (takes_readMember rfl rfl (reads_text 126 r.title)) ?_
    refine .cons (takes_readMember rfl rfl (reads_bool 126 r.enabled)) ?_
    refine .cons (takes_readMember rfl rfl hgroups) ?_
    refine .cons (takes_readMember rfl rfl hmetadata) ?_
    exact .nil _
  exact (reads_record hfields rfl).map Draft.ruleset

/-- Reading undoes writing: the text of a ruleset is always read, and as the same ruleset. -/
theorem ofText_document (r : Ruleset) (h : r.Storable) :
    ofText r.document.compactText = .ok r :=
  decode_compactText (reads_document h)

/-- Escapes, the least and the greatest integer, a group without rules, an operator that does not
exist and a null value survive. -/
theorem ofText_document_of_extremes :
    let r : Ruleset := {
      id := "a \"quoted\" \\ name"
      title := "零\n\x01\x1f"
      enabled := false
      groups := [[], [
        { id := "", condition := "age", operator := "no such operator", value := .null },
        { id := "r2", condition := "", operator := "greater_than",
          value := .list [.number (.integer (-9223372036854775808)),
            .object [("high", .number (.integer 18446744073709551615)), ("low", .bool true)]] }]]
      metadata := [("", .list []), ("owner", .text "\t")] }
    r.Storable ∧ ofText r.document.compactText = .ok r := by
  intro r
  have hvalues : ∀ g ∈ r.groups, ∀ rule ∈ g, rule.value.Storable 123 := by
    have hpair : Value.Storable 122 (.object [("high", .number (.integer 18446744073709551615)),
        ("low", .bool true)]) := by
      refine .object (by decide) ?_
      simp only [List.forall_mem_cons, List.not_mem_nil]
      exact ⟨.integer (by decide) (by decide), .bool true, fun _ => False.elim⟩
    simp only [r, List.forall_mem_cons, List.not_mem_nil]
    refine ⟨fun _ => False.elim, ⟨.null, .list ?_, fun _ => False.elim⟩, fun _ => False.elim⟩
    simp only [List.forall_mem_cons, List.not_mem_nil]
    exact ⟨.integer (by decide) (by decide), hpair, fun _ => False.elim⟩
  have hmetadata : ∀ m ∈ r.metadata, m.2.Storable 125 := by
    simp only [r, List.forall_mem_cons, List.not_mem_nil]
    exact ⟨.list (by simp), .text "\t", fun _ => False.elim⟩
  have h : r.Storable := ⟨hvalues, by decide, hmetadata⟩
  exact ⟨h, ofText_document r h⟩

end Ruleset
end Criteria
