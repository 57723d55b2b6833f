import Criteria.Ruleset
/-!
# Queries

Which rulesets of a source are asked for: those with the given metadata, and by default only the
enabled ones.
-/
namespace Criteria

structure Query where
  metadata : Table Value := []
  enabledOnly : Bool := true
deriving Inhabited

namespace Query

def withMetadata (q : Query) (key : String) (v : Value) : Query :=
  { q with metadata := q.metadata.insert key v }

def includingDisabled (q : Query) : Query :=
  { q with enabledOnly := false }

/-- Whether a ruleset is asked for: every entry of the query has to agree with its metadata. -/
def admits (q : Query) (r : Ruleset) : Bool :=
  (!q.enabledOnly || r.enabled) &&
    q.metadata.all fun (key, v) => (r.metadata.find? key).any fun w => w == v

end Query
end Criteria
