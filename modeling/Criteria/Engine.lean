import Criteria.Lint
import Criteria.Matches
import Criteria.Store
/-!
# The engine

Evaluation over the rulesets of a source under the catalogue that is registered for it.
-/
namespace Criteria

/-- Where rulesets are fetched from: by source and query, in a fixed order. -/
abbrev RulesetSource := String → Query → Except Error (List Ruleset)

def Store.source (st : Store) : RulesetSource := fun source q => .ok (st.fetch source q)

def RulesetSource.unavailable (reason : String) : RulesetSource := fun source _ =>
  .error (.unavailable source reason)

structure Engine where
  source : RulesetSource
  catalogues : Table Catalogue
  traced : Bool

namespace Engine

/-- Register the catalogue of a source, in place of an earlier one. -/
def register (e : Engine) (source : String) (k : Catalogue) : Engine :=
  { e with catalogues := e.catalogues.insert source k }

def catalogue? (e : Engine) (source : String) : Option Catalogue :=
  e.catalogues.find? source

/-- The catalogue of a source and the rulesets that a query asks for. A missing catalogue is found
before anything is fetched. -/
def prepare (e : Engine) (source : String) (q : Query) :
    Except Error (Catalogue × List Ruleset) :=
  match e.catalogue? source with
  | none => .error (.catalogueNotFound source)
  | some k => (e.source source q).map fun rs => (k, rs)

/-- The first ruleset of a source that matches, and the resolver calls that it took. -/
def first (e : Engine) (source : String) (q : Query) (context : Context) :
    Except Error (FirstMatch × List Call) :=
  (e.prepare source q).map fun (k, rs) => (Evaluator.mk k context e.traced).first rs

/-- All rulesets of a source that match, and the resolver calls that it took. -/
def all (e : Engine) (source : String) (q : Query) (context : Context) :
    Except Error (List Match × List Call) :=
  (e.prepare source q).map fun (k, rs) => (Evaluator.mk k context e.traced).all rs

/-- The rulesets of a source that have findings, disabled ones included. -/
def lint (e : Engine) (source : String) : Except Error (List (String × List Finding)) :=
  (e.prepare source (Query.mk [] false)).map fun (k, rs) =>
    (rs.map fun r => (r.id, k.lint r)).filter fun (_, findings) => !findings.isEmpty

end Engine
end Criteria
