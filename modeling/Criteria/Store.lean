import Criteria.Error
import Criteria.Query
/-!
# Stores

The rulesets of each source in a fixed order. A ruleset that is loaded under an identifier that its
source already has takes the place of the old one; any other is put behind.
-/
namespace Criteria

/-- Sources keep their rulesets by name. A source may be there without any ruleset. -/
structure Store where
  sources : Table (List Ruleset)

/-- Put a ruleset in the place of the first with its identifier, or behind all others. -/
def placeRuleset : List Ruleset → Ruleset → List Ruleset
  | [], r => [r]
  | s :: rest, r => if s.id = r.id then r :: rest else s :: placeRuleset rest r

/-- The identifier that is empty, of a source or of a ruleset in it. -/
def emptyIdentifier? (source : String) (r : Ruleset) : Option EmptyIdentifier :=
  if source.isEmpty then some .source
  else if r.id.isEmpty then some (.ruleset source)
  else none

structure StoreCounts where
  sources : Nat
  rulesets : Nat
  disabled : Nat
  rules : Nat
deriving DecidableEq, Repr

namespace Store

def empty : Store := ⟨[]⟩

instance : Inhabited Store := ⟨empty⟩

/-- The rulesets of a source; one that is not there has none. -/
def rulesets (st : Store) (source : String) : List Ruleset :=
  (st.sources.find? source).getD []

def load (st : Store) (source : String) (r : Ruleset) : Store :=
  ⟨st.sources.insert source (placeRuleset (st.rulesets source) r)⟩

def loadAll (st : Store) (source : String) (rs : List Ruleset) : Store :=
  rs.foldl (fun st r => st.load source r) st

/-- Load a ruleset from the text of a document, unless an identifier is empty. -/
def loadText (st : Store) (source text : String) : Except Error (Store × Ruleset) :=
  match Ruleset.ofText text with
  | .error f => .error (.document f)
  | .ok r =>
    match emptyIdentifier? source r with
    | some e => .error (.invalid e)
    | none => .ok (st.load source r, r)

def firstEmptyIdentifier? (document : Table (List Ruleset)) : Option EmptyIdentifier :=
  document.findSome? fun (source, rs) => rs.findSome? (emptyIdentifier? source)

def loadDocument (st : Store) (document : Table (List Ruleset)) : Store :=
  document.foldl (fun st (source, rs) => st.loadAll source rs) st

/-- Load the text of a document that maps sources to lists of rulesets, and count the rulesets.
Nothing is loaded if anything is wrong. -/
def loadSources (st : Store) (text : String) : Except Error (Store × Nat) :=
  match Json.decode (.table (.list Ruleset.decoder)) text with
  | .error f => .error (.document f)
  | .ok document =>
    match firstEmptyIdentifier? document with
    | some e => .error (.invalid e)
    | none => .ok (st.loadDocument document, (document.flatMap (·.2)).length)

def replace (st : Store) (source : String) (rs : List Ruleset) : Store :=
  ⟨st.sources.insert source rs⟩

/-- Remove the rulesets with an identifier from a source, which stays. -/
def remove (st : Store) (source id : String) : Except Error Store :=
  let kept := (st.rulesets source).filter fun r => r.id != id
  if kept.length = (st.rulesets source).length then .error (.rulesetNotFound source id)
  else .ok (st.replace source kept)

def get? (st : Store) (source id : String) : Option Ruleset :=
  (st.rulesets source).find? fun r => r.id == id

def fetch (st : Store) (source : String) (q : Query) : List Ruleset :=
  (st.rulesets source).filter q.admits

def sourceNames (st : Store) : List String :=
  st.sources.names

def size (st : Store) : Nat :=
  st.sources.length

def counts (st : Store) : StoreCounts :=
  let rs := st.sources.flatMap (·.2)
  { sources := st.size
    rulesets := rs.length
    disabled := (rs.filter fun r => !r.enabled).length
    rules := (rs.flatMap fun r => r.groups.flatten).length }

end Store
end Criteria
