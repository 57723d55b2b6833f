import Criteria.Toml.Reader
/-!
# Settings

What the program is configured with. Defaults, three configuration files and the environment are
laid over one another in this order.
-/
namespace Criteria

structure EngineSettings where
  traced : Bool := false
  cataloguePath : Option String := none
  rulesetsPath : Option String := none
  lintOnLoad : Bool := false
deriving DecidableEq, Repr, Inhabited

structure LogSettings where
  level : String := "info"
  format : String := "pretty"
deriving DecidableEq, Repr, Inhabited

namespace LogSettings

def isJson (s : LogSettings) : Bool :=
  s.format.toList.map Char.toLower == "json".toList

end LogSettings

structure Settings where
  service : String := ""
  environment : String := ""
  engine : EngineSettings := {}
  log : LogSettings := {}
deriving DecidableEq, Repr, Inhabited

namespace Settings

def isProduction (s : Settings) : Bool :=
  s.environment == "production"

/-! ### From settings as data -/

def fieldOr {α : Type} (default : α) (read : Setting → Option α) : Option Setting → Option α
  | none => some default
  | some s => read s

def optionalText? : Setting → Option (Option String)
  | .absent => some none
  | s => s.asText?.map some

/-- The fields of a group: by their names in a table, or in order in a list. -/
def fields? (names : List String) : Setting → Option (List (Option Setting))
  | .table es => some (names.map (Table.find? es))
  | .list xs => some ((List.range names.length).map (xs[·]?))
  | _ => none

def engine? (s : Setting) : Option EngineSettings := do
  match ← fields? ["trace_enabled", "catalogue_path", "rulesets_path", "lint_on_load"] s with
  | [traced, catalogue, rulesets, lint] =>
    return {
      traced := ← fieldOr false Setting.asFlag? traced
      cataloguePath := ← fieldOr none optionalText? catalogue
      rulesetsPath := ← fieldOr none optionalText? rulesets
      lintOnLoad := ← fieldOr false Setting.asFlag? lint }
  | _ => none

def log? (s : Setting) : Option LogSettings := do
  match ← fields? ["log_level", "log_format"] s with
  | [level, format] =>
    return {
      level := ← fieldOr "info" Setting.asText? level
      format := ← fieldOr "pretty" Setting.asText? format }
  | _ => none

/-- All settings; entries of other names do not matter. -/
def ofSetting? (s : Setting) : Option Settings := do
  return {
    service := ← (s.entry "service_name").asText?
    environment := ← (s.entry "environment").asText?
    engine := ← fieldOr {} engine? (s.entries.find? "engine")
    log := ← fieldOr {} log? (s.entries.find? "observability") }

/-! ### Layers -/

/-- The mark of the environment variables that count, in lower case. -/
def variableMark : String := "rules_"

/-- Two underscores separate the levels of a variable name. -/
def levels : List Char → List Char
  | '_' :: '_' :: rest => '.' :: levels rest
  | c :: rest => c :: levels rest
  | [] => []

/-- The key of an environment variable, when its name bears the mark in any case. -/
def keyOf? (name : String) : Option String :=
  let cs := name.toList.map Char.toLower
  if variableMark.toList.isPrefixOf cs then
    some (String.ofList (levels (cs.drop variableMark.length)))
  else none

def ofVariables (environment : Table String) : Table Setting :=
  (environment.filterMap fun (name, s) =>
    (keyOf? name).map fun key => (key, Setting.ofBareText s)).foldl
      (fun t (key, v) => t.insert key v) []

def environmentName (environment : Table String) : String :=
  (environment.find? "RULES_ENV").getD "development"

/-- The configuration files of a service, earlier layers first; a name without a stem is none. -/
def fileNames (service : String) (environment : Table String) : List String :=
  (["default", environmentName environment, service].filter fun stem => !stem.isEmpty).map
    (· ++ ".toml")

/-- Lay the sources over the defaults. -/
def ofSources? (service : String) (environment : Table String) (files : List (Table Setting)) :
    Option Settings :=
  let defaults := Setting.table
    [("environment", .text (environmentName environment)), ("service_name", .text service)]
  ofSetting? ((files ++ [ofVariables environment]).foldl Setting.withSource defaults)

/-- Load the settings of a service from the texts of its configuration files, of which any may be
missing. -/
def ofTexts? (service : String) (environment : Table String) (texts : List (Option String)) :
    Option Settings := do
  let files ← texts.reduceOption.mapM Toml.read?
  ofSources? service environment files

end Settings
end Criteria
