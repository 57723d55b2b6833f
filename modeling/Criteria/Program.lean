import Criteria.CommandLine
import Criteria.Engine
import Criteria.Settings
/-!
# The program

A run of the command line as a series of requests to its surroundings, which hold the files and the
standard input, and a report at its end.
-/
namespace Criteria

/-- How a run ends: the exit code, the standard output, and the message on the error output. -/
structure Report where
  exitCode : Nat
  output : String
  error : Option String
deriving DecidableEq, Repr, Inhabited

/-- What a run does next: it asks for the text of a file or for the standard input, or it ends. -/
inductive Action
  | readFile (path : String) (next : Option String → Action)
  | readInput (next : String → Action)
  | done (r : Report)

namespace Action

def report (files : String → Option String) (input : String) : Action → Report
  | readFile path next => report files input (next (files path))
  | readInput next => report files input (next input)
  | done r => r

def readFiles : List String → (List (Option String) → Action) → Action
  | [], next => next []
  | path :: paths, next => readFile path fun text => readFiles paths fun texts => next (text :: texts)

def fail (message : String) : Action :=
  done ⟨1, "", some s!"Error: {message}"⟩

/-- End with an output, which is a document of its own lines. -/
def succeed (v : Value) : Action :=
  done ⟨0, v.indentedText ++ "\n", none⟩

end Action

namespace Program

def helpText : String :=
  "Usage: rule-engine [OPTIONS] <COMMAND>\n\nCommands:\n  evaluate\n  lint\n  help\n"

def stopped : CommandLine.Stop → Report
  | .refused e => ⟨2, "", e.message?.map fun m => s!"error: {m}"⟩
  | .help => ⟨0, helpText, none⟩
  | .version level => ⟨0, s!"{level.programName} 0.1.0\n", none⟩

def configurationDirectory (environment : Table String) : String :=
  (environment.find? "CONFIG_DIR").getD "config"

def pathIn (directory name : String) : String :=
  if directory.isEmpty || directory.toList.getLast? == some '/' then directory ++ name
  else directory ++ "/" ++ name

/-- Go on with the settings; without usable ones, with those that hold by default. -/
def withSettings (environment : Table String) (next : Settings → Action) : Action :=
  let service := "rule-engine"
  let paths := (Settings.fileNames service environment).map
    (pathIn (configurationDirectory environment))
  Action.readFiles paths fun texts =>
    next ((Settings.ofTexts? service environment texts).getD {})

/-- Go on with the catalogue and the store in two files. -/
def withData (settings : Settings) (i : Invocation) (next : Catalogue → Store → Action) : Action :=
  match i.catalogue.or settings.engine.cataloguePath with
  | none => .fail "未指定条件目录文件（--catalogue 或 engine.catalogue_path）"
  | some cataloguePath =>
    match i.rulesets.or settings.engine.rulesetsPath with
    | none => .fail "未指定规则集文件（--rulesets 或 engine.rulesets_path）"
    | some rulesetsPath =>
      .readFile cataloguePath fun text =>
        match text.map Catalogue.ofText with
        | some (.ok k) =>
          .readFile rulesetsPath fun text =>
            match text.map Store.empty.loadSources with
            | some (.ok (st, _)) => next k st
            | _ => .fail s!"加载规则集失败: {rulesetsPath}"
        | _ => .fail s!"加载条件目录失败: {cataloguePath}"

def withContextOf (text : String) (next : Context → Action) : Action :=
  match Context.ofText text with
  | .ok context => next context
  | .error _ => .fail "参数上下文必须是 JSON 对象"

/-- Go on with the context in a file, or on the standard input when there is no path or a hyphen. -/
def withContext (path : Option String) (next : Context → Action) : Action :=
  match path with
  | none | some "-" => .readInput fun text => withContextOf text next
  | some path =>
    .readFile path fun text =>
      match text with
      | some text => withContextOf text next
      | none => .fail s!"读取参数上下文失败: {path}"

def engineFor (source : String) (k : Catalogue) (st : Store) (traced : Bool) : Engine :=
  (Engine.mk st.source [] traced).register source k

/-- Write the first match of a source, or all. -/
def evaluate (e : Engine) (source : String) (all : Bool) (context : Context) : Action :=
  if all then
    match e.all source {} context with
    | .ok (ms, _) => .succeed (.list (ms.map Match.document))
    | .error error => .fail error.message
  else
    match e.first source {} context with
    | .ok (m, _) => .succeed m.document
    | .error error => .fail error.message

/-- The findings of a source by ruleset; of two rulesets with one identifier the later counts. -/
def lintTable (report : List (String × List Finding)) : Table (List Finding) :=
  Table.overlay [] report

def findingsDocument (t : Table (List Finding)) : Value :=
  .object (t.map fun (id, findings) => (id, .list (findings.map Finding.document)))

def lint (e : Engine) (source : String) : Action :=
  match e.lint source with
  | .error error => .fail error.message
  | .ok report =>
    let table := lintTable report
    let output := (findingsDocument table).indentedText ++ "\n"
    if table.isEmpty then .done ⟨0, output, none⟩
    else .done ⟨1, output, some s!"Error: {table.length} 个规则集存在问题"⟩

def runCommand (settings : Settings) (i : Invocation) (k : Catalogue) (st : Store) : Action :=
  match i.command with
  | .evaluate path all trace =>
    withContext path fun context =>
      evaluate (engineFor i.source k st (trace || settings.engine.traced)) i.source all context
  | .lint => lint (engineFor i.source k st false) i.source

/-- Run the program with the words of its command line and the variables of its environment. -/
def run (words : List String) (environment : Table String) : Action :=
  match CommandLine.parse words with
  | .error stop => .done (stopped stop)
  | .ok i => withSettings environment fun settings => withData settings i (runCommand settings i)

end Program
end Criteria
