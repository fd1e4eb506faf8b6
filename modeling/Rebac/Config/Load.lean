import Rebac.Config.Reading
import Rebac.Config.Settings
import Rebac.Config.Variables
import Rebac.Toml.Document

namespace Rebac.Config

/-!
# Loading settings

Settings come from a file, if it is there, and from variables, which have priority; what neither
gives has its default.

* `load` reads the settings from a given file and the variables.
* `startup` also takes in the file of variables `.env`, and looks up which file to read.
-/

/-- Why settings cannot be loaded: the file is not TOML, or a setting is not what it should be. -/
inductive LoadError where
  | notToml
  | mistake (m : Mistake)

/-- The wording of the error; that of a file that is not TOML is left to the reader of the file. -/
def LoadError.reason? : LoadError → Option String
  | notToml => none
  | mistake m => some m.message

/-- A path without parts that do not change it. An absolute path stays one. -/
def plainPath (path : String) : String :=
  let parts := (path.toList.splitOn '/').filter fun part => !part.isEmpty && part ≠ ['.']
  (if path.startsWith "/" then "/" else "") ++ "/".intercalate (parts.map String.ofList)

/-- What a file says, nothing if it is not there. -/
def fileTree (path : String) : Option String → Except LoadError Tree
  | none => .ok (.table .environment [])
  | some text =>
    match Toml.entriesOfText? text with
    | some entries =>
      let source : Source := .file (plainPath path)
      .ok (.table source (Tree.ofEntries source [] entries))
    | none => .error .notToml

/-- The settings of a file and of variables. `text` is what the file holds, if it is there. -/
def load (path : String) (text : Option String) (vs : List Variable) :
    Except LoadError Config := do
  let file ← fileTree path text
  (readSettings Config (file.merge (Tree.ofVariables vs))).mapError .mistake

/-- The path of the file that is read if no variable names another. -/
def defaultPath : String := "config/server.toml"

/-- The name of the file of variables. -/
def variableFileName : String := ".env"

/-- The variables of the process together with those of the file of variables. -/
def withFileVariables (files : String → Option String) (environment : List Variable) :
    List Variable :=
  match files variableFileName with
  | some text => withVariableFile environment text
  | none => environment

/-- The path of the file that is read. -/
def pathOf (vs : List Variable) : String :=
  (valueOf? pathVariable vs).getD defaultPath

/-- The settings of the process. `files` tells what a file holds, if it is there. -/
def startup (files : String → Option String) (environment : List Variable) :
    Except LoadError Config :=
  let vs := withFileVariables files environment
  load (pathOf vs) (files (plainPath (pathOf vs))) vs

end Rebac.Config
