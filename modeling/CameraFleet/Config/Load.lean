import CameraFleet.Config.Resolve
import CameraFleet.Host.Fault
import CameraFleet.Json.Reader

/-!
# Finding the configuration file

A file named by the environment is taken without looking; else the file of the
working directory, else the file of the home directory. Without any of them the
defaults hold.
-/

namespace CameraFleet
namespace Config

/-- Why a configuration cannot be loaded. -/
inductive LoadError
  /-- The file cannot be read. -/
  | unreadable (fault : Host.Fault)
  /-- The file is not JSON. -/
  | notJson
  /-- The file holds JSON, but no object; the path is written as it was given. -/
  | notObject (path : String)
  deriving Repr, DecidableEq

/-- What a process sees of its surroundings when it loads its configuration. -/
structure Surroundings where
  /-- The working directory. -/
  cwd : String
  /-- The home directory. -/
  home : String
  /-- The path that the environment gives. -/
  named : Option String := none
  /-- The text of the file at a path, if it can be read. -/
  look : String -> Except Host.Fault String

/-- The name of a configuration file. -/
def fileName : String := "camrelay.json"

/-- The file of the working directory. -/
def Surroundings.cwdFile (s : Surroundings) : String :=
  s.cwd ++ "/" ++ fileName

/-- The file of the home directory. -/
def Surroundings.homeFile (s : Surroundings) : String :=
  s.home ++ "/.camrelay/" ++ fileName

/-- Whether anything stands at a path: a file, or a directory, which cannot be read. -/
def Surroundings.holds
    (s : Surroundings)
    (path : String) : Bool :=
  match s.look path with
  | .ok _ | .error .isDirectory => true
  | .error _ => false

/-- The path of the configuration file, if there is one. -/
def locate (s : Surroundings) : Option String :=
  match s.named.filter (!·.isEmpty) with
  | some path => some path
  | none => [s.cwdFile, s.homeFile].find? s.holds

/-- Read the configuration file at a path. -/
def read (s : Surroundings) (path : String) : Except LoadError Config :=
  match s.look path with
  | .error fault => .error (.unreadable fault)
  | .ok text =>
      match Json.parse? text with
      | none => .error .notJson
      | some value =>
          if value.isObject then .ok (resolve value) else .error (.notObject path)

/-- Load the configuration. -/
def load (s : Surroundings) : Except LoadError Config :=
  match locate s with
  | none => .ok (resolve .null)
  | some path => read s path

/-- The wording of an error that has one of its own. -/
def LoadError.message : LoadError -> String
  | .unreadable fault => fault.text
  | .notJson => "not JSON"
  | .notObject path => s!"Invalid camrelay config at {path}: expected a JSON object"

end Config
end CameraFleet
