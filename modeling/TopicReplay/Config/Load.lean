import TopicReplay.Config.Reading
import TopicReplay.Config.Variables
import TopicReplay.Yaml.Reader

/-!
# Loading a configuration

A configuration is put together from three layers: the defaults, a file if one is
named, and environment variables. A layer says something about the settings that it
names and nothing about all others. Only the whole is checked, so that a setting
that one layer gets wrong may be put right by the next.
-/

namespace TopicReplay.Config

/-- Environment variables with their values. -/
abbrev Environment := List (String × String)

/-- What a path of the file system leads to. -/
inductive Entry where
  | absent
  | directory
  /-- A file with its text, unless that cannot be read. -/
  | file (text : Option String)
  deriving DecidableEq, Repr

/-- The home directory of the user. -/
def home (environment : Environment) : Option String := environment.lookup "HOME"

/-- The layer of a file. A directory says nothing. -/
def fileLayer (path : String) : Entry → Except Error Json
  | .absent => .error (.unreadable ("configuration file " ++ path ++ " does not exist"))
  | .directory => .ok (.object [])
  | .file text =>
      match text.bind Yaml.read? with
      | some (.object members) => .ok (.object members)
      | _ => .error (.unreadable ("configuration file " ++ path ++ " holds no settings"))

/-- The layer of a file that need not be named. -/
def optionalLayer : Option (String × Entry) → Except Error Json
  | some (path, entry) => fileLayer path entry
  | none => .ok (.object [])

/-- The defaults with the layer of a file and the layer of variables over them. -/
def layered (environment : Environment) (file : Json) : Json :=
  ((initial (home environment)).toJson.overlay file).overlay (Variables.layer environment)

/-- Loads a configuration from a file, if there is one, and from variables. -/
def load (environment : Environment) (file : Option (String × Entry)) : Except Error Config := do
  let file ← optionalLayer file
  match Reading.config? ⟨true⟩ (home environment) (layered environment file) with
  | none => .error (.unreadable "a setting has a value of the wrong kind")
  | some config =>
      config.validate
      return config

end TopicReplay.Config
