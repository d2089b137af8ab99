import HealthWatch.Config.Decoding
import HealthWatch.Config.Validation
import HealthWatch.Json.Document
import HealthWatch.Yaml.Reader

/-!
# Loading a configuration

A configuration is a text in YAML or in JSON; the name of its file tells which.
Loading goes through three gates, each with an error of its own: the file must
be there and hold text, the text must be a configuration, and the configuration
must satisfy its rules.  What passes is the configuration exactly as it was
read.
-/

namespace HealthWatch

/-- The languages of configurations. -/
inductive Language where
  | yaml
  | json
deriving DecidableEq

/-- The name of a language. -/
def Language.name : Language → String
  | .yaml => "YAML"
  | .json => "JSON"

/-- Reads a text as a document. -/
def Language.readDocument : Language → String → Option Document
  | .yaml => Yaml.readDocument
  | .json => Json.readDocument

/-- The last part of the path of a file. -/
def fileName (path : String) : String :=
  (((path.splitOn "/").filter fun part => part != "" && part != ".").getLast?).getD ""

/-- What stands behind the last point of the name of a file, unless the name
begins with that point. -/
def extension? (name : String) : Option String :=
  match (name.splitOn ".").reverse with
  | last :: first :: rest => if first.isEmpty && rest.isEmpty then none else some last
  | _ => none

/-- The language of a file, by its name. -/
def Language.ofPath (path : String) : Language :=
  match extension? (fileName path) with
  | some "yaml" | some "yml" => .yaml
  | _ => .json

/-- Why there is no configuration. -/
inductive ConfigError where
  /-- The file is not there or holds no text. -/
  | unreadable (path : String)
  /-- The text is no configuration. -/
  | unparsable (language : Language)
  /-- The configuration breaks a rule. -/
  | invalid (violation : Violation)
deriving DecidableEq

/-- What is told of an error, without the details. -/
def ConfigError.headline : ConfigError → String
  | .unreadable path => s!"Failed to read config file {path}"
  | .unparsable language => s!"Failed to parse {language.name} config"
  | .invalid violation => violation.headline

/-- What is told of an error. -/
def ConfigError.message : ConfigError → String
  | .invalid violation => violation.message
  | e => e.headline

/-- The configuration of a text. -/
def Config.parse (language : Language) (text : String) : Except ConfigError Config :=
  match (language.readDocument text).bind Config.ofDocument? with
  | none => .error (.unparsable language)
  | some config =>
    match config.violation? with
    | some violation => .error (.invalid violation)
    | none => .ok config

/-- The configuration of a file, of which `bytes` is what it holds, if it is
there. -/
def Config.load (path : String) (bytes : Option ByteArray) : Except ConfigError Config :=
  match bytes.bind String.fromUTF8? with
  | none => .error (.unreadable path)
  | some text => Config.parse (Language.ofPath path) text

end HealthWatch
