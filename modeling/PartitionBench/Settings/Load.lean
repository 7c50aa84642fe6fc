import PartitionBench.Document.Json
import PartitionBench.Document.Yaml
import PartitionBench.Failure
import PartitionBench.FileTree
import PartitionBench.Settings

/-!
Contract: settings from a configuration file.

Owns:
- the choice of the document format by the name of the file;
- what a missing file means;
- the configuration failures: unreadable, malformed and unacceptable files.

Does not own: the formats (`Document`) and the shape of settings (`Settings`).
-/

namespace PartitionBench.Settings

open PartitionBench.Document

/-- Where settings are looked for when no file is named. -/
def standardPath : String := ".partsubmit.yaml"

/-- The value of a configuration document. A file whose name ends in `.json` holds
JSON, any other YAML. -/
def document? (path text : String) : Option Value :=
  if path.endsWith ".json" then Json.read? text else Yaml.read? text

/-- The settings in the document of a configuration file, if it was well formed. An
empty document sets nothing. -/
def ofDocument (path : String) (document : Option Value) : Except Failure Settings :=
  match document with
  | none => .error (.malformed path)
  | some document =>
      let value :=
        match document with
        | .null => .record []
        | value => value
      match (check value).accepted with
      | .ok settings => .ok settings
      | .error issues =>
          .error (.configuration
            ("Invalid config file " ++ path ++ ": " ++ Issue.summary issues))

/-- The settings in a configuration file, given what reading it came to. A missing
file may be allowed, and then counts as an empty one. -/
def ofReading (path : String) (allowMissing : Bool) (parse : String → Option Value)
    (reading : Except Fault String) : Except Failure Settings :=
  match reading with
  | .ok text => ofDocument path (parse text)
  | .error fault =>
      if allowMissing ∧ fault.kind = .notFound then .ok standard
      else .error (.configuration ("Cannot read config file " ++ path ++ ": " ++ fault.text))

def load (files : FileTree) (path : String) (allowMissing : Bool) : Except Failure Settings :=
  ofReading path allowMissing (document? path) (files.read path)

end PartitionBench.Settings
