import RouteAudit.Config.Load
import RouteAudit.Data.Json.Read
import RouteAudit.Data.Yaml.Read
import RouteAudit.Files.Tree
import RouteAudit.Text.Utf8

/-! # Configuration files

`Settings.ofFile` loads a file as YAML or JSON, by the ending of its path, and `findConfig?` looks
for a file with one of the known names in a directory and in those above it. -/

namespace RouteAudit

/-- The names of configuration files, in the order in which they are looked for. -/
def configNames : List String :=
  [".apiposture.yaml", ".apiposture.yml", "apiposture.yaml", "apiposture.yml"]

/-- The paths of a directory and of those above it, the nearest first. -/
def Path.ancestors (p : Path) : List Path :=
  (List.range (p.parts.length + 1)).map fun n =>
    { p with parts := p.parts.take (p.parts.length - n) }

/-- The nearest configuration file to a starting point. -/
def FileSystem.findConfig? (fs : FileSystem) (start : String) : Option String :=
  let here := fs.resolve start
  let first := if fs.isFile here then here.parent else here
  let candidates := first.ancestors.flatMap fun d => configNames.map d.child
  (candidates.find? fs.isFile).map Path.text

/-- Text with every line ending written as a newline. -/
def unifyLines : List Char → List Char
  | [] => []
  | '\r' :: '\n' :: rest => '\n' :: unifyLines rest
  | '\r' :: rest => '\n' :: unifyLines rest
  | c :: rest => c :: unifyLines rest

namespace Settings

/-- The path is that of a YAML file; all others are JSON. -/
def isYaml (path : String) : Bool := Text.endsWith path ".yaml" || Text.endsWith path ".yml"

/-- The value that the text of a configuration file denotes. -/
def readValue (path text : String) : Except ConfigError Value :=
  if isYaml path then
    match Yaml.read text with
    | .ok v => .ok v
    | .error .malformed => .error (.malformed path "not a YAML document")
    | .error (.calendar e) => .error (.badDate e)
  else match Json.read? text with
    | some v => .ok v
    | none => .error (.malformed path "not a JSON document")

/-- Settings from the text of a configuration file. A text that denotes nothing asks for nothing. -/
def ofText (path text : String) : Except ConfigError Settings := do
  let v ← readValue path text
  ofValue (if v.isSet then v else .map [])

/-- Settings from a configuration file. -/
def ofFile (fs : FileSystem) (path : String) : Except ConfigError Settings :=
  match fs.read path with
  | .ok bytes =>
    ofText path (String.ofList (unifyLines (Text.decodeUtf8 bytes).toList))
  | .error e => .error (.unreadable path (e.message path))

end Settings

end RouteAudit
