import SiteConfig.Json.Reader
import SiteConfig.Json.Writer
import SiteConfig.Path
import SiteConfig.Text.Blank
import SiteConfig.Text.Caseless
import SiteConfig.Toml.Reader
import SiteConfig.Toml.Writer
import SiteConfig.Yaml.Reader
import SiteConfig.Yaml.Writer

/-!
# Document formats

- `Format.ofPath?`: the format of a file, by its extension.
- `Format.read`, `Format.write`: the value of a text, and the text of a value.
- `Format.render`: the text of a value without white space at its end.
-/

namespace SiteConfig

/-- The formats of documents, in files and in output. -/
inductive Format
  | json
  | yaml
  | toml
  deriving DecidableEq, Repr, Inhabited

namespace Format

/-- All formats. -/
def all : List Format := [.json, .yaml, .toml]

/-- The name of a format, in lower case. -/
def name : Format → String
  | .json => "json"
  | .yaml => "yaml"
  | .toml => "toml"

/-- The format of a name. Case counts. -/
def ofName? (s : String) : Option Format :=
  all.find? fun format => format.name == s

/-- The format of a name, whatever its case. -/
def ofNameInAnyCase? (s : String) : Option Format :=
  all.find? fun format => Text.sameUpToCase format.name s

/-- The format of an extension in lower case. -/
def ofExtension? (extension : String) : Option Format :=
  if extension = "yml" then some .yaml else ofName? extension

/-- The path that stands for the standard input, which is always JSON. -/
def standardInput : String := "-"

/-- The format of a file. -/
def ofPath? (path : String) : Option Format :=
  if path = standardInput then some .json else ofExtension? (Path.extension path)

/-- The value that a text holds. -/
def read : Format → String → Option Value
  | .json, s => Json.read s
  | .yaml, s => Yaml.read s
  | .toml, s => Toml.read s

/-- The text of a value. Only TOML cannot hold every value. -/
def write : Format → Value → Option String
  | .json, v => some (Json.pretty v)
  | .yaml, v => some (Yaml.write v)
  | .toml, v => Toml.write v

/-- The text of a value without white space at its end. -/
def render (format : Format) (v : Value) : Option String :=
  (format.write v).map fun s => String.ofList (Text.trimEnd s.toList)

@[simp] theorem ofName?_name (format : Format) : ofName? format.name = some format := by
  cases format <;> rfl

theorem name_of_ofName? {s : String} {format : Format} (h : ofName? s = some format) :
    format.name = s := by
  have := List.find?_some h
  simpa using this

end Format

end SiteConfig
