import SiteConfig.Format
import SiteConfig.Preferences.Variable

/-!
# Preferences

A user can say once and for all which format output has. What counts comes in layers, of which a
later one is merged over the earlier ones: the preset, a file, and the environment.

- `Preferences.path`: where the file is.
- `Preferences.merged`: one layer over another.
- `Preferred`: what is preferred; `Preferences.validated` checks it.
- `Preferences.load`: what the layers prefer, or what is wrong with them.
- `Preferences.format`: the preferred format, JSON if anything is wrong.
-/

namespace SiteConfig.Preferences

/-! ## The file -/

/-- The path of the file: below the directory for configurations, if that is an absolute path, and
else below the home directory. -/
def path (home : String) (configHome : Option String) : String :=
  let directory := (configHome.filter Path.isAbsolute).getD (Path.join home ".config")
  Path.join (Path.join directory "appsvc") "config.toml"

/-! ## Layers -/

mutual

/-- A value with a later one merged over it: objects key by key, all else as a whole. -/
def merged : Value → Value → Value
  | .object old, .object new => .object (mergedFields old new)
  | _, new => new

/-- The fields of one object with those of a later one merged over them. -/
def mergedFields (old : List (String × Value)) : List (String × Value) → List (String × Value)
  | [] => old
  | (key, v) :: rest =>
    let one :=
      match Fields.get? old key with
      | some w => merged w v
      | none => v
    mergedFields (Fields.insert key one old) rest

end

/-- What a user prefers. -/
structure Preferred where
  /-- The name of the format of output. -/
  name : String
  deriving DecidableEq, Repr

/-- The preferences of a user who has none. -/
def Preferred.preset : Preferred := ⟨"json"⟩

/-- The layer below all others. -/
def preset : Value :=
  .object [("defaults", .object [("output", .text Preferred.preset.name)])]

/-- The layer of a variable, if its name is a path. -/
def variableLayer? (name value : String) : Option Value :=
  (Variable.path? name).map fun path => Variable.nested path (Variable.content value)

/-- A layer with that of a variable merged over it, if the variable has one. -/
def withVariable (layer : Value) (entry : String × String) : Value :=
  ((variableLayer? entry.1 entry.2).map (merged layer)).getD layer

/-- The layers of an environment merged, a later variable over an earlier one. -/
def environmentLayer (environment : List (String × String)) : Value :=
  environment.foldl withVariable (.object [])

/-- What can be wrong with the layers. -/
inductive Trouble
  /-- The file is no TOML, or the preferred format is no text. -/
  | illTyped
  /-- The preferred format is not one of the formats. -/
  | unknownFormat (name : String)
  deriving DecidableEq, Repr

/-- The field that the preferred format is in. -/
def outputField : String := "defaults.output"

/-- The names that a format can be preferred by. -/
def formatNames : List String := ["json", "yaml", "toml"]

/-- Why the name of a format is refused. -/
def refusal (name : String) : String :=
  "expected one of " ++ ", ".intercalate formatNames ++ ", got '" ++ name ++ "'"

/-- What a user is told. -/
def Trouble.message : Trouble → String
  | .illTyped => "config loading failed"
  | .unknownFormat name => "invalid " ++ outputField ++ ": " ++ refusal name

/-- The name of the preferred format in merged layers. Instead of the object around it there may be
a list, of which it is the first item; what follows in the list does not count. -/
def outputName (layers : Value) : Except Trouble String :=
  let named : Option Value → Except Trouble String
    | none => .ok Preferred.preset.name
    | some (.text name) => .ok name
    | some _ => .error .illTyped
  match layers with
  | .object fields =>
    match Fields.get? fields "defaults" with
    | none => .ok Preferred.preset.name
    | some (.object defaults) => named (Fields.get? defaults "output")
    | some (.list []) => named none
    | some (.list (v :: _)) => named (some v)
    | some _ => .error .illTyped
  | _ => .error .illTyped

/-- The preferences with a name in any case, which is put in lower case. It is refused as it is
written. -/
def validated (name : String) : Except Trouble Preferred :=
  let lowered := Text.lowered name
  if lowered ∈ formatNames then .ok ⟨lowered⟩ else .error (.unknownFormat name)

/-- The layer of a file, if there is one. -/
def fileLayer (file : Option String) : Except Trouble Value :=
  match file with
  | none => .ok (.object [])
  | some s =>
    match Toml.read s with
    | some v => .ok v
    | none => .error .illTyped

/-- What a file, if there is one, and an environment prefer. -/
def load (file : Option String) (environment : List (String × String)) :
    Except Trouble Preferred := do
  -- Only what the layers amount to is checked: a wrong name in the file may be overridden.
  let layers := merged preset (← fileLayer file)
  validated (← outputName (merged layers (environmentLayer environment)))

/-- What a file and an environment prefer; the preset if they cannot be understood. -/
def loadOrPreset (file : Option String) (environment : List (String × String)) : Preferred :=
  match load file environment with
  | .ok preferred => preferred
  | .error _ => .preset

/-- The preferred format; JSON if its name were not that of a format. -/
def format (file : Option String) (environment : List (String × String)) : Format :=
  (Format.ofNameInAnyCase? (loadOrPreset file environment).name).getD .json

end SiteConfig.Preferences
