import SiteConfig.Text.Caseless

/-!
# File paths

- `Path.fileName?`: the last component of a path.
- `Path.extension`: what follows the last dot of the file name.
- `Path.join`: a path below another one.
-/

namespace SiteConfig.Path

/-- The parts of a text between the characters that separate them. -/
def split (separator : Char) : List Char → List (List Char)
  | [] => [[]]
  | c :: rest =>
    if c = separator then [] :: split separator rest
    else
      match split separator rest with
      | [] => [[c]]
      | part :: parts => (c :: part) :: parts

/-- The components of a path that name something; those that stay in place do not. -/
def components (path : String) : List (List Char) :=
  (split '/' path.toList).filter fun part => !part.isEmpty && part ≠ ['.']

/-- The last component of a path, unless it leads upwards. -/
def fileName? (path : String) : Option (List Char) :=
  (components path).getLast?.filter (· ≠ ['.', '.'])

/-- What follows the last dot of a file name that does not only start with one. -/
def extensionOf (name : List Char) : List Char :=
  let tail := (name.reverse.takeWhile (· ≠ '.')).reverse
  if tail.length + 1 < name.length then tail else []

/-- The extension of a path in lower case, empty if there is none. -/
def extension (path : String) : String :=
  match fileName? path with
  | some name => Text.lowered (String.ofList (extensionOf name))
  | none => ""

/-- Whether a path starts at the root. -/
def isAbsolute (path : String) : Bool :=
  path.toList.head? = some '/'

/-- A relative path below another one. -/
def join (base below : String) : String :=
  if base.isEmpty || base.toList.getLast? = some '/' then base ++ below else base ++ "/" ++ below

end SiteConfig.Path
