import SiteConfig.Value
import SiteConfig.Text.Digits

/-!
# Edits at a place in a document

A place is named by a pointer: segments, each behind a `/`, in which `~1` stands for `/` and `~0`
for `~`. The last segment is the key to set or remove; the others lead to the object or list that
holds it.

- `Value.edit?`: sets or removes what a pointer names.
-/

namespace SiteConfig.Pointer

/-- The segments of a text between its slashes. -/
def segments (s : List Char) : List (List Char) :=
  match s with
  | [] => [[]]
  | c :: rest =>
    if c = '/' then [] :: segments rest
    else
      match segments rest with
      | [] => [[c]]
      | seg :: more => (c :: seg) :: more

/-- A segment with its escapes resolved: first `~1`, then `~0`. -/
def unescape : List Char → List Char
  | '~' :: '1' :: rest => '/' :: unescape rest
  | '~' :: '0' :: rest => '~' :: unescape rest
  | c :: rest => c :: unescape rest
  | [] => []

/-- The keys of a pointer; a pointer is empty or starts with a slash. -/
def parse? (s : String) : Option (List String) :=
  match s.toList with
  | [] => some []
  | '/' :: rest => some ((segments rest).map fun seg => String.ofList (unescape seg))
  | _ => none

/-- A list index: decimal digits without a superfluous leading zero and without a sign. -/
def index? (s : String) : Option Nat :=
  match s.toList with
  | '0' :: _ :: _ => none
  | digits => Text.natural? digits

end SiteConfig.Pointer

namespace SiteConfig.Value

/-- Sets (`some v`) or removes (`none`) a key of an object, or an index of a list. The index `-`
appends; an index that is not there and a scalar parent are refused. -/
def editChild? (key : String) (v : Option Value) : Value → Option Value
  | .object fields =>
    match v with
    | some v => some (.object (Fields.insert key v fields))
    | none => some (.object (Fields.erase fields key))
  | .list items =>
    match v with
    | some v =>
      if key = "-" then some (.list (items ++ [v]))
      else
        match Pointer.index? key with
        | some i => if i < items.length then some (.list (items.set i v)) else none
        | none => none
    | none =>
      match Pointer.index? key with
      | some i => if i < items.length then some (.list (items.eraseIdx i)) else none
      | none => none
  | _ => none

/-- Applies an edit to the value at the end of a path of keys. -/
def editAt? (edit : Value → Option Value) : List String → Value → Option Value
  | [], v => edit v
  | key :: path, .object fields =>
    match Fields.get? fields key with
    | some child => (editAt? edit path child).map fun c => .object (Fields.insert key c fields)
    | none => none
  | key :: path, .list items =>
    match Pointer.index? key with
    | some i =>
      match items[i]? with
      | some child => (editAt? edit path child).map fun c => .list (items.set i c)
      | none => none
    | none => none
  | _ :: _, _ => none

/-- Sets or removes what a pointer names: its last segment in the value that the others lead to. -/
def edit? (pointer : String) (v : Option Value) (document : Value) : Option Value :=
  match (Pointer.parse? pointer).map List.reverse with
  | some (key :: path) => editAt? (editChild? key v) path.reverse document
  | _ => none

end SiteConfig.Value
