import SiteConfig.Value
import SiteConfig.Yaml.Node
import SiteConfig.Yaml.Plain

/-!
# Reading YAML

- `read`: the value of a text that holds one document, or `none`.

Aliases stand for copies of what they name. Two limits keep copies from growing without bound: the
depth of collections, and the number of aliases that are followed.
-/

namespace SiteConfig.Yaml

/-- How deep collections may be nested. -/
def depthLimit : Nat := 128

/-- How many aliases may be followed for each part of a document. -/
def aliasLimit : Nat := 100

/-- A number, unless it needs more than 64 bits. -/
def wordValue? (n : Int) : Option Value :=
  if -0x8000000000000000 ≤ n ∧ n ≤ 0xFFFFFFFFFFFFFFFF then some (.int n) else none

/-- The value of a plain scalar. What is not a finite number becomes null. -/
def plainValue? (s : List Char) : Option Value :=
  match Plain.ofText s with
  | .null | .unbounded => some .null
  | .bool b => some (.bool b)
  | .int n => wordValue? n
  | .float x => some (.float x)
  | .text => some (.text (String.ofList s))

/-- Tags of a document's own, which have no meaning here. -/
def isLocal (tag : Option (List Char)) : Bool :=
  tag.any fun t => t.head? = some '!'

/-- The value of a scalar. A tag of the core schema demands a text of its kind. -/
def scalarValue (tag : Option (List Char)) (s : List Char) (isPlain : Bool) : Option Value :=
  match tag.map String.ofList with
  | none => if isPlain then plainValue? s else some (.text (String.ofList s))
  | some "tag:yaml.org,2002:bool" => (bool? s).map .bool
  | some "tag:yaml.org,2002:int" => (int? s).bind wordValue?
  | some "tag:yaml.org,2002:float" =>
    (float? s).map fun
      | .float x => .float x
      | _ => .null
  | some "tag:yaml.org,2002:null" => if isNull s then some .null else none
  | some _ => if isLocal tag then none else some (.text (String.ofList s))

/-- A computation that may follow a number of aliases. -/
abbrev Following := StateT Nat Option

/-- The node that a node stands for: what an alias names, without its anchor. -/
def followed (targets : List (Nat × Node)) : Node → Following Node
  | .alias id => do
    let left ← get
    if left = 0 then failure
    set (left - 1)
    match targets.lookup id with
    | some node => return node
    | none => failure
  | .anchored _ node => return node
  | node => return node

/-- A key of a mapping, which is a scalar. Its text counts, whatever it would stand for. -/
def keyText (targets : List (Nat × Node)) (node : Node) : Following String := do
  match ← followed targets node with
  | .scalar _ text _ => return String.ofList text
  | _ => failure

/-- The value of a node whose collections are nested no deeper than `depth`. -/
def nodeValue (targets : List (Nat × Node)) (depth : Nat) (node : Node) : Following Value := do
  match ← followed targets node with
  | .scalar tag text isPlain => StateT.lift (scalarValue tag text isPlain)
  | .sequence tag items =>
    match depth with
    | 0 => failure
    | depth + 1 =>
      if isLocal tag then failure
      return .list (← items.mapM (nodeValue targets depth))
  | .mapping tag entries =>
    match depth with
    | 0 => failure
    | depth + 1 =>
      if isLocal tag then failure
      let fields ← entries.mapM fun (key, value) => do
        return (← keyText targets key, ← nodeValue targets depth value)
      return .object (Fields.ofAssignments fields)
  | _ => failure

/-- The value of a document. Of an anchor that is set more than once under one number, the last
place counts. -/
def Node.value? (root : Node) : Option Value :=
  (nodeValue root.targets.reverse depthLimit root).run' (aliasLimit * root.size)

/-- The value of a text that holds one document. -/
def read (s : String) : Option Value := do
  let tokens ← Token.ofText? s.toList
  let root ← Node.ofTokens? tokens
  root.value?

end SiteConfig.Yaml
