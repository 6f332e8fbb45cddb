import SiteConfig.Value

/-!
# What can be wrong with a configuration

A fault is a cause at the root, wrapped in the places that it was attributed to on the way out.

- `Fault.within`: attributes a fault to a field.
- `Fault.root`, `Fault.path?`: the cause, and the dotted path of all places and the cause's own.
- `Fault.message`: the wording.
-/

namespace SiteConfig

/-- The types that a field can be declared with. -/
inductive Kind
  | bool
  | string
  | strings
  | blocks
  deriving DecidableEq, Repr, Inhabited

/-- The name of a type in the schema. -/
def Kind.name : Kind → String
  | .bool => "bool"
  | .string => "string"
  | .strings => "list(string)"
  | .blocks => "list(block)"

/-- Why the value of a field is refused. -/
inductive Reason
  /-- The value of the configuration is neither a block nor a list of blocks. -/
  | notBlocks (found : Shape)
  /-- More blocks than a site can carry. -/
  | tooMany (limit count : Nat)
  /-- An element of a list of blocks is no block. -/
  | notBlock (found : Shape)
  /-- A key that no field declares. -/
  | unsupported
  /-- A required field is absent or `null`. -/
  | missing
  /-- The value has another type than the field. -/
  | mismatch (expected : Kind) (found : Shape)
  /-- The text is not in the field's closed set of values. -/
  | notAllowed (allowed : List String) (found : String)
  /-- The text names no value of a service enumeration. -/
  | unrecognised (found : String)
  /-- A reason given in words. -/
  | stated (text : String)
  deriving DecidableEq, Repr, Inhabited

/-- The wording of a reason. -/
def Reason.message : Reason → String
  | .notBlocks found => s!"expected a list of blocks, got {found.name}"
  | .tooMany limit count => s!"at most {limit} block may be given, got {count}"
  | .notBlock found => s!"expected a block, got {found.name}"
  | .unsupported => "unsupported argument"
  | .missing => "required field is missing"
  | .mismatch expected found => s!"expected {expected.name}, got {found.name}"
  | .notAllowed allowed found =>
    "expected one of [" ++ ", ".intercalate allowed ++ "], got '" ++ found ++ "'"
  | .unrecognised found => "unrecognised value '" ++ found ++ "'"
  | .stated text => text

/-- A fault in a configuration. -/
inductive Fault
  /-- A text that is no IPv4 address and no CIDR block. -/
  | network (literal : String)
  /-- A mask whose ones do not all come first. -/
  | mask (text : String)
  /-- A field whose value is refused. -/
  | field (path : String) (reason : Reason)
  /-- A fault attributed to a place. -/
  | within (path : String) (fault : Fault)
  deriving DecidableEq, Repr, Inhabited

namespace Fault

/-- The cause, without the places around it. -/
def root : Fault → Fault
  | .within _ fault => fault.root
  | fault => fault

/-- The dotted path of the field that a fault is attributed to, outermost segment first. -/
def path? : Fault → Option String
  | .within path fault =>
    match fault.path? with
    | some inner => some (path ++ "." ++ inner)
    | none => some path
  | .field path _ => some path
  | .network _ => none
  | .mask _ => none

/-- The wording of a fault. -/
def message : Fault → String
  | .network literal => "'" ++ literal ++ "' is not a valid IPv4 address or CIDR block"
  | .mask text => "'" ++ text ++ "' is not a contiguous subnet mask"
  | .field path reason => "Invalid value for " ++ path ++ ": " ++ reason.message
  | .within path fault => "Invalid value for " ++ path ++ ": " ++ fault.message

@[simp] theorem root_within (path : String) (fault : Fault) :
    (within path fault).root = fault.root := rfl

theorem path?_within (path : String) (fault : Fault) :
    (within path fault).path? = some (match fault.path? with
      | some inner => path ++ "." ++ inner
      | none => path) := by
  rw [Fault.path?]
  cases fault.path? <;> rfl

theorem message_within (path : String) (fault : Fault) :
    (within path fault).message = "Invalid value for " ++ path ++ ": " ++ fault.message := rfl

end Fault

end SiteConfig
