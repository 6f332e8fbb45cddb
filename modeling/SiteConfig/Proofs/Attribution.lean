import Mathlib.Data.List.Induction
import SiteConfig.CommandLine.Failure

/-!
# Faults with places around them

A fault leaves the function that found it as a bare cause, and each caller on its way out attributes
it to a place. Whatever the number of callers, the cause stays what it was, the places make up one
path from the outermost to the innermost, and the cause alone decides what the user is told.

- `Cause`: a fault without places; `Fault.exists_eq_wrapped`: every fault is one of them with places
  around it.
- `Fault.wrapped places fault`: the fault attributed to places one after the other.
- `Fault.root_wrapped`, `Fault.path?_wrapped`, `Fault.message_wrapped`: what the three readers of a
  fault find in it.
- `Cause.attribution`: the main statement, for all causes and all places.
-/

namespace SiteConfig

/-- What is wrong, without a place around it. -/
inductive Cause
  | network (literal : String)
  | mask (text : String)
  | field (path : String) (reason : Reason)

namespace Cause

/-- The fault that is found. -/
def fault : Cause → Fault
  | .network literal => .network literal
  | .mask text => .mask text
  | .field path reason => .field path reason

/-- The field that a cause names of its own. -/
def own? : Cause → Option String
  | .network _ => none
  | .mask _ => none
  | .field path _ => some path

/-- The failure of a command for this cause at a place. -/
def failureAt (place : String) : Cause → CommandLine.Failure
  | .network literal => .network literal place
  | .mask text => .mask text place
  | .field _ reason => .refused place reason.message

/-- The exit code for a cause: a malformed network is a fault of the data, a refused value one of the
request. -/
def exitCode : Cause → Nat
  | .network _ => 65
  | .mask _ => 65
  | .field _ _ => 2

theorem root_fault (cause : Cause) : cause.fault.root = cause.fault := by
  cases cause <;> rfl

theorem own?_eq_none_iff {cause : Cause} :
    cause.own? = none ↔ (∃ literal, cause = .network literal) ∨ ∃ text, cause = .mask text := by
  cases cause <;> simp [own?]

end Cause

namespace Fault

/-- A fault attributed to places one after the other, the first of them innermost. -/
def wrapped (places : List String) (fault : Fault) : Fault :=
  places.foldl (fun inner place => within place inner) fault

/-- Segments joined by dots; none make no path. -/
def dotted? (segments : List String) : Option String :=
  if segments = [] then none else some (".".intercalate segments)

/-- What the wording of a fault starts with at each of its places. -/
def opening (place : String) : String :=
  "Invalid value for " ++ place ++ ": "

variable (places : List String) (fault : Fault)

/-- The last place is the outermost. -/
theorem wrapped_concat (place : String) :
    wrapped (places ++ [place]) fault = within place (wrapped places fault) := by
  rw [wrapped, List.foldl_append]
  rfl

/-- Every fault is a cause with places around it. -/
theorem exists_eq_wrapped : ∃ (cause : Cause) (places : List String),
    fault = wrapped places cause.fault := by
  induction fault with
  | network literal => exact ⟨.network literal, [], rfl⟩
  | mask text => exact ⟨.mask text, [], rfl⟩
  | field path reason => exact ⟨.field path reason, [], rfl⟩
  | within place inner ih =>
    obtain ⟨cause, places, rfl⟩ := ih
    exact ⟨cause, places ++ [place], (wrapped_concat ..).symm⟩

theorem root_wrapped : (wrapped places fault).root = fault.root := by
  induction places using List.reverseRecOn with
  | nil => rfl
  | append_singleton rest place ih => rw [wrapped_concat, root_within, ih]

/-- A place comes in front of the path that there is. -/
theorem path?_within_of_dotted? (place : String) {fault : Fault} {segments : List String}
    (h : fault.path? = dotted? segments) :
    (within place fault).path? = dotted? (place :: segments) := by
  rw [path?_within, h, dotted?, dotted?, if_neg (List.cons_ne_nil place segments)]
  by_cases hnil : segments = []
  · rw [if_pos hnil, hnil, String.intercalate_singleton]
  · rw [if_neg hnil, String.intercalate_cons_of_ne_nil hnil]

/-- **The path of a fault is its places, the outermost first**, and behind them the path that the
fault had before. -/
theorem path?_wrapped {segments : List String} (h : fault.path? = dotted? segments) :
    (wrapped places fault).path? = dotted? (places.reverse ++ segments) := by
  induction places using List.reverseRecOn with
  | nil => exact h
  | append_singleton rest place ih =>
    rw [wrapped_concat, List.reverse_concat, List.cons_append]
    exact path?_within_of_dotted? place ih

/-- The wording of a fault has one opening for each place, the outermost first. -/
theorem message_wrapped : (wrapped places fault).message
    = String.join (places.reverse.map opening) ++ fault.message := by
  induction places using List.reverseRecOn with
  | nil => exact String.empty_append.symm
  | append_singleton rest place ih =>
    rw [wrapped_concat, message_within, ih, List.reverse_concat, List.map_cons, String.join_cons,
      ← String.append_assoc]
    rfl

theorem dotted?_eq_none_iff {segments : List String} : dotted? segments = none ↔ segments = [] := by
  simp [dotted?]

end Fault

namespace Cause

theorem path?_fault_eq_dotted? (cause : Cause) :
    cause.fault.path? = Fault.dotted? cause.own?.toList := by
  cases cause with
  | network | mask => rfl
  | field path reason => exact congrArg some String.intercalate_singleton.symm

/-- The failure that a fault gives depends on its cause and on its path alone. -/
theorem ofFault_eq {cause : Cause} {fault : Fault} (h : fault.root = cause.fault) :
    CommandLine.Failure.ofFault fault = cause.failureAt (fault.path?.getD "input") := by
  unfold CommandLine.Failure.ofFault
  rw [h]
  cases cause <;> rfl

theorem exitCode_failureAt (cause : Cause) (place : String) :
    (cause.failureAt place).exitCode = cause.exitCode := by
  cases cause <;> rfl

/-- The fault is the cause with the places around it, and this is all that its readers and the
command find in it. -/
structure AttributedTo (cause : Cause) (places : List String) (fault : Fault) : Prop where
  root : fault.root = cause.fault
  root_ne_within : ∀ place inner, fault.root ≠ .within place inner
  /-- The places, the outermost first, and at the end the field that the cause names itself. -/
  path? : fault.path? = Fault.dotted? (places.reverse ++ cause.own?.toList)
  path?_eq_none_iff : fault.path? = none ↔ places = [] ∧
    ((∃ literal, cause = .network literal) ∨ ∃ text, cause = .mask text)
  message : fault.message = String.join (places.reverse.map Fault.opening) ++ cause.fault.message
  failure : CommandLine.Failure.ofFault fault = cause.failureAt (fault.path?.getD "input")
  exitCode : (CommandLine.Failure.ofFault fault).exitCode = cause.exitCode

/-- **Attribution composes**: a cause keeps its identity under any number of places, which make up
its path and the openings of its wording, and the user is told what the cause says, at that path. -/
theorem attribution (cause : Cause) (places : List String) :
    cause.AttributedTo places (Fault.wrapped places cause.fault) := by
  have hroot : (Fault.wrapped places cause.fault).root = cause.fault := by
    rw [Fault.root_wrapped, root_fault]
  have hpath := Fault.path?_wrapped places cause.fault cause.path?_fault_eq_dotted?
  have hfailure := ofFault_eq hroot
  constructor
  case root => exact hroot
  case root_ne_within =>
    intro place inner
    rw [hroot]
    cases cause <;> exact Fault.noConfusion
  case path? => exact hpath
  case path?_eq_none_iff =>
    rw [hpath, Fault.dotted?_eq_none_iff, List.append_eq_nil_iff, List.reverse_eq_nil_iff,
      Option.toList_eq_nil_iff, own?_eq_none_iff]
  case message => exact Fault.message_wrapped places cause.fault
  case failure => exact hfailure
  case exitCode => rw [hfailure, exitCode_failureAt]

/-- A mask at fault in the second entry of a list. -/
example : (Fault.wrapped ["subnet_mask", "ip_restriction.1"] (.mask "255.0.255.0")).path?
    = some "ip_restriction.1.subnet_mask" := by
  decide +kernel

end Cause

end SiteConfig
