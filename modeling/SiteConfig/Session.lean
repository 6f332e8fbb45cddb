import SiteConfig.Block.Decode
import SiteConfig.Body.Read
import SiteConfig.Mapping.Flatten
import SiteConfig.Value.Pointer

/-!
# A session of steps on one configuration

A session holds a document, the blocks read from it, and a body. A step replaces one of the three,
most of them by what it makes of another; a step that fails leaves the session as it is.

- `Step`, `Session.apply`: the steps, and what each of them does.
-/

namespace SiteConfig

/-- A document, a list of blocks and an optional body. -/
structure Session where
  document : Value := .null
  blocks : List Block := []
  body : Option Body := none
  deriving Inhabited

/-- What can be done in a session. -/
inductive Step
  /-- Takes a document. -/
  | document (v : Value)
  /-- Sets or removes what a pointer names in the document. -/
  | edit (pointer : String) (v : Option Value)
  /-- Reads the blocks from the document. -/
  | decode
  /-- Adds a block. -/
  | push (block : Block)
  /-- Makes the body from the blocks. -/
  | expand
  /-- Makes the blocks from the body. -/
  | flatten
  /-- Writes the blocks as the document. -/
  | writeBlocks
  /-- Writes the body as the document. -/
  | writeBody
  /-- Reads the body from the document. -/
  | readBody

/-- Why a step fails. -/
inductive StepError
  | fault (fault : Fault)
  | misfit (misfit : Misfit)
  /-- The pointer names no place in the document. -/
  | noPlace

/-- The part of a session that a step replaced. -/
inductive Part
  | document
  | blocks
  | body
  deriving DecidableEq, Repr

namespace Session

/-- One step: the part that it replaced, and the session after it. -/
def apply (session : Session) : Step → Except StepError (Part × Session)
  | .document v => .ok (.document, { session with document := v })
  | .edit pointer v =>
    match session.document.edit? pointer v with
    | some document => .ok (.document, { session with document })
    | none => .error .noPlace
  | .decode =>
    match Block.decode session.document with
    | .ok blocks => .ok (.blocks, { session with blocks })
    | .error fault => .error (.fault fault)
  | .push block => .ok (.blocks, { session with blocks := session.blocks ++ [block] })
  | .expand =>
    match Block.expandFirst session.blocks with
    | .ok body => .ok (.body, { session with body := some body })
    | .error fault => .error (.fault fault)
  | .flatten =>
    match Body.flattenOption session.body with
    | .ok blocks => .ok (.blocks, { session with blocks })
    | .error fault => .error (.fault fault)
  | .writeBlocks =>
    .ok (.document, { session with document := (Block.documents session.blocks).ordered })
  | .writeBody =>
    .ok (.document, { session with document := (Body.documentOption session.body).ordered })
  | .readBody =>
    match Body.read session.document with
    | .ok body => .ok (.body, { session with body })
    | .error misfit => .error (.misfit misfit)

end Session

end SiteConfig
