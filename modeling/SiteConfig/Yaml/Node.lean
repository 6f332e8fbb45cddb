import SiteConfig.Yaml.Token

/-!
# YAML documents as trees

- `Node`: a document, its anchors and aliases as numbers and its tags written out.
- `Node.ofTokens?`: the one document of a token sequence. A sequence without any document holds
  the empty scalar; more than one document, like any other fault, gives `none`.
- `Node.size`, `Node.targets`: how large a document is, and what its anchors stand at.

The readers take a bound on the number of their steps as first argument.
-/

namespace SiteConfig.Yaml

/-- A node of a document. -/
inductive Node
  | scalar (tag : Option (List Char)) (text : List Char) (isPlain : Bool)
  | sequence (tag : Option (List Char)) (items : List Node)
  | mapping (tag : Option (List Char)) (entries : List (Node × Node))
  | alias (id : Nat)
  | anchored (id : Nat) (node : Node)
  deriving Repr, Inhabited

namespace Node

/-- The scalar where nothing is written. -/
def blank (tag : Option (List Char)) : Node :=
  .scalar tag [] true

/-! ## Measures -/

mutual

/-- The number of scalars, aliases, and starts and ends of collections. -/
def size : Node → Nat
  | .scalar _ _ _ => 1
  | .sequence _ items => 2 + sizeItems items
  | .mapping _ entries => 2 + sizeEntries entries
  | .alias _ => 1
  | .anchored _ node => size node

/-- `size` on the items of a sequence. -/
def sizeItems : List Node → Nat
  | [] => 0
  | node :: rest => size node + sizeItems rest

/-- `size` on the entries of a mapping. -/
def sizeEntries : List (Node × Node) → Nat
  | [] => 0
  | (k, v) :: rest => size k + size v + sizeEntries rest

end

mutual

/-- The anchored nodes in the order of the text. -/
def targets : Node → List (Nat × Node)
  | .scalar _ _ _ => []
  | .sequence _ items => targetsItems items
  | .mapping _ entries => targetsEntries entries
  | .alias _ => []
  | .anchored id node => (id, node) :: targets node

/-- `targets` on the items of a sequence. -/
def targetsItems : List Node → List (Nat × Node)
  | [] => []
  | node :: rest => targets node ++ targetsItems rest

/-- `targets` on the entries of a mapping. -/
def targetsEntries : List (Node × Node) → List (Nat × Node)
  | [] => []
  | (k, v) :: rest => targets k ++ (targets v ++ targetsEntries rest)

end

/-! ## Reading -/

/-- What is left to read, and the names known so far. -/
structure Reading where
  tokens : List Token
  /-- The handles of tags and what they stand for. -/
  handles : List (List Char × List Char) := []
  /-- The anchors that were set so far, and the number of each. -/
  anchors : List (List Char × Nat) := []

/-- A reader of tokens. -/
abbrev Reader := StateT Reading Option

/-- The next token. -/
def peek : Reader (Option Token) := do
  return (← get).tokens.head?

/-- Drops the next token. -/
def skip : Reader Unit :=
  modify fun st => { st with tokens := st.tokens.tail }

/-- Drops the next token, which has to be a given one. -/
def expect (token : Token) : Reader Unit := do
  if (← peek) = some token then skip else failure

/-- Sets an anchor. Its number is the count of the names set before, so an anchor that is set
again does not take its old number. -/
def register (name : List Char) : Reader Nat := do
  let st ← get
  let id := st.anchors.length
  set { st with anchors := (name, id) :: st.anchors.filter (·.1 ≠ name) }
  return id

/-- The tag that a handle and a suffix make. -/
def tagOf (handle suffix : List Char) : Reader (List Char) := do
  if handle.isEmpty then return suffix
  match (← get).handles.lookup handle with
  | some stem => return stem ++ suffix
  | none => failure

/-- The anchor and the tag in front of a node, in either order. -/
def properties : Reader (Option (List Char) × Option (List Char)) := do
  match ← peek with
  | some (.anchor name) =>
    skip
    match ← peek with
    | some (.tag handle suffix) =>
      skip
      return (some name, some (← tagOf handle suffix))
    | _ => return (some name, none)
  | some (.tag handle suffix) =>
    skip
    let tag ← tagOf handle suffix
    match ← peek with
    | some (.anchor name) =>
      skip
      return (some name, some tag)
    | _ => return (none, some tag)
  | _ => return (none, none)

/-- Whether the next token ends a place in a block collection where a node may be left out. -/
def ended (ends : List Token) : Reader Bool := do
  return (← peek).any ends.contains

/-- The ends of a key or a value in a block mapping. -/
def blockEnds : List Token := [.key, .value, .blockEnd]

mutual

/-- A node. Block collections are only admitted where `inBlock` holds; the items of a sequence may
stand without indentation where `flush` holds. -/
def node : Nat → Bool → Bool → Reader Node
  | 0, _, _ => failure
  | fuel + 1, inBlock, flush => do
    match ← peek with
    | some (.alias name) =>
      skip
      -- Only what was set further up can be named.
      match (← get).anchors.lookup name with
      | some id => return .alias id
      | none => failure
    | _ =>
      let (anchor, tag) ← properties
      let id ← anchor.mapM register
      let content ←
        match ← peek with
        | some .item =>
          if flush then .sequence tag <$> flushItems fuel
          else if anchor.isSome || tag.isSome then pure (blank tag)
          else failure
        | some (.scalar text isPlain) =>
          skip
          pure (.scalar (tag.filter (· ≠ ['!'])) text isPlain)
        | some .openSequence => do skip; .sequence tag <$> flowItems fuel true
        | some .openMapping => do skip; .mapping tag <$> flowEntries fuel true
        | some .blockSequence =>
          if inBlock then do skip; .sequence tag <$> blockItems fuel
          else if anchor.isSome || tag.isSome then pure (blank tag)
          else failure
        | some .blockMapping =>
          if inBlock then do skip; .mapping tag <$> blockEntries fuel
          else if anchor.isSome || tag.isSome then pure (blank tag)
          else failure
        | _ => if anchor.isSome || tag.isSome then pure (blank tag) else failure
      return id.elim content fun id => .anchored id content

/-- The items of a block sequence. -/
def blockItems : Nat → Reader (List Node)
  | 0 => failure
  | fuel + 1 => do
    match ← peek with
    | some .item =>
      skip
      let item ← if ← ended [.item, .blockEnd] then pure (blank none) else node fuel true false
      return item :: (← blockItems fuel)
    | some .blockEnd => do skip; return []
    | _ => failure

/-- The items of a sequence that is not indented. -/
def flushItems : Nat → Reader (List Node)
  | 0 => failure
  | fuel + 1 => do
    match ← peek with
    | some .item =>
      skip
      let item ←
        if ← ended (.item :: blockEnds) then pure (blank none) else node fuel true false
      return item :: (← flushItems fuel)
    | _ => return []

/-- The entries of a block mapping. -/
def blockEntries : Nat → Reader (List (Node × Node))
  | 0 => failure
  | fuel + 1 => do
    match ← peek with
    | some .key =>
      skip
      let key ← if ← ended blockEnds then pure (blank none) else node fuel true true
      let value ←
        match ← peek with
        | some .value => do
          skip
          if ← ended blockEnds then pure (blank none) else node fuel true true
        | _ => pure (blank none)
      return (key, value) :: (← blockEntries fuel)
    | some .blockEnd => do skip; return []
    | _ => failure

/-- The items of a flow sequence; a key makes an item that is a mapping of one entry. Where such a
key is left out, the token after its mark is passed over. -/
def flowItems : Nat → Bool → Reader (List Node)
  | 0, _ => failure
  | fuel + 1, first => do
    if ← ended [.closeSequence] then do skip; return []
    if !first then expect .separator
    match ← peek with
    | some .closeSequence => do skip; return []
    | some .key =>
      skip
      let key ←
        if ← ended [.value, .separator, .closeSequence] then do skip; pure (blank none)
        else node fuel false false
      let value ←
        match ← peek with
        | some .value => do
          skip
          if ← ended [.separator, .closeSequence] then pure (blank none)
          else node fuel false false
        | _ => pure (blank none)
      return .mapping none [(key, value)] :: (← flowItems fuel false)
    | _ =>
      let item ← node fuel false false
      return item :: (← flowItems fuel false)

/-- The entries of a flow mapping; what stands without a value is a key. -/
def flowEntries : Nat → Bool → Reader (List (Node × Node))
  | 0, _ => failure
  | fuel + 1, first => do
    if ← ended [.closeMapping] then do skip; return []
    if !first then expect .separator
    match ← peek with
    | some .closeMapping => do skip; return []
    | some .key =>
      skip
      let key ←
        if ← ended [.value, .separator, .closeMapping] then pure (blank none)
        else node fuel false false
      let value ←
        match ← peek with
        | some .value => do
          skip
          if ← ended [.separator, .closeMapping] then pure (blank none)
          else node fuel false false
        | _ => pure (blank none)
      return (key, value) :: (← flowEntries fuel false)
    | _ =>
      let key ← node fuel false false
      return (key, blank none) :: (← flowEntries fuel false)

end

/-- The directives in front of a document: at most one version, which is 1.1 or 1.2, and each
handle once. -/
def directives : Nat → Bool → Reader Unit
  | 0, _ => failure
  | fuel + 1, versioned => do
    match ← peek with
    | some (.version major minor) =>
      if versioned || major ≠ 1 || (minor ≠ 1 && minor ≠ 2) then failure
      skip
      directives fuel true
    | some (.handle name stem) =>
      if ((← get).handles.lookup name).isSome then failure
      skip
      modify fun st => { st with handles := st.handles ++ [(name, stem)] }
      directives fuel versioned
    | _ => return ()

/-- The handles that need no directive. -/
def presetHandles : List (List Char × List Char) :=
  [(['!'], ['!']), (['!', '!'], "tag:yaml.org,2002:".toList)]

/-- A document and the marks around it. -/
def document (fuel : Nat) : Reader Node := do
  let content ←
    match ← peek with
    | none => return blank none
    | some (.version _ _) | some (.handle _ _) | some .documentStart =>
      directives fuel false
      expect .documentStart
      modify fun st => { st with handles := st.handles ++ presetHandles }
      match ← peek with
      | none | some (.version _ _) | some (.handle _ _) | some .documentStart
      | some .documentEnd => pure (blank none)
      | _ => node fuel true false
    | _ =>
      modify fun st => { st with handles := presetHandles }
      node fuel true false
  modify fun st => { st with tokens := st.tokens.dropWhile (· = .documentEnd) }
  if (← peek).isNone then return content else failure

/-- The document that a sequence of tokens stands for. -/
def ofTokens? (tokens : List Token) : Option Node :=
  (document (3 * tokens.length + 3)).run' { tokens }

end Node

end SiteConfig.Yaml
