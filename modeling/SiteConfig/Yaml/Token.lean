import SiteConfig.Yaml.Scalar

/-!
# The tokens of a YAML text

The layout of a text becomes explicit in its tokens: indentation opens and closes block
collections, and a `key` token stands in front of everything that is a key.

A key of one line is only recognised at the colon behind it. Until then it is a candidate: the
place in the token sequence where a `key` token would go. There is one candidate at a time for
each flow collection that is open, and one for the block around them.

- `Token.ofText?`: the tokens of a text, or `none` where it cannot be divided into tokens.
-/

namespace SiteConfig.Yaml

/-- A token. -/
inductive Token
  | version (major minor : Nat)
  | handle (name : List Char) (stem : List Char)
  | documentStart
  | documentEnd
  | blockSequence
  | blockMapping
  | blockEnd
  | openSequence
  | closeSequence
  | openMapping
  | closeMapping
  | item
  | separator
  | key
  | value
  | alias (name : List Char)
  | anchor (name : List Char)
  | tag (handle : List Char) (suffix : List Char)
  | scalar (text : List Char) (isPlain : Bool)
  deriving DecidableEq, Repr, Inhabited

/-- A place where a key may have started. -/
structure Candidate where
  /-- The block layout demands a key here. -/
  required : Bool
  /-- How many tokens stood in front. -/
  position : Nat
  index : Nat
  line : Nat
  column : Nat
  deriving DecidableEq, Repr

/-- The state of the division into tokens. -/
structure Lexer where
  cur : Cursor
  tokens : Array Token := #[]
  /-- The column of the innermost block collection, `-1` outside of all. -/
  indent : Int := -1
  /-- The columns of the block collections around it. -/
  outer : List Int := []
  /-- Whether a key may start here. -/
  keyAllowed : Bool := true
  /-- The candidate for the innermost open collection. -/
  candidate : Option Candidate := none
  /-- The candidates for the flow collections around it; one for each that is open. -/
  flows : List (Option Candidate) := []
  deriving Repr

namespace Lexer

/-- Whether a flow collection is open. -/
def inFlow (lex : Lexer) : Bool :=
  !lex.flows.isEmpty

/-- Adds a token. -/
def push (lex : Lexer) (token : Token) : Lexer :=
  { lex with tokens := lex.tokens.push token }

/-- Closes the block collections that start right of a column. -/
def unroll (lex : Lexer) (column : Int) : Lexer :=
  if lex.inFlow then lex
  else
    let columns := lex.indent :: lex.outer
    let closed := columns.takeWhile (column < ·)
    match columns.dropWhile (column < ·) with
    | indent :: outer =>
      { lex with
        indent, outer
        tokens := lex.tokens ++ closed.toArray.map fun _ => Token.blockEnd }
    | [] => lex

/-- Opens a block collection at a column, unless one is open there; its token goes in front of the
tokens from `position` on. -/
def roll (lex : Lexer) (column position : Nat) (token : Token) : Lexer :=
  if !lex.inFlow && lex.indent < column then
    { lex with
      indent := column
      outer := lex.indent :: lex.outer
      tokens := lex.tokens.insertIdx! position token }
  else lex

/-- Gives up the candidate; fails where a key is demanded. -/
def dropCandidate? (lex : Lexer) : Option Lexer :=
  if lex.candidate.any (·.required) then none else some { lex with candidate := none }

/-- Makes the current place the candidate, if a key may start here. -/
def saveCandidate? (lex : Lexer) : Option Lexer :=
  if !lex.keyAllowed then some lex
  else
    lex.dropCandidate?.map fun lex =>
      { lex with
        candidate := some {
          required := !lex.inFlow && lex.indent == (lex.cur.column : Int)
          position := lex.tokens.size
          index := lex.cur.index
          line := lex.cur.line
          column := lex.cur.column } }

/-- The candidate, if it is still good: on this line, and at most 1024 characters back. -/
def liveCandidate? (lex : Lexer) : Option Candidate :=
  lex.candidate.filter fun c => c.line == lex.cur.line && lex.cur.index ≤ c.index + 1024

/-! ## Between tokens -/

/-- Past white space and comments. Tabs only count as white space where no key can start. -/
def skipGaps : Nat → Lexer → Lexer
  | 0, lex => lex
  | fuel + 1, lex =>
    let cur := if lex.cur.column == 0 && lex.cur.sees '\uFEFF' then lex.cur.advance 1 else lex.cur
    let cur := cur.skipWhile fun c =>
      c == ' ' || (c == '\t' && (lex.inFlow || !lex.keyAllowed))
    let cur := cur.skipComment
    match cur.takeBreak? with
    | some (_, next) =>
      skipGaps fuel { lex with cur := next, keyAllowed := lex.keyAllowed || !lex.inFlow }
    | none => { lex with cur }

/-! ## Directives, anchors and tags -/

/-- A number of at most nine digits. -/
def versionNumber? (cur : Cursor) : Option (Nat × Cursor) :=
  let (ds, cur) := cur.takeWhile Char.isDigit
  if ds.length ≤ 9 then (Text.natural? ds).map fun n => (n, cur) else none

/-- The handle of a tag, with its marks: `!`, `!!` or `!name!`, or the start of a tag without a
handle. -/
def tagHandle? (cur : Cursor) : Option (List Char × Cursor) :=
  if cur.sees '!' then
    let (name, cur) := (cur.advance 1).takeWhile isWord
    if cur.sees '!' then some ('!' :: name ++ ['!'], cur.advance 1) else some ('!' :: name, cur)
  else none

/-- The characters of a tag. Brackets and commas only count inside a verbatim tag. -/
def isTagChar (verbatim : Bool) (c : Char) : Bool :=
  isWord c || ";/?:@&=+$.!~*'()".toList.contains c || (verbatim && ",[]".toList.contains c)

/-- The bytes of percent escapes as one character, in UTF-8. -/
def ofBytes? (bytes : List Nat) : Option Char :=
  match bytes with
  | [a] => some (Char.ofNat a)
  | [a, b] => some (Char.ofNat ((a % 32) * 64 + b % 64))
  | [a, b, c] => some (Char.ofNat (((a % 16) * 64 + b % 64) * 64 + c % 64))
  | [a, b, c, d] => some (Char.ofNat ((((a % 8) * 64 + b % 64) * 64 + c % 64) * 64 + d % 64))
  | _ => none

/-- How many bytes a character has in UTF-8 whose first byte is given. -/
def utf8Width? (first : Nat) : Option Nat :=
  if first < 0x80 then some 1
  else if first / 32 = 6 then some 2
  else if first / 16 = 14 then some 3
  else if first / 8 = 30 then some 4
  else none

/-- A number of percent escapes. -/
def escapedBytes? : Nat → List Char → Option (List Nat × List Char)
  | 0, rest => some ([], rest)
  | n + 1, '%' :: a :: b :: rest =>
    match Text.radix? 16 [a, b] with
    | some byte => (escapedBytes? n rest).map fun (bytes, rest) => (byte :: bytes, rest)
    | none => none
  | _ + 1, _ => none

/-- One character from percent escapes. -/
def escapedChar? (s : List Char) : Option (Char × Nat) :=
  match escapedBytes? 1 s with
  | some ([first], _) =>
    (utf8Width? first).bind fun n =>
      match escapedBytes? n s with
      | some (bytes, _) =>
        if bytes.tail.all (fun b => b / 64 == 2) then
          (ofBytes? bytes).map fun c => (c, 3 * n)
        else none
      | none => none
  | _ => none

/-- The text of a tag, percent escapes resolved. -/
def tagText? (verbatim : Bool) : Nat → Cursor → Option (List Char × Cursor)
  | 0, _ => none
  | fuel + 1, cur =>
    match cur.peek? with
    | none => some ([], cur)
    | some c =>
      if c = '%' then
        match escapedChar? cur.rest with
        | some (d, n) =>
          (tagText? verbatim fuel (cur.advance n)).map fun (text, cur) => (d :: text, cur)
        | none => none
      else if isTagChar verbatim c then
        (tagText? verbatim fuel (cur.advance 1)).map fun (text, cur) => (c :: text, cur)
      else some ([], cur)

/-- A directive: `%YAML` with a version, or `%TAG` with a handle and what it stands for. -/
def directive? (cur : Cursor) : Option (Token × Cursor) :=
  let (name, cur) := (cur.advance 1).takeWhile isWord
  if name.isEmpty || !gapNext cur.rest then none
  else
    let fuel := cur.rest.length + 1
    if name = ['Y', 'A', 'M', 'L'] then do
      let (major, cur) ← versionNumber? (cur.skipWhile isSpace)
      if !cur.sees '.' then none
      let (minor, cur) ← versionNumber? (cur.advance 1)
      let cur ← cur.skipLineEnd?
      return (.version major minor, cur)
    else if name = ['T', 'A', 'G'] then do
      let (handle, cur) ← tagHandle? (cur.skipWhile isSpace)
      if handle.length != 1 && handle.getLast? != some '!' then none
      if !cur.seesWhere isSpace then none
      let (stem, cur) ← tagText? true fuel (cur.skipWhile isSpace)
      if stem.isEmpty || !gapNext cur.rest then none
      let cur ← cur.skipLineEnd?
      return (.handle handle stem, cur)
    else none

/-- The name of an anchor or an alias, after its mark. -/
def anchorName? (cur : Cursor) : Option (List Char × Cursor) :=
  let (name, cur) := (cur.advance 1).takeWhile isWord
  let ended := gapNext cur.rest || cur.seesWhere fun c => "?:,]\x7d%@`".toList.contains c
  if name.isEmpty || !ended then none else some (name, cur)

/-- A tag, from its mark. The lone mark is the tag `!` without a handle. -/
def tag? (inFlow : Bool) (cur : Cursor) : Option (Token × Cursor) := do
  let fuel := cur.rest.length + 1
  let (token, cur) ←
    if (cur.advance 1).sees '<' then do
      let (text, cur) ← tagText? true fuel (cur.advance 2)
      if text.isEmpty || !cur.sees '>' then none
      pure (Token.tag [] text, cur.advance 1)
    else do
      let (handle, cur) ← tagHandle? cur
      let (text, cur) ← tagText? false fuel cur
      if handle.length ≥ 2 && handle.getLast? == some '!' then
        if text.isEmpty then none
        pure (Token.tag handle text, cur)
      else
        let suffix := handle.drop 1 ++ text
        if suffix.isEmpty then pure (Token.tag [] ['!'], cur)
        else pure (Token.tag ['!'] suffix, cur)
  if gapNext cur.rest || (inFlow && cur.sees ',') then some (token, cur) else none

/-! ## The tokens themselves -/

/-- A token of a number of characters that ends all candidates. -/
def simple? (lex : Lexer) (width : Nat) (keyAllowed : Bool) (token : Token) : Option Lexer :=
  lex.dropCandidate?.map fun lex =>
    { lex.push token with cur := lex.cur.advance width, keyAllowed }

/-- A mark between documents. -/
def documentMark? (lex : Lexer) (token : Token) : Option Lexer :=
  (lex.unroll (-1)).simple? 3 false token

/-- Opens a flow collection. -/
def openFlow? (lex : Lexer) (token : Token) : Option Lexer :=
  lex.saveCandidate?.map fun lex =>
    { lex.push token with
      cur := lex.cur.advance 1
      keyAllowed := true
      candidate := none
      flows := lex.candidate :: lex.flows }

/-- Closes a flow collection. -/
def closeFlow? (lex : Lexer) (token : Token) : Option Lexer :=
  (lex.simple? 1 false token).map fun lex =>
    match lex.flows with
    | candidate :: flows => { lex with candidate, flows }
    | [] => lex

/-- A mark that opens an item or a key of a block collection. -/
def blockMark? (lex : Lexer) (collection token : Token) (keyAllowed : Bool) : Option Lexer :=
  if lex.inFlow then lex.simple? 1 keyAllowed token
  else if !lex.keyAllowed then none
  else (lex.roll lex.cur.column lex.tokens.size collection).simple? 1 keyAllowed token

/-- The colon: what is in front of it on the line becomes a key. -/
def colon? (lex : Lexer) : Option Lexer :=
  match lex.liveCandidate? with
  | some c =>
    -- A mapping that starts with this key is opened in front of it, not here.
    let lex := { lex with tokens := lex.tokens.insertIdx! c.position Token.key, candidate := none }
    let lex := lex.roll c.column c.position .blockMapping
    some { lex.push .value with cur := lex.cur.advance 1, keyAllowed := false }
  | none =>
    if lex.candidate.any (·.required) then none
    else if lex.inFlow then
      some { lex.push .value with
        cur := lex.cur.advance 1, keyAllowed := false, candidate := none }
    else if !lex.keyAllowed then none
    else
      -- A value whose key is left out, or stands after a question mark.
      let lex := lex.roll lex.cur.column lex.tokens.size .blockMapping
      some { lex.push .value with
        cur := lex.cur.advance 1, keyAllowed := true, candidate := none }

/-- A token that can start a key. -/
def content? (lex : Lexer) (scan : Cursor → Option (Token × Cursor)) : Option Lexer :=
  lex.saveCandidate?.bind fun lex =>
    (scan lex.cur).map fun (token, cur) => { lex.push token with cur, keyAllowed := false }

/-- A plain scalar. After a line break at its end, a key can start. -/
def plain? (lex : Lexer) : Option Lexer :=
  lex.saveCandidate?.bind fun lex =>
    (Yaml.plain lex.inFlow (lex.indent + 1).toNat lex.cur).map fun (text, broken, cur) =>
      { lex.push (.scalar text true) with cur, keyAllowed := broken }

/-- A block scalar. -/
def block? (lex : Lexer) (literal : Bool) : Option Lexer :=
  lex.dropCandidate?.bind fun lex =>
    (Yaml.block literal lex.indent lex.cur).map fun (text, cur) =>
      { lex.push (.scalar text false) with cur, keyAllowed := true }

/-- Whether a plain scalar can start with a character that another one follows. -/
def startsPlain (inFlow : Bool) (c : Char) (rest : List Char) : Bool :=
  if c == '-' then !rest.head?.any isSpace
  else if c == '?' || c == ':' then !inFlow && !gapNext rest
  else !isGap c && !isIndicator c

/-- The next token, in front of a character. -/
def token? (lex : Lexer) (c : Char) (rest : List Char) : Option Lexer :=
  let cur := lex.cur
  if cur.column == 0 && c == '%' then
    (lex.unroll (-1)).dropCandidate?.bind fun lex =>
      (directive? lex.cur).map fun (token, cur) =>
        { lex.push token with cur, keyAllowed := false }
  else if cur.atMark '-' then lex.documentMark? .documentStart
  else if cur.atMark '.' then lex.documentMark? .documentEnd
  else if c == '[' then lex.openFlow? .openSequence
  else if c == '{' then lex.openFlow? .openMapping
  else if c == ']' then lex.closeFlow? .closeSequence
  else if c == '}' then lex.closeFlow? .closeMapping
  else if c == ',' then lex.simple? 1 true .separator
  else if c == '-' && gapNext rest then lex.blockMark? .blockSequence .item true
  else if c == '?' && (lex.inFlow || gapNext rest) then
    lex.blockMark? .blockMapping .key !lex.inFlow
  else if c == ':' && (lex.inFlow || gapNext rest) then lex.colon?
  else if c == '*' then
    lex.content? fun cur => (anchorName? cur).map fun (name, cur) => (.alias name, cur)
  else if c == '&' then
    lex.content? fun cur => (anchorName? cur).map fun (name, cur) => (.anchor name, cur)
  else if c == '!' then lex.content? (tag? lex.inFlow)
  else if c == '|' && !lex.inFlow then lex.block? true
  else if c == '>' && !lex.inFlow then lex.block? false
  else if c == '\'' then
    lex.content? fun cur => (quoted true cur).map fun (text, cur) => (.scalar text false, cur)
  else if c == '"' then
    lex.content? fun cur => (quoted false cur).map fun (text, cur) => (.scalar text false, cur)
  else if startsPlain lex.inFlow c rest then lex.plain?
  else none

/-- All tokens from here on. -/
def run : Nat → Lexer → Option (Array Token)
  | 0, _ => none
  | fuel + 1, lex =>
    let lex := skipGaps (lex.cur.rest.length + 1) lex
    let lex := lex.unroll lex.cur.column
    match lex.cur.rest with
    | [] =>
      let lex := lex.unroll (-1)
      lex.dropCandidate?.map (·.tokens)
    | c :: rest => (lex.token? c rest).bind (run fuel)

end Lexer

/-- The tokens of a text. -/
def Token.ofText? (s : List Char) : Option (List Token) :=
  if s.all isAdmitted then
    (Lexer.run (s.length + 1) { cur := { rest := s } }).map Array.toList
  else none

end SiteConfig.Yaml
