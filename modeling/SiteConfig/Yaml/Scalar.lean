import SiteConfig.Yaml.Cursor
import SiteConfig.Text.Digits

/-!
# The texts of YAML scalars

A scalar is written plainly, between quotes, or as a block of lines. Line breaks inside the first
two are folded: a single one becomes a space, and of several the first is dropped.

- `plain`, `quoted`, `block`: the text of a scalar of each form, and the cursor past it.

The readers return `none` where the text is not well-formed. Their first argument bounds the number
of steps; each takes at least one character.
-/

namespace SiteConfig.Yaml

/-- The blanks and line breaks between two words of a scalar. -/
structure Gap where
  /-- Blanks before the first line break. -/
  spaces : List Char := []
  /-- Whether there is a line break, which may be an escaped one. -/
  broken : Bool := false
  /-- The first line break. -/
  first : Option Char := none
  /-- The line breaks after the first. -/
  more : List Char := []
  deriving DecidableEq, Repr

namespace Gap

/-- The text that a gap stands for. -/
def folded (gap : Gap) : List Char :=
  if !gap.broken then gap.spaces
  else if gap.first = some '\n' then (if gap.more.isEmpty then [' '] else gap.more)
  else gap.first.toList ++ gap.more

/-- Takes blanks and line breaks. After a break, no tab may stand left of the column `margin`. -/
def take (margin : Nat) : Nat → Gap → Cursor → Option (Gap × Cursor)
  | 0, gap, cur => some (gap, cur)
  | fuel + 1, gap, cur =>
    match cur.takeBreak? with
    | some (c, next) =>
      if gap.broken then take margin fuel { gap with more := gap.more ++ [c] } next
      else take margin fuel { gap with spaces := [], broken := true, first := some c } next
    | none =>
      match cur.peek? with
      | some c =>
        if isSpace c then
          if gap.broken then
            -- Blanks at the start of a line are indentation and leave no trace.
            if c == '\t' && cur.column < margin then none
            else take margin fuel gap (cur.advance 1)
          else take margin fuel { gap with spaces := gap.spaces ++ [c] } (cur.advance 1)
        else some (gap, cur)
      | none => some (gap, cur)

end Gap

/-! ## Plain scalars -/

/-- One word of a plain scalar: up to a gap, a colon before a gap, or, inside a flow collection,
one of its marks. There, a colon right before a mark is refused. -/
def plainWord (inFlow : Bool) : List Char → Option (List Char)
  | [] => some []
  | c :: rest =>
    if isGap c then some []
    else if inFlow && c == ':' && rest.head?.any (fun d => isFlowMark d || d == '?') then none
    else if (c == ':' && gapNext rest) || (inFlow && isFlowMark c) then some []
    else (plainWord inFlow rest).map (c :: ·)

/-- The rest of a plain scalar: the words and gaps from here, after `text` and the gap before.
Also tells whether the gap at its end has a line break. -/
def plainFrom (inFlow : Bool) (margin : Nat) :
    Nat → List Char → Gap → Cursor → Option (List Char × Bool × Cursor)
  | 0, _, _, _ => none
  | fuel + 1, text, gap, cur =>
    if cur.atDocumentMark || cur.sees '#' then some (text, gap.broken, cur)
    else
      match plainWord inFlow cur.rest with
      | none => none
      | some word =>
        -- A gap only counts once a word comes after it.
        let text := if word.isEmpty then text else text ++ gap.folded ++ word
        let gap := if word.isEmpty then gap else {}
        let cur := cur.advance word.length
        if cur.seesWhere isGap then
          match gap.take margin (cur.rest.length + 1) cur with
          | none => none
          | some (gap, cur) =>
            if !inFlow && cur.column < margin then some (text, gap.broken, cur)
            else plainFrom inFlow margin fuel text gap cur
        else some (text, gap.broken, cur)

/-- A plain scalar. In block context it ends at a line that starts left of `margin`. -/
def plain (inFlow : Bool) (margin : Nat) (cur : Cursor) : Option (List Char × Bool × Cursor) :=
  plainFrom inFlow margin (cur.rest.length + 1) [] {} cur

/-! ## Quoted scalars -/

/-- The character that a one-letter escape stands for. -/
def escaped? (c : Char) : Option Char :=
  match c with
  | '0' => some '\x00'
  | 'a' => some '\x07'
  | 'b' => some '\x08'
  | 't' => some '\t'
  | '\t' => some '\t'
  | 'n' => some '\n'
  | 'v' => some '\x0B'
  | 'f' => some '\x0C'
  | 'r' => some '\r'
  | 'e' => some '\x1B'
  | ' ' => some ' '
  | '"' => some '"'
  | '/' => some '/'
  | '\\' => some '\\'
  | 'N' => some '\x85'
  | '_' => some '\xA0'
  | 'L' => some '\u2028'
  | 'P' => some '\u2029'
  | _ => none

/-- How many digits of base sixteen follow a numeric escape. -/
def escapeWidth? (c : Char) : Option Nat :=
  match c with
  | 'x' => some 2
  | 'u' => some 4
  | 'U' => some 8
  | _ => none

/-- The character with a code point, unless it is a surrogate or too large. -/
def scalarValue? (n : Nat) : Option Char :=
  if n < 0xD800 ∨ (0xDFFF < n ∧ n ≤ 0x10FFFF) then some (Char.ofNat n) else none

/-- One word of a quoted scalar: up to a gap, the closing quote, or an escaped line break, which
is taken too. Also tells whether it ended with one. -/
def quotedWord (single : Bool) : Nat → Cursor → Option (List Char × Bool × Cursor)
  | 0, _ => none
  | fuel + 1, cur =>
    let continued := fun (c : Char) (n : Nat) =>
      (quotedWord single fuel (cur.advance n)).map
        fun (word, broken, cur) => (c :: word, broken, cur)
    match cur.rest with
    | [] => some ([], false, cur)
    | c :: rest =>
      if isGap c then some ([], false, cur)
      else if single then
        if c ≠ '\'' then continued c 1
        else if rest.head? = some '\'' then continued '\'' 2
        else some ([], false, cur)
      else if c = '"' then some ([], false, cur)
      else if c ≠ '\\' then continued c 1
      else
        match rest with
        | [] => none
        | d :: digits =>
          if isBreak d then some ([], true, (cur.advance 1).skipBreak)
          else
            match escaped? d, escapeWidth? d with
            | some e, _ => continued e 2
            | none, some n =>
              if digits.length < n then none
              else
                match (Text.radix? 16 (digits.take n)).bind scalarValue? with
                | some e => continued e (2 + n)
                | none => none
            | none, none => none

/-- The rest of a quoted scalar, after `text`. -/
def quotedFrom (single : Bool) : Nat → List Char → Cursor → Option (List Char × Cursor)
  | 0, _, _ => none
  | fuel + 1, text, cur =>
    if cur.atDocumentMark || cur.rest.isEmpty then none
    else
      match quotedWord single (cur.rest.length + 1) cur with
      | none => none
      | some (word, broken, cur) =>
        let text := text ++ word
        if cur.sees (if single then '\'' else '"') then some (text, cur.advance 1)
        else
          match Gap.take 0 (cur.rest.length + 1) { broken := broken } cur with
          | none => none
          | some (gap, cur) => quotedFrom single fuel (text ++ gap.folded) cur

/-- A quoted scalar, from its opening quote. -/
def quoted (single : Bool) (cur : Cursor) : Option (List Char × Cursor) :=
  quotedFrom single (cur.rest.length + 1) [] (cur.advance 1)

/-! ## Block scalars -/

/-- What happens to the line breaks at the end of a block scalar. -/
inductive Chomp
  | strip
  | clip
  | keep
  deriving DecidableEq, Repr

/-- The header of a block scalar, after its first character: how to treat the end, and the
indentation, if one is given. -/
def blockHeader? (cur : Cursor) : Option (Chomp × Option Nat × Cursor) :=
  let chomp? := fun (cur : Cursor) =>
    if cur.sees '+' then some Chomp.keep else if cur.sees '-' then some Chomp.strip else none
  let indent? := fun (cur : Cursor) =>
    match cur.peek? with
    | some c => if c.isDigit then some (c.toNat - '0'.toNat) else none
    | none => none
  match chomp? cur with
  | some chomp =>
    let cur := cur.advance 1
    match indent? cur with
    | some 0 => none
    | some n => some (chomp, some n, cur.advance 1)
    | none => some (chomp, none, cur)
  | none =>
    match indent? cur with
    | some 0 => none
    | some n =>
      let cur := cur.advance 1
      match chomp? cur with
      | some chomp => some (chomp, some n, cur.advance 1)
      | none => some (.clip, some n, cur)
    | none => some (.clip, none, cur)

/-- Empty lines and indentation in front of a line of a block scalar: the line breaks, the widest
indentation and the cursor at the line. Without a known indentation all spaces count as such; a
tab in the place of indentation is refused. -/
def blockBreaks (indent : Option Nat) :
    Nat → List Char → Nat → Cursor → Option (List Char × Nat × Cursor)
  | 0, _, _, _ => none
  | fuel + 1, breaks, widest, cur =>
    let spaces := (cur.rest.takeWhile (· == ' ')).length
    let cur := cur.advance (match indent with
      | some n => min spaces (n - cur.column)
      | none => spaces)
    let widest := max widest cur.column
    let short := indent.all fun n => cur.column < n
    if short && cur.sees '\t' then none
    else
      match cur.takeBreak? with
      | some (c, next) => blockBreaks indent fuel (breaks ++ [c]) widest next
      | none => some (breaks, widest, cur)

/-- The lines of a block scalar from a line at the indentation `indent`: the text before, the line
break before, the empty lines before, and whether the line before started with a blank. At the end
only the text, the last line break and the empty lines after it are left. -/
def blockLines (literal : Bool) (indent : Nat) :
    Nat → List Char → List Char → List Char → Bool → Cursor →
      Option (List Char × List Char × List Char × Cursor)
  | 0, _, _, _, _, _ => none
  | fuel + 1, text, before, breaks, blank, cur =>
    if cur.column = indent ∧ !cur.rest.isEmpty then
      -- Two lines are only joined by a space if neither of them starts with a blank.
      let startsBlank := cur.seesWhere isSpace
      let joint :=
        if !literal && before == ['\n'] && !blank && !startsBlank then
          if breaks.isEmpty then [' '] else breaks
        else before ++ breaks
      let (line, cur) := cur.takeWhile fun c => !isBreak c
      let text := text ++ joint ++ line
      let (before, cur) :=
        match cur.takeBreak? with
        | some (c, next) => ([c], next)
        | none => ([], cur)
      match blockBreaks (some indent) (cur.rest.length + 1) [] 0 cur with
      | none => none
      | some (breaks, _, cur) => blockLines literal indent fuel text before breaks startsBlank cur
    else some (text, before, breaks, cur)

/-- A block scalar, from its first character, inside a collection at the column `parent`, which is
`-1` at the top. -/
def block (literal : Bool) (parent : Int) (cur : Cursor) : Option (List Char × Cursor) :=
  match blockHeader? (cur.advance 1) with
  | none => none
  | some (chomp, given, cur) =>
    match cur.skipLineEnd? with
    | none => none
    | some cur =>
      let known : Option Nat := given.map fun n => (max parent 0).toNat + n
      match blockBreaks known (cur.rest.length + 1) [] 0 cur with
      | none => none
      | some (breaks, widest, cur) =>
        let indent := known.getD (max widest (max (parent + 1) 1).toNat)
        match blockLines literal indent (cur.rest.length + 1) [] [] breaks false cur with
        | none => none
        | some (text, before, breaks, cur) =>
          let tail :=
            match chomp with
            | .strip => []
            | .clip => before
            | .keep => before ++ breaks
          some (text ++ tail, cur)

end SiteConfig.Yaml
