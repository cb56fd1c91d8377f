import MeshRegistry.Text.Numeral
import MeshRegistry.Yaml.Placed
/-!
# Scalars of YAML

Three ways to write a text: plain, between quotes, and as an indented block. In the first two a
line break counts as a space, and further line breaks count as such. Between double quotes there
are escapes; between single quotes only the quote itself is written twice.

A scalar in the block layout must be indented further than what it belongs to. The versions
differ in how tabs count, in how much of a scalar must be indented, and in which characters end a
plain scalar in brackets.

## Main definitions

- `Yaml.Gap`, `Yaml.gap?`: what stands between two parts of a scalar.
- `Yaml.plain?`, `Yaml.quoted?`, `Yaml.block?`: the scalars, and what follows them.
-/

namespace MeshRegistry.Yaml

/-- A scalar. -/
structure Scalar where
  /-- Whether the scalar was written without quotes and outside of a block. -/
  isPlain : Bool
  /-- The text of the scalar. -/
  text : String
deriving DecidableEq, Repr

/-- Where a scalar stands. -/
structure Position where
  /-- The version of the notation. -/
  version : Version
  /-- Whether it stands in brackets. -/
  inFlow : Bool
  /-- The least column of its further lines. -/
  least : Int
deriving DecidableEq, Repr

/-! ## Gaps -/

/-- What stands between two parts of a scalar: blanks or line breaks. -/
structure Gap where
  /-- The blanks on one line. -/
  blanks : List Char := []
  /-- The line breaks. -/
  breaks : List Char := []
  /-- Whether an escaped line break stands before them. -/
  isEscaped : Bool := false
deriving DecidableEq, Repr

namespace Gap

/-- Whether a gap goes on to another line. -/
def isBroken (g : Gap) : Bool := g.isEscaped || !g.breaks.isEmpty

/-- The text that a gap stands for: one line break for a space, and further ones for
themselves. -/
def text (g : Gap) : List Char :=
  if g.isEscaped then g.breaks
  else
    match g.breaks with
    | [] => g.blanks
    | ['\n'] => [' ']
    | '\n' :: more => more
    | breaks => breaks

end Gap

/-- How a tab counts that stands where a line must be indented. -/
inductive TabRule where
  /-- As a blank. -/
  | free
  /-- As a mistake. -/
  | refused
  /-- As a mistake, unless nothing but a comment follows on the line. -/
  | idleLines
deriving DecidableEq, Repr

/-- The gap that goes on at the front of a text, and what follows it. While a line is skipped, what
stands on it does not count. -/
def gap? (rule : TabRule) (least : Int) (skipping : Bool) (g : Gap) :
    List Placed → Option (Gap × List Placed)
  | [] => some (g, [])
  | p :: rest =>
    if p.isBreak then
      gap? rule least false { g with blanks := [], breaks := g.breaks ++ [p.char] } rest
    else if skipping then if p.isEnd then some (g, p :: rest) else gap? rule least true g rest
    else if isBlank p.char then
      if !g.isBroken then gap? rule least false { g with blanks := g.blanks ++ [p.char] } rest
      else if p.char = '\t' ∧ (p.column : Int) < least then
        match rule with
        | .free => gap? rule least false g rest
        | .refused => none
        | .idleLines =>
          let behind := rest.dropWhile fun p => isBlank p.char
          if atLineEnd behind || frontChar behind == '#' then gap? rule least true g rest else none
      else gap? rule least false g rest
    else some (g, p :: rest)

/-! ## Plain scalars -/

/-- What a character is to a plain scalar. -/
inductive PlainRole where
  /-- A part of it. -/
  | part
  /-- Its end. -/
  | stop
  /-- A mistake. -/
  | fault
deriving DecidableEq, Repr

/-- What the character at the front of a text is to a plain scalar. -/
def plainRole (pos : Position) (t : List Placed) : PlainRole :=
  let c := frontChar t
  let next := nextChar t
  if pos.inFlow ∧ isFlowSign c then .stop
  else if c ≠ ':' then .part
  else
    match pos.version with
    -- In version 1.1 a colon in brackets may not stand directly before the punctuation.
    | .v1_1 =>
      if pos.inFlow ∧ (isFlowSign next ∨ next = '?') then .fault
      else if atGap t.tail then .stop
      else .part
    | .v1_2 => if atGap t.tail ∨ (pos.inFlow ∧ isFlowSign next) then .stop else .part

/-- The characters of a plain scalar up to a gap or its end. -/
def plainPart? (pos : Position) : List Placed → Option (List Char × List Placed)
  | [] => some ([], [])
  | p :: rest =>
    if p.isGap then some ([], p :: rest)
    else
      match plainRole pos (p :: rest) with
      | .part => (plainPart? pos rest).map fun r => (p.char :: r.1, r.2)
      | .stop => some ([], p :: rest)
      | .fault => none

/-- The rest of a plain scalar behind a gap, what follows it, and whether that stands on a line of
its own. -/
def plainRest? (pos : Position) : Nat → List Char → Gap → List Placed →
    Option (List Char × Bool × List Placed)
  | 0, _, _, _ => none
  | n + 1, before, g, t =>
    if atSeparator t || frontChar t == '#' then some (before, g.isBroken, t)
    else if pos.version = .v1_2 ∧ pos.inFlow ∧ frontChar t = '-' ∧ isFlowSign (nextChar t) then none
    else do
      let (part, rest) ← plainPart? pos t
      if part = [] then return (before, g.isBroken, t)
      let text := before ++ g.text ++ part
      if atEnd rest || !atGap rest then return (text, false, rest)
      let rule := if pos.version = .v1_1 then TabRule.refused else .idleLines
      let (g, rest) ← gap? rule pos.least false {} rest
      if !pos.inFlow && (frontColumn rest : Int) < pos.least then return (text, g.isBroken, rest)
      plainRest? pos n text g rest

/-- A plain scalar, what follows it, and whether that stands on a line of its own. -/
def plain? (pos : Position) (t : List Placed) : Option (Scalar × Bool × List Placed) :=
  (plainRest? pos (t.length + 1) [] {} t).bind fun (text, isBroken, rest) =>
    if text = [] then none else some (⟨true, String.ofList text⟩, isBroken, rest)

/-! ## Scalars between quotes -/

/-- The character with a number. -/
def charOf? (n : Nat) : Option Char := if n.isValidChar then some (Char.ofNat n) else none

/-- The character that the letter of a short escape stands for. -/
def shortEscape? : Char → Option Char
  | '0' => some '\x00'
  | 'a' => some '\x07'
  | 'b' => some '\x08'
  | 't' => some '\t'
  | '\t' => some '\t'
  | 'n' => some '\n'
  | 'v' => some '\x0b'
  | 'f' => some '\x0c'
  | 'r' => some '\r'
  | 'e' => some '\x1b'
  | ' ' => some ' '
  | '"' => some '"'
  | '/' => some '/'
  | '\\' => some '\\'
  | 'N' => some '\u0085'
  | '_' => some '\u00a0'
  | 'L' => some '\u2028'
  | 'P' => some '\u2029'
  | _ => none

/-- How many hexadecimal digits follow the letter of an escape. -/
def escapeDigits? : Char → Option Nat
  | 'x' => some 2
  | 'u' => some 4
  | 'U' => some 8
  | _ => none

/-- The number that hexadecimal digits write. -/
def hexValue? (cs : List Char) : Option Nat :=
  cs.foldlM (fun n c => (Text.hexDigit? c).map (n * 16 + ·)) 0

/-- The character that an escape behind its backslash stands for, and what follows it. -/
def escape? : List Placed → Option (Char × List Placed)
  | [] => none
  | p :: rest =>
    match escapeDigits? p.char with
    | some k => do
      let digits := (rest.take k).map Placed.char
      if digits.length < k then none
      let code ← hexValue? digits
      let c ← charOf? code
      return (c, rest.drop k)
    | none => (shortEscape? p.char).map (·, rest)

/-- What follows a gap between quotes, together with the gap. The next line must be indented in
version 1.2, and it may not separate documents. -/
def quotedGap? (pos : Position) (g : Gap) (t : List Placed) : Option (Gap × List Placed) := do
  let rule := if pos.version = .v1_1 then TabRule.free else .refused
  let (g, rest) ← gap? rule pos.least false g t
  if atSeparator rest then none
  if pos.version = .v1_2 ∧ (frontColumn rest : Int) < pos.least then none
  return (g, rest)

/-- The rest of a scalar up to its closing quote, and what follows the quote. -/
def quotedRest? (pos : Position) (quote : Char) : Nat → List Char → List Placed →
    Option (List Char × List Placed)
  | 0, _, _ => none
  | _ + 1, _, [] => none
  | n + 1, before, p :: rest =>
    if p.isEnd then none
    else if p.isGap then do
      let (g, rest) ← quotedGap? pos {} (p :: rest)
      quotedRest? pos quote n (before ++ g.text) rest
    else if p.char = quote then
      if quote = '\'' ∧ frontChar rest = '\'' then
        quotedRest? pos quote n (before ++ ['\'']) rest.tail
      else some (before, rest)
    else if p.char = '\\' ∧ quote = '"' then
      match rest with
      | [] => none
      | e :: behind =>
        if e.isBreak then
          if frontChar behind = quote then some (before, behind.tail)
          else do
            let (g, rest) ← quotedGap? pos { isEscaped := true } behind
            quotedRest? pos quote n (before ++ g.text) rest
        else do
          let (c, rest) ← escape? rest
          quotedRest? pos quote n (before ++ [c]) rest
    else quotedRest? pos quote n (before ++ [p.char]) rest

/-- A scalar between quotes, behind the opening one, and what follows it. -/
def quoted? (pos : Position) (quote : Char) (t : List Placed) : Option (Scalar × List Placed) :=
  (quotedRest? pos quote (t.length + 1) [] t).map fun (text, rest) =>
    (⟨false, String.ofList text⟩, rest)

/-! ## Blocks -/

/-- What is kept of the line breaks at the end of a block. -/
inductive Chomping where
  /-- None. -/
  | strip
  /-- One. -/
  | clip
  /-- All. -/
  | keep
deriving DecidableEq, Repr

/-- The chomping that a sign stands for. -/
def chompingOf? : Char → Option Chomping
  | '+' => some .keep
  | '-' => some .strip
  | _ => none

/-- The indentation that a digit gives to a block, and what follows the digit. Without a digit it
is zero, which a digit may not give. -/
def depth? : List Placed → Option (Nat × List Placed)
  | [] => some (0, [])
  | p :: rest =>
    if p.char = '0' then none
    else if p.char.isDigit then some (p.char.toNat - '0'.toNat, rest)
    else some (0, p :: rest)

/-- The signs after the one that begins a block: a sign for the chomping and a digit for the
indentation, in either order. -/
def blockHeader? (t : List Placed) : Option (Chomping × Nat × List Placed) :=
  match chompingOf? (frontChar t) with
  | some chomping => (depth? t.tail).map fun (depth, rest) => (chomping, depth, rest)
  | none =>
    (depth? t).map fun (depth, rest) =>
      match if depth = 0 then none else chompingOf? (frontChar rest) with
      | some chomping => (chomping, depth, rest.tail)
      | none => (.clip, depth, rest)

/-- The margin at the front of a text: spaces up to a column, if one is given, and the line breaks
of empty lines. The result has the breaks, the greatest column that was reached, and what
follows. -/
def margin? (v : Version) (column : Option Nat) (breaks : List Char) (reached : Nat) :
    List Placed → Option (List Char × Nat × List Placed)
  | [] => some (breaks, reached, [])
  | p :: rest =>
    let inside := column.all fun n => decide (p.column < n)
    if inside && p.char == ' ' then margin? v column breaks reached rest
    else if inside && p.char == '\t' && v == .v1_1 then none
    else if p.isBreak then margin? v column (breaks ++ [p.char]) (max reached p.column) rest
    else some (breaks, max reached p.column, p :: rest)

/-- What has been read of a block. -/
structure BlockText where
  /-- The text up to the last line that is not empty. -/
  text : List Char
  /-- The break at the end of that line. -/
  last : List Char
  /-- The breaks of the empty lines after it. -/
  breaks : List Char
deriving DecidableEq, Repr

/-- The lines of a block at a column, after what has been read, and what follows them. -/
def blockLines? (v : Version) (folded : Bool) (column : Nat) : Nat → (indented : Bool) →
    BlockText → List Placed → Option (BlockText × List Placed)
  | 0, _, _, _ => none
  | n + 1, indented, b, t =>
    if frontColumn t ≠ column ∨ atEnd t ∨ (v = .v1_2 ∧ atMarker '.' t) then some (b, t)
    else
      let blank := isBlank (frontChar t)
      let joint :=
        -- A break is folded between two lines that are not indented further than the block.
        if folded && b.last == ['\n'] && !indented && !blank then
          if b.breaks = [] then [' '] else b.breaks
        else b.last ++ b.breaks
      let text := b.text ++ joint ++ (t.takeWhile fun p => !p.endsLine).map Placed.char
      match dropLine t with
      | [] => none
      | p :: rest =>
        if p.isEnd then some (⟨text, [], []⟩, p :: rest)
        else do
          let (breaks, _, rest) ← margin? v (some column) [] 0 rest
          blockLines? v folded column n blank ⟨text, [p.char], breaks⟩ rest

/-- The column of a block: given by its depth below an indentation, or by its first lines. -/
def blockColumn (v : Version) (indent : Int) (depth reached : Nat) : Nat :=
  if depth ≠ 0 then (max indent 0).toNat + depth
  else
    let least := max reached (indent + 1).toNat
    match v with
    | .v1_1 => max least 1
    | .v1_2 => least

/-- The text of a block that ends with the whole text before its first line. -/
def emptyBlock (chomping : Chomping) (header : List Char) (breaks : List Char) : List Char :=
  match chomping with
  | .strip => []
  | .clip => header
  | .keep => if header = [] ∨ breaks = [] then header else breaks

/-- The scalar in a block, behind the sign that begins it, and what follows it. The indentation is
that of what the block belongs to. -/
def block? (v : Version) (indent : Int) (folded : Bool) (t : List Placed) :
    Option (Scalar × List Placed) := do
  let (chomping, depth, rest) ← blockHeader? t
  let rest ← skipIdle? v rest
  if !atLineEnd rest then none
  let header : List Char := if atEnd rest then [] else ['\n']
  let body := if atEnd rest then rest else rest.tail
  if v = .v1_2 ∧ frontChar body = '\t' then none
  let known := if depth = 0 then none else some (blockColumn v indent depth 0)
  let (breaks, reached, rest) ← margin? v known [] 0 body
  let column := blockColumn v indent depth reached
  let isShort (rest : List Placed) : Bool :=
    v == .v1_2 && decide (frontColumn rest < column) && decide (indent < frontColumn rest)
  if v = .v1_2 ∧ atEnd rest then
    return (⟨false, String.ofList (emptyBlock chomping header breaks)⟩, rest)
  if isShort rest then none
  let (b, rest) ← blockLines? v folded column (rest.length + 1) false ⟨[], [], breaks⟩ rest
  -- In version 1.2 a last line that is only begun counts as ended.
  let begun : List Char :=
    if v = .v1_2 ∧ atEnd rest ∧ max indent 1 ≤ frontColumn rest then ['\n'] else []
  let text :=
    match chomping with
    | .strip => b.text
    | .clip => b.text ++ b.last ++ begun
    | .keep => b.text ++ b.last ++ begun ++ b.breaks
  return (⟨false, String.ofList text⟩, rest)

end MeshRegistry.Yaml
