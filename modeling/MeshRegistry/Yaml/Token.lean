import MeshRegistry.Yaml.Property
/-!
# Tokens of YAML

A text is cut into tokens, which say where mappings and sequences begin and end, so that places do
not count any more. In the block layout a mapping or a sequence begins where its first key or item
is indented further than what is around it, and ends at the first line that is indented less. That
a token was a key is only known at the colon behind it; what may be a key is remembered until then,
as long as it stands on one line and is short.

Version 1.2 keeps a closer watch on indentation: a value may stand no further left than one column
to the right of its key, also in brackets.

## Main definitions

- `Yaml.Token`: the tokens.
- `Yaml.Lexer`, `Yaml.Lex`: the state while a text is cut into tokens, and the steps on it.
- `Yaml.Token.listOf?`: the tokens of a text.
-/

namespace MeshRegistry.Yaml

/-- A token. -/
inductive Token where
  /-- A line of three hyphens. -/
  | documentStart
  /-- A line of three points. -/
  | documentEnd
  /-- A directive. -/
  | directive (d : Directive)
  /-- The beginning of a sequence in the block layout. -/
  | blockSequence
  /-- The beginning of a mapping in the block layout. -/
  | blockMapping
  /-- The end of either. -/
  | blockEnd
  /-- An opening bracket. -/
  | flowSequence
  /-- A closing bracket. -/
  | flowSequenceEnd
  /-- An opening brace. -/
  | flowMapping
  /-- A closing brace. -/
  | flowMappingEnd
  /-- A comma between entries. -/
  | flowEntry
  /-- A hyphen before an item. -/
  | blockEntry
  /-- The beginning of a key. -/
  | key
  /-- A colon before a value. -/
  | value
  /-- A reference to an anchor. -/
  | alias (name : String)
  /-- An anchor. -/
  | anchor (name : String)
  /-- A tag. -/
  | tag (t : Tag)
  /-- A scalar. -/
  | scalar (s : Scalar)
deriving DecidableEq, Repr

/-- What was around a column of indentation. -/
structure Indent where
  /-- The column outside of it. -/
  outer : Int
  /-- Whether a mapping or a sequence begins at the column. -/
  isBlock : Bool
deriving DecidableEq, Repr

/-- A place where a key may begin. -/
structure Candidate where
  /-- The first character of the key. -/
  start : Placed
  /-- How many tokens stand before it. -/
  tokens : Nat
  /-- Whether there must be a key. -/
  isRequired : Bool
deriving DecidableEq, Repr

/-- The state while a text is cut into tokens. -/
structure Lexer where
  /-- What is left of the text. -/
  text : List Placed
  /-- The tokens so far. -/
  tokens : Array Token := #[]
  /-- The column of indentation. -/
  indent : Int := -1
  /-- What is around that column, from the inside out. -/
  around : List Indent := []
  /-- The place where a key may begin, for each level of brackets, from the inside out. -/
  candidates : List (Option Candidate) := [none]
  /-- Whether a key may begin at the next token. -/
  mayBeginKey : Bool := true
  /-- For each open bracket, whether a mapping without braces is open in it. -/
  sequences : List Bool := []
  /-- Whether a mapping in brackets has been begun by a brace or a question mark. -/
  hasMapping : Bool := false
  /-- The index at which a colon may stand directly before a value. -/
  adjacent : Option Nat := none
  /-- How many tokens there were after an anchor or a tag at the beginning of a line. -/
  afterProperty : Option Nat := none

/-- A step on the state, which may fail. -/
abbrev Lex : Type → Type := StateT Lexer Option

namespace Lexer

/-- Whether the next character stands in brackets. -/
def inFlow (s : Lexer) : Bool := decide (1 < s.candidates.length)

/-- The place where a key may begin at the present level of brackets. -/
def candidate? (s : Lexer) : Option Candidate := s.candidates.head?.join

/-- The state with another such place. -/
def withCandidate (s : Lexer) (c : Option Candidate) : Lexer :=
  { s with candidates := c :: s.candidates.tail }

/-- The state with one more token at the end. -/
def push (t : Token) (s : Lexer) : Lexer := { s with tokens := s.tokens.push t }

/-- The state with one more token at a place. -/
def insert (place : Nat) (t : Token) (s : Lexer) : Lexer :=
  { s with tokens := s.tokens.insertIdxIfInBounds place t }

/-- The state where the text goes on later. -/
def setText (text : List Placed) (s : Lexer) : Lexer := { s with text }

/-- The state where a key may begin at the next token, or may not. -/
def allowKey (may : Bool) (s : Lexer) : Lexer := { s with mayBeginKey := may }

/-! ## Indentation -/

/-- Leave all indentation beyond a column. -/
def unrollFrom (column : Int) (s : Lexer) : List Indent → Lexer
  | [] => { s with around := [] }
  | i :: rest =>
    if column < s.indent then
      let s := { s with indent := i.outer }
      unrollFrom column (if i.isBlock then s.push .blockEnd else s) rest
    else { s with around := i :: rest }

/-- Leave all indentation beyond a column; in brackets there is none. -/
def unroll (column : Int) (s : Lexer) : Lexer :=
  if s.inFlow then s else unrollFrom column s s.around

/-- Leave the indentation in which nothing begins. -/
def unrollHanging (s : Lexer) : Lexer :=
  match s.around with
  | i :: rest => if i.isBlock then s else { s with indent := i.outer, around := rest }
  | [] => s

/-- Indent by a column in which nothing begins, unless that has been done. -/
def rollHanging (s : Lexer) : Lexer :=
  if !s.inFlow && s.around.head?.any Indent.isBlock then
    { s with indent := s.indent + 1, around := ⟨s.indent, false⟩ :: s.around }
  else s

/-- Begin a mapping or a sequence at a column, if that is further to the right. Its token stands
behind as many tokens as are given. -/
def roll (column place : Nat) (t : Token) (s : Lexer) : Lexer :=
  if s.inFlow then s
  else
    let s := if s.indent ≤ column then s.unrollHanging else s
    if s.indent < column then
      { s with indent := column, around := ⟨s.indent, true⟩ :: s.around }.insert place t
    else s

end Lexer

namespace Lex

open Lexer

/-! ## Keys -/

/-- Forget the place where a key may begin; nothing when a key was required there. -/
def dropCandidate : Lex Unit := do
  let s ← get
  if s.candidate?.any Candidate.isRequired then failure
  set (s.withCandidate none)

/-- Remember that a key may begin at a character. In the block layout it is required at the column
of a mapping. -/
def saveCandidate (start : Placed) : Lex Unit := do
  let s ← get
  if s.mayBeginKey then
    dropCandidate
    let isRequired :=
      !s.inFlow && s.indent == start.column && s.around.head?.any Indent.isBlock
    modify (·.withCandidate (some ⟨start, s.tokens.size, isRequired⟩))

/-- Whether a place is too far back for a key that ends at a character. -/
def isStale (c : Candidate) (p : Placed) : Bool :=
  decide (c.start.line < p.line) || decide (c.start.index + 1024 < p.index)

/-- Forget the places that are too far back; nothing when a key was required at one. In brackets
only version 1.1 does so. -/
def dropStale (v : Version) : Lex Unit := do
  let s ← get
  if !s.inFlow || v == .v1_1 then
    let stale (c : Option Candidate) : Bool := c.any fun c => s.text.head?.any (isStale c)
    if s.candidates.any fun c => stale c && c.any Candidate.isRequired then failure
    set { s with candidates := s.candidates.map fun c => if stale c then none else c }

/-! ## Between tokens -/

/-- What follows blanks, line breaks and comments in version 1.1, and whether a key may begin there.
A tab counts only where no key may begin. -/
def settle1 (inFlow : Bool) (skipping mayBeginKey : Bool) : List Placed → Bool × List Placed
  | [] => (mayBeginKey, [])
  | p :: rest =>
    if p.isBreak then settle1 inFlow false (mayBeginKey || !inFlow) rest
    else if p.isEnd then (mayBeginKey, p :: rest)
    else if skipping then settle1 inFlow true mayBeginKey rest
    else if p.char = '#' then settle1 inFlow true mayBeginKey rest
    else if p.char = ' ' ∨ (p.char = '\ufeff' ∧ p.column = 0) then
      settle1 inFlow false mayBeginKey rest
    else if p.char = '\t' ∧ (inFlow ∨ !mayBeginKey) then settle1 inFlow false mayBeginKey rest
    else (mayBeginKey, p :: rest)

/-- What follows blanks, line breaks and comments in version 1.2, and whether a key may begin there.
A tab may not stand left of the column of a block, unless the line is idle. -/
def settle2? (inFlow : Bool) (least : Int) (skipping mayBeginKey : Bool) :
    List Placed → Option (Bool × List Placed)
  | [] => some (mayBeginKey, [])
  | p :: rest =>
    if p.isBreak then settle2? inFlow least false (mayBeginKey || !inFlow) rest
    else if p.isEnd then some (mayBeginKey, p :: rest)
    else if skipping then settle2? inFlow least true mayBeginKey rest
    else if p.char = '\t' ∧ p.isFresh ∧ (p.column : Int) < least then
      let behind := rest.dropWhile fun q => isBlank q.char
      if atLineEnd behind || frontChar behind == '#' then
        settle2? inFlow least true mayBeginKey rest
      else none
    else if isBlank p.char then settle2? inFlow least false mayBeginKey rest
    else if p.char = '#' then settle2? inFlow least true mayBeginKey rest
    else some (mayBeginKey, p :: rest)

/-- Skip blanks, line breaks and comments. -/
def settle (v : Version) : Lex Unit := do
  let s ← get
  let (may, text) ←
    match v with
    | .v1_1 => some (settle1 s.inFlow false s.mayBeginKey s.text)
    | .v1_2 =>
      let least := if s.around.isEmpty then 0 else s.indent
      settle2? s.inFlow least false s.mayBeginKey s.text
  set { s with text, mayBeginKey := may }

/-- Skip blanks and a comment up to the end of the line. -/
def skipIdle (v : Version) : Lex Unit := do
  let text ← skipIdle? v (← get).text
  modify (·.setText text)

/-- Skip characters. -/
def advance (n : Nat) : Lex Unit := modify fun s => s.setText (s.text.drop n)

/-! ## Documents and directives -/

/-- Leave everything that is open at the beginning of a line that ends or begins a document. -/
def closeAll : Lex Unit := do
  modify (·.unroll (-1))
  dropCandidate
  modify (·.allowKey false)

/-- A directive. -/
def directive (v : Version) : Lex Unit := do
  closeAll
  let (d, rest) ← directive? v (← get).text.tail
  modify fun s => (s.setText rest).push (.directive d)

/-- A line that begins or ends a document. In version 1.2 nothing else may stand on a line that
ends one. -/
def separator (v : Version) (t : Token) : Lex Unit := do
  closeAll
  advance 3
  modify (·.push t)
  if v = .v1_2 ∧ t = .documentEnd then
    skipIdle v
    if !atLineEnd (← get).text then failure

/-! ## Brackets -/

/-- End the mapping without braces that is open in a bracket. -/
def endMapping : Lex Unit := modify fun s =>
  match s.sequences with
  | true :: rest => { s with sequences := false :: rest, hasMapping := false }.push .flowMappingEnd
  | _ => s

/-- The greatest number of brackets that may be open in version 1.2. -/
def greatestDepth : Nat := 255

/-- An opening bracket or brace. -/
def openFlow (v : Version) (p : Placed) (t : Token) : Lex Unit := do
  saveCandidate p
  if v = .v1_2 then
    modify rollHanging
    if greatestDepth < (← get).candidates.length then failure
  modify fun s => { s with candidates := none :: s.candidates, mayBeginKey := true }
  advance 1
  if v = .v1_2 then
    modify fun s =>
      if t = .flowMapping then { s with hasMapping := true }
      else { s with sequences := false :: s.sequences }
    skipIdle v
  modify (·.push t)

/-- A closing bracket or brace. -/
def closeFlow (v : Version) (t : Token) : Lex Unit := do
  dropCandidate
  modify fun s =>
    { s with
      candidates := if s.inFlow then s.candidates.tail else s.candidates
      mayBeginKey := false }
  if v = .v1_2 ∧ t = .flowSequenceEnd then
    endMapping
    modify fun s => { s with sequences := s.sequences.tail }
  advance 1
  if v = .v1_2 then
    skipIdle v
    -- A list or a mapping that is a key may stand directly before its colon.
    modify fun s =>
      if s.inFlow then { s with adjacent := s.text.head?.map Placed.index } else s
  modify (·.push t)

/-- A comma in brackets. -/
def comma (v : Version) : Lex Unit := do
  dropCandidate
  modify (·.allowKey true)
  if v = .v1_2 then endMapping
  advance 1
  if v = .v1_2 then skipIdle v
  modify (·.push .flowEntry)

/-! ## Items, keys and values -/

/-- The blanks behind a hyphen in version 1.2: between two hyphens there may be no tab. -/
def behindHyphen : Lex Unit := do
  let t := (← get).text
  skipIdle .v1_2
  let rest := (← get).text
  let hasTab := (t.takeWhile fun p => isBlank p.char).any fun p => p.char == '\t'
  if hasTab ∧ frontChar rest = '-' ∧ atGap rest.tail then failure
  if rest.head?.any Placed.isBreak ∨ isFlowSign (frontChar rest) then modify rollHanging

/-- A hyphen before an item. -/
def blockEntry (v : Version) (p : Placed) : Lex Unit := do
  let s ← get
  if s.inFlow ∨ !s.mayBeginKey then failure
  if v = .v1_2 ∧ p.column = 0 ∧ -1 < s.indent ∧ s.afterProperty = some s.tokens.size then failure
  advance 1
  modify (·.roll p.column s.tokens.size .blockSequence)
  if v = .v1_2 then behindHyphen
  dropCandidate
  modify fun s => (s.allowKey true).push .blockEntry

/-- What follows spaces, line breaks and comments, which version 1.2 wants behind a question
mark. -/
def keyGap (skipping : Bool) : List Placed → List Placed
  | [] => []
  | p :: rest =>
    if p.isBreak then keyGap false rest
    else if p.isEnd then p :: rest
    else if skipping || p.char == '#' then keyGap true rest
    else if p.char = ' ' then keyGap false rest
    else p :: rest

/-- A question mark before a key. -/
def key (v : Version) (p : Placed) : Lex Unit := do
  let s ← get
  if !s.inFlow then
    if !s.mayBeginKey then failure
    modify (·.roll p.column s.tokens.size .blockMapping)
  dropCandidate
  modify fun s => { s.allowKey (!s.inFlow) with hasMapping := s.hasMapping || s.inFlow }
  advance 1
  if v = .v1_2 then
    let t := (← get).text
    if !t.head?.any fun q => q.char == ' ' || q.isBreak then failure
    let rest := keyGap false t
    if frontChar rest = '\t' then failure
    modify (·.setText rest)
  modify (·.push .key)

/-- The blanks behind a colon in version 1.2: a word may not be separated by tabs alone. -/
def behindColon : Lex Unit := do
  let t := (← get).text
  if frontChar t = '\t' then
    skipIdle .v1_2
    let hasSpace := (t.takeWhile fun p => isBlank p.char).any fun p => p.char == ' '
    if !hasSpace ∧ isWordChar (frontChar (← get).text) then failure

/-- A colon before a value. -/
def value (v : Version) (p : Placed) : Lex Unit := do
  let s ← get
  -- In brackets a mapping may be written without braces.
  let isBare := v == .v1_2 && !s.sequences.isEmpty && !s.hasMapping
  if isBare then set { s with sequences := true :: s.sequences.tail }
  advance 1
  if v = .v1_2 then behindColon
  match s.candidate? with
  | some c =>
    modify (·.insert c.tokens .key)
    if isBare then
      if c.start.line < p.line then failure
      modify (·.insert c.tokens .flowMapping)
    modify fun s =>
      (s.roll c.start.column c.tokens .blockMapping).withCandidate none |>.allowKey false
  | none =>
    if isBare then modify (·.push .flowMapping)
    if !s.inFlow then
      if !s.mayBeginKey then failure
      modify fun s => s.roll p.column s.tokens.size .blockMapping
    modify (·.allowKey (!s.inFlow))
  if v = .v1_2 then modify rollHanging
  modify (·.push .value)

/-! ## Properties and scalars -/

/-- An anchor or an alias. -/
def reference (v : Version) (p : Placed) (isAlias : Bool) : Lex Unit := do
  saveCandidate p
  modify (·.allowKey false)
  let (name, rest) ← anchor? v (← get).text.tail
  modify fun s => (s.setText rest).push (if isAlias then .alias name else .anchor name)
  if p.column = 0 ∧ !isAlias then modify fun s => { s with afterProperty := some s.tokens.size }

/-- A tag. -/
def tag (v : Version) (p : Placed) : Lex Unit := do
  saveCandidate p
  modify (·.allowKey false)
  let s ← get
  let (t, rest) ← tag? v s.inFlow s.text
  modify fun s => (s.setText rest).push (.tag t)
  if p.column = 0 then modify fun s => { s with afterProperty := some s.tokens.size }

/-- Whether a scalar between quotes, which begins at a character, may stand before what follows it
in version 1.2. -/
def endsQuoted (inFlow : Bool) (p : Placed) (rest : List Placed) : Bool :=
  let c := frontChar rest
  atLineEnd rest || (inFlow && (c == ',' || c == ']' || c == '\x7d'))
    || (c == ':' && (inFlow || rest.head?.any fun q => q.line == p.line))

/-- A scalar between quotes. -/
def quoted (v : Version) (p : Placed) : Lex Unit := do
  saveCandidate p
  modify (·.allowKey false)
  let s ← get
  let (scalar, rest) ← quoted? ⟨v, s.inFlow, s.indent⟩ p.char s.text.tail
  modify (·.setText rest)
  if v = .v1_2 then
    skipIdle v
    if !endsQuoted s.inFlow p (← get).text then failure
    settle v
    modify fun s => { s with adjacent := s.text.head?.map Placed.index }
  modify (·.push (.scalar scalar))

/-- A scalar in a block. -/
def block (v : Version) (p : Placed) : Lex Unit := do
  saveCandidate p
  modify fun s => (s.allowKey true).unrollHanging
  let s ← get
  let (scalar, rest) ← block? v s.indent (p.char == '>') s.text.tail
  modify fun s => (s.setText rest).push (.scalar scalar)

/-- A plain scalar. A key may begin on the line behind it. -/
def plain (v : Version) (p : Placed) : Lex Unit := do
  saveCandidate p
  modify fun s => (s.allowKey false).unrollHanging
  let s ← get
  let least := s.indent + 1
  if v = .v1_2 ∧ s.inFlow ∧ (p.column : Int) < least then failure
  let (scalar, isBroken, rest) ← plain? ⟨v, s.inFlow, least⟩ s.text
  modify fun s => ((s.allowKey isBroken).setText rest).push (.scalar scalar)

/-! ## All tokens -/

/-- Whether a colon at the front of a text stands before a value. -/
def isValue (v : Version) (s : Lexer) (p : Placed) (rest : List Placed) : Bool :=
  atGap rest || (s.inFlow &&
    (v == .v1_1 || isFlowSign (frontChar rest) || s.adjacent == some p.index))

/-- Whether a colon stands directly before brackets, where that is not allowed in version 1.2. -/
def isTight (v : Version) (s : Lexer) (p : Placed) (rest : List Placed) : Bool :=
  v == .v1_2 && s.adjacent != some p.index && (frontChar rest == '[' || frontChar rest == '\x7b')

/-- Whether a plain scalar may begin with a character, which is no other token's beginning. -/
def beginsPlain (v : Version) (s : Lexer) (c : Char) : Bool :=
  match v with
  | .v1_1 => !"|>%@\x60\t".toList.contains c && !(s.inFlow && (c == '?' || c == ':'))
  | .v1_2 => !"%@\x60".toList.contains c

/-- The token that begins with the character at the front of a text. -/
def content (v : Version) (p : Placed) (rest : List Placed) : Lex Unit := do
  let s ← get
  if p.char = '[' then openFlow v p .flowSequence
  else if p.char = '\x7b' then openFlow v p .flowMapping
  else if p.char = ']' then closeFlow v .flowSequenceEnd
  else if p.char = '\x7d' then closeFlow v .flowMappingEnd
  else if p.char = ',' then comma v
  else if p.char = '-' ∧ atGap rest then blockEntry v p
  else if p.char = '?' ∧ (atGap rest ∨ (v = .v1_1 ∧ s.inFlow)) then key v p
  else if p.char = ':' ∧ isValue v s p rest then
    if isTight v s p rest then failure else value v p
  else if p.char = '*' then reference v p true
  else if p.char = '&' then reference v p false
  else if p.char = '!' then tag v p
  else if (p.char = '|' ∨ p.char = '>') ∧ !s.inFlow then block v p
  else if p.char = '\'' ∨ p.char = '"' then quoted v p
  else if beginsPlain v s p.char then plain v p
  else failure

/-- The next token, with all that ends before it. The result says whether the text goes on. -/
def next (v : Version) : Lex Bool := do
  settle v
  dropStale v
  match (← get).text with
  | [] => failure
  | p :: rest => do
    if p.isEnd then
      closeAll
      return false
    modify (·.unroll p.column)
    let s ← get
    if p.column = 0 ∧ p.char = '%' then directive v
    else if atMarker '-' s.text then separator v .documentStart
    else if atMarker '.' s.text then separator v .documentEnd
    else if v = .v1_2 ∧ (p.column : Int) < s.indent then failure
    else content v p rest
    return true

/-- All tokens; each takes at least one character. -/
def all (v : Version) : Nat → Lex Unit
  | 0 => failure
  | n + 1 => do if ← next v then all v n

end Lex

/-- The tokens of a text. -/
def Token.listOf? (v : Version) (s : String) : Option (List Token) := do
  let text ← placed? v s
  let (_, final) ← (Lex.all v (text.length + 1)).run { text }
  return final.tokens.toList

end MeshRegistry.Yaml
