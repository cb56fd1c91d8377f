import MeshRegistry.Yaml.Token
/-!
# Documents of YAML

Tokens are read as documents, and a document as a tree of scalars, sequences, mappings and
references. What is left out, such as a value behind its colon, is an empty scalar.

An anchor gets a number when it is read, and a reference has the number that its name stands for
at that point, since a name may be given again. In version 1.1 the number is how many names there
are already, so that an anchor whose name is given again shares its number with the next new one.

## Main definitions

- `Yaml.Node`: the trees.
- `Yaml.Node.documents?`: the documents of a text.
-/

namespace MeshRegistry.Yaml

/-- What a node has besides its content. -/
structure Properties where
  /-- The number of its anchor. -/
  anchor : Option Nat := none
  /-- Its tag, whose handle has been replaced by what it stands for. -/
  tag : Option Tag := none
deriving DecidableEq, Repr

/-- A node of a document. -/
inductive Node where
  /-- A scalar. -/
  | scalar (properties : Properties) (s : Scalar)
  /-- A sequence. -/
  | sequence (properties : Properties) (items : List Node)
  /-- A mapping, with its keys and values in turn. -/
  | mapping (properties : Properties) (parts : List Node)
  /-- A reference to the node whose anchor has a number. -/
  | reference (anchor : Nat)
deriving Inhabited

/-- The scalar that stands where nothing is written. -/
def Node.missing : Node := .scalar {} ⟨true, ""⟩

/-- The state while tokens are read. -/
structure Reading where
  /-- What is left of the tokens. -/
  tokens : List Token
  /-- What the handles of tags stand for. -/
  handles : List (String × String) := []
  /-- The numbers that the names of anchors stand for. -/
  names : List (String × Nat) := []
  /-- How many anchors there were. -/
  anchors : Nat := 0

/-- A step on the tokens, which may fail. -/
abbrev Read : Type → Type := StateT Reading Option

namespace Read

/-! ## Single tokens -/

/-- The next token. -/
def peek : Read (Option Token) := do return (← get).tokens.head?

/-- Pass over the next token. -/
def skip : Read Unit := modify fun r => { r with tokens := r.tokens.tail }

/-- Whether the next token is one of some; nothing is passed over. -/
def atOneOf (ts : List Token) : Read Bool := do return (← peek).any ts.contains

/-- Pass over the next token, if it is a given one, and say whether it was. -/
def accept (t : Token) : Read Bool := do
  if (← peek) = some t then
    skip
    return true
  else return false

/-- Pass over the next token, which must be a given one. -/
def expect (t : Token) : Read Unit := do if !(← accept t) then failure

/-! ## Properties -/

/-- The number of a new anchor. -/
def newAnchor (v : Version) (name : String) : Read Nat := do
  let r ← get
  let number :=
    match v with
    | .v1_1 => r.names.length
    | .v1_2 => r.anchors
  let names := (name, number) :: r.names.filter fun n => n.1 != name
  set { r with names, anchors := r.anchors + 1 }
  return number

/-- A tag with its handle replaced by what it stands for. A full handle must have been given a
meaning, except for the one of the core kinds. -/
def resolve (t : Tag) : Read Tag := do
  match (← get).handles.lookup t.handle with
  | some meaning => return { t with handle := meaning }
  | none =>
    if t.handle = "!!" then return { t with handle := Tag.core }
    else if isFullHandle t.handle.toList then failure
    else return t

/-- The tag at the front, if there is one. -/
def tagAtFront : Read (Option Tag) := do
  match ← peek with
  | some (.tag t) => skip; return some (← resolve t)
  | _ => return none

/-- The anchor at the front, if there is one. -/
def anchorAtFront (v : Version) : Read (Option Nat) := do
  match ← peek with
  | some (.anchor name) => skip; return some (← newAnchor v name)
  | _ => return none

/-- The anchor and the tag at the front, in either order. -/
def properties (v : Version) : Read Properties := do
  let tag ← tagAtFront
  let anchor ← anchorAtFront v
  let tag ← if tag.isSome then pure tag else tagAtFront
  return { anchor, tag }

/-! ## Nodes -/

/-- A node without content, which must have an anchor or a tag. -/
def empty (ps : Properties) : Read Node :=
  if ps = {} then failure else return .scalar ps ⟨true, ""⟩

mutual

/-- A node. One in brackets is not in the block layout; the items of a sequence may stand at the
column of the key that they belong to. -/
def node (v : Version) : Nat → (inBlock atKey : Bool) → Read Node
  | 0, _, _ => failure
  | n + 1, inBlock, atKey => do
    if let some (.alias name) := ← peek then
      skip
      match (← get).names.lookup name with
      | some number => return .reference number
      | none => failure
    let ps ← properties v
    match ← peek with
    | some .blockEntry => if atKey then return .sequence ps (← keyItems v n) else empty ps
    | some (.scalar s) => skip; return .scalar ps s
    | some .flowSequence => skip; return .sequence ps (← flowItems v n true)
    | some .flowMapping => skip; return .mapping ps (← flowParts v n true)
    | some .blockSequence =>
      if inBlock then skip; return .sequence ps (← blockItems v n) else empty ps
    | some .blockMapping =>
      if inBlock then skip; return .mapping ps (← blockParts v n) else empty ps
    | _ => empty ps

/-- A node, unless the next token is one of some, before which nothing is written. -/
def nodeBefore (v : Version) : Nat → (inBlock atKey : Bool) → List Token → Read Node
  | 0, _, _, _ => failure
  | n + 1, inBlock, atKey, ends => do
    if ← atOneOf ends then return .missing else node v n inBlock atKey

/-- The items of a sequence at the column of its key. -/
def keyItems (v : Version) : Nat → Read (List Node)
  | 0 => failure
  | n + 1 => do
    if ← accept .blockEntry then
      let item ← nodeBefore v n true false [.blockEntry, .key, .value, .blockEnd]
      return item :: (← keyItems v n)
    else return []

/-- The items of a sequence in the block layout. -/
def blockItems (v : Version) : Nat → Read (List Node)
  | 0 => failure
  | n + 1 => do
    if ← accept .blockEnd then return []
    expect .blockEntry
    let item ← nodeBefore v n true false [.blockEntry, .blockEnd]
    return item :: (← blockItems v n)

/-- The keys and values of a mapping in the block layout. In version 1.2 a key may be left out. -/
def blockParts (v : Version) : Nat → Read (List Node)
  | 0 => failure
  | n + 1 => do
    let ends : List Token := [.key, .value, .blockEnd]
    if ← accept .blockEnd then return []
    let k ←
      if ← accept .key then nodeBefore v n true true ends
      else if v = .v1_2 ∧ (← atOneOf [.value]) then pure Node.missing
      else failure
    let x ← if ← accept .value then nodeBefore v n true true ends else pure Node.missing
    return k :: x :: (← blockParts v n)

/-- The items of a sequence in brackets. -/
def flowItems (v : Version) : Nat → (atFirst : Bool) → Read (List Node)
  | 0, _ => failure
  | n + 1, atFirst => do
    if ← accept .flowSequenceEnd then return []
    if !atFirst then expect .flowEntry
    if ← accept .flowSequenceEnd then return []
    let item ← if ← accept .key then pairItem v n else node v n false false
    return item :: (← flowItems v n false)

/-- A mapping without braces that is an item in brackets, behind the beginning of its key. A key
that is left out takes the token behind it with it. -/
def pairItem (v : Version) : Nat → Read Node
  | 0 => failure
  | n + 1 => do
    let isLeftOut ← atOneOf [.value, .flowEntry, .flowSequenceEnd]
    if isLeftOut then skip
    let k ← if isLeftOut then pure Node.missing else node v n false false
    let x ←
      if ← accept .value then nodeBefore v n false false [.flowEntry, .flowSequenceEnd]
      else pure Node.missing
    return .mapping {} [k, x]

/-- The keys and values of a mapping in braces. In version 1.2 a key may be left out. -/
def flowParts (v : Version) : Nat → (atFirst : Bool) → Read (List Node)
  | 0, _ => failure
  | n + 1, atFirst => do
    if ← accept .flowMappingEnd then return []
    if !atFirst then expect .flowEntry
    if ← accept .flowMappingEnd then return []
    let (k, x) ←
      if ← accept .key then
        let k ← nodeBefore v n false false [.value, .flowEntry, .flowMappingEnd]
        pure (k, ← flowValue v n)
      else if v = .v1_2 ∧ (← atOneOf [.value]) then pure (Node.missing, ← flowValue v n)
      else pure (← node v n false false, Node.missing)
    return k :: x :: (← flowParts v n false)

/-- A value in braces, which may be left out together with its colon. -/
def flowValue (v : Version) : Nat → Read Node
  | 0 => failure
  | n + 1 => do
    if ← accept .value then nodeBefore v n false false [.flowEntry, .flowMappingEnd]
    else return .missing

end

/-! ## Documents -/

/-- The directives before a document. The version may be given once, and in version 1.1 it must be
known; there all handles keep their meaning, in version 1.2 only the one in the last directive. -/
def directives (v : Version) : Nat → (hasVersion : Bool) → Read Unit
  | 0, _ => failure
  | n + 1, hasVersion => do
    match ← peek with
    | some (.directive (.version major minor)) =>
      let isKnown := major == 1 && (minor == 1 || minor == 2)
      if hasVersion ∨ (v = .v1_1 ∧ !isKnown) then failure
      skip
      modify fun r => if v = .v1_2 then { r with handles := [] } else r
      directives v n true
    | some (.directive (.handle name meaning)) =>
      let r ← get
      let handles := if v = .v1_2 then [] else r.handles
      if (handles.lookup name).isSome then failure
      set { r with handles := (name, meaning) :: handles }
      skip
      directives v n hasVersion
    | _ => return ()

/-- Pass over ends of documents. -/
def skipEnds : Nat → Read Unit
  | 0 => return ()
  | n + 1 => do if ← accept .documentEnd then skipEnds n

/-- Whether the next token is a directive. -/
def atDirective : Read Bool := do
  match ← peek with
  | some (.directive _) => return true
  | _ => return false

/-- What belongs to a document behind the line that begins it. -/
def body (v : Version) (n : Nat) : Read Node := do
  if (← peek).isNone ∨ (← atDirective) ∨ (← atOneOf [.documentStart, .documentEnd]) then
    return .missing
  else node v n true false

/-- The end of a document. The result says whether it is marked. In version 1.2 it must be when
directives follow. -/
def ending (v : Version) : Read Bool := do
  let isMarked ← accept .documentEnd
  if v = .v1_2 ∧ !isMarked ∧ (← atDirective) then failure
  modify fun r => { r with handles := [] }
  return isMarked

/-- The documents. The first one may begin without a line that says so, and in version 1.2 also
one behind a marked end. -/
def documents (v : Version) (size : Nat) : Nat → (mayBeBare : Bool) → Read (List Node)
  | 0, _ => failure
  | n + 1, mayBeBare => do
    if v = .v1_2 ∨ !mayBeBare then skipEnds size
    if (← peek).isNone then return []
    modify fun r => { r with names := [] }
    let isBare := mayBeBare && !(← atDirective) && !(← atOneOf [.documentStart])
    if !isBare then
      directives v size false
      expect .documentStart
    let root ← if isBare then node v size true false else body v size
    let isMarked ← ending v
    return root :: (← documents v size n (v == .v1_2 && isMarked))

end Read

/-- The documents of a text. -/
def Node.documents? (v : Version) (s : String) : Option (List Node) := do
  let tokens ← Token.listOf? v s
  let size := 4 * tokens.length + 8
  let (nodes, _) ← (Read.documents v size size true).run { tokens, anchors := 0 }
  return nodes

end MeshRegistry.Yaml
