import Ratchet.Yaml.Token.Mark
import Ratchet.Yaml.Token.Scalar

namespace Ratchet

/-!
# Reading tokens

Indentation and keys need memory.  A block ends where the text moves back to
the left of it.  That a scalar was a key shows only when the colon after it is
met, so the place of every token that may begin a key is kept until the line
ends, and the key's mark is put in front of it afterwards.
-/

namespace Yaml

/-- A token that may turn out to begin a key. -/
structure PossibleKey where
  /-- The number of tokens before it. -/
  position : Nat
  /-- It can be nothing but a key. -/
  required : Bool
  index : Nat
  line : Nat
  column : Nat

/-- What the reading of tokens remembers. -/
structure Reader where
  tokens : Array Token := #[]
  flowLevel : Nat := 0
  indent : Int := -1
  outer : List Int := []
  keyAllowed : Bool := true
  keys : List (Nat × PossibleKey) := []

/-- Reading with that memory. -/
abbrev Reading := StateT Reader Scan

namespace Reading

def fault {α : Type} : Reading α := throw .malformed

def place : Reading Cursor := Scan.here

def push (token : Token) : Reading Unit :=
  modify fun r => { r with tokens := r.tokens.push token }

def inFlow : Reading Bool := do return (← get).flowLevel != 0

def allowKey (allowed : Bool) : Reading Unit :=
  modify fun r => { r with keyAllowed := allowed }

/-- Forgets the possible key of the present level, which must not be one that
is required. -/
def dropKey : Reading Unit := do
  let r ← get
  match r.keys.lookup r.flowLevel with
  | none => return ()
  | some key =>
    if key.required then fault
    set { r with keys := r.keys.filter fun entry => entry.1 != r.flowLevel }

/-- Forgets possible keys that are too far away. -/
def dropStaleKeys : Reading Unit := do
  let r ← get
  let c ← place
  let stale (key : PossibleKey) : Bool := key.line != c.line || 1024 < c.index - key.index
  if r.keys.any fun entry => stale entry.2 && entry.2.required then fault
  set { r with keys := r.keys.filter fun entry => !stale entry.2 }

/-- Remembers that the next token may begin a key. -/
def saveKey : Reading Unit := do
  let r ← get
  if r.keyAllowed then
    dropKey
    let c ← place
    let required := r.flowLevel == 0 && r.indent == (c.column : Int)
    modify fun r => { r with
      keys := (r.flowLevel, ⟨r.tokens.size, required, c.index, c.line, c.column⟩) :: r.keys }

/-- Ends the blocks to the right of a column. -/
def unwind (column : Int) : Reading Unit := do
  let r ← get
  if r.flowLevel == 0 then
    let rec go (indent : Int) (tokens : Array Token) : List Int → Int × Array Token × List Int
      | [] => (indent, tokens, [])
      | next :: rest =>
        if column < indent then go next (tokens.push .blockEnd) rest
        else (indent, tokens, next :: rest)
    let (indent, tokens, outer) := go r.indent r.tokens r.outer
    set { r with indent, tokens, outer }

/-- Begins a block at a column, if it lies to the right of the present one. -/
def indentTo (column : Nat) : Reading Bool := do
  let r ← get
  if r.indent < (column : Int) then
    set { r with indent := column, outer := r.indent :: r.outer }
    return true
  else return false

/-- Passes spaces, comments and line breaks. -/
def toNextToken : Nat → Reading Unit
  | 0 => return ()
  | fuel + 1 => do
    Scan.spaces
    Scan.comment
    if isBreak (← Scan.peek) then
      let _ ← Scan.lineBreak
      if !(← inFlow) then allowKey true
      toNextToken fuel

/-! ## One token after another -/

def documentMark (token : Token) : Reading Unit := do
  unwind (-1)
  dropKey
  allowKey false
  Scan.skip 3
  push token

def directive : Reading Unit := do
  unwind (-1)
  dropKey
  allowKey false
  push (← Mark.directive)

def flowStart (token : Token) : Reading Unit := do
  saveKey
  modify fun r => { r with flowLevel := r.flowLevel + 1 }
  allowKey true
  Scan.skip 1
  push token

def flowEnd (token : Token) : Reading Unit := do
  if !(← inFlow) then fault
  dropKey
  modify fun r => { r with flowLevel := r.flowLevel - 1 }
  allowKey false
  Scan.skip 1
  push token

def flowEntry : Reading Unit := do
  allowKey true
  dropKey
  Scan.skip 1
  push .flowEntry

def blockEntry : Reading Unit := do
  if !(← inFlow) then
    if !(← get).keyAllowed then fault
    if ← indentTo (← place).column then push .blockSequenceStart
  allowKey true
  dropKey
  Scan.skip 1
  push .blockEntry

def explicitKey : Reading Unit := do
  if !(← inFlow) then
    if !(← get).keyAllowed then fault
    if ← indentTo (← place).column then push .blockMappingStart
  allowKey (!(← inFlow))
  dropKey
  Scan.skip 1
  push .key

def insertAt (position : Nat) (token : Token) : Reading Unit :=
  modify fun r => { r with
    tokens := (r.tokens.extract 0 position).push token ++
      r.tokens.extract position r.tokens.size }

def value : Reading Unit := do
  let r ← get
  match r.keys.lookup r.flowLevel with
  | some key =>
    set { r with keys := r.keys.filter fun entry => entry.1 != r.flowLevel }
    insertAt key.position .key
    if !(← inFlow) then
      if ← indentTo key.column then insertAt key.position .blockMappingStart
    allowKey false
  | none =>
    if !(← inFlow) then
      if !r.keyAllowed then fault
      if ← indentTo (← place).column then push .blockMappingStart
    allowKey (!(← inFlow))
    dropKey
  Scan.skip 1
  push .value

/-- A token that a key may begin with. -/
def content (read : Scan Token) : Reading Unit := do
  saveKey
  allowKey false
  push (← read)

def quotedScalar : Scan Token := do return .scalar (String.ofList (← Scalar.quoted)) false

def plainScalar : Reading Unit := do
  saveKey
  allowKey false
  let (text, ended) ← Scalar.plain (← inFlow) (← get).indent
  if ended then allowKey true
  push (.scalar (String.ofList text) true)

def blockScalar : Reading Unit := do
  allowKey true
  dropKey
  push (.scalar (String.ofList (← Scalar.block (← get).indent)) false)

/-- True where a plain scalar can begin. -/
def startsPlain (inFlow : Bool) (c next : Char) : Bool :=
  let marks := ['-', '?', ':', ',', '[', ']', '{', '}', '#', '&', '*', '!', '|', '>', '\'', '"',
    '%', '@', '`']
  (!isWideGap c && !marks.contains c) ||
    (!isWideGap next && (c == '-' || (!inFlow && (c == '?' || c == ':'))))

/-- The end of the document. -/
def streamEnd : Reading Unit := do
  unwind (-1)
  dropKey
  push .streamEnd

/-- Reads the next token; false at the end. -/
def next : Reading Bool := do
  let start ← place
  if start.index == 0 && start.peek 0 == '\uFEFF' then Scan.skip 1
  toNextToken (← Scan.fuel)
  dropStaleKeys
  let c ← place
  unwind c.column
  let flow ← inFlow
  let first := c.peek 0
  let second := c.peek 1
  if first == ending then
    streamEnd
    return false
  let mark ← Scan.atMark
  if first == '%' && c.column == 0 then directive
  else if first == '-' && c.column == 0 && mark then documentMark .documentStart
  else if first == '.' && c.column == 0 && mark then documentMark .documentEnd
  else if first == '[' then flowStart .flowSequenceStart
  else if first == '{' then flowStart .flowMappingStart
  else if first == ']' then flowEnd .flowSequenceEnd
  else if first == '}' then flowEnd .flowMappingEnd
  else if first == ',' then flowEntry
  else if first == '-' && isWideGap second then blockEntry
  else if first == '?' && (flow || isWideGap second) then explicitKey
  else if first == ':' && (flow || isWideGap second) then value
  else if first == '*' then content (do return .alias (← Mark.name))
  else if first == '&' then content (do return .anchor (← Mark.name))
  else if first == '!' then content Mark.tag
  else if (first == '|' || first == '>') && !flow then blockScalar
  else if first == '\'' || first == '"' then content quotedScalar
  else if startsPlain flow first second then plainScalar
  else fault
  return true

/-- Reads every token up to a fault. -/
def all : Nat → Reading (Option Error)
  | 0 => return none
  | fuel + 1 => do
    let more ← tryCatch (Except.ok <$> next) fun fault => pure (Except.error fault)
    match more with
    | .ok true => all fuel
    | .ok false => return none
    | .error fault => return some fault

/-- The number of tokens before the first one that may still turn out to begin a
key. -/
def settledCount (r : Reader) : Nat :=
  r.keys.foldl (fun count entry => min count entry.2.position) r.tokens.size

end Reading

namespace Token

/-- The tokens of a document, and the fault that ended the reading.  A token
that may still begin a key when the fault is met counts as not read, nor do
those after it, since it is not known what stands before it. -/
def readAll (document : String) : Except Error (List Token × Option Error) := do
  let cs := document.toList
  if !cs.all isAllowed then throw .malformed
  let reading : Reading (Option Error) := do
    let fault ← Reading.all (cs.length + 2)
    if fault.isSome then Reading.dropStaleKeys
    return fault
  let ((fault, reader), _) ← StateT.run (StateT.run reading {}) { ahead := cs }
  let count := if fault.isSome then Reading.settledCount reader else reader.tokens.size
  return ((reader.tokens.extract 0 count).toList, fault)

end Token

end Yaml

end Ratchet
