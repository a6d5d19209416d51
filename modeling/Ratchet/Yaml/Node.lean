import Ratchet.Text.Cut
import Ratchet.Yaml.Token.Reader

namespace Ratchet

/-!
# Nodes of a document

A document is a tree of nodes, each with a tag that says what it is.  A scalar
without a tag gets one from its text if it is plain, and is a text otherwise.
An alias stands for the whole node that carries its anchor, also inside that
node.
-/

namespace Yaml

/-- The beginning of the tags that have a meaning here. -/
def standardTag : String := "tag:yaml.org,2002:"

/-- A part of a document. -/
inductive Node where
  | scalar (tag : String) (text : String)
  | sequence (tag : String) (items : List Node)
  | mapping (tag : String) (entries : List (Node × Node))
  /-- The node of an anchor, inside that node itself. -/
  | again (anchor : String)
  deriving Inhabited

namespace Node

def tag : Node → String
  | .scalar tag _ => tag
  | .sequence tag _ => tag
  | .mapping tag _ => tag
  | .again _ => ""

end Node

/-! ## Tags of plain scalars -/

namespace Plain

/-- Texts written alike but for their case: small, capital first, or
capitals. -/
def cases (word : String) : List String :=
  let cs := word.toList
  [word, String.ofList (match cs with
    | c :: rest => c.toUpper :: rest
    | [] => []), String.ofList (cs.map Char.toUpper)]

def booleans : List String :=
  ["yes", "no", "true", "false", "on", "off"].flatMap cases

def nulls : List String := ["~", ""] ++ cases "null"

/-- The text after an optional sign. -/
def unsigned : List Char → List Char
  | '+' :: rest => rest
  | '-' :: rest => rest
  | cs => cs

/-- Digits and underscores, the first one a digit. -/
def isDigits : List Char → Bool
  | c :: rest => c.isDigit && rest.all fun c => c.isDigit || c == '_'
  | [] => false

/-- Groups of at most two digits below sixty, each after a colon, at least
one. -/
def isSexagesimal (groups : List (List Char)) : Bool :=
  !groups.isEmpty && groups.all fun group => match group with
    | [c] => c.isDigit
    | [c, d] => '0' ≤ c && c ≤ '5' && d.isDigit
    | _ => false

/-- A whole number in one of its five forms. -/
def isInteger (cs : List Char) : Bool :=
  match unsigned cs with
  | '0' :: 'b' :: rest => !rest.isEmpty && rest.all fun c => c == '0' || c == '1' || c == '_'
  | '0' :: 'x' :: rest => !rest.isEmpty && rest.all fun c =>
      c.isDigit || ('a' ≤ c && c ≤ 'f') || ('A' ≤ c && c ≤ 'F') || c == '_'
  | ['0'] => true
  | '0' :: rest => rest.all fun c => ('0' ≤ c && c ≤ '7') || c == '_'
  | body =>
    match Cut.pieces ':' body with
    | first :: groups =>
      isDigits first && first.head? != some '0' && (groups.isEmpty || isSexagesimal groups)
    | [] => false

/-- An exponent with a sign, or nothing. -/
def isExponent : List Char → Bool
  | [] => true
  | e :: sign :: digits =>
    (e == 'e' || e == 'E') && (sign == '+' || sign == '-') && !digits.isEmpty &&
      digits.all Char.isDigit
  | _ => false

/-- Digits and underscores, then an exponent or nothing. -/
def isFraction (cs : List Char) : Bool :=
  isExponent (cs.dropWhile fun c => c.isDigit || c == '_')

/-- A number with a decimal point, or one of the named ones. -/
def isDecimal (cs : List Char) : Bool :=
  let body := unsigned cs
  let signed := body.length < cs.length
  if (cases "inf").any fun word => body == '.' :: word.toList then true
  else if !signed && [".nan", ".NaN", ".NAN"].any fun word => body == word.toList then true
  else
    match Cut.atFirst? '.' body with
    | none => false
    | some ([], after) => !signed && isDigits (after.take 1) && isFraction after
    | some (before, after) =>
      (isDigits before && isFraction after) ||
        (match Cut.pieces ':' before with
          | first :: groups =>
            isDigits first && isSexagesimal groups && after.all fun c => c.isDigit || c == '_'
          | [] => false)

/-- Between a least and a greatest count of digits, and what follows. -/
def takeDigits? (least most : Nat) (cs : List Char) : Option (Nat × List Char) :=
  let digits := (cs.takeWhile Char.isDigit).take most
  if digits.length < least then none
  else some (digits.foldl (fun n c => n * 10 + (c.toNat - 48)) 0, cs.drop digits.length)

/-- The text after an expected character. -/
def after? (c : Char) : List Char → Option (List Char)
  | d :: rest => if c = d then some rest else none
  | [] => none

/-- The parts of a moment as written. -/
structure Stamp where
  year : Nat
  month : Nat
  day : Nat
  time : Option (Nat × Nat × Nat)
  fraction : List Char := []
  /-- Sign, hours and minutes of the offset; zero for `Z`. -/
  offset : Option (Bool × Nat × Nat) := none

/-- An offset at the end of a moment, after blanks. -/
def offset? (cs : List Char) : Option (Option (Bool × Nat × Nat)) :=
  match cs with
  | [] => some none
  | _ =>
    match cs.dropWhile fun c => c == ' ' || c == '\t' with
    | ['Z'] => some (some (false, 0, 0))
    | sign :: rest => do
      if sign ≠ '+' ∧ sign ≠ '-' then none
      let (hours, rest) ← takeDigits? 1 2 rest
      match rest with
      | [] => pure (some (sign == '-', hours, 0))
      | ':' :: rest => do
        let (minutes, rest) ← takeDigits? 2 2 rest
        if rest.isEmpty then pure (some (sign == '-', hours, minutes)) else none
      | _ => none
    | [] => none

/-- The time of day and the offset of a moment. -/
def time? (year month day : Nat) (cs : List Char) : Option Stamp := do
  let cs ← match cs with
    | c :: rest =>
      if c = 'T' ∨ c = 't' then some rest
      else if c = ' ' ∨ c = '\t' then some (rest.dropWhile fun c => c == ' ' || c == '\t')
      else none
    | [] => none
  let (hour, cs) ← takeDigits? 1 2 cs
  let (minute, cs) ← takeDigits? 2 2 (← after? ':' cs)
  let (second, cs) ← takeDigits? 2 2 (← after? ':' cs)
  let (fraction, cs) := match cs with
    | '.' :: rest => (rest.takeWhile Char.isDigit, rest.dropWhile Char.isDigit)
    | _ => ([], cs)
  pure { year, month, day, time := some (hour, minute, second), fraction, offset := ← offset? cs }

/-- The date or moment that a text has the form of.  A date alone has two
digits for month and day; `lenient` allows one. -/
def stamp? (lenient : Bool) (cs : List Char) : Option Stamp := do
  let (year, cs) ← takeDigits? 4 4 cs
  let cs ← after? '-' cs
  let (month, rest) ← takeDigits? 1 2 cs
  let monthDigits := cs.length - rest.length
  let rest ← after? '-' rest
  let (day, tail) ← takeDigits? 1 2 rest
  let dayDigits := rest.length - tail.length
  if tail.isEmpty then
    if lenient || (monthDigits == 2 && dayDigits == 2) then
      pure { year, month, day, time := none }
    else none
  else time? year month day tail

/-- The text before a line break that ends it. -/
def beforeBreak (cs : List Char) : List Char :=
  if cs.getLast? = some '\n' then cs.dropLast else cs

/-- The kind of thing that a plain scalar is by its text.  A line break at its
end does not count, unless it is the whole text. -/
def kind (text : String) : String :=
  let cs := if text = "\n" then text.toList else beforeBreak text.toList
  let text := String.ofList cs
  if nulls.contains text then "null"
  else if booleans.contains text then "bool"
  else if isInteger cs then "int"
  else if isDecimal cs then "float"
  else if text == "<<" then "merge"
  else if text == "=" then "value"
  else if (stamp? false cs).isSome then "timestamp"
  else "str"

end Plain

/-! ## From tokens to nodes -/

namespace Node

/-- Handles of tags and the beginnings they stand for. -/
abbrev Handles := List (String × String)

def usualHandles : Handles := [("!", "!"), ("!!", standardTag)]

/-- What the building of nodes remembers: the tokens ahead, the fault that ended
them, the anchors that were met, and the finished nodes that have one. -/
structure Builder where
  tokens : List Token
  ended : Option Error := none
  handles : Handles := usualHandles
  met : List String := []
  anchors : List (String × Node) := []

abbrev Building := StateT Builder (Except Error)

namespace Building

def fault {α : Type} : Building α := throw .malformed

/-- The next token; the fault that ended the tokens is met where they are
missed. -/
def peek : Building Token := do
  let b ← get
  match b.tokens, b.ended with
  | token :: _, _ => return token
  | [], none => return .streamEnd
  | [], some fault => throw fault

def advance : Building Unit := modify fun b => { b with tokens := b.tokens.tail }

/-- Passes a token that must be there. -/
def expect (token : Token) : Building Unit := do
  if (← peek) != token then fault
  advance

/-- Passes a token if it is there. -/
def accept (token : Token) : Building Bool := do
  if (← peek) == token then
    advance
    return true
  else return false

/-- The tag that a handle and a suffix stand for. -/
def fullTag (handle : Option String) (suffix : String) : Building String := do
  match handle with
  | none => return suffix
  | some handle =>
    match (← get).handles.lookup handle with
    | some start => return start ++ suffix
    | none => fault

/-- The anchor and the tag in front of a node, in either order. -/
def properties : Building (Option String × Option String) := do
  match ← peek with
  | .anchor name =>
    advance
    match ← peek with
    | .tag handle suffix =>
      advance
      return (some name, some (← fullTag handle suffix))
    | _ => return (some name, none)
  | .tag handle suffix =>
    advance
    match ← peek with
    | .anchor name =>
      advance
      return (some name, some (← fullTag handle suffix))
    | _ => return (none, some (← fullTag handle suffix))
  | _ => return (none, none)

/-- The node of a scalar. -/
def scalarNode (tag : Option String) (text : String) (isPlain : Bool) : Node :=
  match tag with
  | some "!" => .scalar (standardTag ++ Plain.kind text) text
  | some tag => .scalar tag text
  | none => .scalar (standardTag ++ (if isPlain then Plain.kind text else "str")) text

/-- The node of nothing. -/
def empty : Node := .scalar (standardTag ++ "null") ""

/-- The tag of a collection. -/
def collectionTag (tag : Option String) (usual : String) : String :=
  match tag with
  | none | some "!" => standardTag ++ usual
  | some tag => tag

/-- What may follow where a node may be left out. -/
def isOneOf (ends : List Token) : Building Bool := do
  return ends.contains (← peek)

mutual

/-- A node.  In a block it may be a block collection, and as a key or value a
sequence whose entries are not indented. -/
def node : Nat → (inBlock indentless : Bool) → Building Node
  | 0, _, _ => fault
  | fuel + 1, inBlock, indentless => do
    match ← peek with
    | .alias name =>
      advance
      let b ← get
      match b.anchors.lookup name with
      | some found => return found
      | none => if b.met.contains name then return .again name else fault
    | _ =>
      let (anchor, tag) ← properties
      let _ ← peek
      match anchor with
      | some name =>
        if (← get).met.contains name then fault
        modify fun b => { b with met := name :: b.met }
      | none => pure ()
      let built ← match ← peek with
        | .scalar text isPlain => do
          advance
          pure (scalarNode tag text isPlain)
        | .flowSequenceStart => do
          advance
          pure (.sequence (collectionTag tag "seq") (← flowItems fuel true))
        | .flowMappingStart => do
          advance
          pure (.mapping (collectionTag tag "map") (← flowEntries fuel true))
        | .blockSequenceStart => do
          if !inBlock then fault
          advance
          pure (.sequence (collectionTag tag "seq") (← blockItems fuel))
        | .blockMappingStart => do
          if !inBlock then fault
          advance
          pure (.mapping (collectionTag tag "map") (← blockEntries fuel))
        | .blockEntry => do
          if indentless then
            pure (.sequence (collectionTag tag "seq") (← indentlessItems fuel))
          else if anchor.isSome || tag.isSome then
            pure (scalarNode tag "" tag.isNone)
          else fault
        | _ => do
          if anchor.isSome || tag.isSome then pure (scalarNode tag "" tag.isNone)
          else fault
      match anchor with
      | some name => modify fun b => { b with anchors := (name, built) :: b.anchors }
      | none => pure ()
      return built

/-- A node, or nothing before certain tokens. -/
def nodeUnless : Nat → (ends : List Token) → (inBlock indentless : Bool) → Building Node
  | 0, _, _, _ => fault
  | fuel + 1, ends, inBlock, indentless => do
    if ← isOneOf ends then return empty
    else node fuel inBlock indentless

/-- The items of a block sequence up to its end. -/
def blockItems : Nat → Building (List Node)
  | 0 => fault
  | fuel + 1 => do
    if ← accept .blockEntry then
      let item ← nodeUnless fuel [.blockEntry, .blockEnd] true false
      return item :: (← blockItems fuel)
    else
      expect .blockEnd
      return []

/-- The items of a sequence that is not indented. -/
def indentlessItems : Nat → Building (List Node)
  | 0 => fault
  | fuel + 1 => do
    if ← accept .blockEntry then
      let item ← nodeUnless fuel [.blockEntry, .key, .value, .blockEnd] true false
      return item :: (← indentlessItems fuel)
    else return []

/-- The entries of a block mapping up to its end. -/
def blockEntries : Nat → Building (List (Node × Node))
  | 0 => fault
  | fuel + 1 => do
    if ← accept .key then
      let key ← nodeUnless fuel [.key, .value, .blockEnd] true true
      let value ←
        if ← accept .value then nodeUnless fuel [.key, .value, .blockEnd] true true
        else pure empty
      return (key, value) :: (← blockEntries fuel)
    else
      expect .blockEnd
      return []

/-- The items of a flow sequence up to its end.  An item with a key is a
mapping of its own. -/
def flowItems : Nat → (first : Bool) → Building (List Node)
  | 0, _ => fault
  | fuel + 1, first => do
    if ← accept .flowSequenceEnd then return []
    if !first then expect .flowEntry
    if ← accept .key then
      let key ← nodeUnless fuel [.value, .flowEntry, .flowSequenceEnd] false false
      let value ←
        if ← accept .value then nodeUnless fuel [.flowEntry, .flowSequenceEnd] false false
        else pure empty
      return .mapping (standardTag ++ "map") [(key, value)] :: (← flowItems fuel false)
    if ← accept .flowSequenceEnd then return []
    let item ← node fuel false false
    return item :: (← flowItems fuel false)

/-- The entries of a flow mapping up to its end. -/
def flowEntries : Nat → (first : Bool) → Building (List (Node × Node))
  | 0, _ => fault
  | fuel + 1, first => do
    if ← accept .flowMappingEnd then return []
    if !first then expect .flowEntry
    if ← accept .key then
      let key ← nodeUnless fuel [.value, .flowEntry, .flowMappingEnd] false false
      let value ←
        if ← accept .value then nodeUnless fuel [.flowEntry, .flowMappingEnd] false false
        else pure empty
      return (key, value) :: (← flowEntries fuel false)
    if ← accept .flowMappingEnd then return []
    let key ← node fuel false false
    return (key, empty) :: (← flowEntries fuel false)

end

/-- The directives before a document: whether there was one, and the handles
they define. -/
def directives : Nat → (versioned : Bool) → Handles → Building (Bool × Handles)
  | 0, _, handles => return (false, handles)
  | fuel + 1, versioned, handles => do
    match ← peek with
    | .versionDirective major _ =>
      if versioned || major != 1 then fault
      advance
      let (_, handles) ← directives fuel true handles
      return (true, handles)
    | .tagDirective handle start =>
      if (handles.lookup handle).isSome then fault
      advance
      let (_, handles) ← directives fuel versioned ((handle, start) :: handles)
      return (true, handles)
    | .otherDirective =>
      advance
      let (_, handles) ← directives fuel versioned handles
      return (true, handles)
    | _ => return (false, handles)

/-- Passes the marks of a document's end. -/
def documentEnds : Nat → Building Unit
  | 0 => return ()
  | fuel + 1 => do
    if ← accept .documentEnd then documentEnds fuel

/-- The only document among the tokens, if there is one. -/
def single (fuel : Nat) : Building (Option Node) := do
  if (← peek) == .streamEnd then return none
  let (directed, handles) ← directives fuel false []
  let started ← accept .documentStart
  if directed && !started then fault
  modify fun b => { b with
    handles := handles ++ usualHandles }
  let content ← match ← peek with
    | .versionDirective .. | .tagDirective .. | .otherDirective | .documentStart | .streamEnd =>
      if started then pure empty else fault
    | .documentEnd => if started then pure empty else fault
    | _ => node fuel true false
  documentEnds fuel
  if (← peek) != .streamEnd then
    let _ ← directives fuel false []
    let _ ← peek
    fault
  return some content

end Building

/-! ## Nodes inside themselves -/

/-- A node without its parts. -/
def withoutParts : Node → Node
  | .sequence tag _ => .sequence tag []
  | .mapping tag _ => .mapping tag []
  | node => node

mutual

/-- A node with others in the places of the nodes that are inside themselves. -/
def replaced (again : String → Node) : Node → Node
  | .again name => again name
  | .sequence tag items => .sequence tag (replacedItems again items)
  | .mapping tag entries => .mapping tag (replacedEntries again entries)
  | .scalar tag text => .scalar tag text

def replacedItems (again : String → Node) : List Node → List Node
  | [] => []
  | item :: rest => replaced again item :: replacedItems again rest

def replacedEntries (again : String → Node) : List (Node × Node) → List (Node × Node)
  | [] => []
  | (key, value) :: rest =>
    (replaced again key, replaced again value) :: replacedEntries again rest

end

/-- A node in which the nodes that are inside themselves are repeated a number of
times, the last time without parts. -/
def unrolled (anchors : List (String × Node)) : Nat → Node → Node
  | 0 => replaced fun name => ((anchors.lookup name).map withoutParts).getD (.again name)
  | times + 1 => replaced fun name =>
    ((anchors.lookup name).map (unrolled anchors times)).getD (.again name)

/-- How often a node inside itself is repeated: more often than settings are
nested. -/
def repetitions : Nat := 6

/-- The node that a document consists of, if there is one. -/
def read (document : String) : Except Error (Option Node) := do
  let (tokens, ended) ← Token.readAll document
  let (found, b) ← StateT.run (Building.single (2 * tokens.length + 2)) { tokens, ended }
  return found.map (unrolled b.anchors repetitions)

end Node

end Yaml

end Ratchet
