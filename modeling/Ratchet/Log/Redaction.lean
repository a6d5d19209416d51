import Ratchet.Settings.Issue
import Ratchet.Text.Word
import Ratchet.Value.Json

namespace Ratchet

/-!
# Redaction

Secrets are kept out of the log.  A value under a telltale name is replaced by
a remark, and so is a text in which a telltale word occurs, unless the text is
nothing but that word.  A text that is JSON is looked into, and only what is
found inside is replaced.  Every replacement leaves a note of where it took
place and of the word that gave the value away.
-/

namespace Redaction

/-! ## Telltale words -/

/-- What gives a secret away. -/
inductive Telltale where
  /-- Words one after another; a point, an underscore, a space or a hyphen may
  stand between neighbours. -/
  | words (inOrder : List String)
  /-- A word, unless `or` or `ors` follows and ends the word. -/
  | unlessAgent (word : String)
  /-- A short word that stands alone or next to an underscore. -/
  | acronym (word : String)
  deriving DecidableEq

/-- The telltales, of which the first to occur at a place counts there. -/
def telltales : List Telltale :=
  [.words ["password"], .words ["passwd"], .words ["mysql_pwd"], .words ["secret"],
    .unlessAgent "auth", .words ["credential"], .words ["private", "key"],
    .words ["api", "key"], .words ["session"], .words ["cookie"],
    .words ["social", "security"], .words ["credit", "card"], .words ["logfire", "token"],
    .acronym "csrf", .acronym "xsrf", .acronym "jwt", .acronym "ssn"]

/-- True when a character is a letter in either case.  Some letters have
further forms outside ASCII. -/
def isForm (letter c : Char) : Bool :=
  c.toLower == letter ||
    match letter with
    | 'i' => c == 'İ' || c == 'ı'
    | 'k' => c == '\u212a'
    | 's' => c == 'ſ'
    | _ => false

/-- What follows a word, if the text begins with it in any case. -/
def afterWord? : (word cs : List Char) → Option (List Char)
  | [], cs => some cs
  | _ :: _, [] => none
  | letter :: word, c :: cs => if isForm letter c then afterWord? word cs else none

/-- The characters that may join two words. -/
def isJoint (c : Char) : Bool := c == '.' || c == '_' || c == ' ' || c == '-'

/-- What follows words that may be joined. -/
def afterWords? : List String → List Char → Option (List Char)
  | [], cs => some cs
  | [word], cs => afterWord? word.toList cs
  | word :: words, cs =>
    match afterWord? word.toList cs with
    | some (c :: rest) => afterWords? words (if isJoint c then rest else c :: rest)
    | _ => none

/-- True when what follows `last` goes on with `or` or `ors` and then ends the
word. -/
def isAgent (cs : List Char) : Bool :=
  let ends (last : Char) (rest : List Char) : Bool := Word.isEdge (some last) rest.head?
  match cs with
  | o :: r :: rest =>
    isForm 'o' o && isForm 'r' r &&
      (ends r rest || match rest with
        | s :: rest => isForm 's' s && ends s rest
        | [] => false)
  | _ => false

/-- What follows an acronym that ends a word or has an underscore after it,
which then belongs to it. -/
def afterAcronym? (word cs : List Char) : Option (List Char) :=
  match afterWord? word cs with
  | some rest =>
    if Word.isEdge word.getLast? rest.head? then some rest
    else match rest with
      | '_' :: rest => some rest
      | _ => none
  | none => none

/-- What follows a telltale at the start of a text, before which `before`
stands. -/
def Telltale.after? (before : Option Char) (cs : List Char) : Telltale → Option (List Char)
  | .words inOrder => afterWords? inOrder cs
  | .unlessAgent word =>
    match afterWord? word.toList cs with
    | some rest => if isAgent rest then none else some rest
    | none => none
  | .acronym word =>
    let here := if Word.isEdge before cs.head? then afterAcronym? word.toList cs else none
    here <|> match cs with
      | '_' :: rest => afterAcronym? word.toList rest
      | _ => none

/-- The first telltale in a text, as it is written there. -/
def findAfter? (before : Option Char) : List Char → Option (List Char)
  | [] => none
  | c :: cs =>
    match telltales.findSome? (Telltale.after? before (c :: cs)) with
    | some rest => some ((c :: cs).take ((c :: cs).length - rest.length))
    | none => findAfter? (some c) cs

/-- The first telltale in a text, as it is written there. -/
def find? (s : String) : Option String := (findAfter? none s.toList).map String.ofList

/-! ## Replacing -/

/-- Where a value was replaced, and what gave it away. -/
structure Note where
  path : List Place
  matched : String
  deriving DecidableEq

/-- What is written in the place of a secret. -/
def remark (matched : String) : String := "[Scrubbed due to " ++ Text.quoted matched ++ "]"

/-- The names under which nothing is looked for. -/
def safeNames : List String :=
  ["logfire.msg", "logfire.msg_template", "logfire.json_schema", "logfire.tags",
    "logfire.level_num", "logfire.span_type", "logfire.pending_parent_id",
    "logfire.sample_rate", "logfire.null_args", "logfire.package_versions",
    "logfire.scrubbed", "code.filepath", "code.lineno", "code.function",
    "exception.stacktrace", "exception.type", "exception.message", "schema.url", "http.method",
    "http.status_code", "http.scheme", "http.url", "http.target", "http.route", "db.statement",
    "db.plan", "url.full", "url.path", "url.query", "event.name", "agent_session_id",
    "do_not_scrub", "binary_content", "gen_ai.input.messages", "gen_ai.output.messages",
    "gen_ai.system_instructions", "pydantic_ai.all_messages"]

/-- A way to replace what a text at a path holds. -/
abbrev TextRule := List Place → String → String × List Note

mutual

/-- A value with its secrets replaced, when `rule` says how texts are
treated. -/
def inValue (rule : TextRule) (path : List Place) : Value → Value × List Note
  | .scalar (.text s) =>
    let (s, notes) := rule path s
    (.text s, notes)
  | .list items =>
    let (items, notes) := inItems rule path 0 items
    (.list items, notes)
  | .map entries =>
    let (entries, notes) := inMembers rule path entries
    (.map entries, notes)
  | other => (other, [])

def inItems (rule : TextRule) (path : List Place) (position : Nat) :
    List Value → List Value × List Note
  | [] => ([], [])
  | item :: rest =>
    let (item, notes) := inValue rule (path ++ [.index position]) item
    let (rest, others) := inItems rule path (position + 1) rest
    (item :: rest, notes ++ others)

def inMembers (rule : TextRule) (path : List Place) :
    List (Scalar × Value) → List (Scalar × Value) × List Note
  | [] => ([], [])
  | (key, value) :: rest =>
    let name := Json.memberName key
    let here := path ++ [.field name]
    let (value, notes) :=
      if safeNames.contains name then (value, [])
      else
        match find? name with
        | some matched => (.text (remark matched), [⟨here, matched⟩])
        | none => inValue rule here value
    let (rest, others) := inMembers rule path rest
    ((key, value) :: rest, notes ++ others)

end

/-- A text with its secrets replaced.  The fuel bounds how often a text may be
JSON that holds texts that are JSON. -/
def textWithin : Nat → TextRule
  | 0, _, s => (s, [])
  | fuel + 1, path, s =>
    match find? s with
    | none => (s, [])
    | some matched =>
      if matched.length = s.length then (s, [])
      else
        match Json.read? s with
        | none => (remark matched, [⟨path, matched⟩])
        | some value =>
          let (value, notes) := inValue (textWithin fuel) path value
          if notes.isEmpty then (s, []) else (Json.writeIn .spaced value, notes)

/-- A text with its secrets replaced. -/
def text : TextRule := fun path s => textWithin (s.length + 1) path s

/-- The text that a field of a message stands for. -/
def fieldText (name s : String) : String × List Note :=
  if safeNames.contains name then (s, []) else text [.field "message", .field name] s

/-- The attributes of a message. -/
def attributes (entries : List (String × Value)) : List (String × Value) × List Note :=
  let (treated, notes) := inMembers text [.field "attributes"]
    (entries.map fun (name, value) => (.text name, value))
  (treated.map fun (key, value) => (Json.memberName key, value), notes)

/-- Notes as they are kept with a message. -/
def notesText (notes : List Note) : String :=
  let place : Place → Value
    | .field name => .text name
    | .index n => .int n
  Json.writeIn .spaced (.list (notes.map fun note => .record
    [("path", .list (note.path.map place)), ("matched_substring", .text note.matched)]))

end Redaction

end Ratchet
