import Ratchet.Shell.Command

namespace Ratchet

namespace Shell

/-!
# How a shell reads a command

A shell takes a text apart from left to right.  What it has read of the present
token, and what it stands in, decide what the next character does, so reading a
text is reading its beginning and then, from where that leads, its end.  Nothing
is expanded here: a character that the shell would expand, match with file names
or read as the beginning of an expansion is kept apart from one that stands for
itself.  Tokens are not classified further, and the text after a here-document
operator is read like any other.
-/

inductive Rules where
  /-- Words only: blanks and newlines separate them, quotes and backslashes
  protect. -/
  | words
  /-- Words, operators and comments; some characters are active in words. -/
  | commands
  deriving DecidableEq

inductive Quote where
  | single
  | double
  deriving DecidableEq

/-- What a character does outside of all quotes and expansions. -/
inductive Kind where
  | letter
  | blank
  | escape
  | quote (q : Quote)
  | symbol
  | dollar
  | backquote
  | hash
  | pattern
  | tilde
  deriving DecidableEq

namespace Rules

def marks (rules : Rules) : List (Char × Kind) :=
  [(' ', .blank), ('\t', .blank), ('\\', .escape), ('\'', .quote .single), ('"', .quote .double)] ++
    match rules with
    | .words => [('\n', .blank)]
    | .commands =>
      ['\n', '&', '|', ';', '<', '>', '(', ')'].map (·, .symbol) ++
        ['*', '?', '['].map (·, .pattern) ++
        [('$', .dollar), ('`', .backquote), ('#', .hash), ('~', .tilde)]

def kind (rules : Rules) (c : Char) : Kind :=
  (rules.marks.lookup c).getD .letter

end Rules

/-- The operators of more than one character. -/
def longOperators : List String :=
  ["&&", "||", ";;", "<<", "<<-", ">>", "<&", ">&", "<>", ">|"]

/-! ## Tokens -/

inductive Glyph where
  /-- It stands for itself. -/
  | plain (c : Char)
  | active (c : Char)
  deriving DecidableEq

def plainly (cs : List Char) : List Glyph :=
  cs.map .plain

@[simp] theorem plainly_nil : plainly [] = [] := rfl

@[simp] theorem plainly_cons (c : Char) (cs : List Char) :
    plainly (c :: cs) = .plain c :: plainly cs := rfl

/-- The word that a text is. -/
def wordOf (text : String) : List Glyph :=
  plainly text.toList

inductive Token where
  | word (glyphs : List Glyph)
  | operator (symbol : String)
  | comment (text : List Char)
  deriving DecidableEq

def Token.word? : Token → Option (List Glyph)
  | .word glyphs => some glyphs
  | .operator _ | .comment _ => none

inductive Pending where
  | nothing
  | word (glyphs : List Glyph)
  | operator (symbol : String)
  | comment (text : List Char)

namespace Pending

def tokens : Pending → List Token
  | .nothing => []
  | .word glyphs => [.word glyphs]
  | .operator symbol => [.operator symbol]
  | .comment text => [.comment text]

/-- The beginning of the word that goes on. -/
def glyphs : Pending → List Glyph
  | .word glyphs => glyphs
  | .nothing | .operator _ | .comment _ => []

def isWord : Pending → Bool
  | .word _ => true
  | .nothing | .operator _ | .comment _ => false

def before : Pending → List Token
  | .word _ => []
  | .nothing => []
  | .operator symbol => [.operator symbol]
  | .comment text => [.comment text]

end Pending

/-! ## What a character does -/

/-- What a character does to the pending token. -/
inductive Act where
  | nothing
  /-- A word goes on by some glyphs, or begins. -/
  | put (glyphs : List Glyph)
  | stop
  /-- An operator goes on or begins. -/
  | symbol (c : Char)
  /-- A comment goes on or begins. -/
  | remark (c : Char)

def Pending.perform : Pending → Act → List Token × Pending
  | pending, .nothing => ([], pending)
  | pending, .put glyphs => (pending.before, .word (pending.glyphs ++ glyphs))
  | pending, .stop => (pending.tokens, .nothing)
  | .operator symbol, .symbol c =>
    -- an operator goes on as long as it can
    if longOperators.contains (symbol.push c) then ([], .operator (symbol.push c))
    else ([.operator symbol], .operator (String.singleton c))
  | pending, .symbol c => (pending.tokens, .operator (String.singleton c))
  | .comment text, .remark c => ([], .comment (text ++ [c]))
  | pending, .remark c => (pending.tokens, .comment [c])

/-- What an expansion is between, and what may stand between quotes of its own
inside. -/
inductive Enclosure where
  | quotes (q : Quote)
  | parentheses
  | braces
  | backquotes
  deriving DecidableEq

/-- What the last character leaves to the next one. -/
inductive Last where
  | ordinary
  | backslash
  | dollar
  deriving DecidableEq

namespace Enclosure

def closing : Enclosure → Char
  | .quotes .single => '\''
  | .quotes .double => '"'
  | .parentheses => ')'
  | .braces => '}'
  | .backquotes => '`'

def opened? (top : Enclosure) (last : Last) (c : Char) : Option Enclosure :=
  if top = .quotes .single ∨ top = .backquotes then none
  else match c with
    | '`' => some .backquotes
    | '"' => some (.quotes .double)
    | '\'' => if top = .quotes .double then none else some (.quotes .single)
    | '(' => if last = .dollar ∨ top = .parentheses then some .parentheses else none
    | '{' => if last = .dollar then some .braces else none
    | _ => none

/-- The enclosures that are open after a character, the innermost first. -/
def advance (top : Enclosure) (outer : List Enclosure) (last : Last) (c : Char) :
    List Enclosure × Last :=
  if last = .backslash then (top :: outer, .ordinary)
  else if c = top.closing then (outer, .ordinary)
  else if c = '\\' ∧ top ≠ .quotes .single then (top :: outer, .backslash)
  else match top.opened? last c with
    | some inner => (inner :: top :: outer, .ordinary)
    | none => (top :: outer, if c = '$' then .dollar else .ordinary)

end Enclosure

/-- What a character stands in. -/
structure Mode where
  quote : Option Quote := none
  /-- The enclosures of the expansion that is being read. -/
  expansion : List Enclosure := []
  last : Last := .ordinary
  deriving DecidableEq

/-- The place of a character: the token that it may belong to, and what it
stands in. -/
structure Reader where
  pending : Pending := .nothing
  mode : Mode := {}

namespace Rules

variable (rules : Rules)

/-- A character outside of quotes. -/
def bare (pending : Pending) (c : Char) : Act × Mode :=
  match pending with
  | .comment _ => (if c = '\n' then .symbol c else .remark c, {})
  | pending =>
    match rules.kind c with
    | .letter => (.put [.plain c], {})
    | .blank => (.stop, {})
    | .escape => (.nothing, { last := .backslash })
    | .quote q => (.put [], { quote := some q })
    | .symbol => (.symbol c, {})
    | .dollar => (.put [.active c], { last := .dollar })
    | .backquote => (.put [.active c], { expansion := [.backquotes] })
    | .pattern => (.put [.active c], {})
    | .hash => (if pending.isWord then .put [.plain c] else .remark c, {})
    | .tilde => (.put [if pending.isWord then .plain c else .active c], {})

def quoted (q : Quote) (c : Char) : Act × Mode :=
  match q, rules.kind c with
  | .single, .quote .single | .double, .quote .double => (.nothing, {})
  | .double, .escape => (.nothing, { quote := some .double, last := .backslash })
  | .double, .dollar => (.put [.active c], { quote := some .double, last := .dollar })
  | .double, .backquote =>
    (.put [.active c], { quote := some .double, expansion := [.backquotes] })
  | q, _ => (.put [.plain c], { quote := some q })

/-- A character after a backslash, which between double quotes protects no
others than those that mean something there. -/
def escaped (quote : Option Quote) (c : Char) : Act × Mode :=
  if c = '\n' then (.nothing, { quote })
  else if quote = some .double ∧ c ∉ ['$', '`', '"', '\\'] then
    (.put [.plain '\\', .plain c], { quote })
  else (.put [.plain c], { quote })

/-- What a character does, and what the next one stands in. -/
def act (reader : Reader) (c : Char) : Act × Mode :=
  let ⟨quote, expansion, last⟩ := reader.mode
  match expansion with
  | top :: outer =>
    let (expansion, last) := top.advance outer last c
    (.put [.active c], { quote, expansion, last })
  | [] =>
    if last = .backslash then escaped quote c
    else if last = .dollar ∧ c = '(' then
      (.put [.active c], { quote, expansion := [.parentheses] })
    else if last = .dollar ∧ c = '{' then
      (.put [.active c], { quote, expansion := [.braces] })
    else
      match quote with
      | none => rules.bare reader.pending c
      | some q => rules.quoted q c

/-- The tokens that end with a character, and the place of the next one. -/
def step (reader : Reader) (c : Char) : List Token × Reader :=
  let (act, mode) := rules.act reader c
  let (ended, pending) := reader.pending.perform act
  (ended, { pending, mode })

/-- The tokens that end within a text, and where it ends. -/
def read (reader : Reader) : List Char → List Token × Reader
  | [] => ([], reader)
  | c :: cs =>
    let (ended, next) := rules.step reader c
    let (later, last) := read next cs
    (ended ++ later, last)

end Rules

def Mode.Complete (mode : Mode) : Prop :=
  mode.quote = none ∧ mode.expansion = [] ∧ mode.last ≠ .backslash

instance (mode : Mode) : Decidable mode.Complete :=
  inferInstanceAs (Decidable (_ ∧ _ ∧ _))

/-- All tokens, unless something is still open. -/
def finish (result : List Token × Reader) : Option (List Token) :=
  if result.2.mode.Complete then some (result.1 ++ result.2.pending.tokens) else none

/-- The tokens of a text, unless it is incomplete. -/
def tokens (rules : Rules) (text : String) : Option (List Token) :=
  finish (rules.read {} text.toList)

def words (rules : Rules) (text : String) : Option (List (List Glyph)) :=
  (tokens rules text).bind fun all => all.mapM Token.word?

/-! ## Reading on -/

namespace Rules

variable (rules : Rules)

/-- A character that is no letter is marked. -/
theorem mem_marks {c : Char} (marked : rules.kind c ≠ .letter) :
    (c, rules.kind c) ∈ rules.marks := by
  cases found : rules.marks.lookup c with
  | none =>
    rw [kind, found] at marked
    exact absurd rfl marked
  | some k =>
    obtain ⟨before, after, whole, -⟩ := List.lookup_eq_some_iff.mp found
    rw [kind, found, whole]
    exact List.mem_append_right before List.mem_cons_self

variable {rules} in
/-- What holds of all marks of a kind holds of the characters of that kind. -/
theorem of_kind {P : Char → Prop} {k : Kind} (marked : k ≠ .letter)
    (marks : ∀ mark ∈ rules.marks, mark.2 = k → P mark.1) {c : Char} (isKind : rules.kind c = k) :
    P c := by
  subst isKind
  exact marks (c, rules.kind c) (rules.mem_marks marked) rfl

/-- Where nothing is open, only a dollar sign looks for its bracket. -/
theorem act_of_closed (pending : Pending) {last : Last} (unescaped : last ≠ .backslash) {c : Char}
    (noBracket : c ∉ ['(', '\x7b']) :
    rules.act ⟨pending, none, [], last⟩ c = rules.bare pending c := by
  simp only [List.mem_cons, List.not_mem_nil, or_false, not_or] at noBracket
  simp only [act, if_neg unescaped, noBracket, and_false, if_false]

variable {rules} in
theorem step_of_act {reader : Reader} {c : Char} {act : Act} {mode : Mode}
    (acts : rules.act reader c = (act, mode)) :
    rules.step reader c =
      ((reader.pending.perform act).1, ⟨(reader.pending.perform act).2, mode⟩) := by
  rw [step, acts]

theorem step_letter (pending : Pending) {c : Char} (letter : rules.kind c = .letter)
    (goesOn : ∀ text, pending ≠ .comment text) :
    rules.step ⟨pending, {}⟩ c = (pending.before, ⟨.word (pending.glyphs ++ [.plain c]), {}⟩) := by
  have acts : rules.act ⟨pending, {}⟩ c = (.put [.plain c], {}) := by
    change rules.bare pending c = _
    cases pending with
    | comment text => exact absurd rfl (goesOn text)
    | nothing | word | operator => simp only [bare, letter]
  exact step_of_act acts

@[simp] theorem read_nil (reader : Reader) : rules.read reader [] = ([], reader) := rfl

theorem read_cons (reader : Reader) (c : Char) (cs : List Char) :
    rules.read reader (c :: cs) =
      ((rules.step reader c).1 ++ (rules.read (rules.step reader c).2 cs).1,
        (rules.read (rules.step reader c).2 cs).2) := rfl

theorem read_append (reader : Reader) (first second : List Char) :
    rules.read reader (first ++ second) =
      ((rules.read reader first).1 ++ (rules.read (rules.read reader first).2 second).1,
        (rules.read (rules.read reader first).2 second).2) := by
  induction first generalizing reader with
  | nil => rfl
  | cons c cs ih =>
    rw [List.cons_append, read_cons, ih, read_cons, List.append_assoc]

variable {rules} in
/-- Reading goes on where it has led to. -/
theorem read_append_of_read {reader next last : Reader} {first second : List Char}
    {ended later : List Token} (leads : rules.read reader first = (ended, next))
    (goesOn : rules.read next second = (later, last)) :
    rules.read reader (first ++ second) = (ended ++ later, last) := by
  rw [read_append, leads]
  dsimp only
  rw [goesOn]

end Rules

theorem finish_append (ended later : List Token) (reader : Reader) :
    finish (ended ++ later, reader) = (finish (later, reader)).map (ended ++ ·) := by
  unfold finish
  split
  · rw [Option.map_some, List.append_assoc]
  · rfl

/-- A text after another one that leads back to the beginning. -/
theorem tokens_append_of_read {rules : Rules} {first second : String} {ended : List Token}
    (leads : rules.read {} first.toList = (ended, {})) :
    tokens rules (first ++ second) = (tokens rules second).map (ended ++ ·) := by
  rw [tokens, String.toList_append, Rules.read_append, leads, finish_append]
  rfl

end Shell

end Ratchet
