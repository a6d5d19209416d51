import Ratchet.Number.Numeral
import Ratchet.Path
import Ratchet.Settings.Issue
import Ratchet.Text.Case
import Ratchet.Value.Display
import Ratchet.Compiler.Match

namespace Ratchet

/-!
# Conversions

How values of documents become values of settings.  Numbers and truth values
may be written as texts; texts must be texts.
-/

namespace Conversion

/-- White space around a number.  Unlike the blanks of command output it does
not include the information separators. -/
def isSpace (c : Char) : Bool :=
  Blank.isBlank c && !(28 ≤ c.toNat && c.toNat ≤ 31)

/-- The bounds of a machine integer. -/
def isMachineInt (n : Int) : Bool :=
  -0x8000000000000000 ≤ n && n < 0x8000000000000000

/-- The text that octets spell. -/
def ofOctets? (octets : List Nat) : Option String :=
  String.fromUTF8? (ByteArray.mk (octets.map fun n => n.toUInt8).toArray)

/-- The machine integers that are no bound of them: the ones that a number with
a fraction may stand for. -/
def isInnerInt (n : Int) : Bool :=
  -0x8000000000000000 < n && n < 0x7fffffffffffffff

def trueWords : List String := ["1", "true", "t", "yes", "y", "on"]

def falseWords : List String := ["0", "false", "f", "no", "n", "off"]

/-- A truth value as text, in any case. -/
def booleanOfText (s : String) : Checked Bool :=
  let word := Text.lower s
  if trueWords.contains word then .ok true
  else if falseWords.contains word then .ok false
  else .fail .booleanForm

/-- A truth value. -/
def boolean (v : Value) : Checked Bool :=
  let number (n : Int) : Checked Bool :=
    if n = 0 then .ok false
    else if n = 1 then .ok true
    else .fail .booleanForm
  match v with
  | .scalar (.bool b) => .ok b
  | .scalar (.int n) => if isMachineInt n then number n else .fail .boolean
  | .scalar (.float x) =>
    match x.toInt? with
    | some n => if isInnerInt n then number n else .fail .boolean
    | none => .fail .boolean
  | .scalar (.text s) => booleanOfText s
  | .scalar (.bytes octets) =>
    match ofOctets? octets with
    | some s => booleanOfText s
    | none => .fail .booleanForm
  | _ => .fail .boolean

/-- Digits in which single underscores may stand between two of them. -/
def digits? : List Char → Option (List Char)
  | [] => none
  | c :: rest =>
    if !c.isDigit then none
    else
      match rest with
      | [] => some [c]
      | '_' :: more => (digits? more).map (c :: ·)
      | more => (digits? more).map (c :: ·)

/-- Digits without the zeros in front of them, among which underscores may
stand; the last character stays when nothing else follows. -/
def withoutLeadingZeros? : List Char → Option (List Char)
  | [] => none
  | '0' :: rest => go '0' rest
  | c :: rest => if c.isDigit then some (c :: rest) else none
where
  go (last : Char) : List Char → Option (List Char)
    | [] => some [last]
    | '.' :: rest => some (last :: '.' :: rest)
    | c :: rest =>
      if c = '0' || c = '_' then go c rest
      else if c.isDigit then some (c :: rest)
      else none

/-- The whole part of a number whose fractional part is zeros, of which there
is at least one. -/
def withoutZeroFraction (cs : List Char) : List Char :=
  match Cut.atFirst? '.' cs with
  | some (before, after) => if !after.isEmpty && after.all (· == '0') then before else cs
  | none => cs

/-- A whole number as text: white space around it, a sign, digits, and a
fractional part of zeros. -/
def integerOfText (s : String) : Checked Int :=
  let cs := ((s.toList.dropWhile isSpace).reverse.dropWhile isSpace).reverse
  let (negative, cs) := match cs with
    | '-' :: rest => (true, rest)
    | '+' :: rest => (false, rest)
    | _ => (false, cs)
  match withoutLeadingZeros? cs with
  | none => .fail .integerForm
  | some cs =>
    match digits? (withoutZeroFraction cs) with
    | none =>
      if Numeral.mostDigits < (cs.takeWhile Char.isDigit).length then .fail .integerSize
      else .fail .integerForm
    | some digits =>
      if Numeral.mostDigits < digits.length then .fail .integerSize
      else
        let n : Int := digits.foldl (fun n c => n * 10 + (c.toNat - 48)) (0 : Nat)
        .ok (if negative then -n else n)

/-- A whole number. -/
def integer (v : Value) : Checked Int :=
  match v with
  | .scalar (.int n) => .ok n
  | .scalar (.bool b) => .ok (if b then 1 else 0)
  | .scalar (.float x) =>
    if !x.isFinite then .fail .notFinite
    else
      match x.toInt? with
      | some n => if isInnerInt n then .ok n else .fail .integerSize
      | none => .fail .fraction
  | .scalar (.text s) => integerOfText s
  | .scalar (.bytes octets) =>
    match ofOctets? octets with
    | some s => integerOfText s
    | none => .fail .integerForm
  | _ => .fail .integer

/-- A text. -/
def text (v : Value) : Checked String :=
  match v with
  | .scalar (.text s) => .ok s
  | .scalar (.bytes octets) =>
    match ofOctets? octets with
    | some s => .ok s
    | none => .fail .text
  | _ => .fail .text

/-- A path. -/
def path (v : Value) : Checked Path :=
  match v with
  | .scalar (.text s) => .ok (Path.ofText s)
  | _ => .fail .path

/-- A list of values of one kind. -/
def list {α : Type} (read : Value → Checked α) (v : Value) : Checked (List α) :=
  match v with
  | .list items => Checked.each read items
  | .set members => Checked.each (fun member => read (.scalar member)) members
  | _ => .fail .list

/-- A collection of values in which neither order nor repetition counts. -/
def set {α : Type} [BEq α] (read : Value → Checked α) (v : Value) : Checked (List α) :=
  match v with
  | .list items => List.eraseDups <$> Checked.each read items
  | .set members => List.eraseDups <$> Checked.each (fun member => read (.scalar member)) members
  | _ => .fail .set

/-- A value that may be null. -/
def nullable {α : Type} (read : Value → Checked α) (v : Value) : Checked (Option α) :=
  match v with
  | .scalar .null => .ok none
  | other => some <$> read other

/-- The place that a key of a mapping names. -/
def keyPlace : Scalar → Place
  | .text s => .field s
  | .int n => .index n
  | .bool b => .index (if b then 1 else 0)
  | other => .field other.shown

/-- A mapping from texts to values of one kind. -/
def dictionary {α : Type} (read : Value → Checked α) (v : Value) :
    Checked (List (String × α)) :=
  match v with
  | .map entries => go entries
  | _ => .fail .mapping
where
  go : Mapping → Checked (List (String × α))
    | [] => .ok []
    | (key, value) :: rest =>
      let place := keyPlace key
      let name := ((text (.scalar key)).inside (.field "[key]")).inside place
      (fun name value others => (name, value) :: others) <$> name <*>
        (read value).inside place <*> go rest

/-- A way of attributing lines to files. -/
def matchMode (v : Value) : Checked MatchMode :=
  match v with
  | .scalar (.text s) =>
    match MatchMode.named? s with
    | some mode => .ok mode
    | none => .fail (.choice (MatchMode.all.map MatchMode.name))
  | _ => .fail (.choice (MatchMode.all.map MatchMode.name))

/-! ## Records -/

/-- The entries of a record of a named kind. -/
def record {α : Type} (name : String) (read : Mapping → Checked α) (v : Value) : Checked α :=
  match v with
  | .map entries => read entries
  | _ => .fail (.model name)

/-- The first of some names under which a record has an entry. -/
def lookup? (names : List String) (entries : Mapping) : Option (String × Value) :=
  names.findSome? fun name => (Mapping.field? name entries).map fun value => (name, value)

/-- A field that must be there, under one of its names. -/
def required {α : Type} (names : List String) (read : Value → Checked α) (entries : Mapping) :
    Checked α :=
  match lookup? names entries with
  | some (name, value) => (read value).inside (.field name)
  | none => .bad [⟨.missing, [.field (names.headD "")]⟩]

/-- A field that may be left out. -/
def defaulted {α : Type} (names : List String) (usual : α) (read : Value → Checked α)
    (entries : Mapping) : Checked α :=
  match lookup? names entries with
  | some (name, value) => (read value).inside (.field name)
  | none => .ok usual

/-- The names that a record uses. -/
def usedNames (fields : List (List String)) (entries : Mapping) : List String :=
  fields.filterMap fun names => (lookup? names entries).map Prod.fst

/-- Refuses every entry under a name that the record does not use. -/
def nothingElse (fields : List (List String)) (entries : Mapping) : Checked Unit :=
  let used := usedNames fields entries
  let issues := entries.filterMap fun (key, _) =>
    match key with
    | .text name => if used.contains name then none else some ⟨.extra, [.field name]⟩
    | other => some ⟨.key, [keyPlace other]⟩
  if issues.isEmpty then .ok () else .bad issues

end Conversion

end Ratchet
