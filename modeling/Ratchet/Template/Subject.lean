import Ratchet.Path
import Ratchet.Template.Clock
import Ratchet.Template.Format
import Ratchet.Template.Member
import Ratchet.Value.Display

namespace Ratchet

/-!
# Subjects of replacement fields

What a field of a template can be about: a document value, a moment, a path,
or a part of one of these.  A subject has a plain form, a shown form, named
attributes, items, and a form for every format.
-/

namespace Template

/-- Something that a field can be about. -/
inductive Subject where
  | value (v : Value)
  | moment (m : Moment)
  /-- A time zone by its distance from universal time in minutes. -/
  | zone (minutes : Int)
  /-- A length of time. -/
  | duration (microseconds : Int)
  | path (p : Path)
  /-- A sequence that cannot be changed. -/
  | tuple (items : List Subject)
  /-- The paths above a path. -/
  | parents (p : Path)
  | kind (k : Kind)
  /-- An operation, which a template cannot apply: where it is defined, its
  name, and what it would be applied to. -/
  | operation (home : Option String) (name : String) (owner : Subject)
  /-- What an operator does with a thing: the kind that carries it, its name, and
  the thing. -/
  | operator (home : Kind) (name : String) (owner : Subject)
  /-- A member of a kind, which belongs to no thing of the kind. -/
  | member (home : Kind) (manner : Manner) (name : String)
  deriving Inhabited

/-- Why a template could not be filled. -/
inductive Error where
  | fault (fault : Fault)
  | format (error : FormatError)
  | noPosition (position : Nat)
  | noName (name : String)
  | noKey (position : Nat)
  | noAttribute (owner name : String)
  | noItems (owner : String)
  | textPosition (type : String)
  | outOfRange (type : String)
  /-- A path has no ancestor at a position. -/
  | noAncestor (position : Nat)
  /-- Something that is no number in the place of one. -/
  | notOrdered (type : String)
  | conversion (letter : Char)
  | unsupported (type : String)
  deriving DecidableEq

/-- The wording of an error. -/
def Error.message : Error → String
  | .fault f => f.message
  | .format e => e.message
  | .noPosition n =>
    s!"Replacement index {n} out of range for positional args tuple"
  | .noName name => Text.quoted name
  | .noKey n => s!"{n}"
  | .noAttribute owner name => s!"{owner} has no attribute '{name}'"
  | .noItems owner => s!"{owner} is not subscriptable"
  | .textPosition type =>
    if type = "str" then "string indices must be integers, not 'str'"
    else s!"{type} indices must be integers or slices, not str"
  | .outOfRange type =>
    (if type = "str" then "string" else type) ++ " index out of range"
  | .noAncestor n => s!"{n}"
  | .notOrdered type => s!"'>=' not supported between instances of '{type}' and 'int'"
  | .conversion letter =>
    "Unknown conversion specifier " ++
      (if 32 < letter.toNat ∧ letter.toNat < 127 then String.ofList [letter]
        else "\\x" ++ String.ofList (Nat.toDigits 16 letter.toNat))
  | .unsupported type => s!"unsupported format string passed to {type}.__format__"

/-- True of the errors that lie in the template itself, and not in what it asks
of its values. -/
def Error.isMalformed : Error → Bool
  | .format .numberTooLarge | .format .characterRange | .format .characterTooLarge => false
  | .fault _ | .format _ | .conversion _ => true
  | _ => false

/-- True of the errors that lie in what a template asks of its values: a part or
a format that they do not have. -/
def Error.isMisfit : Error → Bool
  | .noAttribute .. | .noItems _ | .textPosition _ | .notOrdered _ | .unsupported _ => true
  | _ => false

namespace Subject

def text (s : String) : Subject := .value (.text s)

def ofInt (n : Int) : Subject := .value (.int n)

/-- The kind of thing a subject is. -/
def kindOf : Subject → Kind
  | .value (.scalar .null) => .nothing
  | .value (.scalar (.bool _)) => .truth
  | .value (.scalar (.int _)) => .integer
  | .value (.scalar (.float _)) => .decimal
  | .value (.scalar (.text _)) => .text
  | .value (.scalar (.date _)) => .date
  | .value (.scalar (.moment _)) | .moment _ => .moment
  | .value (.scalar (.bytes _)) => .octets
  | .value (.list _) => .list
  | .value (.map _) => .mapping
  | .value (.set _) => .set
  | .zone _ => .zone
  | .duration _ => .duration
  | .path _ => .path
  | .tuple _ => .tuple
  | .parents _ => .parents
  | .kind .parents | .kind .sequence => .abstractKind
  | .kind _ => .kind
  | .operation (some _) _ _ => .method
  | .operation none _ _ => .builtin
  | .operator .. => .operator
  | .member _ manner _ => manner.kind

/-- The name of the kind of thing a subject is, as error messages have it. -/
def type (subject : Subject) : String := subject.kindOf.title

/-- A subject as error messages speak of it. -/
def described : Subject → String
  | .kind k => "type object '" ++ k.title ++ "'"
  | .operation (some _) _ _ => "'function' object"
  | other => "'" ++ other.type ++ "' object"

/-- Whole days, seconds of a day, and microseconds of a second. -/
def durationParts (microseconds : Int) : Int × Nat × Nat :=
  let days := microseconds.fdiv 86400000000
  let ofDay := (microseconds - days * 86400000000).toNat
  (days, ofDay / 1000000, ofDay % 1000000)

private def twoDigits (n : Nat) : String := if n < 10 then s!"0{n}" else s!"{n}"

/-- A length of time as days, hours, minutes and seconds. -/
def durationText (microseconds : Int) : String :=
  let (days, seconds, rest) := durationParts microseconds
  let front := if days = 0 then "" else s!"{days} day" ++ (if days.natAbs = 1 then ", " else "s, ")
  let clock := s!"{seconds / 3600}:{twoDigits (seconds / 60 % 60)}:{twoDigits (seconds % 60)}"
  let fraction := if rest = 0 then ""
    else "." ++ String.ofList ((Clock.Style.ofNumber {} rest 6 false).chars)
  front ++ clock ++ fraction

/-- A length of time by the parts that are not zero. -/
def durationShown (microseconds : Int) : String :=
  let (days, seconds, rest) := durationParts microseconds
  let parts := (if days = 0 then [] else [s!"days={days}"]) ++
    (if seconds = 0 then [] else [s!"seconds={seconds}"]) ++
    (if rest = 0 then [] else [s!"microseconds={rest}"])
  "datetime.timedelta(" ++ (if parts.isEmpty then "0" else Text.join ", " parts) ++ ")"

/-- A time zone by its distance from universal time. -/
def zoneText (minutes : Int) : String :=
  if minutes = 0 then "UTC"
  else
    let offset := Clock.offsetText (minutes * 60)
    "UTC" ++ String.ofList (offset.take 3 ++ ':' :: offset.drop 3)

def zoneShown (minutes : Int) : String :=
  if minutes = 0 then "datetime.timezone.utc"
  else "datetime.timezone(" ++ durationShown (minutes * 60000000) ++ ")"

mutual

def shown : Subject → String
  | .value v => v.shown
  | .moment m => m.shown
  | .zone minutes => zoneShown minutes
  | .duration microseconds => durationShown microseconds
  | .path p => p.shown
  | .tuple items => "(" ++ shownItems items ++ ")"
  | .parents _ => "<PosixPath.parents>"
  | .kind k => k.shown
  | .operation (some home) name owner => s!"<bound method {home}.{name} of {owner.shown}>"
  | .operation none name owner => s!"<built-in method {name} of {owner.type} object>"
  | .operator _ name owner => s!"<method-wrapper '{name}' of {owner.type} object>"
  | .member home manner name =>
    match manner with
    | .function => s!"<function {home.name}.{name}>"
    | .property => "<property object>"
    | manner => s!"<{manner.noun} '{name}' of '{home.title}' objects>"

/-- The shown forms of items with commas between them; a comma follows an item
that stands alone. -/
def shownItems : List Subject → String
  | [] => ""
  | [item] => item.shown ++ ","
  | item :: others => item.shown ++ shownRest others

/-- The shown forms of items, each after a comma. -/
def shownRest : List Subject → String
  | [] => ""
  | item :: others => ", " ++ item.shown ++ shownRest others

end

def plain : Subject → String
  | .value v => v.inText
  | .moment m => String.ofList (Clock.plain m)
  | .zone minutes => zoneText minutes
  | .duration microseconds => durationText microseconds
  | .path p => p.text
  | other => shown other

/-! ## Attributes -/

/-- The shortest and the longest length of time, and the least difference of
two. -/
def durationBound? : String → Option Subject
  | "min" => some (.duration (-86399999913600000000))
  | "max" => some (.duration 86399999999999999999)
  | "resolution" => some (.duration 1)
  | _ => none

def durationAttribute? (microseconds : Int) (name : String) : Option Subject :=
  let (days, seconds, rest) := durationParts microseconds
  match name with
  | "days" => some (ofInt days)
  | "seconds" => some (ofInt seconds)
  | "microseconds" => some (ofInt rest)
  | name => durationBound? name

/-- The zones that zones and their kind know by name. -/
def zoneBound? : String → Option Subject
  | "utc" => some (.zone 0)
  | "min" => some (.zone (-1439))
  | "max" => some (.zone 1439)
  | _ => none

/-- The first and the last moment, and the least difference of two. -/
def momentBound? : String → Option Subject
  | "min" => some (.moment ⟨⟨1, 1, 1⟩, 0, 0, 0, 0, none⟩)
  | "max" => some (.moment ⟨⟨9999, 12, 31⟩, 23, 59, 59, 999999, none⟩)
  | "resolution" => some (.duration 1)
  | _ => none

/-- The attributes of a moment. -/
def momentAttribute? (m : Moment) (name : String) : Option Subject :=
  match name with
  | "year" => some (ofInt m.date.year)
  | "month" => some (ofInt m.date.month)
  | "day" => some (ofInt m.date.day)
  | "hour" => some (ofInt m.hour)
  | "minute" => some (ofInt m.minute)
  | "second" => some (ofInt m.second)
  | "microsecond" => some (ofInt m.microsecond)
  | "fold" => some (ofInt 0)
  | "tzinfo" => some (match m.offset with
      | some seconds => .zone (seconds / 60)
      | none => .value .null)
  | name => momentBound? name

/-- The attributes of a path. -/
def pathAttribute? (p : Path) (name : String) : Option Subject :=
  match name with
  | "name" => some (text p.name)
  | "stem" => some (text p.stem)
  | "suffix" => some (text p.suffix)
  | "suffixes" => some (.value (Value.texts p.suffixes))
  | "parent" => some (.path p.parent)
  | "parents" => some (.parents p)
  | "parts" => some (.tuple (p.components.map text))
  | "root" | "anchor" => some (text p.root.text)
  | "drive" => some (text "")
  | "__module__" => some (text "pathlib")
  | "__slots__" => some (.tuple [])
  | _ => none

/-- The attributes of a kind. -/
def kindAttribute? (k : Kind) (name : String) : Option Subject :=
  match name with
  | "__name__" | "__qualname__" => some (text k.name)
  | "__module__" => some (text (k.home?.getD "builtins"))
  | "__hash__" =>
    if k = .list ∨ k = .mapping ∨ k = .set then some (.value .null) else none
  | "__base__" => some (match k.bases with
      | base :: _ => .kind base
      | [] => .value .null)
  | "__bases__" => some (.tuple (k.bases.map .kind))
  | "__mro__" => some (.tuple (k.lineage.map .kind))
  | name =>
    match k with
    | .moment => momentBound? name
    | .duration => durationBound? name
    | .zone => zoneBound? name
    | .basePath | .basePosixPath | .realPath | .path =>
      if name = "__slots__" then some (.tuple []) else none
    | _ => none

/-- The attributes of an operation. -/
def operationAttribute? (home : Option String) (name : String) (owner : Subject)
    (part : String) : Option Subject :=
  match part with
  | "__name__" => some (text name)
  | "__qualname__" =>
    let carrier := match owner with
      | .kind k => k.name
      | other => other.kindOf.name
    some (text ((home.getD carrier) ++ "." ++ name))
  | "__self__" => some (if name = "maketrans" then .value .null else owner)
  | "__module__" => some (if home.isSome then text "pathlib" else .value .null)
  | _ => none

/-- The attributes of what an operator does with a thing. -/
def operatorAttribute? (home : Kind) (name : String) (owner : Subject) (part : String) :
    Option Subject :=
  match part with
  | "__name__" => some (text name)
  | "__qualname__" => some (text (home.name ++ "." ++ name))
  | "__self__" => some owner
  | "__objclass__" => some (.kind home)
  | _ => none

/-- The attributes of a member of a kind. -/
def ofMemberAttribute? (home : Kind) (manner : Manner) (name part : String) : Option Subject :=
  if manner = .property then
    if part = "fset" ∨ part = "fdel" then some (.value .null)
    else if part = "fget" then some (.member home .function name)
    else none
  else
    match part with
    | "__name__" => some (text name)
    | "__qualname__" => some (text (home.name ++ "." ++ name))
    | "__objclass__" => if manner = .function then none else some (.kind home)
    | "__module__" => if manner = .function then some (text "pathlib") else none
    | _ => none

/-- The attributes of a whole number. -/
def integerAttribute? (n : Int) (name : String) : Option Subject :=
  match name with
  | "real" | "numerator" => some (ofInt n)
  | "imag" => some (ofInt 0)
  | "denominator" => some (ofInt 1)
  | _ => none

/-- What every subject has: its kind, and the description of its kind. -/
def commonAttribute? (subject : Subject) (name : String) : Option Subject :=
  let described (k : Kind) : Subject :=
    match k.description? with
    | some description => text description
    | none => .value .null
  match name with
  | "__class__" => some (.kind subject.kindOf)
  | "__doc__" =>
    match subject with
    | .kind k => some (described k)
    | .operation .. | .operator .. | .member .. => none
    | other => some (described other.kindOf)
  | _ => none

/-- The attributes that have values of their own. -/
def ownAttribute? (subject : Subject) (name : String) : Option Subject :=
  match subject with
  | .value (.scalar (.int n)) => integerAttribute? n name
  | .value (.scalar (.bool b)) => integerAttribute? (if b then 1 else 0) name
  | .value (.scalar (.float x)) =>
    if name = "real" then some (.value (.float x))
    else if name = "imag" then some (.value (.float (.ofFloat 0)))
    else none
  | .value (.list _) | .value (.map _) | .value (.set _) =>
    if name = "__hash__" then some (.value .null) else none
  | .moment m => momentAttribute? m name
  | .zone _ => zoneBound? name
  | .duration d => durationAttribute? d name
  | .path p => pathAttribute? p name
  | .kind k => kindAttribute? k name
  | .operation home applied owner => operationAttribute? home applied owner name
  | .operator home applied owner => operatorAttribute? home applied owner name
  | .member home manner carried => ofMemberAttribute? home manner carried name
  | _ => none

/-- An operation on a kind, asked of the kind or of a thing of it. -/
def sharedBy (k home : Kind) (name : String) : Subject :=
  .operation (if home = .realPath then some home.name else none) name (.kind k)

/-- A member that the kind of a subject carries. -/
def memberOf? (subject : Subject) (k : Kind) (name : String) : Option Subject := do
  let (home, manner) ← k.member? name
  match manner with
  | .operator => some (.operator home name subject)
  | .operation => some (.operation none name subject)
  | .shared => some (sharedBy k home name)
  | .fixed => some (if home.home? = some "pathlib" then .member home .function name
      else .operation none name (.kind home))
  | .function => some (.operation (some home.name) name subject)
  | .part | .field | .property => none

/-- A member asked of the kind itself. -/
def memberIn? (k : Kind) (name : String) : Option Subject := do
  let (home, manner) ← k.member? name
  match manner with
  | .shared => some (sharedBy k home name)
  | .fixed => some (if home.home? = some "pathlib" then .member home .function name
      else .operation none name (.kind home))
  | manner => some (.member home manner name)

/-- An attribute of a subject: a value of its own, what it is and is described
as, or a member of its kind.  A kind is asked for its members before it is taken
for a thing, and an operation on paths has what functions have besides. -/
def attribute? (subject : Subject) (name : String) : Option Subject :=
  subject.commonAttribute? name <|> subject.ownAttribute? name <|>
    (match subject with
      | .kind k => memberIn? k name
      | _ => none) <|>
    memberOf? subject subject.kindOf name <|>
    match subject with
    | .operation (some _) _ _ => memberOf? subject .function name
    | _ => none

/-- What is said of a subject that has no items. -/
def withoutItems : Subject → Error
  | .kind k => .noItems ("type '" ++ k.title ++ "'")
  | other => .noItems ("'" ++ other.type ++ "' object")

/-- The item at a position. -/
def atPosition (subject : Subject) (n : Nat) : Except Error Subject :=
  let within {α : Type} (items : List α) (wrap : α → Subject) : Except Error Subject :=
    match items[n]? with
    | some item => .ok (wrap item)
    | none => .error (.outOfRange subject.type)
  match subject with
  | .value (.scalar (.text s)) => within s.toList fun c => text (String.ofList [c])
  | .value (.list items) => within items .value
  | .value (.map entries) =>
    match Mapping.get? (.int n) entries with
    | some v => .ok (.value v)
    | none => .error (.noKey n)
  | .tuple items => within items id
  | .parents p =>
    match p.parents[n]? with
    | some ancestor => .ok (.path ancestor)
    | none => .error (.noAncestor n)
  | other => .error other.withoutItems

/-- The item of a key. -/
def atKey (subject : Subject) (key : String) : Except Error Subject :=
  match subject with
  | .value (.map entries) =>
    match Mapping.field? key entries with
    | some v => .ok (.value v)
    | none => .error (.noName key)
  | .value (.scalar (.text _)) | .value (.list _) | .tuple _ =>
    .error (.textPosition subject.type)
  | .parents _ => .error (.notOrdered Kind.text.title)
  | other => .error other.withoutItems

/-- One step into a subject. -/
def step (subject : Subject) : Step → Except Error Subject
  | .attribute name =>
    match subject.attribute? (String.ofList name) with
    | some part => .ok part
    | none => .error (.noAttribute subject.described (String.ofList name))
  | .index n => subject.atPosition n
  | .item key => subject.atKey (String.ofList key)
  | .fault fault => .error (.fault fault)

/-- A subject in a format. -/
def formatted (subject : Subject) (format : List Char) : Except Error (List Char) :=
  let checked (result : Except FormatError (List Char)) : Except Error (List Char) :=
    match result with
    | .ok cs => .ok cs
    | .error error => .error (.format error)
  match subject with
  | .value (.scalar (.text s)) => checked (Format.text format s.toList)
  | .value (.scalar (.int n)) => checked (Format.integer format "int" (toString n) n)
  | .value (.scalar (.bool b)) =>
    checked (Format.integer format "bool" (Scalar.shown (.bool b)) (if b then 1 else 0))
  | .value (.scalar (.float x)) => checked (Format.decimal format x)
  | .moment m => .ok (if format.isEmpty then Clock.plain m else Clock.text m format)
  | other => if format.isEmpty then .ok other.plain.toList else .error (.unsupported other.type)

/-- A subject after a conversion. -/
def converted (subject : Subject) : Option Char → Except Error Subject
  | none => .ok subject
  | some letter =>
    match letter with
    | 's' => .ok (text subject.plain)
    | 'r' => .ok (text subject.shown)
    | 'a' =>
      .ok (text (match subject with
        | .value (.scalar (.text s)) => Text.quotedAscii s
        | other => String.ofList (other.shown.toList.flatMap fun c =>
            if c.toNat < 0x80 then [c] else Quoted.codePoint c)))
    | other => .error (.conversion other)

end Subject

end Template

end Ratchet
