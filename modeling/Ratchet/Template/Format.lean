import Ratchet.Number.Rounded
import Ratchet.Template.Field

namespace Ratchet

/-!
# Formats

What follows the colon of a replacement field: a filling character, an
alignment, a sign rule, the alternate form, a width, a mark between groups of
digits, a precision and a letter for the kind of presentation, each of them
optional.
-/

namespace Template

/-- Where the filling goes: after the value, before it, on both sides, or
between the sign and the digits. -/
inductive Align where
  | left
  | right
  | center
  | inside
  deriving DecidableEq

def Align.ofChar? : Char → Option Align
  | '<' => some .left
  | '>' => some .right
  | '^' => some .center
  | '=' => some .inside
  | _ => none

/-- A format as written. -/
structure Format where
  fill : Char
  align : Option Align
  sign : Option Char
  noNegativeZero : Bool
  alternate : Bool
  zeroPadded : Bool
  width : Option Nat
  grouping : Option Char
  precision : Option Nat
  kind : Option Char
  deriving DecidableEq

/-- What can be wrong with a format, by itself or for a kind of value. -/
inductive FormatError where
  | tooManyDigits
  | bothGroupings
  | noPrecision
  | trailing (format : List Char) (type : String)
  | groupingWith (mark : Char) (kind : Char)
  | unknownKind (kind : Char) (type : String)
  | textSign (space : Bool)
  | textNoNegativeZero
  | textAlternate
  | textInside
  | integerPrecision
  | integerNoNegativeZero
  | characterSign
  | characterAlternate
  | characterRange
  /-- The number of a character is no machine integer. -/
  | characterTooLarge
  | precisionTooBig
  | numberTooLarge
  deriving DecidableEq

/-- A character as itself if it is a visible ASCII one, otherwise by its code
point. -/
def visible (c : Char) : String :=
  if 32 < c.toNat && c.toNat < 128 then String.ofList [c]
  else "\\x" ++ String.ofList (Nat.toDigits 16 c.toNat)

def FormatError.message : FormatError → String
  | .tooManyDigits => Fault.tooManyDigits.message
  | .bothGroupings => "Cannot specify both ',' and '_'."
  | .noPrecision => "Format specifier missing precision"
  | .trailing format type =>
    "Invalid format specifier '" ++ String.ofList format ++ "' for object of type '" ++ type ++ "'"
  | .groupingWith mark kind =>
    "Cannot specify '" ++ String.ofList [mark] ++ "' with '" ++ visible kind ++ "'."
  | .unknownKind kind type =>
    "Unknown format code '" ++ visible kind ++ "' for object of type '" ++ type ++ "'"
  | .textSign space =>
    (if space then "Space" else "Sign") ++ " not allowed in string format specifier"
  | .textNoNegativeZero => "Negative zero coercion (z) not allowed in string format specifier"
  | .textAlternate => "Alternate form (#) not allowed in string format specifier"
  | .textInside => "'=' alignment not allowed in string format specifier"
  | .integerPrecision => "Precision not allowed in integer format specifier"
  | .integerNoNegativeZero =>
    "Negative zero coercion (z) not allowed in integer format specifier"
  | .characterSign => "Sign not allowed with integer format specifier 'c'"
  | .characterAlternate => "Alternate form (#) not allowed with integer format specifier 'c'"
  | .characterRange => "%c arg not in range(0x110000)"
  | .characterTooLarge => "Python int too large to convert to C long"
  | .precisionTooBig => "precision too big"
  | .numberTooLarge => "int too large to convert to float"

namespace Format

/-- A run of decimal digits and what follows it. -/
def digits (n : Nat) : List Char → Except FormatError (Nat × List Char)
  | [] => .ok (n, [])
  | c :: rest =>
    match digitValue? c with
    | none => .ok (n, c :: rest)
    | some d => if n * 10 + d < 0x8000000000000000 then digits (n * 10 + d) rest else .error .tooManyDigits

/-- A number, if the text begins with one. -/
def number? (cs : List Char) : Except FormatError (Option Nat × List Char) := do
  let (n, rest) ← digits 0 cs
  pure (if rest.length < cs.length then some n else none, rest)

/-- Takes a character off the text if it is the next one. -/
def take? (wanted : Char) : List Char → Bool × List Char
  | c :: rest => if c = wanted then (true, rest) else (false, c :: rest)
  | [] => (false, [])

/-- The filling character and the alignment. -/
def alignment (cs : List Char) : Option Char × Option Align × List Char :=
  match cs with
  | a :: b :: rest =>
    match Align.ofChar? b with
    | some align => (some a, some align, rest)
    | none =>
      match Align.ofChar? a with
      | some align => (none, some align, b :: rest)
      | none => (none, none, cs)
  | [a] =>
    match Align.ofChar? a with
    | some align => (none, some align, [])
    | none => (none, none, cs)
  | [] => (none, none, [])

/-- The kinds of presentation that allow a mark between groups of digits. -/
def groups (mark : Char) (kind : Char) : Bool :=
  ['d', 'e', 'f', 'g', 'E', 'G', '%', 'F'].contains kind ||
    (mark == '_' && ['b', 'o', 'x', 'X'].contains kind)

/-- Reads the format of a value of the named type, whose kind of presentation
is `usual` if none is written. -/
def read (type : String) (usual : Option Char) (format : List Char) : Except FormatError Format := do
  let (fill, align, cs) := alignment format
  let (sign, cs) := match cs with
    | c :: rest => if c = ' ' ∨ c = '+' ∨ c = '-' then (some c, rest) else (none, cs)
    | [] => (none, [])
  let (noNegativeZero, cs) := take? 'z' cs
  let (alternate, cs) := take? '#' cs
  let (zeroPadded, cs) := if fill.isSome then (false, cs) else take? '0' cs
  let (width, cs) ← number? cs
  let (comma, cs) := take? ',' cs
  let (underscore, cs) := take? '_' cs
  if comma && underscore then throw .bothGroupings
  if underscore && cs.head? == some ',' then throw .bothGroupings
  let (point, cs) := take? '.' cs
  let (precision, cs) ← if point then number? cs else pure (none, cs)
  if point && precision.isNone then throw .noPrecision
  let kind ← match cs with
    | [] => pure usual
    | [letter] => pure (some letter)
    | _ => throw (.trailing format type)
  let grouping := if comma then some ',' else if underscore then some '_' else none
  match grouping, kind with
  | some mark, some letter => if !groups mark letter then throw (.groupingWith mark letter)
  | _, _ => pure ()
  pure
    { fill := fill.getD (if zeroPadded then '0' else ' ')
      align, sign, noNegativeZero, alternate, zeroPadded, width, grouping, precision, kind }

/-- A text brought to a width; `before` says where the filling goes if the
format does not. -/
def pad (f : Format) (usual : Align) (cs : List Char) : List Char :=
  let missing := f.width.getD 0 - cs.length
  match f.align.getD usual with
  | .left => cs ++ List.replicate missing f.fill
  | .right | .inside => List.replicate missing f.fill ++ cs
  | .center =>
    List.replicate (missing / 2) f.fill ++ cs ++ List.replicate (missing - missing / 2) f.fill

/-- A text in a format. -/
def text (format : List Char) (cs : List Char) : Except FormatError (List Char) := do
  if format.isEmpty then return cs
  let f ← read "str" (some 's') format
  if f.kind != some 's' then throw (.unknownKind (f.kind.getD 's') "str")
  match f.sign with
  | some sign => throw (.textSign (sign == ' '))
  | none => pure ()
  if f.noNegativeZero then throw .textNoNegativeZero
  if f.alternate then throw .textAlternate
  if f.align == some .inside then throw .textInside
  pure (f.pad .left (match f.precision with
    | some n => cs.take n
    | none => cs))

/-- Digits with a mark before every group of `size` from the right. -/
def grouped (mark : Char) (size : Nat) (digits : List Char) : List Char :=
  let rec go (count : Nat) : List Char → List Char
    | [] => []
    | c :: rest =>
      if count = size then mark :: c :: go 1 rest else c :: go (count + 1) rest
  (go 0 digits.reverse).reverse

/-- The digits of a number with zeros in front until their grouped form
reaches a width. -/
def zeroFilled (mark : Option Char) (size width : Nat) (digits : List Char) : List Char :=
  let group (ds : List Char) : List Char := match mark with
    | some mark => grouped mark size ds
    | none => ds
  let rec go : Nat → List Char → List Char
    | 0, ds => ds
    | fuel + 1, ds => if (group ds).length < width then go fuel ('0' :: ds) else ds
  group (go width digits)

/-- The sign that a number is shown with. -/
def signOf (f : Format) (negative : Bool) : List Char :=
  if negative then ['-']
  else match f.sign with
    | some '+' => ['+']
    | some ' ' => [' ']
    | _ => []

/-- A number in a format: what leads it, its digits up to the decimal point in
groups of `size`, and what follows them. -/
def assembled (f : Format) (size : Nat) (lead digits rest : List Char) : List Char :=
  if f.align == some .inside || (f.align.isNone && f.zeroPadded) then
    let room := f.width.getD 0 - lead.length - rest.length
    if f.fill = '0' ∧ digits ≠ [] then lead ++ zeroFilled f.grouping size room digits ++ rest
    else
      let digits := zeroFilled f.grouping size 0 digits
      lead ++ List.replicate (room - digits.length) f.fill ++ digits ++ rest
  else f.pad .right (lead ++ zeroFilled f.grouping size 0 digits ++ rest)

/-- The exponent of a number as written: a sign and at least two digits. -/
def exponentText (e : Int) : List Char :=
  let digits := Nat.toDigits 10 e.natAbs
  (if e < 0 then '-' else '+') :: (if digits.length < 2 then '0' :: digits else digits)

/-- Digits after the point that are left when zeros at the end do not count. -/
def trimmed (digits : List Char) : List Char :=
  (digits.reverse.dropWhile (· == '0')).reverse

/-- A point and the digits after it; without digits there is no point, unless
the form is the alternate one. -/
def pointed (alternate : Bool) (digits : List Char) : List Char :=
  if digits.isEmpty && !alternate then [] else '.' :: digits

/-- A finite number's size with an exponent, as the digit before the point and
what follows. -/
def scientific (alternate : Bool) (digits : List Char) (point : Int) : List Char × List Char :=
  (digits.take 1, pointed alternate (digits.drop 1) ++ 'e' :: exponentText (point - 1))

/-- A finite number's size with `count` significant digits, positional unless
it is below `0.0001` or has more than `most` digits before the point.  Zeros
at the end stay only in the alternate form; `least` digits follow the point
at any rate. -/
def general (alternate : Bool) (least count : Nat) (most : Int) (x : Binary) :
    List Char × List Char :=
  let (digits, point) := x.significant count
  let kept := if alternate then digits else digits.take 1 ++ trimmed (digits.drop 1)
  if point ≤ -4 ∨ most < point then scientific alternate kept point
  else
    let whole : List Char := if point ≤ 0 then ['0'] else
      kept.take point.toNat ++ List.replicate (point.toNat - kept.length) '0'
    let after := if point ≤ 0 then List.replicate (-point).toNat '0' ++ kept
      else kept.drop point.toNat
    let after := if x.significand = 0 ∧ !alternate then [] else after
    (whole, pointed alternate (after ++ List.replicate (least - after.length) '0'))

/-- A finite number's size as it is written without a format. -/
def plainParts (alternate : Bool) (x : Binary) : List Char × List Char :=
  let all := x.text.toList.dropWhile (· == '-')
  let (whole, rest) := (all.takeWhile Char.isDigit, all.dropWhile Char.isDigit)
  (whole, if alternate && !rest.contains '.' then '.' :: rest else rest)

/-- The size of a finite number in a kind of presentation: the digits up to
the point, and what follows. -/
def parts (f : Format) (x : Binary) : List Char × List Char :=
  let count := f.precision.getD 6
  match f.kind with
  | some 'e' | some 'E' =>
    let (digits, point) := x.significant (count + 1)
    scientific f.alternate digits point
  | some 'f' | some 'F' | some '%' =>
    let (whole, after) := x.places count
    (whole, pointed f.alternate after)
  | some _ => general f.alternate 0 (max 1 count) (max 1 count) x
  | none =>
    match f.precision with
    | none => plainParts f.alternate x
    | some count => general f.alternate 1 (max 1 count) (max 1 count - 1) x

/-- A number with a fraction in a format that was read. -/
def decimalBy (f : Format) (type : String) (x : Binary) : Except FormatError (List Char) := do
  match f.kind with
  | some kind =>
    if !(['e', 'E', 'f', 'F', 'g', 'G', 'n', '%'].contains kind) then throw (.unknownKind kind type)
  | none => pure ()
  if 0x80000000 ≤ f.precision.getD 0 then throw .precisionTooBig
  let x := if f.kind == some '%' then Binary.ofFloat (x.toFloat * 100) else x
  let (whole, rest) :=
    if x.isNaN then ([], "nan".toList)
    else if !x.isFinite then ([], "inf".toList)
    else f.parts x
  let isZero := x.isFinite &&
    !((whole ++ rest.takeWhile (· != 'e')).any fun c => '1' ≤ c && c ≤ '9')
  let negative := x.isNegative && !x.isNaN && !(f.noNegativeZero && isZero)
  let rest := if f.kind == some '%' then rest ++ ['%'] else rest
  let rest := if ['E', 'F', 'G'].contains (f.kind.getD 'g') then rest.map Char.toUpper else rest
  pure (f.assembled 3 (f.signOf negative) whole rest)

/-- A number with a fraction in a format. -/
def decimal (format : List Char) (x : Binary) : Except FormatError (List Char) := do
  if format.isEmpty then return x.text.toList
  (← read "float" none format).decimalBy "float" x

/-- A whole number in a format.  `written` is its form without one. -/
def integer (format : List Char) (type written : String) (n : Int) :
    Except FormatError (List Char) := do
  if format.isEmpty then return written.toList
  let f ← read type none format
  let kind := f.kind.getD 'd'
  if ['e', 'E', 'f', 'F', 'g', 'G', '%'].contains kind then
    let x := Binary.ofDecimal (n < 0) n.natAbs 0
    if x.isFinite then return ← f.decimalBy type x else throw .numberTooLarge
  if !(['b', 'c', 'd', 'o', 'x', 'X', 'n'].contains kind) then throw (.unknownKind kind type)
  if f.precision.isSome then throw .integerPrecision
  if f.noNegativeZero then throw .integerNoNegativeZero
  if kind == 'c' then
    if f.sign.isSome then throw .characterSign
    if f.alternate then throw .characterAlternate
    if n < -0x8000000000000000 ∨ 0x8000000000000000 ≤ n then throw .characterTooLarge
    if n < 0 ∨ 0x110000 ≤ n then throw .characterRange
    return f.assembled 3 [] [] [Char.ofNat n.toNat]
  let base := match kind with
    | 'b' => 2
    | 'o' => 8
    | 'x' | 'X' => 16
    | _ => 10
  let digits := Nat.toDigits base n.natAbs
  let digits := if kind = 'X' then digits.map Char.toUpper else digits
  let lead := f.signOf (n < 0) ++ (if f.alternate && base != 10 then ['0', kind] else [])
  pure (f.assembled (if base = 10 then 3 else 4) lead digits [])

end Format

end Template

end Ratchet
