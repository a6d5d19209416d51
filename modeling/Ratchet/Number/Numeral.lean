import Ratchet.Number.Binary
import Ratchet.Text.Blank
import Ratchet.Text.Cut
import Ratchet.Text.Digit

namespace Ratchet

/-!
# Numerals

Numbers as people write them: white space around, an optional sign, and digits
of any script.  A whole number may have its base in front, as in `0x1f`; a
decimal number may have a point, an exponent, or be one of the named ones.
-/

namespace Numeral

/-- The value of a digit or of a Latin letter, the letters counting on from
ten. -/
def digitValue? (c : Char) : Option Nat :=
  if 'a' ≤ c ∧ c ≤ 'z' then some (c.toNat - 87)
  else if 'A' ≤ c ∧ c ≤ 'Z' then some (c.toNat - 55)
  else (Digit.ranges.find? fun range => range.1 ≤ c.toNat && c.toNat ≤ range.2).map
    fun range => (c.toNat - range.1) % 10

/-- The number that a run of digits stands for in a base. -/
def natural? (base : Nat) (cs : List Char) : Option Nat :=
  if cs.isEmpty then none
  else cs.foldlM (fun n c => do
    let digit ← digitValue? c
    if digit < base then some (n * base + digit) else none) 0

/-- A sign and what follows it. -/
def signed (cs : List Char) : Bool × List Char :=
  match cs with
  | '-' :: rest => (true, rest)
  | '+' :: rest => (false, rest)
  | _ => (false, cs)

/-- The most digits of a number in base ten that is read as a whole number. -/
def mostDigits : Nat := 4300

/-- How many digits of base ten a text begins with, after white space and a
sign. -/
def leadingDigits (s : String) : Nat :=
  ((signed (Blank.strip s.toList)).2.takeWhile Digit.isDigit).length

/-- The letter that marks a base after a zero. -/
def marker? : Nat → Option Char
  | 2 => some 'b'
  | 8 => some 'o'
  | 16 => some 'x'
  | _ => none

/-- The digits without the mark of their base. -/
def withoutMarker (base : Nat) (cs : List Char) : List Char :=
  match cs with
  | '0' :: letter :: rest => if marker? base = some letter.toLower then rest else cs
  | _ => cs

/-- The whole number that a text stands for in a base. -/
def integer? (base : Nat) (s : String) : Option Int :=
  let (negative, cs) := signed (Blank.strip s.toList)
  (natural? base (withoutMarker base cs)).map fun n => if negative then -(n : Int) else n

/-- The exponent that ends a decimal number; nothing is zero. -/
def exponent? : List Char → Option Int
  | [] => some 0
  | e :: rest =>
    if e = 'e' then
      let (negative, cs) := signed rest
      (natural? 10 cs).map fun n => if negative then -(n : Int) else n
    else none

/-- The number that a text stands for. -/
def decimal? (s : String) : Option Binary :=
  let (negative, cs) := signed ((Blank.strip s.toList).map Char.toLower)
  let word := String.ofList cs
  if word = "inf" ∨ word = "infinity" then
    some (if negative then Binary.negativeInfinity else Binary.infinity)
  else if word = "nan" then some Binary.notANumber
  else
    let isDigit (c : Char) : Bool := Digit.isDigit c
    let whole := cs.takeWhile isDigit
    let rest := cs.dropWhile isDigit
    let (fraction, rest) := match rest with
      | '.' :: more => (more.takeWhile isDigit, more.dropWhile isDigit)
      | _ => ([], rest)
    do
      let mantissa ← natural? 10 (whole ++ fraction)
      let exponent ← exponent? rest
      some (Binary.ofDecimal negative mantissa (exponent - fraction.length))

/-- A text without the underscores that stand between two digits, if all of
its underscores do. -/
def ungrouped? : (afterDigit : Bool) → List Char → Option (List Char)
  | _, [] => some []
  | afterDigit, '_' :: rest =>
    match rest with
    | [] => none
    | c :: _ => if afterDigit && c.isDigit then ungrouped? false rest else none
  | _, c :: rest => (ungrouped? c.isDigit rest).map (c :: ·)

/-- True when a text is a number in the widest form. -/
def isNumber (s : String) : Bool :=
  match ungrouped? false s.toList with
  | some cs => (decimal? (String.ofList cs)).isSome
  | none => false

end Numeral

end Ratchet
