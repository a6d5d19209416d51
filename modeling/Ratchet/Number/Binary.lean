namespace Ratchet

/-!
# Binary numbers

A floating-point number is kept as its 64 bits, so that equality is decidable
and every bit is in the logic.  A finite number is its significand times a
power of two.

The text of a number has the fewest decimal digits that read back as the same
number.  `Shortest.digits` finds them on exact natural numbers: among the
decimal grids with one, two, up to seventeen digits, the first that has a
point in the interval of reals rounding to the number decides the count, and
of the points on both sides the nearer one is taken.
-/

/-- A floating-point number by its bits. -/
structure Binary where
  bits : UInt64
  deriving DecidableEq, Inhabited

namespace Binary

def ofFloat (x : Float) : Binary := ⟨x.toBits⟩

def toFloat (x : Binary) : Float := Float.ofBits x.bits

/-- The number nearest to `mantissa * 10 ^ exponent`, with a sign.  Beyond four
hundred the exponent no longer matters: the result is infinite or zero. -/
def ofDecimal (negative : Bool) (mantissa : Nat) (exponent : Int) : Binary :=
  let least : Int := -400 - (mantissa.log2 + 1 : Nat)
  let size := match max least (min exponent 400) with
    | .ofNat e => Float.ofScientific mantissa false e
    | .negSucc e => Float.ofScientific mantissa true (e + 1)
  ofFloat (if negative then -size else size)

def infinity : Binary := ⟨0x7ff0000000000000⟩
def negativeInfinity : Binary := ⟨0xfff0000000000000⟩
def notANumber : Binary := ⟨0x7ff8000000000000⟩

def isNegative (x : Binary) : Bool := x.bits ≥ 0x8000000000000000

/-- The biased exponent. -/
def rawExponent (x : Binary) : Nat := (x.bits.toNat / 0x10000000000000) % 2048

/-- The stored part of the significand. -/
def fraction (x : Binary) : Nat := x.bits.toNat % 0x10000000000000

def isFinite (x : Binary) : Bool := x.rawExponent != 2047

def isNaN (x : Binary) : Bool := x.rawExponent == 2047 && x.fraction != 0

/-- The significand of a finite number. -/
def significand (x : Binary) : Nat :=
  if x.rawExponent = 0 then x.fraction else 0x10000000000000 + x.fraction

/-- The power of two that the significand is multiplied by. -/
def power (x : Binary) : Int :=
  (if x.rawExponent = 0 then 1 else (x.rawExponent : Int)) - 1075

/-- The value of a finite number without fractional part. -/
def toInt? (x : Binary) : Option Int :=
  if x.isFinite then
    let size : Option Nat := match x.power with
      | .ofNat e => some (x.significand * Nat.pow 2 e)
      | .negSucc e =>
        if x.significand % Nat.pow 2 (e + 1) = 0 then some (x.significand / Nat.pow 2 (e + 1)) else none
    size.map fun n => if x.isNegative then -(n : Int) else (n : Int)
  else none

end Binary

/-! ## The fewest digits that read back -/

namespace Shortest

/-- A positive decimal number `digits * 10 ^ scale`. -/
structure Decimal where
  digits : Nat
  scale : Int
  deriving Repr

/-- A positive rational number. -/
structure Ratio where
  numerator : Nat
  denominator : Nat

namespace Ratio

/-- `quarters * 2 ^ power / 4`. -/
def ofQuarters (quarters : Nat) (power : Int) : Ratio :=
  match power - 2 with
  | .ofNat e => ⟨quarters * Nat.pow 2 e, 1⟩
  | .negSucc e => ⟨quarters, Nat.pow 2 (e + 1)⟩

/-- The ratio divided by a power of ten. -/
def scaleDown (r : Ratio) : Int → Ratio
  | .ofNat e => ⟨r.numerator, r.denominator * Nat.pow 10 e⟩
  | .negSucc e => ⟨r.numerator * Nat.pow 10 (e + 1), r.denominator⟩

def floor (r : Ratio) : Nat := r.numerator / r.denominator

/-- The sign of `n - r`. -/
def compareNat (n : Nat) (r : Ratio) : Ordering :=
  compare (n * r.denominator) r.numerator

/-- The number of digits before the decimal point, negated for the zeros
that follow the point of a number below one. -/
def magnitude (r : Ratio) : Int :=
  if r.denominator ≤ r.numerator then (Nat.toDigits 10 r.floor).length
  else
    let rec zeros (fuel : Nat) (numerator : Nat) : Int :=
      match fuel with
      | 0 => 0
      | fuel + 1 =>
        if r.denominator ≤ numerator * 10 then 0 else zeros fuel (numerator * 10) - 1
    zeros 400 r.numerator

end Ratio

/-- True when `n` lies in the interval, whose ends belong to it if `closed`. -/
def within (low high : Ratio) (closed : Bool) (n : Nat) : Bool :=
  match Ratio.compareNat n low, Ratio.compareNat n high with
  | .gt, .lt => true
  | .eq, .lt | .gt, .eq | .eq, .eq => closed
  | _, _ => false

/-- Of two neighbours on a grid the one nearer to `value`, an even one in
the middle. -/
def nearer (value : Ratio) (below : Nat) : Nat :=
  match Ratio.compareNat (2 * below + 1) ⟨2 * value.numerator, value.denominator⟩ with
  | .gt => below
  | .lt => below + 1
  | .eq => if below % 2 = 0 then below else below + 1

/-- The point of the grid with `count` digits that reads back, if there is
one. -/
def onGrid? (value low high : Ratio) (closed : Bool) (magnitude : Int) (count : Nat) :
    Option Decimal :=
  let scale := magnitude - count
  let value := value.scaleDown scale
  let low := low.scaleDown scale
  let high := high.scaleDown scale
  let below := value.floor
  let fits := within low high closed
  if fits below && fits (below + 1) then some ⟨nearer value below, scale⟩
  else if fits below then some ⟨below, scale⟩
  else if fits (below + 1) then some ⟨below + 1, scale⟩
  else none

/-- The shortest decimal that reads back as a finite positive number. -/
def digits (x : Binary) : Decimal :=
  let m := x.significand
  let q := x.power
  let value := Ratio.ofQuarters (4 * m) q
  let below := if x.fraction = 0 ∧ 1 < x.rawExponent then 4 * m - 1 else 4 * m - 2
  let low := Ratio.ofQuarters below q
  let high := Ratio.ofQuarters (4 * m + 2) q
  let magnitude := value.magnitude
  ((List.range 17).findSome? fun i =>
    onGrid? value low high (m % 2 == 0) magnitude (i + 1)).getD ⟨m, 0⟩

end Shortest

namespace Binary

/-- Digits without trailing zeros, and where the decimal point stands
relative to their first one. -/
def pointedDigits (d : Shortest.Decimal) : List Char × Int :=
  let all := Nat.toDigits 10 d.digits
  let kept := (all.reverse.dropWhile (· == '0')).reverse
  (kept, (all.length : Int) + d.scale)

/-- The text of a number: positional from `0.0001` up to below `10 ^ 16`, with
at least one digit after the point, and otherwise with an exponent of at
least two digits. -/
def text (x : Binary) : String :=
  let sign := if x.isNegative then "-" else ""
  if x.isNaN then "nan"
  else if !x.isFinite then sign ++ "inf"
  else if x.significand = 0 then sign ++ "0.0"
  else
    let (ds, point) := pointedDigits (Shortest.digits x)
    let body : List Char :=
      if -4 < point ∧ point ≤ 16 then
        if point ≤ 0 then ['0', '.'] ++ List.replicate (-point).toNat '0' ++ ds
        else if (ds.length : Int) ≤ point then
          ds ++ List.replicate (point.toNat - ds.length) '0' ++ ['.', '0']
        else ds.take point.toNat ++ ['.'] ++ ds.drop point.toNat
      else
        let e := point - 1
        let exponent := Nat.toDigits 10 e.natAbs
        ds.take 1 ++ (if ds.length ≤ 1 then [] else '.' :: ds.drop 1) ++
          ['e', if e < 0 then '-' else '+'] ++
          (if exponent.length < 2 then '0' :: exponent else exponent)
    sign ++ String.ofList body

end Binary

end Ratchet
