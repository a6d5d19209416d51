import Ratchet.Number.Binary

namespace Ratchet

/-!
# Numbers to a given count of digits

A number written to a count of places, or of significant digits, is the
nearest one on that decimal grid.  Of two that are equally near it is the even
one.  The rounding is done on exact ratios, so nothing is rounded twice.
-/

namespace Shortest.Ratio

/-- The whole number nearest to a ratio. -/
def nearest (r : Ratio) : Nat := nearer r r.floor

end Shortest.Ratio

namespace Binary

/-- The size of a finite number. -/
def size (x : Binary) : Shortest.Ratio :=
  Shortest.Ratio.ofQuarters (4 * x.significand) x.power

/-- The digits of a finite number's size before the decimal point, and
`count` digits after it. -/
def places (x : Binary) (count : Nat) : List Char × List Char :=
  let all := Nat.toDigits 10 (x.size.scaleDown (-count)).nearest
  let all := List.replicate (count + 1 - all.length) '0' ++ all
  (all.take (all.length - count), all.drop (all.length - count))

/-- The first `count` digits of a finite number's size, and where the decimal
point stands relative to the first one. -/
def significant (x : Binary) (count : Nat) : List Char × Int :=
  if x.significand = 0 then (List.replicate count '0', 1)
  else
    let magnitude := x.size.magnitude
    let all := Nat.toDigits 10 (x.size.scaleDown (magnitude - count)).nearest
    (all.take count, if count < all.length then magnitude + 1 else magnitude)

end Binary

end Ratchet
