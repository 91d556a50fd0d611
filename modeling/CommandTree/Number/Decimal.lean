import CommandTree.Number.Binary64

/-!
# Decimal digits of floating point numbers

A positive number is written by its digits `d₁d₂…` and the place of the point, as
`0.d₁d₂… * 10 ^ point`. The shortest form has the fewest digits that read back as the number, and
of those the nearest ones; a rounded form has as many digits as are asked for.
-/

namespace CommandTree.Decimal

/-- Digits of a positive number, and the place of the point before which they all would stand. -/
structure Digits where
  digits : List Char
  point : Int
  deriving DecidableEq, Repr

def digitCount (n : Nat) : Nat := (Nat.toDigits 10 n).length

/-- The least power of ten above `num / den`. -/
def pointOf (num den : Nat) : Int :=
  let p : Int := (digitCount num : Int) - digitCount den
  let below := if 0 ≤ p then num < den * tenTo p.toNat else num * tenTo (-p).toNat < den
  if below then p else p + 1

/-- `num / den * 10 ^ places` as a quotient. -/
def scaled (num den : Nat) (places : Int) : Nat × Nat :=
  if 0 ≤ places then (num * tenTo places.toNat, den) else (num, den * tenTo (-places).toNat)

/-- Whether a coefficient with that many decimal places reads back as the number. -/
def readsBack (mantissa : Nat) (exponent : Int) (places : Int) (coefficient : Nat) : Bool :=
  Binary64.ofDecimal false coefficient (digitCount coefficient) (-places) ==
    .finite false mantissa exponent

/-- The nearer one, of the two neighbours of the number with `count` digits, that reads back. -/
def neighbour? (mantissa : Nat) (exponent : Int) (count : Nat) : Option Digits :=
  let (num, den) := Binary64.ratio mantissa exponent
  let point := pointOf num den
  let places := count - point
  let (n, d) := scaled num den places
  let low := n / d
  let nearer := roundDiv n d
  let farther := if nearer = low then low + 1 else low
  let back := readsBack mantissa exponent places
  let form (coefficient : Nat) : Digits :=
    let ds := Nat.toDigits 10 coefficient
    ⟨ds, point + ds.length - count⟩
  if back nearer then some (form nearer)
  else if back farther then some (form farther)
  else none

/-- Digits without the zeros at their end. -/
def trim (ds : List Char) : List Char :=
  (ds.reverse.dropWhile (· == '0')).reverse

/-- The fewest digits that read back as `mantissa * 2 ^ exponent`; seventeen always do. -/
def shortest (mantissa : Nat) (exponent : Int) : Digits :=
  let found := (List.range 17).findSome? fun i => neighbour? mantissa exponent (i + 1)
  let form := found.getD ⟨['0'], 1⟩
  ⟨trim form.digits, form.point⟩

/-- No number has more digits than this before those that are all zeros. -/
def greatestCount : Nat := 767

/-- The digits of a positive number rounded to `count` significant ones. -/
def rounded (mantissa : Nat) (exponent : Int) (count : Nat) : Digits :=
  let (num, den) := Binary64.ratio mantissa exponent
  let point := pointOf num den
  let (n, d) := scaled num den (count - point)
  let ds := Nat.toDigits 10 (roundDiv n d)
  ⟨ds.take count, point + ds.length - count⟩

/-- The digits of a number rounded to so many places after the point, and the number of those
before it. -/
def fixed (mantissa : Nat) (exponent : Int) (places : Nat) : Digits :=
  let (num, den) := Binary64.ratio mantissa exponent
  let ds := Nat.toDigits 10 (roundDiv (num * tenTo places) den)
  let ds := List.replicate (places + 1 - ds.length) '0' ++ ds
  ⟨ds, ds.length - places⟩

/-- Digits with a point among them, filled up with zeros. The point is left out when nothing
follows it, unless it is asked for. -/
def positional (form : Digits) (keepPoint : Bool) : List Char :=
  let before := form.point.toNat
  let whole := form.digits.take before
  let whole := whole ++ List.replicate (before - whole.length) '0'
  let part := List.replicate (-form.point).toNat '0' ++ form.digits.drop before
  (if whole.isEmpty then ['0'] else whole) ++
    (if part.isEmpty && !keepPoint then [] else '.' :: part)

/-- One digit before the point and an exponent of at least two digits. -/
def scientific (form : Digits) (keepPoint : Bool) (mark : Char) : List Char :=
  let e := form.point - 1
  let ds := Nat.toDigits 10 e.natAbs
  form.digits.take 1 ++
    (if form.digits.length ≤ 1 && !keepPoint then [] else '.' :: form.digits.drop 1) ++
    mark :: (if e < 0 then '-' else '+') :: (List.replicate (2 - ds.length) '0' ++ ds)

/-- Where numbers change from positional to scientific writing, and whether a whole number keeps a
zero after the point. -/
structure Layout where
  least : Int
  greatest : Int
  wholePart : List Char
  deriving DecidableEq, Repr

/-- The text of values: positional from a ten-thousandth up to sixteen digits, and a whole number
ends in a point and a zero. -/
def valueLayout : Layout := ⟨-3, 16, ['.', '0']⟩

/-- The text of a floating point number by a layout, with its fewest digits. -/
def text (layout : Layout) : Binary64 → String
  | .nan => "nan"
  | .infinite negative => if negative then "-inf" else "inf"
  | .finite negative m e =>
    let form : Digits := if m = 0 then ⟨['0'], 1⟩ else shortest m e
    let body :=
      if layout.least ≤ form.point ∧ form.point ≤ layout.greatest then
        positional form false ++
          (if (form.digits.length : Int) ≤ form.point then layout.wholePart else [])
      else scientific form false 'e'
    String.ofList (if negative then '-' :: body else body)

end CommandTree.Decimal
