/-!
# Floating point numbers

A floating point number has 53 significant bits and an exponent from -1074 on. Finite numbers are
kept exactly, as a mantissa and a power of two, so comparison and rounding are integer arithmetic.
Rounding goes to the nearest number and from a half to the even mantissa (`roundDiv_le`,
`le_roundDiv`).
-/

namespace CommandTree

/-- The quotient rounded to the nearest whole number, a half to the even one. -/
def roundDiv (num den : Nat) : Nat :=
  let q := num / den
  let r := num % den
  if 2 * r < den then q
  else if den < 2 * r then q + 1
  else if q % 2 = 0 then q else q + 1

theorem succ_div_mul (num den : Nat) : (num / den + 1) * den = num / den * den + den := by
  rw [Nat.add_mul, Nat.one_mul]

theorem div_mul_add_mod (num den : Nat) : num / den * den + num % den = num := by
  rw [Nat.mul_comm]
  exact Nat.div_add_mod num den

theorem roundDiv_le (num den : Nat) (h : 0 < den) :
    2 * (roundDiv num den * den) ≤ 2 * num + den := by
  have hd := div_mul_add_mod num den
  have hs := succ_div_mul num den
  have hm := Nat.mod_lt num h
  unfold roundDiv
  simp only
  repeat' split
  all_goals omega

theorem le_roundDiv (num den : Nat) (h : 0 < den) :
    2 * num ≤ 2 * (roundDiv num den * den) + den := by
  have hd := div_mul_add_mod num den
  have hs := succ_div_mul num den
  have hm := Nat.mod_lt num h
  unfold roundDiv
  simp only
  repeat' split
  all_goals omega

def twoTo (exponent : Nat) : Nat := Nat.pow 2 exponent
def tenTo (exponent : Nat) : Nat := Nat.pow 10 exponent

/-- Not a number, an infinity, or plus or minus `mantissa * 2 ^ exponent`. -/
inductive Binary64 where
  | nan
  | infinite (negative : Bool)
  | finite (negative : Bool) (mantissa : Nat) (exponent : Int)
  deriving DecidableEq, Repr

namespace Binary64

def isFinite : Binary64 → Bool
  | finite .. => true
  | _ => false

def isZero : Binary64 → Bool
  | finite _ m _ => m == 0
  | _ => false

/-- `n * 2 ^ e` as a quotient of whole numbers. -/
def ratio (n : Nat) (e : Int) : Nat × Nat :=
  if 0 ≤ e then (n * twoTo e.toNat, 1) else (n, twoTo (-e).toNat)

/-- The power of two of the last bit when `num / den` is written with 53 bits, or the least one. -/
def lastBit (num den : Nat) : Int :=
  let e : Int := (num.log2 : Int) - (den.log2 : Int) - 52
  let below :=
    if 0 ≤ e then num < den * twoTo (e.toNat + 52) else num * twoTo (-e).toNat < den * twoTo 52
  max (if below then e - 1 else e) (-1074)

/-- The number nearest to `num / den`. -/
def ofRatio (negative : Bool) (num den : Nat) : Binary64 :=
  if num = 0 then finite negative 0 0
  else
    let e := lastBit num den
    let m :=
      if 0 ≤ e then roundDiv num (den * twoTo e.toNat)
      else roundDiv (num * twoTo (-e).toNat) den
    let (m, e) := if m = twoTo 53 then (twoTo 52, e + 1) else (m, e)
    if m = 0 then finite negative 0 0
    else if 971 < e then infinite negative
    else finite negative m e

/-- The number nearest to `coefficient * 10 ^ exponent`, for a coefficient of `digits` digits. Far
outside the range of the exponents the power is not computed. -/
def ofDecimal (negative : Bool) (coefficient digits : Nat) (exponent : Int) : Binary64 :=
  if coefficient = 0 then finite negative 0 0
  else if 400 < (digits : Int) + exponent then infinite negative
  else if (digits : Int) + exponent < -400 then finite negative 0 0
  else if 0 ≤ exponent then ofRatio negative (coefficient * tenTo exponent.toNat) 1
  else ofRatio negative coefficient (tenTo (-exponent).toNat)

def signed (negative : Bool) (n : Nat) : Int :=
  if negative then -(n : Int) else n

/-- A finite number in units of `2 ^ unit`, for a unit not above its exponent. -/
def inUnits (negative : Bool) (mantissa : Nat) (exponent unit : Int) : Int :=
  signed negative (mantissa * twoTo (exponent - unit).toNat)

/-- The order of two numbers; none when one of them is not a number. -/
def order? : Binary64 → Binary64 → Option Ordering
  | nan, _ => none
  | _, nan => none
  | infinite n, infinite n' => some (compare (if n then 0 else 1 : Nat) (if n' then 0 else 1))
  | infinite n, finite .. => some (if n then .lt else .gt)
  | finite .., infinite n => some (if n then .gt else .lt)
  | finite n m e, finite n' m' e' =>
    some (compare (inUnits n m e (min e e')) (inUnits n' m' e' (min e e')))

/-- The whole number towards zero. -/
def truncate : Binary64 → Int
  | finite n m e => if 0 ≤ e then signed n (m * twoTo e.toNat) else signed n (m / twoTo (-e).toNat)
  | _ => 0

/-- The remainder that has the sign of the divisor; none for a zero divisor. -/
def floorMod? : Binary64 → Binary64 → Option Binary64
  | _, finite _ 0 _ => none
  | finite n m e, finite n' m' e' =>
    let unit := min e e'
    let b := inUnits n' m' e' unit
    let r := (inUnits n m e unit).fmod b
    let (num, den) := ratio r.natAbs unit
    some (ofRatio (if r = 0 then n' else r < 0) num den)
  | finite n m e, infinite n' => some (if m = 0 ∨ n = n' then finite n m e else infinite n')
  | _, _ => some nan

end Binary64

end CommandTree
