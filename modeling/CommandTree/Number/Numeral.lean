import CommandTree.Number.Binary64

/-!
# Numerals

Numbers as they are typed: a whole number is an optional sign and ASCII digits; a decimal has in
addition a fraction and an exponent. Digits may stand on one side of the point only.
-/

namespace CommandTree.Numeral

def isDigit (c : Char) : Bool := '0' ≤ c && c ≤ '9'

def digitValue (c : Char) : Nat := c.toNat - 48

/-- The number that digits denote. -/
def ofDigits (ds : List Char) : Nat :=
  ds.foldl (fun n d => 10 * n + digitValue d) 0

/-- Splits off an optional sign; whether it was a minus comes first. -/
def sign : List Char → Bool × List Char
  | '+' :: rest => (false, rest)
  | '-' :: rest => (true, rest)
  | rest => (false, rest)

/-- A whole number as typed. -/
structure Whole where
  negative : Bool
  digits : List Char
  deriving DecidableEq, Repr

/-- The whole number that a text is, if it is one. -/
def whole? (cs : List Char) : Option Whole :=
  let (negative, ds) := sign cs
  if !ds.isEmpty && ds.all isDigit then some ⟨negative, ds⟩ else none

def Whole.value (w : Whole) : Int :=
  Binary64.signed w.negative (ofDigits w.digits)

/-- The digits from the first that is not zero on. -/
def Whole.significant (w : Whole) : List Char :=
  w.digits.dropWhile (· == '0')

/-- A decimal as typed. -/
structure Decimal where
  negative : Bool
  digits : List Char
  fraction : List Char
  exponent : Int
  deriving DecidableEq, Repr

/-- The exponent part of a decimal, which is either absent or a letter and a whole number. -/
def exponent? : List Char → Option Int
  | [] => some 0
  | c :: rest => if c = 'e' ∨ c = 'E' then (whole? rest).map Whole.value else none

/-- What follows the digits before the point: the digits of the fraction and the rest. -/
def fraction : List Char → Option (List Char) × List Char
  | '.' :: rest => (some (rest.takeWhile isDigit), rest.dropWhile isDigit)
  | rest => (none, rest)

/-- The decimal that a text is, if it is one. -/
def decimal? (cs : List Char) : Option Decimal :=
  let (negative, cs) := sign cs
  let ds := cs.takeWhile isDigit
  let (fs, rest) := fraction (cs.dropWhile isDigit)
  let fs := fs.getD []
  if ds.isEmpty && fs.isEmpty then none
  else (exponent? rest).map fun e => ⟨negative, ds, fs, e⟩

/-- The floating point number nearest to a decimal. -/
def Decimal.value (d : Decimal) : Binary64 :=
  let ds := (d.digits ++ d.fraction).dropWhile (· == '0')
  Binary64.ofDecimal d.negative (ofDigits ds) ds.length (d.exponent - d.fraction.length)

/-- A floating point number by name, in any case, or as a decimal. -/
def float? (s : String) : Option Binary64 :=
  let (negative, cs) := sign s.toList
  match String.ofList (cs.map Char.toLower) with
  | "nan" => some .nan
  | "inf" | "infinity" => some (.infinite negative)
  | _ => (decimal? s.toList).map Decimal.value

end CommandTree.Numeral
