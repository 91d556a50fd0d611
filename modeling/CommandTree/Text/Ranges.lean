/-!
# Tables over code points

Sets of code points as sorted lists of closed intervals, and mappings as sorted lists of runs.
A search stops at the first entry beyond the code point, so small code points are found at once.
-/

namespace CommandTree.Text

/-- Whether a code point lies in one of the intervals, which are in ascending order. -/
def inRanges : List (Nat × Nat) → Nat → Bool
  | [], _ => false
  | (first, last) :: rest, n =>
    if n < first then false else if n ≤ last then true else inRanges rest n

/-- Code points `first, first + step, …, last`, each mapped to itself plus `shift`. -/
structure CaseRun where
  first : Nat
  last : Nat
  step : Nat
  shift : Int
  deriving DecidableEq, Repr

/-- The image of a code point under the runs, which are in ascending order; a code point outside
all of them maps to itself. -/
def shifted : List CaseRun → Nat → Nat
  | [], n => n
  | run :: rest, n =>
    if n < run.first then n
    else if n ≤ run.last then
      if (n - run.first) % run.step = 0 then (n + run.shift).toNat else n
    else shifted rest n

/-- The entry of a code point in a table in ascending order. -/
def special? : List (Nat × List Nat) → Nat → Option (List Nat)
  | [], _ => none
  | (key, image) :: rest, n =>
    if n < key then none else if n = key then some image else special? rest n

/-- The characters a character maps to: several by the table of special images, else one by the
runs. -/
def mapped (special : List (Nat × List Nat)) (runs : List CaseRun) (c : Char) : List Char :=
  match special? special c.toNat with
  | some image => image.map Char.ofNat
  | none => [Char.ofNat (shifted runs c.toNat)]

end CommandTree.Text
