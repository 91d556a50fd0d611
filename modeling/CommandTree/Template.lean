import CommandTree.Number.Decimal
import CommandTree.Number.Numeral
import CommandTree.Text.Quoted
import CommandTree.Value.Compare

/-!
# Message templates

A template is text with at most one place for a value. The place is written as a percent sign,
flags, a least width, a precision after a point and a letter for the kind of text; a literal percent
sign is written twice. A template is read once (`Template.ofString`) and then rendered with
numbers. A few kinds refuse some numbers: digits in base eight and sixteen and characters need whole
numbers, and a character needs one that is a code point. A place that asks for more than can be
written is refused as soon as it is read.
-/

namespace CommandTree

/-- How the value of a place is written. -/
inductive Form where
  | shown (isQuoted : Bool)
  | decimal
  | octal
  | hexadecimal (isUpper : Bool)
  | scientific (isUpper : Bool)
  | fixed (isUpper : Bool)
  | general (isUpper : Bool)
  | character
  deriving DecidableEq, Repr

/-- The place for a value. -/
structure Place where
  isLeft : Bool
  showsPlus : Bool
  showsBlank : Bool
  isAlternate : Bool
  fillsZeros : Bool
  width : Nat
  precision : Option Nat
  form : Form
  deriving DecidableEq, Repr

inductive Piece where
  | literal (c : Char)
  | place (p : Place)
  deriving DecidableEq, Repr

structure Template where
  pieces : List Piece
  deriving DecidableEq, Repr

/-- Why a text is not taken as a template. -/
inductive Flaw where
  /-- A percent sign is not followed by another one or by a place, or a second place follows. -/
  | malformed
  /-- A place asks for more digits than a whole number can be written with. -/
  | digits
  /-- A place asks for a longer text than there is room for. -/
  | length
  deriving DecidableEq, Repr

namespace Form

def ofLetter? (c : Char) : Option Form :=
  match c with
  | 's' => some (shown false)
  | 'r' | 'a' => some (shown true)
  | 'd' | 'i' | 'u' => some decimal
  | 'o' => some octal
  | 'x' => some (hexadecimal false)
  | 'X' => some (hexadecimal true)
  | 'e' => some (scientific false)
  | 'E' => some (scientific true)
  | 'f' => some (fixed false)
  | 'F' => some (fixed true)
  | 'g' => some (general false)
  | 'G' => some (general true)
  | 'c' => some character
  | _ => none

/-- Whole numbers are written with at least as many digits as the precision says. -/
def isWhole : Form → Bool
  | decimal | octal | hexadecimal _ => true
  | _ => false

/-- Whether letters among the digits are capitals. -/
def isUpper : Form → Bool
  | hexadecimal isUpper | scientific isUpper | fixed isUpper | general isUpper => isUpper
  | _ => false

end Form

namespace Place

def isFlag (c : Char) : Bool := ['-', '+', ' ', '#', '0'].contains c

/-- Letters for the size of a number, which have no effect. -/
def isSize (c : Char) : Bool := ['h', 'l', 'L'].contains c

def greatestWidth : Nat := 9223372036854775807
def greatestPrecision : Nat := 2147483647

/-- The most digits that a whole number is filled up to: room is left for a sign and a mark. -/
def greatestDigits : Nat := 2147483644

/-- What a place asks for that cannot be written, where there is room for texts of a length. -/
def flaw? (room : Nat) (p : Place) : Option Flaw :=
  if p.form.isWhole ∧ greatestDigits < p.precision.getD 0 then some .digits
  else if room < p.width then some .length
  else none

/-- The precision after a point, if there is one, and how many characters it takes up. -/
def precisionOf (cs : List Char) : Option Nat × Nat :=
  match cs with
  | '.' :: rest =>
    let ds := rest.takeWhile Numeral.isDigit
    (some (Numeral.ofDigits ds), ds.length + 1)
  | _ => (none, 0)

/-- The place that follows a percent sign, and how many characters it takes up. -/
def read? (cs : List Char) : Option (Place × Nat) :=
  let flags := cs.takeWhile isFlag
  let afterFlags := cs.drop flags.length
  let widthDigits := afterFlags.takeWhile Numeral.isDigit
  let afterWidth := afterFlags.drop widthDigits.length
  let width := Numeral.ofDigits widthDigits
  let (precision, precisionLength) := precisionOf afterWidth
  let afterPrecision := afterWidth.drop precisionLength
  let sizeLength := if afterPrecision.head?.any isSize then 1 else 0
  let used := flags.length + widthDigits.length + precisionLength + sizeLength + 1
  if greatestWidth < width ∨ greatestPrecision < precision.getD 0 then none
  else do
    let letter ← (afterPrecision.drop sizeLength).head?
    let form ← Form.ofLetter? letter
    return (⟨flags.contains '-', flags.contains '+', flags.contains ' ', flags.contains '#',
      flags.contains '0', width, precision, form⟩, used)

/-- The text of a number without its sign: what marks its base, and its digits. -/
structure Unsigned where
  negative : Bool
  mark : List Char
  body : List Char

/-- A whole number in a base, with at least as many digits as the precision says. -/
def wholeBody (p : Place) (n : Int) (base : Nat) (isUpper : Bool) (letter : Char) : Unsigned :=
  let ds := Text.digitsIn base (p.precision.getD 0) n.natAbs
  let ds := if isUpper then ds.map Char.toUpper else ds
  ⟨n < 0, if p.isAlternate && base != 10 then ['0', letter] else [], ds⟩

/-- How many digits scientific writing has, the one before the point included. The greatest
precision has no successor and asks for no digit after the point. -/
def scientificCount (precision : Nat) : Nat :=
  if precision = greatestPrecision then 1 else precision + 1

/-- The digits of a finite number, without its sign. Where zeros at the end are left out, no more
digits are computed than a number can have. -/
def finiteBody (p : Place) (mantissa : Nat) (exponent : Int) : List Char :=
  let precision := p.precision.getD 6
  let mark := if p.form.isUpper then 'E' else 'e'
  let digits (count : Nat) : Decimal.Digits :=
    if mantissa = 0 then ⟨List.replicate count '0', 1⟩ else Decimal.rounded mantissa exponent count
  match p.form with
  | .scientific _ => Decimal.scientific (digits (scientificCount precision)) p.isAlternate mark
  | .general _ =>
    let count := max precision 1
    let d := digits (if p.isAlternate then count else min count Decimal.greatestCount)
    let kept : Decimal.Digits := if p.isAlternate then d else ⟨Decimal.trim d.digits, d.point⟩
    if -4 < d.point ∧ d.point ≤ count then Decimal.positional kept p.isAlternate
    else Decimal.scientific kept p.isAlternate mark
  | _ => Decimal.positional (Decimal.fixed mantissa exponent precision) p.isAlternate

def floatBody (p : Place) : Binary64 → Unsigned
  | .nan => ⟨false, [], if p.form.isUpper then ['N', 'A', 'N'] else ['n', 'a', 'n']⟩
  | .infinite negative => ⟨negative, [],
    if p.form.isUpper then ['I', 'N', 'F'] else ['i', 'n', 'f']⟩
  | .finite negative m e => ⟨negative, [], p.finiteBody m e⟩

/-- A number as a whole one, without what follows the point. -/
def truncated (v : Value) : Except Error Int :=
  match v with
  | .float .nan => .error .notANumber
  | .float (.infinite _) => .error .tooLarge
  | .float x => .ok x.truncate
  | v => match v.whole? with
    | some n => .ok n
    | none => .error .unsupported

/-- A whole number that is written as one already. -/
def whole (v : Value) : Except Error Int :=
  match v.whole? with
  | some n => .ok n
  | none => .error .unsupported

/-- The character with a number. A surrogate has a number too, but no text has it in it. -/
def characterOf (n : Int) : Except Error Char :=
  if n < 0 ∨ 0x110000 ≤ n then .error .characterRange
  else if h : n.toNat.isValidChar then .ok (Char.ofNatAux n.toNat h)
  else .error .surrogate

def sign (p : Place) (negative : Bool) : List Char :=
  if negative then ['-'] else if p.showsPlus then ['+'] else if p.showsBlank then [' '] else []

/-- Fills a text up to the width with blanks, which precede it unless it stands on the left. -/
def pad (p : Place) (cs : List Char) : List Char :=
  let blanks := List.replicate (p.width - cs.length) ' '
  if p.isLeft then cs ++ blanks else blanks ++ cs

/-- A number with its sign and mark, filled up to the width. Zeros stand before the digits. -/
def number (p : Place) (u : Unsigned) : List Char :=
  let front := p.sign u.negative ++ u.mark
  let zeros := p.width - (front.length + u.body.length)
  p.pad (front ++ (if p.fillsZeros && !p.isLeft then List.replicate zeros '0' else []) ++ u.body)

/-- The text of a value at a place. -/
def render (p : Place) (v : Value) : Except Error (List Char) :=
  match p.form with
  | .shown isQuoted => do
    let s ← if isQuoted then .ok v.shown else v.display
    return p.pad (match p.precision with
      | some n => s.toList.take n
      | none => s.toList)
  | .decimal => do return p.number (p.wholeBody (← truncated v) 10 false 'd')
  | .octal => do return p.number (p.wholeBody (← whole v) 8 false 'o')
  | .hexadecimal isUpper => do
    return p.number (p.wholeBody (← whole v) 16 isUpper (if isUpper then 'X' else 'x'))
  | .character => do return p.pad [← characterOf (← whole v)]
  | _ => do return p.number (p.floatBody (← v.toBinary64))

end Place

namespace Template

/-- The pieces that a text consists of. Once it has a place, a second one is a flaw. -/
def piecesOf (room : Nat) (hasPlace : Bool) : List Char → Except Flaw (List Piece)
  | [] => .ok []
  | '%' :: '%' :: rest => do return .literal '%' :: (← piecesOf room hasPlace rest)
  | c :: rest =>
    if c = '%' then
      match Place.read? rest with
      | some (p, used) =>
        if hasPlace then .error .malformed
        else match p.flaw? room with
          | some flaw => .error flaw
          | none => do return .place p :: (← piecesOf room true (rest.drop used))
      | none => .error .malformed
    else do return .literal c :: (← piecesOf room hasPlace rest)
termination_by cs => cs.length
decreasing_by all_goals (simp only [List.length_cons, List.length_drop]; omega)

/-- The template that a text is, or the first flaw that keeps it from being one. -/
def ofString (room : Nat) (s : String) : Except Flaw Template := do
  return ⟨← piecesOf room false s.toList⟩

def renderPieces (v : Value) : List Piece → Except Error (List Char)
  | [] => .ok []
  | .literal c :: rest => do return c :: (← renderPieces v rest)
  | .place p :: rest => do return (← p.render v) ++ (← renderPieces v rest)

/-- The text of a template with a value at its place. -/
def render (t : Template) (v : Value) : Except Error String := do
  return String.ofList (← renderPieces v t.pieces)

end Template

/-- A text together with the template that it is, where there is room for it. -/
structure Wording where
  text : String
  template : Template
  room : Nat
  template_eq : Template.ofString room text = .ok template

namespace Wording

def ofString (room : Nat) (s : String) : Except Flaw Wording :=
  match h : Template.ofString room s with
  | .ok t => .ok ⟨s, t, room, h⟩
  | .error flaw => .error flaw

def render (w : Wording) (v : Value) : Except Error String := w.template.render v

end Wording

end CommandTree
