import CommandTree.Host
import CommandTree.Number.Numeral
import CommandTree.Template
import CommandTree.TokenType.Attempt

/-!
# Integers

A whole number of 32 bits in a range, which may have to pass a check besides. A token is refused by
its count of significant digits before it is converted. Suggesting is optional and lists the range
one by one, so a range that is to be suggested must not be wider than a ceiling.
-/

namespace CommandTree

def leastInt : Int := -2147483648
def greatestInt : Int := 2147483647

/-- The most digits, leading zeros included, of a numeral that is converted. -/
def greatestDigitCount : Nat := 4300

/-- The fields of an integer type as they are given. -/
structure IntegerFields where
  least : Value := .int leastInt
  greatest : Value := .int greatestInt
  check : Handed Check := .nothing
  error : Value := .str "Integer %d is invalid"
  suggests : Value := .bool false
  ceiling : Value := .unset

/-- A whole number together with the value that it is given as: itself, or a code. -/
structure WholeNumber where
  number : Int
  form : Value
  int?_form : form.int? = some number

structure IntegerType where
  least : WholeNumber
  greatest : WholeNumber
  check : Option Check
  /-- What is said of values that the check refuses. -/
  error : Wording
  suggests : Bool
  ceiling : WholeNumber
  least_le_greatest : least.number ≤ greatest.number
  leastInt_le : leastInt ≤ least.number
  le_greatestInt : greatest.number ≤ greatestInt

/-- The check of a type, which has to be callable if it is given. -/
def Handed.check? (owner : Owner) : Handed Check → Except Error (Option Check)
  | .nothing => .ok none
  | .callable check => .ok (some check)
  | .other => .error (.unmet owner "predicate" .callable)

/-- The message of a type for values that its check refuses. -/
def declareWording (host : Host) (owner : Owner) (error : Value) : Except Error Wording :=
  match error with
  | .str s =>
    match Wording.ofString host.room s with
    | .ok w => .ok w
    | .error .malformed => .error (.badTemplate owner s)
    | .error .digits => .error .tooLarge
    | .error .length => .error .tooLong
  | _ => .error (.unmet owner "error" .string)

/-- The whole number that a value is, if it is one. -/
def WholeNumber.ofValue? (v : Value) : Option WholeNumber :=
  match h : v.int? with
  | some n => some ⟨n, v, h⟩
  | none => none

namespace IntegerType

/-- A bound of 32 bits. -/
def declareBound (name : String) (bound : Value) :
    Except Error { n : WholeNumber // leastInt ≤ n.number ∧ n.number ≤ greatestInt } :=
  match WholeNumber.ofValue? bound with
  | none => .error (.unmet .integer name .integer)
  | some n =>
    if h : leastInt ≤ n.number ∧ n.number ≤ greatestInt then .ok ⟨n, h⟩
    else .error (.unmet .integer name .fitting)

def declareCeiling (host : Host) (ceiling : Value) : Except Error WholeNumber := do
  let ceiling ← match ceiling with
    | .unset => host.ceilingValue
    | ceiling => .ok ceiling
  match WholeNumber.ofValue? ceiling with
  | some n => if n.number < 0 then throw (.unmet .integer "ceiling" .natural) else return n
  | none => throw (.unmet .integer "ceiling" .natural)

def declare (host : Host) (given : IntegerFields) : Except Error IntegerType := do
  let least ← declareBound "min" given.least
  let greatest ← declareBound "max" given.greatest
  if h : least.1.number ≤ greatest.1.number then
    let check ← given.check.check? .integer
    let error ← declareWording host .integer given.error
    let ceiling ← declareCeiling host given.ceiling
    let suggests := given.suggests.isTrue
    if suggests ∧ ceiling.number < greatest.1.number - least.1.number + 1 then
      throw (.rangeTooWide least.1.number greatest.1.number ceiling.number)
    return ⟨least.1, greatest.1, check, error, suggests, ceiling, h, least.2.1, greatest.2.2⟩
  else throw (.boundsCrossed .integer)

/-- Why a number is refused; none if it is accepted. -/
def refusal (t : IntegerType) (v : Value) : Except Error (Option String) := do
  if ← v.less t.least.form then
    let n ← Place.truncated v
    return some s!"Integer {n} is less than the minimum value {t.least.number}"
  if ← t.greatest.form.less v then
    let n ← Place.truncated v
    return some s!"Integer {n} is greater than the maximum value {t.greatest.number}"
  if ← Check.passes t.check v then return none
  return some (← t.error.render v)

def invalid (token : String) : String := s!"Invalid integer: {token}"

def fits (n : Int) : Bool := leastInt ≤ n && n ≤ greatestInt

def parse (t : IntegerType) : List String → Attempt
  | [] => .reject "Expected integer" []
  | token :: rest =>
    let tokens := token :: rest
    match Numeral.whole? token.toList with
    | none => .reject (invalid token) tokens
    | some w =>
      if 10 < w.significant.length then .reject (invalid token) tokens
      else if greatestDigitCount < w.digits.length then .raise .tooManyDigits tokens
      else if !fits w.value then .reject (invalid token) tokens
      else match t.refusal (.int w.value) with
        | .error e => .raise e tokens
        | .ok none => .accept (.int w.value) rest
        | .ok (some message) =>
          if message.isEmpty then .accept (.int w.value) rest else .reject message tokens

/-- The numbers among these that pass the check and start with what is being typed. -/
def offerAmong (t : IntegerType) (typed : Value) : List Int → Offer
  | [] => .nothing
  | n :: rest =>
    match Check.passes t.check (.int n) with
    | .error e => .raise e
    | .ok false => offerAmong t typed rest
    | .ok true =>
      match typed with
      | .str typedText =>
        if Text.continues false typedText (toString n) then
          (offerAmong t typed rest).push (toString n)
        else offerAmong t typed rest
      | _ => .raise .unsupported

/-- The numbers of the range in ascending order. -/
def range (t : IntegerType) : List Int :=
  let count := (t.greatest.number - t.least.number + 1).toNat
  (List.range count).map fun (i : Nat) => t.least.number + i

def offer (t : IntegerType) (typed : Value) : Offer :=
  if t.suggests then t.offerAmong typed t.range else .nothing

def fields (t : IntegerType) : List (String × Value) :=
  [("min", t.least.form), ("max", t.greatest.form), ("predicate", Check.shown t.check),
    ("error", .str t.error.text), ("suggest", .bool t.suggests), ("ceiling", t.ceiling.form)]

end IntegerType

end CommandTree
