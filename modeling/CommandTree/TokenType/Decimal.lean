import CommandTree.TokenType.Integer

/-!
# Decimals

A finite floating point number in a range, written with or without an exponent, which may have to
pass a check besides. The bounds are numbers of either kind and are shown as they were given.
-/

namespace CommandTree

/-- The fields of a decimal type as they are given. -/
structure DecimalFields where
  least : Value := .float (.infinite true)
  greatest : Value := .float (.infinite false)
  check : Handed Check := .nothing
  error : Value := .str "Float %s is invalid"

structure DecimalType where
  least : Value
  greatest : Value
  check : Option Check
  /-- What is said of values that the check refuses. -/
  error : Wording

namespace DecimalType

/-- A bound is a number that has a place among the floating point ones. -/
def declareBound (name : String) (bound : Value) : Except Error Value :=
  match bound with
  | .bool _ | .float .nan => .error (.unmet .float name .number)
  | bound =>
    match bound.number? with
    | none => .error (.unmet .float name .number)
    | some _ => do
      let _ ← bound.toBinary64
      return bound

def declare (host : Host) (given : DecimalFields) : Except Error DecimalType := do
  let least ← declareBound "min" given.least
  let greatest ← declareBound "max" given.greatest
  if ← greatest.less least then throw (.boundsCrossed .float)
  let check ← given.check.check? .float
  let error ← declareWording host .float given.error
  return ⟨least, greatest, check, error⟩

/-- Why a number is refused; none if it is accepted. -/
def refusal (t : DecimalType) (x : Binary64) : Except Error (Option String) := do
  let v := Value.float x
  if ← v.less t.least then
    let bound ← t.least.display
    return some s!"Float {v.shown} is less than the minimum value {bound}"
  if ← t.greatest.less v then
    let bound ← t.greatest.display
    return some s!"Float {v.shown} is greater than the maximum value {bound}"
  if ← Check.passes t.check v then return none
  return some (← t.error.render v)

def invalid (token : String) : String := s!"Invalid float: {token}"

def parse (t : DecimalType) : List String → Attempt
  | [] => .reject "Expected float" []
  | token :: rest =>
    let tokens := token :: rest
    match Numeral.decimal? token.toList with
    | none => .reject (invalid token) tokens
    | some d =>
      if !d.value.isFinite then .reject (invalid token) tokens
      else match t.refusal d.value with
        | .error e => .raise e tokens
        | .ok none => .accept (.float d.value) rest
        | .ok (some message) => .reject message tokens

def fields (t : DecimalType) : List (String × Value) :=
  [("min", t.least), ("max", t.greatest), ("predicate", Check.shown t.check),
    ("error", .str t.error.text)]

end DecimalType

end CommandTree
