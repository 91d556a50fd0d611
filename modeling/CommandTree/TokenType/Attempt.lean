import CommandTree.Context
import CommandTree.Text.Matching

/-!
# Attempts and offers

An attempt is one try of a type to read the front of the tokens: the tokens it leaves, and either
the value it read or a message. An offer is what a type suggests for the token being typed. A host's
own type may report events, leave anything and answer anything.
-/

namespace CommandTree

/-- What a type answers. -/
inductive Answer where
  | ok (value : Value)
  | err (message : String)
  /-- Neither a value nor a message. -/
  | other (value : Value)

namespace Answer

/-- What a value answers: a result is one, anything else is none. -/
def ofValue : Value → Answer
  | .ok v => ok v
  | .err message => err message
  | v => other v

def toValue : Answer → Value
  | ok v => .ok v
  | err message => .err message
  | other v => v

@[simp] theorem toValue_ofValue (v : Value) : (ofValue v).toValue = v := by
  cases v <;> rfl

end Answer

structure Attempt where
  events : List Event
  rest : List String
  answer : Except Error Answer

namespace Attempt

/-- Reads a value and leaves the rest. -/
def accept (value : Value) (rest : List String) : Attempt := ⟨[], rest, .ok (.ok value)⟩

/-- Leaves all tokens and says why. -/
def reject (message : String) (tokens : List String) : Attempt := ⟨[], tokens, .ok (.err message)⟩

/-- An error before any token was taken. -/
def raise (error : Error) (tokens : List String) : Attempt := ⟨[], tokens, .error error⟩

end Attempt

structure Offer where
  events : List Event
  texts : List String
  /-- What stopped the type after these texts, if anything. -/
  error : Option Error

namespace Offer

def nothing : Offer := ⟨[], [], none⟩

def ofTexts (texts : List String) : Offer := ⟨[], texts, none⟩

def raise (error : Error) : Offer := ⟨[], [], some error⟩

/-- One more text in front. -/
def push (text : String) (o : Offer) : Offer := ⟨o.events, text :: o.texts, o.error⟩

/-- The candidates that start with what is being typed. -/
def continuations (ignoresCase : Bool) (candidates : List String) (typed : Value) : Offer :=
  match typed with
  | .str typed => ofTexts (Text.continuations ignoresCase typed candidates)
  | _ => raise .typedNotString

end Offer

/-- The candidates that start with what is being typed, all of them given as values. -/
def Value.continuations (ignoresCase : Bool) (candidates typed : Value) :
    Except Error (List String) :=
  match typed, candidates.elements? with
  | .str typed, some candidates =>
    match candidates.mapM Value.str? with
    | some words => .ok (Text.continuations ignoresCase typed words)
    | none => .error .noAttribute
  | .str _, none => .error .unsupported
  | _, _ => .error .typedNotString

/-- A condition on the values of a type, and the way it is shown. -/
structure Check where
  form : Value
  holds : Value → Except Error Bool

namespace Check

def shown (check : Option Check) : Value := check.elim .null Check.form

/-- Whether a value passes a check that may be absent. -/
def passes (check : Option Check) (value : Value) : Except Error Bool :=
  match check with
  | some check => check.holds value
  | none => .ok true

end Check

end CommandTree
