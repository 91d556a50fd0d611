import CommandTree.Value.Compare

/-!
# Results

A result is a value that was obtained or the message why there is none. Both are values themselves:
they can be compared, shown and printed.
-/

namespace CommandTree.Value

/-- The result with a message, which has to be a string. -/
def errOf (message : Value) : Except Error Value :=
  match message with
  | str s => .ok (err s)
  | _ => .error .errMessageNotString

def isOk : Value → Bool
  | ok _ => true
  | _ => false

/-- The value of a result; a message is raised. -/
def unwrap : Value → Except Error Value
  | ok v => .ok v
  | err m => .error (.unwrapped m)
  | _ => .error .noAttribute

def unwrapOr (result default : Value) : Value :=
  match result with
  | ok v => v
  | _ => default

/-- Applies a function to the value of a result and leaves a message as it is. -/
def mapOk (f : Value → Value) : Value → Value
  | ok v => ok (f v)
  | result => result

/-- What stands in the brackets of a result. -/
def content : Value → Value
  | ok v => v
  | err m => str m
  | result => result

/-- A result as it is printed, with its name in a colour. -/
def printedResult (result : Value) : Styled :=
  .assemble [.ofText result.className (if result.isOk then "bold green" else "bold red"),
    .plainText "(", .plainText result.content.shown, .plainText ")"]

end CommandTree.Value
