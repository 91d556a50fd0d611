import CommandTree.Text.Blank
import CommandTree.TokenType.Attempt

/-!
# Requirements

A gate in front of a node: a condition on the context and the message for those that do not meet it.
The condition may report events and may fail. A requirement of a permission asks the sender for it.
-/

namespace CommandTree

structure Requirement where
  /-- A string, or null for a gate that closes without a word. -/
  message : Value
  /-- The name under which the condition is known, if it has one. -/
  name : Option String
  test : Context → Reply Bool

namespace Requirement

def declare (message : Value) (condition : Handed (Context → Reply Bool)) :
    Except Error Requirement :=
  match message.strOrNull? with
  | none => .error (.unmet .requirement "message" .stringOrNone)
  | some _ =>
    match condition with
    | .callable test => .ok ⟨message, none, test⟩
    | _ => .error (.unmet .requirement "predicate" .callable)

/-- A requirement of whatever was given. Testing what cannot be called fails. -/
def unchecked (message : Value) (condition : Handed (Context → Reply Bool)) : Requirement :=
  match condition with
  | .callable test => ⟨message, none, test⟩
  | _ => ⟨message, none, fun _ => Reply.fail .unsupported⟩

def defaultMessage : String := "You do not have permission to use this command"

/-- The requirement that the sender has a permission. -/
def permission (node : Value) (message : Value) : Except Error Requirement :=
  match node with
  | .str s =>
    if Text.hasInk s then do
      let r ← declare message (.callable fun context => pure (Sender.holds context.sender s))
      return { r with name := some "has_permission" }
    else .error .blankPermission
  | _ => .error .blankPermission

/-- The first of the requirements that is not met. Those after it are not tested. -/
def firstUnmet (context : Context) : List Requirement → Reply (Option Requirement)
  | [] => pure none
  | r :: rest => do if ← r.test context then firstUnmet context rest else pure (some r)

end Requirement

end CommandTree
