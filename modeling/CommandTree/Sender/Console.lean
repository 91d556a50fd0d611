import CommandTree.Fault.Raising
import CommandTree.Sender
import CommandTree.Value.Compare

/-!
# Console senders

A sender at a console. Its permissions are given by a set of strings: a star grants everything, a
string grants itself, and `p.*` grants everything that starts with `p.`.
-/

namespace CommandTree

structure Console where
  name : String
  permissions : List Value
  /-- Where the sender prints to; nobody watches what has no name. -/
  output : Option String
  isColorful : Bool
  isFancy : Bool

namespace Console

/-- A console sender, given its name, the permissions it is granted and how it renders faults. -/
def make (name permissions : Value) (output : Option String) (colorful fancy : Value) :
    Except Error Console :=
  match name with
  | .str s =>
    if s.isEmpty then .error (.unmet .consoleSender "name" .nonEmptyString)
    else match permissions with
      | .str _ => .error (.unmet .consoleSender "permissions" .strings)
      | permissions =>
        match permissions.elements? with
        | none => .error .unsupported
        | some granted =>
          if granted.all Value.isHashable then
            let granted := Value.sorted (Value.distinct granted)
            .ok ⟨s, granted, output, colorful.isTrue, fancy.isTrue⟩
          else .error .unsupported
  | _ => .error (.unmet .consoleSender "name" .nonEmptyString)

def grants (c : Console) (permission : String) : Bool :=
  c.permissions.any (Value.equal (.str permission))

/-- What precedes each dot of a permission. -/
def stems : List Char → List (List Char)
  | [] => []
  | c :: rest => (if c = '.' then [[]] else []) ++ (stems rest).map (c :: ·)

def permits (c : Console) (permission : String) : Bool :=
  c.grants "*" || c.grants permission ||
    (stems permission.toList).any fun stem => c.grants (String.ofList (stem ++ ['.', '*']))

def print (c : Console) (content : Printed) : Reply Unit :=
  match c.output with
  | some console => Reply.report (.print console content)
  | none => pure ()

/-- Prints a fault rendered in the way of the console, a text as it is, and anything else as it is
shown on its own. -/
def send (host : Host) (c : Console) (message : Value) : Reply Unit := do
  match message with
  | .fault kind text options =>
    let f := (Fault.mk kind text options).replace
      [("colorful", .bool c.isColorful), ("fancy", .bool c.isFancy)]
    c.print (← Reply.ofExcept (f.render host))
  | .text t => c.print (.text t)
  | message => c.print (.text (.plainText (← Reply.ofExcept message.display)))

def toSender (host : Host) (c : Console) : Sender :=
  ⟨c.name, s!"ConsoleSender({Text.quote c.name})", some (c.send host), .callable c.permits⟩

end Console

end CommandTree
