import CommandTree.Text.Blank
import CommandTree.TokenType.Attempt

/-!
# Literals

A fixed word. It reads as its declared spelling, also where case is ignored.
-/

namespace CommandTree

structure Literal where
  text : String
  ignoresCase : Bool
  isWord : Text.isWord text = true

namespace Literal

def declare (text ignoresCase : Value) : Except Error Literal :=
  match text with
  | .str s =>
    if h : Text.isWord s = true then .ok ⟨s, ignoresCase.isTrue, h⟩
    else .error (.unmet .literal "text" .word)
  | _ => .error (.unmet .literal "text" .string)

def accepts (l : Literal) (token : String) : Bool := Text.sameWord l.ignoresCase token l.text

/-- Whether a literal accepts a token that is given as a value. What is no string is no text, and
has no case that could be ignored. -/
def acceptsValue (l : Literal) (token : Value) : Except Error Bool :=
  match token with
  | .str token => .ok (l.accepts token)
  | _ => if l.ignoresCase then .error .noAttribute else .ok false

def parse (l : Literal) : List String → Attempt
  | [] => .reject s!"Expected {l.text}" []
  | token :: rest =>
    if l.accepts token then .accept (.str l.text) rest
    else .reject s!"Unknown argument: {token}" (token :: rest)

def offer (l : Literal) (typed : Value) : Offer :=
  .continuations l.ignoresCase [l.text] typed

def fields (l : Literal) : List (String × Value) :=
  [("text", .str l.text), ("ignorecase", .bool l.ignoresCase)]

end Literal

end CommandTree
