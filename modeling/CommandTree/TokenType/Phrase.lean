import CommandTree.Text.Quoted
import CommandTree.TokenType.Attempt

/-!
# Words, phrases and rests

Text that is taken as it is typed: a single token, a phrase between double quotation marks that may
span several tokens, or everything that remains. Tokens come without the blanks between them, so
the words of a phrase are put together with single spaces.
-/

namespace CommandTree

def joined (words : List String) : String := " ".intercalate words

def parseWord : List String → Attempt
  | [] => .reject "Expected word" []
  | token :: rest =>
    if token.isEmpty then .reject "Expected word" (token :: rest)
    else .accept (.str token) rest

/-- A text with a double quotation mark in front, without that mark. -/
def opened? : List Char → Option (List Char)
  | [] => none
  | c :: rest => if c = Text.doubleMark then some rest else none

/-- A text with a double quotation mark at the end, without that mark. -/
def closed? (cs : List Char) : Option (List Char) :=
  if cs.getLast? = some Text.doubleMark then some cs.dropLast else none

/-- The words up to the token that closes a phrase, and the tokens after it. -/
def untilClosed? : List String → Option (List String × List String)
  | [] => none
  | token :: rest =>
    match closed? token.toList with
    | some last => some ([String.ofList last], rest)
    | none => (untilClosed? rest).map fun found => (token :: found.1, found.2)

def parsePhrase : List String → Attempt
  | [] => .reject "Expected text" []
  | token :: rest =>
    if token.isEmpty then .reject "Expected text" (token :: rest)
    else match opened? token.toList with
      | none => .accept (.str token) rest
      | some first =>
        match closed? first with
        | some whole => .accept (.str (String.ofList whole)) rest
        | none =>
          match untilClosed? rest with
          | some (words, rest) => .accept (.str (joined (String.ofList first :: words))) rest
          | none => .reject "Unterminated quoted string" (token :: rest)

def parseRest : List String → Attempt
  | [] => .reject "Expected text" []
  | tokens => .accept (.str (joined tokens)) []

end CommandTree
