import CommandTree.TokenType.Choice
import CommandTree.TokenType.Decimal
import CommandTree.TokenType.Literal
import CommandTree.TokenType.Phrase

/-!
# Types of tokens

What can stand at a place of a command. A type reads the front of the tokens (`parse`) and offers
texts for the token being typed (`offer`). Besides the built-in types there are those of a host,
which may do anything.
-/

namespace CommandTree

/-- A type that a host brings along. -/
structure CustomType where
  className : String
  expected : String
  /-- How many tokens it takes, as usages show it. Asking for it may fail. -/
  arity : Except Error Value
  fields : List (String × Value)
  parse : List String → Attempt
  offer : Context → Offer

inductive TokenType where
  | literal (l : Literal)
  | integer (t : IntegerType)
  | decimal (t : DecimalType)
  | choice (c : Choice)
  | truthValue
  | word
  | phrase
  | rest
  | custom (t : CustomType)

/-- The name of a class in lower case, with a hyphen before each capital but the first letter. -/
def hyphenated (className : String) : String :=
  Text.lower (String.ofList (spread className.toList))
where
  spread : List Char → List Char
    | [] => []
    | c :: rest => c :: rest.flatMap fun d => if d.isUpper then ['-', d] else [d]

namespace TokenType

def className : TokenType → String
  | literal _ => "Literal"
  | integer _ => "Integer"
  | decimal _ => "Float"
  | choice _ => "Choice"
  | truthValue => "Boolean"
  | word => "Word"
  | phrase => "Phrase"
  | rest => "Greedy"
  | custom t => t.className

/-- The name of a type in messages and usages. -/
def typeName (t : TokenType) : String := hyphenated t.className

/-- What a type expects where no token is left. -/
def expected : TokenType → String
  | literal _ => "literal"
  | integer _ => "integer"
  | decimal _ => "float"
  | choice _ => "choice"
  | truthValue => "boolean"
  | word => "word"
  | phrase | rest => "text"
  | custom t => t.expected

/-- How many tokens a type takes: a number, one or more, or all that remain. -/
def arity : TokenType → Except Error Value
  | phrase => .ok (.str "+")
  | rest => .ok (.str "*")
  | custom t => t.arity
  | _ => .ok (.int 1)

/-- What stands for a token of the type in a usage line: the word of a literal, or a name between
angle brackets, with dots if more than one token is taken. -/
def usage (t : TokenType) (name : String) : Except Error String :=
  match t with
  | literal l => .ok l.text
  | t => do
    let arity ← t.arity
    return if arity.equal (.int 1) then s!"<{name}>" else s!"<{name}...>"

def fields : TokenType → List (String × Value)
  | literal l => l.fields
  | integer t => t.fields
  | decimal t => t.fields
  | choice c => c.fields
  | custom t => t.fields
  | _ => []

def shown (t : TokenType) : String := s!"{t.typeName}({Value.shownFields t.fields})"

/-- Reads the front of the tokens. -/
def parse : TokenType → List String → Attempt
  | literal l => l.parse
  | integer t => t.parse
  | decimal t => t.parse
  | choice c => c.parse
  | truthValue => parseTruthValue
  | word => parseWord
  | phrase => parsePhrase
  | rest => parseRest
  | custom t => t.parse

/-- Offers texts for the token being typed. -/
def offer : TokenType → Context → Offer
  | literal l, context => l.offer context.typed
  | integer t, context => t.offer context.typed
  | choice c, context => c.offer context.typed
  | truthValue, context => offerTruthValues context.typed
  | custom t, context => t.offer context
  | _, _ => .nothing

/-- What is suggested for a token being typed, after what has been suggested already. -/
def suggestions (t : TokenType) (typed : Value) (already : List String) : Reply (List String) :=
  let context := ((Context.make .blank none "label" []).setTyped typed).suggestAll already
  let offer := t.offer context
  ⟨offer.events, offer.error.elim (.ok (context.suggestAll offer.texts).suggestions) .error⟩

/-- A type of a host that only has a name and fields. It reads nothing. A field for the arity takes
the place of the usual one. -/
def plain (className : String) (fields : List (String × Value)) : TokenType :=
  let fields := fields.map fun f => (f.1, f.2.snapshot)
  custom ⟨className, "argument", .ok ((Bindings.get? fields "arity").getD (.int 1)), fields,
    Attempt.reject "Expected argument", fun _ => .nothing⟩

end TokenType

end CommandTree
