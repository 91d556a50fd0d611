import CommandTree.Walk

/-!
# Rehearsals

Stand-ins for what a host brings along, to try out a command before there is a host: they report
what they are asked under an id, and answer what they have been told.
-/

namespace CommandTree

/-- What an executor does, in this order. -/
structure Script where
  id : Value
  send : Option Value
  bind : Option (String × Value)
  outcome : Option Outcome
  raises : Option String

namespace Script

def changes (s : Script) (c : Context) : Context :=
  let c := s.bind.elim c fun b => c.bind b.1 b.2
  s.outcome.elim c c.setOutcome

/-- Reports the label and the arguments, and does what is written. -/
def executor (s : Script) : Executor := fun c =>
  let bound := c.arguments.map fun e => Value.list [.str e.1, e.2]
  let started := Reply.report (.note "execute" [s.id, .str c.label, .list bound])
  let sent := started.andThen fun _ => s.send.elim (pure ()) (Sender.send c.sender)
  sent.runWith c fun _ =>
    match s.raises with
    | some message => .raise (s.changes c) (.host message)
    | none => .done (s.changes c)

end Script

namespace Rehearsal

/-- A handler that reports the message, the outcome and the kind of the fault. -/
def handler (id : Value) (raises : Option String) : Handler := fun c message =>
  let outcome : Value := .ofOption (c.outcome?.map Outcome.name)
  let kind : Value := .ofOption (c.fault.map fun f => f.kind.name)
  ⟨c, [.note "fail" [id, .ofOption message, outcome, kind]], raises.map .host⟩

/-- A sender that reports what it is sent. -/
def sender (name : String) (takesMessages : Bool) (permits : Handed (String → Bool)) : Sender :=
  ⟨name, s!"Sender({Text.quote name})",
    if takesMessages then some fun v => Reply.report (.note "send" [.str name, v]) else none,
    permits⟩

/-- What a type takes and puts back when it is asked to read, and what it offers. -/
structure Spy where
  id : Value
  arity : Value
  take : Nat
  push : List String
  /-- The value it answers, or what it raises when it is asked. -/
  answer : Except Error Value
  offers : List Value

namespace Spy

/-- Takes tokens from the front, and puts others there one after the other. -/
def parse (s : Spy) (tokens : List String) : Attempt :=
  ⟨[.note "parse" [s.id, .list (Value.strings tokens)]],
    s.push.foldl (fun rest token => token :: rest) (tokens.drop s.take),
    s.answer.map Answer.ofValue⟩

/-- Offers texts up to the first value that is none. -/
def offer (s : Spy) (c : Context) : Offer :=
  let texts := (s.offers.takeWhile fun v => v.str?.isSome).filterMap Value.str?
  ⟨[.note "suggestions" [s.id, c.typed]], texts,
    if texts.length < s.offers.length then some .suggestionNotString else none⟩

def toType (s : Spy) : TokenType :=
  .custom ⟨"Spy", "argument", .ok s.arity, [], s.parse, s.offer⟩

end Spy

/-- Nodes of one type one below the other, numbered from the top. The last one has the executor. -/
def chain (type : TokenType) (stem : String) (run : Executor) (serial depth : Nat) :
    Nat → Node
  | 0 => .mk serial (stem ++ toString depth) type [] (some run) []
  | more + 1 =>
    .mk serial (stem ++ toString depth) type [] none
      [chain type stem run (serial + 1) (depth + 1) more]

end Rehearsal

end CommandTree
