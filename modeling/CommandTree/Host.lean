import CommandTree.Error

/-!
# Host settings

What an application that embeds the commands can set for all of them: how many values an integer
type may suggest, how codes are displayed and documented, and the styles in which faults are
rendered. With it comes what its own objects answer, and how long a text its machine has room for.
-/

namespace CommandTree

structure Host where
  ceiling : Option Value
  codes : List (FaultCode × Value)
  docs : List (FaultCode × Value)
  styles : Bindings String
  /-- What an object of the host answers to a method that is called without arguments. -/
  answer : (method : String) → (object : Value) → Except Error Value
  /-- The most characters that a text is filled up to. -/
  room : Nat

namespace Host

/-- A host that sets nothing, with objects that answer nothing and room for 32 GiB of text. -/
def plain : Host := ⟨none, [], [], [], fun _ _ => .error .noAttribute, 34359738368⟩

def defaultCeiling : Int := 1024

/-- A value that a count can be. -/
def count? (v : Value) : Option Int :=
  match v.int? with
  | some n => if n < 0 then none else some n
  | none => none

/-- The greatest number of values that an integer type may suggest, unless it says otherwise. -/
def ceilingValue (host : Host) : Except Error Value :=
  match host.ceiling with
  | none => .ok (.int defaultCeiling)
  | some v => if (count? v).isSome then .ok v else .error .hostCeiling

/-- What is displayed for a code. -/
def codeText (host : Host) (code : FaultCode) : Except Error String :=
  (((host.codes.find? fun e => e.1 == code).map Prod.snd).getD (.int code.number)).display

/-- The documentation of a code; null when there is none. -/
def documentation (host : Host) (code : Value) : Except Error Value :=
  match code with
  | .code c => .ok (((host.docs.find? fun e => e.1 == c).map Prod.snd).getD .null)
  | _ => .error .notACode

end Host

end CommandTree
