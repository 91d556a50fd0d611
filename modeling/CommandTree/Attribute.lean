import CommandTree.Context
import CommandTree.TokenType

/-!
# Attributes

What can be assigned on an object from outside. Finished things are fixed; others have attributes
that can only be read, some that are theirs to change, and take any other as a new one. An attribute
takes new items if its value does.
-/

namespace CommandTree

/-- The attributes of an object, as far as assigning to them goes. -/
structure Holder where
  /-- Whether an attribute of any other name can be assigned. -/
  takesNew : Bool
  readable : List String
  assignable : List String
  /-- Attributes that come with the class: an object that takes new attributes can be given its own,
  but has none that could be removed. -/
  shared : List String
  /-- Attributes that only take what one can go through, and cannot be removed. -/
  listed : List String
  /-- Attributes whose values may take new items. -/
  contents : List (String × Value)

inductive Assignment where
  | attribute (name : String) (value : Value)
  | removal (name : String)
  | item (name : String) (key value : Value)

namespace Holder

/-- An object that takes nothing, with the attributes that can be read from it. -/
def fixed (readable : List String) : Holder := ⟨false, readable, [], [], [], []⟩

/-- An object that takes new attributes. -/
def extensible (readable assignable shared : List String) : Holder :=
  ⟨true, readable, assignable, shared, [], []⟩

/-- The names under which an object keeps what can only be read under these. -/
def kept (names : List String) : List String := names.map fun name => "_" ++ name

/-- An object that takes new attributes and keeps what can be read from it under other names. -/
def keeping (names readable shared : List String) : Holder :=
  extensible (names ++ readable) (kept names) shared

def node : Holder :=
  let names := ["name", "type", "requirements", "executor", "children"]
  fixed (names ++ kept names ++ ["executable", "usage", "child", "usages"])

def draft (isCommand : Bool) : Holder :=
  keeping (["name", "type", "requirements", "executor", "children"] ++
    if isCommand then ["failure"] else []) []
    (["then", "requires", "executes", "build"] ++
      if isCommand then ["on_fail", "auto_fail", "register"] else [])

def command : Holder :=
  keeping ["name", "root", "failure"] ["usages"]
    ["execute", "complete", "on_command", "on_tab_complete"]

def registry : Holder :=
  extensible ["opened", "closed"] (kept ["lock", "state", "table"])
    ["open", "close", "register", "unregister", "get", "labels", "dispatch", "suggest", "execute",
      "complete"]

def consoleSender : Holder := keeping ["name", "permissions"] [] ["has_permission", "send"]
def sender : Holder := extensible [] ["name"] ["send"]

def tokenType (t : TokenType) : Holder :=
  keeping (t.fields.map Prod.fst) ["arity"] ["parse", "suggestions"]

def fault : Holder :=
  { extensible ["code", "title"] ["message", "options"] [] with listed := ["args"] }

/-- A number that has a name. -/
def named : Holder :=
  extensible ["name", "value", "numerator", "denominator", "real", "imag"] [] ["normalize"]

def text : Holder :=
  { extensible ["markup", "cell_len"] ["plain", "spans", "style", "justify", "overflow", "end"] []
    with takesNew := false }

/-- A context has more attributes by what it is for. -/
def context (c : Context) : Holder :=
  let base (names own readable shared : List String) : Holder :=
    let names := ["sender", "label", "args", "arguments"] ++ names
    let bound := c.arguments.map fun e => (Value.str e.1, e.2)
    { extensible (names ++ ["tokens"] ++ readable) (kept names ++ "fault" :: own)
        (["bind", "get"] ++ shared) with contents := [("_arguments", .map false bound)] }
  match c.stage with
  | .plain => base [] [] [] []
  | .execution _ => base [] ["outcome"] ["succeeded"] []
  | .completion typed _ =>
    let h := base ["suggestions"] ["partial"] [] ["suggest", "add_suggestion"]
    { h with contents := ("partial", typed) :: h.contents }

/-- The attributes of a value. Plain values take none. -/
def value : Value → Holder
  | .fault .. => fault
  | .ok v => { fixed ["value"] with contents := [("value", v)] }
  | .err _ => fixed ["message"]
  | .text _ => text
  | .code _ | .outcome _ => named
  | .unset => extensible [] [] []
  | _ => fixed []

/-- Whether there is an attribute of that name. -/
def has (h : Holder) (name : String) : Bool :=
  (h.readable ++ h.assignable ++ h.shared ++ h.listed).contains name

def assign (h : Holder) : Assignment → Except Error Unit
  | .attribute name value =>
    if h.listed.contains name then if value.elements?.isSome then .ok () else .error .unsupported
    else if h.assignable.contains name then .ok ()
    else if h.takesNew && !h.readable.contains name then .ok ()
    else .error .fixedAttribute
  | .removal name =>
    if h.listed.contains name then .error .unsupported
    else if h.assignable.contains name then .ok ()
    else .error .fixedAttribute
  | .item name key value =>
    match h.contents.find? fun e => e.1 == name with
    | some e => (e.2.withItem key value).map fun _ => ()
    | none => if h.has name then .error .unsupported else .error .noAttribute

end Holder

/-- A context after an assignment to one of its attributes. -/
def Context.assigned (c : Context) : Assignment → Context
  | .attribute "fault" (.fault kind message options) =>
    { c with fault := some ⟨kind, message, options⟩ }
  | .attribute "fault" .null => { c with fault := none }
  | .attribute "outcome" (.outcome o) => c.setOutcome o
  | .attribute "partial" v => c.setTyped v
  | .item "_arguments" (.str name) v => c.bind name v
  | _ => c

/-- A fault after an assignment to one of its attributes. -/
def Fault.assigned (f : Fault) : Assignment → Fault
  | .attribute "message" v => { f with message := v.strOrNull?.getD f.message }
  | _ => f

/-- A literal that has lost its text: it can neither read nor offer anything, nor tell its usage. -/
def Literal.textless (l : Literal) : CustomType where
  className := "Literal"
  expected := "literal"
  arity := .error .noAttribute
  fields := [("ignorecase", .bool l.ignoresCase)]
  parse := Attempt.raise .noAttribute
  offer _ := .raise .noAttribute

/-- A type of tokens after an assignment to one of its attributes. -/
def TokenType.assigned : TokenType → Assignment → TokenType
  | .literal l, .removal "_text" => .custom l.textless
  | t, _ => t

/-- A value after an assignment to one of its attributes. -/
def Value.assigned : Value → Assignment → Value
  | .ok v, .item "value" key item => .ok ((v.withItem key item).toOption.getD v)
  | v, _ => v

end CommandTree
