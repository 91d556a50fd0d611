import CommandTree.Error

/-!
# Naming functions

A function can be given a name, at once or by a decorator that is applied to it later. The decorator
has a name of its own. Some functions have a name that is fixed.
-/

namespace CommandTree

/-- What may be named: a function, one whose name is fixed, or something that is no function. -/
inductive Nameable where
  | function
  | fixed
  | value (v : Value)

namespace Nameable

def isFunction : Nameable → Bool
  | value _ => false
  | _ => true

def str? : Nameable → Option String
  | value v => v.str?
  | _ => none

end Nameable

namespace Naming

/-- What naming brings: a function of that name, or a decorator that gives one. -/
inductive Named where
  | function (name : String)
  | decorator (gives : String)
  deriving DecidableEq, Repr

/-- The name of every decorator. -/
def decoratorName : String := "rename"

def give (target : Nameable) (name : String) : Except Error Named :=
  match target with
  | .function => .ok (.function name)
  | _ => .error .renameFixed

/-- Names a function, or makes a decorator when only a name is given. -/
def rename : List Nameable → Except Error Named
  | [target, name] =>
    if target.isFunction then
      match name.str? with
      | some name => give target name
      | none => .error .renameName
    else .error .renameTarget
  | [name] =>
    match name.str? with
    | some name => .ok (.decorator name)
    | none => .error .decoratorName
  | args => .error (.renameArity args.length)

/-- Applies a decorator. -/
def apply (gives : String) (target : Nameable) : Except Error Named :=
  if target.isFunction then give target gives else .error .decoratorTarget

end Naming

end CommandTree
