import CommandTree.Error

/-!
# Absent values

A value that was not given is marked as such, which is not the same as null: there is one mark, it
counts as false, and nothing else is of its kind. Where alternatives of classes are spelled out, the
mark stands for its class, which comes last.
-/

namespace CommandTree

/-- The value, or the default if it was not given. -/
def coalesce (value default : Value) : Value := value.orElse default

/-- Whether two values are both the mark; all marks are one. -/
def isMark : Value → Bool
  | .unset => true
  | _ => false

/-- An alternative: a class by its name, or something that is none. -/
inductive Alternative where
  | class_ (name : String)
  | value
  deriving DecidableEq, Repr

def Alternative.name? : Alternative → Option String
  | class_ name => some name
  | value => none

def markClass : String := Value.className .unset

/-- Names without those that have occurred before. -/
def withoutRepeats (names : List String) : List String :=
  names.foldl (fun kept name => if name ∈ kept then kept else kept ++ [name]) []

/-- The classes of a union of alternatives with the mark. A union cannot start with null twice. -/
def unionWithMark (alternatives : List Alternative) : Except Error (List String) :=
  let null := Value.className .null
  match alternatives.mapM Alternative.name? with
  | some names =>
    if names.take 2 = [null, null] then .error .unsupported
    else .ok (withoutRepeats (names ++ [markClass]))
  | none => .error .unsupported

end CommandTree
