import CommandTree.Error

/-!
# Comparing values

Truth values, codes and outcomes are numbers, and a whole number equals the floating point number of
the same size: numbers are compared exactly. Lists are never equal to tuples; sets and maps are
equal when they hold the same, in any order and sealed or not. A value that is not a number in the
sense of floating point equals nothing, itself included.
-/

namespace CommandTree

/-- A whole number as an exact floating point value, of whatever size. -/
def Binary64.ofWhole (n : Int) : Binary64 := .finite (n < 0) n.natAbs 0

namespace Value

/-- The number that a value is, if it is one. -/
def number? : Value → Option Binary64
  | bool b => some (.ofWhole (if b then 1 else 0))
  | int n => some (.ofWhole n)
  | float x => some x
  | code c => some (.ofWhole c.number)
  | outcome o => some (.ofWhole o.number)
  | _ => none

/-- The order of two numbers, if both values are numbers that have one. -/
def numberOrder? (v w : Value) : Option Ordering :=
  match v.number?, w.number? with
  | some x, some y => x.order? y
  | _, _ => none

mutual

def equal : Value → Value → Bool
  | null, null => true
  | unset, unset => true
  | str s, str t => s == t
  | list xs, list ys => equalAll xs ys
  | tuple xs, tuple ys => equalAll xs ys
  | set _ xs, set _ ys => xs.length == ys.length && included xs ys
  | map _ xs, map _ ys => xs.length == ys.length && agree xs ys
  | text t, text u => t.plain == u.plain && t.spans == u.spans
  | ok v, ok w => equal v w
  | err m, err n => m == n
  | v, w => numberOrder? v w == some .eq

def equalAll : List Value → List Value → Bool
  | [], [] => true
  | x :: xs, y :: ys => equal x y && equalAll xs ys
  | _, _ => false

/-- Whether every element is equal to one of the others. -/
def included : List Value → List Value → Bool
  | [], _ => true
  | x :: xs, ys => ys.any (equal x) && included xs ys

/-- Whether every entry is equal to one of the others. -/
def agree : List (Value × Value) → List (Value × Value) → Bool
  | [], _ => true
  | (k, v) :: xs, ys => ys.any (fun e => equal k e.1 && equal v e.2) && agree xs ys

end

mutual

/-- Whether a value is less than another: numbers by size, strings by their characters, sets by
inclusion, lists and tuples by the first elements that differ. Others cannot be compared. -/
def less : Value → Value → Except Error Bool
  | str s, str t => .ok (decide (s < t))
  | list xs, list ys => lessFirst xs ys
  | tuple xs, tuple ys => lessFirst xs ys
  | set _ xs, set _ ys => .ok (decide (xs.length < ys.length) && included xs ys)
  | v, w =>
    match v.number?, w.number? with
    | some x, some y => .ok (x.order? y == some .lt)
    | _, _ => .error .unsupported

def lessFirst : List Value → List Value → Except Error Bool
  | _, [] => .ok false
  | [], _ :: _ => .ok true
  | x :: xs, y :: ys => if equal x y then lessFirst xs ys else less x y

end

/-- Whether a value can be an element of a set or a key: what holds something that can be changed
cannot. -/
def isHashable : Value → Bool
  | list _ | map .. | text _ => false
  | set isSealed _ => isSealed
  | tuple items => hashableAll items
  | ok value => isHashable value
  | _ => true
where
  hashableAll : List Value → Bool
    | [] => true
    | x :: xs => isHashable x && hashableAll xs

/-- The values without those that are equal to an earlier one. -/
def distinct (items : List Value) : List Value :=
  items.foldl (fun kept x => if kept.any (equal x) then kept else kept ++ [x]) []

/-- Puts a value before the first one that it is less than. -/
def insertSorted (v : Value) : List Value → List Value
  | [] => [v]
  | w :: rest =>
    match v.less w with
    | .ok true => v :: w :: rest
    | _ => w :: insertSorted v rest

/-- Values in ascending order, as far as they can be compared. -/
def sorted (vs : List Value) : List Value := vs.foldl (fun done v => insertSorted v done) []

/-- The set of the values, all of which must be able to be elements. It lists them in ascending
order. -/
def ofElements (items : List Value) : Except Error Value :=
  if items.all isHashable then .ok (set false (sorted (distinct items))) else .error .unsupported

/-- Puts a value under a key: in the place of the one that is there, or at the end. -/
def putEntry (key value : Value) : List (Value × Value) → List (Value × Value)
  | [] => [(key, value)]
  | e :: rest => if equal key e.1 then (e.1, value) :: rest else e :: putEntry key value rest

/-- The map with these keys and values. The last value of a key counts. -/
def ofEntries (entries : List (Value × Value)) : Except Error Value :=
  if entries.all fun e => e.1.isHashable then
    .ok (map false (entries.foldl (fun done e => putEntry e.1 e.2 done) []))
  else .error .unsupported

/-- The whole number that a value is, truth values included. -/
def whole? : Value → Option Int
  | bool b => some (if b then 1 else 0)
  | v => v.int?

/-- A list with another item in some place, counted from the end below zero, or a map with another
value under a key. Nothing else takes items. -/
def withItem (container key item : Value) : Except Error Value :=
  match container with
  | list items =>
    match key.whole? with
    | some n =>
      let i := if n < 0 then n + items.length else n
      if 0 ≤ i ∧ i < items.length then .ok (list (items.set i.toNat item)) else .error .noItem
    | none => .error .unsupported
  | map false entries =>
    if key.isHashable then .ok (map false (putEntry key item entries)) else .error .unsupported
  | _ => .error .unsupported

/-- The floating point number nearest to a number, for arithmetic. -/
def toBinary64 : Value → Except Error Binary64
  | float x => .ok x
  | v =>
    match v.number? with
    | some (.finite negative n _) =>
      match Binary64.ofRatio negative n 1 with
      | .infinite _ => .error .tooLarge
      | x => .ok x
    | _ => .error .unsupported

/-- The remainder of a division rounded down. -/
def modulo (v w : Value) : Except Error Value :=
  match v.whole?, w.whole? with
  | some a, some b => if b = 0 then .error .divisionByZero else .ok (int (a.fmod b))
  | _, _ => do
    let x ← v.toBinary64
    let y ← w.toBinary64
    match x.floorMod? y with
    | some r => .ok (float r)
    | none => .error .divisionByZero

end Value

end CommandTree
