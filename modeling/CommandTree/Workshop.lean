import CommandTree.Command

/-!
# The workshop

Trees are drafted before they are built. A draft grows by calls, and its parts are finished nodes
and other drafts, which may be shared and may even lead back to it; so drafts are kept in a workshop
and refer to each other by their numbers in it, all of which exist (`Workshop.bounded`). Building
freezes everything below a draft into a node, a shared draft anew at each place, and finds cycles:
along one way down, no draft occurs twice. Below each other, only so many drafts can be built.
-/

namespace CommandTree

/-- What follows a draft: a finished node, or a draft by its number. -/
inductive Part where
  | node (n : Node)
  | draft (id : Nat)

namespace Part

/-- Whether a part is the draft of that number. -/
def isDraft (id : Nat) : Part → Bool
  | node _ => false
  | draft id' => id' == id

/-- Whether a part is a node or one of so many drafts. -/
def isWithin (size : Nat) : Part → Bool
  | node _ => true
  | draft id => id < size

end Part

structure Draft where
  name : String
  type : TokenType
  requirements : List Requirement
  executor : Option Executor
  parts : List Part
  /-- For the root of a command, the handler that has been set, if any. -/
  failure : Option (Option Handler)

namespace Draft

def make (name : String) (type : TokenType) (failure : Option (Option Handler)) : Draft :=
  ⟨name, type, [], none, [], failure⟩

/-- A draft for a type under a name. -/
def declare (name : Value) (type : Option TokenType) : Except Error Draft :=
  match name with
  | .str s =>
    if Text.isWord s then
      match type with
      | some type => .ok (make s type none)
      | none => .error (.unmet .builder "type" .argumentType)
    else .error (.unmet .builder "name" .word)
  | _ => .error (.unmet .builder "name" .string)

/-- A draft for a fixed word, named after it. -/
def literal (text ignoresCase : Value) : Except Error Draft := do
  let l ← Literal.declare text ignoresCase
  return make l.text (.literal l) none

/-- The root of a command, which is a word in any case. -/
def command (name : Value) : Except Error Draft := do
  let l ← Literal.declare name (.bool true)
  return make l.text (.literal l) (some none)

def isExecutable (d : Draft) : Bool := d.executor.isSome

/-- Adds a requirement. -/
def require (d : Draft) (requirement : Requirement) : Draft :=
  { d with requirements := d.requirements ++ [requirement] }

/-- Sets the executor, which can be done once. -/
def executes (d : Draft) (executor : Handed Executor) : Except Error Draft :=
  match executor with
  | .callable run =>
    if d.isExecutable then .error (.executorTaken d.name)
    else .ok { d with executor := some run }
  | _ => .error .executorNotCallable

/-- Sets the failure handler of a command, which can be done once. -/
def onFail (d : Draft) (handler : Handed Handler) : Except Error Draft :=
  match d.failure with
  | none => .error .noAttribute
  | some set =>
    match handler with
    | .callable handler =>
      if set.isSome then .error (.handlerTaken d.name)
      else .ok { d with failure := some (some handler) }
    | _ => .error .handlerNotCallable

end Draft

structure Workshop where
  drafts : List Draft
  /-- The serial number of the next node or command. -/
  serial : Nat
  bounded : ∀ d ∈ drafts, ∀ id, Part.draft id ∈ d.parts → id < drafts.length

namespace Workshop

def empty : Workshop := ⟨[], 0, by simp⟩

def draft? (w : Workshop) (id : Nat) : Option Draft := w.drafts[id]?

def partName (w : Workshop) : Part → String
  | .node n => n.name
  | .draft id => (w.draft? id).elim "" Draft.name

/-- The names of the parts of a draft. -/
def partNames (w : Workshop) (d : Draft) : List String := d.parts.map w.partName

/-- One more draft, which has no parts yet. Its number comes with the workshop. -/
def add (w : Workshop) (d : Draft) : Workshop × Nat :=
  (⟨w.drafts ++ [{ d with parts := [] }], w.serial, by
    intro d' h id hid
    rw [List.length_append]
    rcases List.mem_append.1 h with h | h
    · exact Nat.lt_of_lt_of_le (w.bounded d' h id hid) (Nat.le_add_right _ _)
    · rw [List.mem_singleton.1 h] at hid
      simp at hid⟩, w.drafts.length)

/-- Puts a draft in the place of another one. -/
def put (w : Workshop) (id : Nat) (d : Draft)
    (h : ∀ c, Part.draft c ∈ d.parts → c < w.drafts.length) : Workshop :=
  ⟨w.drafts.set id d, w.serial, by
    intro d' h' c hc
    rw [List.length_set]
    rcases List.mem_or_eq_of_mem_set h' with h' | rfl
    · exact w.bounded d' h' c hc
    · exact h c hc⟩

/-- Changes a draft in all but its parts, or fails and changes nothing. -/
def change (w : Workshop) (id : Nat) (f : Draft → Except Error Draft) : Except Error Workshop :=
  if h : id < w.drafts.length then do
    let d ← f w.drafts[id]
    return w.put id { d with parts := w.drafts[id].parts }
      (w.bounded w.drafts[id] (List.getElem_mem h))
  else .error .noAttribute

/-- Appends a part to a draft. It must be a node or another draft, and no part may have its name. -/
def attachOne (w : Workshop) (id : Nat) (part : Option Part) : Except Error Workshop :=
  if h : id < w.drafts.length then
    let d := w.drafts[id]
    match part with
    | none => .error .childNotGrammar
    | some part =>
      if part.isDraft id then .error .childIsParent
      else if w.partName part ∈ w.partNames d then
        .error (.childNameTaken (w.partName part) d.name)
      else if hp : part.isWithin w.drafts.length = true then
        .ok (w.put id { d with parts := d.parts ++ [part] } (by
          intro c hc
          rcases List.mem_append.1 hc with hc | hc
          · exact w.bounded d (List.getElem_mem h) c hc
          · rw [← List.mem_singleton.1 hc] at hp
            simpa [Part.isWithin] using hp))
      else .error .childNotGrammar
  else .error .noAttribute

/-- Appends parts one after the other. Those before one that is refused stay. -/
def attach (w : Workshop) (id : Nat) : List (Option Part) → Workshop × Except Error Unit
  | [] => (w, .ok ())
  | part :: more =>
    match w.attachOne id part with
    | .error e => (w, .error e)
    | .ok w' => w'.attach id more

/-- The node that a draft is built into, with serial numbers from the one given on; the next one
comes with it. Drafts are built below each other down to a depth; `above` are those on the way to
this one, to which it must not lead back. -/
def buildFrom (w : Workshop) (depth : Nat) (above : List Nat) (id : Fin w.drafts.length)
    (serial : Nat) : Except Error (Node × Nat) := do
  let d := w.drafts[id]
  if id.val ∈ above then throw (.cycle d.name)
  match depth with
  | 0 => throw .tooDeep
  | depth + 1 =>
    let (children, next) ← d.parts.attach.foldlM
      (fun built part => do
        match hp : part.1 with
        | .node n => return (built.1 ++ [n], built.2)
        | .draft c =>
          let child : Fin w.drafts.length :=
            ⟨c, w.bounded d (List.getElem_mem id.2) c (hp ▸ part.2)⟩
          let (n, next) ← w.buildFrom depth (id.val :: above) child built.2
          return (built.1 ++ [n], next))
      (([] : List Node), serial + 1)
    if (children.map Node.name).Nodup then
      return (.mk serial d.name d.type d.requirements d.executor children, next)
    else throw (.childNamesRepeated d.name)

/-- Builds the node of a draft. How deep that may go depends on how deep the call stands. -/
def build (w : Workshop) (depth id : Nat) : Except Error (Node × Workshop) :=
  if h : id < w.drafts.length then do
    let (n, next) ← w.buildFrom depth [] ⟨id, h⟩ w.serial
    return (n, { w with serial := next })
  else .error .noAttribute

/-- The serial number for a node or a command that is not built from a draft. -/
def takeSerial (w : Workshop) : Nat × Workshop := (w.serial, { w with serial := w.serial + 1 })

/-- Builds the command of a draft that is the root of one. -/
def buildCommand (w : Workshop) (depth id : Nat) : Except Error (Command × Workshop) := do
  let (root, w) ← w.build depth id
  let (serial, w) := w.takeSerial
  let failure := ((w.draft? id).bind Draft.failure).getD none
  return (⟨serial, root.name, root, failure⟩, w)

def isCommand (w : Workshop) (id : Nat) : Bool :=
  ((w.draft? id).bind Draft.failure).isSome

/-- A draft as it is shown. -/
def shown (w : Workshop) (d : Draft) : String :=
  let names := showList ((w.partNames d).map Text.quote)
  s!"ArgumentBuilder(name={Text.quote d.name}, type={d.type.shown}, children={names})"

end Workshop

end CommandTree
