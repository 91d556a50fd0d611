import CommandTree.Handler
import CommandTree.Workshop

/-!
# The command `tp`

A command that teleports its sender to the spawn or to a pair of coordinates.
-/

namespace CommandTree.Teleport

/-- Sends a message that starts with the name of the sender. -/
def announce (context : Context) (ending : Except Error String) : Run :=
  let reply : Reply Unit := do
    let name ← Reply.ofExcept (Sender.nameText context.sender)
    let ending ← Reply.ofExcept ending
    Sender.send context.sender (.str s!"{name} teleported to {ending}")
  reply.runWith context fun _ => .done context

def here : Executor := fun context => announce context (.ok "spawn")

/-- A coordinate as a whole number. -/
def coordinate (context : Context) (name : String) : Except Error String := do
  return toString (← Place.truncated (← context.item name))

def there : Executor := fun context =>
  announce context do
    let x ← coordinate context "x"
    let y ← coordinate context "y"
    return s!"{x} {y}"

/-- A coordinate is not negative. -/
def coordinateType : Except Error TokenType := do
  return .integer (← IntegerType.declare .plain { least := .int 0 })

/-- Adds a draft and sets its executor, if one is given. -/
def place (w : Workshop) (draft : Except Error Draft) (executor : Option Executor) :
    Except Error (Workshop × Nat) := do
  let draft ← draft
  return w.add (match executor with
    | some run => { draft with executor := some run }
    | none => draft)

/-- Drafts the command in a workshop; its number comes with the workshop. -/
def draft (w : Workshop) : Except Error (Workshop × Nat) := do
  let type ← coordinateType
  let requirement ← Requirement.permission (.str "world.tp") (.str Requirement.defaultMessage)
  let (w, spawn) ← place w (Draft.literal (.str "here") (.bool false)) (some here)
  let (w, y) ← place w (Draft.declare (.str "y") (some type)) (some there)
  let (w, x) ← place w (Draft.declare (.str "x") (some type)) none
  let (w, root) ← place w (Draft.command (.str "tp")) none
  let w ← w.attachOne x (some (.draft y))
  let w ← w.change root fun d => .ok (d.require requirement)
  let w ← w.attachOne root (some (.draft spawn))
  let w ← w.attachOne root (some (.draft x))
  let w ← w.change root fun d => d.onFail (.callable autofail)
  return (w, root)

end CommandTree.Teleport
