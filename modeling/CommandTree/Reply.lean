import CommandTree.Error
import CommandTree.Event

/-!
# Replies

The result of calling something that may report events and may fail. The events of a call that fails
are kept.
-/

namespace CommandTree

structure Reply (α : Type) where
  events : List Event
  result : Except Error α

namespace Reply

variable {α β : Type}

/-- A reply without events. -/
def ofExcept (result : Except Error α) : Reply α := ⟨[], result⟩

def fail (error : Error) : Reply α := ⟨[], .error error⟩

def report (event : Event) : Reply Unit := ⟨[event], .ok ()⟩

def andThen (r : Reply α) (next : α → Reply β) : Reply β :=
  match r.result with
  | .error e => ⟨r.events, .error e⟩
  | .ok a => ⟨r.events ++ (next a).events, (next a).result⟩

instance : Monad Reply where
  pure a := ⟨[], .ok a⟩
  bind := andThen

@[simp] theorem events_pure (a : α) : (pure a : Reply α).events = [] := rfl
@[simp] theorem result_pure (a : α) : (pure a : Reply α).result = .ok a := rfl

end Reply

end CommandTree
