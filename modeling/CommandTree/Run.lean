import CommandTree.Context

/-!
# Runs

The result of something that changes a context on its way, such as an executor or a whole walk: the
context as it was left, what happened, and what was raised, if anything. What was raised does not
undo what was done before.
-/

namespace CommandTree

structure Run where
  context : Context
  events : List Event
  error : Option Error

namespace Run

def done (context : Context) : Run := ⟨context, [], none⟩

def raise (context : Context) (error : Error) : Run := ⟨context, [], some error⟩

/-- The same run with events that happened before it. -/
def after (events : List Event) (run : Run) : Run :=
  ⟨run.context, events ++ run.events, run.error⟩

/-- Goes on with the context that was left, unless something was raised. -/
def andThen (run : Run) (next : Context → Run) : Run :=
  match run.error with
  | some _ => run
  | none => (next run.context).after run.events

end Run

/-- Goes on with what a reply brings; if it fails, the context stays as it is. -/
def Reply.runWith {α : Type} (reply : Reply α) (context : Context) (next : α → Run) : Run :=
  match reply.result with
  | .ok a => (next a).after reply.events
  | .error e => ⟨context, reply.events, some e⟩

/-- What is run when all tokens have been read. -/
abbrev Executor := Context → Run

/-- What is called with the message of a fault that halted a walk. It is handed the context, which
it may change. -/
abbrev Handler := Context → Option String → Run

end CommandTree
