import CommandTree.Command
import CommandTree.Proofs.Trail

/-!
# Conclusions

What an ending leaves in the context. A fault stores itself and the outcome before a handler is
told, which may change both; the offers of children change the suggestions and nothing else; an
executor leaves what it leaves.
-/

namespace CommandTree

namespace Context

/-- The same call, with the same arguments bound so far; only what it is for may differ. -/
structure Agrees (c d : Context) : Prop where
  sender : c.sender = d.sender
  label : c.label = d.label
  args : c.args = d.args
  arguments : c.arguments = d.arguments

theorem Agrees.refl (c : Context) : Agrees c c := ⟨rfl, rfl, rfl, rfl⟩

theorem Agrees.trans {c d e : Context} (h : Agrees c d) (h' : Agrees d e) : Agrees c e :=
  ⟨h.sender.trans h'.sender, h.label.trans h'.label, h.args.trans h'.args,
    h.arguments.trans h'.arguments⟩

theorem Agrees.bind {c d : Context} (h : Agrees c d) (name : String) (value : Value) :
    Agrees (c.bind name value) (d.bind name value) :=
  ⟨h.sender, h.label, h.args, by simp only [Context.bind, h.arguments]⟩

theorem Agrees.tokens {c d : Context} (h : Agrees c d) : c.tokens = d.tokens := by
  simp only [Context.tokens, h.label, h.args]

/-- Nothing but the suggestions differs. -/
structure OnlySuggests (c d : Context) : Prop where
  agrees : Agrees c d
  fault : c.fault = d.fault
  typed : c.typed = d.typed

theorem OnlySuggests.refl (c : Context) : OnlySuggests c c := ⟨.refl c, rfl, rfl⟩

theorem OnlySuggests.trans {c d e : Context} (h : OnlySuggests c d) (h' : OnlySuggests d e) :
    OnlySuggests c e :=
  ⟨h.agrees.trans h'.agrees, h.fault.trans h'.fault, h.typed.trans h'.typed⟩

theorem onlySuggests_suggest (c : Context) (text : String) : OnlySuggests c (c.suggest text) := by
  obtain ⟨sender, label, args, arguments, fault, stage⟩ := c
  cases stage with
  | plain => exact .refl _
  | execution outcome => exact .refl _
  | completion typed suggestions =>
    simp only [suggest]
    split
    · exact .refl _
    · exact ⟨⟨rfl, rfl, rfl, rfl⟩, rfl, rfl⟩

theorem onlySuggests_suggestAll (c : Context) (texts : List String) :
    OnlySuggests c (c.suggestAll texts) := by
  induction texts generalizing c with
  | nil => exact .refl c
  | cons text more ih => exact (onlySuggests_suggest c text).trans (ih (c.suggest text))

@[simp] theorem outcome?_setOutcome (c : Context) (outcome : Outcome) :
    (c.setOutcome outcome).outcome? = c.outcome?.map fun _ => outcome := by
  obtain ⟨sender, label, args, arguments, fault, stage⟩ := c
  cases stage <;> rfl

@[simp] theorem fault_setOutcome (c : Context) (outcome : Outcome) :
    (c.setOutcome outcome).fault = c.fault := by
  obtain ⟨sender, label, args, arguments, fault, stage⟩ := c
  cases stage <;> rfl

@[simp] theorem fault_haltedOn (c : Context) (fault : Fault) :
    (c.haltedOn fault).fault = some fault := fault_setOutcome _ _

@[simp] theorem outcome?_haltedOn (c : Context) (fault : Fault) :
    (c.haltedOn fault).outcome? = c.outcome?.map fun _ => .failed := outcome?_setOutcome _ _

@[simp] theorem arguments_haltedOn (c : Context) (fault : Fault) :
    (c.haltedOn fault).arguments = c.arguments := by
  obtain ⟨sender, label, args, arguments, fault, stage⟩ := c
  cases stage <;> rfl

@[simp] theorem suggestions_haltedOn (c : Context) (fault : Fault) :
    (c.haltedOn fault).suggestions = c.suggestions := by
  obtain ⟨sender, label, args, arguments, fault, stage⟩ := c
  cases stage <;> rfl

end Context

open Context (OnlySuggests)

namespace Walk

theorem contribute_context (child : Node) (c : Context) :
    OnlySuggests c (contribute child c).context := by
  unfold contribute Reply.runWith
  cases (Requirement.firstUnmet c child.requirements).result with
  | error e => exact .refl c
  | ok unmet =>
    cases unmet with
    | some r => exact .refl c
    | none => exact c.onlySuggests_suggestAll (child.type.offer c).texts

theorem contributeAll_context (children : List Node) (c : Context) :
    OnlySuggests c (contributeAll children c).context := by
  have from_run : ∀ run : Run, OnlySuggests c run.context → OnlySuggests c
      (children.foldl (fun run child => run.andThen (contribute child)) run).context := by
    induction children with
    | nil => exact fun run h => h
    | cons child more ih =>
      intro run h
      apply ih
      cases he : run.error with
      | some e => simpa only [Run.andThen, he] using h
      | none =>
        simp only [Run.andThen, he, Run.after]
        exact h.trans (contribute_context child run.context)
  exact from_run (.done c) (.refl c)

/-- The children of a node make a completion neither bind nor fail, whatever they offer. -/
theorem complete_context (n : Node) (token : String) (c : Context) :
    OnlySuggests (c.setTyped (.str token)) (complete n token c).context := by
  have offered := contributeAll_context n.children (c.setTyped (.str token))
  unfold complete Run.andThen
  split <;> exact offered

/-- A handler that leaves alone the context that it is handed, if there is one at all. -/
def LeavesAlone (failure : Option Handler) : Prop :=
  ∀ handler ∈ failure, ∀ c message, (handler c message).context = c

theorem leavesAlone_none : LeavesAlone none := nofun

theorem halt_context {failure : Option Handler} (alone : LeavesAlone failure) (fault : Fault)
    (c : Context) : (halt failure fault c).context = c.haltedOn fault := by
  cases failure with
  | none => rfl
  | some handler => exact alone handler rfl _ _

/-- A handler that suggests nothing of its own, if there is one at all. -/
def SuggestsNothing (failure : Option Handler) : Prop :=
  ∀ handler ∈ failure, ∀ c message, (handler c message).context.suggestions = c.suggestions

theorem LeavesAlone.suggestsNothing {failure : Option Handler} (alone : LeavesAlone failure) :
    SuggestsNothing failure := fun handler mem c message => by rw [alone handler mem]

theorem halt_suggestions {failure : Option Handler} (quiet : SuggestsNothing failure)
    (fault : Fault) (c : Context) :
    (halt failure fault c).context.suggestions = c.suggestions := by
  cases failure with
  | none => exact Context.suggestions_haltedOn c fault
  | some handler => exact (quiet handler rfl _ _).trans (Context.suggestions_haltedOn c fault)

end Walk

namespace Command

open Walk

/-- A call before its first turn. -/
def begun (mode : Mode) (c : Command) (sender : Option Sender) (label : String)
    (args : List String) : State :=
  .atRoot c.root (label :: args) (.make (stage mode) sender label args)

/-- The context of a call after these were read. -/
def reached (mode : Mode) (sender : Option Sender) (label : String) (args : List String)
    (rs : List Reading) : Context :=
  (Context.make (stage mode) sender label args).bindAll rs

/-- A call under each failure handler, and under none. -/
def under (mode : Mode) (c : Command) (sender : Option Sender) (label : String)
    (args : List String) (failure : Option Handler) : Run :=
  { c with failure := failure }.run mode sender label args

variable {mode : Mode} {c : Command} {sender : Option Sender} {label : String}
  {args : List String} {rs : List Reading}

theorem under_eq {ending : Ending}
    (h : Trail mode c.root (c.begun mode sender label args) rs ending)
    (failure : Option Handler) :
    c.under mode sender label args failure =
      (conclude failure (c.root.after rs) (reached mode sender label args rs) ending).after
        (reported mode c.root (c.begun mode sender label args) rs) :=
  h.walk_eq failure

theorem run_eq {ending : Ending}
    (h : Trail mode c.root (c.begun mode sender label args) rs ending) :
    c.run mode sender label args =
      (conclude c.failure (c.root.after rs) (reached mode sender label args rs) ending).after
        (reported mode c.root (c.begun mode sender label args) rs) :=
  under_eq h c.failure

theorem within_of_trail {ending : Ending}
    (trail : Trail mode c.root (c.begun mode sender label args) rs ending) :
    c.root.Within (c.root.after rs) := by
  have inside := trail.within .root
  rw [State.node_readAll] at inside
  exact inside

theorem run_raised {e : Error}
    (h : Trail mode c.root (c.begun mode sender label args) rs (.raised e)) :
    (c.run mode sender label args).context = reached mode sender label args rs ∧
      (c.run mode sender label args).error = some e := by
  rw [run_eq h]
  exact ⟨rfl, rfl⟩

theorem run_idle (h : Trail mode c.root (c.begun mode sender label args) rs .idle) :
    (c.run mode sender label args).context = reached mode sender label args rs := by
  rw [run_eq h]
  rfl

theorem run_offering {token : String}
    (h : Trail mode c.root (c.begun mode sender label args) rs (.offering token)) :
    OnlySuggests ((reached mode sender label args rs).setTyped (.str token))
      (c.run mode sender label args).context := by
  rw [run_eq h]
  exact complete_context ..

theorem run_lost {r : Reading} {e : Error}
    (h : Trail mode c.root (c.begun mode sender label args) rs (.lost r e)) :
    (c.run mode sender label args).context = reached mode sender label args (rs ++ [r]) ∧
      (c.run mode sender label args).error = some e := by
  rw [run_eq h]
  exact ⟨(Context.bindAll_concat _ _ _).symm, rfl⟩

theorem under_halted {fault : Fault}
    (h : Trail mode c.root (c.begun mode sender label args) rs (.halted fault))
    {failure : Option Handler} (alone : LeavesAlone failure) :
    (c.under mode sender label args failure).context =
      (reached mode sender label args rs).haltedOn fault := by
  rw [under_eq h]
  exact halt_context alone ..

theorem run_halted {fault : Fault}
    (h : Trail mode c.root (c.begun mode sender label args) rs (.halted fault))
    (alone : LeavesAlone c.failure) :
    (c.run mode sender label args).context =
      (reached mode sender label args rs).haltedOn fault :=
  under_halted h alone

end Command

end CommandTree
