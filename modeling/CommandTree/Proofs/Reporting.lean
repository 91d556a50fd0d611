import CommandTree.Condition
import CommandTree.Proofs.Conclusion

/-!
# Reports

Every call is reported once. An execution enters one executor, or halts on a fault that a failure
handler is told once, or raises the error of a requirement or of a type of tokens. A handler comes
at the end of a call: what it is told is decided without it, and what it makes of the context is its
own affair. So the answer of a host's call can be trusted unless the handler itself sets the outcome
(`every_call_is_reported_once`).
-/

namespace CommandTree

/-- The requirement has a message that a fault can have. -/
def Requirement.IsWorded (r : Requirement) : Prop := r.message.strOrNull?.isSome

/-- The node raises an error on its own account: a requirement cannot be tested, or a child breaks
on the tokens. -/
def Node.Raises (n : Node) (c : Context) (tokens : List String) (e : Error) : Prop :=
  (∃ r ∈ n.requirements, (r.test c).result = .error e) ∨
    ∃ child ∈ n.children, Breaks tokens child e

/-- What a call comes to without a handler is what it comes to with any. -/
def NeverTold (call : Option Handler → Run) : Prop := ∀ failure, call failure = call none

/-- A handler is told the message once, after everything else, and handed the context as it was left
by then. Nothing but the handler itself can make the call raise an error. -/
structure ToldOnce (call : Option Handler → Run) (message : Option String) : Prop where
  calm : (call none).error = none
  told : ∀ handler, call (some handler) = (call none).andThen fun left => handler left message

namespace Walk

variable {mode : Mode} {root : Node} {s : State}

theorem requirementFault_of_worded {r : Requirement} (h : r.IsWorded) (root : Node)
    (place : Position) : ∃ fault, requirementFault root place r.message = .ok fault := by
  obtain ⟨message, hm⟩ := Option.isSome_iff_exists.1 h
  unfold requirementFault Fault.declare
  rw [hm]
  exact ⟨_, rfl⟩

theorem requirementFault_ok {place : Position} {message : Value} {fault : Fault}
    (h : requirementFault root place message = .ok fault) :
    ∃ text, fault = Fault.make .requirementFailure text
      [("command", .str root.name), ("node", .str place.node.name),
        ("index", .int place.index)] := by
  unfold requirementFault Fault.declare at h
  split at h
  · next text _ => exact ⟨text, (Except.ok.inj h).symm⟩
  · cases h

theorem exhaustedFault_isA (place : Position) (message token : String) (hints : Bindings Value) :
    (exhaustedFault root place message token hints).isA .dispatchExhausted = true := by
  simp only [exhaustedFault, Fault.isA, Fault.make, exhaustedKind]
  split <;> rfl

/-- A hint fails only of a usage that cannot be told. -/
theorem untold_of_hint {path : List String} {n : Node} {e : Error}
    (h : hint path n = .error e) : ∃ m, n.Within m ∧ m.usage = .error e := by
  have shown : n.usages.first = .error e := by
    unfold hint at h
    cases hf : n.usages.first with
    | error e' =>
      rw [hf] at h
      cases h
      rfl
    | ok first =>
      rw [hf] at h
      cases h
  have ended : n.listing.error = some e := by
    rw [Node.usages_eq_listing] at shown
    unfold Listing.first at shown
    split at shown
    case h_1 => cases shown
    case h_2 ended =>
      cases shown
      exact ended
    case h_3 => cases shown
  exact Node.error_listing ended

theorem untold_of_hints {e : Error} (h : s.hints mode = .error e) :
    ∃ m, s.place.node.Within m ∧ m.usage = .error e := by
  cases mode with
  | completion => cases h
  | execution =>
    cases hh : hint s.path s.place.node with
    | error e' =>
      rw [State.hints, hh] at h
      cases h
      exact untold_of_hint hh
    | ok shown =>
      rw [State.hints, hh] at h
      cases h

/-- An error on the way comes from a requirement, from a child that is given the tokens, or from the
usage of a node, which a hint asks for. -/
theorem Takes.raised {e : Error} (h : Takes mode root s (.finish (.raised e)))
    (worded : ∀ r ∈ s.place.node.requirements, r.IsWorded) :
    s.place.node.Raises s.context s.place.tokens e ∨
      ∃ m, s.place.node.Within m ∧ m.usage = .error e := by
  cases h with
  | untested hg => exact Or.inl (Or.inl (Requirement.firstUnmet_error hg))
  | unworded hg hf =>
    obtain ⟨mem, -⟩ := Requirement.firstUnmet_some hg
    obtain ⟨fault, hw⟩ := requirementFault_of_worded (worded _ mem) root s.place
    rw [hw] at hf
    cases hf
  | unhinted _ _ _ _ hh => exact Or.inr (untold_of_hint hh)
  | exhaustedUnhinted _ _ _ hh => exact Or.inr (untold_of_hints hh)
  | broken _ _ hc => exact Or.inl (Or.inr (choose_error hc))

theorem fault_settle (c : Context) : (settle c).fault = c.fault := by
  unfold settle
  split
  · exact c.fault_setOutcome .executed
  · rfl

theorem outcome?_settle (c : Context) :
    (settle c).outcome? = if c.outcome? = some .pending then some .executed else c.outcome? := by
  unfold settle
  split
  case isTrue pending =>
    rw [Context.outcome?_setOutcome, pending]
    rfl
  case isFalse => rfl

/-- An executor that is given neither fault nor outcome. There is still no fault, unless it stores
one itself. The outcome is as it left it, unless it came to its end and left that open. -/
structure Settles (given : Context) (run : Executor) (result : Run) : Prop where
  unharmed : given.fault = none
  pending : given.outcome? = some .pending
  error : result.error = (run given).error
  fault : result.context.fault = (run given).context.fault
  clean : (run given).context.fault = given.fault → result.context.fault = none
  outcome : (run given).error = none → result.context.outcome? =
    if (run given).context.outcome? = some .pending then some .executed
    else (run given).context.outcome?

theorem execute_settles (n : Node) (run : Executor) {given : Context} (events : List Event)
    (unharmed : given.fault = none) (pending : given.outcome? = some .pending) :
    Settles given run ((execute n run given).after events) := by
  have fault : (execute n run given).context.fault = (run given).context.fault := by
    cases he : (run given).error with
    | some e => simp only [execute, Run.andThen, he, Run.after]
    | none =>
      simp only [execute, Run.andThen, he]
      exact fault_settle _
  have outcome : (run given).error = none → (execute n run given).context.outcome? =
      if (run given).context.outcome? = some .pending then some .executed
      else (run given).context.outcome? := by
    intro returned
    simp only [execute, Run.andThen, returned]
    exact outcome?_settle _
  have error : (execute n run given).error = (run given).error := by
    cases he : (run given).error with
    | some e => simp only [execute, Run.andThen, he, Run.after]
    | none => simp only [execute, Run.andThen, he]; rfl
  exact ⟨unharmed, pending, error, fault, fun kept => fault.trans (kept.trans unharmed), outcome⟩

end Walk

namespace Command

open Walk

def Enters (mode : Mode) (c : Command) (sender : Option Sender) (label : String)
    (args : List String) (rs : List Reading) (run : Executor) : Prop :=
  Trail mode c.root (c.begun mode sender label args) rs (.entered run)

/-- The call halts on the fault, after these were read. -/
def Halts (mode : Mode) (c : Command) (sender : Option Sender) (label : String)
    (args : List String) (rs : List Reading) (fault : Fault) : Prop :=
  Trail mode c.root (c.begun mode sender label args) rs (.halted fault)

/-- One executor was entered, and what it left was settled. -/
structure Executed (c : Command) (sender : Option Sender) (label : String) (args : List String)
    (rs : List Reading) (run : Executor) : Prop where
  entered : c.Enters .execution sender label args rs run
  only : ∀ rs' run', c.Enters .execution sender label args rs' run' → rs' = rs ∧ run' = run
  executes : c.run .execution sender label args =
    (execute (c.root.after rs) run (reached .execution sender label args rs)).after
      (reported .execution c.root (c.begun .execution sender label args) rs)
  settles : Settles (reached .execution sender label args rs) run
    (c.run .execution sender label args)
  untold : NeverTold (c.under .execution sender label args)

/-- The call halted on a fault. Fault and outcome are stored before a handler is told. -/
structure Failed (mode : Mode) (c : Command) (sender : Option Sender) (label : String)
    (args : List String) (fault : Fault) : Prop where
  unentered : ∀ rs run, ¬ c.Enters mode sender label args rs run
  stored : (c.under mode sender label args none).context.fault = some fault
  outcome : mode = .execution →
    (c.under mode sender label args none).context.outcome? = some .failed
  told : ToldOnce (c.under mode sender label args) fault.message

/-- The call came to an error on its way. -/
structure Raised (c : Command) (sender : Option Sender) (label : String) (args : List String)
    (e : Error) : Prop where
  unentered : ∀ rs run, ¬ c.Enters .execution sender label args rs run
  error : (c.run .execution sender label args).error = some e
  fault : (c.run .execution sender label args).context.fault = none
  outcome : (c.run .execution sender label args).context.outcome? = some .pending
  untold : NeverTold (c.under .execution sender label args)
  source : (∃ rs, (c.root.after rs).Raises (reached .execution sender label args rs)
    (leftBy args rs) e) ∨ ∃ n, c.root.Within n ∧ n.usage = .error e

/-- The handler of the command, told of the fault on which an execution halted, has set the outcome
to that of an executor. -/
def Pardoned (c : Command) (sender : Option Sender) (label : String) (args : List String)
    (fault : Fault) : Prop :=
  ∃ handler, c.failure = some handler ∧
    (handler (c.under .execution sender label args none).context fault.message).context.outcome? =
      some .executed

variable {mode : Mode} {c : Command} {sender : Option Sender} {label : String}
  {args : List String} {rs : List Reading}

theorem unentered_of_trail {ending : Ending}
    (h : Trail mode c.root (c.begun mode sender label args) rs ending)
    (other : ∀ run, ending ≠ .entered run) :
    ∀ rs' run, ¬ c.Enters mode sender label args rs' run := by
  intro rs' run entered
  obtain ⟨-, he⟩ := h.unique entered
  exact other run he

/-- A completion enters no executor. -/
theorem not_enters_completion {run : Executor} :
    ¬ c.Enters .completion sender label args rs run := by
  intro entered
  cases entered.last_turn with
  | entered _ hm => cases hm

/-- Unless an executor is entered or a handler has its way, a fault is stored only where the walk
halts on it. -/
theorem ending_of_stored {ending : Ending} {fault : Fault}
    (unentered : ∀ rs run, ¬ c.Enters mode sender label args rs run)
    (stored : (c.under mode sender label args none).context.fault = some fault)
    (h : Trail mode c.root (c.begun mode sender label args) rs ending) :
    ending = .halted fault := by
  rw [under_eq h] at stored
  cases ending with
  | entered run => exact absurd h (unentered rs run)
  | offering token =>
    have unfaulted : ((reached mode sender label args rs).setTyped (.str token)).fault = none := by
      cases mode <;> rfl
    have offered := complete_context (c.root.after rs) token (reached mode sender label args rs)
    cases (unfaulted.symm.trans offered.fault).trans stored
  | idle | raised e | lost r e => cases stored
  | halted fault' =>
    have same : some fault' = some fault := by
      rw [← stored]
      exact (Context.fault_haltedOn _ fault').symm
    rw [Option.some.inj same]

theorem unhalted_of_trail {ending : Ending}
    (h : Trail mode c.root (c.begun mode sender label args) rs ending)
    (unfaulted : (c.under mode sender label args none).context.fault = none) :
    ∀ fault, ending ≠ .halted fault := by
  rintro fault rfl
  rw [under_halted h leavesAlone_none, Context.fault_haltedOn] at unfaulted
  cases unfaulted

theorem halts_of_stored {fault : Fault}
    (unentered : ∀ rs run, ¬ c.Enters mode sender label args rs run)
    (stored : (c.under mode sender label args none).context.fault = some fault) :
    ∃ rs, c.Halts mode sender label args rs fault := by
  obtain ⟨rs, ending, trail⟩ :=
    Trail.exists_trail mode c.root (c.begun mode sender label args)
  obtain rfl := ending_of_stored unentered stored trail
  exact ⟨rs, trail⟩

/-- A handler that leaves the context alone makes no difference to it. -/
theorem context_of_alone (alone : LeavesAlone c.failure) :
    (c.run mode sender label args).context = (c.under mode sender label args none).context := by
  obtain ⟨rs, ending, trail⟩ :=
    Trail.exists_trail mode c.root (c.begun mode sender label args)
  rw [run_eq trail, under_eq trail]
  cases ending with
  | halted fault => exact (halt_context alone ..).trans (halt_context leavesAlone_none ..).symm
  | _ => rfl

/-- Only where a call halts, the handler has a say. -/
theorem neverTold_of_trail {ending : Ending}
    (h : Trail mode c.root (c.begun mode sender label args) rs ending)
    (other : ∀ fault, ending ≠ .halted fault) : NeverTold (c.under mode sender label args) := by
  intro failure
  rw [under_eq h, under_eq h]
  cases ending with
  | halted fault => exact absurd rfl (other fault)
  | _ => rfl

theorem toldOnce_of_trail {fault : Fault}
    (h : Trail mode c.root (c.begun mode sender label args) rs (.halted fault)) :
    ToldOnce (c.under mode sender label args) fault.message := by
  refine ⟨?_, ?_⟩
  · rw [under_eq h]
    rfl
  · intro handler
    rw [under_eq h, under_eq h, Run.andThen_after]
    rfl

theorem executed_of_trail {run : Executor} (h : c.Enters .execution sender label args rs run) :
    c.Executed sender label args rs run := by
  have executes := run_eq h
  refine ⟨h, ?_, executes, ?_, neverTold_of_trail h (fun _ => Ending.noConfusion)⟩
  · intro rs' run' h'
    obtain ⟨rfl, he⟩ := h.unique h'
    exact ⟨rfl, (Ending.entered.inj he).symm⟩
  · rw [executes]
    exact execute_settles _ _ _ rfl rfl

theorem failed_of_trail {fault : Fault}
    (h : Trail mode c.root (c.begun mode sender label args) rs (.halted fault)) :
    c.Failed mode sender label args fault := by
  refine ⟨unentered_of_trail h (fun _ => Ending.noConfusion), ?_, ?_, toldOnce_of_trail h⟩
  · rw [under_halted h leavesAlone_none, Context.fault_haltedOn]
  · rintro rfl
    rw [under_halted h leavesAlone_none, Context.outcome?_haltedOn]
    rfl

theorem raised_of_trail {e : Error}
    (worded : ∀ n, c.root.Within n → ∀ r ∈ n.requirements, r.IsWorded)
    (h : Trail .execution c.root (c.begun .execution sender label args) rs (.raised e)) :
    c.Raised sender label args e := by
  obtain ⟨context, error⟩ := run_raised h
  have inside := h.within .root
  have source := h.last_turn.raised (worded _ inside)
  simp only [State.node_readAll, State.context_readAll, State.tokens_readAll] at source inside
  refine ⟨unentered_of_trail h (fun _ => Ending.noConfusion), error, ?_, ?_,
    neverTold_of_trail h (fun _ => Ending.noConfusion), ?_⟩
  · rw [context]
    rfl
  · rw [context]
    rfl
  · obtain broken | ⟨m, within, untold⟩ := source
    · exact Or.inl ⟨rs, broken⟩
    · exact Or.inr ⟨m, inside.trans within, untold⟩

theorem raised_of_lost {r : Reading} {e : Error}
    (h : Trail .execution c.root (c.begun .execution sender label args) rs (.lost r e)) :
    c.Raised sender label args e := by
  obtain ⟨context, error⟩ := run_lost h
  refine ⟨unentered_of_trail h (fun _ => Ending.noConfusion), error, ?_, ?_,
    neverTold_of_trail h (fun _ => Ending.noConfusion),
    Or.inr ⟨c.root.after rs, within_of_trail h, h.untold_of_lost⟩⟩
  · rw [context]
    rfl
  · rw [context]
    rfl

/-- A call that is given values is a call, or is refused. -/
theorem call_eq_run {given handed : Value} {run : Run}
    (h : c.call mode sender given handed = .ok run) :
    ∃ label args, run = c.run mode sender label args := by
  unfold call at h
  split at h
  · cases h
  · split at h
    · cases h
    · next items _ =>
      cases hd : Context.declare (stage mode) sender given (.tuple items) with
      | error e =>
        rw [hd] at h
        cases h
      | ok context =>
        rw [hd] at h
        cases h
        exact ⟨context.label, context.args, rfl⟩

/-- The answer is yes only after a run to the end. -/
theorem succeeded_of_onCommand {given handed : Value}
    (h : (c.onCommand sender given handed).result = .ok true) :
    ∃ label args, c.call .execution sender given handed =
        .ok (c.run .execution sender label args) ∧
      (c.run .execution sender label args).error = none ∧
      (c.run .execution sender label args).context.outcome? = some .executed := by
  unfold onCommand at h
  cases hc : c.call .execution sender given handed with
  | error e =>
    rw [hc] at h
    cases h
  | ok run =>
    obtain ⟨label, args, rfl⟩ := call_eq_run hc
    rw [hc] at h
    refine ⟨label, args, rfl, ?_⟩
    cases he : (c.run .execution sender label args).error with
    | some e => simp [answer, he] at h
    | none => exact ⟨rfl, by simpa [answer, he, Context.succeeded] using h⟩

theorem execution_reported (sender : Option Sender) (label : String) (args : List String)
    (worded : ∀ n, c.root.Within n → ∀ r ∈ n.requirements, r.IsWorded) :
    (∃ rs run, c.Executed sender label args rs run) ∨
      (∃ fault, c.Failed .execution sender label args fault) ∨
        ∃ e, c.Raised sender label args e := by
  obtain ⟨rs, ending, trail⟩ :=
    Trail.exists_trail .execution c.root (c.begun .execution sender label args)
  obtain ⟨run, rfl⟩ | ⟨fault, rfl⟩ | ⟨e, rfl⟩ | ⟨r, e, rfl⟩ := trail.execution_ending
  · exact Or.inl ⟨rs, run, executed_of_trail trail⟩
  · exact Or.inr (Or.inl ⟨fault, failed_of_trail trail⟩)
  · exact Or.inr (Or.inr ⟨e, raised_of_trail worded trail⟩)
  · exact Or.inr (Or.inr ⟨e, raised_of_lost trail⟩)

theorem completion_reported :
    (∃ fault, c.Failed .completion sender label args fault) ∨
      ((c.run .completion sender label args).context.fault = none ∧
        NeverTold (c.under .completion sender label args)) := by
  obtain ⟨rs, ending, trail⟩ :=
    Trail.exists_trail .completion c.root (c.begun .completion sender label args)
  obtain ⟨rfl, -⟩ | ⟨token, rfl, -⟩ | ⟨fault, rfl⟩ | ⟨e, rfl⟩ := trail.completion_ending
  · refine Or.inr ⟨?_, neverTold_of_trail trail (fun _ => Ending.noConfusion)⟩
    rw [run_idle trail]
    rfl
  · refine Or.inr ⟨?_, neverTold_of_trail trail (fun _ => Ending.noConfusion)⟩
    exact (run_offering trail).fault.symm
  · exact Or.inl ⟨fault, failed_of_trail trail⟩
  · refine Or.inr ⟨?_, neverTold_of_trail trail (fun _ => Ending.noConfusion)⟩
    rw [(run_raised trail).1]
    rfl

/-- A call that failed but is executed by its outcome has been pardoned. -/
theorem Failed.pardoned {fault : Fault} (h : c.Failed .execution sender label args fault)
    (outcome : (c.run .execution sender label args).context.outcome? = some .executed) :
    c.Pardoned sender label args fault := by
  have failed := h.outcome rfl
  cases handled : c.failure with
  | none =>
    have run : c.run .execution sender label args = c.under .execution sender label args none := by
      rw [← handled]
      rfl
    rw [run, failed] at outcome
    cases outcome
  | some handler =>
    have run : c.run .execution sender label args =
        c.under .execution sender label args (some handler) := by
      rw [← handled]
      rfl
    rw [run, h.told.told handler, Run.andThen, h.told.calm] at outcome
    exact ⟨handler, handled, outcome⟩

/-- The handler of a pardoned call does not leave the context alone. -/
theorem Pardoned.not_leavesAlone {fault : Fault} (h : c.Pardoned sender label args fault)
    (failed : c.Failed .execution sender label args fault) : ¬ LeavesAlone c.failure := by
  obtain ⟨handler, handled, outcome⟩ := h
  intro alone
  rw [alone handler handled, failed.outcome rfl] at outcome
  cases outcome

/-- **Every call is reported once.** An execution enters one executor and settles what it leaves, or
halts on a fault that is stored and then told to a failure handler, or raises the error of a
requirement, of a type of tokens or of the usage of a node, and leaves neither fault nor outcome; no
two of these at once. The answer of a host's call is yes only in the first case, or in the second if
the handler itself sets the outcome. A completion enters no executor, and a handler is told of its
fault, if there is one, and of nothing else. -/
theorem every_call_is_reported_once (c : Command) (sender : Option Sender)
    (worded : ∀ n, c.root.Within n → ∀ r ∈ n.requirements, r.IsWorded) :
    (∀ label args,
      let executed := ∃ rs run, c.Executed sender label args rs run
      let failed := ∃ fault, c.Failed .execution sender label args fault
      let raised := ∃ e, c.Raised sender label args e
      (executed ∨ failed ∨ raised) ∧
        ¬ (executed ∧ failed) ∧ ¬ (executed ∧ raised) ∧ ¬ (failed ∧ raised)) ∧
    (∀ given handed, (c.onCommand sender given handed).result = .ok true → ∃ label args,
      c.call .execution sender given handed = .ok (c.run .execution sender label args) ∧
      ((∃ rs run, c.Executed sender label args rs run) ∨
        ∃ fault, c.Failed .execution sender label args fault ∧
          c.Pardoned sender label args fault ∧ ¬ LeavesAlone c.failure)) ∧
    (∀ label args,
      (∀ rs run, ¬ c.Enters .completion sender label args rs run) ∧
      ((∃ fault, c.Failed .completion sender label args fault) ∨
        ((c.run .completion sender label args).context.fault = none ∧
          NeverTold (c.under .completion sender label args)))) := by
  refine ⟨?_, ?_, ?_⟩
  · intro label args executed failed raised
    refine ⟨execution_reported sender label args worded, ?_, ?_, ?_⟩
    · rintro ⟨⟨rs, run, h⟩, ⟨fault, h'⟩⟩
      exact h'.unentered rs run h.entered
    · rintro ⟨⟨rs, run, h⟩, ⟨e, h'⟩⟩
      exact h'.unentered rs run h.entered
    · rintro ⟨⟨fault, h⟩, ⟨e, h'⟩⟩
      have same := congrArg (fun run => run.context.fault) (h'.untold c.failure)
      cases h.stored.symm.trans (same.symm.trans h'.fault)
  · intro given handed answered
    obtain ⟨label, args, called, returned, outcome⟩ := succeeded_of_onCommand answered
    refine ⟨label, args, called, ?_⟩
    obtain ⟨rs, run, h⟩ | ⟨fault, h⟩ | ⟨e, h⟩ :=
      execution_reported sender label args worded
    · exact Or.inl ⟨rs, run, h⟩
    · have pardoned := h.pardoned outcome
      exact Or.inr ⟨fault, h, pardoned, pardoned.not_leavesAlone h⟩
    · cases returned.symm.trans h.error
  · exact fun label args => ⟨fun rs run => not_enters_completion, completion_reported⟩

/-- A command that greets whoever comes. -/
def greeting : Command :=
  ⟨0, "greet", .mk 0 "greet" .word
    [⟨.str "closed", none, (Condition.constant (.bool true)).test none⟩] (some .done) [], none⟩

theorem greeting_worded : ∀ n, greeting.root.Within n → ∀ r ∈ n.requirements, r.IsWorded := by
  intro n h r hr
  obtain rfl | ⟨none, hnone, -⟩ := Node.within_iff.1 h
  · obtain rfl := List.mem_singleton.1 hr
    rfl
  · cases hnone

/-- The host is told that the greeting was executed, and it was. -/
theorem greeting_is_reported :
    (∀ n, greeting.root.Within n → ∀ r ∈ n.requirements, r.IsWorded) ∧
      ∃ label args rs run, greeting.Executed none label args rs run := by
  have reported := every_call_is_reported_once greeting none greeting_worded
  have entered : greeting.Enters .execution none "greet" [] [] .done :=
    .finish (.entered (fun r mem => by rw [List.mem_singleton.1 mem]; rfl) rfl rfl rfl)
  have answered : (greeting.onCommand none (.str "greet") (.list [])).result = .ok true := by
    change (answer (.ok (greeting.run .execution none "greet" [])) Context.succeeded).result = _
    rw [run_eq entered]
    rfl
  obtain ⟨label, args, -, ⟨rs, run, executed⟩ | ⟨fault, -, -, meddles⟩⟩ := reported.2.1 _ _ answered
  · exact ⟨greeting_worded, label, args, rs, run, executed⟩
  · exact absurd leavesAlone_none meddles

/-- A command that nobody may use, whose handler sets the outcome as if it had been executed. -/
def pardoned : Command :=
  ⟨0, "greet", .mk 0 "greet" .word
    [⟨.str "closed", none, (Condition.constant (.bool false)).test none⟩] (some .done) [],
    some fun c _ => .done (c.setOutcome .executed)⟩

/-- A command that lacks a token, and has no usage to hint at it. -/
def untold : Command :=
  ⟨0, "greet", .mk 0 "greet" (.custom ⟨"Shy", "word", .error .noAttribute, [], parseWord,
    fun _ => .nothing⟩) [] none [], none⟩

/-- A command whose executor stores a fault. -/
def selfBlamed : Command :=
  ⟨0, "greet", .mk 0 "greet" .word []
    (some fun c => .done { c with fault := some (.make .commandFault none []) }) [], none⟩

/-- A handler can make an execution a success that entered no executor; an error can come from the
usage of a node where there is neither a requirement nor a child; and a fault can be stored although
the walk did not halt. -/
theorem reports_depend_on_hosts :
    ((∀ rs run, ¬ pardoned.Enters .execution none "greet" [] rs run) ∧
      (pardoned.onCommand none (.str "greet") (.list [])).result = .ok true) ∧
    (untold.root.requirements = [] ∧ untold.root.children = [] ∧
      (∀ rs run, ¬ untold.Enters .execution none "greet" [] rs run) ∧
      (untold.run .execution none "greet" []).error = some .noAttribute ∧
      (untold.run .execution none "greet" []).context.fault = none) ∧
    ((∃ rs run, selfBlamed.Enters .execution none "greet" [] rs run) ∧
      (selfBlamed.run .execution none "greet" []).context.fault ≠ none) := by
  have closed : pardoned.Halts .execution none "greet" [] [] _ := .finish (.unmet rfl rfl)
  have hinted : hint [] untold.root = .error .noAttribute := by
    unfold hint
    rw [Node.usages_eq_listing, Node.listing_eq]
    rfl
  have unhinted : Trail .execution untold.root (untold.begun .execution none "greet" []) []
      (.raised .noAttribute) := .finish (.unhinted (Node.admits_of_nil rfl) rfl rfl rfl hinted)
  have entered : selfBlamed.Enters .execution none "greet" [] [] _ :=
    .finish (.entered (Node.admits_of_nil rfl) rfl rfl rfl)
  refine ⟨⟨?_, ?_⟩, ⟨rfl, rfl, ?_, ?_, ?_⟩, ⟨⟨[], _, entered⟩, ?_⟩⟩
  · exact unentered_of_trail closed fun _ => Ending.noConfusion
  · change (answer (.ok (pardoned.run .execution none "greet" [])) Context.succeeded).result = _
    rw [run_eq closed]
    rfl
  · exact unentered_of_trail unhinted fun _ => Ending.noConfusion
  · exact (run_raised unhinted).2
  · rw [(run_raised unhinted).1]
    rfl
  · rw [run_eq entered]
    exact Option.some_ne_none _

end Command

end CommandTree
