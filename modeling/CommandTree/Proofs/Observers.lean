import CommandTree.Handler
import CommandTree.Proofs.Lockstep
import CommandTree.Proofs.Offering
import CommandTree.Proofs.Reporting

/-!
# Failure handlers observe

The failure handlers add to the end of an execution that halted, and to nothing else: `autofail`
sends the message of the fault once, if there is one, and `strict` raises the fault itself
(`handlers_only_observe`). That nothing else is sent is said by giving the sender another way to
receive messages (`Sender.hearing`): where requirements and types send nothing, a call that enters
no executor comes to the same.
-/

namespace CommandTree

/-- The same sender, who receives messages in another way. -/
def Sender.hearing (s : Sender) (send : Value → Reply Unit) : Sender :=
  { s with send? := s.send?.map fun _ => send }

namespace Context

/-- The same call for a sender who receives messages in another way. -/
def hearing (c : Context) (send : Value → Reply Unit) : Context :=
  { c with sender := c.sender.map fun s => s.hearing send }

variable (c : Context) (send : Value → Reply Unit)

theorem suggest_hearing (text : String) :
    (c.hearing send).suggest text = (c.suggest text).hearing send := by
  obtain ⟨sender, label, args, arguments, fault, stage⟩ := c
  cases stage with
  | plain | execution => rfl
  | completion typed suggestions =>
    simp only [hearing, suggest]
    split <;> rfl

theorem suggestAll_hearing (texts : List String) :
    (c.hearing send).suggestAll texts = (c.suggestAll texts).hearing send := by
  induction texts generalizing c with
  | nil => rfl
  | cons text more ih =>
    have first := ih (c.suggest text)
    rw [← suggest_hearing] at first
    exact first

theorem setOutcome_hearing (outcome : Outcome) :
    (c.hearing send).setOutcome outcome = (c.setOutcome outcome).hearing send := by
  obtain ⟨sender, label, args, arguments, fault, stage⟩ := c
  cases stage <;> rfl

theorem setTyped_hearing (typed : Value) :
    (c.hearing send).setTyped typed = (c.setTyped typed).hearing send := by
  obtain ⟨sender, label, args, arguments, fault, stage⟩ := c
  cases stage <;> rfl

end Context

/-- The same run for a sender who receives messages in another way. -/
def Run.hearing (run : Run) (send : Value → Reply Unit) : Run :=
  { run with context := run.context.hearing send }

theorem Run.andThen_hearing {next : Context → Run} {send : Value → Reply Unit}
    (h : ∀ c : Context, next (c.hearing send) = (next c).hearing send) (run : Run) :
    (run.hearing send).andThen next = (run.andThen next).hearing send := by
  cases he : run.error with
  | some e =>
    have raised : (run.hearing send).error = some e := he
    rw [andThen_of_error he, andThen_of_error raised]
  | none =>
    have calm : (run.hearing send).error = none := he
    have later : next (run.hearing send).context = (next run.context).hearing send :=
      h run.context
    rw [andThen_of_calm he, andThen_of_calm calm, later]
    rfl

/-- Neither the requirements of the node nor its type make use of the way in which the sender
receives messages. -/
structure Node.IsSilent (n : Node) : Prop where
  offer : ∀ (c : Context) (send : Value → Reply Unit),
    n.type.offer (c.hearing send) = n.type.offer c
  test : ∀ r ∈ n.requirements, ∀ (c : Context) (send : Value → Reply Unit),
    r.test (c.hearing send) = r.test c

namespace Walk

variable {mode : Mode} {root n : Node} {s : State} {c : Context} {send : Value → Reply Unit}

theorem firstUnmet_hearing (silent : n.IsSilent) (c : Context) (send : Value → Reply Unit) :
    Requirement.firstUnmet (c.hearing send) n.requirements =
      Requirement.firstUnmet c n.requirements :=
  Requirement.firstUnmet_eq fun r hr => silent.test r hr c send

theorem contribute_hearing (silent : n.IsSilent) (c : Context) :
    contribute n (c.hearing send) = (contribute n c).hearing send := by
  simp only [contribute, Reply.runWith, firstUnmet_hearing silent, silent.offer]
  cases (Requirement.firstUnmet c n.requirements).result with
  | error e => rfl
  | ok unmet =>
    cases unmet with
    | some r => rfl
    | none =>
      simp only [Context.suggestAll_hearing]
      rfl

theorem contributeAll_hearing {children : List Node} (silent : ∀ n ∈ children, n.IsSilent)
    (c : Context) :
    contributeAll children (c.hearing send) = (contributeAll children c).hearing send := by
  induction children generalizing c with
  | nil => rfl
  | cons n more ih =>
    rw [List.forall_mem_cons] at silent
    rw [contributeAll_cons, contributeAll_cons, contribute_hearing silent.1]
    exact Run.andThen_hearing (ih silent.2) _

/-- An ending without an executor sends nothing. -/
theorem conclude_hearing (c : Context) (send : Value → Reply Unit)
    (silent : ∀ child ∈ n.children, child.IsSilent) {ending : Ending}
    (unentered : ∀ run, ending ≠ .entered run) :
    conclude none n (c.hearing send) ending = (conclude none n c ending).hearing send := by
  cases ending with
  | entered run => exact absurd rfl (unentered run)
  | offering token =>
    simp only [conclude, complete, Context.setTyped_hearing, contributeAll_hearing silent]
    exact Run.andThen_hearing (fun _ => rfl) _
  | halted fault =>
    have halted := Context.setOutcome_hearing { c with fault := some fault } send .failed
    exact congrArg (fun left => (Run.done left).after [.log (.halting c.tokens fault)]) halted
  | idle | raised e | lost r e => rfl

/-- A walk for a sender who receives messages in another way. -/
def State.hearing (s : State) (send : Value → Reply Unit) : State :=
  { s with context := s.context.hearing send }

/-- A turn sends nothing. -/
theorem turn_hearing (silent : s.place.node.IsSilent) (mode : Mode) (root : Node)
    (send : Value → Reply Unit) : turn mode root (s.hearing send) = turn mode root s := by
  obtain ⟨⟨node, index, tokens⟩, path, context⟩ := s
  have gates := firstUnmet_hearing silent context send
  simp only [turn, State.hearing, gates]
  rfl

theorem Takes.hearing {m : Move} (takes : Takes mode root s m)
    (silent : s.place.node.IsSilent) (send : Value → Reply Unit) :
    Takes mode root (s.hearing send) m := by
  rw [← turn_eq_iff, turn_hearing silent]
  exact takes.turn_eq

theorem keepsUp_hearing {top : Node} (silent : ∀ n, top.Within n → n.IsSilent) (mode : Mode)
    (root : Node) (send : Value → Reply Unit) (ending : Ending) :
    KeepsUp mode root root (fun s t => s.hearing send = t ∧ top.Within s.place.node)
      Eq Eq ending ending where
  onward := by
    rintro s - r ⟨rfl, inside⟩ takes
    have told := congrArg Turn.events (turn_hearing (silent _ inside) mode root send)
    have next := Node.Within.child inside takes.mem_of_onward
    exact ⟨told.symm, r, takes.hearing (silent _ inside) send, rfl, rfl, next⟩
  finish := by
    rintro s - ⟨rfl, inside⟩ takes
    have told := congrArg Turn.events (turn_hearing (silent _ inside) mode root send)
    exact ⟨told.symm, takes.hearing (silent _ inside) send⟩
  append := by
    rintro xs ys - - rfl rfl
    rfl

/-- A fault that halts a walk is raised as it is. -/
theorem Takes.trigger_halted {fault : Fault} (takes : Takes mode root s (.finish (.halted fault)))
    (host : Host) : Fault.trigger host fault.toValue [] = Reply.fail (.fault fault) := by
  cases takes with
  | unmet _ declared =>
    obtain ⟨text, rfl⟩ := requirementFault_ok declared
    rfl
  | incomplete => rfl
  | exhausted _ _ _ _ hinted =>
    obtain rfl | ⟨shown, rfl⟩ := State.hints_cases hinted
    all_goals
      simp only [exhaustedFault, exhaustedKind]
      split <;> rfl

end Walk

/-- The message of a fault on its way to a sender; nothing is sent if there is none. -/
def delivery (send : Value → Reply Unit) (message : Option String) : Reply Unit :=
  match message with
  | some text => send (.str text)
  | none => pure ()

section Handlers

variable {c : Context} (message : Option String)

theorem autofail_of_completion (h : c.isCompletion = true) : autofail c message = .done c := by
  cases message <;> simp [autofail, forward, Value.ofOption, h] <;> rfl

theorem autofail_of_execution {s : Sender} {send : Value → Reply Unit}
    (h : c.isCompletion = false) (sender : c.sender = some s) (sends : s.send? = some send) :
    autofail c message = (delivery send message).runWith c fun _ => .done c := by
  cases message with
  | none => rfl
  | some text => simp [autofail, forward, Value.ofOption, delivery, h, Sender.send, sender, sends]

theorem strict_of_completion (host : Host) (h : c.isCompletion = true) :
    strict host c message = .done c := by
  unfold strict raiseFault
  cases c.fault <;> simp [h] <;> rfl

theorem strict_of_execution {fault : Fault} (host : Host) (h : c.isCompletion = false)
    (stored : c.fault = some fault) :
    strict host c message =
      (Fault.trigger host fault.toValue []).runWith c fun _ => .done c := by
  simp [strict, raiseFault, stored, h]

/-- A reply that is run for nothing but what it reports leaves the context alone. -/
theorem context_runWith_done (reply : Reply Unit) (c : Context) :
    (reply.runWith c fun _ => .done c).context = c := by
  unfold Reply.runWith
  split <;> rfl

theorem leavesAlone_autofail : Walk.LeavesAlone (some autofail) := by
  rintro _ ⟨⟩ c message
  exact context_runWith_done ..

theorem leavesAlone_strict (host : Host) : Walk.LeavesAlone (some (strict host)) := by
  rintro _ ⟨⟩ c message
  exact context_runWith_done ..

end Handlers

namespace ToldOnce

variable {call : Option Handler → Run} {message : Option String} {handler : Handler}

theorem call_eq (once : ToldOnce call message) (handler : Handler) :
    call (some handler) =
      (handler (call none).context message).after (call none).events := by
  rw [once.told, Run.andThen_of_calm once.calm]

/-- A handler that does nothing might as well not be there. -/
theorem call_eq_none (once : ToldOnce call message)
    (nothing : handler (call none).context message = .done (call none).context) :
    call (some handler) = call none := by
  rw [once.call_eq, nothing]
  exact Run.after_done_of_calm once.calm

end ToldOnce

namespace Command

open Walk

/-- Neither handler makes a difference to the call. -/
def Unobserved (call : Option Handler → Run) (host : Host) : Prop :=
  call (some autofail) = call none ∧ call (some (strict host)) = call none

/-- A call that halts on a fault, told to the sender by one handler and raised by the other. Apart
from that, it is the call without a handler. -/
structure Observed (call : Option Handler → Run) (host : Host) (send : Value → Reply Unit)
    (fault : Fault) : Prop where
  calm : (call none).error = none
  sent : call (some autofail) =
    ((delivery send fault.message).runWith (call none).context
      fun _ => .done (call none).context).after (call none).events
  kept : (call (some autofail)).context = (call none).context
  raised : call (some (strict host)) = { call none with error := some (.fault fault) }

/-- The call sends nothing: it is the same for a sender who receives messages in any other way. -/
def SendsNothing (mode : Mode) (c : Command) (s : Sender) (label : String) (args : List String)
    (failure : Option Handler) : Prop :=
  ∀ send, c.under mode (some (s.hearing send)) label args failure =
    (c.under mode (some s) label args failure).hearing send

variable {c : Command} {mode : Mode} {s : Sender} {label : String} {args : List String}
  {rs : List Reading} {fault : Fault}

theorem begun_hearing (send : Value → Reply Unit) :
    c.begun mode (some (s.hearing send)) label args =
      (c.begun mode (some s) label args).hearing send := rfl

theorem sendsNothing_of_trail {ending : Ending} (silent : ∀ n, c.root.Within n → n.IsSilent)
    (trail : Trail mode c.root (c.begun mode (some s) label args) rs ending)
    (unentered : ∀ run, ending ≠ .entered run) : c.SendsNothing mode s label args none := by
  intro send
  obtain ⟨rs', trail', all, -, told⟩ :=
    trail.keep_up (keepsUp_hearing silent mode c.root send ending) ⟨rfl, .root⟩
  obtain rfl : rs = rs' := List.forall₂_eq_eq_eq ▸ all
  have inside := within_of_trail trail
  have concluded := conclude_hearing (reached mode (some s) label args rs) send
    (fun child hc => silent child (.child inside hc)) unentered
  rw [← begun_hearing] at trail' told
  rw [under_eq trail', under_eq trail, ← told]
  exact congrArg (Run.after _) concluded

/-- Where a call does not halt, a handler has no say. -/
theorem unobserved_of_trail {ending : Ending} (host : Host)
    (trail : Trail mode c.root (c.begun mode (some s) label args) rs ending)
    (other : ∀ fault, ending ≠ .halted fault) :
    Unobserved (c.under mode (some s) label args) host :=
  ⟨neverTold_of_trail trail other _, neverTold_of_trail trail other _⟩

/-- A completion that halts tells the handlers, who keep it to themselves. -/
theorem unobserved_of_completion (c : Command) (s : Sender) (label : String) (args : List String)
    (host : Host) : Unobserved (c.under .completion (some s) label args) host := by
  obtain ⟨rs, ending, trail⟩ :=
    Trail.exists_trail .completion c.root (c.begun .completion (some s) label args)
  by_cases halted : ∃ fault, ending = .halted fault
  · obtain ⟨fault, rfl⟩ := halted
    have once := toldOnce_of_trail trail
    have completing :
        (c.under .completion (some s) label args none).context.isCompletion = true := by
      rw [under_halted trail leavesAlone_none]
      rfl
    exact ⟨once.call_eq_none (autofail_of_completion _ completing),
      once.call_eq_none (strict_of_completion _ host completing)⟩
  · exact unobserved_of_trail host trail fun fault h => halted ⟨fault, h⟩

theorem sendsNothing_completion (silent : ∀ n, c.root.Within n → n.IsSilent) (host : Host) :
    ∀ failure ∈ [none, some autofail, some (strict host)],
      c.SendsNothing .completion s label args failure := by
  have unhandled : c.SendsNothing .completion s label args none := by
    obtain ⟨rs, ending, trail⟩ :=
      Trail.exists_trail .completion c.root (c.begun .completion (some s) label args)
    refine sendsNothing_of_trail silent trail ?_
    rintro run rfl
    exact not_enters_completion trail
  intro failure mem send
  have here := unobserved_of_completion c s label args host
  have there := unobserved_of_completion c (s.hearing send) label args host
  simp only [List.mem_cons, List.not_mem_nil, or_false] at mem
  obtain rfl | rfl | rfl := mem
  · exact unhandled send
  · rw [here.1, there.1]
    exact unhandled send
  · rw [here.2, there.2]
    exact unhandled send

theorem observed_of_halts {send : Value → Reply Unit} (host : Host) (sends : s.send? = some send)
    (halts : c.Halts .execution (some s) label args rs fault) :
    Observed (c.under .execution (some s) label args) host send fault := by
  have once := toldOnce_of_trail halts
  have left := under_halted halts leavesAlone_none
  have executing :
      (c.under .execution (some s) label args none).context.isCompletion = false := by
    rw [left]
    rfl
  have sender : (c.under .execution (some s) label args none).context.sender = some s := by
    rw [left]
    rfl
  have stored : (c.under .execution (some s) label args none).context.fault = some fault := by
    rw [left]
    rfl
  have sent := once.call_eq autofail
  rw [autofail_of_execution _ executing sender sends] at sent
  have raised := once.call_eq (strict host)
  rw [strict_of_execution _ host executing stored,
    (Trail.last_turn halts).trigger_halted host] at raised
  refine ⟨once.calm, sent, ?_, ?_⟩
  · rw [sent]
    exact context_runWith_done ..
  · rw [raised]
    simp [Reply.runWith, Reply.fail, Run.after]

/-- **Failure handlers observe.** A call walks the same way, whatever handler it has. Where an
execution halts on a fault, `autofail` sends its message once, or nothing if there is none, and
leaves the same context, and `strict` raises the same fault; where it enters an executor or stores
no fault, neither of them makes a difference. A completion enters no executor, sends nothing, and is
the same with either handler and with none. -/
theorem handlers_only_observe (c : Command) (host : Host) (s : Sender)
    {send : Value → Reply Unit} (sends : s.send? = some send)
    (silent : ∀ n, c.root.Within n → n.IsSilent) (label : String) (args : List String) :
    let executed := c.under .execution (some s) label args
    let completed := c.under .completion (some s) label args
    (∀ mode, ∃ rs ending, Trail mode c.root (c.begun mode (some s) label args) rs ending ∧
      ∀ failure, c.under mode (some s) label args failure =
        (conclude failure (c.root.after rs) (reached mode (some s) label args rs) ending).after
          (reported mode c.root (c.begun mode (some s) label args) rs)) ∧
    (∀ fault, (∀ rs run, ¬ c.Enters .execution (some s) label args rs run) →
      (executed none).context.fault = some fault →
        Observed executed host send fault ∧ c.SendsNothing .execution s label args none) ∧
    ((∃ rs run, c.Enters .execution (some s) label args rs run) ∨
      (executed none).context.fault = none → Unobserved executed host) ∧
    Unobserved completed host ∧
    (∀ rs run, ¬ c.Enters .completion (some s) label args rs run) ∧
    ∀ failure ∈ [none, some autofail, some (strict host)],
      c.SendsNothing .completion s label args failure := by
  intro executed completed
  refine ⟨?_, ?_, ?_, unobserved_of_completion c s label args host, ?_, ?_⟩
  · intro mode
    obtain ⟨rs, ending, trail⟩ :=
      Trail.exists_trail mode c.root (c.begun mode (some s) label args)
    exact ⟨rs, ending, trail, under_eq trail⟩
  · intro fault unentered stored
    obtain ⟨rs, halts⟩ := halts_of_stored unentered stored
    exact ⟨observed_of_halts host sends halts,
      sendsNothing_of_trail silent halts fun _ => Ending.noConfusion⟩
  · intro unhalted
    obtain ⟨rs, ending, trail⟩ :=
      Trail.exists_trail .execution c.root (c.begun .execution (some s) label args)
    refine unobserved_of_trail host trail ?_
    obtain ⟨rs', run, entered⟩ | unfaulted := unhalted
    · rintro fault rfl
      exact unentered_of_trail trail (fun _ => Ending.noConfusion) rs' run entered
    · exact unhalted_of_trail trail unfaulted
  · exact fun rs run => not_enters_completion
  · exact sendsNothing_completion silent host

/-- A command that nobody may use. -/
def closing : Command :=
  ⟨0, "enter", .mk 0 "enter" .word
    [⟨.str "closed", none, (Condition.constant (.bool false)).test none⟩] (some .done) [], none⟩

def note (message : Value) : Reply Unit := Reply.report (.note "sent" [message])

def visitor : Sender := ⟨"visitor", "visitor", some note, .nothing⟩

theorem closing_is_silent : ∀ n, closing.root.Within n → n.IsSilent := by
  intro n h
  obtain rfl | ⟨none, hnone, -⟩ := Node.within_iff.1 h
  · refine ⟨fun c send => rfl, ?_⟩
    intro r hr c send
    obtain rfl := List.mem_singleton.1 hr
    rfl
  · cases hnone

/-- A visitor is told once that the command is closed. -/
theorem visitor_is_told_once :
    visitor.send? = some note ∧ (∀ n, closing.root.Within n → n.IsSilent) ∧
      ∃ fault, fault.message = some "closed" ∧
        Observed (closing.under .execution (some visitor) "enter" []) Host.plain note fault := by
  obtain ⟨-, told, -⟩ :=
    handlers_only_observe closing Host.plain visitor rfl closing_is_silent "enter" []
  have halts : closing.Halts .execution (some visitor) "enter" [] [] _ :=
    .finish (.unmet rfl rfl)
  have unentered := unentered_of_trail halts fun _ => Ending.noConfusion
  have stored := congrArg Context.fault (under_halted halts leavesAlone_none)
  exact ⟨rfl, closing_is_silent, _, rfl, (told _ unentered stored).1⟩

end Command

end CommandTree
