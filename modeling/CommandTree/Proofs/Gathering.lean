import CommandTree.Proofs.Completion
import CommandTree.Proofs.Lockstep
import CommandTree.Proofs.Positions

/-!
# Gathering suggestions

Where a completion stops at the token being typed, the children of the node are asked in the order
of declaration, and none of them is given the token to read. One that does not admit the context is
passed over without a fault; the others offer texts (`OfferInTurn`). Each text is suggested once,
where it is offered first (`Context.suggestions_suggestAll_eq`), so the suggestions are all that is
offered without the repetitions (`completions_gather_offers`). A completion that ends in any other
way suggests nothing.
-/

namespace CommandTree

/-- Texts that are suggested one after the other come behind those that were suggested before, each
of them where it comes first. -/
theorem Context.suggestions_suggestAll_eq {c : Context} (h : c.isCompletion = true)
    (texts : List String) : (c.suggestAll texts).suggestions =
      c.suggestions ++ (texts.removeAll c.suggestions).eraseDups := by
  induction texts generalizing c with
  | nil => simp [suggestAll, List.removeAll]
  | cons text more ih =>
    have later := ih (c := c.suggest text) ((isCompletion_suggest c text).trans h)
    have step : (c.suggestAll (text :: more)).suggestions =
        ((c.suggest text).suggestAll more).suggestions := rfl
    rw [step, later]
    obtain ⟨sender, label, args, arguments, fault, stage⟩ := c
    cases stage with
    | plain | execution => cases h
    | completion typed suggestions =>
      simp only [suggest]
      split
      case isTrue known => simp [Context.suggestions, List.removeAll, known]
      case isFalse new =>
        simp [Context.suggestions, List.removeAll, new, List.eraseDups_cons, List.filter_filter,
          Bool.and_comm, Bool.beq_eq_decide_eq]

/-- What children offer, and what they report, one after the other. Each of them finds suggested
what those before it have offered. -/
inductive OfferInTurn : Context → List Node → List String → List Event → Prop where
  | done {c : Context} : OfferInTurn c [] [] []
  | barred {c : Context} {n : Node} {more : List Node} {texts : List String}
      {events : List Event} {unmet : Requirement} :
      (Requirement.firstUnmet c n.requirements).result = .ok (some unmet) →
      OfferInTurn c more texts events →
      OfferInTurn c (n :: more) texts ((Requirement.firstUnmet c n.requirements).events ++ events)
  | asked {c : Context} {n : Node} {more : List Node} {texts : List String}
      {events : List Event} : n.Admits c → (n.type.offer c).error = none →
      OfferInTurn (c.suggestAll (n.type.offer c).texts) more texts events →
      OfferInTurn c (n :: more) ((n.type.offer c).texts ++ texts)
        ((Requirement.firstUnmet c n.requirements).events ++ (n.type.offer c).events ++ events)

namespace Walk

variable {n : Node} {children : List Node} {c : Context} {texts : List String}
  {events : List Event}

theorem contribute_of_unmet {unmet : Requirement}
    (h : (Requirement.firstUnmet c n.requirements).result = .ok (some unmet)) :
    contribute n c = ⟨c, (Requirement.firstUnmet c n.requirements).events, none⟩ := by
  simp [contribute, Reply.runWith, h, Run.done, Run.after]

theorem contribute_of_admits (admits : n.Admits c) :
    contribute n c = ⟨c.suggestAll (n.type.offer c).texts,
      (Requirement.firstUnmet c n.requirements).events ++ (n.type.offer c).events,
      (n.type.offer c).error⟩ := by
  simp [contribute, Reply.runWith, Requirement.firstUnmet_none_iff.2 admits, Run.after]

/-- Children that offer texts in turn suggest them, and raise no error. -/
theorem contributeAll_of_inTurn (h : OfferInTurn c children texts events) :
    contributeAll children c = ⟨c.suggestAll texts, events, none⟩ := by
  induction h with
  | done => rfl
  | barred unmet _ ih =>
    rw [contributeAll_cons, contribute_of_unmet unmet, Run.andThen_of_calm rfl, ih]
    rfl
  | asked admits calm _ ih =>
    rw [contributeAll_cons, contribute_of_admits admits, Run.andThen_of_calm calm, ih,
      Context.suggestAll_append]
    rfl

/-- Children that raise no error offer texts in turn. -/
theorem exists_inTurn (calm : (contributeAll children c).error = none) :
    ∃ texts events, OfferInTurn c children texts events := by
  induction children generalizing c with
  | nil => exact ⟨[], [], .done⟩
  | cons n more ih =>
    rw [contributeAll_cons] at calm
    have calmly : (contribute n c).error = none := by
      cases raised : (contribute n c).error with
      | none => rfl
      | some e =>
        rw [Run.andThen_of_error raised, raised] at calm
        cases calm
    rw [Run.andThen_of_calm calmly] at calm
    obtain ⟨texts, events, later⟩ := ih calm
    obtain ⟨tested, offers⟩ := contribute_error_iff.1 calmly
    cases gates : (Requirement.firstUnmet c n.requirements).result with
    | error e => exact absurd gates (tested e)
    | ok unmet =>
      cases unmet with
      | some unmet =>
        rw [contribute_of_unmet gates] at later
        exact ⟨_, _, .barred gates later⟩
      | none =>
        have admits : n.Admits c := Requirement.firstUnmet_none_iff.1 gates
        rw [contribute_of_admits admits] at later
        exact ⟨_, _, .asked admits (offers admits) later⟩

end Walk

/-- Where no child minds what was suggested before it, each of them offers what it would offer on
its own. -/
theorem OfferInTurn.texts_eq {c d : Context} {children : List Node} {texts : List String}
    {events : List Event} (h : OfferInTurn d children texts events)
    (suggested : Context.OnlySuggests c d) (steady : ∀ child ∈ children, child.IsSteady) :
    texts = children.flatMap fun child => child.offered c := by
  induction h with
  | done => rfl
  | @barred d n more texts events unmet gates _ ih =>
    rw [List.forall_mem_cons] at steady
    have nothing : n.offered c = [] := by
      rw [steady.1.offered_eq suggested, Node.offered, gates]
    rw [List.flatMap_cons, nothing, List.nil_append]
    exact ih suggested steady.2
  | @asked d n more texts events admits _ _ ih =>
    rw [List.forall_mem_cons] at steady
    have own : n.offered c = (n.type.offer d).texts := by
      rw [steady.1.offered_eq suggested, Node.offered, Requirement.firstUnmet_none_iff.2 admits]
    rw [List.flatMap_cons, own,
      ← ih (suggested.trans (d.onlySuggests_suggestAll _)) steady.2]

namespace Command

open Walk

variable {c : Command} {sender : Option Sender} {label : String} {args : List String}
  {rs : List Reading} {typed : String} {texts : List String} {events : List Event}

/-- What stops at a token is at the last of the arguments, and gives it to no child. -/
theorem Stops.at_last (stops : c.Stops sender label args rs typed)
    (fronts : ∀ n, c.root.Within n → n.type.TakesFront) :
    args.getLast? = some typed ∧
      consulted .completion ((c.begun .completion sender label args).readAll rs) = [] := by
  constructor
  · obtain ⟨before, split⟩ := leftBy_suffix fronts stops (List.prefix_refl rs)
    rw [← split, stops.leftBy_eq, List.getLast?_concat]
  · obtain ⟨admits, -, tokens⟩ := Takes.offering_iff.1 stops.last_turn
    rw [consulted, Requirement.firstUnmet_none_iff.2 admits, tokens]
    rfl

theorem suggestions_gathered (sender : Option Sender) (label : String) (args : List String)
    (rs : List Reading) (typed : String) (texts : List String) :
    ((asked sender label args rs typed).suggestAll texts).suggestions = texts.eraseDups := by
  rw [Context.suggestions_suggestAll_eq rfl, suggestions_asked]
  simp [List.removeAll]

theorem Stops.run_eq_of_inTurn (stops : c.Stops sender label args rs typed)
    (inTurn : OfferInTurn (asked sender label args rs typed) (c.root.after rs).children texts
      events) :
    c.run .completion sender label args = ⟨(asked sender label args rs typed).suggestAll texts,
      reported .completion c.root (c.begun .completion sender label args) rs ++ events ++
        [.log (.suggesting texts.eraseDups (label :: args))], none⟩ := by
  have suggestions := suggestions_gathered sender label args rs typed texts
  have call : ((asked sender label args rs typed).suggestAll texts).tokens = label :: args :=
    (Context.onlySuggests_suggestAll _ texts).agrees.tokens.symm
  have gathered := contributeAll_of_inTurn inTurn
  rw [run_eq stops]
  simp only [asked] at gathered suggestions call ⊢
  simp only [conclude, complete, gathered, Run.andThen, Run.after, suggestions, call,
    List.append_assoc]

/-- **Completions gather what is offered.** Where types take tokens from the front only, a
completion that stops at a token stops at the last argument, which is what is being typed then and
which no child is given to read; it stores no fault and tells nothing to a failure handler. Unless
an error is raised, the children that admit the call offer texts in turn and the others none, and
the suggestions are these texts, in the order of the children, each of them once. A completion that
ends in any other way suggests nothing; a handler that is told of its fault may do so then. -/
theorem completions_gather_offers (c : Command) (sender : Option Sender) (label : String)
    (args : List String) (fronts : ∀ n, c.root.Within n → n.type.TakesFront) :
    let begun := c.begun .completion sender label args
    let completed := c.run .completion sender label args
    (∀ rs typed, c.Stops sender label args rs typed →
      let given := asked sender label args rs typed
      let children := (c.root.after rs).children
      (args.getLast? = some typed ∧ completed.context.typed = .str typed ∧
        consulted .completion (begun.readAll rs) = []) ∧
      (completed.context.fault = none ∧ NeverTold (c.under .completion sender label args)) ∧
      (completed.error = none ↔ ∃ texts events, OfferInTurn given children texts events) ∧
      ∀ texts events, OfferInTurn given children texts events →
        completed.context.suggestions = texts.eraseDups ∧
        completed.events = reported .completion c.root begun rs ++ events ++
          [.log (.suggesting texts.eraseDups (label :: args))] ∧
        ((∀ child ∈ children, child.IsSteady) →
          texts = children.flatMap fun child => child.offered given)) ∧
    ((∀ rs typed, ¬ c.Stops sender label args rs typed) →
      (c.under .completion sender label args none).context.suggestions = [] ∧
        (SuggestsNothing c.failure → completed.context.suggestions = [])) := by
  intro begun completed
  refine ⟨?stopped, ?otherwise⟩
  case stopped =>
    intro rs typed stops given children
    have onlySuggests : Context.OnlySuggests given completed.context := run_offering stops
    refine ⟨?_, ⟨onlySuggests.fault.symm, neverTold_of_trail stops fun _ => nofun⟩, ?_, ?_⟩
    · obtain ⟨last, consulted⟩ := stops.at_last fronts
      exact ⟨last, onlySuggests.typed.symm, consulted⟩
    · constructor
      · intro calm
        exact exists_inTurn ((run_stopped stops).2.symm.trans calm)
      · rintro ⟨texts, events, inTurn⟩
        exact congrArg Run.error (stops.run_eq_of_inTurn inTurn)
    · intro texts events inTurn
      have gathered := stops.run_eq_of_inTurn inTurn
      have suggestions := congrArg (fun run => run.context.suggestions) gathered
      exact ⟨suggestions.trans (suggestions_gathered ..), congrArg Run.events gathered,
        inTurn.texts_eq (.refl given)⟩
  case otherwise =>
    intro unstopped
    have nothing {failure : Option Handler} (quiet : SuggestsNothing failure) :
        (c.under .completion sender label args failure).context.suggestions = [] := by
      refine List.eq_nil_iff_forall_not_mem.2 fun text suggested => ?_
      obtain ⟨rs, typed, stops⟩ := stops_of_suggested quiet suggested
      exact unstopped rs typed stops
    exact ⟨nothing leavesAlone_none.suggestsNothing, nothing⟩

/-- A heater with a button that is locked, a choice of levels, and another button. -/
def heater : Command :=
  ⟨0, "heat", .mk 0 "heat" .word [] none [boost, level, button], none⟩
where
  boost : Node := .mk 1 "boost" (.literal ⟨"hot", false, by decide +kernel⟩)
    [⟨.str "locked", none, (Condition.constant (.bool false)).test none⟩] (some .done) []
  level : Node := .mk 2 "level" (.choice levels) [] (some .done) []
  levels : Choice := ⟨["high", "hot"], false, by decide +kernel, by decide +kernel⟩
  button : Node := .mk 3 "button" (.literal ⟨"high", false, by decide +kernel⟩) [] (some .done) []

theorem heater_children {n : Node} (h : n ∈ heater.root.children) :
    n = heater.boost ∨ n = heater.level ∨ n = heater.button := by
  simpa [heater, Node.children] using h

theorem heater_builtIn {n : Node} (h : heater.root.Within n) : n.type.IsBuiltIn := by
  obtain rfl | ⟨child, hc, h⟩ := Node.within_iff.1 h
  · trivial
  obtain rfl | ⟨none, hn, -⟩ := Node.within_iff.1 h
  · obtain rfl | rfl | rfl := heater_children hc <;> trivial
  · obtain rfl | rfl | rfl := heater_children hc <;> cases hn

theorem heater_steady : ∀ n ∈ heater.root.children, n.IsSteady := by
  intro n h
  refine Node.isSteady_of_builtIn (heater_builtIn (.child .root h)) ?_
  obtain rfl | rfl | rfl := heater_children h
  · intro r hr
    obtain rfl := List.mem_singleton.1 hr
    exact (Condition.ignoresSpelling_test _ _ _ (by simp)).ignoresStage
  all_goals exact fun r hr => absurd hr List.not_mem_nil

/-- What is locked is passed over, though it is declared first, and what is offered again adds
nothing. -/
theorem heater_gathers_once :
    (∀ n, heater.root.Within n → n.type.TakesFront) ∧ heater.Stops none "heat" ["h"] [] "h" ∧
      (heater.run .completion none "heat" ["h"]).error = none ∧
      (heater.run .completion none "heat" ["h"]).context.suggestions = ["high", "hot"] := by
  have fronts : ∀ n, heater.root.Within n → n.type.TakesFront :=
    fun n h => (heater_builtIn h).takesFront
  have stops : heater.Stops none "heat" ["h"] [] "h" :=
    .finish (Takes.offering_iff.2 ⟨Node.admits_of_nil rfl, rfl, rfl⟩)
  obtain ⟨stopped, -⟩ := completions_gather_offers heater none "heat" ["h"] fronts
  obtain ⟨-, -, calm, gathered⟩ := stopped [] "h" stops
  have noError : (heater.run .completion none "heat" ["h"]).error = none :=
    Option.isNone_iff_eq_none.1 (by decide +kernel)
  obtain ⟨texts, events, inTurn⟩ := calm.1 noError
  obtain ⟨suggestions, -, offers⟩ := gathered texts events inTurn
  have offered : (heater.root.children.flatMap fun child =>
      child.offered (asked none "heat" ["h"] [] "h")) = ["high", "hot", "high"] := by decide +kernel
  rw [suggestions, offers heater_steady]
  exact ⟨fronts, stops, noError, congrArg List.eraseDups offered⟩

end Command

end CommandTree
