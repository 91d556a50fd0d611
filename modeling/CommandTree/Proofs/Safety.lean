import CommandTree.Proofs.Completion

/-!
# Errors while completing

What a completion raises on its way, an execution of the same call raises too
(`Trail.raised_execution`). Where it stops, it does what no execution does: it tests the
requirements of children that have read nothing yet. A requirement that needs the value of its own
node can raise an error there, while no execution raises any (`completion_is_safe_iff`).
-/

namespace CommandTree

namespace Walk

variable {root : Node} {s t : State}

/-- Where a completion raises an error, an execution raises the same. -/
theorem Parallel.raised (h : Parallel s t)
    (blind : ∀ r ∈ s.place.node.requirements, r.IgnoresStage) {e : Error}
    (takes : Takes .completion root s (.finish (.raised e))) :
    Takes .execution root t (.finish (.raised e)) := by
  cases takes with
  | untested hg =>
    rw [h.gates blind] at hg
    exact .untested hg
  | unworded hg hf =>
    rw [h.gates blind] at hg
    rw [h.place] at hf
    exact .unworded hg hf
  | broken admits enough hc =>
    rw [h.place] at enough hc
    exact .broken (h.admits blind admits) (Nat.zero_lt_of_lt enough) hc
  | unhinted _ hm => cases hm
  | exhaustedUnhinted _ _ _ hh => cases hh

theorem Trail.raised_execution {rs : List Reading} {e : Error}
    (blind : ∀ n, root.Within n → ∀ r ∈ n.requirements, r.IgnoresStage) (told : root.TellsUsages)
    (trail : Trail .completion root s rs (.raised e)) (h : Parallel s t)
    (inside : root.Within s.place.node) : Trail .execution root t rs (.raised e) := by
  have takes := (h.readAll rs).raised (blind _ (trail.within inside)) trail.last_turn
  have replayed := trail.replay blind told h inside (.finish takes)
  rwa [List.append_nil] at replayed

end Walk

namespace Command

open Walk

variable {c : Command} {sender : Option Sender} {label : String} {args : List String}

/-- Only a handler can make a call raise an error that halts on a fault. -/
theorem error_of_halted {mode : Mode} {rs : List Reading} {fault : Fault}
    (noHandler : c.failure = none)
    (trail : Trail mode c.root (c.begun mode sender label args) rs (.halted fault)) :
    (c.run mode sender label args).error = none := by
  rw [run_eq trail, noHandler]
  rfl

/-- **Completion is as safe as execution, up to where it stops.** Where no execution of a command
without a handler raises an error, its completions raise none exactly if the children raise none
when they are asked what they offer: the requirements of a child are tested before it has a value
then, and its type is asked about numbers that no one has typed. -/
theorem completion_is_safe_iff (c : Command) (sender : Option Sender) (label : String)
    (noHandler : c.failure = none) (builtIn : ∀ n, c.root.Within n → n.type.IsBuiltIn)
    (blind : ∀ n, c.root.Within n → ∀ r ∈ n.requirements, r.IgnoresStage)
    (safe : ∀ args, (c.run .execution sender label args).error = none) :
    (∀ args, (c.run .completion sender label args).error = none) ↔
      ∀ args rs typed, c.Stops sender label args rs typed →
        ∀ child ∈ (c.root.after rs).children,
          child.OffersCalmly (asked sender label args rs typed) := by
  have stopped {args rs typed} (stops : c.Stops sender label args rs typed) :
      (c.run .completion sender label args).error = none ↔
        ∀ child ∈ (c.root.after rs).children,
          child.OffersCalmly (asked sender label args rs typed) := by
    rw [(run_stopped stops).2, contributeAll_error_iff]
    intro child hc
    have inside := Node.Within.child (within_of_trail stops) hc
    exact Node.isSteady_of_builtIn (builtIn child inside) (blind child inside)
  constructor
  · exact fun calm args rs typed stops => (stopped stops).1 (calm args)
  · intro calm args
    obtain ⟨rs, ending, trail⟩ :=
      Trail.exists_trail .completion c.root (c.begun .completion sender label args)
    obtain ⟨rfl, -⟩ | ⟨typed, rfl, -⟩ | ⟨fault, rfl⟩ | ⟨e, rfl⟩ := trail.completion_ending
    · rw [run_eq trail]
      rfl
    · exact (stopped trail).2 (calm args rs typed trail)
    · exact error_of_halted noHandler trail
    · -- What stops a completion on its way stops an execution too, and nothing stops one.
      have told := Node.tellsUsages_of_builtIn builtIn
      have raised := (run_raised (trail.raised_execution blind told parallel_begun .root)).2
      rw [safe args] at raised
      cases raised

/-- A command that reads a word, which has to meet a condition. -/
def going (condition : Condition) : Command :=
  ⟨0, "go", .mk 0 "go" .word [] none [target condition], none⟩
where
  target (condition : Condition) : Node :=
    .mk 1 "w" .word [⟨.str "late", none, condition.test none⟩] (some .done) []

section Going

variable {condition : Condition}

theorem going_within {n : Node} (h : (going condition).root.Within n) :
    n = (going condition).root ∨ n = going.target condition := by
  obtain rfl | ⟨target, ht, h⟩ := Node.within_iff.1 h
  · exact Or.inl rfl
  obtain rfl := List.mem_singleton.1 ht
  obtain rfl | ⟨none, hn, -⟩ := Node.within_iff.1 h
  · exact Or.inr rfl
  · cases hn

theorem going_builtIn : ∀ n, (going condition).root.Within n → n.type.IsBuiltIn := by
  intro n h
  obtain rfl | rfl := going_within h <;> trivial

theorem going_tellsUsages : (going condition).root.TellsUsages :=
  Node.tellsUsages_of_builtIn going_builtIn

theorem word_breaks_never {tokens : List String} {child : Node} {e : Error}
    (word : child.type = .word) : ¬ Breaks tokens child e := by
  intro breaks
  cases tokens with
  | nil => simp [Breaks, word, TokenType.parse, parseWord, Attempt.reject] at breaks
  | cons token left =>
    by_cases blank : token.isEmpty = true <;>
      simp [Breaks, word, TokenType.parse, parseWord, Attempt.reject, Attempt.accept, blank]
        at breaks

theorem word_reads {tokens : List String} {r : Reading} (word : r.child.type = .word)
    (reads : Reads tokens r) : ∃ token, r.value = .str token := by
  obtain ⟨reads, -⟩ := reads
  rw [word] at reads
  cases tokens with
  | nil => cases reads
  | cons token left =>
    by_cases blank : token.isEmpty = true
    · simp [TokenType.parse, parseWord, Attempt.reject, blank] at reads
    · refine ⟨token, ?_⟩
      simpa [TokenType.parse, parseWord, Attempt.accept, blank, eq_comm] using reads

/-- A walk reads a word or nothing. -/
theorem going_reads {mode : Mode} {s : State} {rs : List Reading} {ending : Ending}
    (root : s.place.node = (going condition).root)
    (trail : Trail mode (going condition).root s rs ending) :
    rs = [] ∨ ∃ token rest, rs = [⟨going.target condition, .str token, rest⟩] := by
  cases trail with
  | finish => exact Or.inl rfl
  | @onward _ r rs _ takes later =>
    have first := (Takes.onward_iff.1 takes).2.2.1
    rw [root] at first
    obtain ⟨child, reads⟩ | ⟨-, none⟩ := firstToRead_cons.1 first
    · cases later with
      | finish =>
        obtain ⟨token, value⟩ := word_reads (by rw [child]; rfl) reads
        exact Or.inr ⟨token, r.rest, by rw [← child, ← value]⟩
      | onward takes =>
        have none := (Takes.onward_iff.1 takes).2.2.1
        rw [State.node_read, child] at none
        exact absurd none not_firstToRead_nil
    · exact absurd none not_firstToRead_nil

/-- If the condition can be tested once the word is bound, no execution raises an error. -/
theorem going_safe (tested : ∀ (c : Context) (token : String), c.get? "w" = some (.str token) →
      ∀ e, condition.holds c ≠ .error e)
    (sender : Option Sender) (label : String) (args : List String) :
    ((going condition).run .execution sender label args).error = none := by
  obtain ⟨rs, ending, trail⟩ := Trail.exists_trail .execution (going condition).root
    ((going condition).begun .execution sender label args)
  have reads := going_reads rfl trail
  obtain ⟨run, rfl⟩ | ⟨fault, rfl⟩ | ⟨e, rfl⟩ | ⟨r, e, rfl⟩ := trail.execution_ending
  · have executor := (Takes.entered_iff.1 trail.last_turn).2.2.2
    rw [State.node_readAll] at executor
    obtain rfl | ⟨token, rest, rfl⟩ := reads
    · cases executor
    · cases executor
      rw [run_eq trail]
      rfl
  · exact error_of_halted rfl trail
  · have worded : ∀ n, (going condition).root.Within n → ∀ r ∈ n.requirements, r.IsWorded := by
      intro n h r hr
      obtain rfl | rfl := going_within h
      · cases hr
      · obtain rfl := List.mem_singleton.1 hr
        rfl
    have within := trail.within .root
    obtain raises | ⟨m, below, untold⟩ := trail.last_turn.raised (worded _ within)
    · rw [State.node_readAll, State.context_readAll] at raises
      obtain rfl | ⟨token, rest, rfl⟩ := reads
      · obtain ⟨r, hr, -⟩ | ⟨child, hc, breaks⟩ := raises
        · cases hr
        · obtain rfl := List.mem_singleton.1 hc
          exact absurd breaks (word_breaks_never rfl)
      · obtain ⟨r, hr, raised⟩ | ⟨child, hc, -⟩ := raises
        · obtain rfl := List.mem_singleton.1 hr
          rw [Condition.result_test] at raised
          exact absurd raised (tested _ token rfl e)
        · cases hc
    · exact absurd untold ((going_tellsUsages _ (within.trans below)).usage_ne_error e)
  · exact absurd trail.untold_of_lost
      ((going_tellsUsages _ (within_of_trail trail)).usage_ne_error e)

/-- A requirement that needs the value of its own node stops the completion of that value, though
no execution of the command raises an error. -/
theorem ordered_word_cannot_be_completed :
    (∀ sender label args,
      ((going (.below "w" (.str "m"))).run .execution sender label args).error = none) ∧
    ((going (.below "w" (.str "m"))).run .completion none "go" [""]).error =
      some (.unbound "w") := by
  constructor
  · refine going_safe fun c token bound e => ?_
    simp [Condition.holds, Context.item, bound, Value.less, bind, Except.bind]
  · have stops : (going (.below "w" (.str "m"))).Stops none "go" [""] [] "" :=
      .finish (Takes.offering_iff.2 ⟨Node.admits_of_nil rfl, rfl, rfl⟩)
    rw [(run_stopped stops).2]
    rfl

/-- A requirement that compares the value with another one can do without the value. -/
theorem compared_word_can_be_completed :
    (∀ args, ((going (.equal "w" (.str "home"))).run .execution none "go" args).error = none) ∧
      ∀ args, ((going (.equal "w" (.str "home"))).run .completion none "go" args).error = none := by
  have safe : ∀ args,
      ((going (.equal "w" (.str "home"))).run .execution none "go" args).error = none :=
    going_safe (by intro _ _ _ _ h; cases h) none "go"
  have blind : ∀ n, (going (.equal "w" (.str "home"))).root.Within n →
      ∀ r ∈ n.requirements, r.IgnoresStage := by
    intro n h r hr
    obtain rfl | rfl := going_within h
    · cases hr
    · obtain rfl := List.mem_singleton.1 hr
      exact Condition.ignoresStage_test _ _ _ (by simp)
  refine ⟨safe, (completion_is_safe_iff _ none "go" rfl going_builtIn blind safe).2 ?_⟩
  intro args rs typed stops child hc
  obtain h | h := going_within (.child (within_of_trail stops) hc) <;> subst h
  · refine ⟨fun e he => ?_, fun _ => rfl⟩
    cases he
  · refine ⟨fun e he => ?_, fun _ => rfl⟩
    obtain ⟨r, hr, raised⟩ := Requirement.firstUnmet_error he
    obtain rfl := List.mem_singleton.1 hr
    rw [Condition.result_test] at raised
    cases raised

end Going

end Command

end CommandTree
