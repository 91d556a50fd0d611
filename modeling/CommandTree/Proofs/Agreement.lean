import CommandTree.Condition
import CommandTree.Proofs.Conclusion

/-!
# Completion follows execution

Both walks take the same turns as long as more than one token is left, provided that requirements do
not ask what the call is for. A completion that halts names the fault on which an execution of the
same call halts; one that does not halt stops at a node through which the execution passes.
-/

namespace CommandTree

/-- Whether the requirement is met depends on the sender, the label, the arguments and what is bound
by then, not on what the call is for. -/
def Requirement.IgnoresStage (r : Requirement) : Prop :=
  ∀ c d : Context, c.Agrees d → (r.test c).result = (r.test d).result

/-- Of the conditions that are written down, only one asks what the call is for. -/
theorem Condition.holds_of_agrees {condition : Condition} {c d : Context}
    (h : ∀ expected, condition ≠ .completing expected) (agrees : c.Agrees d) :
    condition.holds c = condition.holds d := by
  cases condition with
  | completing expected => exact absurd rfl (h expected)
  | _ => simp only [holds, Context.item, Context.get?, agrees.arguments, agrees.label, agrees.args]

theorem Condition.result_test (condition : Condition) (id : Option Value) (c : Context) :
    (condition.test id c).result = condition.holds c := by
  unfold test
  split
  · exact Eq.symm ‹_›
  · rfl

theorem Condition.ignoresStage_test {condition : Condition} (message : Value)
    (name : Option String) (id : Option Value) (h : ∀ expected, condition ≠ .completing expected) :
    Requirement.IgnoresStage ⟨message, name, condition.test id⟩ := by
  intro c d agrees
  rw [result_test, result_test]
  exact holds_of_agrees h agrees

/-- The same fault, up to the hint. -/
structure Fault.AlikeButHint (f g : Fault) : Prop where
  kind : g.kind = f.kind
  message : g.message = f.message
  options : ∀ name, name ≠ "hint" → g.option? name = f.option? name

theorem Fault.AlikeButHint.refl (f : Fault) : AlikeButHint f f := ⟨rfl, rfl, fun _ _ => rfl⟩

/-- One more option given at the end decides that option and no other one. -/
theorem Fault.option?_make_append (kind : FaultKind) (message : Option String)
    (given : Bindings Value) (name other : String) (value : Value) (h : other ≠ name) :
    (make kind message (given ++ [(name, value)])).option? other =
      (make kind message given).option? other := by
  have overlaid : (defaults kind).overlay (given ++ [(name, value)]) =
      ((defaults kind).overlay given).set name value := List.foldl_append
  simp only [option?, make, overlaid, Bindings.get?_set]
  exact if_neg (Ne.symm h)

namespace Walk

theorem exhaustedFault_alike (root : Node) (place : Position) (message token : String)
    (shown : Value) :
    (exhaustedFault root place message token []).AlikeButHint
      (exhaustedFault root place message token [("hint", shown)]) := by
  refine ⟨rfl, rfl, ?_⟩
  intro name hn
  exact Fault.option?_make_append _ _ _ _ _ _ hn

/-- A hint can be given where all usages can be told. -/
theorem hint_of_told {n : Node} (told : n.TellsUsages) (path : List String) :
    ∃ shown, hint path n = .ok shown := by
  rw [hint, told.usages_eq]
  cases n.executables with
  | nil => exact ⟨_, rfl⟩
  | cons way others => exact ⟨_, rfl⟩

/-- Two walks at the same place, for calls that agree. -/
structure Parallel (s t : State) : Prop where
  place : s.place = t.place
  agrees : s.context.Agrees t.context

variable {root : Node} {s t : State}

theorem Parallel.read (h : Parallel s t) (r : Reading) : Parallel (s.read r) (t.read r) := by
  obtain ⟨place, path, context⟩ := s
  obtain ⟨place', path', context'⟩ := t
  obtain ⟨rfl, agrees⟩ := h
  have bound := agrees.bind r.child.name r.value
  refine ⟨?_, bound⟩
  simp only [State.read, advance, bound.tokens]

theorem Parallel.gates (h : Parallel s t)
    (blind : ∀ r ∈ s.place.node.requirements, r.IgnoresStage) :
    (Requirement.firstUnmet s.context s.place.node.requirements).result =
      (Requirement.firstUnmet t.context t.place.node.requirements).result := by
  rw [h.place] at blind ⊢
  exact Requirement.firstUnmet_congr fun r hr => blind r hr _ _ h.agrees

theorem Parallel.admits (h : Parallel s t)
    (blind : ∀ r ∈ s.place.node.requirements, r.IgnoresStage)
    (admits : s.place.node.Admits s.context) : t.place.node.Admits t.context := by
  rw [Node.Admits, ← Requirement.firstUnmet_none_iff, ← h.gates blind]
  exact Requirement.firstUnmet_none_iff.2 admits

/-- Where a completion goes on, an execution goes on in the same child. -/
theorem Parallel.onward (h : Parallel s t)
    (blind : ∀ r ∈ s.place.node.requirements, r.IgnoresStage) (told : s.place.node.HasUsage)
    {r : Reading} (takes : Takes .completion root s (.onward r)) :
    Takes .execution root t (.onward r) := by
  rw [Takes.onward_iff] at takes ⊢
  obtain ⟨admits, enough, first, -⟩ := takes
  rw [h.place] at enough first told
  exact ⟨h.admits blind admits, Nat.zero_lt_of_lt enough, first, fun _ => told⟩

/-- Where a completion halts, an execution halts on the same fault, to which it adds a hint. -/
theorem Parallel.halted (h : Parallel s t)
    (blind : ∀ r ∈ s.place.node.requirements, r.IgnoresStage) (told : s.place.node.TellsUsages)
    {fault : Fault} (takes : Takes .completion root s (.finish (.halted fault))) :
    ∃ fault', Takes .execution root t (.finish (.halted fault')) ∧ fault.AlikeButHint fault' := by
  cases takes with
  | unmet hg hf =>
    rw [h.gates blind] at hg
    rw [h.place] at hf
    exact ⟨fault, .unmet hg hf, .refl fault⟩
  | incomplete _ hm => cases hm
  | exhausted admits enough ht hc hh =>
    cases hh
    rw [h.place] at enough ht hc told ⊢
    obtain ⟨shown, given⟩ := hint_of_told told t.path
    have hints : t.hints .execution = .ok [("hint", shown)] := by rw [State.hints, given]; rfl
    exact ⟨_, .exhausted (h.admits blind admits) (Nat.zero_lt_of_lt enough) ht hc hints,
      exhaustedFault_alike ..⟩

theorem Parallel.readAll (h : Parallel s t) (rs : List Reading) :
    Parallel (s.readAll rs) (t.readAll rs) := by
  induction rs generalizing s t with
  | nil => exact h
  | cons r rs ih => exact ih (h.read r)

/-- What a completion reads an execution reads too, whatever comes after. -/
theorem Trail.replay {rs more : List Reading} {ending ending' : Ending}
    (blind : ∀ n, root.Within n → ∀ r ∈ n.requirements, r.IgnoresStage) (told : root.TellsUsages)
    (trail : Trail .completion root s rs ending) (h : Parallel s t)
    (inside : root.Within s.place.node)
    (later : Trail .execution root (t.readAll rs) more ending') :
    Trail .execution root t (rs ++ more) ending' := by
  induction trail generalizing t with
  | finish _ => exact later
  | onward takes _ ih =>
    exact .onward (h.onward (blind _ inside) (told _ inside) takes)
      (ih (h.read _) (.child inside takes.mem_of_onward) later)

theorem Trail.halted_execution {rs : List Reading} {fault : Fault}
    (blind : ∀ n, root.Within n → ∀ r ∈ n.requirements, r.IgnoresStage) (told : root.TellsUsages)
    (trail : Trail .completion root s rs (.halted fault)) (h : Parallel s t)
    (inside : root.Within s.place.node) :
    ∃ fault', Trail .execution root t rs (.halted fault') ∧ fault.AlikeButHint fault' := by
  have within := trail.within inside
  obtain ⟨fault', takes, alike⟩ :=
    (h.readAll rs).halted (blind _ within) (told.of_within within) trail.last_turn
  have replayed := trail.replay blind told h inside (.finish takes)
  rw [List.append_nil] at replayed
  exact ⟨fault', replayed, alike⟩

end Walk

namespace Command

open Walk

variable {c : Command} {sender : Option Sender} {label : String} {args : List String}
  {rs : List Reading}

theorem parallel_begun :
    Parallel (c.begun .completion sender label args) (c.begun .execution sender label args) :=
  ⟨rfl, ⟨rfl, rfl, rfl, rfl⟩⟩

/-- A fault in the context of a completion is the one on which the walk halted. -/
theorem halted_of_fault {ending : Ending} {fault : Fault} (alone : LeavesAlone c.failure)
    (trail : Trail .completion c.root (c.begun .completion sender label args) rs ending)
    (h : (c.run .completion sender label args).context.fault = some fault) :
    ending = .halted fault := by
  obtain ⟨rfl, -⟩ | ⟨token, rfl, -⟩ | ⟨fault', rfl⟩ | ⟨e, rfl⟩ := trail.completion_ending
  · rw [run_idle trail] at h
    cases h
  · rw [← (run_offering trail).fault] at h
    cases h
  · rw [run_halted trail alone] at h
    cases h
    rfl
  · rw [(run_raised trail).1] at h
    cases h

/-- A completion that neither halts nor raises stops at the token being typed, or where there is
none. -/
theorem stopped_of_success {ending : Ending} (alone : LeavesAlone c.failure)
    (trail : Trail .completion c.root (c.begun .completion sender label args) rs ending)
    (noFault : (c.run .completion sender label args).context.fault = none)
    (noError : (c.run .completion sender label args).error = none) :
    (leftBy args rs).length ≤ 1 ∧
      (∀ token ∈ leftBy args rs,
        (c.run .completion sender label args).context.typed = .str token) ∧
      (c.run .completion sender label args).context.arguments =
        (reached .completion sender label args rs).arguments := by
  obtain ⟨rfl, ended⟩ | ⟨token, rfl, ended⟩ | ⟨fault, rfl⟩ | ⟨e, rfl⟩ := trail.completion_ending
  · replace ended : leftBy args rs = [] := ended
    rw [run_idle trail, ended]
    exact ⟨by decide, fun token h => absurd h List.not_mem_nil, rfl⟩
  · replace ended : leftBy args rs = [token] := ended
    have offered := run_offering trail
    rw [ended]
    refine ⟨by simp, ?_, offered.agrees.arguments.symm⟩
    intro token' h
    rw [List.mem_singleton.1 h, ← offered.typed]
    rfl
  · rw [run_halted trail alone] at noFault
    cases noFault
  · rw [(run_raised trail).2] at noError
    cases noError

/-- **Completion walks the same way as execution.** A completion that ends on a fault names the
fault of the execution, up to the hint, with the same arguments bound. One that ends without a fault
stops at the token being typed, or at none; the execution passes through the node where it stopped,
with the same tokens left and the same arguments bound. -/
theorem completion_walks_like_execution (c : Command) (sender : Option Sender) (label : String)
    (args : List String) (blind : ∀ n, c.root.Within n → ∀ r ∈ n.requirements, r.IgnoresStage)
    (told : c.root.TellsUsages) (alone : LeavesAlone c.failure) :
    let completed := c.run .completion sender label args
    let executed := c.run .execution sender label args
    (∀ fault, completed.context.fault = some fault →
      ∃ fault', executed.context.fault = some fault' ∧ fault.AlikeButHint fault' ∧
        executed.context.arguments = completed.context.arguments) ∧
    (completed.context.fault = none → completed.error = none →
      ∃ rs more ending ending',
        Trail .completion c.root (c.begun .completion sender label args) rs ending ∧
        Trail .execution c.root (c.begun .execution sender label args) (rs ++ more) ending' ∧
        Parallel ((c.begun .completion sender label args).readAll rs)
          ((c.begun .execution sender label args).readAll rs) ∧
        (leftBy args rs).length ≤ 1 ∧
        (∀ token ∈ leftBy args rs, completed.context.typed = .str token) ∧
        completed.context.arguments =
          (reached .execution sender label args rs).arguments) := by
  intro completed executed
  obtain ⟨rs, ending, trail⟩ :=
    Trail.exists_trail .completion c.root (c.begun .completion sender label args)
  constructor
  · intro fault h
    obtain rfl := halted_of_fault alone trail h
    obtain ⟨fault', trail', alike⟩ := trail.halted_execution blind told parallel_begun .root
    refine ⟨fault', ?_, alike, ?_⟩
    · exact congrArg Context.fault (run_halted trail' alone)
    · exact (congrArg Context.arguments (run_halted trail' alone)).trans
        (congrArg Context.arguments (run_halted trail alone)).symm
  · intro noFault noError
    obtain ⟨more, ending', later⟩ := Trail.exists_trail .execution c.root
      ((c.begun .execution sender label args).readAll rs)
    exact ⟨rs, more, ending, ending', trail,
      trail.replay blind told parallel_begun .root later, parallel_begun.readAll rs,
      stopped_of_success alone trail noFault noError⟩

/-- A command that reads two words, of which the first one has to be a password. -/
def locked : Command :=
  ⟨0, "enter", .mk 0 "enter" .word [] none
    [.mk 1 "key" .word
      [⟨.str "locked", none, (Condition.equal "key" (.str "sesame")).test none⟩] none
      [.mk 2 "room" .word [] (some .done) []]], none⟩

theorem locked_ignores_stage :
    ∀ n, locked.root.Within n → ∀ r ∈ n.requirements, r.IgnoresStage := by
  intro n h r hr
  obtain rfl | ⟨key, hkey, h⟩ := Node.within_iff.1 h
  · cases hr
  obtain rfl := List.mem_singleton.1 hkey
  obtain rfl | ⟨room, hroom, h⟩ := Node.within_iff.1 h
  · obtain rfl := List.mem_singleton.1 hr
    exact Condition.ignoresStage_test _ _ _ (by simp)
  obtain rfl := List.mem_singleton.1 hroom
  obtain rfl | ⟨none, hnone, -⟩ := Node.within_iff.1 h
  · cases hr
  · cases hnone

theorem locked_tells_usages : locked.root.TellsUsages := by
  intro n h
  obtain rfl | ⟨key, hkey, h⟩ := Node.within_iff.1 h
  · exact ⟨_, rfl⟩
  obtain rfl := List.mem_singleton.1 hkey
  obtain rfl | ⟨room, hroom, h⟩ := Node.within_iff.1 h
  · exact ⟨_, rfl⟩
  obtain rfl := List.mem_singleton.1 hroom
  obtain rfl | ⟨none, hnone, -⟩ := Node.within_iff.1 h
  · exact ⟨_, rfl⟩
  · cases hnone

/-- Without the password, both walks halt on the same fault. -/
theorem locked_completion_walks_like_execution :
    (∀ n, locked.root.Within n → ∀ r ∈ n.requirements, r.IgnoresStage) ∧
      locked.root.TellsUsages ∧ LeavesAlone locked.failure ∧
      ∃ fault fault',
        (locked.run .completion none "enter" ["wrong", "x", ""]).context.fault = some fault ∧
        (locked.run .execution none "enter" ["wrong", "x", ""]).context.fault = some fault' ∧
        fault.AlikeButHint fault' := by
  have walks := completion_walks_like_execution locked none "enter" ["wrong", "x", ""]
    locked_ignores_stage locked_tells_usages leavesAlone_none
  have halts : (locked.run .completion none "enter" ["wrong", "x", ""]).context.fault.isSome := by
    decide +kernel
  obtain ⟨fault, h⟩ := Option.isSome_iff_exists.1 halts
  obtain ⟨fault', h', alike, -⟩ := walks.1 fault h
  exact ⟨locked_ignores_stage, locked_tells_usages, leavesAlone_none, fault, fault', h, h', alike⟩

end Command

end CommandTree
