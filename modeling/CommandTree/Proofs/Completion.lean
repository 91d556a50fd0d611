import CommandTree.Proofs.Offering
import CommandTree.Proofs.Reporting
import CommandTree.Proofs.Retyping
import CommandTree.Proofs.Route

/-!
# What is suggested and what is accepted

A completion stops at the token being typed and asks the children of that node. An execution of the
same call, with a suggestion in place of that token, comes to the same node, and a child of it reads
the suggestion (`suggestions_are_accepted`). The other way round, what an execution has read last is
suggested for all that the token starts with (`accepted_words_are_suggested`).
-/

namespace CommandTree

/-- Whether the requirement is met does not depend on what the name is bound to. -/
def Requirement.Ignores (r : Requirement) (name : String) : Prop :=
  ∀ (c : Context) (value : Value), (r.test (c.bind name value)).result = (r.test c).result

theorem Context.akin_setTyped (c : Context) (typed : Value) : c.Akin (c.setTyped typed) := by
  obtain ⟨sender, label, args, arguments, fault, stage⟩ := c
  cases stage <;> exact ⟨rfl, rfl, rfl, rfl⟩

namespace Node

variable {n : Node} {c d : Context}

/-- No requirement of the node asks for the value of the node. -/
def IgnoresItself (n : Node) : Prop := ∀ r ∈ n.requirements, r.Ignores n.name

/-- No requirement of the node raises an error, nor does the check of its type on what it offers. -/
def AnswersCalmly (n : Node) (c : Context) : Prop :=
  (∀ r ∈ n.requirements, ∀ e, (r.test c).result ≠ .error e) ∧ n.type.OffersCalmly

theorem IgnoresItself.admits_bind (own : n.IgnoresItself) (value : Value) :
    n.Admits (c.bind n.name value) ↔ n.Admits c :=
  forall₂_congr fun r hr => by rw [own r hr c value]

theorem isSteady_of_builtIn (builtIn : n.type.IsBuiltIn)
    (blind : ∀ r ∈ n.requirements, r.IgnoresStage) : n.IsSteady := fun c d h =>
  ⟨Requirement.firstUnmet_congr fun r hr => blind r hr c d h.agrees,
    TokenType.offer_congr builtIn h.typed⟩

theorem AnswersCalmly.offersCalmly (calm : n.AnswersCalmly c) (h : c.Akin d)
    (blind : ∀ r ∈ n.requirements, r.IgnoresSpelling) (builtIn : n.type.IsBuiltIn)
    {typed : String} (ht : d.typed = .str typed) : n.OffersCalmly d := by
  obtain ⟨tested, offers⟩ := calm
  refine ⟨fun e he => ?_, fun _ => (TokenType.offer_error_iff builtIn ht).2 offers⟩
  obtain ⟨r, hr, raised⟩ := Requirement.firstUnmet_error he
  rw [← blind r hr c d h] at raised
  exact tested r hr e raised

theorem steady_children {root : Node} (single : root.IsSingleTree) (blind : root.IgnoresSpelling)
    (inside : root.Within n) : ∀ child ∈ n.children, child.IsSteady := by
  intro child hc
  have within := Node.Within.child inside hc
  exact isSteady_of_builtIn (single child within).isBuiltIn fun r hr =>
    (blind child within r hr).ignoresStage

/-- What a child offers without an error it reads, if its type takes a single token. -/
theorem reads_of_offered {typed s : String} (single : n.type.IsSingle) (ht : c.typed = .str typed)
    (calm : n.OffersCalmly c) (offered : s ∈ n.offered c) :
    ∃ value, n.type.parse [s] = .accept value [] := by
  obtain ⟨admits, mem⟩ := mem_offered.1 offered
  exact TokenType.parse_of_offered single.isBuiltIn ht (calm.2 admits) mem

end Node

/-- A child is chosen where no error is raised and one of the children reads the tokens. -/
theorem exists_firstToRead {children : List Node} {tokens : List String} {child : Node}
    {value : Value} {rest : List String} (mem : child ∈ children)
    (reads : child.type.parse tokens = .accept value rest)
    (unbroken : ∀ e, choose tokens "" children ≠ .error e) :
    ∃ r, FirstToRead children tokens r := by
  cases h : choose tokens "" children with
  | error e => exact absurd h (unbroken e)
  | ok choice =>
    cases choice with
    | ok r => exact ⟨r, choose_reading_iff.1 h⟩
    | error message =>
      obtain ⟨message, refused⟩ := choose_refused h child mem
      rw [reads] at refused
      cases refused

namespace Walk

variable {mode : Mode} {root : Node} {s : State} {rs more : List Reading} {ending : Ending}

theorem Trail.within_prefix (trail : Trail mode root s (rs ++ more) ending)
    (inside : root.Within s.place.node) : root.Within (s.place.node.after rs) := by
  induction rs generalizing s with
  | nil => exact inside
  | cons r rs ih =>
    obtain ⟨takes, later⟩ := Trail.cons_iff.1 trail
    exact ih later (.child inside takes.mem_of_onward)

theorem requirementFault_kind {place : Position} {message : Value} {fault : Fault}
    (h : requirementFault root place message = .ok fault) : fault.kind = .requirementFailure := by
  obtain ⟨text, rfl⟩ := requirementFault_ok h
  rfl

/-- An execution that has no token left runs the executor, lacks a token, or does not get past the
requirements. -/
theorem Trail.spent (trail : Trail .execution root s rs ending) (spent : s.place.tokens = [])
    (told : s.place.node.TellsUsages) :
    rs = [] ∧ ((∃ run, ending = .entered run) ∨
      (∃ fault, ending = .halted fault ∧ fault.kind = .incompleteCommand) ∨
      (¬ s.place.node.Admits s.context ∧
        ∀ fault, ending = .halted fault → fault.kind = .requirementFailure)) := by
  cases trail with
  | onward takes =>
    have left := (Takes.onward_iff.1 takes).2.1
    simp [spent, Mode.reserve] at left
  | finish takes =>
    refine ⟨rfl, ?_⟩
    have closed {unmet : Except Error (Option Requirement)} (other : unmet ≠ .ok none)
        (h : (Requirement.firstUnmet s.context s.place.node.requirements).result = unmet) :
        ¬ s.place.node.Admits s.context := by
      rw [Node.Admits, ← Requirement.firstUnmet_none_iff, h]
      exact other
    cases takes with
    | entered => exact Or.inl ⟨_, rfl⟩
    | incomplete => exact Or.inr (Or.inl ⟨_, rfl, rfl⟩)
    | untested h | unworded h =>
      exact Or.inr (Or.inr ⟨closed (by simp) h, fun fault hf => by cases hf⟩)
    | unmet h declared =>
      refine Or.inr (Or.inr ⟨closed (by simp) h, ?_⟩)
      rintro fault ⟨⟩
      exact requirementFault_kind declared
    | unhinted _ _ _ _ untold =>
      obtain ⟨shown, hinted⟩ := hint_of_told told s.path
      rw [hinted] at untold
      cases untold
    | idle _ hm | offering _ hm => cases hm
    | lost _ _ left | exhausted _ left | exhaustedUnhinted _ left | broken _ left =>
      simp [spent, Mode.reserve] at left

end Walk

namespace Command

open Walk

/-- A completion stops at a token being typed. -/
def Stops (c : Command) (sender : Option Sender) (label : String) (args : List String)
    (rs : List Reading) (typed : String) : Prop :=
  Trail .completion c.root (c.begun .completion sender label args) rs (.offering typed)

/-- The context in which children are asked what they offer. -/
def asked (sender : Option Sender) (label : String) (args : List String) (rs : List Reading)
    (typed : String) : Context :=
  (reached .completion sender label args rs).setTyped (.str typed)

variable {mode mode' : Mode} {c : Command} {sender : Option Sender} {label : String}
  {args : List String} {rs more : List Reading} {typed other s : String} {texts : List String}

theorem onTabComplete_ok_iff :
    (c.onTabComplete sender (.str label) (.list (Value.strings args))).result = .ok texts ↔
      (c.run .completion sender label args).error = none ∧
        (c.run .completion sender label args).context.suggestions = texts := by
  have given : (Value.strings args).mapM Value.str? = some args := by
    induction args with
    | nil => rfl
    | cons arg args ih =>
      simp only [Value.strings] at ih
      simp [Value.strings, List.mapM_cons, ih, Value.str?]
  have called : c.onTabComplete sender (.str label) (.list (Value.strings args)) =
      answer (.ok (c.run .completion sender label args)) Context.suggestions := by
    simp only [onTabComplete, call, Value.elements?, Context.declare, Context.strings?,
      Option.bind_some, given]
    rfl
  rw [called, answer]
  cases (c.run .completion sender label args).error <;> simp

theorem run_stopped (stops : c.Stops sender label args rs typed) :
    (c.run .completion sender label args).context =
        (contributeAll (c.root.after rs).children (asked sender label args rs typed)).context ∧
      (c.run .completion sender label args).error =
        (contributeAll (c.root.after rs).children (asked sender label args rs typed)).error := by
  rw [run_eq stops]
  simp only [conclude, complete, Run.after, Run.andThen, asked]
  split
  · exact ⟨rfl, rfl⟩
  · next calm => exact ⟨rfl, calm.symm⟩

theorem Stops.leftBy_eq (stops : c.Stops sender label args rs typed) :
    leftBy args rs = [typed] := by
  obtain ⟨-, -, tokens⟩ := Takes.offering_iff.1 stops.last_turn
  rw [State.tokens_readAll] at tokens
  exact tokens

theorem suggestions_asked : (asked sender label args rs typed).suggestions = [] := rfl

/-- A completion that suggests anything stops at a token, unless it is the handler that does. -/
theorem stops_of_suggested {failure : Option Handler} (quiet : SuggestsNothing failure)
    (h : s ∈ (c.under .completion sender label args failure).context.suggestions) :
    ∃ rs typed, c.Stops sender label args rs typed := by
  obtain ⟨rs, ending, trail⟩ :=
    Trail.exists_trail .completion c.root (c.begun .completion sender label args)
  obtain ⟨rfl, -⟩ | ⟨token, rfl, -⟩ | ⟨fault, rfl⟩ | ⟨e, rfl⟩ := trail.completion_ending
  · rw [under_eq trail] at h
    cases h
  · exact ⟨rs, token, trail⟩
  · rw [under_eq trail, Run.after, conclude, halt_suggestions quiet] at h
    cases h
  · rw [under_eq trail] at h
    cases h

theorem mem_suggestions (stops : c.Stops sender label args rs typed)
    (steady : ∀ child ∈ (c.root.after rs).children, child.IsSteady)
    (calm : ∀ child ∈ (c.root.after rs).children,
      child.OffersCalmly (asked sender label args rs typed)) :
    s ∈ (c.run .completion sender label args).context.suggestions ↔
      ∃ child ∈ (c.root.after rs).children,
        s ∈ child.offered (asked sender label args rs typed) := by
  rw [(run_stopped stops).1, (contributeAll_of_calm steady calm).1, Context.mem_suggestAll rfl,
    List.mem_flatMap, suggestions_asked]
  simp

theorem twins_begun :
    Twins typed other args (c.begun mode sender label (args ++ [typed]))
      (c.begun mode' sender label (args ++ [other])) :=
  ⟨rfl, ⟨rfl, rfl, by simp [begun, State.atRoot, Context.make], rfl⟩, rfl, rfl⟩

/-- A call fails with a fault only where it halts on it. -/
theorem Failed.ending {fault : Fault} {ending : Ending}
    (failed : c.Failed mode sender label args fault)
    (trail : Trail mode c.root (c.begun mode sender label args) rs ending) :
    ending = .halted fault :=
  ending_of_stored failed.unentered failed.stored trail

/-- The node whose executor is entered admits the context in which its value is bound last. -/
theorem Enters.admits_last {r : Reading} {run : Executor}
    (entered : c.Enters .execution sender label args (rs ++ [r]) run) :
    r.child.Admits ((reached .execution sender label args rs).bind r.child.name r.value) := by
  obtain ⟨admits, -⟩ := Takes.entered_iff.1 entered.last_turn
  have last : (c.begun .execution sender label args).readAll (rs ++ [r]) =
      ((c.begun .execution sender label args).readAll rs).read r := List.foldl_append
  rw [last, State.context_read, State.context_readAll] at admits
  exact admits

/-- A completion that stops at a token stops at the last one. A call with another last token comes
to the same node, with the same bound so far. -/
theorem Stops.retyped {token : String} (phraseless : c.root.IsPhraseless)
    (blind : c.root.IgnoresSpelling) (stops : c.Stops sender label (args ++ [typed]) rs token)
    (mode : Mode) (other : String) :
    token = typed ∧
      Twins typed other [] ((c.begun .completion sender label (args ++ [typed])).readAll rs)
        ((c.begun mode sender label (args ++ [other])).readAll (rs.map (.retyped other))) ∧
      ∀ more ending, Trail mode c.root
          ((c.begun mode sender label (args ++ [other])).readAll (rs.map (.retyped other)))
          more ending →
        Trail mode c.root (c.begun mode sender label (args ++ [other]))
          (rs.map (.retyped other) ++ more) ending := by
  have token_left := stops.leftBy_eq
  have stays : leftBy (args ++ [typed]) rs ≠ [] := by simp [token_left]
  have begun : Twins typed other args (c.begun .completion sender label (args ++ [typed]))
    (c.begun mode sender label (args ++ [other])) := twins_begun
  rw [Stops, ← List.append_nil rs] at stops
  obtain ⟨left, twins, replay⟩ := begun.follow phraseless blind .root stays stops
  have tokens := twins.tokens
  rw [State.tokens_readAll] at tokens
  obtain ⟨rfl, rfl⟩ : [] = left ∧ token = typed :=
    List.append_singleton_inj.1 (token_left.symm.trans tokens)
  exact ⟨rfl, twins, replay mode⟩

section Retyped

variable (single : c.root.IsSingleTree) (blind : c.root.IgnoresSpelling)
include single blind

/-- A completion stops at the last token. -/
theorem Stops.token_eq {token : String}
    (stops : c.Stops sender label (args ++ [typed]) rs token) : token = typed :=
  (stops.retyped single.isPhraseless blind .completion typed).1

/-- With a suggestion in place of the token being typed, an execution goes on to the first child
that reads it, and ends there. It is let in unless the child asks for its own value, or was not
asked for suggestions either. -/
theorem Stops.accepts {r : Reading} (stops : c.Stops sender label (args ++ [typed]) rs typed)
    (first : FirstToRead (c.root.after rs).children [s] r) :
    ∃ ending, Trail .execution c.root (c.begun .execution sender label (args ++ [s]))
        (rs.map (.retyped s) ++ [r]) ending ∧
      ((∃ run, ending = .entered run) ∨
        (∃ fault, ending = .halted fault ∧ fault.kind = .incompleteCommand) ∨
        ((r.child.Admits (asked sender label (args ++ [typed]) rs typed) →
            ¬ r.child.IgnoresItself) ∧
          ∀ fault, ending = .halted fault → fault.kind = .requirementFailure)) := by
  obtain ⟨-, twins, replay⟩ := stops.retyped single.isPhraseless blind .execution s
  have inside := within_of_trail stops
  have told := single.tellsUsages
  have takes : Takes .execution c.root
      ((c.begun .execution sender label (args ++ [s])).readAll (rs.map (.retyped s)))
      (.onward r) := by
    obtain ⟨admits, -⟩ := Takes.offering_iff.1 stops.last_turn
    refine Takes.onward_iff.2 ⟨?_, ?_, ?_, ?_⟩
    · rw [← twins.node]
      exact admits.of_akin (blind _ (stops.within .root)) twins.akin
    · rw [twins.otherTokens]
      exact Nat.one_pos
    · rw [← twins.node, twins.otherTokens, State.node_readAll]
      exact first
    · rw [← twins.node, State.node_readAll]
      exact fun _ => told _ inside
  obtain ⟨more, ending, later⟩ := Trail.exists_trail .execution c.root
    (((c.begun .execution sender label (args ++ [s])).readAll (rs.map (.retyped s))).read r)
  obtain ⟨rfl, ends⟩ := later.spent (first.parse_eq (single.children inside)).2
    (told.of_within (.child inside first.mem))
  refine ⟨ending, replay _ _ (.onward takes later), ?_⟩
  refine ends.imp_right (Or.imp_right (And.imp_left fun closed admits own => ?_))
  have akin := twins.akin
  rw [State.context_readAll] at akin
  have reachedAdmits := admits.of_akin (blind _ (.child inside first.mem))
    ((Context.akin_setTyped _ _).symm.trans akin)
  exact closed ((own.admits_bind r.value).2 reachedAdmits)

/-- A completion of another token in place of the last one stops where an execution read that. -/
theorem Enters.stops {token : String} {r : Reading} {run : Executor}
    (entered : c.Enters .execution sender label (args ++ [token]) (rs ++ [r]) run)
    (typed : String) :
    c.Stops sender label (args ++ [typed]) (rs.map (.retyped typed)) typed ∧
      (reached .execution sender label (args ++ [token]) rs).Akin
        (asked sender label (args ++ [typed]) (rs.map (.retyped typed)) typed) ∧
      FirstToRead (c.root.after rs).children [token] r := by
  obtain ⟨route, -⟩ := trail_entered_iff.1 entered
  have inside : c.root.Within (c.root.after rs) := entered.within_prefix .root
  obtain ⟨stays, first⟩ : leftBy (args ++ [token]) rs ≠ [] ∧
    FirstToRead (c.root.after rs).children (leftBy (args ++ [token]) rs) r :=
      route.chosen rs r (List.prefix_refl _)
  have begun : Twins token typed args (c.begun .execution sender label (args ++ [token]))
    (c.begun .completion sender label (args ++ [typed])) := twins_begun
  obtain ⟨left, twins, replay⟩ := begun.follow single.isPhraseless blind .root stays entered
  have tokens : leftBy (args ++ [token]) rs = left ++ [token] :=
    (State.tokens_readAll ..).symm.trans twins.tokens
  rw [tokens] at first
  -- The last child takes a single token, and none is left after it.
  obtain rfl : left = [] := by
    cases left with
    | nil => rfl
    | cons next left =>
      have rest := (first.parse_eq (single.children inside)).2
      have ended := route.ended
      rw [leftBy_concat, rest] at ended
      exact absurd ended (List.concat_ne_nil token left)
  have takes : Takes .completion c.root
      ((c.begun .completion sender label (args ++ [typed])).readAll (rs.map (.retyped typed)))
      (.finish (.offering typed)) := by
    have admits := route.admitted rs (List.prefix_append ..)
    refine Takes.offering_iff.2 ⟨?_, rfl, twins.otherTokens⟩
    rw [← twins.node, State.node_readAll]
    refine admits.of_akin (blind _ inside) ?_
    rw [← State.context_readAll]
    exact twins.akin
  have trail := replay _ _ _ (.finish takes)
  rw [List.append_nil] at trail
  have akin := twins.akin
  rw [State.context_readAll, State.context_readAll] at akin
  exact ⟨trail, akin.trans (Context.akin_setTyped _ _), first⟩

end Retyped

/-- **Suggestions are accepted.** Where every type takes a single token and no requirement asks how
the arguments are spelled, an execution with a suggestion in place of the token being typed comes to
the node at which the completion stopped, with the same arguments bound, and goes on to the first
child that reads the suggestion. So it does not fail for want of such a child. If that child is one
that made the suggestion, and does not ask for its own value, the execution runs an executor or
fails as incomplete. What a handler suggests, which is told why a completion halted, is not meant
here. -/
theorem suggestions_are_accepted (c : Command) (sender : Option Sender) (label : String)
    (args : List String) (typed s : String) (texts : List String)
    (single : c.root.IsSingleTree) (blind : c.root.IgnoresSpelling)
    (quiet : SuggestsNothing c.failure)
    (completed : (c.onTabComplete sender (.str label)
      (.list (Value.strings (args ++ [typed])))).result = .ok texts)
    (suggested : s ∈ texts)
    (unbroken : ∀ rs, c.Stops sender label (args ++ [typed]) rs typed →
      ∀ e, choose [s] "" (c.root.after rs).children ≠ .error e) :
    ∃ rs rs' r ending,
      c.Stops sender label (args ++ [typed]) rs typed ∧
      Trail .execution c.root (c.begun .execution sender label (args ++ [s])) (rs' ++ [r]) ending ∧
      c.root.after rs' = c.root.after rs ∧
      (reached .execution sender label (args ++ [s]) rs').arguments =
        (c.run .completion sender label (args ++ [typed])).context.arguments ∧
      FirstToRead (c.root.after rs).children [s] r ∧
      (∀ fault, c.Failed .execution sender label (args ++ [s]) fault →
        fault.kind ≠ .dispatchExhausted ∧ fault.kind ≠ .parseError) ∧
      (s ∈ r.child.offered (asked sender label (args ++ [typed]) rs typed) →
        r.child.IgnoresItself →
          (∃ run, c.Executed sender label (args ++ [s]) (rs' ++ [r]) run) ∨
            ∃ fault, c.Failed .execution sender label (args ++ [s]) fault ∧
              fault.kind = .incompleteCommand) := by
  obtain ⟨noError, rfl⟩ := onTabComplete_ok_iff.1 completed
  obtain ⟨rs, token, stops⟩ := stops_of_suggested quiet suggested
  obtain rfl := stops.token_eq single blind
  have inside := within_of_trail stops
  have steady := Node.steady_children single blind inside
  rw [(run_stopped stops).2, contributeAll_error_iff steady] at noError
  -- The child that made the suggestion reads it; the one that is chosen may be an earlier one.
  obtain ⟨child, mem, offered⟩ := (mem_suggestions stops steady noError).1 suggested
  obtain ⟨value, reads⟩ :=
    Node.reads_of_offered (single.children inside child mem) rfl (noError child mem) offered
  obtain ⟨r, first⟩ := exists_firstToRead mem reads (unbroken rs stops)
  obtain ⟨ending, trail, ends⟩ := stops.accepts single blind first
  refine ⟨rs, rs.map (.retyped s), r, ending, stops, trail, Node.after_retyped .., ?_, first,
    ?_, ?_⟩
  · rw [← (run_offering stops).agrees.arguments]
    simp only [reached, Context.bindAll, bindingsOf_retyped]
    rfl
  · intro fault failed
    obtain rfl := failed.ending trail
    obtain ⟨run, h⟩ | ⟨fault', h, kind⟩ | ⟨-, kind⟩ := ends
    · cases h
    · cases h
      simp [kind]
    · simp [kind fault rfl]
  · intro offered own
    obtain ⟨run, rfl⟩ | ⟨fault, rfl, kind⟩ | ⟨asksItself, -⟩ := ends
    · exact Or.inl ⟨run, executed_of_trail trail⟩
    · exact Or.inr ⟨fault, failed_of_trail trail, kind⟩
    · exact absurd own (asksItself (Node.mem_offered.1 offered).1)

/-- A command that reads a wall and one of two shades for it, in any case. -/
def painting : Command :=
  ⟨0, "paint", .mk 0 "paint" .word [] none [wall], none⟩
where
  wall : Node := .mk 1 "wall" .word [] none [shade]
  shade : Node := .mk 2 "shade" (.choice shades)
    [⟨.str "no wall", none, (Condition.isBound "wall").test none⟩] (some .done) []
  shades : Choice := ⟨["Red", "rose"], true, by decide +kernel, by decide +kernel⟩

theorem painting_within {n : Node} (h : painting.root.Within n) :
    n = painting.root ∨ n = painting.wall ∨ n = painting.shade := by
  obtain rfl | ⟨wall, hw, h⟩ := Node.within_iff.1 h
  · exact Or.inl rfl
  obtain rfl := List.mem_singleton.1 hw
  obtain rfl | ⟨shade, hs, h⟩ := Node.within_iff.1 h
  · exact Or.inr (Or.inl rfl)
  obtain rfl := List.mem_singleton.1 hs
  obtain rfl | ⟨none, hn, -⟩ := Node.within_iff.1 h
  · exact Or.inr (Or.inr rfl)
  · cases hn

theorem painting_single : painting.root.IsSingleTree := by
  intro n h
  obtain rfl | rfl | rfl := painting_within h <;> trivial

theorem painting_ignores_spelling : painting.root.IgnoresSpelling := by
  intro n h r hr
  obtain rfl | rfl | rfl := painting_within h
  · cases hr
  · cases hr
  · obtain rfl := List.mem_singleton.1 hr
    exact Condition.ignoresSpelling_test _ _ _ (by simp)

theorem painting_reads {token : String} (found : painting.shades.find? token = some "rose") :
    FirstToRead painting.wall.children [token] ⟨painting.shade, .str "rose", []⟩ := by
  have accepts : (TokenType.choice painting.shades).parse [token] = .accept (.str "rose") [] := by
    simp only [TokenType.parse, Choice.parse, found]
  exact ⟨[], [], rfl, fun _ hs => absurd hs List.not_mem_nil, congrArg Attempt.answer accepts,
    congrArg Attempt.rest accepts⟩

theorem painting_is_accepted :
    painting.root.IsSingleTree ∧ painting.root.IgnoresSpelling ∧
      ∃ rs r ending, Trail .execution painting.root
        (painting.begun .execution none "paint" ["north", "rose"]) (rs ++ [r]) ending := by
  have completed : (painting.onTabComplete none (.str "paint")
      (.list (Value.strings (["north"] ++ ["R"])))).result = .ok ["Red", "rose"] :=
    onTabComplete_ok_iff.2 ⟨Option.isNone_iff_eq_none.1 (by decide +kernel), by decide +kernel⟩
  have unbroken : ∀ rs, painting.Stops none "paint" (["north"] ++ ["R"]) rs "R" →
      ∀ e, choose ["rose"] "" (painting.root.after rs).children ≠ .error e := by
    intro rs stops e broken
    have reads : ∃ choice, choose ["rose"] "" (painting.root.after rs).children = .ok choice := by
      obtain h | h | h := painting_within (within_of_trail stops) <;> rw [h]
      · exact ⟨_, rfl⟩
      · exact ⟨_, choose_reading_iff.2 (painting_reads (by decide +kernel))⟩
      · exact ⟨_, rfl⟩
    obtain ⟨choice, reads⟩ := reads
    rw [reads] at broken
    cases broken
  obtain ⟨rs, rs', r, ending, -, trail, -⟩ := suggestions_are_accepted painting none "paint"
    ["north"] "R" "rose" ["Red", "rose"] painting_single painting_ignores_spelling
    leavesAlone_none.suggestsNothing completed (by simp) unbroken
  exact ⟨painting_single, painting_ignores_spelling, rs', r, ending, trail⟩

/-- **Accepted words are suggested.** Where every type takes a single token and no requirement asks
how the arguments are spelled, what an execution has read last is suggested, spelled as its type
spells it, for everything that the last token starts with; unless its own requirements ask for its
value, or one of its siblings raises an error. -/
theorem accepted_words_are_suggested (c : Command) (sender : Option Sender) (label : String)
    (args : List String) (token text : String) (rs : List Reading) (r : Reading) (run : Executor)
    (single : c.root.IsSingleTree) (blind : c.root.IgnoresSpelling)
    (entered : c.Enters .execution sender label (args ++ [token]) (rs ++ [r]) run)
    (spelled : TokenType.Spells token r.child.type r.value text) (own : r.child.IgnoresItself)
    (calm : ∀ sibling ∈ (c.root.after rs).children,
      sibling.AnswersCalmly (reached .execution sender label (args ++ [token]) rs)) :
    ∀ typed : String, typed.toList <+: token.toList → ∃ texts,
      (c.onTabComplete sender (.str label) (.list (Value.strings (args ++ [typed])))).result =
        .ok texts ∧ text ∈ texts := by
  intro typed start
  obtain ⟨stops, akin, first⟩ := entered.stops single blind typed
  -- The node is the same, though the readings differ: what they leave ends in the last token.
  have inside := within_of_trail stops
  rw [← c.root.after_retyped typed rs] at calm first
  have singleChildren := single.children inside
  have calmly : ∀ sibling ∈ (c.root.after (rs.map (.retyped typed))).children,
      sibling.OffersCalmly
        (asked sender label (args ++ [typed]) (rs.map (.retyped typed)) typed) :=
    fun sibling hs => (calm sibling hs).offersCalmly akin (blind sibling (.child inside hs))
      (singleChildren sibling hs).isBuiltIn rfl
  have admits := ((own.admits_bind r.value).1 entered.admits_last).of_akin
    (blind r.child (.child inside first.mem)) akin
  have offers := TokenType.offered_of_parse (first.parse_eq singleChildren).1 spelled start rfl
    ((calmly r.child first.mem).2 admits)
  have steady := Node.steady_children single blind inside
  have noError := (run_stopped stops).2.trans ((contributeAll_error_iff steady).2 calmly)
  exact ⟨_, onTabComplete_ok_iff.2 ⟨noError, rfl⟩, (mem_suggestions stops steady calmly).2
    ⟨r.child, first.mem, Node.mem_offered.2 ⟨admits, offers⟩⟩⟩

theorem painting_enters :
    painting.Enters .execution none "paint" (["north"] ++ ["ROSE"])
      ([⟨painting.wall, .str "north", ["ROSE"]⟩] ++ [⟨painting.shade, .str "rose", []⟩]) .done := by
  have north : FirstToRead painting.root.children ["north", "ROSE"]
      ⟨painting.wall, .str "north", ["ROSE"]⟩ := ⟨[], [], rfl, by simp, rfl, rfl⟩
  have rose := painting_reads (by decide +kernel : painting.shades.find? "ROSE" = some "rose")
  have told := painting_single.tellsUsages
  refine trail_entered_iff.2 ⟨route_cons.2 ⟨Node.admits_of_nil rfl, List.cons_ne_nil _ _, north,
    told _ .root, route_cons.2 ⟨Node.admits_of_nil rfl, List.cons_ne_nil _ _, rose,
      told _ (.child .root north.mem), route_nil.2 ⟨?_, rfl⟩⟩⟩, rfl⟩
  intro r hr
  obtain rfl := List.mem_singleton.1 hr
  rfl

/-- Typed in capitals up to the second letter, the rose is suggested as it was declared. -/
theorem painting_is_suggested :
    "RO".toList <+: "ROSE".toList ∧ ∃ texts, (painting.onTabComplete none (.str "paint")
        (.list (Value.strings ["north", "RO"]))).result = .ok texts ∧ "rose" ∈ texts := by
  have own : painting.shade.IgnoresItself := by
    intro r hr c value
    obtain rfl := List.mem_singleton.1 hr
    simp only [Condition.result_test, Condition.holds, Context.get?, Context.bind,
      Bindings.get?_set]
    rfl
  have calm : ∀ sibling ∈ (painting.root.after [⟨painting.wall, .str "north", ["ROSE"]⟩]).children,
      sibling.AnswersCalmly (reached .execution none "paint" (["north"] ++ ["ROSE"])
        [⟨painting.wall, .str "north", ["ROSE"]⟩]) := by
    intro sibling hs
    obtain rfl := List.mem_singleton.1 hs
    refine ⟨fun r hr e raised => ?_, trivial⟩
    obtain rfl := List.mem_singleton.1 hr
    cases raised
  have start : "RO".toList <+: "ROSE".toList := by decide
  exact ⟨start, accepted_words_are_suggested painting none "paint" ["north"] "ROSE" "rose" _ _ _
    painting_single painting_ignores_spelling painting_enters (.choice _ "rose") own calm "RO"
    start⟩

end Command

end CommandTree
