import CommandTree.Proofs.Completion

/-!
# Narrowing suggestions

Typing more never adds a suggestion (`typing_on_narrows`). On the way to the token being typed, only
a rest would look at it, and a rest leaves no token to stop at, so both completions stop at the same
node (`Stops.retyped_stops`). There, whatever continues the longer token continues the shorter one,
also where case is ignored and a character folds to several, since the keys of tokens start alike
where the tokens do (`Text.continues_of_start`).
-/

namespace CommandTree

/-- What a type offers for a token it offers for everything that the token starts with. -/
theorem TokenType.offered_of_start {t : TokenType} (builtIn : t.IsBuiltIn) {c d : Context}
    {typed longer text : String} (start : typed.toList <+: longer.toList)
    (hc : c.typed = .str longer) (hd : d.typed = .str typed) (calm : (t.offer c).error = none)
    (offered : text ∈ (t.offer c).texts) : text ∈ (t.offer d).texts := by
  cases t with
  | custom => exact builtIn.elim
  | decimal | word | phrase | rest => cases offered
  | literal | choice | truthValue =>
    simp only [offer, Literal.offer, Choice.offer, offerTruthValues, hc, hd,
      mem_continuations] at offered ⊢
    exact offered.imp_right (Text.continues_of_start start)
  | integer t =>
    have calmly : ((integer t).offer d).error = none :=
      (offer_error_iff builtIn hd).2 ((offer_error_iff builtIn hc).1 calm)
    rw [mem_offer_integer hc calm] at offered
    rw [mem_offer_integer hd calmly]
    obtain ⟨suggests, n, inRange, passes, continues, spelled⟩ := offered
    exact ⟨suggests, n, inRange, passes, Text.continues_of_start start continues, spelled⟩

namespace Node

variable {n : Node} {c d : Context} {typed longer text : String}

/-- Whether a child raises an error does not depend on how the token being typed is spelled. -/
theorem OffersCalmly.retyped (calm : n.OffersCalmly c) (h : c.Akin d)
    (blind : ∀ r ∈ n.requirements, r.IgnoresSpelling) (builtIn : n.type.IsBuiltIn)
    (hc : c.typed = .str longer) (hd : d.typed = .str typed) : n.OffersCalmly d := by
  obtain ⟨tested, offers⟩ := calm
  have gates := Requirement.firstUnmet_congr fun r hr => blind r hr c d h
  refine ⟨fun e raised => tested e (gates.trans raised), fun admits => ?_⟩
  have calmly := offers (admits.of_akin blind h.symm)
  exact (TokenType.offer_error_iff builtIn hd).2 ((TokenType.offer_error_iff builtIn hc).1 calmly)

theorem offered_of_start (calm : n.OffersCalmly c) (h : c.Akin d)
    (blind : ∀ r ∈ n.requirements, r.IgnoresSpelling) (builtIn : n.type.IsBuiltIn)
    (start : typed.toList <+: longer.toList) (hc : c.typed = .str longer)
    (hd : d.typed = .str typed) (offered : text ∈ n.offered c) : text ∈ n.offered d := by
  obtain ⟨admits, mem⟩ := mem_offered.1 offered
  exact mem_offered.2 ⟨admits.of_akin blind h,
    TokenType.offered_of_start builtIn start hc hd (calm.2 admits) mem⟩

end Node

namespace Command

open Walk

variable {c : Command} {sender : Option Sender} {label : String} {args : List String}
  {rs : List Reading} {longer : String}

/-- A completion of another last token stops at the same node, with the same bound so far. -/
theorem Stops.retyped_stops (phraseless : c.root.IsPhraseless) (blind : c.root.IgnoresSpelling)
    (stops : c.Stops sender label (args ++ [longer]) rs longer) (typed : String) :
    c.Stops sender label (args ++ [typed]) (rs.map (.retyped typed)) typed ∧
      (asked sender label (args ++ [longer]) rs longer).Akin
        (asked sender label (args ++ [typed]) (rs.map (.retyped typed)) typed) := by
  obtain ⟨-, twins, replay⟩ := stops.retyped phraseless blind .completion typed
  obtain ⟨admits, -⟩ := Takes.offering_iff.1 stops.last_turn
  have admits' := admits.of_akin (blind _ (stops.within .root)) twins.akin
  rw [twins.node] at admits'
  have trail := replay [] _ (.finish (Takes.offering_iff.2 ⟨admits', rfl, twins.otherTokens⟩))
  rw [List.append_nil] at trail
  have akin := twins.akin
  rw [State.context_readAll, State.context_readAll] at akin
  exact ⟨trail, ((Context.akin_setTyped _ _).symm.trans akin).trans (Context.akin_setTyped _ _)⟩

/-- **Typing on narrows the suggestions.** Where all types are built in, none is a phrase, and no
requirement asks how the arguments are spelled, everything that is suggested for a token is
suggested for whatever the token starts with. What a handler suggests, which is told why a
completion halted, is not meant here. -/
theorem typing_on_narrows (c : Command) (sender : Option Sender) (label : String)
    (args : List String) (typed longer : String) (texts : List String)
    (phraseless : c.root.IsPhraseless) (blind : c.root.IgnoresSpelling)
    (quiet : SuggestsNothing c.failure) (start : typed.toList <+: longer.toList)
    (completed : (c.onTabComplete sender (.str label)
      (.list (Value.strings (args ++ [longer])))).result = .ok texts) :
    ∀ text ∈ texts, ∃ texts', (c.onTabComplete sender (.str label)
      (.list (Value.strings (args ++ [typed])))).result = .ok texts' ∧ text ∈ texts' := by
  intro text suggested
  obtain ⟨noError, rfl⟩ := onTabComplete_ok_iff.1 completed
  obtain ⟨rs, token, stops⟩ := stops_of_suggested quiet suggested
  obtain ⟨rfl, -⟩ := stops.retyped phraseless blind .completion typed
  obtain ⟨stops', akin⟩ := stops.retyped_stops phraseless blind typed
  have inside := within_of_trail stops
  have builtIn : ∀ child ∈ (c.root.after rs).children, child.type.IsBuiltIn :=
    fun child hc => (phraseless child (.child inside hc)).1
  have blindly : ∀ child ∈ (c.root.after rs).children, ∀ r ∈ child.requirements,
      r.IgnoresSpelling := fun child hc => blind child (.child inside hc)
  have steady : ∀ child ∈ (c.root.after rs).children, child.IsSteady := fun child hc =>
    Node.isSteady_of_builtIn (builtIn child hc) fun r hr => (blindly child hc r hr).ignoresStage
  -- The children raise no error for the longer token, so they raise none for the shorter one.
  rw [(run_stopped stops).2, contributeAll_error_iff steady] at noError
  have calm : ∀ child ∈ (c.root.after rs).children, child.OffersCalmly
      (asked sender label (args ++ [typed]) (rs.map (.retyped typed)) typed) := fun child hc =>
    (noError child hc).retyped akin (blindly child hc) (builtIn child hc) rfl rfl
  obtain ⟨child, mem, offered⟩ := (mem_suggestions stops steady noError).1 suggested
  have offered' := Node.offered_of_start (noError child mem) akin (blindly child mem)
    (builtIn child mem) start rfl rfl offered
  rw [← c.root.after_retyped typed rs] at steady calm mem
  have noError' := (run_stopped stops').2.trans ((contributeAll_error_iff steady).2 calm)
  exact ⟨_, onTabComplete_ok_iff.2 ⟨noError', rfl⟩,
    (mem_suggestions stops' steady calm).2 ⟨child, mem, offered'⟩⟩

/-- A command that reads a line and one of two stops of it in any case, or a note. -/
def riding : Command :=
  ⟨0, "ride", .mk 0 "ride" .word [] none [line], none⟩
where
  line : Node := .mk 1 "line" .word [] none [stop, note]
  stop : Node := .mk 2 "stop" (.choice stops)
    [⟨.str "no line", none, (Condition.isBound "line").test none⟩] (some .done) []
  stops : Choice := ⟨["Strasse", "Station"], true, by decide +kernel, by decide +kernel⟩
  note : Node := .mk 3 "note" .rest [] (some .done) []

theorem riding_within {n : Node} (h : riding.root.Within n) :
    n = riding.root ∨ n = riding.line ∨ n = riding.stop ∨ n = riding.note := by
  obtain rfl | ⟨line, hl, h⟩ := Node.within_iff.1 h
  · exact Or.inl rfl
  obtain rfl := List.mem_singleton.1 hl
  obtain rfl | ⟨last, hs, h⟩ := Node.within_iff.1 h
  · exact Or.inr (Or.inl rfl)
  have last : last = riding.stop ∨ last = riding.note := by
    simpa [riding.line, Node.children] using hs
  obtain rfl | ⟨none, hn, -⟩ := Node.within_iff.1 h
  · exact Or.inr (Or.inr last)
  · obtain rfl | rfl := last <;> cases hn

theorem riding_phraseless : riding.root.IsPhraseless := by
  intro n h
  obtain rfl | rfl | rfl | rfl := riding_within h <;> exact ⟨trivial, nofun⟩

theorem riding_ignores_spelling : riding.root.IgnoresSpelling := by
  intro n h r hr
  obtain rfl | rfl | rfl | rfl := riding_within h
  · cases hr
  · cases hr
  · obtain rfl := List.mem_singleton.1 hr
    exact Condition.ignoresSpelling_test _ _ _ (by simp)
  · cases hr

/-- The last character folds to two; without it, the stop is suggested as well. -/
theorem riding_narrows :
    riding.root.IsPhraseless ∧ riding.root.IgnoresSpelling ∧ "st".toList <+: "straß".toList ∧
      (riding.onTabComplete none (.str "ride")
        (.list (Value.strings (["u2"] ++ ["straß"])))).result = .ok ["Strasse"] ∧
      ∃ texts, (riding.onTabComplete none (.str "ride")
        (.list (Value.strings (["u2"] ++ ["st"])))).result = .ok texts ∧ "Strasse" ∈ texts := by
  have start : "st".toList <+: "straß".toList := by decide
  have completed : (riding.onTabComplete none (.str "ride")
      (.list (Value.strings (["u2"] ++ ["straß"])))).result = .ok ["Strasse"] :=
    onTabComplete_ok_iff.2 ⟨Option.isNone_iff_eq_none.1 (by decide +kernel), by decide +kernel⟩
  exact ⟨riding_phraseless, riding_ignores_spelling, start, completed,
    typing_on_narrows riding none "ride" ["u2"] "st" "straß" ["Strasse"] riding_phraseless
      riding_ignores_spelling leavesAlone_none.suggestsNothing start completed "Strasse"
      List.mem_cons_self⟩

end Command

end CommandTree
