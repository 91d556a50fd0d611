import CommandTree.Proofs.Conclusion
import CommandTree.Proofs.Spelling

/-!
# Offerings

What the children of a node offer where a completion stops. A child offers nothing unless it admits
the context, and all that its type offers otherwise. No child has a say in what another one offers
(`Node.IsSteady`), so the suggestions are all these texts in order, each of them once
(`contributeAll_of_calm`); and an error is raised exactly if one of the children raises it when
asked on its own (`contributeAll_error_iff`).
-/

namespace CommandTree

namespace Run

variable {run : Run}

theorem andThen_of_error {e : Error} (h : run.error = some e) (next : Context → Run) :
    run.andThen next = run := by
  simp [andThen, h]

theorem andThen_of_calm (h : run.error = none) (next : Context → Run) :
    run.andThen next = (next run.context).after run.events := by
  simp [andThen, h]

theorem after_done_of_calm (h : run.error = none) : (done run.context).after run.events = run := by
  obtain ⟨context, events, error⟩ := run
  obtain rfl : error = none := h
  simp [done, after]

theorem andThen_done (run : Run) : run.andThen done = run := by
  cases h : run.error with
  | some e => exact andThen_of_error h done
  | none => rw [andThen_of_calm h, after_done_of_calm h]

theorem andThen_assoc (run : Run) (first second : Context → Run) :
    (run.andThen first).andThen second = run.andThen fun c => (first c).andThen second := by
  cases h : run.error with
  | some e => rw [andThen_of_error h, andThen_of_error h, andThen_of_error h]
  | none => rw [andThen_of_calm h, andThen_of_calm h, andThen_after]

end Run

namespace Context

theorem suggestAll_append (c : Context) (first second : List String) :
    c.suggestAll (first ++ second) = (c.suggestAll first).suggestAll second := List.foldl_append

theorem isCompletion_suggest (c : Context) (text : String) :
    (c.suggest text).isCompletion = c.isCompletion := by
  obtain ⟨sender, label, args, arguments, fault, stage⟩ := c
  cases stage with
  | plain | execution => rfl
  | completion typed suggestions =>
    simp only [suggest]
    split <;> rfl

/-- What has been suggested stays in front. -/
theorem suggestions_suggest (c : Context) (text : String) :
    c.suggestions <+: (c.suggest text).suggestions := by
  obtain ⟨sender, label, args, arguments, fault, stage⟩ := c
  cases stage with
  | plain | execution => exact List.prefix_refl _
  | completion typed suggestions =>
    simp only [suggest]
    split
    · exact List.prefix_refl _
    · exact List.prefix_append _ _

theorem suggestions_suggestAll (c : Context) (texts : List String) :
    c.suggestions <+: (c.suggestAll texts).suggestions := by
  induction texts generalizing c with
  | nil => exact List.prefix_refl _
  | cons text more ih => exact (c.suggestions_suggest text).trans (ih (c.suggest text))

theorem mem_suggest {c : Context} (h : c.isCompletion = true) {text s : String} :
    s ∈ (c.suggest text).suggestions ↔ s ∈ c.suggestions ∨ s = text := by
  obtain ⟨sender, label, args, arguments, fault, stage⟩ := c
  cases stage with
  | plain | execution => cases h
  | completion typed suggestions =>
    simp only [suggest]
    split
    case isTrue known =>
      constructor
      · exact Or.inl
      · rintro (mem | rfl)
        · exact mem
        · exact known
    case isFalse => simp [Context.suggestions]

theorem mem_suggestAll {c : Context} (h : c.isCompletion = true) {texts : List String}
    {s : String} : s ∈ (c.suggestAll texts).suggestions ↔ s ∈ c.suggestions ∨ s ∈ texts := by
  induction texts generalizing c with
  | nil => simp [suggestAll]
  | cons text more ih =>
    have later := ih (c := c.suggest text) ((isCompletion_suggest c text).trans h)
    rw [List.mem_cons, ← or_assoc, ← mem_suggest h]
    exact later

end Context

open Context (OnlySuggests)

namespace Node

variable {n : Node} {c d : Context}

/-- What a child offers, if it is asked on its own. -/
def offered (n : Node) (c : Context) : List String :=
  match (Requirement.firstUnmet c n.requirements).result with
  | .ok none => (n.type.offer c).texts
  | _ => []

/-- A child that is asked on its own raises no error: its requirements can be tested up to the first
one that is not met, and its type can tell what it offers if all of them are met. -/
def OffersCalmly (n : Node) (c : Context) : Prop :=
  (∀ e, (Requirement.firstUnmet c n.requirements).result ≠ .error e) ∧
    (n.Admits c → (n.type.offer c).error = none)

/-- What has been suggested already makes no difference to what a child does. -/
def IsSteady (n : Node) : Prop :=
  ∀ c d, OnlySuggests c d → (Requirement.firstUnmet c n.requirements).result =
    (Requirement.firstUnmet d n.requirements).result ∧ n.type.offer c = n.type.offer d

theorem mem_offered {text : String} :
    text ∈ n.offered c ↔ n.Admits c ∧ text ∈ (n.type.offer c).texts := by
  rw [Node.Admits, ← Requirement.firstUnmet_none_iff, offered]
  cases h : (Requirement.firstUnmet c n.requirements).result with
  | error e => simp
  | ok unmet => cases unmet <;> simp

theorem IsSteady.offered_eq (steady : n.IsSteady) (h : OnlySuggests c d) :
    n.offered c = n.offered d := by
  obtain ⟨gates, offer⟩ := steady c d h
  rw [offered, offered, gates, offer]

theorem IsSteady.offersCalmly_iff (steady : n.IsSteady) (h : OnlySuggests c d) :
    n.OffersCalmly c ↔ n.OffersCalmly d := by
  obtain ⟨gates, offer⟩ := steady c d h
  rw [OffersCalmly, OffersCalmly, Node.Admits, Node.Admits, ← Requirement.firstUnmet_none_iff,
    ← Requirement.firstUnmet_none_iff, gates, offer]

end Node

/-- A built-in type looks at the token being typed, and at nothing else. -/
theorem TokenType.offer_congr {t : TokenType} (builtIn : t.IsBuiltIn) {c d : Context}
    (h : c.typed = d.typed) : t.offer c = t.offer d := by
  cases t with
  | custom => exact builtIn.elim
  | _ => simp only [offer, h]

namespace Walk

variable {children : List Node} {c : Context}

theorem contribute_of_calm {n : Node} (calm : n.OffersCalmly c) :
    (contribute n c).context = c.suggestAll (n.offered c) ∧ (contribute n c).error = none := by
  obtain ⟨tested, offers⟩ := calm
  rw [Node.Admits, ← Requirement.firstUnmet_none_iff] at offers
  unfold contribute Reply.runWith Node.offered
  cases h : (Requirement.firstUnmet c n.requirements).result with
  | error e => exact absurd h (tested e)
  | ok unmet =>
    cases unmet with
    | some r => exact ⟨rfl, rfl⟩
    | none => exact ⟨rfl, offers h⟩

theorem contribute_error_iff {n : Node} : (contribute n c).error = none ↔ n.OffersCalmly c := by
  constructor
  · intro h
    rw [Node.OffersCalmly, Node.Admits, ← Requirement.firstUnmet_none_iff]
    unfold contribute Reply.runWith at h
    cases hg : (Requirement.firstUnmet c n.requirements).result with
    | error e => simp [hg] at h
    | ok unmet =>
      cases unmet with
      | some r => simp
      | none => simpa [hg, Run.after] using h
  · exact fun calm => (contribute_of_calm calm).2

theorem contributeAll_cons (n : Node) (more : List Node) (c : Context) :
    contributeAll (n :: more) c = (contribute n c).andThen (contributeAll more) := by
  have from_run : ∀ (nodes : List Node) (run : Run),
      nodes.foldl (fun run child => run.andThen (contribute child)) run =
        run.andThen (contributeAll nodes) := by
    intro nodes
    induction nodes with
    | nil => exact fun run => (Run.andThen_done run).symm
    | cons child nodes ih =>
      intro run
      have child_first : contributeAll (child :: nodes) =
          fun c => (contribute child c).andThen (contributeAll nodes) :=
        funext fun c => ih ((Run.done c).andThen (contribute child))
      rw [List.foldl_cons, ih, Run.andThen_assoc, child_first]
  exact from_run more _

theorem contributeAll_append (first second : List Node) (c : Context) :
    contributeAll (first ++ second) c = (contributeAll first c).andThen (contributeAll second) := by
  induction first generalizing c with
  | nil => rfl
  | cons n more ih =>
    have later : contributeAll (more ++ second) =
        fun c => (contributeAll more c).andThen (contributeAll second) := funext ih
    rw [List.cons_append, contributeAll_cons, contributeAll_cons, later, Run.andThen_assoc]

theorem contribute_suggestions (n : Node) (c : Context) :
    c.suggestions <+: (contribute n c).context.suggestions := by
  unfold contribute Reply.runWith
  cases (Requirement.firstUnmet c n.requirements).result with
  | error e => exact List.prefix_refl _
  | ok unmet =>
    cases unmet with
    | some r => exact List.prefix_refl _
    | none => exact c.suggestions_suggestAll (n.type.offer c).texts

theorem contributeAll_suggestions (children : List Node) (c : Context) :
    c.suggestions <+: (contributeAll children c).context.suggestions := by
  induction children generalizing c with
  | nil => exact List.prefix_refl _
  | cons n more ih =>
    have first := contribute_suggestions n c
    rw [contributeAll_cons]
    cases h : (contribute n c).error with
    | some e => rwa [Run.andThen_of_error h]
    | none =>
      rw [Run.andThen_of_calm h]
      exact first.trans (ih (contribute n c).context)

/-- Children that raise no error, whatever has been suggested before them, raise none together. -/
theorem contributeAll_calm (calm : ∀ n ∈ children, ∀ d, OnlySuggests c d → n.OffersCalmly d) :
    (contributeAll children c).error = none := by
  induction children generalizing c with
  | nil => rfl
  | cons n more ih =>
    rw [List.forall_mem_cons] at calm
    rw [contributeAll_cons, Run.andThen_of_calm (contribute_of_calm (calm.1 c (.refl c))).2]
    exact ih fun m hm d h => calm.2 m hm d ((contribute_context n c).trans h)

/-- The children that raise no error suggest what each of them offers, one after the other. -/
theorem contributeAll_of_calm (steady : ∀ n ∈ children, n.IsSteady)
    (calm : ∀ n ∈ children, n.OffersCalmly c) :
    (contributeAll children c).context = c.suggestAll (children.flatMap fun n => n.offered c) ∧
      (contributeAll children c).error = none := by
  induction children generalizing c with
  | nil => exact ⟨rfl, rfl⟩
  | cons n more ih =>
    rw [List.forall_mem_cons] at steady calm
    obtain ⟨context, error⟩ := contribute_of_calm calm.1
    -- The others are asked when more has been suggested, which makes no difference to them.
    have suggested := c.onlySuggests_suggestAll (n.offered c)
    have later := ih (c := c.suggestAll (n.offered c)) steady.2 fun m hm =>
      ((steady.2 m hm).offersCalmly_iff suggested).1 (calm.2 m hm)
    have same : more.flatMap (fun m => m.offered (c.suggestAll (n.offered c))) =
        more.flatMap fun m => m.offered c := by
      rw [List.flatMap_def, List.flatMap_def]
      exact congrArg List.flatten
        (List.map_congr_left fun m hm => ((steady.2 m hm).offered_eq suggested).symm)
    rw [contributeAll_cons, Run.andThen_of_calm error, context, List.flatMap_cons,
      Context.suggestAll_append, ← same]
    exact later

theorem contributeAll_error_iff (steady : ∀ n ∈ children, n.IsSteady) :
    (contributeAll children c).error = none ↔ ∀ n ∈ children, n.OffersCalmly c := by
  refine ⟨?_, fun calm => (contributeAll_of_calm steady calm).2⟩
  induction children generalizing c with
  | nil => simp
  | cons n more ih =>
    rw [List.forall_mem_cons] at steady
    intro h
    rw [contributeAll_cons] at h
    cases he : (contribute n c).error with
    | some e =>
      rw [Run.andThen_of_error he, he] at h
      cases h
    | none =>
      rw [Run.andThen_of_calm he] at h
      have suggested := contribute_context n c
      rw [List.forall_mem_cons]
      refine ⟨contribute_error_iff.1 he, fun m hm => ?_⟩
      exact ((steady.2 m hm).offersCalmly_iff suggested).2 (ih steady.2 h m hm)

end Walk

end CommandTree
