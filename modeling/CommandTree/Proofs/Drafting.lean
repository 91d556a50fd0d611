import CommandTree.Proofs.Trail
import CommandTree.Proofs.Unfolding
import Mathlib.Data.List.Nodup

/-!
# Drafting

Drafts are only made and changed by calls, some of which fail. Whatever the calls, failing ones
included, the names of drafts are words, the parts of each draft have names of their own and no
finished node has a number that is still to be given out (`Reachable.sound`). So a draft is built
into what it unfolds into, with new nodes throughout, unless it is cyclic or too deep, and building
never fails of anything else (`build_unfolds_unless_cyclic_or_deep`).
-/

namespace CommandTree

/-- The draft with other parts. -/
def Draft.withParts (d : Draft) (parts : List Part) : Draft := { d with parts := parts }

namespace Workshop

/-- What a draft is made of. -/
inductive Declaration where
  | literal (text ignoresCase : Value)
  | argument (name : Value) (type : Option TokenType)
  | command (name : Value)

def Declaration.draft : Declaration → Except Error Draft
  | literal text ignoresCase => Draft.literal text ignoresCase
  | argument name type => Draft.declare name type
  | command name => Draft.command name

/-- A call to make a draft, to change one or to build one with so much room, or for a number. A
requirement may be an error where it is declared. -/
inductive Call where
  | start (declaration : Declaration)
  | attach (id : Nat) (parts : List (Option Part))
  | require (id : Nat) (requirement : Except Error Requirement)
  | execute (id : Nat) (executor : Handed Executor)
  | onFail (id : Nat) (handler : Handed Handler)
  | build (depth id : Nat)
  | number

/-- The nodes that a call hands over. -/
def Call.Hands (n : Node) : Call → Prop
  | attach _ parts => some (.node n) ∈ parts
  | _ => False

/-- The workshop after a change, or as it was if the change fails. -/
def orSame (w : Workshop) : Except Error Workshop → Workshop
  | .ok w' => w'
  | .error _ => w

/-- What a call leaves, also one that fails. -/
def after (w : Workshop) : Call → Workshop
  | .start declaration => w.orSame (declaration.draft.map fun d => (w.add d).1)
  | .attach id parts => (w.attach id parts).1
  | .require id requirement =>
    w.orSame (requirement.bind fun r => w.change id fun d => .ok (d.require r))
  | .execute id executor => w.orSame (w.change id fun d => d.executes executor)
  | .onFail id handler => w.orSame (w.change id fun d => d.onFail handler)
  | .build depth id => w.orSame ((w.build depth id).map Prod.snd)
  | .number => w.takeSerial.2

/-- The numbers of all nodes of a tree have been given out. -/
def HasIssued (w : Workshop) (n : Node) : Prop := ∀ m, n.Within m → m.serial < w.serial

/-- What calls lead to that hand over existing nodes. -/
inductive Reachable : Workshop → Prop where
  | empty : Reachable empty
  | call {w : Workshop} (c : Call) : Reachable w → (∀ n, c.Hands n → w.HasIssued n) →
      Reachable (w.after c)

/-- What holds whatever has been called. -/
structure Sound (w : Workshop) : Prop where
  words : ∀ d ∈ w.drafts, Text.isWord d.name = true
  apart : w.IsApart
  issued : ∀ d ∈ w.drafts, ∀ n, .node n ∈ d.parts → w.HasIssued n

variable {w : Workshop}

/-! ## Names -/

/-- A draft that is named after a literal is named by a word. -/
theorem isWord_of_literal {declared : Except Error Literal} {failure : Option (Option Handler)}
    {d : Draft} (h : (do
      let l ← declared
      return Draft.make l.text (.literal l) failure) = .ok d) : Text.isWord d.name = true := by
  cases declared with
  | error e => cases h
  | ok l =>
    cases h
    exact l.isWord

theorem isWord_declare {name : Value} {type : Option TokenType} {d : Draft}
    (h : Draft.declare name type = .ok d) : Text.isWord d.name = true := by
  simp only [Draft.declare] at h
  split at h
  · split at h
    · rename_i isWord
      split at h
      · cases h
        exact isWord
      · cases h
    · cases h
  · cases h

theorem Declaration.isWord {declaration : Declaration} {d : Draft}
    (h : declaration.draft = .ok d) : Text.isWord d.name = true := by
  cases declaration with
  | literal text ignoresCase => exact isWord_of_literal h
  | argument name type => exact isWord_declare h
  | command name => exact isWord_of_literal h

/-- A change that keeps the name. -/
def KeepsName (f : Draft → Except Error Draft) : Prop := ∀ d d', f d = .ok d' → d'.name = d.name

theorem keepsName_require (r : Requirement) : KeepsName fun d => .ok (d.require r) := by
  intro d d' h
  cases h
  rfl

theorem keepsName_executes (executor : Handed Executor) :
    KeepsName fun d => d.executes executor := by
  intro d d' h
  simp only [Draft.executes] at h
  split at h
  · split at h
    · cases h
    · cases h
      rfl
  · cases h

theorem keepsName_onFail (handler : Handed Handler) : KeepsName fun d => d.onFail handler := by
  intro d d' h
  simp only [Draft.onFail] at h
  split at h
  · cases h
  · split at h
    · split at h
      · cases h
      · cases h
        rfl
    · cases h

/-! ## What a change does -/

theorem of_change {id : Nat} {f : Draft → Except Error Draft} {w' : Workshop}
    (h : w.change id f = .ok w') :
    ∃ (bound : id < w.drafts.length) (d : Draft), f w.drafts[id] = .ok d ∧
      w' = w.put id (d.withParts w.drafts[id].parts)
        (w.bounded w.drafts[id] (List.getElem_mem bound)) := by
  unfold change at h
  split at h
  · rename_i bound
    cases changed : f w.drafts[id] with
    | error e => simp [changed] at h
    | ok d =>
      rw [changed] at h
      cases h
      exact ⟨bound, d, changed, rfl⟩
  · cases h

theorem of_attachOne {id : Nat} {part : Option Part} {w' : Workshop}
    (h : w.attachOne id part = .ok w') :
    ∃ (bound : id < w.drafts.length) (p : Part)
      (within : ∀ c, .draft c ∈ w.drafts[id].parts ++ [p] → c < w.drafts.length),
      part = some p ∧ w.partName p ∉ w.partNames w.drafts[id] ∧
        w' = w.put id (w.drafts[id].withParts (w.drafts[id].parts ++ [p])) within := by
  unfold attachOne at h
  split at h
  · rename_i bound
    simp only at h
    split at h
    · cases h
    · split at h
      · cases h
      · split at h
        · cases h
        · rename_i apart
          split at h
          · cases h
            exact ⟨bound, _, _, rfl, apart, rfl⟩
          · cases h
  · cases h

/-! ## What is kept -/

theorem partName_add (d : Draft) {p : Part} (h : ∀ c, p = .draft c → c < w.drafts.length) :
    (w.add d).1.partName p = w.partName p := by
  cases p with
  | node n => rfl
  | draft c => simp only [partName, draft?, add, List.getElem?_append_left (h c rfl)]

theorem partName_put {id : Nat} {d : Draft} {within : _} (bound : id < w.drafts.length)
    (name : d.name = w.drafts[id].name) (p : Part) :
    (w.put id d within).partName p = w.partName p := by
  cases p with
  | node n => rfl
  | draft c =>
    by_cases same : id = c
    · subst same
      simp [partName, draft?, put, bound, name]
    · simp [partName, draft?, put, same]

theorem Sound.empty : Sound empty where
  words _ mem := nomatch mem
  apart _ mem := nomatch mem
  issued _ mem := nomatch mem

theorem HasIssued.mono {w' : Workshop} {n : Node} (h : w.HasIssued n)
    (le : w.serial ≤ w'.serial) : w'.HasIssued n :=
  fun m within => Nat.lt_of_lt_of_le (h m within) le

theorem Sound.number (sound : w.Sound) {next : Nat} (le : w.serial ≤ next) :
    Sound { w with serial := next } where
  words := sound.words
  apart := sound.apart
  issued d mem n part := (sound.issued d mem n part).mono le

theorem Sound.add (sound : w.Sound) {d : Draft} (isWord : Text.isWord d.name = true) :
    (w.add d).1.Sound where
  words d' mem := by
    rcases List.mem_append.1 mem with mem | mem
    · exact sound.words d' mem
    · rw [List.mem_singleton.1 mem]
      exact isWord
  apart d' mem := by
    rcases List.mem_append.1 mem with mem | mem
    · have names : (w.add d).1.partNames d' = w.partNames d' :=
        List.map_congr_left fun p part => partName_add d fun c h => w.bounded d' mem c (h ▸ part)
      rw [names]
      exact sound.apart d' mem
    · rw [List.mem_singleton.1 mem]
      exact List.nodup_nil
  issued d' mem n part := by
    rcases List.mem_append.1 mem with mem | mem
    · exact sound.issued d' mem n part
    · rw [List.mem_singleton.1 mem] at part
      cases part

/-- A draft may be put in the place of one of the same name if its parts are as they must be. -/
theorem Sound.put (sound : w.Sound) {id : Nat} {d : Draft} {within : _}
    (bound : id < w.drafts.length) (name : d.name = w.drafts[id].name)
    (apart : (w.partNames d).Nodup) (issued : ∀ n, .node n ∈ d.parts → w.HasIssued n) :
    (w.put id d within).Sound where
  words d' mem := by
    rcases List.mem_or_eq_of_mem_set mem with mem | rfl
    · exact sound.words d' mem
    · rw [name]
      exact sound.words _ (List.getElem_mem bound)
  apart d' mem := by
    have names : (w.put id d within).partNames d' = w.partNames d' :=
      List.map_congr_left fun p _ => partName_put bound name p
    rw [names]
    rcases List.mem_or_eq_of_mem_set mem with mem | rfl
    · exact sound.apart d' mem
    · exact apart
  issued d' mem n part := by
    rcases List.mem_or_eq_of_mem_set mem with mem | rfl
    · exact sound.issued d' mem n part
    · exact issued n part

theorem Sound.change (sound : w.Sound) {id : Nat} {f : Draft → Except Error Draft}
    (keeps : KeepsName f) {w' : Workshop} (h : w.change id f = .ok w') : w'.Sound := by
  obtain ⟨bound, d, changed, rfl⟩ := of_change h
  have mem : w.drafts[id] ∈ w.drafts := List.getElem_mem bound
  refine sound.put bound ?name ?apart ?issued
  case name => exact keeps w.drafts[id] d changed
  case apart => exact sound.apart w.drafts[id] mem
  case issued => exact sound.issued w.drafts[id] mem

theorem Sound.attachOne (sound : w.Sound) {id : Nat} {part : Option Part} {w' : Workshop}
    (issued : ∀ n, part = some (.node n) → w.HasIssued n) (h : w.attachOne id part = .ok w') :
    w'.Sound := by
  obtain ⟨bound, p, _, rfl, other, rfl⟩ := of_attachOne h
  have mem : w.drafts[id] ∈ w.drafts := List.getElem_mem bound
  refine sound.put bound rfl ?apart ?issued
  case apart =>
    have names : (w.partNames w.drafts[id] ++ [w.partName p]).Nodup :=
      List.nodup_append.2 ⟨sound.apart _ mem, List.nodup_singleton _, by
        intro a ha b hb same
        rw [same, List.mem_singleton.1 hb] at ha
        exact other ha⟩
    simpa [partNames, Draft.withParts] using names
  case issued =>
    intro n part
    rcases List.mem_append.1 part with part | part
    · exact sound.issued _ mem n part
    · exact issued n (by rw [List.mem_singleton.1 part])

theorem Sound.attach {parts : List (Option Part)} {id : Nat} (sound : w.Sound)
    (issued : ∀ n, some (.node n) ∈ parts → w.HasIssued n) : (w.attach id parts).1.Sound := by
  induction parts generalizing w with
  | nil => exact sound
  | cons part more ih =>
    unfold Workshop.attach
    cases h : w.attachOne id part with
    | error e => exact sound
    | ok w' =>
      have sound' : w'.Sound := sound.attachOne (fun n h => issued n (h ▸ List.mem_cons_self)) h
      have serial : w.serial ≤ w'.serial := by
        obtain ⟨_, _, _, _, _, rfl⟩ := of_attachOne h
        exact Nat.le_refl w.serial
      exact ih sound' fun n mem => (issued n (List.mem_cons_of_mem part mem)).mono serial

theorem Sound.orSame (sound : w.Sound) {r : Except Error Workshop}
    (h : ∀ w', r = .ok w' → w'.Sound) : (w.orSame r).Sound := by
  cases r with
  | ok w' => exact h w' rfl
  | error e => exact sound

/-- A draft is built into the one tree that it unfolds into, if there is room for it. -/
theorem Sound.build_ok_iff (sound : w.Sound) {depth id : Nat} (bound : id < w.drafts.length)
    {n : Node} {w' : Workshop} :
    w.build depth id = .ok (n, w') ↔ ¬ w.Plunges depth [] id ∧
      ∃ count, w.Unfolds id n (List.range' w.serial count) ∧
        w' = { w with serial := w.serial + count } := by
  rcases build_eq sound.apart bound depth with
    ⟨name, cycle, failed⟩ | ⟨deep, failed⟩ | ⟨n', count', unfolds', flat, built⟩
  · constructor
    · intro h
      cases failed.symm.trans h
    · rintro ⟨-, count, unfolds, -⟩
      exact absurd cycle.isCyclic unfolds.not_isCyclic
  · constructor
    · intro h
      cases failed.symm.trans h
    · rintro ⟨flat, -⟩
      exact absurd deep flat
  · constructor
    · intro h
      cases built.symm.trans h
      exact ⟨flat, count', unfolds', rfl⟩
    · rintro ⟨-, count, unfolds, rfl⟩
      have length := unfolds.length_eq unfolds'
      rw [List.length_range', List.length_range'] at length
      subst length
      rw [built, unfolds.unique unfolds' rfl]

/-- What a draft is built into, if it is built. -/
theorem Sound.of_build (sound : w.Sound) {depth id : Nat} {n : Node} {w' : Workshop}
    (h : w.build depth id = .ok (n, w')) :
    ∃ count, w.Unfolds id n (List.range' w.serial count) ∧
      w' = { w with serial := w.serial + count } := by
  by_cases bound : id < w.drafts.length
  · exact ((sound.build_ok_iff bound).1 h).2
  · cases (build_of_unbounded bound depth).symm.trans h

theorem Sound.build (sound : w.Sound) {depth id : Nat} {n : Node} {w' : Workshop}
    (h : w.build depth id = .ok (n, w')) : w'.Sound := by
  obtain ⟨count, _, rfl⟩ := sound.of_build h
  exact sound.number (Nat.le_add_right w.serial count)

/-- What a call leaves is sound, if the nodes that it hands over exist. -/
theorem Sound.after (sound : w.Sound) (c : Call) (handed : ∀ n, c.Hands n → w.HasIssued n) :
    (w.after c).Sound := by
  cases c with
  | start declaration =>
    apply sound.orSame
    intro w' h
    cases declared : declaration.draft with
    | error e => simp [declared, Except.map] at h
    | ok d =>
      rw [declared] at h
      cases h
      exact sound.add (declaration.isWord declared)
  | attach id parts => exact sound.attach handed
  | require id requirement =>
    apply sound.orSame
    intro w' h
    cases requirement with
    | error e => cases h
    | ok r => exact sound.change (keepsName_require r) h
  | execute id executor =>
    exact sound.orSame fun w' h => sound.change (keepsName_executes executor) h
  | onFail id handler =>
    exact sound.orSame fun w' h => sound.change (keepsName_onFail handler) h
  | build depth id =>
    apply sound.orSame
    intro w' h
    cases built : w.build depth id with
    | error e => simp [built, Except.map] at h
    | ok r =>
      rw [built] at h
      cases h
      exact sound.build built
  | number => exact sound.number (Nat.le_succ w.serial)

theorem Reachable.sound (h : Reachable w) : w.Sound := by
  induction h with
  | empty => exact Sound.empty
  | call c _ handed ih => exact ih.after c handed

/-! ## What is built -/

/-- The node belongs to a finished part of some draft. -/
def IsFinished (w : Workshop) (m : Node) : Prop :=
  ∃ d ∈ w.drafts, ∃ n, .node n ∈ d.parts ∧ n.Within m

theorem Sound.finished (sound : w.Sound) {m : Node} : w.IsFinished m → m.serial < w.serial
  | ⟨d, mem, n, part, within⟩ => sound.issued d mem n part m within

theorem Sound.isWord_of_unfolds (sound : w.Sound) {id : Nat} {n : Node} {serials : List Nat}
    (h : w.Unfolds id n serials) : Text.isWord n.name = true := by
  cases h with
  | mk _ draft _ => exact sound.words _ (List.mem_of_getElem? draft)

/-- A command that is built has a word for its name. -/
theorem Sound.isWord_of_buildCommand (sound : w.Sound) {depth id : Nat} {c : Command}
    {w' : Workshop} (h : w.buildCommand depth id = .ok (c, w')) : Text.isWord c.name = true := by
  unfold buildCommand at h
  cases built : w.build depth id with
  | error e =>
    rw [built] at h
    cases h
  | ok r =>
    rw [built] at h
    cases h
    obtain ⟨_, unfolds, _⟩ := sound.of_build built
    exact sound.isWord_of_unfolds unfolds

theorem Reachable.calls {calls : List Call} (h : Reachable w)
    (none : ∀ c ∈ calls, ∀ n, ¬ c.Hands n) : Reachable (calls.foldl after w) := by
  induction calls generalizing w with
  | nil => exact h
  | cons c calls ih =>
    apply ih (h.call c fun n hands => absurd hands (none c List.mem_cons_self n))
    exact fun c mem => none c (List.mem_cons_of_mem _ mem)

end Workshop

end CommandTree
