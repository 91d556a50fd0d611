import CommandTree.Proofs.Drafting

/-!
# Attaching parts

Parts are attached to a draft one after the other, and each is checked when its turn comes
(`attachOne_cases`). So a call that is refused leaves the parts before the refused one in the draft
(`attach_keeps_front`): the draft is as it was only if the first part is refused, and trying again
with a part that stayed is refused for its name (`parts_before_a_refusal_stay`).
-/

namespace CommandTree

/-- The draft with more parts behind those that it has. -/
def Draft.plus (d : Draft) (parts : List Part) : Draft := d.withParts (d.parts ++ parts)

@[simp] theorem Draft.plus_nil (d : Draft) : d.plus [] = d := by
  rw [plus, List.append_nil]
  rfl

theorem Draft.plus_plus (d : Draft) (first second : List Part) :
    (d.plus first).plus second = d.plus (first ++ second) := by
  simp [plus, withParts]

namespace Workshop

variable {w : Workshop} {id : Nat} {d : Draft}

/-- A draft takes a part that there is, other than itself, under a name that is free. -/
structure Fits (w : Workshop) (id : Nat) (d : Draft) (p : Part) : Prop where
  known : p.isWithin w.drafts.length = true
  other : p ≠ .draft id
  free : w.partName p ∉ w.partNames d

/-- A draft refuses what is no part, itself, and a part under a name that is in use. -/
inductive Refused (w : Workshop) (id : Nat) (d : Draft) : Option Part → Error → Prop where
  | unknown {part : Option Part} : (∀ p, part = some p → p.isWithin w.drafts.length = false) →
      Refused w id d part .childNotGrammar
  | itself : Refused w id d (some (.draft id)) .childIsParent
  | named {p : Part} : p ≠ .draft id → w.partName p ∈ w.partNames d →
      Refused w id d (some p) (.childNameTaken (w.partName p) d.name)

/-- How a call ends: no part is left, or the next one is refused. -/
inductive Ends (w : Workshop) (id : Nat) (d : Draft) :
    List (Option Part) → Except Error Unit → Prop where
  | done : Ends w id d [] (.ok ())
  | refused {part : Option Part} {more : List (Option Part)} {e : Error} :
      w.Refused id d part e → Ends w id d (part :: more) (.error e)

/-! ## One part -/

theorem isDraft_iff {p : Part} : p.isDraft id = true ↔ p = .draft id := by
  cases p <;> simp [Part.isDraft]

/-- A part is taken where it fits, and refused otherwise. -/
theorem attachOne_cases (bound : id < w.drafts.length) (part : Option Part) :
    (∃ p w', part = some p ∧ w.Fits id w.drafts[id] p ∧ w.attachOne id part = .ok w' ∧
      w'.drafts = w.drafts.set id (w.drafts[id].plus [p]) ∧ w'.serial = w.serial) ∨
    ∃ e, w.Refused id w.drafts[id] part e ∧ w.attachOne id part = .error e := by
  cases part with
  | none => exact Or.inr ⟨_, .unknown nofun, dif_pos bound⟩
  | some p =>
    by_cases itself : p = .draft id
    · subst itself
      exact Or.inr ⟨_, .itself, by simp [attachOne, bound, isDraft_iff]⟩
    by_cases named : w.partName p ∈ w.partNames w.drafts[id]
    · exact Or.inr ⟨_, .named itself named, by simp [attachOne, bound, isDraft_iff, itself, named]⟩
    by_cases known : p.isWithin w.drafts.length = true
    · have took : ∃ w', w.attachOne id (some p) = .ok w' := by
        simp [attachOne, bound, isDraft_iff, itself, named, known]
      obtain ⟨w', took⟩ := took
      obtain ⟨_, _, _, ⟨⟩, _, rfl⟩ := of_attachOne took
      exact Or.inl ⟨p, _, rfl, ⟨known, itself, named⟩, took, rfl, rfl⟩
    · refine Or.inr ⟨.childNotGrammar, .unknown ?_, ?_⟩
      · rintro _ ⟨⟩
        exact Bool.eq_false_iff.2 known
      · simp [attachOne, bound, isDraft_iff, itself, named, known]

/-! ## Several parts -/

/-- Two workshops with as many drafts, of the same names. -/
structure Alike (w w' : Workshop) : Prop where
  length : w'.drafts.length = w.drafts.length
  name : ∀ p, w'.partName p = w.partName p

theorem Alike.partNames {w' : Workshop} (alike : w.Alike w') (d : Draft) :
    w'.partNames d = w.partNames d := List.map_congr_left fun p _ => alike.name p

theorem Alike.fits {w' : Workshop} (alike : w.Alike w') {p : Part} (fits : w'.Fits id d p) :
    w.Fits id d p where
  known := alike.length ▸ fits.known
  other := fits.other
  free := by
    rw [← alike.name, ← alike.partNames]
    exact fits.free

theorem Alike.ends {w' : Workshop} (alike : w.Alike w') {rest : List (Option Part)}
    {result : Except Error Unit} (ends : w'.Ends id d rest result) : w.Ends id d rest result := by
  cases ends with
  | done => exact .done
  | refused refused =>
    refine .refused ?_
    cases refused with
    | unknown unknown => exact .unknown (alike.length ▸ unknown)
    | itself => exact .itself
    | named other named =>
      rw [alike.name]
      rw [alike.name, alike.partNames] at named
      exact .named other named

theorem alike_of_plus {w' : Workshop} {parts : List Part} (bound : id < w.drafts.length)
    (drafts : w'.drafts = w.drafts.set id (w.drafts[id].plus parts)) : w.Alike w' where
  length := by rw [drafts, List.length_set]
  name p := by
    cases p with
    | node n => rfl
    | draft c =>
      by_cases same : id = c
      · subst same
        simp [partName, draft?, drafts, bound, Draft.plus, Draft.withParts]
      · simp [partName, draft?, drafts, same]

/-- The parts up to the first one that is refused are taken, each next to those before it. -/
theorem attach_keeps_front (bound : id < w.drafts.length) (parts : List (Option Part)) :
    ∃ taken rest, parts = taken.map some ++ rest ∧
      (w.attach id parts).1.drafts = w.drafts.set id (w.drafts[id].plus taken) ∧
      (w.attach id parts).1.serial = w.serial ∧
      (∀ before p after, taken = before ++ p :: after → w.Fits id (w.drafts[id].plus before) p) ∧
      w.Ends id (w.drafts[id].plus taken) rest (w.attach id parts).2 := by
  induction parts generalizing w with
  | nil => exact ⟨[], [], rfl, by simp [attach], rfl, by simp, .done⟩
  | cons part more ih =>
    rcases attachOne_cases bound part with
      ⟨p, w', rfl, fits, took, drafts, serial⟩ | ⟨e, refused, failed⟩
    · have alike : w.Alike w' := alike_of_plus bound drafts
      have bound' : id < w'.drafts.length := alike.length.symm ▸ bound
      have grown : w'.drafts[id] = w.drafts[id].plus [p] := by simp [drafts]
      have same : w.attach id (some p :: more) = w'.attach id more := by rw [attach, took]
      obtain ⟨taken, rest, split, left, number, fit, ends⟩ := ih bound'
      simp only [grown, Draft.plus_plus, List.singleton_append] at left fit ends
      rw [same]
      refine ⟨p :: taken, rest, by rw [split]; rfl, ?_, number.trans serial, ?_, alike.ends ends⟩
      · rw [left, drafts, List.set_set]
      · intro before q after h
        cases before with
        | nil =>
          obtain ⟨rfl, -⟩ := List.cons.inj h
          rwa [Draft.plus_nil]
        | cons first before =>
          obtain ⟨rfl, later⟩ := List.cons.inj h
          exact alike.fits (fit before q after later)
    · have same : w.attach id (part :: more) = (w, .error e) := by rw [attach, failed]
      rw [same]
      refine ⟨[], part :: more, rfl, by simp, rfl, by simp, ?_⟩
      rw [Draft.plus_nil]
      exact .refused refused

theorem eq_of_drafts {w' : Workshop} (drafts : w'.drafts = w.drafts)
    (serial : w'.serial = w.serial) : w' = w := by
  obtain ⟨_, _, _⟩ := w
  obtain ⟨_, _, _⟩ := w'
  cases drafts
  cases serial
  rfl

/-- A part whose name is in use is refused, wherever it stands in the call. -/
theorem attach_error_of_named (bound : id < w.drafts.length) {parts : List (Option Part)}
    {p : Part} (mem : some p ∈ parts) (named : w.partName p ∈ w.partNames w.drafts[id]) :
    ∃ e, (w.attach id parts).2 = .error e := by
  obtain ⟨taken, rest, split, -, -, fit, ends⟩ := attach_keeps_front bound parts
  generalize (w.attach id parts).2 = result at ends ⊢
  cases ends with
  | refused _ => exact ⟨_, rfl⟩
  | done =>
    have part : p ∈ taken := by simpa [split] using mem
    obtain ⟨before, after, rfl⟩ := List.append_of_mem part
    refine absurd ?_ (fit before p after rfl).free
    rw [partNames, Draft.plus, Draft.withParts, List.map_append]
    exact List.mem_append_left _ named

/-- **The parts before a refusal stay.** When parts are attached to a draft, those up to the first
one that is refused are taken, and the call is refused if there is such a one. No other draft is
changed. So a refused call leaves all as it was only if its first part is the one that is refused;
otherwise a call that has one of the parts that were taken among its own is refused from then on. -/
theorem parts_before_a_refusal_stay (w : Workshop) {id : Nat} (bound : id < w.drafts.length)
    (parts : List (Option Part)) :
    let d := w.drafts[id]
    let left := (w.attach id parts).1
    ∃ taken rest, parts = taken.map some ++ rest ∧
      left.draft? id = some (d.plus taken) ∧
      (∀ other, other ≠ id → left.draft? other = w.draft? other) ∧
      (∀ before p after, taken = before ++ p :: after → w.Fits id (d.plus before) p) ∧
      w.Ends id (d.plus taken) rest (w.attach id parts).2 ∧
      (left = w ↔ taken = []) ∧
      ∀ p ∈ taken, ∀ retry, some p ∈ retry → ∃ e, (left.attach id retry).2 = .error e := by
  intro d left
  obtain ⟨taken, rest, split, drafts, serial, fit, ends⟩ := attach_keeps_front bound parts
  have alike : w.Alike left := alike_of_plus bound drafts
  have bound' : id < left.drafts.length := alike.length.symm ▸ bound
  have grown : left.drafts[id] = d.plus taken := by simp [left, d, drafts]
  have now : left.draft? id = some (d.plus taken) := by
    rw [← grown]
    exact List.getElem?_eq_getElem bound'
  refine ⟨taken, rest, split, now, ?others, fit, ends, ?unchanged, ?retry⟩
  case others =>
    intro other different
    rw [draft?, drafts, List.getElem?_set_ne different.symm]
    rfl
  case unchanged =>
    constructor
    · intro same
      have before : left.draft? id = some d := by
        rw [same]
        exact List.getElem?_eq_getElem bound
      have parts := congrArg Draft.parts (Option.some.inj (now.symm.trans before))
      exact List.append_right_eq_self.1 parts
    · rintro rfl
      rw [Draft.plus_nil, List.set_getElem_self] at drafts
      exact eq_of_drafts drafts serial
  case retry =>
    intro p mem retry again
    refine attach_error_of_named bound' again ?_
    rw [alike.name, alike.partNames, grown]
    exact List.mem_map_of_mem (List.mem_append_right _ mem)

/-- A draft for an outing, and two to go into it. -/
def outing : Workshop :=
  [.start (.literal (.str "go") .null),
    .start (.argument (.str "where") (some .word)),
    .start (.argument (.str "when") (some .word))].foldl after .empty

/-- The third part has the name of the first. The first two stay, so the second is refused when it
comes again. -/
theorem outing_keeps_its_front :
    let left := (outing.attach 0 [some (.draft 1), some (.draft 2), some (.draft 1)]).1
    0 < outing.drafts.length ∧ (left.draft? 0).map Draft.parts = some [.draft 1, .draft 2] ∧
      ∃ e, (left.attach 0 [some (.draft 2)]).2 = .error e := by
  intro left
  have bound : 0 < outing.drafts.length := Nat.succ_pos 2
  have parts : (left.draft? 0).map Draft.parts = some [.draft 1, .draft 2] := rfl
  obtain ⟨taken, rest, -, now, -, -, -, -, retry⟩ := parts_before_a_refusal_stay outing bound
    [some (.draft 1), some (.draft 2), some (.draft 1)]
  have all : taken = [.draft 1, .draft 2] := by
    rw [now] at parts
    exact Option.some.inj parts
  exact ⟨bound, parts, retry (.draft 2) (by simp [all]) _ List.mem_cons_self⟩

/-- A call that is refused for its second part leaves the first one, and so a call that would have
been in order is refused as well. -/
theorem refused_call_leaves_a_part :
    let left := (outing.attach 0 [some (.draft 1), none]).1
    (outing.attach 0 [some (.draft 1), none]).2 = .error .childNotGrammar ∧
    (outing.draft? 0).map Draft.parts = some [] ∧
    (left.draft? 0).map Draft.parts = some [.draft 1] ∧
    (outing.attach 0 [some (.draft 1), some (.draft 2)]).2 = .ok () ∧
    (left.attach 0 [some (.draft 1), some (.draft 2)]).2 =
      .error (.childNameTaken "where" "go") := ⟨rfl, rfl, rfl, rfl, rfl⟩

end Workshop

end CommandTree
