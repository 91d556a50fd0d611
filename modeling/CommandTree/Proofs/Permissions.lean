import CommandTree.Sender.Console

/-!
# Permissions

What a console sender is permitted, said of the strings that it was made with: everything if a star
is among them, what is among them itself, and what starts with one of them that ends in a dot and a
star, the star left out (`wildcards_grant_what_lies_below`). What can stand there in place of the
dot and the star is found by splitting the permission asked for at its dots and joining the parts
again, without the last ones (`Console.stems_eq_fronts`).
-/

namespace CommandTree

namespace Value

theorem equal_str_iff {s : String} {v : Value} : equal (.str s) v = true ↔ v = .str s := by
  cases v with
  | str t =>
    rw [equal, beq_iff_eq, Value.str.injEq]
    exact eq_comm
  | _ => simp [equal, numberOrder?, number?]

theorem mem_insertSorted {v w : Value} {vs : List Value} :
    w ∈ insertSorted v vs ↔ w = v ∨ w ∈ vs := by
  induction vs with
  | nil => simp [insertSorted]
  | cons x rest ih =>
    rw [insertSorted]
    split
    · rw [List.mem_cons]
    · rw [List.mem_cons, ih, List.mem_cons, or_left_comm]

theorem mem_sorted {w : Value} {vs : List Value} : w ∈ sorted vs ↔ w ∈ vs := by
  have onto (done : List Value) :
      w ∈ vs.foldl (fun done v => insertSorted v done) done ↔ w ∈ done ∨ w ∈ vs := by
    induction vs generalizing done with
    | nil => simp
    | cons v rest ih =>
      rw [List.foldl_cons, ih, mem_insertSorted, List.mem_cons, or_assoc, or_left_comm]
  exact (onto []).trans (by simp)

/-- Nothing but a string is equal to a string, so none is lost. -/
theorem str_mem_distinct {s : String} {vs : List Value} : .str s ∈ distinct vs ↔ .str s ∈ vs := by
  have onto (kept : List Value) :
      .str s ∈ vs.foldl (fun kept v => if kept.any (equal v) then kept else kept ++ [v]) kept ↔
        .str s ∈ kept ∨ .str s ∈ vs := by
    induction vs generalizing kept with
    | nil => simp
    | cons v rest ih =>
      rw [List.foldl_cons, ih, List.mem_cons, ← or_assoc]
      refine or_congr_left ?_
      split
      case isTrue known =>
        refine ⟨Or.inl, fun h => h.elim id ?_⟩
        rintro rfl
        obtain ⟨w, mem, same⟩ := List.any_eq_true.1 known
        exact equal_str_iff.1 same ▸ mem
      case isFalse => rw [List.mem_append, List.mem_singleton]
  exact (onto []).trans (by simp)

end Value

namespace Console

variable {c : Console}

theorem grants_iff {s : String} : c.grants s = true ↔ .str s ∈ c.permissions := by
  simp [grants, Value.equal_str_iff]

/-- The sender is one that can be made, with these values for its permissions. -/
def MadeWith (c : Console) (granted : List Value) : Prop :=
  ∃ name permissions output colorful fancy, permissions.elements? = some granted ∧
    make name permissions output colorful fancy = .ok c

/-- A sender has the strings that it was made with. -/
theorem MadeWith.grants_iff {granted : List Value} (made : c.MadeWith granted) (s : String) :
    c.grants s = true ↔ .str s ∈ granted := by
  obtain ⟨name, permissions, output, colorful, fancy, elements, made⟩ := made
  have kept : c.permissions = Value.sorted (Value.distinct granted) := by
    unfold make at made
    repeat' split at made
    all_goals cases made
    rename_i found _
    cases elements.symm.trans found
    rfl
  rw [Console.grants_iff, kept, Value.mem_sorted, Value.str_mem_distinct]

/-- Any strings will do. -/
theorem exists_madeWith (ss : List String) : ∃ c : Console, c.MadeWith (Value.strings ss) := by
  have hashable : (Value.strings ss).all Value.isHashable = true := by
    simp [Value.strings, Value.isHashable]
  have made : make (.str "console") (.list (Value.strings ss)) none .null .null =
      .ok ⟨"console", Value.sorted (Value.distinct (Value.strings ss)), none, false, false⟩ := by
    simp only [make, Value.elements?, hashable]
    rfl
  exact ⟨_, .str "console", .list (Value.strings ss), none, .null, .null, rfl, made⟩

/-! ## Stems -/

/-- A stem is followed by a dot. -/
theorem mem_stems_iff {s stem : List Char} : stem ∈ stems s ↔ ∃ rest, s = stem ++ '.' :: rest := by
  induction s generalizing stem with
  | nil => simp [stems]
  | cons c rest ih =>
    rw [stems, List.mem_append, List.mem_map]
    cases stem with
    | nil =>
      by_cases dot : c = '.'
      · simp [dot]
      · simp [dot]
    | cons d stem =>
      have own : d :: stem ∉ (if c = '.' then [[]] else []) := by split <;> simp
      simp only [own, false_or, ih, List.cons.injEq, List.cons_append]
      constructor
      · rintro ⟨_, ⟨more, rfl⟩, rfl, rfl⟩
        exact ⟨more, rfl, rfl⟩
      · rintro ⟨more, rfl, rfl⟩
        exact ⟨stem, ⟨more, rfl⟩, rfl, rfl⟩

/-- The first parts joined by dots, as many as one likes but not all. -/
def fronts (parts : List (List Char)) : List (List Char) :=
  (List.range (parts.length - 1)).map fun k => ['.'].intercalate (parts.take (k + 1))

theorem fronts_nil_cons {parts : List (List Char)} (some : parts ≠ []) :
    fronts ([] :: parts) = [] :: (fronts parts).map ('.' :: ·) := by
  obtain ⟨part, more, rfl⟩ := List.exists_cons_of_ne_nil some
  simp only [fronts, List.length_cons, Nat.add_sub_cancel, List.range_succ_eq_map, List.map_cons,
    List.map_map, List.take_succ_cons, List.take_zero]
  refine congrArg ([] :: ·) (List.map_congr_left fun k _ => ?_)
  exact List.intercalate_cons_cons

theorem intercalate_cons_head (d : Char) (part : List Char) (more : List (List Char)) :
    ['.'].intercalate ((d :: part) :: more) = d :: ['.'].intercalate (part :: more) := by
  cases more with
  | nil => simp
  | cons next more => rw [List.intercalate_cons_cons, List.intercalate_cons_cons]; rfl

theorem fronts_cons_head (d : Char) (part : List Char) (more : List (List Char)) :
    fronts ((d :: part) :: more) = (fronts (part :: more)).map (d :: ·) := by
  simp only [fronts, List.length_cons, List.map_map, List.take_succ_cons]
  exact List.map_congr_left fun k _ => intercalate_cons_head d part _

/-- The stems of a permission are the fronts of its parts between dots. -/
theorem stems_eq_fronts (s : List Char) : stems s = fronts (s.splitOn '.') := by
  induction s with
  | nil => rfl
  | cons d rest ih =>
    rw [stems, ih, List.splitOn_cons_eq_if_modifyHead]
    by_cases dot : d = '.'
    · subst dot
      exact (fronts_nil_cons (List.splitOn_ne_nil '.' rest)).symm
    · obtain ⟨part, more, split⟩ := List.exists_cons_of_ne_nil (List.splitOn_ne_nil '.' rest)
      simp only [dot, beq_iff_eq, if_false, split, List.modifyHead_cons, List.nil_append]
      exact (fronts_cons_head d part more).symm

/-! ## Wildcards -/

/-- The string that grants whatever starts with a stem and a dot. -/
def wildcard (stem : String) : String := stem ++ ".*"

theorem ofList_wildcard (stem : List Char) :
    String.ofList (stem ++ ['.', '*']) = wildcard (String.ofList stem) := by
  rw [String.ofList_append]
  rfl

theorem any_stems_iff {permission : String} {p : String → Bool} :
    ((stems permission.toList).any fun stem => p (String.ofList (stem ++ ['.', '*']))) = true ↔
      ∃ stem rest, permission = stem ++ "." ++ rest ∧ p (wildcard stem) = true := by
  simp only [List.any_eq_true, mem_stems_iff, ofList_wildcard]
  constructor
  · rintro ⟨stem, ⟨rest, split⟩, granted⟩
    refine ⟨String.ofList stem, String.ofList rest, ?_, granted⟩
    rw [← String.toList_inj, split]
    simp
  · rintro ⟨stem, rest, rfl, granted⟩
    refine ⟨stem.toList, ⟨rest.toList, by simp⟩, ?_⟩
    rwa [String.ofList_toList]

theorem permits_iff (c : Console) (permission : String) :
    c.permits permission = true ↔ c.grants "*" = true ∨ c.grants permission = true ∨
      ∃ stem rest, permission = stem ++ "." ++ rest ∧ c.grants (wildcard stem) = true := by
  rw [permits, Bool.or_eq_true, Bool.or_eq_true, any_stems_iff, or_assoc]

theorem star_ne_wildcard (stem : String) : "*" ≠ wildcard stem := by
  intro same
  have length : "*".length = stem.length + ".*".length := by
    rw [← String.length_append]
    exact congrArg String.length same
  have star : "*".length = 1 := rfl
  have dotted : ".*".length = 2 := rfl
  omega

/-- A wildcard that is all that a sender has grants what lies below it, and nothing else. -/
theorem permits_iff_of_wildcard {stem : String}
    (only : ∀ s, c.grants s = true ↔ s = wildcard stem) (permission : String) :
    c.permits permission = true ↔ ∃ rest, permission = stem ++ "." ++ rest := by
  rw [permits_iff, only, only]
  constructor
  · rintro (same | rfl | ⟨other, rest, rfl, granted⟩)
    · exact absurd same (star_ne_wildcard stem)
    · exact ⟨"*", by rw [wildcard, String.append_assoc]; rfl⟩
    · exact ⟨rest, by rw [(String.append_left_inj ".*").1 ((only _).1 granted)]⟩
  · rintro ⟨rest, rfl⟩
    exact Or.inr (Or.inr ⟨stem, rest, rfl, (only _).2 rfl⟩)

/-- **Wildcards grant what lies below them.** A console sender can be made with any strings. It has
a permission exactly if a star is among them, or the permission itself, or a stem with a dot and a
star behind it while the permission starts with the stem and a dot. The stems that are looked up are
the fronts of the permission. A wildcard alone grants whatever starts with its stem and a dot, and
neither its stem nor what goes on from there without a dot. More strings grant no less. -/
theorem wildcards_grant_what_lies_below :
    (∀ ss, ∃ c : Console, c.MadeWith (Value.strings ss)) ∧
    ∀ (c : Console) granted, c.MadeWith granted →
      (∀ permission, c.permits permission = true ↔
        .str "*" ∈ granted ∨ .str permission ∈ granted ∨
          ∃ stem rest, permission = stem ++ "." ++ rest ∧ .str (stem ++ ".*") ∈ granted) ∧
      (∀ permission : String,
        stems permission.toList = fronts (permission.toList.splitOn '.')) ∧
      (∀ stem, (∀ s, .str s ∈ granted ↔ s = stem ++ ".*") →
        (∀ permission, c.permits permission = true ↔ ∃ rest, permission = stem ++ "." ++ rest) ∧
        ∀ rest, (∀ more, rest ≠ "." ++ more) → c.permits (stem ++ rest) = false) ∧
      ∀ (d : Console) more, d.MadeWith more → (∀ s, .str s ∈ granted → .str s ∈ more) →
        ∀ permission, c.permits permission = true → d.permits permission = true := by
  refine ⟨exists_madeWith, fun c granted made => ⟨?granted, ?stems, ?alone, ?more⟩⟩
  case granted =>
    intro permission
    simp only [permits_iff, made.grants_iff, wildcard]
  case stems => exact fun permission => stems_eq_fronts permission.toList
  case alone =>
    intro stem only
    have below : ∀ permission, c.permits permission = true ↔
        ∃ rest, permission = stem ++ "." ++ rest :=
      permits_iff_of_wildcard fun s => (made.grants_iff s).trans (only s)
    refine ⟨below, fun rest undotted => ?_⟩
    rw [Bool.eq_false_iff, Ne, below]
    rintro ⟨more, same⟩
    rw [String.append_assoc] at same
    exact undotted more ((String.append_right_inj stem).1 same)
  case more =>
    intro d more madeMore includes permission permitted
    have passed (s : String) (granted : c.grants s = true) : d.grants s = true :=
      (madeMore.grants_iff s).2 (includes s ((made.grants_iff s).1 granted))
    rw [permits_iff] at permitted ⊢
    rcases permitted with star | itself | ⟨stem, rest, split, below⟩
    · exact Or.inl (passed _ star)
    · exact Or.inr (Or.inl (passed _ itself))
    · exact Or.inr (Or.inr ⟨stem, rest, split, passed _ below⟩)

/-- Whoever may do everything in the north may build there, and is not let into the north itself,
nor to the northern border. -/
theorem north_is_open_below : ∃ c : Console, c.MadeWith [.str "world.north.*"] ∧
    c.permits "world.north.build" = true ∧ c.permits "world.north" = false ∧
    c.permits "world.northern" = false := by
  obtain ⟨makes, laws⟩ := wildcards_grant_what_lies_below
  obtain ⟨c, made⟩ := makes ["world.north.*"]
  obtain ⟨-, -, alone, -⟩ := laws c [.str "world.north.*"] made
  obtain ⟨below, beside⟩ := alone "world.north" (by simp)
  have undotted (more : String) : "ern" ≠ "." ++ more := by
    intro same
    have first := congrArg (fun s => s.toList.head?) same
    simp at first
  exact ⟨c, made, (below _).2 ⟨"build", rfl⟩, beside "" (by simp), beside "ern" undotted⟩

end Console

end CommandTree
