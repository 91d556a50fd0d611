/-!
# Bindings

Names bound to values, in the order in which the names were first bound. Binding a name again
changes its value and keeps its place.
-/

namespace CommandTree

abbrev Bindings (α : Type) := List (String × α)

namespace Bindings

variable {α : Type}

def get? (b : Bindings α) (name : String) : Option α :=
  (b.find? fun e => e.1 == name).map Prod.snd

def has (b : Bindings α) (name : String) : Bool :=
  b.any fun e => e.1 == name

def names (b : Bindings α) : List String := b.map Prod.fst

def set (b : Bindings α) (name : String) (value : α) : Bindings α :=
  match b with
  | [] => [(name, value)]
  | e :: rest => if e.1 = name then (name, value) :: rest else e :: set rest name value

/-- Binds all names of the second, in its order. -/
def overlay (b c : Bindings α) : Bindings α :=
  c.foldl (fun b e => set b e.1 e.2) b

@[simp] theorem get?_nil (name : String) : get? ([] : Bindings α) name = none := rfl

theorem get?_cons (e : String × α) (b : Bindings α) (name : String) :
    get? (e :: b) name = if e.1 = name then some e.2 else get? b name := by
  by_cases h : e.1 = name <;> simp [get?, h]

/-- What a name is bound to after binding one. -/
theorem get?_set (b : Bindings α) (x y : String) (value : α) :
    get? (set b x value) y = if x = y then some value else get? b y := by
  induction b with
  | nil => simp [set, get?_cons]
  | cons e rest ih =>
    unfold set
    by_cases he : e.1 = x
    · rw [if_pos he, get?_cons, get?_cons]
      by_cases hxy : x = y <;> simp [he, hxy]
    · rw [if_neg he, get?_cons, get?_cons, ih]
      by_cases hey : e.1 = y
      · have hxy : ¬ x = y := fun h => he (hey.trans h.symm)
        simp [hey, hxy]
      · simp [hey]

end Bindings

end CommandTree
