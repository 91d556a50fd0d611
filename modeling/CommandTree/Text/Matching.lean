import CommandTree.Text.Case

/-!
# Matching words

Two words match when they are equal, or equal after case folding where case is ignored. A word
continues what has been typed when its key starts with the key of that.
-/

namespace CommandTree.Text

/-- What two words are compared by. -/
def key (ignoresCase : Bool) (s : String) : List Char :=
  if ignoresCase then foldList s.toList else s.toList

def sameWord (ignoresCase : Bool) (s t : String) : Bool :=
  key ignoresCase s == key ignoresCase t

/-- Whether a word starts with what has been typed. -/
def continues (ignoresCase : Bool) (typed word : String) : Bool :=
  (key ignoresCase typed).isPrefixOf (key ignoresCase word)

/-- The candidates that start with what has been typed, in their order and as they are spelled. -/
def continuations (ignoresCase : Bool) (typed : String) (candidates : List String) : List String :=
  candidates.filter (continues ignoresCase typed)

@[simp] theorem key_false (s : String) : key false s = s.toList := rfl

theorem sameWord_self (ignoresCase : Bool) (s : String) : sameWord ignoresCase s s = true := by
  simp [sameWord]

theorem continues_iff {ignoresCase : Bool} {typed word : String} :
    continues ignoresCase typed word = true ↔ key ignoresCase typed <+: key ignoresCase word := by
  simp [continues]

end CommandTree.Text
