/-!
# What callers hand over

Where a function is expected, a caller may hand over nothing, or something that cannot be called.
Whether that is an error depends on the place.
-/

namespace CommandTree

/-- A function that a caller hands over: none at all, one that can be called, or something else. -/
inductive Handed (α : Type) where
  | nothing
  | callable (f : α)
  | other

end CommandTree
