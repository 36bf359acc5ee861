/-!
# Windows

A window is an open interval of instants, the shape of every question that is
asked of a store of snapshots.
-/

namespace Metering

/-- The instants strictly between two bounds, in milliseconds since the epoch. -/
structure Window where
  /-- Instants of the window come after this one. -/
  afterMs : Int64
  /-- Instants of the window come before this one. -/
  beforeMs : Int64
deriving Repr, DecidableEq

/-- An instant lies in the window. -/
def Window.Contains (w : Window) (t : Int64) : Prop := w.afterMs < t ∧ t < w.beforeMs

instance (w : Window) (t : Int64) : Decidable (w.Contains t) :=
  inferInstanceAs (Decidable (_ ∧ _))

end Metering
