import Metering.Saturation
import Metering.Window

/-!
# Searching backward

The latest snapshot before an instant is looked for in windows that all end at
that instant and reach back two hours, then four, sixteen, 256 and so on: the
reach in hours is squared at each step. Every window contains the one before
it, so the first one that holds a snapshot holds the latest. The search ends
where a window would reach back to the epoch.

* `Reach`: how far back a window reaches, and `Reach.next?`, the reach after it;
* `Search`: a search that is under way, and `Search.next`, its next window;
* `Search.windows`: all windows that are still to come. Every reach is longer
  than the one before it and has to fit 64 bits, so there are finitely many.
-/

namespace Metering

/-- An hour in milliseconds. -/
def hourMs : Int64 := 3600000

theorem toInt_hourMs : hourMs.toInt = 3600000 := by decide

/-- The reach that follows one of so many hours: the square, unless it is out of range. -/
def nextReach? (hours : Int64) : Option Int64 := Saturation.fits? (hours.toInt * hours.toInt)

/-- How far back a window of a search reaches. -/
structure Reach where
  /-- The reach in hours. -/
  hours : Int64
  /-- More than one hour, so that squaring makes it longer. -/
  one_lt_hours : 1 < hours.toInt
deriving Repr, DecidableEq

namespace Reach

/-- The reach of the first window, two hours. -/
def first : Reach := ⟨2, by decide⟩

theorem one_lt_of_nextReach? {h h' : Int64} (lt : 1 < h.toInt) (eq : nextReach? h = some h') :
    1 < h'.toInt ∧ h.toInt < h'.toInt := by
  have hmul : h'.toInt = h.toInt * h.toInt := Saturation.fits?_eq_some_iff.1 eq
  have hle : h.toInt * 2 ≤ h.toInt * h.toInt :=
    Int.mul_le_mul_of_nonneg_left (by omega) (by omega)
  omega

/-- The reach of the window after this one, unless it is out of range. -/
def next? (r : Reach) : Option Reach :=
  match eq : nextReach? r.hours with
  | none => none
  | some hours => some ⟨hours, (one_lt_of_nextReach? r.one_lt_hours eq).1⟩

theorem lt_of_next? {r s : Reach} (h : r.next? = some s) : r.hours.toInt < s.hours.toInt := by
  unfold next? at h
  split at h
  · cases h
  · next hours eq =>
    cases h
    exact (one_lt_of_nextReach? r.one_lt_hours eq).2

/-- The instant that lies this far before `t`, unless it is out of range. -/
def before? (r : Reach) (t : Int64) : Option Int64 :=
  (Saturation.fits? (hourMs.toInt * r.hours.toInt)).bind fun ms =>
    Saturation.fits? (t.toInt - ms.toInt)

end Reach

/-- A search for the latest snapshot before an instant. -/
structure Search where
  /-- The instant before which the snapshot is looked for. -/
  beforeMs : Int64
  /-- The reach of the next window; nothing once the search has ended. -/
  reach? : Option Reach
deriving Repr, DecidableEq

namespace Search

/-- The search before the instant `t`, from its first window on. -/
def before (t : Int64) : Search := ⟨t, some Reach.first⟩

/-- The search after its end. -/
def ended (s : Search) : Search := { s with reach? := none }

/-- The next window, if there is one, and the search after it. -/
def next (s : Search) : Option Window × Search :=
  match s.reach? with
  | none => (none, s)
  | some r =>
    match r.before? s.beforeMs with
    | none => (none, s.ended)
    | some afterMs =>
      if afterMs ≤ 0 then (none, s.ended)
      else (some ⟨afterMs, s.beforeMs⟩, { s with reach? := r.next? })

/-- What is left of the range of reaches, as a measure of the windows to come. -/
def room (s : Search) : Nat :=
  match s.reach? with
  | none => 0
  | some r => (0x8000000000000000 - r.hours.toInt).toNat

theorem room_next_lt {s s' : Search} {w : Window} (h : s.next = (some w, s')) :
    s'.room < s.room := by
  unfold next at h
  split at h
  · cases h
  · next r hr =>
    split at h
    · cases h
    · next afterMs _ =>
      split at h
      · cases h
      · cases h
        simp only [room, hr]
        have := r.hours.toInt_lt
        split
        · omega
        · next r' hr' =>
          have := Reach.lt_of_next? hr'
          omega

/-- The windows that are still to come, in order, and the search after them. -/
def run (s : Search) : List Window × Search :=
  match _h : s.next with
  | (none, s') => ([], s')
  | (some w, s') =>
    let (ws, last) := s'.run
    (w :: ws, last)
termination_by s.room
decreasing_by exact room_next_lt _h

/-- The windows that are still to come, in order. -/
def windows (s : Search) : List Window := s.run.1

end Search

end Metering
