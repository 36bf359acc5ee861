import Metering.Cron
import Metering.Retention

/-!
# The retention worker

In the background of a service a worker runs retention passes at a fixed
interval, the first one at once, and compacts the store: at another interval,
or at the instants of a schedule. Compactions are requested by a task of its
own that sleeps until its next instant and then leaves a request; there is room
for one request.

Time is counted in seconds from the start of the worker, on a clock that never
stops. The store takes none of it, so the clock only moves when nothing is left to do.

* `Worker.Plan`: when the worker does what;
* `Worker.step?`: what happens next, up to a last instant; where a pass and a
  compaction are both due, either may come first;
* `Worker.run`: what the worker does up to that instant, and what has become of it.
-/

namespace Metering.Retention

/-- How a retention worker is set up. -/
structure Settings where
  /-- The interval of retention passes, in seconds. -/
  purgeIntervalSecs : UInt64
  /-- The number of days for which snapshots are kept. -/
  retentionDays : UInt32
  /-- The schedule of compactions, if there is one. -/
  vacuumSchedule? : Option String
  /-- The interval of compactions without a schedule, in seconds. -/
  vacuumIntervalSecs : UInt64
deriving Repr, DecidableEq

/-- When compactions are requested. -/
inductive Compactions where
  /-- After every interval of so many seconds, which lets time pass. -/
  | every (secs : Nat) (pos : 0 < secs)
  /-- At the instants of a schedule. -/
  | on (schedule : Cron.Schedule)
deriving Repr, DecidableEq

namespace Compactions

/-- The compactions that the settings ask for, by the schedule if there is one. No
    time lies between them if it cannot be read, or if the interval is zero. -/
def ofSettings? [Cron.Reader] (s : Settings) : Option Compactions :=
  match s.vacuumSchedule? with
  | none =>
    if h : 0 < s.vacuumIntervalSecs.toNat then some (every s.vacuumIntervalSecs.toNat h) else none
  | some text => (Cron.Reader.read? text).map on

/-- The next request after the instant `t`, for a worker that was started at the
    local time `startSecs`. -/
def next? (c : Compactions) (startSecs t : Nat) : Option Nat :=
  let u? := match c with
    | every secs _ => some (t + secs)
    | on schedule => (schedule.nextAfter? (startSecs + t)).map (· - startSecs)
  u?.filter (t < ·)

theorem lt_of_next? {c : Compactions} {startSecs t u : Nat} (h : c.next? startSecs t = some u) :
    t < u := by
  simp only [next?, Option.filter_eq_some_iff, decide_eq_true_eq] at h
  exact h.2

end Compactions

namespace Worker

/-- When a worker does what. -/
structure Plan where
  /-- The interval of retention passes, in seconds. -/
  purgeEvery : Nat
  /-- The interval lets time pass. -/
  purgeEvery_pos : 0 < purgeEvery
  /-- The number of days for which snapshots are kept. -/
  retentionDays : UInt32
  /-- When compactions are requested. -/
  compactions : Compactions

/-- The plan that the settings ask for, if time passes between passes and between
    compactions. -/
def Plan.ofSettings? [Cron.Reader] (s : Settings) : Option Plan :=
  if h : 0 < s.purgeIntervalSecs.toNat then
    (Compactions.ofSettings? s).map (⟨s.purgeIntervalSecs.toNat, h, s.retentionDays, ·⟩)
  else none

/-- What a worker does. -/
inductive Task where
  /-- A retention pass, purging what is before an instant. -/
  | purge (cutoffMs : Int64)
  /-- A compaction. -/
  | compact
deriving Repr, DecidableEq

/-- Something that a worker did. -/
structure Event where
  /-- The second at which it did so. -/
  atSecs : Nat
  /-- What it did. -/
  task : Task
deriving Repr, DecidableEq

/-- The circumstances of a run: its beginning, its end, and what the program leaves open. -/
structure Circumstances where
  /-- The time at which the worker starts, in milliseconds since the epoch. Its zone is
      that of the epoch. -/
  startMs : Nat
  /-- The last second of the run. -/
  lastSecs : Nat
  /-- At this second a pass comes before a compaction if both are due. -/
  purgeFirst : Nat → Bool

/-- The time in milliseconds since the epoch at a second of the run, in 64 bits. -/
def Circumstances.clockMs (c : Circumstances) (secs : Nat) : Int64 :=
  Int64.ofNat (c.startMs + 1000 * secs)

/-- A worker and its store at some point of a run. -/
structure State (σ : Type) where
  /-- The second of the run. -/
  now : Nat := 0
  /-- The second of the next pass. -/
  purgeAt : Nat := 0
  /-- The second of the next request for a compaction. -/
  requestAt? : Option Nat
  /-- A compaction has been requested. -/
  isRequested : Bool := false
  /-- The store. -/
  store : σ

variable {σ : Type} [SnapshotStore σ]

/-- A worker at its start. -/
def State.start (plan : Plan) (c : Circumstances) (store : σ) : State σ :=
  { requestAt? := plan.compactions.next? (c.startMs / 1000) 0, store }

/-- The second for which a request is due by the last second of the run, if there
    is room for it. -/
def State.requestDue? (s : State σ) (lastSecs : Nat) : Option Nat :=
  if s.isRequested then none else s.requestAt?.filter fun t => t ≤ s.now && t ≤ lastSecs

/-- A pass is due by the last second of the run. -/
def State.passDue (s : State σ) (lastSecs : Nat) : Bool :=
  s.purgeAt ≤ s.now && s.purgeAt ≤ lastSecs

/-- The second at which the next task wakes up. -/
def State.wakeAt (s : State σ) : Nat := (s.requestAt?.map (min s.purgeAt)).getD s.purgeAt

/-- A retention pass. Whether it fails makes no difference to the worker. -/
def pass (plan : Plan) (c : Circumstances) (s : State σ) : Event × State σ :=
  let nowMs := c.clockMs s.now
  let (_, store) := (Retention.pass nowMs plan.retentionDays).run s.store
  (⟨s.now, .purge (cutoff nowMs plan.retentionDays)⟩,
    { s with purgeAt := s.purgeAt + plan.purgeEvery, store })

/-- A compaction. Whether it fails makes no difference to the worker. -/
def compaction (s : State σ) : Event × State σ :=
  let (_, store) := (SnapshotStore.compact (σ := σ)).run s.store
  (⟨s.now, .compact⟩, { s with isRequested := false, store })

/-- What happens next: a request is left, or the worker does something that is
    due, or the clock moves on to the next task. After the last second nothing happens. -/
def step? (plan : Plan) (c : Circumstances) (s : State σ) : Option (Option Event × State σ) :=
  match s.requestDue? c.lastSecs with
  | some _ => some (none, { s with
      isRequested := true
      requestAt? := plan.compactions.next? (c.startMs / 1000) s.now })
  | none =>
    if s.isRequested && !(s.passDue c.lastSecs && c.purgeFirst s.now) then
      let (event, s') := compaction s
      some (some event, s')
    else if s.passDue c.lastSecs then
      let (event, s') := pass plan c s
      some (some event, s')
    else if s.now < s.wakeAt ∧ s.wakeAt ≤ c.lastSecs then
      some (none, { s with now := s.wakeAt })
    else none

/-- What is left to do up to the last second: passes and compactions, counted
    by the seconds in which they may fall due. -/
def State.work (s : State σ) (lastSecs : Nat) : Nat :=
  2 * (lastSecs + 1 - s.purgeAt) + 2 * ((s.requestAt?.map (lastSecs + 1 - ·)).getD 0) +
    if s.isRequested then 1 else 0

theorem step?_decreases {plan : Plan} {c : Circumstances} {s s' : State σ} {event : Option Event}
    (h : step? plan c s = some (event, s')) :
    s'.work c.lastSecs < s.work c.lastSecs ∨
      s'.work c.lastSecs = s.work c.lastSecs ∧ c.lastSecs - s'.now < c.lastSecs - s.now := by
  unfold step? at h
  split at h
  · next t ht =>
    cases h
    left
    simp only [State.requestDue?] at ht
    split at ht
    · cases ht
    · next hr =>
      simp only [Option.filter_eq_some_iff, Bool.and_eq_true, decide_eq_true_eq] at ht
      obtain ⟨hat, hnow, hlast⟩ := ht
      simp only [State.work, hat, hr]
      cases hn : plan.compactions.next? (c.startMs / 1000) s.now with
      | none => simp; omega
      | some u =>
        have := Compactions.lt_of_next? hn
        simp
        omega
  · split at h
    · next hr =>
      cases h
      left
      simp only [Bool.and_eq_true] at hr
      simp [State.work, hr.1]
    · split at h
      · next hdue =>
        cases h
        left
        simp only [State.passDue, Bool.and_eq_true, decide_eq_true_eq] at hdue
        have := plan.purgeEvery_pos
        simp only [State.work]
        omega
      · split at h
        · next hw =>
          cases h
          right
          exact ⟨rfl, by simp only; omega⟩
        · cases h

/-- What the worker does from some point of a run on, and its state at the end. -/
def runFrom (plan : Plan) (c : Circumstances) (s : State σ) : List Event × State σ :=
  match _h : step? plan c s with
  | none => ([], s)
  | some (event, s') =>
    let (events, last) := runFrom plan c s'
    (event.toList ++ events, last)
termination_by (s.work c.lastSecs, c.lastSecs - s.now)
decreasing_by
  rcases step?_decreases _h with h | ⟨h, h'⟩
  · exact Prod.Lex.left _ _ h
  · rw [h]
    exact Prod.Lex.right _ h'

/-- What has become of a worker by the last second of a run. -/
inductive Fate (σ : Type) where
  /-- It has ended by itself, and this is the store that it leaves. -/
  | ended (store : σ)
  /-- It compacts over and over: no time lies between the requests, or there is nobody
      left to send them, which it takes for a request each time it looks. -/
  | races
  /-- It waits for what is next. -/
  | waits (s : State σ)

/-- What a worker does up to the last second of the circumstances, and what has become
    of it then. Without an interval for its passes it ends before it does anything. What
    it does without a plan for compactions has no end, and is not listed. -/
def run [Cron.Reader] (s : Settings) (c : Circumstances) (store : σ) : List Event × Fate σ :=
  if s.purgeIntervalSecs = 0 then ([], .ended store)
  else
    match Plan.ofSettings? s with
    | none => ([], .races)
    | some plan =>
      let (events, last) := runFrom plan c (State.start plan c store)
      (events, .waits last)

end Worker

end Metering.Retention
