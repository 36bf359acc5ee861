import Metering.Proofs.Watched
import Metering.Retention.Worker

/-!
# A worker on time

The clock of a worker only moves to the next second at which something is due, and
what is due is done before it moves again. So nothing that a worker does is late,
lost or done twice, whatever its store answers, and whichever of a pass and a
compaction comes first in a second that both fall in.

* `instants`, `requests`: when passes fall due, and when compactions;
* `Step`: what a worker can do next, one case for each kind of step;
* `OnTime`: the clock has not passed by what is still to be done; a step keeps this;
* `Run.passes`, `Run.compactions`: what is done from some point of a run on is what
  falls due from there on;
* `Run.calls`: the store is not asked for anything else;
* `goesOn_of_plan`: a worker with a plan goes on for ever;
* `run_at_intervals`: passes and compactions at fixed intervals.
-/

namespace Metering.Retention.Worker

variable {σ : Type} {plan : Plan} {c : Circumstances}

/-! ### What falls due -/

/-- The seconds from `first` on at steps of `every`, up to the last second of a run. -/
def instants (first every last : Nat) : List Nat :=
  List.range' first ((last + every - first) / every) every

theorem instants_of_le {first every last : Nat} (hpos : 0 < every) (h : first ≤ last) :
    instants first every last = first :: instants (first + every) every last := by
  have hcount : (last + every - first) / every = (last + every - (first + every)) / every + 1 := by
    rw [← Nat.add_div_right _ hpos]
    congr 1
    omega
  rw [instants, hcount, List.range'_succ, instants]

theorem instants_of_lt {first every last : Nat} (hpos : 0 < every) (h : last < first) :
    instants first every last = [] := by
  rw [instants, Nat.div_eq_of_lt (by omega)]
  rfl

/-- The seconds at which compactions are requested, from a given one on and up to the
    last second of a run. -/
def requests (plan : Plan) (c : Circumstances) : Option Nat → List Nat
  | none => []
  | some t =>
    if t ≤ c.lastSecs then t :: requests plan c (plan.compactions.next? (c.startMs / 1000) t)
    else []
termination_by t? => (t?.map (c.lastSecs + 1 - ·)).getD 0
decreasing_by
  rcases hnext : plan.compactions.next? (c.startMs / 1000) t with _ | u
  · simp only [Option.map_none, Option.map_some, Option.getD_none, Option.getD_some]
    omega
  · have := Compactions.lt_of_next? hnext
    simp only [Option.map_some, Option.getD_some]
    omega

theorem requests_of_le {t : Nat} (h : t ≤ c.lastSecs) : requests plan c (some t) =
    t :: requests plan c (plan.compactions.next? (c.startMs / 1000) t) := by
  rw [requests, if_pos h]

theorem requests_of_forall_lt {t? : Option Nat} (h : ∀ t ∈ t?, c.lastSecs < t) :
    requests plan c t? = [] := by
  rcases t? with _ | t
  · rw [requests]
  · rw [requests, if_neg (Nat.not_le.2 (h t rfl))]

/-! ### On time -/

/-- The clock has not passed by what is still to be done. -/
structure OnTime (s : State σ) : Prop where
  pass : s.now ≤ s.purgeAt
  request : ∀ t ∈ s.requestAt?, s.now ≤ t

theorem OnTime.start (plan : Plan) (c : Circumstances) (store : σ) :
    OnTime (State.start plan c store) :=
  ⟨Nat.zero_le _, fun _ _ => Nat.zero_le _⟩

theorem State.wakeAt_le (s : State σ) :
    s.wakeAt ≤ s.purgeAt ∧ ∀ t ∈ s.requestAt?, s.wakeAt ≤ t := by
  rw [State.wakeAt]
  rcases s.requestAt? with _ | t
  · simp
  · simp only [Option.map_some, Option.getD_some, Option.mem_some_iff, forall_eq']
    omega

/-! ### Steps -/

variable [SnapshotStore σ] {s s' : State σ} {event : Option Event}

/-- What can happen next to a worker: an event or none, and the state after it. -/
inductive Step (plan : Plan) (c : Circumstances) (s : State σ) : Option Event → State σ → Prop
  /-- A request falls due, and is left for the worker. -/
  | request {t : Nat} : s.isRequested = false → s.requestAt? = some t → t ≤ s.now →
      t ≤ c.lastSecs → Step plan c s none { s with
        isRequested := true
        requestAt? := plan.compactions.next? (c.startMs / 1000) s.now }
  /-- The worker compacts, since that was requested. -/
  | compaction : s.isRequested = true →
      Step plan c s (some ⟨s.now, .compact⟩) (compaction s).2
  /-- A pass falls due, and the worker makes it. -/
  | pass : s.purgeAt ≤ s.now → s.purgeAt ≤ c.lastSecs →
      Step plan c s (some ⟨s.now, .purge (cutoff (c.clockMs s.now) plan.retentionDays)⟩)
        (pass plan c s).2
  /-- Nothing is due, and the clock moves on. -/
  | clock : s.isRequested = false → s.now < s.wakeAt → s.wakeAt ≤ c.lastSecs →
      Step plan c s none { s with now := s.wakeAt }

theorem step_of_step? (h : step? plan c s = some (event, s')) : Step plan c s event s' := by
  unfold step? at h
  split at h
  · next t hdue =>
    cases h
    simp only [State.requestDue?] at hdue
    split at hdue
    · cases hdue
    · next hr =>
      simp only [Option.filter_eq_some_iff, Bool.and_eq_true, decide_eq_true_eq] at hdue
      exact .request (by simpa using hr) hdue.1 hdue.2.1 hdue.2.2
  · split at h
    · next hr =>
      cases h
      simp only [Bool.and_eq_true] at hr
      exact .compaction hr.1
    · next hr =>
      split at h
      · next hdue =>
        cases h
        simp only [State.passDue, Bool.and_eq_true, decide_eq_true_eq] at hdue
        exact .pass hdue.1 hdue.2
      · next hdue =>
        split at h
        · next hw =>
          cases h
          exact .clock (by simpa [hdue] using hr) hw.1 hw.2
        · cases h

/-- When nothing more happens by the last second, all that is planned is planned for later. -/
theorem later_of_step?_eq_none (h : step? plan c s = none) :
    c.lastSecs < s.purgeAt ∧ s.isRequested = false ∧ ∀ t ∈ s.requestAt?, c.lastSecs < t := by
  unfold step? at h
  split at h
  · cases h
  · next hdue =>
    split at h
    · cases h
    · next hr =>
      split at h
      · cases h
      · next hpass =>
        split at h
        · cases h
        · next hwake =>
          have hfree : s.isRequested = false := by simpa [hpass] using hr
          simp only [State.passDue, Bool.and_eq_true, decide_eq_true_eq] at hpass
          simp only [State.requestDue?, hfree, Bool.false_eq_true, if_false,
            Option.filter_eq_none_iff, Bool.and_eq_true, decide_eq_true_eq] at hdue
          simp only [State.wakeAt] at hwake
          rcases hat : s.requestAt? with _ | t
          · simp only [hat, Option.map_none, Option.getD_none] at hwake
            exact ⟨by omega, hfree, by simp⟩
          · have hlate := hdue t hat
            simp only [hat, Option.map_some, Option.getD_some] at hwake
            simp only [Option.mem_some_iff, forall_eq']
            exact ⟨by omega, hfree, by omega⟩

/-- A worker whose next pass falls due by the last second has something to do. -/
theorem isSome_step?_of_le (h : s.purgeAt ≤ c.lastSecs) : (step? plan c s).isSome := by
  rw [← Option.ne_none_iff_isSome]
  intro hnone
  exact absurd (later_of_step?_eq_none hnone).1 (Nat.not_lt.2 h)

theorem OnTime.step (h : OnTime s) (hstep : Step plan c s event s') : OnTime s' := by
  cases hstep with
  | request _ _ _ _ =>
    exact ⟨h.pass, fun u hu => Nat.le_of_lt (Compactions.lt_of_next? hu)⟩
  | compaction _ => exact ⟨h.pass, h.request⟩
  | pass _ _ => exact ⟨Nat.le_add_right_of_le h.pass, h.request⟩
  | clock _ _ _ => exact ⟨s.wakeAt_le.1, s.wakeAt_le.2⟩

/-! ### Runs -/

/-- A run from a state on: the events up to the last second, and the state in which
    nothing more happens by then. -/
inductive Run (plan : Plan) (c : Circumstances) : State σ → List Event → State σ → Prop
  | stop {s : State σ} : step? plan c s = none → Run plan c s [] s
  | next {s s' last : State σ} {event : Option Event} {events : List Event} :
      Step plan c s event s' → Run plan c s' events last →
      Run plan c s (event.toList ++ events) last

theorem run_runFrom (plan : Plan) (c : Circumstances) (s : State σ) :
    Run plan c s (runFrom plan c s).1 (runFrom plan c s).2 := by
  fun_induction runFrom plan c s with
  | case1 s hnone => exact .stop hnone
  | case2 s event s' hsome events last hrun ih =>
    rw [hrun] at ih
    exact .next (step_of_step? hsome) ih

/-- The retention pass at a second of a run. -/
def passAt (plan : Plan) (c : Circumstances) (t : Nat) : Event :=
  ⟨t, .purge (cutoff (c.clockMs t) plan.retentionDays)⟩

/-- The compaction at a second of a run. -/
def compactionAt (t : Nat) : Event := ⟨t, .compact⟩

/-- The event is a compaction. -/
def Event.isCompaction (e : Event) : Bool := e.task = .compact

section Runs

variable {last : State σ} {events : List Event}

/-- The passes of a run are those that fall due from its beginning on. -/
theorem Run.passes (hrun : Run plan c s events last) (h : OnTime s) :
    events.filter (!·.isCompaction) =
      (instants s.purgeAt plan.purgeEvery c.lastSecs).map (passAt plan c) := by
  induction hrun with
  | stop hnone =>
    rw [instants_of_lt plan.purgeEvery_pos (later_of_step?_eq_none hnone).1]
    rfl
  | @next s s' last event events hstep _ ih =>
    rw [List.filter_append, ih (h.step hstep)]
    cases hstep with
    | request _ _ _ _ => rfl
    | compaction _ => rfl
    | pass hdue hlast =>
      -- The clock has not passed by the pass, so it is made at its second.
      have hnow : passAt plan c s.purgeAt = passAt plan c s.now :=
        congrArg _ (Nat.le_antisymm hdue h.pass)
      rw [instants_of_le plan.purgeEvery_pos hlast, List.map_cons, hnow]
      rfl
    | clock _ _ _ => rfl

/-- The compactions of a run are one for a request that has been left, and those for
    the requests that fall due from its beginning on. -/
theorem Run.compactions (hrun : Run plan c s events last) (h : OnTime s) :
    events.filter (·.isCompaction) =
      ((if s.isRequested then [s.now] else []) ++ requests plan c s.requestAt?).map
        compactionAt := by
  induction hrun with
  | stop hnone =>
    obtain ⟨-, hfree, hlater⟩ := later_of_step?_eq_none hnone
    rw [hfree, requests_of_forall_lt hlater]
    rfl
  | @next s s' last event events hstep _ ih =>
    rw [List.filter_append, ih (h.step hstep)]
    cases hstep with
    | request hfree hat hdue hlast =>
      have hnow := Nat.le_antisymm hdue (h.request _ hat)
      rw [hat, requests_of_le hlast, hnow, hfree]
      rfl
    | compaction hr =>
      rw [hr]
      rfl
    | pass _ _ => rfl
    | clock hfree _ _ =>
      simp only [hfree]
      rfl

/-- The events of a run are in the order of their seconds. -/
theorem Run.pairwise (hrun : Run plan c s events last) (h : OnTime s) :
    events.Pairwise (·.atSecs ≤ ·.atSecs) ∧ ∀ e ∈ events, s.now ≤ e.atSecs := by
  induction hrun with
  | stop _ => exact ⟨.nil, by simp⟩
  | @next s s' last event events hstep _ ih =>
    obtain ⟨hsorted, hlater⟩ := ih (h.step hstep)
    cases hstep with
    | request _ _ _ _ => exact ⟨hsorted, hlater⟩
    | compaction _ => exact ⟨.cons hlater hsorted, List.forall_mem_cons.2 ⟨Nat.le_refl _, hlater⟩⟩
    | pass _ _ => exact ⟨.cons hlater hsorted, List.forall_mem_cons.2 ⟨Nat.le_refl _, hlater⟩⟩
    | clock _ hlt _ => exact ⟨hsorted, fun e he => Nat.le_trans (Nat.le_of_lt hlt) (hlater e he)⟩

end Runs

/-! ### What the store is asked -/

/-- What a task asks of the store. -/
def Task.call : Task → Call
  | purge cutoffMs => .purge cutoffMs
  | compact => .compact

/-- On a watched store, a run puts the questions of its events on record, and no others. -/
theorem Run.calls {s last : State (Watched σ)} {events : List Event}
    (hrun : Run plan c s events last) :
    last.store.calls = s.store.calls ++ events.map (·.task.call) := by
  induction hrun with
  | stop _ => simp
  | next hstep _ ih =>
    rw [ih, List.map_append, ← List.append_assoc]
    congr 1
    cases hstep with
    | request _ _ _ _ => exact (List.append_nil _).symm
    | compaction _ => rfl
    | pass _ _ => rfl
    | clock _ _ _ => exact (List.append_nil _).symm

/-! ### Workers with a plan -/

/-- Compactions have a plan by the interval, without a schedule. -/
theorem ofSettings?_of_none [Cron.Reader] {settings : Settings}
    (hschedule : settings.vacuumSchedule? = none) (h : 0 < settings.vacuumIntervalSecs) :
    ∃ pos, Compactions.ofSettings? settings =
      some (.every settings.vacuumIntervalSecs.toNat pos) := by
  have pos : 0 < settings.vacuumIntervalSecs.toNat := UInt64.lt_iff_toNat_lt.1 h
  refine ⟨pos, ?_⟩
  simp only [Compactions.ofSettings?, hschedule, dif_pos pos]

/-- With a plan for compactions, an interval is enough for a worker to have a plan. -/
theorem ofSettings?_of_compactions [Cron.Reader] {settings : Settings} {compactions : Compactions}
    (h : 0 < settings.purgeIntervalSecs)
    (hcompactions : Compactions.ofSettings? settings = some compactions) :
    ∃ pos, Plan.ofSettings? settings =
      some ⟨settings.purgeIntervalSecs.toNat, pos, settings.retentionDays, compactions⟩ := by
  have pos : 0 < settings.purgeIntervalSecs.toNat := UInt64.lt_iff_toNat_lt.1 h
  refine ⟨pos, ?_⟩
  rw [Plan.ofSettings?, dif_pos pos, hcompactions, Option.map_some]

/-- A worker with a plan waits when the last second is over, and what it does until then
    is a run from its start. -/
theorem run_of_plan [Cron.Reader] {settings : Settings}
    (hplan : Plan.ofSettings? settings = some plan) (c : Circumstances) (store : σ) :
    ∃ events s, run settings c store = (events, .waits s) ∧
      Run plan c (.start plan c store) events s := by
  have hne : ¬settings.purgeIntervalSecs = 0 := by
    intro hzero
    rw [Plan.ofSettings?, hzero] at hplan
    cases hplan
  refine ⟨_, _, ?_, run_runFrom plan c (.start plan c store)⟩
  rw [run, if_neg hne, hplan]

/-- The passes of a worker with a plan fall on the multiples of its interval. -/
theorem Run.passes_of_start {store : σ} {events : List Event} {last : State σ}
    (hrun : Run plan c (.start plan c store) events last) :
    events.filter (!·.isCompaction) =
      (List.range' 0 (c.lastSecs / plan.purgeEvery + 1) plan.purgeEvery).map (passAt plan c) := by
  rw [hrun.passes (.start plan c store), State.start, instants, Nat.sub_zero,
    Nat.add_div_right _ plan.purgeEvery_pos]

/-- A worker goes on, whatever its store answers: up to any last second it makes its
    passes and then waits, and as time goes on it has something to do. -/
def GoesOn [Cron.Reader] (settings : Settings) (plan : Plan) : Prop :=
  ∀ (σ : Type) [SnapshotStore σ] (c : Circumstances) (store : σ), ∃ events s,
    run settings c store = (events, .waits s) ∧
      events.filter (!·.isCompaction) =
        (List.range' 0 (c.lastSecs / plan.purgeEvery + 1) plan.purgeEvery).map (passAt plan c) ∧
      ∀ later, s.purgeAt ≤ later → (step? plan { c with lastSecs := later } s).isSome

theorem goesOn_of_plan [Cron.Reader] {settings : Settings}
    (hplan : Plan.ofSettings? settings = some plan) : GoesOn settings plan := by
  intro σ _ c store
  obtain ⟨events, s, hrun, hevents⟩ := run_of_plan hplan c store
  exact ⟨events, s, hrun, hevents.passes_of_start, fun later hle => isSome_step?_of_le hle⟩

/-- Requests at an interval fall on every instant of it. -/
theorem requests_of_every {secs : Nat} {pos : 0 < secs} (h : plan.compactions = .every secs pos)
    (t : Nat) : requests plan c (some t) = instants t secs c.lastSecs := by
  -- The induction is on the time that is left.
  induction hleft : c.lastSecs + 1 - t using Nat.strongRecOn generalizing t with
  | ind left ih =>
    have hnext : plan.compactions.next? (c.startMs / 1000) t = some (t + secs) := by
      simp [h, Compactions.next?, pos]
    by_cases hle : t ≤ c.lastSecs
    · rw [requests_of_le hle, instants_of_le pos hle, hnext, ih _ (by omega) (t + secs) rfl]
    · rw [requests_of_forall_lt fun u hu => by cases hu; omega, instants_of_lt pos (by omega)]

theorem Run.compactions_of_every {secs : Nat} {pos : 0 < secs} {store : σ} {events : List Event}
    {last : State σ} (h : plan.compactions = .every secs pos)
    (hrun : Run plan c (.start plan c store) events last) :
    events.filter (·.isCompaction) =
      (List.range' secs (c.lastSecs / secs) secs).map compactionAt := by
  have hnext : plan.compactions.next? (c.startMs / 1000) 0 = some secs := by
    simp [h, Compactions.next?, pos]
  rw [hrun.compactions (.start plan c store), State.start, hnext, requests_of_every h, instants,
    Nat.add_sub_cancel]
  rfl

/-- A worker without an interval for its passes ends, and its store has not been asked for
    anything. One with two intervals makes a pass at every multiple of the first, from the
    start on, and a compaction at every multiple of the second, each once and at its second,
    and asks the store for nothing else. It never ends: at the last second it waits, and as
    long as time goes on it has something to do. -/
theorem run_at_intervals [Cron.Reader] (settings : Settings) (c : Circumstances)
    (store : σ) :
    (settings.purgeIntervalSecs = 0 →
      run settings c (⟨store, []⟩ : Watched σ) = ([], .ended ⟨store, []⟩)) ∧
    (0 < settings.purgeIntervalSecs → 0 < settings.vacuumIntervalSecs →
      settings.vacuumSchedule? = none →
      let p := settings.purgeIntervalSecs.toNat
      let v := settings.vacuumIntervalSecs.toNat
      ∃ plan events s, Plan.ofSettings? settings = some plan ∧
        run settings c (⟨store, []⟩ : Watched σ) = (events, .waits s) ∧
        events.filter (!·.isCompaction) = (List.range' 0 (c.lastSecs / p + 1) p).map
          (fun t => ⟨t, .purge (cutoff (c.clockMs t) settings.retentionDays)⟩) ∧
        events.filter (·.isCompaction) = (List.range' v (c.lastSecs / v) v).map (⟨·, .compact⟩) ∧
        events.Pairwise (·.atSecs ≤ ·.atSecs) ∧
        s.store.calls = events.map (·.task.call) ∧
        ∀ later, s.purgeAt ≤ later → (step? plan { c with lastSecs := later } s).isSome) := by
  refine ⟨fun hzero => ?_, fun hpurge hvacuum hschedule => ?_⟩
  · rw [run, if_pos hzero]
  · obtain ⟨_, hcompactions⟩ := ofSettings?_of_none hschedule hvacuum
    obtain ⟨_, hplan⟩ := ofSettings?_of_compactions hpurge hcompactions
    obtain ⟨events, s, hrun, hevents⟩ := run_of_plan hplan c (⟨store, []⟩ : Watched σ)
    exact ⟨_, events, s, hplan, hrun, hevents.passes_of_start, hevents.compactions_of_every rfl,
      (hevents.pairwise (.start _ c _)).1, hevents.calls.trans (List.nil_append _),
      fun later hle => isSome_step?_of_le hle⟩

/-- A worker that makes passes every two seconds and compacts every three, and whose store
    fails at first: both are done in the sixth second, and nothing else is. -/
theorem run_at_intervals_after_failures :
    let settings : Settings := ⟨2, 30, none, 3⟩
    let c : Circumstances := ⟨1800000000000, 7, fun t => t = 6⟩
    let store : Script :=
      { purges := [.error "locked", .error "locked"], compactions? := some [.error "busy"] }
    0 < settings.purgeIntervalSecs ∧ 0 < settings.vacuumIntervalSecs ∧
      settings.vacuumSchedule? = none ∧
      ∃ events s, run settings c (⟨store, []⟩ : Watched Script) = (events, .waits s) ∧
        (events.filter (!·.isCompaction)).map (·.atSecs) = [0, 2, 4, 6] ∧
        (events.filter (·.isCompaction)).map (·.atSecs) = [3, 6] ∧
        s.store.calls = events.map (·.task.call) := by
  intro settings c store
  have hpurge : 0 < settings.purgeIntervalSecs := by decide
  have hvacuum : 0 < settings.vacuumIntervalSecs := by decide
  obtain ⟨-, events, s, -, hrun, hpasses, hcompactions, -, hcalls, -⟩ :=
    (run_at_intervals settings c store).2 hpurge hvacuum rfl
  have hpasses' : List.range' 0 (c.lastSecs / settings.purgeIntervalSecs.toNat + 1)
      settings.purgeIntervalSecs.toNat = [0, 2, 4, 6] := by decide
  have hcompactions' : List.range' settings.vacuumIntervalSecs.toNat
      (c.lastSecs / settings.vacuumIntervalSecs.toNat) settings.vacuumIntervalSecs.toNat =
        [3, 6] := by decide
  refine ⟨hpurge, hvacuum, rfl, events, s, hrun, ?_, ?_, hcalls⟩
  · rw [hpasses, hpasses']
    rfl
  · rw [hcompactions, hcompactions']
    rfl

end Metering.Retention.Worker
