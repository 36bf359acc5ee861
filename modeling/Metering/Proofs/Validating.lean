import Metering.Proofs.InPeriod
import Metering.Proofs.OnTime
import Metering.Settings

/-!
# Settings that hold

Settings are checked once, when they are read, and what is built from them does not
check anything again. Some of the rules only matter to the worker and are not checked
without one; the schedule of compactions is checked in any case.

* `Settings.Breaks`: the rules that settings break, each stated on its own;
* `Settings.invalid?_eq_none_iff`, `Settings.invalid?_eq_some_iff`: settings are accepted
  if they are valid, and otherwise the first rule that they break is the one to be named;
* `Settings.exists_plan`: the worker that valid settings ask for has a plan;
* `Settings.accepted_is_safe`: what is built from settings that are accepted.
-/

namespace Metering

/-- Among elements of ascending rank, the first one that passes a test is the one of
    the least rank. -/
theorem find?_eq_some_iff_of_pairwise {α : Type} {test : α → Bool} {rank : α → Nat} {l : List α}
    (h : l.Pairwise (rank · < rank ·)) {a : α} :
    l.find? test = some a ↔ (a ∈ l ∧ test a) ∧ ∀ b ∈ l, test b → rank a ≤ rank b := by
  induction h with
  | nil => simp
  | @cons b l hb _ ih =>
    by_cases hpass : test b
    · rw [List.find?_cons_of_pos hpass]
      constructor
      · rintro ⟨⟩
        exact ⟨⟨.head _, hpass⟩, List.forall_mem_cons.2
          ⟨fun _ => Nat.le_refl _, fun c hc _ => Nat.le_of_lt (hb c hc)⟩⟩
      · rintro ⟨⟨hmem, -⟩, hleast⟩
        rcases List.mem_cons.1 hmem with rfl | hmem
        · rfl
        · -- It would come behind one of a smaller rank that passes, too.
          exact absurd (hleast b (.head _) hpass) (Nat.not_le.2 (hb a hmem))
    · rw [List.find?_cons_of_neg hpass, ih]
      simp only [List.mem_cons, forall_eq_or_imp, hpass, Bool.false_eq_true, false_implies,
        true_and]
      refine and_congr_left fun _ => and_congr_left fun ha => ?_
      exact ⟨.inr, fun hmem => hmem.resolve_left fun hab => hpass (hab ▸ ha)⟩

namespace Settings

/-! ### Rules -/

/-- A rule is broken by settings. -/
inductive Breaks [Cron.Reader] (s : Settings) : Invalid → Prop
  | port : s.server.port = 0 → s.Breaks (.port s.server.port)
  | path : s.database.path = "" → s.Breaks .path
  | poolSize : s.database.maxPoolSize = 0 → s.Breaks (.poolSize s.database.maxPoolSize)
  | retentionDays : s.retention.enablePurge = true → s.retention.retentionDays = 0 →
      s.Breaks (.retentionDays s.retention.retentionDays)
  | purgeInterval : s.retention.enablePurge = true → s.retention.purgeIntervalSecs = 0 →
      s.Breaks (.purgeInterval s.retention.purgeIntervalSecs)
  | vacuumInterval : s.retention.enablePurge = true → s.retention.vacuumIntervalSecs = 0 →
      s.Breaks (.vacuumInterval s.retention.vacuumIntervalSecs)
  | vacuumSchedule {text : String} : s.retention.vacuumSchedule? = some text →
      Cron.Reader.read? text = none → s.Breaks (.vacuumSchedule text)
  | marginMultiplier : s.report.fetchMarginMultiplier < 0 →
      s.Breaks (.marginMultiplier s.report.fetchMarginMultiplier)
  | minMargin : s.report.minFetchMarginMs < 0 → s.Breaks (.minMargin s.report.minFetchMarginMs)

/-- The place of a rule in the order in which rules are checked. -/
def Invalid.rank : Invalid → Nat
  | port _ => 0
  | path => 1
  | poolSize _ => 2
  | retentionDays _ => 3
  | purgeInterval _ => 4
  | vacuumInterval _ => 5
  | vacuumSchedule _ => 6
  | marginMultiplier _ => 7
  | minMargin _ => 8

section Accepted

variable [Cron.Reader] {s : Settings} {i : Invalid}

theorem pairwise_rules (s : Settings) : s.rules.Pairwise (·.2.rank < ·.2.rank) := by
  simp [rules, Invalid.rank]

theorem mem_rules_iff : (true, i) ∈ s.rules ↔ s.Breaks i := by
  constructor
  · intro h
    simp only [rules, List.mem_cons, List.not_mem_nil, or_false, Prod.mk.injEq, eq_comm (a := true),
      decide_eq_true_eq, Bool.and_eq_true] at h
    rcases h with ⟨h, rfl⟩ | ⟨h, rfl⟩ | ⟨h, rfl⟩ | ⟨⟨hon, h⟩, rfl⟩ | ⟨⟨hon, h⟩, rfl⟩ |
      ⟨⟨hon, h⟩, rfl⟩ | ⟨h, rfl⟩ | ⟨h, rfl⟩ | ⟨h, rfl⟩
    · exact .port h
    · exact .path h
    · exact .poolSize h
    · exact .retentionDays hon h
    · exact .purgeInterval hon h
    · exact .vacuumInterval hon h
    · -- The text that is named is the one that is there.
      obtain ⟨text, htext, hread⟩ := Option.any_eq_true _ _ |>.1 h
      rw [htext]
      exact .vacuumSchedule htext (Option.isNone_iff_eq_none.1 hread)
    · exact .marginMultiplier h
    · exact .minMargin h
  · intro h
    cases h with
    | vacuumSchedule htext hread => simp [rules, htext, hread]
    | _ => simp [rules, *]

/-- Settings are valid if no rule is broken. -/
theorem valid_iff_forall_not_breaks : s.Valid ↔ ∀ i, ¬s.Breaks i := by
  constructor
  · intro h i hi
    cases hi with
    | port hzero => exact absurd h.port_pos (by simp [hzero])
    | path hempty => exact h.path_ne hempty
    | poolSize hzero => exact absurd h.poolSize_pos (by simp [hzero])
    | retentionDays hon hzero => exact absurd (h.retention_pos hon).1 (by simp [hzero])
    | purgeInterval hon hzero => exact absurd (h.retention_pos hon).2.1 (by simp [hzero])
    | vacuumInterval hon hzero => exact absurd (h.retention_pos hon).2.2 (by simp [hzero])
    | vacuumSchedule htext hread => simpa [hread] using h.schedule_reads _ htext
    | marginMultiplier hneg => exact Std.not_le.2 hneg h.multiplier_nonneg
    | minMargin hneg => exact Std.not_le.2 hneg h.minMargin_nonneg
  · intro h
    exact {
      port_pos := UInt16.pos_iff_ne_zero.2 fun hzero => h _ (.port hzero)
      path_ne := fun hempty => h _ (.path hempty)
      poolSize_pos := UInt32.pos_iff_ne_zero.2 fun hzero => h _ (.poolSize hzero)
      retention_pos := fun hon =>
        ⟨UInt32.pos_iff_ne_zero.2 fun hzero => h _ (.retentionDays hon hzero),
          UInt64.pos_iff_ne_zero.2 fun hzero => h _ (.purgeInterval hon hzero),
          UInt64.pos_iff_ne_zero.2 fun hzero => h _ (.vacuumInterval hon hzero)⟩
      schedule_reads := fun text htext =>
        Option.ne_none_iff_isSome.1 fun hread => h _ (.vacuumSchedule htext hread)
      multiplier_nonneg := Std.not_lt.1 fun hneg => h _ (.marginMultiplier hneg)
      minMargin_nonneg := Std.not_lt.1 fun hneg => h _ (.minMargin hneg) }

/-- Settings are accepted just if they are valid. -/
theorem invalid?_eq_none_iff : s.invalid? = none ↔ s.Valid := by
  rw [invalid?, Option.map_eq_none_iff, List.find?_eq_none, valid_iff_forall_not_breaks]
  constructor
  · intro h i hi
    exact h _ (mem_rules_iff.2 hi) rfl
  · rintro h ⟨_, i⟩ hi rfl
    exact h i (mem_rules_iff.1 hi)

/-- Of the rules that settings break, the one that comes first is named. -/
theorem invalid?_eq_some_iff :
    s.invalid? = some i ↔ s.Breaks i ∧ ∀ j, s.Breaks j → i.rank ≤ j.rank := by
  have hfind : s.invalid? = some i ↔ s.rules.find? (·.1) = some (true, i) := by
    rw [invalid?, Option.map_eq_some_iff]
    constructor
    · rintro ⟨⟨broken, _⟩, h, rfl⟩
      obtain rfl : broken = true := List.find?_some h
      exact h
    · intro h
      exact ⟨_, h, rfl⟩
  rw [hfind, find?_eq_some_iff_of_pairwise s.pairwise_rules, mem_rules_iff]
  constructor
  · rintro ⟨⟨hi, -⟩, hleast⟩
    exact ⟨hi, fun j hj => hleast (true, j) (mem_rules_iff.2 hj) rfl⟩
  · rintro ⟨hi, hleast⟩
    refine ⟨⟨hi, rfl⟩, ?_⟩
    rintro ⟨_, j⟩ hj rfl
    exact hleast j (mem_rules_iff.1 hj)

/-! ### What is built from settings -/

/-- The worker that valid settings ask for has a plan. It compacts at the instants of the
    schedule, which has been read, or without one at the interval. -/
theorem exists_plan (h : s.Valid) (hon : s.retention.enablePurge = true) :
    ∃ plan, Retention.Worker.Plan.ofSettings? s.retention.worker = some plan ∧
      plan.purgeEvery = s.retention.purgeIntervalSecs.toNat ∧
      plan.retentionDays = s.retention.retentionDays ∧
      (∀ text, s.retention.vacuumSchedule? = some text → ∃ schedule,
        Cron.Reader.read? text = some schedule ∧ plan.compactions = .on schedule) ∧
      (s.retention.vacuumSchedule? = none → ∃ pos,
        plan.compactions = .every s.retention.vacuumIntervalSecs.toNat pos) := by
  obtain ⟨-, hpurge, hvacuum⟩ := h.retention_pos hon
  rcases hschedule : s.retention.vacuumSchedule? with _ | text
  · have hnone : s.retention.worker.vacuumSchedule? = none := hschedule
    obtain ⟨pos, hcompactions⟩ := Retention.Worker.ofSettings?_of_none hnone hvacuum
    obtain ⟨_, hplan⟩ := Retention.Worker.ofSettings?_of_compactions hpurge hcompactions
    refine ⟨_, hplan, rfl, rfl, ?_, fun _ => ⟨pos, rfl⟩⟩
    intro text htext
    cases htext
  · obtain ⟨schedule, hread⟩ := Option.isSome_iff_exists.1 (h.schedule_reads text hschedule)
    have hcompactions : Retention.Compactions.ofSettings? s.retention.worker =
        some (.on schedule) := by
      simp only [Retention.Compactions.ofSettings?, Retention.worker, hschedule, hread,
        Option.map_some]
    obtain ⟨_, hplan⟩ := Retention.Worker.ofSettings?_of_compactions hpurge hcompactions
    refine ⟨_, hplan, rfl, rfl, ?_, ?_⟩
    · rintro _ ⟨⟩
      exact ⟨schedule, hread, rfl⟩
    · intro hnone
      cases hnone

/-- Settings are accepted just if they are valid, and otherwise the first rule that they
    break is named. With settings that are accepted, a worker has a plan, with a schedule
    for compactions that could be read if there is one, and it goes on for ever; and reports
    look beyond their period as they are set up to, in windows that do not end within it,
    whatever the anchor. None of this depends on how schedules are written. -/
theorem accepted_is_safe (s : Settings) :
    (s.invalid? = none ↔ s.Valid) ∧
    (∀ i, s.invalid? = some i ↔ s.Breaks i ∧ ∀ j, s.Breaks j → i.rank ≤ j.rank) ∧
    (s.invalid? = none →
      (s.retention.enablePurge = true →
        ∃ plan, Retention.Worker.Plan.ofSettings? s.retention.worker = some plan ∧
          plan.purgeEvery = s.retention.purgeIntervalSecs.toNat ∧
          plan.retentionDays = s.retention.retentionDays ∧
          (∀ text, s.retention.vacuumSchedule? = some text → ∃ schedule,
            Cron.Reader.read? text = some schedule ∧ plan.compactions = .on schedule) ∧
          (s.retention.vacuumSchedule? = none → ∃ pos,
            plan.compactions = .every s.retention.vacuumIntervalSecs.toNat pos) ∧
          Retention.Worker.GoesOn s.retention.worker plan) ∧
      s.report.policy.marginMultiplier = s.report.fetchMarginMultiplier ∧
      s.report.policy.minMarginMs = s.report.minFetchMarginMs ∧
      s.report.policy.includeAnchor = s.report.includeAnchorSnapshot ∧
      ∀ p anchor, p.endingMs ≤ (s.report.policy.window p anchor).beforeMs) := by
  refine ⟨invalid?_eq_none_iff, fun i => invalid?_eq_some_iff, fun haccepted => ?_⟩
  have hvalid := invalid?_eq_none_iff.1 haccepted
  refine ⟨fun hon => ?_, rfl, rfl, rfl, ?_⟩
  · obtain ⟨plan, hplan, hpurge, hdays, hscheduled, hrepeated⟩ := exists_plan hvalid hon
    exact ⟨plan, hplan, hpurge, hdays, hscheduled, hrepeated,
      Retention.Worker.goesOn_of_plan hplan⟩
  · exact FetchPolicy.endingMs_le_beforeMs hvalid.minMargin_nonneg

end Accepted

/-- Settings with a schedule for the third hour of every day are accepted, and their worker
    compacts at its instants. Without a worker too, a schedule that cannot be read is what
    is wrong with settings, even if a margin reaches into the period besides. -/
theorem accepted_is_safe_daily :
    let daily : Settings := {
      server := ⟨8080, "localhost"⟩
      database := ⟨"usage.db", 4⟩
      retention := { vacuumSchedule? := some "0 0 3 * * *" } }
    let idle : Settings := { daily with
      retention := { enablePurge := false, vacuumSchedule? := some "whenever" }
      report := { minFetchMarginMs := -1 } }
    daily.invalid? = none ∧ daily.retention.enablePurge = true ∧
      (∃ plan schedule, Retention.Worker.Plan.ofSettings? daily.retention.worker = some plan ∧
        Cron.Schedule.read? "0 0 3 * * *" = some schedule ∧ plan.compactions = .on schedule ∧
        Retention.Worker.GoesOn daily.retention.worker plan) ∧
      20 ≤ (daily.report.policy.window ⟨10, 20⟩ (some 30)).beforeMs ∧
      idle.Breaks (.vacuumSchedule "whenever") ∧ idle.Breaks (.minMargin (-1)) ∧
      idle.invalid? = some (.vacuumSchedule "whenever") := by
  intro daily idle
  have haccepted : daily.invalid? = none := by decide +kernel
  obtain ⟨-, -, hsafe⟩ := accepted_is_safe daily
  obtain ⟨hworker, -, -, -, hwindow⟩ := hsafe haccepted
  obtain ⟨plan, hplan, -, -, hscheduled, -, hgoesOn⟩ := hworker rfl
  obtain ⟨schedule, hread, hcompactions⟩ := hscheduled _ rfl
  have hidle : idle.invalid? = some (.vacuumSchedule "whenever") := by decide +kernel
  exact ⟨haccepted, rfl, ⟨plan, schedule, hplan, hread, hcompactions, hgoesOn⟩,
    hwindow ⟨10, 20⟩ (some 30), ((accepted_is_safe idle).2.1 _ |>.1 hidle).1,
    .minMargin (by decide), hidle⟩

end Settings

end Metering
