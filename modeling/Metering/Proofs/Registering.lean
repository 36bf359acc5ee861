import Mathlib.Data.List.Induction
import Metering.Proofs.Runs

/-!
# Entities on record

A database keeps what it was first told about an entity. Saving the entity again
changes nothing, and its row goes only with a purge after which the entity has no
snapshot; what is saved for it later is then kept in the same way. This holds
whatever else happens to the database: requests that fail, transactions that are
broken off, and the loss of the table of snapshots.

* `Event`: what may happen, and `through`, the database after a run of it;
* `Event.leaves_cases`: an event adds the entities that it brings, or it is a
  purge that succeeds;
* `Event.Removes`: the row of an identity is there before an event and not after it;
* `entityOf_through`: the row of an identity is the first of those that were saved
  since it was last removed;
* `entities_written_once`: the rows after every run, and what becomes of them.
-/

namespace Metering

/-- A request to remove what is old, on its own or as a retention pass. -/
def Request.IsPurge (r : Request) : Prop :=
  (∃ cutoffMs, r = .purge cutoffMs) ∨ ∃ nowMs days, r = .pass nowMs days

namespace Tables

/-! ### Looking up a row -/

/-- The row of an identity. -/
def entityOf (db : Tables) (x : String) : Option Entity :=
  (db.entities?.getD []).find? (·.identity = x)

section Rows

variable {es : List Entity}

/-- One more entity only counts if there is none with its identity. -/
theorem find?_recordOne (es : List Entity) (e : Entity) (x : String) :
    (recordOne es e).find? (·.identity = x) = (es ++ [e]).find? (·.identity = x) := by
  rw [recordOne]
  split
  · next hknown =>
    rw [List.find?_append]
    rcases hrow : es.find? (·.identity = x) with _ | row
    · -- The entity that has the identity of `e` is not one of `x`, so neither is `e`.
      obtain ⟨known, hmem, heq⟩ := List.any_eq_true.1 hknown
      have hne := List.find?_eq_none.1 hrow known hmem
      rw [of_decide_eq_true heq, decide_eq_true_eq] at hne
      simp [hne]
    · rw [hrow]
      rfl
  · rfl

/-- The first entity with an identity stays. -/
theorem find?_recorded (es new : List Entity) (x : String) :
    (recorded es new).find? (·.identity = x) = (es ++ new).find? (·.identity = x) := by
  induction new generalizing es with
  | nil => rw [List.append_nil]; rfl
  | cons e new ih =>
    have hfold : recorded es (e :: new) = recorded (recordOne es e) new := rfl
    rw [hfold, ih, List.find?_append, find?_recordOne, ← List.find?_append, List.append_assoc,
      List.singleton_append]

theorem find?_sampled_of_mem {ss : List Snapshot} {s : Snapshot} (h : s ∈ ss) :
    (sampled es ss).find? (·.identity = s.identity) = es.find? (·.identity = s.identity) := by
  rw [sampled, List.find?_filter]
  congr
  funext e
  by_cases heq : e.identity = s.identity
  · have hany : ss.any (·.identity = e.identity) = true :=
      List.any_eq_true.2 ⟨s, h, decide_eq_true heq.symm⟩
    simp only [hany, true_and, decide_eq_true_eq]
  · simp [heq]

theorem find?_sampled_eq_none {ss : List Snapshot} {x : String}
    (h : ∀ s ∈ ss, s.identity ≠ x) : (sampled es ss).find? (·.identity = x) = none := by
  rw [List.find?_eq_none]
  intro e he
  obtain ⟨s, hs, heq⟩ := List.any_eq_true.1 (List.mem_filter.1 he).2
  rw [← of_decide_eq_true heq, decide_eq_true_eq]
  exact h s hs

end Rows

/-! ### Events -/

/-- Something that happens to a database in use. -/
inductive Event where
  /-- A request, whatever comes of it. -/
  | request (r : Request)
  /-- A transaction that is broken off with a failure, whatever it has done before. -/
  | abort (x : Asking Tables Unit) (cause : StoreError)
  /-- The loss of the table of snapshots. What needs it fails until it is created again. -/
  | loss

namespace Event

/-- The database that an event leaves. -/
def leaves (db : Tables) : Event → Tables
  | request r => (r.ask.run db).2
  | abort x cause => ((transaction (do x; throw cause : Asking Tables Unit)).run db).2
  | loss => ((drop .snapshots).run db).2

/-- The entities that an event brings. -/
def registers : Event → List Entity
  | request (.saveEntities es) => es
  | _ => []

/-- The event is a purge that succeeds. -/
def Purges (db : Tables) (event : Event) : Prop :=
  ∃ r counts, event = .request r ∧ r.IsPurge ∧ (r.ask.run db).1 = .ok counts

/-- The row of an identity is there before the event, and not after it. -/
def Removes (db : Tables) (x : String) (event : Event) : Prop :=
  (db.entityOf x).isSome ∧ (event.leaves db).entityOf x = none

theorem leaves_abort (db : Tables) (x : Asking Tables Unit) (cause : StoreError) :
    (abort x cause).leaves db = db := by
  have hthrow : ∃ e db', (do x; throw cause : Asking Tables Unit).run db = (.error e, db') := by
    rcases hrun : x.run db with ⟨e | _, db'⟩
    · exact ⟨e, db', run_bind_of_error hrun⟩
    · exact ⟨cause, db', run_bind_of_ok hrun⟩
  obtain ⟨e, db', hrun⟩ := hthrow
  rw [leaves, run_transaction_of_error hrun]

variable {db : Tables} {es : List Entity}

/-- An event adds to the entities those that it brings. Only a purge that succeeds does
    not: it keeps those that have a snapshot left. -/
theorem leaves_cases (h : db.entities? = some es) (event : Event) :
    (event.leaves db).entities? = some (recorded es event.registers) ∨
    event.Purges db ∧ event.registers = [] ∧
      ∃ ss, event.leaves db = ⟨some (sampled es ss), some ss⟩ := by
  obtain ⟨entities?, ss?⟩ := db
  obtain rfl : entities? = some es := h
  cases event with
  | abort x cause => exact .inl (by rw [leaves_abort]; rfl)
  | loss => cases ss? <;> exact .inl rfl
  | request r =>
    have hleaves : (request r).leaves ⟨some es, ss?⟩ = r.leaves ⟨some es, ss?⟩ := r.run_ask_snd _
    rw [hleaves]
    cases r with
    | purge cutoffMs =>
      rcases ss? with _ | ss
      · exact .inl rfl
      · exact .inr ⟨⟨_, _, rfl, .inl ⟨cutoffMs, rfl⟩, rfl⟩, rfl, _, rfl⟩
    | pass nowMs days =>
      rcases ss? with _ | ss
      · exact .inl rfl
      · exact .inr ⟨⟨_, _, rfl, .inr ⟨nowMs, days, rfl⟩, rfl⟩, rfl, _, rfl⟩
    | _ => exact .inl rfl

/-- What is neither saving nor purging changes no row, and a purge that fails does not. -/
theorem entities_leaves (h : db.entities? = some es) {event : Event}
    (hsave : event.registers = []) (hpurge : ¬event.Purges db) :
    (event.leaves db).entities? = some es := by
  rcases event.leaves_cases h with hleaves | ⟨hpurges, -⟩
  · rw [hleaves, hsave]
    rfl
  · exact absurd hpurges hpurge

theorem distinct_leaves (h : db.entities? = some es) (hdistinct : Distinct es) (event : Event) :
    ∃ rows, (event.leaves db).entities? = some rows ∧ Distinct rows := by
  rcases event.leaves_cases h with hleaves | ⟨-, -, ss, hleaves⟩
  · exact ⟨_, hleaves, hdistinct.recorded _⟩
  · rw [hleaves]
    exact ⟨_, rfl, hdistinct.sampled ss⟩

/-- A row that is not removed stays as it is, and one that is missing is the first
    that the event brings. -/
theorem entityOf_leaves (h : db.entities? = some es) {event : Event} {x : String}
    (hkept : ¬event.Removes db x) :
    (event.leaves db).entityOf x =
      (db.entityOf x).or (event.registers.find? (·.identity = x)) := by
  rw [entityOf, entityOf, h, Option.getD_some]
  rcases event.leaves_cases h with hleaves | ⟨-, hsave, ss, hleaves⟩
  · rw [hleaves, Option.getD_some, find?_recorded, List.find?_append]
  · rw [hsave, List.find?_nil, Option.or_none, hleaves, Option.getD_some]
    by_cases hsampled : ∃ s ∈ ss, s.identity = x
    · obtain ⟨s, hs, rfl⟩ := hsampled
      exact find?_sampled_of_mem hs
    · -- There is no row after the purge, so there was none before.
      have hnone : (sampled es ss).find? (·.identity = x) = none :=
        find?_sampled_eq_none fun s hs heq => hsampled ⟨s, hs, heq⟩
      rw [hnone]
      by_contra hrow
      refine hkept ⟨?_, ?_⟩
      · rw [entityOf, h]
        exact Option.isSome_iff_ne_none.2 (Ne.symm hrow)
      · rwa [entityOf, hleaves]

/-- A row is removed only by a purge that succeeds and leaves no snapshot of its identity. -/
theorem Removes.purges (h : db.entities? = some es) {event : Event} {x : String}
    (hremoves : event.Removes db x) :
    event.Purges db ∧
      ∃ ss, (event.leaves db).snapshots? = some ss ∧ ∀ s ∈ ss, s.identity ≠ x := by
  obtain ⟨hbefore, hafter⟩ := hremoves
  rw [entityOf, h, Option.getD_some] at hbefore
  rw [entityOf] at hafter
  rcases event.leaves_cases h with hleaves | ⟨hpurges, -, ss, hleaves⟩
  · -- What the event brings comes behind the row.
    rw [hleaves, Option.getD_some, find?_recorded, List.find?_append,
      Option.or_eq_none_iff] at hafter
    rw [hafter.1] at hbefore
    cases hbefore
  · refine ⟨hpurges, ss, by rw [hleaves], ?_⟩
    rintro s hs rfl
    rw [hleaves, Option.getD_some, find?_sampled_of_mem hs] at hafter
    rw [hafter] at hbefore
    cases hbefore

end Event

/-! ### Runs of events -/

/-- The database after the events, one after the other. -/
def through (db : Tables) (events : List Event) : Tables :=
  events.foldl (fun db event => event.leaves db) db

/-- The row of an identity has not been removed since some events: they are none, or the
    last of them has removed it. -/
structure Unremoved (db : Tables) (x : String) (before since : List Event) : Prop where
  start : before = [] ∨ ∃ earlier event, before = earlier ++ [event] ∧
    event.Removes (db.through earlier) x
  kept : ∀ earlier event, earlier ++ [event] <+: since →
    ¬event.Removes (db.through (before ++ earlier)) x

section Runs

variable {db : Tables} {es : List Entity}

theorem through_append (db : Tables) (events later : List Event) :
    db.through (events ++ later) = (db.through events).through later := List.foldl_append

theorem through_concat (db : Tables) (events : List Event) (event : Event) :
    db.through (events ++ [event]) = event.leaves (db.through events) := by
  rw [through_append]
  rfl

theorem distinct_through (h : db.entities? = some es) (hdistinct : Distinct es)
    (events : List Event) :
    ∃ rows, (db.through events).entities? = some rows ∧ Distinct rows := by
  induction events using List.reverseRecOn with
  | nil => exact ⟨es, h, hdistinct⟩
  | append_singleton events event ih =>
    obtain ⟨rows, hrows, hdistinct⟩ := ih
    rw [through_concat]
    exact event.distinct_leaves hrows hdistinct

/-- Every run has a stretch at its end in which the row of an identity was not removed. -/
theorem exists_unremoved (db : Tables) (x : String) (events : List Event) :
    ∃ before since, events = before ++ since ∧ Unremoved db x before since := by
  induction events using List.reverseRecOn with
  | nil =>
    refine ⟨[], [], rfl, .inl rfl, fun earlier event hinit => ?_⟩
    exact absurd (List.prefix_nil.1 hinit) (List.concat_ne_nil _ _)
  | append_singleton events event ih =>
    obtain ⟨before, since, rfl, hstart, hkept⟩ := ih
    by_cases hremoves : event.Removes (db.through (before ++ since)) x
    · refine ⟨before ++ since ++ [event], [], (List.append_nil _).symm,
        .inr ⟨_, event, rfl, hremoves⟩, fun earlier event hinit => ?_⟩
      exact absurd (List.prefix_nil.1 hinit) (List.concat_ne_nil _ _)
    · refine ⟨before, since ++ [event], List.append_assoc _ _ _, hstart,
        fun earlier later hinit => ?_⟩
      rcases List.prefix_concat_iff.1 hinit with heq | hinit
      · obtain ⟨rfl, ⟨⟩⟩ := List.append_inj' heq rfl
        exact hremoves
      · exact hkept earlier later hinit

/-- The row of an identity is the first of those that were saved since it was last
    removed, or since the start. -/
theorem entityOf_through (h : db.entities? = some es) (hdistinct : Distinct es) {x : String}
    {before since : List Event} (hunremoved : Unremoved db x before since) :
    (db.through (before ++ since)).entityOf x =
      ((if before = [] then es else []) ++ since.flatMap (·.registers)).find? (·.identity = x) := by
  obtain ⟨hstart, hkept⟩ := hunremoved
  induction since using List.reverseRecOn with
  | nil =>
    rw [List.append_nil, List.flatMap_nil, List.append_nil]
    rcases hstart with rfl | ⟨earlier, event, rfl, -, hnone⟩
    · rw [if_pos rfl, through, List.foldl_nil, entityOf, h, Option.getD_some]
    · rw [if_neg (List.concat_ne_nil _ _), through_concat, hnone, List.find?_nil]
  | append_singleton since event ih =>
    have hrow := ih fun earlier event hinit => hkept earlier event
      (hinit.trans (List.prefix_append _ _))
    obtain ⟨rows, hrows, -⟩ := distinct_through h hdistinct (before ++ since)
    have hleaves := Event.entityOf_leaves hrows (hkept since event (List.prefix_refl _))
    rw [← List.append_assoc, through_concat, hleaves, hrow, ← List.find?_append,
      List.flatMap_append, List.flatMap_singleton, List.append_assoc]

/-- No identity has two rows, after any run. The row of an identity is the first that was
    saved for it since its row was last removed, or since the start. It does not
    change, and it goes only with a purge that succeeds and leaves no snapshot of the
    identity; what is neither saving nor a purge that succeeds leaves all rows as
    they are. -/
theorem entities_written_once (h : db.entities? = some es) (hdistinct : Distinct es)
    (events : List Event) :
    (∃ rows, (db.through events).entities? = some rows ∧ Distinct rows) ∧
    (∀ x, ∃ before since, events = before ++ since ∧ Unremoved db x before since) ∧
    (∀ x before since, events = before ++ since → Unremoved db x before since →
      (db.through events).entityOf x =
        ((if before = [] then es else []) ++ since.flatMap (·.registers)).find?
          (·.identity = x)) ∧
    ∀ event : Event,
      (∀ x, ¬event.Removes (db.through events) x →
        (event.leaves (db.through events)).entityOf x =
          ((db.through events).entityOf x).or (event.registers.find? (·.identity = x))) ∧
      (∀ x, event.Removes (db.through events) x → event.Purges (db.through events) ∧
        ∃ ss, (event.leaves (db.through events)).snapshots? = some ss ∧
          ∀ s ∈ ss, s.identity ≠ x) ∧
      (event.registers = [] → ¬event.Purges (db.through events) →
        (event.leaves (db.through events)).entities? = (db.through events).entities?) := by
  obtain ⟨rows, hrows, hdistinct'⟩ := distinct_through h hdistinct events
  refine ⟨⟨rows, hrows, hdistinct'⟩, fun x => exists_unremoved db x events, ?_,
    fun event => ⟨fun x hkept => Event.entityOf_leaves hrows hkept,
      fun x hremoves => hremoves.purges hrows,
      fun hsave hpurge => (Event.entities_leaves hrows hsave hpurge).trans hrows.symm⟩⟩
  rintro x before since rfl hunremoved
  exact entityOf_through h hdistinct hunremoved

/-- A machine is saved as a small one, and as a large one in the same batch. Its only
    snapshot is lost with its table, so that a purge fails at first, and the one after
    the table was created again removes the machine. It is then saved as a large one,
    and as a small one. -/
theorem entities_written_once_again :
    let machine : String → String → Entity := fun x kind =>
      ⟨x, "vm", kind, "owner", "account", "cluster", "zone"⟩
    let before : List Event := [
      .request (.saveEntities [machine "a" "small", machine "b" "small", machine "a" "large"]),
      .request (.saveSnapshots [⟨"a", 10, 1, 0⟩]), .loss, .request (.purge 0), .request .init,
      .request (.saveSnapshots [⟨"b", 30, 2, 0⟩]), .request (.purge 20)]
    let since : List Event := [.request (.saveEntities [machine "a" "large"]),
      .request (.saveEntities [machine "a" "small"])]
    let db : Tables := ⟨some [], some []⟩
    db.entities? = some [] ∧ Distinct [] ∧ Unremoved db "a" before since ∧
      (db.through (before ++ since)).entityOf "a" = some (machine "a" "large") := by
  intro machine before since db
  have h : db.entities? = some [] := rfl
  have hdistinct : Distinct [] := List.nodup_nil
  have hunremoved : Unremoved db "a" before since := by
    refine ⟨.inr ⟨before.dropLast, .request (.purge 20), rfl, by decide +kernel,
      by decide +kernel⟩, fun earlier event hinit => ?_⟩
    rcases earlier with _ | ⟨first, _ | ⟨second, rest⟩⟩
    · -- The first event saves what is not there.
      exact fun hremoves => absurd hremoves.1 (by decide +kernel)
    · -- The second one keeps what is there.
      obtain ⟨rfl, hrest⟩ := List.cons_prefix_cons.1 hinit
      obtain ⟨rfl, -⟩ := List.cons_prefix_cons.1 hrest
      exact fun hremoves => absurd hremoves.2 (by decide +kernel)
    · have hlength := hinit.length_le
      simp [since] at hlength
  obtain ⟨-, -, hrow, -⟩ := entities_written_once h hdistinct (before ++ since)
  refine ⟨h, hdistinct, hunremoved, ?_⟩
  rw [hrow "a" before since rfl hunremoved]
  decide +kernel

end Runs

end Tables

end Metering
