import Metering.Proofs.Tables
import Metering.Proofs.Watched

/-!
# What a backward search finds

The windows of a search end at one instant and each reaches further back than
the one before, so they are nested: a snapshot that the first non-empty window
does not show lies before all windows, or not before the instant at all.

* `Search.pairwise_windows`: every window starts before the one that precedes it;
* `findSome?_latestOf_iff`: in nested windows the first answer is the latest
  instant of all, if a window reaches back to it;
* `located`, `searched`: what a search in any store comes to, and what it asks; the
  first answer that is an instant or a failure settles it;
* `Knows`: stores that give the latest instant in every window;
* `latestBefore_exact`: what a search finds, and after how many questions.
-/

namespace Metering

/-! ### The windows of a search -/

/-- A start that is known is exact. -/
theorem Reach.toInt_of_before? {r : Reach} {t a : Int64} (h : r.before? t = some a) :
    a.toInt = t.toInt - hourMs.toInt * r.hours.toInt := by
  obtain ⟨ms, hms, hsub⟩ := Option.bind_eq_some_iff.1 h
  rw [Saturation.fits?_eq_some_iff.1 hsub, Saturation.fits?_eq_some_iff.1 hms]

namespace Search

variable {s s' : Search} {w : Window}

/-- What a search that goes on has done: its window reaches back by the reach. -/
theorem next_eq_some (h : s.next = (some w, s')) :
    ∃ r, s.reach? = some r ∧ w.beforeMs = s.beforeMs ∧
      w.afterMs.toInt = s.beforeMs.toInt - hourMs.toInt * r.hours.toInt ∧ 0 < w.afterMs ∧
      s' = { s with reach? := r.next? } := by
  rw [next] at h
  split at h
  · cases h
  · next r hr =>
    split at h
    · cases h
    · next afterMs hafter =>
      split at h
      · cases h
      · next hpos =>
        cases h
        exact ⟨r, hr, rfl, Reach.toInt_of_before? hafter, Std.not_le.1 hpos, rfl⟩

theorem windows_of_next_eq_none (h : s.next = (none, s')) : s.windows = [] := by
  rw [windows, run]
  split
  · rfl
  · next h' => rw [h] at h'; cases h'

theorem windows_of_next_eq_some (h : s.next = (some w, s')) : s.windows = w :: s'.windows := by
  rw [windows, run]
  split
  · next h' => rw [h] at h'; cases h'
  · next h' => rw [h] at h'; cases h'; rfl

/-- The windows to come end where the search began, and reach back at least as
    far as the next one. -/
theorem mem_windows (h : w ∈ s.windows) :
    w.beforeMs = s.beforeMs ∧ ∃ r, s.reach? = some r ∧
      w.afterMs.toInt ≤ s.beforeMs.toInt - hourMs.toInt * r.hours.toInt := by
  induction s using run.induct with
  | case1 s s' hnext =>
    rw [windows_of_next_eq_none hnext] at h
    exact absurd h List.not_mem_nil
  | case2 s v s' hnext _ _ _ ih =>
    obtain ⟨r, hr, hbefore, hafter, -, rfl⟩ := next_eq_some hnext
    rw [windows_of_next_eq_some hnext] at h
    rcases List.mem_cons.1 h with rfl | h
    · exact ⟨hbefore, r, hr, Int.le_of_eq hafter⟩
    · obtain ⟨hbefore', r', hr', hafter'⟩ := ih h
      have hlonger := Reach.lt_of_next? hr'
      simp only [toInt_hourMs] at hafter' ⊢
      exact ⟨hbefore', r, hr, by omega⟩

/-- Every window starts before the one that precedes it. -/
theorem pairwise_windows (s : Search) :
    s.windows.Pairwise fun v w => w.afterMs < v.afterMs := by
  induction s using run.induct with
  | case1 s s' hnext =>
    rw [windows_of_next_eq_none hnext]
    exact List.Pairwise.nil
  | case2 s v s' hnext _ _ _ ih =>
    obtain ⟨r, hr, -, hafter, -, rfl⟩ := next_eq_some hnext
    rw [windows_of_next_eq_some hnext]
    refine List.pairwise_cons.2 ⟨fun w hw => ?_, ih⟩
    -- The windows to come reach back by the next reach at least, which is longer.
    obtain ⟨-, r', hr', hafter'⟩ := mem_windows hw
    have hlonger := Reach.lt_of_next? hr'
    simp only [toInt_hourMs] at hafter hafter'
    rw [Int64.lt_iff_toInt_lt]
    omega

end Search

/-! ### The latest instant -/

instance instLawfulOrderMaxInt64 : Std.LawfulOrderMax Int64 := by
  have hmax : ∀ a b : Int64, max a b = if a ≤ b then b else a := fun _ _ => rfl
  refine Std.LawfulOrderMax.of_max_le_iff (fun a b c => ?_) (fun a b => ?_)
  · rw [hmax]
    split <;> grind
  · rw [hmax]
    split <;> simp

/-- The latest of the instants in a window. -/
def latestOf (ts : List Int64) (w : Window) : Option Int64 := (ts.filter (w.Contains ·)).max?

theorem latestOf_eq_some_iff {ts : List Int64} {w : Window} {m : Int64} :
    latestOf ts w = some m ↔ (m ∈ ts ∧ w.Contains m) ∧ ∀ u ∈ ts, w.Contains u → u ≤ m := by
  simp only [latestOf, List.max?_eq_some_iff, List.mem_filter, decide_eq_true_eq, and_imp]

theorem latestOf_eq_none_iff {ts : List Int64} {w : Window} :
    latestOf ts w = none ↔ ∀ u ∈ ts, ¬w.Contains u := by
  simp only [latestOf, List.max?_eq_none_iff, List.filter_eq_nil_iff, decide_eq_true_eq]

theorem max?_filter_lt_eq_some_iff {ts : List Int64} {t m : Int64} :
    (ts.filter (· < t)).max? = some m ↔ (m ∈ ts ∧ m < t) ∧ ∀ u ∈ ts, u < t → u ≤ m := by
  simp only [List.max?_eq_some_iff, List.mem_filter, decide_eq_true_eq, and_imp]

/-- The latest instant in a window is the latest of all before the window's end. -/
theorem max?_filter_lt_of_latestOf {ts : List Int64} {w : Window} {m : Int64}
    (h : latestOf ts w = some m) : (ts.filter (· < w.beforeMs)).max? = some m := by
  obtain ⟨⟨hmem, hafter, hbefore⟩, hle⟩ := latestOf_eq_some_iff.1 h
  refine max?_filter_lt_eq_some_iff.2 ⟨⟨hmem, hbefore⟩, fun u hu hlt => ?_⟩
  by_cases hin : w.afterMs < u
  · exact hle u hu ⟨hin, hlt⟩
  · exact Std.le_trans (Std.not_lt.1 hin) (Std.le_of_lt hafter)

section Windows

variable {ts : List Int64} {t m : Int64} {ws : List Window}

/-- In windows that all end at `t`, the first answer is the latest instant before
    `t`, if a window reaches back to it. -/
theorem findSome?_latestOf_iff (hend : ∀ w ∈ ws, w.beforeMs = t) :
    ws.findSome? (latestOf ts) = some m ↔
      (ts.filter (· < t)).max? = some m ∧ ∃ w ∈ ws, w.afterMs < m := by
  induction ws with
  | nil => simp
  | cons w ws ih =>
    have ih := ih fun v hv => hend v (List.mem_cons_of_mem w hv)
    obtain rfl := hend w List.mem_cons_self
    rw [List.findSome?_cons]
    cases hw : latestOf ts w with
    | some b =>
      -- The search ends here, with the latest instant of all.
      have hb := max?_filter_lt_of_latestOf hw
      constructor
      · rintro ⟨⟩
        exact ⟨hb, w, List.mem_cons_self, (latestOf_eq_some_iff.1 hw).1.2.1⟩
      · rintro ⟨hm, -⟩
        exact hb.symm.trans hm
    | none =>
      -- The latest instant is not in this window, so a later one has to reach back to it.
      refine ih.trans ⟨fun ⟨hm, v, hv, hlt⟩ => ⟨hm, v, List.mem_cons_of_mem w hv, hlt⟩, ?_⟩
      rintro ⟨hm, v, hv, hlt⟩
      obtain ⟨⟨hmem, hbefore⟩, -⟩ := max?_filter_lt_eq_some_iff.1 hm
      rcases List.mem_cons.1 hv with rfl | hv
      · exact absurd ⟨hlt, hbefore⟩ (latestOf_eq_none_iff.1 hw m hmem)
      · exact ⟨hm, v, hv, hlt⟩

/-- A window shows an instant exactly if it shows the latest one. -/
theorem isSome_latestOf_iff {w : Window} (hm : (ts.filter (· < w.beforeMs)).max? = some m) :
    (latestOf ts w).isSome ↔ w.Contains m := by
  rw [Option.isSome_iff_exists]
  constructor
  · rintro ⟨b, hb⟩
    obtain rfl := Option.some.inj (hm.symm.trans (max?_filter_lt_of_latestOf hb))
    exact (latestOf_eq_some_iff.1 hb).1.2
  · intro hin
    obtain ⟨⟨hmem, -⟩, hle⟩ := max?_filter_lt_eq_some_iff.1 hm
    exact ⟨m, latestOf_eq_some_iff.2 ⟨⟨hmem, hin⟩, fun u hu hu' => hle u hu hu'.2⟩⟩

/-- The first window that shows anything is the first that contains the latest instant. -/
theorem findIdx_latestOf (hend : ∀ w ∈ ws, w.beforeMs = t)
    (hm : (ts.filter (· < t)).max? = some m) :
    ws.findIdx (fun w => (latestOf ts w).isSome) = ws.findIdx (·.Contains m) := by
  have hiff : ∀ w ∈ ws, ((latestOf ts w).isSome ↔ w.Contains m) := fun w hw =>
    isSome_latestOf_iff (by rw [hend w hw, hm])
  refine Nat.le_antisymm (List.findIdx_le_findIdx fun w hw h => ?_)
    (List.findIdx_le_findIdx fun w hw h => ?_)
  · exact (hiff w hw).2 (of_decide_eq_true h)
  · exact decide_eq_true ((hiff w hw).1 h)

/-- Of windows that start ever earlier, the last is the widest. -/
theorem exists_widest (hnest : ws.Pairwise fun v w => w.afterMs < v.afterMs)
    (h : ∃ w ∈ ws, w.afterMs < m) :
    ∃ w ∈ ws, (∀ v ∈ ws, w.afterMs ≤ v.afterMs) ∧ w.afterMs < m := by
  obtain ⟨w, hw, hlt⟩ := h
  obtain ⟨init, hws⟩ := List.getLast?_eq_some_iff.1
    (List.getLast?_eq_some_getLast (List.ne_nil_of_mem hw))
  generalize ws.getLast _ = last at hws
  subst hws
  have hwidest : ∀ v ∈ init ++ [last], last.afterMs ≤ v.afterMs := by
    intro v hv
    rcases List.mem_append.1 hv with hv | hv
    · exact Std.le_of_lt ((List.pairwise_append.1 hnest).2.2 v hv last List.mem_cons_self)
    · rw [List.mem_singleton.1 hv]
      exact Std.le_refl _
  exact ⟨last, List.mem_append_right init List.mem_cons_self, hwidest,
    Std.lt_of_le_of_lt (hwidest w hw) hlt⟩

end Windows

/-- What the windows of a search show first is the latest instant before its end, if
    a window reaches back to it. -/
theorem Search.findSome?_windows_iff {ts : List Int64} {t m : Int64} :
    (Search.before t).windows.findSome? (latestOf ts) = some m ↔
      (ts.filter (· < t)).max? = some m ∧ ∃ w ∈ (Search.before t).windows, w.afterMs < m :=
  findSome?_latestOf_iff fun _ hw => (Search.mem_windows hw).1

/-! ### Searching a store -/

namespace Reporting

variable {σ : Type} [SnapshotStore σ]

/-- The answers of a store that is asked for the latest instant in each of the windows,
    one after the other, each answer with the store that it leaves. -/
def answers : List Window → σ → List (Except StoreError (Option Int64) × σ)
  | [], _ => []
  | w :: ws, s =>
    let answered := (SnapshotStore.latestIn w).run s
    answered :: answers ws answered.2

/-- An answer that settles a search: any but that the window is empty. -/
def settles : Except StoreError (Option Int64) → Bool
  | .ok none => false
  | _ => true

/-- What a search in the windows comes to, and the store that it leaves: the first
    answer that settles it, and no instant if none does. -/
def located (ws : List Window) (s : σ) : Except StoreError (Option Int64) × σ :=
  ((answers ws s).find? (settles ·.1)).getD
    (.ok none, ws.foldl (fun s w => ((SnapshotStore.latestIn w).run s).2) s)

/-- The questions of a search in the windows: those up to the first answer that settles
    it, and all if none does. -/
def searched (ws : List Window) (s : σ) : List Call :=
  (ws.take ((answers ws s).findIdx (settles ·.1) + 1)).map .latestIn

section Searches

variable {w : Window} {ws : List Window} {s s' : σ} {answer : Except StoreError (Option Int64)}

theorem located_cons_of_settles (hrun : (SnapshotStore.latestIn w).run s = (answer, s'))
    (h : settles answer = true) : located (w :: ws) s = (answer, s') := by
  rw [located, answers, List.find?_cons_of_pos (by rwa [hrun]), Option.getD_some, hrun]

theorem located_cons_of_ok_none (hrun : (SnapshotStore.latestIn w).run s = (.ok none, s')) :
    located (w :: ws) s = located ws s' := by
  rw [located, answers, List.find?_cons_of_neg (by rw [hrun]; exact Bool.false_ne_true),
    List.foldl_cons, hrun]
  rfl

theorem searched_cons_of_settles (hrun : (SnapshotStore.latestIn w).run s = (answer, s'))
    (h : settles answer = true) : searched (w :: ws) s = [.latestIn w] := by
  simp [searched, answers, hrun, List.findIdx_cons, h]

theorem searched_cons_of_ok_none (hrun : (SnapshotStore.latestIn w).run s = (.ok none, s')) :
    searched (w :: ws) s = .latestIn w :: searched ws s' := by
  simp [searched, answers, hrun, List.findIdx_cons, settles]

end Searches

/-- A search comes to the first answer that settles it. -/
theorem run_firstLatest_eq_located (ws : List Window) (s : σ) :
    (firstLatest ws).run s = located ws s := by
  induction ws generalizing s with
  | nil => rfl
  | cons w ws ih =>
    rw [firstLatest]
    rcases hrun : (SnapshotStore.latestIn w).run s with ⟨e | _ | t, s'⟩
    · rw [run_bind_of_error hrun, located_cons_of_settles hrun rfl]
    · rw [run_bind_of_ok hrun, located_cons_of_ok_none hrun]
      exact ih s'
    · rw [run_bind_of_ok hrun, located_cons_of_settles hrun rfl]
      rfl

/-- A search asks up to the first answer that settles it. -/
theorem records_firstLatest (ws : List Window) :
    Watched.Records (σ := σ) (firstLatest ws) (firstLatest ws) (searched ws) := by
  induction ws with
  | nil => exact Watched.records_pure none
  | cons w ws ih =>
    intro s calls
    have hwatched := Watched.records_latestIn w s calls
    rw [firstLatest, firstLatest]
    rcases hrun : (SnapshotStore.latestIn w).run s with ⟨e | _ | t, s'⟩ <;> rw [hrun] at hwatched
    · rw [run_bind_of_error hrun, run_bind_of_error hwatched, searched_cons_of_settles hrun rfl]
    · rw [run_bind_of_ok hrun, run_bind_of_ok hwatched, searched_cons_of_ok_none hrun]
      exact (ih s' _).trans (by rw [List.append_assoc, List.singleton_append])
    · rw [run_bind_of_ok hrun, run_bind_of_ok hwatched, searched_cons_of_settles hrun rfl]
      rfl

/-- The `known` stores hold snapshots at the instants `ts`: each of them answers
    every question for the latest one in a window accordingly, and is left as
    such a store. -/
def Knows (known : σ → Prop) (ts : List Int64) : Prop :=
  ∀ s, known s → ∀ w, ∃ s', known s' ∧
    (SnapshotStore.latestIn w).run s = (.ok (latestOf ts w), s')

theorem located_of_knows {known : σ → Prop} {ts : List Int64} (knows : Knows known ts)
    (ws : List Window) {s : σ} (hs : known s) :
    ∃ s', known s' ∧ located ws s = (.ok (ws.findSome? (latestOf ts)), s') ∧
      searched ws s =
        (ws.take (ws.findIdx (fun w => (latestOf ts w).isSome) + 1)).map .latestIn := by
  induction ws generalizing s with
  | nil => exact ⟨s, hs, rfl, rfl⟩
  | cons w ws ih =>
    obtain ⟨mid, hmid, hanswer⟩ := knows s hs w
    rw [List.findSome?_cons, List.findIdx_cons]
    rcases hlatest : latestOf ts w with _ | m <;> rw [hlatest] at hanswer
    · obtain ⟨s', hs', hlocated, hsearched⟩ := ih hmid
      refine ⟨s', hs', (located_cons_of_ok_none hanswer).trans hlocated, ?_⟩
      rw [searched_cons_of_ok_none hanswer, hsearched]
      rfl
    · exact ⟨mid, hmid, located_cons_of_settles hanswer rfl, searched_cons_of_settles hanswer rfl⟩

/-- The windows are asked for one after the other, up to the first that shows anything. -/
theorem run_firstLatest {known : σ → Prop} {ts : List Int64} (knows : Knows known ts)
    (ws : List Window) {s : σ} (hs : known s) (calls : List Call) :
    ∃ s', known s' ∧ (firstLatest ws).run s = (.ok (ws.findSome? (latestOf ts)), s') ∧
      (firstLatest ws).run (⟨s, calls⟩ : Watched σ) = (.ok (ws.findSome? (latestOf ts)),
        ⟨s', calls ++ (ws.take (ws.findIdx (fun w => (latestOf ts w).isSome) + 1)).map
          .latestIn⟩) := by
  obtain ⟨s', hs', hlocated, hsearched⟩ := located_of_knows knows ws hs
  have hrun := (run_firstLatest_eq_located ws s).trans hlocated
  refine ⟨s', hs', hrun, ?_⟩
  rw [records_firstLatest ws s calls, hrun, hsearched]

/-- A search finds the latest of all instants before `t` if its widest window reaches
    back to it, and nothing otherwise. It asks for its windows in order: those up
    to the first that contains what it finds, or all if it finds nothing. -/
theorem latestBefore_exact {known : σ → Prop} {ts : List Int64} (knows : Knows known ts)
    (t : Int64) {s : σ} (hs : known s) :
    ∃ r s', (latestBefore t).run s = (.ok r, s') ∧
      (∀ m, r = some m ↔ (ts.filter (· < t)).max? = some m ∧
        ∃ w ∈ (Search.before t).windows,
          (∀ v ∈ (Search.before t).windows, w.afterMs ≤ v.afterMs) ∧ w.afterMs < m) ∧
      ∃ asked, (latestBefore t).run (⟨s, []⟩ : Watched σ) = (.ok r, ⟨s', asked.map .latestIn⟩) ∧
        asked <+: (Search.before t).windows ∧
        (∀ m, r = some m → (∃ w ∈ (Search.before t).windows, w.Contains m) ∧
          asked.length = (Search.before t).windows.findIdx (·.Contains m) + 1) ∧
        (r = none → asked.length = (Search.before t).windows.length) := by
  have hend : ∀ w ∈ (Search.before t).windows, w.beforeMs = t := fun w hw =>
    (Search.mem_windows hw).1
  have hnest := Search.pairwise_windows (Search.before t)
  obtain ⟨s', -, hrun, hwatched⟩ := run_firstLatest knows (Search.before t).windows hs []
  rw [latestBefore, latestBefore]
  generalize (Search.before t).windows = ws at *
  refine ⟨_, s', hrun, fun m => ?_, _, hwatched, List.take_prefix _ _, fun m hm => ?_, fun h => ?_⟩
  · rw [findSome?_latestOf_iff hend]
    refine and_congr_right fun _ => ⟨exists_widest hnest, ?_⟩
    rintro ⟨w, hw, -, hlt⟩
    exact ⟨w, hw, hlt⟩
  · -- What is found is in the widest window, so it is in a first one.
    obtain ⟨hmax, w, hw, hlt⟩ := (findSome?_latestOf_iff hend).1 hm
    have hin : w.Contains m :=
      ⟨hlt, hend w hw ▸ (max?_filter_lt_eq_some_iff.1 hmax).1.2⟩
    have hidx : ws.findIdx (·.Contains m) < ws.length :=
      List.findIdx_lt_length_of_exists ⟨w, hw, decide_eq_true hin⟩
    rw [findIdx_latestOf hend hmax, List.length_take]
    exact ⟨⟨w, hw, hin⟩, by omega⟩
  · have hidx : ws.findIdx (fun w => (latestOf ts w).isSome) = ws.length :=
      List.findIdx_eq_length_of_false fun w hw => by rw [List.findSome?_eq_none_iff.1 h w hw]; rfl
    rw [hidx, List.length_take]
    omega

/-- A database knows the instants of its snapshots, and asking leaves it as it was. -/
theorem knows_tables {db : Tables} {ss : List Snapshot} (h : db.snapshots? = some ss) :
    Knows (· = db) (ss.map (·.timestampMs)) := by
  rintro _ rfl w
  exact ⟨_, rfl, Tables.run_latestIn h w⟩

/-- Twenty hours after the epoch, with snapshots after five and after ten hours, one
    at that very instant and one later: the third window shows the one after ten. -/
theorem latestBefore_third_window :
    let db : Tables :=
      { snapshots? := some [⟨"a", 36000000, 5, 0⟩, ⟨"b", 72000000, 1, 1⟩, ⟨"a", 75600000, 6, 0⟩,
          ⟨"b", 18000000, 0, 0⟩] }
    ∃ db' asked, (latestBefore 72000000).run (⟨db, []⟩ : Watched Tables) =
        (.ok (some 36000000), ⟨db', asked.map .latestIn⟩) ∧
      asked.length = 3 ∧ asked <+: (Search.before 72000000).windows := by
  intro db
  have hdb : db.snapshots? = some _ := rfl
  obtain ⟨r, db', -, hfound, asked, hrun, hprefix, hcount, -⟩ :=
    latestBefore_exact (knows_tables hdb) 72000000 rfl
  have hwindows : (Search.before 72000000).windows =
      [⟨64800000, 72000000⟩, ⟨57600000, 72000000⟩, ⟨14400000, 72000000⟩] := by decide +kernel
  have hr : r = some 36000000 := by
    refine (hfound _).2 ⟨by decide, ⟨14400000, 72000000⟩, ?_, ?_, by decide⟩
    · rw [hwindows]
      decide
    · rw [hwindows]
      decide
  subst hr
  refine ⟨db', asked, hrun, ?_, hprefix⟩
  rw [(hcount _ rfl).2, hwindows]
  decide

/-- A search of a database finds what its windows show of the snapshots. -/
theorem run_latestBefore_tables {db : Tables} {ss : List Snapshot}
    (h : db.snapshots? = some ss) (t : Int64) :
    (latestBefore t).run db =
      (.ok ((Search.before t).windows.findSome? (latestOf (ss.map (·.timestampMs)))), db) := by
  obtain ⟨_, rfl, hrun, -⟩ := run_firstLatest (knows_tables h) (Search.before t).windows rfl []
  exact hrun

/-- What a search of a database finds comes before the instant. -/
theorem lt_of_run_latestBefore_tables {db : Tables} {ss : List Snapshot} {t a : Int64}
    (h : db.snapshots? = some ss) (found : ((latestBefore t).run db).1 = .ok (some a)) :
    a < t := by
  rw [run_latestBefore_tables h] at found
  obtain ⟨hmax, -⟩ := Search.findSome?_windows_iff.1 (Except.ok.inj found)
  exact (max?_filter_lt_eq_some_iff.1 hmax).1.2

end Reporting

end Metering
