import Mathlib.Data.List.Induction
import NodeBalancer.Proofs.Agent.Timetable
import NodeBalancer.Proofs.System.Results
import NodeBalancer.Proofs.System.Sources

/-!
# When a refresh is scheduled

A scheduled refresh is queued if the update interval is not zero, no refresh of that registry is in
flight, a worker is running, and the interval after the latest end of a refresh is over.  Every
refresh has one end that counts: forced or scheduled, with an answer, without one, torn down, or
never run because no worker was there.  A forced refresh does not look at the time.

The times need not be in order.  All that matters of them is that no agent was made later than the
schedule is looked at (`Timely`), which a clock that never runs backwards sees to.

* `System.isDue_iff`: what it means for a refresh to be due, read off the run.
* `System.schedule`: what comes of a look at the schedule, for every run.
-/

namespace NodeBalancer

/-- The times that the clock shows in an event, in the order in which it is looked at. -/
def Event.readings : Event → List Instant
  | create _ now => [now]
  | next _ now later => [now, later]
  | maybeSchedule _ now later => [now, later]
  | forceRefresh _ now => [now]
  | stepThread _ _ now => [now]
  | advanceCall _ _ now => [now]
  | _ => []

/-- No agent was made later than now. -/
def Timely (events : List Event) (now : Instant) : Prop :=
  ∀ design made, Event.create design made ∈ events → made.nanos ≤ now.nanos

/-- A clock that never runs backwards is late enough at any time. -/
theorem timely_of_pairwise {events : List Event} {now : Instant}
    (h : (events.flatMap Event.readings ++ [now]).Pairwise fun t t' => t.nanos ≤ t'.nanos) :
    Timely events now := by
  intro design made hmem
  have hread : made ∈ events.flatMap Event.readings :=
    List.mem_flatMap.mpr ⟨_, hmem, List.mem_singleton_self made⟩
  exact (List.pairwise_append.mp h).2.2 made hread now (List.mem_singleton_self now)

namespace System

variable {s : System} {i : Nat} {a : Agent} {events : List Event} {now later : Instant}

/-! ## Whether a refresh is due -/

/-- An agent was made in some event of the run, and its registry knows when. -/
theorem exists_create_mem (h : (empty.run events).agent? i = some a) :
    ∃ design, Event.create design a.registry.epoch ∈ events := by
  induction events using List.reverseRecOn generalizing a with
  | nil => cases h
  | append_singleton past e ih =>
    have hcoherent := coherent_empty.run past
    rw [run_append] at h
    cases hbefore : (empty.run past).agent? i with
    | none =>
      obtain ⟨design, now, rfl, hmade⟩ := exists_create hcoherent hbefore h
      exact ⟨design, by rw [Design.epoch_eq hmade]; exact List.mem_concat_self⟩
    | some b =>
      obtain ⟨design, hmem⟩ := ih hbefore
      obtain ⟨l, hshows, hsound⟩ := hcoherent.lanes i
      obtain ⟨o, rfl⟩ := hshows.exists_of_agent? hbefore
      obtain ⟨l', hshows', hpath⟩ := hcoherent.exists_path hshows hsound [e]
      obtain ⟨o', rfl⟩ := hshows'.exists_of_agent? h
      refine ⟨design, List.mem_append_left _ ?_⟩
      have hepoch : a.registry.epoch = b.registry.epoch := hpath.epoch_eq
      rw [hepoch]
      exact hmem

/-- What a scheduled refresh waits for, apart from a worker. -/
structure Due (events : List Event) (i : Nat) (interval : Duration) (now : Instant) : Prop where
  enabled : interval.isZero = false
  quiet : (empty.run events).stages i = []
  rested : Rested interval (empty.journal i events) now

theorem inFlight_eq_false_iff (h : (empty.run events).agent? i = some a)
    (hlasts : ¬ Overflowed a.interval (empty.journal i events)) :
    a.registry.inFlight = false ↔ (empty.run events).stages i = [] := by
  have hle := stages_length_le_one h
  rw [← Bool.not_eq_true, inFlight_iff h, ← List.length_eq_zero_iff]
  constructor
  · intro hno
    have hone : ((empty.run events).stages i).length ≠ 1 := fun hone => hno (.inl hone)
    omega
  · rintro hzero (hone | hover)
    · omega
    · exact hlasts hover

theorem isDue_iff (h : (empty.run events).agent? i = some a) (htimely : Timely events now)
    (hlasts : ¬ Overflowed a.interval (empty.journal i events)) :
    a.isDue now = true ↔ Due events i a.interval now := by
  obtain ⟨o, -, hpath⟩ := exists_path h
  have htimed := hpath.timed
  have hmade : a.registry.epoch.nanos ≤ now.nanos := by
    obtain ⟨design, hmem⟩ := exists_create_mem h
    exact htimely design _ hmem
  rw [Agent.isDue_iff htimed.capped, inFlight_eq_false_iff h hlasts,
    htimed.nextEligible_le_iff hmade hlasts]
  constructor
  · rintro ⟨henabled, hquiet, hrested⟩
    exact ⟨henabled, hquiet, hrested⟩
  · rintro ⟨henabled, hquiet, hrested⟩
    exact ⟨henabled, hquiet, hrested⟩

/-! ## What comes of a look at the schedule -/

theorem maybeSchedule_of_not_due (h : s.agent? i = some a) (hdue : ¬ a.isDue now = true) :
    s.maybeSchedule i now later = (.ok false, s) := by
  rw [maybeSchedule_eq_of_agent h, if_neg hdue]

theorem maybeSchedule_eq_true_iff (h : s.agent? i = some a) :
    (s.maybeSchedule i now later).1 = .ok true ↔
      a.isDue now = true ∧ s.pool.isRunning = true := by
  rw [maybeSchedule_eq_of_agent h, WorkerPool.isRunning]
  by_cases hdue : a.isDue now = true
  · by_cases hacc : s.pool.accepting = true
    · simp [hdue, hacc]
    · rw [if_pos hdue, if_neg hacc]
      cases a.markInFlight.finish? later <;> simp [hacc]
  · simp [hdue]

/-- Without a worker a refresh that is due ends at once, and nothing is left of it but its end. -/
theorem maybeSchedule_of_not_running (h : s.agent? i = some a) (hdue : a.isDue now = true)
    (hrunning : ¬ s.pool.isRunning = true) (hlasts : later.add? a.interval ≠ none) :
    ∃ eligible, later.add? a.interval = some eligible ∧ s.maybeSchedule i now later =
      (.ok false, s.modifyAgent i fun a => { a with registry := a.registry.finish eligible }) := by
  obtain ⟨eligible, hadd⟩ := Option.ne_none_iff_exists'.mp hlasts
  have hacc : ¬ s.pool.accepting = true := hrunning
  have hfinish : a.markInFlight.finish? later =
      some { a with registry := a.registry.finish eligible } := by
    rw [Agent.finish?, Agent.interval_markInFlight, hadd]
    rfl
  refine ⟨eligible, hadd, ?_⟩
  rw [maybeSchedule_eq_of_agent h, if_pos hdue, if_neg hacc, hfinish]
  exact congrArg (Prod.mk (Except.ok false)) (modifyAgent_congr h rfl)

theorem entriesOf_maybeSchedule_of_not_running (h : s.agent? i = some a) (hdue : a.isDue now = true)
    (hrunning : ¬ s.pool.isRunning = true) :
    s.entriesOf i (.maybeSchedule i now later) = [.began, .ended .waiting later] := by
  have hacc : ¬ s.pool.accepting = true := hrunning
  rw [entriesOf, entries, scheduleEntries_of_agent h, if_pos hdue, if_neg hacc]
  simp

theorem forceRefresh_eq_true_iff (h : s.agent? i = some a) :
    (s.forceRefresh i now).1 = true ↔ a.registry.inFlight = false := by
  rw [forceRefresh, beginRefresh_of_agent h]
  cases hf : a.registry.inFlight <;> simp [Registry.admits, hf]

/-- **When a refresh is scheduled**, whatever the run.  Every agent has a registry and an update
interval of its own, so only its own refreshes put off the next one. -/
theorem schedule (events : List Event) (i : Nat) (a : Agent) (now later : Instant)
    (h : (empty.run events).agent? i = some a) (htimely : Timely events now)
    (hlasts : ¬ Overflowed a.interval (empty.journal i events)) :
    (((empty.run events).maybeSchedule i now later).1 = .ok true ↔
      Due events i a.interval now ∧ (empty.run events).pool.isRunning = true) ∧
    (¬ Due events i a.interval now →
      (empty.run events).maybeSchedule i now later = (.ok false, empty.run events)) ∧
    (Due events i a.interval now → ¬ (empty.run events).pool.isRunning = true →
      later.add? a.interval ≠ none →
      ∃ a', ((empty.run events).maybeSchedule i now later).1 = .ok false ∧
        (empty.run (events ++ [.maybeSchedule i now later])).agent? i = some a' ∧
        a'.registry.nodes = a.registry.nodes ∧ a'.registry.cursor = a.registry.cursor ∧
        (empty.run (events ++ [.maybeSchedule i now later])).queries =
          (empty.run events).queries ∧
        (empty.run (events ++ [.maybeSchedule i now later])).stages i = [] ∧
        latestEnd? (empty.journal i (events ++ [.maybeSchedule i now later])) = some later) ∧
    (∃ past current,
      Life.Lived ((empty.run events).stages i).head? (empty.journal i events) past current ∧
      (∀ life ∈ past, ∃ ended, endings life = [ended]) ∧
      endings (empty.journal i events) = past.flatMap endings) ∧
    ∀ time, ((empty.run events).forceRefresh i time).1 = true ↔
      (empty.run events).stages i = [] := by
  have hdue := isDue_iff h htimely hlasts
  refine ⟨?_, fun hnot => ?_, fun hd hrunning hadds => ?_, ?_, fun time => ?_⟩
  · rw [maybeSchedule_eq_true_iff h, hdue]
  · exact maybeSchedule_of_not_due h fun hd => hnot (hdue.mp hd)
  · obtain ⟨eligible, -, hresult⟩ :=
      maybeSchedule_of_not_running h (hdue.mpr hd) hrunning hadds
    have hrun : empty.run (events ++ [.maybeSchedule i now later]) =
        (empty.run events).modifyAgent i
          fun a => { a with registry := a.registry.finish eligible } := by
      rw [run_append, run_cons, step, hresult]
      rfl
    have hjournal : empty.journal i (events ++ [.maybeSchedule i now later]) =
        (empty.journal i events ++ [.began]) ++ [.ended .waiting later] := by
      rw [journal_append, journal, journal,
        entriesOf_maybeSchedule_of_not_running h (hdue.mpr hd) hrunning, List.append_assoc]
      rfl
    refine ⟨{ a with registry := a.registry.finish eligible }, ?_, ?_, rfl, rfl, ?_, ?_, ?_⟩
    · rw [hresult]
    · rw [hrun]
      exact agent?_modifyAgent_self h _
    · rw [hrun]
      rfl
    · rw [hrun]
      exact hd.quiet
    · rw [hjournal]
      exact latestEnd?_concat_ended _ _ _
  · obtain ⟨past, current, hlived⟩ := exists_lived h
    exact ⟨past, current, hlived, fun life hlife => (hlived.whole life hlife).exists_endings_eq,
      hlived.endings_eq⟩
  · rw [forceRefresh_eq_true_iff h, inFlight_eq_false_iff h hlasts]

/-- A coordinator that had a refresh refused at 2 and forced one, which ended at 4 with an empty
list. -/
def triedRun : List Event :=
  [.create (.coordinator [⟨.http, .v4 ⟨10, 0, 0, 1⟩, 8080⟩] ⟨5⟩ .none) ⟨0⟩,
    .maybeSchedule 0 ⟨1⟩ ⟨2⟩, .acquire .made, .forceRefresh 0 ⟨3⟩, .advanceCall 0 (.nodes []) ⟨3⟩,
    .advanceCall 0 (.nodes []) ⟨3⟩, .advanceCall 0 (.nodes []) ⟨4⟩, .advanceCall 0 (.nodes []) ⟨4⟩]

theorem schedule_triedRun :
    ((empty.run triedRun).maybeSchedule 0 ⟨8⟩ ⟨8⟩).1 = .ok false ∧
      ((empty.run triedRun).maybeSchedule 0 ⟨9⟩ ⟨9⟩).1 = .ok true ∧
      ((empty.run triedRun).forceRefresh 0 ⟨4⟩).1 = true := by
  have ha := (Option.some_get (x := (empty.run triedRun).agent? 0) (by decide)).symm
  have hends : endings (empty.journal 0 triedRun) = [⟨2⟩, ⟨4⟩] := by decide
  have hlatest : latestEnd? (empty.journal 0 triedRun) = some ⟨4⟩ := by
    rw [latestEnd?, hends]
    rfl
  have hquiet : (empty.run triedRun).stages 0 = [] := by decide
  have hlasts : ¬ Overflowed ⟨5⟩ (empty.journal 0 triedRun) := by
    rw [overflowed_iff, hends]
    decide
  obtain ⟨-, hnot, -, -, hforce⟩ := schedule triedRun 0 _ ⟨8⟩ ⟨8⟩ ha
    (timely_of_pairwise (by decide)) hlasts
  obtain ⟨hqueued, -⟩ := schedule triedRun 0 _ ⟨9⟩ ⟨9⟩ ha (timely_of_pairwise (by decide)) hlasts
  refine ⟨?_, hqueued.mpr ⟨⟨rfl, hquiet, ?_⟩, by decide⟩, (hforce ⟨4⟩).mpr hquiet⟩
  · have hearly : ¬ Due triedRun 0 ⟨5⟩ ⟨8⟩ := fun hdue =>
      absurd (hdue.rested ⟨4⟩ hlatest) (by decide)
    rw [hnot hearly]
  · intro ended hended
    rw [hlatest] at hended
    cases hended
    decide

end System

end NodeBalancer
