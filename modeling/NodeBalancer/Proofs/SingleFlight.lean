import NodeBalancer.Proofs.System.Projection

/-!
# Single flight

Each registry has at most one unfinished refresh, be it on a queue, on a worker thread or inside of
the call that forced it, and the mark in the registry tells whether it has one.  There is one way
for the mark to lie: a refresh that ends at a time to which its update interval cannot be added
leaves the mark behind, for ever.

* `System.stages_length_le_one`, `System.inFlight_iff`, `Lane.Path.began_not_mem`: the parts.
* `System.single_flight`: all of them for every run, every order of steps, every answer and every
  time.
-/

namespace NodeBalancer

/-! ## After an overflow -/

theorem Lane.Step.interval_eq {l l' : Lane} {e : Entry} (h : Lane.Step (some l) e (some l')) :
    l'.agent.interval = l.agent.interval := by
  cases h with
  | switch a o started => exact Agent.interval_setStarted a started
  | finish a a' stage now hs hfinish =>
    obtain ⟨eligible, -, rfl⟩ := Agent.finish?_eq_some hfinish
    rfl
  | _ => rfl

namespace Lane.Path

variable {l l' : Lane} {t : List Entry}

theorem interval_eq (h : Path (some l) t (some l')) : l'.agent.interval = l.agent.interval := by
  generalize hk : some l' = k at h
  induction h generalizing l' with
  | refl =>
    cases hk
    rfl
  | tail prior last ih =>
    subst hk
    obtain ⟨m, rfl⟩ := prior.exists_of_some
    exact last.interval_eq.trans (ih rfl)

/-- **The mark of an overflow is never taken away.**  A refresh begins only where no mark stands, so
none begins later. -/
theorem began_not_mem {past later : List Entry} (h : Path none (past ++ later) (some l))
    (hover : Overflowed l.agent.interval past) : Entry.began ∉ later := by
  intro hmem
  obtain ⟨before, after, rfl⟩ := List.append_of_mem hmem
  rw [← List.append_assoc] at h
  obtain ⟨m, n, hbefore, hstep, hafter⟩ := h.exists_step
  cases hstep with
  | begin a hf =>
    have hinterval : l.agent.interval = a.interval := hafter.interval_eq
    have hmark : a.registry.inFlight = true :=
      hbefore.marked.inFlight.mpr (.inr (overflowed_append.mpr (.inl (hinterval ▸ hover))))
    rw [hf] at hmark
    cases hmark

end Lane.Path

namespace System

variable {events : List Event} {i : Nat} {a : Agent}

theorem stages_length_le_one (h : (empty.run events).agent? i = some a) :
    ((empty.run events).stages i).length ≤ 1 := by
  obtain ⟨o, hperm, -⟩ := marked h
  rw [hperm.length_eq]
  exact Option.length_toList_le

theorem inFlight_iff (h : (empty.run events).agent? i = some a) :
    a.registry.inFlight = true ↔
      ((empty.run events).stages i).length = 1 ∨
        Overflowed a.interval (empty.journal i events) := by
  obtain ⟨o, hperm, hmarked⟩ := marked h
  rw [hmarked.inFlight, hperm.length_eq]
  cases o <;> simp

/-- Where every thread is idle and no call is under way, there is no refresh. -/
theorem stages_of_quiet {s : System} (hidle : ∀ thread ∈ s.pool.threads, thread.isIdle = true)
    (hcalls : s.calls = []) (i : Nat) : s.stages i = [] := by
  rw [stages, refreshes, WorkerPool.tasks_eq_nil_iff.mpr hidle, hcalls]
  rfl

/-- **Single flight**, whatever the run. -/
theorem single_flight (events : List Event) (i : Nat) (a : Agent)
    (h : (empty.run events).agent? i = some a) :
    ((empty.run events).stages i).length ≤ 1 ∧
    (a.registry.inFlight = true ↔
      ((empty.run events).stages i).length = 1 ∨
        Overflowed a.interval (empty.journal i events)) ∧
    ((∀ thread ∈ (empty.run events).pool.threads, thread.isIdle = true) →
      (empty.run events).calls = [] → ¬ Overflowed a.interval (empty.journal i events) →
        a.registry.inFlight = false) ∧
    ∀ past later, empty.journal i events = past ++ later → Overflowed a.interval past →
      Entry.began ∉ later := by
  refine ⟨stages_length_le_one h, inFlight_iff h, ?_, ?_⟩
  · intro hidle hcalls hover
    rw [← Bool.not_eq_true, inFlight_iff h, stages_of_quiet hidle hcalls i]
    exact not_or.mpr ⟨Nat.zero_ne_one, hover⟩
  · intro past later hjournal hover
    obtain ⟨o, -, hpath⟩ := exists_path h
    rw [hjournal] at hpath
    exact hpath.began_not_mem hover

/-- A balancer whose refresh is on a queue, after a coordinator had its refresh refused at a time to
which its interval cannot be added. -/
def crowdedRun : List Event :=
  [.create (.balancer { Config.ofNodes ["10.0.0.1"] with updateInterval := ⟨1⟩ }) ⟨0⟩,
    .create (.coordinator [⟨.http, .v4 ⟨10, 0, 0, 2⟩, 8080⟩] (.ofSeconds UInt64.size) .none) ⟨0⟩,
    .maybeSchedule 1 ⟨0⟩ ⟨1⟩, .start 0 .made, .maybeSchedule 0 ⟨1⟩ ⟨1⟩]

theorem single_flight_crowdedRun :
    ∃ a b, (empty.run crowdedRun).agent? 0 = some a ∧ (empty.run crowdedRun).agent? 1 = some b ∧
      (empty.run crowdedRun).stages 0 = [.waiting] ∧ a.registry.inFlight = true ∧
      (empty.run crowdedRun).stages 1 = [] ∧ b.registry.inFlight = true := by
  have ha := (Option.some_get (x := (empty.run crowdedRun).agent? 0) (by decide)).symm
  have hb := (Option.some_get (x := (empty.run crowdedRun).agent? 1) (by decide)).symm
  refine ⟨_, _, ha, hb, by decide, ?_, by decide, ?_⟩
  · obtain ⟨-, hmark, -, -⟩ := single_flight crowdedRun 0 _ ha
    exact hmark.mpr (.inl (by decide))
  · obtain ⟨-, hmark, -, -⟩ := single_flight crowdedRun 1 _ hb
    exact hmark.mpr (.inr ⟨.waiting, ⟨1⟩, by decide, by decide⟩)

end System

end NodeBalancer
