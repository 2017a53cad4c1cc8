import Mathlib.Data.List.Perm.Subperm
import NodeBalancer.Proofs.WorkerPool.History

/-!
# No task is lost, repeated or overtaken

A task that a pool accepts begins once and ends, also where all references were given back in the
meantime: a thread that is stopped still works off what it has.  A task that a pool refuses never
begins.  Each thread takes its tasks in the order in which they were submitted, and none before the
one before it has ended.

Two submissions may be of the same task.  To tell them apart, `numbered` puts the place of each
submission in the order of events beside its task.

* `History.exists_event`: what a history tells was told by one event.
* `exists_idle`: the steps of the threads alone lead to where all of them are idle.
* `submissions_in_order`: all of this for every order of events.
-/

namespace NodeBalancer.WorkerPool

variable {Task : Type}

/-! ## Submissions -/

def Event.map {Task' : Type} (f : Task → Task') : Event Task → Event Task'
  | acquire launch => .acquire launch
  | release => .release
  | submit task => .submit (f task)
  | begin i => .begin i
  | finish i ending => .finish i ending

/-- The events with each task numbered by its place; the first event has place `n`. -/
def numbered (n : Nat) : List (Event Task) → List (Event (Nat × Task))
  | [] => []
  | e :: events => e.map (n, ·) :: numbered (n + 1) events

def submissions (events : List (Event Task)) : List Task := events.filterMap Event.submission?

def refusals (marks : List (Mark Task)) : List Task := marks.filterMap Mark.refusal?

theorem le_of_mem_submissions_numbered {n : Nat} {events : List (Event Task)} {x : Nat × Task}
    (h : x ∈ submissions (numbered n events)) : n ≤ x.1 := by
  induction events generalizing n with
  | nil => cases h
  | cons e events ih =>
    rw [numbered, submissions, List.filterMap_cons] at h
    cases e with
    | submit task =>
      rcases List.mem_cons.mp h with rfl | h
      · exact Nat.le_refl n
      · exact Nat.le_of_succ_le (ih h)
    | _ => exact Nat.le_of_succ_le (ih h)

theorem nodup_submissions_numbered (n : Nat) (events : List (Event Task)) :
    (submissions (numbered n events)).Nodup := by
  induction events generalizing n with
  | nil => exact List.nodup_nil
  | cons e events ih =>
    cases e with
    | submit task =>
      refine List.nodup_cons.mpr ⟨fun hmem => ?_, ih (n + 1)⟩
      exact Nat.not_succ_le_self n (le_of_mem_submissions_numbered hmem)
    | _ => exact ih (n + 1)

theorem submission?_marks (p : WorkerPool Task) (e : Event Task) :
    (p.marks e).filterMap Mark.submission? = e.submission?.toList := by
  cases e with
  | submit task =>
    rw [marks]
    split <;> rfl
  | begin i =>
    rw [marks]
    cases p.begin? i <;> rfl
  | finish i ending =>
    rw [marks]
    cases p.running? i <;> rfl
  | _ => rfl

/-- Whatever is submitted is accepted or refused. -/
theorem submission?_history (p : WorkerPool Task) (events : List (Event Task)) :
    (p.history events).filterMap Mark.submission? = submissions events := by
  induction events generalizing p with
  | nil => rfl
  | cons e events ih =>
    rw [history, List.filterMap_append, submission?_marks, ih, submissions, submissions,
      List.filterMap_cons]
    cases e.submission? <;> rfl

theorem submissions_perm (marks : List (Mark Task)) :
    (marks.filterMap Mark.submission?).Perm
      ((acceptances marks).map (·.2) ++ refusals marks) := by
  induction marks with
  | nil => exact List.Perm.refl _
  | cons m marks ih =>
    cases m with
    | accepted i task => exact ih.cons task
    | refused task => exact (ih.cons task).trans List.perm_middle.symm
    | began i task => exact ih
    | ended i task ending => exact ih

/-! ## All threads together -/

section Counting

variable [DecidableEq Task]

theorem count_ofThread (told : List (Nat × Task)) (i : Nat) (task : Task) :
    told.count (i, task) = (ofThread i told).count task := by
  induction told with
  | nil => rfl
  | cons t told ih =>
    obtain ⟨j, other⟩ := t
    rw [← List.singleton_append, ofThread_append, List.count_append, List.count_append, ih,
      ofThread_singleton]
    by_cases hji : j = i
    · subst hji
      simp [List.count_singleton]
    · simp [hji]

variable {p : WorkerPool Task} {marks : List (Mark Task)}

theorem Accounts.beginnings_subperm (h : Accounts p marks) :
    (beginnings marks).Subperm (acceptances marks) := by
  rw [List.subperm_ext_iff]
  rintro ⟨i, task⟩ -
  rw [count_ofThread, count_ofThread, h.accepted i, List.count_append]
  exact Nat.le_add_right _ _

/-- Where every thread is idle, all that was accepted has begun and ended. -/
theorem Accounts.perm_of_idle (h : Accounts p marks)
    (hidle : ∀ thread ∈ p.threads, thread.isIdle = true) :
    (beginnings marks).Perm (acceptances marks) ∧ (endings marks).Perm (acceptances marks) := by
  have hthread : ∀ i, p.waitingAt i = [] ∧ p.running? i = none := by
    intro i
    rw [waitingAt, running?]
    cases ht : p.thread? i with
    | none => exact ⟨rfl, rfl⟩
    | some t =>
      have hempty := hidle t (List.mem_of_getElem? ht)
      simp only [WorkerThread.isIdle, Bool.and_eq_true, List.isEmpty_iff, Option.isNone_iff_eq_none]
        at hempty
      exact hempty
  have hbegun : (beginnings marks).Perm (acceptances marks) := by
    rw [List.perm_iff_count]
    rintro ⟨i, task⟩
    rw [count_ofThread, count_ofThread, h.accepted i, (hthread i).1, List.append_nil]
  have hended : (endings marks).Perm (beginnings marks) := by
    rw [List.perm_iff_count]
    rintro ⟨i, task⟩
    rw [count_ofThread, count_ofThread, h.begun i, (hthread i).2, Option.toList_none,
      List.append_nil]
  exact ⟨hbegun, hended.trans hbegun⟩

/-- A thread begins nothing but what it was given. -/
theorem Accounts.accepted_of_began (h : Accounts p marks) {i : Nat} {task : Task}
    (hbegan : .began i task ∈ marks) : .accepted i task ∈ marks := by
  have hmem : (i, task) ∈ acceptances marks :=
    h.beginnings_subperm.subset (List.mem_filterMap.mpr ⟨_, hbegan, rfl⟩)
  obtain ⟨m, hm, hx⟩ := List.mem_filterMap.mp hmem
  cases m with
  | accepted j other =>
    cases hx
    exact hm
  | _ => cases hx

/-- Tasks of which no two are the same begin at most once each. -/
theorem Accounts.nodup_beginnings (h : Accounts p marks)
    (hnodup : ((acceptances marks).map (·.2)).Nodup) : ((beginnings marks).map (·.2)).Nodup := by
  obtain ⟨begun, hperm, hsublist⟩ := h.beginnings_subperm
  rw [← (hperm.map _).nodup_iff]
  exact hnodup.sublist (hsublist.map _)

end Counting

/-- Whatever the pool holds was accepted. -/
theorem Accounts.mem_of_tasks {p : WorkerPool Task} {marks : List (Mark Task)}
    (h : Accounts p marks) {task : Task} (hmem : task ∈ p.tasks) :
    task ∈ (acceptances marks).map (·.2) := by
  obtain ⟨t, ht, htask⟩ := List.mem_flatMap.mp hmem
  obtain ⟨i, hi⟩ := List.getElem?_of_mem ht
  have hthread : p.thread? i = some t := hi
  have hheld : task ∈ ofThread i (acceptances marks) := by
    rw [h.accepted i, h.begun i, running?, waitingAt, hthread]
    rw [WorkerThread.tasks, List.mem_append] at htask
    exact htask.elim
      (fun hr => List.mem_append_left _ (List.mem_append_right _ hr)) (List.mem_append_right _)
  rw [ofThread, List.mem_map] at hheld
  obtain ⟨told, htold, rfl⟩ := hheld
  exact List.mem_map_of_mem (List.mem_of_mem_filter htold)

/-! ## The moment of a mark -/

theorem marks_eq_nil_or_singleton (p : WorkerPool Task) (e : Event Task) :
    p.marks e = [] ∨ ∃ m, p.marks e = [m] := by
  cases e with
  | submit task =>
    rw [marks]
    split
    · exact .inr ⟨_, rfl⟩
    · exact .inr ⟨_, rfl⟩
  | begin i =>
    rw [marks]
    cases p.begin? i with
    | none => exact .inl rfl
    | some begun => exact .inr ⟨_, rfl⟩
  | finish i ending =>
    rw [marks]
    cases p.running? i with
    | none => exact .inl rfl
    | some task => exact .inr ⟨_, rfl⟩
  | _ => exact .inl rfl

/-- A history can be cut at each of its marks, and then the events can be cut too. -/
theorem exists_event_of_history {p : WorkerPool Task} {events : List (Event Task)}
    {past later : List (Mark Task)} {m : Mark Task}
    (h : p.history events = past ++ m :: later) :
    ∃ before e after, events = before ++ e :: after ∧ p.history before = past ∧
      (p.run before).marks e = [m] := by
  induction events generalizing p past with
  | nil => exact absurd h.symm (by simp [history])
  | cons e events ih =>
    rw [history] at h
    rcases p.marks_eq_nil_or_singleton e with hnil | ⟨m', hone⟩
    · rw [hnil, List.nil_append] at h
      obtain ⟨before, e', after, rfl, hpast, hmark⟩ := ih h
      exact ⟨e :: before, e', after, rfl, by rw [history, hnil, hpast]; rfl, hmark⟩
    · rw [hone] at h
      cases past with
      | nil =>
        obtain ⟨rfl, -⟩ := List.cons.inj h
        exact ⟨[], e, events, rfl, rfl, hone⟩
      | cons m'' past =>
        obtain ⟨rfl, hrest⟩ := List.cons.inj h
        obtain ⟨before, e', after, rfl, hpast, hmark⟩ := ih hrest
        exact ⟨e :: before, e', after, rfl, by rw [history, hone, hpast]; rfl, hmark⟩

/-- When a thread begins a task, it has ended all that it began before, and the task is the next of
those it was given. -/
theorem order_of_beginning {events : List (Event Task)} {past later : List (Mark Task)} {i : Nat}
    {task : Task} (h : (empty : WorkerPool Task).history events = past ++ .began i task :: later) :
    ofThread i (beginnings past) = ofThread i (endings past) ∧
      (ofThread i (beginnings past) ++ [task]) <+: ofThread i (acceptances past) := by
  obtain ⟨before, e, after, rfl, rfl, hmark⟩ := exists_event_of_history h
  have haccounts := accounts before
  cases e with
  | begin j =>
    rw [marks] at hmark
    cases hb : ((empty : WorkerPool Task).run before).begin? j with
    | none =>
      rw [hb] at hmark
      cases hmark
    | some begun =>
      rw [hb] at hmark
      cases hmark
      obtain ⟨hfree, hwaiting, -, -⟩ := begin?_spec hb
      have hbegun := haccounts.begun i
      have haccepted := haccounts.accepted i
      rw [hfree, Option.toList_none, List.append_nil] at hbegun
      refine ⟨hbegun, begun.2.waitingAt i, ?_⟩
      rw [haccepted, hwaiting, List.append_assoc]
      rfl
  | submit task' =>
    rw [marks] at hmark
    split at hmark <;> cases hmark
  | finish j ending =>
    rw [marks] at hmark
    cases hr : ((empty : WorkerPool Task).run before).running? j <;> rw [hr] at hmark <;>
      cases hmark
  | acquire => cases hmark
  | release => cases hmark

/-! ## Working off -/

/-- A thread that has tasks can be done with one of them. -/
theorem exists_step_of_tasks {p : WorkerPool Task} (h : p.tasks ≠ []) :
    ∃ steps : List (Event Task), (∀ e ∈ steps, e.isThreadStep = true) ∧
      (p.run steps).tasks.length + 1 = p.tasks.length := by
  have hend : ∀ {q : WorkerPool Task} {i : Nat} {task : Task}, q.running? i = some task →
      (q.finish i).tasks.length + 1 = q.tasks.length := by
    intro q i task hr
    obtain ⟨rest, hperm, -, hfinish⟩ := exists_tasks_running hr
    rw [hperm.length_eq, hfinish.length_eq, List.length_cons]
  obtain ⟨t, hmem, ht⟩ : ∃ t ∈ p.threads, t.tasks ≠ [] := by
    simpa [tasks] using h
  obtain ⟨i, hi⟩ := List.getElem?_of_mem hmem
  have hthread : p.thread? i = some t := hi
  cases hr : p.running? i with
  | some task => exact ⟨[.finish i .completed], by simp [Event.isThreadStep], hend hr⟩
  | none =>
    have hwaiting : p.waitingAt i ≠ [] := by
      rw [running?, hthread, Option.bind_some] at hr
      rw [waitingAt, hthread]
      simpa [WorkerThread.tasks, hr] using ht
    have hbegin : p.begin? i ≠ none := fun hnone => by
      rcases begin?_eq_none_iff.mp hnone with hsome | hnil
      · rw [hr] at hsome
        cases hsome
      · exact hwaiting hnil
    obtain ⟨⟨task, q⟩, hb⟩ := Option.ne_none_iff_exists'.mp hbegin
    obtain ⟨htasks, hrun⟩ := tasks_begin hb
    refine ⟨[.begin i, .finish i .completed], by simp [Event.isThreadStep], ?_⟩
    rw [run_cons, step, hb, ← htasks]
    exact hend hrun

theorem exists_idle (p : WorkerPool Task) :
    ∃ steps : List (Event Task), (∀ e ∈ steps, e.isThreadStep = true) ∧
      ∀ thread ∈ (p.run steps).threads, thread.isIdle = true := by
  suffices h : ∃ steps : List (Event Task), (∀ e ∈ steps, e.isThreadStep = true) ∧
      (p.run steps).tasks = [] by
    obtain ⟨steps, hsteps, htasks⟩ := h
    exact ⟨steps, hsteps, tasks_eq_nil_iff.mp htasks⟩
  generalize hn : p.tasks.length = n
  induction n generalizing p with
  | zero => exact ⟨[], by simp, List.length_eq_zero_iff.mp hn⟩
  | succ n ih =>
    have htasks : p.tasks ≠ [] := by
      rw [← List.length_pos_iff, hn]
      exact Nat.succ_pos n
    obtain ⟨first, hfirst, hless⟩ := exists_step_of_tasks htasks
    obtain ⟨rest, hrest, hdone⟩ := ih (p.run first) (by omega)
    refine ⟨first ++ rest, ?_, by rw [run_append]; exact hdone⟩
    intro e he
    exact (List.mem_append.mp he).elim (hfirst e) (hrest e)

/-! ## Every order of events -/

theorem submit_eq_true_iff {p : WorkerPool Task} (h : p.Sound) (task : Task) :
    (p.submit task).1 = true ↔ 0 < p.refs := by
  rw [← h.referenced, submit]
  split <;> simp [*]

/-- **No task is lost, repeated or overtaken**, whatever the order of events. -/
theorem submissions_in_order (events : List (Event Task)) :
    let marks := empty.history (numbered 0 events)
    let p := empty.run (numbered 0 events)
    (∀ task, ((p.submit task).1 = true ↔ 0 < p.refs) ∧
      ((p.submit task).1 = false → (p.submit task).2 = p)) ∧
    (∀ x, .refused x ∈ marks → x ∉ (beginnings marks).map (·.2) ∧ x ∉ p.tasks) ∧
    ((beginnings marks).map (·.2)).Nodup ∧
    (∀ i x, .began i x ∈ marks → .accepted i x ∈ marks) ∧
    ((∀ thread ∈ p.threads, thread.isIdle = true) →
      (beginnings marks).Perm (acceptances marks) ∧ (endings marks).Perm (acceptances marks)) ∧
    (∃ steps : List (Event (Nat × Task)), (∀ e ∈ steps, e.isThreadStep = true) ∧
      ∀ thread ∈ (p.run steps).threads, thread.isIdle = true) ∧
    ∀ past later i x, marks = past ++ .began i x :: later →
      ofThread i (beginnings past) = ofThread i (endings past) ∧
      (ofThread i (beginnings past) ++ [x]) <+: ofThread i (acceptances past) := by
  classical
  intro marks p
  have hsound : p.Sound := sound_empty.run _
  have haccounts : Accounts p marks := accounts _
  have hsubmitted : ((acceptances marks).map (·.2) ++ refusals marks).Nodup := by
    rw [← (submissions_perm marks).nodup_iff, submission?_history]
    exact nodup_submissions_numbered 0 events
  obtain ⟨haccepted, -, hdisjoint⟩ := List.nodup_append.mp hsubmitted
  refine ⟨fun task => ⟨submit_eq_true_iff hsound task, fun hrefused => ?_⟩, fun x hx => ?_,
    haccounts.nodup_beginnings haccepted, fun i x hx => haccounts.accepted_of_began hx,
    haccounts.perm_of_idle, p.exists_idle, fun past later i x h => order_of_beginning h⟩
  · have ha : ¬ p.accepting = true := fun ha => by
      rw [submit, if_pos ha] at hrefused
      cases hrefused
    rw [submit_of_not_accepting ha]
  · have hrefusal : x ∈ refusals marks := List.mem_filterMap.mpr ⟨_, hx, rfl⟩
    have hnever : x ∉ (acceptances marks).map (·.2) := fun hmem => hdisjoint x hmem x hrefusal rfl
    refine ⟨fun hbegan => hnever ?_, fun hheld => hnever (haccounts.mem_of_tasks hheld)⟩
    obtain ⟨t, ht, rfl⟩ := List.mem_map.mp hbegan
    exact List.mem_map_of_mem (haccounts.beginnings_subperm.subset ht)

/-- A stopped thread works off its queue, past a task that breaks off. -/
example : (empty : WorkerPool String).history
      [.acquire .made, .submit "a", .submit "b", .release, .submit "c", .begin 0,
        .finish 0 .brokenOff, .begin 0, .finish 0 .completed] =
    [.accepted 0 "a", .accepted 0 "b", .refused "c", .began 0 "a", .ended 0 "a" .brokenOff,
      .began 0 "b", .ended 0 "b" .completed] := by
  decide

end NodeBalancer.WorkerPool
