import Mathlib.Data.List.Basic
import Mathlib.Data.List.Induction
import NodeBalancer.Proofs.WorkerPool.History

/-!
# When tasks of one pool overlap

Each thread is at one task at a time, but a pool may have several threads: one that was stopped
works off its queue while the next one is already there.  So the tasks of a pool run one after the
other as long as no thread is started beside the unfinished tasks of another (`RestartsWhenIdle`),
and only then.

* `running`, `balanced`: the tasks that have begun and not ended.
* `not_serial`: two of them after a restart.
* `serial_iff_restartsWhenIdle`: the exact condition.
-/

namespace NodeBalancer.WorkerPool

variable {Task : Type} {p : WorkerPool Task} {i : Nat}

/-- The tasks that the threads are at. -/
def running (p : WorkerPool Task) : List Task :=
  p.threads.flatMap fun t => t.running.toList

/-! ## Begun and not ended -/

theorem running_begin {p' : WorkerPool Task} {task : Task} (h : p.begin? i = some (task, p')) :
    p'.running.Perm (task :: p.running) := by
  have hfree := (begin?_spec h).1
  obtain ⟨t, t', ht, hb, rfl⟩ := begin?_eq_some h
  obtain ⟨rest, hp, hmodify⟩ := exists_flatMap_modify (fun t => t.running.toList) ht
  have hset := hmodify fun _ => t'
  rw [running?, thread?, ht, Option.bind_some] at hfree
  rw [← List.set_eq_modify, (WorkerThread.begin?_eq_some hb).2] at hset
  rw [hfree] at hp
  exact hset.trans (hp.symm.cons task)

theorem running_finish {task : Task} (h : p.running? i = some task) :
    p.running.Perm (task :: (p.finish i).running) := by
  obtain ⟨t, ht, hr⟩ := Option.bind_eq_some_iff.mp h
  obtain ⟨rest, hp, hmodify⟩ := exists_flatMap_modify (fun t => t.running.toList) ht
  rw [hr] at hp
  exact hp.trans ((hmodify (·.setRunning none)).symm.cons task)

theorem finish_of_not_running (h : p.running? i = none) : p.finish i = p := by
  have hthreads : p.threads.modify i (·.setRunning none) = p.threads := by
    apply List.ext_getElem?
    intro j
    rw [List.getElem?_modify]
    cases ht : p.threads[j]? with
    | none => rfl
    | some t =>
      by_cases hij : i = j
      · subst hij
        rw [running?, thread?, ht, Option.bind_some] at h
        simp [WorkerThread.setRunning, ← h]
      · simp [hij]
  rw [finish, hthreads]

theorem running_acquire (p : WorkerPool Task) (launch : Launch) :
    (p.acquire launch).2.running = p.running := by
  rcases p.acquire_cases launch with ⟨-, hacquire⟩ | ⟨_, -, -, hacquire⟩ <;> rw [hacquire]
  unfold engage
  split <;> simp [running, WorkerThread.idle]

theorem running_submit (p : WorkerPool Task) (task : Task) :
    (p.submit task).2.running.Perm p.running := by
  rw [submit]
  split
  · cases ht : p.threads[p.threads.length - 1]? with
    | none =>
      rw [running, List.modify_eq_self (List.getElem?_eq_none_iff.mp ht)]
      exact List.Perm.refl _
    | some t =>
      obtain ⟨rest, hp, hmodify⟩ := exists_flatMap_modify (fun t => t.running.toList) ht
      exact (hmodify (·.push task)).trans hp.symm
  · exact List.Perm.refl _

/-- What has begun has ended or is running. -/
def Balanced (p : WorkerPool Task) (marks : List (Mark Task)) : Prop :=
  ((beginnings marks).map (·.2)).Perm ((endings marks).map (·.2) ++ p.running)

namespace Balanced

variable {p' : WorkerPool Task} {marks m : List (Mark Task)}

theorem frame (h : Balanced p marks) (hb : beginnings m = []) (he : endings m = [])
    (hrunning : p'.running.Perm p.running) : Balanced p' (marks ++ m) := by
  rw [Balanced, beginnings_append, endings_append, hb, he, List.append_nil, List.append_nil]
  exact h.trans (hrunning.symm.append_left _)

theorem begin {task : Task} (h : Balanced p marks) (hb : p.begin? i = some (task, p')) :
    Balanced p' (marks ++ [.began i task]) := by
  have hnew : beginnings [Mark.began i task] = [(i, task)] := rfl
  have hnone : endings [Mark.began i task] = [] := rfl
  rw [Balanced, beginnings_append, endings_append, hnew, hnone, List.append_nil, List.map_append]
  refine (List.perm_append_singleton task _).trans (.trans (h.cons task) ?_)
  exact List.perm_middle.symm.trans ((running_begin hb).symm.append_left _)

theorem finish {task : Task} (h : Balanced p marks) (hr : p.running? i = some task)
    (ending : Ending) : Balanced (p.finish i) (marks ++ [.ended i task ending]) := by
  have hnew : endings [Mark.ended i task ending] = [(i, task)] := rfl
  have hnone : beginnings [Mark.ended i task ending] = [] := rfl
  rw [Balanced, beginnings_append, endings_append, hnew, hnone, List.append_nil, List.map_append,
    List.append_assoc]
  exact h.trans ((running_finish hr).append_left _)

theorem step (h : Balanced p marks) (e : Event Task) :
    Balanced (p.step e) (marks ++ p.marks e) := by
  cases e with
  | acquire launch => exact h.frame rfl rfl (List.Perm.of_eq (p.running_acquire launch))
  | release => exact h.frame rfl rfl (List.Perm.refl _)
  | submit task =>
    rw [WorkerPool.step, WorkerPool.marks]
    split
    · exact h.frame rfl rfl (p.running_submit task)
    · exact h.frame rfl rfl (p.running_submit task)
  | begin i =>
    rw [WorkerPool.step, WorkerPool.marks]
    cases hb : p.begin? i with
    | none => exact h.frame rfl rfl (List.Perm.refl _)
    | some begun => exact h.begin hb
  | finish i ending =>
    rw [WorkerPool.step, WorkerPool.marks]
    cases hr : p.running? i with
    | none =>
      rw [finish_of_not_running hr]
      exact h.frame rfl rfl (List.Perm.refl _)
    | some task => exact h.finish hr ending

end Balanced

theorem balanced (events : List (Event Task)) :
    Balanced ((empty : WorkerPool Task).run events) (empty.history events) :=
  history_induction (List.Perm.refl _) (fun _ _ e _ h => h.step e) events

/-- A thread started beside the unfinished tasks of another one makes two at once. -/
theorem not_serial :
    ¬ ∀ events : List (Event String),
      ((empty : WorkerPool String).run events).running.length ≤ 1 := by
  intro h
  exact absurd (h [.acquire .made, .submit "a", .begin 0, .release, .acquire .made,
    .submit "b", .begin 1]) (by decide)

/-! ## One at a time -/

/-- A thread is only started where all others are idle. -/
def RestartsWhenIdle (events : List (Event Task)) : Prop :=
  ∀ past later, events = past ++ .acquire .made :: later →
    ((empty : WorkerPool Task).run past).accepting = false →
      ∀ thread ∈ ((empty : WorkerPool Task).run past).threads, thread.isIdle = true

/-- No thread but the newest has tasks. -/
def OnlyNewest (p : WorkerPool Task) : Prop :=
  ∀ i t, p.thread? i = some t → i + 1 < p.threads.length → t.isIdle = true

theorem OnlyNewest.length_running_le_one (h : p.OnlyNewest) : p.running.length ≤ 1 := by
  rcases List.eq_nil_or_concat p.threads with hnil | ⟨older, newest, hthreads⟩
  · rw [running, hnil]
    exact Nat.zero_le 1
  · have holder : older.flatMap (fun t => t.running.toList) = [] := by
      rw [List.flatMap_eq_nil_iff]
      intro t ht
      obtain ⟨i, hi⟩ := List.getElem?_of_mem ht
      have hlt : i < older.length := (List.getElem?_eq_some_iff.mp hi).1
      have hidle := h i t (by rw [thread?, hthreads, List.concat_eq_append,
        List.getElem?_append_left hlt, hi]) (by rw [hthreads]; simp; omega)
      simp only [WorkerThread.isIdle, Bool.and_eq_true, Option.isNone_iff_eq_none] at hidle
      rw [hidle.2]
      rfl
    rw [running, hthreads, List.concat_eq_append, List.flatMap_append, holder]
    cases newest.running <;> simp

/-- A change of one thread that leaves it idle where it was. -/
theorem OnlyNewest.of_thread {p' : WorkerPool Task} (h : p.OnlyNewest)
    (hlength : p'.threads.length = p.threads.length)
    (hthreads : ∀ i t', p'.thread? i = some t' → i + 1 < p.threads.length →
      ∃ t, p.thread? i = some t ∧ (t.isIdle = true → t'.isIdle = true)) : p'.OnlyNewest := by
  intro i t' ht' hlt
  rw [hlength] at hlt
  obtain ⟨t, ht, hidle⟩ := hthreads i t' ht' hlt
  exact hidle (h i t ht hlt)

theorem OnlyNewest.engage (h : p.OnlyNewest)
    (hidle : p.accepting = false → ∀ thread ∈ p.threads, thread.isIdle = true) :
    p.engage.OnlyNewest := by
  unfold WorkerPool.engage
  split
  · exact h
  · rename_i ha
    intro i t ht hlt
    have hlt' : i < p.threads.length := by simpa using hlt
    rw [thread?, List.getElem?_append_left hlt'] at ht
    exact hidle (by simpa using ha) t (List.mem_of_getElem? ht)

theorem OnlyNewest.acquire (h : p.OnlyNewest) (launch : Launch)
    (hidle : launch.failure? = none → p.accepting = false →
      ∀ thread ∈ p.threads, thread.isIdle = true) : (p.acquire launch).2.OnlyNewest := by
  rcases p.acquire_cases launch with ⟨htaken, hacquire⟩ | ⟨_, -, -, hacquire⟩ <;> rw [hacquire]
  · refine h.engage fun ha => hidle (htaken.resolve_right ?_) ha
    rw [ha]
    exact Bool.false_ne_true
  · exact h

theorem OnlyNewest.submit (h : p.OnlyNewest) (task : Task) : (p.submit task).2.OnlyNewest := by
  rw [WorkerPool.submit]
  split
  · refine h.of_thread (List.length_modify ..) fun i t' ht' hlt => ?_
    rw [thread?, List.getElem?_modify] at ht'
    obtain ⟨t, ht, rfl⟩ := Option.map_eq_some_iff.mp ht'
    refine ⟨t, ht, fun hidle => ?_⟩
    rwa [if_neg (by omega)]
  · exact h

theorem OnlyNewest.begin {p' : WorkerPool Task} {task : Task} (h : p.OnlyNewest)
    (hb : p.begin? i = some (task, p')) : p'.OnlyNewest := by
  obtain ⟨t, t', ht, hbegin, rfl⟩ := begin?_eq_some hb
  refine h.of_thread (List.length_set ..) fun j u' hu' hlt => ?_
  rw [thread?, setThread, List.getElem?_set] at hu'
  by_cases hij : i = j
  · subst hij
    refine ⟨t, ht, fun hidle => ?_⟩
    have hsame : t'.tasks = t.tasks := (WorkerThread.begin?_eq_some hbegin).1
    rw [WorkerThread.isIdle_iff] at hidle
    rw [if_pos rfl] at hu'
    split at hu'
    · cases hu'
      rw [WorkerThread.isIdle_iff, hsame, hidle]
    · cases hu'
  · rw [if_neg hij] at hu'
    exact ⟨u', hu', id⟩

theorem OnlyNewest.finish (h : p.OnlyNewest) (i : Nat) : (p.finish i).OnlyNewest := by
  refine h.of_thread (List.length_modify ..) fun j t' ht' hlt => ?_
  rw [thread?_finish] at ht'
  obtain ⟨t, ht, rfl⟩ := Option.map_eq_some_iff.mp ht'
  refine ⟨t, ht, fun hidle => ?_⟩
  split
  · simp only [WorkerThread.isIdle, Bool.and_eq_true] at hidle ⊢
    exact ⟨hidle.1, rfl⟩
  · exact hidle

theorem OnlyNewest.step (h : p.OnlyNewest) (e : Event Task)
    (hidle : e = .acquire .made → p.accepting = false →
      ∀ thread ∈ p.threads, thread.isIdle = true) :
    (p.step e).OnlyNewest := by
  cases e with
  | acquire launch =>
    refine h.acquire launch fun hmade => hidle ?_
    rw [Launch.failure?_eq_none_iff.mp hmade]
  | release => exact h
  | submit task => exact h.submit task
  | begin i =>
    rw [WorkerPool.step]
    cases hb : p.begin? i with
    | none => exact h
    | some begun => exact h.begin hb
  | finish i ending => exact h.finish i

theorem onlyNewest_of_restartsWhenIdle {events : List (Event Task)} (h : RestartsWhenIdle events) :
    ((empty : WorkerPool Task).run events).OnlyNewest := by
  induction events using List.reverseRecOn with
  | nil => exact fun i t ht hlt => absurd hlt (Nat.not_lt_zero _)
  | append_singleton past e ih =>
    have hpast : RestartsWhenIdle past := by
      intro before later hsplit
      refine h before (later ++ [e]) ?_
      rw [hsplit, List.append_assoc]
      rfl
    rw [run_append]
    refine (ih hpast).step e fun he => ?_
    subst he
    exact h past [] rfl

/-! ## Two at a time -/

theorem two_le_length_running {j : Nat} (hij : i ≠ j) (hi : (p.running? i).isSome = true)
    (hj : (p.running? j).isSome = true) : 2 ≤ p.running.length := by
  obtain ⟨task, hi⟩ := Option.isSome_iff_exists.mp hi
  have hother : ((p.finish i).running? j).isSome = true := by
    rw [(waitingAt_finish p i j).2, if_neg hij]
    exact hj
  obtain ⟨task', hj⟩ := Option.isSome_iff_exists.mp hother
  rw [(running_finish hi).length_eq, List.length_cons, (running_finish hj).length_eq,
    List.length_cons]
  omega

/-- A thread that has tasks is at one of them once it may take its next step. -/
theorem isSome_running?_begin (h : p.running? i ≠ none ∨ p.waitingAt i ≠ []) :
    ((p.step (.begin i)).running? i).isSome = true := by
  rw [step]
  cases hb : p.begin? i with
  | none =>
    rcases begin?_eq_none_iff.mp hb with hsome | hnil
    · exact hsome
    · exact Option.isSome_iff_ne_none.mpr (h.resolve_right fun hne => hne hnil)
  | some begun =>
    obtain ⟨task, p'⟩ := begun
    obtain ⟨-, -, hrunning, -⟩ := begin?_spec hb
    simp only [hrunning, Option.isSome_some]

/-- What one thread takes up is nothing to the pool and the other threads. -/
theorem step_begin_frame (p : WorkerPool Task) (i : Nat) :
    (p.step (.begin i)).accepting = p.accepting ∧
      (p.step (.begin i)).threads.length = p.threads.length ∧
      ∀ j, j ≠ i → (p.step (.begin i)).thread? j = p.thread? j := by
  rw [step]
  cases hb : p.begin? i with
  | none => exact ⟨rfl, rfl, fun j _ => rfl⟩
  | some begun =>
    obtain ⟨task, p'⟩ := begun
    obtain ⟨-, -, -, hother⟩ := begin?_spec hb
    obtain ⟨t, t', -, -, rfl⟩ := begin?_eq_some hb
    exact ⟨rfl, List.length_set .., hother⟩

/-- A task that is submitted while an older thread is at one can be begun by the newest thread. -/
theorem two_le_length_running_of_submit (hp : p.Staffed) (ha : p.accepting = true)
    (hi : (p.running? i).isSome = true) (hne : i ≠ p.threads.length - 1) (task : Task) :
    2 ≤ (p.run [.submit task, .begin (p.threads.length - 1)]).running.length := by
  have hsubmit := waitingAt_submit hp ha task
  refine two_le_length_running hne ?_ (isSome_running?_begin (.inr ?_))
  · obtain ⟨-, -, hother⟩ := (p.submit task).2.step_begin_frame (p.threads.length - 1)
    show ((((p.submit task).2.step (.begin _)).thread? i).bind _).isSome = true
    rw [hother i hne, ← running?, (hsubmit i).2]
    exact hi
  · show (p.submit task).2.waitingAt _ ≠ []
    rw [(hsubmit _).1, if_pos rfl]
    exact List.concat_ne_nil _ _

/-- **A thread started beside unfinished tasks may be at one of its own meanwhile.** -/
theorem exists_overlap (ha : p.accepting = false) {thread : WorkerThread Task}
    (hmem : thread ∈ p.threads) (hbusy : thread.isIdle = false) :
    ∃ later : List (Event Task), (∀ launch, .acquire launch ∉ later) ∧
      2 ≤ ((p.step (.acquire .made)).run later).running.length := by
  obtain ⟨i, hi⟩ := List.getElem?_of_mem hmem
  have hlt : i < p.threads.length := (List.getElem?_eq_some_iff.mp hi).1
  have htasks : thread.tasks ≠ [] := fun hnil => by
    rw [(WorkerThread.isIdle_iff thread).mpr hnil] at hbusy
    cases hbusy
  obtain ⟨task, -⟩ := List.exists_mem_of_ne_nil _ htasks
  have hstarted : p.step (.acquire .made) = ⟨p.refs + 1, p.threads ++ [.idle], true⟩ := by
    simp [step, acquire, engage, Launch.failure?, ha]
  have hold : (p.step (.acquire .made)).thread? i = some thread := by
    rw [hstarted, thread?, List.getElem?_append_left hlt, hi]
  -- The older thread takes its next step first, so that it is at a task.
  have hrunning : (((p.step (.acquire .made)).step (.begin i)).running? i).isSome = true := by
    apply isSome_running?_begin
    rw [running?, waitingAt, hold]
    cases hr : thread.running with
    | none => exact .inr (by simpa [WorkerThread.tasks, hr] using htasks)
    | some other => exact .inl (by simp [hr])
  obtain ⟨haccepting, hlength, -⟩ := (p.step (.acquire .made)).step_begin_frame i
  have hnewest :
      ((p.step (.acquire .made)).step (.begin i)).threads.length = p.threads.length + 1 := by
    rw [hlength, hstarted, List.length_append, List.length_singleton]
  have hstaffed : ((p.step (.acquire .made)).step (.begin i)).Staffed := fun _ hnil => by
    rw [hnil] at hnewest
    cases hnewest
  refine ⟨[.begin i, .submit task, .begin p.threads.length], by simp, ?_⟩
  have htwo := two_le_length_running_of_submit hstaffed (by rw [haccepting, hstarted]) hrunning
    (by omega) task
  rw [hnewest] at htwo
  exact htwo

/-- **When the tasks of a pool run one at a time.**  They do as long as every thread is started
where the others are idle; and if a thread is started where they are not, two tasks can run at once
without another start. -/
theorem serial_iff_restartsWhenIdle (events : List (Event Task)) :
    Balanced ((empty : WorkerPool Task).run events) (empty.history events) ∧
    (RestartsWhenIdle events → ((empty : WorkerPool Task).run events).running.length ≤ 1) ∧
    (¬ RestartsWhenIdle events → ∃ past rest later : List (Event Task),
      events = past ++ .acquire .made :: rest ∧ (∀ launch, .acquire launch ∉ later) ∧
        2 ≤ ((empty : WorkerPool Task).run (past ++ .acquire .made :: later)).running.length) := by
  refine ⟨balanced events, fun h => (onlyNewest_of_restartsWhenIdle h).length_running_le_one, ?_⟩
  intro h
  simp only [RestartsWhenIdle, not_forall, Bool.not_eq_true] at h
  obtain ⟨past, rest, hsplit, ha, thread, hmem, hbusy⟩ := h
  obtain ⟨later, hquiet, htwo⟩ := exists_overlap ha hmem hbusy
  exact ⟨past, rest, later, hsplit, hquiet, by rw [run_append]; exact htwo⟩

end NodeBalancer.WorkerPool
