import NodeBalancer.WorkerPool

/-!
# The tasks of a worker pool

`WorkerPool.tasks` lists every accepted task that has not ended.  Here is what each operation does
to that list, up to order: only `submit` adds a task and only `finish` takes one away.

A pool that accepts tasks must have a thread to hand them to (`Staffed`), or they would be lost;
every operation keeps it so.
-/

namespace NodeBalancer

variable {Task : Type}

namespace WorkerThread

theorem tasks_push (t : WorkerThread Task) (task : Task) :
    (t.push task).tasks = t.tasks ++ [task] := by
  simp [tasks, push]

theorem tasks_of_running {t : WorkerThread Task} {task : Task} (h : t.running = some task) :
    t.tasks = task :: t.queue := by
  simp [tasks, h]

theorem isIdle_iff (t : WorkerThread Task) : t.isIdle = true ↔ t.tasks = [] := by
  cases hr : t.running <;> simp [isIdle, tasks, hr]

theorem begin?_eq_some {t t' : WorkerThread Task} {task : Task} (h : t.begin? = some (task, t')) :
    t'.tasks = t.tasks ∧ t'.running = some task := by
  unfold begin? at h
  split at h
  · rename_i queue hr hq
    cases h
    exact ⟨by simp [tasks, hr, hq], rfl⟩
  · cases h

end WorkerThread

theorem Launch.failure?_eq_none_iff {launch : Launch} :
    launch.failure? = none ↔ launch = .made := by
  cases launch <;> simp [failure?]

namespace WorkerPool

/-- A pool that accepts tasks has a thread. -/
def Staffed (p : WorkerPool Task) : Prop :=
  p.accepting = true → p.threads ≠ []

theorem staffed_empty : (empty : WorkerPool Task).Staffed := by
  intro h
  cases h

/-- A reference is taken, or the thread that is needed for it cannot be made. -/
theorem acquire_cases (p : WorkerPool Task) (launch : Launch) :
    (launch.failure? = none ∨ p.accepting = true) ∧ p.acquire launch = (.ok (), p.engage) ∨
      ∃ error, launch.failure? = some error ∧ p.accepting = false ∧
        p.acquire launch = (.error error, p) := by
  rw [acquire]
  split
  · next ha => exact .inl ⟨.inr ha, rfl⟩
  · next ha =>
    cases hfailure : launch.failure? with
    | none => exact .inl ⟨.inl rfl, rfl⟩
    | some error => exact .inr ⟨error, rfl, Bool.not_eq_true _ ▸ ha, rfl⟩

theorem acquire_made (p : WorkerPool Task) : p.acquire .made = (.ok (), p.engage) := by
  unfold acquire
  split <;> rfl

theorem refs_engage (p : WorkerPool Task) : p.engage.refs = p.refs + 1 := by
  unfold engage
  split <;> rfl

theorem Staffed.engage {p : WorkerPool Task} (h : p.Staffed) : p.engage.Staffed := by
  intro _
  unfold WorkerPool.engage
  split
  · exact h ‹_›
  · simp

theorem Staffed.acquire {p : WorkerPool Task} (h : p.Staffed) (launch : Launch) :
    (p.acquire launch).2.Staffed := by
  rcases p.acquire_cases launch with ⟨-, hacquire⟩ | ⟨_, -, -, hacquire⟩ <;> rw [hacquire]
  · exact h.engage
  · exact h

theorem Staffed.release {p : WorkerPool Task} (h : p.Staffed) : p.release.Staffed := by
  intro ha
  simp only [WorkerPool.release, Bool.and_eq_true] at ha
  exact h ha.1

theorem begin?_eq_some {p p' : WorkerPool Task} {i : Nat} {task : Task}
    (h : p.begin? i = some (task, p')) :
    ∃ t t', p.threads[i]? = some t ∧ t.begin? = some (task, t') ∧ p' = p.setThread i t' := by
  simp only [begin?, thread?, Option.map_eq_some_iff, Option.bind_eq_some_iff, Prod.exists,
    Prod.mk.injEq] at h
  obtain ⟨_, t', ⟨t, ht, hb⟩, rfl, rfl⟩ := h
  exact ⟨t, t', ht, hb, rfl⟩

/-! ## References -/

/-- No reference comes or goes and no thread does: at most what the threads hold has changed. -/
structure SameReferences (p p' : WorkerPool Task) : Prop where
  refs : p'.refs = p.refs
  accepting : p'.accepting = p.accepting
  length : p'.threads.length = p.threads.length

namespace SameReferences

variable {p p' p'' : WorkerPool Task}

theorem refl (p : WorkerPool Task) : SameReferences p p := ⟨rfl, rfl, rfl⟩

theorem trans (h : SameReferences p p') (g : SameReferences p' p'') : SameReferences p p'' :=
  ⟨g.refs.trans h.refs, g.accepting.trans h.accepting, g.length.trans h.length⟩

theorem submit (p : WorkerPool Task) (task : Task) : SameReferences p (p.submit task).2 := by
  unfold WorkerPool.submit
  split
  · exact ⟨rfl, rfl, List.length_modify ..⟩
  · exact refl p

theorem begin? {i : Nat} {task : Task} (h : p.begin? i = some (task, p')) :
    SameReferences p p' := by
  obtain ⟨_, _, _, _, rfl⟩ := begin?_eq_some h
  exact ⟨rfl, rfl, List.length_set ..⟩

theorem setRunning (p : WorkerPool Task) (i : Nat) (task : Task) :
    SameReferences p (p.setRunning i task) :=
  ⟨rfl, rfl, List.length_modify ..⟩

theorem finish (p : WorkerPool Task) (i : Nat) : SameReferences p (p.finish i) :=
  ⟨rfl, rfl, List.length_modify ..⟩

theorem staffed (h : SameReferences p p') (hp : p.Staffed) : p'.Staffed := by
  intro hacc hnil
  have hthreads : p.threads ≠ [] := hp (h.accepting ▸ hacc)
  have hlength := h.length
  rw [hnil] at hlength
  exact hthreads (List.length_eq_zero_iff.mp hlength.symm)

end SameReferences

/-! ## The list of tasks -/

theorem tasks_eq_nil_iff {p : WorkerPool Task} :
    p.tasks = [] ↔ ∀ thread ∈ p.threads, thread.isIdle = true := by
  rw [tasks, List.flatMap_eq_nil_iff]
  exact forall₂_congr fun thread _ => (WorkerThread.isIdle_iff thread).symm

theorem tasks_engage (p : WorkerPool Task) : p.engage.tasks = p.tasks := by
  unfold engage
  split <;> simp [tasks, WorkerThread.tasks, WorkerThread.idle]

/-- A change of one thread changes what is listed of all threads by what is listed of that one. -/
theorem exists_flatMap_modify {β : Type} (g : WorkerThread Task → List β)
    {threads : List (WorkerThread Task)} {i : Nat} {t : WorkerThread Task}
    (ht : threads[i]? = some t) :
    ∃ rest : List β, (threads.flatMap g).Perm (g t ++ rest) ∧
      ∀ f : WorkerThread Task → WorkerThread Task,
        ((threads.modify i f).flatMap g).Perm (g (f t) ++ rest) := by
  obtain ⟨hi, hget⟩ := List.getElem?_eq_some_iff.mp ht
  refine ⟨(threads.take i).flatMap g ++ (threads.drop (i + 1)).flatMap g, ?_, fun f => ?_⟩
  · have hsplit : threads = threads.take i ++ t :: threads.drop (i + 1) := by
      rw [← hget, ← List.drop_eq_getElem_cons hi, List.take_append_drop]
    rw [hsplit, List.flatMap_append, List.flatMap_cons, ← hsplit]
    exact List.perm_append_comm_assoc ..
  · rw [List.modify_eq_take_cons_drop hi, hget, List.flatMap_append, List.flatMap_cons]
    exact List.perm_append_comm_assoc ..

theorem tasks_submit {p : WorkerPool Task} (h : p.Staffed) (ha : p.accepting = true) (task : Task) :
    (p.submit task).2.tasks.Perm (task :: p.tasks) := by
  have hpos : 0 < p.threads.length := List.length_pos_iff.mpr (h ha)
  have hlt : p.threads.length - 1 < p.threads.length := by omega
  obtain ⟨rest, hp, hf⟩ :=
    exists_flatMap_modify WorkerThread.tasks (List.getElem?_eq_getElem hlt)
  rw [submit, if_pos ha]
  refine (hf _).trans (.trans ?_ (hp.symm.cons task))
  rw [WorkerThread.tasks_push, List.append_assoc]
  exact List.perm_middle

theorem tasks_begin {p p' : WorkerPool Task} {i : Nat} {task : Task}
    (h : p.begin? i = some (task, p')) : p'.tasks = p.tasks ∧ p'.running? i = some task := by
  obtain ⟨t, t', ht, hb, rfl⟩ := begin?_eq_some h
  obtain ⟨htasks, hrun⟩ := WorkerThread.begin?_eq_some hb
  obtain ⟨hi, rfl⟩ := List.getElem?_eq_some_iff.mp ht
  constructor
  · rw [tasks, tasks, List.flatMap_def, List.flatMap_def, setThread, List.map_set, htasks,
      ← List.getElem_map WorkerThread.tasks (h := by simpa using hi), List.set_getElem_self]
  · simp [running?, thread?, setThread, hi, hrun]

/-- The running task of a thread among all tasks: what is put in its place comes to stand there, and
when it ends it alone is gone. -/
theorem exists_tasks_running {p : WorkerPool Task} {i : Nat} {task : Task}
    (h : p.running? i = some task) :
    ∃ rest : List Task, p.tasks.Perm (task :: rest) ∧
      (∀ task', (p.setRunning i task').tasks.Perm (task' :: rest)) ∧
      (p.finish i).tasks.Perm rest := by
  obtain ⟨t, ht, hr⟩ := Option.bind_eq_some_iff.mp h
  obtain ⟨rest, hp, hf⟩ := exists_flatMap_modify WorkerThread.tasks ht
  refine ⟨t.queue ++ rest, ?_, fun task' => hf _, hf _⟩
  rwa [WorkerThread.tasks_of_running hr] at hp

end WorkerPool

end NodeBalancer
