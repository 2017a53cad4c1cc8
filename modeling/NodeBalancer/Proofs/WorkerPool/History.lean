import NodeBalancer.Proofs.WorkerPool.Tasks

/-!
# The history of a worker pool

A pool is used by events: references come and go, tasks are submitted, and every thread takes up its
next task or ends the one it is at whenever it likes.  A list of events is thus an order of steps of
all threads together.  A task that is held up has begun and not ended.

The **history** of a pool is the list of what became of tasks, oldest first.  It is read off what
the operations themselves report.  For each thread it must balance with what the thread holds
(`WorkerPool.Accounts`): what was accepted has begun, in that order, or is on the queue, and what
has begun has ended, in that order, or is running.
-/

namespace NodeBalancer

/-- How a task comes to its end.  A thread outlives the tasks that break off. -/
inductive Ending where
  | completed
  | brokenOff
deriving DecidableEq

namespace WorkerPool

inductive Event (Task : Type) where
  | acquire (launch : Launch)
  | release
  | submit (task : Task)
  | begin (thread : Nat)
  | finish (thread : Nat) (ending : Ending)
deriving DecidableEq

/-- What becomes of a task. -/
inductive Mark (Task : Type) where
  | accepted (thread : Nat) (task : Task)
  | refused (task : Task)
  | began (thread : Nat) (task : Task)
  | ended (thread : Nat) (task : Task) (ending : Ending)
deriving DecidableEq

variable {Task : Type}

/-- The task that an event submits, if it submits one. -/
def Event.submission? : Event Task → Option Task
  | submit task => some task
  | _ => none

/-- Whether an event is a step of a thread. -/
def Event.isThreadStep : Event Task → Bool
  | begin _ => true
  | finish _ _ => true
  | _ => false

namespace Mark

def submission? : Mark Task → Option Task
  | accepted _ task => some task
  | refused task => some task
  | _ => none

def refusal? : Mark Task → Option Task
  | refused task => some task
  | _ => none

def acceptance? : Mark Task → Option (Nat × Task)
  | accepted thread task => some (thread, task)
  | _ => none

def beginning? : Mark Task → Option (Nat × Task)
  | began thread task => some (thread, task)
  | _ => none

def ending? : Mark Task → Option (Nat × Task)
  | ended thread task _ => some (thread, task)
  | _ => none

end Mark

def step (p : WorkerPool Task) : Event Task → WorkerPool Task
  | .acquire launch => (p.acquire launch).2
  | .release => p.release
  | .submit task => (p.submit task).2
  | .begin i =>
    match p.begin? i with
    | none => p
    | some (_, p) => p
  | .finish i _ => p.finish i

def run (p : WorkerPool Task) (events : List (Event Task)) : WorkerPool Task :=
  events.foldl step p

/-- What becomes of tasks by an event: at most one thing. -/
def marks (p : WorkerPool Task) : Event Task → List (Mark Task)
  | .submit task =>
    if (p.submit task).1 then [.accepted (p.threads.length - 1) task] else [.refused task]
  | .begin i => (p.begin? i).toList.map fun (task, _) => .began i task
  | .finish i ending => (p.running? i).toList.map fun task => .ended i task ending
  | .acquire _ => []
  | .release => []

def history (p : WorkerPool Task) : List (Event Task) → List (Mark Task)
  | [] => []
  | e :: events => p.marks e ++ (p.step e).history events

@[simp] theorem run_cons (p : WorkerPool Task) (e : Event Task) (events : List (Event Task)) :
    p.run (e :: events) = (p.step e).run events := rfl

theorem run_append (p : WorkerPool Task) (past later : List (Event Task)) :
    p.run (past ++ later) = (p.run past).run later := List.foldl_append

/-! ## Threads -/

/-- The tasks that a thread has not begun, oldest first. -/
def waitingAt (p : WorkerPool Task) (i : Nat) : List Task :=
  ((p.thread? i).map (·.queue)).getD []

theorem thread?_engage (p : WorkerPool Task) (i : Nat) :
    p.engage.thread? i = p.thread? i ∨
      p.thread? i = none ∧ p.engage.thread? i = some .idle := by
  unfold engage
  split
  · exact .inl rfl
  · simp only [thread?]
    rcases Nat.lt_trichotomy i p.threads.length with hlt | rfl | hgt
    · exact .inl (List.getElem?_append_left hlt)
    · exact .inr ⟨List.getElem?_eq_none (Nat.le_refl _), List.getElem?_concat_length⟩
    · left
      rw [List.getElem?_eq_none (by simp; omega), List.getElem?_eq_none (by omega)]

/-- A new thread changes nothing in what the threads hold. -/
theorem waitingAt_acquire (p : WorkerPool Task) (launch : Launch) (i : Nat) :
    (p.acquire launch).2.waitingAt i = p.waitingAt i ∧
      (p.acquire launch).2.running? i = p.running? i := by
  rcases p.acquire_cases launch with ⟨-, hacquire⟩ | ⟨_, -, -, hacquire⟩
  · rw [hacquire]
    rcases p.thread?_engage i with h | ⟨hold, hnew⟩
    · exact ⟨by rw [waitingAt, waitingAt, h], by rw [running?, running?, h]⟩
    · exact ⟨by rw [waitingAt, waitingAt, hold, hnew]; rfl,
        by rw [running?, running?, hold, hnew]; rfl⟩
  · rw [hacquire]
    exact ⟨rfl, rfl⟩

/-- Only the newest thread is given a task, at the end of its queue. -/
theorem waitingAt_submit {p : WorkerPool Task} (h : p.Staffed) (ha : p.accepting = true)
    (task : Task) (i : Nat) :
    (p.submit task).2.waitingAt i =
        (if i = p.threads.length - 1 then p.waitingAt i ++ [task] else p.waitingAt i) ∧
      (p.submit task).2.running? i = p.running? i := by
  have hpos : 0 < p.threads.length := List.length_pos_iff.mpr (h ha)
  have hthread : (p.submit task).2.thread? i =
      (p.thread? i).map fun t => if p.threads.length - 1 = i then t.push task else t := by
    rw [submit, if_pos ha]
    exact List.getElem?_modify ..
  rw [running?, running?, waitingAt, waitingAt, hthread]
  by_cases hi : i = p.threads.length - 1
  · subst hi
    obtain ⟨t, ht⟩ : ∃ t, p.thread? (p.threads.length - 1) = some t :=
      ⟨_, List.getElem?_eq_getElem (by omega)⟩
    simp [ht, WorkerThread.push]
  · have hi' : ¬ p.threads.length - 1 = i := fun h => hi h.symm
    simp [hi, hi']

theorem submit_of_not_accepting {p : WorkerPool Task} (ha : ¬ p.accepting = true) (task : Task) :
    p.submit task = (false, p) := by
  rw [submit, if_neg ha]

/-- A thread that takes up a task was free and takes the oldest one. -/
theorem begin?_spec {p p' : WorkerPool Task} {i : Nat} {task : Task}
    (h : p.begin? i = some (task, p')) :
    p.running? i = none ∧ p.waitingAt i = task :: p'.waitingAt i ∧ p'.running? i = some task ∧
      ∀ j, j ≠ i → p'.thread? j = p.thread? j := by
  obtain ⟨t, t', ht, hb, rfl⟩ := begin?_eq_some h
  have hlt : i < p.threads.length := (List.getElem?_eq_some_iff.mp ht).1
  have hself : (p.setThread i t').thread? i = some t' := by
    rw [thread?, setThread, List.getElem?_set, if_pos rfl, if_pos hlt]
  have hother : ∀ j, j ≠ i → (p.setThread i t').thread? j = p.thread? j := by
    intro j hj
    rw [thread?, setThread, List.getElem?_set, if_neg hj.symm]
    rfl
  have ht' : p.thread? i = some t := ht
  rw [running?, running?, waitingAt, waitingAt, hself, ht']
  unfold WorkerThread.begin? at hb
  split at hb
  · rename_i queue hr hq
    cases hb
    exact ⟨hr, hq, rfl, hother⟩
  · cases hb

theorem begin?_eq_none_iff {p : WorkerPool Task} {i : Nat} :
    p.begin? i = none ↔ (p.running? i).isSome = true ∨ p.waitingAt i = [] := by
  rw [begin?, running?, waitingAt, Option.map_eq_none_iff]
  cases p.thread? i with
  | none => simp
  | some t =>
    rw [Option.bind_some, Option.bind_some, Option.map_some, Option.getD_some, WorkerThread.begin?]
    cases t.running <;> cases t.queue <;> simp

theorem thread?_finish (p : WorkerPool Task) (i j : Nat) :
    (p.finish i).thread? j =
      (p.thread? j).map fun t => if i = j then t.setRunning none else t :=
  List.getElem?_modify ..

theorem waitingAt_finish (p : WorkerPool Task) (i j : Nat) :
    (p.finish i).waitingAt j = p.waitingAt j ∧
      (p.finish i).running? j = if i = j then none else p.running? j := by
  rw [waitingAt, waitingAt, running?, running?, thread?_finish]
  by_cases hij : i = j <;> cases p.thread? j <;> simp [hij, WorkerThread.setRunning]

/-! ## Accounts -/

/-- What is told of one thread. -/
def ofThread (i : Nat) (told : List (Nat × Task)) : List Task :=
  (told.filter (·.1 = i)).map (·.2)

def acceptances (marks : List (Mark Task)) : List (Nat × Task) := marks.filterMap Mark.acceptance?

def beginnings (marks : List (Mark Task)) : List (Nat × Task) := marks.filterMap Mark.beginning?

def endings (marks : List (Mark Task)) : List (Nat × Task) := marks.filterMap Mark.ending?

theorem acceptances_append (marks more : List (Mark Task)) :
    acceptances (marks ++ more) = acceptances marks ++ acceptances more := List.filterMap_append

theorem beginnings_append (marks more : List (Mark Task)) :
    beginnings (marks ++ more) = beginnings marks ++ beginnings more := List.filterMap_append

theorem endings_append (marks more : List (Mark Task)) :
    endings (marks ++ more) = endings marks ++ endings more := List.filterMap_append

theorem ofThread_append (i : Nat) (told more : List (Nat × Task)) :
    ofThread i (told ++ more) = ofThread i told ++ ofThread i more := by
  rw [ofThread, List.filter_append, List.map_append]
  rfl

theorem ofThread_singleton (i j : Nat) (task : Task) :
    ofThread i [(j, task)] = if j = i then [task] else [] := by
  by_cases hji : j = i <;> simp [ofThread, hji]

/-- What a history tells of each thread balances with what the thread holds. -/
structure Accounts (p : WorkerPool Task) (marks : List (Mark Task)) : Prop where
  accepted : ∀ i, ofThread i (acceptances marks) = ofThread i (beginnings marks) ++ p.waitingAt i
  begun : ∀ i,
    ofThread i (beginnings marks) = ofThread i (endings marks) ++ (p.running? i).toList

/-- A pool that accepts tasks has references and a thread, and only then. -/
structure Sound (p : WorkerPool Task) : Prop where
  staffed : p.Staffed
  referenced : p.accepting = true ↔ 0 < p.refs

theorem sound_empty : (empty : WorkerPool Task).Sound where
  staffed := staffed_empty
  referenced := by simp [empty]

theorem Sound.engage {p : WorkerPool Task} (h : p.Sound) : p.engage.Sound where
  staffed := h.staffed.engage
  referenced := by
    unfold WorkerPool.engage
    split
    · simp [*]
    · simp

theorem Sound.acquire {p : WorkerPool Task} (h : p.Sound) (launch : Launch) :
    (p.acquire launch).2.Sound := by
  rcases p.acquire_cases launch with ⟨-, hacquire⟩ | ⟨_, -, -, hacquire⟩ <;> rw [hacquire]
  · exact h.engage
  · exact h

theorem Sound.release {p : WorkerPool Task} (h : p.Sound) : p.release.Sound where
  staffed := h.staffed.release
  referenced := by
    simp only [WorkerPool.release, Bool.and_eq_true, decide_eq_true_eq, h.referenced]
    omega

theorem Sound.of_same {p p' : WorkerPool Task} (h : p.Sound) (hsame : SameReferences p p') :
    p'.Sound where
  staffed := hsame.staffed h.staffed
  referenced := by
    rw [hsame.accepting, hsame.refs]
    exact h.referenced

theorem Sound.step {p : WorkerPool Task} (h : p.Sound) (e : Event Task) : (p.step e).Sound := by
  cases e with
  | acquire launch => exact h.acquire launch
  | release => exact h.release
  | submit task => exact h.of_same (.submit p task)
  | begin i =>
    rw [WorkerPool.step]
    cases hb : p.begin? i with
    | none => exact h
    | some begun => exact h.of_same (.begin? hb)
  | finish i ending => exact h.of_same (.finish p i)

theorem Sound.run {p : WorkerPool Task} (h : p.Sound) (events : List (Event Task)) :
    (p.run events).Sound := by
  induction events generalizing p with
  | nil => exact h
  | cons e events ih => exact ih (h.step e)

namespace Accounts

variable {p p' : WorkerPool Task} {marks : List (Mark Task)}

/-- What tells of no thread and changes none keeps the accounts. -/
theorem frame (h : Accounts p marks) {m : List (Mark Task)} (ha : acceptances m = [])
    (hb : beginnings m = []) (he : endings m = [])
    (hthreads : ∀ i, p'.waitingAt i = p.waitingAt i ∧ p'.running? i = p.running? i) :
    Accounts p' (marks ++ m) where
  accepted i := by
    rw [acceptances_append, beginnings_append, ha, hb, List.append_nil, List.append_nil,
      (hthreads i).1]
    exact h.accepted i
  begun i := by
    rw [beginnings_append, endings_append, hb, he, List.append_nil, List.append_nil,
      (hthreads i).2]
    exact h.begun i

theorem accept (h : Accounts p marks) (hp : p.Staffed) (ha : p.accepting = true) (task : Task) :
    Accounts (p.submit task).2 (marks ++ [.accepted (p.threads.length - 1) task]) where
  accepted i := by
    have hnew : acceptances [Mark.accepted (p.threads.length - 1) task] =
        [(p.threads.length - 1, task)] := rfl
    have hnone : beginnings [Mark.accepted (p.threads.length - 1) task] = [] := rfl
    rw [acceptances_append, beginnings_append, hnew, hnone, List.append_nil, ofThread_append,
      ofThread_singleton, h.accepted i, (waitingAt_submit hp ha task i).1]
    by_cases hi : i = p.threads.length - 1
    · rw [if_pos hi.symm, if_pos hi, List.append_assoc]
    · rw [if_neg (Ne.symm hi), if_neg hi, List.append_nil]
  begun i := by
    have hnone : beginnings [Mark.accepted (p.threads.length - 1) task] = [] := rfl
    have hnone' : endings [Mark.accepted (p.threads.length - 1) task] = [] := rfl
    rw [beginnings_append, endings_append, hnone, hnone', List.append_nil, List.append_nil,
      (waitingAt_submit hp ha task i).2]
    exact h.begun i

theorem begin (h : Accounts p marks) {i : Nat} {task : Task} (hb : p.begin? i = some (task, p')) :
    Accounts p' (marks ++ [.began i task]) := by
  obtain ⟨hfree, hwaiting, hrunning, hother⟩ := begin?_spec hb
  have hnew : beginnings [Mark.began i task] = [(i, task)] := rfl
  have hnone : acceptances [Mark.began i task] = [] := rfl
  have hnone' : endings [Mark.began i task] = [] := rfl
  constructor
  · intro j
    rw [acceptances_append, beginnings_append, hnew, hnone, List.append_nil, ofThread_append,
      ofThread_singleton, h.accepted j]
    by_cases hj : j = i
    · subst hj
      rw [if_pos rfl, hwaiting, List.append_assoc]
      rfl
    · rw [if_neg (Ne.symm hj), List.append_nil, waitingAt, waitingAt, hother j hj]
  · intro j
    rw [beginnings_append, endings_append, hnew, hnone', List.append_nil, ofThread_append,
      ofThread_singleton, h.begun j]
    by_cases hj : j = i
    · subst hj
      rw [if_pos rfl, hfree, hrunning, Option.toList_none, Option.toList_some, List.append_nil]
    · rw [if_neg (Ne.symm hj), List.append_nil, running?, running?, hother j hj]

theorem finish (h : Accounts p marks) {i : Nat} {task : Task} (hr : p.running? i = some task)
    (ending : Ending) : Accounts (p.finish i) (marks ++ [.ended i task ending]) := by
  have hnew : endings [Mark.ended i task ending] = [(i, task)] := rfl
  have hnone : acceptances [Mark.ended i task ending] = [] := rfl
  have hnone' : beginnings [Mark.ended i task ending] = [] := rfl
  constructor
  · intro j
    rw [acceptances_append, beginnings_append, hnone, hnone', List.append_nil, List.append_nil,
      (waitingAt_finish p i j).1]
    exact h.accepted j
  · intro j
    rw [beginnings_append, endings_append, hnew, hnone', List.append_nil, ofThread_append,
      ofThread_singleton, h.begun j, (waitingAt_finish p i j).2]
    by_cases hj : i = j
    · subst hj
      rw [if_pos rfl, if_pos rfl, hr, Option.toList_some, Option.toList_none, List.append_nil]
    · rw [if_neg hj, if_neg hj, List.append_nil]

theorem step (h : Accounts p marks) (hp : p.Sound) (e : Event Task) :
    Accounts (p.step e) (marks ++ p.marks e) := by
  cases e with
  | acquire launch => exact h.frame rfl rfl rfl (p.waitingAt_acquire launch)
  | release => exact h.frame rfl rfl rfl fun _ => ⟨rfl, rfl⟩
  | submit task =>
    by_cases ha : p.accepting = true
    · have hmarks : p.marks (.submit task) = [.accepted (p.threads.length - 1) task] := by
        simp [WorkerPool.marks, submit, ha]
      rw [hmarks]
      exact h.accept hp.staffed ha task
    · have hmarks : p.marks (.submit task) = [.refused task] := by
        simp [WorkerPool.marks, submit, ha]
      rw [hmarks, WorkerPool.step, submit_of_not_accepting ha]
      exact h.frame rfl rfl rfl fun _ => ⟨rfl, rfl⟩
  | begin i =>
    rw [WorkerPool.step, WorkerPool.marks]
    cases hb : p.begin? i with
    | none => exact h.frame rfl rfl rfl fun _ => ⟨rfl, rfl⟩
    | some begun => exact h.begin hb
  | finish i ending =>
    rw [WorkerPool.step, WorkerPool.marks]
    cases hr : p.running? i with
    | none =>
      refine h.frame rfl rfl rfl fun j => ⟨(waitingAt_finish p i j).1, ?_⟩
      rw [(waitingAt_finish p i j).2]
      split
      · subst_vars
        exact hr.symm
      · rfl
    | some task => exact h.finish hr ending

end Accounts

/-- What holds of an unused pool and is kept by every event holds after every order of events. -/
theorem history_induction {P : WorkerPool Task → List (Mark Task) → Prop} (hempty : P empty [])
    (hstep : ∀ p marks e, p.Sound → P p marks → P (p.step e) (marks ++ p.marks e))
    (events : List (Event Task)) : P (empty.run events) (empty.history events) := by
  suffices h : ∀ p marks, p.Sound → P p marks → P (p.run events) (marks ++ p.history events) by
    simpa using h empty [] sound_empty hempty
  induction events with
  | nil =>
    intro p marks _ h
    rw [history, List.append_nil]
    exact h
  | cons e events ih =>
    intro p marks hp h
    rw [history, ← List.append_assoc]
    exact ih (p.step e) (marks ++ p.marks e) (hp.step e) (hstep p marks e hp h)

/-- **The accounts of every history balance.** -/
theorem accounts (events : List (Event Task)) :
    Accounts ((empty : WorkerPool Task).run events) (empty.history events) :=
  history_induction ⟨fun _ => rfl, fun _ => rfl⟩ (fun _ _ e hp h => h.step hp e) events

end WorkerPool

end NodeBalancer
