import NodeBalancer.Error
import NodeBalancer.Text.Record

/-!
# A worker shared by reference count

The first reference starts a worker thread and the last release stops it.  A stopped thread takes no
more tasks, but it still works off those it has.  A later reference starts another thread beside it.
Each thread runs its tasks one after the other, in the order they came in.  Where a thread has to be
started that may fail; then no reference is taken.

The pool says only what may happen: a thread begins a task, keeps it for as long as it likes, and
ends it.  When a thread does so is left open.
-/

namespace NodeBalancer

/-- A worker thread: the tasks it has not begun, oldest first, and the one it is at. -/
structure WorkerThread (Task : Type) where
  queue : List Task
  running : Option Task
deriving DecidableEq

namespace WorkerThread

variable {Task : Type}

def idle : WorkerThread Task := ⟨[], none⟩

def isIdle (t : WorkerThread Task) : Bool :=
  t.queue.isEmpty && t.running.isNone

/-- Every task of the thread that has not ended, the running one first. -/
def tasks (t : WorkerThread Task) : List Task :=
  t.running.toList ++ t.queue

def push (t : WorkerThread Task) (task : Task) : WorkerThread Task :=
  { t with queue := t.queue ++ [task] }

/-- Takes up the oldest task, if the thread is free and has one. -/
def begin? (t : WorkerThread Task) : Option (Task × WorkerThread Task) :=
  match t.running, t.queue with
  | none, task :: queue => some (task, ⟨queue, some task⟩)
  | _, _ => none

def setRunning (t : WorkerThread Task) (running : Option Task) : WorkerThread Task :=
  { t with running := running }

end WorkerThread

/-- What comes of it when a worker thread is to be made. -/
inductive Launch where
  | made
  /-- The machine gives no thread. -/
  | noThread (reason : String)
  /-- The thread gets nothing to run its tasks in, and ends. -/
  | noRuntime (reason : String)
  /-- The thread is gone before it has said either. -/
  | exited
deriving DecidableEq

/-- Why there is no worker thread. -/
def Launch.failure? : Launch → Option Error
  | made => none
  | noThread reason | noRuntime reason => some (.workerFailure reason)
  | exited => some (.workerFailure "refresh worker exited during startup")

/-- Threads are numbered in the order they were started; only the newest may accept tasks. -/
structure WorkerPool (Task : Type) where
  refs : Nat
  threads : List (WorkerThread Task)
  accepting : Bool
deriving DecidableEq

namespace WorkerPool

variable {Task : Type}

def threadName : String := "alternator-lb-refresh"

def empty : WorkerPool Task := ⟨0, [], false⟩

def isRunning (p : WorkerPool Task) : Bool :=
  p.accepting

/-- One reference more, and a new thread if the newest is stopped. -/
def engage (p : WorkerPool Task) : WorkerPool Task :=
  if p.accepting then { p with refs := p.refs + 1 }
  else ⟨p.refs + 1, p.threads ++ [.idle], true⟩

/-- Takes a reference.  A thread is made for it only if the newest is stopped. -/
def acquire (p : WorkerPool Task) (launch : Launch) : Except Error Unit × WorkerPool Task :=
  if p.accepting then (.ok (), p.engage)
  else
    match launch.failure? with
    | none => (.ok (), p.engage)
    | some error => (.error error, p)

/-- Releasing more often than acquiring does nothing. -/
def release (p : WorkerPool Task) : WorkerPool Task :=
  { p with
    refs := p.refs - 1
    accepting := p.accepting && decide (1 < p.refs) }

/-- Hands a task to the newest thread, or not at all if that thread is stopped. -/
def submit (p : WorkerPool Task) (task : Task) : Bool × WorkerPool Task :=
  if p.accepting then
    (true, { p with threads := p.threads.modify (p.threads.length - 1) (·.push task) })
  else (false, p)

def thread? (p : WorkerPool Task) (i : Nat) : Option (WorkerThread Task) :=
  p.threads[i]?

def running? (p : WorkerPool Task) (i : Nat) : Option Task :=
  (p.thread? i).bind (·.running)

def setThread (p : WorkerPool Task) (i : Nat) (t : WorkerThread Task) : WorkerPool Task :=
  { p with threads := p.threads.set i t }

/-- Lets a thread take up its oldest task. -/
def begin? (p : WorkerPool Task) (i : Nat) : Option (Task × WorkerPool Task) :=
  ((p.thread? i).bind WorkerThread.begin?).map fun (task, t) => (task, p.setThread i t)

/-- Puts another task in the place of the one that a thread is at. -/
def setRunning (p : WorkerPool Task) (i : Nat) (task : Task) : WorkerPool Task :=
  { p with threads := p.threads.modify i (·.setRunning (some task)) }

/-- Takes the running task off a thread: it has ended, one way or the other. -/
def finish (p : WorkerPool Task) (i : Nat) : WorkerPool Task :=
  { p with threads := p.threads.modify i (·.setRunning none) }

/-- Every task that has been accepted and has not ended, thread by thread. -/
def tasks (p : WorkerPool Task) : List Task :=
  p.threads.flatMap WorkerThread.tasks

def describe (p : WorkerPool Task) : String :=
  Text.record "WorkerPool"
    [Text.field "refs" (toString p.refs), Text.field "running" (Text.showBool p.accepting)]

end WorkerPool

end NodeBalancer
