import NodeBalancer.Proofs.Session.Runs
import NodeBalancer.Proofs.System.Ledger
import NodeBalancer.Proofs.System.Results
import NodeBalancer.Proofs.WorkerPool.Overlap

/-!
# A refresh carried out at once

A refresh that a worker thread or a caller has to itself runs from its first step to its last with
nobody in between.  `Session.carryOut` is that run by itself, without a queue, a thread or a call:

* `Session.settle_submitted`: letting the workers settle carries out the one refresh on a queue.
* `Session.runCall_of_carryOut`: so does a forced refresh on the thread of its caller.
* `Session.carryOut_eq`: what comes of it.

The only call under way is taken apart in the same manner (`Session.runCall_calling`), so that what
a probe does is read off its steps as well.
-/

namespace NodeBalancer

theorem WorkerThread.eq_idle {Task : Type} {t : WorkerThread Task} (h : t.isIdle = true) :
    t = .idle := by
  obtain ⟨queue, running⟩ := t
  simpa [WorkerThread.isIdle, WorkerThread.idle] using h

namespace WorkerPool

variable {Task : Type} {p : WorkerPool Task} {k : Nat}

theorem setRunning_setRunning (p : WorkerPool Task) (k : Nat) (task next : Task) :
    (p.setRunning k task).setRunning k next = p.setRunning k next := by
  rw [setRunning, setRunning, setRunning, List.modify_modify_eq]
  rfl

theorem finish_setRunning (p : WorkerPool Task) (k : Nat) (task : Task) :
    (p.setRunning k task).finish k = p.finish k := by
  rw [finish, setRunning, finish, List.modify_modify_eq]
  rfl

theorem thread?_setRunning (h : p.thread? k = some .idle) (task : Task) :
    (p.setRunning k task).thread? k = some ⟨[], some task⟩ := by
  rw [thread?] at h
  rw [thread?, setRunning, List.getElem?_modify_eq, h]
  rfl

/-- An idle thread that is given a task can take it up. -/
theorem begin?_submit (ha : p.accepting = true)
    (h : p.thread? (p.threads.length - 1) = some .idle) (task : Task) :
    (p.submit task).2.thread? (p.threads.length - 1) = some ⟨[task], none⟩ ∧
      (p.submit task).2.begin? (p.threads.length - 1) =
        some (task, p.setRunning (p.threads.length - 1) task) := by
  rw [thread?] at h
  have hthread : (p.submit task).2.thread? (p.threads.length - 1) = some ⟨[task], none⟩ := by
    rw [submit, if_pos ha, thread?, List.getElem?_modify_eq, h]
    rfl
  refine ⟨hthread, ?_⟩
  rw [begin?, hthread, setRunning, List.modify_eq_set_getElem?, h, submit, if_pos ha,
    List.modify_eq_set_getElem?, h]
  simp [WorkerThread.begin?, setThread, WorkerThread.setRunning, WorkerThread.idle]

end WorkerPool

namespace System

variable {s : System}

/-- A step of a refresh looks neither at the worker pool nor at the calls under way. -/
theorem stepRefresh_elsewhere (s : System) (pool : WorkerPool Refresh) (calls : List Call)
    (r : Refresh) (answer : Answer) (now : Instant) :
    { s with pool := pool, calls := calls }.stepRefresh r answer now =
      ((s.stepRefresh r answer now).1,
        { (s.stepRefresh r answer now).2 with pool := pool, calls := calls }) := by
  obtain ⟨i, stage⟩ := r
  have hfinish : ∀ result : Except Fault Bool,
      { s with pool := pool, calls := calls }.finishRefresh i now result =
        ((s.finishRefresh i now result).1,
          { (s.finishRefresh i now result).2 with pool := pool, calls := calls }) := by
    intro result
    cases h : (s.agents[i]?).bind (·.finish? now) with
    | some a => simp [finishRefresh, agent?, h, modifyAgent]
    | none => cases result <;> simp [finishRefresh, agent?, h]
  cases stage with
  | waiting => cases h : s.agents[i]? <;> simp [stepRefresh, pick?, agent?, h, modifyAgent]
  | asking base => cases answer <;> rfl
  | answered nodes => rfl
  | broken message => simp only [stepRefresh, hfinish]
  | settled replaced => simp only [stepRefresh, hfinish]

/-- A thread that is at a refresh takes the step that the refresh takes by itself. -/
theorem stepThread_setRunning {k : Nat} (h : s.pool.thread? k = some .idle) (r : Refresh)
    (answer : Answer) (now : Instant) :
    { s with pool := s.pool.setRunning k r }.stepThread k answer now =
      match s.stepRefresh r answer now with
      | (.inl next, s') => { s' with pool := s'.pool.setRunning k next }
      | (.inr _, s') => s' := by
  have hrunning : (s.pool.setRunning k r).running? k = some r := by
    rw [WorkerPool.running?, WorkerPool.thread?_setRunning h]
    rfl
  have hidle : s.pool.running? k = none := by
    rw [WorkerPool.running?, h]
    rfl
  have hframe := stepRefresh_pool_calls (s := s) r answer now
  have hstep := s.stepRefresh_elsewhere (s.pool.setRunning k r) s.calls r answer now
  rw [stepThread, task?, hrunning]
  simp only [hstep]
  generalize s.stepRefresh r answer now = taken at hframe
  obtain ⟨next, s'⟩ := taken
  obtain ⟨hpool, hcalls⟩ : s'.pool = s.pool ∧ s'.calls = s.calls := hframe
  cases next with
  | inl next => simp only [WorkerPool.setRunning_setRunning, ← hcalls, ← hpool]
  | inr result =>
    have hdone : (s.pool.setRunning k r).finish k = s'.pool := by
      rw [WorkerPool.finish_setRunning, WorkerPool.finish_of_not_running hidle, hpool]
    simp only [hdone, ← hcalls]

/-- A step of a call does not look at the calls under way. -/
theorem stepCall_elsewhere (s : System) (calls : List Call) (call : Call) (answer : Answer)
    (now : Instant) :
    { s with calls := calls }.stepCall call answer now =
      ((s.stepCall call answer now).1, { (s.stepCall call answer now).2 with calls := calls }) := by
  cases call with
  | refresh r =>
    simp only [stepCall, s.stepRefresh_elsewhere s.pool calls]
    have hpool := (stepRefresh_pool_calls (s := s) r answer now).1
    generalize s.stepRefresh r answer now = taken at hpool
    obtain ⟨next | result, s'⟩ := taken <;> simp only [← hpool]
  | comparison i kind base restricted => cases answer <;> cases restricted <;> rfl
  | validation i base => cases answer <;> rfl

/-- The only call under way takes the step that it takes by itself. -/
theorem advanceCall_only (h : s.calls = []) (call : Call) (answer : Answer) (now : Instant) :
    { s with calls := [call] }.advanceCall 0 answer now =
      match s.stepCall call answer now with
      | (.inl next, s') => (none, { s' with calls := [next] })
      | (.inr outcome, s') => (some outcome, s') := by
  have hcalls := (s.stepCall_calls call answer now).trans h
  have hstep := s.stepCall_elsewhere [call] call answer now
  rw [advanceCall]
  simp only [List.getElem?_cons_zero, hstep]
  generalize s.stepCall call answer now = taken at hcalls
  obtain ⟨next | outcome, s'⟩ := taken
  · simp only [List.set_cons_zero]
  · simp only [List.eraseIdx_cons_zero, ← hcalls]

end System

namespace Session

variable {World : Type} {discovery : Discovery World} {s s' : Session World} {k : Nat}
  {r : Refresh} {result : Except Fault Bool}

/-! ## Nobody in between -/

/-- One step of a refresh that nobody holds, in a session. -/
def turn (discovery : Discovery World) (s : Session World) (r : Refresh) :
    (Refresh ⊕ Except Fault Bool) × Session World :=
  let (answer, s) := s.tick.ask discovery (s.system.questionOf r)
  let (next, system) := s.system.stepRefresh r answer s.clock
  (next, { s with system := system })

/-- Runs a refresh that nobody holds, for at most `fuel` steps. -/
def carryOut (discovery : Discovery World) :
    Nat → Session World → Refresh → Option (Except Fault Bool) × Session World
  | 0, s, _ => (none, s)
  | fuel + 1, s, r =>
    match s.turn discovery r with
    | (.inl next, s) => carryOut discovery fuel s next
    | (.inr result, s) => (some result, s)

/-- The session in which a worker thread is at a refresh. -/
def holding (s : Session World) (k : Nat) (r : Refresh) : Session World :=
  s.mapSystem fun system => { system with pool := system.pool.setRunning k r }

/-- One step of a call, in a session where it is the only one. -/
def callTurn (discovery : Discovery World) (s : Session World) (call : Call) :
    (Call ⊕ Outcome) × Session World :=
  let (answer, s) := s.tick.ask discovery (s.system.callQuestion? call)
  let (next, system) := s.system.stepCall call answer s.clock
  (next, { s with system := system })

/-- The session in which a caller is at a call. -/
def calling (s : Session World) (call : Call) : Session World :=
  s.mapSystem fun system => { system with calls := [call] }

/-- No worker thread has anything to do, and nothing would hold one back. -/
structure Quiet (s : Session World) : Prop where
  gate : s.gateClosed = false
  held : s.held = []
  tasks : s.system.pool.tasks = []

theorem ask_holding (s : Session World) (k : Nat) (r : Refresh)
    (question : Option (Endpoint × Filter)) :
    (s.holding k r).tick.ask discovery question =
      ((s.tick.ask discovery question).1, (s.tick.ask discovery question).2.holding k r) := by
  cases question <;> rfl

theorem ask_calling (s : Session World) (call : Call) (question : Option (Endpoint × Filter)) :
    (s.calling call).tick.ask discovery question =
      ((s.tick.ask discovery question).1, (s.tick.ask discovery question).2.calling call) := by
  cases question <;> rfl

/-- A step of a refresh that nobody holds leaves the workers, the calls and the gate alone. -/
theorem turn_frame (discovery : Discovery World) (s : Session World) (r : Refresh) :
    (s.turn discovery r).2.system.pool = s.system.pool ∧
      (s.turn discovery r).2.system.calls = s.system.calls ∧
      (s.turn discovery r).2.gateClosed = s.gateClosed ∧ (s.turn discovery r).2.held = s.held := by
  have hsystem : (s.tick.ask discovery (s.system.questionOf r)).2.system = s.system :=
    system_ask _ _
  have hgate : (s.tick.ask discovery (s.system.questionOf r)).2.gateClosed = s.gateClosed ∧
      (s.tick.ask discovery (s.system.questionOf r)).2.held = s.held := by
    cases s.system.questionOf r <;> exact ⟨rfl, rfl⟩
  have hframe := System.stepRefresh_pool_calls (s := s.system) r
    (s.tick.ask discovery (s.system.questionOf r)).1
    (s.tick.ask discovery (s.system.questionOf r)).2.clock
  rw [turn]
  simp only [hsystem, hgate]
  exact ⟨hframe.1, hframe.2, trivial, trivial⟩

theorem Quiet.turn (h : s.Quiet) (r : Refresh) : (s.turn discovery r).2.Quiet := by
  obtain ⟨hpool, -, hgate, hheld⟩ := turn_frame discovery s r
  exact ⟨hgate.trans h.gate, hheld.trans h.held, (congrArg _ hpool).trans h.tasks⟩

/-! ## On a worker thread -/

theorem runThread_of_idle (h : s.system.pool.thread? k = none ∨
    s.system.pool.thread? k = some .idle) (fuel : Nat) : s.runThread discovery k fuel = s := by
  cases fuel with
  | zero => rfl
  | succ fuel =>
    rw [runThread]
    rcases h with h | h
    · rw [h]
    · rw [h]
      rfl

theorem Quiet.thread? (h : s.Quiet) (hk : k < s.system.pool.threads.length) :
    s.system.pool.thread? k = some .idle := by
  have hidle := WorkerPool.tasks_eq_nil_iff.mp h.tasks _ (List.getElem_mem hk)
  rw [WorkerPool.thread?, List.getElem?_eq_getElem hk, WorkerThread.eq_idle hidle]

/-- A thread that has something to do, and that nothing holds back, takes a step. -/
theorem runThread_of_busy {t : WorkerThread Refresh} (hgate : s.gateClosed = false)
    (hheld : s.held = []) (ht : s.system.pool.thread? k = some t) (hbusy : t.isIdle = false)
    (fuel : Nat) :
    s.runThread discovery k (fuel + 1) =
      let (answer, asked) := s.tick.ask discovery (s.system.threadQuestion? k)
      { asked with system := asked.system.stepThread k answer asked.clock }.runThread discovery k
        fuel := by
  rw [runThread, ht]
  simp only [hbusy, hheld, hgate, List.contains_nil, Bool.or_false, Bool.and_false,
    Bool.false_eq_true, if_false]

theorem runThread_holding (h : s.Quiet) (hk : k < s.system.pool.threads.length) (fuel : Nat)
    (r : Refresh) :
    (s.holding k r).runThread discovery k (fuel + 1) =
      match s.turn discovery r with
      | (.inl next, s) => (s.holding k next).runThread discovery k fuel
      | (.inr _, s) => s.runThread discovery k fuel := by
  have hthread : (s.holding k r).system.pool.thread? k = some ⟨[], some r⟩ :=
    WorkerPool.thread?_setRunning (h.thread? hk) r
  have hquestion : (s.holding k r).system.threadQuestion? k = s.system.questionOf r := by
    rw [System.threadQuestion?, WorkerPool.running?, hthread]
    rfl
  rw [runThread_of_busy (s := s.holding k r) h.gate h.held hthread rfl, hquestion, ask_holding,
    turn]
  have hsystem : (s.tick.ask discovery (s.system.questionOf r)).2.system = s.system :=
    system_ask _ _
  generalize s.tick.ask discovery (s.system.questionOf r) = asked at hsystem
  obtain ⟨answer, t⟩ := asked
  have hidle : t.system.pool.thread? k = some .idle := by rw [hsystem, h.thread? hk]
  have hstep : (t.holding k r).system.stepThread k answer (t.holding k r).clock = _ :=
    System.stepThread_setRunning hidle r answer t.clock
  simp only [hstep]
  generalize t.system.stepRefresh r answer t.clock = taken
  obtain ⟨next | result, system⟩ := taken <;> rfl

/-- A thread that is at a refresh carries it out, and then has nothing to do. -/
theorem runThread_of_carryOut {fuel : Nat} (h : s.Quiet)
    (hk : k < s.system.pool.threads.length)
    (hrun : s.carryOut discovery fuel r = (some result, s')) (extra : Nat) :
    (s.holding k r).runThread discovery k (fuel + extra) = s' := by
  induction fuel generalizing s r with
  | zero => cases hrun
  | succ fuel ih =>
    rw [Nat.succ_add_eq_add_succ, Nat.add_succ, runThread_holding h hk]
    -- The step leaves the pool alone, so the thread is idle again when the last one is taken.
    have hquiet : (s.turn discovery r).2.Quiet := h.turn r
    have hpool := (turn_frame discovery s r).1
    rw [← hpool] at hk
    rw [carryOut] at hrun
    generalize s.turn discovery r = taken at hrun hquiet hk
    obtain ⟨next | result, t⟩ := taken
    · exact ih hquiet hk hrun
    · cases hrun
      exact runThread_of_idle (.inr (hquiet.thread? hk)) _

/-- The session in which the workers have got a task. -/
def submitted (s : Session World) (r : Refresh) : Session World :=
  s.mapSystem fun system => { system with pool := (system.pool.submit r).2 }

/-- The newest thread takes up the refresh that it has got. -/
theorem runThread_submitted (h : s.Quiet) (ha : s.system.pool.accepting = true)
    (hk : s.system.pool.threads.length - 1 < s.system.pool.threads.length) (fuel i : Nat) :
    (s.submitted (.ofAgent i)).runThread discovery (s.system.pool.threads.length - 1) (fuel + 1) =
      (s.holding (s.system.pool.threads.length - 1) (.ofAgent i)).runThread discovery
        (s.system.pool.threads.length - 1) (fuel + 1) := by
  generalize hlast : s.system.pool.threads.length - 1 = k at hk
  have hthread : (s.submitted (.ofAgent i)).system.pool.thread? k = some ⟨[.ofAgent i], none⟩ ∧
      (s.submitted (.ofAgent i)).system.pool.begin? k =
        some (.ofAgent i, s.system.pool.setRunning k (.ofAgent i)) := by
    subst hlast
    exact WorkerPool.begin?_submit ha (h.thread? hk) (.ofAgent i)
  have hheld : (s.holding k (.ofAgent i)).system.pool.thread? k = some ⟨[], some (.ofAgent i)⟩ :=
    WorkerPool.thread?_setRunning (h.thread? hk) _
  have htask : (s.submitted (.ofAgent i)).system.task? k =
      some (.ofAgent i, s.system.pool.setRunning k (.ofAgent i)) := by
    rw [System.task?, WorkerPool.running?, hthread.1]
    exact hthread.2
  have htask' : (s.holding k (.ofAgent i)).system.task? k =
      some (.ofAgent i, s.system.pool.setRunning k (.ofAgent i)) := by
    rw [System.task?, WorkerPool.running?, hheld]
    rfl
  have hquestion : (s.submitted (.ofAgent i)).system.threadQuestion? k = none := by
    rw [System.threadQuestion?, WorkerPool.running?, hthread.1]
    rfl
  have hquestion' : (s.holding k (.ofAgent i)).system.threadQuestion? k = none := by
    rw [System.threadQuestion?, WorkerPool.running?, hheld]
    rfl
  rw [runThread_of_busy (s := s.submitted _) h.gate h.held hthread.1 rfl,
    runThread_of_busy (s := s.holding k _) h.gate h.held hheld rfl, hquestion, hquestion']
  simp only [ask, tick, System.stepThread, htask, htask']
  rfl

/-- Threads that have nothing to do leave a session as it is, each with fuel of its own. -/
theorem foldl_runThread_of_idle {fuel : Session World → Nat} {threads : List Nat}
    (h : ∀ k ∈ threads, s.system.pool.thread? k = none ∨ s.system.pool.thread? k = some .idle) :
    threads.foldl (fun s k => s.runThread discovery k (fuel s)) s = s := by
  induction threads with
  | nil => rfl
  | cons k threads ih =>
    rw [List.foldl_cons, runThread_of_idle (h k List.mem_cons_self)]
    exact ih fun k hk => h k (List.mem_cons_of_mem _ hk)

theorem settle_of_quiet (h : s.Quiet) : s.settle discovery = s :=
  foldl_runThread_of_idle fun _ hk => .inr (h.thread? (List.mem_range.mp hk))

/-- Once the workers have got a refresh, letting them settle carries it out. -/
theorem settle_submitted (h : s.Quiet) (ha : s.system.pool.accepting = true)
    (hp : s.system.pool.Staffed) {i : Nat}
    (hrun : s.carryOut discovery stepsPerRefresh (.ofAgent i) = (some result, s')) :
    (s.submitted (.ofAgent i)).settle discovery = s' := by
  have hpos : 0 < s.system.pool.threads.length := List.length_pos_iff.mpr (hp ha)
  have hlast : s.system.pool.threads.length - 1 < s.system.pool.threads.length := by omega
  have hthreads : (s.submitted (.ofAgent i)).system.pool.threads =
      s.system.pool.threads.modify (s.system.pool.threads.length - 1) (·.push (.ofAgent i)) := by
    rw [submitted, mapSystem, WorkerPool.submit, if_pos ha]
  have hlength : (s.submitted (.ofAgent i)).system.pool.threads.length =
      s.system.pool.threads.length - 1 + 1 := by
    rw [hthreads, List.length_modify]
    omega
  -- The task is the only one there is, so the fuel is enough for it.
  have hfuel : (s.submitted (.ofAgent i)).settleFuel = stepsPerRefresh + 1 := by
    have htasks := (WorkerPool.tasks_submit hp ha (.ofAgent i)).length_eq
    rw [h.tasks] at htasks
    rw [settleFuel, submitted, mapSystem, htasks]
    rfl
  have hothers : ∀ k ∈ List.range (s.system.pool.threads.length - 1),
      (s.submitted (.ofAgent i)).system.pool.thread? k = none ∨
        (s.submitted (.ofAgent i)).system.pool.thread? k = some .idle := by
    intro k hk
    have hk := List.mem_range.mp hk
    rw [WorkerPool.thread?, hthreads, List.getElem?_modify_ne _ _ (by omega)]
    exact .inr (h.thread? (by omega))
  rw [settle, hlength, List.range_succ, List.foldl_append, foldl_runThread_of_idle hothers,
    List.foldl_cons, List.foldl_nil, hfuel, runThread_submitted h ha hlast]
  exact runThread_of_carryOut h hlast hrun 1

/-! ## On a caller's thread -/

theorem mapSystem_addCall (h : s.system.calls = []) (call : Call) :
    s.mapSystem (·.addCall call) = s.calling call := by
  simp only [mapSystem, calling, System.addCall, h, List.nil_append]

theorem runCall_calling (h : s.system.calls = []) (fuel : Nat) (call : Call) :
    (s.calling call).runCall discovery (fuel + 1) =
      match s.callTurn discovery call with
      | (.inl next, s) => (s.calling next).runCall discovery fuel
      | (.inr outcome, s) => (some outcome, s) := by
  have hquestion : (s.calling call).system.callQuestion? call = s.system.callQuestion? call := by
    cases call with
    | refresh r => rfl
    | comparison i kind base restricted => cases restricted <;> rfl
    | validation i base => rfl
  have hcall : (s.calling call).system.calls[0]? = some call := rfl
  rw [runCall, hcall]
  simp only [hquestion, ask_calling, callTurn]
  have hsystem : (s.tick.ask discovery (s.system.callQuestion? call)).2.system = s.system :=
    system_ask _ _
  generalize s.tick.ask discovery (s.system.callQuestion? call) = asked at hsystem
  obtain ⟨answer, t⟩ := asked
  have hcalls : t.system.calls = [] := by rw [hsystem, h]
  have hstep : (t.calling call).system.advanceCall 0 answer (t.calling call).clock = _ :=
    System.advanceCall_only hcalls call answer t.clock
  simp only [hstep]
  generalize t.system.stepCall call answer t.clock = taken
  obtain ⟨next | outcome, system⟩ := taken <;> rfl

theorem callTurn_refresh (discovery : Discovery World) (s : Session World) (r : Refresh) :
    s.callTurn discovery (.refresh r) =
      match s.turn discovery r with
      | (.inl next, s) => (.inl (.refresh next), s)
      | (.inr result, s) => (.inr (.ofRefresh result), s) := by
  simp only [callTurn, turn, System.callQuestion?, System.stepCall]
  generalize s.tick.ask discovery (s.system.questionOf r) = asked
  obtain ⟨answer, t⟩ := asked
  generalize t.system.stepRefresh r answer t.clock = taken
  obtain ⟨next | result, system⟩ := taken <;> rfl

/-- A caller who is at a refresh carries it out, and gets what comes of it. -/
theorem runCall_of_carryOut {fuel : Nat} (h : s.system.calls = [])
    (hrun : s.carryOut discovery fuel r = (some result, s')) :
    (s.calling (.refresh r)).runCall discovery fuel = (some (.ofRefresh result), s') := by
  induction fuel generalizing s r with
  | zero => cases hrun
  | succ fuel ih =>
    rw [runCall_calling h, callTurn_refresh]
    have hcalls := (turn_frame discovery s r).2.1.trans h
    rw [carryOut] at hrun
    generalize s.turn discovery r = taken at hrun hcalls
    obtain ⟨next | result, t⟩ := taken
    · exact ih hcalls hrun
    · cases hrun
      rfl

/-! ## What comes of it -/

variable {i : Nat} {a a' : Agent} {base : Endpoint} {nodes : List Endpoint} {world : World}

theorem turn_waiting (h : s.system.agent? i = some a) :
    s.turn discovery ⟨i, .waiting⟩ =
      (.inl ⟨i, .asking a.registry.current⟩,
        { s.tick with system := s.system.modifyAgent i Agent.advance }) := by
  have hstep : s.tick.system.stepRefresh ⟨i, .waiting⟩ (.nodes []) s.tick.clock = _ :=
    System.stepRefresh_waiting h _ _
  simp only [turn, System.questionOf, Refresh.base?, Option.map_none, ask, hstep]

theorem turn_asking (h : discovery s.world base (s.system.filterOf i) = (.nodes nodes, world)) :
    s.turn discovery ⟨i, .asking base⟩ =
      (.inl ⟨i, .answered nodes⟩,
        { s.tick with
          system := s.system.logQuery i base (s.system.filterOf i)
          world := world }) := by
  have hasked : discovery s.tick.world base (s.system.filterOf i) = (.nodes nodes, world) := h
  simp only [turn, System.questionOf, Refresh.base?, Option.map_some, ask, hasked,
    System.stepRefresh_asking]
  rfl

theorem turn_answered :
    s.turn discovery ⟨i, .answered nodes⟩ =
      (.inl ⟨i, .settled !nodes.isEmpty⟩,
        { s.tick with system := s.system.modifyAgent i (·.install nodes) }) := rfl

theorem turn_settled (h : s.system.agent? i = some a) (replaced : Bool) :
    s.turn discovery ⟨i, .settled replaced⟩ =
      match a.finish? s.tick.clock with
      | some a' =>
        (.inr (.ok replaced), { s.tick with system := s.system.modifyAgent i fun _ => a' })
      | none => (.inr (.error .instantOverflow), s.tick) := by
  have hstep : s.tick.system.stepRefresh ⟨i, .settled replaced⟩ (.nodes []) s.tick.clock = _ :=
    System.stepRefresh_settled h replaced _ _
  simp only [turn, System.questionOf, Refresh.base?, Option.map_none, ask, hstep]
  cases a.finish? s.tick.clock <;> rfl

theorem carryOut_of_turn {t : Session World} {next : Refresh}
    (h : s.turn discovery r = (.inl next, t)) (fuel : Nat) :
    s.carryOut discovery (fuel + 1) r = t.carryOut discovery fuel next := by
  rw [carryOut, h]

/-- A refresh that gets an answer picks, asks, installs and ends. -/
theorem carryOut_eq (h : s.system.agent? i = some a)
    (hanswer : discovery s.world a.registry.current a.filter = (.nodes nodes, world)) :
    s.carryOut discovery stepsPerRefresh (.ofAgent i) =
      (some (a.refreshed nodes (s.readings (s.reads + 4))).1,
        { s with
          system := (s.system.modifyAgent i fun _ =>
            (a.refreshed nodes (s.readings (s.reads + 4))).2).logQuery i a.registry.current a.filter
          world := world
          reads := s.reads + 4 }) := by
  let picked : Session World := { s.tick with system := s.system.modifyAgent i Agent.advance }
  have hpicked : picked.system.agent? i = some a.advance := System.agent?_modifyAgent_self h _
  have hfilter : picked.system.filterOf i = a.filter := by
    rw [System.filterOf, hpicked]
    rfl
  let asked : Session World :=
    { picked.tick with
      system := picked.system.logQuery i a.registry.current a.filter
      world := world }
  have hasked : picked.turn discovery ⟨i, .asking a.registry.current⟩ =
      (.inl ⟨i, .answered nodes⟩, asked) := by
    have hnodes : discovery picked.world a.registry.current (picked.system.filterOf i) =
        (.nodes nodes, world) := by
      rwa [hfilter]
    rw [turn_asking hnodes, hfilter]
  let installed : Session World :=
    { asked.tick with system := asked.system.modifyAgent i (·.install nodes) }
  have hinstalled : installed.system.agent? i = some (a.advance.install nodes) :=
    System.agent?_modifyAgent_self hpicked _
  have hinstall : installed.system = (s.system.modifyAgent i fun _ =>
      a.advance.install nodes).logQuery i a.registry.current a.filter := by
    have hmodify : (s.system.modifyAgent i Agent.advance).modifyAgent i (·.install nodes) =
        s.system.modifyAgent i fun _ => a.advance.install nodes := by
      rw [System.modifyAgent_modifyAgent]
      exact System.modifyAgent_congr h rfl
    exact congrArg (·.logQuery i a.registry.current a.filter) hmodify
  let ended (system : System) : Session World :=
    { s with system := system, world := world, reads := s.reads + 4 }
  calc s.carryOut discovery 4 ⟨i, .waiting⟩
      = picked.carryOut discovery 3 ⟨i, .asking a.registry.current⟩ :=
        carryOut_of_turn (turn_waiting h) 3
    _ = asked.carryOut discovery 2 ⟨i, .answered nodes⟩ := carryOut_of_turn hasked 2
    _ = installed.carryOut discovery 1 ⟨i, .settled !nodes.isEmpty⟩ :=
        carryOut_of_turn turn_answered 1
    _ = _ := by
        have hclock : installed.tick.clock = s.readings (s.reads + 4) := rfl
        rw [carryOut, turn_settled hinstalled, Agent.refreshed, hclock]
        cases (a.advance.install nodes).finish? (s.readings (s.reads + 4)) with
        | none => exact congrArg (Prod.mk _ <| ended ·) hinstall
        | some a' =>
          refine congrArg (Prod.mk _ <| ended ·) ?_
          show installed.system.modifyAgent i (fun _ => a') = _
          rw [hinstall]
          exact congrArg (·.logQuery i a.registry.current a.filter)
            (System.modifyAgent_modifyAgent ..)

theorem callTurn_comparison {kind : FilterKind}
    (h : discovery s.world base kind.unmatchable = (.nodes nodes, world)) :
    s.callTurn discovery (.comparison i kind base none) =
      (.inl (.comparison i kind base (some nodes)),
        { s.tick with
          system := s.system.logQuery i base kind.unmatchable
          world := world }) := by
  have hasked : discovery s.tick.world base kind.unmatchable = (.nodes nodes, world) := h
  simp only [callTurn, System.callQuestion?, ask, hasked]
  rfl

theorem callTurn_compared {kind : FilterKind} {first : List Endpoint}
    (h : discovery s.world base .none = (.nodes nodes, world)) :
    s.callTurn discovery (.comparison i kind base (some first)) =
      (.inr (System.verdict base first nodes),
        { s.tick with
          system := s.system.logQuery i base .none
          world := world }) := by
  have hasked : discovery s.tick.world base .none = (.nodes nodes, world) := h
  simp only [callTurn, System.callQuestion?, ask, hasked]
  rfl

theorem callTurn_validation {filter : Filter} (hfilter : s.system.filterOf i = filter)
    (h : discovery s.world base filter = (.nodes nodes, world)) :
    s.callTurn discovery (.validation i base) =
      (.inr (if nodes.isEmpty then .error (.filterMisconfigured filter.rack filter.datacenter)
          else .valid),
        { s.tick with
          system := s.system.logQuery i base filter
          world := world }) := by
  have hasked : discovery s.tick.world base filter = (.nodes nodes, world) := h
  have hown : s.tick.system.filterOf i = filter := hfilter
  simp only [callTurn, System.callQuestion?, ask, System.stepCall, hfilter, hown, hasked]
  rfl

end Session

end NodeBalancer
