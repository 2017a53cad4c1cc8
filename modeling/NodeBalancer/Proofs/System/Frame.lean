import Mathlib.Data.List.Perm.Basic
import NodeBalancer.Proofs.Agent.Lane
import NodeBalancer.Proofs.WorkerPool.Tasks

/-!
# What the operations of a system change

For each operation: which agents it changes and how, and which refreshes it adds or takes away.  All
of it is up to the order of the refreshes, which nobody looks at.

* `maybeSchedule_of_agent`: a schedule that is looked at either adds one refresh, ends one at once,
  or leaves the system as it was.
* `stepRefresh_of_agent`: a step of a refresh is a step of its agent's lane.
-/

namespace NodeBalancer

/-- Whether an agent that is asked to schedule a refresh marks one as in flight. -/
def Agent.isDue (a : Agent) (now : Instant) : Bool :=
  !a.interval.isZero && a.registry.mayBeDue now && a.registry.admits now true

theorem Call.eq_refresh {call : Call} {r : Refresh} (h : call.refresh? = some r) :
    call = .refresh r := by
  cases call with
  | refresh r' => exact congrArg Call.refresh (Option.some.inj h)
  | comparison => cases h
  | validation => cases h

namespace Refresh

theorem stagesOf_perm {rs rs' : List Refresh} (h : rs.Perm rs') (i : Nat) :
    (stagesOf i rs).Perm (stagesOf i rs') :=
  (h.filter _).map _

theorem stagesOf_cons_of_eq {i : Nat} {r : Refresh} (h : r.agent = i) (rs : List Refresh) :
    stagesOf i (r :: rs) = r.stage :: stagesOf i rs := by
  simp [stagesOf, h]

theorem stagesOf_cons_of_ne {i : Nat} {r : Refresh} (h : r.agent ≠ i) (rs : List Refresh) :
    stagesOf i (r :: rs) = stagesOf i rs := by
  simp [stagesOf, h]

end Refresh

namespace System

variable {s : System} {i j : Nat} {a : Agent}

/-! ## Agents -/

theorem agent?_modifyAgent_self (h : s.agent? i = some a) (f : Agent → Agent) :
    (s.modifyAgent i f).agent? i = some (f a) := by
  rw [agent?, modifyAgent, List.getElem?_modify_eq]
  exact congrArg (Option.map f) h

theorem agent?_modifyAgent_of_ne (h : j ≠ i) (f : Agent → Agent) :
    (s.modifyAgent j f).agent? i = s.agent? i :=
  List.getElem?_modify_ne f _ h

theorem modifyAgent_congr (h : s.agent? i = some a) {f g : Agent → Agent} (hfg : f a = g a) :
    s.modifyAgent i f = s.modifyAgent i g := by
  have hl : s.agents.modify i f = s.agents.modify i g := by
    apply List.ext_getElem?
    intro k
    by_cases hk : i = k
    · subst hk
      rw [agent?] at h
      simp [h, hfg]
    · rw [List.getElem?_modify_ne _ _ hk, List.getElem?_modify_ne _ _ hk]
  rw [modifyAgent, modifyAgent, hl]

theorem modifyAgent_modifyAgent (s : System) (i : Nat) (f g : Agent → Agent) :
    (s.modifyAgent i f).modifyAgent i g = s.modifyAgent i (g ∘ f) := by
  rw [modifyAgent, modifyAgent, modifyAgent, List.modify_modify_eq]

theorem modifyAgent_eq_self (h : s.agent? i = some a) {f : Agent → Agent} (hf : f a = a) :
    s.modifyAgent i f = s := by
  rw [modifyAgent_congr (g := id) h hf, modifyAgent, List.modify_id]

/-- A start finds nothing to start, switches the balancer on and takes a reference for it, or leaves
all as it was because the worker gives none. -/
theorem start_cases (s : System) (i : Nat) (launch : Launch) :
    (∀ a, s.agent? i = some a → a.isBalancer = true → a.isStarted = true) ∧
        s.start i launch = (.ok false, s) ∨
      (∃ a, s.agent? i = some a ∧ a.isBalancer = true ∧ a.isStarted = false ∧
        (launch.failure? = none ∨ s.pool.accepting = true) ∧ s.start i launch = (.ok true,
          { s.modifyAgent i (·.setStarted true) with pool := s.pool.engage })) ∨
      ∃ a error, s.agent? i = some a ∧ a.isBalancer = true ∧ a.isStarted = false ∧
        launch.failure? = some error ∧ s.pool.accepting = false ∧
        s.start i launch = (.error error, s) := by
  rw [start]
  cases ha : s.agent? i with
  | none =>
    refine .inl ⟨fun _ hnone => ?_, rfl⟩
    cases hnone
  | some a =>
    by_cases hswitch : (a.isBalancer && !a.isStarted) = true
    · obtain ⟨hb, hoff⟩ : a.isBalancer = true ∧ a.isStarted = false := by simpa using hswitch
      right
      have hpool : (s.modifyAgent i (·.setStarted true)).acquire launch =
          ((s.pool.acquire launch).1,
            { s.modifyAgent i (·.setStarted true) with pool := (s.pool.acquire launch).2 }) := rfl
      simp only [if_pos hswitch, hpool]
      rcases s.pool.acquire_cases launch with ⟨htaken, hacquire⟩ |
        ⟨error, hfailure, hstopped, hacquire⟩
      · rw [hacquire]
        exact .inl ⟨a, rfl, hb, hoff, htaken, rfl⟩
      · have hback :
            (s.modifyAgent i (·.setStarted true)).modifyAgent i (·.setStarted false) = s := by
          rw [modifyAgent_modifyAgent]
          exact modifyAgent_eq_self ha
            ((a.setStarted_setStarted true false).trans (Agent.setStarted_eq_self hoff))
        rw [hacquire]
        exact .inr ⟨a, error, rfl, hb, hoff, hfailure, hstopped, congrArg _ hback⟩
    · refine .inl ⟨fun b hb => ?_, if_neg hswitch⟩
      cases hb
      simpa using hswitch

/-- To start a started balancer again does nothing. -/
theorem start_of_started (h : s.agent? i = some a) (hst : a.isStarted = true) (launch : Launch) :
    s.start i launch = (.ok false, s) := by
  simp [start, h, hst]

theorem agent?_addAgent (a : Agent) (i : Nat) :
    (s.addAgent a).agent? i = if i = s.agents.length then some a else s.agent? i := by
  simp only [agent?, addAgent]
  split
  · subst_vars
    exact List.getElem?_concat_length
  · by_cases hlt : i < s.agents.length
    · exact List.getElem?_append_left hlt
    · rw [List.getElem?_eq_none (by simp; omega), List.getElem?_eq_none (by omega)]

theorem pick?_of_agent (h : s.agent? i = some a) :
    s.pick? i = some (a.registry.current, s.modifyAgent i Agent.advance) := by
  rw [pick?, h]
  rfl

theorem beginValidation_of_agent (h : s.agent? i = some a) :
    s.beginValidation i =
      if a.filter.isEmpty then (false, s)
      else (true,
        (s.modifyAgent i Agent.advance).addCall (.validation i a.registry.current)) := by
  rw [beginValidation, h]

/-! ## Beginning and ending a refresh -/

theorem beginRefresh_of_agent (h : s.agent? i = some a) (now : Instant) (respectSchedule : Bool) :
    s.beginRefresh i now respectSchedule =
      if a.registry.admits now respectSchedule then (true, s.modifyAgent i Agent.markInFlight)
      else (false, s) := by
  simp only [beginRefresh, h, Registry.tryBegin]
  split
  · exact congrArg _ (modifyAgent_congr h rfl)
  · exact congrArg _ (modifyAgent_eq_self h rfl)

theorem finishRefresh_of_agent (h : s.agent? i = some a) (now : Instant)
    (result : Except Fault Bool) :
    (s.finishRefresh i now result).2 = s.modifyAgent i fun a => (a.finish? now).getD a := by
  simp only [finishRefresh, h, Option.bind_some]
  cases hf : a.finish? now with
  | some a' => exact modifyAgent_congr h (by simp [hf])
  | none =>
    rw [modifyAgent_eq_self h (by simp [hf])]
    cases result <;> rfl

theorem finishRefresh_pool_calls (i : Nat) (now : Instant) (result : Except Fault Bool) :
    (s.finishRefresh i now result).2.pool = s.pool ∧
      (s.finishRefresh i now result).2.calls = s.calls := by
  unfold finishRefresh
  split
  · exact ⟨rfl, rfl⟩
  · cases result <;> exact ⟨rfl, rfl⟩

theorem mayBeDue_of_agent (h : s.agent? i = some a) (now : Instant) :
    s.mayBeDue i now = (!a.interval.isZero && a.registry.mayBeDue now) := by
  rw [mayBeDue, h]

theorem scheduleEntries_of_agent (h : s.agent? i = some a) (now later : Instant) :
    s.scheduleEntries i now later =
      if a.isDue now then
        if s.pool.accepting then [(i, .began)] else [(i, .began), (i, .ended .waiting later)]
      else [] := by
  rw [scheduleEntries, mayBeDue_of_agent h, beginRefresh_of_agent h, Agent.isDue]
  by_cases hadm : a.registry.admits now true = true <;>
    by_cases hacc : s.pool.accepting = true <;> simp [WorkerPool.submit, hadm, hacc]

theorem maybeSchedule_of_agent (h : s.agent? i = some a) (now later : Instant) :
    (s.maybeSchedule i now later).2 =
      if a.isDue now then
        if s.pool.accepting then
          { s.modifyAgent i Agent.markInFlight with pool := (s.pool.submit (.ofAgent i)).2 }
        else ((s.modifyAgent i Agent.markInFlight).finishRefresh i later (.ok false)).2
      else s := by
  rw [maybeSchedule, mayBeDue_of_agent h, beginRefresh_of_agent h, Agent.isDue]
  by_cases hdue : (!a.interval.isZero && a.registry.mayBeDue now) = true <;>
    by_cases hadm : a.registry.admits now true = true <;>
      by_cases hacc : s.pool.accepting = true <;>
        simp [WorkerPool.submit, modifyAgent, hdue, hadm, hacc]

theorem next?_of_agent (h : s.agent? i = some a) (now later : Instant) :
    s.next? i now later =
      some (if a.isStarted then
          ((s.modifyAgent i Agent.advance).maybeSchedule i now later).1.map
            fun _ => a.registry.current
        else .ok a.registry.current, s.step (.next i now later)) := by
  rw [step, next?, h]
  by_cases hst : a.isStarted = true
  · simp only [hst, if_true]
  · simp only [hst]
    rfl

theorem step_next_of_agent (h : s.agent? i = some a) (now later : Instant) :
    s.step (.next i now later) =
      if a.isStarted then ((s.modifyAgent i Agent.advance).maybeSchedule i now later).2
      else s.modifyAgent i Agent.advance := by
  rw [step, next?, h]
  by_cases hst : a.isStarted = true
  · simp only [hst, if_true]
  · simp only [hst]
    rfl

/-! ## Steps of a refresh -/

/-- A step of a refresh changes its own agent alone, and in that agent's lane it is the step that
the journal tells. -/
theorem stepRefresh_of_agent {r : Refresh} (h : s.agent? r.agent = some a) (answer : Answer)
    (now : Instant) :
    ∃ f : Agent → Agent, ∃ o : Option Stage,
      (s.stepRefresh r answer now).2.agents = s.agents.modify r.agent f ∧
      (s.stepRefresh r answer now).1.getLeft? = o.map (Refresh.mk r.agent) ∧
      (s.refreshEntry r answer now).1 = r.agent ∧
      Lane.Step (some ⟨a, some r.stage⟩) (s.refreshEntry r answer now).2 (some ⟨f a, o⟩) := by
  obtain ⟨i, stage⟩ := r
  have hid : s.agents = s.agents.modify i id := (List.modify_id ..).symm
  cases stage with
  | waiting =>
    have hstep : s.stepRefresh ⟨i, .waiting⟩ answer now =
        (.inl ⟨i, .asking a.registry.current⟩, s.modifyAgent i Agent.advance) := by
      simp only [stepRefresh, pick?_of_agent h, Refresh.withStage]
    rw [refreshEntry, hstep]
    exact ⟨Agent.advance, some (.asking a.registry.current), rfl, rfl, rfl, .ask a⟩
  | asking base =>
    cases answer with
    | nodes nodes => exact ⟨id, some (.answered nodes), hid, rfl, rfl, .answer a base nodes⟩
    | broken message => exact ⟨id, some (.broken message), hid, rfl, rfl, .tear a base message⟩
  | answered nodes =>
    exact ⟨(·.install nodes), some (.settled !nodes.isEmpty), rfl, rfl, rfl, .settle a nodes⟩
  | broken message =>
    refine ⟨fun a => (a.finish? now).getD a, none, ?_, rfl, rfl, ?_⟩
    · exact congrArg System.agents (finishRefresh_of_agent h now _)
    · exact Lane.Step.end a (.broken message) now rfl
  | settled replaced =>
    refine ⟨fun a => (a.finish? now).getD a, none, ?_, rfl, rfl, ?_⟩
    · exact congrArg System.agents (finishRefresh_of_agent h now _)
    · exact Lane.Step.end a (.settled replaced) now rfl

/-- A step of a refresh touches neither the worker pool nor the calls. -/
theorem stepRefresh_pool_calls (r : Refresh) (answer : Answer) (now : Instant) :
    (s.stepRefresh r answer now).2.pool = s.pool ∧
      (s.stepRefresh r answer now).2.calls = s.calls := by
  obtain ⟨i, stage⟩ := r
  cases stage with
  | waiting =>
    cases h : s.agent? i <;> simp [stepRefresh, pick?, h, modifyAgent]
  | asking base => cases answer <;> exact ⟨rfl, rfl⟩
  | answered nodes => exact ⟨rfl, rfl⟩
  | broken message => exact finishRefresh_pool_calls i now _
  | settled replaced => exact finishRefresh_pool_calls i now _

theorem task?_eq_some {thread : Nat} {r : Refresh} {pool : WorkerPool Refresh}
    (h : s.task? thread = some (r, pool)) :
    pool.running? thread = some r ∧ pool.tasks = s.pool.tasks ∧
      WorkerPool.SameReferences s.pool pool := by
  unfold task? at h
  split at h
  · rename_i hr
    cases h
    exact ⟨hr, rfl, .refl _⟩
  · obtain ⟨htasks, hrun⟩ := WorkerPool.tasks_begin h
    exact ⟨hrun, htasks, .begin? h⟩

/-- A thread keeps what becomes of its task, or is done with it. -/
theorem stepThread_of_task {thread : Nat} {r : Refresh} {pool : WorkerPool Refresh}
    (h : s.task? thread = some (r, pool)) (answer : Answer) (now : Instant) :
    (s.stepThread thread answer now).agents =
        ({ s with pool := pool }.stepRefresh r answer now).2.agents ∧
      (s.stepThread thread answer now).calls = s.calls ∧
      (s.stepThread thread answer now).pool =
        match ({ s with pool := pool }.stepRefresh r answer now).1 with
        | .inl r => pool.setRunning thread r
        | .inr _ => pool.finish thread := by
  obtain ⟨hpool, hcalls⟩ := stepRefresh_pool_calls (s := { s with pool := pool }) r answer now
  simp only [stepThread, h]
  cases hx : { s with pool := pool }.stepRefresh r answer now with
  | mk next t =>
    rw [hx] at hpool hcalls
    cases next with
    | inl next => exact ⟨rfl, hcalls, congrArg (·.setRunning thread next) hpool⟩
    | inr result => exact ⟨rfl, hcalls, congrArg (·.finish thread) hpool⟩

theorem advanceCall_of_refresh {position : Nat} {r : Refresh}
    (h : s.calls[position]? = some (.refresh r)) (answer : Answer) (now : Instant) :
    (s.advanceCall position answer now).2.agents = (s.stepRefresh r answer now).2.agents ∧
      (s.advanceCall position answer now).2.pool = s.pool ∧
      (s.advanceCall position answer now).2.calls =
        match (s.stepRefresh r answer now).1 with
        | .inl r => s.calls.set position (.refresh r)
        | .inr _ => s.calls.eraseIdx position := by
  obtain ⟨hpool, hcalls⟩ := stepRefresh_pool_calls (s := s) r answer now
  simp only [advanceCall, h, stepCall]
  cases hx : s.stepRefresh r answer now with
  | mk next t =>
    rw [hx] at hpool hcalls
    cases next with
    | inl next => exact ⟨rfl, hpool, congrArg (·.set position (.refresh next)) hcalls⟩
    | inr result => exact ⟨rfl, hpool, congrArg (·.eraseIdx position) hcalls⟩

/-- A step of a probe asks, and at most gives its answer back. -/
theorem advanceCall_of_probe {position : Nat} {call : Call}
    (h : s.calls[position]? = some call) (hr : call.refresh? = none) (answer : Answer)
    (now : Instant) :
    (s.advanceCall position answer now).2.agents = s.agents ∧
      (s.advanceCall position answer now).2.pool = s.pool ∧
      ((s.advanceCall position answer now).2.calls = s.calls.eraseIdx position ∨
        ∃ next, next.refresh? = none ∧
          (s.advanceCall position answer now).2.calls = s.calls.set position next) := by
  simp only [advanceCall, h]
  cases call with
  | refresh r => cases hr
  | comparison i kind base restricted =>
    cases answer with
    | broken message => exact ⟨rfl, rfl, .inl rfl⟩
    | nodes nodes =>
      cases restricted with
      | none => exact ⟨rfl, rfl, .inr ⟨_, rfl, rfl⟩⟩
      | some first => exact ⟨rfl, rfl, .inl rfl⟩
  | validation i base =>
    cases answer with
    | broken message => exact ⟨rfl, rfl, .inl rfl⟩
    | nodes nodes => exact ⟨rfl, rfl, .inl rfl⟩

theorem advanceCall_pool (position : Nat) (answer : Answer) (now : Instant) :
    (s.advanceCall position answer now).2.pool = s.pool := by
  cases h : s.calls[position]? with
  | none => rw [advanceCall, h]
  | some call =>
    cases hr : call.refresh? with
    | none => exact (advanceCall_of_probe h hr answer now).2.1
    | some r =>
      rw [Call.eq_refresh hr] at h
      exact (advanceCall_of_refresh h answer now).2.1

/-- The refreshes among calls, when one of the calls is replaced or given up. -/
theorem filterMap_calls_perm {calls : List Call} {position : Nat} {call : Call}
    (h : calls[position]? = some call) :
    (calls.filterMap Call.refresh?).Perm
        (call.refresh?.toList ++ (calls.eraseIdx position).filterMap Call.refresh?) ∧
      ∀ next, ((calls.set position next).filterMap Call.refresh?).Perm
        (next.refresh?.toList ++ (calls.eraseIdx position).filterMap Call.refresh?) := by
  obtain ⟨hlt, rfl⟩ := List.getElem?_eq_some_iff.mp h
  have hcons : ∀ (c : Call) (cs : List Call),
      (c :: cs).filterMap Call.refresh? = c.refresh?.toList ++ cs.filterMap Call.refresh? := by
    intro c cs
    cases hc : c.refresh? <;> simp [hc]
  rw [← hcons]
  refine ⟨(List.getElem_cons_eraseIdx_perm hlt).symm.filterMap _, fun next => ?_⟩
  rw [← hcons]
  exact (List.set_perm_cons_eraseIdx hlt next).filterMap _

end System

end NodeBalancer
