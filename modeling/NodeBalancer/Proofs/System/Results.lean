import NodeBalancer.Proofs.System.Frame

/-!
# What picks and refreshes give back

A pick of a started balancer looks at its schedule.  All that can come of it is here in one place:
nothing, a refresh that the worker has got, or, without a worker, an attempt that ends at once
(`System.next?_eq_of_agent`).  Then come the steps of a refresh, one equation each.

Two of these can fail, and for one reason: an attempt that ends, and a refresh that ends, where the
update interval does not fit behind the time at which it does so.
-/

namespace NodeBalancer

namespace System

variable {s : System} {i : Nat} {a : Agent}

/-- The end of a refresh: what was to be returned, or a fault where the interval has no end. -/
theorem finishRefresh_eq_of_agent (h : s.agent? i = some a) (now : Instant) (result : Bool) :
    s.finishRefresh i now (.ok result) =
      match a.finish? now with
      | some a' => (.ok result, s.modifyAgent i fun _ => a')
      | none => (.error .instantOverflow, s) := by
  cases hf : a.finish? now <;> simp only [finishRefresh, h, Option.bind_some, hf]

theorem maybeSchedule_eq_of_agent (h : s.agent? i = some a) (now later : Instant) :
    s.maybeSchedule i now later =
      if a.isDue now then
        if s.pool.accepting then
          (.ok true,
            { s.modifyAgent i Agent.markInFlight with pool := (s.pool.submit (.ofAgent i)).2 })
        else
          match a.markInFlight.finish? later with
          | some a' => (.ok false, s.modifyAgent i fun _ => a')
          | none => (.error .instantOverflow, s.modifyAgent i Agent.markInFlight)
      else (.ok false, s) := by
  have hmarked : (s.modifyAgent i Agent.markInFlight).agent? i = some a.markInFlight :=
    agent?_modifyAgent_self h _
  rw [maybeSchedule, mayBeDue_of_agent h, beginRefresh_of_agent h, Agent.isDue]
  by_cases hdue : (!a.interval.isZero && a.registry.mayBeDue now) = true
  · by_cases hadm : a.registry.admits now true = true
    · by_cases hacc : s.pool.accepting = true
      · simp [WorkerPool.submit, modifyAgent, hdue, hadm, hacc]
      · have hrefused : (s.modifyAgent i Agent.markInFlight).pool.submit (.ofAgent i) =
            (false, (s.modifyAgent i Agent.markInFlight).pool) := if_neg hacc
        simp only [hdue, hadm, hacc, hrefused, if_true, Bool.and_self, Bool.false_eq_true, if_false]
        rw [finishRefresh_eq_of_agent hmarked]
        cases a.markInFlight.finish? later with
        | none => rfl
        | some a' => simp [modifyAgent, List.modify_modify_eq, Function.comp_def]
    · simp [hdue, hadm]
  · simp [hdue]

/-- All that can come of a pick. -/
theorem next?_eq_of_agent (h : s.agent? i = some a) (now later : Instant) :
    s.next? i now later =
      some (if a.isStarted && a.isDue now then
        if s.pool.accepting then
          (.ok a.registry.current,
            { s.modifyAgent i fun a => a.advance.markInFlight with
              pool := (s.pool.submit (.ofAgent i)).2 })
        else
          match a.advance.markInFlight.finish? later with
          | some a' => (.ok a.registry.current, s.modifyAgent i fun _ => a')
          | none => (.error .instantOverflow, s.modifyAgent i fun a => a.advance.markInFlight)
      else (.ok a.registry.current, s.modifyAgent i Agent.advance)) := by
  have hpicked : (s.modifyAgent i Agent.advance).agent? i = some a.advance :=
    agent?_modifyAgent_self h _
  have hschedule := maybeSchedule_eq_of_agent hpicked now later
  simp only [next?, h, hschedule]
  have hdue : a.advance.isDue now = a.isDue now := rfl
  by_cases hst : a.isStarted = true
  · simp only [hst, hdue, if_true, Bool.true_and]
    by_cases hd : a.isDue now = true
    · by_cases hacc : s.pool.accepting = true
      · simp [hd, hacc, modifyAgent, List.modify_modify_eq, Function.comp_def, Except.map]
      · simp only [hd, modifyAgent, hacc, if_true, Bool.false_eq_true, if_false]
        cases a.advance.markInFlight.finish? later <;>
          simp [List.modify_modify_eq, Function.comp_def, Except.map]
    · simp [hd, Except.map]
  · simp [hst]

/-! ## The steps of a refresh -/

theorem stepRefresh_waiting (h : s.agent? i = some a) (answer : Answer) (now : Instant) :
    s.stepRefresh ⟨i, .waiting⟩ answer now =
      (.inl ⟨i, .asking a.registry.current⟩, s.modifyAgent i Agent.advance) := by
  simp only [stepRefresh, pick?_of_agent h, Refresh.withStage]

theorem stepRefresh_asking (base : Endpoint) (nodes : List Endpoint) (now : Instant) :
    s.stepRefresh ⟨i, .asking base⟩ (.nodes nodes) now =
      (.inl ⟨i, .answered nodes⟩, s.logQuery i base (s.filterOf i)) := rfl

theorem stepRefresh_answered (nodes : List Endpoint) (answer : Answer) (now : Instant) :
    s.stepRefresh ⟨i, .answered nodes⟩ answer now =
      (.inl ⟨i, .settled !nodes.isEmpty⟩, s.modifyAgent i (·.install nodes)) := rfl

theorem stepRefresh_settled (h : s.agent? i = some a) (replaced : Bool) (answer : Answer)
    (now : Instant) :
    s.stepRefresh ⟨i, .settled replaced⟩ answer now =
      match a.finish? now with
      | some a' => (.inr (.ok replaced), s.modifyAgent i fun _ => a')
      | none => (.inr (.error .instantOverflow), s) := by
  rw [stepRefresh]
  simp only [finishRefresh_eq_of_agent h]
  cases a.finish? now <;> rfl

end System

end NodeBalancer
