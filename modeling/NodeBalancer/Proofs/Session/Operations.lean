import NodeBalancer.Proofs.Session.Settling

/-!
# Calls of a session, one equation each

A call that a caller makes when the workers have nothing to do takes one of a few ways through the
system.  Each way is an equation here, in terms of the agent that the call is about:

* `Session.next_of_not_due`, `Session.next_of_accepting`, `Session.next_of_refused`: a pick;
  `Session.next_settle_of_accepting`: a pick with the refresh that it schedules.
* `Session.forceRefresh_of_carryOut`, `Session.forceRefresh_of_inFlight`: a forced refresh.
* `Session.start_of_started`, `Session.start_of_not_started`: a start.
* `Session.checkFilterHonored_of_agent`, `Session.validateFilter_of_agent`: a probe.

What its questions are answered then says what comes of the call (`Session.forceRefresh_eq`,
`Session.checkFilterHonored_eq`, `Session.validateFilter_eq`).
-/

namespace NodeBalancer

namespace System

/-- A system in which nobody is in the middle of a call. -/
def withoutCalls (s : System) : System :=
  { s with calls := [] }

/-- A pick from a list that is not empty moves the cursor and nothing else. -/
theorem modifyAgent_advance {s : System} {i : Nat} {a : Agent} (h : s.agent? i = some a)
    (hnodes : a.registry.nodes ≠ []) :
    s.modifyAgent i Agent.advance = s.modifyAgent i fun a =>
      { a with registry := { a.registry with cursor := a.registry.cursor + 1 } } := by
  refine modifyAgent_congr h ?_
  rw [Agent.advance, Registry.advance, Registry.rotation_eq_nodes hnodes]

end System

namespace Session

variable {World : Type} {discovery : Discovery World} {s s' : Session World} {i : Nat} {a : Agent}

/-! ## Picks -/

theorem next_of_not_due (h : s.system.agent? i = some a)
    (hdue : (a.isStarted && a.isDue s.tick.clock) = false) :
    s.next i =
      (.ok (some a.registry.current), s.tick.tick.mapSystem (·.modifyAgent i Agent.advance)) := by
  rw [next, System.next?_eq_of_agent h, hdue]
  rfl

theorem next_of_accepting (h : s.system.agent? i = some a)
    (hdue : (a.isStarted && a.isDue s.tick.clock) = true)
    (hacc : s.system.pool.accepting = true) :
    s.next i =
      (.ok (some a.registry.current),
        ((s.tick.tick.mapSystem (·.modifyAgent i Agent.advance)).mapSystem
          (·.modifyAgent i Agent.markInFlight)).submitted (.ofAgent i)) := by
  rw [next, System.next?_eq_of_agent h, hdue, if_pos rfl, if_pos hacc]
  simp only [submitted, mapSystem, System.modifyAgent, List.modify_modify_eq]
  rfl

theorem next_of_refused {a' : Agent} (h : s.system.agent? i = some a)
    (hdue : (a.isStarted && a.isDue s.tick.clock) = true)
    (hacc : s.system.pool.accepting ≠ true)
    (hfinish : a.advance.markInFlight.finish? s.tick.tick.clock = some a') :
    s.next i =
      (.ok (some a.registry.current), s.tick.tick.mapSystem (·.modifyAgent i fun _ => a')) := by
  rw [next, System.next?_eq_of_agent h, hdue, if_pos rfl, if_neg hacc, hfinish]
  rfl

/-- A pick that finds a refresh due, and the workers settling after it: the refresh asks the node
behind the one that is picked. -/
theorem next_settle_of_accepting {nodes : List Endpoint} {world : World} (hquiet : s.Quiet)
    (hacc : s.system.pool.accepting = true) (hstaffed : s.system.pool.Staffed)
    (h : s.system.agent? i = some a)
    (hdue : (a.isStarted && a.isDue s.tick.clock) = true)
    (hanswer : discovery s.world a.advance.registry.current a.filter = (.nodes nodes, world)) :
    ∃ picked, s.next i = (.ok (some a.registry.current), picked) ∧
      picked.settle discovery =
        { s with
          system := (s.system.modifyAgent i fun _ =>
            (a.advance.markInFlight.refreshed nodes (s.readings (s.reads + 6))).2).logQuery i
              a.advance.registry.current a.filter
          world := world
          reads := s.reads + 6 } := by
  let advanced : Session World := s.tick.tick.mapSystem (·.modifyAgent i Agent.advance)
  let marked : Session World := advanced.mapSystem (·.modifyAgent i Agent.markInFlight)
  have hadvanced : advanced.system.agent? i = some a.advance := System.agent?_modifyAgent_self h _
  have hmarked : marked.system.agent? i = some a.advance.markInFlight :=
    System.agent?_modifyAgent_self hadvanced _
  have hidle : marked.Quiet := ⟨hquiet.gate, hquiet.held, hquiet.tasks⟩
  have hagents : ∀ a' : Agent, marked.system.modifyAgent i (fun _ => a') =
      s.system.modifyAgent i fun _ => a' := by
    intro a'
    calc marked.system.modifyAgent i (fun _ => a')
        = advanced.system.modifyAgent i fun _ => a' := System.modifyAgent_modifyAgent ..
      _ = s.system.modifyAgent i fun _ => a' := System.modifyAgent_modifyAgent ..
  refine ⟨_, next_of_accepting h hdue hacc, ?_⟩
  rw [settle_submitted hidle hacc hstaffed (carryOut_eq (s := marked) hmarked hanswer), hagents]
  rfl

theorem picks_succ {m : Nat} {picked : Session World} {node : Endpoint}
    (h : s.next i = (.ok (some node), picked)) :
    s.picks discovery i (m + 1) =
      (((picked.settle discovery).picks discovery i m).1.map (node :: ·),
        ((picked.settle discovery).picks discovery i m).2) := by
  rw [picks, repeatSettled, h, picks]
  simp only
  generalize (picked.settle discovery).repeatSettled discovery (·.next i) m = rest
  obtain ⟨fault | nodes, s'⟩ := rest <;> rfl

/-! ## Forced refreshes -/

/-- A forced refresh that finds none in flight is the only call there is, and is carried out. -/
theorem forceRefresh_of_carryOut {result : Except Fault Bool} (h : s.system.agent? i = some a)
    (hflight : a.registry.inFlight = false) (hcalls : s.system.calls = [])
    (hrun : (s.tick.mapSystem (·.modifyAgent i Agent.markInFlight)).carryOut discovery
      stepsPerRefresh (.ofAgent i) = (some result, s')) :
    s.forceRefresh discovery i = (result, s') := by
  let marked : Session World := s.tick.mapSystem (·.modifyAgent i Agent.markInFlight)
  have hadmits : a.registry.admits s.tick.clock false = true := by
    simp [Registry.admits, hflight]
  have hbegin : s.tick.system.forceRefresh i s.tick.clock =
      (true, marked.system.addCall (.refresh (.ofAgent i))) := by
    rw [System.forceRefresh, System.beginRefresh_of_agent (s := s.tick.system) h, if_pos hadmits]
    rfl
  have hcall : (marked.mapSystem (·.addCall (.refresh (.ofAgent i)))).runCall discovery
      stepsPerRefresh = (some (.ofRefresh result), s') := by
    rw [mapSystem_addCall (s := marked) hcalls]
    exact runCall_of_carryOut (s := marked) hcalls hrun
  rw [mapSystem] at hcall
  rw [forceRefresh]
  simp only [hbegin, if_true]
  cases result <;> exact hcall ▸ rfl

/-- A forced refresh reads the clock when it begins and four times on its way. -/
theorem forceRefresh_eq {nodes : List Endpoint} {world : World} (h : s.system.agent? i = some a)
    (hflight : a.registry.inFlight = false) (hcalls : s.system.calls = [])
    (hanswer : discovery s.world a.registry.current a.filter = (.nodes nodes, world)) :
    s.forceRefresh discovery i =
      ((a.markInFlight.refreshed nodes (s.readings (s.reads + 5))).1,
        { s with
          system := (s.system.modifyAgent i fun _ =>
            (a.markInFlight.refreshed nodes (s.readings (s.reads + 5))).2).logQuery i
              a.registry.current a.filter
          world := world
          reads := s.reads + 5 }) := by
  let marked : Session World := s.tick.mapSystem (·.modifyAgent i Agent.markInFlight)
  have hmarked : marked.system.agent? i = some a.markInFlight :=
    System.agent?_modifyAgent_self h _
  rw [forceRefresh_of_carryOut h hflight hcalls (carryOut_eq (s := marked) hmarked hanswer)]
  have hagents : ∀ a' : Agent, marked.system.modifyAgent i (fun _ => a') =
      s.system.modifyAgent i fun _ => a' := fun _ => System.modifyAgent_modifyAgent ..
  rw [hagents]
  rfl

theorem forceRefresh_of_inFlight (h : s.system.agent? i = some a)
    (hflight : a.registry.inFlight = true) : s.forceRefresh discovery i = (.ok false, s.tick) := by
  have hadmits : a.registry.admits s.tick.clock false ≠ true := by
    simp [Registry.admits, hflight]
  have hbegin : s.tick.system.forceRefresh i s.tick.clock = (false, s.tick.system) := by
    rw [System.forceRefresh, System.beginRefresh_of_agent (s := s.tick.system) h, if_neg hadmits]
    rfl
  rw [forceRefresh]
  simp only [hbegin, Bool.false_eq_true, if_false]

/-! ## Starting -/

theorem acquire_made (s : Session World) :
    s.acquire .made =
      (.ok (), s.mapSystem fun system => { system with pool := system.pool.engage }) := by
  simp only [acquire, System.acquire, WorkerPool.acquire_made, mapSystem]

/-- The session in which a balancer has just been started. -/
def withStarted (s : Session World) (i : Nat) : Session World :=
  s.mapSystem fun system =>
    { system.modifyAgent i (·.setStarted true) with pool := system.pool.engage }

theorem start_of_started (h : s.system.agent? i = some a) (hst : a.isStarted = true)
    (launch : Launch) : s.start discovery i launch = (.ok (.ok ()), s) := by
  simp only [start, System.start_of_started h hst, Bool.false_and, Bool.false_eq_true, if_false]

theorem system_withStarted (h : s.system.agent? i = some a) (hbalancer : a.isBalancer = true)
    (hst : a.isStarted = false) :
    s.system.start i .made = (.ok true, (s.withStarted i).system) := by
  have hpool : (s.system.modifyAgent i (·.setStarted true)).acquire .made =
      (.ok (), (s.withStarted i).system) := by
    rw [System.acquire, WorkerPool.acquire_made]
    rfl
  simp only [System.start, h, hbalancer, hst, Bool.not_false, Bool.and_true, if_true, hpool]

theorem agent?_withStarted (h : s.system.agent? i = some a) :
    (s.withStarted i).system.agent? i = some (a.setStarted true) :=
  System.agent?_modifyAgent_self h _

theorem start_of_not_started (h : s.system.agent? i = some a) (hbalancer : a.isBalancer = true)
    (hst : a.isStarted = false) :
    s.start discovery i .made =
      if a.isEager then
        (((s.withStarted i).forceRefresh discovery i).1.map fun _ => .ok (),
          ((s.withStarted i).forceRefresh discovery i).2)
      else (.ok (.ok ()), s.withStarted i) := by
  have heager : ((s.withStarted i).system.agent? i).any Agent.isEager = a.isEager := by
    rw [agent?_withStarted h, Option.any_some, Agent.isEager_setStarted]
  rw [start, system_withStarted h hbalancer hst, ← heager]
  rfl

/-! ## Probes -/

theorem checkFilterHonored_of_agent (h : s.system.agent? i = some a) (hcalls : s.system.calls = [])
    (kind : FilterKind) :
    s.checkFilterHonored discovery i kind =
      ((s.mapSystem (·.modifyAgent i Agent.advance)).calling
        (.comparison i kind a.registry.current none)).runCall discovery 2 := by
  have hpicked : (s.mapSystem (·.modifyAgent i Agent.advance)).system.calls = [] := hcalls
  rw [checkFilterHonored, ← mapSystem_addCall hpicked]
  simp only [mapSystem, System.beginComparison, System.pick?_of_agent h]

theorem validateFilter_of_agent (h : s.system.agent? i = some a) (hcalls : s.system.calls = []) :
    s.validateFilter discovery i =
      if a.filter.isEmpty then (some .valid, s)
      else ((s.mapSystem (·.modifyAgent i Agent.advance)).calling
        (.validation i a.registry.current)).runCall discovery 1 := by
  have hpicked : (s.mapSystem (·.modifyAgent i Agent.advance)).system.calls = [] := hcalls
  rw [validateFilter, System.beginValidation_of_agent h, ← mapSystem_addCall hpicked]
  by_cases hempty : a.filter.isEmpty = true
  · simp only [hempty, if_true, Bool.false_eq_true, if_false]
  · simp only [hempty, if_true, Bool.false_eq_true, if_false]
    rfl

/-- A comparison asks one node twice: with a filter that no node should pass, then with none. -/
theorem checkFilterHonored_eq {kind : FilterKind} {restricted whole : List Endpoint}
    {between world : World} (h : s.system.agent? i = some a) (hcalls : s.system.calls = [])
    (hrestricted : discovery s.world a.registry.current kind.unmatchable =
      (.nodes restricted, between))
    (hwhole : discovery between a.registry.current .none = (.nodes whole, world)) :
    s.checkFilterHonored discovery i kind =
      (some (System.verdict a.registry.current restricted whole),
        { s with
          system := ((s.system.modifyAgent i Agent.advance).logQuery i a.registry.current
            kind.unmatchable).logQuery i a.registry.current .none
          world := world
          reads := s.reads + 2 }) := by
  let base := a.registry.current
  let picked : Session World := s.mapSystem (·.modifyAgent i Agent.advance)
  let asked : Session World :=
    { picked.tick with
      system := picked.system.logQuery i base kind.unmatchable
      world := between }
  calc s.checkFilterHonored discovery i kind
      = (picked.calling (.comparison i kind base none)).runCall discovery 2 :=
        checkFilterHonored_of_agent h hcalls kind
    _ = (asked.calling (.comparison i kind base (some restricted))).runCall discovery 1 := by
        rw [runCall_calling (s := picked) hcalls, callTurn_comparison (s := picked) hrestricted]
    _ = _ := by
        rw [runCall_calling (s := asked) hcalls, callTurn_compared (s := asked) hwhole]
        rfl

/-- A validation asks one node for what the agent's own filter lets through. -/
theorem validateFilter_eq {nodes : List Endpoint} {world : World}
    (h : s.system.agent? i = some a) (hcalls : s.system.calls = [])
    (hfilter : a.filter.isEmpty = false)
    (hanswer : discovery s.world a.registry.current a.filter = (.nodes nodes, world)) :
    s.validateFilter discovery i =
      (some (if nodes.isEmpty then .error (.filterMisconfigured a.filter.rack a.filter.datacenter)
          else .valid),
        { s with
          system := (s.system.modifyAgent i Agent.advance).logQuery i a.registry.current a.filter
          world := world
          reads := s.reads + 1 }) := by
  let picked : Session World := s.mapSystem (·.modifyAgent i Agent.advance)
  have hpicked : picked.system.agent? i = some a.advance := System.agent?_modifyAgent_self h _
  have hown : picked.system.filterOf i = a.filter := by
    rw [System.filterOf, hpicked]
    rfl
  calc s.validateFilter discovery i
      = (picked.calling (.validation i a.registry.current)).runCall discovery 1 :=
        (validateFilter_of_agent h hcalls).trans (if_neg (by simp [hfilter]))
    _ = _ := by
        rw [runCall_calling (s := picked) hcalls, callTurn_validation (s := picked) hown hanswer]
        rfl

end Session

end NodeBalancer
