import NodeBalancer.Proofs.Sequential.Mirror
import NodeBalancer.Proofs.Session.Operations

/-!
# Calls on a session and on its sequential reading

Between commands no worker has anything to do and no call is under way, and a session then keeps
what its sequential reading keeps (`Session.Mirrors`).  Each call leads both to where they mirror
each other again, and gives back the same: a pick once the workers have settled after it, everything
else at once.

What comes of a refresh is in `Session.Mirrors.carryOut`, for a worker thread and for a caller
alike.
-/

namespace NodeBalancer

/-! ## Lists side by side -/

section Lists

variable {α β : Type} {R : α → β → Prop} {xs : List α} {ys : List β} {i : Nat}

theorem exists_getElem?_of_forall₂ (h : List.Forall₂ R xs ys) {y : β} (hy : ys[i]? = some y) :
    ∃ x, xs[i]? = some x ∧ R x y := by
  induction h generalizing i with
  | nil => cases hy
  | @cons x _ _ _ hxy _ ih =>
    cases i with
    | zero =>
      cases hy
      exact ⟨x, rfl, hxy⟩
    | succ i => exact ih hy

theorem forall₂_modify_set (h : List.Forall₂ R xs ys) {x : α} (hx : xs[i]? = some x) {f : α → α}
    {y : β} (hxy : R (f x) y) : List.Forall₂ R (xs.modify i f) (ys.set i y) := by
  induction h generalizing i with
  | nil => cases hx
  | cons hhead htail ih =>
    cases i with
    | zero =>
      cases hx
      exact .cons hxy htail
    | succ i => exact .cons hhead (ih hx)

end Lists

namespace Session

/-- A session between two commands, and what the sequential reading keeps of it. -/
structure Mirrors (s : Session ScriptedWorld) (q : Sequential) : Prop extends s.Quiet where
  calls : s.system.calls = []
  sound : s.system.pool.Sound
  refs : s.system.pool.refs = q.refs
  agents : List.Forall₂ (Agent.Mirrors s.clock) s.system.agents q.balancers
  queries : s.system.queries = q.queries
  world : s.world = ⟨q.cluster, false⟩
  readings : s.readings = q.readings
  reads : s.reads = q.reads
  steady : ∀ {m n}, m ≤ n → (s.readings m).nanos ≤ (s.readings n).nanos

namespace Mirrors

variable {s : Session ScriptedWorld} {q : Sequential} {i : Nat} {a : Agent} {b : Balancer}

theorem clock (h : s.Mirrors q) : s.clock = q.clock := by
  rw [Session.clock, Sequential.clock, h.readings, h.reads]

theorem agent? (h : s.Mirrors q) (hb : q.balancers[i]? = some b) :
    ∃ a, s.system.agent? i = some a ∧ a.Mirrors s.clock b :=
  exists_getElem?_of_forall₂ h.agents hb

theorem accepting_iff (h : s.Mirrors q) : s.system.pool.accepting = true ↔ 0 < q.refs := by
  rw [h.sound.referenced, h.refs]

/-- Both look at the clock alike to see whether a pick has a refresh to schedule. -/
theorem due (h : s.Mirrors q) (hab : a.Mirrors s.clock b) :
    (a.isStarted && a.isDue s.tick.clock) = (b.started && b.isDue (q.read 1).clock) := by
  have htick : a.Mirrors s.tick.clock b := hab.later (h.steady (Nat.le_succ _))
  have hclock : s.tick.clock = (q.read 1).clock := by
    rw [Session.clock, Sequential.clock, tick, Sequential.read, h.readings, h.reads]
  rw [htick.isStarted, htick.isDue, hclock]

/-! ## Changes of one part -/

theorem read (h : s.Mirrors q) (times : Nat) :
    { s with reads := s.reads + times }.Mirrors (q.read times) :=
  { h with
    agents := h.agents.imp fun _ _ hab => hab.later (h.steady (Nat.le_add_right ..))
    reads := congrArg (· + times) h.reads }

theorem put (h : s.Mirrors q) (ha : s.system.agent? i = some a) {f : Agent → Agent}
    (hb : (f a).Mirrors s.clock b) : (s.mapSystem (·.modifyAgent i f)).Mirrors (q.put i b) :=
  { h with agents := forall₂_modify_set h.agents ha hb }

theorem log (h : s.Mirrors q) (i : Nat) (base : Endpoint) (filter : Filter) :
    (s.mapSystem (·.logQuery i base filter)).Mirrors (q.log i base filter) :=
  { h with queries := congrArg (· ++ [(⟨i, base, filter⟩ : Query)]) h.queries }

theorem engage (h : s.Mirrors q) :
    (s.mapSystem fun system => { system with pool := system.pool.engage }).Mirrors
      { q with refs := q.refs + 1 } :=
  { h with
    tasks := (WorkerPool.tasks_engage _).trans h.tasks
    sound := h.sound.engage
    refs := (WorkerPool.refs_engage _).trans (congrArg (· + 1) h.refs) }

theorem release (h : s.Mirrors q) :
    (s.mapSystem (·.release)).Mirrors { q with refs := q.refs - 1 } :=
  { h with
    tasks := h.tasks
    sound := h.sound.release
    refs := congrArg (· - 1) h.refs }

theorem mapCluster (h : s.Mirrors q) (f : Cluster → Cluster) :
    { s with world := { s.world with cluster := f s.world.cluster } }.Mirrors
      { q with cluster := f q.cluster } :=
  { h with world := by rw [h.world] }

/-! ## Refreshes -/

theorem ask (h : s.Mirrors q) (base : Endpoint) (filter : Filter) :
    ScriptedWorld.ask s.world base filter = (.nodes (q.cluster.answer base filter), s.world) := by
  rw [h.world]
  rfl

/-- An agent with a refresh in flight that carries it out is at rest again, where its balancer has
refreshed. -/
theorem carryOut (h : s.Mirrors q) (hb : q.balancers[i]? = some b)
    (hlasts : (q.refresh i b).2.Lasts) :
    ∃ s', (s.mapSystem (·.modifyAgent i Agent.markInFlight)).carryOut ScriptedWorld.ask
        stepsPerRefresh (.ofAgent i) = (some (.ok (q.refresh i b).1), s') ∧
      s'.Mirrors (q.refresh i b).2 := by
  obtain ⟨a, ha, hab⟩ := h.agent? hb
  -- What the balancer gets to know, and when its attempt ends.
  let nodes := q.cluster.answer b.current b.config.filter
  let ended := q.readings (q.reads + stepsPerRefresh)
  let refreshed := (b.advance.install nodes).attempt ended
  have hlast : ended.add? (b.advance.install nodes).config.updateInterval ≠ none :=
    Sequential.Lasts.of_put hlasts (Sequential.lt_of_getElem? hb)
  obtain ⟨a', hfinish, ha'⟩ := (hab.advance.install nodes).attempt hlast
  let marked : Session ScriptedWorld := s.mapSystem (·.modifyAgent i Agent.markInFlight)
  have hmarked : marked.system.agent? i = some a.markInFlight :=
    System.agent?_modifyAgent_self ha _
  have hbase : a.markInFlight.registry.current = b.current := hab.current
  have hfilter : a.markInFlight.filter = b.config.filter := hab.filter
  have hanswer : ScriptedWorld.ask marked.world a.markInFlight.registry.current
      a.markInFlight.filter = (.nodes nodes, s.world) := by
    rw [hbase, hfilter]
    exact h.ask _ _
  have hended : marked.readings (marked.reads + 4) = ended :=
    congrArg₂ (fun readings reads => readings (reads + 4)) h.readings h.reads
  have hend : a.markInFlight.refreshed nodes (marked.readings (marked.reads + 4)) =
      (.ok !nodes.isEmpty, a') := by
    rw [hended]
    exact Agent.refreshed_of_finish? (Agent.install_advance_markInFlight a nodes ▸ hfinish)
  have hrun := carryOut_eq hmarked hanswer
  rw [hend] at hrun
  refine ⟨_, hrun, ?_⟩
  have hagents : marked.system.modifyAgent i (fun _ => a') =
      s.system.modifyAgent i fun _ => a' := System.modifyAgent_modifyAgent ..
  have hput : (s.mapSystem (·.modifyAgent i fun _ => a')).Mirrors (q.put i refreshed) :=
    h.put ha ha'
  rw [hagents, hbase, hfilter]
  exact (hput.log i b.current b.config.filter).read stepsPerRefresh

theorem forceRefresh (h : s.Mirrors q) (hb : q.balancers[i]? = some b)
    (hlasts : (q.forceRefresh i b).2.Lasts) :
    ∃ s', s.forceRefresh ScriptedWorld.ask i = (.ok (q.forceRefresh i b).1, s') ∧
      s'.Mirrors (q.forceRefresh i b).2 := by
  obtain ⟨a, ha, hab⟩ := h.agent? hb
  obtain ⟨s', hrun, hs'⟩ := (h.read 1).carryOut hb hlasts
  exact ⟨s', forceRefresh_of_carryOut ha hab.inFlight h.calls hrun, hs'⟩

/-- A pick, once the workers have settled after it. -/
theorem next (h : s.Mirrors q) (hb : q.balancers[i]? = some b) (hlasts : (q.next i b).2.Lasts) :
    ∃ s', s.next i = (.ok (some (q.next i b).1), s') ∧
      (s'.settle ScriptedWorld.ask).Mirrors (q.next i b).2 := by
  obtain ⟨a, ha, hab⟩ := h.agent? hb
  have hnow := h.due hab
  have hadvance : a.advance.Mirrors s.tick.tick.clock b.advance :=
    (hab.later (h.steady (Nat.le_add_right s.reads 2))).advance
  have hpicked : (s.tick.tick.mapSystem (·.modifyAgent i Agent.advance)).Mirrors
      ((q.read 2).put i b.advance) := (h.read 2).put ha hadvance
  have hlt : i < q.balancers.length := Sequential.lt_of_getElem? hb
  have hb' : ((q.read 2).put i b.advance).balancers[i]? = some b.advance :=
    Sequential.getElem?_put hlt _
  rw [Sequential.next_eq, ← hab.current, ← hnow] at hlasts ⊢
  by_cases hdue : (a.isStarted && a.isDue s.tick.clock) = true
  · by_cases hacc : s.system.pool.accepting = true
    · -- A worker thread takes the refresh, and settling carries it out.
      rw [if_pos hdue, if_pos (h.accepting_iff.mp hacc)] at hlasts ⊢
      obtain ⟨s', hrun, hs'⟩ := hpicked.carryOut hb' hlasts
      refine ⟨_, next_of_accepting ha hdue hacc, ?_⟩
      have hmarked : (((s.tick.tick.mapSystem (·.modifyAgent i Agent.advance)).mapSystem
          (·.modifyAgent i Agent.markInFlight))).Quiet := ⟨h.gate, h.held, h.tasks⟩
      rw [settle_submitted hmarked hacc h.sound.staffed hrun]
      exact hs'
    · -- No thread takes it, so the attempt ends in the pick itself.
      rw [if_pos hdue, if_neg (mt h.accepting_iff.mpr hacc)] at hlasts ⊢
      have hclock : s.tick.tick.clock = (q.read 2).clock := (h.read 2).clock
      have hlast : s.tick.tick.clock.add? b.advance.config.updateInterval ≠ none := by
        rw [hclock]
        exact Sequential.Lasts.of_put hlasts (by rwa [Sequential.put, List.length_set])
      obtain ⟨a', hfinish, ha'⟩ := hadvance.attempt hlast
      have hrefused : (s.tick.tick.mapSystem (·.modifyAgent i fun _ => a')).Mirrors
          ((q.read 2).put i (b.advance.attempt s.tick.tick.clock)) := (h.read 2).put ha ha'
      refine ⟨_, next_of_refused ha hdue hacc hfinish, ?_⟩
      rw [settle_of_quiet hrefused.toQuiet, ← hclock, Sequential.put_put]
      exact hrefused
  · rw [if_neg hdue] at hlasts ⊢
    refine ⟨_, next_of_not_due ha (Bool.eq_false_iff.mpr hdue), ?_⟩
    rw [settle_of_quiet hpicked.toQuiet]
    exact hpicked

/-! ## Starting and stopping -/

theorem start (h : s.Mirrors q) (hb : q.balancers[i]? = some b) (hlasts : (q.start i b).Lasts) :
    ∃ s', s.start ScriptedWorld.ask i .made = (.ok (.ok ()), s') ∧ s'.Mirrors (q.start i b) := by
  obtain ⟨a, ha, hab⟩ := h.agent? hb
  rw [Sequential.start] at hlasts ⊢
  by_cases hst : b.started = true
  · rw [if_pos hst]
    exact ⟨s, start_of_started ha (hab.isStarted.trans hst) .made, h⟩
  · rw [if_neg hst] at hlasts ⊢
    have hbalancer : a.isBalancer = true := by rw [Agent.isBalancer, hab.role]
    have hstopped : a.isStarted = false := by rw [hab.isStarted, Bool.eq_false_iff.mpr hst]
    have hstarted : (s.withStarted i).Mirrors
        { q.put i (b.setStarted true) with refs := q.refs + 1 } :=
      (h.put ha (hab.setStarted true)).engage
    rw [start_of_not_started ha hbalancer hstopped, hab.isEager]
    by_cases he : b.config.eagerDiscovery = true
    · simp only [he, if_true] at hlasts ⊢
      obtain ⟨s', hrun, hs'⟩ := hstarted.forceRefresh
        (Sequential.getElem?_put (Sequential.lt_of_getElem? hb) _) hlasts
      rw [hrun]
      exact ⟨s', rfl, hs'⟩
    · simp only [he]
      exact ⟨s.withStarted i, rfl, hstarted⟩

theorem stop (h : s.Mirrors q) (hb : q.balancers[i]? = some b) :
    (s.stop i).Mirrors (q.stop i b) := by
  obtain ⟨a, ha, hab⟩ := h.agent? hb
  simp only [Session.stop, System.stop, mapSystem, ha, hab.isStarted, Sequential.stop]
  by_cases hst : b.started = true
  · rw [if_pos hst, if_pos hst]
    exact (h.put ha (hab.setStarted false)).release
  · rw [if_neg hst, if_neg hst]
    exact h

/-! ## Probes -/

theorem checkFilterHonored (h : s.Mirrors q) (hb : q.balancers[i]? = some b) (kind : FilterKind) :
    ∃ s', s.checkFilterHonored ScriptedWorld.ask i kind =
        (some (q.checkFilterHonored i b kind).1, s') ∧
      s'.Mirrors (q.checkFilterHonored i b kind).2 := by
  obtain ⟨a, ha, hab⟩ := h.agent? hb
  have hrun := checkFilterHonored_eq ha h.calls (h.ask a.registry.current kind.unmatchable)
    (h.ask a.registry.current .none)
  rw [hab.current] at hrun
  have hasked := ((h.put ha hab.advance).log i b.current kind.unmatchable).read 1
  exact ⟨_, hrun, (hasked.log i b.current .none).read 1⟩

theorem validateFilter (h : s.Mirrors q) (hb : q.balancers[i]? = some b) :
    ∃ s', s.validateFilter ScriptedWorld.ask i = (some (q.validateFilter i b).1, s') ∧
      s'.Mirrors (q.validateFilter i b).2 := by
  obtain ⟨a, ha, hab⟩ := h.agent? hb
  rw [Sequential.validateFilter]
  by_cases hempty : b.config.filter.isEmpty = true
  · rw [if_pos hempty]
    refine ⟨s, ?_, h⟩
    rw [validateFilter_of_agent ha h.calls, hab.filter, if_pos hempty]
  · rw [if_neg hempty]
    have hrun := validateFilter_eq ha h.calls (by rwa [hab.filter, ← Bool.not_eq_true])
      (h.ask a.registry.current a.filter)
    rw [hab.current, hab.filter] at hrun
    exact ⟨_, hrun, ((h.put ha hab.advance).log i b.current b.config.filter).read 1⟩

end Mirrors

end Session

end NodeBalancer
