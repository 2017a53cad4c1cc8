import NodeBalancer.Proofs.References
import NodeBalancer.Proofs.Session.Operations

/-!
# What a balancer looks at

Between two commands the workers are idle, and only the started balancers hold them
(`Session.Rest`), so a started balancer always finds a worker.  What is then asked of a balancer
depends on the balancer, on the cluster and on the clock alone.  These three are its *situation*;
what is done to it, and asked and read on the way, is a *deed*.

* `Session.Does`: a session after a deed, in which all other agents are as they were.
* `Situation.Determines`: an operation gives back the same and does the same deed in all sessions in
  which some agent is in that situation.
* `Situation.determines_next`, `Situation.determines_forceRefresh`, … : each operation on a balancer
  is of that kind.
-/

namespace NodeBalancer

/-- All that an operation on an agent looks at: the clock shows these times from now on. -/
structure Situation where
  agent : Agent
  cluster : Cluster
  clock : Nat → Instant

/-- What an operation makes of an agent, what it asks on its behalf, and how often it reads the
clock. -/
structure Deed where
  agent : Agent
  asked : List (Endpoint × Filter)
  reads : Nat

/-- One deed after the other. -/
def Deed.andThen (d d' : Deed) : Deed :=
  ⟨d'.agent, d.asked ++ d'.asked, d.reads + d'.reads⟩

def Situation.after (x : Situation) (d : Deed) : Situation :=
  ⟨d.agent, x.cluster, fun n => x.clock (d.reads + n)⟩

/-! ## Queries -/

namespace Query

def question (q : Query) : Endpoint × Filter := (q.base, q.filter)

def ofAgent (i : Nat) (question : Endpoint × Filter) : Query := ⟨i, question.1, question.2⟩

theorem map_question_ofAgent (i : Nat) (asked : List (Endpoint × Filter)) :
    (asked.map (ofAgent i)).map question = asked := by
  rw [List.map_map]
  exact List.map_id asked

theorem filter_ofAgent_self (i : Nat) (asked : List (Endpoint × Filter)) :
    (asked.map (ofAgent i)).filter (·.agent = i) = asked.map (ofAgent i) := by
  rw [List.filter_eq_self]
  intro q hq
  obtain ⟨question, -, rfl⟩ := List.mem_map.mp hq
  exact decide_eq_true rfl

theorem filter_ofAgent_of_ne {i k : Nat} (h : k ≠ i) (asked : List (Endpoint × Filter)) :
    (asked.map (ofAgent k)).filter (·.agent = i) = [] := by
  rw [List.filter_eq_nil_iff]
  intro q hq
  obtain ⟨question, -, rfl⟩ := List.mem_map.mp hq
  exact mt of_decide_eq_true h

end Query

/-! ## Agents -/

namespace Agent

variable {a b : Agent}

theorem isStarted_congr (h : a.role = b.role) : a.isStarted = b.isStarted := by
  rw [isStarted, isStarted, h]

theorem isBalancer_congr (h : a.role = b.role) : a.isBalancer = b.isBalancer := by
  rw [isBalancer, isBalancer, h]

@[simp] theorem isBalancer_setStarted (a : Agent) (started : Bool) :
    (a.setStarted started).isBalancer = a.isBalancer := by
  obtain ⟨registry, filter, role⟩ := a
  cases role <;> rfl

@[simp] theorem role_refreshed (a : Agent) (nodes : List Endpoint) (ended : Instant) :
    (a.refreshed nodes ended).2.role = a.role :=
  (a.refreshed_frame nodes ended).2.2.2

end Agent

namespace Session

variable {s s' s'' : Session ScriptedWorld} {i k : Nat} {a a' : Agent} {x : Situation} {d d' : Deed}

/-- What the clock will show from now on; the first reading is the latest one. -/
def ahead {World : Type} (s : Session World) (n : Nat) : Instant :=
  s.readings (s.reads + n)

/-- The questions that were asked on behalf of an agent. -/
def questionsOf {World : Type} (s : Session World) (i : Nat) : List (Endpoint × Filter) :=
  (s.system.queries.filter (·.agent = i)).map Query.question

/-- A session of balancers between two commands: there is nothing to do, no query is going to break
off, and the started balancers are all that hold the worker. -/
structure Rest (s : Session ScriptedWorld) : Prop extends s.Quiet where
  calls : s.system.calls = []
  intact : s.world.breaksNext = false
  balancers : ∀ a ∈ s.system.agents, a.isBalancer = true
  referenced : s.system.Referenced 0

/-- At rest, an agent is in that situation. -/
structure Finds (s : Session ScriptedWorld) (i : Nat) (x : Situation) : Prop extends s.Rest where
  agent : s.system.agent? i = some x.agent
  cluster : s.world.cluster = x.cluster
  clock : ∀ n, s.ahead n = x.clock n

/-- A session at rest, after a deed of one agent. -/
structure Does (s : Session ScriptedWorld) (i : Nat) (d : Deed) (s' : Session ScriptedWorld) :
    Prop extends s'.Rest where
  agents : s'.system.agents = (s.system.modifyAgent i fun _ => d.agent).agents
  queries : s'.system.queries = s.system.queries ++ d.asked.map (Query.ofAgent i)
  world : s'.world = s.world
  readings : s'.readings = s.readings
  reads : s'.reads = s.reads + d.reads

theorem questionsOf_congr {World : Type} {s s' : Session World}
    (h : s'.system.queries = s.system.queries) (i : Nat) : s'.questionsOf i = s.questionsOf i := by
  rw [questionsOf, questionsOf, h]

/-! ## Sessions at rest -/

namespace Rest

theorem settle (h : s.Rest) : s.settle ScriptedWorld.ask = s := settle_of_quiet h.toQuiet

theorem finds (h : s.Rest) (ha : s.system.agent? i = some a) :
    s.Finds i ⟨a, s.world.cluster, s.ahead⟩ :=
  { h with
    agent := ha
    cluster := rfl
    clock := fun _ => rfl }

theorem ask (h : s.Rest) (base : Endpoint) (filter : Filter) :
    ScriptedWorld.ask s.world base filter =
      (.nodes (s.world.cluster.answer base filter), s.world) := by
  rw [ScriptedWorld.ask, h.intact]
  rfl

theorem isBalancer (h : s.Rest) (ha : s.system.agent? i = some a) : a.isBalancer = true :=
  h.balancers a (List.mem_of_getElem? ha)

theorem balancers_modify (h : s.Rest) (i : Nat) (hb : a'.isBalancer = true) :
    ∀ b ∈ (s.system.modifyAgent i fun _ => a').agents, b.isBalancer = true := by
  intro b hmem
  obtain ⟨k, hk⟩ := List.mem_iff_getElem?.mp hmem
  rw [System.modifyAgent, List.getElem?_modify] at hk
  obtain ⟨c, hc, rfl⟩ := Option.map_eq_some_iff.mp hk
  split
  · exact hb
  · exact h.isBalancer hc

/-- An agent may change as long as it is not switched. -/
theorem modify (h : s.Rest) (ha : s.system.agent? i = some a) (hrole : a'.role = a.role)
    (hquiet : s'.Quiet) (hcalls : s'.system.calls = []) (hworld : s'.world = s.world)
    (hpool : s'.system.pool = s.system.pool)
    (hagents : s'.system.agents = (s.system.modifyAgent i fun _ => a').agents) : s'.Rest where
  toQuiet := hquiet
  calls := hcalls
  intact := hworld ▸ h.intact
  balancers := by
    rw [hagents]
    exact h.balancers_modify i ((Agent.isBalancer_congr hrole).trans (h.isBalancer ha))
  referenced := by
    refine h.referenced.frame (hpool ▸ .refl _) ?_
    obtain ⟨rest, hbefore, hafter⟩ := exists_perm_modify ha
    rw [hagents, System.modifyAgent, (hafter _).countP_eq, hbefore.countP_eq, List.countP_cons,
      List.countP_cons, Agent.isStarted_congr hrole]

end Rest

/-! ## Deeds -/

namespace Finds

theorem ask (h : s.Finds i x) (base : Endpoint) (filter : Filter) :
    ScriptedWorld.ask s.world base filter = (.nodes (x.cluster.answer base filter), s.world) :=
  h.cluster ▸ h.toRest.ask base filter

/-- Where a deed leads, the agent is in the situation that it leads to. -/
theorem after (h : s.Finds i x) (g : s.Does i d s') : s'.Finds i (x.after d) where
  toRest := g.toRest
  agent := by
    rw [System.agent?, g.agents]
    exact System.agent?_modifyAgent_self h.agent _
  cluster := (congrArg ScriptedWorld.cluster g.world).trans h.cluster
  clock := fun n => by
    rw [ahead, g.readings, g.reads, Nat.add_assoc]
    exact h.clock (d.reads + n)

theorem modify (h : s.Finds i x) {f : Agent → Agent} (hrole : (f x.agent).role = x.agent.role)
    (reads : Nat) :
    s.Does i ⟨f x.agent, [], reads⟩
      { s with system := s.system.modifyAgent i f, reads := s.reads + reads } := by
  have hagents : s.system.modifyAgent i f = s.system.modifyAgent i fun _ => f x.agent :=
    System.modifyAgent_congr h.agent rfl
  exact {
    toRest := h.toRest.modify h.agent hrole ⟨h.gate, h.held, h.tasks⟩ h.calls rfl rfl
      (congrArg System.agents hagents)
    agents := congrArg System.agents hagents
    queries := (List.append_nil _).symm
    world := rfl
    readings := rfl
    reads := rfl }

theorem idle (h : s.Finds i x) (reads : Nat) :
    s.Does i ⟨x.agent, [], reads⟩ { s with reads := s.reads + reads } := by
  have hsame : s.system.modifyAgent i id = s.system := System.modifyAgent_eq_self h.agent rfl
  simpa only [hsame, id] using h.modify (f := id) rfl reads

theorem log (h : s.Finds i x) (base : Endpoint) (filter : Filter) :
    s.Does i ⟨x.agent, [(base, filter)], 1⟩
      { s.tick with system := s.system.logQuery i base filter } := by
  have hidle := h.idle 1
  exact { hidle with
    toRest := { hidle.toRest with referenced := ⟨hidle.referenced.sound, hidle.referenced.refs⟩ }
    queries := rfl }

end Finds

namespace Does

theorem trans (h : s.Does i d s') (g : s'.Does i d' s'') : s.Does i (d.andThen d') s'' where
  toRest := g.toRest
  agents := by
    rw [g.agents, System.modifyAgent, h.agents, System.modifyAgent, List.modify_modify_eq]
    rfl
  queries := by
    rw [g.queries, h.queries, List.append_assoc, Deed.andThen, List.map_append]
  world := g.world.trans h.world
  readings := g.readings.trans h.readings
  reads := by
    rw [g.reads, h.reads, Nat.add_assoc]
    rfl

theorem length_agents (h : s.Does i d s') : s'.system.agents.length = s.system.agents.length := by
  rw [h.agents]
  exact List.length_modify ..

theorem agent?_self (h : s.Does i d s') (ha : s.system.agent? i = some a) :
    s'.system.agent? i = some d.agent := by
  rw [System.agent?, h.agents]
  exact System.agent?_modifyAgent_self ha _

theorem agent?_of_ne (h : s.Does k d s') (hki : k ≠ i) :
    s'.system.agent? i = s.system.agent? i := by
  rw [System.agent?, h.agents]
  exact System.agent?_modifyAgent_of_ne hki _

theorem questionsOf_self (h : s.Does i d s') : s'.questionsOf i = s.questionsOf i ++ d.asked := by
  rw [questionsOf, h.queries, List.filter_append, List.map_append, Query.filter_ofAgent_self,
    Query.map_question_ofAgent]
  rfl

theorem questionsOf_of_ne (h : s.Does k d s') (hki : k ≠ i) :
    s'.questionsOf i = s.questionsOf i := by
  rw [questionsOf, h.queries, List.filter_append, Query.filter_ofAgent_of_ne hki, List.append_nil]
  rfl

end Does

/-! ## Switching -/

namespace Finds

/-- A balancer is switched, and the references to the worker follow. -/
theorem switch (h : s.Finds i x) (started : Bool) {pool : WorkerPool Refresh}
    (htasks : pool.tasks = [])
    (hreferenced : System.Referenced
      { s.system.modifyAgent i (·.setStarted started) with pool := pool } 0) :
    s.Does i ⟨x.agent.setStarted started, [], 0⟩
      (s.mapSystem fun system =>
        { system.modifyAgent i (·.setStarted started) with pool := pool }) := by
  have hagents : (s.system.modifyAgent i (·.setStarted started)).agents =
      (s.system.modifyAgent i fun _ => x.agent.setStarted started).agents :=
    congrArg System.agents (System.modifyAgent_congr h.agent rfl)
  have hbalancer : (x.agent.setStarted started).isBalancer = true :=
    (x.agent.isBalancer_setStarted started).trans (h.toRest.isBalancer h.agent)
  exact {
    gate := h.gate
    held := h.held
    tasks := htasks
    calls := h.calls
    intact := h.intact
    balancers := fun b hb => h.balancers_modify i hbalancer b (hagents ▸ hb)
    referenced := hreferenced
    agents := hagents
    queries := (List.append_nil _).symm
    world := rfl
    readings := rfl
    reads := rfl }

theorem withStarted (h : s.Finds i x) (hst : x.agent.isStarted = false) :
    s.Does i ⟨x.agent.setStarted true, [], 0⟩ (s.withStarted i) := by
  have hstart := h.referenced.start i .made
  rw [system_withStarted h.agent (h.toRest.isBalancer h.agent) hst] at hstart
  exact h.switch true ((WorkerPool.tasks_engage _).trans h.tasks) hstart

theorem stop (h : s.Finds i x) : s.Does i ⟨x.agent.setStarted false, [], 0⟩ (s.stop i) := by
  have hstop := h.referenced.stop i
  rw [Session.stop, mapSystem]
  rw [System.stop, h.agent] at hstop ⊢
  by_cases hst : x.agent.isStarted = true
  · simp only [hst, if_true] at hstop ⊢
    exact h.switch false h.tasks hstop
  · rw [Agent.setStarted_eq_self (Bool.eq_false_iff.mpr hst)]
    simp only [hst]
    exact h.idle 0

end Finds

end Session

namespace Situation

open Session

variable {Result : Type} {x : Situation}

/-- Wherever an agent is in this situation, the operation gives back the same, and once the workers
have settled it has done the same to the agent and to no other. -/
def Determines (x : Situation)
    (operation : Session ScriptedWorld → Nat → Result × Session ScriptedWorld) : Prop :=
  ∃ result d, ∀ s i, s.Finds i x →
    ∃ s', operation s i = (result, s') ∧ s.Does i d (s'.settle ScriptedWorld.ask)

/-- What a refresh gives back and does. -/
def refresh (x : Situation) : Except Fault Bool × Deed :=
  let base := x.agent.registry.current
  let (result, a) := x.agent.refreshed (x.cluster.answer base x.agent.filter) (x.clock 4)
  (result, ⟨a, [(base, x.agent.filter)], 4⟩)

variable {operation : Session ScriptedWorld → Nat → Result × Session ScriptedWorld}

/-- An operation may leave the workers nothing to do. -/
theorem determines_of_does (result : Result) (d : Deed)
    (h : ∀ s i, s.Finds i x → ∃ s', operation s i = (result, s') ∧ s.Does i d s') :
    x.Determines operation := by
  refine ⟨result, d, fun s i hfinds => ?_⟩
  obtain ⟨s', hrun, hdoes⟩ := h s i hfinds
  exact ⟨s', hrun, hdoes.settle.symm ▸ hdoes⟩

theorem carryOut_of_finds {s : Session ScriptedWorld} {i : Nat} (h : s.Finds i x) :
    ∃ s', s.carryOut ScriptedWorld.ask stepsPerRefresh (.ofAgent i) = (some x.refresh.1, s') ∧
      s.Does i x.refresh.2 s' := by
  have hclock : s.readings (s.reads + 4) = x.clock 4 := h.clock 4
  have hrun := carryOut_eq h.agent (h.ask x.agent.registry.current x.agent.filter)
  rw [hclock] at hrun
  exact ⟨_, hrun, {
    toRest := h.toRest.modify h.agent (Agent.role_refreshed ..) ⟨h.gate, h.held, h.tasks⟩ h.calls
      rfl rfl rfl
    agents := rfl
    queries := rfl
    world := rfl
    readings := rfl
    reads := rfl }⟩

theorem determines_next (x : Situation) : x.Determines Session.next := by
  let node := x.agent.registry.current
  by_cases hdue : (x.agent.isStarted && x.agent.isDue (x.clock 1)) = true
  · -- The balancer holds the worker, so there is a thread that takes the refresh.
    let picked : Deed := ⟨x.agent.advance, [], 2⟩
    let marked : Deed := ⟨x.agent.advance.markInFlight, [], 0⟩
    refine ⟨.ok (some node), (picked.andThen marked).andThen
      ((x.after picked).after marked).refresh.2, fun s i h => ?_⟩
    have hclock : s.tick.clock = x.clock 1 := h.clock 1
    have hst : x.agent.isStarted = true := (Bool.and_eq_true_iff.mp hdue).1
    have hacc : s.system.pool.accepting = true := h.referenced.isRunning_of_started h.agent hst
    have hpicked := h.modify (f := Agent.advance) rfl 2
    have hmarked := (h.after hpicked).modify (f := Agent.markInFlight) rfl 0
    obtain ⟨s', hrun, hdoes⟩ := carryOut_of_finds ((h.after hpicked).after hmarked)
    refine ⟨_, next_of_accepting h.agent (hclock ▸ hdue) hacc, ?_⟩
    have hsettle := settle_submitted hmarked.toQuiet hacc hmarked.referenced.sound.staffed hrun
    rw [← hsettle] at hdoes
    exact (hpicked.trans hmarked).trans hdoes
  · refine determines_of_does (.ok (some node)) ⟨x.agent.advance, [], 2⟩ fun s i h => ?_
    have hclock : s.tick.clock = x.clock 1 := h.clock 1
    exact ⟨_, next_of_not_due h.agent (hclock ▸ Bool.eq_false_iff.mpr hdue), h.modify rfl 2⟩

theorem determines_forceRefresh (x : Situation) :
    x.Determines (·.forceRefresh ScriptedWorld.ask ·) := by
  by_cases hflight : x.agent.registry.inFlight = true
  · exact determines_of_does (.ok false) ⟨x.agent, [], 1⟩ fun s i h =>
      ⟨_, forceRefresh_of_inFlight h.agent hflight, h.idle 1⟩
  · let marked : Deed := ⟨x.agent.markInFlight, [], 1⟩
    let refreshed := (x.after marked).refresh
    refine determines_of_does refreshed.1 (marked.andThen refreshed.2) fun s i h => ?_
    have hmarked := h.modify (f := Agent.markInFlight) rfl 1
    obtain ⟨s', hrun, hdoes⟩ := carryOut_of_finds (h.after hmarked)
    exact ⟨s', forceRefresh_of_carryOut h.agent (Bool.eq_false_iff.mpr hflight) h.calls hrun,
      hmarked.trans hdoes⟩

theorem determines_start (x : Situation) : x.Determines (·.start ScriptedWorld.ask · .made) := by
  by_cases hst : x.agent.isStarted = true
  · exact determines_of_does (.ok (.ok ())) ⟨x.agent, [], 0⟩ fun s i h =>
      ⟨s, start_of_started h.agent hst .made, h.idle 0⟩
  · have hstopped : x.agent.isStarted = false := Bool.eq_false_iff.mpr hst
    let started : Deed := ⟨x.agent.setStarted true, [], 0⟩
    by_cases heager : x.agent.isEager = true
    · obtain ⟨result, d, hforce⟩ := determines_forceRefresh (x.after started)
      refine ⟨result.map fun _ => .ok (), started.andThen d, fun s i h => ?_⟩
      have hstarted := h.withStarted hstopped
      obtain ⟨s', hrun, hdoes⟩ := hforce _ i (h.after hstarted)
      have hstart : s.start ScriptedWorld.ask i .made = _ :=
        start_of_not_started h.agent (h.toRest.isBalancer h.agent) hstopped
      rw [if_pos heager] at hstart
      refine ⟨s', hstart.trans ?_, hstarted.trans hdoes⟩
      rw [show (s.withStarted i).forceRefresh ScriptedWorld.ask i = (result, s') from hrun]
    · refine determines_of_does (.ok (.ok ())) started fun s i h =>
        ⟨s.withStarted i, ?_, h.withStarted hstopped⟩
      exact (start_of_not_started h.agent (h.toRest.isBalancer h.agent) hstopped).trans
        (if_neg heager)

theorem determines_stop (x : Situation) : x.Determines fun s i => ((), s.stop i) :=
  determines_of_does () ⟨x.agent.setStarted false, [], 0⟩ fun s i h => ⟨s.stop i, rfl, h.stop⟩

theorem determines_checkFilterHonored (x : Situation) (kind : FilterKind) :
    x.Determines (·.checkFilterHonored ScriptedWorld.ask · kind) := by
  let base := x.agent.registry.current
  let outcome := System.verdict base (x.cluster.answer base kind.unmatchable)
    (x.cluster.answer base .none)
  let picked : Deed := ⟨x.agent.advance, [], 0⟩
  let first : Deed := ⟨x.agent.advance, [(base, kind.unmatchable)], 1⟩
  let second : Deed := ⟨x.agent.advance, [(base, .none)], 1⟩
  refine determines_of_does (some outcome) ((picked.andThen first).andThen second) fun s i h => ?_
  have hpicked := h.modify (f := Agent.advance) rfl 0
  have hfirst := (h.after hpicked).log base kind.unmatchable
  have hsecond := ((h.after hpicked).after hfirst).log base .none
  have hrun := checkFilterHonored_eq h.agent h.calls (h.ask base kind.unmatchable) (h.ask base .none)
  exact ⟨_, hrun, (hpicked.trans hfirst).trans hsecond⟩

theorem determines_validateFilter (x : Situation) :
    x.Determines (·.validateFilter ScriptedWorld.ask ·) := by
  by_cases hempty : x.agent.filter.isEmpty = true
  · refine determines_of_does (some .valid) ⟨x.agent, [], 0⟩ fun s i h => ⟨s, ?_, h.idle 0⟩
    exact (validateFilter_of_agent h.agent h.calls).trans (if_pos hempty)
  · let base := x.agent.registry.current
    let filter := x.agent.filter
    let outcome : Outcome := if (x.cluster.answer base filter).isEmpty then
      .error (.filterMisconfigured filter.rack filter.datacenter) else .valid
    let picked : Deed := ⟨x.agent.advance, [], 0⟩
    let asked : Deed := ⟨x.agent.advance, [(base, filter)], 1⟩
    refine determines_of_does (some outcome) (picked.andThen asked) fun s i h => ?_
    have hpicked := h.modify (f := Agent.advance) rfl 0
    have hasked := (h.after hpicked).log base filter
    have hrun := validateFilter_eq h.agent h.calls (Bool.eq_false_iff.mpr hempty)
      (h.ask base filter)
    exact ⟨_, hrun, hpicked.trans hasked⟩

/-- What is repeated is determined each time by the situation that the times before have left. -/
theorem determines_repeatSettled
    {once : Session ScriptedWorld → Nat → Except Fault Result × Session ScriptedWorld}
    (honce : ∀ x : Situation, x.Determines once) (times : Nat) (x : Situation) :
    x.Determines fun s i => s.repeatSettled ScriptedWorld.ask (once · i) times := by
  induction times generalizing x with
  | zero =>
    exact determines_of_does (.ok []) ⟨x.agent, [], 0⟩ fun s i h => ⟨s, rfl, h.idle 0⟩
  | succ times ih =>
    obtain ⟨result, d, hrun⟩ := honce x
    cases result with
    | error fault =>
      refine ⟨.error fault, d, fun s i h => ?_⟩
      obtain ⟨s', hs', hdoes⟩ := hrun s i h
      exact ⟨s', by simp only [repeatSettled, hs'], hdoes⟩
    | ok result =>
      obtain ⟨results, d', hrest⟩ := ih (x.after d)
      refine ⟨results.map (result :: ·), d.andThen d', fun s i h => ?_⟩
      obtain ⟨s', hs', hdoes⟩ := hrun s i h
      obtain ⟨s'', hs'', hdoes'⟩ := hrest _ i (h.after hdoes)
      refine ⟨s'', ?_, hdoes.trans hdoes'⟩
      simp only [repeatSettled, hs', hs'']
      cases results <;> rfl

theorem determines_picks (x : Situation) (times : Nat) :
    x.Determines (·.picks ScriptedWorld.ask · times) := by
  obtain ⟨nodes, d, hrun⟩ := determines_repeatSettled determines_next times x
  refine ⟨nodes.map (·.filterMap id), d, fun s i h => ?_⟩
  obtain ⟨s', hs', hdoes⟩ := hrun s i h
  exact ⟨s', by simp only [picks, hs'], hdoes⟩

end Situation

end NodeBalancer
