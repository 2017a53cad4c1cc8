import NodeBalancer.Proofs.Sequential.Calls

/-!
# Scripts and their sequential reading

The worker, its queue and the marks of refreshes in flight cannot be told from refreshes that take
place at once, where the workers settle after every call, no query breaks off and every update
interval fits behind the end of an attempt: every command gets the same report from a session and
from its sequential reading (`Script.State.Mirrors.step`), and so does every script
(`Script.State.run_eq_sequential`).
-/

namespace NodeBalancer

namespace Session.Mirrors

variable {s : Session ScriptedWorld} {q : Sequential} {i : Nat} {a : Agent} {b : Balancer}

theorem settled (h : s.Mirrors q) : (s.settle ScriptedWorld.ask).Mirrors q := by
  rwa [settle_of_quiet h.toQuiet]

theorem agent?_eq_none (h : s.Mirrors q) (hb : q.balancers[i]? = none) :
    s.system.agent? i = none := by
  rw [System.agent?, List.getElem?_eq_none_iff, h.agents.length_eq, ← List.getElem?_eq_none_iff, hb]

theorem stop? (h : s.Mirrors q) (i : Nat) :
    (s.stop i).Mirrors ((q.balancers[i]?.map (q.stop i)).getD q) ∧
      ((q.balancers[i]?.map (q.stop i)).getD q).names = q.names := by
  cases hb : q.balancers[i]? with
  | none =>
    simp only [Session.stop, mapSystem, System.stop, h.agent?_eq_none hb]
    exact ⟨h, rfl⟩
  | some b => exact ⟨h.stop hb, q.names_stop i b⟩

theorem addAgent (h : s.Mirrors q) (hab : a.Mirrors s.clock b) :
    (s.mapSystem (·.addAgent a)).Mirrors { q with balancers := q.balancers ++ [b] } :=
  { h with agents := List.rel_append h.agents (.cons hab .nil) }

/-- Picks, each with the workers settling after it. -/
theorem picks (h : s.Mirrors q) (hi : i < q.balancers.length) (times : Nat)
    (hlasts : (q.picks i times).2.Lasts) :
    ∃ s', s.picks ScriptedWorld.ask i times = (.ok (q.picks i times).1, s') ∧
      (s'.settle ScriptedWorld.ask).Mirrors (q.picks i times).2 := by
  -- A session keeps the picks as they come, each of which might have found no node.
  suffices hrepeat : ∃ s', s.repeatSettled ScriptedWorld.ask (·.next i) times =
      (.ok ((q.picks i times).1.map some), s') ∧
        (s'.settle ScriptedWorld.ask).Mirrors (q.picks i times).2 by
    obtain ⟨s', hrun, hs'⟩ := hrepeat
    refine ⟨s', ?_, hs'⟩
    simp [Session.picks, hrun, Except.map]
  induction times generalizing s q with
  | zero => exact ⟨s, rfl, h.settled⟩
  | succ times ih =>
    have hb : q.balancers[i]? = some q.balancers[i] := List.getElem?_eq_getElem hi
    rw [Sequential.picks, hb] at hlasts ⊢
    obtain ⟨s₁, hnext, hs₁⟩ := h.next hb hlasts.before_picks
    obtain ⟨s₂, hrest, hs₂⟩ := ih hs₁ (by rwa [Sequential.length_next]) hlasts
    exact ⟨s₂, by rw [repeatSettled, hnext]; simp [hrest], hs₂⟩

end Session.Mirrors

namespace Script.State

/-- A session with names for its agents, and what the sequential reading keeps of it. -/
structure Mirrors (s : Script.State) (q : Sequential) : Prop where
  names : s.names = q.names
  session : s.session.Mirrors q

namespace Mirrors

variable {s : Script.State} {q : Sequential} {i : Nat} {a : Agent} {b : Balancer}

theorem withSession (h : s.Mirrors q) {session : Session ScriptedWorld} {q' : Sequential}
    (hnames : q'.names = q.names) (hs : session.Mirrors q') : (s.withSession session).Mirrors q' :=
  ⟨h.names.trans hnames.symm, hs⟩

theorem settled (h : s.Mirrors q) : s.settled.Mirrors q :=
  h.withSession rfl h.session.settled

/-! ## Operations -/

theorem operateBalancer (h : s.Mirrors q) (hb : q.balancers[i]? = some b)
    (hab : a.Mirrors s.session.clock b) (operation : Operation)
    (hlasts : (q.operate i b operation).2.Lasts) :
    ∃ s', s.operateBalancer i a b.config operation = ((q.operate i b operation).1, s') ∧
      s'.settled.Mirrors (q.operate i b operation).2 := by
  cases operation with
  | start =>
    obtain ⟨session, hrun, hs⟩ := h.session.start hb hlasts
    refine ⟨s.withSession session, ?_, h.withSession (q.names_start i b) hs.settled⟩
    simp only [State.operateBalancer, hrun]
    rfl
  | stop =>
    exact ⟨_, rfl, h.withSession (q.names_stop i b) (h.session.stop hb).settled⟩
  | next times =>
    obtain ⟨session, hrun, hs⟩ := h.session.picks (Sequential.lt_of_getElem? hb) times hlasts
    refine ⟨s.withSession session, ?_, h.withSession (q.names_picks i times) hs⟩
    simp only [State.operateBalancer, State.pick, hrun]
    rfl
  | resolve =>
    obtain ⟨session, hrun, hs⟩ := h.session.next hb hlasts
    refine ⟨s.withSession session, ?_, h.withSession (q.names_next i b) hs⟩
    simp only [State.operateBalancer, State.resolve, hrun]
    rfl
  | forceRefresh =>
    obtain ⟨session, hrun, hs⟩ := h.session.forceRefresh hb hlasts
    refine ⟨s.withSession session, ?_, h.withSession rfl hs.settled⟩
    simp only [State.operateBalancer, State.forceRefresh, hrun]
    rfl
  | checkFilterHonored kind =>
    obtain ⟨session, hrun, hs⟩ := h.session.checkFilterHonored hb kind
    refine ⟨s.withSession session, ?_, h.withSession rfl hs.settled⟩
    simp only [State.operateBalancer, State.checkFilterHonored, hrun]
    rfl
  | validateFilter =>
    obtain ⟨session, hrun, hs⟩ := h.session.validateFilter hb
    refine ⟨s.withSession session, ?_, h.withSession (q.names_validateFilter i b) hs.settled⟩
    simp only [State.operateBalancer, State.validateFilter, hrun]
    rfl
  | describe =>
    refine ⟨s, ?_, h.settled⟩
    simp only [State.operateBalancer, Sequential.operate, hab.describe]
  | _ => exact ⟨s, rfl, h.settled⟩

theorem operate (h : s.Mirrors q) (name : String) (operation : Operation)
    (hlasts : (q.performNamed name (.operate operation)).2.Lasts) :
    ∃ s', s.operate name operation = ((q.performNamed name (.operate operation)).1, s') ∧
      s'.settled.Mirrors (q.performNamed name (.operate operation)).2 := by
  rw [State.operate, State.agentOf?, h.names]
  simp only [Sequential.performNamed] at hlasts ⊢
  cases hname : q.names.lookup name with
  | none => exact ⟨s, rfl, h.settled⟩
  | some i =>
    simp only [hname] at hlasts ⊢
    cases hb : q.balancers[i]? with
    | none =>
      simp only [h.session.agent?_eq_none hb]
      exact ⟨s, rfl, h.settled⟩
    | some b =>
      obtain ⟨a, ha, hab⟩ := h.session.agent? hb
      simp only [hb] at hlasts ⊢
      simp only [ha, hab.role]
      exact h.operateBalancer hb hab operation hlasts

/-! ## Names -/

theorem forget (h : s.Mirrors q) (name : String) :
    (s.forget name).1 = (q.forget name).1 ∧ (s.forget name).2.Mirrors (q.forget name).2 := by
  rw [State.forget, Sequential.forget, State.agentOf?, h.names]
  cases q.names.lookup name with
  | none => exact ⟨rfl, h⟩
  | some i =>
    obtain ⟨hstop, hnames⟩ := h.session.stop? i
    exact ⟨rfl, congrArg (List.filter _) hnames.symm, { hstop with }⟩

theorem create (h : s.Mirrors q) (name : String) (config : Config) :
    ∃ s', s.create name (.balancer config) = ((q.create name config).1, s') ∧
      s'.Mirrors (q.create name config).2 := by
  rw [State.create, Sequential.create]
  cases hb : Balancer.ofConfig config with
  | error error =>
    simp only [State.agent, Agent.ofConfig_eq_error hb]
    exact ⟨s, rfl, h⟩
  | ok b =>
    obtain ⟨a, ha, hab⟩ := Agent.mirrors_ofConfig hb s.session.tick.clock
    simp only [State.agent, ha]
    have hadded : (s.withSession (s.session.tick.mapSystem (·.addAgent a))).Mirrors
        { q.read 1 with balancers := q.balancers ++ [b] } :=
      h.withSession rfl ((h.session.read 1).addAgent hab)
    obtain ⟨-, hforget⟩ := hadded.forget name
    have hlength : s.session.system.agents.length = q.balancers.length :=
      h.session.agents.length_eq
    exact ⟨_, rfl, congrArg₂ (fun i => List.cons (name, i)) hlength hforget.names,
      { hforget.session with }⟩

/-! ## Commands -/

theorem mapCluster (h : s.Mirrors q) (f : Cluster → Cluster) :
    (s.mapCluster f).settled.Mirrors { q with cluster := f q.cluster } :=
  h.withSession rfl (h.session.mapCluster f).settled

theorem performNamed (h : s.Mirrors q) (name : String) {action : Action}
    (haction : action.isSequential = true) (hlasts : (q.performNamed name action).2.Lasts) :
    ∃ s', s.performNamed name action = ((q.performNamed name action).1, s') ∧
      s'.settled.Mirrors (q.performNamed name action).2 := by
  cases action with
  | create blueprint =>
    cases blueprint with
    | balancer config =>
      obtain ⟨s', hrun, hs'⟩ := h.create name config
      exact ⟨s', hrun, hs'.settled⟩
    | _ => cases haction
  | drop =>
    obtain ⟨hflag, hs'⟩ := h.forget name
    refine ⟨(s.forget name).2, ?_, hs'.settled⟩
    simp only [State.performNamed, Sequential.performNamed, hflag]
  | operate operation => exact h.operate name operation hlasts
  | _ => exact ⟨s, rfl, h.settled⟩

theorem perform (h : s.Mirrors q) (about : Option String) {action : Action}
    (haction : action.isSequential = true) (hlasts : (q.perform about action).2.Lasts) :
    ∃ s', s.perform about action = ((q.perform about action).1, s') ∧
      s'.settled.Mirrors (q.perform about action).2 := by
  cases action with
  | acquire =>
    rw [State.perform, Session.acquire_made]
    exact ⟨_, rfl, h.withSession rfl h.session.engage.settled⟩
  | release => exact ⟨_, rfl, h.withSession rfl h.session.release.settled⟩
  | addMember node rack datacenter =>
    rw [State.perform, Sequential.perform]
    cases node.endpoint with
    | error error => exact ⟨s, rfl, h.settled⟩
    | ok endpoint => exact ⟨_, rfl, h.mapCluster _⟩
  | answerFrom node answer =>
    rw [State.perform, Sequential.perform]
    cases node.endpoint with
    | error error => exact ⟨s, rfl, h.settled⟩
    | ok base =>
      cases EndpointText.endpoints answer with
      | error error => exact ⟨s, rfl, h.settled⟩
      | ok nodes => exact ⟨_, rfl, h.mapCluster _⟩
  | breakNextQuery => cases haction
  | closeGate => cases haction
  | openGate => cases haction
  | _ =>
    cases about with
    | none => exact ⟨s, rfl, h.settled⟩
    | some name => exact h.performNamed name haction hlasts

theorem viewOf (h : s.Mirrors q) (name : String) : s.viewOf name = q.viewOf name := by
  rw [State.viewOf, Sequential.viewOf, State.agentOf?, h.names]
  cases q.names.lookup name with
  | none => rfl
  | some i =>
    cases hb : q.balancers[i]? with
    | none => simp only [Option.bind_some, h.session.agent?_eq_none hb, hb, Option.map_none]
    | some b =>
      obtain ⟨a, ha, hab⟩ := h.session.agent? hb
      simp only [Option.bind_some, ha, hb, Option.map_some, hab.nodes, hab.inFlight,
        hab.isStarted, Agent.isBalancer, hab.role, if_true]

/-- One command is reported alike, and leaves both where they mirror each other. -/
theorem step (h : s.Mirrors q) {command : Command}
    (hcommand : command.action.isSequential = true) (hlasts : (q.step command).2.Lasts) :
    (s.step command).1 = (q.step command).1 ∧ (s.step command).2.Mirrors (q.step command).2 := by
  obtain ⟨s', hrun, hs'⟩ := h.perform command.about hcommand hlasts
  have hrunning : s'.settled.session.system.pool.isRunning =
      decide (0 < (q.perform command.about command.action).2.refs) := by
    rw [Bool.eq_iff_iff, decide_eq_true_iff]
    exact hs'.session.accepting_iff
  have hview : command.about.bind s'.settled.viewOf =
      command.about.bind (q.perform command.about command.action).2.viewOf :=
    congrArg _ (funext hs'.viewOf)
  have hstep : s.step command =
      ({ reply := (q.perform command.about command.action).1
         refs := s'.settled.session.system.pool.refs
         running := s'.settled.session.system.pool.isRunning
         answered := s'.settled.session.system.queries.length
         requests := s'.settled.session.system.queries.drop s.session.system.queries.length
         view := command.about.bind s'.settled.viewOf }, s'.settled) := by
    rw [State.step, hrun]
    rfl
  rw [hstep, hrunning, hview, hs'.session.refs, hs'.session.queries, h.session.queries]
  exact ⟨rfl, hs'⟩

theorem after (h : s.Mirrors q) {commands : List Command}
    (hcommands : ∀ command ∈ commands, command.action.isSequential = true)
    (hlasts : (q.after commands).Lasts) :
    s.run commands = q.run commands ∧ (s.after commands).Mirrors (q.after commands) := by
  induction commands generalizing s q with
  | nil => exact ⟨rfl, h⟩
  | cons command commands ih =>
    obtain ⟨hcommand, hrest⟩ := List.forall_mem_cons.mp hcommands
    -- Attempts are only ever added, so those after the first command are among those at the end.
    have hfirst : (q.step command).2.Lasts := Sequential.Lasts.before_after hlasts
    obtain ⟨hreport, hstep⟩ := h.step hcommand hfirst
    obtain ⟨hreports, hafter⟩ := ih hstep hrest hlasts
    exact ⟨congrArg₂ List.cons hreport hreports, hafter⟩

end Mirrors

/-! ## Scripts -/

theorem mirrors_ofReadings {readings : Nat → Instant}
    (hsteady : ∀ {m n}, m ≤ n → (readings m).nanos ≤ (readings n).nanos) (cluster : Cluster) :
    (State.ofReadings readings cluster).Mirrors (.ofReadings readings cluster) where
  names := rfl
  session := {
    gate := rfl
    held := rfl
    tasks := rfl
    calls := rfl
    sound := WorkerPool.sound_empty
    refs := rfl
    agents := .nil
    queries := rfl
    world := rfl
    readings := rfl
    reads := rfl
    steady := hsteady }

/-- What can be seen of each agent: its node list and whether it is started. -/
def seen (s : Script.State) : List (List Endpoint × Bool) :=
  s.session.system.agents.map fun a => (a.registry.nodes, a.isStarted)

/-- A script for balancers is reported as its sequential reading is, and leaves every node list,
every balancer and the record of the queries as they are there.  A pick that finds a refresh due and
no worker makes a vain attempt there, too: it asks nobody and puts off the next one.  The clock may
show anything that does not run backwards; only an attempt to refresh must never end so late that no
interval fits behind it. -/
theorem run_eq_sequential (readings : Nat → Instant)
    (hsteady : ∀ m n, m ≤ n → (readings m).nanos ≤ (readings n).nanos) (cluster : Cluster)
    (commands : List Command)
    (hcommands : ∀ command ∈ commands, command.action.isSequential = true)
    (hlasts : ((Sequential.ofReadings readings cluster).after commands).Lasts) :
    (State.ofReadings readings cluster).run commands =
        (Sequential.ofReadings readings cluster).run commands ∧
      ((State.ofReadings readings cluster).after commands).seen =
        ((Sequential.ofReadings readings cluster).after commands).balancers.map
          (fun b => (b.nodes, b.started)) ∧
      ((State.ofReadings readings cluster).after commands).session.system.queries =
        ((Sequential.ofReadings readings cluster).after commands).queries := by
  have hstart := mirrors_ofReadings (hsteady _ _) cluster
  obtain ⟨hrun, hafter⟩ := hstart.after hcommands hlasts
  refine ⟨hrun, ?_, hafter.session.queries⟩
  rw [seen, ← List.forall₂_eq_eq_eq, List.forall₂_map_left_iff, List.forall₂_map_right_iff]
  exact hafter.session.agents.imp fun a b hab => congrArg₂ Prod.mk hab.nodes hab.isStarted

theorem steadyReadings_mono (m n : Nat) (h : m ≤ n) :
    (Session.steadyReadings m).nanos ≤ (Session.steadyReadings n).nanos := by
  simp only [Session.steadyReadings, Instant.after]
  omega

/-- A cluster of two racks that honors filters. -/
def pairCluster : Cluster where
  honorsFilters := true
  members := [⟨⟨.http, .v4 ⟨10, 0, 0, 1⟩, 8080⟩, "rack1", "dc1"⟩,
    ⟨⟨.http, .v4 ⟨10, 0, 0, 2⟩, 8080⟩, "rack2", "dc1"⟩]
  overrides := []

/-- Two balancers share the worker; one of them refreshes in the background, makes an attempt in
vain when the worker has been taken away, and is refreshed by force. -/
def sharedScript : List Command :=
  [⟨some "a", .create (.balancer ((Config.ofNodes ["10.0.0.1"]).setAll
      [.rack "rack2", .updateInterval ⟨1⟩]))⟩,
    ⟨some "b", .create (.balancer ((Config.ofNodes ["10.0.0.1"]).set (.eagerDiscovery true)))⟩,
    ⟨some "a", .operate .start⟩, ⟨some "b", .operate .start⟩, ⟨some "a", .operate (.next 2)⟩,
    ⟨none, .release⟩, ⟨some "b", .operate .stop⟩, ⟨some "a", .operate .resolve⟩,
    ⟨some "a", .operate .forceRefresh⟩]

theorem run_eq_sequential_sharedScript :
    (State.ofCluster pairCluster).run sharedScript =
        (Sequential.ofReadings Session.steadyReadings pairCluster).run sharedScript ∧
      ((State.ofCluster pairCluster).after sharedScript).seen =
        [([⟨.http, .v4 ⟨10, 0, 0, 2⟩, 8080⟩], true),
          ([⟨.http, .v4 ⟨10, 0, 0, 1⟩, 8080⟩, ⟨.http, .v4 ⟨10, 0, 0, 2⟩, 8080⟩], false)] ∧
      ((State.ofCluster pairCluster).after sharedScript).session.system.queries.map (·.agent) =
        [1, 0, 0, 0] := by
  have hcommands : ∀ command ∈ sharedScript, command.action.isSequential = true := by decide
  have hlasts : ((Sequential.ofReadings Session.steadyReadings pairCluster).after
      sharedScript).Lasts := by decide
  obtain ⟨hrun, hseen, hqueries⟩ :=
    run_eq_sequential Session.steadyReadings steadyReadings_mono pairCluster sharedScript hcommands
      hlasts
  refine ⟨hrun, hseen.trans ?_, (congrArg _ hqueries).trans ?_⟩
  · decide
  · decide

end Script.State

end NodeBalancer
