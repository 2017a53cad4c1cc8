import NodeBalancer.Proofs.Config.Seeds
import NodeBalancer.Proofs.Session.Operations
import NodeBalancer.Proofs.Untouched
import NodeBalancer.Session.Trial

/-!
# Balancers as they are made

A balancer is made of every configuration whose nodes are hosts and whose port is one, and of no
other.  To make it changes nothing else: no worker is referred to, nobody is asked anything and no
connection pool is built, neither then nor while callers pick from it before it is started.  They get
its nodes in order.

* `InTurn`: nodes as a balancer gives them from the first on.
* `Session.picks_of_not_started`: picks from a balancer that is not started.
* `construction_exact`: what becomes of every configuration, and what a new balancer gives.
-/

namespace NodeBalancer

/-- The nodes of a list in turn, from the first on; the counter of the turns is a 64-bit word. -/
def InTurn (nodes results : List Endpoint) : Prop :=
  results.map some =
    (List.range results.length).map fun k => nodes[k % UInt64.size % nodes.length]?

/-- Once around the list every node has its turn in the order of the list. -/
theorem InTurn.eq_take {nodes results : List Endpoint} (h : InTurn nodes results)
    (hround : results.length ≤ nodes.length) (hword : results.length ≤ UInt64.size) :
    results = nodes.take results.length := by
  have hsome : results.map some = (nodes.take results.length).map some := by
    have htake := map_getElem?_range (nodes.take results.length)
    rw [List.length_take, Nat.min_eq_left hround] at htake
    refine (h.trans (List.map_congr_left fun k hk => ?_)).trans htake
    have hlt := List.mem_range.mp hk
    rw [List.getElem?_take_of_lt hlt, Nat.mod_eq_of_lt (show k < UInt64.size by omega),
      Nat.mod_eq_of_lt (show k < nodes.length by omega)]
  exact List.map_injective_iff.mpr (Option.some_injective _) hsome

theorem RegistryScript.length_picks (m : Nat) (r : Registry) : (picks m r).1.length = m := by
  induction m generalizing r with
  | zero => rfl
  | succ m ih => exact congrArg Nat.succ (ih r.advance)

theorem Agent.fresh_of_ofConfig {config : Config} {now : Instant} {a : Agent}
    (h : Agent.ofConfig config now = .ok a) : a.Fresh := by
  have hmade : (Design.balancer config).agent now = .ok a := h
  exact Design.fresh hmade

theorem Agent.Fresh.inTurn {a : Agent} (h : a.Fresh) (m : Nat) :
    InTurn a.registry.nodes (RegistryScript.picks m a.registry).1 := by
  have hnodes : a.registry.nodes ≠ [] := h.nodes ▸ a.registry.seeds_ne_nil
  have hcursor : a.registry.cursor.toNat = 0 := by
    rw [h.cursor]
    rfl
  rw [InTurn, Registry.picks_eq_places, Registry.places_eq_map_range, List.map_map, hcursor,
    Registry.rotation_eq_nodes hnodes, RegistryScript.length_picks]
  simp only [Nat.zero_add, Function.comp_def]

namespace Session

variable {World : Type} {discovery : Discovery World} {s : Session World} {i : Nat} {a : Agent}

/-- Picks from a balancer that is not started, with workers that have nothing to do: its registry is
picked from, and the world is not asked. -/
theorem picks_of_not_started (hquiet : s.Quiet) (h : s.system.agent? i = some a)
    (hoff : a.isStarted = false) (m : Nat) :
    (s.picks discovery i m).1 = .ok (RegistryScript.picks m a.registry).1 ∧
      (s.picks discovery i m).2.world = s.world := by
  induction m generalizing s a with
  | zero => exact ⟨rfl, rfl⟩
  | succ m ih =>
    let picked : Session World := s.tick.tick.mapSystem (·.modifyAgent i Agent.advance)
    have hidle : picked.Quiet := ⟨hquiet.gate, hquiet.held, hquiet.tasks⟩
    have hnext : s.next i = (.ok (some a.registry.current), picked) :=
      next_of_not_due h (by rw [hoff, Bool.false_and])
    have hpicked : picked.system.agent? i = some a.advance := System.agent?_modifyAgent_self h _
    obtain ⟨hnodes, hworld⟩ := ih hidle hpicked hoff
    rw [picks_succ hnext, settle_of_quiet hidle, hnodes, hworld]
    exact ⟨rfl, rfl⟩

end Session

namespace System

/-- An agent has come in and nothing else has changed: not the worker with its references, not the
calls under way, not the queries that were made. -/
structure Gains (s : System) (a : Agent) (s' : System) : Prop where
  agents : s'.agents = s.agents ++ [a]
  pool : s'.pool = s.pool
  calls : s'.calls = s.calls
  queries : s'.queries = s.queries

theorem gains_create {config : Config} {now : Instant} {a : Agent}
    (h : Agent.ofConfig config now = .ok a) (s : System) :
    s.Gains a (s.step (.create (.balancer config) now)) := by
  have hstep : s.step (.create (.balancer config) now) = s.addAgent a := by
    rw [step, Design.agent, h]
  rw [hstep]
  exact ⟨rfl, rfl, rfl, rfl⟩

/-- No refresh of a fresh agent is under way. -/
theorem stages_of_fresh {past : List Event} {i : Nat} {a : Agent}
    (ha : (empty.run past).agent? i = some a) (h : a.Fresh) : (empty.run past).stages i = [] := by
  obtain ⟨o, hstages, hmarked⟩ := marked ha
  have hnone : o = none := by
    have hno := mt hmarked.inFlight.mpr (by simp [h.inFlight])
    exact Option.not_isSome_iff_eq_none.mp fun hsome => hno (.inl hsome)
  rw [hnone] at hstages
  exact List.perm_nil.mp hstages

/-- A new balancer gives its nodes in turn and asks nobody, as long as it is only picked from. -/
theorem given_of_create {config : Config} {now : Instant} {a : Agent}
    (h : Agent.ofConfig config now = .ok a) {past later : List Event} {i : Nat}
    (hi : i = (empty.run past).agents.length) (hlater : ∀ e ∈ later, e.onlyServes i = true) :
    (empty.run (past ++ .create (.balancer config) now :: later)).asked i = 0 ∧
      ∃ results, (empty.run (past ++ [.create (.balancer config) now])).given i later =
        results.map .ok ∧ InTurn a.registry.nodes results := by
  have hfresh : a.Fresh := Agent.fresh_of_ofConfig h
  have hcoherent := coherent_empty.run past
  have habsent : (empty.run past).agent? i = none := by
    rw [hi]
    exact List.getElem?_eq_none (Nat.le_refl _)
  have hrun : empty.run (past ++ [.create (.balancer config) now]) =
      (empty.run past).step (.create (.balancer config) now) := run_append empty past _
  have ha : (empty.run (past ++ [.create (.balancer config) now])).agent? i = some a := by
    have hagents := (gains_create h (empty.run past)).agents
    rw [hrun, agent?, hagents, hi]
    exact List.getElem?_concat_length
  have hasked := asked_step_of_absent hcoherent habsent (asked_of_absent habsent)
    (.create (.balancer config) now)
  obtain ⟨results, hgiven, hpicks, hlast, -⟩ :=
    given_eq_picks ha hfresh.started (stages_of_fresh ha hfresh) hlater
  rw [hrun, hasked, List.append_assoc] at hlast
  refine ⟨Nat.le_zero.mp hlast, results, hgiven, ?_⟩
  rw [hpicks]
  exact hfresh.inTurn _

end System

namespace Trial

variable {files : Files} {config : Config}

theorem run_of_error {now : Instant} {error : Error} (h : Agent.ofConfig config now = .error error)
    (times : Nat) (starting : Bool) : run files config times starting = .error error := by
  have hrefused := Agent.ofConfig_eq_error_iff.mp h
  simp only [run, Agent.ofConfig_eq_error_iff.mpr hrefused]

/-- The session of a trial before anything is made. -/
def session (config : Config) : Session World :=
  Session.ofWorld ⟨.ofConfig config, .absent⟩

theorem run_of_ok {a : Agent} (h : Agent.ofConfig config (session config).clock = .ok a)
    (times : Nat) : run files config times false =
      let tried := ((session config).mapSystem (·.addAgent a)).picks (World.ask files) 0 times
      .ok ⟨a.registry.nodes, tried.1, none, tried.2.world.client.pools.size⟩ := by
  rw [session] at h
  simp only [run, h]
  rfl

/-- A trial of a balancer that is not started builds no connection pool. -/
theorem exists_run_eq {now : Instant} {a : Agent} (h : Agent.ofConfig config now = .ok a)
    (times : Nat) : ∃ picks,
      run files config times false = .ok ⟨a.registry.nodes, .ok picks, none, 0⟩ ∧
        picks.length = times ∧ InTurn a.registry.nodes picks := by
  obtain ⟨hseeds, hne⟩ := Agent.seeds_of_ofConfig h
  obtain ⟨b, hb, hnodes⟩ := Agent.exists_ofConfig_of_ne_nil hseeds hne (session config).clock
  have hfresh : b.Fresh := Agent.fresh_of_ofConfig hb
  have hquiet : ((session config).mapSystem (·.addAgent b)).Quiet := ⟨rfl, rfl, rfl⟩
  have hagent : ((session config).mapSystem (·.addAgent b)).system.agent? 0 = some b := rfl
  obtain ⟨hpicks, hworld⟩ :=
    @Session.picks_of_not_started _ (World.ask files) _ _ _ hquiet hagent hfresh.started times
  refine ⟨_, ?_, RegistryScript.length_picks times b.registry, hnodes ▸ hfresh.inTurn times⟩
  rw [run_of_ok hb]
  simp only [hpicks, hworld, hnodes]
  rfl

end Trial

/-- **Configurations are checked exactly, and nothing happens besides.**  What cannot be made is
refused with the reason that `Config.Refused` gives, and leaves every system as it was.  A balancer
that is made has one node for each of the configuration and changes nothing else; as long as it is
only picked from it gives its nodes in turn, asks nobody and builds no connection pool. -/
theorem construction_exact (config : Config) (now : Instant) :
    (∀ error, Agent.ofConfig config now = .error error ↔ config.Refused error) ∧
      ((∃ a, Agent.ofConfig config now = .ok a) ↔
        config.nodes ≠ [] ∧ config.port ≠ 0 ∧ ∀ host ∈ config.nodes, IsHost host) ∧
      (∀ error, Agent.ofConfig config now = .error error →
        (∀ s : System, s.step (.create (.balancer config) now) = s) ∧
          ∀ files times starting, Trial.run files config times starting = .error error) ∧
      ∀ a, Agent.ofConfig config now = .ok a →
        config.Names a.registry.nodes ∧
          (∀ s : System, s.Gains a (s.step (.create (.balancer config) now))) ∧
          (∀ past later i, i = (System.empty.run past).agents.length →
            (∀ e ∈ later, e.onlyServes i = true) →
            (System.empty.run (past ++ .create (.balancer config) now :: later)).asked i = 0 ∧
              ∃ results, (System.empty.run (past ++ [.create (.balancer config) now])).given i later =
                results.map .ok ∧ InTurn a.registry.nodes results) ∧
          (∀ files times, ∃ results,
            Trial.run files config times false = .ok ⟨a.registry.nodes, .ok results, none, 0⟩ ∧
              results.length = times ∧ InTurn a.registry.nodes results) ∧
          ∀ results, InTurn a.registry.nodes results →
            results.length ≤ a.registry.nodes.length → results.length ≤ UInt64.size →
            results = a.registry.nodes.take results.length := by
  refine ⟨fun error => Agent.ofConfig_eq_error_iff, Agent.exists_ofConfig_iff,
    fun error herror => ⟨fun s => ?_, fun files => Trial.run_of_error herror⟩, fun a ha =>
      ⟨(Agent.nodes_of_ofConfig ha).2.2, System.gains_create ha,
        fun past later i => System.given_of_create ha, fun files => Trial.exists_run_eq ha,
        fun results => InTurn.eq_take⟩⟩
  rw [System.step, Design.agent, herror]

/-- A configuration that names one node twice, and another one in brackets. -/
def Config.twice : Config :=
  .ofNodes ["10.0.0.1", "[::1]", "10.0.0.1"]

/-- While the balancer is picked from, another one over the same nodes is started. -/
theorem construction_exact_twice : ∃ a, Agent.ofConfig .twice ⟨0⟩ = .ok a ∧
    let later := [Event.next 1 ⟨1⟩ ⟨1⟩, .acquire .made, .start 0 .made, .next 1 ⟨2⟩ ⟨2⟩, .next 0 ⟨2⟩ ⟨2⟩,
      .next 1 ⟨3⟩ ⟨3⟩]
    (System.empty.run ([.create (.balancer .twice) ⟨0⟩] ++
        .create (.balancer .twice) ⟨0⟩ :: later)).asked 1 = 0 ∧
      (System.empty.run ([.create (.balancer .twice) ⟨0⟩] ++
        [.create (.balancer .twice) ⟨0⟩])).given 1 later =
          [⟨.http, .v4 ⟨10, 0, 0, 1⟩, 8080⟩, ⟨.http, .v6 ⟨[0, 0, 0, 0, 0, 0, 0, 1], rfl⟩, 8080⟩,
            ⟨.http, .v4 ⟨10, 0, 0, 1⟩, 8080⟩].map .ok := by
  have hmade : ∃ a, Agent.ofConfig .twice ⟨0⟩ = .ok a ∧ a.registry.nodes =
      [⟨.http, .v4 ⟨10, 0, 0, 1⟩, 8080⟩, ⟨.http, .v6 ⟨[0, 0, 0, 0, 0, 0, 0, 1], rfl⟩, 8080⟩,
        ⟨.http, .v4 ⟨10, 0, 0, 1⟩, 8080⟩] := ⟨_, rfl, rfl⟩
  obtain ⟨a, ha, hnodes⟩ := hmade
  obtain ⟨-, -, hgiven, -, hround⟩ := (construction_exact .twice ⟨0⟩).2.2.2 a ha
  obtain ⟨hasked, results, hresults, hturns⟩ := hgiven [.create (.balancer .twice) ⟨0⟩]
    [.next 1 ⟨1⟩ ⟨1⟩, .acquire .made, .start 0 .made, .next 1 ⟨2⟩ ⟨2⟩, .next 0 ⟨2⟩ ⟨2⟩, .next 1 ⟨3⟩ ⟨3⟩]
    1 rfl (by decide)
  have hlength : results.length = 3 := by
    have h := congrArg List.length hresults
    rw [List.length_map] at h
    exact h.symm
  have hall : results = a.registry.nodes := by
    have htake := hround results hturns (by rw [hlength, hnodes]; rfl) (by rw [hlength]; decide)
    rw [hlength, hnodes] at htake
    exact htake.trans hnodes.symm
  refine ⟨a, ha, hasked, ?_⟩
  rw [hresults, hall, hnodes]

end NodeBalancer
