import NodeBalancer.Proofs.Run

/-!
# What the operations of an agent change

Each operation of a registry and of the agent that keeps it changes one or two fields and leaves the
others alone.  Nothing outside this module opens these operations.

* `Registry.getElem?_current`: the endpoint under the cursor, where the node list is not empty.
* `Design.fresh`: a new agent rotates over its seeds from the first one on and refreshes nothing.
-/

namespace NodeBalancer

namespace Instant

theorem sinceCapped_mono {t t' : Instant} (h : t.nanos ≤ t'.nanos) (epoch : Instant) :
    t.sinceCapped epoch ≤ t'.sinceCapped epoch := by
  unfold sinceCapped
  omega

theorem nanos_of_add? {t t' : Instant} {d : Duration} (h : t.add? d = some t') :
    t'.nanos = t.nanos + d.nanos := by
  unfold add? at h
  split at h
  · cases h
    rfl
  · cases h

end Instant

namespace Registry

theorem rotation_eq_nodes {r : Registry} (h : r.nodes ≠ []) : r.rotation = r.nodes := if_neg h

theorem getElem?_current {r : Registry} (h : r.nodes ≠ []) :
    r.nodes[r.cursor.toNat % r.nodes.length]? = some r.current := by
  have hr := rotation_eq_nodes h
  have hlt : r.cursor.toNat % r.nodes.length < r.nodes.length :=
    Nat.mod_lt _ (List.length_pos_iff.mpr h)
  rw [List.getElem?_eq_getElem hlt, current, List.get_eq_getElem]
  simp only [hr]

theorem nodes_advance {r : Registry} (h : r.nodes ≠ []) : r.advance.nodes = r.nodes :=
  rotation_eq_nodes h

theorem toNat_cursor_advance (r : Registry) :
    r.advance.cursor.toNat = (r.cursor.toNat + 1) % UInt64.size := by
  simp [advance, UInt64.toNat_add]

theorem replace_eq (r : Registry) (nodes : List Endpoint) :
    (r.replace nodes).2 = { r with nodes := if nodes = [] then r.nodes else nodes } := by
  unfold replace
  split <;> rfl

theorem ofSeeds_eq_ok {seeds : List Endpoint} {epoch : Instant} {r : Registry}
    (h : ofSeeds seeds epoch = .ok r) :
    r.seeds = seeds ∧ r.nodes = seeds ∧ r.cursor = 0 ∧ r.inFlight = false ∧ r.epoch = epoch ∧
      r.nextEligible = epoch ∧ r.nextEligibleNanos = r.nextEligible.sinceCapped r.epoch := by
  unfold ofSeeds at h
  split at h
  · cases h
  · cases h
    exact ⟨rfl, rfl, rfl, rfl, rfl, rfl, by simp [Instant.sinceCapped]⟩

end Registry

namespace Agent

def markInFlight (a : Agent) : Agent :=
  { a with registry := { a.registry with inFlight := true } }

/-- An agent to which nothing has happened. -/
structure Fresh (a : Agent) : Prop where
  nodes : a.registry.nodes = a.registry.seeds
  cursor : a.registry.cursor = 0
  inFlight : a.registry.inFlight = false
  started : a.isStarted = false
  eligible : a.registry.nextEligible = a.registry.epoch
  capped : a.registry.nextEligibleNanos = a.registry.nextEligible.sinceCapped a.registry.epoch

@[simp] theorem registry_setStarted (a : Agent) (started : Bool) :
    (a.setStarted started).registry = a.registry := by
  unfold setStarted
  split <;> rfl

@[simp] theorem interval_setStarted (a : Agent) (started : Bool) :
    (a.setStarted started).interval = a.interval := by
  obtain ⟨registry, filter, role⟩ := a
  cases role <;> rfl

theorem setStarted_eq_self {a : Agent} {started : Bool} (h : a.isStarted = started) :
    a.setStarted started = a := by
  obtain ⟨registry, filter, role⟩ := a
  subst h
  cases role <;> rfl

theorem setStarted_setStarted (a : Agent) (started again : Bool) :
    (a.setStarted started).setStarted again = a.setStarted again := by
  obtain ⟨registry, filter, role⟩ := a
  cases role <;> rfl

@[simp] theorem isEager_setStarted (a : Agent) (started : Bool) :
    (a.setStarted started).isEager = a.isEager := by
  obtain ⟨registry, filter, role⟩ := a
  cases role <;> rfl

@[simp] theorem registry_advance (a : Agent) : a.advance.registry = a.registry.advance := rfl

@[simp] theorem registry_install (a : Agent) (nodes : List Endpoint) :
    (a.install nodes).registry =
      { a.registry with nodes := if nodes = [] then a.registry.nodes else nodes } :=
  Registry.replace_eq _ _

@[simp] theorem interval_markInFlight (a : Agent) : a.markInFlight.interval = a.interval := rfl

theorem finish?_eq_some {a a' : Agent} {now : Instant} (h : a.finish? now = some a') :
    ∃ eligible, now.add? a.interval = some eligible ∧
      a' = { a with registry := a.registry.finish eligible } := by
  obtain ⟨eligible, hadd, rfl⟩ := Option.map_eq_some_iff.mp h
  exact ⟨eligible, hadd, rfl⟩

theorem finish?_eq_none_iff {a : Agent} {now : Instant} :
    a.finish? now = none ↔ now.add? a.interval = none :=
  Option.map_eq_none_iff

/-- What a refresh that gets an answer gives back and makes of an agent.  Where the interval has no
end, the refresh does not end either. -/
def refreshed (a : Agent) (nodes : List Endpoint) (ended : Instant) : Except Fault Bool × Agent :=
  match (a.advance.install nodes).finish? ended with
  | some a' => (.ok !nodes.isEmpty, a')
  | none => (.error .instantOverflow, a.advance.install nodes)

theorem refreshed_of_finish? {a a' : Agent} {nodes : List Endpoint} {ended : Instant}
    (h : (a.advance.install nodes).finish? ended = some a') :
    a.refreshed nodes ended = (.ok !nodes.isEmpty, a') := by
  rw [refreshed, h]

/-- Whether a refresh ends or not, it has moved the cursor and installed what it was told. -/
theorem refreshed_frame (a : Agent) (nodes : List Endpoint) (ended : Instant) :
    (a.refreshed nodes ended).2.registry.nodes = (a.advance.install nodes).registry.nodes ∧
      (a.refreshed nodes ended).2.registry.cursor = a.registry.cursor + 1 ∧
      (a.refreshed nodes ended).2.filter = a.filter ∧
      (a.refreshed nodes ended).2.role = a.role := by
  have hcursor : (a.advance.install nodes).registry.cursor = a.registry.cursor + 1 := by
    rw [install, Registry.replace_eq]
    rfl
  rw [refreshed]
  cases h : (a.advance.install nodes).finish? ended with
  | none => exact ⟨rfl, hcursor, rfl, rfl⟩
  | some a' =>
    obtain ⟨eligible, -, rfl⟩ := finish?_eq_some h
    exact ⟨rfl, hcursor, rfl, rfl⟩

end Agent

theorem Agent.role_ofConfig {config : Config} {now : Instant} {a : Agent}
    (h : Agent.ofConfig config now = .ok a) : a.role = .balancer config false := by
  rw [Agent.ofConfig] at h
  split at h
  · cases h
  · rename_i seeds _
    cases hr : Registry.ofSeeds seeds now with
    | error error =>
      rw [hr] at h
      cases h
    | ok r =>
      rw [hr] at h
      cases h
      rfl

/-- Whatever the design, its agent is a registry over seeds, made at that time, and not started. -/
theorem Design.exists_ofSeeds {design : Design} {now : Instant} {a : Agent}
    (h : design.agent now = .ok a) :
    (∃ seeds, Registry.ofSeeds seeds now = .ok a.registry) ∧ a.isStarted = false := by
  have hmap : ∀ (seeds : List Endpoint) (filter : Filter) (role : Role),
      (∀ r, (⟨r, filter, role⟩ : Agent).isStarted = false) →
      (Registry.ofSeeds seeds now).map (fun r => (⟨r, filter, role⟩ : Agent)) = .ok a →
      (∃ seeds, Registry.ofSeeds seeds now = .ok a.registry) ∧ a.isStarted = false := by
    intro seeds filter role hrole h
    cases hr : Registry.ofSeeds seeds now with
    | error error => rw [hr] at h; cases h
    | ok r =>
      rw [hr] at h
      cases h
      exact ⟨⟨seeds, hr⟩, hrole r⟩
  cases design with
  | balancer config =>
    simp only [Design.agent, Agent.ofConfig] at h
    split at h
    · cases h
    · exact hmap _ _ _ (fun _ => rfl) h
  | coordinator seeds interval filter => exact hmap _ _ _ (fun _ => rfl) h
  | probe seeds filter => exact hmap _ _ _ (fun _ => rfl) h

theorem Design.fresh {design : Design} {now : Instant} {a : Agent} (h : design.agent now = .ok a) :
    a.Fresh := by
  obtain ⟨⟨seeds, hr⟩, hstarted⟩ := exists_ofSeeds h
  obtain ⟨hseeds, hnodes, hcursor, hflight, hepoch, heligible, hcapped⟩ := Registry.ofSeeds_eq_ok hr
  exact ⟨hnodes.trans hseeds.symm, hcursor, hflight, hstarted, heligible.trans hepoch.symm, hcapped⟩

theorem Design.epoch_eq {design : Design} {now : Instant} {a : Agent}
    (h : design.agent now = .ok a) : a.registry.epoch = now := by
  obtain ⟨⟨seeds, hr⟩, -⟩ := exists_ofSeeds h
  obtain ⟨-, -, -, -, hepoch, -⟩ := Registry.ofSeeds_eq_ok hr
  exact hepoch

end NodeBalancer
