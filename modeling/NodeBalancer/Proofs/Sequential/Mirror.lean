import Mathlib.Data.List.Forall2
import NodeBalancer.Proofs.Agent.Timetable
import NodeBalancer.Proofs.Sequential.Lasting
import NodeBalancer.Proofs.Session.Settling

/-!
# An agent at rest and its balancer

Between commands no refresh is in flight, and an agent then keeps the same as the balancer it stands
for, except that it keeps the time from which a refresh is due again where the balancer keeps when
its attempts ended (`Agent.Mirrors`).  Both judge in the same way whether a refresh is due, although
the agent judges twice, and first by the capped time alone (`Agent.Mirrors.isDue`).
-/

namespace NodeBalancer

namespace Balancer

variable {b : Balancer}

theorem getElem?_current (b : Balancer) :
    b.nodes[b.cursor.toNat % b.nodes.length]? = some b.current :=
  List.getElem?_eq_getElem _

end Balancer

namespace Agent

variable {a : Agent} {b : Balancer} {now : Instant}

/-- An agent that keeps what a balancer keeps, at a time when it refreshes nothing. -/
structure Mirrors (now : Instant) (a : Agent) (b : Balancer) : Prop where
  role : a.role = .balancer b.config b.started
  filter : a.filter = b.config.filter
  nodes : a.registry.nodes = b.nodes
  cursor : a.registry.cursor = b.cursor
  inFlight : a.registry.inFlight = false
  made : a.registry.epoch.nanos ≤ now.nanos
  capped : a.registry.nextEligibleNanos = a.registry.nextEligible.sinceCapped a.registry.epoch
  unattempted : b.attempts = [] → a.registry.nextEligible = a.registry.epoch
  attempted : ∀ ended, b.attempts.getLast? = some ended →
    ended.add? b.config.updateInterval = some a.registry.nextEligible

namespace Mirrors

theorem later (h : a.Mirrors now b) {now' : Instant} (hle : now.nanos ≤ now'.nanos) :
    a.Mirrors now' b :=
  { h with made := Int.le_trans h.made hle }

theorem interval (h : a.Mirrors now b) : a.interval = b.config.updateInterval := by
  rw [Agent.interval, h.role]

theorem isStarted (h : a.Mirrors now b) : a.isStarted = b.started := by
  rw [Agent.isStarted, h.role]

theorem isEager (h : a.Mirrors now b) : a.isEager = b.config.eagerDiscovery := by
  rw [Agent.isEager, h.role]

theorem nodes_ne_nil (h : a.Mirrors now b) : a.registry.nodes ≠ [] := by
  rw [h.nodes]
  exact b.nodes_ne_nil

theorem current (h : a.Mirrors now b) : a.registry.current = b.current := by
  have hcurrent := Registry.getElem?_current h.nodes_ne_nil
  rw [h.nodes, h.cursor, b.getElem?_current] at hcurrent
  exact (Option.some.inj hcurrent).symm

theorem describe (h : a.Mirrors now b) : a.describe = b.describe := by
  simp only [Agent.describe, h.role, Agent.describeCoordinator, h.interval, h.filter,
    Registry.describe, h.nodes, h.cursor, h.inFlight, Balancer.describe]

/-! ## Whether a refresh is due -/

theorem nextEligible_le_iff (h : a.Mirrors now b) :
    a.registry.nextEligible.nanos ≤ now.nanos ↔
      b.attempts.getLast?.all (fun ended =>
        decide (ended.nanos + b.config.updateInterval.nanos ≤ now.nanos)) = true := by
  cases hlast : b.attempts.getLast? with
  | none =>
    rw [h.unattempted (List.getLast?_eq_none_iff.mp hlast)]
    exact iff_of_true h.made rfl
  | some ended =>
    rw [Instant.nanos_of_add? (h.attempted ended hlast), Option.all_some, decide_eq_true_iff]

/-- The check by the capped time lets everything through that is due. -/
theorem isDue (h : a.Mirrors now b) : a.isDue now = b.isDue now := by
  rw [Bool.eq_iff_iff, isDue_iff h.capped, Balancer.isDue, Bool.and_eq_true,
    ← h.nextEligible_le_iff, ← h.interval, Bool.not_eq_true']
  constructor
  · rintro ⟨hzero, -, hle⟩
    exact ⟨hzero, hle⟩
  · rintro ⟨hzero, hle⟩
    exact ⟨hzero, h.inFlight, hle⟩

/-! ## What is done to both -/

theorem advance (h : a.Mirrors now b) : a.advance.Mirrors now b.advance where
  role := h.role
  filter := h.filter
  nodes := (Registry.nodes_advance h.nodes_ne_nil).trans h.nodes
  cursor := congrArg (· + 1) h.cursor
  inFlight := h.inFlight
  made := h.made
  capped := h.capped
  unattempted := h.unattempted
  attempted := h.attempted

theorem install (h : a.Mirrors now b) (nodes : List Endpoint) :
    (a.install nodes).Mirrors now (b.install nodes) := by
  unfold Agent.install Registry.replace Balancer.install
  split
  · exact h
  · exact { h with nodes := rfl }

theorem setStarted (h : a.Mirrors now b) (started : Bool) :
    (a.setStarted started).Mirrors now (b.setStarted started) := by
  simp only [Agent.setStarted, h.role]
  exact { h with role := rfl }

/-- A refresh ends for both, at a time that an interval can follow. -/
theorem attempt (h : a.Mirrors now b) {ended : Instant}
    (hlasts : ended.add? b.config.updateInterval ≠ none) :
    ∃ a', a.markInFlight.finish? ended = some a' ∧ a'.Mirrors now (b.attempt ended) := by
  obtain ⟨eligible, hadd⟩ := Option.ne_none_iff_exists'.mp hlasts
  refine ⟨{ a with registry := a.registry.finish eligible }, ?_, ?_⟩
  · rw [finish?, interval_markInFlight, h.interval, hadd]
    rfl
  · exact {
      role := h.role
      filter := h.filter
      nodes := h.nodes
      cursor := h.cursor
      inFlight := rfl
      made := h.made
      capped := rfl
      unattempted := fun hnil =>
        absurd hnil (List.append_ne_nil_of_right_ne_nil _ (List.cons_ne_nil _ _))
      attempted := fun last hlast => by
        rw [Balancer.attempt, List.getLast?_concat] at hlast
        cases hlast
        exact hadd }

end Mirrors

/-- A mark for a refresh in flight stays while the agent picks and installs. -/
theorem install_advance_markInFlight (a : Agent) (nodes : List Endpoint) :
    (a.markInFlight.advance).install nodes = ((a.advance).install nodes).markInFlight := by
  unfold install Registry.replace
  split <;> rfl

theorem ofConfig_eq_error {config : Config} {error : Error}
    (h : Balancer.ofConfig config = .error error) (now : Instant) :
    Agent.ofConfig config now = .error error := by
  rw [Balancer.ofConfig] at h
  rw [Agent.ofConfig]
  cases hseeds : config.seeds with
  | error e =>
    rw [hseeds] at h
    exact congrArg Except.error (Except.error.inj h)
  | ok seeds =>
    rw [hseeds] at h
    by_cases hnil : seeds = []
    · simp only [dif_pos hnil] at h
      simp only [Registry.ofSeeds, dif_pos hnil]
      exact congrArg Except.error (Except.error.inj h)
    · simp only [dif_neg hnil] at h
      cases h

theorem mirrors_ofConfig {config : Config} (h : Balancer.ofConfig config = .ok b) (now : Instant) :
    ∃ a, Agent.ofConfig config now = .ok a ∧ a.Mirrors now b := by
  rw [Balancer.ofConfig] at h
  rw [Agent.ofConfig]
  cases hseeds : config.seeds with
  | error e =>
    rw [hseeds] at h
    cases h
  | ok seeds =>
    rw [hseeds] at h
    by_cases hnil : seeds = []
    · simp only [dif_pos hnil] at h
      cases h
    · simp only [dif_neg hnil] at h
      obtain rfl := Except.ok.inj h
      simp only [Registry.ofSeeds, dif_neg hnil]
      exact ⟨_, rfl, {
        role := rfl
        filter := rfl
        nodes := rfl
        cursor := rfl
        inFlight := rfl
        made := Int.le_refl _
        capped := by simp [Instant.sinceCapped]
        unattempted := fun _ => rfl
        attempted := fun _ hlast => absurd hlast.symm (Option.some_ne_none _) }⟩

end Agent

end NodeBalancer
