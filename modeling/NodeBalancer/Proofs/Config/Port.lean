import NodeBalancer.Proofs.Config.Environment
import NodeBalancer.Proofs.Config.Seeds

/-!
# The port of the environment

A port goes through two words: its text is read as a 32-bit number, and the number must fit 16 bits.
So a number that does not fit the first is reported as if it were none, and one that fits both is
taken, also if it is zero; that is left to the balancer, which refuses it.

* `config_eq_error_iff_of_passed`: what may fail once the nodes and the scheme have passed.
* `port_reports`: what becomes of every text that the port is set to.
* `not_out_of_range_reported`: not every number out of range is reported as one.
-/

namespace NodeBalancer.Environment

variable {env : Environment} {error : Error} {text : String}

/-- The scheme is one, or it is not set. -/
def SchemePasses (env : Environment) : Prop :=
  ∀ text, env schemeVariable = some text → ∃ scheme : Scheme, scheme.Spells text

theorem SchemePasses.not_fails (h : env.SchemePasses) : ¬ env.Fails .scheme error := by
  rintro (_ | ⟨hset, hnone⟩)
  obtain ⟨scheme, hspells⟩ := h _ hset
  exact hnone scheme hspells

/-- The port fails, or it passes and the update interval fails. -/
theorem config_eq_error_iff_of_passed (hnodes : ¬ Lists [] ((env nodesVariable).getD ""))
    (hscheme : env.SchemePasses) : env.config = .error error ↔
      env.Fails .port error ∨
        (∀ other, ¬ env.Fails .port other) ∧ env.Fails .updateInterval error := by
  have hpassed : env.failure? .nodes = none ∧ env.failure? .scheme = none := by
    refine ⟨failure?_eq_none_iff.mpr ?_, failure?_eq_none_iff.mpr fun _ => hscheme.not_fails⟩
    rintro _ ⟨hnone⟩
    exact hnodes hnone
  have hchecks : checks.findSome? env.failure? =
      (env.failure? .port).or (env.failure? .updateInterval) := by
    simp only [checks, List.findSome?_cons, hpassed, List.findSome?_nil]
    cases env.failure? .port <;> cases env.failure? .updateInterval <;> rfl
  rw [config_eq_error_iff, hchecks, Option.or_eq_some_iff, failure?_eq_some_iff,
    failure?_eq_none_iff, failure?_eq_some_iff]

theorem fails_port_iff (hset : env portVariable = some text) : env.Fails .port error ↔
    (∀ n, Shows text n → UInt32.size ≤ n) ∧ error = notNumber portVariable text ∨
      ∃ n, Shows text n ∧ UInt16.size ≤ n ∧ n < UInt32.size ∧ error = .invalidPort n := by
  have hport : env.portOf = readPort text := by
    rw [portOf, hset]
    rfl
  rw [← portOf_eq_error_iff, hport, readPort_eq_error_iff]

theorem exists_of_fails_updateInterval (h : env.Fails .updateInterval error) :
    ∃ text, error = notNumber updateIntervalVariable text := by
  cases h
  exact ⟨_, rfl⟩

/-- The reports of the two numbers differ where their variables do. -/
theorem notNumber_port_ne (text other : String) :
    notNumber portVariable text ≠ notNumber updateIntervalVariable other := by
  intro h
  have hmessage := congrArg (·.toList[11]?) (Error.invalidConfig.inj h)
  simp [portVariable, updateIntervalVariable, String.toList_append] at hmessage

/-- **Every port that the environment sets.**  It is reported as out of range if it fits 32 bits but
not 16, and as no number if it does not fit 32 bits or is none.  Else it is taken; a port that is
zero is refused when a balancer is made of the configuration. -/
theorem port_reports (hnodes : ¬ Lists [] ((env nodesVariable).getD ""))
    (hscheme : env.SchemePasses) (hset : env portVariable = some text) :
    (∀ n, env.config = .error (.invalidPort n) ↔
        Shows text n ∧ UInt16.size ≤ n ∧ n < UInt32.size) ∧
      (env.config = .error (notNumber portVariable text) ↔ ∀ n, Shows text n → UInt32.size ≤ n) ∧
      (∀ c, env.config = .ok c → Shows text c.port.toNat) ∧
      (∀ n, Shows text n → n < UInt16.size → ∀ error, env.config = .error error →
        env.Fails .updateInterval error) ∧
      ∀ c, Shows text 0 → env.config = .ok c → c.port = 0 ∧ ∀ now, ∃ error,
        Agent.ofConfig c now = .error error ∧ (error = .invalidPort 0 ∨
          ∃ host, c.nodes.head? = some host ∧ error = .invalidAddress host) := by
  have hconfig : ∀ {error}, env.config = .error error ↔ _ :=
    config_eq_error_iff_of_passed hnodes hscheme
  have hdescribed : ∀ {c}, env.config = .ok c → Shows text c.port.toNat := by
    intro c hc
    have hport := (config_eq_ok_iff.mp hc).port
    rw [hset] at hport
    obtain _ | ⟨hport⟩ := hport
    exact hport
  refine ⟨fun n => ?_, ?_, fun c => hdescribed, fun n hn hfits error herror => ?_,
    fun c hzero hc => ?_⟩
  · rw [hconfig, fails_port_iff hset]
    constructor
    · rintro ((⟨-, h⟩ | ⟨k, hk, hlarge, hfits, h⟩) | ⟨-, h⟩)
      · cases h
      · cases h
        exact ⟨hk, hlarge, hfits⟩
      · cases h
    · exact fun ⟨hn, hlarge, hfits⟩ => .inl (.inr ⟨n, hn, hlarge, hfits, rfl⟩)
  · rw [hconfig, fails_port_iff hset]
    constructor
    · rintro ((⟨hnone, -⟩ | ⟨k, -, -, -, h⟩) | ⟨-, h⟩)
      · exact hnone
      · cases h
      · obtain ⟨other, hother⟩ := exists_of_fails_updateInterval h
        exact absurd hother (notNumber_port_ne text other)
    · exact fun hnone => .inl (.inl ⟨hnone, rfl⟩)
  · rcases hconfig.mp herror with hport | ⟨-, hinterval⟩
    · rcases (fails_port_iff hset).mp hport with ⟨hnone, -⟩ | ⟨k, hk, hlarge, -, -⟩
      · exact absurd (hnone n hn) (Nat.not_le_of_lt (Nat.lt_trans hfits (by decide)))
      · exact absurd (hn.unique hk ▸ hlarge) (Nat.not_le_of_lt hfits)
    · exact hinterval
  · have hport : c.port = 0 := UInt16.toNat_inj.mp ((hdescribed hc).unique hzero)
    exact ⟨hport, Agent.exists_error_of_port_zero (config_eq_ok_iff.mp hc).nodes_ne_nil hport⟩

/-- One node, and a port. -/
def withPort (port : String) : Environment := fun variableName =>
  if variableName = nodesVariable then some "10.0.0.1"
  else if variableName = portVariable then some port
  else none

theorem withPort_lists (port : String) :
    ¬ Lists [] (((withPort port) nodesVariable).getD "") := by
  have htext : (withPort port nodesVariable).getD "" = "10.0.0.1" := rfl
  rw [htext, ← nodeNames_eq_iff]
  decide

theorem withPort_schemePasses (port : String) : (withPort port).SchemePasses := by
  rintro text ⟨⟩

/-- A number is reported as out of range as long as it fits 32 bits, and beyond as none. -/
theorem port_reports_bounds :
    (withPort "4294967295").config = .error (.invalidPort 4294967295) ∧
      (withPort "4294967296").config = .error (notNumber portVariable "4294967296") := by
  constructor
  · obtain ⟨hrange, -⟩ := port_reports (withPort_lists _) (withPort_schemePasses "4294967295") rfl
    exact (hrange _).mpr ⟨shows_toDigits 4294967295, by decide, by decide⟩
  · obtain ⟨-, hnone, -⟩ := port_reports (withPort_lists _) (withPort_schemePasses "4294967296") rfl
    refine hnone.mpr fun n hn => ?_
    exact Nat.le_of_eq (hn.unique (shows_toDigits 4294967296)).symm

/-- A port that is zero is taken, and one that does not fit 32 bits is reported as no number. -/
theorem not_out_of_range_reported :
    (¬ ∀ (env : Environment) (text : String) (n : Nat),
        ¬ Lists [] ((env nodesVariable).getD "") → env.SchemePasses →
        env portVariable = some text → Shows text n → n = 0 ∨ UInt16.size ≤ n →
        ∃ k, env.config = .error (.invalidPort k)) ∧
      ¬ ∀ (env : Environment) (text : String),
        ¬ Lists [] ((env nodesVariable).getD "") → env.SchemePasses →
        env portVariable = some text → env.config = .error (notNumber portVariable text) →
        ∀ n, ¬ Shows text n := by
  constructor
  · intro h
    have htaken : (withPort "0").config = .ok { Config.ofNodes ["10.0.0.1"] with port := 0 } := by
      decide
    obtain ⟨k, hk⟩ := h (withPort "0") "0" 0 (withPort_lists _) (withPort_schemePasses _) rfl
      (shows_toDigits 0) (.inl rfl)
    rw [htaken] at hk
    cases hk
  · intro h
    have hshows : Shows "4294967296" 4294967296 := shows_toDigits 4294967296
    have hreported : (withPort "4294967296").config =
        .error (notNumber portVariable "4294967296") :=
      (config_eq_error_iff_of_passed (withPort_lists _) (withPort_schemePasses _)).mpr
        (.inl (.portNumber rfl fun n hn => Nat.le_of_eq (hshows.unique hn)))
    exact h _ _ (withPort_lists _) (withPort_schemePasses _) rfl hreported _ hshows

end NodeBalancer.Environment
