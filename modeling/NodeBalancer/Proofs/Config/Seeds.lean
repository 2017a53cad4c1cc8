import Mathlib.Data.List.Forall2
import NodeBalancer.Proofs.Agent.Registry
import NodeBalancer.Proofs.Endpoint.Hosts

/-!
# Which configurations make a balancer

The nodes of a configuration are looked at one after another, each with its host first and the port
behind it, and only then whether there are any.  So a port that is zero is reported with the first
node, unless its host is bad; and where no node is there nothing is said about the port.

* `Config.Refused`: what is reported of a configuration that makes no balancer.
* `Config.Names`: the endpoints of the nodes.
* `Agent.exists_ofConfig_iff`, `Agent.ofConfig_eq_error_iff`: what becomes of every configuration.
-/

namespace NodeBalancer

/-- A text that names an address. -/
def IsHost (host : String) : Prop :=
  ∃ address, Endpoint.HostNames host.toList address

namespace Config

/-- One endpoint for each node, in order, with the address that the node names and the scheme and
port of the configuration. -/
def Names (c : Config) (es : List Endpoint) : Prop :=
  List.Forall₂ (fun host (e : Endpoint) => Endpoint.HostNames host.toList e.address ∧
    e.scheme = c.scheme ∧ e.port = c.port) c.nodes es

/-- What is reported of a configuration that makes no balancer. -/
inductive Refused (c : Config) : Error → Prop
  | noNodes (h : c.nodes = []) : Refused c .emptyNodeSet
  | host {before behind : List String} {host : String} (hnodes : c.nodes = before ++ host :: behind)
      (hbefore : ∀ good ∈ before, IsHost good) (hhost : ¬ IsHost host)
      (hport : before = [] ∨ c.port ≠ 0) : Refused c (.invalidAddress host)
  | port {behind : List String} {host : String} (hnodes : c.nodes = host :: behind)
      (hhost : IsHost host) (hport : c.port = 0) : Refused c (.invalidPort 0)

end Config

namespace EndpointText

theorem endpoints_cons_of_ok {e : EndpointText} {found : Endpoint} (h : e.endpoint = .ok found)
    (es : List EndpointText) : endpoints (e :: es) = (endpoints es).map (found :: ·) := by
  rw [endpoints, h]

theorem endpoints_cons_of_error {e : EndpointText} {error : Error} (h : e.endpoint = .error error)
    (es : List EndpointText) : endpoints (e :: es) = .error error := by
  rw [endpoints, h]

theorem endpoints_eq_ok_iff {es : List EndpointText} {found : List Endpoint} :
    endpoints es = .ok found ↔ List.Forall₂ (fun e found => e.endpoint = .ok found) es found := by
  constructor
  · intro h
    induction es generalizing found with
    | nil =>
      cases h
      exact .nil
    | cons e es ih =>
      cases he : e.endpoint with
      | error error =>
        rw [endpoints_cons_of_error he] at h
        cases h
      | ok first =>
        rw [endpoints_cons_of_ok he] at h
        cases hes : endpoints es with
        | error error =>
          rw [hes] at h
          cases h
        | ok rest =>
          rw [hes] at h
          cases h
          exact .cons he (ih hes)
  · intro h
    induction h with
    | nil => rfl
    | cons he _ ih =>
      rw [endpoints_cons_of_ok he, ih]
      rfl

/-- The error is that of the first endpoint that is bad. -/
theorem endpoints_eq_error_iff {es : List EndpointText} {error : Error} :
    endpoints es = .error error ↔ ∃ before e behind, es = before ++ e :: behind ∧
      (∀ good ∈ before, ∃ found, good.endpoint = .ok found) ∧ e.endpoint = .error error := by
  constructor
  · intro h
    induction es with
    | nil => cases h
    | cons e es ih =>
      cases he : e.endpoint with
      | error other =>
        rw [endpoints_cons_of_error he] at h
        cases h
        exact ⟨[], e, es, rfl, nofun, he⟩
      | ok first =>
        rw [endpoints_cons_of_ok he] at h
        cases hes : endpoints es with
        | error other =>
          rw [hes] at h
          cases h
          obtain ⟨before, bad, behind, rfl, hbefore, hbad⟩ := ih hes
          exact ⟨e :: before, bad, behind, rfl, List.forall_mem_cons.mpr ⟨⟨first, he⟩, hbefore⟩, hbad⟩
        | ok rest =>
          rw [hes] at h
          cases h
  · rintro ⟨before, e, behind, rfl, hbefore, he⟩
    induction before with
    | nil => exact endpoints_cons_of_error he _
    | cons good before ih =>
      obtain ⟨⟨found, hgood⟩, hrest⟩ := List.forall_mem_cons.mp hbefore
      rw [List.cons_append, endpoints_cons_of_ok hgood, ih hrest]
      rfl

end EndpointText

namespace Config

variable {c : Config} {error : Error}

/-- Of the ports that fit their word only zero is none. -/
theorem port_in_range_iff (port : UInt16) : 0 < port.toNat ∧ port.toNat < 65536 ↔ port ≠ 0 := by
  have hlt : port.toNat < 65536 := port.toNat_lt
  rw [and_iff_left hlt, Nat.pos_iff_ne_zero, ne_eq, ne_eq, ← UInt16.toNat_inj]
  rfl

/-- A node of the configuration as it is given. -/
def endpointText (c : Config) (host : String) : EndpointText :=
  ⟨c.scheme, host, c.port.toNat⟩

theorem endpoint_eq_ok_iff {host : String} {e : Endpoint} :
    (c.endpointText host).endpoint = .ok e ↔ c.port ≠ 0 ∧
      Endpoint.HostNames host.toList e.address ∧ e.scheme = c.scheme ∧ e.port = c.port := by
  rw [EndpointText.endpoint, endpointText, Endpoint.ofHost_eq_ok_iff, ← port_in_range_iff, UInt16.toNat_inj]
  exact and_congr_left fun _ => ⟨fun h => ⟨h.1, Nat.lt_succ_of_le h.2⟩,
    fun h => ⟨h.1, Nat.le_of_lt_succ h.2⟩⟩

theorem exists_endpoint_iff {host : String} :
    (∃ e, (c.endpointText host).endpoint = .ok e) ↔ IsHost host ∧ c.port ≠ 0 := by
  simp only [endpoint_eq_ok_iff]
  constructor
  · rintro ⟨e, hport, haddress, -, -⟩
    exact ⟨⟨_, haddress⟩, hport⟩
  · rintro ⟨⟨address, haddress⟩, hport⟩
    exact ⟨⟨c.scheme, address, c.port⟩, hport, haddress, rfl, rfl⟩

theorem endpoint_eq_error_iff {host : String} :
    (c.endpointText host).endpoint = .error error ↔
      ¬ IsHost host ∧ error = .invalidAddress host ∨
        IsHost host ∧ c.port = 0 ∧ error = .invalidPort 0 := by
  rw [EndpointText.endpoint, endpointText]
  by_cases hhost : IsHost host
  · obtain ⟨address, haddress⟩ := id hhost
    rw [Endpoint.ofHost_of_address haddress]
    by_cases hport : c.port = 0
    · simp [hport, hhost, eq_comm]
    · rw [if_pos ((port_in_range_iff _).mpr hport)]
      simp [hport, hhost]
  · rw [Endpoint.ofHost_of_no_address hhost]
    simp [hhost, eq_comm]

theorem seeds_eq_ok_iff {es : List Endpoint} :
    c.seeds = .ok es ↔ (c.nodes = [] ∨ c.port ≠ 0) ∧ c.Names es := by
  have hport : (∀ host ∈ c.nodes, c.port ≠ 0) ↔ c.nodes = [] ∨ c.port ≠ 0 := by
    cases c.nodes with
    | nil => simp
    | cons host behind =>
      simp only [reduceCtorEq, false_or]
      exact ⟨fun h => h host List.mem_cons_self, fun h _ _ => h⟩
  have hseeds : c.seeds = EndpointText.endpoints (c.nodes.map c.endpointText) := rfl
  rw [hseeds, EndpointText.endpoints_eq_ok_iff, List.forall₂_map_left_iff, Names, ← hport,
    ← List.forall₂_and_left]
  simp only [endpoint_eq_ok_iff]

theorem seeds_eq_error_iff : c.seeds = .error error ↔ ∃ before host behind,
    c.nodes = before ++ host :: behind ∧ (∀ good ∈ before, IsHost good ∧ c.port ≠ 0) ∧
      (¬ IsHost host ∧ error = .invalidAddress host ∨
        IsHost host ∧ c.port = 0 ∧ error = .invalidPort 0) := by
  have hseeds : c.seeds = EndpointText.endpoints (c.nodes.map c.endpointText) := rfl
  rw [hseeds, EndpointText.endpoints_eq_error_iff]
  constructor
  · rintro ⟨before, e, behind, hsplit, hbefore, he⟩
    obtain ⟨goods, rest, hnodes, rfl, hrest⟩ := List.map_eq_append_iff.mp hsplit
    obtain ⟨host, others, rfl, rfl, rfl⟩ := List.map_eq_cons_iff.mp hrest
    refine ⟨goods, host, others, hnodes, fun good hgood => ?_, endpoint_eq_error_iff.mp he⟩
    exact exists_endpoint_iff.mp (hbefore _ (List.mem_map_of_mem hgood))
  · rintro ⟨before, host, behind, hnodes, hbefore, he⟩
    refine ⟨before.map c.endpointText, _, behind.map c.endpointText, ?_, ?_,
      endpoint_eq_error_iff.mpr he⟩
    · rw [hnodes, List.map_append, List.map_cons]
    · intro e he
      obtain ⟨good, hgood, rfl⟩ := List.mem_map.mp he
      exact exists_endpoint_iff.mpr (hbefore good hgood)

/-- The endpoints can be named if every node is a host. -/
theorem exists_names_iff : (∃ es, c.Names es) ↔ ∀ host ∈ c.nodes, IsHost host := by
  unfold Names
  induction c.nodes with
  | nil => exact iff_of_true ⟨[], .nil⟩ nofun
  | cons host behind ih =>
    rw [List.forall_mem_cons, ← ih]
    constructor
    · rintro ⟨_, _ | ⟨⟨haddress, -, -⟩, hrest⟩⟩
      exact ⟨⟨_, haddress⟩, _, hrest⟩
    · rintro ⟨⟨address, haddress⟩, rest, hrest⟩
      exact ⟨⟨c.scheme, address, c.port⟩ :: rest, .cons ⟨haddress, rfl, rfl⟩ hrest⟩

theorem Names.ne_nil_iff {es : List Endpoint} (h : c.Names es) : es ≠ [] ↔ c.nodes ≠ [] := by
  have hlength := List.Forall₂.length_eq h
  rw [← List.length_pos_iff, ← List.length_pos_iff, hlength]

/-- Where there are nodes, the error is the one that is reported of the configuration. -/
theorem refused_iff : c.Refused error ↔
    c.nodes = [] ∧ error = .emptyNodeSet ∨ c.seeds = .error error := by
  rw [seeds_eq_error_iff]
  constructor
  · rintro (hnone | ⟨hnodes, hbefore, hhost, hport⟩ | ⟨hnodes, hhost, hport⟩)
    · exact .inl ⟨hnone, rfl⟩
    · refine .inr ⟨_, _, _, hnodes, fun good hgood => ⟨hbefore good hgood, ?_⟩, .inl ⟨hhost, rfl⟩⟩
      exact hport.resolve_left (List.ne_nil_of_mem hgood)
    · exact .inr ⟨[], _, _, hnodes, nofun, .inr ⟨hhost, hport, rfl⟩⟩
  · rintro (⟨hnone, rfl⟩ | ⟨before, host, behind, hnodes, hbefore, hbad | hbad⟩)
    · exact .noNodes hnone
    · obtain ⟨hhost, rfl⟩ := hbad
      refine .host hnodes (fun good hgood => (hbefore good hgood).1) hhost ?_
      cases before with
      | nil => exact .inl rfl
      | cons good before => exact .inr (hbefore good List.mem_cons_self).2
    · obtain ⟨hhost, hport, rfl⟩ := hbad
      cases before with
      | nil => exact .port hnodes hhost hport
      | cons good before => exact absurd hport (hbefore good List.mem_cons_self).2

end Config

namespace Agent

variable {c : Config} {now : Instant} {a : Agent} {error : Error}

theorem ofConfig_of_error (h : c.seeds = .error error) : ofConfig c now = .error error := by
  rw [ofConfig, h]

theorem ofConfig_of_ok {es : List Endpoint} (h : c.seeds = .ok es) : ofConfig c now =
    (Registry.ofSeeds es now).map fun r => ⟨r, c.filter, .balancer c false⟩ := by
  rw [ofConfig, h]

theorem ofConfig_of_nil (h : c.seeds = .ok []) : ofConfig c now = .error .emptyNodeSet :=
  ofConfig_of_ok h

theorem exists_ofConfig_of_ne_nil {es : List Endpoint} (h : c.seeds = .ok es) (hne : es ≠ [])
    (now : Instant) : ∃ a, ofConfig c now = .ok a ∧ a.registry.nodes = es := by
  have hmade : ∃ r, Registry.ofSeeds es now = .ok r ∧ r.nodes = es := by
    rw [Registry.ofSeeds, dif_neg hne]
    exact ⟨_, rfl, rfl⟩
  obtain ⟨r, hr, hnodes⟩ := hmade
  rw [ofConfig_of_ok h, hr]
  exact ⟨_, rfl, hnodes⟩

theorem seeds_of_ofConfig (h : ofConfig c now = .ok a) :
    c.seeds = .ok a.registry.nodes ∧ a.registry.nodes ≠ [] := by
  cases hseeds : c.seeds with
  | error error =>
    rw [ofConfig_of_error hseeds] at h
    cases h
  | ok es =>
    rcases eq_or_ne es [] with rfl | hne
    · rw [ofConfig_of_nil hseeds] at h
      cases h
    · obtain ⟨b, hb, rfl⟩ := exists_ofConfig_of_ne_nil hseeds hne now
      rw [h] at hb
      cases hb
      exact ⟨rfl, hne⟩

/-- **What a configuration makes.**  Its nodes are the endpoints that it names. -/
theorem nodes_of_ofConfig (h : ofConfig c now = .ok a) :
    c.nodes ≠ [] ∧ c.port ≠ 0 ∧ c.Names a.registry.nodes := by
  obtain ⟨hseeds, hne⟩ := seeds_of_ofConfig h
  obtain ⟨hport, hnames⟩ := Config.seeds_eq_ok_iff.mp hseeds
  have hnodes := hnames.ne_nil_iff.mp hne
  exact ⟨hnodes, hport.resolve_left hnodes, hnames⟩

theorem exists_ofConfig_iff : (∃ a, ofConfig c now = .ok a) ↔
    c.nodes ≠ [] ∧ c.port ≠ 0 ∧ ∀ host ∈ c.nodes, IsHost host := by
  constructor
  · rintro ⟨a, ha⟩
    obtain ⟨hnodes, hport, hnames⟩ := nodes_of_ofConfig ha
    exact ⟨hnodes, hport, Config.exists_names_iff.mp ⟨_, hnames⟩⟩
  · rintro ⟨hnodes, hport, hhosts⟩
    obtain ⟨es, hnames⟩ := Config.exists_names_iff.mpr hhosts
    obtain ⟨a, ha, -⟩ := exists_ofConfig_of_ne_nil
      (Config.seeds_eq_ok_iff.mpr ⟨.inr hport, hnames⟩) (hnames.ne_nil_iff.mpr hnodes) now
    exact ⟨a, ha⟩

theorem ofConfig_eq_error_iff : ofConfig c now = .error error ↔ c.Refused error := by
  rw [Config.refused_iff]
  cases hseeds : c.seeds with
  | error other =>
    rw [ofConfig_of_error hseeds]
    constructor
    · rintro ⟨⟩
      exact .inr rfl
    · rintro (⟨hnone, -⟩ | h)
      · have hnil : c.seeds = .ok [] := by rw [Config.seeds, hnone]; rfl
        rw [hseeds] at hnil
        cases hnil
      · cases h
        rfl
  | ok es =>
    obtain ⟨-, hnames⟩ := Config.seeds_eq_ok_iff.mp hseeds
    rcases eq_or_ne es [] with rfl | hne
    · rw [ofConfig_of_nil hseeds]
      have hnone : c.nodes = [] := not_not.mp fun hnodes => hnames.ne_nil_iff.mpr hnodes rfl
      constructor
      · rintro ⟨⟩
        exact .inl ⟨hnone, rfl⟩
      · rintro (⟨-, rfl⟩ | h)
        · rfl
        · cases h
    · obtain ⟨a, ha, -⟩ := exists_ofConfig_of_ne_nil hseeds hne now
      rw [ha]
      refine iff_of_false nofun ?_
      rintro (⟨hnone, -⟩ | h)
      · exact hnames.ne_nil_iff.mp hne hnone
      · cases h

/-- A port that is zero is reported with the first node, unless its host is bad. -/
theorem exists_error_of_port_zero (hnodes : c.nodes ≠ []) (hport : c.port = 0) (now : Instant) :
    ∃ error, ofConfig c now = .error error ∧ (error = .invalidPort 0 ∨
      ∃ host, c.nodes.head? = some host ∧ error = .invalidAddress host) := by
  obtain ⟨host, behind, hsplit⟩ := List.exists_cons_of_ne_nil hnodes
  by_cases hhost : IsHost host
  · exact ⟨_, ofConfig_eq_error_iff.mpr (.port hsplit hhost hport), .inl rfl⟩
  · have hfirst : c.nodes = [] ++ host :: behind := hsplit
    refine ⟨_, ofConfig_eq_error_iff.mpr (.host hfirst nofun hhost (.inl rfl)), .inr ?_⟩
    exact ⟨host, congrArg List.head? hsplit, rfl⟩

end Agent

end NodeBalancer
