import Mathlib.Logic.Relation
import NodeBalancer.Proofs.Discovery.Redirects
import NodeBalancer.Proofs.Probe.Verdict

/-!
# What a probe makes of failing queries

A query that fails lists no nodes, so a probe cannot tell a node that is out of reach from one that
knows of nobody.  Where it is the whole list that fails to come, a probe says so.  Where it is the
restricted one, the probe takes the empty list for a shorter answer, and says that filters are
honored.

Here the nodes of a cluster ignore filters: whoever is asked, and for whatever, lists the same nodes
or fails (`Transport.Uniform`).

* `Transport.Uniform.query`: a query to such a cluster brings that list or nothing, and leaves a
  cluster of that kind behind.
* `Session.checkFilterHonored_of_uniform`: a probe finds filters honored exactly if the restricted
  query alone fails.
* `Session.not_never_honored`: it does find them honored.
-/

namespace NodeBalancer

namespace Transport

variable {Network Target : Type} {transport : Transport Network Target}
  {network network' : Network} {target : Target} {sent : List (Target × Http.Exchange)}

/-- What any number of requests can make of a network. -/
def Reaches (transport : Transport Network Target) : Network → Network → Prop :=
  Relation.ReflTransGen fun network between =>
    ∃ target, (transport.send network target).2 = between

/-- The nodes that an exchange lists; an exchange that fails lists none, not even an empty list. -/
def listed? (scheme : Scheme) (port : Nat) (exchange : Http.Exchange) : Option (List Endpoint) :=
  exchange.body?.bind (NodeList.ofBody? scheme port)

/-- Whatever was sent before, and whatever is asked, a request brings these nodes or fails. -/
def Uniform (transport : Transport Network Target) (scheme : Scheme) (port : Nat)
    (nodes : List Endpoint) (network : Network) : Prop :=
  ∀ between, transport.Reaches network between → ∀ target found,
    listed? scheme port (transport.send between target).1 = some found → found = nodes

theorem reaches_send {exchange : Http.Exchange}
    (h : transport.send network target = (exchange, network')) :
    transport.Reaches network network' :=
  .single ⟨target, congrArg Prod.snd h⟩

namespace Chain

theorem reaches (h : transport.Chain network target sent network') :
    transport.Reaches network network' := by
  induction h with
  | last hsend => exact reaches_send hsend
  | redirect hsend _ _ ih => exact (reaches_send hsend).trans ih

/-- Every request of a chain is sent from where the requests before it have led. -/
theorem exists_send (h : transport.Chain network target sent network') {last : Target}
    {exchange : Http.Exchange} (hmem : (last, exchange) ∈ sent) :
    ∃ between, transport.Reaches network between ∧
      (transport.send between last).1 = exchange := by
  induction h with
  | @last network _ _ _ hsend =>
    cases List.mem_singleton.mp hmem
    exact ⟨network, .refl, congrArg Prod.fst hsend⟩
  | @redirect network _ _ _ _ _ _ hsend _ _ ih =>
    rcases List.mem_cons.mp hmem with hfirst | hrest
    · cases hfirst
      exact ⟨network, .refl, congrArg Prod.fst hsend⟩
    · obtain ⟨between, hreaches, hsent⟩ := ih hrest
      exact ⟨between, (reaches_send hsend).trans hreaches, hsent⟩

end Chain

namespace Uniform

variable {scheme : Scheme} {port : Nat} {nodes : List Endpoint}

theorem of_reaches (h : transport.Uniform scheme port nodes network)
    (hreaches : transport.Reaches network network') :
    transport.Uniform scheme port nodes network' :=
  fun between hlater => h between (hreaches.trans hlater)

theorem fetch (h : transport.Uniform scheme port nodes network) (redirects : Nat)
    (target : Target) :
    transport.Uniform scheme port nodes (transport.fetch redirects network target).2 ∧
      ∀ found, (transport.fetch redirects network target).1.bind
        (NodeList.ofBody? scheme port) = some found → found = nodes := by
  obtain ⟨sent, last, exchange, hchain, hlast, -, -, hbody⟩ :=
    transport.exists_chain redirects network target
  refine ⟨h.of_reaches hchain.reaches, fun found hfound => ?_⟩
  obtain ⟨between, hreaches, rfl⟩ := hchain.exists_send (List.mem_of_getLast? hlast)
  rw [hbody] at hfound
  exact h between hreaches last found hfound

/-- A query to a cluster that ignores filters brings its list or fails, and the next one will. -/
theorem query {c : DiscoveryClient} (h : transport.Uniform c.scheme c.port.toNat nodes network)
    (files : Files) (base : Endpoint) (f : Filter) :
    transport.Uniform (c.query files transport network base f).2.1.scheme
        (c.query files transport network base f).2.1.port.toNat nodes
        (c.query files transport network base f).2.2 ∧
      ∀ found, (c.query files transport network base f).1 = some found → found = nodes := by
  rw [DiscoveryClient.query_eq]
  rcases c.pools.poolFor files base with ⟨error | pool, pools⟩
  case error => exact ⟨h, fun found hfound => by cases hfound⟩
  case ok => exact h.fetch maxRedirects (transport.ofLocator (.ofQuery base f))

end Uniform

end Transport

/-- Questions are put by a client, over a network. -/
def DiscoveryClient.ask {Network Target : Type} (files : Files)
    (transport : Transport Network Target) : Discovery (DiscoveryClient × Network) :=
  fun world base filter =>
    let (nodes, world) := world.1.discover files transport world.2 base filter
    (.nodes nodes, world)

namespace Http.Server

variable {server : Server}

theorem exchange_of_send (server : Server) (l : Locator) :
    ((server.send l).1 = .failure ∨ (server.send l).1 = internalError ∨
      (server.send l).1 ∈ server.exchanges) ∧
    (server.send l).2.exchanges ⊆ server.exchanges := by
  rw [send]
  split
  · cases server.exchanges with
    | nil => exact ⟨.inr (.inl rfl), List.Subset.refl _⟩
    | cons exchange exchanges =>
      exact ⟨.inr (.inr List.mem_cons_self), List.subset_cons_self _ _⟩
  · exact ⟨.inl rfl, List.Subset.refl _⟩

/-- A server all of whose exchanges bring the same nodes or fail ignores filters. -/
theorem uniform_of_exchanges {scheme : Scheme} {port : Nat} {nodes : List Endpoint}
    (h : ∀ exchange ∈ server.exchanges, ∀ found,
      Transport.listed? scheme port exchange = some found → found = nodes) :
    request.Uniform scheme port nodes server := by
  intro between hreaches l found hfound
  have hleft : between.exchanges ⊆ server.exchanges := by
    clear hfound
    induction hreaches with
    | refl => exact List.Subset.refl _
    | tail _ hsend ih =>
      obtain ⟨l, rfl⟩ := hsend
      exact List.Subset.trans (exchange_of_send _ l).2 ih
  change Transport.listed? scheme port (between.send l).1 = some found at hfound
  rcases (exchange_of_send between l).1 with hfailure | herror | hmem
  · rw [hfailure] at hfound
    cases hfound
  · rw [herror] at hfound
    cases hfound
  · exact h _ (hleft hmem) found hfound

end Http.Server

namespace Session

/-- **A failing query is taken for evidence.**  Of a cluster that ignores filters a probe finds
nothing out if the whole list does not come.  If it does come, the probe says that filters are
ignored if the restricted list comes too, and that they are honored if that one does not. -/
theorem checkFilterHonored_of_uniform {Network Target : Type} (files : Files)
    (transport : Transport Network Target) (s : Session (DiscoveryClient × Network)) (i : Nat)
    (a : Agent) (kind : FilterKind) (nodes : List Endpoint) (hcalls : s.system.calls = [])
    (h : s.system.agent? i = some a)
    (huniform : transport.Uniform s.world.1.scheme s.world.1.port.toNat nodes s.world.2)
    (hnodes : nodes ≠ []) :
    let restricted :=
      s.world.1.query files transport s.world.2 a.registry.current kind.unmatchable
    let whole := restricted.2.1.query files transport restricted.2.2 a.registry.current .none
    ∃ outcome s',
      s.checkFilterHonored (DiscoveryClient.ask files transport) i kind = (some outcome, s') ∧
      (outcome = .nothingListed a.registry.current ↔ whole.1 = none) ∧
      (outcome = .honored true ↔ restricted.1 = none ∧ whole.1 ≠ none) ∧
      (outcome = .honored false ↔ restricted.1 ≠ none ∧ whole.1 ≠ none) := by
  intro restricted whole
  obtain ⟨hbetween, hrestricted⟩ :=
    huniform.query files a.registry.current kind.unmatchable
  obtain ⟨-, hwhole⟩ := hbetween.query files a.registry.current .none
  have hfirst : DiscoveryClient.ask files transport s.world a.registry.current kind.unmatchable =
      (.nodes (restricted.1.getD []), restricted.2) := rfl
  have hsecond : DiscoveryClient.ask files transport restricted.2 a.registry.current .none =
      (.nodes (whole.1.getD []), whole.2) := rfl
  refine ⟨_, _, checkFilterHonored_eq h hcalls hfirst hsecond, ?_⟩
  change ∀ found, restricted.1 = some found → found = nodes at hrestricted
  change ∀ found, whole.1 = some found → found = nodes at hwhole
  generalize restricted.1 = first at hrestricted
  generalize whole.1 = second at hwhole
  cases second with
  | none =>
    rw [Option.getD_none, System.verdict_eq_nothingListed_iff.mpr rfl]
    simp [Outcome.nothingListed]
  | some list =>
    -- A list that does come is the one that always comes.
    obtain rfl : list = nodes := hwhole list rfl
    rw [Option.getD_some, System.verdict_of_ne_nil hnodes]
    cases first with
    | none =>
      have hshorter : 0 ≠ list.length := Nat.ne_of_lt (List.length_pos_iff.mpr hnodes)
      simp [Outcome.nothingListed, hshorter]
    | some list' =>
      obtain rfl : list' = list := hrestricted list' rfl
      simp [Outcome.nothingListed]

/-- A probe of a node that gives away these exchanges, whatever it is asked. -/
def probeOver (exchanges : List Http.Exchange) : Session (DiscoveryClient × Http.Server) :=
  { Session.ofWorld (⟨⟨none, []⟩, .http, 8080⟩, ⟨true, exchanges, []⟩) with
    system := System.empty.run loneProbe }

/-- An exchange in which the node lists itself. -/
def ownList : Http.Exchange :=
  .response ⟨200, none, some "[\"10.0.0.1\"]".toUTF8⟩

theorem eq_of_listed?_ownList {found : List Endpoint}
    (h : Transport.listed? .http (8080 : UInt16).toNat ownList = some found) :
    found = [⟨.http, .v4 ⟨10, 0, 0, 1⟩, 8080⟩] := by
  have hlisted : Transport.listed? .http (8080 : UInt16).toNat ownList =
      some [⟨.http, .v4 ⟨10, 0, 0, 1⟩, 8080⟩] := by decide +kernel
  exact Option.some.inj (h.symm.trans hlisted)

theorem checkFilterHonored_of_uniform_ownList :
    ∃ s', (probeOver [ownList, ownList]).checkFilterHonored
      (DiscoveryClient.ask (fun _ => .error .notFound) Http.Server.request) 0 .rack =
        (some (.honored false), s') := by
  have ha := (Option.some_get (x := (System.empty.run loneProbe).agent? 0) (by decide)).symm
  have huniform : Http.Server.request.Uniform .http (8080 : UInt16).toNat
      [⟨.http, .v4 ⟨10, 0, 0, 1⟩, 8080⟩] ⟨true, [ownList, ownList], []⟩ := by
    refine Http.Server.uniform_of_exchanges fun exchange hmem found hfound => ?_
    obtain rfl : exchange = ownList := by simpa using hmem
    exact eq_of_listed?_ownList hfound
  obtain ⟨outcome, s', hrun, -, -, hignored⟩ := checkFilterHonored_of_uniform
    (fun _ => .error .notFound) Http.Server.request (probeOver [ownList, ownList]) 0 _ .rack
    [⟨.http, .v4 ⟨10, 0, 0, 1⟩, 8080⟩] rfl ha huniform (by decide)
  have houtcome : outcome = .honored false := hignored.mpr (by decide +kernel)
  exact ⟨s', houtcome ▸ hrun⟩

/-- **A probe can find filters honored that are ignored**: it is enough that the first of its two
queries fails. -/
theorem not_never_honored :
    ¬ ∀ (Network Target : Type) (files : Files) (transport : Transport Network Target)
        (events : List Event) (s : Session (DiscoveryClient × Network)) (i : Nat) (a : Agent)
        (nodes : List Endpoint),
      s.system = System.empty.run events → s.system.calls = [] → s.system.agent? i = some a →
      a.role = .probe →
      transport.Uniform s.world.1.scheme s.world.1.port.toNat nodes s.world.2 → nodes ≠ [] →
      ∀ kind, (s.checkFilterHonored (DiscoveryClient.ask files transport) i kind).1 ≠
        some (.honored true) := by
  intro hneverHonored
  have ha := (Option.some_get (x := (System.empty.run loneProbe).agent? 0) (by decide)).symm
  have huniform : Http.Server.request.Uniform .http (8080 : UInt16).toNat
      [⟨.http, .v4 ⟨10, 0, 0, 1⟩, 8080⟩] ⟨true, [Http.Server.internalError, ownList], []⟩ := by
    refine Http.Server.uniform_of_exchanges fun exchange hmem found hfound => ?_
    rcases List.mem_cons.mp hmem with rfl | hmem
    · cases hfound
    · obtain rfl := List.mem_singleton.mp hmem
      exact eq_of_listed?_ownList hfound
  exact hneverHonored Http.Server Locator (fun _ => .error .notFound) Http.Server.request loneProbe
    (probeOver [Http.Server.internalError, ownList]) 0 _ [⟨.http, .v4 ⟨10, 0, 0, 1⟩, 8080⟩] rfl rfl
    ha rfl huniform (by decide) .rack (by decide +kernel)

end Session

end NodeBalancer
