import NodeBalancer.Http.Server
import NodeBalancer.Proofs.Discovery.Locator

/-!
# Discovery is all or nothing

A query sends one request after the other as long as it is redirected, and at most eleven.  Only the
last response counts: if it is a success, came as a whole and is a JSON array, the query lists the
nodes that its entries name, with the scheme and the port of the client; in every other case it lists
none.

* `Transport.next?`: where an exchange leads on.
* `Transport.Chain`: requests of which every one but the first is sent where the one before led.
* `Transport.exists_chain`: fetching sends such a chain and returns what its end brings.
* `DiscoveryClient.discover_all_or_nothing`: a query lists what the end of the chain lists, or nothing.
-/

namespace NodeBalancer

namespace Http

theorem Response.isRedirect_iff {r : Response} :
    r.isRedirect = true ↔ r.status ∈ [301, 302, 303, 307, 308] :=
  List.contains_iff_mem

theorem Response.isSuccess_iff {r : Response} :
    r.isSuccess = true ↔ 200 ≤ r.status ∧ r.status < 300 := by
  rw [isSuccess, Bool.and_eq_true, decide_eq_true_eq, decide_eq_true_eq]

/-- A redirect is no success. -/
theorem Response.isSuccess_eq_false {r : Response} (h : r.isRedirect = true) :
    r.isSuccess = false := by
  have hlarge : ∀ status ∈ [301, 302, 303, 307, 308], ¬ status < 300 := by decide
  rw [Bool.eq_false_iff]
  intro hsuccess
  exact hlarge r.status (isRedirect_iff.mp h) (isSuccess_iff.mp hsuccess).2

/-- The whole body of a success. -/
def Exchange.body? : Exchange → Option ByteArray
  | .response r => if r.isSuccess then r.body else none
  | .failure => none

/-- The exchange brought a success whose whole body is a JSON array of these entries. -/
inductive Exchange.Brings (entries : List Json) : Exchange → Prop
  | intro {r : Response} {body : ByteArray} {text : String}
      (hstatus : 200 ≤ r.status ∧ r.status < 300) (hbody : r.body = some body)
      (htext : String.fromUTF8? body = some text)
      (harray : Json.parse? text.toList = some (.array entries)) : Brings entries (.response r)

end Http

namespace NodeList

theorem ofBody?_eq_some_iff {scheme : Scheme} {port : Nat} {body : ByteArray}
    {nodes : List Endpoint} :
    ofBody? scheme port body = some nodes ↔
      ∃ text entries, String.fromUTF8? body = some text ∧
        Json.parse? text.toList = some (.array entries) ∧
        ofEntries scheme port entries = nodes := by
  rw [ofBody?]
  cases String.fromUTF8? body with
  | none => simp
  | some text =>
    simp only [ofText?, Option.some.injEq, exists_and_left, exists_eq_left']
    split <;> simp_all

/-- The nodes of a success with a whole body that is an array. -/
theorem body?_bind_ofBody?_eq_some_iff {scheme : Scheme} {port : Nat} {exchange : Http.Exchange}
    {nodes : List Endpoint} :
    exchange.body?.bind (ofBody? scheme port) = some nodes ↔
      ∃ entries, exchange.Brings entries ∧ ofEntries scheme port entries = nodes := by
  constructor
  · intro h
    obtain ⟨body, hbody, hnodes⟩ := Option.bind_eq_some_iff.mp h
    obtain ⟨text, entries, htext, harray, rfl⟩ := ofBody?_eq_some_iff.mp hnodes
    cases exchange with
    | failure => cases hbody
    | response r =>
      rw [Http.Exchange.body?, Option.ite_none_right_eq_some] at hbody
      obtain ⟨hsuccess, hbody⟩ := hbody
      exact ⟨entries, .intro (Http.Response.isSuccess_iff.mp hsuccess) hbody htext harray, rfl⟩
  · rintro ⟨entries, ⟨hstatus, hbody, htext, harray⟩, rfl⟩
    rw [Http.Exchange.body?, if_pos (Http.Response.isSuccess_iff.mpr hstatus), hbody]
    exact ofBody?_eq_some_iff.mpr ⟨_, entries, htext, harray, rfl⟩

end NodeList

namespace Transport

variable {Network Target : Type} (transport : Transport Network Target)

/-- Where an exchange leads on from the target that was asked: to the location of a redirect. -/
def next? (target : Target) : Http.Exchange → Option Target
  | .response r =>
    if r.status ∈ [301, 302, 303, 307, 308] then r.location.bind (transport.resolve? target)
    else none
  | .failure => none

/-- Requests sent one after the other, with what each brought; every one but the last leads to the
target of the one after it. -/
inductive Chain : Network → Target → List (Target × Http.Exchange) → Network → Prop
  | last {network network' : Network} {target : Target} {exchange : Http.Exchange}
      (hsend : transport.send network target = (exchange, network')) :
      Chain network target [(target, exchange)] network'
  | redirect {network between network' : Network} {target target' : Target}
      {exchange : Http.Exchange} {sent : List (Target × Http.Exchange)}
      (hsend : transport.send network target = (exchange, between))
      (hnext : transport.next? target exchange = some target')
      (hrest : Chain between target' sent network') :
      Chain network target ((target, exchange) :: sent) network'

section Fetch

variable {transport} {network between : Network} {target : Target} {exchange : Http.Exchange}
  (hsend : transport.send network target = (exchange, between))

include hsend

theorem fetch_of_next? {target' : Target} (hnext : transport.next? target exchange = some target')
    (redirects : Nat) :
    transport.fetch (redirects + 1) network target =
      transport.fetch redirects between target' := by
  cases exchange with
  | failure => cases hnext
  | response r =>
    rw [next?, Option.ite_none_right_eq_some] at hnext
    obtain ⟨hstatus, hlocation⟩ := hnext
    have hredirect : r.isRedirect = true := Http.Response.isRedirect_iff.mpr hstatus
    rw [fetch, hsend]
    simp only [Http.Response.isSuccess_eq_false hredirect, hredirect, hlocation, if_true,
      Bool.false_eq_true, if_false]

/-- An exchange that leads nowhere, or too far, is the last. -/
theorem fetch_of_end {redirects : Nat}
    (hend : redirects = 0 ∨ transport.next? target exchange = none) :
    transport.fetch redirects network target = (exchange.body?, between) := by
  rw [fetch.eq_def]
  simp only [hsend]
  cases exchange with
  | failure => rfl
  | response r =>
    simp only [Http.Exchange.body?]
    cases hsuccess : r.isSuccess with
    | true => rfl
    | false =>
      cases hredirect : r.isRedirect with
      | false => rfl
      | true =>
        rw [next?, if_pos (Http.Response.isRedirect_iff.mp hredirect)] at hend
        rcases hend with rfl | hend
        · rfl
        · rw [hend]
          cases redirects <;> rfl

end Fetch

theorem Chain.ne_nil {network network' : Network} {target : Target}
    {sent : List (Target × Http.Exchange)} (h : transport.Chain network target sent network') :
    sent ≠ [] := by
  cases h <;> exact List.cons_ne_nil _ _

/-- Fetching sends a chain of requests, which is no longer than it may be, goes on as long as it
may, and returns what its end brings. -/
theorem exists_chain (redirects : Nat) (network : Network) (target : Target) :
    ∃ sent last exchange,
      transport.Chain network target sent (transport.fetch redirects network target).2 ∧
      sent.getLast? = some (last, exchange) ∧ sent.length ≤ redirects + 1 ∧
      (transport.next? last exchange = none ∨ sent.length = redirects + 1) ∧
      (transport.fetch redirects network target).1 = exchange.body? := by
  induction redirects generalizing network target with
  | zero =>
    rcases hsend : transport.send network target with ⟨exchange, between⟩
    rw [fetch_of_end hsend (.inl rfl)]
    exact ⟨_, target, exchange, .last hsend, rfl, Nat.le_refl 1, .inr rfl, rfl⟩
  | succ redirects ih =>
    rcases hsend : transport.send network target with ⟨exchange, between⟩
    cases hnext : transport.next? target exchange with
    | none =>
      rw [fetch_of_end hsend (.inr hnext)]
      exact ⟨_, target, exchange, .last hsend, rfl, by simp, .inl hnext, rfl⟩
    | some target' =>
      obtain ⟨sent, last, ending, hchain, hlast, hlength, hend, hbody⟩ := ih between target'
      rw [fetch_of_next? hsend hnext]
      refine ⟨_, last, ending, .redirect hsend hnext hchain, ?_, Nat.succ_le_succ hlength, ?_,
        hbody⟩
      · obtain ⟨first, sent, rfl⟩ := List.exists_cons_of_ne_nil hchain.ne_nil
        rw [List.getLast?_cons_cons, hlast]
      · exact hend.imp id (congrArg Nat.succ)

end Transport

namespace DiscoveryClient

variable {Network Target : Type} (files : Files) (transport : Transport Network Target)
  (c : DiscoveryClient) (network : Network) (base : Endpoint) (f : Filter)

/-- A query reaches the network only with a pool for the base node. -/
theorem query_eq :
    c.query files transport network base f =
      match c.pools.poolFor files base with
      | (.error _, pools) => (none, { c with pools := pools }, network)
      | (.ok _, pools) =>
        let (body, network) :=
          transport.fetch maxRedirects network (transport.ofLocator (.ofQuery base f))
        (body.bind (NodeList.ofBody? c.scheme c.port.toNat), { c with pools := pools }, network) := by
  rcases hpool : c.pools.poolFor files base with ⟨error | pool, pools⟩ <;>
    simp only [query, Locator.localNodes?_eq, hpool]

theorem pools_discover :
    (c.discover files transport network base f).2.1 =
      { c with pools := (c.pools.poolFor files base).2 } := by
  rw [discover, query_eq]
  obtain ⟨pool, pools⟩ := c.pools.poolFor files base
  cases pool <;> rfl

theorem discover_of_error {error : Error} {pools : ConnectionPools}
    (h : c.pools.poolFor files base = (.error error, pools)) :
    c.discover files transport network base f = ([], { c with pools := pools }, network) := by
  rw [discover, query_eq, h]
  rfl

/-- A query sends at most eleven requests, each where the one before was redirected to.  It lists
what the last of them brings if that is a success with a whole body that is an array, and nothing in
every other case. -/
theorem discover_all_or_nothing :
    ∃ sent : List (Target × Http.Exchange), sent.length ≤ 11 ∧
      (match (c.pools.poolFor files base).1 with
        | .error _ => sent = [] ∧ (c.discover files transport network base f).2.2 = network
        | .ok _ =>
          transport.Chain network (transport.ofLocator (.ofQuery base f)) sent
              (c.discover files transport network base f).2.2 ∧
            (sent.length = 11 ∨ ∃ last ending, sent.getLast? = some (last, ending) ∧
              transport.next? last ending = none)) ∧
      ((∃ last ending entries, sent.getLast? = some (last, ending) ∧ ending.Brings entries ∧
          (c.discover files transport network base f).1 =
            NodeList.ofEntries c.scheme c.port.toNat entries) ∨
        (¬ ∃ last ending entries, sent.getLast? = some (last, ending) ∧ ending.Brings entries) ∧
          (c.discover files transport network base f).1 = []) := by
  rw [discover, query_eq]
  rcases c.pools.poolFor files base with ⟨error | pool, pools⟩
  case error => exact ⟨[], by simp, ⟨rfl, rfl⟩, .inr ⟨by simp, rfl⟩⟩
  case ok =>
    obtain ⟨sent, last, ending, hchain, hlast, hlength, hend, hbody⟩ :=
      transport.exists_chain maxRedirects network (transport.ofLocator (.ofQuery base f))
    refine ⟨sent, hlength, ⟨hchain, ?_⟩, ?_⟩
    · exact hend.symm.imp id fun hnext => ⟨last, ending, hlast, hnext⟩
    · simp only [hbody]
      cases hnodes : ending.body?.bind (NodeList.ofBody? c.scheme c.port.toNat) with
      | some nodes =>
        obtain ⟨entries, hbrings, rfl⟩ := NodeList.body?_bind_ofBody?_eq_some_iff.mp hnodes
        exact .inl ⟨last, ending, entries, hlast, hbrings, rfl⟩
      | none =>
        refine .inr ⟨?_, rfl⟩
        rintro ⟨last', ending', entries, hlast', hbrings⟩
        rw [hlast] at hlast'
        cases hlast'
        have hsome := NodeList.body?_bind_ofBody?_eq_some_iff.mpr
          ⟨entries, hbrings, (rfl : NodeList.ofEntries c.scheme c.port.toNat entries = _)⟩
        rw [hnodes] at hsome
        cases hsome

example :
    (discover (fun _ => .error .notFound) Http.Server.request ⟨⟨none, []⟩, .http, 9042⟩
      ⟨true, [.response ⟨302, some "/nodes", none⟩,
        .response ⟨200, none, some "[7, \"10.0.0.2\"]".toUTF8⟩], []⟩
      ⟨.http, .v4 ⟨10, 0, 0, 1⟩, 8000⟩ .none).1 = [⟨.http, .v4 ⟨10, 0, 0, 2⟩, 9042⟩] := by
  decide +kernel

end DiscoveryClient

end NodeBalancer
