import Mathlib.Data.List.InsertIdx
import Mathlib.Data.List.Nodup
import NodeBalancer.Proofs.Discovery.Redirects

/-!
# One pool per endpoint

Pools are asked for directly, or by queries for node lists on the way to a base node.  Over a whole
run of such calls an endpoint has one pool or none: the first call for it that succeeds makes the
pool, every later one finds it again, and a call that fails changes nothing.  Whether a call succeeds
depends on the endpoint and the client identity alone, not on the calls before it, on filters or on
what the network brings.

* `Serves`: the endpoints that there can be a pool for.
* `Holds`: the pools belong to the endpoints that were asked for and can have one; `Holds.poolFor` is
  the step, `holds_stateAt` the run.
* `one_pool_per_endpoint`: calls get the same pool exactly when they are for the same endpoint.
-/

namespace NodeBalancer

/-- A call that asks for a pool. -/
inductive PoolCall where
  | pool (e : Endpoint)
  /-- A query of a client that lists nodes with this scheme and this port. -/
  | discover (scheme : Scheme) (port : UInt16) (base : Endpoint) (f : Filter)

/-- The endpoint that a pool is asked for. -/
def PoolCall.endpoint : PoolCall → Endpoint
  | pool e => e
  | discover _ _ base _ => base

namespace ConnectionPools

/-- There can be a pool for an endpoint: it needs no client identity, there is none, or the one there
is can be loaded. -/
def Serves (files : Files) (identity : Option ClientIdentity) (e : Endpoint) : Prop :=
  e.scheme = .http ∨ identity = none ∨ ∃ i, identity = some i ∧ i.load files = .ok ()

section Calls

variable {Network Target : Type} (files : Files) (transport : Transport Network Target)

def perform (state : ConnectionPools × Network) : PoolCall → ConnectionPools × Network
  | .pool e => ((state.1.poolFor files e).2, state.2)
  | .discover scheme port base f =>
    let (_, outcome) :=
      DiscoveryClient.discover files transport ⟨state.1, scheme, port⟩ state.2 base f
    (outcome.1.pools, outcome.2)

/-- The pools and the network after the first `n` calls. -/
def stateAt (start : ConnectionPools × Network) (calls : List PoolCall) (n : Nat) :
    ConnectionPools × Network :=
  (calls.take n).foldl (perform files transport) start

/-- What the call with number `n` gets when it asks for its pool. -/
def result? (start : ConnectionPools × Network) (calls : List PoolCall) (n : Nat) :
    Option (Except Error ConnectionPool) :=
  calls[n]?.map fun call =>
    ((stateAt files transport start calls n).1.poolFor files call.endpoint).1

end Calls

/-! ## One call -/

section Step

variable {files : Files} {identity : Option ClientIdentity} {asked : List Endpoint}
  {p : ConnectionPools}

theorem check_eq_ok_iff {e : Endpoint} : p.check files e = .ok () ↔ Serves files p.identity e := by
  rw [check, Serves]
  cases e.scheme with
  | http => simp
  | https =>
    cases p.identity with
    | none => simp
    | some identity => simp

/-- The pools are those of the endpoints that were asked for and can have one, numbered in order. -/
structure Holds (files : Files) (identity : Option ClientIdentity) (asked : List Endpoint)
    (p : ConnectionPools) : Prop where
  identity_eq : p.identity = identity
  ids_eq : p.pools.map ConnectionPool.id = List.range p.pools.length
  nodup : (p.pools.map ConnectionPool.endpoint).Nodup
  mem_iff : ∀ e, e ∈ p.pools.map ConnectionPool.endpoint ↔ e ∈ asked ∧ Serves files identity e

theorem holds_ofConfig (config : Config) :
    Holds files config.clientIdentity [] (.ofConfig config) :=
  ⟨rfl, rfl, List.nodup_nil, by simp [ofConfig]⟩

/-- Asking again for an endpoint that has a pool, or for one that can have none. -/
theorem Holds.ask_again (h : Holds files identity asked p) {e : Endpoint}
    (he : Serves files identity e → e ∈ p.pools.map ConnectionPool.endpoint) :
    Holds files identity (asked ++ [e]) p := by
  refine ⟨h.identity_eq, h.ids_eq, h.nodup, fun e' => ?_⟩
  rw [h.mem_iff, List.mem_append, List.mem_singleton]
  constructor
  · exact fun h' => ⟨.inl h'.1, h'.2⟩
  · rintro ⟨hasked | rfl, hserves⟩
    · exact ⟨hasked, hserves⟩
    · exact (h.mem_iff _).mp (he hserves)

/-- A pool for an endpoint that has none yet. -/
theorem Holds.ask_new (h : Holds files identity asked p) {e : Endpoint}
    (he : Serves files identity e) (hnew : e ∉ p.pools.map ConnectionPool.endpoint) :
    Holds files identity (asked ++ [e]) { p with pools := p.pools ++ [⟨p.pools.length, e⟩] } := by
  refine ⟨h.identity_eq, ?_, ?_, fun e' => ?_⟩
  · simp [h.ids_eq, List.range_succ]
  · rw [List.map_append, List.map_singleton, List.nodup_append]
    refine ⟨h.nodup, List.nodup_singleton _, fun e₁ h₁ e₂ h₂ heq => ?_⟩
    rw [heq, List.mem_singleton.mp h₂] at h₁
    exact hnew h₁
  · rw [List.map_append, List.mem_append, h.mem_iff, List.map_singleton, List.mem_singleton,
      List.mem_append, List.mem_singleton, or_and_right]
    exact or_congr_right ⟨fun heq => ⟨heq, heq ▸ he⟩, And.left⟩

theorem find?_eq_some {e : Endpoint} {pool : ConnectionPool} (h : p.find? e = some pool) :
    pool ∈ p.pools ∧ pool.endpoint = e := by
  rw [find?] at h
  have hendpoint := List.find?_some h
  exact ⟨List.mem_of_find?_eq_some h, of_decide_eq_true hendpoint⟩

theorem find?_eq_none_iff {e : Endpoint} :
    p.find? e = none ↔ e ∉ p.pools.map ConnectionPool.endpoint := by
  rw [find?, List.find?_eq_none]
  simp

/-- A call for an endpoint that cannot have a pool fails and changes nothing. -/
theorem Holds.poolFor_of_not_serves (h : Holds files identity asked p) {e : Endpoint}
    (he : ¬ Serves files identity e) : ∃ error, p.poolFor files e = (.error error, p) := by
  have hfind : p.find? e = none := find?_eq_none_iff.mpr fun hmem => he ((h.mem_iff e).mp hmem).2
  cases hcheck : p.check files e with
  | ok _ => exact absurd (h.identity_eq ▸ check_eq_ok_iff.mp hcheck) he
  | error error => exact ⟨error, by simp only [poolFor, hfind, hcheck]⟩

/-- A call for an endpoint that can have a pool gets it, and at most that one pool is new. -/
theorem Holds.poolFor_of_serves (h : Holds files identity asked p) {e : Endpoint}
    (he : Serves files identity e) :
    ∃ pool, (p.poolFor files e).1 = .ok pool ∧ pool.endpoint = e ∧
      pool ∈ (p.poolFor files e).2.pools ∧ p.pools <+: (p.poolFor files e).2.pools ∧
      Holds files identity (asked ++ [e]) (p.poolFor files e).2 := by
  cases hfind : p.find? e with
  | some pool =>
    obtain ⟨hpool, hendpoint⟩ := find?_eq_some hfind
    have hpoolFor : p.poolFor files e = (.ok pool, p) := by simp only [poolFor, hfind]
    rw [hpoolFor]
    exact ⟨pool, rfl, hendpoint, hpool, List.prefix_refl _,
      h.ask_again fun _ => hendpoint ▸ List.mem_map_of_mem hpool⟩
  | none =>
    have hcheck : p.check files e = .ok () := check_eq_ok_iff.mpr (h.identity_eq ▸ he)
    have hpoolFor : p.poolFor files e =
        (.ok ⟨p.pools.length, e⟩, { p with pools := p.pools ++ [⟨p.pools.length, e⟩] }) := by
      simp only [poolFor, hfind, hcheck]
    rw [hpoolFor]
    exact ⟨⟨p.pools.length, e⟩, rfl, rfl, by simp, List.prefix_append _ _,
      h.ask_new he (find?_eq_none_iff.mp hfind)⟩

/-- What one call leaves behind, whether it succeeds or not. -/
theorem Holds.poolFor (h : Holds files identity asked p) (e : Endpoint) :
    p.pools <+: (p.poolFor files e).2.pools ∧
      Holds files identity (asked ++ [e]) (p.poolFor files e).2 := by
  by_cases he : Serves files identity e
  · obtain ⟨_, _, _, _, hgrows, hholds⟩ := h.poolFor_of_serves he
    exact ⟨hgrows, hholds⟩
  · obtain ⟨error, hpoolFor⟩ := h.poolFor_of_not_serves he
    rw [hpoolFor]
    exact ⟨List.prefix_refl _, h.ask_again fun hserves => absurd hserves he⟩

/-- Pools that are there are told apart by their endpoints, and by their numbers. -/
theorem Holds.id_eq_iff (h : Holds files identity asked p) {pool pool' : ConnectionPool}
    (hpool : pool ∈ p.pools) (hpool' : pool' ∈ p.pools) :
    pool.id = pool'.id ↔ pool.endpoint = pool'.endpoint := by
  have hids : (p.pools.map ConnectionPool.id).Nodup := h.ids_eq ▸ List.nodup_range
  constructor
  · intro hid
    rw [List.inj_on_of_nodup_map hids hpool hpool' hid]
  · intro hendpoint
    rw [List.inj_on_of_nodup_map h.nodup hpool hpool' hendpoint]

end Step

/-! ## A run of calls -/

section Run

variable {Network Target : Type} {files : Files} (transport : Transport Network Target)
  {identity : Option ClientIdentity} {start : ConnectionPools × Network} {calls : List PoolCall}

/-- A query leaves the pools behind that asking for the pool of its base node does. -/
theorem perform_fst (state : ConnectionPools × Network) (call : PoolCall) :
    (perform files transport state call).1 = (state.1.poolFor files call.endpoint).2 := by
  cases call with
  | pool e => rfl
  | discover scheme port base f =>
    have hpools := DiscoveryClient.pools_discover files transport ⟨state.1, scheme, port⟩ state.2
      base f
    exact congrArg DiscoveryClient.pools hpools

theorem perform_of_error {state : ConnectionPools × Network} {call : PoolCall} {error : Error}
    (h : state.1.poolFor files call.endpoint = (.error error, state.1)) :
    perform files transport state call = state := by
  cases call with
  | pool e =>
    rw [PoolCall.endpoint] at h
    rw [perform, h]
  | discover scheme port base f =>
    rw [PoolCall.endpoint] at h
    rw [perform, DiscoveryClient.discover_of_error files transport ⟨state.1, scheme, port⟩ state.2
      base f h]

theorem stateAt_add_one (n : Nat) :
    stateAt files transport start calls (n + 1) =
      calls[n]?.toList.foldl (perform files transport)
        (stateAt files transport start calls n) := by
  rw [stateAt, List.take_add_one, List.foldl_append, stateAt]

theorem stateAt_succ {n : Nat} {call : PoolCall} (h : calls[n]? = some call) :
    stateAt files transport start calls (n + 1) =
      perform files transport (stateAt files transport start calls n) call := by
  rw [stateAt_add_one, h]
  rfl

/-- A call that changes nothing might as well not have been made. -/
theorem stateAt_eraseIdx {i n : Nat} (hn : i ≤ n)
    (hi : stateAt files transport start calls (i + 1) = stateAt files transport start calls i) :
    stateAt files transport start (calls.eraseIdx i) n =
      stateAt files transport start calls (n + 1) := by
  induction hn with
  | refl => rw [hi, stateAt, stateAt, List.take_eraseIdx_eq_take_of_le _ _ _ (Nat.le_refl i)]
  | @step n hn ih =>
    rw [stateAt_add_one, ih, List.getElem?_eraseIdx_of_ge hn, stateAt_add_one transport (n + 1)]

theorem result?_eraseIdx {i n : Nat} (hn : i ≤ n)
    (hi : stateAt files transport start calls (i + 1) = stateAt files transport start calls i) :
    result? files transport start (calls.eraseIdx i) n =
      result? files transport start calls (n + 1) := by
  rw [result?, result?, stateAt_eraseIdx transport hn hi, List.getElem?_eraseIdx_of_ge hn]

variable (hstart : Holds files identity [] start.1)

include hstart

/-- After any number of calls there is a pool for each endpoint that was asked for and can have
one. -/
theorem holds_stateAt (n : Nat) :
    Holds files identity ((calls.take n).map PoolCall.endpoint)
      (stateAt files transport start calls n).1 := by
  induction n with
  | zero => exact hstart
  | succ n ih =>
    rw [stateAt_add_one, List.take_add_one, List.map_append]
    cases calls[n]? with
    | none => simpa using ih
    | some call =>
      have hnext := (ih.poolFor call.endpoint).2
      rw [← perform_fst transport] at hnext
      exact hnext

/-- Pools are never taken away. -/
theorem pools_grow {n m : Nat} (h : n ≤ m) :
    (stateAt files transport start calls n).1.pools <+:
      (stateAt files transport start calls m).1.pools := by
  induction h with
  | refl => exact List.prefix_refl _
  | @step m _ ih =>
    refine ih.trans ?_
    rw [stateAt_add_one]
    cases calls[m]? with
    | none => exact List.prefix_refl _
    | some call =>
      have hholds : Holds files identity _ (stateAt files transport start calls m).1 :=
        holds_stateAt transport hstart m
      have hnext := (hholds.poolFor call.endpoint).1
      rw [← perform_fst transport] at hnext
      exact hnext

theorem result?_of_serves {n : Nat} {call : PoolCall} (h : calls[n]? = some call)
    (he : Serves files identity call.endpoint) :
    ∃ pool, result? files transport start calls n = some (.ok pool) ∧
      pool.endpoint = call.endpoint ∧
      pool ∈ (stateAt files transport start calls (n + 1)).1.pools := by
  obtain ⟨pool, hresult, hendpoint, hmem, -⟩ := (holds_stateAt transport hstart n).poolFor_of_serves he
  rw [stateAt_succ transport h, perform_fst]
  exact ⟨pool, by rw [result?, h, Option.map_some, hresult], hendpoint, hmem⟩

theorem result?_of_not_serves {n : Nat} {call : PoolCall} (h : calls[n]? = some call)
    (he : ¬ Serves files identity call.endpoint) :
    ∃ error, result? files transport start calls n = some (.error error) ∧
      stateAt files transport start calls (n + 1) = stateAt files transport start calls n := by
  obtain ⟨error, hpoolFor⟩ := (holds_stateAt transport hstart n).poolFor_of_not_serves he
  exact ⟨error, by rw [result?, h, Option.map_some, hpoolFor],
    (stateAt_succ transport h).trans (perform_of_error transport hpoolFor)⟩

/-- What a call has got is the pool for its endpoint. -/
theorem of_result?_eq_ok {n : Nat} {call : PoolCall} {pool : ConnectionPool}
    (h : calls[n]? = some call) (hresult : result? files transport start calls n = some (.ok pool)) :
    Serves files identity call.endpoint ∧ pool.endpoint = call.endpoint ∧
      pool ∈ (stateAt files transport start calls (n + 1)).1.pools := by
  by_cases he : Serves files identity call.endpoint
  · obtain ⟨pool', hresult', hpool⟩ := result?_of_serves transport hstart h he
    rw [hresult] at hresult'
    cases hresult'
    exact ⟨he, hpool⟩
  · obtain ⟨error, herror, -⟩ := result?_of_not_serves transport hstart h he
    rw [hresult] at herror
    cases herror

/-- Pools that two calls have got, whichever came first. -/
theorem id_eq_iff_of_results {i j : Nat} {call call' : PoolCall} {pool pool' : ConnectionPool}
    (hi : calls[i]? = some call) (hj : calls[j]? = some call')
    (hpool : result? files transport start calls i = some (.ok pool))
    (hpool' : result? files transport start calls j = some (.ok pool')) :
    pool.id = pool'.id ↔ call.endpoint = call'.endpoint := by
  obtain ⟨-, hendpoint, hmem⟩ := of_result?_eq_ok transport hstart hi hpool
  obtain ⟨-, hendpoint', hmem'⟩ := of_result?_eq_ok transport hstart hj hpool'
  have hlast := (pools_grow transport hstart (Nat.le_max_left (i + 1) (j + 1))).subset hmem
  have hlast' := (pools_grow transport hstart (Nat.le_max_right (i + 1) (j + 1))).subset hmem'
  rw [(holds_stateAt transport hstart _).id_eq_iff hlast hlast', hendpoint, hendpoint']

theorem mem_endpoints_iff {n : Nat} {e : Endpoint} :
    e ∈ (stateAt files transport start calls n).1.pools.map ConnectionPool.endpoint ↔
      ∃ i < n, calls[i]?.map PoolCall.endpoint = some e ∧
        ∃ pool, result? files transport start calls i = some (.ok pool) := by
  rw [(holds_stateAt transport hstart n).mem_iff]
  constructor
  · rintro ⟨hasked, hserves⟩
    obtain ⟨call, hcall, rfl⟩ := List.mem_map.mp hasked
    obtain ⟨i, hi, hget⟩ := List.mem_take_iff_getElem.mp hcall
    have hcall : calls[i]? = some call := by
      rw [← hget]
      exact List.getElem?_eq_getElem _
    obtain ⟨pool, hresult, -⟩ := result?_of_serves transport hstart hcall hserves
    exact ⟨i, by omega, by rw [hcall]; rfl, pool, hresult⟩
  · rintro ⟨i, hi, hendpoint, pool, hresult⟩
    obtain ⟨call, hcall, rfl⟩ := Option.map_eq_some_iff.mp hendpoint
    have hget : (calls.take n)[i]? = some call := by rw [List.getElem?_take_of_lt hi, hcall]
    exact ⟨List.mem_map_of_mem (List.mem_of_getElem? hget),
      (of_result?_eq_ok transport hstart hcall hresult).1⟩

end Run

/-- In every run of calls two calls get the same pool exactly when they are for the same endpoint and
it can have one; a call for an endpoint that can have none changes nothing, now or later; and there
are as many pools as endpoints for which a call has succeeded. -/
theorem one_pool_per_endpoint {Network Target : Type} (files : Files)
    (transport : Transport Network Target) (config : Config) (network : Network)
    (calls : List PoolCall) :
    let start := (ConnectionPools.ofConfig config, network)
    let state := stateAt files transport start calls
    let result := result? files transport start calls
    (∀ i (hi : i < calls.length) j (hj : j < calls.length),
      (∃ pool pool', result i = some (.ok pool) ∧ result j = some (.ok pool') ∧
        pool.id = pool'.id) ↔
      calls[i].endpoint = calls[j].endpoint ∧
        Serves files config.clientIdentity calls[i].endpoint) ∧
    (∀ i (hi : i < calls.length),
      (Serves files config.clientIdentity calls[i].endpoint →
        ∃ pool, result i = some (.ok pool) ∧ pool.endpoint = calls[i].endpoint) ∧
      (¬ Serves files config.clientIdentity calls[i].endpoint →
        (∃ error, result i = some (.error error)) ∧ state (i + 1) = state i ∧
          ∀ n ≥ i, result? files transport start (calls.eraseIdx i) n = result (n + 1))) ∧
    ∀ n, ((state n).1.isEmpty = true ↔ (state n).1.size = 0) ∧
      ∃ succeeded : List Endpoint, succeeded.Nodup ∧ (state n).1.size = succeeded.length ∧
        ∀ e, e ∈ succeeded ↔ ∃ i < n, calls[i]?.map PoolCall.endpoint = some e ∧
          ∃ pool, result i = some (.ok pool) := by
  intro start state result
  have hstart : Holds files config.clientIdentity [] start.1 := holds_ofConfig config
  refine ⟨fun i hi j hj => ?_, fun i hi => ⟨fun he => ?_, fun he => ?_⟩, fun n => ⟨?_, ?_⟩⟩
  · have hcall := List.getElem?_eq_getElem hi
    have hcall' := List.getElem?_eq_getElem hj
    constructor
    · rintro ⟨pool, pool', hpool, hpool', hid⟩
      exact ⟨(id_eq_iff_of_results transport hstart hcall hcall' hpool hpool').mp hid,
        (of_result?_eq_ok transport hstart hcall hpool).1⟩
    · rintro ⟨hendpoint, he⟩
      obtain ⟨pool, hpool, -⟩ := result?_of_serves transport hstart hcall he
      obtain ⟨pool', hpool', -⟩ :=
        result?_of_serves transport hstart hcall' (hendpoint ▸ he)
      exact ⟨pool, pool', hpool, hpool',
        (id_eq_iff_of_results transport hstart hcall hcall' hpool hpool').mpr hendpoint⟩
  · obtain ⟨pool, hresult, hendpoint, -⟩ :=
      result?_of_serves transport hstart (List.getElem?_eq_getElem hi) he
    exact ⟨pool, hresult, hendpoint⟩
  · obtain ⟨error, hresult, hstay⟩ :=
      result?_of_not_serves transport hstart (List.getElem?_eq_getElem hi) he
    exact ⟨⟨error, hresult⟩, hstay, fun n hn => result?_eraseIdx transport hn hstay⟩
  · rw [isEmpty, size, List.isEmpty_iff, List.length_eq_zero_iff]
  · refine ⟨(state n).1.pools.map ConnectionPool.endpoint, (holds_stateAt transport hstart n).nodup, ?_,
      fun e => mem_endpoints_iff transport hstart⟩
    rw [size, List.length_map]

end ConnectionPools

end NodeBalancer
