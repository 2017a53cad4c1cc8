import Mathlib.Data.List.NodupEquivFin
import Mathlib.Data.List.Perm.Subperm
import Mathlib.Data.Nat.ModEq
import NodeBalancer.Proofs.PickSequence

/-!
# The round robin that callers see

The cursor goes round the node list, but callers do not have it to themselves: a refresh draws its
base node from it too, and so do probes.  What a caller gets is therefore the node of the **turn**
that its pick has among all picks, and calls in a row serve every node once just if their turns are
distinct modulo the length of the list.

* `Lane.Path.served_eq_turns`: every call of `next` serves the node of its turn.
* `System.given_round_robin`: a window of as many calls as there are nodes serves each of them once
  if the turns are distinct modulo their number, in particular if nobody else picks in between; and
  only then, if no node is listed twice.
* `System.not_perm_of_refresh`: it is not enough that all answers are the list itself.
-/

namespace NodeBalancer

/-- The node that a balancer gave its caller. -/
def Entry.served? : Entry → Option Endpoint
  | served node => some node
  | _ => none

/-- What is answered in an event, should a node be asked. -/
def Event.answer? : Event → Option Answer
  | .stepThread _ answer _ => some answer
  | .advanceCall _ answer _ => some answer
  | _ => none

/-- The numbers of the picks that were made for callers; the first pick has number `k`. -/
def turns (k : Nat) : List Entry → List Nat
  | [] => []
  | e :: t =>
    let next := if e.pick?.isSome then k + 1 else k
    if e.served?.isSome then k :: turns next t else turns next t

/-! ## Turns -/

/-- An entry picks for a caller, for somebody else, or not at all. -/
theorem Entry.served_or_picked (e : Entry) :
    (∃ node, e.served? = some node ∧ e.pick? = some node) ∨
      (e.served? = none ∧ ∃ node, e.pick? = some node) ∨ e.served? = none ∧ e.pick? = none := by
  cases e with
  | served node => exact .inl ⟨node, rfl, rfl⟩
  | picked node => exact .inr (.inl ⟨rfl, node, rfl⟩)
  | moved stage next =>
    cases next with
    | asking base => exact .inr (.inl ⟨rfl, base, rfl⟩)
    | _ => exact .inr (.inr ⟨rfl, rfl⟩)
  | _ => exact .inr (.inr ⟨rfl, rfl⟩)

section Turns

variable {e : Entry} {node : Endpoint}

theorem turns_cons_of_served (hs : e.served? = some node) (hp : e.pick? = some node) (k : Nat)
    (t : List Entry) : turns k (e :: t) = k :: turns (k + 1) t := by
  simp [turns, hs, hp]

theorem turns_cons_of_picked (hs : e.served? = none) (hp : e.pick? = some node) (k : Nat)
    (t : List Entry) : turns k (e :: t) = turns (k + 1) t := by
  simp [turns, hs, hp]

theorem turns_cons_of_none (hs : e.served? = none) (hp : e.pick? = none) (k : Nat)
    (t : List Entry) : turns k (e :: t) = turns k t := by
  simp [turns, hs, hp]

end Turns

theorem lt_of_mem_turns {k m : Nat} {t : List Entry} (h : m ∈ turns k t) :
    m < k + (t.filterMap Entry.pick?).length := by
  induction t generalizing k with
  | nil => cases h
  | cons e t ih =>
    rcases e.served_or_picked with ⟨node, hs, hp⟩ | ⟨hs, node, hp⟩ | ⟨hs, hp⟩
    · rw [turns_cons_of_served hs hp] at h
      rw [List.filterMap_cons_some hp, List.length_cons]
      rcases List.mem_cons.mp h with rfl | h
      · omega
      · have hlt := ih h
        omega
    · rw [turns_cons_of_picked hs hp] at h
      rw [List.filterMap_cons_some hp, List.length_cons]
      have hlt := ih h
      omega
    · rw [turns_cons_of_none hs hp] at h
      rw [List.filterMap_cons_none hp]
      exact ih h

/-- Nobody picks for callers alone more often than all together. -/
theorem length_served_le (t : List Entry) :
    (t.filterMap Entry.served?).length ≤ (t.filterMap Entry.pick?).length := by
  induction t with
  | nil => exact Nat.le_refl 0
  | cons e t ih =>
    rcases e.served_or_picked with ⟨node, hs, hp⟩ | ⟨hs, node, hp⟩ | ⟨hs, hp⟩
    · rw [List.filterMap_cons_some hs, List.filterMap_cons_some hp]
      exact Nat.succ_le_succ ih
    · rw [List.filterMap_cons_none hs, List.filterMap_cons_some hp]
      exact Nat.le_succ_of_le ih
    · rw [List.filterMap_cons_none hs, List.filterMap_cons_none hp]
      exact ih

/-- Where every pick is for a caller, the turns are consecutive. -/
theorem turns_eq_range' {k : Nat} {t : List Entry}
    (h : (t.filterMap Entry.pick?).length = (t.filterMap Entry.served?).length) :
    turns k t = List.range' k (t.filterMap Entry.served?).length := by
  induction t generalizing k with
  | nil => rfl
  | cons e t ih =>
    rcases e.served_or_picked with ⟨node, hs, hp⟩ | ⟨hs, node, hp⟩ | ⟨hs, hp⟩
    · rw [List.filterMap_cons_some hs, List.filterMap_cons_some hp] at h
      rw [turns_cons_of_served hs hp, List.filterMap_cons_some hs, ih (Nat.succ.inj h)]
      rfl
    · rw [List.filterMap_cons_none hs, List.filterMap_cons_some hp, List.length_cons] at h
      have hle := length_served_le t
      omega
    · rw [List.filterMap_cons_none hs, List.filterMap_cons_none hp] at h
      rw [turns_cons_of_none hs hp, List.filterMap_cons_none hs, ih h]

/-! ## Once around the list -/

section Around

variable {α : Type} {l : List α} {ks : List Nat}

theorem map_getElem?_range (l : List α) :
    (List.range l.length).map (l[·]?) = l.map some := by
  apply List.ext_getElem?
  intro k
  by_cases hk : k < l.length
  · simp [hk]
  · simp [Nat.le_of_not_lt hk]

/-- Distinct remainders, as many as there are, are all of them. -/
theorem perm_range_of_nodup {n : Nat} (hlength : ks.length = n) (hlt : ∀ k ∈ ks, k < n)
    (hnodup : ks.Nodup) : ks.Perm (List.range n) := by
  have hsub : ks ⊆ List.range n := fun k hk => List.mem_range.mpr (hlt k hk)
  refine (List.subperm_of_subset hnodup hsub).perm_of_length_le ?_
  rw [List.length_range, hlength]

theorem perm_of_nodup_mod (hlength : ks.length = l.length) (hl : l ≠ [])
    (hnodup : (ks.map (· % l.length)).Nodup) :
    (ks.map fun k => l[k % l.length]?).Perm (l.map some) := by
  have hlt : ∀ k ∈ ks.map (· % l.length), k < l.length := by
    intro k hk
    obtain ⟨m, -, rfl⟩ := List.mem_map.mp hk
    exact Nat.mod_lt _ (List.length_pos_iff.mpr hl)
  have hperm := perm_range_of_nodup (by rwa [List.length_map]) hlt hnodup
  rw [← map_getElem?_range, ← Function.comp_def (l[·]?) (· % l.length), ← List.map_map]
  exact hperm.map _

theorem nodup_mod_of_perm (hl : l.Nodup)
    (hperm : (ks.map fun k => l[k % l.length]?).Perm (l.map some)) :
    (ks.map (· % l.length)).Nodup := by
  have hnodup : (ks.map fun k => l[k % l.length]?).Nodup :=
    hperm.nodup_iff.mpr (hl.map (Option.some_injective α))
  rw [← Function.comp_def (l[·]?) (· % l.length), ← List.map_map] at hnodup
  exact hnodup.of_map _

theorem nodup_range'_mod (k n : Nat) : ((List.range' k n).map (· % n)).Nodup := by
  refine List.Nodup.map_on ?_ List.nodup_range'
  intro x hx y hy hmod
  rw [List.mem_range'_1] at hx hy
  rcases Nat.le_total x y with hxy | hxy
  · have hdvd : n ∣ y - x := (Nat.modEq_iff_dvd' hxy).mp hmod
    have hzero := Nat.eq_zero_of_dvd_of_lt hdvd (by omega)
    omega
  · have hdvd : n ∣ x - y := (Nat.modEq_iff_dvd' hxy).mp hmod.symm
    have hzero := Nat.eq_zero_of_dvd_of_lt hdvd (by omega)
    omega

/-- Every other turn, the first one apart. -/
theorem map_strides_succ (f : Nat → α) (c m : Nat) :
    ((List.range (m + 1)).map fun j => f (c + 2 * j)) =
      f c :: (List.range m).map fun j => f (c + 2 + 2 * j) := by
  rw [List.range_succ_eq_map, List.map_cons, List.map_map]
  refine congrArg (f c :: ·) (List.map_congr_left fun j _ => ?_)
  rw [Function.comp_apply, Nat.succ_eq_add_one, Nat.mul_add, Nat.add_assoc, Nat.add_comm (2 * j)]

end Around

/-! ## What calls serve -/

/-- **Every call serves the node of its turn**, as long as every list that is installed is the one
that was there. -/
theorem Lane.Path.served_eq_turns {t u : List Entry} {l : Lane} {nodes : List Endpoint}
    (h : Path none (t ++ u) (some l)) (ht : listAfter l.agent.registry.seeds t = nodes)
    (hu : ∀ list ∈ u.filterMap Entry.installed?, list = nodes) :
    (u.filterMap Entry.served?).map some =
      (turns (t.filterMap Entry.pick?).length u).map
        fun k => nodes[k % UInt64.size % nodes.length]? := by
  induction u generalizing t with
  | nil => rfl
  | cons e u ih =>
    have hnext : listAfter l.agent.registry.seeds (t ++ [e]) = nodes := by
      rw [listAfter_append, ht, listAfter_singleton]
      cases hi : e.installed? with
      | none => rfl
      | some list => exact hu list (by simp [hi])
    have hrest : ∀ list ∈ u.filterMap Entry.installed?, list = nodes := by
      intro list hlist
      refine hu list ?_
      rw [← List.singleton_append, List.filterMap_append]
      exact List.mem_append_right _ hlist
    have hpath : Path none (t ++ [e] ++ u) (some l) := by
      rw [List.append_assoc]
      exact h
    have hserved := ih hpath hnext hrest
    rw [List.filterMap_append, List.length_append] at hserved
    rcases e.served_or_picked with ⟨node, hs, hp⟩ | ⟨hs, node, hp⟩ | ⟨hs, hp⟩
    · have hnode := h.getElem?_pick hp
      rw [ht] at hnode
      rw [List.filterMap_cons_some hp] at hserved
      rw [turns_cons_of_served hs hp, List.filterMap_cons_some hs, List.map_cons, List.map_cons,
        hserved, hnode]
      rfl
    · rw [List.filterMap_cons_some hp] at hserved
      rw [turns_cons_of_picked hs hp, List.filterMap_cons_none hs, hserved]
      rfl
    · rw [List.filterMap_cons_none hp] at hserved
      rw [turns_cons_of_none hs hp, List.filterMap_cons_none hs, hserved]
      rfl

namespace System

/-- What an event gives back to the caller of `next`, if it is a call of it. -/
def givenBy (s : System) (i : Nat) : Event → List (Except Fault Endpoint)
  | .next j now later => if j = i then ((s.next? i now later).map Prod.fst).toList else []
  | _ => []

/-- What the calls of `next` give back, oldest first. -/
def given (s : System) (i : Nat) : List Event → List (Except Fault Endpoint)
  | [] => []
  | e :: events => s.givenBy i e ++ (s.step e).given i events

variable {s : System} {i : Nat} {a : Agent}

theorem served?_refreshEntry (r : Refresh) (answer : Answer) (now : Instant) :
    (s.refreshEntry r answer now).2.served? = none := by
  rw [refreshEntry]
  split <;> rfl

/-- Where a call returns, the journal tells what it returned. -/
theorem filterMap_served?_entriesOf (h : s.agent? i = some a) {e : Event}
    {results : List Endpoint} (hgiven : s.givenBy i e = results.map .ok) :
    (s.entriesOf i e).filterMap Entry.served? = results := by
  rw [filterMap_rotationMove? (fun _ => rfl) (fun _ => rfl) rfl (fun _ _ => rfl) h]
  have hnone : s.givenBy i e = [] → ((s.rotationMove? i a e).bind Entry.served?) = none →
      ((s.rotationMove? i a e).bind Entry.served?).toList = results := by
    intro hnil he
    rw [hnil] at hgiven
    rw [he, List.map_eq_nil_iff.mp hgiven.symm]
    rfl
  have hrefresh : ∀ r (t : System) answer now,
      (if r.agent = i then some (t.refreshEntry r answer now).2 else none).bind Entry.served? =
        none := by
    intro r t answer now
    split
    · exact served?_refreshEntry r answer now
    · rfl
  cases e with
  | next j now later =>
    rw [givenBy] at hgiven
    rw [rotationMove?]
    by_cases hji : j = i
    · subst hji
      rw [if_pos rfl] at hgiven ⊢
      obtain ⟨result, s', hnext⟩ : ∃ result s', s.next? j now later = some (result, s') :=
        ⟨_, _, next?_of_agent h now later⟩
      rw [hnext] at hgiven
      obtain ⟨node, rfl, rfl⟩ := List.map_eq_singleton_iff.mp hgiven.symm
      rw [eq_current_of_next? h hnext]
      rfl
    · rw [if_neg hji] at hgiven ⊢
      rw [List.map_eq_nil_iff.mp hgiven.symm]
      rfl
  | stepThread thread answer now =>
    refine hnone rfl ?_
    rw [rotationMove?]
    cases s.task? thread with
    | none => rfl
    | some task => exact hrefresh task.1 { s with pool := task.2 } answer now
  | advanceCall position answer now =>
    refine hnone rfl ?_
    rw [rotationMove?]
    cases (s.calls[position]?).bind Call.refresh? with
    | none => rfl
    | some r => exact hrefresh r s answer now
  | pick _ | replace _ _ | beginComparison _ _ | beginValidation _ =>
    refine hnone rfl ?_
    rw [rotationMove?]
    split <;> rfl
  | _ => exact hnone rfl rfl

/-- Where all calls return, the journal tells what they returned. -/
theorem filterMap_served?_journal {past : List Event} (h : (empty.run past).agent? i = some a)
    {window : List Event} {results : List Endpoint}
    (hgiven : (empty.run past).given i window = results.map .ok) :
    ((empty.run past).journal i window).filterMap Entry.served? = results := by
  induction window generalizing past a results with
  | nil => exact (List.map_eq_nil_iff.mp hgiven.symm).symm
  | cons e window ih =>
    obtain ⟨a', h'⟩ := exists_agent?_step h e
    obtain ⟨first, rest, rfl, hfirst, hrest⟩ := List.map_eq_append_iff.mp hgiven.symm
    have hstep : empty.run (past ++ [e]) = (empty.run past).step e := run_append empty past [e]
    rw [← hstep] at hrest
    rw [journal, List.filterMap_append, filterMap_served?_entriesOf h hfirst.symm, ← hstep,
      ih h' hrest.symm]

/-- The turns of the calls in a window of a run. -/
def turnsIn (i : Nat) (past window : List Event) : List Nat :=
  turns ((empty.journal i past).filterMap Entry.pick?).length ((empty.run past).journal i window)

/-- In a window in which the list does not change, every call returns the node of its turn. -/
theorem map_some_eq_turnsIn {past window : List Event} {results : List Endpoint}
    (h : (empty.run past).agent? i = some a)
    (hlist : ∀ list ∈ ((empty.run past).journal i window).filterMap Entry.installed?,
      list = a.registry.nodes)
    (hpicks : ((empty.journal i (past ++ window)).filterMap Entry.pick?).length < UInt64.size)
    (hgiven : (empty.run past).given i window = results.map .ok) :
    results.map some = (turnsIn i past window).map
      fun k => a.registry.nodes[k % a.registry.nodes.length]? := by
  obtain ⟨o, hshows, hbefore⟩ := exists_path h
  obtain ⟨k, -, hafter⟩ :=
    (coherent_empty.run past).exists_path hshows (hbefore.sound trivial) window
  obtain ⟨l, rfl⟩ := hafter.exists_of_some
  have hpath := hbefore.trans hafter
  have hseeds := hbefore.rotates.seeds_eq hpath.rotates
  have hnodes : listAfter l.agent.registry.seeds (empty.journal i past) = a.registry.nodes := by
    rw [hseeds]
    exact hbefore.rotates.nodes.symm
  have hserved := hpath.served_eq_turns hnodes hlist
  rw [filterMap_served?_journal h hgiven] at hserved
  rw [hserved, turnsIn]
  refine List.map_congr_left fun k hk => ?_
  have hlt := lt_of_mem_turns hk
  rw [journal_append, List.filterMap_append, List.length_append] at hpicks
  rw [Nat.mod_eq_of_lt (show k < UInt64.size by omega)]

/-- **What callers get of a list that does not change.**  Calls in a row serve the nodes of their
turns; as many calls as there are nodes serve every node once if the turns are distinct modulo their
number. -/
theorem given_round_robin (past window : List Event) (i : Nat) (a : Agent) (results : List Endpoint)
    (h : (empty.run past).agent? i = some a)
    (hlist : ∀ list ∈ ((empty.run past).journal i window).filterMap Entry.installed?,
      list = a.registry.nodes)
    (hpicks : ((empty.journal i (past ++ window)).filterMap Entry.pick?).length < UInt64.size)
    (hgiven : (empty.run past).given i window = results.map .ok)
    (hlength : results.length = a.registry.nodes.length) :
    results.map some = ((turnsIn i past window).map
      fun k => a.registry.nodes[k % a.registry.nodes.length]?) ∧
    (((turnsIn i past window).map (· % a.registry.nodes.length)).Nodup →
      results.Perm a.registry.nodes) ∧
    (a.registry.nodes.Nodup → results.Perm a.registry.nodes →
      ((turnsIn i past window).map (· % a.registry.nodes.length)).Nodup) ∧
    ((((empty.run past).journal i window).filterMap Entry.pick?).length =
      a.registry.nodes.length → results.Perm a.registry.nodes) := by
  have hresults := map_some_eq_turnsIn h hlist hpicks hgiven
  have hturns : (turnsIn i past window).length = a.registry.nodes.length := by
    have hcount := congrArg List.length hresults
    rw [List.length_map, List.length_map] at hcount
    rw [← hcount, hlength]
  obtain ⟨o, hrotates⟩ := rotates h
  have hsome : ∀ nodes : List Endpoint, (results.map some).Perm (nodes.map some) ↔
      results.Perm nodes := fun nodes => List.map_perm_map_iff (Option.some_injective _)
  have hdistinct : ((turnsIn i past window).map (· % a.registry.nodes.length)).Nodup →
      results.Perm a.registry.nodes := by
    intro hnodup
    rw [← hsome, hresults]
    exact perm_of_nodup_mod hturns hrotates.nodes_ne_nil hnodup
  refine ⟨hresults, hdistinct, ?_, ?_⟩
  · intro hnodup hperm
    rw [← hsome, hresults] at hperm
    exact nodup_mod_of_perm hnodup hperm
  · intro halone
    apply hdistinct
    have hserved := filterMap_served?_journal h hgiven
    rw [turnsIn, turns_eq_range' (by rw [halone, hserved, hlength]), hserved, hlength]
    exact nodup_range'_mod _ _

/-- A started balancer over two nodes. -/
def startedPair : List Event :=
  [.create (.balancer { Config.ofNodes ["10.0.0.1", "10.0.0.2"] with updateInterval := ⟨1⟩ }) ⟨0⟩,
    .start 0 .made]

/-- A step of the worker thread; whatever node it asks lists both nodes. -/
def workerStep : Event :=
  .stepThread 0 (.nodes [⟨.http, .v4 ⟨10, 0, 0, 1⟩, 8080⟩, ⟨.http, .v4 ⟨10, 0, 0, 2⟩, 8080⟩]) ⟨0⟩

/-- Two calls with both a refresh and a probe in between: turns 0 and 3. -/
def sharedWindow : List Event :=
  [.next 0 ⟨0⟩ ⟨0⟩, workerStep, .beginComparison 0 .rack, workerStep, workerStep, workerStep,
    .next 0 ⟨0⟩ ⟨0⟩]

theorem given_round_robin_sharedWindow :
    ∃ (a : Agent) (results : List Endpoint), (empty.run startedPair).agent? 0 = some a ∧
      (empty.run startedPair).given 0 sharedWindow = results.map .ok ∧
      turnsIn 0 startedPair sharedWindow = [0, 3] ∧ results.Perm a.registry.nodes := by
  have ha := (Option.some_get (x := (empty.run startedPair).agent? 0) (by decide)).symm
  have hgiven : (empty.run startedPair).given 0 sharedWindow =
      [(⟨.http, .v4 ⟨10, 0, 0, 1⟩, 8080⟩ : Endpoint),
        ⟨.http, .v4 ⟨10, 0, 0, 2⟩, 8080⟩].map .ok := by
    rfl
  refine ⟨_, _, ha, hgiven, by decide, ?_⟩
  obtain ⟨-, hdistinct, -, -⟩ :=
    given_round_robin startedPair sharedWindow 0 _ _ ha (by decide) (by decide) hgiven (by decide)
  exact hdistinct (by decide)

/-- **A refresh takes a turn.**  Two calls with one refresh in between serve the same one of two
nodes, although every answer is the list itself. -/
theorem not_perm_of_refresh :
    ¬ ∀ (past window : List Event) (i : Nat) (a : Agent) (results : List Endpoint),
      (empty.run past).agent? i = some a → a.isStarted = true →
      (∀ answer ∈ (past ++ window).filterMap Event.answer?, answer = .nodes a.registry.nodes) →
      ((empty.journal i (past ++ window)).filterMap Entry.pick?).length < UInt64.size →
      (empty.run past).given i window = results.map .ok →
      results.length = a.registry.nodes.length → results.Perm a.registry.nodes := by
  intro hservesAll
  have ha := (Option.some_get (x := (empty.run startedPair).agent? 0) (by decide)).symm
  have hgiven : (empty.run startedPair).given 0
      [.next 0 ⟨0⟩ ⟨0⟩, workerStep, workerStep, workerStep, workerStep, .next 0 ⟨0⟩ ⟨0⟩] =
      [(⟨.http, .v4 ⟨10, 0, 0, 1⟩, 8080⟩ : Endpoint),
        ⟨.http, .v4 ⟨10, 0, 0, 1⟩, 8080⟩].map .ok := by
    rfl
  have hperm :=
    hservesAll startedPair _ 0 _ _ ha (by decide) (by decide) (by decide) hgiven (by decide)
  exact absurd hperm (by decide)

end System

end NodeBalancer
