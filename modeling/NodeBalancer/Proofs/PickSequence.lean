import NodeBalancer.Proofs.System.Effects

/-!
# The sequence of picks

All that picks a node of a registry does so from one cursor: callers, refreshes and probes.  Counted
from zero, pick number `k` is entry `k mod 2^64` of the node list of that moment, taken round robin,
whatever lists came and went before.  A refresh picks when it starts and a probe when it begins,
once each, and nothing else moves the cursor.

* `Lane.Path.getElem?_pick`: the node of each pick in a journal.
* `System.pick_sequence`: the node of the next pick after every run, who picks it, and how many
  picks every refresh has made.
-/

namespace NodeBalancer

namespace Lane

variable {t u : List Entry} {e : Entry} {l : Lane}

/-- The node under the cursor, by the lists and the picks that the journal tells of. -/
theorem Rotates.getElem?_current (h : Rotates t l) :
    (listAfter l.agent.registry.seeds t)[(t.filterMap Entry.pick?).length % UInt64.size %
      (listAfter l.agent.registry.seeds t).length]? = some l.agent.registry.current := by
  rw [← h.nodes, ← h.cursor]
  exact Registry.getElem?_current h.nodes_ne_nil

theorem Step.current_of_pick {l l' : Lane} {node : Endpoint} (h : Step (some l) e (some l'))
    (hp : e.pick? = some node) : l.agent.registry.current = node := by
  cases h with
  | serve a o => exact Option.some.inj hp
  | pick a o => exact Option.some.inj hp
  | ask a => exact Option.some.inj hp
  | _ => cases hp

/-- **Pick number `k` is entry `k mod 2^64` of the list, round robin.** -/
theorem Path.getElem?_pick {node : Endpoint} (h : Path none (t ++ e :: u) (some l))
    (hp : e.pick? = some node) :
    (listAfter l.agent.registry.seeds t)[(t.filterMap Entry.pick?).length % UInt64.size %
      (listAfter l.agent.registry.seeds t).length]? = some node := by
  obtain ⟨m, n, hbefore, hstep, hafter⟩ := h.exists_step
  cases m with
  | none =>
    cases hstep
    cases hp
  | some m =>
    have hrotates := hbefore.rotates
    obtain ⟨n, rfl⟩ := (Path.single hstep).exists_of_some
    have hnode := hstep.current_of_pick hp
    rw [hrotates.seeds_eq h.rotates, ← hnode]
    exact hrotates.getElem?_current

end Lane

namespace System

variable {s : System} {i : Nat} {a : Agent}

/-- A call that gives a node to its caller gives the one under the cursor. -/
theorem eq_current_of_next? (h : s.agent? i = some a) {now later : Instant} {node : Endpoint}
    {s' : System} (hnext : s.next? i now later = some (.ok node, s')) :
    node = a.registry.current := by
  rw [next?_of_agent h, Option.some.injEq, Prod.mk.injEq] at hnext
  obtain ⟨hresult, -⟩ := hnext
  by_cases hst : a.isStarted = true
  · rw [if_pos hst] at hresult
    cases hs : ((s.modifyAgent i Agent.advance).maybeSchedule i now later).1 with
    | error fault =>
      rw [hs] at hresult
      cases hresult
    | ok queued =>
      rw [hs] at hresult
      exact (Except.ok.inj hresult).symm
  · rw [if_neg hst] at hresult
    exact (Except.ok.inj hresult).symm

/-- **The sequence of picks**, whatever the run. -/
theorem pick_sequence (events : List Event) (i : Nat) (a : Agent)
    (h : (empty.run events).agent? i = some a) :
    (∀ t e u node, empty.journal i events = t ++ e :: u → e.pick? = some node →
      (listAfter a.registry.seeds t)[(t.filterMap Entry.pick?).length % UInt64.size %
        (listAfter a.registry.seeds t).length]? = some node) ∧
    a.registry.cursor.toNat =
      ((empty.journal i events).filterMap Entry.pick?).length % UInt64.size ∧
    a.registry.nodes[((empty.journal i events).filterMap Entry.pick?).length % UInt64.size %
      a.registry.nodes.length]? = some a.registry.current ∧
    (∀ e, ((empty.run events).entriesOf i e).filterMap Entry.pick? =
        (if (empty.run events).picks i e then [a.registry.current] else []) ∧
      ∃ a', ((empty.run events).step e).agent? i = some a' ∧
        a'.registry.cursor =
          if (empty.run events).picks i e then a.registry.cursor + 1 else a.registry.cursor) ∧
    (∀ now later node s', (empty.run events).next? i now later = some (.ok node, s') →
      node = a.registry.current) ∧
    ∃ past current,
      Life.Lived ((empty.run events).stages i).head? (empty.journal i events) past current ∧
      (∀ life ∈ past, (life.filterMap Entry.pick?).length =
        if life.any Entry.isStart then 1 else 0) ∧
      ∀ stage, ((empty.run events).stages i).head? = some stage →
        (current.filterMap Entry.pick?).length = if stage = .waiting then 0 else 1 := by
  obtain ⟨o, -, hpath⟩ := exists_path h
  obtain ⟨past, current, hlived⟩ := exists_lived h
  have hrotates := hpath.rotates
  refine ⟨?_, hrotates.cursor, ?_, fun e => ?_, ?_, past, current, hlived, ?_, ?_⟩
  · intro t e u node hjournal hp
    rw [hjournal] at hpath
    exact hpath.getElem?_pick hp
  · rw [← hrotates.cursor]
    exact Registry.getElem?_current hrotates.nodes_ne_nil
  · obtain ⟨a', h', -, -, hcursor⟩ := rotation_step h e
    exact ⟨filterMap_pick?_entriesOf h e, a', h', hcursor⟩
  · intro now later node s' hnext
    exact eq_current_of_next? h hnext
  · intro life hlife
    exact (hlived.whole life hlife).pick?
  · intro stage hstage
    exact (hlived.underway stage hstage).pick?

/-- Picks of all kinds: one past the balancer, a refresh that is torn down, and both probes, the
last of them over another list.  The second refresh has not started. -/
def mixedRun : List Event :=
  [.create (.coordinator [⟨.http, .v4 ⟨10, 0, 0, 1⟩, 8080⟩, ⟨.http, .v4 ⟨10, 0, 0, 2⟩, 8080⟩] ⟨1⟩
      ⟨some "rack1", none⟩) ⟨0⟩,
    .pick 0, .forceRefresh 0 ⟨0⟩, .advanceCall 0 (.nodes []) ⟨0⟩,
    .advanceCall 0 (.broken "torn down") ⟨0⟩, .advanceCall 0 (.nodes []) ⟨1⟩,
    .forceRefresh 0 ⟨1⟩, .beginComparison 0 .rack,
    .replace 0 [⟨.http, .v4 ⟨10, 0, 0, 3⟩, 8080⟩], .beginValidation 0]

theorem pick_sequence_mixedRun :
    ∃ a, (empty.run mixedRun).agent? 0 = some a ∧ a.registry.cursor.toNat = 4 ∧
      a.registry.nodes[4 % UInt64.size % a.registry.nodes.length]? = some a.registry.current ∧
      ∃ past current, Life.Lived (some .waiting) (empty.journal 0 mixedRun) past current ∧
        (current.filterMap Entry.pick?).length = 0 := by
  have ha := (Option.some_get (x := (empty.run mixedRun).agent? 0) (by decide)).symm
  have hcount : ((empty.journal 0 mixedRun).filterMap Entry.pick?).length = 4 := by decide
  have hstages : ((empty.run mixedRun).stages 0).head? = some .waiting := by decide
  obtain ⟨-, hcursor, hcurrent, -, -, past, current, hlived, -, hpicks⟩ :=
    pick_sequence mixedRun 0 _ ha
  rw [hcount] at hcursor hcurrent
  have hnone := hpicks .waiting hstages
  rw [hstages] at hlived
  exact ⟨_, ha, hcursor, hcurrent, past, current, hlived, hnone⟩

end System

end NodeBalancer
