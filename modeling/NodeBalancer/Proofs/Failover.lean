import NodeBalancer.Proofs.RoundRobin
import NodeBalancer.Proofs.Session.Operations

/-!
# Which nodes refreshes ask

A refresh draws the node that it asks from the cursor that callers move.  Where every call finds a
refresh due and no answer brings a list, the two take turns: each call leaves the cursor two places
further on, and refreshes ask every other node of a list that stays as it is.

Steps of two come past every node of an odd number of them, so as many attempts in a row as there
are nodes ask all of them.  Of an even number they leave out every other one for good: a node that
does not answer can be the only one of two that is ever asked.

* `Session.Attended.next`: what one such call serves, and what the refresh after it asks.
* `Session.Attended.picks`: what any number of them serve, and what the refreshes ask.
* `Session.refreshes_ask_in_strides`: which nodes that comes past.
* `Session.not_all_asked`: it need not come past all of them.
-/

namespace NodeBalancer

/-! ## Strides -/

section Strides

variable {α : Type} {m n : Nat}

/-- As many steps of two as an odd number has remainders come past each of them once. -/
theorem nodup_strides_mod (hn : n % 2 = 1) (c : Nat) :
    (((List.range n).map (c + 2 * ·)).map (· % n)).Nodup := by
  have hcoprime : n.gcd 2 = 1 := by rw [Nat.gcd_comm, Nat.gcd_rec, hn]; rfl
  rw [List.map_map]
  refine List.Nodup.map_on ?_ List.nodup_range
  intro j hj k hk hjk
  have hstride : 2 * j ≡ 2 * k [MOD n] := Nat.ModEq.add_left_cancel' c hjk
  have hmod : j ≡ k [MOD n] := Nat.ModEq.cancel_left_of_coprime hcoprime hstride
  exact hmod.eq_of_lt_of_lt (List.mem_range.mp hj) (List.mem_range.mp hk)

/-- Steps of two never come past every other remainder of an even number. -/
theorem stride_mod_mod_two (hn : n % 2 = 0) (c j : Nat) : (c + 2 * j) % n % 2 = c % 2 := by
  rw [Nat.mod_mod_of_dvd _ (Nat.dvd_of_mod_eq_zero hn), Nat.add_mul_mod_self_left]

theorem take_drop_map_range (f : Nat → α) {j : Nat} (h : j + n ≤ m) :
    ((((List.range m).map f).drop j).take n) = (List.range n).map fun k => f (j + k) := by
  apply List.ext_getElem?
  intro k
  by_cases hk : k < n
  · have hjk : j + k < m := by omega
    simp [hk, hjk]
  · simp [hk]

end Strides

namespace Session

variable {World : Type} {discovery : Discovery World} {s : Session World} {i m : Nat} {a : Agent}

/-- A pick would find a refresh of a started balancer due. -/
def FindsDue (s : Session World) (i : Nat) : Bool :=
  (s.system.agent? i).any fun a => a.isStarted && a.isDue s.tick.clock

/-- A balancer that knows some nodes, with workers that have nothing to do and take what they are
given. -/
structure Attended (s : Session World) (i : Nat) (a : Agent) : Prop extends s.Quiet where
  accepting : s.system.pool.accepting = true
  staffed : s.system.pool.Staffed
  agent : s.system.agent? i = some a
  nodes : a.registry.nodes ≠ []

/-- One call that finds a refresh due.  The cursor moves on by two, and the refresh asks the node
behind the one that the caller is served. -/
theorem Attended.next (h : s.Attended i a) (hdue : s.FindsDue i = true)
    (hempty : ∀ world base filter, (discovery world base filter).1 = .nodes [])
    (hcursor : a.registry.cursor.toNat + 2 < UInt64.size) :
    ∃ (picked : Session World) (asked : Endpoint) (after : Agent),
      s.next i = (.ok (some a.registry.current), picked) ∧
      (picked.settle discovery).Attended i after ∧
      after.registry.nodes = a.registry.nodes ∧
      after.registry.cursor.toNat = a.registry.cursor.toNat + 2 ∧
      after.filter = a.filter ∧
      (picked.settle discovery).system.queries = s.system.queries ++ [⟨i, asked, a.filter⟩] ∧
      a.registry.nodes[(a.registry.cursor.toNat + 1) % a.registry.nodes.length]? = some asked := by
  have hnow : (a.isStarted && a.isDue s.tick.clock) = true := by
    rwa [FindsDue, h.agent] at hdue
  have hanswer : discovery s.world a.advance.registry.current a.filter =
      (.nodes [], (discovery s.world a.advance.registry.current a.filter).2) :=
    Prod.ext (hempty ..) rfl
  obtain ⟨picked, hnext, hsettled⟩ :=
    next_settle_of_accepting h.toQuiet h.accepting h.staffed h.agent hnow hanswer
  have hadvance : a.advance.registry.nodes = a.registry.nodes := Registry.nodes_advance h.nodes
  have hadvanced : a.advance.registry.nodes ≠ [] := hadvance ▸ h.nodes
  obtain ⟨hlist, hpicks, hfilter, -⟩ :=
    a.advance.markInFlight.refreshed_frame [] (s.readings (s.reads + 6))
  generalize (a.advance.markInFlight.refreshed [] (s.readings (s.reads + 6))).2 = after
    at hsettled hlist hpicks hfilter
  have hturn : a.advance.registry.cursor.toNat = a.registry.cursor.toNat + 1 :=
    (Registry.toNat_cursor_advance _).trans (Nat.mod_eq_of_lt (by omega))
  have hasked := Registry.getElem?_current hadvanced
  rw [hturn, hadvance] at hasked
  have hcursor' : after.registry.cursor.toNat = a.registry.cursor.toNat + 2 := by
    calc after.registry.cursor.toNat
        = (a.advance.registry.cursor + 1).toNat := congrArg UInt64.toNat hpicks
      _ = (a.advance.registry.cursor.toNat + 1) % UInt64.size := UInt64.toNat_add ..
      _ = a.registry.cursor.toNat + 2 := by rw [hturn, Nat.mod_eq_of_lt (by omega)]
  have hnodes' : after.registry.nodes = a.registry.nodes :=
    hlist.trans ((Registry.nodes_advance hadvanced).trans hadvance)
  refine ⟨picked, a.advance.registry.current, after, hnext, ?_, hnodes', hcursor', hfilter, ?_,
    hasked⟩
  · rw [hsettled]
    exact ⟨⟨h.gate, h.held, h.tasks⟩, h.accepting, h.staffed,
      System.agent?_modifyAgent_self h.agent _, hnodes' ▸ h.nodes⟩
  · rw [hsettled]
    rfl

/-- **Calls that find a refresh due each time.**  Callers are served the nodes at every other place
of the list, and the refreshes between their calls ask those at the places in between. -/
theorem Attended.picks (m : Nat) (h : s.Attended i a)
    (hdue : ∀ k < m, (s.picks discovery i k).2.FindsDue i = true)
    (hempty : ∀ world base filter, (discovery world base filter).1 = .nodes [])
    (hcursor : a.registry.cursor.toNat + 2 * m < UInt64.size) :
    ∃ (served asked : List Endpoint) (a' : Agent),
      (s.picks discovery i m).1 = .ok served ∧
      (s.picks discovery i m).2.Attended i a' ∧
      a'.registry.nodes = a.registry.nodes ∧
      (s.picks discovery i m).2.system.queries =
        s.system.queries ++ asked.map (⟨i, ·, a.filter⟩) ∧
      served.map some = ((List.range m).map fun j =>
        a.registry.nodes[(a.registry.cursor.toNat + 2 * j) % a.registry.nodes.length]?) ∧
      asked.map some = ((List.range m).map fun j =>
        a.registry.nodes[(a.registry.cursor.toNat + 1 + 2 * j) % a.registry.nodes.length]?) := by
  induction m generalizing s a with
  | zero => exact ⟨[], [], a, rfl, h, rfl, (List.append_nil _).symm, rfl, rfl⟩
  | succ m ih =>
    let turn (k : Nat) : Option Endpoint := a.registry.nodes[k % a.registry.nodes.length]?
    obtain ⟨picked, first, after, hnext, hafter, hnodes, hcursor', hfilter, hquery, hfirst⟩ :=
      h.next (hdue 0 (Nat.succ_pos m)) hempty (by omega)
    have hpicks : ∀ k, s.picks discovery i (k + 1) = _ := fun k => picks_succ hnext
    have hdue' : ∀ k < m, ((picked.settle discovery).picks discovery i k).2.FindsDue i = true := by
      intro k hk
      have hlater := hdue (k + 1) (Nat.succ_lt_succ hk)
      rwa [hpicks] at hlater
    obtain ⟨served, asked, a', hserved, ha', hnodes', hqueries, hwhom, hasked⟩ :=
      ih hafter hdue' (by omega)
    rw [hnodes, hcursor'] at hwhom hasked
    rw [Nat.add_right_comm _ 2 1] at hasked
    rw [hpicks]
    refine ⟨a.registry.current :: served, first :: asked, a', ?_, ha', hnodes'.trans hnodes, ?_, ?_,
      ?_⟩
    · rw [hserved]
      rfl
    · rw [hqueries, hquery, hfilter, List.append_assoc, List.map_cons, List.singleton_append]
    · calc (a.registry.current :: served).map some
          = some a.registry.current :: served.map some := rfl
        _ = _ := by rw [hwhom, ← Registry.getElem?_current h.nodes]
        _ = _ := (map_strides_succ turn a.registry.cursor.toNat m).symm
    · calc (first :: asked).map some
          = some first :: asked.map some := rfl
        _ = _ := by rw [hasked, ← hfirst]
        _ = _ := (map_strides_succ turn (a.registry.cursor.toNat + 1) m).symm

/-- **Which nodes refreshes come past** if every call finds one due and none is told of a node.  Each
attempt asks the node two places after the one that was asked before.  An odd number of nodes is
asked from end to end in as many attempts; of an even number, those at every other place never
are. -/
theorem refreshes_ask_in_strides {World : Type} (discovery : Discovery World) (events : List Event)
    (s : Session World) (i : Nat) (a : Agent) (m : Nat)
    (hsystem : s.system = System.empty.run events) (hquiet : s.Quiet)
    (hacc : s.system.pool.accepting = true) (h : s.system.agent? i = some a)
    (hempty : ∀ world base filter, (discovery world base filter).1 = .nodes [])
    (hdue : ∀ k < m, (s.picks discovery i k).2.FindsDue i = true)
    (hcursor : a.registry.cursor.toNat + 2 * m < UInt64.size) :
    ∃ (served asked : List Endpoint) (a' : Agent),
      (s.picks discovery i m).1 = .ok served ∧
      (s.picks discovery i m).2.system.agent? i = some a' ∧
      a'.registry.nodes = a.registry.nodes ∧
      (s.picks discovery i m).2.system.queries =
        s.system.queries ++ asked.map (⟨i, ·, a.filter⟩) ∧
      asked.map some = ((List.range m).map fun j =>
        a.registry.nodes[(a.registry.cursor.toNat + 1 + 2 * j) % a.registry.nodes.length]?) ∧
      (a.registry.nodes.length % 2 = 1 → ∀ j, j + a.registry.nodes.length ≤ m →
        ((asked.drop j).take a.registry.nodes.length).Perm a.registry.nodes) ∧
      (a.registry.nodes.length % 2 = 0 → a.registry.nodes.Nodup →
        ∀ k node, a.registry.nodes[k]? = some node → k % 2 = a.registry.cursor.toNat % 2 →
          node ∉ asked) := by
  have hagent : (System.empty.run events).agent? i = some a := by rwa [hsystem] at h
  obtain ⟨o, hrotates⟩ := System.rotates hagent
  have hstaffed : s.system.pool.Staffed := by
    rw [hsystem]
    exact (System.coherent_empty.run events).staffed
  have hattended : s.Attended i a := ⟨hquiet, hacc, hstaffed, h, hrotates.nodes_ne_nil⟩
  obtain ⟨served, asked, a', hserved, ha', hnodes, hqueries, -, hasked⟩ :=
    hattended.picks m hdue hempty hcursor
  refine ⟨served, asked, a', hserved, ha'.agent, hnodes, hqueries, hasked, ?_, ?_⟩
  · intro hodd j hj
    have hwindow : ((asked.drop j).take a.registry.nodes.length).map some =
        ((List.range a.registry.nodes.length).map
          (a.registry.cursor.toNat + 1 + 2 * j + 2 * ·)).map
            fun k => a.registry.nodes[k % a.registry.nodes.length]? := by
      rw [List.map_take, List.map_drop, hasked, take_drop_map_range _ hj, List.map_map]
      refine List.map_congr_left fun k _ => ?_
      rw [Function.comp_apply, Nat.mul_add, Nat.add_assoc _ (2 * j)]
    rw [← List.map_perm_map_iff (Option.some_injective Endpoint), hwindow]
    exact perm_of_nodup_mod (by simp) hrotates.nodes_ne_nil (nodup_strides_mod hodd _)
  · intro heven hnodup k node hk hparity hmem
    have hsome : some node ∈ asked.map some := List.mem_map_of_mem hmem
    rw [hasked] at hsome
    obtain ⟨j, -, hj⟩ := List.mem_map.mp hsome
    have hlt : k < a.registry.nodes.length := (List.getElem?_eq_some_iff.mp hk).1
    have hplace : k = (a.registry.cursor.toNat + 1 + 2 * j) % a.registry.nodes.length :=
      (List.getElem?_inj hlt hnodup).mp (hk.trans hj.symm)
    -- The attempts are all on the other parity.
    have hother := stride_mod_mod_two heven (a.registry.cursor.toNat + 1) j
    rw [← hplace] at hother
    omega

/-- A session in which nobody who is asked tells of a node, after the given events. -/
def unanswered (events : List Event) : Session Unit :=
  { Session.ofWorld () with system := System.empty.run events }

/-- The answer that says nothing. -/
def silence : Discovery Unit := fun world _ _ => (.nodes [], world)

/-- A started balancer over three nodes. -/
def startedTriple : List Event :=
  [.create (.balancer
      { Config.ofNodes ["10.0.0.1", "10.0.0.2", "10.0.0.3"] with updateInterval := ⟨1⟩ }) ⟨0⟩,
    .start 0 .made]

theorem refreshes_ask_in_strides_startedTriple :
    ∃ asked : List Endpoint,
      ((unanswered startedTriple).picks silence 0 3).2.system.queries =
        asked.map (⟨0, ·, .none⟩) ∧
      asked.Perm [⟨.http, .v4 ⟨10, 0, 0, 1⟩, 8080⟩, ⟨.http, .v4 ⟨10, 0, 0, 2⟩, 8080⟩,
        ⟨.http, .v4 ⟨10, 0, 0, 3⟩, 8080⟩] := by
  have ha := (Option.some_get (x := (System.empty.run startedTriple).agent? 0) (by decide)).symm
  obtain ⟨served, asked, a', -, -, -, hqueries, hasked, hodd, -⟩ :=
    refreshes_ask_in_strides silence startedTriple (unanswered startedTriple) 0 _ 3 rfl
      ⟨rfl, rfl, rfl⟩ rfl ha (fun _ _ _ => rfl) (by decide) (by decide)
  have hlength : asked.length = 3 := by
    have hcount := congrArg List.length hasked
    rwa [List.length_map, List.length_map, List.length_range] at hcount
  have hperm := hodd rfl 0 (Nat.le_refl 3)
  have hall : (asked.drop 0).take 3 = asked := List.take_of_length_le hlength.le
  exact ⟨asked, hqueries, hall ▸ hperm⟩

/-- **A refresh that fails need not fail over.**  Of two nodes the same one is asked each time. -/
theorem not_all_asked :
    ¬ ∀ (discovery : Discovery Unit) (events : List Event) (s : Session Unit) (i : Nat) (a : Agent),
      s.system = System.empty.run events → s.Quiet → s.system.pool.accepting = true →
      s.system.agent? i = some a → a.isStarted = true → a.registry.nodes.Nodup →
      (∀ world base filter, (discovery world base filter).1 = .nodes []) →
      (∀ k < a.registry.nodes.length, (s.picks discovery i k).2.FindsDue i = true) →
      a.registry.cursor.toNat + 2 * a.registry.nodes.length < UInt64.size →
      ∀ node ∈ a.registry.nodes,
        node ∈ ((s.picks discovery i a.registry.nodes.length).2.system.queries.drop
          s.system.queries.length).map (·.base) := by
  intro hfailsOver
  have ha :=
    (Option.some_get (x := (System.empty.run System.startedPair).agent? 0) (by decide)).symm
  have hasked := hfailsOver silence System.startedPair (unanswered System.startedPair) 0 _ rfl
    ⟨rfl, rfl, rfl⟩ rfl ha rfl (by decide) (fun _ _ _ => rfl) (by decide) (by decide)
    ⟨.http, .v4 ⟨10, 0, 0, 1⟩, 8080⟩ (by decide)
  exact absurd hasked (by decide)

end Session

end NodeBalancer
