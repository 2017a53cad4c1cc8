import NodeBalancer.Proofs.Provenance
import NodeBalancer.Proofs.SingleFlight
import NodeBalancer.Proofs.System.Ledger
import NodeBalancer.Proofs.System.Results

/-!
# Calls return

As long as no query breaks off, a pick returns at once, and a refresh forced by a caller returns
after its fourth step at the latest, whatever everybody else does in between.  To start a balancer
and to stop it has no result that could be a fault.

What a call returns is a fault in one case, and then it has nothing to do with the nodes: the update
interval does not fit behind the time at which an attempt to refresh ends.  A pick meets that when
it finds a refresh due and no worker to take it.

* `System.returns`: both for every run without a broken query, every order of steps and every time.
* `System.not_faultless`: the longest interval, a pick without a worker, and a fault.
-/

namespace NodeBalancer

/-- The number of steps that a refresh at this stage has before it. -/
def Stage.left : Stage → Nat
  | waiting => 4
  | asking _ => 3
  | answered _ => 2
  | broken _ => 1
  | settled _ => 1

theorem Stage.left_pos (stage : Stage) : 0 < stage.left := by
  cases stage <;> simp [left]

theorem Stage.left_le (stage : Stage) : stage.left ≤ 4 := by
  cases stage <;> simp [left]

/-- Whether an event goes without a query that breaks off. -/
def Event.isUnbroken : Event → Bool
  | stepThread _ (.broken _) _ => false
  | advanceCall _ (.broken _) _ => false
  | _ => true

/-- What a query that broke off said. -/
def Entry.torn? : Entry → Option String
  | moved _ (.broken message) => some message
  | _ => none

/-! ## Steps of a refresh -/

/-- A step of a refresh that does not end it brings it one step nearer to its end, and no other step
takes it back. -/
theorem Lane.Step.left_add {m l : Lane} {e : Entry} {stage : Stage}
    (h : Step (some m) e (some l)) (hm : m.flight = some stage) (htorn : e.torn? = none)
    (hend : e.isEnd = false) :
    ∃ next, l.flight = some next ∧ next.left + ([e].filter Entry.isRefresh).length = stage.left := by
  cases h with
  | begin a hf => cases hm
  | ask a =>
    cases hm
    exact ⟨_, rfl, rfl⟩
  | answer a base nodes =>
    cases hm
    exact ⟨_, rfl, rfl⟩
  | tear a base message => cases htorn
  | settle a nodes =>
    cases hm
    exact ⟨_, rfl, rfl⟩
  | finish a a' stage now hs hfinish => cases hend
  | overflow a stage now hs hfinish => cases hend
  | _ => exact ⟨stage, hm, rfl⟩

theorem Lane.Path.left_add {a : Agent} {stage : Stage} {t : List Entry} {l : Lane}
    (h : Path (some ⟨a, some stage⟩) t (some l)) (htorn : ∀ e ∈ t, e.torn? = none)
    (hend : ∀ e ∈ t, e.isEnd = false) :
    ∃ next, l.flight = some next ∧ next.left + (t.filter Entry.isRefresh).length = stage.left := by
  generalize hk : some l = k at h
  induction h generalizing l with
  | refl =>
    cases hk
    exact ⟨stage, rfl, rfl⟩
  | @tail m k t e prior last ih =>
    subst hk
    obtain ⟨m, rfl⟩ := prior.exists_of_some
    obtain ⟨between, hbetween, hprior⟩ := ih (fun e he => htorn e (List.mem_append_left _ he))
      (fun e he => hend e (List.mem_append_left _ he)) rfl
    obtain ⟨next, hnext, hlast⟩ := last.left_add hbetween (htorn e List.mem_concat_self)
      (hend e List.mem_concat_self)
    refine ⟨next, hnext, ?_⟩
    rw [List.filter_append, List.length_append]
    omega

namespace System

variable {s : System} {i : Nat} {a : Agent} {events : List Event}

/-! ## Without a broken query -/

theorem torn?_refreshEntry (r : Refresh) (nodes : List Endpoint) (now : Instant) :
    (s.refreshEntry r (.nodes nodes) now).2.torn? = none := by
  obtain ⟨i, stage⟩ := r
  cases stage with
  | waiting =>
    rw [refreshEntry, stepRefresh]
    cases s.pick? i <;> rfl
  | asking base => rfl
  | answered nodes => rfl
  | broken message => rfl
  | settled replaced => rfl

theorem torn?_scheduleEntries (now later : Instant) :
    ∀ p ∈ s.scheduleEntries i now later, p.2.torn? = none := by
  rw [scheduleEntries]
  split
  · split <;> simp [Entry.torn?]
  · simp

theorem torn?_probeEntries (position : Nat) :
    ∀ p ∈ s.probeEntries i position, p.2.torn? = none := by
  intro p hp
  obtain ⟨node, -, rfl⟩ := List.mem_map.mp hp
  rfl

theorem torn?_entries {e : Event} (he : e.isUnbroken = true) :
    ∀ p ∈ s.entries e, p.2.torn? = none := by
  cases e with
  | create design now =>
    rw [entries]
    split <;> simp [Entry.torn?]
  | next j now later =>
    rw [entries]
    split
    · simp
    · refine List.forall_mem_cons.mpr ⟨rfl, ?_⟩
      split
      · exact torn?_scheduleEntries now later
      · simp
  | maybeSchedule j now later => exact torn?_scheduleEntries now later
  | beginComparison j kind => exact torn?_probeEntries _
  | beginValidation j => exact torn?_probeEntries _
  | stepThread thread answer now =>
    cases answer with
    | broken message => cases he
    | nodes nodes =>
      intro p hp
      obtain ⟨⟨r, pool⟩, -, rfl⟩ := Option.map_eq_some_iff.mp (Option.mem_toList.mp hp)
      exact torn?_refreshEntry r nodes now
  | advanceCall position answer now =>
    cases answer with
    | broken message => cases he
    | nodes nodes =>
      intro p hp
      obtain ⟨r, -, rfl⟩ := Option.map_eq_some_iff.mp (Option.mem_toList.mp hp)
      exact torn?_refreshEntry r nodes now
  | pick j =>
    intro p hp
    obtain ⟨picked, -, rfl⟩ := List.mem_map.mp hp
    rfl
  | start j launch =>
    rw [entries]
    split <;> simp [Entry.torn?]
  | stop j =>
    rw [entries]
    split <;> simp [Entry.torn?]
  | forceRefresh j now =>
    rw [entries]
    split <;> simp [Entry.torn?]
  | replace j nodes =>
    rw [entries]
    split <;> simp [Entry.torn?]
  | acquire launch => simp [entries]
  | release => simp [entries]

theorem torn?_journal (s : System) (i : Nat) (hunbroken : ∀ e ∈ events, e.isUnbroken = true) :
    ∀ entry ∈ s.journal i events, entry.torn? = none := by
  induction events generalizing s with
  | nil => exact fun _ h => absurd h List.not_mem_nil
  | cons e events ih =>
    obtain ⟨he, hrest⟩ := List.forall_mem_cons.mp hunbroken
    intro entry hentry
    rcases List.mem_append.mp hentry with hentry | hentry
    · obtain ⟨p, hp, rfl⟩ := List.mem_map.mp hentry
      exact torn?_entries he p (List.mem_of_mem_filter hp)
    · exact ih _ hrest entry hentry

/-- Where no query breaks off, no refresh ever has to do with one that did. -/
theorem stage_ne_broken (hunbroken : ∀ e ∈ events, e.isUnbroken = true)
    (h : (empty.run events).agent? i = some a) {stage : Stage}
    (hmem : stage ∈ (empty.run events).stages i) (message : String) : stage ≠ .broken message := by
  rintro rfl
  obtain ⟨past, current, hlived⟩ := exists_lived h
  -- The refresh is the only one, so what was told of it is the end of what the journal tells.
  have hhead : ((empty.run events).stages i).head? = some (.broken message) := by
    obtain ⟨only, honly⟩ := List.length_eq_one_iff.mp
      (Nat.le_antisymm (stages_length_le_one h) (List.length_pos_of_mem hmem))
    rw [honly] at hmem ⊢
    rw [List.mem_singleton.mp hmem]
    rfl
  cases hlived.underway _ hhead with
  | broken base =>
    have htold : Entry.moved (.asking base) (.broken message) ∈
        (empty.journal i events).filter Entry.isRefresh := by
      rw [hlived.cut]
      exact List.mem_append_right _ (by simp)
    cases torn?_journal empty i hunbroken _ (List.mem_of_mem_filter htold)

/-! ## A call under way -/

variable {position : Nat} {stage : Stage}

/-- A step of another call leaves a call under way. -/
theorem mem_calls_advanceCall {call : Call} (hc : s.calls[position]? = some call) {other : Nat}
    (hne : other ≠ position) (answer : Answer) (now : Instant) :
    call ∈ (s.advanceCall other answer now).2.calls := by
  have hset : ∀ next, call ∈ s.calls.set other next := fun next =>
    List.mem_of_getElem? ((List.getElem?_set_ne hne).trans hc)
  have herase : call ∈ s.calls.eraseIdx other :=
    List.mem_eraseIdx_iff_getElem?.mpr ⟨position, hne.symm, hc⟩
  cases h : s.calls[other]? with
  | none =>
    rw [advanceCall, h]
    exact List.mem_of_getElem? hc
  | some otherCall =>
    cases hr : otherCall.refresh? with
    | none =>
      rcases (advanceCall_of_probe h hr answer now).2.2 with hcalls | ⟨next, -, hcalls⟩
      · rw [hcalls]
        exact herase
      · rw [hcalls]
        exact hset next
    | some r =>
      rw [Call.eq_refresh hr] at h
      rw [(advanceCall_of_refresh h answer now).2.2]
      split
      · exact hset _
      · exact herase

/-- Whoever does not move a call leaves it under way. -/
theorem mem_calls_step {call : Call} (hc : s.calls[position]? = some call) {e : Event}
    (he : ∀ answer now, e ≠ .advanceCall position answer now) : call ∈ (s.step e).calls := by
  have hmem : call ∈ s.calls := List.mem_of_getElem? hc
  by_cases hprogress : e.isProgress = false
  · obtain ⟨begun, hcalls, -, -⟩ := calls_step s hprogress
    rw [hcalls]
    exact List.mem_append_left begun hmem
  · cases e with
    | stepThread thread answer now =>
      rw [step]
      cases h : s.task? thread with
      | none =>
        rw [stepThread, h]
        exact hmem
      | some task =>
        rw [(stepThread_of_task h answer now).2.1]
        exact hmem
    | advanceCall other answer now =>
      exact mem_calls_advanceCall hc (fun heq => he answer now (heq ▸ rfl)) answer now
    | _ => exact absurd rfl hprogress

/-- A step of a forced refresh brings its call nearer to its end, or ends it. -/
theorem advanceCall_of_unbroken (h : s.agent? i = some a)
    (hc : s.calls[position]? = some (.refresh ⟨i, stage⟩))
    (hstage : ∀ message, stage ≠ .broken message) (nodes : List Endpoint) (now : Instant) :
    (∃ next, (s.advanceCall position (.nodes nodes) now).1 = none ∧
      (s.advanceCall position (.nodes nodes) now).2.calls =
        s.calls.set position (.refresh ⟨i, next⟩) ∧ next.left + 1 = stage.left) ∨
    ∃ done, stage = .settled done ∧
      (s.advanceCall position (.nodes nodes) now).1 =
        some (if (now.add? a.interval).isSome then .replaced done else .fault .instantOverflow) := by
  cases stage with
  | waiting =>
    refine .inl ⟨.asking a.registry.current, ?_⟩
    simp only [advanceCall, hc, stepCall, stepRefresh_waiting h]
    exact ⟨trivial, rfl, rfl⟩
  | asking base =>
    refine .inl ⟨.answered nodes, ?_⟩
    simp only [advanceCall, hc, stepCall, stepRefresh_asking]
    exact ⟨trivial, rfl, rfl⟩
  | answered answer =>
    refine .inl ⟨.settled !answer.isEmpty, ?_⟩
    simp only [advanceCall, hc, stepCall, stepRefresh_answered]
    exact ⟨trivial, rfl, rfl⟩
  | broken message => exact absurd rfl (hstage message)
  | settled done =>
    refine .inr ⟨done, rfl, ?_⟩
    simp only [advanceCall, hc, stepCall, stepRefresh_settled h, Agent.finish?]
    cases now.add? a.interval <;> rfl

/-- A refresh that has not ended has taken fewer steps than it had before it. -/
theorem length_steps_lt (h : (empty.run events).agent? i = some a)
    (hmem : stage ∈ (empty.run events).stages i) {later : List Event}
    (hlater : ∀ e ∈ later, e.isUnbroken = true)
    (hend : ∀ entry ∈ (empty.run events).journal i later, entry.isEnd = false) :
    (((empty.run events).journal i later).filter Entry.isRefresh).length < stage.left := by
  obtain ⟨o, hshows, hpath⟩ := exists_path h
  obtain rfl : o = some stage := by
    have ho : stage ∈ o.toList := hshows.stages.mem_iff.mp hmem
    exact Option.mem_toList.mp ho
  obtain ⟨l, -, hlater'⟩ :=
    (coherent_empty.run events).exists_path hshows (hpath.sound trivial) later
  obtain ⟨l, rfl⟩ := hlater'.exists_of_some
  obtain ⟨next, -, hleft⟩ := hlater'.left_add (torn?_journal _ i hlater) hend
  have hpos : 0 < next.left := next.left_pos
  omega

/-- A pick gives a node back, unless it is left with an attempt that no interval fits behind. -/
theorem exists_next?_eq (h : s.agent? i = some a) (now later : Instant) :
    ∃ s', s.next? i now later =
      some (if a.isStarted && a.isDue now && !s.pool.accepting && (later.add? a.interval).isNone then
          .error .instantOverflow
        else .ok a.registry.current, s') := by
  rw [next?_eq_of_agent h]
  by_cases hdue : (a.isStarted && a.isDue now) = true
  · by_cases hacc : s.pool.accepting = true
    · simp only [hdue, hacc, if_true, Bool.not_true, Bool.and_false, Bool.false_and,
        Bool.false_eq_true, if_false]
      exact ⟨_, rfl⟩
    · have hinterval : a.advance.markInFlight.interval = a.interval := rfl
      simp only [hdue, hacc, Agent.finish?, hinterval, if_true, Bool.not_false, Bool.and_true,
        Bool.true_and, Bool.false_eq_true, if_false]
      cases later.add? a.interval <;> exact ⟨_, rfl⟩
  · simp only [hdue, Bool.false_and, Bool.false_eq_true, if_false]
    exact ⟨_, rfl⟩

/-- A call of a refresh that a caller has forced, on its way to what it gives back. -/
structure Returning (s : System) (i : Nat) (a : Agent) (position : Nat) (stage : Stage) : Prop where
  /-- It has at most four steps to take. -/
  bound : stage.left ≤ 4
  /-- Its own steps bring it nearer to its end, and the last one gives something back: a fault only
  if the interval does not fit behind the time of that step. -/
  step : ∀ nodes now,
    (∃ next, (s.advanceCall position (.nodes nodes) now).1 = none ∧
      (s.advanceCall position (.nodes nodes) now).2.calls =
        s.calls.set position (.refresh ⟨i, next⟩) ∧ next.left + 1 = stage.left) ∨
    ∃ done, stage = .settled done ∧
      (s.advanceCall position (.nodes nodes) now).1 =
        some (if (now.add? a.interval).isSome then .replaced done else .fault .instantOverflow)
  /-- Nothing else touches it. -/
  kept : ∀ e, (∀ answer now, e ≠ .advanceCall position answer now) →
    .refresh ⟨i, stage⟩ ∈ (s.step e).calls
  /-- However the run goes on, it has ended once it has taken its steps. -/
  ended : ∀ later : List Event, (∀ e ∈ later, e.isUnbroken = true) →
    (∀ entry ∈ s.journal i later, entry.isEnd = false) →
      ((s.journal i later).filter Entry.isRefresh).length < stage.left

/-- **Calls return.** Whatever has happened before and whatever happens meanwhile, as long as no
query breaks off: a pick gives a node back at once, a refresh that a caller forces is refused at
once or is under way, and a call under way is on its way to its end.  A fault comes back only if an
attempt to refresh ends at a time behind which the update interval does not fit. -/
theorem returns (events : List Event) (hunbroken : ∀ e ∈ events, e.isUnbroken = true) (i : Nat)
    (a : Agent) (h : (empty.run events).agent? i = some a) :
    (∀ now later, ∃ s', (empty.run events).next? i now later =
      some (if a.isStarted && a.isDue now && !(empty.run events).pool.accepting &&
          (later.add? a.interval).isNone then .error .instantOverflow else .ok a.registry.current,
        s')) ∧
    (∀ now, (empty.run events).forceRefresh i now =
      if a.registry.inFlight then (false, empty.run events)
      else (true, ((empty.run events).modifyAgent i Agent.markInFlight).addCall
        (.refresh (.ofAgent i)))) ∧
    ∀ position stage, (empty.run events).calls[position]? = some (.refresh ⟨i, stage⟩) →
      (empty.run events).Returning i a position stage := by
  refine ⟨fun now later => ?_, fun now => ?_, fun position stage hc => ?_⟩
  · exact exists_next?_eq h now later
  · have hadmits : a.registry.admits now false = !a.registry.inFlight := by
      simp [Registry.admits]
    rw [forceRefresh, beginRefresh_of_agent h, hadmits]
    cases a.registry.inFlight <;> rfl
  · have hmem : stage ∈ (empty.run events).stages i := List.mem_of_head? (head?_stages_of_call h hc)
    have hstage := stage_ne_broken hunbroken h hmem
    exact ⟨stage.left_le, fun nodes now => advanceCall_of_unbroken h hc hstage nodes now,
      fun e he => mem_calls_step hc he,
      fun later hlater hend => length_steps_lt h hmem hlater hend⟩

/-- A started balancer with the longest interval there is in whole seconds, and no worker. -/
def endlessRun : List Event :=
  [.create (.balancer ((Config.ofNodes ["10.0.0.1"]).set
    (.updateInterval (.ofSeconds 18446744073709551615)))) ⟨0⟩, .start 0 .made, .release]

/-- The same balancer while a caller refreshes it by force. -/
def endlessForcedRun : List Event :=
  endlessRun ++ [.forceRefresh 0 ⟨0⟩]

theorem returns_endlessForcedRun :
    ∃ a, (empty.run endlessForcedRun).agent? 0 = some a ∧
      (∀ e ∈ endlessForcedRun, e.isUnbroken = true) ∧
      (∃ s', (empty.run endlessForcedRun).next? 0 ⟨0⟩ ⟨0⟩ =
        some (.ok ⟨.http, .v4 ⟨10, 0, 0, 1⟩, 8080⟩, s')) ∧
      (empty.run endlessForcedRun).forceRefresh 0 ⟨0⟩ = (false, empty.run endlessForcedRun) ∧
      (empty.run endlessForcedRun).Returning 0 a 0 .waiting := by
  have ha := (Option.some_get (x := (empty.run endlessForcedRun).agent? 0) (by decide)).symm
  have hunbroken : ∀ e ∈ endlessForcedRun, e.isUnbroken = true := by decide
  obtain ⟨hnext, hforce, hcalls⟩ := returns endlessForcedRun hunbroken 0 _ ha
  obtain ⟨s', hpick⟩ := hnext ⟨0⟩ ⟨0⟩
  exact ⟨_, ha, hunbroken, ⟨s', hpick⟩, hforce ⟨0⟩, hcalls 0 .waiting (by decide)⟩

/-- A state in which no call ends in a fault, as long as no query breaks off. -/
def Faultless (s : System) : Prop :=
  (∀ i now later fault, (s.next? i now later).map (·.1) ≠ some (.error fault)) ∧
    ∀ position nodes now fault,
      (s.advanceCall position (.nodes nodes) now).1 ≠ some (.fault fault)

/-- A pick that finds a refresh due and no worker ends in a fault if the interval is too long. -/
theorem not_faultless :
    ¬ ∀ events : List Event, (∀ e ∈ events, e.isUnbroken = true) → (empty.run events).Faultless := by
  intro hfaultless
  have hnext := (hfaultless endlessRun (by decide)).1 0 ⟨0⟩ ⟨0⟩ .instantOverflow
  exact hnext (by decide)

end System

end NodeBalancer
