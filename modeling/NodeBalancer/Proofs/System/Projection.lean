import NodeBalancer.Proofs.Agent.Life
import NodeBalancer.Proofs.System.Frame

/-!
# Runs seen from one agent

A system **shows** the lane of an agent if the agent is in it and its unfinished refreshes, wherever
they are, are those of the lane: one or none.  An event leads from what a system shows to what it
shows then along the entries that the event adds to the journal (`follows_step`), and so does a
whole run (`exists_path`).  The lanes of other agents, the queues of other threads and the calls
under way do not matter for it.

Single flight is part of what is shown, not a consequence: a lane has room for one refresh.
-/

namespace NodeBalancer

/-- Whether an event may take a reference to the worker or give one up. -/
def Event.isReference : Event → Bool
  | acquire _ => true
  | release => true
  | start _ _ => true
  | stop _ => true
  | _ => false

namespace System

structure Shows (s : System) (i : Nat) (l : Option Lane) : Prop where
  agent : s.agent? i = l.map Lane.agent
  stages : (s.stages i).Perm (l.bind Lane.flight).toList

/-- From every lane that the first system shows of an agent, the entries lead to one that the second
shows. -/
def Follows (i : Nat) (s : System) (es : List (Nat × Entry)) (s' : System) : Prop :=
  ∀ l, s.Shows i l → Lane.Sound l →
    ∃ l', s'.Shows i l' ∧ Lane.Path l ((es.filter (·.1 = i)).map (·.2)) l'

/-- Every agent has its lane, and the worker pool can take tasks where it says so. -/
structure Coherent (s : System) : Prop where
  staffed : s.pool.Staffed
  lanes : ∀ i, ∃ l, s.Shows i l ∧ Lane.Sound l

variable {s s' s'' : System} {i j : Nat} {a : Agent}

theorem Shows.exists_of_agent? {l : Option Lane} (h : s.Shows i l) (ha : s.agent? i = some a) :
    ∃ o, l = some ⟨a, o⟩ := by
  obtain ⟨l, rfl, rfl⟩ := Option.map_eq_some_iff.mp (h.agent.symm.trans ha)
  exact ⟨l.flight, rfl⟩

/-- A refresh has an agent, and is the one refresh of that agent. -/
theorem Shows.of_refresh {l : Option Lane} {r : Refresh} {rest : List Refresh}
    (h : s.Shows r.agent l) (hr : s.refreshes.Perm (r :: rest)) :
    ∃ a, s.agent? r.agent = some a ∧ l = some ⟨a, some r.stage⟩ ∧
      Refresh.stagesOf r.agent rest = [] := by
  have hp := (Refresh.stagesOf_perm hr r.agent).symm.trans h.stages
  rw [Refresh.stagesOf_cons_of_eq rfl] at hp
  cases l with
  | none => exact absurd hp (by simp)
  | some l =>
    obtain ⟨a, o⟩ := l
    cases o with
    | none => exact absurd hp (by simp)
    | some stage =>
      obtain ⟨rfl, hnil⟩ := List.cons.inj (List.perm_singleton.mp hp)
      exact ⟨a, h.agent, rfl, hnil⟩

/-! ## Following -/

theorem follows_frame (ha : s'.agents = s.agents) (hr : s'.refreshes.Perm s.refreshes) :
    Follows i s [] s' := by
  intro l h _
  exact ⟨l, ⟨(congrArg (·[i]?) ha).trans h.agent,
    (Refresh.stagesOf_perm hr i).trans h.stages⟩, .refl l⟩

theorem follows_refl : Follows i s [] s := follows_frame rfl (List.Perm.refl _)

theorem Follows.trans {es es' : List (Nat × Entry)} (h : Follows i s es s')
    (g : Follows i s' es' s'') : Follows i s (es ++ es') s'' := by
  intro l hl hs
  obtain ⟨m, hm, hpath⟩ := h l hl hs
  obtain ⟨k, hk, hpath'⟩ := g m hm (hpath.sound hs)
  refine ⟨k, hk, ?_⟩
  rw [List.filter_append, List.map_append]
  exact hpath.trans hpath'

/-- What happens to one agent is told in its own journal and in no other. -/
theorem follows_entry {e : Entry} (hother : ∀ i, i ≠ j → Follows i s [] s')
    (hself : ∀ l, s.Shows j l → Lane.Sound l → ∃ l', s'.Shows j l' ∧ Lane.Step l e l') :
    Follows i s [(j, e)] s' := by
  by_cases hij : i = j
  · subst hij
    intro l hl hs
    obtain ⟨l', hl', hstep⟩ := hself l hl hs
    exact ⟨l', hl', by simpa using Lane.Path.single hstep⟩
  · intro l hl hs
    obtain ⟨l', hl', hpath⟩ := hother i hij l hl hs
    exact ⟨l', hl', by simpa [Ne.symm hij] using hpath⟩

theorem follows_of_modify {f : Agent → Agent} (hij : i ≠ j)
    (ha : s'.agents = s.agents.modify j f)
    (hr : (s'.stages i).Perm (s.stages i)) : Follows i s [] s' := by
  intro l h _
  refine ⟨l, ⟨?_, hr.trans h.stages⟩, .refl l⟩
  rw [← h.agent, agent?, ha]
  exact agent?_modifyAgent_of_ne hij.symm f

/-- A change of an agent alone, whatever refresh it has in flight. -/
theorem follows_modify {f : Agent → Agent} {e : Entry} (h : s.agent? j = some a)
    (ha : s'.agents = s.agents.modify j f) (hr : s'.refreshes.Perm s.refreshes)
    (hstep : ∀ o, Lane.Step (some ⟨a, o⟩) e (some ⟨f a, o⟩)) : Follows i s [(j, e)] s' := by
  refine follows_entry (fun i hij => follows_of_modify hij ha (Refresh.stagesOf_perm hr i)) ?_
  intro l hl _
  obtain ⟨o, rfl⟩ := hl.exists_of_agent? h
  refine ⟨some ⟨f a, o⟩, ⟨?_, (Refresh.stagesOf_perm hr j).trans hl.stages⟩, hstep o⟩
  rw [agent?, ha]
  exact agent?_modifyAgent_self h f

theorem follows_begin (h : s.agent? j = some a) (hf : a.registry.inFlight = false)
    (ha : s'.agents = s.agents.modify j Agent.markInFlight)
    (hr : s'.refreshes.Perm (.ofAgent j :: s.refreshes)) : Follows i s [(j, .began)] s' := by
  refine follows_entry (fun i hij => follows_of_modify hij ha ?_) ?_
  · refine (Refresh.stagesOf_perm hr i).trans ?_
    rw [Refresh.stagesOf_cons_of_ne (r := .ofAgent j) hij.symm]
    exact List.Perm.refl _
  · intro l hl hs
    obtain ⟨o, rfl⟩ := hl.exists_of_agent? h
    obtain rfl : o = none := hs hf
    refine ⟨some ⟨a.markInFlight, some .waiting⟩, ⟨?_, ?_⟩, .begin a hf⟩
    · rw [agent?, ha]
      exact agent?_modifyAgent_self h _
    · refine (Refresh.stagesOf_perm hr j).trans ?_
      rw [Refresh.stagesOf_cons_of_eq (i := j) (r := .ofAgent j) rfl]
      exact hl.stages.cons Stage.waiting

/-- A refresh comes to another stage, or ends. -/
theorem follows_refresh {r : Refresh} {rest : List Refresh} {f : Agent → Agent} {e : Entry}
    {o : Option Stage} (h : s.agent? r.agent = some a) (hr : s.refreshes.Perm (r :: rest))
    (ha : s'.agents = s.agents.modify r.agent f)
    (hr' : s'.refreshes.Perm ((o.map (Refresh.mk r.agent)).toList ++ rest))
    (hstep : Lane.Step (some ⟨a, some r.stage⟩) e (some ⟨f a, o⟩)) :
    Follows i s [(r.agent, e)] s' := by
  refine follows_entry (fun i hij => follows_of_modify hij ha ?_) ?_
  · have hrest : (s.stages i).Perm (Refresh.stagesOf i rest) := by
      refine (Refresh.stagesOf_perm hr i).trans ?_
      rw [Refresh.stagesOf_cons_of_ne hij.symm]
    refine .trans ?_ hrest.symm
    refine (Refresh.stagesOf_perm hr' i).trans ?_
    cases o with
    | none => exact List.Perm.refl _
    | some stage =>
      rw [Option.map_some, Option.toList_some, List.singleton_append,
        Refresh.stagesOf_cons_of_ne (r := ⟨r.agent, stage⟩) hij.symm]
  · intro l hl _
    obtain ⟨b, hb, rfl, hnil⟩ := hl.of_refresh hr
    obtain rfl : a = b := Option.some.inj (h.symm.trans hb)
    refine ⟨some ⟨f a, o⟩, ⟨?_, ?_⟩, hstep⟩
    · rw [agent?, ha]
      exact agent?_modifyAgent_self h f
    · refine (Refresh.stagesOf_perm hr' r.agent).trans ?_
      cases o with
      | none => rw [Option.map_none, Option.toList_none, List.nil_append, hnil]; rfl
      | some stage =>
        rw [Option.map_some, Option.toList_some, List.singleton_append,
          Refresh.stagesOf_cons_of_eq (r := ⟨r.agent, stage⟩) rfl, hnil]
        rfl

/-! ## Every event is followed -/

theorem follows_addAgent (h : a.Fresh) :
    Follows i s [(s.agents.length, .created a.registry.seeds)] (s.addAgent a) := by
  refine follows_entry (fun i hij => ?_) ?_
  · intro l hl _
    refine ⟨l, ⟨?_, hl.stages⟩, .refl l⟩
    rw [agent?_addAgent, if_neg hij]
    exact hl.agent
  · intro l hl _
    have hnone : s.agent? s.agents.length = none := List.getElem?_eq_none (Nat.le_refl _)
    obtain rfl : l = none := Option.map_eq_none_iff.mp (hl.agent.symm.trans hnone)
    refine ⟨some ⟨a, none⟩, ⟨?_, hl.stages⟩, .create a h⟩
    rw [agent?_addAgent, if_pos rfl]
    rfl

theorem follows_engage : Follows i s [] { s with pool := s.pool.engage } := by
  refine follows_frame rfl ?_
  show (s.pool.engage.tasks ++ _).Perm _
  rw [WorkerPool.tasks_engage]
  exact List.Perm.refl _

theorem follows_acquire (launch : Launch) : Follows i s [] (s.acquire launch).2 := by
  show Follows i s [] { s with pool := (s.pool.acquire launch).2 }
  rcases s.pool.acquire_cases launch with ⟨-, hacquire⟩ | ⟨_, -, -, hacquire⟩ <;> rw [hacquire]
  · exact follows_engage
  · exact follows_refl

theorem follows_release : Follows i s [] s.release := follows_frame rfl (List.Perm.refl _)

theorem follows_pick (h : s.agent? j = some a) :
    Follows i s [(j, .picked a.registry.current)] (s.modifyAgent j Agent.advance) :=
  follows_modify h rfl (List.Perm.refl _) (.pick a)

theorem follows_serve (h : s.agent? j = some a) :
    Follows i s [(j, .served a.registry.current)] (s.modifyAgent j Agent.advance) :=
  follows_modify h rfl (List.Perm.refl _) (.serve a)

theorem follows_switch (h : s.agent? j = some a) (started : Bool) :
    Follows i s [(j, .switched started)] (s.modifyAgent j (·.setStarted started)) :=
  follows_modify h rfl (List.Perm.refl _) (.switch a · started)

theorem follows_start (launch : Launch) :
    Follows i s (s.entries (.start j launch)) (s.start j launch).2 := by
  rw [entries]
  rcases s.start_cases j launch with ⟨-, hstart⟩ | ⟨a, h, -, -, -, hstart⟩ |
    ⟨_, _, -, -, -, -, -, hstart⟩
  · rw [hstart]
    exact follows_refl
  · rw [hstart]
    exact (follows_switch h true).trans follows_engage
  · rw [hstart]
    exact follows_refl

theorem follows_stop : Follows i s (s.entries (.stop j)) (s.stop j) := by
  rw [entries, stop]
  cases h : s.agent? j with
  | none => exact follows_refl
  | some a =>
    simp only [Option.any_some]
    split
    · exact (follows_switch h false).trans follows_release
    · exact follows_refl

theorem refreshes_addCall (s : System) (r : Refresh) :
    (s.addCall (.refresh r)).refreshes.Perm (r :: s.refreshes) := by
  rw [refreshes, addCall, List.filterMap_append, ← List.append_assoc]
  exact List.perm_append_singleton r s.refreshes

theorem isDue_inFlight {now : Instant} (h : a.isDue now = true) : a.registry.inFlight = false := by
  simp only [Agent.isDue, Registry.admits, Bool.and_eq_true, Bool.not_eq_true'] at h
  exact h.2.1

/-- A refresh that no worker takes ends where it began. -/
theorem follows_refusal (h : s.agent? j = some a) (hf : a.registry.inFlight = false)
    (later : Instant) (result : Except Fault Bool) :
    Follows i s [(j, .began), (j, .ended .waiting later)]
      ((s.modifyAgent j Agent.markInFlight).finishRefresh j later result).2 := by
  have hm := agent?_modifyAgent_self h Agent.markInFlight
  -- Between its two ends the refresh is in nobody's hands; it does no harm to give it to the caller.
  let held := (s.modifyAgent j Agent.markInFlight).addCall (.refresh (.ofAgent j))
  have hheld : held.refreshes.Perm (.ofAgent j :: s.refreshes) := refreshes_addCall _ _
  have hbegin : Follows i s [(j, .began)] held := follows_begin h hf rfl hheld
  have hend := Lane.Step.end a.markInFlight .waiting later rfl
  refine hbegin.trans (follows_refresh (r := .ofAgent j) (o := none)
    (f := fun a => (a.finish? later).getD a) hm hheld ?_ ?_ hend)
  · rw [finishRefresh_of_agent hm]
    rfl
  · rw [finishRefresh_of_agent hm]
    exact List.Perm.refl _

theorem follows_schedule (hp : s.pool.Staffed) (h : s.agent? j = some a) (now later : Instant) :
    Follows i s (s.scheduleEntries j now later) (s.maybeSchedule j now later).2 := by
  rw [scheduleEntries_of_agent h, maybeSchedule_of_agent h]
  by_cases hdue : a.isDue now = true
  · have hf := isDue_inFlight hdue
    rw [if_pos hdue, if_pos hdue]
    by_cases hacc : s.pool.accepting = true
    · rw [if_pos hacc, if_pos hacc]
      exact follows_begin h hf rfl ((WorkerPool.tasks_submit hp hacc _).append_right _)
    · rw [if_neg hacc, if_neg hacc]
      exact follows_refusal h hf later _
  · rw [if_neg hdue, if_neg hdue]
    exact follows_refl

theorem follows_maybeSchedule (hp : s.pool.Staffed) (now later : Instant) :
    Follows i s (s.entries (.maybeSchedule j now later)) (s.maybeSchedule j now later).2 := by
  rw [entries]
  cases h : s.agent? j with
  | none =>
    have hdue : s.mayBeDue j now = false := by rw [mayBeDue, h]
    rw [scheduleEntries, maybeSchedule, hdue]
    exact follows_refl
  | some a => exact follows_schedule hp h now later

theorem follows_next (hp : s.pool.Staffed) (now later : Instant) :
    Follows i s (s.entries (.next j now later)) (s.step (.next j now later)) := by
  cases h : s.agent? j with
  | none =>
    rw [entries, step, pick?, next?, h]
    exact follows_refl
  | some a =>
    rw [entries, step_next_of_agent h, pick?_of_agent h, h, Option.any_some]
    by_cases hst : a.isStarted = true
    · simp only [hst, if_true]
      have hp' : (s.modifyAgent j Agent.advance).pool.Staffed := hp
      exact (follows_serve h).trans (follows_schedule hp' (agent?_modifyAgent_self h _) now later)
    · simp only [hst]
      exact follows_serve h

theorem follows_pickEvent : Follows i s (s.entries (.pick j)) (s.step (.pick j)) := by
  rw [entries, step]
  cases h : s.agent? j with
  | none =>
    rw [pick?, h]
    exact follows_refl
  | some a =>
    rw [pick?_of_agent h]
    exact follows_pick h

theorem follows_forceRefresh (now : Instant) :
    Follows i s (s.entries (.forceRefresh j now)) (s.forceRefresh j now).2 := by
  rw [entries, forceRefresh]
  cases h : s.agent? j with
  | none =>
    rw [beginRefresh, h]
    exact follows_refl
  | some a =>
    rw [beginRefresh_of_agent h]
    by_cases hadm : a.registry.admits now false = true
    · rw [if_pos hadm]
      have hf : a.registry.inFlight = false := by simpa [Registry.admits] using hadm
      exact follows_begin h hf rfl (refreshes_addCall _ _)
    · rw [if_neg hadm]
      exact follows_refl

theorem follows_replace (nodes : List Endpoint) :
    Follows i s (s.entries (.replace j nodes)) (s.replace j nodes).2 := by
  rw [entries]
  cases h : s.agent? j with
  | none =>
    have hlen : s.agents.length ≤ j := List.getElem?_eq_none_iff.mp h
    exact follows_frame (List.modify_eq_self hlen) (List.Perm.refl _)
  | some a => exact follows_modify h rfl (List.Perm.refl _) (.replace a · nodes)

/-- A probe picks a node and then waits. -/
theorem follows_probe (h : s.agent? j = some a) {call : Call} (hr : call.refresh? = none)
    (hb : call.probed? = some a.registry.current) :
    Follows i s (((s.modifyAgent j Agent.advance).addCall call).probeEntries j s.calls.length)
      ((s.modifyAgent j Agent.advance).addCall call) := by
  have hget : ((s.modifyAgent j Agent.advance).addCall call).calls[s.calls.length]? = some call :=
    List.getElem?_concat_length
  have hcalls : ((s.modifyAgent j Agent.advance).addCall call).refreshes = s.refreshes := by
    rw [refreshes, addCall, List.filterMap_append, List.filterMap_cons_none hr, List.filterMap_nil,
      List.append_nil]
    rfl
  rw [probeEntries, hget, Option.bind_some, hb]
  exact (follows_pick h).trans (follows_frame rfl (by rw [hcalls]; rfl))

theorem follows_beginComparison (kind : FilterKind) :
    Follows i s (s.entries (.beginComparison j kind)) (s.beginComparison j kind) := by
  rw [entries, beginComparison]
  cases h : s.agent? j with
  | none =>
    rw [pick?, h]
    simpa [probeEntries] using follows_refl
  | some a =>
    rw [pick?_of_agent h]
    exact follows_probe h rfl rfl

theorem follows_beginValidation :
    Follows i s (s.entries (.beginValidation j)) (s.beginValidation j).2 := by
  rw [entries, beginValidation]
  cases h : s.agent? j with
  | none => simpa [probeEntries] using follows_refl
  | some a =>
    by_cases hempty : a.filter.isEmpty = true
    · simpa [probeEntries, hempty] using follows_refl
    · simp only [hempty]
      exact follows_probe h rfl rfl

/-! ### Refreshes under way -/

/-- A step of a refresh, once what becomes of it is put back where the refresh was taken from. -/
theorem follows_turn (hl : ∀ i, ∃ l, s.Shows i l ∧ Lane.Sound l) {r : Refresh}
    {rest : List Refresh} (hr : s.refreshes.Perm (r :: rest)) (answer : Answer) (now : Instant)
    (ha : s'.agents = (s.stepRefresh r answer now).2.agents)
    (hr' : s'.refreshes.Perm ((s.stepRefresh r answer now).1.getLeft?.toList ++ rest)) :
    Follows i s [s.refreshEntry r answer now] s' := by
  obtain ⟨l, hshow, -⟩ := hl r.agent
  obtain ⟨a, h, -, -⟩ := hshow.of_refresh hr
  obtain ⟨f, o, hagents, hnext, hself, hstep⟩ := stepRefresh_of_agent h answer now
  rw [hnext] at hr'
  have hfollows := follows_refresh (i := i) h hr (ha.trans hagents) hr' hstep
  rwa [← hself] at hfollows

theorem follows_stepThread (hl : ∀ i, ∃ l, s.Shows i l ∧ Lane.Sound l) (thread : Nat)
    (answer : Answer) (now : Instant) :
    Follows i s (s.entries (.stepThread thread answer now)) (s.stepThread thread answer now) := by
  rw [entries]
  cases h : s.task? thread with
  | none =>
    rw [stepThread, h]
    exact follows_refl
  | some task =>
    obtain ⟨r, pool⟩ := task
    obtain ⟨hrun, htasks, -⟩ := task?_eq_some h
    obtain ⟨rest, hperm, hset, hfinish⟩ := WorkerPool.exists_tasks_running hrun
    let taken : System := { s with pool := pool }
    have htaken : taken.refreshes = s.refreshes := by rw [refreshes, refreshes, htasks]
    have hshow : ∀ i, ∃ l, taken.Shows i l ∧ Lane.Sound l := fun i => by
      obtain ⟨l, hshow, hsound⟩ := hl i
      exact ⟨l, ⟨hshow.agent, by rw [stages, htaken]; exact hshow.stages⟩, hsound⟩
    have hr : taken.refreshes.Perm (r :: (rest ++ s.calls.filterMap Call.refresh?)) :=
      hperm.append_right _
    have htake : Follows i s [] taken := follows_frame rfl (by rw [htaken])
    obtain ⟨hagents, hcalls, hpool⟩ := stepThread_of_task h answer now
    refine htake.trans (follows_turn hshow hr answer now hagents ?_)
    rw [refreshes, hcalls, hpool, ← List.append_assoc]
    refine List.Perm.append_right _ ?_
    cases (taken.stepRefresh r answer now).1 with
    | inl next => exact hset next
    | inr result => exact hfinish

theorem follows_advanceCall (hl : ∀ i, ∃ l, s.Shows i l ∧ Lane.Sound l) (position : Nat)
    (answer : Answer) (now : Instant) :
    Follows i s (s.entries (.advanceCall position answer now))
      (s.advanceCall position answer now).2 := by
  rw [entries]
  cases h : s.calls[position]? with
  | none =>
    rw [advanceCall, h]
    exact follows_refl
  | some call =>
    obtain ⟨hperm, hset⟩ := filterMap_calls_perm h
    rw [Option.bind_some]
    cases hr : call.refresh? with
    | none =>
      obtain ⟨hagents, hpool, hcalls⟩ := advanceCall_of_probe h hr answer now
      rw [hr] at hperm
      refine follows_frame hagents ?_
      rw [refreshes, hpool]
      refine List.Perm.append_left _ (.trans ?_ hperm.symm)
      rcases hcalls with hcalls | ⟨next, hnext, hcalls⟩
      · rw [hcalls]
        exact List.Perm.refl _
      · rw [hcalls, ← hnext]
        exact hset next
    | some r =>
      obtain rfl := Call.eq_refresh hr
      obtain ⟨hagents, hpool, hcalls⟩ := advanceCall_of_refresh h answer now
      have hfront (front back : List Refresh) :
          (s.pool.tasks ++ (front ++ back)).Perm (front ++ (s.pool.tasks ++ back)) :=
        List.perm_append_comm_assoc ..
      have hrs : s.refreshes.Perm
          (r :: (s.pool.tasks ++ (s.calls.eraseIdx position).filterMap Call.refresh?)) :=
        (hperm.append_left _).trans (hfront [r] _)
      refine follows_turn hl hrs answer now hagents ?_
      rw [refreshes, hpool, hcalls]
      refine .trans (List.Perm.append_left _ ?_) (hfront _ _)
      cases (s.stepRefresh r answer now).1 with
      | inl next => exact hset (.refresh next)
      | inr result => exact List.Perm.refl _

/-! ## Runs -/

theorem follows_step (h : s.Coherent) (e : Event) : Follows i s (s.entries e) (s.step e) := by
  cases e with
  | create design now =>
    rw [entries, step]
    cases ha : design.agent now with
    | error error => exact follows_refl
    | ok a => exact follows_addAgent (Design.fresh ha)
  | acquire launch => exact follows_acquire launch
  | release => exact follows_release
  | start i launch => exact follows_start launch
  | stop i => exact follows_stop
  | next i now later => exact follows_next h.staffed now later
  | pick i => exact follows_pickEvent
  | maybeSchedule i now later => exact follows_maybeSchedule h.staffed now later
  | forceRefresh i now => exact follows_forceRefresh now
  | replace i nodes => exact follows_replace nodes
  | beginComparison i kind => exact follows_beginComparison kind
  | beginValidation i => exact follows_beginValidation
  | stepThread thread answer now => exact follows_stepThread h.lanes thread answer now
  | advanceCall position answer now => exact follows_advanceCall h.lanes position answer now

theorem sameReferences_maybeSchedule (s : System) (i : Nat) (now later : Instant) :
    WorkerPool.SameReferences s.pool (s.maybeSchedule i now later).2.pool := by
  cases ha : s.agent? i with
  | none =>
    rw [maybeSchedule, mayBeDue, ha]
    exact .refl _
  | some a =>
    rw [maybeSchedule_of_agent ha]
    split
    · split
      · exact .submit _ _
      · rw [(finishRefresh_pool_calls _ _ _).1]
        exact .refl _
    · exact .refl _

/-- Only those who hold references change them. -/
theorem sameReferences_step (s : System) {e : Event} (he : e.isReference = false) :
    WorkerPool.SameReferences s.pool (s.step e).pool := by
  cases e with
  | create design now =>
    rw [step]
    split <;> exact .refl _
  | acquire launch => cases he
  | release => cases he
  | start i launch => cases he
  | stop i => cases he
  | next i now later =>
    cases ha : s.agent? i with
    | none =>
      rw [step, next?, ha]
      exact .refl _
    | some a =>
      rw [step_next_of_agent ha]
      split
      · exact sameReferences_maybeSchedule (s.modifyAgent i Agent.advance) i now later
      · exact .refl _
  | pick i =>
    cases ha : s.agent? i with
    | none =>
      rw [step, pick?, ha]
      exact .refl _
    | some a =>
      rw [step, pick?_of_agent ha]
      exact .refl _
  | maybeSchedule i now later => exact sameReferences_maybeSchedule s i now later
  | forceRefresh i now =>
    cases ha : s.agent? i with
    | none =>
      rw [step, forceRefresh, beginRefresh, ha]
      exact .refl _
    | some a =>
      rw [step, forceRefresh, beginRefresh_of_agent ha]
      by_cases hadm : a.registry.admits now false = true
      · rw [if_pos hadm]
        exact .refl _
      · rw [if_neg hadm]
        exact .refl _
  | replace i nodes => exact .refl _
  | beginComparison i kind =>
    cases ha : s.agent? i with
    | none =>
      rw [step, beginComparison, pick?, ha]
      exact .refl _
    | some a =>
      rw [step, beginComparison, pick?_of_agent ha]
      exact .refl _
  | beginValidation i =>
    rw [step, beginValidation]
    split
    · exact .refl _
    · split <;> exact .refl _
  | stepThread thread answer now =>
    cases ht : s.task? thread with
    | none =>
      rw [step, stepThread, ht]
      exact .refl _
    | some task =>
      obtain ⟨-, -, hpool⟩ := stepThread_of_task ht answer now
      obtain ⟨-, -, hsame⟩ := task?_eq_some ht
      rw [step, hpool]
      split
      · exact hsame.trans (.setRunning _ thread _)
      · exact hsame.trans (.finish _ thread)
  | advanceCall position answer now =>
    rw [step, advanceCall_pool]
    exact .refl _

theorem staffed_step (h : s.pool.Staffed) (e : Event) : (s.step e).pool.Staffed := by
  by_cases he : e.isReference = false
  · exact (sameReferences_step s he).staffed h
  · cases e with
    | acquire launch => exact h.acquire launch
    | release => exact h.release
    | start i launch =>
      rw [step]
      rcases s.start_cases i launch with ⟨-, hstart⟩ | ⟨_, -, -, -, -, hstart⟩ |
        ⟨_, _, -, -, -, -, -, hstart⟩ <;>
        rw [hstart]
      · exact h
      · exact h.engage
      · exact h
    | stop i =>
      rw [step, stop]
      split
      · exact h
      · split
        · exact h.release
        · exact h
    | _ => exact absurd rfl he

theorem Coherent.step (h : s.Coherent) (e : Event) : (s.step e).Coherent where
  staffed := staffed_step h.staffed e
  lanes i := by
    obtain ⟨l, hshow, hsound⟩ := h.lanes i
    obtain ⟨l', hshow', hpath⟩ := follows_step h e l hshow hsound
    exact ⟨l', hshow', hpath.sound hsound⟩

theorem coherent_empty : empty.Coherent where
  staffed := WorkerPool.staffed_empty
  lanes _ := ⟨none, ⟨rfl, List.Perm.refl _⟩, trivial⟩

theorem Coherent.run (h : s.Coherent) (events : List Event) : (s.run events).Coherent := by
  induction events generalizing s with
  | nil => exact h
  | cons e events ih => exact ih (h.step e)

/-- **A run is a path in every lane.**  What the journal of an agent tells leads from the lane that
the system shows at first to the one that it shows at last. -/
theorem Coherent.exists_path (h : s.Coherent) {l : Option Lane} (hl : s.Shows i l)
    (hs : Lane.Sound l) (events : List Event) :
    ∃ l', (s.run events).Shows i l' ∧ Lane.Path l (s.journal i events) l' := by
  induction events generalizing s l with
  | nil => exact ⟨l, hl, .refl l⟩
  | cons e events ih =>
    obtain ⟨m, hm, hpath⟩ := follows_step h e l hl hs
    obtain ⟨l', hl', hpath'⟩ := ih (h.step e) hm (hpath.sound hs)
    exact ⟨l', hl', hpath.trans hpath'⟩

/-- The lane of an agent at the end of a run, and the path that leads to it from before the agent
was there. -/
theorem exists_path {events : List Event} (h : (empty.run events).agent? i = some a) :
    ∃ o, (empty.run events).Shows i (some ⟨a, o⟩) ∧
      Lane.Path none (empty.journal i events) (some ⟨a, o⟩) := by
  have hnone : empty.Shows i none := ⟨rfl, List.Perm.refl _⟩
  obtain ⟨l, hl, hpath⟩ := coherent_empty.exists_path hnone trivial events
  obtain ⟨o, rfl⟩ := hl.exists_of_agent? h
  exact ⟨o, hl, hpath⟩

/-! ## What holds in every run -/

variable {events : List Event}

/-- No event takes an agent away. -/
theorem exists_agent?_step (h : (empty.run events).agent? i = some a) (e : Event) :
    ∃ a', (empty.run (events ++ [e])).agent? i = some a' := by
  obtain ⟨o, hshows, hpath⟩ := exists_path h
  have hsound : Lane.Sound (some ⟨a, o⟩) := hpath.sound trivial
  have hstep := follows_step (i := i) (coherent_empty.run events) e
  obtain ⟨l, hl, hpath'⟩ := hstep _ hshows hsound
  obtain ⟨l, rfl⟩ := hpath'.exists_of_some
  rw [run_append]
  exact ⟨l.agent, hl.agent⟩

theorem marked (h : (empty.run events).agent? i = some a) :
    ∃ o : Option Stage, ((empty.run events).stages i).Perm o.toList ∧
      Lane.Marked (empty.journal i events) ⟨a, o⟩ := by
  obtain ⟨o, hshows, hpath⟩ := exists_path h
  exact ⟨o, hshows.stages, hpath.marked⟩

theorem rotates (h : (empty.run events).agent? i = some a) :
    ∃ o, Lane.Rotates (empty.journal i events) ⟨a, o⟩ := by
  obtain ⟨o, -, hpath⟩ := exists_path h
  exact ⟨o, hpath.rotates⟩

theorem exists_lived (h : (empty.run events).agent? i = some a) :
    ∃ past current,
      Life.Lived ((empty.run events).stages i).head? (empty.journal i events) past current := by
  obtain ⟨o, hshows, hpath⟩ := exists_path h
  obtain ⟨past, current, hlived⟩ := hpath.exists_lived
  refine ⟨past, current, ?_⟩
  have hperm : ((empty.run events).stages i).Perm o.toList := hshows.stages
  have hhead : ((empty.run events).stages i).head? = o := by
    cases o with
    | none => rw [List.perm_nil.mp hperm]; rfl
    | some stage => rw [List.perm_singleton.mp hperm]; rfl
  rw [hhead]
  exact hlived

end System

end NodeBalancer
