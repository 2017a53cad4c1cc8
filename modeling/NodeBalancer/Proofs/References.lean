import Mathlib.Data.List.Induction
import Mathlib.Data.List.Infix
import NodeBalancer.Proofs.System.Sources
import NodeBalancer.Proofs.WorkerPool.History

/-!
# Who holds the worker

A started balancer holds one reference to the worker, however often it was started, and a stopped
one holds none, however often it was stopped.  So the number of references is the number of started
balancers and of the references that somebody took directly, as long as no more of these are given
back than were taken (`Overdrawn`); one release too many would take the worker away from a balancer.

Where no worker thread can be made, nobody gets a reference: an acquire takes none, and a start
leaves the balancer as it was, not started.  So neither counts, and whoever was refused has nothing
to give back.

To drop a balancer is to stop it, and a balancer that was dropped is not started again.

* `System.isStarted_step`: only a start or a stop of a balancer switches it.
* `System.start_eq_error_iff`, `System.acquire_eq_error_iff`: who is refused.
* `System.Referenced.step`: each event keeps the references counted.
* `System.references`: the count, for every run, and what follows from it for each balancer.
-/

namespace NodeBalancer

def Event.isRelease : Event → Bool
  | release => true
  | _ => false

namespace System

/-- Whether an event takes a reference directly: it asks for one and is not refused. -/
def takes (s : System) : Event → Bool
  | .acquire launch => (s.acquire launch).1.isOk
  | _ => false

/-- The number of references that are taken directly in a run. -/
def taken (s : System) : List Event → Nat
  | [] => 0
  | e :: events => (s.takes e).toNat + (s.step e).taken events

/-- What becomes of so many references that somebody holds directly. -/
def direct (s : System) (e : Event) (held : Nat) : Nat :=
  held + (s.takes e).toNat - e.isRelease.toNat

theorem taken_concat (s : System) (past : List Event) (e : Event) :
    s.taken (past ++ [e]) = s.taken past + ((s.run past).takes e).toNat := by
  induction past generalizing s with
  | nil => exact Nat.add_comm _ _
  | cons first past ih => rw [List.cons_append, taken, taken, ih, run_cons, Nat.add_assoc]

end System

/-- The number of references that were taken directly and not given back. -/
def outstanding (events : List Event) : Nat :=
  System.empty.taken events - events.countP Event.isRelease

/-- At some time more references had been given back directly than had been taken. -/
def Overdrawn (events : List Event) : Prop :=
  ∃ past, past <+: events ∧ System.empty.taken past < past.countP Event.isRelease

theorem outstanding_concat {past : List Event} {e : Event} (h : ¬ Overdrawn (past ++ [e])) :
    outstanding (past ++ [e]) = (System.empty.run past).direct e (outstanding past) ∧
      (e = .release → 0 < outstanding past) := by
  have hbefore : past.countP Event.isRelease ≤ System.empty.taken past :=
    Nat.le_of_not_lt fun hlt => h ⟨past, List.prefix_append past [e], hlt⟩
  have hafter : (past ++ [e]).countP Event.isRelease ≤ System.empty.taken (past ++ [e]) :=
    Nat.le_of_not_lt fun hlt => h ⟨past ++ [e], List.prefix_rfl, hlt⟩
  have hreleases : (past ++ [e]).countP Event.isRelease =
      past.countP Event.isRelease + e.isRelease.toNat := by
    rw [List.countP_append, List.countP_singleton]
    cases e.isRelease <;> rfl
  rw [hreleases, System.taken_concat] at hafter
  rw [outstanding, outstanding, System.direct, hreleases, System.taken_concat]
  refine ⟨by omega, ?_⟩
  rintro rfl
  have hnone : ((System.empty.run past).takes .release).toNat = 0 := rfl
  have hone : Event.release.isRelease.toNat = 1 := rfl
  omega

theorem Overdrawn.append {past later : List Event} (h : Overdrawn past) :
    Overdrawn (past ++ later) := by
  obtain ⟨before, hbefore, hlt⟩ := h
  exact ⟨before, hbefore.trans (List.prefix_append past later), hlt⟩

/-- What a change of one element does to a list, up to order. -/
theorem exists_perm_modify {α : Type} {xs : List α} {i : Nat} {x : α} (h : xs[i]? = some x) :
    ∃ rest, xs.Perm (x :: rest) ∧ ∀ f : α → α, (xs.modify i f).Perm (f x :: rest) := by
  obtain ⟨hlt, rfl⟩ := List.getElem?_eq_some_iff.mp h
  refine ⟨xs.take i ++ xs.drop (i + 1), ?_, fun f => ?_⟩
  · have hsplit : xs = xs.take i ++ xs[i] :: xs.drop (i + 1) := by
      rw [← List.drop_eq_getElem_cons hlt, List.take_append_drop]
    exact (List.Perm.of_eq hsplit).trans List.perm_middle
  · rw [List.modify_eq_take_cons_drop hlt]
    exact List.perm_middle

/-! ## Switching a balancer -/

theorem Agent.isStarted_setStarted {a : Agent} (h : a.isBalancer = true) (started : Bool) :
    (a.setStarted started).isStarted = started := by
  obtain ⟨registry, filter, role⟩ := a
  cases role with
  | balancer config old => rfl
  | coordinator interval => cases h
  | probe => cases h

theorem Agent.isBalancer_of_isStarted {a : Agent} (h : a.isStarted = true) :
    a.isBalancer = true := by
  obtain ⟨registry, filter, role⟩ := a
  cases role with
  | balancer config old => rfl
  | coordinator interval => cases h
  | probe => cases h

namespace Lane

variable {l l' : Lane} {t : List Entry} {e : Entry}

theorem Step.isStarted_eq (h : Step (some l) e (some l'))
    (he : ∀ started, e ≠ .switched started) : l'.agent.isStarted = l.agent.isStarted := by
  cases h with
  | switch a o started => exact absurd rfl (he started)
  | finish a a' stage now hs hfinish =>
    obtain ⟨eligible, -, rfl⟩ := Agent.finish?_eq_some hfinish
    rfl
  | _ => rfl

theorem Path.isStarted_eq (h : Path (some l) t (some l'))
    (ht : ∀ started, .switched started ∉ t) : l'.agent.isStarted = l.agent.isStarted := by
  generalize hk : some l' = k at h
  induction h generalizing l' with
  | refl =>
    cases hk
    rfl
  | @tail m k t e prior last ih =>
    subst hk
    obtain ⟨m, rfl⟩ := prior.exists_of_some
    have hlast : ∀ started, e ≠ .switched started := fun started he =>
      ht started (he ▸ List.mem_concat_self)
    have hprior : m.agent.isStarted = l.agent.isStarted :=
      ih (fun started hmem => ht started (List.mem_append_left _ hmem)) rfl
    exact (last.isStarted_eq hlast).trans hprior

end Lane

namespace System

variable {s : System} {i : Nat} {a : Agent} {e : Event}

/-- **Only a start or a stop of a balancer switches it.** -/
theorem isStarted_step (h : s.Coherent) (ha : s.agent? i = some a)
    (hstart : ∀ launch, e ≠ .start i launch) (hstop : e ≠ .stop i) :
    ∃ a', (s.step e).agent? i = some a' ∧ a'.isStarted = a.isStarted := by
  obtain ⟨l, hshows, hsound⟩ := h.lanes i
  obtain ⟨o, rfl⟩ := hshows.exists_of_agent? ha
  obtain ⟨l', hshows', hpath⟩ := follows_step h e _ hshows hsound
  obtain ⟨l', rfl⟩ := hpath.exists_of_some
  have hswitch : ∀ started, .switched started ∉ s.entriesOf i e := by
    intro started hmem
    cases started with
    | true =>
      obtain ⟨launch, he⟩ := comesFrom_of_mem_entriesOf hmem
      exact hstart launch he
    | false => exact hstop (comesFrom_of_mem_entriesOf hmem)
  exact ⟨l'.agent, hshows'.agent, hpath.isStarted_eq hswitch⟩

theorem map_isStarted_step (h : s.Coherent) (hcreate : ∀ design now, e ≠ .create design now)
    (he : e.isReference = false) :
    (s.step e).agents.map Agent.isStarted = s.agents.map Agent.isStarted := by
  apply List.ext_getElem?
  intro i
  rw [List.getElem?_map, List.getElem?_map]
  show ((s.step e).agent? i).map Agent.isStarted = (s.agent? i).map Agent.isStarted
  cases ha : s.agent? i with
  | none =>
    cases ha' : (s.step e).agent? i with
    | none => rfl
    | some a' =>
      obtain ⟨design, now, rfl, -⟩ := exists_create h ha ha'
      exact absurd rfl (hcreate design now)
  | some a =>
    have hstart : ∀ launch, e ≠ .start i launch := by
      rintro launch rfl
      cases he
    have hstop : e ≠ .stop i := by
      rintro rfl
      cases he
    obtain ⟨a', ha', hstarted⟩ := isStarted_step h ha hstart hstop
    rw [ha', Option.map_some, Option.map_some, hstarted]

theorem agent?_stop (h : s.agent? i = some a) :
    ∃ a', (s.stop i).agent? i = some a' ∧ a'.isStarted = false := by
  rw [stop, h]
  by_cases hst : a.isStarted = true
  · refine ⟨a.setStarted false, ?_, ?_⟩
    · simp only [hst, if_true]
      exact agent?_modifyAgent_self h _
    · exact Agent.isStarted_setStarted (Agent.isBalancer_of_isStarted hst) false
  · exact ⟨a, by simpa [hst] using h, Bool.not_eq_true _ ▸ hst⟩

/-- A start that is not refused leaves the balancer started. -/
theorem agent?_start {launch : Launch} {fresh : Bool} (h : s.agent? i = some a)
    (hb : a.isBalancer = true) (hresult : (s.start i launch).1 = .ok fresh) :
    ∃ a', (s.start i launch).2.agent? i = some a' ∧ a'.isStarted = true := by
  rcases s.start_cases i launch with ⟨hon, hstart⟩ | ⟨b, hb', -, -, -, hstart⟩ |
    ⟨_, _, -, -, -, -, -, hstart⟩
  · rw [hstart]
    exact ⟨a, h, hon a h hb⟩
  · obtain rfl := Option.some.inj (hb'.symm.trans h)
    rw [hstart]
    exact ⟨b.setStarted true, agent?_modifyAgent_self h _, Agent.isStarted_setStarted hb true⟩
  · rw [hstart] at hresult
    cases hresult

/-! ## Who is refused -/

/-- An acquire is refused where a thread has to be made for it and cannot be. -/
theorem acquire_eq_error_iff {launch : Launch} {error : Error} :
    (s.acquire launch).1 = .error error ↔
      s.pool.isRunning = false ∧ launch.failure? = some error := by
  show (s.pool.acquire launch).1 = .error error ↔ s.pool.accepting = false ∧ _
  rcases s.pool.acquire_cases launch with ⟨htaken, hacquire⟩ | ⟨_, hfailure, hoff, hacquire⟩
  · rw [hacquire]
    refine iff_of_false nofun ?_
    rintro ⟨hoff, hfailure⟩
    rcases htaken with hmade | hon
    · cases hmade.symm.trans hfailure
    · cases hoff.symm.trans hon
  · rw [hacquire, hfailure]
    simp [hoff]

/-- An acquire that is refused changes nothing. -/

theorem acquire_of_error {launch : Launch} {error : Error}
    (h : (s.acquire launch).1 = .error error) : (s.acquire launch).2 = s := by
  change (s.pool.acquire launch).1 = .error error at h
  show ({ s with pool := (s.pool.acquire launch).2 } : System) = s
  rcases s.pool.acquire_cases launch with ⟨-, hacquire⟩ | ⟨_, -, -, hacquire⟩
  · rw [hacquire] at h
    cases h
  · rw [hacquire]

/-- A start is refused where the balancer is not started and the acquire it needs is refused. -/
theorem start_eq_error_iff {launch : Launch} {error : Error} :
    (s.start i launch).1 = .error error ↔
      (∃ a, s.agent? i = some a ∧ a.isBalancer = true ∧ a.isStarted = false) ∧
        s.pool.isRunning = false ∧ launch.failure? = some error := by
  show _ ↔ _ ∧ s.pool.accepting = false ∧ _
  rcases s.start_cases i launch with ⟨hon, hstart⟩ | ⟨_, -, -, -, htaken, hstart⟩ |
    ⟨a, _, ha, hb, hoff, hfailure, hstopped, hstart⟩
  · rw [hstart]
    refine iff_of_false nofun ?_
    rintro ⟨⟨a, ha, hb, hoff⟩, -⟩
    cases hoff.symm.trans (hon a ha hb)
  · rw [hstart]
    refine iff_of_false nofun ?_
    rintro ⟨-, hstopped, hfailure⟩
    rcases htaken with hmade | hon
    · cases hmade.symm.trans hfailure
    · cases hstopped.symm.trans hon
  · rw [hstart, hfailure]
    simp [ha, hb, hoff, hstopped]

/-- A start that is refused changes nothing: the balancer is not started after all. -/
theorem start_of_error {launch : Launch} {error : Error}
    (h : (s.start i launch).1 = .error error) : (s.start i launch).2 = s := by
  rcases s.start_cases i launch with ⟨-, hstart⟩ | ⟨_, -, -, -, -, hstart⟩ |
    ⟨_, _, -, -, -, -, -, hstart⟩
  · rw [hstart]
  · rw [hstart] at h
    cases h
  · rw [hstart]

/-! ## From one switch to the next -/

/-- A balancer that is not started stays so until it is started. -/
theorem not_started_of_not_mem {later : List Event} (h : s.Coherent)
    (hs : ∀ a, s.agent? i = some a → a.isStarted = false)
    (hlater : ∀ launch, Event.start i launch ∉ later) :
    ∀ a, (s.run later).agent? i = some a → a.isStarted = false := by
  induction later generalizing s with
  | nil => exact hs
  | cons e later ih =>
    have hstart : ∀ launch, e ≠ .start i launch := fun launch he =>
      hlater launch (he ▸ List.mem_cons_self)
    refine ih (h.step e) ?_ fun launch hmem => hlater launch (List.mem_cons_of_mem e hmem)
    intro a' ha'
    cases ha : s.agent? i with
    | none =>
      obtain ⟨design, now, -, hmade⟩ := exists_create h ha ha'
      exact (Design.fresh hmade).started
    | some a =>
      by_cases hstop : e = .stop i
      · subst hstop
        obtain ⟨b, hb, hoff⟩ := agent?_stop ha
        rw [Option.some.inj (ha'.symm.trans hb)]
        exact hoff
      · obtain ⟨b, hb, hsame⟩ := isStarted_step h ha hstart hstop
        rw [Option.some.inj (ha'.symm.trans hb), hsame]
        exact hs a ha

/-- A balancer that is started stays so until it is stopped. -/
theorem started_of_not_mem {later : List Event} (h : s.Coherent) (ha : s.agent? i = some a)
    (hs : a.isStarted = true) (hlater : Event.stop i ∉ later) :
    ∃ a', (s.run later).agent? i = some a' ∧ a'.isStarted = true := by
  induction later generalizing s a with
  | nil => exact ⟨a, ha, hs⟩
  | cons e later ih =>
    have hstop : e ≠ .stop i := fun he => hlater (he ▸ List.mem_cons_self)
    have hrest : Event.stop i ∉ later := fun hmem => hlater (List.mem_cons_of_mem e hmem)
    by_cases hstart : ∃ launch, e = .start i launch
    · obtain ⟨launch, rfl⟩ := hstart
      have hsame : s.step (.start i launch) = s := congrArg Prod.snd (start_of_started ha hs launch)
      rw [run_cons, hsame]
      exact ih h ha hs hrest
    · obtain ⟨b, hb, hsame⟩ := isStarted_step h ha (fun launch he => hstart ⟨launch, he⟩) hstop
      exact ih (h.step e) hb (hsame.trans hs) hrest

/-! ## Counting references -/

/-- The references of a worker that is held by the started balancers and so many times directly. -/
structure Referenced (s : System) (held : Nat) : Prop where
  sound : s.pool.Sound
  refs : s.pool.refs = s.agents.countP Agent.isStarted + held

namespace Referenced

variable {held : Nat}

theorem frame {s' : System} (h : Referenced s held)
    (hpool : WorkerPool.SameReferences s.pool s'.pool)
    (hagents : s'.agents.countP Agent.isStarted = s.agents.countP Agent.isStarted) :
    Referenced s' held := by
  refine ⟨h.sound.of_same hpool, ?_⟩
  rw [hpool.refs, hagents]
  exact h.refs

theorem acquire (h : Referenced s held) (launch : Launch) :
    Referenced (s.acquire launch).2 (s.direct (.acquire launch) held) := by
  have hdirect : s.direct (.acquire launch) held =
      held + (s.pool.acquire launch).1.isOk.toNat := rfl
  refine ⟨h.sound.acquire launch, ?_⟩
  show (s.pool.acquire launch).2.refs = s.agents.countP Agent.isStarted + _
  rw [hdirect]
  rcases s.pool.acquire_cases launch with ⟨-, hacquire⟩ | ⟨_, -, -, hacquire⟩
  · rw [hacquire, WorkerPool.refs_engage, h.refs, Nat.add_assoc]
    rfl
  · rw [hacquire]
    exact h.refs

theorem release (h : Referenced s held) (hpos : 0 < held) :
    Referenced s.release (s.direct .release held) where
  sound := h.sound.release
  refs := by
    show s.pool.refs - 1 = s.agents.countP Agent.isStarted + (held - 1)
    rw [h.refs]
    omega

/-- A balancer that is switched is counted as what it has become. -/
theorem countP_setStarted (ha : s.agent? i = some a) (hb : a.isBalancer = true) (started : Bool) :
    (s.modifyAgent i (·.setStarted started)).agents.countP Agent.isStarted + a.isStarted.toNat =
      s.agents.countP Agent.isStarted + started.toNat := by
  obtain ⟨rest, hbefore, hafter⟩ := exists_perm_modify ha
  have hcount : ∀ b : Agent, (b :: rest).countP Agent.isStarted =
      rest.countP Agent.isStarted + b.isStarted.toNat := by
    intro b
    cases hst : b.isStarted <;> simp [hst]
  rw [modifyAgent, (hafter _).countP_eq, hbefore.countP_eq, hcount, hcount,
    Agent.isStarted_setStarted hb]
  omega

theorem start (h : Referenced s held) (i : Nat) (launch : Launch) :
    Referenced (s.start i launch).2 held := by
  rcases s.start_cases i launch with ⟨-, hstart⟩ | ⟨a, ha, hb, hoff, -, hstart⟩ |
    ⟨_, _, -, -, -, -, -, hstart⟩
  · rw [hstart]
    exact h
  · have hcount := countP_setStarted ha hb true
    rw [hoff, Bool.toNat_false, Bool.toNat_true, Nat.add_zero] at hcount
    rw [hstart]
    refine ⟨h.sound.engage, ?_⟩
    show s.pool.engage.refs =
      (s.modifyAgent i (·.setStarted true)).agents.countP Agent.isStarted + held
    rw [WorkerPool.refs_engage, h.refs, hcount]
    omega
  · rw [hstart]
    exact h

theorem stop (h : Referenced s held) (i : Nat) : Referenced (s.stop i) held := by
  rw [System.stop]
  split
  · exact h
  · rename_i a ha
    split
    · rename_i hon
      have hcount := countP_setStarted ha (Agent.isBalancer_of_isStarted hon) false
      refine ⟨h.sound.release, ?_⟩
      show s.pool.refs - 1 =
        (s.modifyAgent i (·.setStarted false)).agents.countP Agent.isStarted + held
      rw [hon, Bool.toNat_false, Bool.toNat_true] at hcount
      rw [h.refs]
      omega
    · exact h

theorem other (h : Referenced s held) (hc : s.Coherent)
    (hcreate : ∀ design now, e ≠ .create design now) (he : e.isReference = false) :
    Referenced (s.step e) held := by
  refine h.frame (sameReferences_step s he) ?_
  have hcount := congrArg (List.countP id) (map_isStarted_step hc hcreate he)
  rwa [List.countP_map, List.countP_map] at hcount

/-- **Each event keeps the references counted.** -/
theorem step (h : Referenced s held) (hc : s.Coherent) {e : Event}
    (he : e = .release → 0 < held) : Referenced (s.step e) (s.direct e held) := by
  cases e with
  | create design now =>
    rw [System.step]
    cases hmade : design.agent now with
    | error error => exact h
    | ok a =>
      refine h.frame (.refl _) ?_
      show (s.agents ++ [a]).countP Agent.isStarted = s.agents.countP Agent.isStarted
      simp [(Design.fresh hmade).started]
  | acquire launch => exact h.acquire launch
  | release => exact h.release (he rfl)
  | start i launch => exact h.start i launch
  | stop i => exact h.stop i
  | _ => exact h.other hc (by rintro _ _ ⟨⟩) rfl

end Referenced

theorem referenced {events : List Event} (h : ¬ Overdrawn events) :
    Referenced (empty.run events) (outstanding events) := by
  induction events using List.reverseRecOn with
  | nil => exact ⟨WorkerPool.sound_empty, rfl⟩
  | append_singleton past e ih =>
    obtain ⟨hdirect, hheld⟩ := outstanding_concat h
    rw [run_append, hdirect]
    exact (ih fun hover => h hover.append).step (coherent_empty.run past) hheld

theorem Referenced.isRunning_iff {held : Nat} (h : Referenced s held) :
    s.pool.isRunning = true ↔ 0 < s.agents.countP Agent.isStarted + held := by
  rw [WorkerPool.isRunning, h.sound.referenced, h.refs]

theorem Referenced.isRunning_of_started {held : Nat} (h : Referenced s held)
    (ha : s.agent? i = some a) (hs : a.isStarted = true) : s.pool.isRunning = true := by
  have hpos : 0 < s.agents.countP Agent.isStarted :=
    List.countP_pos_iff.mpr ⟨a, List.mem_of_getElem? ha, hs⟩
  exact h.isRunning_iff.mpr (Nat.add_pos_left hpos held)

/-- **Who holds the worker**, whatever the run.  Each started balancer counts once, and so does each
reference that was taken directly; whoever is refused leaves everything as it was. -/
theorem references (events : List Event) (h : ¬ Overdrawn events) :
    (empty.run events).pool.refs =
        (empty.run events).agents.countP Agent.isStarted + outstanding events ∧
    ((empty.run events).pool.isRunning = true ↔
      0 < (empty.run events).agents.countP Agent.isStarted + outstanding events) ∧
    (∀ i a, (empty.run events).agent? i = some a → a.isStarted = true →
      (empty.run events).pool.isRunning = true ∧
      ∀ j, j ≠ i → ((empty.run events).stop j).pool.isRunning = true ∧
        ∃ a', ((empty.run events).stop j).agent? i = some a' ∧ a'.isStarted = true) ∧
    (∀ launch error, (((empty.run events).acquire launch).1 = .error error ↔
        (empty.run events).pool.isRunning = false ∧ launch.failure? = some error) ∧
      (((empty.run events).acquire launch).1 = .error error →
        ((empty.run events).acquire launch).2 = empty.run events)) ∧
    (∀ i launch error, (((empty.run events).start i launch).1 = .error error ↔
        (∃ a, (empty.run events).agent? i = some a ∧ a.isBalancer = true ∧ a.isStarted = false) ∧
          (empty.run events).pool.isRunning = false ∧ launch.failure? = some error) ∧
      (((empty.run events).start i launch).1 = .error error →
        ((empty.run events).start i launch).2 = empty.run events)) ∧
    ∀ past later i,
      (events = past ++ .stop i :: later → (∀ launch, Event.start i launch ∉ later) →
        ∀ a, (empty.run events).agent? i = some a → a.isStarted = false) ∧
      ∀ launch fresh, events = past ++ .start i launch :: later → Event.stop i ∉ later →
        ((empty.run past).start i launch).1 = .ok fresh →
        ∀ a, (empty.run past).agent? i = some a → a.isBalancer = true →
          ∃ a', (empty.run events).agent? i = some a' ∧ a'.isStarted = true := by
  have href := referenced h
  have hcoherent := coherent_empty.run events
  refine ⟨href.refs, href.isRunning_iff, fun i a ha hs => ⟨href.isRunning_of_started ha hs, ?_⟩,
    fun launch error => ⟨acquire_eq_error_iff, acquire_of_error⟩,
    fun i launch error => ⟨start_eq_error_iff, start_of_error⟩,
    fun past later i => ⟨?_, fun launch fresh => ?_⟩⟩
  · intro j hj
    have hstop : Event.stop j ≠ .stop i := fun he => hj (Event.stop.inj he)
    obtain ⟨a', ha', hsame⟩ := isStarted_step hcoherent ha (fun _ he => by cases he) hstop
    exact ⟨(href.stop j).isRunning_of_started ha' (hsame.trans hs), a', ha', hsame.trans hs⟩
  · rintro rfl hlater
    have hpast := coherent_empty.run past
    rw [run_append, run_cons]
    refine not_started_of_not_mem (hpast.step (.stop i)) ?_ hlater
    intro a' ha'
    change ((empty.run past).stop i).agent? i = some a' at ha'
    cases ha : (empty.run past).agent? i with
    | none =>
      rw [stop, ha] at ha'
      cases ha.symm.trans ha'
    | some a =>
      obtain ⟨b, hb, hoff⟩ := agent?_stop ha
      rw [Option.some.inj (ha'.symm.trans hb)]
      exact hoff
  · rintro rfl hlater hresult a ha hb
    obtain ⟨b, hb', hon⟩ := agent?_start ha hb hresult
    rw [run_append, run_cons]
    exact started_of_not_mem ((coherent_empty.run past).step (.start i launch)) hb' hon hlater

/-- Two balancers that were started twice, one of which was refused at first and stopped twice, and
a reference that was taken directly and given back.  With the worker running, it does not matter any
more that no thread could be made. -/
def sharedRun : List Event :=
  [.create (.balancer (Config.ofNodes ["10.0.0.1"])) ⟨0⟩,
    .create (.balancer (Config.ofNodes ["10.0.0.2"])) ⟨0⟩, .start 0 (.noThread "out of memory"),
    .acquire (.noRuntime "too many open files"), .start 0 .made, .start 1 .exited, .start 0 .made,
    .acquire .exited, .start 1 .made, .stop 0, .stop 0, .release]

theorem references_sharedRun :
    (empty.run sharedRun).pool.refs = 1 ∧ (empty.run sharedRun).pool.isRunning = true ∧
      (empty.run (sharedRun ++ [.stop 1])).pool.isRunning = false ∧
      ((empty.run (sharedRun ++ [.stop 1])).start 0 .exited).1 =
        .error (.workerFailure "refresh worker exited during startup") := by
  have hprefixes : ∀ past ∈ (sharedRun ++ [Event.stop 1]).inits,
      past.countP Event.isRelease ≤ empty.taken past := by decide
  have hstopped : ¬ Overdrawn (sharedRun ++ [.stop 1]) := by
    rintro ⟨past, hpast, hlt⟩
    exact Nat.not_lt_of_le (hprefixes past ((List.mem_inits past _).mpr hpast)) hlt
  obtain ⟨hrefs, hrunning, -, -⟩ := references sharedRun fun hover => hstopped hover.append
  obtain ⟨-, hrunning', -, -, hrefused, -⟩ := references (sharedRun ++ [.stop 1]) hstopped
  have hidle : (empty.run (sharedRun ++ [.stop 1])).pool.isRunning = false := by
    rw [← Bool.not_eq_true, hrunning']
    decide
  refine ⟨hrefs.trans (by decide), hrunning.mpr (by decide), hidle, ?_⟩
  refine (hrefused 0 _ _).1.mpr ⟨?_, hidle, rfl⟩
  have ha := (Option.some_get (x := (empty.run (sharedRun ++ [.stop 1])).agent? 0) (by decide)).symm
  exact ⟨_, ha, by decide, by decide⟩

end System

end NodeBalancer
