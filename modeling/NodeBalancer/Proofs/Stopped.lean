import NodeBalancer.Proofs.References
import NodeBalancer.Proofs.SingleFlight
import NodeBalancer.Proofs.System.Ledger
import NodeBalancer.Proofs.System.Results

/-!
# A stopped balancer

A stopped balancer begins no refresh, but one that was queued before outlives the stop, and even the
worker.  Since there is at most one, the balancer asks at most one more question and changes its
list at most once, and neither if no refresh was under way.

The bound is a potential: a refresh that waits has one question before it, and so on
(`Stage.asks`, `Stage.awaits`, `Stage.installs`), no step of a lane takes more than it has, and only
a refresh that begins brings more (`Lane.Path.length_filterMap_le`).

* `Event.isPassive`: what may happen to a balancer that is left alone.
* `System.isPrompted_journal`: then nothing begins and no list comes from outside.
* `System.goes_quiet`: the bound, for every state and whatever happens afterwards.
-/

namespace NodeBalancer

namespace Entry

/-- The node that a refresh begins to ask, if it does. -/
def asked? : Entry → Option Endpoint
  | moved _ (.asking base) => some base
  | _ => none

/-- Whether the entry tells of something that nobody does to a balancer that is left alone. -/
def isPrompted : Entry → Bool
  | began => true
  | replaced _ => true
  | switched started => started
  | _ => false

end Entry

namespace Stage

/-- The questions that a refresh has still to ask. -/
def asks : Stage → Nat
  | waiting => 1
  | _ => 0

/-- The answers that a refresh has still to get. -/
def awaits : Stage → Nat
  | waiting => 1
  | asking _ => 1
  | _ => 0

/-- The lists that a refresh has still to install. -/
def installs : Stage → Nat
  | waiting => 1
  | asking _ => 1
  | answered _ => 1
  | _ => 0

theorem asks_le (stage : Stage) : stage.asks ≤ 1 := by
  cases stage <;> simp [asks]

theorem awaits_le (stage : Stage) : stage.awaits ≤ 1 := by
  cases stage <;> simp [awaits]

theorem installs_le (stage : Stage) : stage.installs ≤ 1 := by
  cases stage <;> simp [installs]

end Stage

namespace Lane

variable {l l' : Lane} {t : List Entry} {e : Entry}

/-- What is left of a refresh in flight. -/
def left (μ : Stage → Nat) (l : Lane) : Nat := l.flight.elim 0 μ

theorem left_le {μ : Stage → Nat} (hμ : ∀ stage, μ stage ≤ 1) (l : Lane) :
    l.left μ ≤ l.flight.toList.length := by
  obtain ⟨a, o⟩ := l
  cases o with
  | none => exact Nat.le_refl 0
  | some stage => exact hμ stage

/-! ## What a refresh still does -/

theorem Step.asked?_add_left_le (h : Step (some l) e (some l')) (he : e.isPrompted = false) :
    e.asked?.toList.length + l'.left Stage.asks ≤ l.left Stage.asks := by
  cases h with
  | begin a hf => cases he
  | replace a o nodes => cases he
  | finish a a' stage now hs hfinish => exact Nat.zero_le _
  | overflow a stage now hs hfinish => exact Nat.zero_le _
  | _ => simp [Entry.asked?, left, Stage.asks]

theorem Step.answer?_add_left_le (h : Step (some l) e (some l')) (he : e.isPrompted = false) :
    e.answer?.toList.length + l'.left Stage.awaits ≤ l.left Stage.awaits := by
  cases h with
  | begin a hf => cases he
  | replace a o nodes => cases he
  | finish a a' stage now hs hfinish => exact Nat.zero_le _
  | overflow a stage now hs hfinish => exact Nat.zero_le _
  | _ => simp [Entry.answer?, left, Stage.awaits]

theorem Step.installed?_add_left_le (h : Step (some l) e (some l')) (he : e.isPrompted = false) :
    e.installed?.toList.length + l'.left Stage.installs ≤ l.left Stage.installs := by
  cases h with
  | begin a hf => cases he
  | replace a o nodes => cases he
  | settle a nodes => exact Option.length_toList_le
  | finish a a' stage now hs hfinish => exact Nat.zero_le _
  | overflow a stage now hs hfinish => exact Nat.zero_le _
  | _ => simp [Entry.installed?, left, Stage.installs]

/-- **Only a refresh that begins brings more.**  What each step of a lane takes from what is left,
no path can take more of than there was. -/
theorem Path.length_filterMap_add_left_le {β : Type} {f : Entry → Option β} {μ : Stage → Nat}
    (hstep : ∀ {l l' : Lane} {e : Entry}, Step (some l) e (some l') → e.isPrompted = false →
      (f e).toList.length + l'.left μ ≤ l.left μ)
    (h : Path (some l) t (some l')) (ht : ∀ e ∈ t, e.isPrompted = false) :
    (t.filterMap f).length + l'.left μ ≤ l.left μ := by
  generalize hk : some l' = k at h
  induction h generalizing l' with
  | refl =>
    cases hk
    simp
  | @tail m k t e prior last ih =>
    subst hk
    obtain ⟨m, rfl⟩ := prior.exists_of_some
    have hlast := hstep last (ht e List.mem_concat_self)
    have hprior := ih (fun e he => ht e (List.mem_append_left _ he)) rfl
    have hnew : ([e].filterMap f).length = (f e).toList.length := by
      cases hf : f e <;> simp [hf]
    rw [List.filterMap_append, List.length_append, hnew]
    omega

theorem Path.length_filterMap_le {β : Type} {f : Entry → Option β} {μ : Stage → Nat}
    (hμ : ∀ stage, μ stage ≤ 1)
    (hstep : ∀ {l l' : Lane} {e : Entry}, Step (some l) e (some l') → e.isPrompted = false →
      (f e).toList.length + l'.left μ ≤ l.left μ)
    (h : Path (some l) t (some l')) (ht : ∀ e ∈ t, e.isPrompted = false) :
    (t.filterMap f).length ≤ l.flight.toList.length :=
  (Nat.le_of_add_right_le (h.length_filterMap_add_left_le hstep ht)).trans (left_le hμ l)

end Lane

/-- Whether an event leaves an agent alone: it is not a start, a forced refresh or a probe of it,
and does not go past the balancer to its schedule or its registry. -/
def Event.isPassive (i : Nat) : Event → Bool
  | start j _ => decide (j ≠ i)
  | maybeSchedule j _ _ => decide (j ≠ i)
  | forceRefresh j _ => decide (j ≠ i)
  | replace j _ => decide (j ≠ i)
  | beginComparison j _ => decide (j ≠ i)
  | beginValidation j => decide (j ≠ i)
  | _ => true

namespace System

variable {s : System} {i : Nat} {a : Agent} {later : List Event}

/-! ## What happens to a balancer that is left alone -/

theorem isPrompted_entriesOf (hoff : ∀ a, s.agent? i = some a → a.isStarted = false) {e : Event}
    (he : e.isPassive i = true) : ∀ x ∈ s.entriesOf i e, x.isPrompted = false := by
  intro x hx
  have hsource := comesFrom_of_mem_entriesOf hx
  cases x with
  | began =>
    rcases hsource with ⟨now, later, -, hon⟩ | ⟨now, later, rfl⟩ | ⟨now, rfl⟩
    · obtain ⟨a, ha, hon⟩ := (Option.any_eq_true _ _).mp hon
      rw [hoff a ha] at hon
      cases hon
    · simp [Event.isPassive] at he
    · simp [Event.isPassive] at he
  | replaced nodes =>
    obtain rfl : e = .replace i nodes := hsource
    simp [Event.isPassive] at he
  | switched started =>
    cases started with
    | false => rfl
    | true =>
      obtain ⟨launch, rfl⟩ : ∃ launch, e = .start i launch := hsource
      simp [Event.isPassive] at he
  | _ => rfl

theorem ne_start_of_passive {e : Event} (he : e.isPassive i = true) (launch : Launch) :
    e ≠ .start i launch := by
  rintro rfl
  simp [Event.isPassive] at he

/-- A balancer that is left alone begins no refresh and gets no list from outside. -/
theorem isPrompted_journal (h : s.Coherent)
    (hoff : ∀ a, s.agent? i = some a → a.isStarted = false)
    (hlater : ∀ e ∈ later, e.isPassive i = true) :
    ∀ x ∈ s.journal i later, x.isPrompted = false := by
  induction later generalizing s with
  | nil => exact nofun
  | cons e later ih =>
    have he := hlater e List.mem_cons_self
    have hoff' : ∀ a, (s.run [e]).agent? i = some a → a.isStarted = false :=
      not_started_of_not_mem h hoff fun launch hmem =>
        ne_start_of_passive he launch (List.mem_singleton.mp hmem).symm
    intro x hx
    rcases List.mem_append.mp hx with hx | hx
    · exact isPrompted_entriesOf hoff he x hx
    · exact ih (h.step e) hoff' (fun e' he' => hlater e' (List.mem_cons_of_mem e he')) x hx

theorem asked_run (s : System) (hlater : ∀ e ∈ later, e.isPassive i = true) :
    (s.run later).asked i + (s.run later).probing i ≤
      s.asked i + s.probing i + ((s.journal i later).filterMap Entry.answer?).length := by
  induction later generalizing s with
  | nil => exact Nat.le_refl _
  | cons e later ih =>
    have he := hlater e List.mem_cons_self
    have hcompare : ∀ kind, e ≠ .beginComparison i kind := by
      rintro kind rfl
      simp [Event.isPassive] at he
    have hvalidate : e ≠ .beginValidation i := by
      rintro rfl
      simp [Event.isPassive] at he
    have hstep := asked_step (s := s) hcompare hvalidate
    have hrest := ih (s.step e) fun e' he' => hlater e' (List.mem_cons_of_mem e he')
    rw [run_cons, journal, List.filterMap_append, List.length_append]
    omega

theorem next?_of_not_started (h : s.agent? i = some a) (hoff : a.isStarted = false)
    (now later : Instant) :
    (s.next? i now later).map Prod.fst = some (.ok a.registry.current) := by
  rw [next?_of_agent h, hoff]
  rfl

/-- **A stopped balancer goes quiet**, whatever happened before and whatever happens afterwards.
The probes that were under way when it was left alone still ask what they have to ask; they are
counted apart (`probing`), and where there are none all questions come from the one refresh. -/
theorem goes_quiet (past later : List Event) (i : Nat) (a : Agent)
    (h : (empty.run past).agent? i = some a) (hoff : a.isStarted = false)
    (hlater : ∀ e ∈ later, e.isPassive i = true) :
    ((empty.run past).stages i).length ≤ 1 ∧
    (((empty.run past).journal i later).filterMap Entry.asked?).length ≤
      ((empty.run past).stages i).length ∧
    (empty.run (past ++ later)).asked i ≤
      (empty.run past).asked i + (empty.run past).probing i +
        ((empty.run past).stages i).length ∧
    (((empty.run past).journal i later).filterMap Entry.installed?).length ≤
      ((empty.run past).stages i).length ∧
    ∃ a', (empty.run (past ++ later)).agent? i = some a' ∧ a'.isStarted = false ∧
      a'.registry.nodes = listAfter a.registry.nodes ((empty.run past).journal i later) ∧
      ∀ now after, ∃ node, node ∈ a'.registry.nodes ∧
        ((empty.run (past ++ later)).next? i now after).map Prod.fst = some (.ok node) := by
  have hcoherent := coherent_empty.run past
  have hoffs : ∀ b, (empty.run past).agent? i = some b → b.isStarted = false := by
    intro b hb
    rw [Option.some.inj (hb.symm.trans h)]
    exact hoff
  have hquiet := isPrompted_journal hcoherent hoffs hlater
  obtain ⟨o, hshows, hbefore⟩ := exists_path h
  obtain ⟨l, hshows', hpath⟩ := hcoherent.exists_path hshows (hbefore.sound trivial) later
  obtain ⟨⟨a', o'⟩, rfl⟩ := hpath.exists_of_some
  have hstages : ((empty.run past).stages i).length = o.toList.length := hshows.stages.length_eq
  have ha' : (empty.run (past ++ later)).agent? i = some a' := by
    rw [run_append]
    exact hshows'.agent
  have hoff' : a'.isStarted = false := by
    rw [run_append] at ha'
    exact not_started_of_not_mem hcoherent hoffs
      (fun launch hmem => ne_start_of_passive (hlater _ hmem) launch rfl) a' ha'
  have hasked := hpath.length_filterMap_le Stage.asks_le Lane.Step.asked?_add_left_le hquiet
  have hanswered : (((empty.run past).journal i later).filterMap Entry.answer?).length ≤
      o.toList.length :=
    hpath.length_filterMap_le Stage.awaits_le Lane.Step.answer?_add_left_le hquiet
  have hinstalled :=
    hpath.length_filterMap_le Stage.installs_le Lane.Step.installed?_add_left_le hquiet
  have hqueries := asked_run (empty.run past) hlater
  have hrotates := hbefore.rotates
  have hrotates' := (hbefore.trans hpath).rotates
  have hnodes : a'.registry.nodes =
      listAfter a.registry.nodes ((empty.run past).journal i later) := by
    have hseeds : a'.registry.seeds = a.registry.seeds := hrotates.seeds_eq hrotates'
    have hlist := hrotates'.nodes
    rw [listAfter_append, hseeds, ← hrotates.nodes] at hlist
    exact hlist
  refine ⟨stages_length_le_one h, hstages ▸ hasked, ?_, hstages ▸ hinstalled, a', ha', hoff',
    hnodes, fun now after => ⟨a'.registry.current, ?_, next?_of_not_started ha' hoff' now after⟩⟩
  · rw [run_append, hstages]
    omega
  · exact List.mem_of_getElem? (Registry.getElem?_current hrotates'.nodes_ne_nil)

/-- A balancer that is stopped with a refresh on the queue of the worker, which stops with it. -/
def stoppedRun : List Event :=
  [.create (.balancer { Config.ofNodes ["10.0.0.1"] with updateInterval := ⟨1⟩ }) ⟨0⟩,
    .start 0 .made, .next 0 ⟨0⟩ ⟨0⟩, .stop 0]

/-- The worker works off its queue while the balancer is picked from and dropped. -/
def afterStop : List Event :=
  [.stepThread 0 (.nodes []) ⟨1⟩, .next 0 ⟨5⟩ ⟨5⟩, .stop 0,
    .stepThread 0 (.nodes [⟨.http, .v4 ⟨10, 0, 0, 2⟩, 8080⟩]) ⟨6⟩, .stepThread 0 (.nodes []) ⟨6⟩,
    .stepThread 0 (.nodes []) ⟨6⟩, .next 0 ⟨9⟩ ⟨9⟩, .stepThread 0 (.nodes []) ⟨9⟩]

theorem goes_quiet_afterStop :
    (empty.run stoppedRun).pool.isRunning = false ∧ (empty.run stoppedRun).asked 0 = 0 ∧
      (empty.run (stoppedRun ++ afterStop)).asked 0 = 1 ∧
      ∃ a', (empty.run (stoppedRun ++ afterStop)).agent? 0 = some a' ∧ a'.isStarted = false ∧
        a'.registry.nodes = [⟨.http, .v4 ⟨10, 0, 0, 2⟩, 8080⟩] := by
  have ha := (Option.some_get (x := (empty.run stoppedRun).agent? 0) (by decide)).symm
  obtain ⟨-, -, hasked, -, a', ha', hoff, hnodes, -⟩ :=
    goes_quiet stoppedRun afterStop 0 _ ha (by decide) (by decide)
  have hbefore : (empty.run stoppedRun).asked 0 + (empty.run stoppedRun).probing 0 +
      ((empty.run stoppedRun).stages 0).length = 1 := by decide
  refine ⟨by decide, by decide, ?_, a', ha', hoff, hnodes.trans (by decide)⟩
  exact Nat.le_antisymm (hbefore ▸ hasked) (by decide)

end System

end NodeBalancer
