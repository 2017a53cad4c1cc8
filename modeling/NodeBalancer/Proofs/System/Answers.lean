import Mathlib.Data.List.Induction
import NodeBalancer.Proofs.Agent.Answers
import NodeBalancer.Proofs.System.Sources

/-!
# Answers in a run

An event answers at most one refresh, and the state in which it is made tells which
(`System.answers?`).  The journal says the same (`filterMap_answer?_entriesOf`).  With what is known
of the lane of an agent, the lists that an agent has installed are then its answers that are not
empty (`filter_answers_eq`).
-/

namespace NodeBalancer

/-- The list that a refresh of the agent gets from an answer, if it waits for one. -/
def Refresh.answer? (i : Nat) (answer : Answer) (r : Refresh) : Option (List Endpoint) :=
  match r.stage, answer with
  | .asking _, .nodes nodes => if r.agent = i then some nodes else none
  | _, _ => none

theorem Refresh.of_answer?_eq_some {i : Nat} {answer : Answer} {r : Refresh}
    {nodes : List Endpoint} (h : r.answer? i answer = some nodes) :
    r.agent = i ∧ answer = .nodes nodes ∧ ∃ base, r.stage = .asking base := by
  obtain ⟨j, stage⟩ := r
  cases stage with
  | asking base =>
    cases answer with
    | broken message => cases h
    | nodes nodes' =>
      simp only [answer?, Option.ite_none_right_eq_some, Option.some.injEq] at h
      exact ⟨h.1, congrArg Answer.nodes h.2, base, rfl⟩
  | _ => cases h

namespace System

/-- The answer that an event gives to a refresh of an agent. -/
def answers? (s : System) (i : Nat) : Event → Option (List Endpoint)
  | .stepThread thread answer _ => (s.task? thread).bind fun (r, _) => r.answer? i answer
  | .advanceCall position answer _ =>
    ((s.calls[position]?).bind Call.refresh?).bind (Refresh.answer? i answer)
  | _ => none

variable {s : System} {events : List Event} {i : Nat} {a : Agent}

/-! ## What the journal says of answers -/

theorem answer?_refreshEntry (r : Refresh) (answer : Answer) (now : Instant) :
    (if r.agent = i then some (s.refreshEntry r answer now).2 else none).bind Entry.answer? =
      r.answer? i answer := by
  obtain ⟨j, stage⟩ := r
  by_cases hji : j = i
  · subst hji
    cases stage with
    | waiting =>
      cases h : s.agent? j <;>
        simp [refreshEntry, stepRefresh, pick?, h, Refresh.withStage, Refresh.answer?, Entry.answer?]
    | asking base =>
      cases answer <;>
        simp [refreshEntry, stepRefresh, Refresh.withStage, Refresh.answer?, Entry.answer?]
    | answered nodes =>
      simp [refreshEntry, stepRefresh, Refresh.withStage, Refresh.answer?, Entry.answer?]
    | broken message => simp [refreshEntry, stepRefresh, Refresh.answer?, Entry.answer?]
    | settled replaced => simp [refreshEntry, stepRefresh, Refresh.answer?, Entry.answer?]
  · cases stage <;> cases answer <;> simp [Refresh.answer?, hji]

/-- A refresh that has not ended has an agent. -/
theorem Coherent.exists_agent? (h : s.Coherent) {r : Refresh} (hr : r ∈ s.refreshes) :
    ∃ a, s.agent? r.agent = some a := by
  obtain ⟨l, hshows, -⟩ := h.lanes r.agent
  obtain ⟨a, ha, -⟩ := hshows.of_refresh (List.perm_cons_erase hr)
  exact ⟨a, ha⟩

theorem Coherent.exists_agent?_of_mem_stages (h : s.Coherent) {stage : Stage}
    (hstage : stage ∈ s.stages i) : ∃ a, s.agent? i = some a := by
  obtain ⟨r, hr, -⟩ := List.mem_map.mp hstage
  obtain ⟨hmem, hagent⟩ := List.mem_filter.mp hr
  obtain rfl : r.agent = i := of_decide_eq_true hagent
  exact h.exists_agent? hmem

theorem mem_refreshes_of_task? {thread : Nat} {r : Refresh} {pool : WorkerPool Refresh}
    (h : s.task? thread = some (r, pool)) : r ∈ s.refreshes := by
  obtain ⟨hrun, htasks, -⟩ := task?_eq_some h
  obtain ⟨rest, hperm, -⟩ := WorkerPool.exists_tasks_running hrun
  rw [refreshes, ← htasks]
  exact List.mem_append_left _ (hperm.symm.subset List.mem_cons_self)

theorem mem_refreshes_of_call {position : Nat} {r : Refresh}
    (h : (s.calls[position]?).bind Call.refresh? = some r) : r ∈ s.refreshes := by
  obtain ⟨call, hcall, hr⟩ := Option.bind_eq_some_iff.mp h
  exact List.mem_append_right _ (List.mem_filterMap.mpr ⟨call, List.mem_of_getElem? hcall, hr⟩)

/-- Only a refresh of an agent that is there is answered. -/
theorem Coherent.exists_agent?_of_answers? (h : s.Coherent) {e : Event} {nodes : List Endpoint}
    (hanswer : s.answers? i e = some nodes) : ∃ a, s.agent? i = some a := by
  cases e with
  | stepThread thread answer now =>
    obtain ⟨⟨r, pool⟩, htask, hr⟩ := Option.bind_eq_some_iff.mp hanswer
    obtain ⟨rfl, -⟩ := Refresh.of_answer?_eq_some hr
    exact h.exists_agent? (mem_refreshes_of_task? htask)
  | advanceCall position answer now =>
    obtain ⟨r, hcall, hr⟩ := Option.bind_eq_some_iff.mp hanswer
    obtain ⟨rfl, -⟩ := Refresh.of_answer?_eq_some hr
    exact h.exists_agent? (mem_refreshes_of_call hcall)
  | _ => cases hanswer

theorem filterMap_answer?_entriesOf (h : s.agent? i = some a) (e : Event) :
    (s.entriesOf i e).filterMap Entry.answer? = (s.answers? i e).toList := by
  rw [filterMap_listMove? (fun _ => rfl) (fun _ => rfl) (fun _ => rfl) (fun _ => rfl) rfl
    (fun _ _ => rfl) h]
  cases e with
  | replace j nodes => by_cases hji : j = i <;> simp [listMove?, answers?, hji, Entry.answer?]
  | stepThread thread answer now =>
    rw [listMove?, answers?]
    cases s.task? thread with
    | none => rfl
    | some task =>
      obtain ⟨r, pool⟩ := task
      simp only [Option.bind_some, answer?_refreshEntry (s := { s with pool := pool })]
  | advanceCall position answer now =>
    rw [listMove?, answers?]
    cases (s.calls[position]?).bind Call.refresh? with
    | none => rfl
    | some r => simp only [Option.bind_some, answer?_refreshEntry]
  | _ => rfl

/-- An agent that is not there can at most be made. -/
theorem Coherent.filterMap_answer?_of_absent (h : s.Coherent) (ha : s.agent? i = none) (e : Event) :
    (s.entriesOf i e).filterMap Entry.answer? = [] := by
  obtain ⟨l, hshows, hsound⟩ := h.lanes i
  obtain rfl : l = none := Option.map_eq_none_iff.mp (hshows.agent.symm.trans ha)
  obtain ⟨l', hshows', hpath⟩ := follows_step h e none hshows hsound
  cases ha' : (s.step e).agent? i with
  | none =>
    obtain rfl : l' = none := Option.map_eq_none_iff.mp (hshows'.agent.symm.trans ha')
    have hnil : s.entriesOf i e = [] := hpath.eq_nil_of_none
    rw [hnil]
    rfl
  | some a =>
    obtain ⟨design, now, rfl, hmade⟩ := exists_create h ha ha'
    rw [filterMap_entriesOf, entries, hmade]
    simp [Entry.answer?]

/-- **The journal tells of every answer.** -/
theorem Coherent.filterMap_answer?_entriesOf (h : s.Coherent) (e : Event) :
    (s.entriesOf i e).filterMap Entry.answer? = (s.answers? i e).toList := by
  cases ha : s.agent? i with
  | some a => exact System.filterMap_answer?_entriesOf ha e
  | none =>
    rw [h.filterMap_answer?_of_absent ha]
    cases hanswer : s.answers? i e with
    | none => rfl
    | some nodes =>
      obtain ⟨a, ha'⟩ := h.exists_agent?_of_answers? hanswer
      rw [ha] at ha'
      cases ha'

/-! ## What never changes -/

theorem design_run (h : (empty.run events).agent? i = some a) (later : List Event) {a' : Agent}
    (h' : (empty.run (events ++ later)).agent? i = some a') : a'.design = a.design := by
  obtain ⟨o, hshows, hpath⟩ := exists_path h
  have hsound : Lane.Sound (some ⟨a, o⟩) := hpath.sound trivial
  obtain ⟨l, hl, hpath'⟩ := (coherent_empty.run events).exists_path hshows hsound later
  rw [run_append] at h'
  obtain ⟨o', rfl⟩ := hl.exists_of_agent? h'
  exact hpath'.design_eq

/-- **A balancer is one for its configuration, in every run.** -/
theorem faithful (h : (empty.run events).agent? i = some a) : a.Faithful := by
  induction events using List.reverseRecOn generalizing a with
  | nil => cases h
  | append_singleton events e ih =>
    cases hbefore : (empty.run events).agent? i with
    | some a₀ => exact (ih hbefore).congr (design_run hbefore [e] h)
    | none =>
      rw [run_append] at h
      obtain ⟨design, now, -, hmade⟩ := exists_create (coherent_empty.run events) hbefore h
      exact Design.faithful hmade

/-! ## The node list -/

theorem mem_of_replaced_mem_journal {nodes : List Endpoint}
    (h : .replaced nodes ∈ s.journal i events) : .replace i nodes ∈ events := by
  induction events generalizing s with
  | nil => cases h
  | cons e events ih =>
    rcases List.mem_append.mp h with h | h
    · have he : e = .replace i nodes := comesFrom_of_mem_entriesOf h
      exact he ▸ List.mem_cons_self
    · exact List.mem_cons_of_mem _ (ih h)

/-- **The lists that are installed** are the answers that are not empty, with one that is still to be
installed left out. -/
theorem filter_answers_eq (h : (empty.run events).agent? i = some a)
    (hown : ∀ nodes, .replace i nodes ∉ events) :
    ((empty.journal i events).filterMap Entry.answer?).filter (!·.isEmpty) =
      (empty.journal i events).filterMap Entry.installed? ++
        ((empty.run events).stages i).filterMap Stage.pending? := by
  obtain ⟨o, hshows, hpath⟩ := exists_path h
  have haccounted := hpath.accounted fun nodes hmem => hown nodes (mem_of_replaced_mem_journal hmem)
  have hpending : ((empty.run events).stages i).filterMap Stage.pending? =
      (o.bind Stage.pending?).toList := by
    have hperm : ((empty.run events).stages i).Perm o.toList := hshows.stages
    cases o with
    | none => rw [List.perm_nil.mp hperm]; rfl
    | some stage =>
      rw [List.perm_singleton.mp hperm]
      cases hstage : stage.pending? <;> simp [hstage]
  rw [hpending]
  exact haccounted

/-- A refresh that has succeeded has installed something. -/
theorem installed_ne_nil_of_settled (hsettled : .settled true ∈ (empty.run events).stages i) :
    (empty.journal i events).filterMap Entry.installed? ≠ [] := by
  obtain ⟨a, h⟩ := (coherent_empty.run events).exists_agent?_of_mem_stages hsettled
  obtain ⟨o, hshows, hpath⟩ := exists_path h
  obtain ⟨past, current, hlived⟩ := hpath.exists_lived
  have hflight : o = some (.settled true) :=
    Option.mem_toList.mp ((hshows.stages : List.Perm _ o.toList).subset hsettled)
  obtain ⟨nodes, -, -, hinstalled⟩ := (hlived.underway _ hflight).installed?_settled.mp rfl
  have hmem : nodes ∈ current.filterMap Entry.installed? := hinstalled ▸ List.mem_singleton_self _
  obtain ⟨x, hx, hxn⟩ := List.mem_filterMap.mp hmem
  have hjournal : x ∈ (empty.journal i events).filter Entry.isRefresh :=
    hlived.cut ▸ List.mem_append_right _ hx
  exact List.ne_nil_of_mem
    (List.mem_filterMap.mpr ⟨x, List.mem_of_mem_filter hjournal, hxn⟩)

end System

end NodeBalancer
