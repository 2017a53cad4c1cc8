import NodeBalancer.Proofs.System.Effects

/-!
# Where a node list comes from

The node list of a registry is never empty.  It is the list of the most recent installation, just as
it was installed, or the seeds as long as nothing was installed.  A refresh installs nothing but its
own answer, once, before it ends and before another refresh of that registry begins; so no answer
comes too late to be installed over a newer one.

* `System.stage_of_advanceCall`: a forced refresh gives back whether it installed its answer.
* `System.provenance`: all of this for every run.
-/

namespace NodeBalancer

namespace System

variable {s : System} {events : List Event} {i : Nat} {a : Agent}

/-- The stage of a forced refresh is that of the one refresh under way. -/
theorem head?_stages_of_call (h : (empty.run events).agent? i = some a) {position : Nat}
    {stage : Stage} (hc : (empty.run events).calls[position]? = some (.refresh ⟨i, stage⟩)) :
    ((empty.run events).stages i).head? = some stage := by
  obtain ⟨o, hshows, -⟩ := exists_path h
  have hperm : ((empty.run events).stages i).Perm o.toList := hshows.stages
  have hcall : (⟨i, stage⟩ : Refresh) ∈ (empty.run events).refreshes := by
    refine List.mem_append_right _ (List.mem_filterMap.mpr ⟨_, List.mem_of_getElem? hc, rfl⟩)
  have hmem : stage ∈ (empty.run events).stages i := by
    rw [stages, Refresh.stagesOf, List.mem_map]
    exact ⟨⟨i, stage⟩, List.mem_filter.mpr ⟨hcall, by simp⟩, rfl⟩
  have hsome : o = some stage := Option.mem_toList.mp (hperm.subset hmem)
  rw [hsome, Option.toList_some] at hperm
  rw [List.perm_singleton.mp hperm]
  rfl

/-! ## What a forced refresh gives back -/

theorem eq_ok_of_finishRefresh {now : Instant} {result : Except Fault Bool} {done : Bool}
    (h : (s.finishRefresh i now result).1 = .ok done) : result = .ok done := by
  unfold finishRefresh at h
  split at h
  · exact h
  · cases result with
    | ok done => cases h
    | error fault => cases h

theorem stage_of_stepRefresh {r : Refresh} {answer : Answer} {now : Instant} {done : Bool}
    (h : (s.stepRefresh r answer now).1 = .inr (.ok done)) : r.stage = .settled done := by
  obtain ⟨i, stage⟩ := r
  cases stage with
  | waiting =>
    simp only [stepRefresh] at h
    split at h <;> cases h
  | asking base =>
    simp only [stepRefresh] at h
    split at h <;> cases h
  | answered nodes => cases h
  | broken message => cases eq_ok_of_finishRefresh (Sum.inr.inj h)
  | settled replaced =>
    cases eq_ok_of_finishRefresh (Sum.inr.inj h)
    rfl

/-- Only a refresh that has settled gives back anything but a fault. -/
theorem stage_of_advanceCall {position : Nat} {r : Refresh} {answer : Answer} {now : Instant}
    {done : Bool} (hc : s.calls[position]? = some (.refresh r))
    (h : (s.advanceCall position answer now).1 = some (.replaced done)) :
    r.stage = .settled done := by
  have hresult : (s.stepRefresh r answer now).1 = .inr (.ok done) := by
    simp only [advanceCall, hc, stepCall] at h
    cases hx : s.stepRefresh r answer now with
    | mk next t =>
      rw [hx] at h
      cases next with
      | inl next => cases h
      | inr result =>
        cases result with
        | error fault => cases h
        | ok done' =>
          cases h
          rfl
  exact stage_of_stepRefresh hresult

theorem forceRefresh_of_refused {now : Instant} (h : s.agent? i = some a)
    (hrefused : (s.forceRefresh i now).1 = false) : (s.forceRefresh i now).2 = s := by
  rw [forceRefresh, beginRefresh_of_agent h] at hrefused ⊢
  by_cases hadm : a.registry.admits now false = true
  · rw [if_pos hadm] at hrefused
    cases hrefused
  · rw [if_neg hadm]
    rfl

/-! ## Every run -/

/-- **Where a node list comes from**, whatever the run. -/
theorem provenance (events : List Event) (i : Nat) (a : Agent)
    (h : (empty.run events).agent? i = some a) :
    a.registry.nodes ≠ [] ∧
    (empty.journal i events).head? = some (.created a.registry.seeds) ∧
    a.registry.nodes = listAfter a.registry.seeds (empty.journal i events) ∧
    (∀ e, ((empty.run events).entriesOf i e).filterMap Entry.installed? =
        ((empty.run events).installs? i e).toList ∧
      ∃ a', ((empty.run events).step e).agent? i = some a' ∧
        a'.registry.nodes = ((empty.run events).installs? i e).getD a.registry.nodes) ∧
    (∃ past current,
      Life.Lived ((empty.run events).stages i).head? (empty.journal i events) past current ∧
      (∀ life ∈ past, life.filterMap Entry.installed? =
        (life.filterMap Entry.answer?).filter (!·.isEmpty)) ∧
      ∀ position stage answer now done,
        (empty.run events).calls[position]? = some (.refresh ⟨i, stage⟩) →
        ((empty.run events).advanceCall position answer now).1 = some (.replaced done) →
        (done = true ↔ ∃ nodes, nodes ≠ [] ∧ current.filterMap Entry.answer? = [nodes] ∧
          current.filterMap Entry.installed? = [nodes])) ∧
    ∀ now, ((empty.run events).forceRefresh i now).1 = false →
      ((empty.run events).forceRefresh i now).2 = empty.run events := by
  obtain ⟨o, hrotates⟩ := rotates h
  obtain ⟨past, current, hlived⟩ := exists_lived h
  refine ⟨hrotates.nodes_ne_nil, hrotates.created, hrotates.nodes, fun e => ?_,
    ⟨past, current, hlived, fun life hlife => (hlived.whole life hlife).installed?, ?_⟩,
    fun now hrefused => forceRefresh_of_refused h hrefused⟩
  · obtain ⟨a', h', -, hnodes, -⟩ := rotation_step h e
    exact ⟨filterMap_installed?_entriesOf h e, a', h', hnodes⟩
  · intro position stage answer now done hc hret
    have hstage : stage = .settled done := stage_of_advanceCall hc hret
    subst hstage
    exact (hlived.underway _ (head?_stages_of_call h hc)).installed?_settled

/-- A forced refresh that has settled, after an empty list was given to the registry. -/
def forcedRun : List Event :=
  [.create (.coordinator [⟨.http, .v4 ⟨10, 0, 0, 1⟩, 8080⟩] ⟨1⟩ .none) ⟨0⟩, .forceRefresh 0 ⟨0⟩,
    .advanceCall 0 (.nodes []) ⟨0⟩,
    .advanceCall 0
      (.nodes [⟨.http, .v4 ⟨10, 0, 0, 2⟩, 8080⟩, ⟨.http, .v4 ⟨10, 0, 0, 2⟩, 8080⟩]) ⟨0⟩,
    .replace 0 [], .advanceCall 0 (.nodes []) ⟨0⟩]

theorem provenance_forcedRun :
    ∃ a, (empty.run forcedRun).agent? 0 = some a ∧
      a.registry.nodes = [⟨.http, .v4 ⟨10, 0, 0, 2⟩, 8080⟩, ⟨.http, .v4 ⟨10, 0, 0, 2⟩, 8080⟩] ∧
      ((empty.run forcedRun).advanceCall 0 (.nodes []) ⟨1⟩).1 = some (.replaced true) ∧
      ∃ past current, Life.Lived (some (.settled true)) (empty.journal 0 forcedRun) past current ∧
        ∃ nodes, nodes ≠ [] ∧ current.filterMap Entry.answer? = [nodes] ∧
          current.filterMap Entry.installed? = [nodes] := by
  have ha := (Option.some_get (x := (empty.run forcedRun).agent? 0) (by decide)).symm
  have hreturn :
      ((empty.run forcedRun).advanceCall 0 (.nodes []) ⟨1⟩).1 = some (.replaced true) := by
    decide
  have hstages : ((empty.run forcedRun).stages 0).head? = some (.settled true) := by decide
  have hcall : (empty.run forcedRun).calls[0]? = some (.refresh ⟨0, .settled true⟩) := by decide
  obtain ⟨-, -, hnodes, -, ⟨past, current, hlived, -, hreplaced⟩, -⟩ := provenance forcedRun 0 _ ha
  rw [hstages] at hlived
  refine ⟨_, ha, hnodes.trans ?_, hreturn, past, current, hlived, ?_⟩
  · decide
  · exact (hreplaced 0 (.settled true) (.nodes []) ⟨1⟩ true hcall hreturn).mp rfl

end System

end NodeBalancer
