import NodeBalancer.Proofs.SingleFlight

/-!
# The timetable of an agent

An agent keeps the time from which a scheduled refresh may begin, once exactly and once capped.  The
journal tells what that time is: when the agent was made, as long as no refresh has ended, and then
an update interval after the latest end (`Lane.Path.timed`).  The capped time never holds back a
refresh that is due by the exact one, so the check without a lock does not show
(`Agent.isDue_iff`).
-/

namespace NodeBalancer

/-- The time of an end, if the entry is one. -/
def Entry.endedAt? : Entry → Option Instant
  | ended _ now => some now
  | _ => none

/-- When refreshes ended, oldest first. -/
def endings (t : List Entry) : List Instant := t.filterMap Entry.endedAt?

def latestEnd? (t : List Entry) : Option Instant := (endings t).getLast?

/-- The update interval after the latest end is over, if there was an end. -/
def Rested (interval : Duration) (t : List Entry) (now : Instant) : Prop :=
  ∀ ended, latestEnd? t = some ended → ended.nanos + interval.nanos ≤ now.nanos

theorem endings_append (t u : List Entry) : endings (t ++ u) = endings t ++ endings u :=
  List.filterMap_append

theorem endings_eq_nil {t : List Entry} (h : ∀ e ∈ t, e.isEnd = false) : endings t = [] := by
  refine List.filterMap_eq_nil_iff.mpr fun e he => ?_
  have hend := h e he
  cases e with
  | ended stage now => cases hend
  | _ => rfl

theorem endings_filter_isRefresh (t : List Entry) :
    endings (t.filter Entry.isRefresh) = endings t := by
  rw [endings, endings, List.filterMap_filter]
  refine List.filterMap_congr fun e _ => ?_
  cases e <;> rfl

theorem latestEnd?_concat_ended (t : List Entry) (stage : Stage) (now : Instant) :
    latestEnd? (t ++ [.ended stage now]) = some now := by
  rw [latestEnd?, endings_append]
  exact List.getLast?_concat

theorem overflowed_iff {interval : Duration} {t : List Entry} :
    Overflowed interval t ↔ ∃ ended ∈ endings t, ended.add? interval = none := by
  constructor
  · rintro ⟨stage, now, he, hadd⟩
    exact ⟨now, List.mem_filterMap.mpr ⟨_, he, rfl⟩, hadd⟩
  · rintro ⟨ended, hended, hadd⟩
    obtain ⟨e, he, hsome⟩ := List.mem_filterMap.mp hended
    cases e with
    | ended stage now =>
      cases hsome
      exact ⟨stage, ended, he, hadd⟩
    | _ => cases hsome

theorem Life.Whole.exists_endings_eq {life : List Entry} (h : Life.Whole life) :
    ∃ ended, endings life = [ended] := by
  cases h with
  | refused now => exact ⟨now, rfl⟩
  | broken base message now => exact ⟨now, rfl⟩
  | settled base nodes now => exact ⟨now, rfl⟩

theorem Life.Underway.endings_eq_nil {stage : Stage} {life : List Entry}
    (h : Life.Underway stage life) : endings life = [] := by
  cases h with
  | waiting => rfl
  | asking base => rfl
  | answered base nodes => rfl
  | broken base message => rfl
  | settled base nodes => rfl

/-- Every refresh that is over has ended once, and nothing else ends. -/
theorem Life.Lived.endings_eq {flight : Option Stage} {t : List Entry} {past : List (List Entry)}
    {current : List Entry} (h : Life.Lived flight t past current) :
    endings t = past.flatMap endings := by
  have hcurrent : endings current = [] := by
    cases flight with
    | none => rw [h.idle rfl]; rfl
    | some stage => exact (h.underway stage rfl).endings_eq_nil
  have hflatten : endings past.flatten = past.flatMap endings := by
    rw [endings, List.filterMap_flatten, List.flatMap_def]
    rfl
  rw [← endings_filter_isRefresh, h.cut, endings_append, hcurrent, hflatten, List.append_nil]

/-! ## Whether a refresh is due -/

/-- A capped time that is read off the exact one lets everything through that is due. -/
theorem Agent.isDue_iff {a : Agent} {now : Instant}
    (h : a.registry.nextEligibleNanos = a.registry.nextEligible.sinceCapped a.registry.epoch) :
    a.isDue now = true ↔ a.interval.isZero = false ∧ a.registry.inFlight = false ∧
      a.registry.nextEligible.nanos ≤ now.nanos := by
  have hcap : a.registry.nextEligible.nanos ≤ now.nanos →
      a.registry.nextEligibleNanos ≤ now.sinceCapped a.registry.epoch := by
    intro hle
    rw [h]
    exact Instant.sinceCapped_mono hle _
  simp only [Agent.isDue, Registry.mayBeDue, Registry.admits, Bool.true_and, Bool.and_eq_true,
    decide_eq_true_iff, Bool.not_eq_true', decide_eq_false_iff_not, Int.not_lt]
  constructor
  · rintro ⟨⟨hzero, hflight, -⟩, -, hle⟩
    exact ⟨hzero, hflight, hle⟩
  · rintro ⟨hzero, hflight, hle⟩
    exact ⟨⟨hzero, hflight, hcap hle⟩, hflight, hle⟩

/-! ## The next time a refresh may begin -/

namespace Lane

variable {t : List Entry} {l l' : Lane} {e : Entry}

/-- The times that an agent keeps are those that its journal tells. -/
structure Timed (t : List Entry) (l : Lane) : Prop where
  capped : l.agent.registry.nextEligibleNanos =
    l.agent.registry.nextEligible.sinceCapped l.agent.registry.epoch
  untried : latestEnd? t = none → l.agent.registry.nextEligible = l.agent.registry.epoch
  tried : ∀ ended eligible, latestEnd? t = some ended →
    ended.add? l.agent.interval = some eligible → l.agent.registry.nextEligible = eligible

theorem Step.epoch_eq (h : Step (some l) e (some l')) :
    l'.agent.registry.epoch = l.agent.registry.epoch := by
  cases h with
  | switch a o started => rw [Agent.registry_setStarted]
  | replace a o nodes => rw [Agent.registry_install]
  | settle a nodes => rw [Agent.registry_install]
  | finish a a' stage now hs hfinish =>
    obtain ⟨eligible, -, rfl⟩ := Agent.finish?_eq_some hfinish
    rfl
  | _ => rfl

theorem Step.nextEligible_eq (h : Step (some l) e (some l')) (he : e.isEnd = false) :
    l'.agent.registry.nextEligible = l.agent.registry.nextEligible ∧
      l'.agent.registry.nextEligibleNanos = l.agent.registry.nextEligibleNanos := by
  cases h with
  | switch a o started => rw [Agent.registry_setStarted]; exact ⟨rfl, rfl⟩
  | replace a o nodes => rw [Agent.registry_install]; exact ⟨rfl, rfl⟩
  | settle a nodes => rw [Agent.registry_install]; exact ⟨rfl, rfl⟩
  | finish a a' stage now hs hfinish => cases he
  | overflow a stage now hs hfinish => cases he
  | _ => exact ⟨rfl, rfl⟩

theorem Path.epoch_eq (h : Path (some l) t (some l')) :
    l'.agent.registry.epoch = l.agent.registry.epoch := by
  generalize hk : some l' = k at h
  induction h generalizing l' with
  | refl =>
    cases hk
    rfl
  | tail prior last ih =>
    subst hk
    obtain ⟨m, rfl⟩ := prior.exists_of_some
    exact last.epoch_eq.trans (ih rfl)

theorem Timed.step (h : Timed t l) (hstep : Step (some l) e (some l')) : Timed (t ++ [e]) l' := by
  by_cases hend : e.isEnd = true
  · cases hstep with
    | finish a a' stage now hs hfinish =>
      obtain ⟨eligible, hadd, rfl⟩ := Agent.finish?_eq_some hfinish
      refine ⟨rfl, fun hnone => ?_, fun ended eligible' hended hadd' => ?_⟩
      · rw [latestEnd?_concat_ended] at hnone
        cases hnone
      · rw [latestEnd?_concat_ended] at hended
        cases hended
        exact Option.some.inj (hadd.symm.trans hadd')
    | overflow a stage now hs hfinish =>
      refine ⟨h.capped, fun hnone => ?_, fun ended eligible hended hadd => ?_⟩
      · rw [latestEnd?_concat_ended] at hnone
        cases hnone
      · rw [latestEnd?_concat_ended] at hended
        cases hended
        exact absurd (Agent.finish?_eq_none_iff.mp hfinish) (hadd ▸ Option.some_ne_none _)
    | _ => cases hend
  · rw [Bool.not_eq_true] at hend
    obtain ⟨hnext, hnanos⟩ := hstep.nextEligible_eq hend
    have hlatest : latestEnd? (t ++ [e]) = latestEnd? t := by
      rw [latestEnd?, endings_append, endings_eq_nil (t := [e]) (by simpa using hend),
        List.append_nil]
      rfl
    refine ⟨?_, fun hnone => ?_, fun ended eligible hended hadd => ?_⟩
    · rw [hnext, hnanos, hstep.epoch_eq]
      exact h.capped
    · rw [hnext, hstep.epoch_eq]
      exact h.untried (hlatest ▸ hnone)
    · rw [hnext]
      exact h.tried ended eligible (hlatest ▸ hended) (hstep.interval_eq ▸ hadd)

theorem Path.timed (h : Path none t (some l)) : Timed t l := by
  refine h.invariant (fun a ha => ?_) fun t l e l' ih hstep => ih.step hstep
  refine ⟨ha.capped, fun _ => ha.eligible, fun ended _ hended => ?_⟩
  exact absurd hended.symm (Option.some_ne_none _)

/-- The next time a refresh may begin, told by the journal of an agent that was made before now. -/
theorem Timed.nextEligible_le_iff (h : Timed t l) {now : Instant}
    (hmade : l.agent.registry.epoch.nanos ≤ now.nanos) (hlasts : ¬ Overflowed l.agent.interval t) :
    l.agent.registry.nextEligible.nanos ≤ now.nanos ↔ Rested l.agent.interval t now := by
  unfold Rested
  cases hlatest : latestEnd? t with
  | none =>
    rw [h.untried hlatest]
    exact iff_of_true hmade fun _ hended => absurd hended.symm (Option.some_ne_none _)
  | some ended =>
    have hadds : ended.add? l.agent.interval ≠ none := fun hnone =>
      hlasts (overflowed_iff.mpr ⟨ended, List.mem_of_getLast? hlatest, hnone⟩)
    obtain ⟨eligible, hadd⟩ := Option.ne_none_iff_exists'.mp hadds
    rw [h.tried ended eligible hlatest hadd, Instant.nanos_of_add? hadd]
    constructor
    · rintro hle _ ⟨⟩
      exact hle
    · exact fun hrested => hrested ended rfl

end Lane

end NodeBalancer
