import NodeBalancer.Proofs.Registry.Evenness
import NodeBalancer.Proofs.RoundRobin
import NodeBalancer.Proofs.Stopped
import NodeBalancer.Proofs.System.Answers

/-!
# A balancer that is only picked from

A balancer that was not started, with no refresh in flight, changes in one way as long as others
leave it alone: callers pick from it.  Whatever happens to the rest of the system meanwhile, it gives
them what its registry alone would, and it asks nobody anything.

* `Event.onlyServes`: what may happen to such a balancer.
* `Lane.Path.served_eq_picks`: along its lane the registry is picked from and nothing else.
* `System.given_eq_picks`: what its callers get.
* `System.asked_of_absent`: nobody asks for a balancer that was not made yet.
-/

namespace NodeBalancer

/-- The node that was picked past the balancer. -/
def Entry.picked? : Entry → Option Endpoint
  | picked node => some node
  | _ => none

/-- Whether all that an event may do with an agent is to serve a caller. -/
def Event.onlyServes (i : Nat) : Event → Bool
  | pick j => decide (j ≠ i)
  | e => e.isPassive i

theorem Event.isPassive_of_onlyServes {i : Nat} {e : Event} (h : e.onlyServes i = true) :
    e.isPassive i = true := by
  cases e with
  | pick j => rfl
  | _ => exact h

/-- The last pick of a row is made from what the others left. -/
theorem RegistryScript.picks_concat (m : Nat) (r : Registry) :
    picks (m + 1) r = ((picks m r).1 ++ [(picks m r).2.current], (picks m r).2.advance) := by
  induction m generalizing r with
  | zero => rfl
  | succ m ih =>
    have hfirst : picks (m + 2) r =
        (r.current :: (picks (m + 1) r.advance).1, (picks (m + 1) r.advance).2) := rfl
    rw [hfirst, ih]
    rfl

/-- **The lane of a balancer that is only picked from.** -/
theorem Lane.Path.served_eq_picks {t : List Entry} {l l' : Lane} (h : Path (some l) t (some l'))
    (hidle : l.flight = none) (hprompted : ∀ e ∈ t, e.isPrompted = false)
    (hpicked : ∀ e ∈ t, e.picked? = none) :
    l'.flight = none ∧
      RegistryScript.picks (t.filterMap Entry.served?).length l.agent.registry =
        (t.filterMap Entry.served?, l'.agent.registry) := by
  generalize hk : some l' = k at h
  induction h generalizing l' with
  | refl =>
    cases hk
    exact ⟨hidle, rfl⟩
  | @tail m k t e prior last ih =>
    subst hk
    obtain ⟨m, rfl⟩ := prior.exists_of_some
    obtain ⟨hflight, hpicks⟩ := ih (fun e he => hprompted e (List.mem_append_left _ he))
      (fun e he => hpicked e (List.mem_append_left _ he)) rfl
    have he := hprompted e List.mem_concat_self
    have hpick := hpicked e List.mem_concat_self
    rw [List.filterMap_append]
    cases last with
    | switch a o started =>
      rw [List.filterMap_cons_none rfl, List.filterMap_nil, List.append_nil,
        Agent.registry_setStarted]
      exact ⟨hflight, hpicks⟩
    | serve a o =>
      refine ⟨hflight, ?_⟩
      have hserved : [Entry.served a.registry.current].filterMap Entry.served? =
          [a.registry.current] := rfl
      rw [hserved, List.length_append, List.length_singleton, RegistryScript.picks_concat, hpicks]
      rfl
    | pick a o => cases hpick
    | replace a o nodes => cases he
    | begin a hf => cases he
    | _ => cases hflight

namespace System

variable {s : System} {i : Nat} {a : Agent} {later past : List Event}

theorem picked?_entriesOf (h : s.agent? i = some a) {e : Event} (he : e.onlyServes i = true) :
    ∀ x ∈ s.entriesOf i e, x.picked? = none := by
  rw [← List.filterMap_eq_nil_iff,
    filterMap_rotationMove? (fun _ => rfl) (fun _ => rfl) rfl (fun _ _ => rfl) h]
  have hrefresh : ∀ (t : System) (r : Refresh) answer now,
      (if r.agent = i then some (t.refreshEntry r answer now).2 else none).bind Entry.picked? =
        none := by
    intro t r answer now
    rw [refreshEntry]
    split
    · split <;> rfl
    · rfl
  cases e with
  | next j now later =>
    rw [rotationMove?]
    split <;> rfl
  | replace j nodes =>
    rw [rotationMove?]
    split <;> rfl
  | stepThread thread answer now =>
    rw [rotationMove?]
    cases s.task? thread with
    | none => rfl
    | some task => rw [Option.bind_some, hrefresh]; rfl
  | advanceCall position answer now =>
    rw [rotationMove?]
    cases (s.calls[position]?).bind Call.refresh? with
    | none => rfl
    | some r => rw [Option.bind_some, hrefresh]; rfl
  | pick j =>
    rw [rotationMove?, if_neg (of_decide_eq_true he)]
    rfl
  | beginComparison j kind =>
    rw [rotationMove?, if_neg (of_decide_eq_true he)]
    rfl
  | beginValidation j =>
    rw [rotationMove?, if_neg fun hand => of_decide_eq_true he hand.1]
    rfl
  | _ => rfl

theorem picked?_journal (h : (empty.run past).agent? i = some a)
    (hlater : ∀ e ∈ later, e.onlyServes i = true) :
    ∀ x ∈ (empty.run past).journal i later, x.picked? = none := by
  induction later generalizing past a with
  | nil => exact nofun
  | cons e later ih =>
    obtain ⟨a', h'⟩ := exists_agent?_step h e
    have hrest := ih h' fun e' he' => hlater e' (List.mem_cons_of_mem e he')
    rw [run_append] at hrest
    intro x hx
    rcases List.mem_append.mp hx with hx | hx
    · exact picked?_entriesOf h (hlater e List.mem_cons_self) x hx
    · exact hrest x hx

/-- Every call of a balancer that is not started returns a node. -/
theorem exists_given (h : (empty.run past).agent? i = some a) (hoff : a.isStarted = false)
    (hlater : ∀ e ∈ later, e.isPassive i = true) :
    ∃ results : List Endpoint, (empty.run past).given i later = results.map .ok := by
  induction later generalizing past a with
  | nil => exact ⟨[], rfl⟩
  | cons e later ih =>
    obtain ⟨a', h'⟩ := exists_agent?_step h e
    have hoff' : a'.isStarted = false := by
      rw [run_append] at h'
      refine not_started_of_not_mem (coherent_empty.run past) ?_ ?_ a' h'
      · exact fun b hb => Option.some.inj (hb.symm.trans h) ▸ hoff
      · exact fun launch hmem =>
          ne_start_of_passive (hlater e List.mem_cons_self) launch (List.mem_singleton.mp hmem).symm
    obtain ⟨results, hresults⟩ := ih h' hoff' fun e' he' => hlater e' (List.mem_cons_of_mem e he')
    rw [run_append] at hresults
    have hfirst : ∃ first : List Endpoint, (empty.run past).givenBy i e = first.map .ok := by
      cases e with
      | next j now later =>
        rw [givenBy]
        split
        · rw [next?_of_not_started h hoff]
          exact ⟨[a.registry.current], rfl⟩
        · exact ⟨[], rfl⟩
      | _ => exact ⟨[], rfl⟩
    obtain ⟨first, hfirst⟩ := hfirst
    refine ⟨first ++ results, ?_⟩
    rw [given, hfirst, List.map_append]
    exact congrArg _ hresults

/-! ## Before a balancer is made -/

/-- Nothing is asked for an agent that is not there, also not by what makes it. -/
theorem asked_step_of_absent (h : s.Coherent) (ha : s.agent? i = none)
    (hs : s.asked i + s.probing i = 0) (e : Event) :
    (s.step e).asked i + (s.step e).probing i = 0 := by
  by_cases hcompare : ∃ kind, e = .beginComparison i kind
  · obtain ⟨kind, rfl⟩ := hcompare
    rw [step, beginComparison, pick?, ha]
    exact hs
  · by_cases hvalidate : e = .beginValidation i
    · subst hvalidate
      rw [step, beginValidation, ha]
      exact hs
    · have hstep := asked_step (s := s) (fun kind he => hcompare ⟨kind, he⟩) hvalidate
      rw [h.filterMap_answer?_of_absent ha, List.length_nil, hs] at hstep
      exact Nat.le_zero.mp hstep

theorem asked_of_absent (h : (empty.run past).agent? i = none) :
    (empty.run past).asked i + (empty.run past).probing i = 0 := by
  induction past using List.reverseRecOn with
  | nil => rfl
  | append_singleton past e ih =>
    have hbefore : (empty.run past).agent? i = none := by
      cases hpast : (empty.run past).agent? i with
      | none => rfl
      | some a =>
        obtain ⟨a', ha'⟩ := exists_agent?_step hpast e
        rw [h] at ha'
        cases ha'
    rw [run_append]
    exact asked_step_of_absent (coherent_empty.run past) hbefore (ih hbefore) e

/-! ## What its callers get -/

/-- **A balancer that is only picked from** gives its callers what its registry alone would, stays
as it is otherwise, and asks nobody anything. -/
theorem given_eq_picks (h : (empty.run past).agent? i = some a) (hoff : a.isStarted = false)
    (hidle : (empty.run past).stages i = []) (hlater : ∀ e ∈ later, e.onlyServes i = true) :
    ∃ results : List Endpoint, (empty.run past).given i later = results.map .ok ∧
      results = (RegistryScript.picks results.length a.registry).1 ∧
      (empty.run (past ++ later)).asked i ≤ (empty.run past).asked i + (empty.run past).probing i ∧
      (empty.run (past ++ later)).stages i = [] := by
  have hcoherent := coherent_empty.run past
  have hpassive : ∀ e ∈ later, e.isPassive i = true := fun e he =>
    Event.isPassive_of_onlyServes (hlater e he)
  have hprompted := isPrompted_journal hcoherent
    (fun b hb => Option.some.inj (hb.symm.trans h) ▸ hoff) hpassive
  obtain ⟨results, hresults⟩ := exists_given h hoff hpassive
  obtain ⟨o, hshows, hbefore⟩ := exists_path h
  have ho : o = none := by
    have hperm : [].Perm o.toList := hidle ▸ hshows.stages
    exact Option.toList_eq_nil_iff.mp (List.nil_perm.mp hperm)
  subst ho
  obtain ⟨l, hshows', hpath⟩ := hcoherent.exists_path hshows (hbefore.sound trivial) later
  obtain ⟨l, rfl⟩ := hpath.exists_of_some
  obtain ⟨hflight, hpicks⟩ := hpath.served_eq_picks rfl hprompted (picked?_journal h hlater)
  rw [filterMap_served?_journal h hresults] at hpicks
  have hanswered : (((empty.run past).journal i later).filterMap Entry.answer?).length ≤ 0 :=
    hpath.length_filterMap_le Stage.awaits_le Lane.Step.answer?_add_left_le hprompted
  have hasked := asked_run (empty.run past) hpassive
  have hstages := hshows'.stages
  rw [run_append]
  refine ⟨results, hresults, (congrArg Prod.fst hpicks).symm, by omega, ?_⟩
  rw [Option.bind_some, hflight] at hstages
  exact List.perm_nil.mp hstages

end System

end NodeBalancer
