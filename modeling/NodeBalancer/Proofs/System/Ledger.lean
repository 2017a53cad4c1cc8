import Mathlib.Algebra.GroupWithZero.Nat
import NodeBalancer.Proofs.System.Sources

/-!
# What is asked

A question goes into the query log when it is answered, and who waits for it says what it was: a
refresh on a worker thread or a call.  Calls come to be under way in the events that begin them, and
no other event changes what is asked.

* `System.calls_step`: what calls an event adds, if it is not a step of a call or a thread.
* `System.queries_stepThread`, `System.queries_advanceCall`: the query that a step logs.
* `System.asked_step`: the queries of an agent are those that its refreshes and its probes ask.
-/

namespace NodeBalancer

/-- Whether an event moves on what has begun before. -/
def Event.isProgress : Event → Bool
  | stepThread _ _ _ => true
  | advanceCall _ _ _ => true
  | _ => false

namespace Call

def agent : Call → Nat
  | refresh r => r.agent
  | comparison i _ _ _ => i
  | validation i _ => i

/-- Whether a call comes to be under way in an event. -/
def BegunBy : Call → Event → Prop
  | refresh r, .forceRefresh i _ => r = .ofAgent i
  | comparison i _ _ _, .beginComparison j _ => i = j
  | validation i _, .beginValidation j => i = j
  | _, _ => False

/-- The questions that a probe of an agent has still to ask. -/
def probesLeft (i : Nat) : Call → Nat
  | refresh _ => 0
  | comparison j _ _ none => if j = i then 2 else 0
  | comparison j _ _ (some _) => if j = i then 1 else 0
  | validation j _ => if j = i then 1 else 0

theorem BegunBy.probesLeft_eq_zero {call : Call} {e : Event} {i : Nat} (h : call.BegunBy e)
    (hcompare : ∀ kind, e ≠ .beginComparison i kind) (hvalidate : e ≠ .beginValidation i) :
    call.probesLeft i = 0 := by
  cases call with
  | refresh r => rfl
  | comparison j kind base restricted =>
    have hji : j ≠ i := by
      rintro rfl
      cases e with
      | beginComparison k kind' =>
        exact hcompare kind' (congrArg (Event.beginComparison · kind') h.symm)
      | _ => exact h
    cases restricted <;> simp [probesLeft, hji]
  | validation j base =>
    have hji : j ≠ i := by
      rintro rfl
      cases e with
      | beginValidation k => exact hvalidate (congrArg Event.beginValidation h.symm)
      | _ => exact h
    simp [probesLeft, hji]

end Call

namespace System

/-- The query that is logged when a call has its answer. -/
def query? (s : System) (call : Call) : Answer → Option Query
  | .nodes _ => (s.callQuestion? call).map fun (base, filter) => ⟨call.agent, base, filter⟩
  | .broken _ => none

/-- The number of queries that were made for an agent. -/
def asked (s : System) (i : Nat) : Nat := s.queries.countP (·.agent = i)

/-- The number of questions that the probes of an agent under way have still to ask. -/
def probing (s : System) (i : Nat) : Nat := (s.calls.map (Call.probesLeft i)).sum

variable {s : System} {i j : Nat} {a : Agent}

/-! ## Events that begin calls -/

theorem queries_finishRefresh (i : Nat) (now : Instant) (result : Except Fault Bool) :
    (s.finishRefresh i now result).2.queries = s.queries := by
  unfold finishRefresh
  split
  · rfl
  · cases result <;> rfl

theorem calls_maybeSchedule (s : System) (j : Nat) (now later : Instant) :
    (s.maybeSchedule j now later).2.calls = s.calls ∧
      (s.maybeSchedule j now later).2.queries = s.queries := by
  cases h : s.agent? j with
  | none =>
    have hdue : s.mayBeDue j now = false := by rw [mayBeDue, h]
    rw [maybeSchedule, hdue]
    exact ⟨rfl, rfl⟩
  | some a =>
    rw [maybeSchedule_of_agent h]
    split
    · split
      · exact ⟨rfl, rfl⟩
      · exact ⟨(finishRefresh_pool_calls j later _).2, queries_finishRefresh j later _⟩
    · exact ⟨rfl, rfl⟩

/-- **An event adds the calls that it begins**, and asks nothing. -/
theorem calls_step (s : System) {e : Event} (he : e.isProgress = false) :
    ∃ begun, (s.step e).calls = s.calls ++ begun ∧ (s.step e).queries = s.queries ∧
      ∀ call ∈ begun, call.BegunBy e := by
  have hnone : ∀ {s' : System}, s'.calls = s.calls → s'.queries = s.queries →
      ∃ begun, s'.calls = s.calls ++ begun ∧ s'.queries = s.queries ∧
        ∀ call ∈ begun, call.BegunBy e := fun hcalls hqueries =>
    ⟨[], hcalls.trans (List.append_nil _).symm, hqueries, nofun⟩
  have hone : ∀ {s' : System} (call : Call), call.BegunBy e → s'.calls = s.calls ++ [call] →
      s'.queries = s.queries →
      ∃ begun, s'.calls = s.calls ++ begun ∧ s'.queries = s.queries ∧
        ∀ call ∈ begun, call.BegunBy e := fun call hbegun hcalls hqueries =>
    ⟨[call], hcalls, hqueries, fun other hother => List.mem_singleton.mp hother ▸ hbegun⟩
  cases e with
  | create design now =>
    rw [step]
    split <;> exact hnone rfl rfl
  | acquire launch => exact hnone rfl rfl
  | release => exact hnone rfl rfl
  | start j launch =>
    rw [step]
    rcases s.start_cases j launch with ⟨-, hstart⟩ | ⟨_, -, -, -, -, hstart⟩ |
      ⟨_, _, -, -, -, -, -, hstart⟩ <;>
      rw [hstart] <;> exact hnone rfl rfl
  | stop j =>
    rw [step, stop]
    split
    · exact hnone rfl rfl
    · split <;> exact hnone rfl rfl
  | next j now later =>
    cases h : s.agent? j with
    | none =>
      rw [step, next?, h]
      exact hnone rfl rfl
    | some a =>
      rw [step_next_of_agent h]
      split
      · obtain ⟨hcalls, hqueries⟩ :=
          calls_maybeSchedule (s.modifyAgent j Agent.advance) j now later
        exact hnone hcalls hqueries
      · exact hnone rfl rfl
  | pick j =>
    rw [step, pick?]
    cases s.agent? j <;> exact hnone rfl rfl
  | maybeSchedule j now later =>
    obtain ⟨hcalls, hqueries⟩ := calls_maybeSchedule s j now later
    exact hnone hcalls hqueries
  | forceRefresh j now =>
    rw [step, forceRefresh]
    cases h : s.agent? j with
    | none =>
      rw [beginRefresh, h]
      exact hnone rfl rfl
    | some a =>
      rw [beginRefresh_of_agent h]
      by_cases hadm : a.registry.admits now false = true
      · rw [if_pos hadm]
        exact hone (.refresh (.ofAgent j)) rfl rfl rfl
      · rw [if_neg hadm]
        exact hnone rfl rfl
  | replace j nodes => exact hnone rfl rfl
  | beginComparison j kind =>
    rw [step, beginComparison, pick?]
    cases s.agent? j with
    | none => exact hnone rfl rfl
    | some a => exact hone (.comparison j kind a.registry.current none) rfl rfl rfl
  | beginValidation j =>
    rw [step, beginValidation]
    cases s.agent? j with
    | none => exact hnone rfl rfl
    | some a =>
      simp only
      split
      · exact hnone rfl rfl
      · exact hone (.validation j a.registry.current) rfl rfl rfl
  | stepThread thread answer now => cases he
  | advanceCall position answer now => cases he

/-! ## Steps that log queries -/

theorem queries_stepRefresh (r : Refresh) (answer : Answer) (now : Instant) :
    (s.stepRefresh r answer now).2.queries =
      s.queries ++ (s.query? (.refresh r) answer).toList := by
  obtain ⟨i, stage⟩ := r
  cases stage with
  | waiting =>
    cases h : s.agent? i <;> cases answer <;>
      simp [stepRefresh, pick?, h, modifyAgent, query?, callQuestion?, questionOf, Refresh.base?]
  | asking base =>
    cases answer with
    | nodes nodes => rfl
    | broken message => exact (List.append_nil _).symm
  | answered nodes =>
    cases answer <;> exact (List.append_nil _).symm
  | broken message =>
    have hquery : s.query? (.refresh ⟨i, .broken message⟩) answer = none := by cases answer <;> rfl
    rw [hquery]
    exact (queries_finishRefresh i now _).trans (List.append_nil _).symm
  | settled replaced =>
    have hquery : s.query? (.refresh ⟨i, .settled replaced⟩) answer = none := by cases answer <;> rfl
    rw [hquery]
    exact (queries_finishRefresh i now _).trans (List.append_nil _).symm

theorem queries_stepThread (thread : Nat) (answer : Answer) (now : Instant) :
    (s.stepThread thread answer now).queries =
      s.queries ++
        ((s.task? thread).bind fun (r, _) => s.query? (.refresh r) answer).toList := by
  cases h : s.task? thread with
  | none =>
    rw [stepThread, h]
    exact (List.append_nil _).symm
  | some task =>
    obtain ⟨r, pool⟩ := task
    have hqueries := queries_stepRefresh (s := { s with pool := pool }) r answer now
    have hquery : { s with pool := pool }.query? (.refresh r) answer =
        s.query? (.refresh r) answer := by cases answer <;> rfl
    rw [hquery] at hqueries
    simp only [stepThread, h, Option.bind_some]
    cases hx : { s with pool := pool }.stepRefresh r answer now with
    | mk next t =>
      rw [hx] at hqueries
      cases next with
      | inl next => exact hqueries
      | inr result => exact hqueries

theorem queries_stepCall (call : Call) (answer : Answer) (now : Instant) :
    (s.stepCall call answer now).2.queries = s.queries ++ (s.query? call answer).toList := by
  cases call with
  | refresh r =>
    have hqueries := queries_stepRefresh (s := s) r answer now
    rw [stepCall]
    cases hx : s.stepRefresh r answer now with
    | mk next t =>
      rw [hx] at hqueries
      cases next <;> exact hqueries
  | comparison i kind base restricted =>
    cases answer with
    | broken message => exact (List.append_nil _).symm
    | nodes nodes => cases restricted <;> rfl
  | validation i base =>
    cases answer with
    | broken message => exact (List.append_nil _).symm
    | nodes nodes => rfl

theorem queries_advanceCall (position : Nat) (answer : Answer) (now : Instant) :
    (s.advanceCall position answer now).2.queries =
      s.queries ++ ((s.calls[position]?).bind (s.query? · answer)).toList := by
  cases h : s.calls[position]? with
  | none =>
    rw [advanceCall, h]
    exact (List.append_nil _).symm
  | some call =>
    have hqueries := queries_stepCall (s := s) call answer now
    simp only [advanceCall, h, Option.bind_some]
    cases hx : s.stepCall call answer now with
    | mk next t =>
      rw [hx] at hqueries
      cases next <;> exact hqueries

theorem stepCall_calls (call : Call) (answer : Answer) (now : Instant) :
    (s.stepCall call answer now).2.calls = s.calls := by
  cases call with
  | refresh r =>
    have hcalls := (stepRefresh_pool_calls (s := s) r answer now).2
    simp only [stepCall]
    generalize s.stepRefresh r answer now = taken at hcalls
    obtain ⟨next | result, s'⟩ := taken <;> exact hcalls
  | comparison i kind base restricted => cases answer <;> cases restricted <;> rfl
  | validation i base => cases answer <;> rfl

/-! ## The queries of one agent -/

theorem query?_of_base?_eq_none {r : Refresh} (h : r.base? = none) (answer : Answer) :
    s.query? (.refresh r) answer = none := by
  cases answer <;> simp [query?, callQuestion?, questionOf, h]

/-- A refresh logs a query when it has its answer, and only then. -/
theorem countP_query?_refresh (r : Refresh) (answer : Answer) (now : Instant) :
    (s.query? (.refresh r) answer).toList.countP (·.agent = i) =
      ((if r.agent = i then some (s.refreshEntry r answer now).2 else none).bind
        Entry.answer?).toList.length := by
  obtain ⟨j, stage⟩ := r
  have hsilent : ∀ e : Entry, e.answer? = none →
      ((if j = i then some e else none).bind Entry.answer?).toList.length = 0 := by
    intro e he
    split
    · rw [Option.bind_some, he]
      rfl
    · rfl
  cases stage with
  | waiting =>
    rw [query?_of_base?_eq_none rfl, hsilent]
    · rfl
    · rw [refreshEntry, stepRefresh]
      cases s.pick? j <;> rfl
  | asking base =>
    cases answer with
    | nodes nodes =>
      have hquery : s.query? (.refresh ⟨j, .asking base⟩) (.nodes nodes) =
          some ⟨j, base, s.filterOf j⟩ := rfl
      have hentry : (s.refreshEntry ⟨j, .asking base⟩ (.nodes nodes) now).2 =
          .moved (.asking base) (.answered nodes) := rfl
      rw [hquery, hentry]
      by_cases hji : j = i
      · simp [hji, Entry.answer?]
      · simp [hji]
    | broken message => exact (hsilent _ rfl).symm
  | answered nodes =>
    rw [query?_of_base?_eq_none rfl, hsilent _ rfl]
    rfl
  | broken message =>
    rw [query?_of_base?_eq_none rfl, hsilent _ rfl]
    rfl
  | settled replaced =>
    rw [query?_of_base?_eq_none rfl, hsilent _ rfl]
    rfl

theorem probesLeft_stepRefresh (r : Refresh) (answer : Answer) (now : Instant) :
    (s.stepCall (.refresh r) answer now).1.getLeft?.elim 0 (Call.probesLeft i) = 0 := by
  rw [stepCall]
  cases s.stepRefresh r answer now with
  | mk next t => cases next <;> rfl

/-- A probe that has its answer has one question less to ask. -/
theorem probesLeft_stepCall (call : Call) (answer : Answer) (now : Instant) :
    ((s.stepCall call answer now).1.getLeft?.elim 0 (Call.probesLeft i)) +
        (s.query? call answer).toList.countP (·.agent = i) ≤
      call.probesLeft i + ((call.refresh?).bind fun r =>
        (if r.agent = i then some (s.refreshEntry r answer now).2 else none).bind
          Entry.answer?).toList.length := by
  cases call with
  | refresh r =>
    rw [countP_query?_refresh r answer now, probesLeft_stepRefresh]
    exact Nat.le_refl _
  | comparison j kind base restricted =>
    cases answer with
    | broken message => exact Nat.zero_le _
    | nodes nodes =>
      by_cases hji : j = i <;> cases restricted <;>
        simp [stepCall, query?, callQuestion?, Call.agent, Call.probesLeft, hji]
  | validation j base =>
    cases answer with
    | broken message => exact Nat.zero_le _
    | nodes nodes =>
      by_cases hji : j = i <;>
        simp [stepCall, query?, callQuestion?, Call.agent, Call.probesLeft, hji]

/-- Of the calls under way only the one that is moved has another number of questions to ask. -/
theorem exists_probing_advanceCall {position : Nat} {call : Call}
    (h : s.calls[position]? = some call) (answer : Answer) (now : Instant) :
    ∃ rest, s.probing i = call.probesLeft i + rest ∧
      (s.advanceCall position answer now).2.probing i =
        (s.stepCall call answer now).1.getLeft?.elim 0 (Call.probesLeft i) + rest := by
  obtain ⟨hlt, hget⟩ := List.getElem?_eq_some_iff.mp h
  refine ⟨((s.calls.eraseIdx position).map (Call.probesLeft i)).sum, ?_, ?_⟩
  · have hperm := (List.getElem_cons_eraseIdx_perm hlt).map (Call.probesLeft i)
    rw [hget] at hperm
    exact hperm.sum_nat.symm
  · have hcalls := stepCall_calls (s := s) call answer now
    simp only [advanceCall, h, probing]
    cases hx : s.stepCall call answer now with
    | mk next t =>
      rw [hx] at hcalls
      have hsame : t.calls = s.calls := hcalls
      cases next with
      | inl next =>
        have hperm := (List.set_perm_cons_eraseIdx hlt next).map (Call.probesLeft i)
        simp only [hsame]
        exact hperm.sum_nat
      | inr outcome =>
        simp only [hsame]
        exact (Nat.zero_add _).symm

/-- The answers that the journal of an agent tells of a step of a refresh. -/
theorem filterMap_answer?_refreshEntry (r : Refresh) (answer : Answer) (now : Instant) :
    ([s.refreshEntry r answer now].filterMap fun p => if p.1 = i then p.2.answer? else none) =
      ((if r.agent = i then some (s.refreshEntry r answer now).2 else none).bind
        Entry.answer?).toList := by
  rw [eq_refreshEntry]
  exact filterMap_entry Entry.answer? r.agent _

theorem asked_stepThread (thread : Nat) (answer : Answer) (now : Instant) :
    (s.step (.stepThread thread answer now)).asked i = s.asked i +
        ((s.entriesOf i (.stepThread thread answer now)).filterMap Entry.answer?).length ∧
      (s.step (.stepThread thread answer now)).probing i = s.probing i := by
  have hqueries := queries_stepThread (s := s) thread answer now
  rw [filterMap_entriesOf, asked, asked, probing, probing, step, entries, hqueries,
    List.countP_append]
  cases ht : s.task? thread with
  | none =>
    rw [stepThread, ht]
    exact ⟨rfl, rfl⟩
  | some task =>
    obtain ⟨r, pool⟩ := task
    obtain ⟨-, hcalls, -⟩ := stepThread_of_task ht answer now
    have hcount := countP_query?_refresh (s := { s with pool := pool }) (i := i) r answer now
    have hquery : { s with pool := pool }.query? (.refresh r) answer =
        s.query? (.refresh r) answer := by cases answer <;> rfl
    rw [hquery] at hcount
    rw [hcalls, Option.bind_some, Option.map_some, Option.toList_some,
      filterMap_answer?_refreshEntry, hcount]
    exact ⟨rfl, rfl⟩

theorem asked_advanceCall (position : Nat) (answer : Answer) (now : Instant) :
    (s.step (.advanceCall position answer now)).asked i +
        (s.step (.advanceCall position answer now)).probing i ≤
      s.asked i + s.probing i +
        ((s.entriesOf i (.advanceCall position answer now)).filterMap Entry.answer?).length := by
  have hqueries := queries_advanceCall (s := s) position answer now
  rw [filterMap_entriesOf, asked, asked, step, entries, hqueries, List.countP_append]
  cases hc : s.calls[position]? with
  | none =>
    rw [advanceCall, hc]
    exact Nat.le_refl _
  | some call =>
    obtain ⟨rest, hbefore, hafter⟩ := exists_probing_advanceCall (i := i) hc answer now
    have hleft := probesLeft_stepCall (s := s) (i := i) call answer now
    have htold : ((call.refresh?.map fun r => s.refreshEntry r answer now).toList.filterMap
        fun p => if p.1 = i then p.2.answer? else none) = ((call.refresh?).bind fun r =>
          (if r.agent = i then some (s.refreshEntry r answer now).2 else none).bind
            Entry.answer?).toList := by
      cases call.refresh? with
      | none => rfl
      | some r => exact filterMap_answer?_refreshEntry r answer now
    rw [hafter, hbefore, Option.bind_some, Option.bind_some, htold]
    omega

/-- **The queries of an agent** are those that its refreshes and its probes ask: an event that
begins no probe of the agent adds no query but the answered ones of the journal and those that a
probe had still to ask. -/
theorem asked_step {e : Event} (hcompare : ∀ kind, e ≠ .beginComparison i kind)
    (hvalidate : e ≠ .beginValidation i) :
    (s.step e).asked i + (s.step e).probing i ≤
      s.asked i + s.probing i + ((s.entriesOf i e).filterMap Entry.answer?).length := by
  by_cases he : e.isProgress = false
  · obtain ⟨begun, hcalls, hqueries, hbegun⟩ := calls_step s he
    have hnone : (begun.map (Call.probesLeft i)).sum = 0 := by
      rw [List.sum_eq_zero_iff_forall_eq_nat]
      intro left hleft
      obtain ⟨call, hcall, rfl⟩ := List.mem_map.mp hleft
      exact (hbegun call hcall).probesLeft_eq_zero hcompare hvalidate
    rw [asked, asked, probing, probing, hcalls, hqueries, List.map_append, List.sum_append, hnone]
    exact Nat.le_add_right _ _
  · cases e with
    | stepThread thread answer now =>
      obtain ⟨hasked, hprobing⟩ := asked_stepThread (s := s) (i := i) thread answer now
      omega
    | advanceCall position answer now => exact asked_advanceCall position answer now
    | _ => exact absurd rfl he

end System

end NodeBalancer
