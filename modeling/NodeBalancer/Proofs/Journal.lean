import NodeBalancer.Proofs.Run

/-!
# Journals

The **journal** of an agent says what has happened to it in a run, oldest first: the nodes it gave
away, the lists it was given, and every step of its refreshes.  An event adds to it what the
operations of the system themselves report, so the journal is an observation of the run and not a
second account of it.

* `Entry.pick?` is the node of an entry that moves the cursor.
* `Entry.installed?` is the list of an entry that installs one, and `listAfter` the list that was
  installed last.
* `Overflowed` says that some refresh ended without an end of its update interval.
-/

namespace NodeBalancer

/-- What happens to an agent. -/
inductive Entry where
  | created (seeds : List Endpoint)
  | switched (started : Bool)
  /-- The balancer handed a node to its caller. -/
  | served (node : Endpoint)
  /-- A probe took up a node, or somebody picked one past the balancer. -/
  | picked (node : Endpoint)
  | replaced (nodes : List Endpoint)
  /-- A refresh was marked as in flight. -/
  | began
  | moved (stage next : Stage)
  | ended (stage : Stage) (now : Instant)
deriving DecidableEq

namespace Entry

/-- The node that was picked, if one was. -/
def pick? : Entry → Option Endpoint
  | served node => some node
  | picked node => some node
  | moved _ (.asking base) => some base
  | _ => none

/-- A node list, if it is one that can be installed. -/
def installable? (nodes : List Endpoint) : Option (List Endpoint) :=
  if nodes = [] then none else some nodes

/-- The list that was installed, if one was: by a replacement, or by a refresh that has dealt with
its answer. -/
def installed? : Entry → Option (List Endpoint)
  | replaced nodes => installable? nodes
  | moved (.answered nodes) _ => installable? nodes
  | _ => none

/-- Whether the entry is about a refresh. -/
def isRefresh : Entry → Bool
  | began => true
  | moved _ _ => true
  | ended _ _ => true
  | _ => false

/-- Whether a refresh ends. -/
def isEnd : Entry → Bool
  | ended _ _ => true
  | _ => false

end Entry

/-- The node list that a journal leaves of the one that was there before it. -/
def listAfter (nodes : List Endpoint) (t : List Entry) : List Endpoint :=
  (t.filterMap Entry.installed?).getLast?.getD nodes

theorem listAfter_append (nodes : List Endpoint) (t u : List Entry) :
    listAfter nodes (t ++ u) = listAfter (listAfter nodes t) u := by
  rw [listAfter, listAfter, listAfter, List.filterMap_append, List.getLast?_append]
  cases (u.filterMap Entry.installed?).getLast? <;> rfl

theorem listAfter_singleton (nodes : List Endpoint) (e : Entry) :
    listAfter nodes [e] = e.installed?.getD nodes := by
  cases h : e.installed? <;> simp [listAfter, h]

/-- Some refresh ended at a time to which the update interval cannot be added. -/
def Overflowed (interval : Duration) (journal : List Entry) : Prop :=
  ∃ stage now, Entry.ended stage now ∈ journal ∧ now.add? interval = none

theorem overflowed_append {interval : Duration} {t u : List Entry} :
    Overflowed interval (t ++ u) ↔ Overflowed interval t ∨ Overflowed interval u := by
  simp only [Overflowed, List.mem_append, or_and_right, exists_or]

theorem overflowed_ended {interval : Duration} {stage : Stage} {now : Instant} :
    Overflowed interval [.ended stage now] ↔ now.add? interval = none := by
  constructor
  · rintro ⟨stage', now', he, hadd⟩
    cases List.mem_singleton.mp he
    exact hadd
  · intro hadd
    exact ⟨stage, now, List.mem_singleton_self _, hadd⟩

theorem not_overflowed {interval : Duration} {e : Entry} (h : e.isEnd = false) :
    ¬ Overflowed interval [e] := by
  rintro ⟨stage, now, he, -⟩
  rw [← List.mem_singleton.mp he] at h
  cases h

/-- The node that a probe has picked. -/
def Call.probed? : Call → Option Endpoint
  | .comparison _ _ base _ => some base
  | .validation _ base => some base
  | .refresh _ => none

namespace System

/-- What comes of asking whether a refresh is due. -/
def scheduleEntries (s : System) (i : Nat) (now later : Instant) : List (Nat × Entry) :=
  if s.mayBeDue i now && (s.beginRefresh i now true).1 then
    if (s.pool.submit (.ofAgent i)).1 then [(i, .began)]
    else [(i, .began), (i, .ended .waiting later)]
  else []

/-- What comes of the probe of an agent that stands behind the calls of a system. -/
def probeEntries (s : System) (i : Nat) (position : Nat) : List (Nat × Entry) :=
  ((s.calls[position]?).bind Call.probed?).toList.map fun node => (i, .picked node)

def refreshEntry (s : System) (r : Refresh) (answer : Answer) (now : Instant) : Nat × Entry :=
  match (s.stepRefresh r answer now).1 with
  | .inl next => (r.agent, .moved r.stage next.stage)
  | .inr _ => (r.agent, .ended r.stage now)

/-- What an event does to agents. -/
def entries (s : System) : Event → List (Nat × Entry)
  | .create design now =>
    match design.agent now with
    | .error _ => []
    | .ok a => [(s.agents.length, .created a.registry.seeds)]
  | .start i launch =>
    match (s.start i launch).1 with
    | .ok true => [(i, .switched true)]
    | _ => []
  | .stop i => if (s.agent? i).any Agent.isStarted then [(i, .switched false)] else []
  | .next i now later =>
    match s.pick? i with
    | none => []
    | some (node, picked) =>
      (i, .served node) ::
        if (s.agent? i).any Agent.isStarted then picked.scheduleEntries i now later else []
  | .pick i => (s.pick? i).toList.map fun (node, _) => (i, .picked node)
  | .maybeSchedule i now later => s.scheduleEntries i now later
  | .forceRefresh i now => if (s.forceRefresh i now).1 then [(i, .began)] else []
  | .replace i nodes => if (s.agent? i).isSome then [(i, .replaced nodes)] else []
  | .beginComparison i kind => (s.beginComparison i kind).probeEntries i s.calls.length
  | .beginValidation i => (s.beginValidation i).2.probeEntries i s.calls.length
  | .stepThread thread answer now =>
    ((s.task? thread).map fun (r, pool) =>
      { s with pool := pool }.refreshEntry r answer now).toList
  | .advanceCall position answer now =>
    (((s.calls[position]?).bind Call.refresh?).map fun r => s.refreshEntry r answer now).toList
  | .acquire _ => []
  | .release => []

/-- What an event does to one agent. -/
def entriesOf (s : System) (i : Nat) (e : Event) : List Entry :=
  ((s.entries e).filter (·.1 = i)).map (·.2)

/-- The journal of an agent over a run that starts here. -/
def journal (s : System) (i : Nat) : List Event → List Entry
  | [] => []
  | e :: events => s.entriesOf i e ++ (s.step e).journal i events

@[simp] theorem run_cons (s : System) (e : Event) (events : List Event) :
    s.run (e :: events) = (s.step e).run events := rfl

theorem run_append (s : System) (past later : List Event) :
    s.run (past ++ later) = (s.run past).run later := List.foldl_append

theorem journal_append (s : System) (i : Nat) (past later : List Event) :
    s.journal i (past ++ later) = s.journal i past ++ (s.run past).journal i later := by
  induction past generalizing s with
  | nil => rfl
  | cons e past ih => rw [List.cons_append, journal, journal, ih, List.append_assoc, run_cons]

end System

end NodeBalancer
