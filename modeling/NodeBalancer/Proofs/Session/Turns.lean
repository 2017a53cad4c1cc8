import NodeBalancer.Proofs.Sequential.Reference
import NodeBalancer.Proofs.Session.Naming

/-!
# Scripts turn by turn

Each command of a script is given the times that the clock shows while it is performed, so that
commands can be left out of a script without changing the times of the others.  A turn tells which
balancer a command was about, what was reported, and what was left behind.

* `Script.State.kept`: the commands about one balancer or about the cluster.
* `Script.State.sights`: what is seen of a balancer by the commands about it.
* `Script.State.run_eq_turns`: a script under one clock is such a script.
* `Script.State.sight_of_perform`: what is seen of a balancer that a command leaves behind.
-/

namespace NodeBalancer

open Script

/-- Whether an action changes the cluster. -/
def Script.Action.isCluster : Action → Bool
  | .addMember _ _ _ => true
  | .answerFrom _ _ => true
  | _ => false

/-- The actions of a session in which only balancers use the worker, no query breaks off and no gate
holds a thread back. -/
def Script.Action.isOrdinary : Action → Bool
  | .acquire => false
  | .release => false
  | action => action.isSequential

/-- Such an action changes the cluster or is about a name. -/
theorem Script.Action.cases_of_isOrdinary {action : Action} (h : action.isOrdinary = true)
    (hcluster : action.isCluster = false) :
    (∃ config, action = .create (.balancer config)) ∨ action = .drop ∨
      (∃ operation, action = .operate operation) ∨ action = .unknown := by
  cases action with
  | create blueprint =>
    cases blueprint with
    | balancer config => exact .inl ⟨config, rfl⟩
    | _ => cases h
  | drop => exact .inr (.inl rfl)
  | operate operation => exact .inr (.inr (.inl ⟨operation, rfl⟩))
  | unknown => exact .inr (.inr (.inr rfl))
  | addMember => cases hcluster
  | answerFrom => cases hcluster
  | _ => cases h

/-- What such an action does to the cluster, and replies, does not depend on the session. -/
theorem Script.Action.exists_mapCluster {action : Action} (h : action.isCluster = true) :
    ∃ reply f, ∀ (s : State) about, s.perform about action = (reply, s.mapCluster f) := by
  cases action with
  | addMember node rack datacenter =>
    cases hnode : node.endpoint with
    | error error => exact ⟨.error error, id, fun s _ => by rw [State.perform, hnode]; rfl⟩
    | ok endpoint =>
      exact ⟨.unit, (·.add ⟨endpoint, rack, datacenter⟩), fun s _ => by rw [State.perform, hnode]⟩
  | answerFrom node answer =>
    cases hnode : node.endpoint with
    | error error => exact ⟨.error error, id, fun s _ => by rw [State.perform, hnode]; rfl⟩
    | ok base =>
      cases hanswer : EndpointText.endpoints answer with
      | error error =>
        exact ⟨.error error, id, fun s _ => by rw [State.perform, hnode, hanswer]; rfl⟩
      | ok nodes =>
        exact ⟨.unit, (·.answerFrom base nodes), fun s _ => by
          rw [State.perform, hnode, hanswer]⟩
  | _ => cases h

namespace Session

variable {World : Type} (s : Session World) (clock : Nat → Instant)

/-- From now on the clock shows these times, the latest reading being the first. -/
def withClock : Session World :=
  { s with readings := fun n => if n < s.reads then s.readings n else clock (n - s.reads) }

theorem ahead_withClock (n : Nat) : (s.withClock clock).ahead n = clock n := by
  have hlater : ¬ s.reads + n < s.reads := Nat.not_lt.mpr (Nat.le_add_right ..)
  rw [ahead]
  exact (if_neg hlater).trans (congrArg clock (Nat.add_sub_cancel_left ..))

theorem withClock_ahead : s.withClock s.ahead = s := by
  have hreadings : (s.withClock s.ahead).readings = s.readings := by
    funext n
    by_cases hn : n < s.reads
    · exact if_pos hn
    · refine (if_neg hn).trans ?_
      rw [ahead, Nat.add_sub_cancel' (Nat.le_of_not_lt hn)]
  exact congrArg (fun readings => { s with readings := readings }) hreadings

end Session

namespace Script

/-- A command, and what the clock shows from then on. -/
structure Timed where
  command : Command
  clock : Nat → Instant

/-- A command that was performed: the balancer it was about, what was reported, and what it left. -/
structure Turn where
  subject : Option Nat
  report : Report
  after : State

/-- What is seen of a balancer when a command is about it: the reply, the questions, what its name
stands for, its node list, and whether it is started. -/
structure Sight where
  reply : Reply
  requests : List (Endpoint × Filter)
  view : Option View
  standing : Option (List Endpoint × Bool)

def Report.sight (report : Report) (after : State) (i : Nat) : Sight where
  reply := report.reply
  requests := report.requests.map Query.question
  view := report.view
  standing := (after.session.system.agent? i).map fun a => (a.registry.nodes, a.isStarted)

namespace State

def withClock (s : State) (clock : Nat → Instant) : State :=
  s.withSession (s.session.withClock clock)

/-- The balancer that a command is about: the one that it makes, or the one behind its name. -/
def subject? (s : State) (command : Command) : Option Nat :=
  match command.about, command.action with
  | some _, .create blueprint =>
    match agent s.session.tick.clock blueprint with
    | .ok _ => some s.session.system.agents.length
    | .error _ => none
  | some name, .drop => s.agentOf? name
  | some name, .operate _ => s.agentOf? name
  | _, _ => none

def turn (s : State) (timed : Timed) : Turn :=
  let s := s.withClock timed.clock
  ⟨s.subject? timed.command, (s.step timed.command).1, (s.step timed.command).2⟩

/-- A script with its times, command by command. -/
def turns (s : State) : List Timed → List Turn
  | [] => []
  | timed :: script => s.turn timed :: (s.turn timed).after.turns script

def afterTurns (s : State) (script : List Timed) : State :=
  script.foldl (fun s timed => (s.turn timed).after) s

/-- What is seen of a balancer by the commands about it. -/
def sights (s : State) (i : Nat) (script : List Timed) : List Sight :=
  (s.turns script).filterMap fun turn =>
    if turn.subject = some i then some (turn.report.sight turn.after i) else none

/-- The commands about a balancer or about the cluster. -/
def kept (s : State) (i : Nat) : List Timed → List Timed
  | [] => []
  | timed :: script =>
    let rest := (s.turn timed).after.kept i script
    if timed.command.action.isCluster ∨ (s.turn timed).subject = some i then timed :: rest else rest

/-- A script with the times that its clock shows. -/
def timed (s : State) : List Command → List Timed
  | [] => []
  | command :: commands => ⟨command, s.session.ahead⟩ :: (s.step command).2.timed commands

theorem withClock_ahead (s : State) : s.withClock s.session.ahead = s :=
  congrArg s.withSession s.session.withClock_ahead

/-- Under one clock, the turns of a script are reported as its run is. -/
theorem run_eq_turns (s : State) (commands : List Command) :
    s.run commands = (s.turns (s.timed commands)).map Turn.report := by
  induction commands generalizing s with
  | nil => rfl
  | cons command commands ih =>
    rw [timed, turns, List.map_cons, turn]
    simp only [withClock_ahead]
    exact congrArg ((s.step command).1 :: ·) (ih _)

theorem sights_cons (s : State) (i : Nat) (timed : Timed) (script : List Timed) :
    s.sights i (timed :: script) =
      if (s.turn timed).subject = some i then
        (s.turn timed).report.sight (s.turn timed).after i :: (s.turn timed).after.sights i script
      else (s.turn timed).after.sights i script := by
  by_cases hsubject : (s.turn timed).subject = some i <;> simp [sights, turns, hsubject]

theorem subject?_of_isCluster {command : Command} (h : command.action.isCluster = true)
    (s : State) : s.subject? command = none := by
  obtain ⟨about, action⟩ := command
  cases action with
  | addMember => cases about <;> rfl
  | answerFrom => cases about <;> rfl
  | _ => cases h

variable {s s' t t' : State} {i k : Nat} {a : Agent} {name : String} {command : Command}
  {reply : Reply}

theorem step_of_perform (command : Command)
    (h : s.perform command.about command.action = (reply, s')) :
    (s.step command).1.reply = reply ∧
    (s.step command).1.requests =
      s'.settled.session.system.queries.drop s.session.system.queries.length ∧
    (s.step command).1.view = command.about.bind s'.settled.viewOf ∧
    (s.step command).2 = s'.settled := by
  rw [step, h]
  exact ⟨rfl, rfl, rfl, rfl⟩

/-- What is seen of a balancer that a command leaves behind. -/
theorem sight_of_perform (command : Command) {asked : List (Endpoint × Filter)}
    (h : s.perform command.about command.action = (reply, s'))
    (hqueries : s'.settled.session.system.queries =
      s.session.system.queries ++ asked.map (Query.ofAgent i))
    (ha : s'.settled.session.system.agent? i = some a) :
    (s.step command).1.sight (s.step command).2 i =
      ⟨reply, asked, command.about.bind s'.settled.viewOf,
        some (a.registry.nodes, a.isStarted)⟩ := by
  obtain ⟨hreply, hrequests, hview, hafter⟩ := step_of_perform command h
  rw [Report.sight, hreply, hrequests, hview, hafter, hqueries, ha, List.drop_left,
    Query.map_question_ofAgent]
  rfl

/-- What a name shows that stands for a balancer. -/
theorem viewOf_of_known (hname : s.agentOf? name = some i)
    (ha : s.session.system.agent? i = some a) (hbalancer : a.isBalancer = true) :
    s.viewOf name = some ⟨a.registry.nodes, some a.isStarted, a.registry.inFlight⟩ := by
  rw [viewOf, hname, Option.bind_some, ha, Option.map_some, if_pos hbalancer]

theorem viewOf_of_unknown (hname : s.agentOf? name = none) : s.viewOf name = none := by
  rw [viewOf, hname]
  rfl

end State

end Script

end NodeBalancer
