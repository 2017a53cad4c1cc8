import NodeBalancer.Proofs.Session.Situation
import NodeBalancer.Session.Script

/-!
# The balancers behind the names

Between two commands a script is at rest, and each of its names stands for a balancer of its own
(`Script.State.AtRest`).  A command that is about a name then is a deed of the balancer behind it:

* `Situation.determines_operate`: an operation, whatever the name and the rest of the script.
* `Script.State.forget_of_known`: a name that is given up, whose balancer is stopped.
* `Script.State.AtRest.create`: a balancer is made, and takes its name from another one.
-/

namespace NodeBalancer

open Script

section Lookup

variable {α : Type} (name name' : String) (value : α) (names : List (String × α))

theorem lookup_cons_eq :
    ((name, value) :: names).lookup name' =
      if name' = name then some value else names.lookup name' := by
  by_cases hname : name' = name
  · simp [hname]
  · simp [List.lookup_cons, beq_false_of_ne hname, hname]

theorem lookup_filter_ne :
    (names.filter (·.1 != name)).lookup name' =
      if name' = name then none else names.lookup name' := by
  induction names with
  | nil => simp
  | cons entry names ih =>
    obtain ⟨first, value⟩ := entry
    rw [lookup_cons_eq]
    by_cases hfirst : first = name
    · have hdropped : ((first, value) :: names).filter (·.1 != name) =
          names.filter (·.1 != name) := List.filter_cons_of_neg (by simp [hfirst])
      rw [hdropped, ih, hfirst]
      split <;> rfl
    · have hkept : ((first, value) :: names).filter (·.1 != name) =
          (first, value) :: names.filter (·.1 != name) :=
        List.filter_cons_of_pos (by simp [hfirst])
      rw [hkept, lookup_cons_eq, ih]
      by_cases hname : name' = first
      · rw [if_pos hname, if_neg (hname ▸ hfirst), if_pos hname]
      · rw [if_neg hname, if_neg hname]

end Lookup

namespace Situation

variable {Result : Type} {x : Situation}

/-- Wherever an agent is in this situation, the operation has the same reply, keeps the names, and
once the workers have settled it has done the same to the agent and to no other. -/
def DeterminesReply (x : Situation) (operation : State → Nat → Reply × State) : Prop :=
  ∃ reply d, ∀ s i, s.session.Finds i x →
    ∃ session, operation s i = (reply, s.withSession session) ∧
      s.session.Does i d (session.settle ScriptedWorld.ask)

theorem Determines.reply
    {operation : Session ScriptedWorld → Nat → Result × Session ScriptedWorld}
    (h : x.Determines operation) (reply : Result → Reply) :
    x.DeterminesReply fun s i =>
      (reply (operation s.session i).1, s.withSession (operation s.session i).2) := by
  obtain ⟨result, d, hrun⟩ := h
  refine ⟨reply result, d, fun s i hfinds => ?_⟩
  obtain ⟨session, hs, hdoes⟩ := hrun s.session i hfinds
  exact ⟨session, by simp only [hs], hdoes⟩

theorem determinesReply_idle (x : Situation) (reply : Reply) :
    x.DeterminesReply fun s _ => (reply, s) :=
  ⟨reply, ⟨x.agent, [], 0⟩, fun s _ h => ⟨s.session, rfl, h.settle.symm ▸ h.idle 0⟩⟩

theorem determinesReply_resolve (x : Situation) : x.DeterminesReply State.resolve := by
  obtain ⟨node, d, hrun⟩ := determines_next x
  let reply : Reply := match node with
    | .ok none => .refused
    | .ok (some node) => .endpoint node
    | .error fault => .fault fault
  refine ⟨reply, d, fun s i h => ?_⟩
  obtain ⟨session, hs, hdoes⟩ := hrun s.session i h
  refine ⟨session, ?_, hdoes⟩
  rw [State.resolve, hs]
  obtain fault | node := node
  · rfl
  · cases node <;> rfl

theorem determinesReply_operateBalancer (x : Situation) (config : Config) (operation : Operation) :
    x.DeterminesReply fun s i => s.operateBalancer i x.agent config operation := by
  cases operation with
  | start => exact (determines_start x).reply (.ofResult .ofTaken)
  | stop => exact (determines_stop x).reply fun _ => .unit
  | next times => exact (determines_picks x times).reply (.ofResult .endpoints)
  | resolve => exact determinesReply_resolve x
  | forceRefresh => exact (determines_forceRefresh x).reply (.ofResult .flag)
  | checkFilterHonored kind => exact (determines_checkFilterHonored x kind).reply .ofOutcome
  | validateFilter => exact (determines_validateFilter x).reply .ofOutcome
  | config => exact determinesReply_idle x (.config config)
  | pools => exact determinesReply_idle x (.poolCount 0)
  | describe => exact determinesReply_idle x (.text x.agent.describe)
  | maybeSchedule times => exact determinesReply_idle x .refused
  | replace nodes => exact determinesReply_idle x .refused
  | filter => exact determinesReply_idle x .refused

/-- An operation on the balancer behind a name is determined by the situation of that balancer. -/
theorem determines_operate (x : Situation) (operation : Operation) :
    ∃ reply d, ∀ (s : State) name i, s.agentOf? name = some i → s.session.Finds i x →
      ∃ session, s.operate name operation = (reply, s.withSession session) ∧
        s.session.Does i d (session.settle ScriptedWorld.ask) := by
  cases hrole : x.agent.role with
  | balancer config started =>
    obtain ⟨reply, d, hrun⟩ := determinesReply_operateBalancer x config operation
    refine ⟨reply, d, fun s name i hname hfinds => ?_⟩
    have hoperate : s.operate name operation =
        s.operateBalancer i x.agent config operation := by
      rw [State.operate, hname]
      simp only [hfinds.agent, hrole]
    rw [hoperate]
    exact hrun s i hfinds
  | _ =>
    refine ⟨.refused, ⟨x.agent, [], 0⟩, fun s name i _ hfinds => ?_⟩
    have hbalancer := hfinds.toRest.isBalancer hfinds.agent
    rw [Agent.isBalancer, hrole] at hbalancer
    cases hbalancer

end Situation

namespace Script.State

variable {s s' : State} {i k : Nat} {a : Agent} {name : String}

/-- A script of balancers between two commands; each name stands for a balancer of its own. -/
structure AtRest (s : State) : Prop extends s.session.Rest where
  known : ∀ {name k}, s.agentOf? name = some k → k < s.session.system.agents.length
  unique : ∀ {name name' k}, s.agentOf? name = some k → s.agentOf? name' = some k → name = name'

namespace AtRest

theorem exists_agent (h : s.AtRest) (hname : s.agentOf? name = some k) :
    ∃ a, s.session.system.agent? k = some a :=
  ⟨_, List.getElem?_eq_getElem (h.known hname)⟩

theorem settled (h : s.AtRest) : s.settled = s := by
  rw [State.settled, h.toRest.settle, withSession]

/-- Names may go while balancers are added or changed. -/
theorem of_names (h : s.AtRest) (hrest : s'.session.Rest)
    (hlength : s.session.system.agents.length ≤ s'.session.system.agents.length)
    (hnames : ∀ name k, s'.agentOf? name = some k → s.agentOf? name = some k) : s'.AtRest where
  toRest := hrest
  known := fun hname => Nat.lt_of_lt_of_le (h.known (hnames _ _ hname)) hlength
  unique := fun hname hname' => h.unique (hnames _ _ hname) (hnames _ _ hname')

theorem of_does {d : Deed} (h : s.AtRest) (hdoes : s.session.Does k d s'.session)
    (hnames : ∀ name k, s'.agentOf? name = some k → s.agentOf? name = some k) : s'.AtRest :=
  h.of_names hdoes.toRest (Nat.le_of_eq hdoes.length_agents.symm) hnames

end AtRest

/-! ## Giving up a name -/

theorem agentOf?_forget (s : State) (name name' : String) :
    (s.forget name).2.agentOf? name' = if name' = name then none else s.agentOf? name' := by
  rw [forget]
  cases hname : s.agentOf? name with
  | none =>
    by_cases he : name' = name
    · rw [if_pos he, he]
      exact hname
    · rw [if_neg he]
  | some i => exact lookup_filter_ne name name' s.names

theorem agentOf?_of_forget {name' : String} (h : (s.forget name).2.agentOf? name' = some k) :
    s.agentOf? name' = some k := by
  rw [agentOf?_forget] at h
  split at h
  · cases h
  · exact h

theorem operate_of_unknown (hname : s.agentOf? name = none) (operation : Operation) :
    s.operate name operation = (.refused, s) := by
  rw [operate, hname]

theorem forget_of_unknown (hname : s.agentOf? name = none) : s.forget name = (false, s) := by
  rw [forget, hname]

/-- Giving up a name stops the balancer behind it. -/
theorem forget_of_known (h : s.session.Rest) (hname : s.agentOf? name = some k)
    (ha : s.session.system.agent? k = some a) :
    (s.forget name).1 = true ∧
      s.session.Does k ⟨a.setStarted false, [], 0⟩ (s.forget name).2.session := by
  rw [forget, hname]
  exact ⟨rfl, (h.finds ha).stop⟩

theorem AtRest.forget (h : s.AtRest) (name : String) : (s.forget name).2.AtRest := by
  cases hname : s.agentOf? name with
  | none =>
    rw [forget_of_unknown hname]
    exact h
  | some k =>
    obtain ⟨a, ha⟩ := h.exists_agent hname
    exact h.of_does (forget_of_known h.toRest hname ha).2 fun _ _ => agentOf?_of_forget

/-- What a name that is given up leaves as it is. -/
theorem AtRest.forget_elsewhere (h : s.AtRest) (name : String) :
    (s.forget name).2.session.world = s.session.world ∧
    (s.forget name).2.session.system.queries = s.session.system.queries ∧
    (s.forget name).2.session.system.agents.length = s.session.system.agents.length ∧
    ∀ k, s.agentOf? name ≠ some k →
      (s.forget name).2.session.system.agent? k = s.session.system.agent? k := by
  cases hname : s.agentOf? name with
  | none =>
    rw [forget_of_unknown hname]
    exact ⟨rfl, rfl, rfl, fun _ _ => rfl⟩
  | some i =>
    obtain ⟨a, ha⟩ := h.exists_agent hname
    obtain ⟨-, hdoes⟩ := forget_of_known h.toRest hname ha
    exact ⟨hdoes.world, hdoes.queries.trans (List.append_nil _), hdoes.length_agents,
      fun k hk => hdoes.agent?_of_ne fun hik => hk (congrArg some hik)⟩

/-! ## Creating a balancer -/

theorem create_of_error {blueprint : Blueprint} {error : Error}
    (h : agent s.session.tick.clock blueprint = .error error) (name : String) :
    s.create name blueprint = (.error error, s) := by
  rw [create]
  simp only [h]

/-- A new balancer, made under a name that may have stood for another one. -/
structure Creates (s : State) (name : String) (a : Agent) (s' : State) : Prop
    extends s'.AtRest where
  world : s'.session.world = s.session.world
  queries : s'.session.system.queries = s.session.system.queries
  length : s'.session.system.agents.length = s.session.system.agents.length + 1
  made : s'.session.system.agent? s.session.system.agents.length = some a
  others : ∀ k, k < s.session.system.agents.length → s.agentOf? name ≠ some k →
    s'.session.system.agent? k = s.session.system.agent? k
  names : ∀ name', s'.agentOf? name' =
    if name' = name then some s.session.system.agents.length else s.agentOf? name'

theorem AtRest.addAgent (h : s.AtRest) (hbalancer : a.isBalancer = true)
    (hst : a.isStarted = false) :
    (s.withSession (s.session.tick.mapSystem (·.addAgent a))).AtRest := by
  have hrest : (s.session.tick.mapSystem (·.addAgent a)).Rest := {
    gate := h.gate
    held := h.held
    tasks := h.tasks
    calls := h.calls
    intact := h.intact
    balancers := by
      intro b hb
      rcases List.mem_append.mp hb with hb | hb
      · exact h.balancers b hb
      · rw [List.mem_singleton.mp hb]
        exact hbalancer
    referenced := h.referenced.frame (.refl _) <| by
      show (s.session.system.agents ++ [a]).countP Agent.isStarted = _
      rw [List.countP_append, List.countP_singleton, hst]
      rfl }
  refine h.of_names hrest ?_ fun _ _ hname => hname
  show _ ≤ (s.session.system.agents ++ [a]).length
  rw [List.length_append]
  exact Nat.le_add_right ..

/-- Each name still stands for a balancer of its own when one of them stands for a new balancer. -/
theorem AtRest.of_new (h : s.AtRest) (hrest : s'.session.Rest)
    (hlength : s'.session.system.agents.length = s.session.system.agents.length + 1)
    (hnames : ∀ name', s'.agentOf? name' =
      if name' = name then some s.session.system.agents.length else s.agentOf? name') :
    s'.AtRest where
  toRest := hrest
  known := by
    intro name' k hname'
    rw [hlength]
    rw [hnames] at hname'
    split at hname'
    · cases hname'
      exact Nat.lt_succ_self _
    · exact Nat.lt_succ_of_lt (h.known hname')
  unique := by
    intro first second k hfirst hsecond
    rw [hnames] at hfirst hsecond
    -- A name of the new balancer is the new name, and one of an older balancer is not.
    split at hfirst <;> split at hsecond
    · exact ‹first = name›.trans ‹second = name›.symm
    · cases hfirst
      exact absurd (h.known hsecond) (Nat.lt_irrefl _)
    · cases hsecond
      exact absurd (h.known hfirst) (Nat.lt_irrefl _)
    · exact h.unique hfirst hsecond

theorem AtRest.create (h : s.AtRest) (name : String) {config : Config}
    (ha : agent s.session.tick.clock (.balancer config) = .ok a) :
    ∃ s', s.create name (.balancer config) = (.unit, s') ∧ s.Creates name a s' := by
  have hrole : a.role = .balancer config false := Agent.role_ofConfig ha
  have hbalancer : a.isBalancer = true := by rw [Agent.isBalancer, hrole]
  have hstopped : a.isStarted = false := by rw [Agent.isStarted, hrole]
  let added := s.withSession (s.session.tick.mapSystem (·.addAgent a))
  have hadded : added.AtRest := h.addAgent hbalancer hstopped
  obtain ⟨hworld, hqueries, hforget, hothers⟩ := hadded.forget_elsewhere name
  -- The names are those of before, so none stands for the balancer that has just been added.
  have hnew : added.agentOf? name ≠ some s.session.system.agents.length :=
    fun hname => Nat.lt_irrefl _ (h.known hname)
  let s' : State :=
    { (added.forget name).2 with
      names := (name, s.session.system.agents.length) :: (added.forget name).2.names }
  have hlength : s'.session.system.agents.length = s.session.system.agents.length + 1 :=
    hforget.trans List.length_append
  have hnames : ∀ name', s'.agentOf? name' =
      if name' = name then some s.session.system.agents.length else s.agentOf? name' := by
    intro name'
    refine (lookup_cons_eq name name' _ _).trans ?_
    by_cases he : name' = name
    · rw [if_pos he, if_pos he]
    · rw [if_neg he, if_neg he]
      exact (agentOf?_forget added name name').trans (if_neg he)
  refine ⟨s', ?_, {
    toAtRest := h.of_new (hadded.forget name).toRest hlength hnames
    world := hworld
    queries := hqueries
    length := hlength
    made := (hothers _ hnew).trans List.getElem?_concat_length
    others := fun k hk hname => (hothers k hname).trans (List.getElem?_append_left hk)
    names := hnames }⟩
  rw [State.create]
  simp only [ha]
  rfl

end Script.State

end NodeBalancer
