import NodeBalancer.Proofs.Session.Turns

/-!
# Balancers that share a worker do not influence each other

A session of several balancers is played a second time with only one of them: every command on
another one is left out, and those that change the cluster are kept.  The commands that are left see
the same times as before.  Then the balancer gives the same replies, asks the same questions and
keeps the same node list, and it is started and stopped alike, although the worker had other
references and other threads.

Both sessions are followed side by side (`Script.State.Beside`):

* `Script.State.Beside.skip`: a command about another balancer is left out.
* `Script.State.Beside.cluster`: a command about the cluster is performed in both.
* `Script.State.Beside.turn`: so is one about the balancer, and it shows the same of it.
* `Script.State.independence`: the two sessions, for all scripts.
-/

namespace NodeBalancer

namespace Script

namespace State

variable {s s' t t' : State} {i k : Nat} {a : Agent} {name : String} {command : Command}
  {reply : Reply}

/-- Where a balancer is in a session of several and in the session that it has to itself. -/
inductive Place (i : Nat) (s t : State) : Prop
  /-- It is still to be made. -/
  | unborn (hlength : s.session.system.agents.length ≤ i)
      (hnone : t.session.system.agents.length = 0)
  /-- It is the same in both, and has its name in both. -/
  | alive (a : Agent) (ha : s.session.system.agent? i = some a)
      (ha' : t.session.system.agent? 0 = some a)
      (hnames : ∀ name, s.agentOf? name = some i → t.agentOf? name = some 0)
  /-- Another one has taken its name, so no command is about it any more. -/
  | gone (hlength : i < s.session.system.agents.length) (hnames : ∀ name, s.agentOf? name ≠ some i)

/-- A session of several balancers, and the session that one of them has to itself. -/
structure Beside (i : Nat) (s t : State) : Prop where
  shared : s.AtRest
  alone : t.AtRest
  world : t.session.world = s.session.world
  questions : t.session.questionsOf 0 = s.session.questionsOf i
  place : Place i s t

/-- A command shows the same of the balancer in both sessions, and leaves them side by side. -/
def Matches (i : Nat) (s t : State) (command : Command) : Prop :=
  (t.step command).1.sight (t.step command).2 0 = (s.step command).1.sight (s.step command).2 i ∧
    Beside i (s.step command).2 (t.step command).2

/-- What others do leaves a balancer where it was. -/
theorem Place.frame (h : Place i s t)
    (ha : i < s.session.system.agents.length →
      s'.session.system.agent? i = s.session.system.agent? i)
    (hlength : s.session.system.agents.length ≤ s'.session.system.agents.length)
    (hunborn : s.session.system.agents.length ≤ i → s'.session.system.agents.length ≤ i)
    (hnames : ∀ name, s'.agentOf? name = some i → s.agentOf? name = some i) : Place i s' t := by
  cases h with
  | unborn hle hnone => exact .unborn (hunborn hle) hnone
  | alive a hsome hsome' hsame =>
    have hlt : i < s.session.system.agents.length := (List.getElem?_eq_some_iff.mp hsome).1
    exact .alive a ((ha hlt).trans hsome) hsome' fun name hname => hsame name (hnames name hname)
  | gone hlt hnone =>
    exact .gone (Nat.lt_of_lt_of_le hlt hlength) fun name hname => hnone name (hnames name hname)

namespace Beside

/-- Both sessions may go on with another clock or another cluster. -/
theorem both {session session' : Session ScriptedWorld} (h : Beside i s t)
    (hs : session.Rest) (ht : session'.Rest) (hsystem : session.system = s.session.system)
    (hsystem' : session'.system = t.session.system) (hworld : session'.world = session.world) :
    Beside i (s.withSession session) (t.withSession session') where
  shared := h.shared.of_names hs (Nat.le_of_eq (congrArg (·.agents.length) hsystem.symm))
    fun _ _ hname => hname
  alone := h.alone.of_names ht (Nat.le_of_eq (congrArg (·.agents.length) hsystem'.symm))
    fun _ _ hname => hname
  world := hworld
  questions := by
    have hshared : session.questionsOf i = s.session.questionsOf i :=
      Session.questionsOf_congr (congrArg System.queries hsystem) i
    have halone : session'.questionsOf 0 = t.session.questionsOf 0 :=
      Session.questionsOf_congr (congrArg System.queries hsystem') 0
    exact (halone.trans h.questions).trans hshared.symm
  place := by
    have hlength : session.system.agents.length = s.session.system.agents.length :=
      congrArg (·.agents.length) hsystem
    have hlength' : session'.system.agents.length = t.session.system.agents.length :=
      congrArg (·.agents.length) hsystem'
    cases h.place with
    | unborn hle hnone => exact .unborn (hlength.trans_le hle) (hlength'.trans hnone)
    | alive a ha ha' hnames =>
      exact .alive a ((congrArg (·.agent? i) hsystem).trans ha)
        ((congrArg (·.agent? 0) hsystem').trans ha') hnames
    | gone hlt hnames => exact .gone (hlt.trans_eq hlength.symm) hnames

theorem withClock (h : Beside i s t) (clock clock' : Nat → Instant) :
    Beside i (s.withClock clock) (t.withClock clock') :=
  h.both { h.shared.toRest with } { h.alone.toRest with } rfl rfl h.world

theorem mapCluster (h : Beside i s t) (f : Cluster → Cluster) :
    Beside i (s.mapCluster f) (t.mapCluster f) :=
  h.both { h.shared.toRest with } { h.alone.toRest with } rfl rfl
    (congrArg (fun world => { world with cluster := f world.cluster }) h.world)

/-- **A command about the cluster** keeps the sessions side by side when it is performed in both. -/
theorem cluster (h : Beside i s t) (hcluster : command.action.isCluster = true) :
    Beside i (s.step command).2 (t.step command).2 := by
  obtain ⟨reply, f, hperform⟩ := Action.exists_mapCluster hcluster
  have hmapped := h.mapCluster f
  obtain ⟨-, -, -, hs⟩ := step_of_perform command (hperform s command.about)
  obtain ⟨-, -, -, ht⟩ := step_of_perform command (hperform t command.about)
  rwa [hs, ht, hmapped.shared.settled, hmapped.alone.settled]

/-! ## Commands about others -/

/-- What others do in the session of several keeps both sessions side by side. -/
theorem frame (h : Beside i s t) (hrest : s'.AtRest)
    (hworld : s'.session.world = s.session.world)
    (hquestions : s'.session.questionsOf i = s.session.questionsOf i) (hplace : Place i s' t) :
    Beside i s' t where
  shared := hrest
  alone := h.alone
  world := h.world.trans hworld.symm
  questions := h.questions.trans hquestions.symm
  place := hplace

theorem create_other (h : Beside i s t) (hcreates : s.Creates name a s')
    (hother : s.session.system.agents.length ≠ i) : Beside i s' t := by
  have hnew : ∀ {name'}, s'.agentOf? name' = some i →
      name' ≠ name ∧ s.agentOf? name' = some i := by
    intro name' hname'
    rw [hcreates.names] at hname'
    split at hname'
    · exact absurd (Option.some.inj hname') hother
    · exact ⟨‹_›, hname'⟩
  refine h.frame hcreates.toAtRest hcreates.world
    (Session.questionsOf_congr hcreates.queries i) ?_
  by_cases hname : s.agentOf? name = some i
  · -- The name stood for the balancer, and it had no other.
    refine .gone ?_ fun name' hname' => ?_
    · rw [hcreates.length]
      exact Nat.lt_succ_of_lt (h.shared.known hname)
    · obtain ⟨hne, hbefore⟩ := hnew hname'
      exact hne (h.shared.unique hbefore hname)
  · refine h.place.frame (fun hlt => hcreates.others i hlt hname) ?_ ?_ fun name' hname' =>
      (hnew hname').2
    · rw [hcreates.length]
      exact Nat.le_succ _
    · intro hle
      rw [hcreates.length]
      exact Nat.lt_of_le_of_ne hle hother

theorem forget_other (h : Beside i s t) (hname : s.agentOf? name ≠ some i) :
    Beside i (s.forget name).2 t := by
  obtain ⟨hworld, hqueries, hlength, hothers⟩ := h.shared.forget_elsewhere name
  exact h.frame (h.shared.forget name) hworld (Session.questionsOf_congr hqueries i)
    (h.place.frame (fun _ => hothers i hname) hlength.ge hlength.trans_le
      fun _ => agentOf?_of_forget)

theorem does_other {d : Deed} {session : Session ScriptedWorld} (h : Beside i s t)
    (hdoes : s.session.Does k d session) (hki : k ≠ i) : Beside i (s.withSession session) t :=
  h.frame (h.shared.of_does hdoes fun _ _ hname => hname) hdoes.world
    (hdoes.questionsOf_of_ne hki)
    (h.place.frame (fun _ => hdoes.agent?_of_ne hki) hdoes.length_agents.ge
      hdoes.length_agents.trans_le fun _ hname => hname)

/-- **A command about another balancer** keeps the sessions side by side when it is left out. -/
theorem skip (h : Beside i s t) (hordinary : command.action.isOrdinary = true)
    (hcluster : command.action.isCluster = false) (hsubject : s.subject? command ≠ some i) :
    Beside i (s.step command).2 t := by
  obtain ⟨about, action⟩ := command
  have hperformed : ∀ {reply s'}, s.perform about action = (reply, s') → Beside i s'.settled t →
      Beside i (s.step ⟨about, action⟩).2 t := by
    intro reply s' hperform hbeside
    obtain ⟨-, -, -, hafter⟩ := step_of_perform ⟨about, action⟩ hperform
    rwa [hafter]
  have hunchanged : ∀ {reply}, s.perform about action = (reply, s) →
      Beside i (s.step ⟨about, action⟩).2 t := fun hperform =>
    hperformed hperform (h.shared.settled.symm ▸ h)
  have hcases := Action.cases_of_isOrdinary hordinary hcluster
  cases about with
  | none => rcases hcases with ⟨config, rfl⟩ | rfl | ⟨operation, rfl⟩ | rfl <;> exact hunchanged rfl
  | some name =>
    rcases hcases with ⟨config, rfl⟩ | rfl | ⟨operation, rfl⟩ | rfl
    · cases hmade : agent s.session.tick.clock (.balancer config) with
      | error error => exact hunchanged (create_of_error hmade name)
      | ok a =>
        obtain ⟨s', hcreate, hcreates⟩ := h.shared.create name hmade
        have hother : s.session.system.agents.length ≠ i := by
          intro hlength
          refine hsubject ?_
          rw [subject?]
          simp only [hmade, hlength]
        refine hperformed hcreate ?_
        rw [hcreates.toAtRest.settled]
        exact h.create_other hcreates hother
    · have hforget := h.forget_other hsubject
      exact hperformed rfl (hforget.shared.settled.symm ▸ hforget)
    · cases hname : s.agentOf? name with
      | none => exact hunchanged (operate_of_unknown hname operation)
      | some k =>
        obtain ⟨a, ha⟩ := h.shared.exists_agent hname
        have hfinds := h.shared.toRest.finds ha
        obtain ⟨reply, d, hoperate⟩ := Situation.determines_operate _ operation
        obtain ⟨session, hrun, hdoes⟩ := hoperate s name k hname hfinds
        refine hperformed hrun (h.does_other hdoes ?_)
        intro hki
        exact hsubject (hname.trans (congrArg some hki))
    · exact hunchanged rfl

/-! ## Commands about the balancer -/

/-- A balancer that has its name in the session of several is the first one of the other session,
and has its name there too. -/
theorem exists_alive (h : Beside i s t) (hname : s.agentOf? name = some i) :
    ∃ a, s.session.system.agent? i = some a ∧ t.session.system.agent? 0 = some a ∧
      ∀ name', s.agentOf? name' = some i → t.agentOf? name' = some 0 := by
  cases h.place with
  | unborn hlength => exact absurd (h.shared.known hname) (Nat.not_lt_of_le hlength)
  | alive a ha ha' hnames => exact ⟨a, ha, ha', hnames⟩
  | gone _ hnames => exact absurd hname (hnames name)

/-- A command that asks the same on behalf of the same balancer, and replies the same, shows the
same of it. -/
theorem matches_of_perform (asked : List (Endpoint × Filter))
    (habout : command.about = some name)
    (hs : s.perform command.about command.action = (reply, s'))
    (ht : t.perform command.about command.action = (reply, t'))
    (hqueries : s'.settled.session.system.queries =
      s.session.system.queries ++ asked.map (Query.ofAgent i))
    (hqueries' : t'.settled.session.system.queries =
      t.session.system.queries ++ asked.map (Query.ofAgent 0))
    (ha : s'.settled.session.system.agent? i = some a)
    (ha' : t'.settled.session.system.agent? 0 = some a)
    (hnamed : s'.settled.agentOf? name = some i ∧ t'.settled.agentOf? name = some 0 ∨
      s'.settled.agentOf? name = none ∧ t'.settled.agentOf? name = none)
    (hafter : Beside i s'.settled t'.settled) : Matches i s t command := by
  have hview : t'.settled.viewOf name = s'.settled.viewOf name := by
    have hbalancer : a.isBalancer = true := hafter.shared.toRest.isBalancer ha
    rcases hnamed with ⟨hname, hname'⟩ | ⟨hname, hname'⟩
    · rw [viewOf_of_known hname ha hbalancer, viewOf_of_known hname' ha' hbalancer]
    · rw [viewOf_of_unknown hname, viewOf_of_unknown hname']
  constructor
  · rw [sight_of_perform command hs hqueries ha, sight_of_perform command ht hqueries' ha', habout,
      Option.bind_some, Option.bind_some, hview]
  · rw [(step_of_perform command hs).2.2.2, (step_of_perform command ht).2.2.2]
    exact hafter

/-- **The same deed of the balancer in both sessions** shows the same of it, whatever names go. -/
theorem deed {d : Deed} (Gone : String → Prop) [DecidablePred Gone] (h : Beside i s t)
    (hname : s.agentOf? name = some i) (habout : command.about = some name)
    (hs : s.perform command.about command.action = (reply, s'))
    (ht : t.perform command.about command.action = (reply, t'))
    (hdoes : s.session.Does i d s'.settled.session)
    (hdoes' : t.session.Does 0 d t'.settled.session)
    (hnames : ∀ name', s'.agentOf? name' = if Gone name' then none else s.agentOf? name')
    (hnames' : ∀ name', t'.agentOf? name' = if Gone name' then none else t.agentOf? name') :
    Matches i s t command := by
  obtain ⟨a, ha, ha', hsame⟩ := h.exists_alive hname
  have hkept : ∀ {name' k}, s'.agentOf? name' = some k → ¬ Gone name' ∧ s.agentOf? name' = some k :=
    fun hk => Option.ite_none_left_eq_some.mp ((hnames _).symm.trans hk)
  have hkept' : ∀ {name' k}, t'.agentOf? name' = some k →
      ¬ Gone name' ∧ t.agentOf? name' = some k :=
    fun hk => Option.ite_none_left_eq_some.mp ((hnames' _).symm.trans hk)
  refine matches_of_perform d.asked habout hs ht hdoes.queries hdoes'.queries
    (hdoes.agent?_self ha) (hdoes'.agent?_self ha') ?_ {
      shared := h.shared.of_does hdoes fun _ _ hk => (hkept hk).2
      alone := h.alone.of_does hdoes' fun _ _ hk => (hkept' hk).2
      world := (hdoes'.world.trans h.world).trans hdoes.world.symm
      questions := by rw [hdoes.questionsOf_self, hdoes'.questionsOf_self, h.questions]
      place := .alive d.agent (hdoes.agent?_self ha) (hdoes'.agent?_self ha') fun name' hk =>
        ((hnames' name').trans (if_neg (hkept hk).1)).trans (hsame name' (hkept hk).2) }
  by_cases hgone : Gone name
  · exact .inr ⟨(hnames name).trans (if_pos hgone), (hnames' name).trans (if_pos hgone)⟩
  · exact .inl ⟨((hnames name).trans (if_neg hgone)).trans hname,
      ((hnames' name).trans (if_neg hgone)).trans (hsame name hname)⟩

theorem operate (h : Beside i s t) (hclock : t.session.ahead = s.session.ahead)
    (hname : s.agentOf? name = some i) (operation : Operation) :
    Matches i s t ⟨some name, .operate operation⟩ := by
  obtain ⟨a, ha, ha', hsame⟩ := h.exists_alive hname
  have hs := h.shared.toRest.finds ha
  have ht : t.session.Finds 0 ⟨a, s.session.world.cluster, s.session.ahead⟩ :=
    { h.alone with
      agent := ha'
      cluster := congrArg ScriptedWorld.cluster h.world
      clock := congrFun hclock }
  obtain ⟨reply, d, hoperate⟩ := Situation.determines_operate _ operation
  obtain ⟨session, hrun, hdoes⟩ := hoperate s name i hname hs
  obtain ⟨session', hrun', hdoes'⟩ := hoperate t name 0 (hsame name hname) ht
  exact deed (fun _ => False) h hname rfl hrun hrun' hdoes hdoes'
    (fun _ => (if_neg id).symm) (fun _ => (if_neg id).symm)

theorem drop (h : Beside i s t) (hname : s.agentOf? name = some i) :
    Matches i s t ⟨some name, .drop⟩ := by
  obtain ⟨a, ha, ha', hsame⟩ := h.exists_alive hname
  obtain ⟨hflag, hdoes⟩ := forget_of_known h.shared.toRest hname ha
  obtain ⟨hflag', hdoes'⟩ := forget_of_known h.alone.toRest (hsame name hname) ha'
  have hs : s.perform (some name) .drop = (.flag true, (s.forget name).2) := by
    rw [← hflag]
    rfl
  have ht : t.perform (some name) .drop = (.flag true, (t.forget name).2) := by
    rw [← hflag']
    rfl
  rw [← (h.shared.forget name).settled] at hdoes
  rw [← (h.alone.forget name).settled] at hdoes'
  exact deed (· = name) h hname rfl hs ht hdoes hdoes' (agentOf?_forget s name)
    (agentOf?_forget t name)

/-- The balancer is made, and in the other session it is the first one. -/
theorem create (h : Beside i s t) (hclock : t.session.ahead = s.session.ahead) {config : Config}
    (hmade : agent s.session.tick.clock (.balancer config) = .ok a)
    (hlength : s.session.system.agents.length = i) :
    t.subject? ⟨some name, .create (.balancer config)⟩ = some 0 ∧
      Matches i s t ⟨some name, .create (.balancer config)⟩ := by
  subst hlength
  have hfirst : t.session.system.agents.length = 0 := by
    cases h.place with
    | unborn _ hnone => exact hnone
    | alive a ha => exact absurd (List.getElem?_eq_some_iff.mp ha).1 (Nat.lt_irrefl _)
    | gone hlt => exact absurd hlt (Nat.lt_irrefl _)
  have hmade' : agent t.session.tick.clock (.balancer config) = .ok a := by
    have htick : t.session.tick.clock = s.session.tick.clock := congrFun hclock 1
    rw [htick, hmade]
  obtain ⟨s', hcreate, hs⟩ := h.shared.create name hmade
  obtain ⟨t', hcreate', ht⟩ := h.alone.create name hmade'
  have ha' : t'.session.system.agent? 0 = some a := hfirst ▸ ht.made
  have hname : s'.agentOf? name = some s.session.system.agents.length :=
    (hs.names name).trans (if_pos rfl)
  have hname' : t'.agentOf? name = some 0 := hfirst ▸ (ht.names name).trans (if_pos rfl)
  refine ⟨?_, ?_⟩
  · rw [subject?]
    simp only [hmade', hfirst]
  · have hsettled := hs.toAtRest.settled
    have hsettled' := ht.toAtRest.settled
    rw [← hsettled] at hs hname
    rw [← hsettled'] at ht ha' hname'
    refine matches_of_perform [] rfl hcreate hcreate' (hs.queries.trans (List.append_nil _).symm)
      (ht.queries.trans (List.append_nil _).symm) hs.made ha' (.inl ⟨hname, hname'⟩) {
        shared := hs.toAtRest
        alone := ht.toAtRest
        world := (ht.world.trans h.world).trans hs.world.symm
        questions := by
          rw [Session.questionsOf_congr hs.queries, Session.questionsOf_congr ht.queries,
            h.questions]
        place := .alive a hs.made ha' fun name' hk => ?_ }
    rw [hs.names] at hk
    split at hk
    · exact ‹name' = name› ▸ hname'
    · exact absurd (h.shared.known hk) (Nat.lt_irrefl _)

theorem turn (h : Beside i s t) (hclock : t.session.ahead = s.session.ahead)
    (hordinary : command.action.isOrdinary = true) (hcluster : command.action.isCluster = false)
    (hsubject : s.subject? command = some i) :
    t.subject? command = some 0 ∧ Matches i s t command := by
  obtain ⟨about, action⟩ := command
  cases about with
  | none => cases hsubject
  | some name =>
    rcases Action.cases_of_isOrdinary hordinary hcluster with
      ⟨config, rfl⟩ | rfl | ⟨operation, rfl⟩ | rfl
    · rw [subject?] at hsubject
      cases hmade : agent s.session.tick.clock (.balancer config) with
      | error error =>
        simp only [hmade] at hsubject
        cases hsubject
      | ok a =>
        simp only [hmade] at hsubject
        exact h.create hclock hmade (Option.some.inj hsubject)
    · obtain ⟨a, -, -, hsame⟩ := h.exists_alive hsubject
      exact ⟨hsame name hsubject, h.drop hsubject⟩
    · obtain ⟨a, -, -, hsame⟩ := h.exists_alive hsubject
      exact ⟨hsame name hsubject, h.operate hclock hsubject operation⟩
    · cases hsubject

/-- **Side by side to the end** of any script of balancers. -/
theorem run (h : Beside i s t) {script : List Timed}
    (hscript : ∀ timed ∈ script, timed.command.action.isOrdinary = true) :
    t.sights 0 (s.kept i script) = s.sights i script ∧
      Beside i (s.afterTurns script) (t.afterTurns (s.kept i script)) := by
  induction script generalizing s t with
  | nil => exact ⟨rfl, h⟩
  | cons timed script ih =>
    obtain ⟨hordinary, hrest⟩ := List.forall_mem_cons.mp hscript
    have hbeside := h.withClock timed.clock timed.clock
    have hclock : (t.withClock timed.clock).session.ahead =
        (s.withClock timed.clock).session.ahead :=
      funext fun n => (Session.ahead_withClock ..).trans (Session.ahead_withClock ..).symm
    rw [kept]
    by_cases hcluster : timed.command.action.isCluster = true
    · -- Both sessions perform the command, and it is about no balancer.
      obtain ⟨hsights, hafter⟩ := ih (hbeside.cluster hcluster) hrest
      rw [if_pos (.inl hcluster)]
      refine ⟨?_, hafter⟩
      have hnobody : ∀ u : State, (u.turn timed).subject = none := fun u =>
        subject?_of_isCluster hcluster _
      rw [sights_cons, sights_cons, hnobody, hnobody]
      exact hsights
    · by_cases hsubject : (s.turn timed).subject = some i
      · obtain ⟨hsubject', hsight, hnext⟩ :=
          hbeside.turn hclock hordinary (Bool.eq_false_iff.mpr hcluster) hsubject
        obtain ⟨hsights, hafter⟩ := ih hnext hrest
        rw [if_pos (.inr hsubject)]
        refine ⟨?_, hafter⟩
        have hsame : (t.turn timed).subject = some 0 := hsubject'
        rw [sights_cons, sights_cons, if_pos hsubject, if_pos hsame]
        exact congrArg₂ List.cons hsight hsights
      · -- The other session does not even look at its clock.
        have hleft : Beside i (s.withClock timed.clock) t :=
          t.withClock_ahead ▸ h.withClock timed.clock t.session.ahead
        obtain ⟨hsights, hafter⟩ :=
          ih (hleft.skip hordinary (Bool.eq_false_iff.mpr hcluster) hsubject) hrest
        rw [if_neg (not_or.mpr ⟨hcluster, hsubject⟩)]
        refine ⟨?_, hafter⟩
        rw [sights_cons, if_neg hsubject]
        exact hsights

end Beside

end State

end Script

end NodeBalancer
