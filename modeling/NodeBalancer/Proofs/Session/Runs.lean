import NodeBalancer.Proofs.Journal
import NodeBalancer.Session.Script

/-!
# Sessions are runs

A session drives a system by calls that run to their end and by workers that run until they are
idle.  All of that is made of events: whatever a session does leads the system along a run
(`System.Leads`).

* `Session.leads_settle`, `Session.leads_openGate`: workers only take steps of their threads.
* `Script.State.exists_run`: the system at the end of every script is that of a run from nothing, so
  all that holds of every run holds in every script.
-/

namespace NodeBalancer

/-- Some run leads from one system to another. -/
def System.Leads (s s' : System) : Prop :=
  ∃ events, s' = s.run events

namespace System.Leads

variable {s s' s'' : System}

theorem refl (s : System) : s.Leads s := ⟨[], rfl⟩

theorem step (s : System) (e : Event) : s.Leads (s.step e) := ⟨[e], rfl⟩

theorem trans (h : s.Leads s') (g : s'.Leads s'') : s.Leads s'' := by
  obtain ⟨past, rfl⟩ := h
  obtain ⟨later, rfl⟩ := g
  exact ⟨past ++ later, (run_append s past later).symm⟩

end System.Leads

namespace Session

variable {World : Type} {discovery : Discovery World}

/-! ## Workers -/

@[simp] theorem system_ask (s : Session World) (question : Option (Endpoint × Filter)) :
    (s.ask discovery question).2.system = s.system := by
  cases question <;> rfl

theorem leads_runThread (thread fuel : Nat) (s : Session World) :
    s.system.Leads (s.runThread discovery thread fuel).system := by
  induction fuel generalizing s with
  | zero => exact .refl _
  | succ fuel ih =>
    rw [runThread]
    split
    · exact .refl _
    · split
      · exact .refl _
      · simp only
        split
        · exact .refl _
        · refine .trans ?_ (ih _)
          simp only [system_ask]
          exact .step s.system (.stepThread thread _ _)

theorem leads_foldl {α : Type} (f : Session World → α → Session World)
    (hf : ∀ (s : Session World) (x : α), s.system.Leads (f s x).system) (xs : List α)
    (s : Session World) : s.system.Leads (xs.foldl f s).system := by
  induction xs generalizing s with
  | nil => exact .refl _
  | cons x xs ih => exact (hf s x).trans (ih _)

theorem leads_settle (s : Session World) : s.system.Leads (s.settle discovery).system :=
  leads_foldl _ (fun s thread => leads_runThread thread _ s) _ s

theorem leads_openGate (s : Session World) : s.system.Leads (s.openGate discovery).system :=
  leads_foldl _ (fun s thread => leads_runThread thread _ { s with held := s.held.erase thread }) _
    { s with gateClosed := false }

/-! ## Calls -/

theorem leads_advanceCall {s : System} {position : Nat} {answer : Answer} {now : Instant}
    {outcome : Option Outcome} {s' : System}
    (h : s.advanceCall position answer now = (outcome, s')) : s.Leads s' := by
  have hstep := System.Leads.step s (.advanceCall position answer now)
  rwa [System.step, h] at hstep

theorem leads_runCall (fuel : Nat) (s : Session World) :
    s.system.Leads (s.runCall discovery fuel).2.system := by
  induction fuel generalizing s with
  | zero => exact .refl _
  | succ fuel ih =>
    rw [runCall]
    split
    · exact .refl _
    · rename_i call _
      have hask : (((s.tick).ask discovery (s.system.callQuestion? call)).2).system = s.system :=
        system_ask _ _
      simp only
      split
      · rename_i outcome system hadvance
        rw [← hask]
        exact leads_advanceCall hadvance
      · rename_i system hadvance
        rw [← hask]
        exact (leads_advanceCall hadvance).trans (ih _)

theorem leads_of_runCall {s t : Session World} {fuel : Nat} {outcome : Option Outcome}
    (h : s.runCall discovery fuel = (outcome, t)) : s.system.Leads t.system := by
  have hcall : s.system.Leads (s.runCall discovery fuel).2.system := leads_runCall fuel s
  rwa [h] at hcall

theorem leads_forceRefresh (s : Session World) (i : Nat) :
    s.system.Leads (s.forceRefresh discovery i).2.system := by
  have hbegin := System.Leads.step s.system (.forceRefresh i s.tick.clock)
  rw [forceRefresh]
  simp only
  split
  · split
    · rename_i hrun
      exact hbegin.trans (leads_of_runCall hrun)
    · rename_i hrun
      exact hbegin.trans (leads_of_runCall hrun)
    · rename_i hrun
      exact hbegin.trans (leads_of_runCall hrun)
  · exact hbegin

theorem leads_start (s : Session World) (i : Nat) (launch : Launch) :
    s.system.Leads (s.start discovery i launch).2.system := by
  have hstart := System.Leads.step s.system (.start i launch)
  rw [System.step] at hstart
  rw [start]
  cases hresult : s.system.start i launch with
  | mk result system =>
    rw [hresult] at hstart
    cases result with
    | error error => exact hstart
    | ok fresh =>
      simp only
      split
      · exact hstart.trans (leads_forceRefresh { s with system := system } i)
      · exact hstart

theorem leads_stop (s : Session World) (i : Nat) : s.system.Leads (s.stop i).system :=
  .step s.system (.stop i)

theorem leads_next (s : Session World) (i : Nat) : s.system.Leads (s.next i).2.system := by
  have hnext := System.Leads.step s.system (.next i s.tick.clock s.tick.tick.clock)
  rw [System.step] at hnext
  rw [next]
  split
  · exact .refl _
  · rename_i node system hsome
    rwa [hsome] at hnext

theorem leads_maybeSchedule (s : Session World) (i : Nat) :
    s.system.Leads (s.maybeSchedule i).2.system :=
  .step s.system (.maybeSchedule i _ _)

theorem leads_checkFilterHonored (s : Session World) (i : Nat) (kind : FilterKind) :
    s.system.Leads (s.checkFilterHonored discovery i kind).2.system :=
  .trans (.step s.system (.beginComparison i kind)) (leads_runCall 2 _)

theorem leads_validateFilter (s : Session World) (i : Nat) :
    s.system.Leads (s.validateFilter discovery i).2.system := by
  have hbegin := System.Leads.step s.system (.beginValidation i)
  rw [validateFilter]
  simp only
  split
  · exact hbegin.trans (leads_runCall 1 { s with system := (s.system.beginValidation i).2 })
  · exact hbegin

theorem leads_repeatSettled {Result : Type}
    {once : Session World → Except Fault Result × Session World}
    (hf : ∀ s : Session World, s.system.Leads (once s).2.system) (times : Nat)
    (s : Session World) :
    s.system.Leads (s.repeatSettled discovery once times).2.system := by
  induction times generalizing s with
  | zero => exact .refl _
  | succ times ih =>
    have honce := hf s
    rw [repeatSettled]
    split
    · rename_i fault t honce'
      rwa [honce'] at honce
    · rename_i result t honce'
      rw [honce'] at honce
      have hrest := honce.trans ((leads_settle t).trans (ih (t.settle discovery)))
      split
      · rename_i fault u hrest'
        rwa [hrest'] at hrest
      · rename_i results u hrest'
        rwa [hrest'] at hrest

end Session

namespace Script

open Session

/-- What a script leaves behind. -/
def State.after (s : State) (commands : List Command) : State :=
  commands.foldl (fun s command => (s.step command).2) s

namespace State

/-- Lets the workers settle. -/
def settled (s : State) : State :=
  s.withSession (s.session.settle ScriptedWorld.ask)

/-! ## Commands -/

theorem exists_design (now : Instant) (blueprint : Blueprint) :
    ∃ design : Design, ∀ a, agent now blueprint = .ok a → design.agent now = .ok a := by
  cases blueprint with
  | balancer config => exact ⟨.balancer config, fun a h => h⟩
  | coordinator seeds interval filter =>
    cases hseeds : EndpointText.endpoints seeds with
    | error error =>
      refine ⟨.coordinator [] interval filter, fun a h => ?_⟩
      rw [agent, hseeds] at h
      cases h
    | ok endpoints =>
      refine ⟨.coordinator endpoints interval filter, fun a h => ?_⟩
      rw [agent, hseeds] at h
      exact h
  | probe seeds filter =>
    cases hseeds : EndpointText.endpoints seeds with
    | error error =>
      refine ⟨.probe [] filter, fun a h => ?_⟩
      rw [agent, hseeds] at h
      cases h
    | ok endpoints =>
      refine ⟨.probe endpoints filter, fun a h => ?_⟩
      rw [agent, hseeds] at h
      exact h

theorem leads_forget (s : State) (name : String) :
    s.session.system.Leads (s.forget name).2.session.system := by
  rw [forget]
  split
  · exact .refl _
  · exact leads_stop s.session _

theorem leads_create (s : State) (name : String) (blueprint : Blueprint) :
    s.session.system.Leads (s.create name blueprint).2.session.system := by
  rw [create]
  simp only
  split
  · exact .refl _
  · rename_i a ha
    obtain ⟨design, hdesign⟩ := exists_design s.session.tick.clock blueprint
    have hcreate := System.Leads.step s.session.system (.create design s.session.tick.clock)
    rw [System.step, hdesign a ha] at hcreate
    let made := s.withSession (s.session.tick.mapSystem (·.addAgent a))
    exact hcreate.trans (leads_forget made name)

theorem leads_replaceNodes (s : State) (i : Nat) (nodes : List EndpointText) :
    s.session.system.Leads (s.replaceNodes i nodes).2.session.system := by
  rw [replaceNodes]
  split
  · exact .refl _
  · rename_i nodes _
    exact .step s.session.system (.replace i nodes)

theorem leads_resolve (s : State) (i : Nat) :
    s.session.system.Leads (s.resolve i).2.session.system := by
  have hnext := leads_next s.session i
  rw [resolve]
  split <;> simp_all [withSession]

theorem leads_operateBalancer (s : State) (i : Nat) (a : Agent) (config : Config)
    (operation : Operation) :
    s.session.system.Leads (s.operateBalancer i a config operation).2.session.system := by
  cases operation with
  | start => exact Session.leads_start s.session i .made
  | stop => exact leads_stop s.session i
  | next times => exact leads_repeatSettled (leads_next · i) times s.session
  | resolve => exact s.leads_resolve i
  | forceRefresh => exact Session.leads_forceRefresh s.session i
  | checkFilterHonored kind =>
    show s.session.system.Leads (s.session.checkFilterHonored ScriptedWorld.ask i kind).2.system
    exact Session.leads_checkFilterHonored s.session i kind
  | validateFilter => exact Session.leads_validateFilter s.session i
  | _ => exact .refl _

theorem leads_operateCoordinator (s : State) (i : Nat) (a : Agent) (operation : Operation) :
    s.session.system.Leads (s.operateCoordinator i a operation).2.session.system := by
  cases operation with
  | maybeSchedule times => exact leads_repeatSettled (leads_maybeSchedule · i) times s.session
  | forceRefresh => exact Session.leads_forceRefresh s.session i
  | next times => exact leads_repeatSettled (leads_next · i) times s.session
  | replace nodes => exact s.leads_replaceNodes i nodes
  | _ => exact .refl _

theorem leads_operateProbe (s : State) (i : Nat) (a : Agent) (operation : Operation) :
    s.session.system.Leads (s.operateProbe i a operation).2.session.system := by
  cases operation with
  | checkFilterHonored kind =>
    show s.session.system.Leads (s.session.checkFilterHonored ScriptedWorld.ask i kind).2.system
    exact Session.leads_checkFilterHonored s.session i kind
  | validateFilter => exact Session.leads_validateFilter s.session i
  | next times => exact leads_repeatSettled (leads_next · i) times s.session
  | replace nodes => exact s.leads_replaceNodes i nodes
  | _ => exact .refl _

theorem leads_operate (s : State) (name : String) (operation : Operation) :
    s.session.system.Leads (s.operate name operation).2.session.system := by
  rw [operate]
  split
  · exact .refl _
  · split
    · exact .refl _
    · split
      · exact s.leads_operateBalancer _ _ _ operation
      · exact s.leads_operateCoordinator _ _ operation
      · exact s.leads_operateProbe _ _ operation

theorem leads_perform (s : State) (about : Option String) (action : Action) :
    s.session.system.Leads (s.perform about action).2.session.system := by
  cases action with
  | acquire => exact .step s.session.system (.acquire .made)
  | release => exact .step s.session.system .release
  | addMember node rack datacenter =>
    rw [perform]
    split <;> exact .refl _
  | answerFrom node answer =>
    rw [perform]
    split <;> exact .refl _
  | breakNextQuery => exact .refl _
  | closeGate => exact .refl _
  | openGate => exact leads_openGate s.session
  | create blueprint =>
    cases about with
    | none => exact .refl _
    | some name => exact s.leads_create name blueprint
  | drop =>
    cases about with
    | none => exact .refl _
    | some name => exact s.leads_forget name
  | operate operation =>
    cases about with
    | none => exact .refl _
    | some name => exact s.leads_operate name operation
  | unknown => cases about <;> exact .refl _

theorem leads_step (s : State) (command : Command) :
    s.session.system.Leads (s.step command).2.session.system :=
  (s.leads_perform command.about command.action).trans (leads_settle _)

theorem leads_after (s : State) (commands : List Command) :
    s.session.system.Leads (s.after commands).session.system := by
  induction commands generalizing s with
  | nil => exact .refl _
  | cons command commands ih => exact (s.leads_step command).trans (ih _)

/-- The system at the end of a script is at the end of a run from nothing. -/
theorem exists_run (cluster : Cluster) (commands : List Command) :
    ∃ events, ((State.ofCluster cluster).after commands).session.system = System.empty.run events :=
  leads_after (.ofCluster cluster) commands

end State

end Script

end NodeBalancer
