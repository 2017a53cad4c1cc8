import NodeBalancer.Proofs.Agent.Life

/-!
# What becomes of answers

What an agent is made for never changes: the configuration of a balancer, the filter it asks with and
the seeds it falls back to.  What it is told does: every answer that is not empty is installed, and
until it is no other answer can come.  So the lists that were installed are the answers so far,
except the one that is still to be installed, unless somebody else gave the agent lists as well.

* `Agent.design`: what never changes, and `Lane.Path.design_eq` that it does not.
* `Lane.Path.accounted`: the lists that were installed are the answers that are not empty, except
  the one that a refresh has just got.
-/

namespace NodeBalancer

/-! ## What never changes -/

namespace Agent

/-- The configuration of a balancer. -/
def config? (a : Agent) : Option Config :=
  match a.role with
  | .balancer config _ => some config
  | _ => none

/-- What an agent is made for. -/
def design (a : Agent) : Option Config × Filter × List Endpoint :=
  (a.config?, a.filter, a.registry.seeds)

@[simp] theorem design_setStarted (a : Agent) (started : Bool) :
    (a.setStarted started).design = a.design := by
  obtain ⟨registry, filter, role⟩ := a
  cases role <;> rfl

@[simp] theorem design_install (a : Agent) (nodes : List Endpoint) :
    (a.install nodes).design = a.design := by
  have hregistry := registry_install a nodes
  rw [design, hregistry]
  rfl

theorem design_finish? {a a' : Agent} {now : Instant} (h : a.finish? now = some a') :
    a'.design = a.design := by
  obtain ⟨eligible, -, rfl⟩ := finish?_eq_some h
  rfl

/-- A balancer asks with the filter of its configuration, and its seeds are the configured nodes. -/
def Faithful (a : Agent) : Prop :=
  ∀ config, a.config? = some config →
    a.filter = config.filter ∧ config.seeds = .ok a.registry.seeds

theorem faithful_of_config?_eq_none {a : Agent} (h : a.config? = none) : a.Faithful := by
  intro config hc
  rw [h] at hc
  cases hc

theorem Faithful.congr {a a' : Agent} (h : a.Faithful) (hdesign : a'.design = a.design) :
    a'.Faithful := by
  obtain ⟨hconfig, hfilter, hseeds⟩ : a'.config? = a.config? ∧ a'.filter = a.filter ∧
      a'.registry.seeds = a.registry.seeds := by simpa [design] using hdesign
  intro config hc
  rw [hfilter, hseeds]
  exact h config (hconfig ▸ hc)

end Agent

theorem Agent.faithful_of_map {seeds : List Endpoint} {now : Instant} {make : Registry → Agent}
    {a : Agent} (hmake : ∀ r, r.seeds = seeds → (make r).Faithful)
    (h : (Registry.ofSeeds seeds now).map make = .ok a) : a.Faithful := by
  cases hr : Registry.ofSeeds seeds now with
  | error error =>
    rw [hr] at h
    cases h
  | ok r =>
    rw [hr] at h
    cases h
    exact hmake r (Registry.ofSeeds_eq_ok hr).1

/-- Every agent that is made is faithful to what it is made from. -/
theorem Design.faithful {design : Design} {now : Instant} {a : Agent}
    (h : design.agent now = .ok a) : a.Faithful := by
  cases design with
  | balancer config =>
    simp only [Design.agent, Agent.ofConfig] at h
    split at h
    · cases h
    · rename_i seeds hseeds
      refine Agent.faithful_of_map (fun r hr => ?_) h
      rintro _ ⟨⟩
      exact ⟨rfl, hr ▸ hseeds⟩
  | coordinator seeds interval filter =>
    exact Agent.faithful_of_map (fun _ _ => Agent.faithful_of_config?_eq_none rfl) h
  | probe seeds filter =>
    exact Agent.faithful_of_map (fun _ _ => Agent.faithful_of_config?_eq_none rfl) h

namespace Lane

theorem Step.design_eq {l l' : Lane} {e : Entry} (h : Step (some l) e (some l')) :
    l'.agent.design = l.agent.design := by
  cases h with
  | switch a o started => exact a.design_setStarted started
  | replace a o nodes => exact a.design_install nodes
  | settle a nodes => exact a.design_install nodes
  | finish a a' stage now hs hfinish => exact Agent.design_finish? hfinish
  | _ => rfl

/-- Nothing happens to an agent that is not made. -/
theorem Path.eq_nil_of_none {t : List Entry} (h : Path none t none) : t = [] := by
  generalize hk : (none : Option Lane) = k at h
  cases h with
  | refl => rfl
  | tail prior last =>
    subst hk
    cases last

theorem Path.design_eq {l l' : Lane} {t : List Entry} (h : Path (some l) t (some l')) :
    l'.agent.design = l.agent.design := by
  generalize hk : some l = k at h
  generalize hm : some l' = m at h
  induction h generalizing l' with
  | refl =>
    subst hk
    cases hm
    rfl
  | tail prior last ih =>
    subst hk hm
    obtain ⟨m, rfl⟩ := prior.exists_of_some
    exact last.design_eq.trans (ih rfl)

end Lane

/-! ## What is told -/

/-- The list that a refresh has got and has still to install. -/
def Stage.pending? : Stage → Option (List Endpoint)
  | answered nodes => Entry.installable? nodes
  | _ => none

namespace Lane

/-- The answers of a journal that are not empty have been installed, except the one that the refresh
in flight has just got. -/
def Accounted (t : List Entry) (l : Lane) : Prop :=
  (t.filterMap Entry.answer?).filter (!·.isEmpty) =
    t.filterMap Entry.installed? ++ (l.flight.bind Stage.pending?).toList

variable {t : List Entry} {e : Entry} {l l' : Lane}

theorem Accounted.snoc (h : Accounted t l)
    (he : (l.flight.bind Stage.pending?).toList ++ e.answer?.toList.filter (!·.isEmpty) =
      e.installed?.toList ++ (l'.flight.bind Stage.pending?).toList) : Accounted (t ++ [e]) l' := by
  have hone {β : Type} (f : Entry → Option β) : [e].filterMap f = (f e).toList := by
    cases hf : f e <;> simp [hf]
  rw [Accounted] at h ⊢
  rw [List.filterMap_append, List.filterMap_append, List.filter_append, h, hone, hone,
    List.append_assoc, he, List.append_assoc]

theorem pending?_of_isLast {stage : Stage} (h : stage.isLast = true) : stage.pending? = none := by
  cases stage with
  | answered nodes => cases h
  | _ => rfl

theorem Accounted.step (h : Accounted t l) (hstep : Step (some l) e (some l'))
    (he : ∀ nodes, e ≠ .replaced nodes) : Accounted (t ++ [e]) l' := by
  refine h.snoc ?_
  cases hstep with
  | switch a o started => exact List.append_nil _
  | serve a o => exact List.append_nil _
  | pick a o => exact List.append_nil _
  | replace a o nodes => exact absurd rfl (he nodes)
  | begin a hf => rfl
  | ask a => rfl
  | answer a base nodes => cases nodes <;> rfl
  | tear a base message => rfl
  | settle a nodes => rfl
  | finish a a' stage now hs hfinish => simp [pending?_of_isLast hs, Entry.answer?, Entry.installed?]
  | overflow a stage now hs hfinish => simp [pending?_of_isLast hs, Entry.answer?, Entry.installed?]

theorem Path.accounted (h : Path none t (some l)) (ht : ∀ nodes, .replaced nodes ∉ t) :
    Accounted t l := by
  refine h.invariant (P := fun t l => (∀ nodes, .replaced nodes ∉ t) → Accounted t l)
    (fun a ha _ => rfl) (fun t l e l' ih hstep ht => ?_) ht
  have hbefore : ∀ nodes, .replaced nodes ∉ t := fun nodes hmem =>
    ht nodes (List.mem_append_left _ hmem)
  exact (ih hbefore).step hstep fun nodes he => ht nodes (he ▸ List.mem_append_right _ (by simp))

end Lane

end NodeBalancer
