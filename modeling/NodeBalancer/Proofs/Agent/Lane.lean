import NodeBalancer.Proofs.Agent.Registry
import NodeBalancer.Proofs.Journal

/-!
# The lane of an agent

Seen from one agent, a run is a short story: the agent changes, and there is at most one refresh,
which comes from stage to stage.  A **lane** holds just that, and `Lane.Step` says what each entry
of a journal does to it.  There is no lane before the agent is created.

What holds of an agent in every run is proved here by induction along a `Lane.Path`:

* `Lane.Path.marked`: the mark of a refresh in flight stands exactly while there is one, or for ever
  once a refresh has ended without an end of its update interval.
* `Lane.Path.rotates`: the node list is the one installed last, and the cursor counts the picks.

That every run of a system runs along such paths is shown in
`NodeBalancer.Proofs.System.Projection`.
-/

namespace NodeBalancer

/-- Whether a refresh can end at a stage.  One that still waits ends if no worker takes it. -/
def Stage.isLast : Stage → Bool
  | waiting => true
  | broken _ => true
  | settled _ => true
  | _ => false

/-- An agent and the stage of the refresh that it has in flight. -/
structure Lane where
  agent : Agent
  flight : Option Stage

namespace Lane

inductive Step : Option Lane → Entry → Option Lane → Prop
  | create (a : Agent) (h : a.Fresh) : Step none (.created a.registry.seeds) (some ⟨a, none⟩)
  | switch (a : Agent) (o : Option Stage) (started : Bool) :
      Step (some ⟨a, o⟩) (.switched started) (some ⟨a.setStarted started, o⟩)
  | serve (a : Agent) (o : Option Stage) :
      Step (some ⟨a, o⟩) (.served a.registry.current) (some ⟨a.advance, o⟩)
  | pick (a : Agent) (o : Option Stage) :
      Step (some ⟨a, o⟩) (.picked a.registry.current) (some ⟨a.advance, o⟩)
  | replace (a : Agent) (o : Option Stage) (nodes : List Endpoint) :
      Step (some ⟨a, o⟩) (.replaced nodes) (some ⟨a.install nodes, o⟩)
  | begin (a : Agent) (h : a.registry.inFlight = false) :
      Step (some ⟨a, none⟩) .began (some ⟨a.markInFlight, some .waiting⟩)
  | ask (a : Agent) :
      Step (some ⟨a, some .waiting⟩) (.moved .waiting (.asking a.registry.current))
        (some ⟨a.advance, some (.asking a.registry.current)⟩)
  | answer (a : Agent) (base : Endpoint) (nodes : List Endpoint) :
      Step (some ⟨a, some (.asking base)⟩) (.moved (.asking base) (.answered nodes))
        (some ⟨a, some (.answered nodes)⟩)
  | tear (a : Agent) (base : Endpoint) (message : String) :
      Step (some ⟨a, some (.asking base)⟩) (.moved (.asking base) (.broken message))
        (some ⟨a, some (.broken message)⟩)
  | settle (a : Agent) (nodes : List Endpoint) :
      Step (some ⟨a, some (.answered nodes)⟩)
        (.moved (.answered nodes) (.settled !nodes.isEmpty))
        (some ⟨a.install nodes, some (.settled !nodes.isEmpty)⟩)
  | finish (a a' : Agent) (stage : Stage) (now : Instant) (hs : stage.isLast = true)
      (h : a.finish? now = some a') :
      Step (some ⟨a, some stage⟩) (.ended stage now) (some ⟨a', none⟩)
  /-- Without an end of the update interval the mark of the flight stays. -/
  | overflow (a : Agent) (stage : Stage) (now : Instant) (hs : stage.isLast = true)
      (h : a.finish? now = none) :
      Step (some ⟨a, some stage⟩) (.ended stage now) (some ⟨a, none⟩)

/-- A refresh ends in one of two ways, depending on whether its update interval has an end. -/
theorem Step.end (a : Agent) (stage : Stage) (now : Instant) (hs : stage.isLast = true) :
    Step (some ⟨a, some stage⟩) (.ended stage now) (some ⟨(a.finish? now).getD a, none⟩) := by
  cases h : a.finish? now with
  | none => exact .overflow a stage now hs h
  | some a' => exact .finish a a' stage now hs h

/-- Where no refresh is marked as in flight there is none. -/
def Sound : Option Lane → Prop
  | none => True
  | some l => l.agent.registry.inFlight = false → l.flight = none

theorem Step.sound {l m : Option Lane} {e : Entry} (h : Step l e m) (hl : Sound l) : Sound m := by
  cases h with
  | create a h => exact fun _ => rfl
  | switch a o started => exact fun hf => hl (by simpa using hf)
  | serve a o => exact hl
  | pick a o => exact hl
  | replace a o nodes => exact fun hf => hl (by simpa using hf)
  | begin a h => exact fun hf => absurd hf.symm Bool.false_ne_true
  | ask a => exact fun hf => absurd (hl hf) (Option.some_ne_none _)
  | answer a base nodes => exact fun hf => absurd (hl hf) (Option.some_ne_none _)
  | tear a base message => exact fun hf => absurd (hl hf) (Option.some_ne_none _)
  | settle a nodes => exact fun hf => absurd (hl (by simpa using hf)) (Option.some_ne_none _)
  | finish a a' stage now hs h => exact fun _ => rfl
  | overflow a stage now hs h => exact fun _ => rfl

inductive Path : Option Lane → List Entry → Option Lane → Prop
  | refl (l : Option Lane) : Path l [] l
  | tail {l m k : Option Lane} {t : List Entry} {e : Entry} (prior : Path l t m)
      (last : Step m e k) : Path l (t ++ [e]) k

namespace Path

variable {l m k : Option Lane} {t u : List Entry} {e : Entry}

theorem single (h : Step l e k) : Path l [e] k := .tail (.refl l) h

theorem trans (h : Path l t m) (g : Path m u k) : Path l (t ++ u) k := by
  induction g with
  | refl => rwa [List.append_nil]
  | tail _ last ih =>
    rw [← List.append_assoc]
    exact .tail ih last

theorem cons (h : Step l e m) (g : Path m t k) : Path l (e :: t) k := (single h).trans g

theorem sound (h : Path l t k) (hl : Sound l) : Sound k := by
  induction h with
  | refl => exact hl
  | tail _ last ih => exact last.sound ih

/-- An agent that is there stays there. -/
theorem exists_of_some {l : Lane} (h : Path (some l) t k) : ∃ l', k = some l' := by
  induction h with
  | refl => exact ⟨l, rfl⟩
  | tail prior last ih =>
    obtain ⟨m, rfl⟩ := ih
    cases last with
    | _ => exact ⟨_, rfl⟩

/-- A path can be cut where its journal is cut. -/
theorem split (h : Path l t k) : ∀ {u v : List Entry}, t = u ++ v →
    ∃ m, Path l u m ∧ Path m v k := by
  induction h with
  | refl =>
    intro u v he
    obtain ⟨rfl, rfl⟩ := List.append_eq_nil_iff.mp he.symm
    exact ⟨l, .refl l, .refl l⟩
  | @tail m k t e prior last ih =>
    intro u v he
    rcases List.eq_nil_or_concat v with rfl | ⟨v, x, rfl⟩
    · rw [List.append_nil] at he
      subst he
      exact ⟨k, .tail prior last, .refl k⟩
    · rw [List.concat_eq_append, ← List.append_assoc] at he
      obtain ⟨rfl, hx⟩ := List.append_inj' he rfl
      cases hx
      obtain ⟨n, hu, hv⟩ := ih rfl
      exact ⟨n, hu, by rw [List.concat_eq_append]; exact .tail hv last⟩

theorem eq_of_nil (h : Path l [] k) : k = l := by
  generalize ht : [] = t at h
  cases h with
  | refl => rfl
  | tail prior last => exact absurd ht.symm (List.concat_ne_nil _ _)

theorem step_of_singleton (h : Path l [e] k) : Step l e k := by
  generalize ht : [e] = t at h
  cases h with
  | refl => cases ht
  | @tail _ _ t e' prior last =>
    have hsplit : [] ++ [e] = t ++ [e'] := ht
    obtain ⟨rfl, he⟩ := List.append_inj' hsplit rfl
    cases he
    exact prior.eq_of_nil ▸ last

/-- Every entry of a journal is that of a step on the way. -/
theorem exists_step (h : Path l (t ++ e :: u) k) :
    ∃ m n, Path l t m ∧ Step m e n ∧ Path n u k := by
  obtain ⟨m, hbefore, hrest⟩ := h.split rfl
  obtain ⟨n, hsingle, hafter⟩ := hrest.split (u := [e]) rfl
  exact ⟨m, n, hbefore, hsingle.step_of_singleton, hafter⟩

/-- What holds of a new agent and is kept by every step holds wherever a path leads. -/
theorem invariant {P : List Entry → Lane → Prop}
    (hcreate : ∀ a : Agent, a.Fresh → P [.created a.registry.seeds] ⟨a, none⟩)
    (hstep : ∀ t l e l', P t l → Step (some l) e (some l') → P (t ++ [e]) l')
    {t : List Entry} {l : Lane} (h : Path none t (some l)) : P t l := by
  generalize hk : (none : Option Lane) = k at h
  generalize hm : some l = m at h
  induction h generalizing l with
  | refl =>
    subst hk
    cases hm
  | @tail m k t e prior last ih =>
    subst hk hm
    cases m with
    | none =>
      cases prior with
      | refl =>
        cases last with
        | create a ha => exact hcreate a ha
      | tail _ last => cases last
    | some m => exact hstep t m e l (ih rfl) last

end Path

/-! ## The mark of a refresh in flight -/

/-- The mark stands for the refresh in flight or for one that overflowed, and never for both. -/
structure Marked (t : List Entry) (l : Lane) : Prop where
  inFlight : l.agent.registry.inFlight = true ↔
    l.flight.isSome = true ∨ Overflowed l.agent.interval t
  exclusive : l.flight.isSome = true → ¬ Overflowed l.agent.interval t

theorem Marked.snoc {t : List Entry} {e : Entry} {l l' : Lane} (h : Marked t l)
    (he : e.isEnd = false)
    (hf : l'.agent.registry.inFlight = l.agent.registry.inFlight)
    (ho : l'.flight.isSome = l.flight.isSome) (hi : l'.agent.interval = l.agent.interval) :
    Marked (t ++ [e]) l' := by
  have hsame : Overflowed l'.agent.interval (t ++ [e]) ↔ Overflowed l.agent.interval t := by
    rw [overflowed_append, hi]
    exact or_iff_left (not_overflowed he)
  constructor
  · rw [hf, ho, hsame]
    exact h.inFlight
  · rw [ho, hsame]
    exact h.exclusive

theorem Marked.step {t : List Entry} {e : Entry} {l l' : Lane} (h : Marked t l)
    (hstep : Step (some l) e (some l')) : Marked (t ++ [e]) l' := by
  cases hstep with
  | switch a o started => exact h.snoc rfl (by simp) rfl (by simp)
  | serve a o => exact h.snoc rfl rfl rfl rfl
  | pick a o => exact h.snoc rfl rfl rfl rfl
  | replace a o nodes => exact h.snoc rfl (by simp) rfl rfl
  | begin a hf =>
    have hno : ¬ Overflowed a.interval t := fun hover => by
      have htrue := h.inFlight.mpr (.inr hover)
      rw [hf] at htrue
      cases htrue
    have hno' : ¬ Overflowed a.interval [Entry.began] := not_overflowed rfl
    constructor
    · simp [Agent.markInFlight]
    · intro _
      rw [Agent.interval_markInFlight, overflowed_append]
      exact not_or.mpr ⟨hno, hno'⟩
  | ask a => exact h.snoc rfl rfl rfl rfl
  | answer a base nodes => exact h.snoc rfl rfl rfl rfl
  | tear a base message => exact h.snoc rfl rfl rfl rfl
  | settle a nodes => exact h.snoc rfl (by simp) rfl rfl
  | finish a a' stage now hs hfinish =>
    obtain ⟨eligible, hadd, rfl⟩ := Agent.finish?_eq_some hfinish
    have hno : ¬ Overflowed a.interval (t ++ [.ended stage now]) := by
      rw [overflowed_append, overflowed_ended, hadd]
      exact not_or.mpr ⟨h.exclusive rfl, Option.some_ne_none _⟩
    constructor
    · exact ⟨fun hf => absurd hf Bool.false_ne_true,
        fun hor => absurd (hor.resolve_left Bool.false_ne_true) hno⟩
    · exact fun hf => absurd hf Bool.false_ne_true
  | overflow a stage now hs hfinish =>
    have hover : Overflowed a.interval (t ++ [.ended stage now]) :=
      overflowed_append.mpr (.inr (overflowed_ended.mpr (Agent.finish?_eq_none_iff.mp hfinish)))
    constructor
    · exact ⟨fun _ => .inr hover, fun _ => h.inFlight.mpr (.inl rfl)⟩
    · exact fun hf => absurd hf Bool.false_ne_true

theorem Path.marked {t : List Entry} {l : Lane} (h : Path none t (some l)) : Marked t l := by
  refine h.invariant (fun a ha => ⟨?_, fun hf => absurd hf Bool.false_ne_true⟩)
    fun t l e l' ih hstep => ih.step hstep
  have hno : ¬ Overflowed a.interval [.created a.registry.seeds] := not_overflowed rfl
  simp [ha.inFlight, hno]

/-! ## The node list and the cursor -/

/-- The list is the one that was installed last, or the seeds, and the cursor counts the picks. -/
structure Rotates (t : List Entry) (l : Lane) : Prop where
  created : t.head? = some (.created l.agent.registry.seeds)
  nodes : l.agent.registry.nodes = listAfter l.agent.registry.seeds t
  nodes_ne_nil : l.agent.registry.nodes ≠ []
  cursor : l.agent.registry.cursor.toNat = (t.filterMap Entry.pick?).length % UInt64.size

theorem Rotates.snoc {t : List Entry} {e : Entry} {l l' : Lane} (h : Rotates t l)
    (hi : e.installed? = none) (hp : e.pick? = none)
    (hs : l'.agent.registry.seeds = l.agent.registry.seeds)
    (hn : l'.agent.registry.nodes = l.agent.registry.nodes)
    (hc : l'.agent.registry.cursor = l.agent.registry.cursor) : Rotates (t ++ [e]) l' where
  created := by rw [List.head?_append, h.created, hs]; rfl
  nodes := by
    rw [listAfter_append, listAfter_singleton, hi, hs, hn]
    exact h.nodes
  nodes_ne_nil := hn ▸ h.nodes_ne_nil
  cursor := by
    rw [List.filterMap_append, List.filterMap_cons_none hp, List.filterMap_nil, List.append_nil, hc]
    exact h.cursor

theorem Rotates.snoc_pick {t : List Entry} {e : Entry} {a : Agent} {o o' : Option Stage}
    {node : Endpoint} (h : Rotates t ⟨a, o⟩) (hi : e.installed? = none)
    (hp : e.pick? = some node) : Rotates (t ++ [e]) ⟨a.advance, o'⟩ where
  created := by rw [List.head?_append, h.created]; rfl
  nodes := by
    rw [listAfter_append, listAfter_singleton, hi]
    exact (Registry.nodes_advance h.nodes_ne_nil).trans h.nodes
  nodes_ne_nil := by
    rw [Agent.registry_advance, Registry.nodes_advance h.nodes_ne_nil]
    exact h.nodes_ne_nil
  cursor := by
    rw [List.filterMap_append, List.filterMap_cons_some hp, List.filterMap_nil, List.length_append,
      Agent.registry_advance, Registry.toNat_cursor_advance, h.cursor]
    exact Nat.mod_add_mod ..

theorem Rotates.snoc_install {t : List Entry} {e : Entry} {a : Agent} {o o' : Option Stage}
    {nodes : List Endpoint} (h : Rotates t ⟨a, o⟩) (hi : e.installed? = Entry.installable? nodes)
    (hp : e.pick? = none) : Rotates (t ++ [e]) ⟨a.install nodes, o'⟩ := by
  by_cases hn : nodes = []
  · subst hn
    exact h.snoc hi hp (by simp) (by simp) (by simp)
  · have hsome : e.installed? = some nodes := hi.trans (if_neg hn)
    constructor
    · rw [List.head?_append, h.created]
      simp
    · rw [listAfter_append, listAfter_singleton, hsome]
      simp [hn]
    · simp [hn]
    · simpa [hp] using h.cursor

theorem Rotates.step {t : List Entry} {e : Entry} {l l' : Lane} (h : Rotates t l)
    (hstep : Step (some l) e (some l')) : Rotates (t ++ [e]) l' := by
  cases hstep with
  | switch a o started => exact h.snoc rfl rfl (by simp) (by simp) (by simp)
  | serve a o => exact h.snoc_pick rfl rfl
  | pick a o => exact h.snoc_pick rfl rfl
  | replace a o nodes => exact h.snoc_install rfl rfl
  | begin a hf => exact h.snoc rfl rfl rfl rfl rfl
  | ask a => exact h.snoc_pick rfl rfl
  | answer a base nodes => exact h.snoc rfl rfl rfl rfl rfl
  | tear a base message => exact h.snoc rfl rfl rfl rfl rfl
  | settle a nodes => exact h.snoc_install rfl rfl
  | finish a a' stage now hs hfinish =>
    obtain ⟨eligible, -, rfl⟩ := Agent.finish?_eq_some hfinish
    exact h.snoc rfl rfl rfl rfl rfl
  | overflow a stage now hs hfinish => exact h.snoc rfl rfl rfl rfl rfl

theorem Path.rotates {t : List Entry} {l : Lane} (h : Path none t (some l)) : Rotates t l := by
  refine h.invariant (fun a ha => ?_) fun t l e l' ih hstep => ih.step hstep
  constructor
  · rfl
  · exact ha.nodes
  · exact ha.nodes ▸ a.registry.seeds_ne_nil
  · rw [ha.cursor]
    rfl

/-- The seeds stay what they were. -/
theorem Rotates.seeds_eq {t u : List Entry} {l l' : Lane} (h : Rotates t l)
    (h' : Rotates (t ++ u) l') : l'.agent.registry.seeds = l.agent.registry.seeds := by
  have hhead := h'.created
  rw [List.head?_append, h.created] at hhead
  exact (Entry.created.inj (Option.some.inj hhead)).symm

end Lane

end NodeBalancer
