import NodeBalancer.Proofs.System.Effects

/-!
# Where an entry comes from

An entry of a journal can come of few events only, and for some entries of one alone: only a start
switches a balancer on, only a stop switches it off, and a refresh begins with a look at the
schedule or by force.  The look at the schedule that belongs to a pick is taken by started balancers
only.

* `System.comesFrom_of_mem_entriesOf`: the event behind each entry.
* `System.exists_create`: an agent that was not there before was made by this event.
-/

namespace NodeBalancer

/-- What the event is in which something happens to an agent of a system. -/
def Entry.ComesFrom (s : System) (i : Nat) (e : Event) : Entry → Prop
  | created seeds => ∃ design now a, e = .create design now ∧ design.agent now = .ok a ∧
      i = s.agents.length ∧ seeds = a.registry.seeds
  | switched true => ∃ launch, e = .start i launch
  | switched false => e = .stop i
  | replaced nodes => e = .replace i nodes
  | began => (∃ now later, e = .next i now later ∧ (s.agent? i).any Agent.isStarted = true) ∨
      (∃ now later, e = .maybeSchedule i now later) ∨ ∃ now, e = .forceRefresh i now
  | _ => True

namespace System

variable {s : System} {i j : Nat} {a : Agent}

theorem mem_entriesOf {e : Event} {x : Entry} : x ∈ s.entriesOf i e ↔ (i, x) ∈ s.entries e := by
  simp [entriesOf]

/-- A schedule that is looked at tells of a refresh that begins, and of its end if no worker is
there. -/
theorem mem_scheduleEntries {now later : Instant} {x : Entry}
    (h : (i, x) ∈ s.scheduleEntries j now later) :
    i = j ∧ (x = .began ∨ x = .ended .waiting later) := by
  unfold scheduleEntries at h
  split at h
  · split at h
    · obtain ⟨rfl, rfl⟩ := Prod.mk.inj (List.mem_singleton.mp h)
      exact ⟨rfl, .inl rfl⟩
    · rcases List.mem_cons.mp h with h | h
      · obtain ⟨rfl, rfl⟩ := Prod.mk.inj h
        exact ⟨rfl, .inl rfl⟩
      · obtain ⟨rfl, rfl⟩ := Prod.mk.inj (List.mem_singleton.mp h)
        exact ⟨rfl, .inr rfl⟩
  · cases h

theorem mem_probeEntries {position : Nat} {x : Entry} (h : (i, x) ∈ s.probeEntries j position) :
    ∃ node, x = .picked node := by
  obtain ⟨node, -, hnode⟩ := List.mem_map.mp h
  exact ⟨node, (Prod.mk.inj hnode).2.symm⟩

/-- A step of a refresh has its place in the life of that refresh. -/
theorem comesFrom_refreshEntry {e : Event} {t : System} (r : Refresh) (answer : Answer)
    (now : Instant) : ((t.refreshEntry r answer now).2).ComesFrom s i e := by
  rw [refreshEntry]
  split <;> trivial

theorem comesFrom_of_mem_entries {e : Event} {x : Entry} (h : (i, x) ∈ s.entries e) :
    x.ComesFrom s i e := by
  cases e with
  | create design now =>
    simp only [entries] at h
    split at h
    · cases h
    · rename_i a ha
      obtain ⟨rfl, rfl⟩ := Prod.mk.inj (List.mem_singleton.mp h)
      exact ⟨design, now, a, rfl, ha, rfl, rfl⟩
  | acquire launch => cases h
  | release => cases h
  | start j launch =>
    simp only [entries] at h
    split at h
    · obtain ⟨rfl, rfl⟩ := Prod.mk.inj (List.mem_singleton.mp h)
      exact ⟨launch, rfl⟩
    · cases h
  | stop j =>
    simp only [entries] at h
    split at h
    · obtain ⟨rfl, rfl⟩ := Prod.mk.inj (List.mem_singleton.mp h)
      rfl
    · cases h
  | next j now later =>
    simp only [entries] at h
    cases ha : s.agent? j with
    | none =>
      rw [pick?, ha] at h
      cases h
    | some a =>
      rw [pick?_of_agent ha, ha, Option.any_some] at h
      rcases List.mem_cons.mp h with h | h
      · obtain ⟨rfl, rfl⟩ := Prod.mk.inj h
        trivial
      · split at h
        · rename_i hst
          obtain ⟨rfl, rfl | rfl⟩ := mem_scheduleEntries h
          · exact .inl ⟨now, later, rfl, by rw [ha, Option.any_some, hst]⟩
          · trivial
        · cases h
  | pick j =>
    obtain ⟨_, -, hnode⟩ := List.mem_map.mp h
    obtain ⟨rfl, rfl⟩ := Prod.mk.inj hnode
    trivial
  | maybeSchedule j now later =>
    obtain ⟨rfl, rfl | rfl⟩ := mem_scheduleEntries h
    · exact .inr (.inl ⟨now, later, rfl⟩)
    · trivial
  | forceRefresh j now =>
    simp only [entries] at h
    split at h
    · obtain ⟨rfl, rfl⟩ := Prod.mk.inj (List.mem_singleton.mp h)
      exact .inr (.inr ⟨now, rfl⟩)
    · cases h
  | replace j nodes =>
    simp only [entries] at h
    split at h
    · obtain ⟨rfl, rfl⟩ := Prod.mk.inj (List.mem_singleton.mp h)
      rfl
    · cases h
  | beginComparison j kind =>
    obtain ⟨node, rfl⟩ := mem_probeEntries h
    trivial
  | beginValidation j =>
    obtain ⟨node, rfl⟩ := mem_probeEntries h
    trivial
  | stepThread thread answer now =>
    obtain ⟨⟨r, pool⟩, -, hentry⟩ := Option.map_eq_some_iff.mp (Option.mem_toList.mp h)
    rw [show x = _ from (congrArg Prod.snd hentry).symm]
    exact comesFrom_refreshEntry r answer now
  | advanceCall position answer now =>
    obtain ⟨r, -, hentry⟩ := Option.map_eq_some_iff.mp (Option.mem_toList.mp h)
    rw [show x = _ from (congrArg Prod.snd hentry).symm]
    exact comesFrom_refreshEntry r answer now

/-- **Each entry has its kind of event.** -/
theorem comesFrom_of_mem_entriesOf {e : Event} {x : Entry} (h : x ∈ s.entriesOf i e) :
    x.ComesFrom s i e :=
  comesFrom_of_mem_entries (mem_entriesOf.mp h)

/-- An agent that was not there before was made by this event. -/
theorem exists_create (h : s.Coherent) {e : Event} (hnone : s.agent? i = none)
    (ha : (s.step e).agent? i = some a) :
    ∃ design now, e = .create design now ∧ design.agent now = .ok a := by
  obtain ⟨l, hshows, hsound⟩ := h.lanes i
  obtain rfl : l = none := Option.map_eq_none_iff.mp (hshows.agent.symm.trans hnone)
  obtain ⟨l', hshows', hpath⟩ := follows_step h e none hshows hsound
  obtain ⟨o, rfl⟩ := hshows'.exists_of_agent? ha
  have hmem : Entry.created a.registry.seeds ∈ s.entriesOf i e :=
    List.mem_of_head? hpath.rotates.created
  obtain ⟨design, now, made, rfl, hmade, hi, -⟩ := comesFrom_of_mem_entriesOf hmem
  refine ⟨design, now, rfl, ?_⟩
  have hstep : s.step (.create design now) = s.addAgent made := by rw [step, hmade]
  rw [hstep, agent?_addAgent, if_pos hi] at ha
  rw [← Option.some.inj ha]
  exact hmade

end System

end NodeBalancer
