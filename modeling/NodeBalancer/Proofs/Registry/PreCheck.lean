import NodeBalancer.Proofs.Agent.Registry

/-!
# The check without a lock

A registry keeps the time from which a scheduled refresh may begin twice.  Whether one is due is
first judged by the capped time, without a lock, and then decided by the exact one, under the lock.
The first look misses no refresh that is due.  It is mistaken about others only where the cap hides
the order of two instants: not after the moment the registry was made, or so long after it that the
nanoseconds since then do not fit a 64-bit word.

* `Instant.sinceCapped_le_iff`: what the capped distances tell of the order of two instants.
* `Registry.Reachable.capped`: after any operations, the capped time is the exact one, capped.
* `Registry.Reachable.mayBeDue_agrees`: where the two looks agree and where they differ.
-/

namespace NodeBalancer

/-- Two capped distances are in the order of the instants, unless the later one is not after the
epoch or the earlier one is at the cap. -/
theorem Instant.sinceCapped_le_iff {t now epoch : Instant} :
    t.sinceCapped epoch ≤ now.sinceCapped epoch ↔
      t.nanos ≤ now.nanos ∨ t.nanos ≤ epoch.nanos ∨ epoch.nanos + nanosCap ≤ now.nanos := by
  have hcap : 0 < nanosCap := by decide
  unfold sinceCapped
  omega

namespace Registry

/-- The registries that operations make of a new one, at whatever times they are called. -/
inductive Reachable (epoch : Instant) : Registry → Prop
  | made {seeds : List Endpoint} {r : Registry} (h : ofSeeds seeds epoch = .ok r) :
      Reachable epoch r
  | tryBegin {r : Registry} (prior : Reachable epoch r) (now : Instant) (respectSchedule : Bool) :
      Reachable epoch (r.tryBegin now respectSchedule).2
  | finish {r : Registry} (prior : Reachable epoch r) (nextEligible : Instant) :
      Reachable epoch (r.finish nextEligible)
  | next {r : Registry} (prior : Reachable epoch r) : Reachable epoch r.next.2
  | replace {r : Registry} (prior : Reachable epoch r) (nodes : List Endpoint) :
      Reachable epoch (r.replace nodes).2

@[simp] theorem fst_tryBegin (r : Registry) (now : Instant) (respectSchedule : Bool) :
    (r.tryBegin now respectSchedule).1 = r.admits now respectSchedule := by
  unfold tryBegin
  split <;> simp_all

/-- A refresh that begins changes neither time. -/
theorem tryBegin_times (r : Registry) (now : Instant) (respectSchedule : Bool) :
    (r.tryBegin now respectSchedule).2.epoch = r.epoch ∧
      (r.tryBegin now respectSchedule).2.nextEligible = r.nextEligible ∧
      (r.tryBegin now respectSchedule).2.nextEligibleNanos = r.nextEligibleNanos := by
  unfold tryBegin
  split <;> exact ⟨rfl, rfl, rfl⟩

/-- The capped time belongs to the exact one. -/
structure Capped (epoch : Instant) (r : Registry) : Prop where
  epoch_eq : r.epoch = epoch
  nanos_eq : r.nextEligibleNanos = r.nextEligible.sinceCapped epoch

theorem Reachable.capped {epoch : Instant} {r : Registry} (h : Reachable epoch r) :
    r.Capped epoch := by
  induction h with
  | made h =>
    obtain ⟨-, -, -, -, hepoch, -, hnanos⟩ := ofSeeds_eq_ok h
    exact ⟨hepoch, hepoch ▸ hnanos⟩
  | @tryBegin r _ now respectSchedule ih =>
    obtain ⟨hepoch, hexact, hnanos⟩ := r.tryBegin_times now respectSchedule
    exact ⟨hepoch.trans ih.epoch_eq, by rw [hnanos, hexact]; exact ih.nanos_eq⟩
  | @finish r _ nextEligible ih =>
    refine ⟨ih.epoch_eq, ?_⟩
    show nextEligible.sinceCapped r.epoch = nextEligible.sinceCapped epoch
    rw [ih.epoch_eq]
  | next _ ih => exact ⟨ih.epoch_eq, ih.nanos_eq⟩
  | replace _ nodes ih =>
    rw [replace_eq]
    exact ⟨ih.epoch_eq, ih.nanos_eq⟩

theorem Capped.mayBeDue_iff {epoch : Instant} {r : Registry} (h : r.Capped epoch) (now : Instant) :
    r.mayBeDue now = true ↔ r.inFlight = false ∧
      (r.nextEligible.nanos ≤ now.nanos ∨ r.nextEligible.nanos ≤ epoch.nanos ∨
        epoch.nanos + Instant.nanosCap ≤ now.nanos) := by
  rw [mayBeDue, h.nanos_eq, h.epoch_eq, Bool.and_eq_true, Bool.not_eq_true', decide_eq_true_iff,
    Instant.sinceCapped_le_iff]

theorem admits_scheduled_iff (r : Registry) (now : Instant) :
    r.admits now true = true ↔ r.inFlight = false ∧ r.nextEligible.nanos ≤ now.nanos := by
  rw [admits, Bool.true_and, Bool.and_eq_true, Bool.not_eq_true', Bool.not_eq_true',
    decide_eq_false_iff_not, Int.not_lt]

/-- **The check without a lock misses no refresh that is due**, and it lets one through that is not
due exactly where the order of the two instants is lost in the cap. -/
theorem Reachable.mayBeDue_agrees {epoch : Instant} {r : Registry} (h : Reachable epoch r)
    (now : Instant) :
    ((r.tryBegin now true).1 = true → r.mayBeDue now = true) ∧
      (r.mayBeDue now = true →
        ((r.tryBegin now true).1 = false ↔ now.nanos < r.nextEligible.nanos ∧
          (r.nextEligible.nanos ≤ epoch.nanos ∨
            epoch.nanos + ((UInt64.size - 1 : Nat) : Int) ≤ now.nanos))) := by
  have hlook := h.capped.mayBeDue_iff now
  have hdecision := r.admits_scheduled_iff now
  rw [fst_tryBegin]
  constructor
  · intro hadmits
    obtain ⟨hquiet, hle⟩ := hdecision.mp hadmits
    exact hlook.mpr ⟨hquiet, .inl hle⟩
  · intro hdue
    obtain ⟨hquiet, horder⟩ := hlook.mp hdue
    rw [← Bool.not_eq_true, hdecision, not_and, Int.not_le]
    constructor
    · intro hlate
      exact ⟨hlate hquiet, horder.resolve_left (Int.not_le.mpr (hlate hquiet))⟩
    · rintro ⟨hlate, -⟩ -
      exact hlate

/-- A registry whose next refresh may begin at a given distance from the moment it was made. -/
def waitingUntil (offset : Int) : Registry where
  seeds := [⟨.http, .v4 ⟨10, 0, 0, 1⟩, 8080⟩]
  seeds_ne_nil := List.cons_ne_nil _ _
  nodes := [⟨.http, .v4 ⟨10, 0, 0, 1⟩, 8080⟩]
  cursor := 0
  inFlight := false
  epoch := ⟨0⟩
  nextEligible := ⟨offset⟩
  nextEligibleNanos := Instant.sinceCapped ⟨offset⟩ ⟨0⟩

theorem reachable_waitingUntil (offset : Int) : Reachable ⟨0⟩ (waitingUntil offset) :=
  have hmade : ofSeeds [⟨.http, .v4 ⟨10, 0, 0, 1⟩, 8080⟩] ⟨0⟩ = .ok (waitingUntil 0) := rfl
  .finish (.tryBegin (.made hmade) ⟨0⟩ true) ⟨offset⟩

/-- Three nanoseconds too early both looks say so, except before the epoch and beyond the cap, where
the check without a lock lets a refresh through that the decision refuses. -/
theorem mayBeDue_agrees_waitingUntil :
    (waitingUntil (-5)).mayBeDue ⟨-8⟩ = true ∧ ((waitingUntil (-5)).tryBegin ⟨-8⟩ true).1 = false ∧
      (waitingUntil 5).mayBeDue ⟨2⟩ = false ∧ ((waitingUntil 5).tryBegin ⟨2⟩ true).1 = false ∧
      (waitingUntil 18446744073709551619).mayBeDue ⟨18446744073709551616⟩ = true ∧
      ((waitingUntil 18446744073709551619).tryBegin ⟨18446744073709551616⟩ true).1 = false := by
  have hearly : (waitingUntil (-5)).mayBeDue ⟨-8⟩ = true := by decide
  have hsoon : (waitingUntil 5).mayBeDue ⟨2⟩ = false := by decide
  have hlate : (waitingUntil 18446744073709551619).mayBeDue ⟨18446744073709551616⟩ = true := by
    decide
  refine ⟨hearly, ?_, hsoon, ?_, hlate, ?_⟩
  · exact ((Reachable.mayBeDue_agrees (reachable_waitingUntil (-5)) ⟨-8⟩).2 hearly).mpr
      ⟨by decide, .inl (by decide)⟩
  · cases hbegun : ((waitingUntil 5).tryBegin ⟨2⟩ true).1 with
    | false => rfl
    | true =>
      have hdue := (Reachable.mayBeDue_agrees (reachable_waitingUntil 5) ⟨2⟩).1 hbegun
      rw [hsoon] at hdue
      cases hdue
  · exact ((Reachable.mayBeDue_agrees (reachable_waitingUntil _) ⟨18446744073709551616⟩).2
      hlate).mpr ⟨by decide, .inr (by decide)⟩

end Registry

end NodeBalancer
