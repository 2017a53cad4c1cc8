import NodeBalancer.Proofs.Sequential.Reference

/-!
# Attempts that lasted all along

Balancers never forget when an attempt to refresh ended, and their intervals never change.  So if an
interval fits behind every attempt at the end of a script, it did so at every point of it.
-/

namespace NodeBalancer

namespace Balancer

variable {b : Balancer}

@[simp] theorem config_install (b : Balancer) (nodes : List Endpoint) :
    (b.install nodes).config = b.config := by
  unfold install
  split <;> rfl

@[simp] theorem attempts_install (b : Balancer) (nodes : List Endpoint) :
    (b.install nodes).attempts = b.attempts := by
  unfold install
  split <;> rfl

theorem Lasts.before_attempt {now : Instant} (h : (b.attempt now).Lasts) : b.Lasts :=
  fun ended hended => h ended (List.mem_append_left _ hended)

theorem Lasts.before_install {nodes : List Endpoint} (h : (b.install nodes).Lasts) : b.Lasts := by
  simpa only [Lasts, config_install, attempts_install] using h

end Balancer

namespace Sequential

variable {q : Sequential} {i : Nat} {b : Balancer}

theorem put_put (q : Sequential) (i : Nat) (b b' : Balancer) :
    (q.put i b).put i b' = q.put i b' := by
  simp only [put, List.set_set]

theorem next_eq (q : Sequential) (i : Nat) (b : Balancer) :
    q.next i b =
      (b.current,
        if (b.started && b.isDue (q.read 1).clock) = true then
          if 0 < q.refs then (((q.read 2).put i b.advance).refresh i b.advance).2
          else ((q.read 2).put i b.advance).put i (b.advance.attempt (q.read 2).clock)
        else (q.read 2).put i b.advance) := rfl

theorem lt_of_getElem? (hb : q.balancers[i]? = some b) : i < q.balancers.length :=
  (List.getElem?_eq_some_iff.mp hb).1

theorem getElem?_put (hi : i < q.balancers.length) (b : Balancer) :
    (q.put i b).balancers[i]? = some b :=
  List.getElem?_set_self hi

theorem length_next (q : Sequential) (i : Nat) (b : Balancer) :
    (q.next i b).2.balancers.length = q.balancers.length := by
  rw [next_eq]
  split
  · split <;> simp [refresh, put, log, read]
  · simp [put, read]

theorem names_next (q : Sequential) (i : Nat) (b : Balancer) : (q.next i b).2.names = q.names := by
  rw [next_eq]
  split
  · split <;> rfl
  · rfl

theorem names_picks (q : Sequential) (i times : Nat) : (q.picks i times).2.names = q.names := by
  induction times generalizing q with
  | zero => rfl
  | succ times ih =>
    rw [picks]
    split
    · rfl
    · rename_i b _
      exact (ih _).trans (q.names_next i b)

theorem names_start (q : Sequential) (i : Nat) (b : Balancer) : (q.start i b).names = q.names := by
  rw [start]
  split
  · rfl
  · simp only
    split <;> rfl

theorem names_stop (q : Sequential) (i : Nat) (b : Balancer) : (q.stop i b).names = q.names := by
  rw [stop]
  split <;> rfl

theorem names_validateFilter (q : Sequential) (i : Nat) (b : Balancer) :
    (q.validateFilter i b).2.names = q.names := by
  simp only [validateFilter]
  split <;> rfl

namespace Lasts

/-- The attempt that a balancer was left with by the latest change of it. -/
theorem of_put {now : Instant} (h : (q.put i (b.attempt now)).Lasts)
    (hi : i < q.balancers.length) : now.add? b.config.updateInterval ≠ none :=
  h (b.attempt now) (List.mem_set hi _) now List.mem_concat_self

theorem before_put (b' : Balancer) (h : (q.put i b').Lasts) (hb : q.balancers[i]? = some b)
    (hbefore : b'.Lasts → b.Lasts) : q.Lasts := by
  intro c hc
  obtain ⟨j, hj⟩ := List.mem_iff_getElem?.mp hc
  -- The balancer in question, or one that is the same before and after.
  by_cases hij : i = j
  · subst hij
    obtain rfl := Option.some.inj (hb.symm.trans hj)
    exact hbefore (h b' (List.mem_set (lt_of_getElem? hb) _))
  · refine h c (List.mem_of_getElem? (i := j) ?_)
    rw [put, List.getElem?_set_ne hij, hj]

theorem before_refresh (h : (q.refresh i b).2.Lasts) (hb : q.balancers[i]? = some b) : q.Lasts :=
  before_put (q := (q.log i b.current b.config.filter).read Session.stepsPerRefresh) _ h hb
    fun hlasts => hlasts.before_attempt.before_install (b := b.advance)

theorem before_next (h : (q.next i b).2.Lasts) (hb : q.balancers[i]? = some b) : q.Lasts := by
  have hpicked : ((q.read 2).put i b.advance).Lasts → q.Lasts :=
    fun hlasts => before_put (q := q.read 2) _ hlasts hb id
  rw [next_eq] at h
  by_cases hdue : (b.started && b.isDue (q.read 1).clock) = true
  · by_cases hrefs : 0 < q.refs
    · rw [if_pos hdue, if_pos hrefs] at h
      exact hpicked (h.before_refresh (getElem?_put (lt_of_getElem? hb) _))
    · rw [if_pos hdue, if_neg hrefs] at h
      exact hpicked (h.before_put _ (getElem?_put (lt_of_getElem? hb) _)
        Balancer.Lasts.before_attempt)
  · rw [if_neg hdue] at h
    exact hpicked h

theorem before_picks {times : Nat} (h : (q.picks i times).2.Lasts) : q.Lasts := by
  induction times generalizing q with
  | zero => exact h
  | succ times ih =>
    rw [picks] at h
    split at h
    · exact h
    · rename_i b hb
      exact (ih h).before_next hb

theorem before_start (h : (q.start i b).Lasts) (hb : q.balancers[i]? = some b) : q.Lasts := by
  rw [start] at h
  split at h
  · exact h
  · have hput : ({ q.put i (b.setStarted true) with refs := q.refs + 1 } : Sequential).Lasts := by
      simp only at h
      split at h
      · exact h.before_refresh (getElem?_put (lt_of_getElem? hb) _)
      · exact h
    exact before_put (b.setStarted true) hput hb id

theorem before_stop (h : (q.stop i b).Lasts) (hb : q.balancers[i]? = some b) : q.Lasts := by
  rw [stop] at h
  split at h
  · exact before_put (b.setStarted false) h hb id
  · exact h

theorem before_checkFilterHonored {kind : FilterKind} (h : (q.checkFilterHonored i b kind).2.Lasts)
    (hb : q.balancers[i]? = some b) : q.Lasts :=
  before_put b.advance h hb id

theorem before_validateFilter (h : (q.validateFilter i b).2.Lasts)
    (hb : q.balancers[i]? = some b) : q.Lasts := by
  simp only [validateFilter] at h
  split at h
  · exact h
  · exact before_put b.advance h hb id

/-! ## Scripts -/

open Script

theorem before_forget {name : String} (h : (q.forget name).2.Lasts) : q.Lasts := by
  rw [forget] at h
  split at h
  · exact h
  · rename_i i _
    cases hb : q.balancers[i]? with
    | none => rwa [hb] at h
    | some b =>
      rw [hb] at h
      exact before_stop h hb

theorem before_create {name : String} {config : Config} (h : (q.create name config).2.Lasts) :
    q.Lasts := by
  rw [create] at h
  split at h
  · exact h
  · rename_i b _
    have hadded : ({ q.read 1 with balancers := q.balancers ++ [b] } : Sequential).Lasts :=
      before_forget h
    exact fun c hc => hadded c (List.mem_append_left _ hc)

theorem before_operate {operation : Operation} (h : (q.operate i b operation).2.Lasts)
    (hb : q.balancers[i]? = some b) : q.Lasts := by
  cases operation with
  | start => exact before_start h hb
  | stop => exact before_stop h hb
  | next times => exact before_picks h
  | resolve => exact before_next h hb
  | forceRefresh => exact before_refresh (q := q.read 1) h hb
  | checkFilterHonored kind => exact before_checkFilterHonored h hb
  | validateFilter => exact before_validateFilter h hb
  | _ => exact h

theorem before_performNamed {name : String} {action : Action}
    (h : (q.performNamed name action).2.Lasts) : q.Lasts := by
  cases action with
  | create blueprint =>
    cases blueprint with
    | balancer config => exact before_create h
    | _ => exact h
  | drop => exact before_forget h
  | operate operation =>
    simp only [performNamed] at h
    split at h
    · exact h
    · split at h
      · exact h
      · exact before_operate h ‹_›
  | _ => exact h

theorem before_step {command : Command} (h : (q.step command).2.Lasts) : q.Lasts := by
  obtain ⟨about, action⟩ := command
  have hperform : (q.perform about action).2.Lasts := h
  cases action with
  | acquire => exact h
  | release => exact h
  | addMember node rack datacenter =>
    rw [perform] at hperform
    split at hperform <;> exact hperform
  | answerFrom node answer =>
    rw [perform] at hperform
    split at hperform <;> exact hperform
  | _ =>
    cases about with
    | none => exact hperform
    | some name => exact before_performNamed hperform

theorem before_after {commands : List Command} (h : (q.after commands).Lasts) : q.Lasts := by
  induction commands generalizing q with
  | nil => exact h
  | cons command commands ih => exact before_step (ih h)

end Lasts

end Sequential

end NodeBalancer
