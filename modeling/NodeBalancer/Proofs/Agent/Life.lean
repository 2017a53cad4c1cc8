import NodeBalancer.Proofs.Agent.Lane

/-!
# The lives of refreshes

What a journal tells of one refresh, from its beginning to its end, is its **life**.  Since a lane
has room for one refresh, the lives of an agent's refreshes do not overlap: what a journal tells of
refreshes is one life after the other, and at last as much as there is of the life under way
(`Lane.Path.exists_lived`).

* `Life.Whole`: a life that is over.  There are three: no worker took the refresh, its query was
  torn down, or it dealt with its answer.
* `Life.Underway`: a life as far as the stage that the refresh has come to.
* `Life.Whole.pick?`, `Life.Underway.pick?`: a refresh picks one node when it starts.
* `Life.Whole.installed?`, `Life.Underway.installed?`: it installs its answer unless that is empty.
-/

namespace NodeBalancer

namespace Entry

/-- The list that a refresh got for an answer, if it got one. -/
def answer? : Entry → Option (List Endpoint)
  | moved _ (.answered nodes) => some nodes
  | _ => none

/-- Whether a refresh that waited goes on. -/
def isStart : Entry → Bool
  | moved .waiting _ => true
  | _ => false

end Entry

namespace Life

inductive Underway : Stage → List Entry → Prop
  | waiting : Underway .waiting [.began]
  | asking (base : Endpoint) : Underway (.asking base) [.began, .moved .waiting (.asking base)]
  | answered (base : Endpoint) (nodes : List Endpoint) :
      Underway (.answered nodes)
        [.began, .moved .waiting (.asking base), .moved (.asking base) (.answered nodes)]
  | broken (base : Endpoint) (message : String) :
      Underway (.broken message)
        [.began, .moved .waiting (.asking base), .moved (.asking base) (.broken message)]
  | settled (base : Endpoint) (nodes : List Endpoint) :
      Underway (.settled !nodes.isEmpty)
        [.began, .moved .waiting (.asking base), .moved (.asking base) (.answered nodes),
          .moved (.answered nodes) (.settled !nodes.isEmpty)]

inductive Whole : List Entry → Prop
  | refused (now : Instant) : Whole [.began, .ended .waiting now]
  | broken (base : Endpoint) (message : String) (now : Instant) :
      Whole [.began, .moved .waiting (.asking base), .moved (.asking base) (.broken message),
        .ended (.broken message) now]
  | settled (base : Endpoint) (nodes : List Endpoint) (now : Instant) :
      Whole [.began, .moved .waiting (.asking base), .moved (.asking base) (.answered nodes),
        .moved (.answered nodes) (.settled !nodes.isEmpty), .ended (.settled !nodes.isEmpty) now]

variable {stage : Stage} {life : List Entry}

theorem Underway.whole (h : Underway stage life) (hs : stage.isLast = true) (now : Instant) :
    Whole (life ++ [.ended stage now]) := by
  cases h with
  | waiting => exact .refused now
  | asking base => cases hs
  | answered base nodes => cases hs
  | broken base message => exact .broken base message now
  | settled base nodes => exact .settled base nodes now

/-! ## What a refresh picks and installs -/

theorem Underway.pick? (h : Underway stage life) :
    (life.filterMap Entry.pick?).length = if stage = .waiting then 0 else 1 := by
  cases h with
  | waiting => rfl
  | asking base => rfl
  | answered base nodes => rfl
  | broken base message => rfl
  | settled base nodes => rfl

theorem Whole.pick? (h : Whole life) :
    (life.filterMap Entry.pick?).length = if life.any Entry.isStart then 1 else 0 := by
  cases h with
  | refused now => rfl
  | broken base message now => rfl
  | settled base nodes now => rfl

/-- A refresh has installed its answer when it has settled on it, and nothing before. -/
theorem Underway.installed? (h : Underway stage life) :
    life.filterMap Entry.installed? =
      if stage = .settled true then life.filterMap Entry.answer? else [] := by
  cases h with
  | waiting => rfl
  | asking base => rfl
  | answered base nodes => rfl
  | broken base message => rfl
  | settled base nodes =>
    cases nodes with
    | nil => rfl
    | cons node nodes => rfl

theorem Whole.installed? (h : Whole life) :
    life.filterMap Entry.installed? = (life.filterMap Entry.answer?).filter (!·.isEmpty) := by
  cases h with
  | refused now => rfl
  | broken base message now => rfl
  | settled base nodes now =>
    cases nodes with
    | nil => rfl
    | cons node nodes => rfl

theorem Underway.installed?_settled {done : Bool} (h : Underway (.settled done) life) :
    done = true ↔ ∃ nodes, nodes ≠ [] ∧ life.filterMap Entry.answer? = [nodes] ∧
      life.filterMap Entry.installed? = [nodes] := by
  generalize hs : Stage.settled done = stage at h
  cases h with
  | settled base nodes =>
    cases hs
    cases nodes with
    | nil =>
      refine ⟨fun hf => absurd hf Bool.false_ne_true, ?_⟩
      rintro ⟨nodes, hn, hanswer, -⟩
      exact absurd (List.cons.inj hanswer).1.symm hn
    | cons node nodes =>
      exact ⟨fun _ => ⟨node :: nodes, List.cons_ne_nil _ _, rfl, rfl⟩, fun _ => rfl⟩
  | _ => cases hs

/-! ## One life after the other -/

/-- What a journal tells of refreshes, cut into the lives that are over and the one under way. -/
structure Lived (flight : Option Stage) (t : List Entry) (past : List (List Entry))
    (current : List Entry) : Prop where
  cut : t.filter Entry.isRefresh = past.flatten ++ current
  whole : ∀ life ∈ past, Whole life
  underway : ∀ stage, flight = some stage → Underway stage current
  idle : flight = none → current = []

namespace Lived

variable {flight : Option Stage} {t : List Entry} {past : List (List Entry)} {current : List Entry}
  {e : Entry}

theorem skip (h : Lived flight t past current) (he : e.isRefresh = false) :
    Lived flight (t ++ [e]) past current where
  cut := by
    have hnew : [e].filter Entry.isRefresh = [] := by simp [he]
    rw [List.filter_append, hnew, List.append_nil]
    exact h.cut
  whole := h.whole
  underway := h.underway
  idle := h.idle

theorem move (h : Lived flight t past current) (he : e.isRefresh = true) {next : Stage}
    (hnext : Underway next (current ++ [e])) :
    Lived (some next) (t ++ [e]) past (current ++ [e]) where
  cut := by
    rw [List.filter_append, List.filter_cons_of_pos he, List.filter_nil, h.cut, List.append_assoc]
  whole := h.whole
  underway := by
    rintro _ ⟨⟩
    exact hnext
  idle hnone := absurd hnone (Option.some_ne_none _)

theorem close (h : Lived (some stage) t past current) (hs : stage.isLast = true) (now : Instant) :
    Lived none (t ++ [.ended stage now]) (past ++ [current ++ [.ended stage now]]) [] where
  cut := by
    rw [List.filter_append, h.cut, List.flatten_append, List.flatten_singleton, List.append_nil,
      List.append_assoc]
    rfl
  whole life hlife := by
    rcases List.mem_append.mp hlife with hlife | hlife
    · exact h.whole life hlife
    · obtain rfl := List.mem_singleton.mp hlife
      exact (h.underway stage rfl).whole hs now
  underway stage hsome := absurd hsome.symm (Option.some_ne_none _)
  idle _ := rfl

end Lived

theorem exists_lived_step {t : List Entry} {e : Entry} {l l' : Lane}
    (h : ∃ past current, Lived l.flight t past current) (hstep : Lane.Step (some l) e (some l')) :
    ∃ past current, Lived l'.flight (t ++ [e]) past current := by
  obtain ⟨past, current, h⟩ := h
  cases hstep with
  | switch a o started => exact ⟨past, current, h.skip rfl⟩
  | serve a o => exact ⟨past, current, h.skip rfl⟩
  | pick a o => exact ⟨past, current, h.skip rfl⟩
  | replace a o nodes => exact ⟨past, current, h.skip rfl⟩
  | begin a hf =>
    obtain rfl := h.idle rfl
    exact ⟨past, _, h.move rfl .waiting⟩
  | ask a =>
    cases h.underway _ rfl
    exact ⟨past, _, h.move rfl (.asking _)⟩
  | answer a base nodes =>
    cases h.underway _ rfl
    exact ⟨past, _, h.move rfl (.answered base nodes)⟩
  | tear a base message =>
    cases h.underway _ rfl
    exact ⟨past, _, h.move rfl (.broken base message)⟩
  | settle a nodes =>
    cases h.underway _ rfl with
    | answered base =>
      exact ⟨past, _, h.move rfl (.settled base nodes)⟩
  | finish a a' stage now hs hfinish => exact ⟨_, _, h.close hs now⟩
  | overflow a stage now hs hfinish => exact ⟨_, _, h.close hs now⟩

end Life

/-- **Lives do not overlap.** -/
theorem Lane.Path.exists_lived {t : List Entry} {l : Lane} (h : Path none t (some l)) :
    ∃ past current, Life.Lived l.flight t past current := by
  refine h.invariant (P := fun t l => ∃ past current, Life.Lived l.flight t past current)
    (fun a ha => ?_) fun t l e l' ih hstep => Life.exists_lived_step ih hstep
  refine ⟨[], [], rfl, fun life hlife => absurd hlife List.not_mem_nil, ?_, fun _ => rfl⟩
  exact fun stage hsome => absurd hsome.symm (Option.some_ne_none _)

end NodeBalancer
