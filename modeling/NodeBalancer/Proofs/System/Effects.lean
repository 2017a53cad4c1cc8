import NodeBalancer.Proofs.System.Projection

/-!
# What one event does to the rotation of an agent

An event picks at most one node of an agent and installs at most one list, and the state in which it
is made tells which: `System.picks` and `System.installs?` read it off the calls and tasks
themselves.  The journal says the same (`filterMap_pick?_entriesOf`,
`filterMap_installed?_entriesOf`), and so does the registry after the event (`rotation_step`).
-/

namespace NodeBalancer

/-- The list that a refresh of the agent is about to install. -/
def Refresh.installs? (i : Nat) (r : Refresh) : Option (List Endpoint) :=
  match r.stage with
  | .answered nodes => if r.agent = i then Entry.installable? nodes else none
  | _ => none

namespace System

/-- Whether an event picks a node of an agent: a caller's pick, the start of a probe that asks at
all, or the start of a refresh. -/
def picks (s : System) (i : Nat) : Event → Bool
  | .next j _ _ => decide (j = i)
  | .pick j => decide (j = i)
  | .beginComparison j _ => decide (j = i)
  | .beginValidation j => decide (j = i) && (s.agent? j).any fun a => !a.filter.isEmpty
  | .stepThread thread _ _ => (s.task? thread).any fun (r, _) => decide (r = .ofAgent i)
  | .advanceCall position _ _ => decide (s.calls[position]? = some (.refresh (.ofAgent i)))
  | _ => false

/-- The list that an event installs in the registry of an agent: one that somebody gives it, or the
answer of a refresh. -/
def installs? (s : System) (i : Nat) : Event → Option (List Endpoint)
  | .replace j nodes => if j = i then Entry.installable? nodes else none
  | .stepThread thread _ _ => (s.task? thread).bind fun (r, _) => r.installs? i
  | .advanceCall position _ _ =>
    ((s.calls[position]?).bind Call.refresh?).bind (Refresh.installs? i)
  | _ => none

/-- The entry of an event that may pick or install something in a registry; there is no other. -/
def rotationMove? (s : System) (i : Nat) (a : Agent) : Event → Option Entry
  | .next j _ _ => if j = i then some (.served a.registry.current) else none
  | .pick j => if j = i then some (.picked a.registry.current) else none
  | .replace j nodes => if j = i then some (.replaced nodes) else none
  | .beginComparison j _ => if j = i then some (.picked a.registry.current) else none
  | .beginValidation j =>
    if j = i ∧ a.filter.isEmpty = false then some (.picked a.registry.current) else none
  | .stepThread thread answer now => (s.task? thread).bind fun (r, pool) =>
    if r.agent = i then some ({ s with pool := pool }.refreshEntry r answer now).2 else none
  | .advanceCall position answer now => ((s.calls[position]?).bind Call.refresh?).bind fun r =>
    if r.agent = i then some (s.refreshEntry r answer now).2 else none
  | _ => none

/-- The entry of an event that may tell of a node list: one that somebody gives to an agent, or a step
of a refresh. -/
def listMove? (s : System) (i : Nat) : Event → Option Entry
  | .replace j nodes => if j = i then some (.replaced nodes) else none
  | .stepThread thread answer now => (s.task? thread).bind fun (r, pool) =>
    if r.agent = i then some ({ s with pool := pool }.refreshEntry r answer now).2 else none
  | .advanceCall position answer now => ((s.calls[position]?).bind Call.refresh?).bind fun r =>
    if r.agent = i then some (s.refreshEntry r answer now).2 else none
  | _ => none

variable {s : System} {i j : Nat} {a : Agent}

/-! ## What the journal says of an event -/

/-- A step of a refresh is told of its agent. -/
theorem eq_refreshEntry (r : Refresh) (answer : Answer) (now : Instant) :
    s.refreshEntry r answer now = (r.agent, (s.refreshEntry r answer now).2) := by
  rw [refreshEntry]
  split <;> rfl

theorem pick?_refreshEntry (h : s.agent? i = some a) (r : Refresh) (answer : Answer)
    (now : Instant) :
    (if r.agent = i then some (s.refreshEntry r answer now).2 else none).bind Entry.pick? =
      if r = .ofAgent i then some a.registry.current else none := by
  obtain ⟨j, stage⟩ := r
  by_cases hji : j = i
  · subst hji
    cases stage with
    | waiting =>
      simp [refreshEntry, stepRefresh, pick?_of_agent h, Refresh.withStage, Refresh.ofAgent,
        Entry.pick?]
    | asking base =>
      cases answer <;>
        simp [refreshEntry, stepRefresh, Refresh.withStage, Refresh.ofAgent, Entry.pick?]
    | answered nodes =>
      simp [refreshEntry, stepRefresh, Refresh.withStage, Refresh.ofAgent, Entry.pick?]
    | broken message => simp [refreshEntry, stepRefresh, Refresh.ofAgent, Entry.pick?]
    | settled replaced => simp [refreshEntry, stepRefresh, Refresh.ofAgent, Entry.pick?]
  · rw [if_neg hji, if_neg fun he => hji (congrArg Refresh.agent he)]
    rfl

theorem installed?_refreshEntry (r : Refresh) (answer : Answer) (now : Instant) :
    (if r.agent = i then some (s.refreshEntry r answer now).2 else none).bind Entry.installed? =
      r.installs? i := by
  obtain ⟨j, stage⟩ := r
  have hskip : ∀ e : Entry, e.installed? = none →
      (if j = i then some e else none).bind Entry.installed? = none := by
    intro e he
    split
    · exact he
    · rfl
  cases stage with
  | waiting =>
    apply hskip
    cases h : s.agent? j <;> simp [refreshEntry, stepRefresh, pick?, h, Entry.installed?]
  | asking base => cases answer <;> exact hskip _ rfl
  | answered nodes =>
    show _ = if j = i then Entry.installable? nodes else none
    by_cases hji : j = i
    · rw [if_pos hji, if_pos hji]
      rfl
    · rw [if_neg hji, if_neg hji]
      rfl
  | broken message => exact hskip _ rfl
  | settled replaced => exact hskip _ rfl

theorem ne_of_agent? (hj : s.agent? j = none) (h : s.agent? i = some a) : j ≠ i := by
  rintro rfl
  rw [hj] at h
  cases h

section Entries

variable {β : Type} {f : Entry → Option β}

theorem filterMap_entriesOf (f : Entry → Option β) (s : System) (i : Nat) (e : Event) :
    (s.entriesOf i e).filterMap f =
      (s.entries e).filterMap fun p => if p.1 = i then f p.2 else none := by
  rw [entriesOf, List.filterMap_map, List.filterMap_filter]
  simp only [decide_eq_true_eq, Function.comp_apply]

/-- What is told of one agent alone. -/
theorem filterMap_entry (f : Entry → Option β) (j : Nat) (e : Entry) :
    ([(j, e)].filterMap fun p => if p.1 = i then f p.2 else none) =
      ((if j = i then some e else none).bind f).toList := by
  by_cases hji : j = i
  · cases hf : f e <;> simp [hji, hf]
  · simp [hji]

theorem filterMap_scheduleEntries (hb : f .began = none)
    (he : ∀ stage now, f (.ended stage now) = none) (now later : Instant) :
    ((s.scheduleEntries j now later).filterMap fun p => if p.1 = i then f p.2 else none) = [] := by
  rw [scheduleEntries]
  split
  · split <;> simp [hb, he]
  · rfl

theorem filterMap_next (h : s.agent? i = some a) (hb : f .began = none)
    (he : ∀ stage now, f (.ended stage now) = none) (now later : Instant) :
    ((s.entries (.next j now later)).filterMap fun p => if p.1 = i then f p.2 else none) =
      ((s.rotationMove? i a (.next j now later)).bind f).toList := by
  rw [entries, rotationMove?]
  cases hj : s.agent? j with
  | none =>
    have hne := ne_of_agent? hj h
    rw [pick?, hj, if_neg hne]
    rfl
  | some b =>
    have hrest : ∀ c : Bool, ((if c then (s.modifyAgent j Agent.advance).scheduleEntries j now later
        else []).filterMap fun p => if p.1 = i then f p.2 else none) = [] := by
      intro c
      cases c with
      | false => rfl
      | true => exact filterMap_scheduleEntries hb he now later
    have hcons : ∀ es : List (Nat × Entry),
        (es.filterMap fun p => if p.1 = i then f p.2 else none) = [] →
        (((j, .served b.registry.current) :: es).filterMap
          fun p => if p.1 = i then f p.2 else none) =
        ((if j = i then some (.served b.registry.current) else none).bind f).toList := by
      intro es hes
      rw [← List.singleton_append, List.filterMap_append, hes, List.append_nil, filterMap_entry]
    simp only [pick?_of_agent hj, Option.any_some]
    rw [hcons _ (hrest _)]
    by_cases hji : j = i
    · subst hji
      obtain rfl : b = a := Option.some.inj (hj.symm.trans h)
      rfl
    · rw [if_neg hji, if_neg hji]

/-- A probe that has begun has picked the node under the cursor. -/
theorem filterMap_probe (f : Entry → Option β) {call : Call}
    (hb : call.probed? = some a.registry.current) :
    ((((s.modifyAgent j Agent.advance).addCall call).probeEntries j s.calls.length).filterMap
        fun p => if p.1 = i then f p.2 else none) =
      ((if j = i then some (.picked a.registry.current) else none).bind f).toList := by
  have hget : ((s.modifyAgent j Agent.advance).addCall call).calls[s.calls.length]? = some call :=
    List.getElem?_concat_length
  rw [probeEntries, hget, Option.bind_some, hb]
  exact filterMap_entry f j _

theorem filterMap_no_probe (f : Entry → Option β) :
    ((s.probeEntries j s.calls.length).filterMap fun p => if p.1 = i then f p.2 else none) =
      [] := by
  rw [probeEntries, List.getElem?_eq_none (Nat.le_refl _)]
  rfl

theorem filterMap_beginComparison (f : Entry → Option β) (h : s.agent? i = some a)
    (kind : FilterKind) :
    ((s.entries (.beginComparison j kind)).filterMap fun p => if p.1 = i then f p.2 else none) =
      ((s.rotationMove? i a (.beginComparison j kind)).bind f).toList := by
  rw [entries, beginComparison, rotationMove?]
  cases hj : s.agent? j with
  | none =>
    have hne := ne_of_agent? hj h
    rw [pick?, hj, if_neg hne]
    exact filterMap_no_probe f
  | some b =>
    rw [pick?_of_agent hj]
    rw [filterMap_probe f rfl]
    by_cases hji : j = i
    · subst hji
      obtain rfl : b = a := Option.some.inj (hj.symm.trans h)
      rfl
    · rw [if_neg hji, if_neg hji]

theorem filterMap_beginValidation (f : Entry → Option β) (h : s.agent? i = some a) :
    ((s.entries (.beginValidation j)).filterMap fun p => if p.1 = i then f p.2 else none) =
      ((s.rotationMove? i a (.beginValidation j)).bind f).toList := by
  rw [entries, rotationMove?]
  cases hj : s.agent? j with
  | none =>
    have hne := ne_of_agent? hj h
    rw [beginValidation, hj, if_neg fun hand => hne hand.1]
    exact filterMap_no_probe f
  | some b =>
    have hsame : j = i → b = a := fun hji => Option.some.inj ((hji ▸ hj).symm.trans h)
    rw [beginValidation_of_agent hj]
    by_cases hempty : b.filter.isEmpty = true
    · have hneg : ¬ (j = i ∧ a.filter.isEmpty = false) := by
        rintro ⟨hji, hfilter⟩
        rw [← hsame hji, hempty] at hfilter
        cases hfilter
      rw [if_pos hempty, if_neg hneg]
      exact filterMap_no_probe f
    · rw [if_neg hempty]
      show (((s.modifyAgent j Agent.advance).addCall _).probeEntries j
        s.calls.length).filterMap _ = _
      rw [filterMap_probe f rfl]
      by_cases hji : j = i
      · obtain rfl := hsame hji
        rw [if_pos hji, if_pos ⟨hji, Bool.eq_false_iff.mpr hempty⟩]
      · rw [if_neg hji, if_neg fun hand => hji hand.1]

/-- **An event tells at most one thing that may pick or install.** -/
theorem filterMap_rotationMove? (hc : ∀ seeds, f (.created seeds) = none)
    (hs : ∀ started, f (.switched started) = none) (hb : f .began = none)
    (he : ∀ stage now, f (.ended stage now) = none) (h : s.agent? i = some a) (e : Event) :
    (s.entriesOf i e).filterMap f = ((s.rotationMove? i a e).bind f).toList := by
  rw [filterMap_entriesOf]
  cases e with
  | create design now =>
    rw [entries]
    split <;> simp [rotationMove?, hc]
  | acquire launch => rfl
  | release => rfl
  | start j launch =>
    rw [entries]
    split <;> simp [rotationMove?, hs]
  | stop j =>
    rw [entries]
    split <;> simp [rotationMove?, hs]
  | next j now later => exact filterMap_next h hb he now later
  | pick j =>
    rw [entries, rotationMove?]
    by_cases hji : j = i
    · subst hji
      rw [pick?_of_agent h, if_pos rfl]
      exact (filterMap_entry f j _).trans (by rw [if_pos rfl])
    · cases s.pick? j <;> simp [hji]
  | maybeSchedule j now later => exact filterMap_scheduleEntries hb he now later
  | forceRefresh j now =>
    rw [entries]
    split <;> simp [rotationMove?, hb]
  | replace j nodes =>
    rw [entries, rotationMove?]
    by_cases hji : j = i
    · subst hji
      rw [h, Option.isSome_some, if_pos rfl]
      exact filterMap_entry f j _
    · split <;> simp [hji]
  | beginComparison j kind => exact filterMap_beginComparison f h kind
  | beginValidation j => exact filterMap_beginValidation f h
  | stepThread thread answer now =>
    rw [entries, rotationMove?]
    cases s.task? thread with
    | none => rfl
    | some task =>
      obtain ⟨r, pool⟩ := task
      have hentry := eq_refreshEntry (s := { s with pool := pool }) r answer now
      show [{ s with pool := pool }.refreshEntry r answer now].filterMap _ = _
      rw [hentry]
      exact filterMap_entry f r.agent _
  | advanceCall position answer now =>
    rw [entries, rotationMove?]
    cases (s.calls[position]?).bind Call.refresh? with
    | none => rfl
    | some r =>
      show [s.refreshEntry r answer now].filterMap _ = _
      rw [eq_refreshEntry r answer now]
      exact filterMap_entry f r.agent _

/-- **An event tells of at most one node list.** -/
theorem filterMap_listMove? (hc : ∀ seeds, f (.created seeds) = none)
    (hs : ∀ started, f (.switched started) = none) (hserved : ∀ node, f (.served node) = none)
    (hpicked : ∀ node, f (.picked node) = none) (hb : f .began = none)
    (he : ∀ stage now, f (.ended stage now) = none) (h : s.agent? i = some a) (e : Event) :
    (s.entriesOf i e).filterMap f = ((s.listMove? i e).bind f).toList := by
  have hskip : ∀ (c : Prop) [Decidable c] (x : Entry), f x = none →
      (if c then some x else none).bind f = none := by
    intro c _ x hx
    split
    · exact hx
    · rfl
  rw [filterMap_rotationMove? hc hs hb he h]
  cases e with
  | next j now later => rw [rotationMove?, hskip _ _ (hserved _)]; rfl
  | pick j => rw [rotationMove?, hskip _ _ (hpicked _)]; rfl
  | beginComparison j kind => rw [rotationMove?, hskip _ _ (hpicked _)]; rfl
  | beginValidation j => rw [rotationMove?, hskip _ _ (hpicked _)]; rfl
  | _ => rfl

end Entries

theorem filterMap_pick?_entriesOf (h : s.agent? i = some a) (e : Event) :
    (s.entriesOf i e).filterMap Entry.pick? =
      if s.picks i e then [a.registry.current] else [] := by
  rw [filterMap_rotationMove? (fun _ => rfl) (fun _ => rfl) rfl (fun _ _ => rfl) h]
  cases e with
  | next j now later => by_cases hji : j = i <;> simp [rotationMove?, picks, hji, Entry.pick?]
  | pick j => by_cases hji : j = i <;> simp [rotationMove?, picks, hji, Entry.pick?]
  | replace j nodes => by_cases hji : j = i <;> simp [rotationMove?, picks, hji, Entry.pick?]
  | beginComparison j kind =>
    by_cases hji : j = i <;> simp [rotationMove?, picks, hji, Entry.pick?]
  | beginValidation j =>
    by_cases hji : j = i
    · subst hji
      cases hfilter : a.filter.isEmpty <;> simp [rotationMove?, picks, h, hfilter, Entry.pick?]
    · simp [rotationMove?, picks, hji]
  | stepThread thread answer now =>
    rw [rotationMove?, picks]
    cases s.task? thread with
    | none => rfl
    | some task =>
      obtain ⟨r, pool⟩ := task
      have hpick := pick?_refreshEntry (s := { s with pool := pool }) h
      simp only [Option.bind_some, Option.any_some, hpick]
      by_cases hr : r = .ofAgent i <;> simp [hr]
  | advanceCall position answer now =>
    rw [rotationMove?, picks]
    cases s.calls[position]? with
    | none => rfl
    | some call =>
      cases call with
      | refresh r =>
        simp only [Option.bind_some, Call.refresh?, pick?_refreshEntry h]
        by_cases hr : r = .ofAgent i <;> simp [hr]
      | comparison => simp [Call.refresh?]
      | validation => simp [Call.refresh?]
  | _ => rfl

theorem filterMap_installed?_entriesOf (h : s.agent? i = some a) (e : Event) :
    (s.entriesOf i e).filterMap Entry.installed? = (s.installs? i e).toList := by
  rw [filterMap_listMove? (fun _ => rfl) (fun _ => rfl) (fun _ => rfl) (fun _ => rfl) rfl
    (fun _ _ => rfl) h]
  cases e with
  | replace j nodes => by_cases hji : j = i <;> simp [listMove?, installs?, hji, Entry.installed?]
  | stepThread thread answer now =>
    rw [listMove?, installs?]
    cases s.task? thread with
    | none => rfl
    | some task =>
      obtain ⟨r, pool⟩ := task
      simp only [Option.bind_some, installed?_refreshEntry (s := { s with pool := pool })]
  | advanceCall position answer now =>
    rw [listMove?, installs?]
    cases (s.calls[position]?).bind Call.refresh? with
    | none => rfl
    | some r => simp only [Option.bind_some, installed?_refreshEntry]
  | _ => rfl

/-! ## What the registry says of an event -/

/-- **The rotation of a registry over one event of any run.** -/
theorem rotation_step {past : List Event} (h : (empty.run past).agent? i = some a) (e : Event) :
    ∃ a', ((empty.run past).step e).agent? i = some a' ∧
      a'.registry.seeds = a.registry.seeds ∧
      a'.registry.nodes = ((empty.run past).installs? i e).getD a.registry.nodes ∧
      a'.registry.cursor =
        if (empty.run past).picks i e then a.registry.cursor + 1 else a.registry.cursor := by
  obtain ⟨a', h'⟩ := exists_agent?_step h e
  obtain ⟨o, hr⟩ := rotates h
  obtain ⟨o', hr'⟩ := rotates h'
  have hjournal : empty.journal i (past ++ [e]) =
      empty.journal i past ++ (empty.run past).entriesOf i e := by
    rw [journal_append, journal, journal, List.append_nil]
  rw [hjournal] at hr'
  have hseeds : a'.registry.seeds = a.registry.seeds := hr.seeds_eq hr'
  refine ⟨a', ?_, hseeds, ?_, ?_⟩
  · rw [run_append] at h'
    exact h'
  · have hnodes := hr'.nodes
    rw [listAfter_append, hseeds, ← hr.nodes, listAfter, filterMap_installed?_entriesOf h] at hnodes
    rw [hnodes]
    cases (empty.run past).installs? i e <;> rfl
  · have hcursor := hr'.cursor
    rw [List.filterMap_append, filterMap_pick?_entriesOf h, List.length_append,
      ← Nat.mod_add_mod, ← hr.cursor] at hcursor
    apply UInt64.toNat_inj.mp
    rw [hcursor]
    split
    · rw [UInt64.toNat_add]
      rfl
    · exact Nat.mod_eq_of_lt a.registry.cursor.toNat_lt

end System

end NodeBalancer
