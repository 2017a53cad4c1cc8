import NodeBalancer.Cluster
import NodeBalancer.Proofs.Returns
import NodeBalancer.Proofs.System.Answers

/-!
# Rack and datacenter

In a **deployment** the questions of a system go to a cluster that honors filters and in which every
node gives the same answer.  Members may join it at any time.  A balancer for a rack or a datacenter
then knows no nodes but its seeds and those that a member in that rack and that datacenter has, and
it knows exactly the ones that there were when it asked: not those of members that joined between an
answer and its installation, and not fewer because a later answer was empty.

* `Config.residents`: the nodes of the members that a configuration is about.
* `Deployment.answered`: the members that there were when refreshes of an agent were answered.
* `Deployment.filterMap_answer?_journal`: what an agent is told are the residents of that time.
* `Deployment.topology_restriction`: what a balancer knows, and what it gives away.
-/

namespace NodeBalancer

namespace Config

/-- A member is in the rack of a configuration, if that names one, and in its datacenter, if it names
one. -/
def Covers (c : Config) (m : Member) : Prop :=
  (c.rack = none ∨ c.rack = some m.rack) ∧
    (c.datacenter = none ∨ c.datacenter = some m.datacenter)

instance (c : Config) : DecidablePred c.Covers :=
  fun _ => inferInstanceAs (Decidable (_ ∧ _))

/-- The nodes of the members that a configuration covers, in order. -/
def residents (c : Config) (members : List Member) : List Endpoint :=
  (members.filter (c.Covers ·)).map (·.endpoint)

theorem passes_filter_iff {c : Config} {m : Member} : m.passes c.filter = true ↔ c.Covers m := by
  rw [Member.passes, Covers, filter, Bool.and_eq_true]
  cases c.rack <;> cases c.datacenter <;> simp

theorem exists_of_mem_residents {c : Config} {members : List Member} {node : Endpoint}
    (h : node ∈ c.residents members) : ∃ m ∈ members, m.endpoint = node ∧ c.Covers m := by
  obtain ⟨m, hm, rfl⟩ := List.mem_map.mp h
  obtain ⟨hmem, hcovers⟩ := List.mem_filter.mp hm
  exact ⟨m, hmem, rfl, of_decide_eq_true hcovers⟩

end Config

/-- A system beside the cluster that its questions go to. -/
structure Deployment where
  system : System
  cluster : Cluster

namespace Deployment

inductive Move where
  | event (e : Event)
  | join (m : Member)

/-- An empty system beside a cluster of members that honors filters and has no overrides. -/
def ofMembers (members : List Member) : Deployment :=
  ⟨.empty, ⟨true, members, []⟩⟩

/-- What comes of a question: the answer of the cluster, unless the question is torn down. -/
def reply (d : Deployment) : Option (Endpoint × Filter) → Answer → Answer
  | some (base, f), .nodes _ => .nodes (d.cluster.answer base f)
  | _, answer => answer

/-- An event with the answer of the cluster in it.  A thread that only takes up a task asks nothing
yet. -/
def told (d : Deployment) : Event → Event
  | .stepThread thread answer now =>
    let question := (d.system.task? thread).bind fun (r, _) => d.system.questionOf r
    .stepThread thread (d.reply question answer) now
  | .advanceCall position answer now =>
    let question := (d.system.calls[position]?).bind d.system.callQuestion?
    .advanceCall position (d.reply question answer) now
  | e => e

def move (d : Deployment) : Move → Deployment
  | .event e => { d with system := d.system.step (d.told e) }
  | .join m => { d with cluster := d.cluster.add m }

def run (d : Deployment) (moves : List Move) : Deployment :=
  moves.foldl move d

/-- The events that the system goes through. -/
def events (d : Deployment) : List Move → List Event
  | [] => []
  | .event e :: moves => d.told e :: (d.move (.event e)).events moves
  | .join m :: moves => (d.move (.join m)).events moves

/-- The members that there were each time a refresh of an agent was answered. -/
def answered (d : Deployment) (i : Nat) : List Move → List (List Member)
  | [] => []
  | .event e :: moves =>
    ((d.system.answers? i (d.told e)).map fun _ => d.cluster.members).toList ++
      (d.move (.event e)).answered i moves
  | .join m :: moves => (d.move (.join m)).answered i moves

variable {d : Deployment} {moves : List Move} {i : Nat} {a : Agent} {config : Config}

/-! ## The system and the cluster -/

theorem run_append (d : Deployment) (before later : List Move) :
    d.run (before ++ later) = (d.run before).run later := List.foldl_append

theorem system_run (d : Deployment) (moves : List Move) :
    (d.run moves).system = d.system.run (d.events moves) := by
  induction moves generalizing d with
  | nil => rfl
  | cons m moves ih =>
    cases m with
    | event e => exact ih (d.move (.event e))
    | join m => exact ih (d.move (.join m))

theorem events_append (d : Deployment) (before later : List Move) :
    d.events (before ++ later) = d.events before ++ (d.run before).events later := by
  induction before generalizing d with
  | nil => rfl
  | cons m before ih =>
    cases m with
    | event e => exact congrArg (d.told e :: ·) (ih (d.move (.event e)))
    | join m => exact ih (d.move (.join m))

/-- Members stay. -/
theorem members_run (d : Deployment) (moves : List Move) :
    d.cluster.members <+: (d.run moves).cluster.members := by
  induction moves generalizing d with
  | nil => exact List.prefix_refl _
  | cons m moves ih =>
    cases m with
    | event e => exact ih (d.move (.event e))
    | join m => exact (List.prefix_append _ [m]).trans (ih (d.move (.join m)))

/-- The cluster honors filters, and no node gives an answer of its own. -/
structure Plain (d : Deployment) : Prop where
  honorsFilters : d.cluster.honorsFilters = true
  overrides : d.cluster.overrides = []

theorem Plain.move (h : d.Plain) (m : Move) : (d.move m).Plain := by
  cases m <;> exact ⟨h.honorsFilters, h.overrides⟩

theorem Plain.answer_eq (h : d.Plain) (config : Config) (base : Endpoint) :
    d.cluster.answer base config.filter = config.residents d.cluster.members := by
  rw [Cluster.answer, Cluster.override?, h.overrides, List.lookup_nil, Option.getD_none,
    Cluster.matching, h.honorsFilters, Config.residents]
  congr 1
  refine List.filter_congr fun m _ => ?_
  rw [Bool.not_true, Bool.false_or, Bool.eq_iff_iff, Config.passes_filter_iff, decide_eq_true_eq]

/-! ## What an agent is told -/

/-- Nobody gives lists to an agent on behalf of the cluster. -/
theorem mem_of_replace_mem_events {nodes : List Endpoint} (h : .replace i nodes ∈ d.events moves) :
    .event (.replace i nodes) ∈ moves := by
  induction moves generalizing d with
  | nil => cases h
  | cons m moves ih =>
    cases m with
    | event e =>
      rcases List.mem_cons.mp h with h | h
      · have he : e = .replace i nodes := by
          cases e with
          | replace j nodes' => exact h.symm
          | _ => cases h
        exact he ▸ List.mem_cons_self
      · exact List.mem_cons_of_mem _ (ih h)
    | join m => exact List.mem_cons_of_mem _ (ih h)

theorem answer?_reply {r : Refresh} {answer : Answer} {nodes : List Endpoint}
    (h : d.system.agent? i = some a)
    (hanswer : r.answer? i (d.reply (d.system.questionOf r) answer) = some nodes) :
    ∃ base, nodes = d.cluster.answer base a.filter := by
  obtain ⟨rfl, hreply, base, hstage⟩ := Refresh.of_answer?_eq_some hanswer
  have hquestion : d.system.questionOf r = some (base, a.filter) := by
    rw [System.questionOf, Refresh.base?, hstage, System.filterOf, h]
    rfl
  rw [hquestion] at hreply
  cases answer with
  | broken message => cases hreply
  | nodes ignored => exact ⟨base, (Answer.nodes.inj hreply).symm⟩

/-- A refresh is told what the cluster answers to the filter of its agent. -/
theorem answers?_told {e : Event} {nodes : List Endpoint} (h : d.system.agent? i = some a)
    (hanswer : d.system.answers? i (d.told e) = some nodes) :
    ∃ base, nodes = d.cluster.answer base a.filter := by
  cases e with
  | stepThread thread answer now =>
    obtain ⟨⟨r, pool⟩, htask, hr⟩ := Option.bind_eq_some_iff.mp hanswer
    rw [htask] at hr
    exact answer?_reply h hr
  | advanceCall position answer now =>
    obtain ⟨r, hrefresh, hr⟩ := Option.bind_eq_some_iff.mp hanswer
    obtain ⟨call, hcall, hcr⟩ := Option.bind_eq_some_iff.mp hrefresh
    obtain rfl := Call.eq_refresh hcr
    rw [hcall] at hr
    exact answer?_reply h hr
  | _ => cases hanswer

/-- An agent asks with the filter of the configuration that it ends up with. -/
theorem filter_eq {past : List Event} (hpast : d.system = System.empty.run past) {a₀ : Agent}
    (h₀ : d.system.agent? i = some a₀) (h : (d.run moves).system.agent? i = some a)
    (hc : a.config? = some config) : a₀.filter = config.filter := by
  rw [hpast] at h₀
  rw [system_run, hpast, ← System.run_append] at h
  have hdesign : a.design = a₀.design := System.design_run h₀ _ h
  have hconfig : a₀.config? = some config := by
    rw [← hc]
    exact (congrArg Prod.fst hdesign).symm
  exact (System.faithful h₀ config hconfig).1

/-- What a balancer is told are the residents of its rack and datacenter at that time. -/
theorem filterMap_answer?_journal {past : List Event} (hpast : d.system = System.empty.run past)
    (hd : d.Plain) (h : (d.run moves).system.agent? i = some a) (hc : a.config? = some config) :
    (d.system.journal i (d.events moves)).filterMap Entry.answer? =
      (d.answered i moves).map config.residents := by
  induction moves generalizing d past with
  | nil => rfl
  | cons m moves ih =>
    cases m with
    | join m => exact ih (d := d.move (.join m)) hpast (hd.move (.join m)) h
    | event e =>
      have hnext : (d.move (.event e)).system = System.empty.run (past ++ [d.told e]) := by
        rw [System.run_append, ← hpast]
        rfl
      have hcoherent : d.system.Coherent := hpast ▸ System.coherent_empty.run past
      rw [events, answered, System.journal, List.filterMap_append, List.map_append,
        hcoherent.filterMap_answer?_entriesOf]
      congr 1
      · cases hanswer : d.system.answers? i (d.told e) with
        | none => rfl
        | some nodes =>
          obtain ⟨a₀, ha₀⟩ := hcoherent.exists_agent?_of_answers? hanswer
          obtain ⟨base, rfl⟩ := answers?_told ha₀ hanswer
          rw [filter_eq hpast ha₀ h hc, hd.answer_eq]
          rfl
      · exact ih hnext (hd.move (.event e)) h

/-! ## What a balancer knows -/

/-- Whatever was told was told of members that are there. -/
theorem members_of_mem_answered {present : List Member} (h : present ∈ d.answered i moves) :
    present <+: (d.run moves).cluster.members := by
  induction moves generalizing d with
  | nil => cases h
  | cons m moves ih =>
    cases m with
    | join m => exact ih (d := d.move (.join m)) h
    | event e =>
      rcases List.mem_append.mp h with h | h
      · obtain ⟨nodes, -, rfl⟩ := Option.map_eq_some_iff.mp (Option.mem_toList.mp h)
        exact members_run (d.move (.event e)) moves
      · exact ih (d := d.move (.event e)) h

/-- A pick gives away a node of the list. -/
theorem mem_nodes_of_next? {s s' : System} (h : s.agent? i = some a) (hn : a.registry.nodes ≠ [])
    {now later : Instant} {node : Endpoint} (hnext : s.next? i now later = some (.ok node, s')) :
    node ∈ a.registry.nodes := by
  obtain ⟨t, ht⟩ := System.exists_next?_eq h now later
  rw [hnext] at ht
  have hnode : node = a.registry.current := by
    have hresult := congrArg Prod.fst (Option.some.inj ht)
    dsimp only at hresult
    split at hresult
    · cases hresult
    · exact Except.ok.inj hresult
  rw [hnode]
  exact List.mem_of_getElem? (Registry.getElem?_current hn)

section Balancer

variable {members : List Member} {started : Bool}

theorem system_run_ofMembers (members : List Member) (moves : List Move) :
    ((ofMembers members).run moves).system =
      System.empty.run ((ofMembers members).events moves) :=
  system_run (ofMembers members) moves

/-- Every list that a balancer has installed is one of the residents at some time. -/
theorem exists_residents (h : ((ofMembers members).run moves).system.agent? i = some a)
    (hc : a.config? = some config) (hown : ∀ nodes, .event (.replace i nodes) ∉ moves) :
    (((ofMembers members).answered i moves).map config.residents).filter (!·.isEmpty) =
      (System.empty.journal i ((ofMembers members).events moves)).filterMap Entry.installed? ++
        (((ofMembers members).run moves).system.stages i).filterMap Stage.pending? := by
  have hempty : (ofMembers members).system = System.empty.run [] := rfl
  have htold := filterMap_answer?_journal hempty ⟨rfl, rfl⟩ h hc
  rw [system_run_ofMembers] at h
  rw [← htold, system_run_ofMembers]
  exact System.filter_answers_eq h fun nodes hmem => hown nodes (mem_of_replace_mem_events hmem)

/-- **What a balancer knows** are its seeds until a refresh has installed an answer, and then exactly
the residents of its rack and datacenter at the time of the latest answer that was not empty, with an
answer that is still to be installed left out of account.  Once a refresh has succeeded, no node is
given away that is not one of theirs.  The node list of a balancer is its own, so nobody replaces it
from outside. -/
theorem topology_restriction
    (h : ((ofMembers members).run moves).system.agent? i = some a)
    (hrole : a.role = .balancer config started)
    (hown : ∀ nodes, .event (.replace i nodes) ∉ moves) :
    config.seeds = .ok a.registry.seeds ∧
    (∃ installed,
      (((ofMembers members).answered i moves).map config.residents).filter (!·.isEmpty) =
        installed ++
          (((ofMembers members).run moves).system.stages i).filterMap Stage.pending? ∧
      a.registry.nodes = installed.getLast?.getD a.registry.seeds) ∧
    ∀ before later, moves = before ++ later →
      .settled true ∈ ((ofMembers members).run before).system.stages i →
      ∀ now t node s',
        ((ofMembers members).run moves).system.next? i now t = some (.ok node, s') →
        ∃ m ∈ ((ofMembers members).run moves).cluster.members,
          m.endpoint = node ∧ config.Covers m := by
  have hconfig : a.config? = some config := by rw [Agent.config?, hrole]
  have hresidents := exists_residents h hconfig hown
  have hrun : (System.empty.run ((ofMembers members).events moves)).agent? i = some a := by
    rw [← h, system_run_ofMembers]
  obtain ⟨o, hrotates⟩ := System.rotates hrun
  refine ⟨(System.faithful hrun config hconfig).2, ⟨_, hresidents, hrotates.nodes⟩, ?_⟩
  rintro before later rfl hsettled now t node s' hnext
  -- What was installed before is installed still, so the list is not the seeds.
  have hinstalled : (System.empty.journal i
      ((ofMembers members).events (before ++ later))).filterMap Entry.installed? ≠ [] := by
    rw [system_run_ofMembers] at hsettled
    rw [events_append, System.journal_append, List.filterMap_append]
    exact List.append_ne_nil_of_left_ne_nil (System.installed_ne_nil_of_settled hsettled) _
  obtain ⟨nodes, hlast⟩ := Option.ne_none_iff_exists'.mp (mt List.getLast?_eq_none_iff.mp hinstalled)
  have hnodes : a.registry.nodes = nodes := by
    have hlist := hrotates.nodes
    rwa [listAfter, hlast] at hlist
  have hmem : nodes ∈ (((ofMembers members).answered i (before ++ later)).map
      config.residents).filter (!·.isEmpty) := by
    rw [hresidents]
    exact List.mem_append_left _ (List.mem_of_getLast? hlast)
  obtain ⟨present, hpresent, rfl⟩ := List.mem_map.mp (List.mem_of_mem_filter hmem)
  have hnode : node ∈ config.residents present :=
    hnodes ▸ mem_nodes_of_next? h hrotates.nodes_ne_nil hnext
  obtain ⟨m, hm, hendpoint, hcovers⟩ := Config.exists_of_mem_residents hnode
  exact ⟨m, (members_of_mem_answered hpresent).subset hm, hendpoint, hcovers⟩

end Balancer

/-- Two racks of one datacenter. -/
def rackMembers : List Member :=
  [⟨⟨.http, .v4 ⟨10, 0, 0, 1⟩, 8080⟩, "rack1", "dc1"⟩,
    ⟨⟨.http, .v4 ⟨10, 0, 0, 2⟩, 8080⟩, "rack2", "dc1"⟩]

/-- A balancer for the first rack. -/
def rackConfig : Config :=
  (Config.ofNodes ["10.0.0.9"]).set (.rack "rack1")

/-- A member joins the rack after a refresh has been answered and before it installs its answer. -/
def lateJoin : List Move :=
  [.event (.create (.balancer rackConfig) ⟨0⟩), .event (.forceRefresh 0 ⟨0⟩),
    .event (.advanceCall 0 (.nodes []) ⟨0⟩), .event (.advanceCall 0 (.nodes []) ⟨0⟩),
    .join ⟨⟨.http, .v4 ⟨10, 0, 0, 3⟩, 8080⟩, "rack1", "dc1"⟩,
    .event (.advanceCall 0 (.nodes []) ⟨0⟩)]

theorem topology_restriction_lateJoin :
    ∃ a, ((ofMembers rackMembers).run lateJoin).system.agent? 0 = some a ∧
      a.role = .balancer rackConfig false ∧
      (∀ nodes, .event (.replace 0 nodes) ∉ lateJoin) ∧
      rackConfig.seeds = .ok [⟨.http, .v4 ⟨10, 0, 0, 9⟩, 8080⟩] ∧
      a.registry.nodes = [⟨.http, .v4 ⟨10, 0, 0, 1⟩, 8080⟩] ∧
      ∃ m ∈ ((ofMembers rackMembers).run lateJoin).cluster.members,
        m.endpoint = a.registry.current ∧ rackConfig.Covers m := by
  have ha := (Option.some_get
    (x := ((ofMembers rackMembers).run lateJoin).system.agent? 0) (by decide +kernel)).symm
  have hrole : (((ofMembers rackMembers).run lateJoin).system.agent? 0).map Agent.role =
      some (.balancer rackConfig false) := by decide +kernel
  rw [ha, Option.map_some, Option.some_inj] at hrole
  have hown : ∀ nodes, .event (.replace 0 nodes) ∉ lateJoin := by simp [lateJoin]
  obtain ⟨hseeds, ⟨installed, hlists, hnodes⟩, hpicks⟩ := topology_restriction ha hrole hown
  have hlists' : [[⟨.http, .v4 ⟨10, 0, 0, 1⟩, 8080⟩]] = installed := by
    have hleft : (((ofMembers rackMembers).answered 0 lateJoin).map rackConfig.residents).filter
        (!·.isEmpty) = [[⟨.http, .v4 ⟨10, 0, 0, 1⟩, 8080⟩]] := by decide +kernel
    have hright : (((ofMembers rackMembers).run lateJoin).system.stages 0).filterMap
        Stage.pending? = [] := by decide +kernel
    rwa [hleft, hright, List.append_nil] at hlists
  obtain ⟨s', hnext⟩ := System.exists_next?_eq ha ⟨0⟩ ⟨0⟩
  refine ⟨_, ha, hrole, hown, by decide +kernel, ?_, ?_⟩
  · rw [hnodes, ← hlists']
    rfl
  · exact hpicks lateJoin [] (List.append_nil _).symm (by decide +kernel) ⟨0⟩ ⟨0⟩ _ s' hnext

end Deployment

end NodeBalancer
