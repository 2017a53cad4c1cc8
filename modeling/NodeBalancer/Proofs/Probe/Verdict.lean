import NodeBalancer.Cluster
import NodeBalancer.Proofs.Session.Operations
import NodeBalancer.Proofs.System.Projection

/-!
# What a probe finds out

A probe that asks whether filters of a kind are honored compares nothing but the lengths of two
answers: of one that is restricted to a place where no node should be, and of a whole one.  A
cluster restricts a list by leaving members out, so the lengths differ exactly if it leaves out one
at least (`Cluster.length_matching_eq_iff`), and that is one which is somewhere else.

* `System.verdict_eq_nothingListed_iff`: a probe fails exactly if it is not told of any node.
* `Session.checkFilterHonored_exact`: what a probe asks a scripted cluster, what it says of it, and
  what it leaves behind.
-/

namespace NodeBalancer

namespace FilterKind

/-- What filters of a kind look at. -/
def placeOf : FilterKind → Member → String
  | rack => Member.rack
  | datacenter => Member.datacenter

/-- The place in which no node of a sensible cluster is. -/
def nowhere : FilterKind → String
  | rack => "fakeRack"
  | datacenter => "fakeDc"

end FilterKind

namespace Member

theorem passes_none (m : Member) : m.passes .none = true := rfl

theorem passes_unmatchable_iff {m : Member} {kind : FilterKind} :
    m.passes kind.unmatchable = true ↔ kind.placeOf m = kind.nowhere := by
  rw [passes]
  cases kind with
  | rack =>
    rw [FilterKind.unmatchable, Option.all_some, Option.all_none, Bool.and_true, beq_iff_eq]
    exact eq_comm
  | datacenter =>
    rw [FilterKind.unmatchable, Option.all_some, Option.all_none, Bool.true_and, beq_iff_eq]
    exact eq_comm

end Member

namespace Cluster

variable {c : Cluster} {base : Endpoint} {nodes : List Endpoint} {f : Filter}

theorem answer_of_override (h : c.override? base = some nodes) : c.answer base f = nodes := by
  rw [answer, h, Option.getD_some]

theorem answer_of_no_override (h : c.override? base = none) : c.answer base f = c.matching f := by
  rw [answer, h, Option.getD_none]

theorem matching_none (c : Cluster) : c.matching .none = c.members.map (·.endpoint) := by
  have hall : (c.members.filter fun m => !c.honorsFilters || m.passes .none) = c.members :=
    List.filter_eq_self.mpr fun m _ => by rw [m.passes_none, Bool.or_true]
  rw [matching, hall]

/-- An answer is as long as the whole list exactly if nothing is left out of it. -/
theorem length_matching_eq_iff :
    (c.matching f).length = (c.matching .none).length ↔
      c.honorsFilters = true → ∀ m ∈ c.members, m.passes f = true := by
  rw [matching_none, matching, List.length_map, List.length_map,
    List.length_filter_eq_length_iff]
  cases c.honorsFilters <;> simp

/-- Restricted to where nobody should be, a list gets shorter exactly if filters are honored and
somebody is somewhere else. -/
theorem length_matching_unmatchable_ne_iff {kind : FilterKind} :
    (c.matching kind.unmatchable).length ≠ (c.matching .none).length ↔
      c.honorsFilters = true ∧ ∃ m ∈ c.members, kind.placeOf m ≠ kind.nowhere := by
  rw [Ne, length_matching_eq_iff]
  simp only [Member.passes_unmatchable_iff]
  push Not
  rfl

end Cluster

/-- A probe that was not told of any node by the one that it asked. -/
def Outcome.nothingListed (base : Endpoint) : Outcome :=
  .error (.discoveryFailure (base.text ++ " returned empty list"))

namespace System

variable {base : Endpoint} {restricted whole : List Endpoint}

theorem verdict_of_ne_nil (h : whole ≠ []) :
    verdict base restricted whole = .honored (restricted.length != whole.length) := by
  rw [verdict, if_neg (mt List.isEmpty_iff.mp h)]

theorem verdict_eq_nothingListed_iff :
    verdict base restricted whole = .nothingListed base ↔ whole = [] := by
  constructor
  · intro h
    by_contra hne
    rw [verdict_of_ne_nil hne] at h
    cases h
  · rintro rfl
    rfl

/-- Two answers that are the same show nothing. -/
theorem verdict_self (base : Endpoint) (nodes : List Endpoint) :
    verdict base nodes nodes = if nodes = [] then .nothingListed base else .honored false := by
  split
  case isTrue h => exact verdict_eq_nothingListed_iff.mpr h
  case isFalse h => rw [verdict_of_ne_nil h, bne_self_eq_false]

end System

namespace Session

/-- **A probe of a scripted cluster is exact.**  It asks the node under the cursor twice, with the
filter that no node should pass and without one, and moves the cursor on; nothing else about the
system or the cluster changes. -/
theorem checkFilterHonored_exact (events : List Event) (s : Session ScriptedWorld) (c : Cluster)
    (i : Nat) (a : Agent) (kind : FilterKind)
    (hsystem : s.system = (System.empty.run events).withoutCalls) (hworld : s.world = ⟨c, false⟩)
    (h : s.system.agent? i = some a) :
    ∃ outcome,
      s.checkFilterHonored ScriptedWorld.ask i kind =
        (some outcome,
          { s with
            system :=
              { s.system.modifyAgent i fun a =>
                  { a with registry := { a.registry with cursor := a.registry.cursor + 1 } } with
                queries := s.system.queries ++
                  [⟨i, a.registry.current, kind.unmatchable⟩, ⟨i, a.registry.current, .none⟩] }
            reads := s.reads + 2 }) ∧
      (∀ nodes, c.override? a.registry.current = some nodes →
        outcome = if nodes = [] then .nothingListed a.registry.current else .honored false) ∧
      (c.override? a.registry.current = none →
        (outcome = .nothingListed a.registry.current ↔ c.members = []) ∧
        (c.members ≠ [] → ∃ honored, outcome = .honored honored ∧
          (honored = true ↔
            c.honorsFilters = true ∧ ∃ m ∈ c.members, kind.placeOf m ≠ kind.nowhere))) := by
  let base := a.registry.current
  have hcalls : s.system.calls = [] := by rw [hsystem]; rfl
  have hagent : (System.empty.run events).agent? i = some a := by rwa [hsystem] at h
  obtain ⟨o, hrotates⟩ := System.rotates hagent
  have hanswer : ∀ f, ScriptedWorld.ask s.world base f = (.nodes (c.answer base f), s.world) := by
    intro f
    rw [hworld]
    rfl
  refine ⟨System.verdict base (c.answer base kind.unmatchable) (c.answer base .none), ?_, ?_, ?_⟩
  · rw [checkFilterHonored_eq h hcalls (hanswer _) (hanswer _),
      System.modifyAgent_advance h hrotates.nodes_ne_nil]
    simp only [System.logQuery, List.append_assoc, List.cons_append, List.nil_append]
    rfl
  · intro nodes hoverride
    rw [Cluster.answer_of_override hoverride, Cluster.answer_of_override hoverride]
    exact System.verdict_self base nodes
  · intro hoverride
    rw [Cluster.answer_of_no_override hoverride, Cluster.answer_of_no_override hoverride]
    have hempty : c.matching .none = [] ↔ c.members = [] := by
      rw [Cluster.matching_none, List.map_eq_nil_iff]
    refine ⟨System.verdict_eq_nothingListed_iff.trans hempty, fun hmembers => ?_⟩
    refine ⟨_, System.verdict_of_ne_nil (mt hempty.mp hmembers), ?_⟩
    rw [bne_iff_ne]
    exact Cluster.length_matching_unmatchable_ne_iff

/-- A probe of its own, made with one node. -/
def loneProbe : List Event :=
  [.create (.probe [⟨.http, .v4 ⟨10, 0, 0, 1⟩, 8080⟩] .none) ⟨0⟩]

/-- One of two members is in the very rack in which none should be. -/
def strayCluster : Cluster where
  honorsFilters := true
  members :=
    [⟨⟨.http, .v4 ⟨10, 0, 0, 1⟩, 8080⟩, "fakeRack", "dc1"⟩,
      ⟨⟨.http, .v4 ⟨10, 0, 0, 2⟩, 8080⟩, "rack1", "dc1"⟩]
  overrides := []

theorem checkFilterHonored_exact_strayCluster :
    ∃ s',
      { Session.ofWorld (⟨strayCluster, false⟩ : ScriptedWorld) with
          system := System.empty.run loneProbe }.checkFilterHonored ScriptedWorld.ask 0 .rack =
        (some (.honored true), s') ∧
      s'.system.queries =
        [⟨0, ⟨.http, .v4 ⟨10, 0, 0, 1⟩, 8080⟩, ⟨some "fakeRack", none⟩⟩,
          ⟨0, ⟨.http, .v4 ⟨10, 0, 0, 1⟩, 8080⟩, .none⟩] := by
  have ha := (Option.some_get (x := (System.empty.run loneProbe).agent? 0) (by decide)).symm
  obtain ⟨outcome, hrun, -, hverdict⟩ := checkFilterHonored_exact loneProbe
    { Session.ofWorld (⟨strayCluster, false⟩ : ScriptedWorld) with
      system := System.empty.run loneProbe } strayCluster 0 _ .rack rfl rfl ha
  obtain ⟨honored, rfl, hhonored⟩ := (hverdict rfl).2 (by decide)
  have htrue : honored = true := hhonored.mpr ⟨rfl, by decide⟩
  exact ⟨_, htrue ▸ hrun, rfl⟩

end Session

end NodeBalancer
