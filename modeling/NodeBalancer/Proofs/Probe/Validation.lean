import NodeBalancer.Proofs.Session.Operations
import NodeBalancer.Proofs.System.Answers

/-!
# What a validation foretells

A validation and a forced refresh are apart: the one keeps what it is told to itself, the other
installs it.  Both ask the node under the cursor with the filter of the configuration, though, so
where an answer depends on nothing but the node and the filter, the validation foretells what the
refresh would do.

* `Agent.fst_refreshed`: a refresh whose interval has an end tells whether it was told of a node.
* `Session.validateFilter_foretells`: the two calls made from one state, side by side.
-/

namespace NodeBalancer

theorem Config.isEmpty_filter (c : Config) : c.filter.isEmpty = !c.hasFilter := by
  rw [filter, Filter.isEmpty, hasFilter, Bool.not_or, Option.not_isSome, Option.not_isSome]

/-- A refresh whose interval has an end tells whether there was anything to install. -/
theorem Agent.fst_refreshed {a : Agent} {ended : Instant} (h : ended.add? a.interval ≠ none)
    (nodes : List Endpoint) : (a.refreshed nodes ended).1 = .ok !nodes.isEmpty := by
  have hends : (a.advance.install nodes).finish? ended ≠ none := mt finish?_eq_none_iff.mp h
  obtain ⟨a', hfinish⟩ := Option.ne_none_iff_exists'.mp hends
  rw [refreshed_of_finish? hfinish]

namespace Session

/-- **A validation foretells a refresh.**  A balancer with a filter and no refresh in flight finds
its filter valid exactly if a refresh forced instead would install a list; either call asks the same
node the same thing, which moves the cursor on, and the validation changes nothing else.  Without a
filter nothing is asked and all is valid. -/
theorem validateFilter_foretells {World : Type} (discovery : Discovery World)
    (answers : Endpoint → Filter → List Endpoint) (events : List Event) (s : Session World)
    (i : Nat) (a : Agent) (config : Config) (started : Bool)
    (hanswers : ∀ world base filter,
      (discovery world base filter).1 = .nodes (answers base filter))
    (hsystem : s.system = (System.empty.run events).withoutCalls)
    (h : s.system.agent? i = some a) (hrole : a.role = .balancer config started) :
    (config.hasFilter = true → a.registry.inFlight = false →
      (s.readings (s.reads + 5)).add? config.updateInterval ≠ none →
      ∃ outcome validated replaced refreshed a',
        s.validateFilter discovery i = (some outcome, validated) ∧
        s.forceRefresh discovery i = (.ok replaced, refreshed) ∧
        (outcome = .valid ↔ replaced = true) ∧
        (outcome ≠ .valid →
          outcome = .error (.filterMisconfigured config.rack config.datacenter)) ∧
        validated.system =
          { s.system.modifyAgent i fun a =>
              { a with registry := { a.registry with cursor := a.registry.cursor + 1 } } with
            queries := s.system.queries ++ [⟨i, a.registry.current, config.filter⟩] } ∧
        refreshed.system.queries = validated.system.queries ∧
        refreshed.world = validated.world ∧
        refreshed.system.agent? i = some a' ∧
        a'.registry.cursor = a.registry.cursor + 1) ∧
    (config.hasFilter = false → s.validateFilter discovery i = (some .valid, s)) := by
  have hcalls : s.system.calls = [] := by rw [hsystem]; rfl
  have hagent : (System.empty.run events).agent? i = some a := by rwa [hsystem] at h
  obtain ⟨o, hrotates⟩ := System.rotates hagent
  have hconfig : a.config? = some config := by rw [Agent.config?, hrole]
  have hfilter : a.filter = config.filter := (System.faithful hagent config hconfig).1
  have hinterval : a.interval = config.updateInterval := by rw [Agent.interval, hrole]
  have hempty : a.filter.isEmpty = !config.hasFilter := by rw [hfilter, config.isEmpty_filter]
  let base := a.registry.current
  constructor
  · intro hhas hflight hend
    let nodes := answers base a.filter
    have hanswer : discovery s.world base a.filter =
        (.nodes nodes, (discovery s.world base a.filter).2) := Prod.ext (hanswers ..) rfl
    have hvalidate := validateFilter_eq h hcalls (by rw [hempty, hhas]; rfl) hanswer
    have hrefresh := forceRefresh_eq h hflight hcalls hanswer
    have hends : (s.readings (s.reads + 5)).add? a.markInFlight.interval ≠ none := by
      rwa [Agent.interval_markInFlight, hinterval]
    rw [Agent.fst_refreshed hends] at hrefresh
    rw [System.modifyAgent_advance h hrotates.nodes_ne_nil] at hvalidate
    obtain ⟨-, hcursor, -, -⟩ := a.markInFlight.refreshed_frame nodes (s.readings (s.reads + 5))
    refine ⟨_, _, _, _, _, hvalidate, hrefresh, ?_, ?_, ?_, rfl, rfl,
      System.agent?_modifyAgent_self h _, hcursor⟩
    · cases nodes.isEmpty <;> simp
    · rw [hfilter]
      cases nodes.isEmpty <;> simp [Config.filter]
    · rw [hfilter]
      rfl
  · intro hhas
    rw [validateFilter_of_agent h hcalls, hempty, hhas]
    rfl

/-- A balancer for a rack, made with one node. -/
def rackBalancer : List Event :=
  [.create (.balancer { Config.ofNodes ["10.0.0.1"] with rack := some "rack1" }) ⟨0⟩]

/-- Every node knows of one in that rack, and of nothing else. -/
def rackAnswers (_ : Endpoint) (filter : Filter) : List Endpoint :=
  if filter.rack = some "rack1" then [⟨.http, .v4 ⟨10, 0, 0, 2⟩, 8080⟩] else []

theorem validateFilter_foretells_rackBalancer :
    ∃ refreshed,
      { Session.ofWorld () with system := System.empty.run rackBalancer }.forceRefresh
        (fun world base filter => (.nodes (rackAnswers base filter), world)) 0 =
          (.ok true, refreshed) ∧
      refreshed.system.queries =
        [⟨0, ⟨.http, .v4 ⟨10, 0, 0, 1⟩, 8080⟩, ⟨some "rack1", none⟩⟩] := by
  have ha := (Option.some_get (x := (System.empty.run rackBalancer).agent? 0) (by decide)).symm
  let s : Session Unit := { Session.ofWorld () with system := System.empty.run rackBalancer }
  let discovery : Discovery Unit := fun world base filter => (.nodes (rackAnswers base filter), world)
  obtain ⟨hforetells, -⟩ := validateFilter_foretells discovery rackAnswers rackBalancer s 0 _
    { Config.ofNodes ["10.0.0.1"] with rack := some "rack1" } false (fun _ _ _ => rfl) rfl ha rfl
  obtain ⟨outcome, validated, replaced, refreshed, -, hvalidate, hrefresh, hvalid, -, hsystem,
    hqueries, -⟩ := hforetells rfl rfl (by decide)
  -- The validation finds the rack, so the refresh has to install what it is told.
  have houtcome : (s.validateFilter discovery 0).1 = some .valid := by rfl
  rw [hvalidate] at houtcome
  have hreplaced : replaced = true := hvalid.mp (Option.some.inj houtcome)
  refine ⟨refreshed, hreplaced ▸ hrefresh, ?_⟩
  rw [hqueries, hsystem]
  rfl

end Session

end NodeBalancer
