import NodeBalancer.Proofs.Config.Variables

/-!
# Configurations from the environment

A configuration has many environments: each node may stand between blanks and among empty pieces,
a name may be written in either case, a number with zeros in front.  All of them are read as that
configuration, and nothing else is.  Where the environment has none, some checks fail, and the first
of them is reported.

* `Describes`: the environments of a configuration.
* `Fails`: what a check of the environment has to report.
* `config_reads`: a configuration is read off its own environments, an error is that of the first
  check that fails, and the configurations that have an environment are the plain ones.
-/

namespace NodeBalancer.Environment

/-- What a variable gives: a default as long as it is not set, else what its text says. -/
inductive Gives {α : Type} (default : α) (means : String → α → Prop) : Option String → α → Prop
  | unset : Gives default means none default
  | set {text : String} {value : α} (h : means text value) : Gives default means (some text) value

/-- A rack or datacenter is named by its name, and none by an empty text. -/
inductive NamesPlace : String → Option String → Prop
  | nowhere : NamesPlace "" none
  | place {name : String} (h : name ≠ "") : NamesPlace name (some name)

/-- A duration is shown as its number of seconds, if that fits a 64-bit word. -/
inductive ShowsSeconds : String → Duration → Prop
  | intro {text : String} {seconds : Nat} (h : Shows text seconds) (hfits : seconds < UInt64.size) :
      ShowsSeconds text (.ofSeconds seconds)

/-- The configuration with the settings that have a variable, and the defaults of all others. -/
def ofSettings (c : Config) : Config :=
  { Config.ofNodes c.nodes with
    scheme := c.scheme
    port := c.port
    rack := c.rack
    datacenter := c.datacenter
    updateInterval := c.updateInterval }

/-- The environment sets the variables to what the configuration has. -/
structure Describes (env : Environment) (c : Config) : Prop where
  nodes : Lists c.nodes ((env nodesVariable).getD "")
  nodes_ne_nil : c.nodes ≠ []
  scheme : Gives .http (fun text scheme => scheme.Spells text) (env schemeVariable) c.scheme
  port : Gives 8080 (fun text port => Shows text port.toNat) (env portVariable) c.port
  rack : Gives none NamesPlace (env rackVariable) c.rack
  datacenter : Gives none NamesPlace (env datacenterVariable) c.datacenter
  updateInterval : Gives (.ofSeconds 10) ShowsSeconds (env updateIntervalVariable) c.updateInterval
  defaults : c = ofSettings c

/-- What is checked about an environment. -/
inductive Check where
  | nodes
  | scheme
  | port
  | updateInterval

/-- The checks in the order in which they are made. -/
def checks : List Check :=
  [.nodes, .scheme, .port, .updateInterval]

/-- What a check has to report if it fails. -/
inductive Fails (env : Environment) : Check → Error → Prop
  | noNodes (h : Lists [] ((env nodesVariable).getD "")) : Fails env .nodes .emptyNodeSet
  | scheme {text : String} (hset : env schemeVariable = some text)
      (h : ∀ scheme : Scheme, ¬ scheme.Spells text) : Fails env .scheme (.invalidScheme text)
  | portNumber {text : String} (hset : env portVariable = some text)
      (h : ∀ n, Shows text n → UInt32.size ≤ n) : Fails env .port (notNumber portVariable text)
  | portRange {text : String} (hset : env portVariable = some text) {n : Nat} (h : Shows text n)
      (hlarge : UInt16.size ≤ n) (hfits : n < UInt32.size) : Fails env .port (.invalidPort n)
  | seconds {text : String} (hset : env updateIntervalVariable = some text)
      (h : ∀ n, Shows text n → UInt64.size ≤ n) :
      Fails env .updateInterval (notNumber updateIntervalVariable text)

variable {env : Environment} {error : Error}

/-! ## One variable at a time -/

section

variable {α : Type} {default : α} {means : String → α → Prop} {read : String → Except Error α}

theorem read_eq_ok_iff (h : ∀ text value, read text = .ok value ↔ means text value)
    (setting : Option String) {value : α} :
    (match setting with
      | none => Except.ok default
      | some text => read text) = .ok value ↔ Gives default means setting value := by
  cases setting with
  | none =>
    constructor
    · rintro ⟨⟩
      exact .unset
    · rintro ⟨⟩
      rfl
  | some text =>
    refine (h text value).trans ⟨.set, ?_⟩
    rintro (_ | h)
    exact h

theorem read_eq_error_iff (read : String → Except Error α) (setting : Option String) :
    (match setting with
      | none => Except.ok default
      | some text => read text) = .error error ↔
        ∃ text, setting = some text ∧ read text = .error error := by
  cases setting <;> simp

end

theorem schemeOf_eq_ok_iff {scheme : Scheme} : env.schemeOf = .ok scheme ↔
    Gives .http (fun text scheme => scheme.Spells text) (env schemeVariable) scheme :=
  read_eq_ok_iff (fun _ _ => Scheme.parse_eq_ok_iff) _

theorem schemeOf_eq_error_iff : env.schemeOf = .error error ↔ env.Fails .scheme error := by
  refine (read_eq_error_iff Scheme.parse _).trans ⟨?_, ?_⟩
  · rintro ⟨text, hset, hparse⟩
    obtain ⟨hnone, rfl⟩ := Scheme.parse_eq_error_iff.mp hparse
    exact .scheme hset hnone
  · rintro (_ | ⟨hset, hnone⟩)
    exact ⟨_, hset, Scheme.parse_eq_error_iff.mpr ⟨hnone, rfl⟩⟩

/-- The port that a text shows. -/
def readPort (text : String) : Except Error UInt16 :=
  match number portVariable text UInt32.size with
  | .error error => .error error
  | .ok n => if n < UInt16.size then .ok (UInt16.ofNat n) else .error (.invalidPort n)

theorem readPort_of_shows {text : String} {n : Nat} (h : Shows text n) (hfits : n < UInt32.size) :
    readPort text = if n < UInt16.size then .ok (UInt16.ofNat n) else .error (.invalidPort n) := by
  rw [readPort, number_eq_ok_iff.mpr ⟨h, hfits⟩]

theorem readPort_of_not_shows {text : String} (h : ∀ n, Shows text n → UInt32.size ≤ n) :
    readPort text = .error (notNumber portVariable text) := by
  rw [readPort, number_eq_error_iff.mpr ⟨h, rfl⟩]

theorem readPort_eq_ok_iff (text : String) (port : UInt16) :
    readPort text = .ok port ↔ Shows text port.toNat := by
  constructor
  · intro hread
    rcases exists_shows_or_forall_le text UInt32.size with ⟨n, hn, hfits⟩ | hnone
    · rw [readPort_of_shows hn hfits] at hread
      split at hread
      · next hsmall =>
        cases hread
        rwa [UInt16.toNat_ofNat_of_lt' hsmall]
      · cases hread
    · rw [readPort_of_not_shows hnone] at hread
      cases hread
  · intro hshows
    have hfits : port.toNat < UInt32.size := Nat.lt_trans port.toNat_lt (by decide)
    rw [readPort_of_shows hshows hfits, if_pos port.toNat_lt, UInt16.ofNat_toNat]

theorem readPort_eq_error_iff (text : String) : readPort text = .error error ↔
    (∀ n, Shows text n → UInt32.size ≤ n) ∧ error = notNumber portVariable text ∨
      ∃ n, Shows text n ∧ UInt16.size ≤ n ∧ n < UInt32.size ∧ error = .invalidPort n := by
  constructor
  · intro hread
    rcases exists_shows_or_forall_le text UInt32.size with ⟨n, hn, hfits⟩ | hnone
    · rw [readPort_of_shows hn hfits] at hread
      split at hread
      · cases hread
      · next hlarge =>
        cases hread
        exact .inr ⟨n, hn, Nat.le_of_not_lt hlarge, hfits, rfl⟩
    · rw [readPort_of_not_shows hnone] at hread
      cases hread
      exact .inl ⟨hnone, rfl⟩
  · rintro (⟨hnone, rfl⟩ | ⟨n, hn, hlarge, hfits, rfl⟩)
    · exact readPort_of_not_shows hnone
    · rw [readPort_of_shows hn hfits, if_neg (Nat.not_lt_of_le hlarge)]

theorem portOf_eq_ok_iff {port : UInt16} : env.portOf = .ok port ↔
    Gives 8080 (fun text port => Shows text port.toNat) (env portVariable) port :=
  read_eq_ok_iff readPort_eq_ok_iff _

theorem portOf_eq_error_iff : env.portOf = .error error ↔ env.Fails .port error := by
  refine (read_eq_error_iff readPort _).trans ⟨?_, ?_⟩
  · rintro ⟨text, hset, hread⟩
    rcases (readPort_eq_error_iff text).mp hread with ⟨hnone, rfl⟩ | ⟨n, hn, hlarge, hfits, rfl⟩
    · exact .portNumber hset hnone
    · exact .portRange hset hn hlarge hfits
  · rintro (_ | _ | ⟨hset, hnone⟩ | ⟨hset, hn, hlarge, hfits⟩)
    · exact ⟨_, hset, (readPort_eq_error_iff _).mpr (.inl ⟨hnone, rfl⟩)⟩
    · exact ⟨_, hset, (readPort_eq_error_iff _).mpr (.inr ⟨_, hn, hlarge, hfits, rfl⟩)⟩

theorem updateIntervalOf_eq_ok_iff {interval : Duration} : env.updateIntervalOf = .ok interval ↔
    Gives (.ofSeconds 10) ShowsSeconds (env updateIntervalVariable) interval := by
  refine read_eq_ok_iff (fun text interval => ?_) _
  constructor
  · intro hread
    cases hnumber : number updateIntervalVariable text UInt64.size with
    | error error =>
      rw [hnumber] at hread
      cases hread
    | ok seconds =>
      rw [hnumber] at hread
      cases hread
      obtain ⟨hshows, hfits⟩ := number_eq_ok_iff.mp hnumber
      exact .intro hshows hfits
  · rintro ⟨hshows, hfits⟩
    rw [number_eq_ok_iff.mpr ⟨hshows, hfits⟩]
    rfl

theorem updateIntervalOf_eq_error_iff :
    env.updateIntervalOf = .error error ↔ env.Fails .updateInterval error := by
  refine (read_eq_error_iff
    (fun text => (number updateIntervalVariable text UInt64.size).map Duration.ofSeconds) _).trans
    ⟨?_, ?_⟩
  · rintro ⟨text, hset, hread⟩
    cases hnumber : number updateIntervalVariable text UInt64.size with
    | error error =>
      rw [hnumber] at hread
      cases hread
      obtain ⟨hnone, rfl⟩ := number_eq_error_iff.mp hnumber
      exact .seconds hset hnone
    | ok seconds =>
      rw [hnumber] at hread
      cases hread
  · rintro (_ | _ | _ | _ | ⟨hset, hnone⟩)
    refine ⟨_, hset, ?_⟩
    rw [number_eq_error_iff.mpr ⟨hnone, rfl⟩]
    rfl

theorem nonEmpty?_eq_iff {variableName : String} {name : Option String} :
    env.nonEmpty? variableName = name ↔ Gives none NamesPlace (env variableName) name := by
  unfold nonEmpty?
  cases env variableName with
  | none =>
    constructor
    · rintro rfl
      exact .unset
    · rintro ⟨⟩
      rfl
  | some text =>
    by_cases htext : text = ""
    · subst htext
      constructor
      · rintro rfl
        exact .set .nowhere
      · rintro (_ | _ | h)
        · rfl
        · exact absurd rfl h
    · have hkept : (some text).filter (!·.isEmpty) = some text := by simp [htext]
      rw [hkept]
      constructor
      · rintro rfl
        exact .set (.place htext)
      · rintro (_ | _ | _)
        · exact absurd rfl htext
        · rfl

/-! ## All variables -/

theorem config_eq_ok_iff {c : Config} : env.config = .ok c ↔ env.Describes c := by
  constructor
  · intro hconfig
    simp only [config] at hconfig
    split at hconfig
    · cases hconfig
    · next hnodes =>
      split at hconfig <;> cases hconfig
      next hscheme hport hinterval =>
      exact
        { nodes := nodeNames_eq_iff.mp rfl
          nodes_ne_nil := fun hnil => hnodes (List.isEmpty_iff.mpr hnil)
          scheme := schemeOf_eq_ok_iff.mp hscheme
          port := portOf_eq_ok_iff.mp hport
          rack := nonEmpty?_eq_iff.mp rfl
          datacenter := nonEmpty?_eq_iff.mp rfl
          updateInterval := updateIntervalOf_eq_ok_iff.mp hinterval
          defaults := rfl }
  · intro h
    have hnodes : ¬ c.nodes.isEmpty = true := fun hnil => h.nodes_ne_nil (List.isEmpty_iff.mp hnil)
    simp only [config]
    rw [nodeNames_eq_iff.mpr h.nodes, if_neg hnodes, schemeOf_eq_ok_iff.mpr h.scheme,
      portOf_eq_ok_iff.mpr h.port, updateIntervalOf_eq_ok_iff.mpr h.updateInterval,
      nonEmpty?_eq_iff.mpr h.rack, nonEmpty?_eq_iff.mpr h.datacenter]
    exact congrArg Except.ok h.defaults.symm

/-- The error of a reading that gives no value. -/
def error? {α : Type} : Except Error α → Option Error
  | .ok _ => none
  | .error error => some error

theorem error?_eq_some_iff {α : Type} {reading : Except Error α} :
    error? reading = some error ↔ reading = .error error := by
  cases reading <;> simp [error?]

/-- The report of a check, if it fails. -/
def failure? (env : Environment) : Check → Option Error
  | .nodes =>
    if nodeNames ((env nodesVariable).getD "") = [] then some .emptyNodeSet else none
  | .scheme => error? env.schemeOf
  | .port => error? env.portOf
  | .updateInterval => error? env.updateIntervalOf

theorem failure?_eq_some_iff {check : Check} :
    env.failure? check = some error ↔ env.Fails check error := by
  cases check with
  | nodes =>
    rw [failure?, Option.ite_none_right_eq_some, nodeNames_eq_iff]
    constructor
    · rintro ⟨h, ⟨⟩⟩
      exact .noNodes h
    · rintro ⟨h⟩
      exact ⟨h, rfl⟩
  | scheme => exact error?_eq_some_iff.trans schemeOf_eq_error_iff
  | port => exact error?_eq_some_iff.trans portOf_eq_error_iff
  | updateInterval => exact error?_eq_some_iff.trans updateIntervalOf_eq_error_iff

theorem failure?_eq_none_iff {check : Check} :
    env.failure? check = none ↔ ∀ error, ¬ env.Fails check error := by
  simp only [Option.eq_none_iff_forall_ne_some, ne_eq, failure?_eq_some_iff]

/-- The checks are made one after another, up to the first that fails. -/
theorem config_eq_error_iff : env.config = .error error ↔
    checks.findSome? env.failure? = some error := by
  simp only [config, checks, List.findSome?_cons, List.findSome?_nil, failure?, List.isEmpty_iff]
  split
  · simp
  · cases env.schemeOf <;> cases env.portOf <;> cases env.updateIntervalOf <;> simp [error?]

theorem exists_check_of_error : env.config = .error error ↔
    ∃ passed check left, checks = passed ++ check :: left ∧ env.Fails check error ∧
      ∀ earlier ∈ passed, ∀ other, ¬ env.Fails earlier other := by
  rw [config_eq_error_iff, List.findSome?_eq_some_iff]
  simp only [failure?_eq_none_iff, failure?_eq_some_iff]

/-! ## Configurations that have an environment -/

/-- What the variables can express. -/
structure Expressible (c : Config) : Prop where
  nodes_ne_nil : c.nodes ≠ []
  isNode : ∀ node ∈ c.nodes, IsNode node
  rack : c.rack ≠ some ""
  datacenter : c.datacenter ≠ some ""
  updateInterval : ∃ seconds < UInt64.size, c.updateInterval = .ofSeconds seconds
  defaults : c = ofSettings c

theorem ne_some_empty_of_gives {setting name : Option String}
    (h : Gives none NamesPlace setting name) : name ≠ some "" := by
  rintro rfl
  rcases h with _ | ⟨_ | h⟩
  exact h rfl

theorem exists_seconds_of_gives {setting : Option String} {interval : Duration}
    (h : Gives (.ofSeconds 10) ShowsSeconds setting interval) :
    ∃ seconds < UInt64.size, interval = .ofSeconds seconds := by
  rcases h with _ | ⟨⟨_, hfits⟩⟩
  · exact ⟨10, by decide, rfl⟩
  · exact ⟨_, hfits, rfl⟩

theorem Describes.expressible {c : Config} (h : env.Describes c) : Expressible c where
  nodes_ne_nil := h.nodes_ne_nil
  isNode := by
    obtain ⟨pieces, hpieces, _⟩ := h.nodes
    exact hpieces.isNode
  rack := ne_some_empty_of_gives h.rack
  datacenter := ne_some_empty_of_gives h.datacenter
  updateInterval := exists_seconds_of_gives h.updateInterval
  defaults := h.defaults

/-- The variables of a configuration, each in its plainest form. -/
def rendering (c : Config) : Environment := fun variableName =>
  if variableName = nodesVariable then
    some (String.ofList ([','].intercalate (c.nodes.map String.toList)))
  else if variableName = schemeVariable then some c.scheme.name
  else if variableName = portVariable then some (String.ofList (Nat.toDigits 10 c.port.toNat))
  else if variableName = rackVariable then c.rack
  else if variableName = datacenterVariable then c.datacenter
  else if variableName = updateIntervalVariable then
    some (String.ofList (Nat.toDigits 10 c.updateInterval.wholeSeconds))
  else none

theorem shows_toDigits (n : Nat) : Shows (String.ofList (Nat.toDigits 10 n)) n := by
  refine ⟨Nat.toDigits 10 n, .plain ?_, ?_⟩
  · exact (Text.natural?_eq_some_iff (by decide)).mp
      (Text.natural?_toDigits (by decide) (by decide) n)
  · rw [String.toList_ofList]
    exact Text.padded_self _

theorem pieces_map_toList {nodes : List String} (h : ∀ node ∈ nodes, IsNode node) :
    Pieces nodes (nodes.map String.toList) := by
  induction nodes with
  | nil => exact .nil
  | cons node nodes ih =>
    obtain ⟨hnode, hnodes⟩ := List.forall_mem_cons.mp h
    exact .node hnode (Text.padded_self _) (ih hnodes)

theorem gives_of_ne_some_empty {name : Option String} (h : name ≠ some "") :
    Gives none NamesPlace name name := by
  cases name with
  | none => exact .unset
  | some name => exact .set (.place fun hempty => h (congrArg some hempty))

theorem wholeSeconds_ofSeconds (seconds : Nat) :
    (Duration.ofSeconds seconds).wholeSeconds = seconds := by
  show (seconds * 1000000000 + 0) / 1000000000 = seconds
  omega

theorem describes_rendering {c : Config} (h : Expressible c) : (rendering c).Describes c where
  nodes := ⟨_, pieces_map_toList h.isNode, String.toList_ofList⟩
  nodes_ne_nil := h.nodes_ne_nil
  scheme := .set ((Scheme.spells_iff _ _).mpr (by cases c.scheme <;> decide))
  port := .set (shows_toDigits _)
  rack := gives_of_ne_some_empty h.rack
  datacenter := gives_of_ne_some_empty h.datacenter
  updateInterval := by
    obtain ⟨seconds, hfits, hinterval⟩ := h.updateInterval
    have hseconds : ShowsSeconds (String.ofList (Nat.toDigits 10 c.updateInterval.wholeSeconds))
        c.updateInterval := by
      rw [hinterval, wholeSeconds_ofSeconds]
      exact .intro (shows_toDigits seconds) hfits
    exact .set hseconds
  defaults := h.defaults

/-- **A configuration is read off its own environments, and an error off the first check that
fails.**  The configurations that are read are those with nodes in the list's own form, no empty
rack or datacenter, whole seconds that fit a 64-bit word, and everything else at its default. -/
theorem config_reads :
    (∀ (env : Environment) (c : Config), env.config = .ok c ↔ env.Describes c) ∧
      (∀ (env : Environment) (error : Error), env.config = .error error ↔
        ∃ passed check left, checks = passed ++ check :: left ∧ env.Fails check error ∧
          ∀ earlier ∈ passed, ∀ other, ¬ env.Fails earlier other) ∧
      ∀ c : Config, (∃ env : Environment, env.config = .ok c) ↔ Expressible c := by
  refine ⟨fun env c => config_eq_ok_iff, fun env error => exists_check_of_error, fun c => ⟨?_, ?_⟩⟩
  · rintro ⟨env, hconfig⟩
    exact (config_eq_ok_iff.mp hconfig).expressible
  · intro h
    exact ⟨rendering c, config_eq_ok_iff.mpr (describes_rendering h)⟩

/-- Two nodes among blanks and empty pieces, a port with a sign and zeros, no rack. -/
def untidy : Environment := fun variableName =>
  if variableName = nodesVariable then some " , 10.0.0.1\t,,10.0.0.2 ,"
  else if variableName = schemeVariable then some "hTTps"
  else if variableName = portVariable then some "\n+08043 "
  else if variableName = rackVariable then some ""
  else none

example : untidy.config =
    .ok { Config.ofNodes ["10.0.0.1", "10.0.0.2"] with scheme := .https, port := 8043 } := by
  decide

end NodeBalancer.Environment
