import NodeBalancer.Config
import NodeBalancer.Text.Blank
import NodeBalancer.Text.Numeral

/-!
# Configurations from the environment

The variables are looked at in a fixed order, so that of several bad ones the first is reported:
nodes, scheme, port, update interval.  A variable that is not there leaves its setting at the
default; an empty rack or datacenter counts as none.
-/

namespace NodeBalancer

/-- What a variable is set to, if it is set to text. -/
abbrev Environment := String → Option String

namespace Environment

def nodesVariable : String := "ALTERNATOR_NODES"

def schemeVariable : String := "ALTERNATOR_SCHEME"

def portVariable : String := "ALTERNATOR_PORT"

def rackVariable : String := "ALTERNATOR_RACK"

def datacenterVariable : String := "ALTERNATOR_DATACENTER"

def updateIntervalVariable : String := "ALTERNATOR_UPDATE_INTERVAL_SECS"

/-- The parts of a comma-separated list, without blanks around them and without empty ones. -/
def nodeNames (text : String) : List String :=
  let parts := (text.toList.splitOn ',').map Text.trim
  (parts.filter (!·.isEmpty)).map String.ofList

/-- Reads a variable as a numeral below `bound`, blanks around it apart. -/
def number (variableName value : String) (bound : Nat) : Except Error Nat :=
  match Text.numeral? bound (Text.trim value.toList) with
  | some n => .ok n
  | none =>
    .error (.invalidConfig (variableName ++ "=" ++ Text.quote value ++ " is not a valid number"))

def schemeOf (env : Environment) : Except Error Scheme :=
  match env schemeVariable with
  | none => .ok .http
  | some text => Scheme.parse text

def portOf (env : Environment) : Except Error UInt16 :=
  match env portVariable with
  | none => .ok 8080
  | some text =>
    match number portVariable text UInt32.size with
    | .error error => .error error
    | .ok n => if n < UInt16.size then .ok (UInt16.ofNat n) else .error (.invalidPort n)

def updateIntervalOf (env : Environment) : Except Error Duration :=
  match env updateIntervalVariable with
  | none => .ok (.ofSeconds 10)
  | some text => (number updateIntervalVariable text UInt64.size).map Duration.ofSeconds

def nonEmpty? (env : Environment) (variableName : String) : Option String :=
  (env variableName).filter (!·.isEmpty)

def config (env : Environment) : Except Error Config :=
  let nodes := nodeNames ((env nodesVariable).getD "")
  if nodes.isEmpty then .error .emptyNodeSet
  else
    match schemeOf env, portOf env, updateIntervalOf env with
    | .error error, _, _ => .error error
    | .ok _, .error error, _ => .error error
    | .ok _, .ok _, .error error => .error error
    | .ok scheme, .ok port, .ok interval =>
      .ok { Config.ofNodes nodes with
        scheme := scheme
        port := port
        rack := env.nonEmpty? rackVariable
        datacenter := env.nonEmpty? datacenterVariable
        updateInterval := interval }

end Environment

end NodeBalancer
