import NodeBalancer.Text.Quoted

/-!
# What can go wrong

Every failure is one of a few causes, and each cause has one wording.
-/

namespace NodeBalancer

inductive Error where
  | emptyNodeSet
  | invalidAddress (host : String)
  | invalidPort (port : Nat)
  | invalidScheme (text : String)
  | invalidConfig (reason : String)
  | discoveryFailure (reason : String)
  | filterMisconfigured (rack datacenter : Option String)
  | poolFailure (reason : String)
  | workerFailure (reason : String)
deriving DecidableEq

namespace Error

def message : Error → String
  | emptyNodeSet => "node list cannot be empty"
  | invalidAddress host => "invalid node address: " ++ Text.quote host
  | invalidPort port => "invalid port: " ++ toString port
  | invalidScheme text => "unsupported scheme: " ++ Text.quote text
  | invalidConfig reason => "invalid configuration: " ++ reason
  | discoveryFailure reason => "node discovery failed: " ++ reason
  | filterMisconfigured rack datacenter =>
    "node returned empty list for rack " ++ Text.quoteOption rack ++ " and datacenter " ++
      Text.quoteOption datacenter ++ ", rack or datacenter might be incorrect"
  | poolFailure reason => "failed to build connection pool: " ++ reason
  | workerFailure reason => "failed to start refresh worker: " ++ reason

end Error

/-- Why a call was torn down instead of returning. -/
inductive Fault where
  /-- The query for the node list itself broke off. -/
  | query (message : String)
  /-- A refresh ended so late that the end of its update interval is not an instant. -/
  | instantOverflow
deriving DecidableEq

def Fault.message : Fault → String
  | query message => message
  | instantOverflow => "overflow when adding duration to instant"

end NodeBalancer
