import NodeBalancer.Refresh

/-!
# Scripted clusters

A scripted cluster knows its members and answers every query at once.  It may honor filters or
ignore them, and single nodes may be told to give an answer of their own.
-/

namespace NodeBalancer

structure Member where
  endpoint : Endpoint
  rack : String
  datacenter : String
deriving DecidableEq

def Member.passes (m : Member) (f : Filter) : Bool :=
  f.rack.all (· == m.rack) && f.datacenter.all (· == m.datacenter)

structure Cluster where
  honorsFilters : Bool
  members : List Member
  /-- Answers given by single nodes, the latest first. -/
  overrides : List (Endpoint × List Endpoint)

namespace Cluster

def override? (c : Cluster) (base : Endpoint) : Option (List Endpoint) :=
  c.overrides.lookup base

def matching (c : Cluster) (f : Filter) : List Endpoint :=
  (c.members.filter fun m => !c.honorsFilters || m.passes f).map (·.endpoint)

def answer (c : Cluster) (base : Endpoint) (f : Filter) : List Endpoint :=
  (c.override? base).getD (c.matching f)

def add (c : Cluster) (m : Member) : Cluster :=
  { c with members := c.members ++ [m] }

def answerFrom (c : Cluster) (base : Endpoint) (nodes : List Endpoint) : Cluster :=
  { c with overrides := (base, nodes) :: c.overrides }

end Cluster

/-- A cluster whose next query can be made to break off. -/
structure ScriptedWorld where
  cluster : Cluster
  breaksNext : Bool

namespace ScriptedWorld

def breakMessage : String := "boom"

def ask (w : ScriptedWorld) (base : Endpoint) (f : Filter) : Answer × ScriptedWorld :=
  if w.breaksNext then (.broken breakMessage, { w with breaksNext := false })
  else (.nodes (w.cluster.answer base f), w)

end ScriptedWorld

end NodeBalancer
