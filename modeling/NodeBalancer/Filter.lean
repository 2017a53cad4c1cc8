import NodeBalancer.Text.Quoted
import NodeBalancer.Text.Record

/-!
# Filters

A filter restricts a node list to a rack, a datacenter, or both.
-/

namespace NodeBalancer

structure Filter where
  rack : Option String
  datacenter : Option String
deriving DecidableEq

namespace Filter

/-- The filter that lets every node through. -/
def none : Filter := ⟨.none, .none⟩

def isEmpty (f : Filter) : Bool :=
  f.rack.isNone && f.datacenter.isNone

/-- The parameters of a query with this filter, the rack first. -/
def pairs (f : Filter) : List (String × String) :=
  (f.rack.map ("rack", ·)).toList ++ (f.datacenter.map ("dc", ·)).toList

def describe (f : Filter) : String :=
  Text.record "Filter"
    [Text.field "rack" (Text.quoteOption f.rack),
      Text.field "datacenter" (Text.quoteOption f.datacenter)]

end Filter

inductive FilterKind where
  | rack
  | datacenter
deriving DecidableEq

/-- A filter of this kind that no node of a sensible cluster passes. -/
def FilterKind.unmatchable : FilterKind → Filter
  | rack => ⟨some "fakeRack", none⟩
  | datacenter => ⟨none, some "fakeDc"⟩

end NodeBalancer
