import NodeBalancer.Endpoint
import NodeBalancer.Filter
import NodeBalancer.Text.FormEncoding

/-!
# Where the node list is

The node list of a base node has one resource locator for every filter.  The port is left out where
it is the default of the scheme, the question mark where the filter is empty.
-/

namespace NodeBalancer

/-- A resource locator, taken apart. -/
structure Locator where
  scheme : Scheme
  address : Address
  port : UInt16
  path : List Char
  query : Option (List Char)
deriving DecidableEq

namespace Locator

def localNodesPath : List Char := "/localnodes".toList

/-- Host and, unless it is the default, port. -/
def authority (l : Locator) : List Char :=
  l.address.locatorDigits ++
    if l.port = l.scheme.defaultPort then [] else ':' :: Nat.toDigits 10 l.port.toNat

/-- Path and query, the way they are sent in a request. -/
def target (l : Locator) : List Char :=
  l.path ++ match l.query with
    | none => []
    | some query => '?' :: query

def chars (l : Locator) : List Char :=
  l.scheme.name.toList ++ "://".toList ++ l.authority ++ l.target

def text (l : Locator) : String :=
  String.ofList l.chars

/-- The node list of a base node, restricted by a filter. -/
def ofQuery (base : Endpoint) (f : Filter) : Locator where
  scheme := base.scheme
  address := base.address
  port := base.port
  path := localNodesPath
  query := if f.isEmpty then none else some (Text.formQuery f.pairs)

end Locator

end NodeBalancer
