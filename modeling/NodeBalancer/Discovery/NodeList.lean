import NodeBalancer.Endpoint
import NodeBalancer.Json.Parser

/-!
# Node lists

A node answers with a JSON array.  Every entry that is a string holding an address is a node; other
entries are passed over.  A body that is not an array as a whole says nothing.
-/

namespace NodeBalancer.NodeList

/-- The endpoint that an entry names, if it names one. -/
def endpointOf? (scheme : Scheme) (port : Nat) (entry : Json) : Option Endpoint :=
  match entry.text? with
  | none => none
  | some host => (Endpoint.ofHost scheme host port).toOption

def ofEntries (scheme : Scheme) (port : Nat) (entries : List Json) : List Endpoint :=
  entries.filterMap (endpointOf? scheme port)

def ofText? (scheme : Scheme) (port : Nat) (cs : List Char) : Option (List Endpoint) :=
  match Json.parse? cs with
  | some (.array entries) => some (ofEntries scheme port entries)
  | _ => none

/-- The nodes that a body names, which must be text in UTF-8. -/
def ofBody? (scheme : Scheme) (port : Nat) (body : ByteArray) : Option (List Endpoint) :=
  match String.fromUTF8? body with
  | none => none
  | some text => ofText? scheme port text.toList

end NodeBalancer.NodeList
