import NodeBalancer.Discovery.Redirect

/-!
# Reading resource locators

A resource locator begins with a scheme and `://`.  What follows up to the first slash, question mark
or number sign is an address, in brackets if it is of the long form, and perhaps a colon and a port;
without a port the locator has the default of its scheme.  The path and the query are read the way
references are: dot segments are dropped and what may not stand there is encoded.  A fragment says
nothing about where something is and is dropped.  Names of hosts are not read.
-/

namespace NodeBalancer.Locator

/-- The scheme at the front, and what follows its colon and slashes. -/
def scheme? : List Char → Option (Scheme × List Char)
  | 'h' :: 't' :: 't' :: 'p' :: ':' :: '/' :: '/' :: rest => some (.http, rest)
  | 'h' :: 't' :: 't' :: 'p' :: 's' :: ':' :: '/' :: '/' :: rest => some (.https, rest)
  | _ => none

/-- The address at the front of an authority, and what follows it. -/
def host? : List Char → Option (Address × List Char)
  | '[' :: cs =>
    match cs.dropWhile (· != ']') with
    | _ :: rest => (V6.parse? (cs.takeWhile (· != ']'))).map fun a => (.v6 a, rest)
    | [] => none
  | cs => (V4.parse? (cs.takeWhile (· != ':'))).map fun a => (.v4 a, cs.dropWhile (· != ':'))

/-- The port behind an address. -/
def port? (scheme : Scheme) : List Char → Option UInt16
  | [] => some scheme.defaultPort
  | [':'] => some scheme.defaultPort
  | ':' :: digits =>
    match Text.natural? 10 digits with
    | none => none
    | some port => if port < 65536 then some (UInt16.ofNat port) else none
  | _ => none

/-- Whether a character ends an authority. -/
def endsAuthority (c : Char) : Bool :=
  c == '/' || c == '?' || c == '#'

/-- The query of a reference, encoded, if there is one. -/
def queryOf? (reference : List Char) : Option (List Char) :=
  match reference.dropWhile (· != '?') with
  | [] => none
  | _ :: query => some (percentEncode queryReserved query)

def parse? (cs : List Char) : Option Locator :=
  match scheme? cs with
  | none => none
  | some (scheme, rest) =>
    match host? (rest.takeWhile (!endsAuthority ·)) with
    | none => none
    | some (address, behind) =>
      match port? scheme behind with
      | none => none
      | some port =>
        let reference := (rest.dropWhile (!endsAuthority ·)).takeWhile (· != '#')
        let path := normalizePath (percentEncode pathReserved (reference.takeWhile (· != '?')))
        some ⟨scheme, address, port, path, queryOf? reference⟩

/-- The node list of a base node, restricted by a filter: what the base node's own text says with the
path of the node list behind it, and the filter as a query unless it is empty. -/
def localNodes? (base : Endpoint) (f : Filter) : Option Locator :=
  match parse? (base.locator (String.ofList localNodesPath) none).toList with
  | none => none
  | some l => some (if f.pairs.isEmpty then l else { l with query := some (Text.formQuery f.pairs) })

end NodeBalancer.Locator
