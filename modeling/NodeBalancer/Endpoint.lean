import NodeBalancer.Address.Parser
import NodeBalancer.Address.Printer
import NodeBalancer.Error
import NodeBalancer.Text.Record

/-!
# Endpoints

An endpoint is where a node listens: a scheme, an address and a port.  Hosts are given as text, with
or without brackets around the address, and only addresses are hosts: names are never looked up.
-/

namespace NodeBalancer

inductive Scheme where
  | http
  | https
deriving DecidableEq

namespace Scheme

def name : Scheme → String
  | http => "http"
  | https => "https"

def defaultPort : Scheme → UInt16
  | http => 80
  | https => 443

/-- Letters count in either case. -/
def parse (text : String) : Except Error Scheme :=
  let name := text.toList.map Char.toLower
  if name = ['h', 't', 't', 'p'] then .ok http
  else if name = ['h', 't', 't', 'p', 's'] then .ok https
  else .error (.invalidScheme text)

def describe : Scheme → String
  | http => "Http"
  | https => "Https"

end Scheme

structure Endpoint where
  scheme : Scheme
  address : Address
  port : UInt16
deriving DecidableEq

namespace Endpoint

/-- What is inside one pair of brackets, if a text begins and ends with one. -/
def unbracket (cs : List Char) : List Char :=
  match cs with
  | '[' :: inner => if inner.getLast? = some ']' then inner.dropLast else cs
  | _ => cs

def hostAddress? (host : String) : Option Address :=
  Address.parse? (unbracket host.toList)

/-- An endpoint for a host and a port.  A bad host is reported before a bad port. -/
def ofHost (scheme : Scheme) (host : String) (port : Nat) : Except Error Endpoint :=
  match hostAddress? host with
  | none => .error (.invalidAddress host)
  | some address =>
    if 0 < port ∧ port < 65536 then .ok ⟨scheme, address, UInt16.ofNat port⟩
    else .error (.invalidPort port)

/-- Address and port, joined by a colon. -/
def socketText (e : Endpoint) : String :=
  String.ofList (e.address.hostDigits ++ ':' :: Nat.toDigits 10 e.port.toNat)

def text (e : Endpoint) : String :=
  e.scheme.name ++ "://" ++ e.socketText

/-- The endpoint with a path and, if there is one and it is not empty, a query behind it. -/
def locator (e : Endpoint) (path : String) (query : Option String) : String :=
  match query with
  | none => e.text ++ path
  | some query => if query.isEmpty then e.text ++ path else e.text ++ path ++ "?" ++ query

/-- The set of the endpoints, each at the place where it appears first: endpoints are the same if they
agree in scheme, address and port. -/
def distinct (es : List Endpoint) : List Endpoint :=
  es.eraseDups

def describe (e : Endpoint) : String :=
  Text.record "Endpoint" [Text.field "scheme" e.scheme.describe, Text.field "addr" e.socketText]

end Endpoint

/-- An endpoint as it is given: its host is still text. -/
structure EndpointText where
  scheme : Scheme
  host : String
  port : Nat
deriving DecidableEq

namespace EndpointText

def endpoint (e : EndpointText) : Except Error Endpoint :=
  Endpoint.ofHost e.scheme e.host e.port

/-- All endpoints, or the error of the first that is bad. -/
def endpoints : List EndpointText → Except Error (List Endpoint)
  | [] => .ok []
  | e :: es =>
    match e.endpoint with
    | .error error => .error error
    | .ok endpoint => (endpoints es).map (endpoint :: ·)

end EndpointText

end NodeBalancer
