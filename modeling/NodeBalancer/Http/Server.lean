import NodeBalancer.Discovery.Client
import NodeBalancer.Discovery.Redirect

/-!
# Scripted servers

A scripted server gives its exchanges away one after the other, whatever it is asked, and answers
with an internal error when they have run out.  It speaks no TLS.  A server that cannot be reached
refuses every connection and never learns of it.
-/

namespace NodeBalancer.Http

structure Server where
  reachable : Bool
  exchanges : List Exchange
  /-- The requests that have come in, in order. -/
  requests : List String

namespace Server

/-- A server that is not there. -/
def absent : Server := ⟨false, [], []⟩

def internalError : Exchange :=
  .response ⟨500, none, some ByteArray.empty⟩

def requestText (l : Locator) : String :=
  String.ofList (l.address.digits ++ " GET ".toList ++ l.target)

def send (s : Server) (l : Locator) : Exchange × Server :=
  if s.reachable && l.scheme = .http then
    let requests := s.requests ++ [requestText l]
    match s.exchanges with
    | [] => (internalError, { s with requests := requests })
    | exchange :: exchanges => (exchange, { s with exchanges := exchanges, requests := requests })
  else (.failure, s)

/-- Requests to the server, which redirects to itself alone. -/
def request : Transport Server Locator := ⟨id, Locator.resolve?, send⟩

end Server

end NodeBalancer.Http
