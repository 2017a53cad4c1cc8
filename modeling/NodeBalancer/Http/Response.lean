/-!
# Responses

What one request brings back: a status with, perhaps, a location and a body, or nothing at all
because the connection was refused, closed or silent for too long.
-/

namespace NodeBalancer.Http

structure Response where
  status : Nat
  location : Option String
  /-- Absent when the body broke off before its announced end. -/
  body : Option ByteArray

inductive Exchange where
  | response (response : Response)
  | failure

namespace Response

def isSuccess (r : Response) : Bool :=
  200 ≤ r.status && r.status < 300

/-- The statuses that send the client elsewhere. -/
def isRedirect (r : Response) : Bool :=
  [301, 302, 303, 307, 308].contains r.status

/-- Responses of these statuses never have a body. -/
def hasNoBody (status : Nat) : Bool :=
  status == 204 || status == 304

/-- A response with the body it is sent with, dropped where its status has none. -/
def ofStatus (status : Nat) (location : Option String) (body : Option ByteArray) : Response :=
  ⟨status, location, if hasNoBody status then some ByteArray.empty else body⟩

end Response

end NodeBalancer.Http
