import NodeBalancer.Config
import NodeBalancer.Files
import NodeBalancer.Identity.KeyPair

/-!
# Connection pools

There is one pool for each endpoint that has been asked for.  A pool to an https endpoint needs the
client identity, if one is configured; its files are read when the pool is made.
-/

namespace NodeBalancer

namespace ClientIdentity

def read (files : Files) (path : String) : Except Error String :=
  match files path with
  | .ok text => .ok text
  | .error error => .error (.poolFailure ("failed to read " ++ path ++ ": " ++ error.message))

/-- Reads the certificate, then the key; together they must be usable. -/
def load (files : Files) (identity : ClientIdentity) : Except Error Unit :=
  match read files identity.certificate with
  | .error error => .error error
  | .ok certificate =>
    match read files identity.key with
    | .error error => .error error
    | .ok key =>
      if Identity.isUsable (certificate.toList ++ '\n' :: key.toList) then .ok ()
      else .error (.poolFailure "builder error")

end ClientIdentity

/-- A pool is known by the number of pools made before it. -/
structure ConnectionPool where
  id : Nat
  endpoint : Endpoint
deriving DecidableEq

structure ConnectionPools where
  identity : Option ClientIdentity
  pools : List ConnectionPool

namespace ConnectionPools

def ofConfig (c : Config) : ConnectionPools :=
  ⟨c.clientIdentity, []⟩

def size (p : ConnectionPools) : Nat :=
  p.pools.length

def isEmpty (p : ConnectionPools) : Bool :=
  p.pools.isEmpty

def find? (p : ConnectionPools) (e : Endpoint) : Option ConnectionPool :=
  p.pools.find? (·.endpoint = e)

/-- Whether connections to an endpoint can be made at all. -/
def check (files : Files) (p : ConnectionPools) (e : Endpoint) : Except Error Unit :=
  match e.scheme, p.identity with
  | .https, some identity => identity.load files
  | _, _ => .ok ()

/-- The pool for an endpoint, made if there is none yet.  A failure leaves the pools as they are. -/
def poolFor (files : Files) (p : ConnectionPools) (e : Endpoint) :
    Except Error ConnectionPool × ConnectionPools :=
  match p.find? e with
  | some pool => (.ok pool, p)
  | none =>
    match p.check files e with
    | .error error => (.error error, p)
    | .ok () =>
      let pool : ConnectionPool := ⟨p.pools.length, e⟩
      (.ok pool, { p with pools := p.pools ++ [pool] })

end ConnectionPools

end NodeBalancer
