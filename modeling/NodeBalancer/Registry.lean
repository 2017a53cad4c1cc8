import NodeBalancer.Endpoint
import NodeBalancer.Time

/-!
# The registry of nodes

A registry holds the current node list and a cursor that walks over it round robin.  The cursor is a
64-bit word that wraps around, and it keeps its value when the list is replaced.  Beside the list
stand the mark of a refresh in flight and the time before which no scheduled refresh may begin.
That time is kept twice: exactly, and as nanoseconds since the registry was made, capped at a 64-bit
word, for a check that needs no lock.
-/

namespace NodeBalancer

structure Registry where
  seeds : List Endpoint
  seeds_ne_nil : seeds ≠ []
  nodes : List Endpoint
  cursor : UInt64
  inFlight : Bool
  epoch : Instant
  nextEligible : Instant
  nextEligibleNanos : Nat

namespace Registry

/-- A registry over the given seeds, made at the given time. -/
def ofSeeds (seeds : List Endpoint) (epoch : Instant) : Except Error Registry :=
  if h : seeds = [] then .error .emptyNodeSet
  else .ok {
    seeds := seeds
    seeds_ne_nil := h
    nodes := seeds
    cursor := 0
    inFlight := false
    epoch := epoch
    nextEligible := epoch
    nextEligibleNanos := 0 }

/-- The list that picks are made from: the node list, or the seeds should it be empty. -/
def rotation (r : Registry) : List Endpoint :=
  if r.nodes = [] then r.seeds else r.nodes

theorem rotation_ne_nil (r : Registry) : r.rotation ≠ [] := by
  unfold rotation
  split
  · exact r.seeds_ne_nil
  · assumption

theorem length_rotation_pos (r : Registry) : 0 < r.rotation.length :=
  List.length_pos_iff.mpr r.rotation_ne_nil

/-- The endpoint under the cursor. -/
def current (r : Registry) : Endpoint :=
  r.rotation.get ⟨r.cursor.toNat % r.rotation.length, Nat.mod_lt _ r.length_rotation_pos⟩

/-- Moves the cursor on by one. -/
def advance (r : Registry) : Registry :=
  { r with nodes := r.rotation, cursor := r.cursor + 1 }

/-- Picks the endpoint under the cursor and moves the cursor on. -/
def next (r : Registry) : Endpoint × Registry :=
  (r.current, r.advance)

/-- Installs a node list and says whether it did: an empty one is ignored. -/
def replace (r : Registry) (nodes : List Endpoint) : Bool × Registry :=
  if nodes = [] then (false, r) else (true, { r with nodes := nodes })

/-- Whether a scheduled refresh may be due, judged by the capped time alone. -/
def mayBeDue (r : Registry) (now : Instant) : Bool :=
  !r.inFlight && decide (r.nextEligibleNanos ≤ now.sinceCapped r.epoch)

/-- Whether a refresh may begin now.  A forced one does not respect the schedule. -/
def admits (r : Registry) (now : Instant) (respectSchedule : Bool) : Bool :=
  !r.inFlight && !(respectSchedule && decide (now.nanos < r.nextEligible.nanos))

/-- Marks a refresh as in flight and says whether it did. -/
def tryBegin (r : Registry) (now : Instant) (respectSchedule : Bool) : Bool × Registry :=
  if r.admits now respectSchedule then (true, { r with inFlight := true }) else (false, r)

/-- Ends the refresh in flight; the next scheduled one may begin at the given time. -/
def finish (r : Registry) (nextEligible : Instant) : Registry :=
  { r with
    inFlight := false
    nextEligible := nextEligible
    nextEligibleNanos := nextEligible.sinceCapped r.epoch }

def describe (r : Registry) : String :=
  Text.openRecord "NodeRegistry"
    [Text.field "nodes" (Text.showList (r.nodes.map Endpoint.describe)),
      Text.field "cursor" (toString r.cursor.toNat),
      Text.field "in_flight" (Text.showBool r.inFlight)]

end Registry

end NodeBalancer
