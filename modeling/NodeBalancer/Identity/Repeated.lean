/-!
# Repeated operations

An associative operation is repeated by doubling: as many steps as the number of times has binary
digits.
-/

namespace NodeBalancer.Identity

/-- `n` times the element `x` under an operation with the given neutral element. -/
def repeated {α : Type} (op : α → α → α) (neutral x : α) (n : Nat) : α :=
  if n = 0 then neutral
  else
    let half := repeated op neutral x (n / 2)
    let even := op half half
    if n % 2 = 0 then even else op even x
termination_by n
decreasing_by omega

/-- A power modulo `m`. -/
def powerMod (m x : Int) (n : Nat) : Int :=
  repeated (fun a b => a * b % m) 1 x n

/-- The inverse modulo a prime, which is the power two below it; zero for zero. -/
def inverseMod (p : Nat) (x : Int) : Int :=
  powerMod p x (p - 2)

end NodeBalancer.Identity
