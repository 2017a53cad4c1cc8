import Mathlib.Data.Int.CardIntervalMod
import NodeBalancer.Proofs.Agent.Registry
import NodeBalancer.Registry.Script

/-!
# Even rotation

As long as the node list stays, picks in a row take the places of the list in turn, so no place is
taken more often than another by more than one pick.  The cursor is a 64-bit word, though, and where
it wraps around, the rotation jumps unless the length of the list divides the number of words.  A
window across the wrap is then two windows without one, and two places can come apart by two picks.

* `count_mod_le`: how often a window of consecutive numbers meets two remainders.
* `Registry.picks_eq_places`: which nodes a number of picks in a row gives.
* `Registry.picks_even`: how often they take two places of the list.
-/

namespace NodeBalancer

/-- A window of consecutive numbers meets any two remainders equally often, up to one. -/
theorem count_mod_le {n i j : Nat} (hi : i < n) (hj : j < n) (c m : Nat) :
    Nat.count (fun k => (c + k) % n = i) m ≤ Nat.count (fun k => (c + k) % n = j) m + 1 := by
  have hn : 0 < n := Nat.zero_lt_of_lt hi
  -- The numbers before the end of the window, less those before its beginning.
  have hwindow : ∀ v < n, Nat.count (fun k => (c + k) % n = v) m + c / n +
      (if v < c % n then 1 else 0) = (c + m) / n + if v < (c + m) % n then 1 else 0 := by
    intro v hv
    have hends := Nat.count_add (· ≡ v [MOD n]) c m
    rw [Nat.count_modEq_card _ hn, Nat.count_modEq_card _ hn] at hends
    simp only [Nat.ModEq, Nat.mod_eq_of_lt hv] at hends
    omega
  have hwindow_i := hwindow i hi
  have hwindow_j := hwindow j hj
  split_ifs at hwindow_i hwindow_j <;> omega

/-- The same for a counter of 64 bits that does not wrap around in the window, or whose wrap brings
the remainders no disorder. -/
theorem count_turn_le {n i j c m : Nat} (h : c + m ≤ UInt64.size ∨ n ∣ UInt64.size) (hi : i < n)
    (hj : j < n) :
    Nat.count (fun k => (c + k) % UInt64.size % n = i) m ≤
      Nat.count (fun k => (c + k) % UInt64.size % n = j) m + 1 := by
  have hturn : ∀ k < m, (c + k) % UInt64.size % n = (c + k) % n := by
    intro k hk
    rcases h with hwrap | hdvd
    · rw [Nat.mod_eq_of_lt (show c + k < UInt64.size by omega)]
    · exact Nat.mod_mod_of_dvd _ hdvd
  have hcount : ∀ v, Nat.count (fun k => (c + k) % UInt64.size % n = v) m =
      Nat.count (fun k => (c + k) % n = v) m := by
    intro v
    exact Nat.le_antisymm (Nat.count_mono_left fun k hk hv => (hturn k hk).symm.trans hv)
      (Nat.count_mono_left fun k hk hv => (hturn k hk).trans hv)
  rw [hcount, hcount]
  exact count_mod_le hi hj c m

/-- Across the wrap, a window of at most as many numbers as there are words is two windows. -/
theorem count_turn_le_of_le {n i j c m : Nat} (hc : c ≤ UInt64.size) (hm : m ≤ UInt64.size)
    (hi : i < n) (hj : j < n) :
    Nat.count (fun k => (c + k) % UInt64.size % n = i) m ≤
      Nat.count (fun k => (c + k) % UInt64.size % n = j) m + 2 := by
  rcases Nat.le_total (c + m) UInt64.size with hwrap | hwrap
  · exact Nat.le_succ_of_le (count_turn_le (.inl hwrap) hi hj)
  · obtain ⟨before, hbefore⟩ := Nat.exists_eq_add_of_le hc
    obtain ⟨behind, rfl⟩ := Nat.exists_eq_add_of_le (show before ≤ m by omega)
    have hwrapped : ∀ k, (c + (before + k)) % UInt64.size = (0 + k) % UInt64.size := by
      intro k
      rw [← Nat.add_assoc, ← hbefore, Nat.add_mod_left, Nat.zero_add]
    have hfirst := count_turn_le (n := n) (m := before) (.inl (Nat.le_of_eq hbefore.symm)) hi hj
    have hsecond := count_turn_le (n := n) (c := 0) (m := behind) (.inl (by omega)) hi hj
    rw [Nat.count_add, Nat.count_add]
    simp only [hwrapped]
    omega

namespace Registry

/-- The place in the list that the cursor is at. -/
def place (r : Registry) : Nat :=
  r.cursor.toNat % r.rotation.length

/-- The places that so many picks in a row take. -/
def places : Nat → Registry → List Nat
  | 0, _ => []
  | m + 1, r => r.place :: places m r.advance

@[simp] theorem rotation_advance (r : Registry) : r.advance.rotation = r.rotation :=
  if_neg r.rotation_ne_nil

theorem getElem?_place (r : Registry) : r.rotation[r.place]? = some r.current :=
  List.getElem?_eq_getElem (Nat.mod_lt _ r.length_rotation_pos)

/-- **Picks in a row give the nodes at the places that they take.** -/
theorem picks_eq_places (m : Nat) (r : Registry) :
    (RegistryScript.picks m r).1.map some = (r.places m).map (r.rotation[·]?) := by
  induction m generalizing r with
  | zero => rfl
  | succ m ih =>
    have hrest := ih r.advance
    rw [rotation_advance] at hrest
    calc (RegistryScript.picks (m + 1) r).1.map some
        = some r.current :: (RegistryScript.picks m r.advance).1.map some := rfl
      _ = (r.places (m + 1)).map (r.rotation[·]?) := by
        rw [hrest, places, List.map_cons, getElem?_place]

/-- The places that picks take, by the numbers that the cursor comes past. -/
theorem places_eq_map_range (m : Nat) (r : Registry) : r.places m =
    (List.range m).map fun k => (r.cursor.toNat + k) % UInt64.size % r.rotation.length := by
  induction m generalizing r with
  | zero => rfl
  | succ m ih =>
    have hturn : ∀ k, (r.advance.cursor.toNat + k) % UInt64.size =
        (r.cursor.toNat + (k + 1)) % UInt64.size := by
      intro k
      rw [toNat_cursor_advance, Nat.mod_add_mod, Nat.add_assoc, Nat.add_comm 1 k]
    have hfirst : r.place = (r.cursor.toNat + 0) % UInt64.size % r.rotation.length := by
      rw [Nat.add_zero, Nat.mod_eq_of_lt r.cursor.toNat_lt_size, place]
    rw [places, ih, rotation_advance, hfirst, List.range_succ_eq_map, List.map_cons, List.map_map]
    simp only [hturn, Function.comp_def]

/-- How often a place is taken. -/
theorem count_places (m : Nat) (r : Registry) (i : Nat) :
    (r.places m).count i = Nat.count
      (fun k => (r.cursor.toNat + k) % UInt64.size % r.rotation.length = i) m := by
  rw [places_eq_map_range]
  induction m with
  | zero => rfl
  | succ m ih =>
    rw [List.range_succ, List.map_append, List.count_append, ih, Nat.count_succ, List.map_singleton,
      List.count_singleton]
    simp only [beq_iff_eq]

/-- **Picks in a row are even.**  They take any two places of the list equally often, up to one if
the cursor does not wrap around between them or the length of the list divides the number of words,
and up to two in any case. -/
theorem picks_even (r : Registry) (m : Nat) (hm : m ≤ UInt64.size) :
    (RegistryScript.picks m r).1.map some = (r.places m).map (r.rotation[·]?) ∧
      ∀ i < r.rotation.length, ∀ j < r.rotation.length,
        (r.cursor.toNat + m ≤ UInt64.size ∨ r.rotation.length ∣ UInt64.size →
          (r.places m).count i ≤ (r.places m).count j + 1) ∧
        (r.places m).count i ≤ (r.places m).count j + 2 := by
  refine ⟨picks_eq_places m r, fun i hi j hj => ?_⟩
  rw [count_places, count_places]
  exact ⟨fun hsteady => count_turn_le hsteady hi hj,
    count_turn_le_of_le r.cursor.toNat_lt_size.le hm hi hj⟩

/-- Three nodes and the last word that the cursor can hold. -/
def acrossWrap : Registry where
  seeds := [⟨.http, .v4 ⟨10, 0, 0, 2⟩, 8080⟩]
  seeds_ne_nil := List.cons_ne_nil _ _
  nodes := [⟨.http, .v4 ⟨10, 0, 0, 1⟩, 8080⟩, ⟨.http, .v4 ⟨10, 0, 0, 2⟩, 8080⟩,
    ⟨.http, .v4 ⟨10, 0, 0, 3⟩, 8080⟩]
  cursor := 18446744073709551615
  inFlight := false
  epoch := ⟨0⟩
  nextEligible := ⟨0⟩
  nextEligibleNanos := 0

/-- The bound is met: the last pick before the wrap and the first one behind it take one place. -/
theorem picks_even_acrossWrap :
    (RegistryScript.picks 2 acrossWrap).1 =
        [⟨.http, .v4 ⟨10, 0, 0, 1⟩, 8080⟩, ⟨.http, .v4 ⟨10, 0, 0, 1⟩, 8080⟩] ∧
      (acrossWrap.places 2).count 0 = (acrossWrap.places 2).count 1 + 2 := by
  have hplaces : acrossWrap.places 2 = [0, 0] := by decide
  obtain ⟨hpicks, heven⟩ := picks_even acrossWrap 2 (by decide)
  rw [hplaces] at hpicks heven
  refine ⟨?_, ?_⟩
  · exact List.map_injective_iff.mpr (Option.some_injective _) hpicks
  · rw [hplaces]
    exact Nat.le_antisymm (heven 0 (by decide) 1 (by decide)).2 (by decide)

end Registry

end NodeBalancer
