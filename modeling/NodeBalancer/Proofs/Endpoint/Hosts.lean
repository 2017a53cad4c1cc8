import NodeBalancer.Endpoint
import NodeBalancer.Proofs.Address.Grammar

/-!
# Hosts

A host is an address in any way the grammar allows, as it is or inside one pair of brackets.  An
endpoint is made of every host and every port from 1 to 65535, and of nothing else; what is wrong
with the others is told, and the host is looked at first.

* `Endpoint.hostAddress?_eq_some_iff`: the address that a host names.
* `Endpoint.ofHost_accepts`: what becomes of every host and every port.
-/

namespace NodeBalancer.Endpoint

/-- The address that a host names, as it is or inside one pair of brackets. -/
inductive HostNames : List Char → Address → Prop
  | bare {cs : List Char} {a : Address} (h : Address.Written cs a) : HostNames cs a
  | bracketed {cs : List Char} {a : Address} (h : Address.Written cs a) :
      HostNames ('[' :: (cs ++ [']'])) a

theorem unbracket_bracketed (cs : List Char) : unbracket ('[' :: (cs ++ [']'])) = cs := by
  rw [unbracket, if_pos List.getLast?_concat, List.dropLast_concat]

/-- A text without both brackets is left as it is. -/
theorem eq_bracketed_or_unbracket_eq_self (cs : List Char) :
    (∃ inner, cs = '[' :: (inner ++ [']'])) ∨ unbracket cs = cs := by
  unfold unbracket
  split
  · rename_i inner
    split
    · rename_i hlast
      obtain ⟨front, rfl⟩ := List.getLast?_eq_some_iff.mp hlast
      exact .inl ⟨front, rfl⟩
    · exact .inr rfl
  · exact .inr rfl

/-- An address does not begin with a bracket. -/
theorem unbracket_of_written {cs : List Char} {a : Address} (h : Address.Written cs a) :
    unbracket cs = cs := by
  rcases eq_bracketed_or_unbracket_eq_self cs with ⟨inner, rfl⟩ | hself
  · rcases h.mem_characters List.mem_cons_self with hdot | hcolon | ⟨value, hvalue⟩
    · cases hdot
    · cases hcolon
    · have hnone : Text.digitValue? 16 '[' = none := by decide
      rw [(Text.digitValue?_eq_some_iff (by decide)).mpr hvalue] at hnone
      cases hnone
  · exact hself

theorem hostAddress?_eq_some_iff {host : String} {a : Address} :
    hostAddress? host = some a ↔ HostNames host.toList a := by
  rw [hostAddress?, Address.parse?_eq_some_iff]
  constructor
  · intro h
    rcases eq_bracketed_or_unbracket_eq_self host.toList with ⟨inner, hhost⟩ | hself
    · rw [hhost, unbracket_bracketed] at h
      rw [hhost]
      exact .bracketed h
    · rw [hself] at h
      exact .bare h
  · intro h
    generalize host.toList = cs at h ⊢
    cases h with
    | bare h => rwa [unbracket_of_written h]
    | bracketed h => rwa [unbracket_bracketed]

theorem hostAddress?_eq_none_iff {host : String} :
    hostAddress? host = none ↔ ¬ ∃ a, HostNames host.toList a := by
  rw [Option.eq_none_iff_forall_ne_some, not_exists]
  exact forall_congr' fun a => not_congr hostAddress?_eq_some_iff

theorem ofHost_of_address {host : String} {a : Address} (h : HostNames host.toList a)
    (scheme : Scheme) (port : Nat) :
    ofHost scheme host port = if 0 < port ∧ port < 65536 then .ok ⟨scheme, a, UInt16.ofNat port⟩
      else .error (.invalidPort port) := by
  rw [ofHost, hostAddress?_eq_some_iff.mpr h]

theorem ofHost_of_no_address {host : String} (h : ¬ ∃ a, HostNames host.toList a)
    (scheme : Scheme) (port : Nat) :
    ofHost scheme host port = .error (.invalidAddress host) := by
  rw [ofHost, hostAddress?_eq_none_iff.mpr h]

theorem ofHost_eq_ok_iff {scheme : Scheme} {host : String} {port : Nat} {e : Endpoint} :
    ofHost scheme host port = .ok e ↔ (1 ≤ port ∧ port ≤ 65535) ∧
      HostNames host.toList e.address ∧ e.scheme = scheme ∧ e.port.toNat = port := by
  constructor
  · intro h
    by_cases ha : ∃ a, HostNames host.toList a
    · obtain ⟨a, ha⟩ := ha
      rw [ofHost_of_address ha] at h
      split at h
      · rename_i hport
        cases h
        exact ⟨by omega, ha, rfl, UInt16.toNat_ofNat_of_lt' hport.2⟩
      · cases h
    · rw [ofHost_of_no_address ha] at h
      cases h
  · rintro ⟨hport, ha, rfl, rfl⟩
    rw [ofHost_of_address ha, if_pos (by omega), UInt16.ofNat_toNat]

/-- **An endpoint is made of every good host with every good port**, and it holds the address that
the host names; a bad host is reported whatever the port, a bad port of a good host only. -/
theorem ofHost_accepts (scheme : Scheme) (host : String) (port : Nat) :
    (∀ e, ofHost scheme host port = .ok e ↔ (1 ≤ port ∧ port ≤ 65535) ∧
        HostNames host.toList e.address ∧ e.scheme = scheme ∧ e.port.toNat = port) ∧
      ((∃ e, ofHost scheme host port = .ok e) ↔
        (1 ≤ port ∧ port ≤ 65535) ∧ ∃ a, HostNames host.toList a) ∧
      (ofHost scheme host port = .error (.invalidAddress host) ↔
        ¬ ∃ a, HostNames host.toList a) ∧
      (ofHost scheme host port = .error (.invalidPort port) ↔
        (∃ a, HostNames host.toList a) ∧ ¬ (1 ≤ port ∧ port ≤ 65535)) := by
  refine ⟨fun e => ofHost_eq_ok_iff, ?_⟩
  by_cases ha : ∃ a, HostNames host.toList a
  · obtain ⟨a, ha⟩ := ha
    rw [ofHost_of_address ha]
    by_cases hport : 0 < port ∧ port < 65536
    · rw [if_pos hport]
      have hgood : 1 ≤ port ∧ port ≤ 65535 := by omega
      exact ⟨iff_of_true ⟨_, rfl⟩ ⟨hgood, a, ha⟩, iff_of_false nofun (not_not_intro ⟨a, ha⟩),
        iff_of_false nofun fun h => h.2 hgood⟩
    · rw [if_neg hport]
      have hbad : ¬ (1 ≤ port ∧ port ≤ 65535) := by omega
      exact ⟨iff_of_false (fun ⟨_, h⟩ => nomatch h) fun h => hbad h.1,
        iff_of_false nofun (not_not_intro ⟨a, ha⟩), iff_of_true rfl ⟨⟨a, ha⟩, hbad⟩⟩
  · rw [ofHost_of_no_address ha]
    exact ⟨iff_of_false (fun ⟨_, h⟩ => nomatch h) fun h => ha h.2, iff_of_true rfl ha,
      iff_of_false nofun fun h => ha h.1⟩

end NodeBalancer.Endpoint
