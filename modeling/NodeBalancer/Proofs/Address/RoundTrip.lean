import NodeBalancer.Address.Parser
import NodeBalancer.Address.Printer
import NodeBalancer.Proofs.Text.Joined
import NodeBalancer.Proofs.Text.Numeral

/-!
# Addresses that are written and read

Every way in which an address is written is read as that address.  The short form is cut at its dots
again.  The long form is cut at its colons, and a run of zero groups that was left out is put back at
the double colon: it is as long as the groups that are missing.

* `eq_of_longestZeroRun`: the run that is left out lies inside the address and consists of zeros.
* `V6.parse?_compressed`, `V6.parse?_digits`: the long form is read back, also with dots at its end.
* `Address.parse?_digits`: the two forms are told apart by the colons.
-/

namespace NodeBalancer

/-! ## The short form -/

theorem octet?_toDigits (b : UInt8) : octet? (Nat.toDigits 10 b.toNat) = some b := by
  have hshape : ∀ n < 256, (Nat.toDigits 10 n).length ≤ 3 ∧
      ((Nat.toDigits 10 n).head? ≠ some '0' ∨ (Nat.toDigits 10 n).length = 1) := by
    decide +kernel
  have hlt : b.toNat < 256 := b.toNat_lt
  rw [octet?, if_pos (hshape _ hlt), Text.natural?_toDigits (by decide) (by decide)]
  simp [hlt]

theorem exists_natural?_of_octet? {cs : List Char} {b : UInt8} (h : octet? cs = some b) :
    ∃ n, Text.natural? 10 cs = some n := by
  rw [octet?] at h
  split at h
  · cases hn : Text.natural? 10 cs with
    | none =>
      rw [hn] at h
      cases h
    | some n => exact ⟨n, rfl⟩
  · cases h

namespace V4

theorem dot_not_mem_octets (a : V4) :
    ∀ piece ∈ a.octets.map fun octet => Nat.toDigits 10 octet.toNat, '.' ∉ piece := by
  intro piece hpiece
  obtain ⟨octet, -, rfl⟩ := List.mem_map.mp hpiece
  exact Text.not_mem_toDigits (by decide) (by decide) (by decide) _

theorem parse?_digits (a : V4) : parse? a.digits = some a := by
  rw [parse?, digits, List.splitOn_intercalate '.' a.dot_not_mem_octets (by simp [octets]),
    List.map_map]
  simp [octets, octet?_toDigits]

theorem exists_octet?_of_parse? {cs : List Char} {a : V4} (h : parse? cs = some a) :
    ∀ piece ∈ cs.splitOn '.', ∃ b, octet? piece = some b := by
  intro piece hpiece
  have hmem : octet? piece ∈ (cs.splitOn '.').map octet? := List.mem_map_of_mem hpiece
  rw [parse?] at h
  split at h
  · rename_i heq
    rw [heq] at hmem
    simp only [List.mem_cons, List.not_mem_nil, or_false] at hmem
    rcases hmem with hb | hb | hb | hb <;> exact ⟨_, hb⟩
  · cases h

/-- What is neither a digit nor a dot does not stand in an address of the short form. -/
theorem not_mem_of_parse? {cs : List Char} {a : V4} (h : parse? cs = some a) {c : Char}
    (hdot : c ≠ '.') (hc : Text.digitValue? 10 c = none) : c ∉ cs := by
  refine Text.not_mem_of_splitOn hdot fun piece hpiece => ?_
  obtain ⟨b, hb⟩ := exists_octet?_of_parse? h piece hpiece
  obtain ⟨n, hn⟩ := exists_natural?_of_octet? hb
  exact Text.not_mem_of_natural? hn hc

theorem groups_ofGroups (high low : UInt16) : (ofGroups high low).groups = [high, low] := by
  have hgroup : ∀ g : UInt16, UInt16.ofNat ((UInt8.ofNat (g.toNat / 256)).toNat * 256 +
      (UInt8.ofNat (g.toNat % 256)).toNat) = g := by
    intro g
    have hlt : g.toNat < 65536 := g.toNat_lt
    have hhigh : (UInt8.ofNat (g.toNat / 256)).toNat = g.toNat / 256 :=
      UInt8.toNat_ofNat_of_lt' (by simp [UInt8.size]; omega)
    have hlow : (UInt8.ofNat (g.toNat % 256)).toNat = g.toNat % 256 :=
      UInt8.toNat_ofNat_of_lt' (by simp [UInt8.size]; omega)
    rw [hhigh, hlow, Nat.div_add_mod', UInt16.ofNat_toNat]
  rw [groups, ofGroups, hgroup, hgroup]

end V4

/-! ## Groups between colons -/

theorem group?_toDigits (g : UInt16) : group? (Nat.toDigits 16 g.toNat) = some g := by
  have hlength : (Nat.toDigits 16 g.toNat).length ≤ 4 :=
    (Nat.length_toDigits_le_iff (by decide) (by decide)).mpr g.toNat_lt
  rw [group?, if_pos hlength, Text.natural?_toDigits (by decide) (by decide), Option.map_some,
    UInt16.ofNat_toNat]

theorem group?_eq_none_of_mem {cs : List Char} {c : Char} (h : c ∈ cs)
    (hc : Text.digitValue? 16 c = none) : group? cs = none := by
  rw [group?]
  split
  · cases hn : Text.natural? 16 cs with
    | none => rfl
    | some n => exact absurd h (Text.not_mem_of_natural? hn hc)
  · rfl

theorem groups?_map (dotted : Bool) (gs : List UInt16) :
    groups? dotted (gs.map fun g => Nat.toDigits 16 g.toNat) = some gs := by
  induction gs with
  | nil => rfl
  | cons g gs ih =>
    rw [List.map_cons, groups?, group?_toDigits, ih]
    rfl

theorem colon_not_mem_groups (gs : List UInt16) :
    ∀ piece ∈ gs.map fun g => Nat.toDigits 16 g.toNat, ':' ∉ piece := by
  intro piece hpiece
  obtain ⟨g, -, rfl⟩ := List.mem_map.mp hpiece
  exact Text.not_mem_toDigits (by decide) (by decide) (by decide) _

theorem splitOn_joinGroups {gs : List UInt16} (h : gs ≠ []) :
    (joinGroups gs).splitOn ':' = gs.map fun g => Nat.toDigits 16 g.toNat :=
  List.splitOn_intercalate ':' (colon_not_mem_groups gs) (by simpa using h)

theorem joinGroups_singleton (g : UInt16) : joinGroups [g] = Nat.toDigits 16 g.toNat :=
  List.intercalate_singleton

theorem joinGroups_cons_cons (g g' : UInt16) (gs : List UInt16) :
    joinGroups (g :: g' :: gs) = Nat.toDigits 16 g.toNat ++ ':' :: joinGroups (g' :: gs) := by
  rw [joinGroups, List.map_cons, List.map_cons, List.intercalate_cons_cons, List.append_assoc]
  rfl

/-- Groups begin with a digit. -/
theorem exists_joinGroups_cons (g : UInt16) (gs : List UInt16) :
    ∃ c rest, joinGroups (g :: gs) = c :: rest ∧ c ≠ ':' := by
  obtain ⟨c, rest, hdigits⟩ := List.exists_cons_of_ne_nil (Nat.toDigits_ne_nil (b := 16) (n := g.toNat))
  have hc : c ≠ ':' := by
    rintro rfl
    refine colon_not_mem_groups [g] (Nat.toDigits 16 g.toNat) List.mem_cons_self ?_
    rw [hdigits]
    exact List.mem_cons_self
  cases gs with
  | nil => exact ⟨c, rest, (joinGroups_singleton g).trans hdigits, hc⟩
  | cons g' gs =>
    refine ⟨c, rest ++ ':' :: joinGroups (g' :: gs), ?_, hc⟩
    rw [joinGroups_cons_cons, hdigits, List.cons_append]

theorem side?_joinGroups (dotted : Bool) (gs : List UInt16) :
    side? dotted (joinGroups gs) = some gs := by
  cases gs with
  | nil => rfl
  | cons g gs =>
    obtain ⟨c, rest, hcons, -⟩ := exists_joinGroups_cons g gs
    have hne : (joinGroups (g :: gs)).isEmpty ≠ true := by
      rw [hcons]
      exact Bool.false_ne_true
    rw [side?, if_neg hne, splitOn_joinGroups (List.cons_ne_nil g gs), groups?_map]

/-- Characters before the first colon stand before the double colon. -/
theorem halves?_append {cs : List Char} (h : ':' ∉ cs) (rest : List Char) :
    halves? (cs ++ rest) = (halves? rest).map fun (before, behind) => (cs ++ before, behind) := by
  induction cs with
  | nil =>
    rw [List.nil_append]
    cases halves? rest <;> rfl
  | cons c cs ih =>
    have hc : c ≠ ':' := fun he => h (he ▸ List.mem_cons_self)
    rw [List.cons_append, halves?, ih fun hmem => h (List.mem_cons_of_mem _ hmem), Option.map_map]
    · rfl
    · rintro cs' rfl
      exact absurd rfl hc

theorem halves?_colon_cons {c : Char} (hc : c ≠ ':') (rest : List Char) :
    halves? (':' :: c :: rest) =
      (halves? (c :: rest)).map fun (before, behind) => (':' :: before, behind) := by
  rw [halves?]
  rintro cs' - he
  exact hc (List.cons.inj he).1

/-- Groups hold no double colon, so the first one is behind them. -/
theorem halves?_joinGroups_append (gs : List UInt16) (rest : List Char) :
    halves? (joinGroups gs ++ rest) =
      (halves? rest).map fun (before, behind) => (joinGroups gs ++ before, behind) := by
  induction gs with
  | nil =>
    show halves? rest = _
    cases halves? rest <;> rfl
  | cons g gs ih =>
    have hdigits : ':' ∉ Nat.toDigits 16 g.toNat :=
      colon_not_mem_groups [g] _ List.mem_cons_self
    cases gs with
    | nil =>
      rw [joinGroups_singleton]
      exact halves?_append hdigits rest
    | cons g' gs =>
      obtain ⟨c, tail, hcons, hc⟩ := exists_joinGroups_cons g' gs
      rw [joinGroups_cons_cons, List.append_assoc, halves?_append hdigits, List.cons_append]
      rw [hcons, List.cons_append] at ih ⊢
      rw [halves?_colon_cons hc, ih]
      cases halves? rest with
      | none => rfl
      | some halves => simp

/-! ## The run that is left out -/

theorem take_leadingZeros (gs : List UInt16) :
    gs.take (leadingZeros gs) = List.replicate (leadingZeros gs) 0 := by
  induction gs with
  | nil => rfl
  | cons g gs ih =>
    rw [leadingZeros]
    split
    · rename_i hg
      rw [List.take_succ_cons, ih, hg, List.replicate_succ]
    · rfl

/-- What is left out is a run of zeros inside the groups. -/
theorem eq_of_longestZeroRun {gs : List UInt16} {start length : Nat}
    (h : longestZeroRun gs = (start, length)) :
    gs = gs.take start ++ List.replicate length 0 ++ gs.drop (start + length) := by
  induction gs generalizing start length with
  | nil =>
    cases h
    rfl
  | cons g gs ih =>
    cases hrun : longestZeroRun gs with
    | mk start' length' =>
      rw [longestZeroRun, hrun] at h
      simp only at h
      split at h
      · cases h
        rw [List.take_zero, List.nil_append, Nat.zero_add, ← take_leadingZeros,
          List.take_append_drop]
      · cases h
        have htail := ih hrun
        rw [List.take_succ_cons, Nat.add_right_comm, List.drop_succ_cons, List.cons_append,
          List.cons_append, ← htail]

/-! ## The long form -/

namespace V6

theorem ofGroups?_groups (a : V6) : ofGroups? a.groups = some a :=
  dif_pos a.length_groups

/-- Two texts with a double colon between them are the two sides of the groups that they write. -/
theorem parse?_of_halves? {cs before behind : List Char} (h : halves? cs = some (before, behind))
    {front back : List UInt16} (hfront : side? false before = some front)
    (hback : side? true behind = some back) {missing : Nat} (hmissing : 0 < missing) {a : V6}
    (ha : a.groups = front ++ List.replicate missing 0 ++ back) : parse? cs = some a := by
  have hlength : front.length + missing + back.length = 8 := by
    rw [← a.length_groups, ha, List.length_append, List.length_append, List.length_replicate]
  have hcount : 8 - (front.length + back.length) = missing := by omega
  simp only [parse?, h, hfront, hback, hcount, if_pos hmissing, ← ha]
  exact a.ofGroups?_groups

theorem parse?_joinGroups (a : V6) : parse? (joinGroups a.groups) = some a := by
  have hnone : halves? (joinGroups a.groups) = none := by
    have h := halves?_joinGroups_append a.groups []
    rwa [List.append_nil] at h
  have hne : a.groups ≠ [] := by
    intro hnil
    have hlength := a.length_groups
    rw [hnil] at hlength
    cases hlength
  simp only [parse?, hnone]
  rw [splitOn_joinGroups hne, groups?_map, Option.bind_some, a.ofGroups?_groups]

theorem parse?_compressed (a : V6) : parse? a.compressed = some a := by
  cases hrun : longestZeroRun a.groups with
  | mk start length =>
    simp only [compressed, hrun]
    split
    · rename_i hlength
      have hhalves := halves?_joinGroups_append (a.groups.take start)
        ([':', ':'] ++ joinGroups (a.groups.drop (start + length)))
      rw [← List.append_assoc] at hhalves
      refine parse?_of_halves? (hhalves.trans ?_) (side?_joinGroups false _)
        (side?_joinGroups true _) (by omega) (eq_of_longestZeroRun hrun)
      show some (joinGroups (a.groups.take start) ++ [], _) = _
      rw [List.append_nil]
      rfl
    · exact a.parse?_joinGroups

/-- The groups of an address that embeds one of the short form. -/
theorem groups_of_mapped? {a : V6} {embedded : V4} (h : a.mapped? = some embedded) :
    a.groups = List.replicate 5 0 ++ 0xffff :: embedded.groups := by
  rw [mapped?] at h
  split at h
  · rename_i htake
    split at h
    · rename_i high low hdrop
      cases h
      rw [← List.take_append_drop 6 a.groups, htake, hdrop, V4.groups_ofGroups]
      rfl
    · cases h
  · cases h

theorem groups?_mapped (embedded : V4) :
    groups? true [['f', 'f', 'f', 'f'], embedded.digits] = some (0xffff :: embedded.groups) := by
  have hdot : '.' ∈ embedded.digits := by
    rw [V4.digits, V4.octets, List.map_cons, List.map_cons, List.intercalate_cons_cons]
    simp
  have hgroup : group? ['f', 'f', 'f', 'f'] = some 0xffff := by decide
  rw [groups?, hgroup, groups?, group?_eq_none_of_mem hdot (by decide)]
  simp [embedded.parse?_digits]

theorem parse?_mapped {a : V6} {embedded : V4} (h : a.mapped? = some embedded) :
    parse? ([':', ':', 'f', 'f', 'f', 'f', ':'] ++ embedded.digits) = some a := by
  have hcolon : ':' ∉ embedded.digits :=
    V4.not_mem_of_parse? embedded.parse?_digits (by decide) (by decide)
  have hsplit : (['f', 'f', 'f', 'f'] ++ ':' :: embedded.digits).splitOn ':' =
      [['f', 'f', 'f', 'f'], embedded.digits] := by
    rw [List.splitOn_append_cons_self_of_not_mem (by decide), List.splitOn_eq_singleton hcolon]
  have hside : side? true (['f', 'f', 'f', 'f'] ++ ':' :: embedded.digits) =
      some (0xffff :: embedded.groups) := by
    rw [side?, if_neg (by simp), hsplit, groups?_mapped]
  exact parse?_of_halves? rfl rfl hside (Nat.succ_pos 4) (groups_of_mapped? h)

theorem parse?_digits (a : V6) : parse? a.digits = some a := by
  cases h : a.mapped? with
  | none => simpa only [digits, h] using a.parse?_compressed
  | some embedded => simpa only [digits, h] using parse?_mapped h

/-! ### What stands in the long form -/

theorem eq_of_halves? {cs before behind : List Char} (h : halves? cs = some (before, behind)) :
    cs = before ++ ':' :: ':' :: behind := by
  fun_induction halves? cs generalizing before with
  | case1 cs =>
    cases h
    rfl
  | case2 c cs _ ih =>
    obtain ⟨⟨before', behind'⟩, hrest, heq⟩ := Option.map_eq_some_iff.mp h
    cases heq
    rw [List.cons_append, ← ih hrest]
  | case3 => cases h

section Characters

variable {c : Char} (hdot : c ≠ '.') (hc : Text.digitValue? 16 c = none)
include hdot hc

theorem not_mem_of_groups? {dotted : Bool} {pieces : List (List Char)} {gs : List UInt16}
    (h : groups? dotted pieces = some gs) : ∀ piece ∈ pieces, c ∉ piece := by
  induction pieces generalizing gs with
  | nil => exact nofun
  | cons piece pieces ih =>
    have hpiece : c ∉ piece ∧ ∃ gs', pieces = [] ∨ groups? dotted pieces = some gs' := by
      rw [groups?] at h
      cases hgroup : group? piece with
      | some g =>
        rw [hgroup] at h
        obtain ⟨gs', hgs', -⟩ := Option.map_eq_some_iff.mp h
        refine ⟨fun hmem => ?_, gs', .inr hgs'⟩
        rw [group?_eq_none_of_mem hmem hc] at hgroup
        cases hgroup
      | none =>
        rw [hgroup] at h
        simp only [Option.ite_none_right_eq_some, Bool.and_eq_true, List.isEmpty_iff] at h
        obtain ⟨⟨-, hnil⟩, hshort⟩ := h
        obtain ⟨short, hshort, -⟩ := Option.map_eq_some_iff.mp hshort
        exact ⟨V4.not_mem_of_parse? hshort hdot (Text.digitValue?_ten_of_sixteen hc), [], .inl hnil⟩
    obtain ⟨hfirst, gs', hrest⟩ := hpiece
    intro other hother
    rcases List.mem_cons.mp hother with rfl | hother
    · exact hfirst
    · rcases hrest with rfl | hrest
      · cases hother
      · exact ih hrest other hother

theorem not_mem_of_side? (hcolon : c ≠ ':') {dotted : Bool} {cs : List Char} {gs : List UInt16}
    (h : side? dotted cs = some gs) : c ∉ cs := by
  rw [side?] at h
  split at h
  · rename_i hnil
    rw [List.isEmpty_iff.mp hnil]
    exact List.not_mem_nil
  · exact Text.not_mem_of_splitOn hcolon (not_mem_of_groups? hdot hc h)

/-- What is neither a digit nor a separator does not stand in an address of the long form. -/
theorem not_mem_of_parse? (hcolon : c ≠ ':') {cs : List Char} {a : V6} (h : parse? cs = some a) :
    c ∉ cs := by
  rw [parse?] at h
  cases hhalves : halves? cs with
  | none =>
    rw [hhalves] at h
    obtain ⟨gs, hgs, -⟩ := Option.bind_eq_some_iff.mp h
    exact Text.not_mem_of_splitOn hcolon (not_mem_of_groups? hdot hc hgs)
  | some halves =>
    obtain ⟨before, behind⟩ := halves
    rw [hhalves] at h
    simp only at h
    split at h
    · rename_i hfront hback
      rw [eq_of_halves? hhalves]
      simp only [List.mem_append, List.mem_cons, hcolon, false_or, not_or]
      exact ⟨not_mem_of_side? hdot hc hcolon hfront, not_mem_of_side? hdot hc hcolon hback⟩
    · cases h

end Characters

/-- An address of the long form holds a colon: without one there are at most two groups. -/
theorem colon_mem_of_parse? {cs : List Char} {a : V6} (h : parse? cs = some a) : ':' ∈ cs := by
  refine Decidable.byContradiction fun hcolon => ?_
  have hhalves : halves? cs = none := by
    have happend := halves?_append hcolon []
    rwa [List.append_nil] at happend
  simp only [parse?, hhalves, List.splitOn_eq_singleton hcolon] at h
  cases hgroup : group? cs with
  | some g =>
    rw [groups?, hgroup] at h
    cases h
  | none =>
    rw [groups?, hgroup] at h
    cases hshort : V4.parse? cs with
    | some short =>
      rw [hshort] at h
      cases h
    | none =>
      rw [hshort] at h
      cases h

end V6

/-- **An address that is written is read as itself.** -/
theorem Address.parse?_digits (a : Address) : Address.parse? a.digits = some a := by
  cases a with
  | v4 a => rw [parse?, digits, a.parse?_digits]
  | v6 a =>
    have hshort : V4.parse? a.digits = none := by
      rw [Option.eq_none_iff_forall_ne_some]
      intro short hshort
      exact V4.not_mem_of_parse? hshort (by decide) (by decide)
        (V6.colon_mem_of_parse? a.parse?_digits)
    rw [parse?, digits, hshort, a.parse?_digits]
    rfl

end NodeBalancer
