import NodeBalancer.Proofs.Address.RoundTrip
import NodeBalancer.Proofs.Text.Digits

/-!
# The grammar of addresses

An address of the short form is written as four decimal numbers joined by dots.  One of the long form
is written as groups of hexadecimal digits joined by colons: all eight of them, or fewer around one
double colon that stands for the zero groups that are missing, at least one.  Its last two groups may
be written as an address of the short form.  The grammar says so by itself, text by text; the reader
of addresses reads the texts of the grammar and no others.

* `V4.parse?_eq_some_iff`, `V6.parse?_eq_some_iff`: the two forms.
* `Address.parse?_eq_some_iff`: a text is read as an address if the grammar gives it that address.
* `Address.Written.mem_characters`: digits, dots and colons are all that stands in an address.
-/

namespace NodeBalancer

/-! ## The grammar -/

/-- A decimal number below 256 without a zero in front. -/
structure OctetText (cs : List Char) (b : UInt8) : Prop where
  digits : Text.Digits 10 cs b.toNat
  lead : cs.head? = some '0' → cs = ['0']

/-- Four decimal numbers joined by dots. -/
inductive V4.Written : List Char → V4 → Prop
  | dotted {p q r s : List Char} {a b c d : UInt8} (hp : OctetText p a) (hq : OctetText q b)
      (hr : OctetText r c) (hs : OctetText s d) :
      Written (p ++ '.' :: (q ++ '.' :: (r ++ '.' :: s))) ⟨a, b, c, d⟩

/-- One to four hexadecimal digits. -/
structure GroupText (cs : List Char) (g : UInt16) : Prop where
  digits : Text.Digits 16 cs g.toNat
  length_le : cs.length ≤ 4

namespace V6

/-- Groups joined by colons, at least one; where `dotted` allows it, the last two of them may be
written as an address of the short form. -/
inductive GroupsText (dotted : Bool) : List Char → List UInt16 → Prop
  | group {cs : List Char} {g : UInt16} (h : GroupText cs g) : GroupsText dotted cs [g]
  | short {cs : List Char} {a : V4} (hdotted : dotted = true) (h : V4.Written cs a) :
      GroupsText dotted cs a.groups
  | cons {cs : List Char} {g : UInt16} (h : GroupText cs g) {rest : List Char} {gs : List UInt16}
      (hrest : GroupsText dotted rest gs) : GroupsText dotted (cs ++ ':' :: rest) (g :: gs)

/-- What stands on one side of a double colon: groups, or nothing at all. -/
inductive SideText (dotted : Bool) : List Char → List UInt16 → Prop
  | nothing : SideText dotted [] []
  | groups {cs : List Char} {gs : List UInt16} (h : GroupsText dotted cs gs) :
      SideText dotted cs gs

/-- Eight groups, or fewer around a double colon that stands for the others, which are zero. -/
inductive Written : List Char → V6 → Prop
  | whole {cs : List Char} {a : V6} (h : GroupsText true cs a.groups) : Written cs a
  | shortened {before behind : List Char} {front back : List UInt16} {zeros : Nat} {a : V6}
      (hfront : SideText false before front) (hback : SideText true behind back)
      (hzeros : 0 < zeros) (ha : a.groups = front ++ List.replicate zeros 0 ++ back) :
      Written (before ++ ':' :: ':' :: behind) a

end V6

inductive Address.Written : List Char → Address → Prop
  | short {cs : List Char} {a : V4} (h : V4.Written cs a) : Written cs (.v4 a)
  | long {cs : List Char} {a : V6} (h : V6.Written cs a) : Written cs (.v6 a)

/-! ## The short form -/

theorem octet?_eq_some_iff {cs : List Char} {b : UInt8} :
    octet? cs = some b ↔ OctetText cs b := by
  constructor
  · intro h
    rw [octet?] at h
    split at h
    · rename_i hshape
      split at h
      · rename_i n hn
        split at h
        · rename_i hlt
          cases h
          have hb : (UInt8.ofNat n).toNat = n := UInt8.toNat_ofNat_of_lt' hlt
          refine ⟨?_, fun hhead => ?_⟩
          · rw [hb]
            exact (Text.natural?_eq_some_iff (by decide)).mp hn
          · rcases hshape.2 with hne | hlength
            · exact absurd hhead hne
            · obtain ⟨c, rfl⟩ := List.length_eq_one_iff.mp hlength
              cases hhead
              rfl
        · cases h
      · cases h
    · cases h
  · intro h
    rw [h.digits.eq_toDigits h.lead]
    exact octet?_toDigits b

theorem OctetText.dot_not_mem {cs : List Char} {b : UInt8} (h : OctetText cs b) : '.' ∉ cs :=
  h.digits.not_mem (by decide) (by decide)

namespace V4

theorem parse?_eq_some_iff {cs : List Char} {a : V4} : parse? cs = some a ↔ Written cs a := by
  constructor
  · intro h
    have hjoined : ['.'].intercalate (cs.splitOn '.') = cs := List.intercalate_splitOn '.'
    rw [parse?] at h
    split at h
    · rename_i a b c d heq
      cases h
      obtain ⟨p, ps, hps, hp, heq⟩ := List.map_eq_cons_iff.mp heq
      obtain ⟨q, qs, rfl, hq, heq⟩ := List.map_eq_cons_iff.mp heq
      obtain ⟨r, rs, rfl, hr, heq⟩ := List.map_eq_cons_iff.mp heq
      obtain ⟨s, ss, rfl, hs, heq⟩ := List.map_eq_cons_iff.mp heq
      rw [List.map_eq_nil_iff.mp heq] at hps
      rw [← hjoined, hps]
      rw [octet?_eq_some_iff] at hp hq hr hs
      simpa [List.intercalate_cons_cons] using Written.dotted hp hq hr hs
    · cases h
  · rintro ⟨hp, hq, hr, hs⟩
    rw [parse?, List.splitOn_append_cons_self_of_not_mem hp.dot_not_mem,
      List.splitOn_append_cons_self_of_not_mem hq.dot_not_mem,
      List.splitOn_append_cons_self_of_not_mem hr.dot_not_mem,
      List.splitOn_eq_singleton hs.dot_not_mem]
    rw [← octet?_eq_some_iff] at hp hq hr hs
    simp [hp, hq, hr, hs]

theorem Written.ne_nil {cs : List Char} {a : V4} (h : Written cs a) : cs ≠ [] := by
  cases h
  simp

theorem Written.dot_mem {cs : List Char} {a : V4} (h : Written cs a) : '.' ∈ cs := by
  cases h
  simp

theorem Written.colon_not_mem {cs : List Char} {a : V4} (h : Written cs a) : ':' ∉ cs :=
  not_mem_of_parse? (parse?_eq_some_iff.mpr h) (by decide) (by decide)

end V4

/-! ## Groups -/

theorem group?_eq_some_iff {cs : List Char} {g : UInt16} :
    group? cs = some g ↔ GroupText cs g := by
  rw [group?]
  constructor
  · intro h
    split at h
    · rename_i hlength
      obtain ⟨n, hn, rfl⟩ := Option.map_eq_some_iff.mp h
      have hdigits := (Text.natural?_eq_some_iff (by decide)).mp hn
      have hlt : n < Nat.pow 16 4 :=
        Nat.lt_of_lt_of_le hdigits.lt_pow (Nat.pow_le_pow_right (by decide) hlength)
      have hg : (UInt16.ofNat n).toNat = n := UInt16.toNat_ofNat_of_lt' hlt
      exact ⟨by rw [hg]; exact hdigits, hlength⟩
    · cases h
  · intro h
    rw [if_pos h.length_le, (Text.natural?_eq_some_iff (by decide)).mpr h.digits,
      Option.map_some, UInt16.ofNat_toNat]

theorem GroupText.colon_not_mem {cs : List Char} {g : UInt16} (h : GroupText cs g) : ':' ∉ cs :=
  h.digits.not_mem (by decide) (by decide)

namespace V6

/-- Pieces that are read as groups are, with colons between them, groups of the grammar. -/
theorem GroupsText.of_groups? {dotted : Bool} {pieces : List (List Char)} {gs : List UInt16}
    (h : groups? dotted pieces = some gs) (hpieces : pieces ≠ []) :
    GroupsText dotted ([':'].intercalate pieces) gs := by
  induction pieces generalizing gs with
  | nil => exact absurd rfl hpieces
  | cons piece pieces ih =>
    rw [groups?] at h
    cases hgroup : group? piece with
    | some g =>
      rw [hgroup] at h
      obtain ⟨gs', hgs', rfl⟩ := Option.map_eq_some_iff.mp h
      have hpiece := group?_eq_some_iff.mp hgroup
      cases pieces with
      | nil =>
        cases hgs'
        rw [List.intercalate_singleton]
        exact .group hpiece
      | cons next pieces =>
        have hrest := ih hgs' (List.cons_ne_nil next pieces)
        rw [List.intercalate_cons_cons, List.append_assoc]
        exact .cons hpiece hrest
    | none =>
      rw [hgroup] at h
      simp only [Option.ite_none_right_eq_some, Bool.and_eq_true, List.isEmpty_iff] at h
      obtain ⟨⟨hdotted, rfl⟩, hshort⟩ := h
      obtain ⟨a, ha, rfl⟩ := Option.map_eq_some_iff.mp hshort
      rw [List.intercalate_singleton]
      exact .short hdotted (V4.parse?_eq_some_iff.mp ha)

/-- An address of the short form is one piece, and no group. -/
theorem groups?_short {cs : List Char} {a : V4} (h : V4.Written cs a) :
    groups? true (cs.splitOn ':') = some a.groups := by
  rw [List.splitOn_eq_singleton h.colon_not_mem, groups?,
    group?_eq_none_of_mem h.dot_mem (by decide)]
  simp [V4.parse?_eq_some_iff.mpr h]

theorem GroupsText.groups?_splitOn {dotted : Bool} {cs : List Char} {gs : List UInt16}
    (h : GroupsText dotted cs gs) : groups? dotted (cs.splitOn ':') = some gs := by
  induction h with
  | group h =>
    rw [List.splitOn_eq_singleton h.colon_not_mem, groups?, group?_eq_some_iff.mpr h]
    rfl
  | short hdotted h =>
    rw [hdotted]
    exact groups?_short h
  | cons h hrest ih =>
    rw [List.splitOn_append_cons_self_of_not_mem h.colon_not_mem, groups?,
      group?_eq_some_iff.mpr h, ih]
    rfl

theorem groups?_splitOn_eq_some_iff {dotted : Bool} {cs : List Char} {gs : List UInt16} :
    groups? dotted (cs.splitOn ':') = some gs ↔ GroupsText dotted cs gs := by
  constructor
  · intro h
    have hjoined : [':'].intercalate (cs.splitOn ':') = cs := List.intercalate_splitOn ':'
    rw [← hjoined]
    exact .of_groups? h (List.splitOn_ne_nil _ _)
  · exact GroupsText.groups?_splitOn

theorem GroupsText.ne_nil {dotted : Bool} {cs : List Char} {gs : List UInt16}
    (h : GroupsText dotted cs gs) : cs ≠ [] := by
  cases h with
  | group h => exact h.digits.ne_nil
  | short hdotted h => exact h.ne_nil
  | cons h hrest => simp

/-- Groups do not begin with a colon. -/
theorem GroupsText.exists_cons {dotted : Bool} {cs : List Char} {gs : List UInt16}
    (h : GroupsText dotted cs gs) : ∃ c rest, cs = c :: rest ∧ c ≠ ':' := by
  have hfirst : ∀ {cs : List Char}, cs ≠ [] → ':' ∉ cs → ∃ c rest, cs = c :: rest ∧ c ≠ ':' := by
    intro cs hne hcolon
    obtain ⟨c, rest, rfl⟩ := List.exists_cons_of_ne_nil hne
    exact ⟨c, rest, rfl, fun hc => hcolon (hc ▸ List.mem_cons_self)⟩
  cases h with
  | group h => exact hfirst h.digits.ne_nil h.colon_not_mem
  | short hdotted h => exact hfirst h.ne_nil h.colon_not_mem
  | @cons cs g h rest gs hrest =>
    obtain ⟨c, front, rfl, hc⟩ := hfirst h.digits.ne_nil h.colon_not_mem
    exact ⟨c, front ++ ':' :: rest, rfl, hc⟩

theorem side?_eq_some_iff {dotted : Bool} {cs : List Char} {gs : List UInt16} :
    side? dotted cs = some gs ↔ SideText dotted cs gs := by
  rw [side?]
  constructor
  · intro h
    split at h
    · rename_i hnil
      cases h
      rw [List.isEmpty_iff.mp hnil]
      exact .nothing
    · exact .groups (groups?_splitOn_eq_some_iff.mp h)
  · rintro (_ | h)
    · rfl
    · rw [if_neg (by simpa using h.ne_nil)]
      exact groups?_splitOn_eq_some_iff.mpr h

/-! ## The long form -/

/-- Groups hold no double colon, so the first one is behind them. -/
theorem GroupsText.halves?_append {dotted : Bool} {cs : List Char} {gs : List UInt16}
    (h : GroupsText dotted cs gs) (rest : List Char) :
    halves? (cs ++ rest) = (halves? rest).map fun (before, behind) => (cs ++ before, behind) := by
  induction h with
  | group h => exact NodeBalancer.halves?_append h.colon_not_mem rest
  | short hdotted h => exact NodeBalancer.halves?_append h.colon_not_mem rest
  | cons h hrest ih =>
    obtain ⟨c, tail, rfl, hc⟩ := hrest.exists_cons
    rw [List.append_assoc, NodeBalancer.halves?_append h.colon_not_mem, List.cons_append]
    rw [List.cons_append] at ih ⊢
    rw [halves?_colon_cons hc, ih]
    cases halves? rest with
    | none => rfl
    | some halves => simp

theorem SideText.halves?_append {dotted : Bool} {cs : List Char} {gs : List UInt16}
    (h : SideText dotted cs gs) (behind : List Char) :
    halves? (cs ++ ':' :: ':' :: behind) = some (cs, behind) := by
  cases h with
  | nothing => rfl
  | groups h =>
    rw [h.halves?_append]
    simp [halves?]

theorem GroupsText.halves?_eq_none {dotted : Bool} {cs : List Char} {gs : List UInt16}
    (h : GroupsText dotted cs gs) : halves? cs = none := by
  have hnone := h.halves?_append []
  rwa [List.append_nil] at hnone

/-- Groups that make an address are its groups. -/
theorem ofGroups?_eq_some_iff {gs : List UInt16} {a : V6} :
    ofGroups? gs = some a ↔ a.groups = gs := by
  constructor
  · intro h
    rw [ofGroups?] at h
    split at h
    · cases h
      rfl
    · cases h
  · rintro rfl
    exact a.ofGroups?_groups

theorem parse?_eq_some_iff {cs : List Char} {a : V6} : parse? cs = some a ↔ Written cs a := by
  constructor
  · intro h
    rw [parse?] at h
    cases hhalves : halves? cs with
    | none =>
      rw [hhalves] at h
      obtain ⟨gs, hgs, ha⟩ := Option.bind_eq_some_iff.mp h
      rw [ofGroups?_eq_some_iff] at ha
      exact .whole (ha ▸ groups?_splitOn_eq_some_iff.mp hgs)
    | some halves =>
      obtain ⟨before, behind⟩ := halves
      rw [hhalves] at h
      simp only at h
      rw [eq_of_halves? hhalves]
      split at h
      · rename_i front back hfront hback
        split at h
        · rename_i hmissing
          exact .shortened (side?_eq_some_iff.mp hfront) (side?_eq_some_iff.mp hback) hmissing
            (ofGroups?_eq_some_iff.mp h)
        · cases h
      · cases h
  · intro h
    cases h with
    | whole h =>
      simp only [parse?, h.halves?_eq_none]
      rw [h.groups?_splitOn, Option.bind_some, a.ofGroups?_groups]
    | shortened hfront hback hzeros ha =>
      exact parse?_of_halves? (hfront.halves?_append _) (side?_eq_some_iff.mpr hfront)
        (side?_eq_some_iff.mpr hback) hzeros ha

end V6

/-! ## Both forms -/

namespace Address

/-- **A text is read as an address if the grammar gives it that address.** -/
theorem parse?_eq_some_iff {cs : List Char} {a : Address} : parse? cs = some a ↔ Written cs a := by
  rw [parse?]
  constructor
  · intro h
    split at h
    · rename_i short hshort
      cases h
      exact .short (V4.parse?_eq_some_iff.mp hshort)
    · obtain ⟨long, hlong, rfl⟩ := Option.map_eq_some_iff.mp h
      exact .long (V6.parse?_eq_some_iff.mp hlong)
  · rintro (h | h)
    · rw [V4.parse?_eq_some_iff.mpr h]
    · have hlong := V6.parse?_eq_some_iff.mpr h
      have hshort : V4.parse? cs = none := by
        rw [Option.eq_none_iff_forall_ne_some]
        intro short hshort
        exact V4.not_mem_of_parse? hshort (by decide) (by decide) (V6.colon_mem_of_parse? hlong)
      rw [hshort, hlong]
      rfl

/-- Digits, dots and colons are all that stands in an address: no zone, no blank and no bracket. -/
theorem Written.mem_characters {cs : List Char} {a : Address} (h : Written cs a) {c : Char}
    (hc : c ∈ cs) : c = '.' ∨ c = ':' ∨ ∃ value, Text.IsDigit 16 c value := by
  refine Decidable.or_iff_not_imp_left.mpr fun hdot => ?_
  refine Decidable.or_iff_not_imp_left.mpr fun hcolon => ?_
  cases hdigit : Text.digitValue? 16 c with
  | some value => exact ⟨value, (Text.digitValue?_eq_some_iff (by decide)).mp hdigit⟩
  | none =>
    cases h with
    | short h =>
      have hten := Text.digitValue?_ten_of_sixteen hdigit
      exact absurd hc (V4.not_mem_of_parse? (V4.parse?_eq_some_iff.mpr h) hdot hten)
    | long h =>
      exact absurd hc (V6.not_mem_of_parse? hdot hdigit hcolon (V6.parse?_eq_some_iff.mpr h))

end Address

end NodeBalancer
