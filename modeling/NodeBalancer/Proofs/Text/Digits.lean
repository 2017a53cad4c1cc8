import Mathlib.Data.List.Induction
import NodeBalancer.Proofs.Text.Numeral

/-!
# Sequences of digits

A number in a base up to sixteen is written as a sequence of digits, at least one; its letters may
stand in either case and zeros in front of it count for nothing.  Those sequences and no others are
read, each as the number that its digits denote.

* `Digits`: the sequences of digits in a base, each with its number.
* `natural?_eq_some_iff`: a text is read as a number if it is a sequence of digits for it.
* `Digits.eq_toDigits`: without a zero in front, decimal digits are the ones that a number is
  written with.
* `numeral?_eq_some_iff`: a text is read as a number below a bound if it is digits for it, a plus
  sign in front apart.
-/

namespace NodeBalancer.Text

/-- A digit of the given base; a letter may stand in either case. -/
def IsDigit (base : Nat) (c : Char) (value : Nat) : Prop :=
  value < base ∧ c.toLower = value.digitChar

/-- Digits of a number in the given base, the one that counts most in front. -/
inductive Digits (base : Nat) : List Char → Nat → Prop
  | single {c : Char} {value : Nat} (h : IsDigit base c value) : Digits base [c] value
  | snoc {cs : List Char} {n : Nat} (front : Digits base cs n) {c : Char} {value : Nat}
      (h : IsDigit base c value) : Digits base (cs ++ [c]) (n * base + value)

variable {base : Nat}

/-! ## Single digits -/

theorem digitValue?_eq_none_of_le {c : Char} (h : 128 ≤ c.toNat) : digitValue? base c = none := by
  have hgt : ∀ d : Char, d.toNat < 128 → ¬ c ≤ d := by
    intro d hd hle
    have hle' : c.toNat ≤ d.toNat := hle
    omega
  simp [digitValue?, hgt '9' (by decide), hgt 'f' (by decide), hgt 'F' (by decide)]

theorem digitValue?_eq_some_iff (hbase : base ≤ 16) {c : Char} {value : Nat} :
    digitValue? base c = some value ↔ IsDigit base c value := by
  have hread : ∀ n < 128, ∀ base ≤ 16, (digitValue? base (Char.ofNat n)).all (fun value =>
      value < base && (Char.ofNat n).toLower == value.digitChar) = true := by
    decide +kernel
  have hlower : ∀ n < 128, ∀ base ≤ 16,
      digitValue? base (Char.ofNat n).toLower = digitValue? base (Char.ofNat n) := by
    decide +kernel
  rcases Nat.lt_or_ge c.toNat 128 with hc | hc
  · have hall := hread c.toNat hc base hbase
    have hsame := hlower c.toNat hc base hbase
    rw [Char.ofNat_toNat] at hall hsame
    constructor
    · intro h
      rw [h] at hall
      simpa [IsDigit] using hall
    · rintro ⟨hlt, hchar⟩
      rw [← hsame, hchar]
      exact digitValue?_digitChar hbase hlt
  · rw [digitValue?_eq_none_of_le hc]
    refine iff_of_false nofun ?_
    rintro ⟨hlt, hchar⟩
    have hself : c.toLower = c := by
      refine dif_neg fun hupper => ?_
      have hle : c.toNat ≤ 'Z'.toNat := UInt32.le_iff_toNat_le.mp hupper.2
      exact absurd (Nat.le_trans hc hle) (by decide)
    have hascii : ∀ value < 16, value.digitChar.toNat < 128 := by decide
    have := hascii value (by omega)
    rw [← hchar, hself] at this
    omega

/-- Decimal digits are no letters. -/
theorem IsDigit.eq_digitChar {c : Char} {value : Nat} (h : IsDigit 10 c value) :
    c = value.digitChar := by
  have hread : ∀ n < 128, (digitValue? 10 (Char.ofNat n)).all (fun value =>
      Char.ofNat n == value.digitChar) = true := by
    decide +kernel
  have hvalue := (digitValue?_eq_some_iff (by decide)).mpr h
  rcases Nat.lt_or_ge c.toNat 128 with hc | hc
  · have hall := hread c.toNat hc
    rw [Char.ofNat_toNat, hvalue] at hall
    simpa using hall
  · rw [digitValue?_eq_none_of_le hc] at hvalue
    cases hvalue

/-! ## Numbers -/

theorem digitsValue?_concat (cs : List Char) (c : Char) (acc : Nat) :
    digitsValue? base acc (cs ++ [c]) = (digitsValue? base acc cs).bind fun n =>
      (digitValue? base c).map (n * base + ·) := by
  rw [digitsValue?_append]
  congr 1
  funext n
  rw [digitsValue?]
  cases digitValue? base c <;> rfl

theorem natural?_singleton (c : Char) : natural? base [c] = digitValue? base c := by
  rw [natural?, if_neg (by simp), digitsValue?]
  cases digitValue? base c with
  | none => rfl
  | some value => simp [digitsValue?]

theorem natural?_concat {cs : List Char} (h : cs ≠ []) (c : Char) :
    natural? base (cs ++ [c]) = (natural? base cs).bind fun n =>
      (digitValue? base c).map (n * base + ·) := by
  rw [natural?, natural?, if_neg (by simp), if_neg (by simpa using h), digitsValue?_concat]

theorem Digits.ne_nil {cs : List Char} {n : Nat} (h : Digits base cs n) : cs ≠ [] := by
  cases h <;> simp

/-- **A text is read as a number if it is a sequence of digits for it.** -/
theorem natural?_eq_some_iff (hbase : base ≤ 16) {cs : List Char} {n : Nat} :
    natural? base cs = some n ↔ Digits base cs n := by
  constructor
  · intro h
    induction cs using List.reverseRecOn generalizing n with
    | nil => cases h
    | append_singleton cs c ih =>
      rcases eq_or_ne cs [] with rfl | hcs
      · rw [List.nil_append, natural?_singleton, digitValue?_eq_some_iff hbase] at h
        exact .single h
      · rw [natural?_concat hcs] at h
        obtain ⟨front, hfront, hlast⟩ := Option.bind_eq_some_iff.mp h
        obtain ⟨value, hvalue, rfl⟩ := Option.map_eq_some_iff.mp hlast
        exact .snoc (ih hfront) ((digitValue?_eq_some_iff hbase).mp hvalue)
  · intro h
    induction h with
    | single h => rw [natural?_singleton, digitValue?_eq_some_iff hbase]; exact h
    | snoc front h ih =>
      rw [natural?_concat front.ne_nil, ih, Option.bind_some,
        (digitValue?_eq_some_iff hbase).mpr h, Option.map_some]

namespace Digits

variable {cs : List Char} {n : Nat}

theorem isDigit_of_mem (h : Digits base cs n) {c : Char} (hc : c ∈ cs) :
    ∃ value, IsDigit base c value := by
  induction h with
  | single h =>
    rw [List.mem_singleton] at hc
    exact ⟨_, hc ▸ h⟩
  | snoc front h ih =>
    rcases List.mem_append.mp hc with hc | hc
    · exact ih hc
    · rw [List.mem_singleton] at hc
      exact ⟨_, hc ▸ h⟩

/-- What is no digit does not stand among digits. -/
theorem not_mem (hbase : base ≤ 16) (h : Digits base cs n) {c : Char}
    (hc : digitValue? base c = none) : c ∉ cs := by
  intro hmem
  obtain ⟨value, hvalue⟩ := h.isDigit_of_mem hmem
  rw [(digitValue?_eq_some_iff hbase).mpr hvalue] at hc
  cases hc

/-- So many digits make no more numbers. -/
theorem lt_pow (h : Digits base cs n) : n < Nat.pow base cs.length := by
  induction h with
  | single h => simpa using h.1
  | @snoc cs n front c value h ih =>
    rw [List.length_append, List.length_singleton]
    calc n * base + value < n * base + base := Nat.add_lt_add_left h.1 _
      _ = (n + 1) * base := (Nat.succ_mul n base).symm
      _ ≤ Nat.pow base cs.length * base := Nat.mul_le_mul_right base ih

/-- A decimal number without a zero in front is written with these digits and no others. -/
theorem eq_toDigits (h : Digits 10 cs n) (hzero : cs.head? = some '0' → cs = ['0']) :
    cs = Nat.toDigits 10 n := by
  induction h with
  | single h => rw [Nat.toDigits_of_lt_base h.1, h.eq_digitChar]
  | @snoc cs n front c value h ih =>
    -- the digits in front are not a zero alone, so their number is not zero either
    have hhead : cs.head? ≠ some '0' := by
      intro hhead
      have happend := hzero (by rw [List.head?_append, hhead, Option.some_or])
      have hlength := congrArg List.length happend
      have hpos := List.length_pos_iff.mpr front.ne_nil
      simp only [List.length_append, List.length_singleton] at hlength
      omega
    have hcs : cs = Nat.toDigits 10 n := ih fun h => absurd h hhead
    have hn : 0 < n := by
      rcases Nat.eq_zero_or_pos n with rfl | hn
      · rw [hcs] at hhead
        exact absurd rfl hhead
      · exact hn
    rw [Nat.mul_comm, ← Nat.toDigits_append_toDigits (by decide) hn h.1, ← hcs,
      Nat.toDigits_of_lt_base h.1, ← h.eq_digitChar]

end Digits

/-! ## Numerals -/

/-- Decimal digits, at least one, with an optional plus sign in front of them. -/
inductive Numeral : List Char → Nat → Prop
  | plain {cs : List Char} {n : Nat} (h : Digits 10 cs n) : Numeral cs n
  | signed {cs : List Char} {n : Nat} (h : Digits 10 cs n) : Numeral ('+' :: cs) n

theorem withoutPlus_of_not_mem {cs : List Char} (h : '+' ∉ cs) : withoutPlus cs = cs := by
  unfold withoutPlus
  split
  · exact absurd List.mem_cons_self h
  · rfl

theorem digits_withoutPlus_iff {cs : List Char} {n : Nat} :
    Digits 10 (withoutPlus cs) n ↔ Numeral cs n := by
  constructor
  · intro h
    unfold withoutPlus at h
    split at h
    · exact .signed h
    · exact .plain h
  · rintro (h | h)
    · rwa [withoutPlus_of_not_mem (h.not_mem (by decide) (by decide))]
    · exact h

/-- A text is read as a number below a bound if it is a numeral for it. -/
theorem numeral?_eq_some_iff {bound : Nat} {cs : List Char} {n : Nat} :
    numeral? bound cs = some n ↔ Numeral cs n ∧ n < bound := by
  rw [← digits_withoutPlus_iff, ← natural?_eq_some_iff (by decide), numeral?]
  cases natural? 10 (withoutPlus cs) with
  | none => simp
  | some value =>
    rw [Option.ite_none_right_eq_some, Option.some_inj, and_comm]
    exact and_congr_right fun heq => by rw [heq]

end NodeBalancer.Text
