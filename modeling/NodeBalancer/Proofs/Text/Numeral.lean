import NodeBalancer.Text.Numeral

/-!
# Numerals that are written and read

The digits that a number is written with, in any base up to sixteen, are read as that number.  So
whatever is written of digits alone holds no other character, in particular no separator.

* `digitsValue?_append`: reading goes from the front to the end.
* `natural?_toDigits`: a number is read back.
-/

namespace NodeBalancer.Text

variable {base : Nat}

theorem digitValue?_digitChar {n : Nat} (hbase : base ≤ 16) (hn : n < base) :
    digitValue? base n.digitChar = some n := by
  have hall : ∀ base ≤ 16, ∀ n < base, digitValue? base n.digitChar = some n := by decide
  exact hall base hbase n hn

theorem digitValue?_ten_of_sixteen {c : Char} (h : digitValue? 16 c = none) :
    digitValue? 10 c = none := by
  simp only [digitValue?, ite_eq_right_iff] at h ⊢
  split at h
  · rename_i hdigit
    have hle : c.toNat ≤ '9'.toNat := hdigit.2
    have hlt : c.toNat - '0'.toNat < 16 := by
      simp only [Char.reduceToNat] at hle ⊢
      omega
    exact absurd (h hlt) (Option.some_ne_none _)
  · rename_i hletter
    rw [if_neg hletter]
    intro hlt
    split at hlt
    · omega
    · split at hlt <;> omega

theorem digitsValue?_append (cs ds : List Char) (acc : Nat) :
    digitsValue? base acc (cs ++ ds) = (digitsValue? base acc cs).bind (digitsValue? base · ds) := by
  induction cs generalizing acc with
  | nil => rfl
  | cons c cs ih =>
    rw [List.cons_append, digitsValue?, digitsValue?]
    cases digitValue? base c with
    | none => rfl
    | some value => exact ih _

theorem digitsValue?_toDigits (hone : 1 < base) (hbase : base ≤ 16) (n : Nat) :
    digitsValue? base 0 (Nat.toDigits base n) = some n := by
  induction n using Nat.strongRecOn with
  | ind n ih =>
    by_cases hn : n < base
    · rw [Nat.toDigits_of_lt_base hn, digitsValue?, digitValue?_digitChar hbase hn]
      simp [digitsValue?]
    · have hle : base ≤ n := Nat.le_of_not_lt hn
      have hdiv : n / base < n := Nat.div_lt_self (by omega) hone
      have hmod : n % base < base := Nat.mod_lt n (by omega)
      rw [Nat.toDigits_of_base_le hone hle, digitsValue?_append, ih _ hdiv, Option.bind_some,
        digitsValue?, digitValue?_digitChar hbase hmod]
      exact congrArg some (Nat.div_add_mod' n base)

theorem natural?_toDigits (hone : 1 < base) (hbase : base ≤ 16) (n : Nat) :
    natural? base (Nat.toDigits base n) = some n := by
  rw [natural?, if_neg (by simp), digitsValue?_toDigits hone hbase]

theorem isSome_digitValue?_of_mem {cs : List Char} {acc n : Nat}
    (h : digitsValue? base acc cs = some n) {c : Char} (hc : c ∈ cs) :
    (digitValue? base c).isSome = true := by
  induction cs generalizing acc with
  | nil => cases hc
  | cons d cs ih =>
    rw [digitsValue?] at h
    cases hd : digitValue? base d with
    | none =>
      rw [hd] at h
      cases h
    | some value =>
      rw [hd] at h
      rcases List.mem_cons.mp hc with rfl | hc
      · rw [hd]
        rfl
      · exact ih h hc

theorem isSome_digitValue?_of_natural? {cs : List Char} {n : Nat} (h : natural? base cs = some n)
    {c : Char} (hc : c ∈ cs) : (digitValue? base c).isSome = true := by
  rw [natural?] at h
  split at h
  · cases h
  · exact isSome_digitValue?_of_mem h hc

/-- What is no digit does not stand in a number. -/
theorem not_mem_of_natural? {cs : List Char} {n : Nat} (h : natural? base cs = some n) {c : Char}
    (hc : digitValue? base c = none) : c ∉ cs := by
  intro hmem
  have hsome := isSome_digitValue?_of_natural? h hmem
  rw [hc] at hsome
  cases hsome

theorem not_mem_toDigits (hone : 1 < base) (hbase : base ≤ 16) {c : Char}
    (hc : digitValue? base c = none) (n : Nat) : c ∉ Nat.toDigits base n :=
  not_mem_of_natural? (natural?_toDigits hone hbase n) hc

end NodeBalancer.Text
