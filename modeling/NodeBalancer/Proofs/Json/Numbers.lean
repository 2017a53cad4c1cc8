import Mathlib.Tactic.NormNum
import NodeBalancer.Json.Parser
import NodeBalancer.Proofs.Json.Grammar

/-!
# Numbers that are read

A number is read up to the character behind it, which is a blank, a comma or a closing bracket.  Each
of its parts is as long as it can be, so that what follows must not go on with it.

* `Json.Follows`: what may stand behind a value.
* `JsonNumber.isFinite_of_magnitude_le`: a number within the limits is finite.
* `Json.NumberText.scalar?_append`: a number, and what follows it.
-/

namespace NodeBalancer

/-! ## Magnitudes -/

namespace JsonNumber

theorem ten_pow_toNat (e : ℤ) : (10 : ℚ) ^ e.toNat = 10 ^ e * 10 ^ (-e).toNat := by
  rw [← zpow_natCast, ← zpow_natCast, ← zpow_add₀ (by norm_num)]
  congr 1
  omega

/-- A bound on the magnitude without negative powers. -/
theorem mul_pow_le_of_magnitude_le {n : JsonNumber} (h : n.magnitude ≤ 10 ^ 308) :
    n.significand * 10 ^ n.exponent.toNat ≤ 10 ^ 308 * 10 ^ (-n.exponent).toNat := by
  have hcast : (n.significand : ℚ) * 10 ^ n.exponent.toNat ≤
      10 ^ 308 * 10 ^ (-n.exponent).toNat := by
    rw [ten_pow_toNat, ← mul_assoc]
    exact mul_le_mul_of_nonneg_right h (by positivity)
  exact_mod_cast hcast

theorem pow_length_toDigits_le {n : Nat} (h : n ≠ 0) : 10 ^ ((Nat.toDigits 10 n).length - 1) ≤ n := by
  rcases Nat.eq_zero_or_pos ((Nat.toDigits 10 n).length - 1) with hone | hmore
  · rw [hone]
    exact Nat.pos_of_ne_zero h
  · refine Nat.not_lt.mp fun hlt => ?_
    have hle := (Nat.length_toDigits_le_iff (by decide) hmore).mpr hlt
    omega

/-- A number within the limits has at most 309 places before the point. -/
theorem places_le {n : JsonNumber} (hsignificand : n.significand ≠ 0)
    (h : n.magnitude ≤ 10 ^ 308) :
    ((Nat.toDigits 10 n.significand).length : Int) + n.exponent ≤ 309 := by
  -- a power of ten below the number is below the bound; then so are their exponents
  have hpowers : 10 ^ ((Nat.toDigits 10 n.significand).length - 1 + n.exponent.toNat) ≤
      10 ^ (308 + (-n.exponent).toNat) := by
    rw [pow_add, pow_add]
    exact Nat.le_trans (Nat.mul_le_mul_right _ (pow_length_toDigits_le hsignificand))
      (mul_pow_le_of_magnitude_le h)
  have hexponents := (Nat.pow_le_pow_iff_right (by decide)).mp hpowers
  omega

/-- **A number within the limits is finite.** -/
theorem isFinite_of_magnitude_le {n : JsonNumber} (h : n.magnitude ≤ 10 ^ 308) :
    n.isFinite = true := by
  rw [isFinite]
  split
  · rfl
  · rename_i hsignificand
    have hplaces := places_le hsignificand h
    have hbound : 10 ^ 308 < overflowBound := by decide +kernel
    -- 309 places do not decide: there the number is multiplied out
    simp only [Int.not_lt.mpr hplaces, if_false]
    split
    · rfl
    · rw [decide_eq_true_iff]
      calc n.significand * 10 ^ n.exponent.toNat ≤ 10 ^ 308 * 10 ^ (-n.exponent).toNat :=
            mul_pow_le_of_magnitude_le h
        _ < overflowBound * 10 ^ (-n.exponent).toNat :=
            Nat.mul_lt_mul_of_pos_right hbound (Nat.pow_pos (by decide))

end JsonNumber

namespace Json

/-! ## Digits -/

/-- What may stand behind a value. -/
def Follows (rest : List Char) : Prop :=
  ∀ c, rest.head? = some c → c ∈ [' ', '\t', '\n', '\r', ',', ']', '\x7d']

theorem isDigit_of_mem {ds : List Char} {n : Nat} (h : Text.Digits 10 ds n) {c : Char}
    (hc : c ∈ ds) : c.isDigit = true := by
  obtain ⟨value, hvalue⟩ := h.isDigit_of_mem hc
  rw [hvalue.eq_digitChar, Nat.isDigit_digitChar]
  exact decide_eq_true hvalue.1

theorem ne_of_isDigit {c d : Char} (h : c.isDigit = true) (hd : d.isDigit = false) : c ≠ d := by
  rintro rfl
  rw [h] at hd
  cases hd

theorem digits_append {ds rest : List Char} {n : Nat} (h : Text.Digits 10 ds n)
    (hrest : ∀ c, rest.head? = some c → c.isDigit = false) : digits (ds ++ rest) = (ds, rest) := by
  have hds : ∀ c ∈ ds, c.isDigit = true := fun c hc => isDigit_of_mem h hc
  rw [digits, List.takeWhile_append_of_pos hds, List.dropWhile_append_of_pos hds]
  cases rest with
  | nil => simp
  | cons c rest => simp [hrest c rfl]

theorem digitsValue?_of_digits {ds : List Char} {n : Nat} (h : Text.Digits 10 ds n) :
    Text.digitsValue? 10 0 ds = some n := by
  have hread := (Text.natural?_eq_some_iff (by decide)).mpr h
  rwa [Text.natural?, if_neg (by simpa using h.ne_nil)] at hread

/-! ## The parts of a number -/

theorem wholePart?_append {whole rest : List Char} {n : Nat} (h : Text.Digits 10 whole n)
    (hlead : whole.head? = some '0' → whole = ['0'])
    (hrest : ∀ c, rest.head? = some c → c.isDigit = false) :
    wholePart? (whole ++ rest) = some (whole, rest) := by
  by_cases hzero : whole.head? = some '0'
  · rw [hlead hzero, List.singleton_append, wholePart?]
  · rw [wholePart?, digits_append h hrest]
    · exact if_neg (by simpa using h.ne_nil)
    · intro rest' heq
      obtain ⟨c, cs, rfl⟩ := List.exists_cons_of_ne_nil h.ne_nil
      exact hzero (congrArg some (List.cons.inj heq).1)

theorem FractionText.fraction?_append {fraction places rest : List Char}
    (h : FractionText fraction places)
    (hrest : ∀ c, rest.head? = some c → c.isDigit = false ∧ c ≠ '.') :
    fraction? (fraction ++ rest) = some (places, rest) := by
  cases h with
  | absent =>
    rw [List.nil_append, fraction?]
    rintro rest' rfl
    exact (hrest '.' rfl).2 rfl
  | present h =>
    rw [List.cons_append, fraction?, digits_append h fun c hc => (hrest c hc).1]
    exact if_neg (by simpa using h.ne_nil)

theorem signed_append {ds : List Char} {n : Nat} (h : Text.Digits 10 ds n) (rest : List Char) :
    signed (ds ++ rest) = (false, ds ++ rest) := by
  obtain ⟨c, cs, rfl⟩ := List.exists_cons_of_ne_nil h.ne_nil
  have hdigit := isDigit_of_mem h List.mem_cons_self
  rw [signed]
  · exact fun _ heq => ne_of_isDigit hdigit (by decide) (List.cons.inj heq).1
  · exact fun _ heq => ne_of_isDigit hdigit (by decide) (List.cons.inj heq).1

theorem exponent?_of_signed {e : Char} (he : e = 'e' ∨ e = 'E') {cs ds rest : List Char} {n : Nat}
    {negative : Bool} (hsigned : signed cs = (negative, ds ++ rest)) (h : Text.Digits 10 ds n)
    (hrest : ∀ c, rest.head? = some c → c.isDigit = false) :
    exponent? (e :: cs) = some (if negative then -(n : Int) else n, rest) := by
  have hne : ds.isEmpty = false := by simpa using h.ne_nil
  have hvalue : exponentValue negative ds = if negative then -(n : Int) else n := by
    rw [exponentValue, digitsValue?_of_digits h]
    rfl
  simp [exponent?, he, hsigned, digits_append h hrest, hne, hvalue]

theorem ExponentText.exponent?_append {power rest : List Char} {exponent : Int}
    (h : ExponentText power exponent)
    (hrest : ∀ c, rest.head? = some c → c.isDigit = false ∧ c ≠ 'e' ∧ c ≠ 'E') :
    exponent? (power ++ rest) = some (exponent, rest) := by
  have hdigit : ∀ c, rest.head? = some c → c.isDigit = false := fun c hc => (hrest c hc).1
  cases h with
  | absent =>
    rw [List.nil_append]
    cases rest with
    | nil => rfl
    | cons c rest =>
      obtain ⟨-, hlower, hupper⟩ := hrest c rfl
      rw [exponent?, if_neg (not_or.mpr ⟨hlower, hupper⟩)]
  | unsigned he h => exact exponent?_of_signed he (signed_append h rest) h hdigit
  | @plus e he ds n h =>
    have hsigned : signed ('+' :: (ds ++ rest)) = (false, ds ++ rest) := rfl
    exact exponent?_of_signed he hsigned h hdigit
  | @minus e he ds n h =>
    have hsigned : signed ('-' :: (ds ++ rest)) = (true, ds ++ rest) := rfl
    exact exponent?_of_signed he hsigned h hdigit

/-! ## Whole numbers -/

theorem ExponentText.head? {power rest : List Char} {exponent : Int}
    (h : ExponentText power exponent) (hrest : Follows rest) {c : Char}
    (hc : (power ++ rest).head? = some c) : c.isDigit = false ∧ c ≠ '.' := by
  have hfollowers : ∀ c ∈ [' ', '\t', '\n', '\r', ',', ']', '\x7d'],
      c.isDigit = false ∧ c ≠ '.' := by simp [Char.isDigit]
  have hletters : ∀ e : Char, e = 'e' ∨ e = 'E' → e.isDigit = false ∧ e ≠ '.' := by
    rintro _ (rfl | rfl) <;> decide
  cases h with
  | absent => exact hfollowers c (hrest c hc)
  | unsigned he h =>
    cases hc
    exact hletters _ he
  | plus he h =>
    cases hc
    exact hletters _ he
  | minus he h =>
    cases hc
    exact hletters _ he

theorem FractionText.head? {fraction places rest : List Char} (h : FractionText fraction places)
    (hrest : ∀ c, rest.head? = some c → c.isDigit = false) {c : Char}
    (hc : (fraction ++ rest).head? = some c) : c.isDigit = false := by
  cases h with
  | absent => exact hrest c hc
  | present h =>
    cases hc
    decide

/-- The parts of a number are read one after the other. -/
theorem UnsignedText.unsigned?_append {negative : Bool} {cs rest : List Char} {n : JsonNumber}
    (h : UnsignedText negative cs n) (hfinite : n.isFinite = true) (hrest : Follows rest) :
    unsigned? negative (cs ++ rest) = some (.number n, rest) := by
  have hfollowers : ∀ c ∈ [' ', '\t', '\n', '\r', ',', ']', '\x7d'],
      c.isDigit = false ∧ c ≠ 'e' ∧ c ≠ 'E' := by simp [Char.isDigit]
  obtain ⟨hwhole, hlead, hfraction, hpower, hsignificand⟩ := h
  rw [List.append_assoc, List.append_assoc, unsigned?,
    wholePart?_append hwhole hlead fun c hc =>
      hfraction.head? (fun c hc => (hpower.head? hrest hc).1) hc]
  simp only
  rw [hfraction.fraction?_append fun c hc => hpower.head? hrest hc]
  simp only
  rw [hpower.exponent?_append fun c hc => hfollowers c (hrest c hc)]
  simp only [digitsValue?_of_digits hsignificand, Option.getD_some]
  exact if_pos hfinite

theorem UnsignedText.exists_cons {negative : Bool} {cs : List Char} {n : JsonNumber}
    (h : UnsignedText negative cs n) : ∃ c rest, cs = c :: rest ∧ c.isDigit = true := by
  obtain @⟨whole, fraction, _, power, _, _, _, hwhole⟩ := h
  obtain ⟨c, rest, rfl⟩ := List.exists_cons_of_ne_nil hwhole.ne_nil
  exact ⟨c, rest ++ (fraction ++ power), rfl, isDigit_of_mem hwhole List.mem_cons_self⟩

theorem scalar?_of_isDigit {c : Char} (h : c.isDigit = true) (rest : List Char) :
    scalar? (c :: rest) = unsigned? false (c :: rest) := by
  have hne : ∀ d : Char, d.isDigit = false → ∀ tail, c :: rest ≠ d :: tail :=
    fun _ hd _ heq => ne_of_isDigit h hd (List.cons.inj heq).1
  rw [scalar?]
  · exact fun _ => hne 'n' (by decide) _
  · exact fun _ => hne 't' (by decide) _
  · exact fun _ => hne 'f' (by decide) _
  · exact fun _ => hne '"' (by decide) _
  · exact fun _ => hne '-' (by decide) _

/-- **A number is read as itself** up to what may stand behind it. -/
theorem NumberText.scalar?_append {cs rest : List Char} {n : JsonNumber} (h : NumberText cs n)
    (hfinite : n.isFinite = true) (hrest : Follows rest) :
    scalar? (cs ++ rest) = some (.number n, rest) := by
  cases h with
  | positive h =>
    rw [← h.unsigned?_append hfinite hrest]
    obtain ⟨c, tail, rfl, hc⟩ := h.exists_cons
    exact scalar?_of_isDigit hc _
  | negative h => rw [List.cons_append, scalar?, h.unsigned?_append hfinite hrest]

end Json

end NodeBalancer
