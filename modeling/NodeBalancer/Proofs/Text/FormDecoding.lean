import NodeBalancer.Proofs.Text.Joined
import NodeBalancer.Text.FormEncoding
import NodeBalancer.Text.Numeral

/-!
# Form decoding

A query in the encoding of `application/x-www-form-urlencoded` is read by cutting it at the
ampersands, and every piece that is not empty at its first equals sign.  In a name or a value a plus
sign is a space, a percent sign with two hexadecimal digits is the byte that they denote, and all
other characters stand for their own bytes; the bytes are text in UTF-8.

* `formBytes_formEncode`: the bytes of an encoded text are those of the text.
* `formParameters?_formQuery`: parameters that are written as a query are read from it again, whatever
  characters they hold.
* `isFormCharacter_of_mem_formQuery`: a query holds nothing that could end it.
-/

namespace NodeBalancer.Text

/-- The byte that two hexadecimal digits denote. -/
def hexByte? (high low : Char) : Option UInt8 :=
  (natural? 16 [high, low]).map UInt8.ofNat

/-- The bytes that a name or a value stands for. -/
def formBytes : List Char → List UInt8
  | [] => []
  | '+' :: cs => 0x20 :: formBytes cs
  | '%' :: a :: b :: cs =>
    match hexByte? a b with
    | some byte => byte :: formBytes cs
    | none => 0x25 :: formBytes (a :: b :: cs)
  | c :: cs => String.utf8EncodeChar c ++ formBytes cs

def formText? (cs : List Char) : Option String :=
  String.fromUTF8? (formBytes cs).toByteArray

/-- The name and the value of one parameter. -/
def formParameter? (piece : List Char) : Option (String × String) :=
  match formText? (piece.takeWhile (· != '=')),
      formText? ((piece.dropWhile (· != '=')).drop 1) with
  | some name, some value => some (name, value)
  | _, _ => none

def formParameters? (query : List Char) : Option (List (String × String)) :=
  ((query.splitOn '&').filter (!·.isEmpty)).mapM formParameter?

/-- The characters that names and values are encoded with. -/
def isFormCharacter (c : Char) : Bool :=
  isFormLiteral c || c == '+' || c == '%'

theorem toNat_lt_of_isAlphanum {c : Char} (h : c.isAlphanum = true) : c.toNat < 128 := by
  have hle : c.val ≤ 122 := by
    unfold Char.isAlphanum Char.isAlpha Char.isUpper Char.isLower Char.isDigit at h
    simp only [Bool.or_eq_true, Bool.and_eq_true, decide_eq_true_eq] at h
    grind
  exact Nat.lt_of_le_of_lt (UInt32.le_iff_toNat_le.mp hle) (by decide)

theorem toNat_lt_of_isFormCharacter {c : Char} (h : isFormCharacter c = true) : c.toNat < 128 := by
  rw [isFormCharacter, isFormLiteral, Bool.or_eq_true, Bool.or_eq_true, Bool.or_eq_true] at h
  rcases h with ((h | h) | h) | h
  · exact toNat_lt_of_isAlphanum h
  · have hall : ∀ d ∈ ['*', '-', '.', '_'], d.toNat < 128 := by simp
    exact hall c (List.contains_iff_mem.mp h)
  · rw [beq_iff_eq.mp h]
    decide
  · rw [beq_iff_eq.mp h]
    decide

/-! ## Bytes -/

/-- What a byte is encoded as. -/
theorem formEncodeByte_cases (b : UInt8) :
    (∃ c, formEncodeByte b = [c] ∧ isFormLiteral c = true ∧ String.utf8EncodeChar c = [b]) ∨
      formEncodeByte b = ['+'] ∧ b = 0x20 ∨
      ∃ high low, formEncodeByte b = ['%', high, low] ∧ isFormLiteral high = true ∧
        isFormLiteral low = true ∧ hexByte? high low = some b := by
  have hliteral : ∀ n < 256, isFormLiteral (Char.ofNat n) = true →
      String.utf8EncodeChar (Char.ofNat n) = [UInt8.ofNat n] := by
    decide +kernel
  have hhex : ∀ n < 256, hexByte? (hexDigit (n / 16)) (hexDigit (n % 16)) = some (UInt8.ofNat n) := by
    decide +kernel
  have hdigit : ∀ n < 16, isFormLiteral (hexDigit n) = true := by decide
  have hlt : b.toNat < 256 := b.toNat_lt
  simp only [formEncodeByte]
  split
  · rename_i hform
    exact .inl ⟨_, rfl, hform, by simpa using hliteral _ hlt hform⟩
  · split
    · rename_i hspace
      have hnat : b.toNat = 0x20 := by
        have hall : ∀ n < 256, Char.ofNat n = ' ' → n = 0x20 := by decide +kernel
        exact hall _ hlt hspace
      exact .inr (.inl ⟨rfl, UInt8.toNat_inj.mp hnat⟩)
    · exact .inr (.inr ⟨_, _, rfl, hdigit _ (by omega), hdigit _ (by omega),
        by simpa using hhex _ hlt⟩)

theorem isFormCharacter_of_mem_formEncode {cs : List Char} {c : Char} (h : c ∈ formEncode cs) :
    isFormCharacter c = true := by
  obtain ⟨b, -, hc⟩ := List.mem_flatMap.mp h
  rw [isFormCharacter, Bool.or_eq_true, Bool.or_eq_true, beq_iff_eq, beq_iff_eq]
  rcases formEncodeByte_cases b with ⟨d, hd, hform, -⟩ | ⟨hd, -⟩ | ⟨high, low, hd, hhigh, hlow, -⟩
  · rw [hd] at hc
    rw [List.mem_singleton.mp hc]
    exact .inl (.inl hform)
  · rw [hd] at hc
    exact .inl (.inr (List.mem_singleton.mp hc))
  · rw [hd] at hc
    simp only [List.mem_cons, List.not_mem_nil, or_false] at hc
    rcases hc with rfl | rfl | rfl
    · exact .inr rfl
    · exact .inl (.inl hhigh)
    · exact .inl (.inl hlow)

theorem formBytes_formEncodeByte (b : UInt8) (rest : List Char) :
    formBytes (formEncodeByte b ++ rest) = b :: formBytes rest := by
  rcases formEncodeByte_cases b with ⟨c, hc, hform, hbytes⟩ | ⟨hc, rfl⟩ |
    ⟨high, low, hc, -, -, hbyte⟩
  · have hplus : c ≠ '+' := by
      rintro rfl
      exact absurd hform (by decide)
    have hpercent : c ≠ '%' := by
      rintro rfl
      exact absurd hform (by decide)
    rw [hc, List.singleton_append, formBytes, hbytes, List.singleton_append]
    · exact hplus
    · rintro _ _ _ rfl
      exact absurd rfl hpercent
  · rw [hc]
    rfl
  · rw [hc]
    simp only [List.cons_append, List.nil_append, formBytes, hbyte]

/-- **The bytes of an encoded text are those of the text.** -/
theorem formBytes_formEncode (cs : List Char) :
    formBytes (formEncode cs) = cs.flatMap String.utf8EncodeChar := by
  rw [formEncode]
  induction cs.flatMap String.utf8EncodeChar with
  | nil => rfl
  | cons b bytes ih => rw [List.flatMap_cons, formBytes_formEncodeByte, ih]

theorem fromUTF8?_toByteArray (text : String) : String.fromUTF8? text.toByteArray = some text := by
  rw [String.fromUTF8?, dif_pos text.isValidUTF8]
  rfl

theorem formText?_formEncode (text : String) : formText? (formEncode text.toList) = some text := by
  have hbytes : (text.toList.flatMap String.utf8EncodeChar).toByteArray = text.toByteArray := by
    rw [← String.utf8Encode_toList]
    rfl
  rw [formText?, formBytes_formEncode, hbytes, fromUTF8?_toByteArray]

/-! ## Parameters -/

theorem not_mem_formEncode {c : Char} (h : isFormCharacter c = false) (cs : List Char) :
    c ∉ formEncode cs := by
  intro hc
  rw [isFormCharacter_of_mem_formEncode hc] at h
  cases h

theorem formParameter?_formPair (name value : String) :
    formParameter? (formPair name value) = some (name, value) := by
  have hequals : '=' ∉ formEncode name.toList := not_mem_formEncode (by decide) _
  rw [formParameter?, formPair, takeWhile_ne_append hequals, dropWhile_ne_append hequals]
  simp [formText?_formEncode]

theorem ampersand_not_mem_formPair (name value : String) : '&' ∉ formPair name value := by
  rw [formPair, List.mem_append, List.mem_cons]
  rintro (hname | hequals | hvalue)
  · exact not_mem_formEncode (by decide) _ hname
  · exact absurd hequals (by decide)
  · exact not_mem_formEncode (by decide) _ hvalue

theorem splitOn_formQuery {pairs : List (String × String)} (h : pairs ≠ []) :
    (formQuery pairs).splitOn '&' = pairs.map fun (name, value) => formPair name value := by
  refine List.splitOn_intercalate '&' (fun piece hpiece => ?_) (by simpa using h)
  obtain ⟨⟨name, value⟩, -, rfl⟩ := List.mem_map.mp hpiece
  exact ampersand_not_mem_formPair name value

theorem mapM_formParameter? (pairs : List (String × String)) :
    (pairs.map fun (name, value) => formPair name value).mapM formParameter? = some pairs := by
  induction pairs with
  | nil => rfl
  | cons pair pairs ih =>
    rw [List.map_cons, List.mapM_cons, formParameter?_formPair, ih]
    rfl

/-- **Parameters are read back from their query.** -/
theorem formParameters?_formQuery (pairs : List (String × String)) :
    formParameters? (formQuery pairs) = some pairs := by
  by_cases h : pairs = []
  · subst h
    rfl
  · have hfull : (pairs.map fun (name, value) => formPair name value).filter (!·.isEmpty) =
        pairs.map fun (name, value) => formPair name value := by
      rw [List.filter_eq_self]
      intro piece hpiece
      obtain ⟨⟨name, value⟩, -, rfl⟩ := List.mem_map.mp hpiece
      simp [formPair]
    rw [formParameters?, splitOn_formQuery h, hfull, mapM_formParameter?]

theorem isFormCharacter_of_mem_formQuery {pairs : List (String × String)} {c : Char}
    (h : c ∈ formQuery pairs) : isFormCharacter c = true ∨ c = '=' ∨ c = '&' := by
  rcases eq_or_mem_of_mem_intercalate h with rfl | ⟨piece, hpiece, hc⟩
  · exact .inr (.inr rfl)
  · obtain ⟨⟨name, value⟩, -, rfl⟩ := List.mem_map.mp hpiece
    have hparts : c ∈ formEncode name.toList ∨ c = '=' ∨ c ∈ formEncode value.toList := by
      simpa only [formPair, List.mem_append, List.mem_cons] using hc
    rcases hparts with hname | rfl | hvalue
    · exact .inl (isFormCharacter_of_mem_formEncode hname)
    · exact .inr (.inl rfl)
    · exact .inl (isFormCharacter_of_mem_formEncode hvalue)

end NodeBalancer.Text
