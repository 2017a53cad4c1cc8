import NodeBalancer.Json.Parser
import NodeBalancer.Proofs.Json.Grammar

/-!
# Strings that are read

The text of a string is read up to its closing quote, in whatever way its characters are spelled.

* `Json.CharText.stringText_append`: one character.
* `Json.StringText.string?_append`: a string, and what follows it.
-/

namespace NodeBalancer.Json

theorem UnitText.codeUnit?_eq {cs : List Char} {unit : Nat} (h : UnitText cs unit) :
    ∃ a b c d, cs = [a, b, c, d] ∧ codeUnit? a b c d = some unit := by
  obtain ⟨hdigits, hlength⟩ := h
  match cs, hlength with
  | [a, b, c, d], _ =>
    exact ⟨a, b, c, d, rfl, (Text.natural?_eq_some_iff (by decide)).mpr hdigits⟩

/-- No character is half of a surrogate pair. -/
theorem isSurrogate_toNat (c : Char) :
    isHighSurrogate c.toNat = false ∧ isLowSurrogate c.toNat = false := by
  have hvalid : c.toNat < 0xd800 ∨ 0xdfff < c.toNat := by
    rcases c.valid with h | h
    · exact .inl h
    · exact .inr h.1
  simp only [isHighSurrogate, isLowSurrogate, Bool.and_eq_false_iff, decide_eq_false_iff_not]
  omega

theorem ofSurrogates_eq {c : Char} {high low : Nat}
    (h : c.toNat = 0x10000 + (high - 0xd800) * 0x400 + (low - 0xdc00)) :
    ofSurrogates high low = c := by
  rw [ofSurrogates, ← h, Char.ofNat_toNat]

theorem stringText_plain {c : Char} (hcontrol : 0x20 ≤ c.toNat) (hquote : c ≠ '"')
    (hbackslash : c ≠ '\\') (rest : List Char) :
    stringText (c :: rest) = consTo c (stringText rest) := by
  rw [stringText, if_neg (Nat.not_lt.mpr hcontrol)]
  · exact hquote
  · exact fun _ _ _ _ _ hc => absurd hc hbackslash
  · exact fun _ _ hc => absurd hc hbackslash

theorem stringText_short {letter c : Char} (h : (letter, c) ∈ shortEscapes) (rest : List Char) :
    stringText ('\\' :: letter :: rest) = consTo c (stringText rest) := by
  have hescapes : ∀ e ∈ shortEscapes, e.1 ≠ 'u' ∧ simpleEscape? e.1 = some e.2 := by decide
  obtain ⟨hletter, hescape⟩ := hescapes _ h
  rw [stringText, hescape]
  exact fun _ _ _ _ _ hu => absurd hu hletter

theorem stringText_unit {a b c d ch : Char} (h : codeUnit? a b c d = some ch.toNat)
    (rest : List Char) :
    stringText ('\\' :: 'u' :: a :: b :: c :: d :: rest) = consTo ch (stringText rest) := by
  obtain ⟨hhigh, hlow⟩ := isSurrogate_toNat ch
  simp [stringText, h, hhigh, hlow]

theorem stringText_pair {a b c d e f g h : Char} {high low : Nat}
    (hhigh : codeUnit? a b c d = some high) (hlow : codeUnit? e f g h = some low)
    (hleads : 0xd800 ≤ high ∧ high < 0xdc00) (htrails : 0xdc00 ≤ low ∧ low < 0xe000)
    (rest : List Char) :
    stringText ('\\' :: 'u' :: a :: b :: c :: d :: '\\' :: 'u' :: e :: f :: g :: h :: rest) =
      consTo (ofSurrogates high low) (stringText rest) := by
  simp [stringText, hhigh, hlow, isHighSurrogate, isLowSurrogate, hleads, htrails]

/-- A spelled character is read as that character. -/
theorem CharText.stringText_append {cs : List Char} {c : Char} (h : CharText cs c)
    (rest : List Char) : stringText (cs ++ rest) = consTo c (stringText rest) := by
  cases h with
  | plain hcontrol hquote hbackslash => exact stringText_plain hcontrol hquote hbackslash rest
  | short h => exact stringText_short h rest
  | unit h =>
    obtain ⟨_, _, _, _, rfl, hunit⟩ := h.codeUnit?_eq
    exact stringText_unit hunit rest
  | pair hhigh hlow hleads htrails hc =>
    obtain ⟨_, _, _, _, rfl, hfirst⟩ := hhigh.codeUnit?_eq
    obtain ⟨_, _, _, _, rfl, hsecond⟩ := hlow.codeUnit?_eq
    rw [← ofSurrogates_eq hc]
    exact stringText_pair hfirst hsecond hleads htrails rest

theorem CharsText.stringText_append {cs text : List Char} (h : CharsText cs text)
    (rest : List Char) : stringText (cs ++ '"' :: rest) = some (text, rest) := by
  induction h with
  | nil => rw [List.nil_append, stringText]
  | cons h hrest ih =>
    rw [List.append_assoc, h.stringText_append, ih]
    rfl

/-- **A string is read as its text**, whatever follows it. -/
theorem StringText.string?_append {cs : List Char} {text : String} (h : StringText cs text)
    (rest : List Char) : string? (cs ++ rest) = some (text, rest) := by
  obtain ⟨h⟩ := h
  rw [List.cons_append, List.append_assoc, List.singleton_append, string?, h.stringText_append]
  show some (String.ofList text.toList, rest) = some (text, rest)
  rw [String.ofList_toList]

end NodeBalancer.Json
