import Mathlib.Data.List.DropRight
import NodeBalancer.Proofs.Json.Numbers
import NodeBalancer.Proofs.Json.Strings

/-!
# Values that are read

Every text of a value within the limits is read as that value: blanks are skipped, items are taken
one by one up to the closing bracket, and the depth that is left is enough for what they hold.

* `Json.Readable`: a reader takes the texts of a value off the front, and nothing else.
* `Json.Readable.contents?_append`: the items of an array or an object.
* `Json.readable_value?`: a value within the limits.
* `Json.Document.parse?_eq`: a whole text.
* `Json.parse?_ne_array`: no array is read where there is no opening bracket.
-/

namespace NodeBalancer.Json

/-! ## Blanks -/

theorem skipSpace_append {blank : List Char} (h : Blank blank) (cs : List Char) :
    skipSpace (blank ++ cs) = skipSpace cs := by
  have hspaces : ∀ c ∈ [' ', '\t', '\n', '\r'], isSpace c = true := by simp [isSpace]
  exact List.dropWhile_append_of_pos fun c hc => hspaces c (h c hc)

theorem skipSpace_cons {c : Char} (h : isSpace c = false) (cs : List Char) :
    skipSpace (c :: cs) = c :: cs :=
  List.dropWhile_cons_of_neg (by simp [h])

theorem skipSpace_blank {blank : List Char} (h : Blank blank) : skipSpace blank = [] := by
  have hnil := skipSpace_append h []
  rwa [List.append_nil] at hnil

theorem skipSpace_skipSpace (cs : List Char) : skipSpace (skipSpace cs) = skipSpace cs :=
  List.dropWhile_idempotent _ cs

theorem length_skipSpace_le (cs : List Char) : (skipSpace cs).length ≤ cs.length :=
  List.length_dropWhile_le _ cs

theorem Follows.blank_append {blank rest : List Char} (h : Blank blank) (hrest : Follows rest) :
    Follows (blank ++ rest) := by
  intro c hc
  cases blank with
  | nil => exact hrest c hc
  | cons b blank =>
    cases hc
    exact List.mem_append_left [',', ']', '\x7d'] (h c List.mem_cons_self)

theorem follows_cons {c : Char} (h : c ∈ [',', ']', '\x7d']) (rest : List Char) :
    Follows (c :: rest) := by
  intro d hd
  cases hd
  exact List.mem_append_right [' ', '\t', '\n', '\r'] h

/-! ## Items -/

section Items

variable {α : Type} {close : Char} {item : List Char → Option (α × List Char)}
  {W : List Char → α → Prop}

/-- A reader takes the texts of each value off the front; they begin with no blank, and not the way
their list ends. -/
structure Readable (close : Char) (item : List Char → Option (α × List Char))
    (W : List Char → α → Prop) : Prop where
  closes : close ∈ [']', '\x7d']
  exists_cons : ∀ {cs a}, W cs a → ∃ c rest, cs = c :: rest ∧ isSpace c = false ∧ c ≠ close
  item_append : ∀ {cs a rest}, W cs a → Follows rest → item (cs ++ rest) = some (a, rest)

theorem items?_skipSpace (fuel : Nat) (cs : List Char) :
    items? close item fuel (skipSpace cs) = items? close item fuel cs := by
  cases fuel with
  | zero => rfl
  | succ fuel => rw [items?, items?, skipSpace_skipSpace]

namespace Readable

variable (hread : Readable close item W)
include hread

theorem follows_close (rest : List Char) : Follows (close :: rest) :=
  follows_cons (List.mem_cons_of_mem _ hread.closes) rest

theorem skipSpace_close (rest : List Char) : skipSpace (close :: rest) = close :: rest := by
  have hspaces : ∀ c ∈ [']', '\x7d'], isSpace c = false := by simp [isSpace]
  exact skipSpace_cons (hspaces close hread.closes) rest

theorem close_ne_comma : close ≠ ',' := by
  have hcommas : ∀ c ∈ [']', '\x7d'], c ≠ ',' := by simp
  exact hcommas close hread.closes

/-- A text with blanks around it is read up to the blanks behind it. -/
theorem item_skipSpace {cs : List Char} {a : α} (h : Padded W cs a) {rest : List Char}
    (hrest : Follows rest) :
    ∃ behind, Blank behind ∧ item (skipSpace (cs ++ rest)) = some (a, behind ++ rest) := by
  obtain @⟨before, cs, behind, a, hbefore, h, hbehind⟩ := h
  refine ⟨behind, hbehind, ?_⟩
  obtain ⟨c, text, rfl, hspace, -⟩ := hread.exists_cons h
  rw [List.append_assoc, skipSpace_append hbefore, List.append_assoc, List.cons_append,
    skipSpace_cons hspace, ← List.cons_append]
  exact hread.item_append h (hrest.blank_append hbehind)

/-- Behind its blanks, a text does not begin the way its list ends, and it is not empty. -/
theorem skipSpace_padded {cs : List Char} {a : α} (h : Padded W cs a) (rest : List Char) :
    ∃ c tail, skipSpace (cs ++ rest) = c :: tail ∧ c ≠ close ∧ rest.length ≤ tail.length := by
  obtain @⟨before, cs, behind, a, hbefore, h, -⟩ := h
  obtain ⟨c, text, rfl, hspace, hclose⟩ := hread.exists_cons h
  refine ⟨c, text ++ (behind ++ rest), ?_, hclose, ?_⟩
  · rw [List.append_assoc, skipSpace_append hbefore, List.append_assoc, List.cons_append,
      skipSpace_cons hspace]
  · rw [List.length_append, List.length_append]
    omega

theorem items?_append {cs : List Char} {as : List α} (h : Separated (Padded W) cs as)
    (rest : List Char) {fuel : Nat} (hfuel : as.length ≤ fuel) :
    items? close item fuel (cs ++ close :: rest) = some (as, rest) := by
  -- every item takes one unit of the fuel, and the comma behind it is what goes on
  induction h generalizing fuel with
  | single h =>
    obtain ⟨fuel, rfl⟩ := Nat.exists_eq_add_of_le' hfuel
    obtain ⟨behind, hbehind, hitem⟩ := hread.item_skipSpace h (hread.follows_close rest)
    rw [List.length_singleton, items?, hitem]
    simp only
    rw [skipSpace_append hbehind, hread.skipSpace_close]
    simp only [if_neg hread.close_ne_comma, if_pos]
  | @cons cs a h cs' as hrest ih =>
    obtain ⟨fuel, rfl⟩ := Nat.exists_eq_add_of_le' hfuel
    rw [List.length_cons] at hfuel
    obtain ⟨behind, hbehind, hitem⟩ := hread.item_skipSpace h
      (follows_cons (List.mem_cons_self) (cs' ++ close :: rest))
    rw [List.append_assoc, List.cons_append, List.length_cons, ← Nat.add_assoc, items?, hitem]
    simp only
    rw [skipSpace_append hbehind, skipSpace_cons (by decide)]
    simp only [if_pos]
    rw [ih (by omega)]
    rfl

/-- There are no more items than characters to read. -/
theorem length_le {cs : List Char} {as : List α} (h : Separated (Padded W) cs as)
    (rest : List Char) : as.length ≤ (skipSpace (cs ++ rest)).length := by
  induction h with
  | single h =>
    obtain ⟨c, tail, hskip, -, -⟩ := hread.skipSpace_padded h rest
    rw [hskip, List.length_singleton, List.length_cons]
    omega
  | @cons cs a h cs' as hrest ih =>
    obtain ⟨c, tail, hskip, -, hlength⟩ := hread.skipSpace_padded h (',' :: (cs' ++ rest))
    have hle := Nat.le_trans ih (length_skipSpace_le (cs' ++ rest))
    rw [List.append_assoc, List.cons_append, hskip, List.length_cons, List.length_cons]
    rw [List.length_cons] at hlength
    omega

/-- Items are read up to the closing character. -/
theorem contents?_append {cs : List Char} {as : List α} (h : Separated (Padded W) cs as)
    (rest : List Char) : contents? close item (cs ++ close :: rest) = some (as, rest) := by
  have hitems := hread.items?_append h rest (hread.length_le h (close :: rest))
  rw [← items?_skipSpace] at hitems
  -- an empty list is looked for first: the first item does not begin the way the list ends
  have hcons : ∃ c tail, skipSpace (cs ++ close :: rest) = c :: tail ∧ c ≠ close := by
    cases h with
    | single h =>
      obtain ⟨c, tail, hskip, hclose, -⟩ := hread.skipSpace_padded h (close :: rest)
      exact ⟨c, tail, hskip, hclose⟩
    | @cons cs a h cs' as hrest =>
      obtain ⟨c, tail, hskip, hclose, -⟩ :=
        hread.skipSpace_padded h (',' :: (cs' ++ close :: rest))
      exact ⟨c, tail, by rw [List.append_assoc]; exact hskip, hclose⟩
  obtain ⟨c, tail, hskip, hclose⟩ := hcons
  rw [hskip] at hitems
  rw [contents?, hskip]
  simp only [if_neg hclose]
  exact hitems

theorem contents?_blank {blank : List Char} (h : Blank blank) (rest : List Char) :
    contents? close item (blank ++ close :: rest) = some ([], rest) := by
  rw [contents?, skipSpace_append h, hread.skipSpace_close]
  simp only [if_pos]

end Readable

end Items

/-! ## First characters -/

theorem isSpace_of_isDigit {c : Char} (h : c.isDigit = true) : isSpace c = false := by
  have hne : ∀ d : Char, d.isDigit = false → (c == d) = false :=
    fun d hd => beq_eq_false_iff_ne.mpr (ne_of_isDigit h hd)
  rw [isSpace, hne ' ' (by decide), hne '\t' (by decide), hne '\n' (by decide), hne '\r' (by decide)]
  rfl

/-- A number begins with a digit or a minus sign. -/
theorem NumberText.exists_cons {cs : List Char} {n : JsonNumber} (h : NumberText cs n) :
    ∃ c rest, cs = c :: rest ∧ isSpace c = false ∧ c ∉ ['[', ']', '\x7b'] := by
  cases h with
  | positive h =>
    obtain ⟨c, rest, rfl, hc⟩ := h.exists_cons
    have hbrackets : ∀ d ∈ ['[', ']', '\x7b'], d.isDigit = false := by simp [Char.isDigit]
    exact ⟨c, rest, rfl, isSpace_of_isDigit hc, fun hmem => ne_of_isDigit hc (hbrackets c hmem) rfl⟩
  | @negative cs n h => exact ⟨'-', cs, rfl, by decide, by decide⟩

/-- A text begins with no blank and no closing bracket, and with an opening bracket only if it is
one of an array. -/
theorem Written.exists_cons {cs : List Char} {v : Json} (h : Written cs v) :
    ∃ c rest, cs = c :: rest ∧ isSpace c = Bool.false ∧ c ≠ ']' ∧
      (c = '[' → ∃ items, v = .array items) := by
  cases h with
  | null => exact ⟨_, _, rfl, by decide, by decide, fun h => absurd h (by decide)⟩
  | true => exact ⟨_, _, rfl, by decide, by decide, fun h => absurd h (by decide)⟩
  | false => exact ⟨_, _, rfl, by decide, by decide, fun h => absurd h (by decide)⟩
  | number h =>
    obtain ⟨c, rest, rfl, hspace, hbrackets⟩ := h.exists_cons
    refine ⟨c, rest, rfl, hspace, ?_, ?_⟩
    · rintro rfl
      exact absurd (by decide) hbrackets
    · rintro rfl
      exact absurd (by decide) hbrackets
  | string h =>
    obtain ⟨h⟩ := h
    exact ⟨_, _, rfl, by decide, by decide, fun h => absurd h (by decide)⟩
  | emptyArray => exact ⟨_, _, rfl, by decide, by decide, fun _ => ⟨_, rfl⟩⟩
  | array => exact ⟨_, _, rfl, by decide, by decide, fun _ => ⟨_, rfl⟩⟩
  | emptyObject => exact ⟨_, _, rfl, by decide, by decide, fun h => absurd h (by decide)⟩
  | object => exact ⟨_, _, rfl, by decide, by decide, fun h => absurd h (by decide)⟩

/-! ## Values -/

/-- A part of the texts, told by what they are texts of. -/
theorem Separated.and {α : Type} {W : List Char → α → Prop} {P : α → Prop} {cs : List Char}
    {as : List α} (h : Separated (Padded W) cs as) (hall : ∀ a ∈ as, P a) :
    Separated (Padded fun cs a => W cs a ∧ P a) cs as := by
  induction h with
  | single h =>
    obtain ⟨hbefore, h, hbehind⟩ := h
    exact .single (.blanks hbefore ⟨h, hall _ List.mem_cons_self⟩ hbehind)
  | cons h hrest ih =>
    obtain ⟨hbefore, h, hbehind⟩ := h
    exact .cons (.blanks hbefore ⟨h, hall _ List.mem_cons_self⟩ hbehind)
      (ih fun a ha => hall a (List.mem_cons_of_mem _ ha))

theorem value?_eq_scalar? {c : Char} (harray : c ≠ '[') (hobject : c ≠ '\x7b') (depth : Nat)
    (rest : List Char) : value? depth (c :: rest) = scalar? (c :: rest) := by
  rw [value?]
  · exact fun _ _ _ heq => absurd (List.cons.inj heq).1 harray
  · exact fun _ _ _ heq => absurd (List.cons.inj heq).1 hobject

/-- The members of an object are read if values are. -/
theorem Readable.member? {close : Char} {item : List Char → Option (Json × List Char)}
    {P : Json → Prop} (hread : Readable close item fun cs v => Written cs v ∧ P v) :
    Readable '\x7d' (member? item) fun cs m => MemberText Written cs m ∧ P m.2 where
  closes := by decide
  exists_cons := by
    rintro _ _ ⟨⟨⟨_⟩, -, -, -⟩, -⟩
    exact ⟨_, _, rfl, by decide, by decide⟩
  item_append := by
    rintro _ _ rest ⟨@⟨name, before, behind, cs, text, v, hname, hbefore, hbehind, hv⟩, hP⟩ hrest
    obtain ⟨c, tail, rfl, hspace, -⟩ := hread.exists_cons ⟨hv, hP⟩
    rw [List.append_assoc, Json.member?, hname.string?_append, List.append_assoc, List.cons_append]
    simp only
    rw [skipSpace_append hbefore, skipSpace_cons (by decide)]
    simp only
    rw [List.append_assoc, skipSpace_append hbehind, List.cons_append, skipSpace_cons hspace,
      ← List.cons_append, hread.item_append ⟨hv, hP⟩ hrest]
    rfl

/-- A value is read if those in it are. -/
theorem Written.value?_append {cs : List Char} {v : Json} (h : Written cs v) {depth : Nat}
    (hwithin : Within depth v)
    (hread : ∀ inner, depth = inner + 1 →
      Readable ']' (value? inner) fun cs v => Written cs v ∧ Within inner v)
    {rest : List Char} (hrest : Follows rest) : value? depth (cs ++ rest) = some (v, rest) := by
  cases h with
  | null => exact value?_eq_scalar? (by decide) (by decide) depth _
  | true => exact value?_eq_scalar? (by decide) (by decide) depth _
  | false => exact value?_eq_scalar? (by decide) (by decide) depth _
  | number h =>
    have hfinite := JsonNumber.isFinite_of_magnitude_le hwithin.magnitude_le
    rw [← h.scalar?_append hfinite hrest]
    -- a number begins with no bracket, so the depth that is left does not matter
    obtain ⟨c, tail, rfl, -, hbrackets⟩ := h.exists_cons
    refine value?_eq_scalar? ?_ ?_ depth _
    · rintro rfl
      exact absurd (by decide) hbrackets
    · rintro rfl
      exact absurd (by decide) hbrackets
  | string h =>
    have hstring := h.string?_append rest
    obtain ⟨h⟩ := h
    rw [List.cons_append] at hstring ⊢
    rw [value?_eq_scalar? (by decide) (by decide), scalar?, hstring]
    rfl
  | emptyArray h =>
    obtain ⟨depth, rfl, -⟩ := hwithin.items
    rw [List.cons_append, List.append_assoc, List.singleton_append, value?,
      (hread depth rfl).contents?_blank h]
    rfl
  | array h =>
    obtain ⟨depth, rfl, hall⟩ := hwithin.items
    rw [List.cons_append, List.append_assoc, List.singleton_append, value?,
      (hread depth rfl).contents?_append (h.and hall)]
    rfl
  | emptyObject h =>
    obtain ⟨depth, rfl, -⟩ := hwithin.members
    rw [List.cons_append, List.append_assoc, List.singleton_append, value?,
      (hread depth rfl).member?.contents?_blank h]
    rfl
  | object h =>
    obtain ⟨depth, rfl, hall⟩ := hwithin.members
    rw [List.cons_append, List.append_assoc, List.singleton_append, value?,
      (hread depth rfl).member?.contents?_append (h.and hall)]
    rfl

theorem readable_of_inner {depth : Nat}
    (hread : ∀ inner, depth = inner + 1 →
      Readable ']' (value? inner) fun cs v => Written cs v ∧ Within inner v) :
    Readable ']' (value? depth) fun cs v => Written cs v ∧ Within depth v where
  closes := by decide
  exists_cons := fun ⟨h, _⟩ => by
    obtain ⟨c, rest, hcs, hspace, hclose, -⟩ := h.exists_cons
    exact ⟨c, rest, hcs, hspace, hclose⟩
  item_append := fun ⟨h, hwithin⟩ hrest => h.value?_append hwithin hread hrest

/-- **Values within the limits are read**, whatever follows them. -/
theorem readable_value? (depth : Nat) :
    Readable ']' (value? depth) fun cs v => Written cs v ∧ Within depth v := by
  induction depth with
  | zero => exact readable_of_inner fun inner h => absurd h.symm (Nat.succ_ne_zero inner)
  | succ depth ih =>
    refine readable_of_inner fun inner h => ?_
    obtain rfl := Nat.succ_inj.mp h
    exact ih

/-! ## Whole texts -/

theorem follows_blank {blank : List Char} (h : Blank blank) : Follows blank := by
  have hnil : Follows [] := fun _ hc => nomatch hc
  rw [← List.append_nil blank]
  exact hnil.blank_append h

/-- **A whole text within the limits is read as its value.** -/
theorem Document.parse?_eq {cs : List Char} {v : Json} (h : Document cs v)
    (hwithin : Within maxDepth v) : parse? cs = some v := by
  obtain @⟨before, cs, behind, v, hbefore, h, hbehind⟩ := h
  obtain ⟨c, rest, rfl, hspace, -⟩ := h.exists_cons
  rw [parse?, skipSpace_append hbefore, List.cons_append, skipSpace_cons hspace, ← List.cons_append,
    (readable_value? maxDepth).item_append ⟨h, hwithin⟩ (follows_blank hbehind)]
  simp only
  rw [skipSpace_blank hbehind]
  rfl

theorem unsigned?_ne_array {negative : Bool} {cs rest : List Char} {items : List Json} :
    unsigned? negative cs ≠ some (.array items, rest) := by
  intro h
  unfold unsigned? at h
  split at h
  · cases h
  · split at h
    · cases h
    · split at h
      · cases h
      · simp only at h
        split at h <;> cases h

theorem scalar?_ne_array {cs rest : List Char} {items : List Json} :
    scalar? cs ≠ some (.array items, rest) := by
  intro h
  unfold scalar? at h
  split at h
  · cases h
  · cases h
  · cases h
  · obtain ⟨_, -, heq⟩ := Option.map_eq_some_iff.mp h
    cases heq
  · exact unsigned?_ne_array h
  · exact unsigned?_ne_array h

/-- An array is read only where there is an opening bracket. -/
theorem head?_of_value?_eq_array {depth : Nat} {cs rest : List Char} {items : List Json}
    (h : value? depth cs = some (.array items, rest)) : cs.head? = some '[' := by
  unfold value? at h
  split at h
  · rfl
  · obtain ⟨_, -, heq⟩ := Option.map_eq_some_iff.mp h
    cases heq
  · exact absurd h scalar?_ne_array

/-- **No array is read where there is no opening bracket** behind the blanks. -/
theorem parse?_ne_array {blank rest : List Char} {c : Char} (hblank : Blank blank)
    (hspace : isSpace c = false) (hc : c ≠ '[') (items : List Json) :
    parse? (blank ++ c :: rest) ≠ some (.array items) := by
  intro h
  rw [parse?, skipSpace_append hblank, skipSpace_cons hspace] at h
  split at h
  · cases h
  · rename_i heq
    split at h
    · cases h
      exact hc (Option.some.inj (head?_of_value?_eq_array heq))
    · cases h

/-- A text of a value that is no array has no opening bracket behind its blanks. -/
theorem Document.exists_cons {cs : List Char} {v : Json} (h : Document cs v)
    (hv : ∀ items, v ≠ .array items) :
    ∃ blank c rest, cs = blank ++ c :: rest ∧ Blank blank ∧ isSpace c = false ∧ c ≠ '[' := by
  obtain @⟨before, cs, behind, v, hbefore, h, -⟩ := h
  obtain ⟨c, rest, rfl, hspace, -, harray⟩ := h.exists_cons
  refine ⟨before, c, rest ++ behind, rfl, hbefore, hspace, fun hc => ?_⟩
  obtain ⟨items, rfl⟩ := harray hc
  exact hv items rfl

end NodeBalancer.Json
