import Mathlib.Data.List.DropRight
import NodeBalancer.Text.Blank

/-!
# Blanks around a text

Every text is one text without blanks at its ends, with blanks around it, and it is so in one way
only.  Trimming finds that text.

* `Trimmed`: no blank stands at either end.
* `Padded`: a text with any number of blanks in front of it and behind it.
* `trim_eq_iff`: trimming gives a text if it is that text with blanks around it.
-/

namespace NodeBalancer.Text

/-- Nothing but blanks. -/
def Blank (cs : List Char) : Prop :=
  ∀ c ∈ cs, isBlank c = true

/-- No blank stands at either end. -/
structure Trimmed (cs : List Char) : Prop where
  head : ∀ c ∈ cs.head?, isBlank c = false
  last : ∀ c ∈ cs.getLast?, isBlank c = false

/-- A text with any number of blanks in front of it and behind it. -/
inductive Padded (cs : List Char) : List Char → Prop
  | intro {before behind : List Char} (hbefore : Blank before) (hbehind : Blank behind) :
      Padded cs (before ++ (cs ++ behind))

variable {cs text : List Char}

theorem trimmed_nil : Trimmed [] :=
  ⟨nofun, nofun⟩

/-- A text without any blank has none at its ends. -/
theorem Trimmed.of_forall (h : ∀ c ∈ cs, isBlank c = false) : Trimmed cs :=
  ⟨fun c hc => h c (List.mem_of_mem_head? hc), fun c hc => h c (List.mem_of_mem_getLast? hc)⟩

theorem padded_nil_iff : Padded [] text ↔ Blank text := by
  constructor
  · rintro ⟨hbefore, hbehind⟩ c hc
    rcases List.mem_append.mp hc with hc | hc
    · exact hbefore c hc
    · exact hbehind c hc
  · intro h
    have hpadded : Padded [] ([] ++ ([] ++ text)) := .intro nofun h
    exact hpadded

theorem padded_self (cs : List Char) : Padded cs cs := by
  have hpadded : Padded cs ([] ++ (cs ++ [])) := .intro nofun nofun
  rwa [List.append_nil] at hpadded

theorem Padded.subset (h : Padded cs text) : cs ⊆ text := by
  cases h with
  | intro => exact fun c hc => List.mem_append_right _ (List.mem_append_left _ hc)

/-! ## Trimming -/

theorem trimStart_append {before : List Char} (h : Blank before) (cs : List Char) :
    trimStart (before ++ cs) = trimStart cs :=
  List.dropWhile_append_of_pos h

theorem trimEnd_append {behind : List Char} (h : Blank behind) (cs : List Char) :
    trimEnd (cs ++ behind) = trimEnd cs := by
  have hreverse : Blank behind.reverse := fun c hc => h c (List.mem_reverse.mp hc)
  rw [trimEnd, trimEnd, List.reverse_append, List.dropWhile_append_of_pos hreverse]

theorem trimStart_of_head (h : ∀ c ∈ cs.head?, isBlank c = false) : trimStart cs = cs := by
  cases cs with
  | nil => rfl
  | cons c cs => exact List.dropWhile_cons_of_neg (by simp [h c rfl])

theorem trimEnd_of_last (h : ∀ c ∈ cs.getLast?, isBlank c = false) : trimEnd cs = cs := by
  have hreverse : trimStart cs.reverse = cs.reverse :=
    trimStart_of_head fun c hc => h c (by rwa [List.head?_reverse] at hc)
  rw [trimEnd, ← trimStart, hreverse, List.reverse_reverse]

/-- Blanks around a text do not keep it from being found. -/
theorem Padded.trim_eq (hpadded : Padded cs text) (h : Trimmed cs) : trim text = cs := by
  cases hpadded with
  | @intro before behind hbefore hbehind =>
    cases cs with
    | nil =>
      have hblank := padded_nil_iff.mp (.intro hbefore hbehind)
      rw [trim, trimStart, List.dropWhile_eq_nil_iff.mpr hblank]
      rfl
    | cons c cs =>
      have hfirst : trimStart (c :: cs ++ behind) = c :: cs ++ behind :=
        trimStart_of_head fun d hd => h.head d hd
      rw [trim, trimStart_append hbefore, hfirst, trimEnd_append hbehind, trimEnd_of_last h.last]

theorem trim_append_rtakeWhile (text : List Char) :
    trim text ++ (trimStart text).rtakeWhile isBlank = trimStart text :=
  List.rdropWhile_append_rtakeWhile

theorem padded_trim (text : List Char) : Padded (trim text) text := by
  have hstart : text.takeWhile isBlank ++ trimStart text = text := List.takeWhile_append_dropWhile
  have hpadded : Padded (trim text) (text.takeWhile isBlank ++
      (trim text ++ (trimStart text).rtakeWhile isBlank)) :=
    .intro (fun c => List.mem_takeWhile_imp) (fun c => List.mem_rtakeWhile_imp)
  rwa [trim_append_rtakeWhile, hstart] at hpadded

theorem trimmed_trim (text : List Char) : Trimmed (trim text) where
  head c hc := by
    have hfirst : (trimStart text).head? = some c := by
      rw [← trim_append_rtakeWhile, List.head?_append, hc, Option.some_or]
    have hnot := List.head?_dropWhile_not isBlank text
    rwa [← trimStart, hfirst] at hnot
  last c hc := by
    have hne : trim text ≠ [] := by
      intro hnil
      rw [hnil] at hc
      cases hc
    have hnot := List.rdropWhile_last_not isBlank (trimStart text) hne
    rw [List.getLast?_eq_some_getLast hne, Option.mem_some_iff] at hc
    rw [← hc]
    exact Bool.eq_false_iff.mpr hnot

/-- **Trimming gives a text without blanks at its ends if the whole is that text with blanks
around it.** -/
theorem trim_eq_iff (h : Trimmed cs) : trim text = cs ↔ Padded cs text := by
  constructor
  · rintro rfl
    exact padded_trim text
  · intro hpadded
    exact hpadded.trim_eq h

theorem trim_eq_nil_iff : trim text = [] ↔ Blank text := by
  rw [trim_eq_iff trimmed_nil, padded_nil_iff]

end NodeBalancer.Text
