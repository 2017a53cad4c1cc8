import Mathlib.Data.List.Forall2
import NodeBalancer.Config.Environment
import NodeBalancer.Proofs.Text.Blank
import NodeBalancer.Proofs.Text.Digits
import NodeBalancer.Proofs.Text.Joined

/-!
# What variables say

A variable is text, and what it says is a matter of grammar: nodes between commas, the name of a
scheme in any case, a numeral, the last two kinds each read off the whole text.  Every reader takes
the texts of its grammar and no others, each for what it says.

* `Lists`: the texts that list nodes.  `nodeNames_eq_iff`: they are read as those nodes.
* `Spells`: the texts that spell a scheme.  `parse_eq_ok_iff`, `parse_eq_error_iff`.
* `Shows`: the texts that show a number.  `number_eq_ok_iff`, `number_eq_error_iff`.
-/

namespace NodeBalancer

/-! ## Schemes -/

namespace Scheme

/-- The letters of the name, each in either case. -/
def Spells (scheme : Scheme) (text : String) : Prop :=
  List.Forall₂ (fun letter c => c = letter ∨ c = letter.toUpper) scheme.name.toList text.toList

theorem toLower_eq_iff {letter c : Char} (h : letter.isLower = true) :
    c.toLower = letter ↔ c = letter ∨ c = letter.toUpper := by
  have hlower : (decide ('a'.val ≤ letter.val) && decide (letter.val ≤ 'z'.val)) = true := h
  rw [Bool.and_eq_true, decide_eq_true_eq, decide_eq_true_eq] at hlower
  unfold Char.toLower Char.toUpper
  rw [dif_pos hlower]
  split <;> simp only [Char.ext_iff] <;> grind

theorem map_toLower_eq_iff {letters cs : List Char} (h : ∀ letter ∈ letters, letter.isLower = true) :
    cs.map Char.toLower = letters ↔
      List.Forall₂ (fun letter c => c = letter ∨ c = letter.toUpper) letters cs := by
  induction letters generalizing cs with
  | nil => simp
  | cons letter letters ih =>
    cases cs with
    | nil => simp
    | cons c cs =>
      obtain ⟨hletter, hletters⟩ := List.forall_mem_cons.mp h
      rw [List.forall₂_cons, ← ih hletters, List.map_cons, List.cons.injEq, toLower_eq_iff hletter]

theorem spells_iff (scheme : Scheme) (text : String) :
    scheme.Spells text ↔ text.toList.map Char.toLower = scheme.name.toList := by
  refine (map_toLower_eq_iff ?_).symm
  cases scheme <;> simp [Scheme.name]

theorem parse_eq_ok_iff {text : String} {scheme : Scheme} :
    Scheme.parse text = .ok scheme ↔ scheme.Spells text := by
  rw [spells_iff]
  unfold Scheme.parse
  have hhttp : Scheme.http.name.toList = ['h', 't', 't', 'p'] := by decide
  have hhttps : Scheme.https.name.toList = ['h', 't', 't', 'p', 's'] := by decide
  cases scheme <;> simp only [hhttp, hhttps] <;> grind

theorem parse_eq_error_iff {text : String} {error : Error} :
    Scheme.parse text = .error error ↔
      (∀ scheme : Scheme, ¬ scheme.Spells text) ∧ error = .invalidScheme text := by
  have hnone : (∀ scheme : Scheme, ¬ scheme.Spells text) ↔
      ∀ scheme, Scheme.parse text ≠ .ok scheme := by
    simp only [ne_eq, parse_eq_ok_iff]
  rw [hnone]
  unfold Scheme.parse
  grind

end Scheme

namespace Environment

/-! ## Lists of nodes -/

/-- A node as it can stand in a list: not empty, without a comma and without blanks at its ends. -/
structure IsNode (node : String) : Prop where
  ne_empty : node ≠ ""
  comma_not_mem : ',' ∉ node.toList
  trimmed : Text.Trimmed node.toList

/-- The pieces between the commas: each node with blanks around it, and pieces of nothing but
blanks anywhere between them. -/
inductive Pieces : List String → List (List Char) → Prop
  | nil : Pieces [] []
  | blank {piece : List Char} (h : Text.Blank piece) {nodes : List String}
      {pieces : List (List Char)} (rest : Pieces nodes pieces) : Pieces nodes (piece :: pieces)
  | node {node : String} (h : IsNode node) {piece : List Char}
      (hpadded : Text.Padded node.toList piece) {nodes : List String} {pieces : List (List Char)}
      (rest : Pieces nodes pieces) : Pieces (node :: nodes) (piece :: pieces)

/-- A text that lists nodes, with a comma after each piece but the last. -/
def Lists (nodes : List String) (text : String) : Prop :=
  ∃ pieces, Pieces nodes pieces ∧ text.toList = [','].intercalate pieces

/-- What is left of the pieces. -/
def names (pieces : List (List Char)) : List String :=
  ((pieces.map Text.trim).filter (!·.isEmpty)).map String.ofList

theorem names_cons_of_nil {piece : List Char} (h : Text.trim piece = [])
    (pieces : List (List Char)) : names (piece :: pieces) = names pieces := by
  simp [names, h]

theorem names_cons_of_ne_nil {piece : List Char} (h : Text.trim piece ≠ [])
    (pieces : List (List Char)) :
    names (piece :: pieces) = String.ofList (Text.trim piece) :: names pieces := by
  simp [names, h]

theorem Pieces.isNode {nodes : List String} {pieces : List (List Char)} (h : Pieces nodes pieces) :
    ∀ node ∈ nodes, IsNode node := by
  induction h with
  | nil => exact nofun
  | blank _ _ ih => exact ih
  | node h _ _ ih => exact List.forall_mem_cons.mpr ⟨h, ih⟩

theorem comma_not_mem_blank {cs : List Char} (h : Text.Blank cs) : ',' ∉ cs := by
  intro hmem
  exact absurd (h _ hmem) (by decide)

theorem Pieces.comma_not_mem {nodes : List String} {pieces : List (List Char)}
    (h : Pieces nodes pieces) : ∀ piece ∈ pieces, ',' ∉ piece := by
  induction h with
  | nil => exact nofun
  | blank h _ ih => exact List.forall_mem_cons.mpr ⟨comma_not_mem_blank h, ih⟩
  | node h hpadded _ ih =>
    refine List.forall_mem_cons.mpr ⟨?_, ih⟩
    obtain ⟨hbefore, hbehind⟩ := hpadded
    simp [comma_not_mem_blank hbefore, h.comma_not_mem, comma_not_mem_blank hbehind]

theorem Pieces.names_eq {nodes : List String} {pieces : List (List Char)}
    (h : Pieces nodes pieces) : names pieces = nodes := by
  induction h with
  | nil => rfl
  | blank h _ ih => rw [names_cons_of_nil (Text.trim_eq_nil_iff.mpr h), ih]
  | @node node h piece hpadded _ _ _ ih =>
    have htrim : Text.trim piece = node.toList := hpadded.trim_eq h.trimmed
    have hne : Text.trim piece ≠ [] := by
      rw [htrim]
      exact fun hnil => h.ne_empty (String.toList_eq_nil_iff.mp hnil)
    rw [names_cons_of_ne_nil hne, htrim, String.ofList_toList, ih]

theorem pieces_names {pieces : List (List Char)} (h : ∀ piece ∈ pieces, ',' ∉ piece) :
    Pieces (names pieces) pieces := by
  induction pieces with
  | nil => exact .nil
  | cons piece pieces ih =>
    obtain ⟨hpiece, hrest⟩ := List.forall_mem_cons.mp h
    by_cases hnil : Text.trim piece = []
    · rw [names_cons_of_nil hnil]
      exact .blank (Text.trim_eq_nil_iff.mp hnil) (ih hrest)
    · rw [names_cons_of_ne_nil hnil]
      have hpadded := Text.padded_trim piece
      refine .node ⟨?_, ?_, ?_⟩ ?_ (ih hrest)
      · exact fun hempty => hnil (String.ofList_eq_empty_iff.mp hempty)
      · rw [String.toList_ofList]
        exact fun hmem => hpiece (hpadded.subset hmem)
      · rw [String.toList_ofList]
        exact Text.trimmed_trim piece
      · rwa [String.toList_ofList]

/-- **A text is read as the nodes that it lists.** -/
theorem nodeNames_eq_iff {text : String} {nodes : List String} :
    nodeNames text = nodes ↔ Lists nodes text := by
  constructor
  · rintro rfl
    refine ⟨text.toList.splitOn ',', pieces_names fun piece => Text.not_mem_of_mem_splitOn, ?_⟩
    exact (List.intercalate_splitOn ',').symm
  · rintro ⟨pieces, hpieces, htext⟩
    cases pieces with
    | nil =>
      cases hpieces
      rw [nodeNames, htext]
      rfl
    | cons piece pieces =>
      have hcut : text.toList.splitOn ',' = piece :: pieces := by
        rw [htext]
        exact List.splitOn_intercalate ',' hpieces.comma_not_mem (List.cons_ne_nil _ _)
      have hnames := hpieces.names_eq
      rwa [← hcut] at hnames

/-! ## Numbers -/

/-- A text that shows a number: a numeral with blanks around it. -/
def Shows (text : String) (n : Nat) : Prop :=
  ∃ cs, Text.Numeral cs n ∧ Text.Padded cs text.toList

theorem trimmed_of_numeral {cs : List Char} {n : Nat} (h : Text.Numeral cs n) : Text.Trimmed cs := by
  have hdigits : ∀ {cs : List Char}, Text.Digits 10 cs n → ∀ c ∈ cs, Text.isBlank c = false := by
    intro cs h c hc
    obtain ⟨value, hvalue⟩ := h.isDigit_of_mem hc
    rw [hvalue.eq_digitChar]
    have hall : ∀ value < 10, Text.isBlank value.digitChar = false := by decide
    exact hall value hvalue.1
  refine .of_forall ?_
  cases h with
  | plain h => exact hdigits h
  | signed h => exact List.forall_mem_cons.mpr ⟨by decide, hdigits h⟩

theorem numeral?_trim_eq_some_iff {bound n : Nat} {text : String} :
    Text.numeral? bound (Text.trim text.toList) = some n ↔ Shows text n ∧ n < bound := by
  rw [Text.numeral?_eq_some_iff]
  refine and_congr_left fun _ => ⟨fun h => ⟨_, h, Text.padded_trim _⟩, ?_⟩
  rintro ⟨cs, hcs, hpadded⟩
  rwa [hpadded.trim_eq (trimmed_of_numeral hcs)]

theorem Shows.unique {text : String} {n k : Nat} (hn : Shows text n) (hk : Shows text k) :
    n = k := by
  have hsome := numeral?_trim_eq_some_iff.mpr ⟨hn, show n < max n k + 1 by omega⟩
  rw [numeral?_trim_eq_some_iff.mpr ⟨hk, show k < max n k + 1 by omega⟩] at hsome
  exact (Option.some_inj.mp hsome).symm

theorem exists_shows_or_forall_le (text : String) (bound : Nat) :
    (∃ n, Shows text n ∧ n < bound) ∨ ∀ n, Shows text n → bound ≤ n :=
  or_iff_not_imp_left.mpr fun hnone n hn => Nat.le_of_not_lt fun hlt => hnone ⟨n, hn, hlt⟩

variable {variableName text : String} {bound : Nat}

theorem number_eq_ok_iff {n : Nat} :
    number variableName text bound = .ok n ↔ Shows text n ∧ n < bound := by
  rw [← numeral?_trim_eq_some_iff, number]
  cases Text.numeral? bound (Text.trim text.toList) <;> simp

/-- The error for a variable that shows no number in the range that is read. -/
def notNumber (variableName text : String) : Error :=
  .invalidConfig (variableName ++ "=" ++ Text.quote text ++ " is not a valid number")

theorem number_eq_error_iff {error : Error} :
    number variableName text bound = .error error ↔
      (∀ n, Shows text n → bound ≤ n) ∧ error = notNumber variableName text := by
  have hnone : (∀ n, Shows text n → bound ≤ n) ↔
      Text.numeral? bound (Text.trim text.toList) = none := by
    rw [Option.eq_none_iff_forall_ne_some]
    exact forall_congr' fun n => by rw [ne_eq, numeral?_trim_eq_some_iff, not_and, not_lt]
  rw [hnone, number]
  cases Text.numeral? bound (Text.trim text.toList) <;> simp [notNumber, eq_comm]

end Environment

end NodeBalancer
