/-!
# Pieces that are joined and cut

A text that is made of pieces with a separator between them holds the separator and what the pieces
hold.  Cut at a separator that is in no piece, it falls into the pieces again.
-/

namespace NodeBalancer.Text

theorem eq_or_mem_of_mem_intercalate {sep c : Char} {pieces : List (List Char)}
    (h : c ∈ [sep].intercalate pieces) : c = sep ∨ ∃ piece ∈ pieces, c ∈ piece := by
  induction pieces with
  | nil => cases h
  | cons piece pieces ih =>
    cases pieces with
    | nil =>
      rw [List.intercalate_singleton] at h
      exact .inr ⟨piece, List.mem_singleton_self _, h⟩
    | cons next pieces =>
      rw [List.intercalate_cons_cons, List.mem_append, List.mem_append, List.mem_singleton] at h
      rcases h with (h | h) | h
      · exact .inr ⟨piece, List.mem_cons_self, h⟩
      · exact .inl h
      · rcases ih h with h | ⟨found, hfound, hc⟩
        · exact .inl h
        · exact .inr ⟨found, List.mem_cons_of_mem _ hfound, hc⟩

theorem not_mem_intercalate {sep c : Char} {pieces : List (List Char)} (hsep : c ≠ sep)
    (h : ∀ piece ∈ pieces, c ∉ piece) : c ∉ [sep].intercalate pieces := by
  intro hc
  rcases eq_or_mem_of_mem_intercalate hc with hc | ⟨piece, hpiece, hc⟩
  · exact hsep hc
  · exact h piece hpiece hc

theorem not_mem_of_splitOn {sep c : Char} {cs : List Char} (hsep : c ≠ sep)
    (h : ∀ piece ∈ cs.splitOn sep, c ∉ piece) : c ∉ cs := by
  have hjoined : [sep].intercalate (cs.splitOn sep) = cs := List.intercalate_splitOn sep
  rw [← hjoined]
  exact not_mem_intercalate hsep h

/-- A cut leaves no separator in any piece. -/
theorem not_mem_of_mem_splitOn {sep : Char} {cs piece : List Char} (h : piece ∈ cs.splitOn sep) :
    sep ∉ piece := by
  induction cs generalizing piece with
  | nil =>
    rw [List.splitOn_nil, List.mem_singleton] at h
    exact h ▸ List.not_mem_nil
  | cons c cs ih =>
    obtain ⟨first, rest, hcut⟩ := List.exists_cons_of_ne_nil (List.splitOn_ne_nil sep cs)
    rw [List.splitOn_cons_eq_if_modifyHead, hcut] at h
    rw [hcut] at ih
    split at h
    · rcases List.mem_cons.mp h with rfl | h
      · exact List.not_mem_nil
      · exact ih h
    · next hc =>
      rcases List.mem_cons.mp h with rfl | h
      · have hfirst := ih List.mem_cons_self
        rintro (_ | ⟨_, hmem⟩)
        · exact hc (beq_self_eq_true sep)
        · exact hfirst hmem
      · exact ih (List.mem_cons_of_mem _ h)

theorem takeWhile_ne_self {sep : Char} {cs : List Char} (h : sep ∉ cs) :
    cs.takeWhile (· != sep) = cs := by
  have hall : ∀ c ∈ cs, (c != sep) = true := fun c hc => bne_iff_ne.mpr fun he => h (he ▸ hc)
  have hcut : (cs ++ []).takeWhile (· != sep) = cs ++ [] := List.takeWhile_append_of_pos hall
  rwa [List.append_nil] at hcut

theorem dropWhile_ne_nil {sep : Char} {cs : List Char} (h : sep ∉ cs) :
    cs.dropWhile (· != sep) = [] := by
  have hall : ∀ c ∈ cs, (c != sep) = true := fun c hc => bne_iff_ne.mpr fun he => h (he ▸ hc)
  have hcut : (cs ++ []).dropWhile (· != sep) = [] := List.dropWhile_append_of_pos hall
  rwa [List.append_nil] at hcut

/-- What stands before the first separator. -/
theorem takeWhile_ne_append {sep : Char} {cs : List Char} (h : sep ∉ cs) (rest : List Char) :
    (cs ++ sep :: rest).takeWhile (· != sep) = cs := by
  rw [List.takeWhile_append_of_pos, List.takeWhile_cons_of_neg, List.append_nil]
  · simp
  · intro c hc
    exact bne_iff_ne.mpr fun he => h (he ▸ hc)

theorem dropWhile_ne_append {sep : Char} {cs : List Char} (h : sep ∉ cs) (rest : List Char) :
    (cs ++ sep :: rest).dropWhile (· != sep) = sep :: rest := by
  rw [List.dropWhile_append_of_pos, List.dropWhile_cons_of_neg]
  · simp
  · intro c hc
    exact bne_iff_ne.mpr fun he => h (he ▸ hc)

/-- Two texts that are cut at their first separators have the same pieces. -/
theorem append_inj_of_first {sep : Char} {xs ys xs' ys' : List Char} (h : sep ∉ xs) (h' : sep ∉ xs')
    (heq : xs ++ sep :: ys = xs' ++ sep :: ys') : xs = xs' ∧ ys = ys' := by
  have hfront := congrArg (List.takeWhile (· != sep)) heq
  have hbehind := congrArg (List.dropWhile (· != sep)) heq
  rw [takeWhile_ne_append h, takeWhile_ne_append h'] at hfront
  rw [dropWhile_ne_append h, dropWhile_ne_append h'] at hbehind
  exact ⟨hfront, (List.cons.inj hbehind).2⟩

/-- Two texts that are cut at their last separators have the same pieces. -/
theorem append_inj_of_last {sep : Char} {xs ys xs' ys' : List Char} (h : sep ∉ ys) (h' : sep ∉ ys')
    (heq : xs ++ sep :: ys = xs' ++ sep :: ys') : xs = xs' ∧ ys = ys' := by
  have hreverse := congrArg List.reverse heq
  simp only [List.reverse_append, List.reverse_cons, List.append_assoc, List.singleton_append]
    at hreverse
  obtain ⟨hbehind, hfront⟩ := append_inj_of_first (by simpa using h) (by simpa using h') hreverse
  exact ⟨List.reverse_inj.mp hfront, List.reverse_inj.mp hbehind⟩

end NodeBalancer.Text
