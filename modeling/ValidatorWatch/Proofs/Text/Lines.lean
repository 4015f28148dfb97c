import ValidatorWatch.Proofs.Text.Digits
/-!
# Blanks, words and lines

A text without a blank at either end is left alone by trimming, and a line is
read up to the line feed that ends it.
-/

namespace ValidatorWatch.Text

variable {c mark : Char} {cs line rest before word after : List Char}

theorem isBlank_of_visible (hlow : 32 < c.toNat) (hhigh : c.toNat < 127) : isBlank c = false := by
  simp only [isBlank, Bool.or_eq_false_iff, Bool.and_eq_false_iff, decide_eq_false_iff_not, beq_eq_false_iff_ne]
  omega

theorem isBlank_of_isDigit (h : c.isDigit = true) : isBlank c = false := by
  have hrange : 48 ≤ c.toNat ∧ c.toNat ≤ 57 := by
    simpa [Char.isDigit, UInt32.le_iff_toNat_le] using h
  exact isBlank_of_visible (by omega) (by omega)

/-! ## Trimming -/

theorem trimStart_of_starts (h : Starts (fun c => !isBlank c) rest) : trimStart rest = rest :=
  dropWhile_of_starts h

theorem trimStart_cons (h : isBlank c = false) : trimStart (c :: cs) = c :: cs :=
  trimStart_of_starts (Starts.cons_iff.2 (by rw [h]; rfl))

theorem trimEnd_cons (h : isBlank c = false) : trimEnd (c :: cs) = c :: trimEnd cs := by
  have hdrop : trimStart (cs.reverse ++ [c]) = trimStart cs.reverse ++ [c] := by
    rw [trimStart, List.dropWhile_append, trimStart]
    split
    next hnil =>
      rw [List.isEmpty_iff.1 hnil]
      exact trimStart_cons h
    next => rfl
  rw [trimEnd, List.reverse_cons, hdrop, List.reverse_append, List.reverse_singleton]
  rfl

/-- What has no blank at the start keeps its first character. -/
theorem trimChars_cons (h : isBlank c = false) : trimChars (c :: cs) = c :: trimEnd cs := by
  rw [trimChars, trimStart_cons h, trimEnd_cons h]

/-- What has no blank at either end is not trimmed. -/
theorem trimChars_of_ends (h : Starts (fun c => !isBlank c) cs) (h' : Starts (fun c => !isBlank c) cs.reverse) :
    trimChars cs = cs := by
  rw [trimChars, trimStart_of_starts h, trimEnd, trimStart_of_starts h', List.reverse_reverse]

/-! ## Words -/

theorem starts_of_forall {p : Char → Bool} (h : ∀ c ∈ cs, p c = true) : Starts p cs :=
  fun c hc => h c (List.mem_of_mem_head? hc)

theorem trimChars_word (h : ∀ c ∈ word, (!isBlank c) = true) : trimChars word = word :=
  trimChars_of_ends (starts_of_forall h) (starts_of_forall fun c hc => h c (List.mem_reverse.1 hc))

/-- Blanks around a word are trimmed. -/
theorem trimChars_between (hbefore : ∀ c ∈ before, isBlank c = true) (hafter : ∀ c ∈ after, isBlank c = true)
    (hword : ∀ c ∈ word, (!isBlank c) = true) (hne : word ≠ []) : trimChars (before ++ word ++ after) = word := by
  obtain ⟨c, rest, rfl⟩ := List.exists_cons_of_ne_nil hne
  have hstart : trimStart (before ++ (c :: rest ++ after)) = c :: rest ++ after :=
    dropWhile_append hbefore (Starts.cons_iff.2 (hword c List.mem_cons_self))
  have hend : trimStart (after.reverse ++ (c :: rest).reverse) = (c :: rest).reverse :=
    dropWhile_append (fun c hc => hafter c (List.mem_reverse.1 hc))
      (starts_of_forall fun c hc => hword c (List.mem_reverse.1 hc))
  rw [trimChars, List.append_assoc, hstart, trimEnd, List.reverse_append, hend, List.reverse_reverse]

theorem firstWord_blank (hc : isBlank c = true) (h : ∀ c ∈ word, (!isBlank c) = true) (hne : word ≠ []) :
    firstWord (c :: word) = some word := by
  have htrim : trimStart (c :: word) = word := by
    rw [trimStart, List.dropWhile_cons_of_pos hc]
    exact trimStart_of_starts (starts_of_forall h)
  have htake : word.takeWhile (fun c => !isBlank c) = word := by
    simpa using takeWhile_append h Starts.nil
  rw [firstWord, htrim, htake]
  split
  next => exact absurd rfl hne
  next => rfl

/-! ## Lines -/

theorem pieces_append (h : mark ∉ line) : pieces mark (line ++ mark :: rest) = line :: pieces mark rest := by
  induction line with
  | nil => rw [List.nil_append, pieces, if_pos rfl]
  | cons c line ih =>
    obtain ⟨hc, hline⟩ := List.ne_and_not_mem_of_not_mem_cons h
    rw [List.cons_append, pieces, if_neg (Ne.symm hc), ih hline]

theorem lines_append (h : '\n' ∉ line) : lines (line ++ '\n' :: rest) = line :: lines rest :=
  pieces_append h

end ValidatorWatch.Text
