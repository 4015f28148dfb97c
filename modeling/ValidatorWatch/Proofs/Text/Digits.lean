import Mathlib.Algebra.Group.Nat.Defs
import ValidatorWatch.Decimal.Written
import ValidatorWatch.Text.Blank
/-!
# Runs of digits

What is written with `Decimal.digitsText` is read with `Text.natOfDigits`, and
a reader that takes digits as long as there are some stops where they end
(`Starts`).
-/

namespace ValidatorWatch.Text

/-- Nothing, or a text whose first character passes a test. -/
def Starts (p : Char → Bool) (rest : List Char) : Prop :=
  ∀ c ∈ rest.head?, p c = true

namespace Starts

variable {p q : Char → Bool} {c : Char} {rest : List Char}

@[simp] theorem nil : Starts p [] := by
  simp [Starts]

@[simp] theorem cons_iff : Starts p (c :: rest) ↔ p c = true := by
  simp [Starts]

theorem mono (h : Starts p rest) (hpq : ∀ c, p c = true → q c = true) : Starts q rest :=
  fun c hc => hpq c (h c hc)

end Starts

variable {p : Char → Bool} {cs ds rest : List Char}

theorem takeWhile_of_starts (h : Starts (fun c => !p c) rest) : rest.takeWhile p = [] := by
  cases rest with
  | nil => rfl
  | cons c rest => exact List.takeWhile_cons_of_neg (by simpa using h)

theorem dropWhile_of_starts (h : Starts (fun c => !p c) rest) : rest.dropWhile p = rest := by
  cases rest with
  | nil => rfl
  | cons c rest => exact List.dropWhile_cons_of_neg (by simpa using h)

theorem takeWhile_append (hcs : ∀ c ∈ cs, p c = true) (h : Starts (fun c => !p c) rest) :
    (cs ++ rest).takeWhile p = cs := by
  rw [List.takeWhile_append_of_pos hcs, takeWhile_of_starts h, List.append_nil]

theorem dropWhile_append (hcs : ∀ c ∈ cs, p c = true) (h : Starts (fun c => !p c) rest) :
    (cs ++ rest).dropWhile p = rest := by
  rw [List.dropWhile_append_of_pos hcs, dropWhile_of_starts h]

/-! ## Numbers -/

/-- Nothing but digits. -/
def AllDigits (cs : List Char) : Prop :=
  ∀ c ∈ cs, c.isDigit = true

namespace AllDigits

theorem append (h : AllDigits cs) (h' : AllDigits ds) : AllDigits (cs ++ ds) :=
  List.forall_mem_append.2 ⟨h, h'⟩

theorem zeros (n : Nat) : AllDigits (List.replicate n '0') := by
  intro c hc
  rw [List.eq_of_mem_replicate hc]
  rfl

theorem digitsText (n : Nat) : AllDigits (Decimal.digitsText n) :=
  fun _ hc => Nat.isDigit_of_mem_toDigits (by decide) (by decide) hc

theorem take (h : AllDigits cs) (n : Nat) : AllDigits (cs.take n) :=
  fun c hc => h c (List.mem_of_mem_take hc)

theorem drop (h : AllDigits cs) (n : Nat) : AllDigits (cs.drop n) :=
  fun c hc => h c (List.mem_of_mem_drop hc)

end AllDigits

theorem natOfDigits_eq (cs : List Char) : natOfDigits cs = Nat.ofDigitChars 10 cs 0 := by
  simp only [natOfDigits, Nat.ofDigitChars, Nat.mul_comm]

theorem natOfDigits_append (cs ds : List Char) :
    natOfDigits (cs ++ ds) = natOfDigits cs * 10 ^ ds.length + natOfDigits ds := by
  rw [natOfDigits_eq, Nat.ofDigitChars_append, Nat.ofDigitChars_eq_ofDigitChars_zero,
    ← natOfDigits_eq, ← natOfDigits_eq, Nat.mul_comm]

@[simp] theorem natOfDigits_zeros (n : Nat) : natOfDigits (List.replicate n '0') = 0 := by
  rw [natOfDigits_eq, Nat.ofDigitChars_replicate_zero, Nat.mul_zero]

@[simp] theorem natOfDigits_digitsText (n : Nat) : natOfDigits (Decimal.digitsText n) = n := by
  rw [natOfDigits_eq, Decimal.digitsText, Nat.ofDigitChars_ten_toDigits]

end ValidatorWatch.Text

namespace ValidatorWatch.Decimal

open Text (AllDigits)

theorem digitsText_ne_nil (n : Nat) : digitsText n ≠ [] :=
  Nat.toDigits_ne_nil

theorem length_digitsText_le_iff {n k : Nat} (hk : 0 < k) : (digitsText n).length ≤ k ↔ n < 10 ^ k :=
  Nat.length_toDigits_le_iff (by decide) hk

/-- A positive number is not written with a zero in front. -/
theorem head_digitsText {n : Nat} (hn : 0 < n) : (digitsText n).head? ≠ some '0' := by
  induction n using Nat.strongRecOn with
  | _ n ih =>
    rcases Nat.lt_or_ge n 10 with hlt | hge
    · have hdigit : ∀ m < 10, 0 < m → [m.digitChar].head? ≠ some '0' := by decide
      rw [digitsText, Nat.toDigits_of_lt_base hlt]
      exact hdigit n hlt hn
    · have hhead := ih (n / 10) (by omega) (by omega)
      rw [digitsText, Nat.toDigits_of_base_le (by decide) hge, List.head?_append]
      cases h : (Nat.toDigits 10 (n / 10)).head? with
      | none => exact absurd (List.head?_eq_none_iff.1 h) Nat.toDigits_ne_nil
      | some c =>
        rw [digitsText, h] at hhead
        exact hhead

end ValidatorWatch.Decimal
