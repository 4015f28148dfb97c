import ValidatorWatch.Proofs.Text.Lines
import ValidatorWatch.Proofs.Time.Calendar
import ValidatorWatch.Time.Stamp
/-!
# Time stamps are read back

Each part of a stamp is read as the number that was written, up to the mark
that follows it. A leap second is written as the second number sixty and read
as the nanoseconds beyond the one before it.
-/

namespace ValidatorWatch.Time

open Text (AllDigits Starts natOfDigits natOfDigits_append natOfDigits_zeros natOfDigits_digitsText
  takeWhile_append dropWhile_append)

variable {ds rest : List Char} {n width : Nat}

/-! ## Numbers of a fixed width -/

theorem allDigits_padded (width n : Nat) : AllDigits (padded width n) :=
  (AllDigits.zeros _).append (AllDigits.digitsText n)

@[simp] theorem natOfDigits_padded (width n : Nat) : natOfDigits (padded width n) = n := by
  simp only [padded, natOfDigits_append, natOfDigits_zeros, natOfDigits_digitsText, Nat.zero_mul,
    Nat.zero_add]

theorem padded_ne_nil (width n : Nat) : padded width n ≠ [] := by
  simp [padded, Decimal.digitsText_ne_nil]

theorem length_padded (hw : 0 < width) (hn : n < 10 ^ width) : (padded width n).length = width := by
  have h := (Decimal.length_digitsText_le_iff hw).2 hn
  rw [padded, List.length_append, List.length_replicate]
  omega

/-! ## Blanks -/

theorem starts_digits (hd : AllDigits ds) (hne : ds ≠ []) : Starts Char.isDigit (ds ++ rest) := by
  obtain ⟨c, ds, rfl⟩ := List.exists_cons_of_ne_nil hne
  exact Starts.cons_iff.2 (hd c (by simp))

theorem trimStart_digits (hd : AllDigits ds) (hne : ds ≠ []) : Text.trimStart (ds ++ rest) = ds ++ rest :=
  Text.trimStart_of_starts <| (starts_digits hd hne).mono fun _ hc => by rw [Text.isBlank_of_isDigit hc]; rfl

/-! ## Parts -/

/-- Digits are read up to a limit or a mark. -/
theorem readDigits?_append {most : Nat} (hd : AllDigits ds) (hne : ds ≠ [])
    (hend : ds.length = most ∨ ds.length ≤ most ∧ Starts (fun c => !c.isDigit) rest) :
    readDigits? most (ds ++ rest) = some (natOfDigits ds, rest) := by
  have htake : ((ds ++ rest).take most).takeWhile Char.isDigit = ds := by
    rcases hend with rfl | ⟨hle, hrest⟩
    · rw [List.take_left]
      simpa using takeWhile_append hd Starts.nil
    · rw [List.take_append, List.take_of_length_le hle]
      refine takeWhile_append hd ?_
      intro c hc
      refine hrest c ?_
      rw [List.head?_take] at hc
      split at hc
      · cases hc
      · exact hc
  have hempty : ds.isEmpty = false := by simpa using hne
  simp [readDigits?, htake, hempty]

theorem trimStart_padded : Text.trimStart (padded width n ++ rest) = padded width n ++ rest :=
  trimStart_digits (allDigits_padded width n) (padded_ne_nil width n)

theorem readMark?_padded {mark : Char} (h : Text.isBlank mark = false) :
    readMark? mark (mark :: (padded width n ++ rest)) = some (padded width n ++ rest) := by
  rw [readMark?, Text.trimStart_cons h]
  simp only [if_true, trimStart_padded]

theorem readPart?_padded {least most : Nat} (hlow : least ≤ n) (hhigh : n ≤ most) (hmost : most < 100) :
    readPart? least most (padded 2 n ++ rest) = some (n, rest) := by
  have hread : readDigits? 2 (padded 2 n ++ rest) = some (natOfDigits (padded 2 n), rest) :=
    readDigits?_append (allDigits_padded 2 n) (padded_ne_nil 2 n)
      (.inl (length_padded (by decide) (by omega)))
  simp [readPart?, hread, hlow, hhigh]

theorem readYear?_yearText (year : Int) :
    readYear? (yearText year ++ '-' :: rest) = some (year, '-' :: rest) := by
  have hmark : Starts (fun c => !c.isDigit) ('-' :: rest) := Starts.cons_iff.2 rfl
  have hread (most n : Nat) (h : (padded 4 n).length ≤ most) :
      readDigits? most (padded 4 n ++ '-' :: rest) = some (n, '-' :: rest) := by
    rw [readDigits?_append (allDigits_padded 4 n) (padded_ne_nil 4 n) (.inr ⟨h, hmark⟩), natOfDigits_padded]
  have hall (n : Nat) : (padded 4 n).length ≤ (padded 4 n ++ '-' :: rest).length := by
    rw [List.length_append]; omega
  rw [yearText]
  split
  next hfour =>
    simp only [Bool.and_eq_true, decide_eq_true_eq] at hfour
    have hlen : (padded 4 year.toNat).length = 4 := length_padded (by decide) (by omega)
    have hstart : Starts Char.isDigit (padded 4 year.toNat ++ '-' :: rest) :=
      starts_digits (allDigits_padded _ _) (padded_ne_nil _ _)
    unfold readYear?
    split
    next heq => rw [heq] at hstart; exact absurd (Starts.cons_iff.1 hstart) (by decide)
    next heq => rw [heq] at hstart; exact absurd (Starts.cons_iff.1 hstart) (by decide)
    next =>
      rw [hread 4 _ (by omega), Option.map_some]
      simp only [Option.some.injEq, Prod.mk.injEq, and_true]
      omega
  next hfour =>
    simp only [Bool.and_eq_true, decide_eq_true_eq] at hfour
    split
    next hneg =>
      rw [List.cons_append, readYear?, hread _ _ (hall _), Option.map_some]
      simp only [Option.some.injEq, Prod.mk.injEq, and_true]
      omega
    next hneg =>
      rw [List.cons_append, readYear?, hread _ _ (hall _), Option.map_some]
      simp only [Option.some.injEq, Prod.mk.injEq, and_true]
      omega

theorem trimStart_yearText (year : Int) :
    Text.trimStart (yearText year ++ rest) = yearText year ++ rest := by
  rw [yearText]
  split
  next => exact trimStart_padded
  next =>
    refine Text.trimStart_cons ?_
    split <;> rfl

/-- The fraction is read in nanoseconds. -/
theorem readFraction?_fractionText {nanos : Nat} (h : nanos < 1000000000)
    (hrest : Starts (fun c => !c.isDigit && c ≠ '.') rest) :
    readFraction? (fractionText nanos ++ rest) = some (nanos, rest) := by
  have hdigit : Starts (fun c => !c.isDigit) rest := hrest.mono fun c hc => (Bool.and_eq_true_iff.1 hc).1
  have hread (width n : Nat) (hw : 0 < width) (hw' : width ≤ 9) (hn : n < 10 ^ width) :
      readFraction? ('.' :: padded width n ++ rest) = some (n * 10 ^ (9 - width), rest) := by
    have hlen := length_padded hw hn
    have hempty : (padded width n).isEmpty = false := by simpa using padded_ne_nil width n
    simp [readFraction?, takeWhile_append (allDigits_padded width n) hdigit,
      dropWhile_append (allDigits_padded width n) hdigit, hempty,
      List.take_of_length_le (show (padded width n).length ≤ 9 by omega), hlen]
  rw [fractionText]
  split
  next hzero =>
    rw [List.nil_append]
    unfold readFraction?
    split
    next => simp at hrest
    next => rw [hzero]
  next hzero =>
    split
    next => rw [hread 3 _ (by decide) (by decide) (by omega)]; congr 2; omega
    next =>
      split
      next => rw [hread 6 _ (by decide) (by decide) (by omega)]; congr 2; omega
      next => rw [hread 9 _ (by decide) (by decide) (by omega)]; congr 2; omega

/-! ## Whole stamps -/

namespace Instant

theorem ofSecond?_of (t : Instant) : ofSecond? t.second t.nanos = some t := by
  rw [ofSecond?, dif_pos ⟨t.nanos_lt, t.leap_at⟩]

/-- Parts that are read one after another, with nothing behind them, make an
instant. -/
theorem ofChars?_of_parts {cs afterYear inMonth afterMonth inDay afterDay inHour afterHour inMinute afterMinute
    inSecond afterSecond afterNanos : List Char} {date : Date} {hour minute second nanos : Nat} {t : Instant}
    (hyear : readYear? (Text.trimStart cs) = some (date.year, afterYear))
    (hmonthMark : readMark? '-' afterYear = some inMonth)
    (hmonth : readPart? 1 12 inMonth = some (date.month, afterMonth))
    (hdayMark : readMark? '-' afterMonth = some inDay)
    (hday : readPart? 1 31 inDay = some (date.day, afterDay))
    (hseparator : readSeparator? afterDay = some inHour)
    (hhour : readPart? 0 23 (Text.trimStart inHour) = some (hour, afterHour))
    (hminuteMark : readMark? ':' afterHour = some inMinute)
    (hminute : readPart? 0 59 inMinute = some (minute, afterMinute))
    (hsecondMark : readMark? ':' afterMinute = some inSecond)
    (hsecond : readPart? 0 60 inSecond = some (second, afterSecond))
    (hnanos : readFraction? afterSecond = some (nanos, afterNanos))
    (hoffset : readOffset? (Text.trimStart afterNanos) = some (0, []))
    (hvalid : date.Valid) (hyears : InYears date.year) (hyears' : InYears t.date.year)
    {inMinuteSecond inSecondNanos : Nat}
    (hleap : (if second = 60 then (59, nanos + 1000000000) else (second, nanos)) = (inMinuteSecond, inSecondNanos))
    (ht : ofSecond? (date.toDay * 86400 + ((hour * 60 + minute) * 60 + inMinuteSecond) - 0 * 60) inSecondNanos =
      some t) :
    ofChars? cs = some t := by
  have read {α β : Type} {x : Option α} {f : α → Option β} {y : α} {z : β} (hx : x = some y) (hf : f y = some z) :
      (x >>= f) = some z := Option.bind_eq_some_iff.2 ⟨y, hx, hf⟩
  refine read hyear <| read hmonthMark <| read hmonth <| read hdayMark <| read hday <| read hseparator <|
    read hhour <| read hminuteMark <| read hminute <| read hsecondMark <| read hsecond <| read hnanos <|
    read hoffset ?_
  dsimp only
  rw [hleap]
  exact read ht (if_pos (by simp [hvalid, hyears, hyears']))

/-- What is written for an instant is read back. -/
theorem ofStamp?_stamp (t : Instant) (h : InYears t.date.year) : ofStamp? t.stamp = some t := by
  have hvalid : t.date.Valid := Date.valid_ofDay (t.second / 86400)
  have ⟨hmonth, hmonth', hday, hdays⟩ := hvalid
  have hday' : t.date.day ≤ 31 := by
    rw [daysInMonth] at hdays
    split at hdays <;> split at hdays <;> omega
  have htoDay : t.date.toDay = t.second / 86400 := Date.toDay_ofDay _
  have hnanos := t.nanos_lt
  have hleap := t.leap_at
  have hsecond : t.secondOfDay < 86400 := by
    rw [secondOfDay]; omega
  have hlast : 1000000000 ≤ t.nanos → t.secondOfDay % 60 = 59 := by
    rw [secondOfDay]; omega
  -- The second of the stamp is sixty exactly in a leap second.
  have hparts : (if t.secondOfDay % 60 + t.nanos / 1000000000 = 60 then
      (59, t.nanos % 1000000000 + 1000000000)
      else (t.secondOfDay % 60 + t.nanos / 1000000000, t.nanos % 1000000000)) =
        (t.secondOfDay % 60, t.nanos) := by
    split
    next => rw [Prod.mk.injEq]; omega
    next => rw [Prod.mk.injEq]; omega
  have hsum : t.date.toDay * 86400 + (((t.secondOfDay / 3600 : Nat) * 60 + (t.secondOfDay / 60 % 60 : Nat)) * 60 +
      (t.secondOfDay % 60 : Nat)) - 0 * 60 = t.second := by
    rw [htoDay, secondOfDay]; omega
  rw [ofStamp?, stamp, String.toList_ofList, localText]
  simp only [List.append_assoc, List.cons_append]
  have hyear (rest : List Char) : readYear? (Text.trimStart (yearText t.date.year ++ '-' :: rest)) =
      some (t.date.year, '-' :: rest) := by
    rw [trimStart_yearText, readYear?_yearText]
  have hhour (rest : List Char) : readPart? 0 23 (Text.trimStart (padded 2 (t.secondOfDay / 3600) ++ rest)) =
      some (t.secondOfDay / 3600, rest) := by
    rw [trimStart_padded, readPart?_padded (Nat.zero_le _) (by omega) (by decide)]
  have hminute : t.secondOfDay / 60 % 60 ≤ 59 := by omega
  have hlastSecond : t.secondOfDay % 60 + t.nanos / 1000000000 ≤ 60 := by omega
  have hend : Starts (fun c => !c.isDigit && c ≠ '.') ['Z'] := Starts.cons_iff.2 rfl
  refine ofChars?_of_parts (hyear _) (readMark?_padded rfl) (readPart?_padded hmonth hmonth' (by decide))
    (readMark?_padded rfl) (readPart?_padded hday hday' (by decide)) rfl (hhour _) (readMark?_padded rfl)
    (readPart?_padded (Nat.zero_le _) hminute (by decide)) (readMark?_padded rfl)
    (readPart?_padded (Nat.zero_le _) hlastSecond (by decide))
    (readFraction?_fractionText (Nat.mod_lt _ (by decide)) hend) rfl hvalid h h hparts ?_
  rw [hsum, ofSecond?_of]

end Instant

end ValidatorWatch.Time
