import Mathlib.Data.String.Basic
import Mathlib.Logic.ExistsUnique
import ValidatorWatch.Proofs.Text.Lines
import ValidatorWatch.PublicKey
/-!
# Keys that match

A key in any of the three forms names a point of the curve, and its compressed
form keeps of that point x and the parity of y. `Canonical` takes a key to its
compressed form and any other text to itself. Two texts match if they have the
same canonical form, so that matching is an equivalence, and what the keys in
the settings match tells them apart.
-/

namespace ValidatorWatch.Text

variable {c : Char} {digits : List Char}

theorem toNat_of_isHexDigit (h : isHexDigit c = true) :
    (48 ≤ c.toNat ∧ c.toNat ≤ 57) ∨ (97 ≤ c.toNat ∧ c.toNat ≤ 102) ∨ (65 ≤ c.toNat ∧ c.toNat ≤ 70) := by
  simp only [isHexDigit, hexValue?, Char.le_def, UInt32.le_iff_toNat_le] at h
  split at h
  next hdigit => exact .inl hdigit
  next =>
    split at h
    next hlower => exact .inr (.inl hlower)
    next =>
      split at h
      next hupper => exact .inr (.inr hupper)
      next => cases h

theorem isBlank_of_isHexDigit (h : isHexDigit c = true) : isBlank c = false := by
  have hrange := toNat_of_isHexDigit h
  exact isBlank_of_visible (by omega) (by omega)

theorem isHexDigit_toLower (h : isHexDigit c = true) : isHexDigit c.toLower = true := by
  have hall : ∀ n < 103, isHexDigit (Char.ofNat n) = true → isHexDigit (Char.ofNat n).toLower = true := by decide
  have hrange := toNat_of_isHexDigit h
  have hlower := hall c.toNat (by omega)
  rw [Char.ofNat_toNat] at hlower
  exact hlower h

/-- A hexadecimal digit is one byte long. -/
theorem size_hexDigits (h : ∀ c ∈ digits, isHexDigit c = true) :
    (String.ofList digits).utf8ByteSize = digits.length := by
  rw [String.utf8ByteSize_ofList]
  induction digits with
  | nil => rfl
  | cons c digits ih =>
    obtain ⟨hc, hdigits⟩ := List.forall_mem_cons.1 h
    have hrange := toNat_of_isHexDigit hc
    have hone : c.utf8Size = 1 := by
      rw [Char.utf8Size_eq_one_iff, UInt32.le_iff_toNat_le]
      exact show c.toNat ≤ 127 by omega
    rw [String.utf8Len_cons, ih hdigits, hone, List.length_cons]

end ValidatorWatch.Text

namespace ValidatorWatch.PublicKey

open Text (isHexDigit hexValue? isBlank)

/-! ## Points -/

/-- The number that hexadecimal digits stand for. -/
def hexNumber (digits : List Char) : Nat :=
  digits.foldl (fun n c => 16 * n + (hexValue? c).getD 0) 0

theorem hexNumber_concat (digits : List Char) (c : Char) :
    hexNumber (digits ++ [c]) = 16 * hexNumber digits + (hexValue? c).getD 0 :=
  List.foldl_append

/-- A coordinate: 64 hexadecimal digits. -/
structure IsCoordinate (digits : List Char) : Prop where
  length_eq : digits.length = 64
  digits : ∀ c ∈ digits, isHexDigit c = true

/-- The mark of the parity of y. -/
def parityMark (y : List Char) : Char :=
  if hexNumber y % 2 = 0 then '2' else '3'

theorem parityMark_cases (y : List Char) : parityMark y = '2' ∨ parityMark y = '3' := by
  rw [parityMark]
  split
  · exact .inl rfl
  · exact .inr rfl

/-- The three forms in which a key names a point, each with the compressed one. -/
inductive Compresses : List Char → List Char → Prop
  | compressed {mark : Char} {x : List Char} (hmark : mark = '2' ∨ mark = '3') (hx : IsCoordinate x) :
    Compresses ('0' :: mark :: x) ('0' :: mark :: x)
  | uncompressed {x y : List Char} (hx : IsCoordinate x) (hy : IsCoordinate y) :
    Compresses ('0' :: '4' :: (x ++ y)) ('0' :: parityMark y :: x)
  | raw {x y : List Char} (hx : IsCoordinate x) (hy : IsCoordinate y) :
    Compresses (x ++ y) ('0' :: parityMark y :: x)

/-- The compressed form of a key that names a point, and any other text itself. -/
def Canonical (key form : List Char) : Prop :=
  Compresses key form ∨ form = key ∧ ∀ other, ¬ Compresses key other

variable {a b node s t : String} {key point form other digits x y : List Char} {c mark : Char}

/-- What a key is compressed to is a compressed key. -/
theorem Compresses.again (h : Compresses key form) : Compresses form form := by
  cases h with
  | compressed hmark hx => exact .compressed hmark hx
  | uncompressed hx _ => exact .compressed (parityMark_cases _) hx
  | raw hx _ => exact .compressed (parityMark_cases _) hx

/-! ## Compression -/

/-- The last digit of y has its parity. -/
theorem compressPoint_append (hx : IsCoordinate x) (hy : IsCoordinate y) :
    compressPoint (x ++ y) = some ('0' :: parityMark y :: x) := by
  obtain ⟨front, last, rfl⟩ : ∃ front last, y = front ++ [last] :=
    ⟨y.dropLast, y.getLast (List.ne_nil_of_length_eq_add_one hy.length_eq), (List.dropLast_concat_getLast _).symm⟩
  obtain ⟨value, hvalue⟩ := Option.isSome_iff_exists.1 (hy.digits last (by simp))
  have hparity : hexNumber (front ++ [last]) % 2 = value % 2 := by
    rw [hexNumber_concat, hvalue, Option.getD_some]
    omega
  have hlast : (x ++ (front ++ [last])).getLast? = some last := by
    rw [← List.append_assoc, List.getLast?_concat]
  have htake : (x ++ (front ++ [last])).take 64 = x := List.take_left' hx.length_eq
  simp only [compressPoint, hlast, hvalue, htake, parityMark, hparity, Option.bind_eq_bind, Option.bind_some,
    Option.pure_def]

theorem exists_coordinates (hlen : point.length = 128) (hdigits : ∀ c ∈ point, isHexDigit c = true) :
    ∃ x y, IsCoordinate x ∧ IsCoordinate y ∧ point = x ++ y := by
  refine ⟨point.take 64, point.drop 64, ⟨?_, ?_⟩, ⟨?_, ?_⟩, (List.take_append_drop 64 point).symm⟩
  · rw [List.length_take]; omega
  · exact fun c hc => hdigits c (List.mem_of_mem_take hc)
  · rw [List.length_drop]; omega
  · exact fun c hc => hdigits c (List.mem_of_mem_drop hc)

theorem isCompressedMark_iff : isCompressedMark key = true ↔
    ∃ mark x, (mark = '2' ∨ mark = '3') ∧ key = '0' :: mark :: x := by
  constructor
  · intro h
    match key, h with
    | c :: d :: x, h =>
      have hmarks : (c = '0' ∧ d = '2') ∨ (c = '0' ∧ d = '3') := by simpa [isCompressedMark] using h
      rcases hmarks with ⟨rfl, rfl⟩ | ⟨rfl, rfl⟩
      · exact ⟨_, _, .inl rfl, rfl⟩
      · exact ⟨_, _, .inr rfl, rfl⟩
    | [_], h | [], h => simp [isCompressedMark] at h
  · rintro ⟨mark, x, rfl | rfl, rfl⟩ <;> rfl

theorem compress?_of_compresses (h : Compresses key form) : compress? key = some form := by
  cases h with
  | @compressed mark x hmark hx =>
    have hdigits : ('0' :: mark :: x).all isHexDigit = true := by
      have hm : isHexDigit mark = true := by rcases hmark with rfl | rfl <;> rfl
      simpa [hm, show isHexDigit '0' = true from rfl] using hx.digits
    have hlen : ('0' :: mark :: x).length = 66 := by simp [hx.length_eq]
    have hm : isCompressedMark ('0' :: mark :: x) = true := isCompressedMark_iff.2 ⟨mark, x, hmark, rfl⟩
    simp only [compress?, hdigits, hlen, hm, Bool.not_true, Bool.false_eq_true, if_false, decide_true, Bool.and_self,
      if_true]
  | @uncompressed x y hx hy =>
    have hdigits : ('0' :: '4' :: (x ++ y)).all isHexDigit = true := by
      simpa [show isHexDigit '0' = true from rfl, show isHexDigit '4' = true from rfl] using
        ⟨hx.digits, hy.digits⟩
    have hlen : ('0' :: '4' :: (x ++ y)).length = 130 := by simp [hx.length_eq, hy.length_eq]
    rw [compress?, hdigits, hlen]
    exact compressPoint_append hx hy
  | @raw x y hx hy =>
    have hdigits : (x ++ y).all isHexDigit = true :=
      List.all_eq_true.2 (List.forall_mem_append.2 ⟨hx.digits, hy.digits⟩)
    have hlen : (x ++ y).length = 128 := by simp [hx.length_eq, hy.length_eq]
    rw [compress?, hdigits, hlen]
    exact compressPoint_append hx hy

theorem exists_of_compress? (h : compress? key = some other) : ∃ form, Compresses key form := by
  rw [compress?] at h
  split at h
  next => cases h
  next hall =>
    have hdigits : ∀ c ∈ key, isHexDigit c = true := by simpa using hall
    split at h
    next hshape =>
      simp only [Bool.and_eq_true, decide_eq_true_eq] at hshape
      obtain ⟨hlen, hmarked⟩ := hshape
      obtain ⟨mark, x, hmark, rfl⟩ := isCompressedMark_iff.1 hmarked
      exact ⟨_, .compressed hmark ⟨by simpa using hlen, fun c hc => hdigits c (by simp [hc])⟩⟩
    next =>
      split at h
      next hshape =>
        simp only [Bool.and_eq_true, decide_eq_true_eq] at hshape
        obtain ⟨hlen, hmark⟩ := hshape
        have hkey : key = '0' :: '4' :: key.drop 2 := by
          calc key = key.take 2 ++ key.drop 2 := (List.take_append_drop 2 key).symm
            _ = '0' :: '4' :: key.drop 2 := by rw [hmark]; rfl
        have hrest : (key.drop 2).length = 128 := by
          rw [List.length_drop]
          omega
        obtain ⟨x, y, hx, hy, hpoint⟩ := exists_coordinates hrest fun c hc => hdigits c (List.mem_of_mem_drop hc)
        rw [hkey, hpoint]
        exact ⟨_, .uncompressed hx hy⟩
      next =>
        split at h
        next hlen =>
          obtain ⟨x, y, hx, hy, rfl⟩ := exists_coordinates hlen hdigits
          exact ⟨_, .raw hx hy⟩
        next => cases h

theorem compress?_eq_some_iff : compress? key = some form ↔ Compresses key form := by
  refine ⟨fun h => ?_, compress?_of_compresses⟩
  obtain ⟨other, hother⟩ := exists_of_compress? h
  rw [compress?_of_compresses hother] at h
  exact Option.some.inj h ▸ hother

theorem canonical_iff : Canonical key form ↔ form = (compress? key).getD key := by
  rw [Canonical]
  simp only [← compress?_eq_some_iff]
  cases compress? key with
  | none => simp
  | some other => simp [eq_comm]

/-! ## Matching -/

/-- Long enough for a key. -/
def IsLong (s : String) : Prop :=
  64 ≤ (normalize s).utf8ByteSize

theorem keysMatch_iff : keysMatch a b = true ↔ IsLong a ∧ IsLong b ∧
    ∃ form, Canonical (normalize a).toList form ∧ Canonical (normalize b).toList form := by
  rw [keysMatch, IsLong, IsLong]
  constructor
  · intro h
    split at h
    next => cases h
    next hshort =>
      refine ⟨by simp at hshort; omega, by simp at hshort; omega, ?_⟩
      split at h
      next heq => exact ⟨_, canonical_iff.2 rfl, heq ▸ canonical_iff.2 rfl⟩
      next =>
        split at h
        next p q hp hq =>
          obtain rfl : p = q := by simpa using h
          exact ⟨p, .inl (compress?_eq_some_iff.1 hp), .inl (compress?_eq_some_iff.1 hq)⟩
        next => cases h
  · rintro ⟨ha, hb, form, hforma, hformb⟩
    rw [if_neg (by simp; omega)]
    split
    next => rfl
    next hne =>
      -- A text that is no key differs from every compressed key, since those are keys.
      rcases hforma with hforma | ⟨rfl, hnone⟩ <;> rcases hformb with hformb | ⟨heq, hnone'⟩
      · rw [compress?_of_compresses hforma, compress?_of_compresses hformb]
        simp
      · exact absurd (heq ▸ hforma.again) (hnone' _)
      · exact absurd hformb.again (hnone _)
      · exact absurd (String.toList_injective heq) hne

theorem keysMatch_self (h : IsLong a) : keysMatch a a = true :=
  keysMatch_iff.2 ⟨h, h, _, canonical_iff.2 rfl, canonical_iff.2 rfl⟩

theorem keysMatch_symm (h : keysMatch a b = true) : keysMatch b a = true := by
  obtain ⟨ha, hb, form, hforma, hformb⟩ := keysMatch_iff.1 h
  exact keysMatch_iff.2 ⟨hb, ha, form, hformb, hforma⟩

theorem Canonical.unique (h : Canonical key form) (h' : Canonical key other) : form = other :=
  (canonical_iff.1 h).trans (canonical_iff.1 h').symm

theorem keysMatch_trans (h : keysMatch a node = true) (h' : keysMatch node b = true) : keysMatch a b = true := by
  obtain ⟨ha, -, form, hforma, hform⟩ := keysMatch_iff.1 h
  obtain ⟨-, hb, other, hother, hformb⟩ := keysMatch_iff.1 h'
  exact keysMatch_iff.2 ⟨ha, hb, form, hforma, hform.unique hother ▸ hformb⟩

/-- A valid key is its own compressed form. -/
theorem compresses_of_isValid (h : isValid s = true) : Compresses s.toList s.toList := by
  simp only [isValid, Bool.and_eq_true, decide_eq_true_eq] at h
  obtain ⟨⟨hsize, hmarked⟩, hall⟩ := h
  have hdigits : ∀ c ∈ s.toList, isHexDigit c = true := List.all_eq_true.1 hall
  have hlen : s.toList.length = 66 := by
    rw [← Text.size_hexDigits hdigits, String.ofList_toList, hsize]
  obtain ⟨mark, x, hmark, hkey⟩ := isCompressedMark_iff.1 hmarked
  rw [hkey] at hdigits hlen ⊢
  exact .compressed hmark ⟨by simpa using hlen, fun c hc => hdigits c (by simp [hc])⟩

/-! ## Spellings -/

/-- A key as it may be spelled: between blanks, perhaps with `0x` in front, its
digits in either case. -/
def Spells (s : String) (key : List Char) : Prop :=
  ∃ before mark digits after, (∀ c ∈ before, isBlank c = true) ∧ (∀ c ∈ after, isBlank c = true) ∧
    mark ∈ [[], ['0', 'x'], ['0', 'X']] ∧ (∀ c ∈ digits, isHexDigit c = true) ∧
    digits.map Char.toLower = key ∧ s.toList = before ++ (mark ++ digits) ++ after

theorem spells_self (hdigits : ∀ c ∈ key, isHexDigit c = true) (hlower : key.map Char.toLower = key) :
    Spells (String.ofList key) key :=
  ⟨[], [], key, [], by simp, by simp, by simp, hdigits, hlower, by simp⟩

theorem normalize_of_spells (h : Spells s key) (hkey : key ≠ []) : (normalize s).toList = key := by
  obtain ⟨before, mark, digits, after, hbefore, hafter, hmark, hdigits, rfl, hs⟩ := h
  have hne : digits ≠ [] := by
    rintro rfl
    exact hkey rfl
  have hvisible : ∀ c ∈ mark ++ digits, (!isBlank c) = true := by
    refine List.forall_mem_append.2 ⟨?_, fun c hc => by rw [Text.isBlank_of_isHexDigit (hdigits c hc)]; rfl⟩
    simp only [List.mem_cons, List.not_mem_nil, or_false] at hmark
    rcases hmark with rfl | rfl | rfl <;> exact List.all_eq_true.1 (by decide)
  have htrim : Text.trimChars s.toList = mark ++ digits := by
    rw [hs, Text.trimChars_between hbefore hafter hvisible (by simp [hne])]
  rw [normalize, normalizeChars, htrim, String.toList_ofList]
  congr 1
  simp only [List.mem_cons, List.not_mem_nil, or_false] at hmark
  rcases hmark with rfl | rfl | rfl
  · -- Digits alone do not begin with the mark, for `x` is none.
    split
    next heq => exact absurd (hdigits 'x' (by rw [show digits = _ from heq]; simp)) (by decide)
    next heq => exact absurd (hdigits 'X' (by rw [show digits = _ from heq]; simp)) (by decide)
    next => rfl
  · rfl
  · rfl

theorem digits_of_spells (h : Spells s key) : ∀ c ∈ key, isHexDigit c = true := by
  obtain ⟨-, -, digits, -, -, -, -, hdigits, rfl, -⟩ := h
  intro c hc
  obtain ⟨d, hd, rfl⟩ := List.mem_map.1 hc
  exact Text.isHexDigit_toLower (hdigits d hd)

theorem isLong_of_spells (h : Spells s key) (hlen : 64 ≤ key.length) : IsLong s := by
  have hkey : key ≠ [] := by
    rintro rfl
    cases hlen
  have hsize := Text.size_hexDigits (digits_of_spells h)
  rw [← normalize_of_spells h hkey, String.ofList_toList, normalize_of_spells h hkey] at hsize
  rw [IsLong, hsize]
  exact hlen

/-- Two texts match if both are long enough for a key and have the same canonical
form, and each has exactly one. So matching is reflexive on texts of that
length, symmetric and transitive. It does not depend on how a key is spelled or
which form it has, and a node matches one valid key at most. -/
theorem keys_match_by_canonical_form :
    (∀ a b, keysMatch a b = true ↔ IsLong a ∧ IsLong b ∧
      ∃ form, Canonical (normalize a).toList form ∧ Canonical (normalize b).toList form) ∧
    (∀ key, ∃! form, Canonical key form) ∧
    (∀ a, IsLong a → keysMatch a a = true) ∧
    (∀ a b, keysMatch a b = true → keysMatch b a = true) ∧
    (∀ a b c, keysMatch a b = true → keysMatch b c = true → keysMatch a c = true) ∧
    (∀ s t key other form, Spells s key → Spells t other → 64 ≤ key.length → 64 ≤ other.length →
      Canonical key form → Canonical other form → keysMatch s t = true) ∧
    ∀ a b node, isValid (normalize a) = true → isValid (normalize b) = true →
      keysMatch a node = true → keysMatch b node = true → normalize a = normalize b := by
  refine ⟨fun a b => keysMatch_iff, fun key => ?_, fun a => keysMatch_self, fun a b => keysMatch_symm,
    fun a b c => keysMatch_trans, ?_, ?_⟩
  · exact ⟨_, canonical_iff.2 rfl, fun form => canonical_iff.1⟩
  · intro s t key other form hs ht hlen hlen' hform hform'
    have hkey : key ≠ [] := List.ne_nil_of_length_pos (by omega)
    have hother : other ≠ [] := List.ne_nil_of_length_pos (by omega)
    refine keysMatch_iff.2 ⟨isLong_of_spells hs hlen, isLong_of_spells ht hlen', form, ?_⟩
    rw [normalize_of_spells hs hkey, normalize_of_spells ht hother]
    exact ⟨hform, hform'⟩
  · intro a b node ha hb hmatch hmatch'
    obtain ⟨-, -, form, hform, hform'⟩ := keysMatch_iff.1 (keysMatch_trans hmatch (keysMatch_symm hmatch'))
    have hself := hform.unique (.inl (compresses_of_isValid ha))
    have hself' := hform'.unique (.inl (compresses_of_isValid hb))
    exact String.toList_injective (hself.symm.trans hself')

/-- The coordinate with every second digit ten. -/
def someX : List Char :=
  (List.replicate 32 ['a', 'b']).flatten

/-- An even coordinate. -/
def someY : List Char :=
  (List.replicate 32 ['1', '2']).flatten

/-- A compressed key in capitals, with blanks around it, matches the node that has
its point in full, as does the same key in plain. -/
theorem capital_key_matches_full_point :
    let capital := String.ofList (' ' :: '0' :: 'X' :: '0' :: '2' :: someX.map Char.toUpper ++ ['\n'])
    let plain := String.ofList ('0' :: '2' :: someX)
    let node := String.ofList ('0' :: '4' :: (someX ++ someY))
    keysMatch capital capital = true ∧ keysMatch capital node = true ∧ keysMatch node plain = true ∧
      keysMatch capital plain = true ∧ normalize capital = normalize plain := by
  intro capital plain node
  have hx : IsCoordinate someX := ⟨by decide, List.all_eq_true.1 (by decide)⟩
  have hy : IsCoordinate someY := ⟨by decide, List.all_eq_true.1 (by decide)⟩
  obtain ⟨-, -, hself, hsymm, htrans, hspells, hvalid⟩ := keys_match_by_canonical_form
  have hkey : Canonical ('0' :: '2' :: someX) ('0' :: '2' :: someX) := .inl (.compressed (.inl rfl) hx)
  have heven : parityMark someY = '2' := by decide
  have hpoint : Canonical ('0' :: '4' :: (someX ++ someY)) ('0' :: '2' :: someX) :=
    .inl (heven ▸ .uncompressed hx hy)
  have hcapital : Spells capital ('0' :: '2' :: someX) :=
    ⟨[' '], ['0', 'X'], '0' :: '2' :: someX.map Char.toUpper, ['\n'], List.all_eq_true.1 (by decide),
      List.all_eq_true.1 (by decide), by decide, List.all_eq_true.1 (by decide), by decide, by decide⟩
  have hplain : Spells plain ('0' :: '2' :: someX) := spells_self (List.all_eq_true.1 (by decide)) (by decide)
  have hlower : ('0' :: '4' :: (someX ++ someY)).map Char.toLower = '0' :: '4' :: (someX ++ someY) := by
    rw [List.map_cons, List.map_cons, List.map_append, show someX.map Char.toLower = someX by decide,
      show someY.map Char.toLower = someY by decide]
    rfl
  have hdigits : ∀ c ∈ '0' :: '4' :: (someX ++ someY), isHexDigit c = true := by
    simp only [List.forall_mem_cons, List.forall_mem_append]
    exact ⟨rfl, rfl, hx.digits, hy.digits⟩
  have hnode : Spells node ('0' :: '4' :: (someX ++ someY)) := spells_self hdigits hlower
  have hlen : 64 ≤ ('0' :: '4' :: (someX ++ someY)).length := by simp [hx.length_eq, hy.length_eq]
  have hmatch := hspells _ _ _ _ _ hcapital hnode (by decide) hlen hkey hpoint
  have hmatch' := hspells _ _ _ _ _ hplain hnode (by decide) hlen hkey hpoint
  refine ⟨hself _ ?_, hmatch, hsymm _ _ hmatch', htrans _ _ _ hmatch (hsymm _ _ hmatch'), ?_⟩
  · exact isLong_of_spells hcapital (by decide)
  · exact hvalid _ _ node (by decide) (by decide) hmatch hmatch'

end ValidatorWatch.PublicKey
