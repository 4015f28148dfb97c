import ValidatorWatch.Proofs.Document.Numbers
/-!
# JSON is read back

What `render` writes for a document, `parse?` reads as the same document, if
its numbers can be written, no part is garbled and it is not nested too deep.
`Writable` says so level by level, and the proof goes up the levels: the
elements of a list and the members of a record are read back because they are
writable one level below (`ReadsBack`).
-/

namespace ValidatorWatch.Document.Json

open Text (Starts)

/-! ## Strings -/

theorem hexValue?_hexDigit {n : Nat} (h : n < 16) : Text.hexValue? (hexDigit n) = some n := by
  have hall : ∀ n < 16, Text.hexValue? (hexDigit n) = some n := by decide
  exact hall n h

theorem hexUnit?_control {c : Char} (h : c.toNat < 32) :
    hexUnit? '0' '0' (hexDigit (c.toNat / 16)) (hexDigit (c.toNat % 16)) = some c.toNat := by
  have hzero : Text.hexValue? '0' = some 0 := rfl
  simp only [hexUnit?, hzero, hexValue?_hexDigit (show c.toNat / 16 < 16 by omega),
    hexValue?_hexDigit (Nat.mod_lt c.toNat (show 16 > 0 by decide)), Option.bind_eq_bind, Option.bind_some]
  congr 1
  omega

theorem stringBody?_plain {c : Char} (hq : c ≠ '"') (hb : c ≠ '\\') (h : ¬ c.toNat < 32) (rest : List Char) :
    stringBody? (c :: rest) = (stringBody? rest).map (consChar c) := by
  rw [stringBody?.eq_def]
  split <;> simp_all

theorem stringBody?_escapeChar (c : Char) (rest : List Char) :
    stringBody? (escapeChar c ++ rest) = (stringBody? rest).map (consChar c) := by
  unfold escapeChar
  split
  next h => subst h; rfl
  split
  next h => subst h; rfl
  split
  next h => subst h; rfl
  split
  next h => subst h; rfl
  split
  next h => subst h; rfl
  split
  next h => subst h; rfl
  split
  next h => subst h; rfl
  split
  next h =>
    have hlow : ¬ ((decide (0xD800 ≤ c.toNat) && decide (c.toNat < 0xDC00)) = true) := by
      simp only [Bool.and_eq_true, decide_eq_true_eq]; omega
    have hhigh : ¬ ((decide (0xDC00 ≤ c.toNat) && decide (c.toNat < 0xE000)) = true) := by
      simp only [Bool.and_eq_true, decide_eq_true_eq]; omega
    simp only [List.cons_append, List.nil_append, stringBody?, hexUnit?_control h]
    rw [if_neg hlow, if_neg hhigh, Char.ofNat_toNat]
  next hq hb _ _ _ _ _ h => exact stringBody?_plain hq hb h rest

theorem stringBody?_escaped (cs : List Char) (rest : List Char) :
    stringBody? (cs.flatMap escapeChar ++ '"' :: rest) = some (some cs, rest) := by
  induction cs with
  | nil => rfl
  | cons c cs ih =>
    rw [List.flatMap_cons, List.append_assoc, stringBody?_escapeChar, ih]
    rfl

theorem stringBody?_renderString (s : String) (rest : List Char) :
    ∃ text, renderString s ++ rest = '"' :: text ∧ stringBody? text = some (some s.toList, rest) := by
  refine ⟨s.toList.flatMap escapeChar ++ '"' :: rest, ?_, stringBody?_escaped _ _⟩
  simp [renderString]

/-! ## Blanks -/

theorem skip_append {cs rest : List Char} (h : ∀ c ∈ cs, isSpace c = true) : skip (cs ++ rest) = skip rest :=
  List.dropWhile_append_of_pos h

theorem skip_of_starts {rest : List Char} (h : Starts (fun c => !isSpace c) rest) : skip rest = rest :=
  Text.dropWhile_of_starts h

theorem isSpace_gap {style : Style} {k : Nat} : ∀ c ∈ style.gap k, isSpace c = true := by
  cases style with
  | compact => simp [Style.gap]
  | indented =>
    intro c hc
    rcases List.mem_cons.1 hc with rfl | hc
    · rfl
    · rw [List.eq_of_mem_replicate hc]
      rfl

theorem skip_gap (style : Style) (k : Nat) (rest : List Char) : skip (style.gap k ++ rest) = skip rest :=
  skip_append isSpace_gap

/-- A line break and a closing bracket may follow a value. -/
theorem starts_gap {style : Style} {k : Nat} {c : Char} {rest : List Char} (h : endsValue c = true) :
    Starts endsValue (style.gap k ++ c :: rest) := by
  cases style with
  | compact => exact Starts.cons_iff.2 h
  | indented => exact Starts.cons_iff.2 rfl

/-! ## Values -/

variable {style : Style} {depth fuel k : Nat} {v : Value} {rest : List Char}

/-- A value begins with a character that is neither a blank nor a closing bracket. -/
theorem head_of_value? {cs : List Char} {r : Value × List Char} (h : value? fuel depth cs = some r) :
    ∃ c more, cs = c :: more ∧ isSpace c = false ∧ c ≠ ']' := by
  cases fuel with
  | zero => rw [value?] at h; cases h
  | succ fuel =>
    rw [value?.eq_def] at h
    dsimp only at h
    split at h
    next more => exact ⟨'n', _, rfl, rfl, by decide⟩
    next more => exact ⟨'t', _, rfl, rfl, by decide⟩
    next more => exact ⟨'f', _, rfl, rfl, by decide⟩
    next more => exact ⟨'"', _, rfl, rfl, by decide⟩
    next more => exact ⟨'[', _, rfl, rfl, by decide⟩
    next more => exact ⟨'\x7b', _, rfl, rfl, by decide⟩
    next =>
      obtain ⟨c, more, rfl, hc⟩ := head_of_number? h
      refine ⟨c, more, rfl, ?_, ?_⟩
      · rw [Bool.eq_false_iff]
        intro hs
        simp only [isSpace, Bool.or_eq_true, decide_eq_true_eq] at hs
        rcases hs with ((rfl | rfl) | rfl) | rfl <;> revert hc <;> decide
      · rintro rfl
        revert hc
        decide

/-- A number is read as one. -/
theorem value?_of_number? {cs : List Char} {r : Value × List Char} (h : number? cs = some r) :
    value? (fuel + 1) depth cs = some r := by
  obtain ⟨c, more, rfl, hc⟩ := head_of_number? h
  rw [value?.eq_def]
  dsimp only
  split
  next heq => cases (List.cons.inj heq).1; exact absurd hc (by decide)
  next heq => cases (List.cons.inj heq).1; exact absurd hc (by decide)
  next heq => cases (List.cons.inj heq).1; exact absurd hc (by decide)
  next heq => cases (List.cons.inj heq).1; exact absurd hc (by decide)
  next heq => cases (List.cons.inj heq).1; exact absurd hc (by decide)
  next heq => cases (List.cons.inj heq).1; exact absurd hc (by decide)
  next => exact h

/-- What is written at any place for the value is read as that value. -/
def ReadsBack (style : Style) (depth : Nat) (v : Value) : Prop :=
  ∀ k fuel rest, (renderAt style k v).length < fuel → Starts endsValue rest →
    value? fuel depth (renderAt style k v ++ rest) = some (v, rest)

namespace ReadsBack

theorem skip_render (h : ReadsBack style depth v) (hrest : Starts endsValue rest) :
    skip (renderAt style k v ++ rest) = renderAt style k v ++ rest := by
  obtain ⟨c, more, htext, hc, -⟩ := head_of_value? (h k _ rest (Nat.lt_succ_self _) hrest)
  rw [htext]
  exact skip_of_starts (Starts.cons_iff.2 (by simp [hc]))

theorem render_ne (h : ReadsBack style depth v) (hrest : Starts endsValue rest) (more : List Char) :
    renderAt style k v ++ rest ≠ ']' :: more := by
  obtain ⟨c, more', htext, -, hc⟩ := head_of_value? (h k _ rest (Nat.lt_succ_self _) hrest)
  rw [htext]
  exact fun heq => hc (List.cons.inj heq).1

end ReadsBack

/-! ## Lists -/

theorem starts_items (style : Style) (k j : Nat) (rest : List Char) (vs : List Value) :
    Starts endsValue (renderItems style k vs ++ (style.gap j ++ ']' :: rest)) := by
  cases vs with
  | nil => exact starts_gap rfl
  | cons v vs => exact Starts.cons_iff.2 rfl

/-- The elements after the first are read up to the closing bracket. -/
theorem items?_renderItems {j : Nat} {vs : List Value} (h : ∀ v ∈ vs, ReadsBack style depth v) :
    ∀ fuel, (renderItems style k vs).length < fuel →
      items? fuel depth (skip (renderItems style k vs ++ (style.gap j ++ ']' :: rest))) = some (vs, rest) := by
  induction vs with
  | nil =>
    intro fuel hfuel
    obtain ⟨fuel, rfl⟩ : ∃ n, fuel = n + 1 := ⟨fuel - 1, by omega⟩
    rw [renderItems, List.nil_append, skip_gap, skip_of_starts (Starts.cons_iff.2 rfl), items?]
  | cons v vs ih =>
    intro fuel hfuel
    obtain ⟨fuel, rfl⟩ : ∃ n, fuel = n + 1 := ⟨fuel - 1, by omega⟩
    have hv := h v (by simp)
    have hrest := starts_items style k j rest vs
    simp only [renderItems, List.length_append, List.length_cons] at hfuel
    simp only [renderItems, List.append_assoc, List.cons_append]
    rw [skip_of_starts (Starts.cons_iff.2 rfl)]
    simp only [items?]
    rw [skip_gap, hv.skip_render hrest, hv k fuel _ (by omega) hrest]
    simp only
    rw [ih (fun v hv => h v (by simp [hv])) fuel (by omega)]
    rfl

theorem ReadsBack.arr {vs : List Value} (h : ∀ v ∈ vs, ReadsBack style depth v) :
    ReadsBack style (depth + 1) (.arr vs) := by
  intro k fuel rest hfuel hrest
  obtain ⟨fuel, rfl⟩ : ∃ n, fuel = n + 1 := ⟨fuel - 1, by omega⟩
  cases vs with
  | nil =>
    simp only [renderAt, List.cons_append, List.nil_append, value?]
    rw [skip_of_starts (Starts.cons_iff.2 rfl)]
    rfl
  | cons v vs =>
    have hv := h v (by simp)
    have hrest := starts_items style (k + 1) k rest vs
    simp only [renderAt, List.length_append, List.length_cons] at hfuel
    simp only [renderAt, List.append_assoc, List.cons_append, List.nil_append]
    simp only [value?]
    rw [skip_gap, hv.skip_render hrest]
    split
    next heq => exact absurd heq (hv.render_ne hrest _)
    next =>
      rw [Nat.add_sub_cancel, hv (k + 1) fuel _ (by omega) hrest]
      simp only
      rw [items?_renderItems (fun v hv => h v (by simp [hv])) fuel (by omega)]
      rfl

/-! ## Records -/

theorem starts_members (style : Style) (k j : Nat) (rest : List Char) (ms : List (String × Value)) :
    Starts endsValue (renderMembers style k ms ++ (style.gap j ++ '\x7d' :: rest)) := by
  cases ms with
  | nil => exact starts_gap rfl
  | cons m ms => exact Starts.cons_iff.2 rfl

theorem skip_renderString (name : String) (rest : List Char) :
    skip (renderString name ++ rest) = renderString name ++ rest :=
  skip_of_starts (Starts.cons_iff.2 rfl)

/-- A member is read as its name and its value. -/
theorem member?_render {name : String} (h : ReadsBack style depth v)
    (hfuel : (renderAt style k v).length < fuel) (hrest : Starts endsValue rest) :
    member? (fuel + 1) depth (renderString name ++ (style.colon ++ (renderAt style k v ++ rest))) =
      some ((some name.toList, v), rest) := by
  obtain ⟨text, htext, hbody⟩ :=
    stringBody?_renderString name (style.colon ++ (renderAt style k v ++ rest))
  have hcolon : skip (style.colon ++ (renderAt style k v ++ rest)) =
      ':' :: (style.colon.tail ++ (renderAt style k v ++ rest)) := by
    cases style <;> rfl
  have htail : skip (style.colon.tail ++ (renderAt style k v ++ rest)) = renderAt style k v ++ rest := by
    rw [skip_append (by cases style <;> simp [Style.colon, isSpace]), h.skip_render hrest]
  rw [htext, member?]
  simp only [hbody, hcolon, htail, h k fuel rest hfuel hrest, Option.map_some]

theorem consMember_toList (name : String) (v : Value) (ms : List (String × Value)) :
    consMember (some name.toList) v (.obj ms) = .obj ((name, v) :: ms) := by
  rw [consMember, String.ofList_toList]

/-- The members after the first are read up to the closing brace. -/
theorem members?_renderMembers {j : Nat} {ms : List (String × Value)}
    (h : ∀ m ∈ ms, ReadsBack style depth m.2) :
    ∀ fuel, (renderMembers style k ms).length < fuel →
      members? fuel depth (skip (renderMembers style k ms ++ (style.gap j ++ '\x7d' :: rest))) =
        some (.obj ms, rest) := by
  induction ms with
  | nil =>
    intro fuel hfuel
    obtain ⟨fuel, rfl⟩ : ∃ n, fuel = n + 1 := ⟨fuel - 1, by omega⟩
    rw [renderMembers, List.nil_append, skip_gap, skip_of_starts (Starts.cons_iff.2 rfl), members?]
  | cons m ms ih =>
    obtain ⟨name, v⟩ := m
    intro fuel hfuel
    have hv : ReadsBack style depth v := h (name, v) (by simp)
    have hrest := starts_members style k j rest ms
    simp only [renderMembers, List.length_append, List.length_cons, renderString] at hfuel
    obtain ⟨fuel, rfl⟩ : ∃ n, fuel = n + 2 := ⟨fuel - 2, by omega⟩
    simp only [renderMembers, List.append_assoc, List.cons_append]
    rw [skip_of_starts (Starts.cons_iff.2 rfl)]
    simp only [members?]
    rw [skip_gap, skip_renderString, member?_render hv (by omega) hrest]
    simp only
    rw [ih (fun m hm => h m (by simp [hm])) (fuel + 1) (by omega), Option.map_some, consMember_toList]

theorem ReadsBack.obj {ms : List (String × Value)} (h : ∀ m ∈ ms, ReadsBack style depth m.2) :
    ReadsBack style (depth + 1) (.obj ms) := by
  intro k fuel rest hfuel hrest
  cases ms with
  | nil =>
    obtain ⟨fuel, rfl⟩ : ∃ n, fuel = n + 1 := ⟨fuel - 1, by omega⟩
    simp only [renderAt, List.cons_append, List.nil_append, value?]
    rw [skip_of_starts (Starts.cons_iff.2 rfl)]
    rfl
  | cons m ms =>
    obtain ⟨name, v⟩ := m
    have hv : ReadsBack style depth v := h (name, v) (by simp)
    have hrest := starts_members style (k + 1) k rest ms
    simp only [renderAt, List.length_append, List.length_cons, renderString] at hfuel
    obtain ⟨fuel, rfl⟩ : ∃ n, fuel = n + 2 := ⟨fuel - 2, by omega⟩
    simp only [renderAt, List.append_assoc, List.cons_append, List.nil_append]
    simp only [value?]
    rw [skip_gap, skip_renderString]
    split
    next heq => simp [renderString] at heq
    next =>
      rw [Nat.add_sub_cancel, member?_render hv (by omega) hrest]
      simp only
      rw [members?_renderMembers (fun m hm => h m (by simp [hm])) (fuel + 1) (by omega), Option.map_some,
        consMember_toList]
      rfl

/-! ## Documents -/

/-- A value without parts that text can hold. -/
def IsLeaf : Value → Prop
  | .null | .bool _ | .str _ => True
  | .int n => -(2 ^ 63 : Int) ≤ n ∧ n < 2 ^ 64
  | .float x => x.isFinite = true
  | _ => False

/-- A value that text can hold, with so many levels of lists and records. -/
def Writable : Nat → Value → Prop
  | levels + 1, .arr vs => ∀ v ∈ vs, Writable levels v
  | levels + 1, .obj ms => ∀ m ∈ ms, Writable levels m.2
  | _, v => IsLeaf v

theorem readsBack_of_isLeaf (h : IsLeaf v) : ReadsBack style depth v := by
  intro k fuel rest hfuel hrest
  obtain ⟨fuel, rfl⟩ : ∃ n, fuel = n + 1 := ⟨fuel - 1, by omega⟩
  cases v with
  | null => simp [renderAt, value?]
  | bool b => cases b <;> simp [renderAt, value?]
  | int n => exact value?_of_number? (number?_renderInt h.1 h.2 hrest)
  | float x => exact value?_of_number? (number?_renderFloat h hrest)
  | str s =>
    obtain ⟨text, htext, hbody⟩ := stringBody?_renderString s rest
    rw [renderAt, htext, value?, hbody, Option.map_some, stringValue, String.ofList_toList]
  | arr vs => exact h.elim
  | obj ms => exact h.elim
  | garbled => exact h.elim

/-- What is writable with so many levels is read back where there may be so many. -/
theorem Writable.readsBack {levels : Nat} (h : Writable levels v) (hdepth : levels ≤ depth) :
    ReadsBack style depth v := by
  induction levels generalizing depth v with
  | zero => exact readsBack_of_isLeaf (by cases v <;> exact h)
  | succ levels ih =>
    obtain ⟨depth, rfl⟩ : ∃ n, depth = n + 1 := ⟨depth - 1, by omega⟩
    cases v with
    | arr vs => exact ReadsBack.arr fun v hv => ih (h v hv) (by omega)
    | obj ms => exact ReadsBack.obj fun m hm => ih (h m hm) (by omega)
    | _ => exact readsBack_of_isLeaf h

/-- A document that can be written is read back. -/
theorem parse?_render {levels : Nat} (h : Writable levels v) (hdepth : levels ≤ depthLimit) :
    parse? (render style v) = some v := by
  have hv : ReadsBack style depthLimit v := h.readsBack hdepth
  have hskip := hv.skip_render (k := 0) Starts.nil
  have hread := hv 0 ((renderAt style 0 v).length + 1) [] (Nat.lt_succ_self _) Starts.nil
  rw [List.append_nil] at hskip hread
  rw [parse?, render, String.toList_ofList, parseChars?, hskip, hread]
  rfl

end ValidatorWatch.Document.Json
