import ValidatorWatch.Monitor.Gauges
import ValidatorWatch.Proofs.Decimal.Plain
import ValidatorWatch.Proofs.Text.Lines
import ValidatorWatch.Source.Exposition
/-!
# Gauges are read back

The reader of metric pages gives back what stands on a written page: of a
gauge the samples of its series, each with its labels, whatever their values
are, and its value (`Gauge.samplesOf_text`). Escapes keep a label's value
within its quotes and within its line; the names of gauges and labels are
plain.
-/

namespace ValidatorWatch

open Text (Starts takeWhile_append dropWhile_append isBlank)

namespace Exposition

/-! ## Plain names -/

/-- Letters, digits and underscores. -/
def isPlain (c : Char) : Bool :=
  c.isAlphanum || c = '_'

/-- A name of plain characters. -/
def PlainName (name : String) : Prop :=
  name.toList ≠ [] ∧ ∀ c ∈ name.toList, isPlain c = true

variable {c d : Char} {cs rest line : List Char} {name : String}

theorem ne_of_isPlain (h : isPlain c = true) (hd : isPlain d = false) : c ≠ d := by
  rintro rfl
  cases h.symm.trans hd

theorem isBlank_of_isPlain (h : isPlain c = true) : isBlank c = false := by
  have hrange : 48 ≤ c.toNat ∧ c.toNat ≤ 122 := by
    simp only [isPlain, Char.isAlphanum, Char.isAlpha, Char.isUpper, Char.isLower, Char.isDigit, ge_iff_le,
      UInt32.le_iff_toNat_le, Bool.or_eq_true, Bool.and_eq_true, decide_eq_true_eq] at h
    rcases h with ((h | h) | h) | rfl
    · exact ⟨Nat.le_trans (by decide) h.1, Nat.le_trans h.2 (by decide)⟩
    · exact ⟨Nat.le_trans (by decide) h.1, Nat.le_trans h.2 (by decide)⟩
    · exact ⟨Nat.le_trans (by decide) h.1, Nat.le_trans h.2 (by decide)⟩
    · decide
  exact Text.isBlank_of_visible (by omega) (by omega)

namespace PlainName

theorem exists_cons (h : PlainName name) : ∃ first more, name.toList = first :: more ∧ isPlain first = true := by
  obtain ⟨first, more, hname⟩ := List.exists_cons_of_ne_nil h.1
  exact ⟨first, more, hname, h.2 first (hname ▸ List.mem_cons_self)⟩

theorem not_mem (h : PlainName name) (hd : isPlain d = false) : d ∉ name.toList :=
  fun hc => ne_of_isPlain (h.2 d hc) hd rfl

end PlainName

/-! ## Labels -/

open Series (escapeChar labelText labelsText)

theorem quoted?_escapeChar (c : Char) (rest : List Char) :
    quoted? (escapeChar c ++ rest) = (quoted? rest).map fun r => (c :: r.1, r.2) := by
  rw [escapeChar]
  split
  next h => subst h; rfl
  split
  next h => subst h; rfl
  split
  next h => subst h; rfl
  next hslash hquote hfeed =>
    rw [List.singleton_append, quoted?]
    · exact hquote
    · exact fun _ _ h _ => hslash h
    · exact fun h _ => hslash h

/-- A value between quotes is read up to the closing quote. -/
theorem quoted?_escaped (cs rest : List Char) : quoted? (cs.flatMap escapeChar ++ '"' :: rest) = some (cs, rest) := by
  induction cs with
  | nil => rfl
  | cons c cs ih => rw [List.flatMap_cons, List.append_assoc, quoted?_escapeChar, ih]; rfl

theorem upToEquals?_append (h : ∀ c ∈ cs, isPlain c = true) :
    upToEquals? (cs ++ '=' :: rest) = some (cs, rest) := by
  induction cs with
  | nil => rfl
  | cons c cs ih =>
    have hc : c ≠ '=' := ne_of_isPlain (h c List.mem_cons_self) rfl
    rw [List.cons_append, upToEquals?, if_neg hc, ih fun c hc => h c (List.mem_cons_of_mem _ hc)]
    rfl

theorem skipSeparators_plain (h : isPlain c = true) : skipSeparators (c :: cs) = c :: cs := by
  have hcomma : c ≠ ',' := ne_of_isPlain h rfl
  rw [skipSeparators, List.dropWhile_cons_of_neg]
  simp [isBlank_of_isPlain h, hcomma]

theorem labels?_comma (fuel : Nat) (found : NameMap String) :
    labels? fuel found (',' :: cs) = labels? fuel found cs := by
  cases fuel with
  | zero => rfl
  | succ fuel => rfl

theorem labels?_label {label : String × String} (h : PlainName label.1) (fuel : Nat) (found : NameMap String) :
    labels? (fuel + 1) found (labelText label ++ rest) = labels? fuel (found.insert label.1 label.2) rest := by
  obtain ⟨first, key, hname, hfirst⟩ := h.exists_cons
  have hplain : ∀ c ∈ first :: key, isPlain c = true := hname ▸ h.2
  have hword : ∀ c ∈ first :: key, (!isBlank c) = true := fun c hc => by rw [isBlank_of_isPlain (hplain c hc)]; rfl
  have htext : labelText label ++ rest =
      first :: (key ++ '=' :: '"' :: (label.2.toList.flatMap escapeChar ++ '"' :: rest)) := by
    rw [labelText, hname]
    simp
  -- A plain first character is neither skipped nor the closing brace.
  rw [htext, labels?, skipSeparators_plain hfirst]
  split
  next h => cases h
  next h => exact absurd (List.cons.inj h).1 (ne_of_isPlain hfirst rfl)
  next h =>
    obtain ⟨rfl, rfl⟩ := List.cons.inj h
    rw [upToEquals?_append fun c hc => hplain c (List.mem_cons_of_mem _ hc)]
    show (quoted? (label.2.toList.flatMap escapeChar ++ '"' :: rest)).bind _ = _
    rw [quoted?_escaped, Option.bind_some, Text.trimChars_word hword, ← hname, String.ofList_toList]
    dsimp only
    rw [String.ofList_toList]

/-- Labels are read up to the closing brace. Each of them takes fuel. -/
theorem labels?_labels {labels : List (String × String)} (h : ∀ l ∈ labels, PlainName l.1) {fuel : Nat}
    (hfuel : labels.length < fuel) (found : NameMap String) :
    labels? fuel found (labels.flatMap (fun l => ',' :: labelText l) ++ '\x7d' :: rest) =
      some (labels.foldl (fun m l => m.insert l.1 l.2) found, rest) := by
  induction labels generalizing fuel found with
  | nil =>
    obtain ⟨fuel, rfl⟩ := Nat.exists_eq_add_one_of_ne_zero (Nat.ne_of_gt hfuel)
    rfl
  | cons l labels ih =>
    obtain ⟨fuel, rfl⟩ := Nat.exists_eq_add_one_of_ne_zero (Nat.ne_of_gt (Nat.lt_of_le_of_lt (Nat.zero_le _) hfuel))
    rw [List.flatMap_cons, List.append_assoc, List.cons_append, labels?_comma, labels?_label (h l List.mem_cons_self)]
    exact ih (fun l hl => h l (List.mem_cons_of_mem _ hl)) (Nat.lt_of_succ_lt_succ hfuel) _

theorem length_le_flatMap_labels (labels : List (String × String)) :
    labels.length ≤ (labels.flatMap fun l => ',' :: labelText l).length := by
  induction labels with
  | nil => exact Nat.le_refl _
  | cons l labels ih =>
    rw [List.flatMap_cons, List.length_append, List.length_cons, List.length_cons]
    omega

/-- Labels between braces are read as a map. -/
theorem labels?_labelsText {l : String × String} {labels : List (String × String)}
    (h : ∀ k ∈ l :: labels, PlainName k.1) (rest : List Char) :
    ∃ body, labelsText (l :: labels) ++ rest = '\x7b' :: body ∧
      labels? (body.length + 1) .empty body = some (.ofList (l :: labels), rest) := by
  refine ⟨labelText l ++ (labels.flatMap (fun k => ',' :: labelText k) ++ '\x7d' :: rest), by simp [labelsText], ?_⟩
  rw [labels?_label (h l List.mem_cons_self)]
  refine labels?_labels (fun k hk => h k (List.mem_cons_of_mem _ hk)) ?_ _
  have hlen := length_le_flatMap_labels labels
  simp only [List.length_append, List.length_cons]
  omega

/-! ## Lines -/

theorem value?_plain {x : Float} (h : x.isFinite = true) : value? (Decimal.plain x).toList = some (some x) := by
  rw [value?, Decimal.readFloat?_plain h]
  exact if_pos h

theorem not_isBlank_plain {x : Float} (h : x.isFinite = true) :
    ∀ c ∈ (Decimal.plain x).toList, (!isBlank c) = true := by
  intro c hc
  rcases Decimal.mem_plain h hc with hc | rfl | rfl
  · rw [Text.isBlank_of_isDigit hc]
    rfl
  · rfl
  · rfl

/-- The line of a series without the line feed. -/
def seriesLine (name : String) (s : Series) : List Char :=
  name.toList ++ (labelsText s.labels ++ ' ' :: (Decimal.plain s.value).toList)

end Exposition

/-- The sample of a series. -/
def Series.sample (name : String) (s : Series) : Sample :=
  ⟨name, .ofList s.labels, some s.value⟩

/-- A series with a finite value, whose labels have plain names. -/
structure Series.Readable (s : Series) : Prop where
  labels : ∀ l ∈ s.labels, Exposition.PlainName l.1
  finite : s.value.isFinite = true

namespace Exposition

open Series (escapeChar labelText labelsText)

variable {s : Series}

theorem trimChars_seriesLine (hname : PlainName name) (h : s.Readable) :
    Text.trimChars (seriesLine name s) = seriesLine name s := by
  have hvalue := not_isBlank_plain h.finite
  refine Text.trimChars_of_ends ?_ ?_
  · obtain ⟨first, more, hcons, hfirst⟩ := hname.exists_cons
    rw [seriesLine, hcons, List.cons_append, Starts.cons_iff, isBlank_of_isPlain hfirst]
    rfl
  · rw [seriesLine, List.reverse_append, List.reverse_append, List.reverse_cons]
    obtain ⟨last, more, hlast⟩ :=
      List.exists_cons_of_ne_nil (List.reverse_ne_nil_iff.2 (Decimal.plain_ne_nil h.finite))
    rw [hlast]
    exact Starts.cons_iff.2 (hvalue last (List.mem_reverse.1 (hlast ▸ List.mem_cons_self)))

/-- The line of a series is read as its sample. -/
theorem sample?_seriesLine (hname : PlainName name) (h : s.Readable) :
    sample? (seriesLine name s) = some (s.sample name) := by
  have hplain : ∀ c ∈ name.toList, (!endsName c) = true := by
    intro c hc
    have hbrace : c ≠ '\x7b' := ne_of_isPlain (hname.2 c hc) rfl
    simp [endsName, hbrace, isBlank_of_isPlain (hname.2 c hc)]
  have hends : Starts (fun c => !!endsName c) (labelsText s.labels ++ ' ' :: (Decimal.plain s.value).toList) := by
    cases s.labels with
    | nil => exact Starts.cons_iff.2 rfl
    | cons l labels => exact Starts.cons_iff.2 rfl
  have hcomment : ¬ (name.toList.isEmpty || name.toList.head? = some '#') = true := by
    obtain ⟨first, more, hcons, hfirst⟩ := hname.exists_cons
    have hne : first ≠ '#' := ne_of_isPlain hfirst rfl
    simp [hcons, hne]
  -- What follows the labels, if there are any, is read in the same way.
  have hfigure (labels : NameMap String) :
      ((Text.firstWord (' ' :: (Decimal.plain s.value).toList)).bind fun word =>
        (value? word).bind fun x => some (⟨name, labels, x⟩ : Sample)) = some ⟨name, labels, some s.value⟩ := by
    rw [Text.firstWord_blank (c := ' ') rfl (not_isBlank_plain h.finite) (Decimal.plain_ne_nil h.finite),
      Option.bind_some, value?_plain h.finite]
    rfl
  rw [sample?, trimChars_seriesLine hname h]
  dsimp only
  rw [seriesLine, takeWhile_append hplain hends, dropWhile_append hplain hends, if_neg hcomment, String.ofList_toList,
    Series.sample]
  cases hlabels : s.labels with
  | nil => exact hfigure _
  | cons l labels =>
    obtain ⟨body, hbody, hread⟩ := labels?_labelsText (hlabels ▸ h.labels) (' ' :: (Decimal.plain s.value).toList)
    rw [hbody]
    show (labels? (body.length + 1) .empty body).bind _ = _
    rw [hread]
    exact hfigure _

/-- A comment has no sample. -/
theorem sample?_comment (cs : List Char) : sample? ('#' :: cs) = none := by
  rw [sample?, Text.trimChars_cons rfl]
  rfl

theorem feed_not_mem_escapeChar (c : Char) : '\n' ∉ escapeChar c := by
  rw [escapeChar]
  split
  next => decide
  split
  next => decide
  split
  next => decide
  next h => simpa using Ne.symm h

theorem feed_not_mem_labelText {l : String × String} (h : PlainName l.1) : '\n' ∉ labelText l := by
  simp [labelText, h.not_mem (d := '\n') rfl, feed_not_mem_escapeChar]

theorem feed_not_mem_labelsText {labels : List (String × String)} (h : ∀ l ∈ labels, PlainName l.1) :
    '\n' ∉ labelsText labels := by
  cases labels with
  | nil => simp [labelsText]
  | cons l labels =>
    have hmore (key value : String) (hk : (key, value) ∈ labels) : '\n' ∉ labelText (key, value) :=
      feed_not_mem_labelText (h _ (List.mem_cons_of_mem _ hk))
    simpa [labelsText, feed_not_mem_labelText (h l List.mem_cons_self)] using hmore

/-- A series stays on its line. -/
theorem feed_not_mem_seriesLine (hname : PlainName name) (h : s.Readable) : '\n' ∉ seriesLine name s := by
  have hvalue : '\n' ∉ (Decimal.plain s.value).toList := by
    intro hc
    have hblank := not_isBlank_plain h.finite _ hc
    cases hblank
  simp [seriesLine, hname.not_mem (d := '\n') rfl, feed_not_mem_labelsText h.labels, hvalue]

/-- The samples of a text. -/
def samplesOf (cs : List Char) : List Sample :=
  (Text.lines cs).filterMap sample?

theorem parse_ofList (cs : List Char) : (parse (String.ofList cs)).samples = samplesOf cs := by
  rw [parse, String.toList_ofList, samplesOf]

theorem samplesOf_line (h : '\n' ∉ line) :
    samplesOf (line ++ '\n' :: rest) = (sample? line).toList ++ samplesOf rest := by
  rw [samplesOf, Text.lines_append h, List.filterMap_cons, samplesOf]
  cases sample? line <;> rfl

theorem samplesOf_comment {cs : List Char} (h : '\n' ∉ cs) :
    samplesOf ('#' :: (cs ++ '\n' :: rest)) = samplesOf rest := by
  have hline : '\n' ∉ '#' :: cs := by simpa using h
  rw [← List.cons_append, samplesOf_line hline, sample?_comment]
  rfl

theorem samplesOf_series {ss : List Series} (hname : PlainName name) (h : ∀ s ∈ ss, s.Readable) (rest : List Char) :
    samplesOf (ss.flatMap (Series.text name) ++ rest) = ss.map (Series.sample name) ++ samplesOf rest := by
  induction ss with
  | nil => rfl
  | cons s ss ih =>
    have hs := h s List.mem_cons_self
    have htext : s.text name = seriesLine name s ++ ['\n'] := by simp [Series.text, seriesLine]
    rw [List.flatMap_cons, htext, List.append_assoc, List.append_assoc, List.singleton_append,
      samplesOf_line (feed_not_mem_seriesLine hname hs), sample?_seriesLine hname hs,
      ih fun s hs => h s (List.mem_cons_of_mem _ hs)]
    rfl

end Exposition

/-! ## Gauges -/

open Exposition (PlainName samplesOf)

namespace Gauge

variable {g : Gauge}

/-- A gauge with a plain name, a help text of one line and readable series. -/
structure Readable (g : Gauge) : Prop where
  name : PlainName g.name
  help : '\n' ∉ g.help.toList
  series : ∀ s ∈ g.series, s.Readable

/-- Two comments and the series. -/
theorem text_append (h : g.series ≠ []) (rest : List Char) :
    g.text ++ rest = '#' :: (" HELP ".toList ++ g.name.toList ++ ' ' :: g.help.toList ++
      '\n' :: '#' :: (" TYPE ".toList ++ g.name.toList ++ " gauge".toList ++
        '\n' :: ((g.series.mergeSort Series.before).flatMap (Series.text g.name) ++ rest))) := by
  rw [text, if_neg (by simpa using h)]
  show ("# HELP " ++ g.name ++ " " ++ g.help ++ "\n# TYPE " ++ g.name ++ " gauge\n").toList ++ _ ++ _ = _
  simp

/-- A gauge is read as the samples of its series, in the order of the page. -/
theorem samplesOf_text (h : g.Readable) (rest : List Char) :
    samplesOf (g.text ++ rest) = (g.series.mergeSort Series.before).map (Series.sample g.name) ++ samplesOf rest := by
  by_cases hnil : g.series = []
  · simp [text, hnil]
  have hname : '\n' ∉ g.name.toList := h.name.not_mem rfl
  have hhelp : '\n' ∉ " HELP ".toList ++ g.name.toList ++ ' ' :: g.help.toList := by
    simp [hname, h.help]
  have htype : '\n' ∉ " TYPE ".toList ++ g.name.toList ++ " gauge".toList := by
    simp [hname]
  have hseries : ∀ s ∈ g.series.mergeSort Series.before, s.Readable := fun s hs =>
    h.series s (List.mem_mergeSort.1 hs)
  rw [text_append hnil, Exposition.samplesOf_comment hhelp, Exposition.samplesOf_comment htype,
    Exposition.samplesOf_series h.name hseries]

/-- Gauges are read as the samples of their series. -/
theorem samplesOf_texts {gs : List Gauge} (h : ∀ g ∈ gs, g.Readable) :
    (samplesOf (gs.flatMap text)).Perm (gs.flatMap fun g => g.series.map (Series.sample g.name)) := by
  induction gs with
  | nil => exact List.Perm.refl _
  | cons g gs ih =>
    rw [List.flatMap_cons, samplesOf_text (h g List.mem_cons_self), List.flatMap_cons]
    exact ((List.mergeSort_perm _ _).map _).append (ih fun g hg => h g (List.mem_cons_of_mem _ hg))

end Gauge

end ValidatorWatch
