import ValidatorWatch.Alert.Wire
/-!
# Markup is told from words

A message for Telegram shows its title in bold type and then its body, whatever
characters they have. Escaping leaves no angle bracket in them (`Tagless`) and
no ampersand that begins no entity (`AmpersandsBeginEntities`). So the words up
to a tag can be read back (`words?`), neither part can end the title early, and
the text tells what title and body were (`titleAndBody?_markupText`).
-/

namespace ValidatorWatch.Markup

variable {c : Char} {text more name : List Char} {m n : Notification}

/-! ## Tags -/

/-- No angle bracket, and so no part of a tag. -/
def Tagless (text : List Char) : Prop :=
  ∀ c ∈ text, c ≠ '<' ∧ c ≠ '>'

/-- The tag `<b>` in front, one tag `</b>`, and no other angle bracket. -/
def OneBoldPart (text : List Char) : Prop :=
  ∃ bold plain, text = "<b>".toList ++ bold ++ "</b>".toList ++ plain ∧ Tagless bold ∧ Tagless plain

theorem Tagless.append (h : Tagless text) (h' : Tagless more) : Tagless (text ++ more) :=
  List.forall_mem_append.2 ⟨h, h'⟩

theorem tagless_escapeMarkupChar (c : Char) : Tagless (escapeMarkupChar c) := by
  rw [escapeMarkupChar, Tagless]
  split
  · simp
  split
  · simp
  split
  · simp
  next hlt hgt => simpa using ⟨hlt, hgt⟩

theorem tagless_escapeMarkup (s : String) : Tagless (escapeMarkup s) := by
  intro c hc
  obtain ⟨d, -, hd⟩ := List.mem_flatMap.1 hc
  exact tagless_escapeMarkupChar d c hd

/-! ## Entities -/

/-- The three entities. -/
def entities : List (List Char) :=
  ["&amp;".toList, "&lt;".toList, "&gt;".toList]

/-- Wherever an ampersand stands in a text, an entity begins. -/
def AmpersandsBeginEntities (text : List Char) : Prop :=
  ∀ rest, '&' :: rest <:+ text → ∃ entity ∈ entities, entity <+: '&' :: rest

namespace AmpersandsBeginEntities

theorem of_not_mem (h : '&' ∉ text) : AmpersandsBeginEntities text :=
  fun _ hrest => absurd (hrest.subset List.mem_cons_self) h

theorem cons_iff : AmpersandsBeginEntities (c :: text) ↔
    (c = '&' → ∃ entity ∈ entities, entity <+: c :: text) ∧ AmpersandsBeginEntities text := by
  simp only [AmpersandsBeginEntities, List.suffix_cons_iff]
  constructor
  · intro h
    refine ⟨?_, fun rest hrest => h rest (.inr hrest)⟩
    rintro rfl
    exact h text (.inl rfl)
  · rintro ⟨hhead, htail⟩ rest (heq | hrest)
    · obtain ⟨rfl, rfl⟩ := List.cons.inj heq
      exact hhead rfl
    · exact htail rest hrest

/-- An entity that has begun is not undone by what follows. -/
theorem append (h : AmpersandsBeginEntities text) (h' : AmpersandsBeginEntities more) :
    AmpersandsBeginEntities (text ++ more) := by
  induction text with
  | nil => exact h'
  | cons c text ih =>
    obtain ⟨hhead, htail⟩ := cons_iff.1 h
    refine cons_iff.2 ⟨fun hc => ?_, ih htail⟩
    obtain ⟨entity, hmem, hprefix⟩ := hhead hc
    exact ⟨entity, hmem, List.prefix_append_of_prefix hprefix⟩

theorem of_entity (h : '&' :: name ∈ entities) (hname : '&' ∉ name) : AmpersandsBeginEntities ('&' :: name) :=
  cons_iff.2 ⟨fun _ => ⟨_, h, List.prefix_rfl⟩, of_not_mem hname⟩

end AmpersandsBeginEntities

open AmpersandsBeginEntities (of_not_mem of_entity)

theorem ampersandsBeginEntities_escapeMarkupChar (c : Char) : AmpersandsBeginEntities (escapeMarkupChar c) := by
  rw [escapeMarkupChar]
  split
  · exact of_entity (by decide) (by decide)
  split
  · exact of_entity (by decide) (by decide)
  split
  · exact of_entity (by decide) (by decide)
  next hamp _ _ => exact of_not_mem (by simpa using Ne.symm hamp)

theorem ampersandsBeginEntities_escapeMarkup (s : String) : AmpersandsBeginEntities (escapeMarkup s) := by
  rw [escapeMarkup]
  induction s.toList with
  | nil => exact of_not_mem List.not_mem_nil
  | cons c cs ih => exact (ampersandsBeginEntities_escapeMarkupChar c).append ih

/-! ## Words between tags -/

/-- The words of a text up to the next tag, and what follows them. An entity
stands for its character; an ampersand or a closing angle bracket by itself is
no word. -/
def words? : List Char → Option (List Char × List Char)
  | [] => some ([], [])
  | '<' :: rest => some ([], '<' :: rest)
  | '&' :: 'a' :: 'm' :: 'p' :: ';' :: rest => (words? rest).map fun r => ('&' :: r.1, r.2)
  | '&' :: 'l' :: 't' :: ';' :: rest => (words? rest).map fun r => ('<' :: r.1, r.2)
  | '&' :: 'g' :: 't' :: ';' :: rest => (words? rest).map fun r => ('>' :: r.1, r.2)
  | '&' :: _ => none
  | '>' :: _ => none
  | c :: rest => (words? rest).map fun r => (c :: r.1, r.2)

theorem words?_escapeMarkupChar (c : Char) (rest : List Char) :
    words? (escapeMarkupChar c ++ rest) = (words? rest).map fun r => (c :: r.1, r.2) := by
  rw [escapeMarkupChar]
  split
  next h => subst h; rfl
  split
  next h => subst h; rfl
  split
  next h => subst h; rfl
  next hamp hlt hgt =>
    -- Any other character falls to the last case of the reader.
    rw [List.singleton_append, words?]
    · exact hlt
    · exact fun _ h _ => hamp h
    · exact fun _ h _ => hamp h
    · exact fun _ h _ => hamp h
    · exact hamp
    · exact hgt

/-- An escaped text is read as what it was, and the reader goes on after it. -/
theorem words?_escapeMarkup (s : String) (rest : List Char) :
    words? (escapeMarkup s ++ rest) = (words? rest).map fun r => (s.toList ++ r.1, r.2) := by
  rw [escapeMarkup]
  induction s.toList with
  | nil => simp
  | cons c cs ih =>
    rw [List.flatMap_cons, List.append_assoc, words?_escapeMarkupChar, ih, Option.map_map]
    rfl

/-! ## Messages -/

/-- What follows a mark at the start of a text. -/
def after? (mark text : List Char) : Option (List Char) :=
  if mark <+: text then some (text.drop mark.length) else none

theorem after?_append (mark rest : List Char) : after? mark (mark ++ rest) = some rest := by
  rw [after?, if_pos (List.prefix_append mark rest), List.drop_left]

/-- The title and the body that a text shows: the words between the tags and
those after the empty line. -/
def titleAndBody? (text : List Char) : Option (String × String) := do
  let (title, rest) ← words? (← after? "<b>".toList text)
  let (body, rest) ← words? (← after? "</b>\n\n".toList rest)
  if rest = [] then some (String.ofList title, String.ofList body) else none

theorem toList_markupText (n : Notification) : n.markupText.toList =
    "<b>".toList ++ (escapeMarkup n.title ++ ("</b>\n\n".toList ++ escapeMarkup n.body)) := by
  unfold Notification.markupText
  rw [String.toList_ofList, List.append_assoc, List.append_assoc]

theorem oneBoldPart_markupText (n : Notification) : OneBoldPart n.markupText.toList := by
  have hlines : Tagless "\n\n".toList := by simp [Tagless]
  refine ⟨escapeMarkup n.title, "\n\n".toList ++ escapeMarkup n.body, ?_, tagless_escapeMarkup _,
    hlines.append (tagless_escapeMarkup _)⟩
  rw [toList_markupText, List.append_assoc, List.append_assoc]
  rfl

theorem ampersandsBeginEntities_markupText (n : Notification) : AmpersandsBeginEntities n.markupText.toList := by
  have hfront : AmpersandsBeginEntities "<b>".toList := of_not_mem (by decide)
  have hend : AmpersandsBeginEntities "</b>\n\n".toList := of_not_mem (by decide)
  rw [toList_markupText]
  exact hfront.append ((ampersandsBeginEntities_escapeMarkup _).append
    (hend.append (ampersandsBeginEntities_escapeMarkup _)))

/-- The title ends at the first tag after it, and the body at the end. -/
theorem titleAndBody?_markupText (n : Notification) :
    titleAndBody? n.markupText.toList = some (n.title, n.body) := by
  have htitle : words? (escapeMarkup n.title ++ ("</b>\n\n".toList ++ escapeMarkup n.body)) =
      some (n.title.toList, "</b>\n\n".toList ++ escapeMarkup n.body) := by
    rw [words?_escapeMarkup]
    simp [words?]
  have hbody : words? (escapeMarkup n.body) = some (n.body.toList, []) := by
    simpa [words?] using words?_escapeMarkup n.body []
  simp only [titleAndBody?, toList_markupText, Option.bind_eq_bind, after?_append, Option.bind_some, htitle, hbody, if_true,
    String.ofList_toList]

theorem markupText_eq_iff : m.markupText = n.markupText ↔ m.title = n.title ∧ m.body = n.body := by
  constructor
  · intro h
    have hread := titleAndBody?_markupText m
    rw [h, titleAndBody?_markupText] at hread
    simpa [eq_comm] using hread
  · rintro ⟨htitle, hbody⟩
    apply String.toList_injective
    rw [toList_markupText, toList_markupText, htitle, hbody]

theorem request_eq_iff (channel : TelegramChannel) :
    channel.request m = channel.request n ↔ m.markupText = n.markupText := by
  simp [TelegramChannel.request, Http.Request.post]

/-- Whatever characters a notification has, the only angle brackets of its text
are those of the tags around the title, each ampersand begins an entity, and
title and body are read back. So two notifications have the same text, and are
sent as the same message, just if they have the same title and the same body. -/
theorem content_never_becomes_markup :
    (∀ n : Notification, OneBoldPart n.markupText.toList ∧ AmpersandsBeginEntities n.markupText.toList ∧
      titleAndBody? n.markupText.toList = some (n.title, n.body)) ∧
    ∀ (channel : TelegramChannel) (m n : Notification),
      (m.markupText = n.markupText ↔ m.title = n.title ∧ m.body = n.body) ∧
      (channel.request m = channel.request n ↔ m.title = n.title ∧ m.body = n.body) := by
  refine ⟨fun n => ⟨oneBoldPart_markupText n, ampersandsBeginEntities_markupText n, titleAndBody?_markupText n⟩, ?_⟩
  intro channel m n
  exact ⟨markupText_eq_iff, (request_eq_iff channel).trans markupText_eq_iff⟩

/-- A title that has the end of a title in it. -/
def endInTitle : Notification :=
  { (default : Notification) with title := "a</b>\n\nb", body := "c" }

/-- The same characters, shared out so that the body has it. -/
def endInBody : Notification :=
  { (default : Notification) with title := "a", body := "b</b>\n\nc" }

/-- Without escapes these two would be the same text. -/
theorem ends_told_apart :
    '&' :: "lt;/b&gt;\n\nc".toList <:+ endInBody.markupText.toList ∧
      (∃ entity ∈ entities, entity <+: '&' :: "lt;/b&gt;\n\nc".toList) ∧
      endInTitle.markupText ≠ endInBody.markupText := by
  obtain ⟨hparts, hsame⟩ := content_never_becomes_markup
  have hsuffix : '&' :: "lt;/b&gt;\n\nc".toList <:+ endInBody.markupText.toList := by decide
  refine ⟨hsuffix, (hparts endInBody).2.1 _ hsuffix, ?_⟩
  rw [Ne, (hsame default endInTitle endInBody).1]
  decide

end ValidatorWatch.Markup
