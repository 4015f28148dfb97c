import ValidatorWatch.Proofs.Source.Lookups
import ValidatorWatch.Source.Huginn
/-!
# Answers that are kept

Three answers are kept in the same way: the report of a key, the validator set
of a network and its figures. While the kept answer is young it serves without
a request. Otherwise the service is asked, its answer is kept, and if there is
none the old one serves on. `cached` is that way, and each of the three lookups
is an instance of it.
-/

namespace ValidatorWatch

open Http
open Time (Instant Span)

variable {α β : Type} {wire : Wire} {v w : Visit SourceMemory}

/-- Asks only if what is kept is not young, keeps the answer, and falls back on
what is kept. -/
def cached (slot : SourceMemory → Option α) (young : α → Bool) (keep : α → SourceMemory → SourceMemory)
    (ask : SourceLookup (Answer α)) : SourceLookup (Answer α) := do
  let kept := slot (← Lookup.kept)
  match kept.filter young with
  | some a => return .ok a
  | none =>
    match ← ask with
    | .error e => return Gmonads.keptOr kept e
    | .ok a => do
      Lookup.keep (keep a)
      return .ok a

/-- What a lookup fetches, if it comes to an answer at all. -/
def fetched? (ask : SourceLookup (Answer α)) (wire : Wire) (v : Visit SourceMemory) : Option α :=
  match (ask wire v).1 with
  | some (.ok a) => some a
  | _ => none

theorem keptOr_eq_ok_iff {kept : Option α} {e : SourceError} {a : α} :
    Gmonads.keptOr kept e = .ok a ↔ kept = some a := by
  cases kept with
  | none => exact ⟨nofun, nofun⟩
  | some b => exact ⟨fun h => congrArg some (Except.ok.inj h), fun h => congrArg Except.ok (Option.some.inj h)⟩

section

variable {slot : SourceMemory → Option α} {young : α → Bool} {keep : α → SourceMemory → SourceMemory}
  {ask : SourceLookup (Answer α)} {part : SourceMemory → β}

theorem cached_of_young {a : α} (h : (slot v.kept).filter young = some a) :
    cached slot young keep ask wire v = (some (.ok a), v) := by
  rw [cached, Lookup.kept_bind]
  simp only [h]
  rfl

theorem cached_of_stale (h : (slot v.kept).filter young = none) :
    cached slot young keep ask wire v =
      match ask wire v with
      | (some (.ok a), w) => (some (.ok a), { w with kept := keep a w.kept })
      | (some (.error e), w) => (some (Gmonads.keptOr (slot v.kept) e), w)
      | (none, w) => (none, w) := by
  rw [cached, Lookup.kept_bind]
  simp only [h]
  rw [Lookup.bind_apply]
  rcases ask wire v with ⟨_ | _ | _, w⟩ <;> rfl

theorem sent_cached_of_stale (slot : SourceMemory → Option α) (h : (slot v.kept).filter young = none) :
    (cached slot young keep ask wire v).2.sent = (ask wire v).2.sent := by
  rw [cached_of_stale h]
  rcases ask wire v with ⟨_ | _ | _, w⟩ <;> rfl

/-- What is left alone by asking and by keeping is left alone. -/
theorem cached_leaves (hask : Lookup.Leaves part ask) (hkeep : ∀ a m, part (keep a m) = part m) :
    Lookup.Leaves part (cached slot young keep ask) :=
  .bind .memory fun m => by
    dsimp only
    cases (slot m).filter young with
    | some a => exact .pure _
    | none =>
      refine hask.bind fun answer => ?_
      cases answer with
      | error e => exact .pure _
      | ok a => exact .bind (.keep (hkeep a)) fun _ => .pure _

/-- What is kept afterwards is what was fetched, or else what was kept before. -/
theorem slot_cached_of_stale (slot : SourceMemory → Option α) (hask : Lookup.Leaves slot ask)
    (hkeep : ∀ a m, slot (keep a m) = some a)
    (h : (slot v.kept).filter young = none) :
    slot (cached slot young keep ask wire v).2.kept = (fetched? ask wire v).or (slot v.kept) := by
  rw [cached_of_stale h, fetched?]
  have hslot := hask.kept wire v
  revert hslot
  rcases ask wire v with ⟨_ | e | a, w⟩
  · exact id
  · exact id
  · intro
    exact hkeep a w.kept

/-- It answers what is kept afterwards, and with an error only if nothing is. -/
theorem cached_answers (hask : Lookup.Leaves slot ask) (hkeep : ∀ a m, slot (keep a m) = some a)
    {answer : Answer α} (h : cached slot young keep ask wire v = (some answer, w)) (a : α) :
    answer = .ok a ↔ slot w.kept = some a := by
  cases hyoung : (slot v.kept).filter young with
  | some b =>
    rw [cached_of_young hyoung] at h
    cases h
    have hb : slot v.kept = some b := (Option.filter_eq_some_iff.1 hyoung).1
    rw [hb]
    exact ⟨fun h => congrArg some (Except.ok.inj h), fun h => congrArg Except.ok (Option.some.inj h)⟩
  | none =>
    rw [cached_of_stale hyoung] at h
    have hslot := hask.kept wire v
    revert h hslot
    rcases ask wire v with ⟨_ | e | b, w'⟩
    · exact nofun
    · intro h hslot
      cases h
      rw [← hslot]
      exact keptOr_eq_ok_iff
    · intro h hslot
      cases h
      show _ ↔ slot (keep b w'.kept) = some a
      rw [hkeep]
      exact ⟨fun h => congrArg some (Except.ok.inj h), fun h => congrArg Except.ok (Option.some.inj h)⟩

end

end ValidatorWatch
