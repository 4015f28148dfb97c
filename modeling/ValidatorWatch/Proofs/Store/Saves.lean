import ValidatorWatch.Proofs.Validator.Encoding
import ValidatorWatch.Store.StateStore
/-!
# Saving and loading

A save that succeeds leaves a file that is loaded as the state that was saved,
and no save touches the file of a name with another file name. So a sequence
of saves, whatever fails among them, leaves for each validator the state that
was last saved to its file (`load_saveAll`).

Names may share a file: `a b` and `a_b` do. Then the state of the one is
loaded for the other (`save_for_other_loaded`).
-/

namespace ValidatorWatch

open Document
open Time (Instant)

/-! ## Folders -/

namespace Folder

variable {d d' : Folder} {name source target text : String}

theorem write_eq_ok (h : d.write name text = .ok d') :
    name.utf8ByteSize ≤ nameLimit ∧ d' = d.insert name (.file text) := by
  rw [write] at h
  split at h
  next => cases h
  next hlen =>
    split at h
    next => cases h
    next => exact ⟨by omega, (Except.ok.inj h).symm⟩

theorem rename_eq_ok (h : d.rename source target = .ok d') :
    ∃ text, d.get? source = some (.file text) ∧ d' = (d.erase source).insert target (.file text) := by
  rw [rename] at h
  split at h
  next text _ hs _ => exact ⟨text, hs, (Except.ok.inj h).symm⟩
  next text hs _ => exact ⟨text, hs, (Except.ok.inj h).symm⟩
  next => cases h
  next => cases h

end Folder

namespace StateFile

theorem kept {f : StateFile} (hversion : f.version < 2 ^ 32) (htime : Instant.InYears f.savedAt.date.year)
    (hstate : f.state.Storable) : Kept toValue ofValue? 8 f := by
  have hv := kept_nat (by decide) hversion
  have hname := kept_text f.validator
  have ht := kept_instant htime
  have hs := State.kept hstate
  refine ⟨?_, ?_⟩
  · simp only [toValue, Json.Writable, List.forall_mem_cons]
    exact ⟨hv.writable, hname.writable, ht.writable, hs.writable, by simp⟩
  · rw [ofValue?, toValue]
    refine Value.bind_fields?_obj (by simp) ?_
    exact hv.required rfl <| hname.required rfl <| ht.required rfl <|
      hs.required rfl rfl

/-- The text of a state file is read as that file. -/
theorem ofText?_text {f : StateFile} (hversion : f.version < 2 ^ 32)
    (htime : Instant.InYears f.savedAt.date.year) (hstate : f.state.Storable) :
    ofText? f.text = some f := by
  have h := kept hversion htime hstate
  rw [ofText?, text, Json.parse?_render h.writable (by decide), Option.bind_some, h.read_eq]

end StateFile

namespace StateStore

variable {a b : String}

/-! ## Names -/

theorem toList_fileName (a : String) :
    (fileName a).toList = "state_".toList ++ safeName a ++ ".json".toList :=
  String.toList_ofList

/-- Names share a file if they differ only in characters that are replaced. -/
theorem fileName_eq_iff : fileName a = fileName b ↔ safeName a = safeName b := by
  constructor
  · intro h
    have hchars := congrArg String.toList h
    rw [toList_fileName, toList_fileName] at hchars
    exact List.append_cancel_left (List.append_cancel_right hchars)
  · intro h
    exact congrArg (fun cs => String.ofList ("state_".toList ++ cs ++ ".json".toList)) h

theorem temporaryName_ne_fileName (a b : String) : temporaryName a ≠ fileName b := by
  intro h
  have hlast := congrArg (fun s => s.toList.getLast?) h
  simp only [temporaryName, String.toList_ofList, toList_fileName, List.getLast?_append] at hlast
  have htmp : ".tmp".toList.getLast? = some 'p' := by decide
  have hjson : ".json".toList.getLast? = some 'n' := by decide
  rw [htmp, hjson, Option.some_or, Option.some_or] at hlast
  exact absurd (Option.some.inj hlast) (by decide)

theorem size_fileName_le (a : String) : (fileName a).utf8ByteSize ≤ (temporaryName a).utf8ByteSize := by
  rw [temporaryName, String.ofList_append, String.ofList_toList, String.utf8ByteSize_append]
  omega

/-! ## What a save does -/

/-- What a save does to the folder, in three cases. -/
theorem replaceFile_of (trouble : Option SaveTrouble) (temporary name text : String) (place : StatePlace) :
    -- The folder cannot be made: nothing changes.
    (∃ reason, replaceFile trouble temporary name text place = (.error reason, place)) ∨
    ∃ before after, makeFolder place = .ok before ∧
      -- Given up on the way: only the temporary file may have changed.
      ((∃ reason, replaceFile trouble temporary name text place = (.error reason, .folder after) ∧
        ∀ other, other ≠ temporary → after.get? other = before.get? other) ∨
      -- Done: the text has its own name.
      (replaceFile trouble temporary name text place = (.ok (), .folder after) ∧
        temporary.utf8ByteSize ≤ Folder.nameLimit ∧ after.get? name = some (.file text) ∧
        ∀ other, other ≠ temporary → other ≠ name → after.get? other = before.get? other)) := by
  unfold replaceFile
  cases hmake : makeFolder place with
  | error fault => rcases trouble with _ | ⟨_ | _ | _⟩ <;> exact .inl ⟨_, rfl⟩
  | ok before =>
    have hwritten {text : String} {written : Folder} (h : before.write temporary text = .ok written)
        (other : String) (ho : other ≠ temporary) : written.get? other = before.get? other := by
      rw [(Folder.write_eq_ok h).2, NameMap.get?_insert_of_ne _ _ (Ne.symm ho)]
    rcases trouble with _ | ⟨reason | ⟨left, reason⟩ | reason⟩
    case some.creating => exact .inl ⟨reason, rfl⟩
    case some.writing =>
      cases hleft : left.map (before.write temporary) with
      | none => exact .inr ⟨before, before, rfl, .inl ⟨reason, by simp [hleft], fun _ _ => rfl⟩⟩
      | some outcome =>
        obtain ⟨text, -, hwrite⟩ := Option.map_eq_some_iff.1 hleft
        cases outcome with
        | error fault => exact .inr ⟨before, before, rfl, .inl ⟨reason, by simp [hleft], fun _ _ => rfl⟩⟩
        | ok after => exact .inr ⟨before, after, rfl, .inl ⟨reason, by simp [hleft], hwritten hwrite⟩⟩
    all_goals
      dsimp only
      cases hwrite : before.write temporary text with
      | error fault => exact .inr ⟨before, before, rfl, .inl ⟨_, rfl, fun _ _ => rfl⟩⟩
      | ok written => ?_
    case some.renaming.ok => exact .inr ⟨before, written, rfl, .inl ⟨reason, rfl, hwritten hwrite⟩⟩
    dsimp only
    cases hrename : written.rename temporary name with
    | error fault => exact .inr ⟨before, written, rfl, .inl ⟨_, rfl, hwritten hwrite⟩⟩
    | ok after =>
      obtain ⟨hlen, hinsert⟩ := Folder.write_eq_ok hwrite
      obtain ⟨text', htext, hafter⟩ := Folder.rename_eq_ok hrename
      obtain rfl : text' = text := by
        rw [hinsert, NameMap.get?_insert_self] at htext
        exact (FolderEntry.file.inj (Option.some.inj htext)).symm
      refine .inr ⟨before, after, rfl, .inr ⟨rfl, hlen, ?_, fun other ht hn => ?_⟩⟩
      · rw [hafter, NameMap.get?_insert_self]
      · rw [hafter, NameMap.get?_insert_of_ne _ _ (Ne.symm hn), NameMap.get?_erase, if_neg (Ne.symm ht),
          hwritten hwrite other ht]

variable {s : StateStore} {trouble : Option SaveTrouble} {now : Instant} {state : State}

/-- A state that was saved is loaded. -/
theorem load_save (hstate : state.Storable) (hnow : Instant.InYears now.date.year)
    (hok : (s.save trouble now a state).1 = .ok ()) : (s.save trouble now a state).2.load a = .ok (some state) := by
  rw [save] at hok ⊢
  rcases replaceFile_of trouble (temporaryName a) (fileName a)
      (StateFile.text ⟨StateFile.currentVersion, a, now, state⟩) s.place with
    ⟨_, hr⟩ | ⟨before, after, -, ⟨_, hr, -⟩ | ⟨hr, hsize, hfile, -⟩⟩
  · rw [hr] at hok; cases hok
  · rw [hr] at hok; cases hok
  · have hread : Folder.read after (fileName a) = .ok (StateFile.text ⟨StateFile.currentVersion, a, now, state⟩) := by
      rw [Folder.read, if_neg (by have := size_fileName_le a; omega), hfile]
    have htext : StateFile.ofText? (StateFile.text ⟨StateFile.currentVersion, a, now, state⟩) = some _ :=
      StateFile.ofText?_text (show StateFile.currentVersion < 2 ^ 32 by decide) hnow hstate
    rw [hr]
    simp only [load, readFile, hread, htext]

theorem save_eq_ok_iff : (s.save trouble now a state).1 = .ok () ↔
    (replaceFile trouble (temporaryName a) (fileName a)
      (StateFile.text ⟨StateFile.currentVersion, a, now, state⟩) s.place).1 = .ok () := by
  simp only [save]
  cases (replaceFile trouble (temporaryName a) (fileName a)
    (StateFile.text ⟨StateFile.currentVersion, a, now, state⟩) s.place).1 <;> simp [Except.mapError]

/-- A save that fails, or that is for another file, leaves a file as it is. An
overlong name is refused only once there is a folder. -/
theorem readFile_save (h : (s.save trouble now a state).1 ≠ .ok () ∨ fileName a ≠ fileName b) :
    (s.save trouble now a state).2.readFile (fileName b) = s.readFile (fileName b) ∨
      s.place = .absent ∧ Folder.nameLimit < (fileName b).utf8ByteSize ∧
        (s.save trouble now a state).2.readFile (fileName b) = .error .nameTooLong := by
  have hfolder {before after : Folder} (hmake : makeFolder s.place = .ok before)
      (hget : after.get? (fileName b) = before.get? (fileName b)) :
      Folder.read after (fileName b) = s.readFile (fileName b) ∨
        s.place = .absent ∧ Folder.nameLimit < (fileName b).utf8ByteSize ∧
          Folder.read after (fileName b) = .error .nameTooLong := by
    cases hplace : s.place with
    | occupied => rw [hplace] at hmake; cases hmake
    | folder files =>
      rw [hplace] at hmake
      cases hmake
      simp only [readFile, hplace, Folder.read, hget, true_or]
    | absent =>
      rw [hplace] at hmake
      cases hmake
      rw [NameMap.get?_empty] at hget
      simp only [readFile, hplace, Folder.read, hget]
      by_cases hlen : Folder.nameLimit < (fileName b).utf8ByteSize <;> simp [hlen]
  have hne := (temporaryName_ne_fileName a b).symm
  rw [ne_eq, save_eq_ok_iff] at h
  simp only [save]
  rcases replaceFile_of trouble (temporaryName a) (fileName a)
      (StateFile.text ⟨StateFile.currentVersion, a, now, state⟩) s.place with
    ⟨_, hr⟩ | ⟨before, after, hmake, ⟨_, hr, hget⟩ | ⟨hr, -, -, hget⟩⟩ <;> rw [hr] at h ⊢
  · exact .inl rfl
  · exact hfolder hmake (hget _ hne)
  · have hother : fileName b ≠ fileName a := fun hf => h.elim (fun hok => hok rfl) fun hab => hab hf.symm
    exact hfolder hmake (hget _ hne hother)

/-- Loading goes by the file. -/
theorem load_congr {t : StateStore} (hpath : s.path = t.path) (hfile : fileName a = fileName b)
    (hread : s.readFile (fileName a) = t.readFile (fileName b)) : s.load a = t.load b := by
  have hwhere : s.filePath a = t.filePath b := by
    simp only [filePath, hpath, hfile]
  rw [load, load, hread, hwhere]

theorem load_save_of_ne (hwide : (fileName b).utf8ByteSize ≤ Folder.nameLimit ∨ s.place ≠ .absent)
    (h : (s.save trouble now a state).1 ≠ .ok () ∨ fileName a ≠ fileName b) :
    (s.save trouble now a state).2.load b = s.load b := by
  refine load_congr rfl rfl ?_
  rcases readFile_save h with heq | ⟨habsent, hlong, -⟩
  · exact heq
  · rcases hwide with hshort | hplace
    · omega
    · exact absurd habsent hplace

/-- A file that cannot be read counts as none, so restoring needs no such condition. -/
theorem restore_save_of_ne (h : (s.save trouble now a state).1 ≠ .ok () ∨ fileName a ≠ fileName b) :
    (s.save trouble now a state).2.restore b = s.restore b := by
  rcases readFile_save h with heq | ⟨habsent, -, hlong⟩
  · have hload : (s.save trouble now a state).2.load b = s.load b := load_congr rfl rfl heq
    rw [restore, restore, hload]
  · have hmissing : s.readFile (fileName b) = .error .missing := by rw [readFile, habsent]
    simp only [restore, load, hlong, hmissing]

/-! ## One save after another -/

/-- The arguments of a save. -/
structure Save where
  trouble : Option SaveTrouble
  now : Instant
  validator : String
  state : State

/-- Does a save. -/
def perform (s : StateStore) (c : Save) : Except PersistenceError Unit × StateStore :=
  s.save c.trouble c.now c.validator c.state

/-- Does one save after another. -/
def saveAll (s : StateStore) (calls : List Save) : StateStore :=
  calls.foldl (fun s c => (s.perform c).2) s

theorem saveAll_append (s : StateStore) (calls more : List Save) :
    s.saveAll (calls ++ more) = (s.saveAll calls).saveAll more :=
  List.foldl_append

/-- The state that was last saved, by a save that succeeded, under one of some names. -/
def lastSaved (s : StateStore) (names : String → Bool) : List Save → Option State
  | [] => none
  | c :: rest =>
    ((s.perform c).2.lastSaved names rest).or
      (if names c.validator && (s.perform c).1.isOk then some c.state else none)

theorem place_save (h : s.place ≠ .absent) : (s.save trouble now a state).2.place ≠ .absent := by
  simp only [save]
  rcases replaceFile_of trouble (temporaryName a) (fileName a)
      (StateFile.text ⟨StateFile.currentVersion, a, now, state⟩) s.place with
    ⟨_, hr⟩ | ⟨before, after, -, ⟨_, hr, -⟩ | ⟨hr, -⟩⟩ <;> rw [hr]
  · exact h
  · simp
  · simp

theorem isOk_iff {outcome : Except PersistenceError Unit} : outcome.isOk = true ↔ outcome = .ok () := by
  cases outcome <;> simp [Except.isOk, Except.toBool]

/-- After one save the file has the state of that save, or what it had. -/
theorem load_perform {c : Save} (hwide : (fileName b).utf8ByteSize ≤ Folder.nameLimit ∨ s.place ≠ .absent)
    (hstate : fileName c.validator = fileName b → c.state.Storable ∧ Instant.InYears c.now.date.year) :
    (s.perform c).2.load b =
      if fileName c.validator = fileName b ∧ (s.perform c).1.isOk = true then .ok (some c.state)
      else s.load b := by
  split
  next h =>
    have hload := load_save (hstate h.1).1 (hstate h.1).2 (isOk_iff.1 h.2)
    rw [← hload]
    exact load_congr rfl h.1.symm (by rw [h.1]; rfl)
  next h =>
    refine load_save_of_ne hwide ?_
    by_cases hfile : fileName c.validator = fileName b
    · exact .inl fun hsaved => h ⟨hfile, isOk_iff.2 hsaved⟩
    · exact .inr hfile

/-- After any saves the state of a file is the last one that was saved to it,
under any name, and what it was at first if there is none. -/
theorem load_saveAll {names : String → Bool} {calls : List Save}
    (hwide : (fileName b).utf8ByteSize ≤ Folder.nameLimit ∨ s.place ≠ .absent)
    (hnames : ∀ c ∈ calls, names c.validator = true ↔ fileName c.validator = fileName b)
    (hstates : ∀ c ∈ calls, fileName c.validator = fileName b →
      c.state.Storable ∧ Instant.InYears c.now.date.year) :
    (s.saveAll calls).load b = ((s.lastSaved names calls).map fun state => .ok (some state)).getD (s.load b) := by
  induction calls generalizing s with
  | nil => rfl
  | cons c rest ih =>
    have hwide' : (fileName b).utf8ByteSize ≤ Folder.nameLimit ∨ (s.perform c).2.place ≠ .absent :=
      hwide.imp_right place_save
    have hrest := ih hwide' (fun c hc => hnames c (List.mem_cons_of_mem _ hc))
      (fun c hc => hstates c (List.mem_cons_of_mem _ hc))
    have hfirst := load_perform hwide (hstates c List.mem_cons_self)
    show ((s.perform c).2.saveAll rest).load b = _
    rw [hrest, hfirst, lastSaved]
    cases (s.perform c).2.lastSaved names rest with
    | some state => rfl
    | none =>
      simp only [← hnames c List.mem_cons_self, Option.none_or, Bool.and_eq_true]
      split <;> rfl

/-- As long as names differ in a character that is kept in file names, or in
their length, a save for one validator does not change what is loaded for
another, and after any saves what is loaded is the state last saved under that
very name. -/
theorem saves_kept_apart (s : StateStore) (b : String) (calls : List Save)
    (hwide : (fileName b).utf8ByteSize ≤ Folder.nameLimit ∨ s.place ≠ .absent) :
    (∀ trouble now a state, safeName a ≠ safeName b →
      (s.save trouble now a state).2.load b = s.load b) ∧
    ((∀ c ∈ calls, safeName c.validator = safeName b →
        c.validator = b ∧ c.state.Storable ∧ Instant.InYears c.now.date.year) →
      (s.saveAll calls).load b =
        ((s.lastSaved (· = b) calls).map fun state => .ok (some state)).getD (s.load b)) := by
  refine ⟨fun trouble now a state hne => ?_, fun hcalls => ?_⟩
  · exact load_save_of_ne hwide (.inr fun hfile => hne (fileName_eq_iff.1 hfile))
  · refine load_saveAll hwide (fun c hc => ?_) fun c hc hfile => (hcalls c hc (fileName_eq_iff.1 hfile)).2
    rw [decide_eq_true_eq, fileName_eq_iff]
    exact ⟨fun h => by rw [h], fun h => (hcalls c hc h).1⟩

/-! ## Names that share a file -/

/-- The start of 1970. -/
def epoch : Instant := .ofNanos 0

/-- A folder that is not there yet. -/
def unused : StateStore := ⟨"state", .absent⟩

/-- A save for `val-1`. -/
def firstSave : Save := ⟨none, epoch, "val-1", .fresh epoch⟩

/-- A save for `val-2` that breaks off. -/
def brokenSave : Save := ⟨some (.renaming "No space left on device (os error 28)"), epoch, "val-2", .fresh epoch⟩

/-- What was saved for the one is loaded, whatever became of the other. -/
theorem first_save_loaded : (fileName "val-1").utf8ByteSize ≤ Folder.nameLimit ∧
    (unused.saveAll [firstSave, brokenSave]).load "val-1" = .ok (some (.fresh epoch)) := by
  have hcalls : ∀ c ∈ [firstSave, brokenSave], safeName c.validator = safeName "val-1" →
      c.validator = "val-1" ∧ c.state.Storable ∧ Instant.InYears c.now.date.year := by
    simp only [List.forall_mem_cons, List.not_mem_nil, false_imp_iff, implies_true, and_true]
    refine ⟨fun _ => ⟨rfl, State.storable_fresh (by decide), by decide⟩, fun h => ?_⟩
    exact absurd h (by decide)
  have hwide : (fileName "val-1").utf8ByteSize ≤ Folder.nameLimit := by decide
  have hlast : unused.lastSaved (· = "val-1") [firstSave, brokenSave] = some (.fresh epoch) := rfl
  have h := (saves_kept_apart unused "val-1" [firstSave, brokenSave] (.inl hwide)).2 hcalls
  rw [hlast] at h
  exact ⟨hwide, h⟩

/-- The state saved for the one of two validators is loaded for the other. -/
theorem save_for_other_loaded :
    ¬ ∀ (s : StateStore) (trouble : Option SaveTrouble) (now : Instant) (a b : String) (state : State),
      a ≠ b → Text.isAllBlank a = false → Text.isAllBlank b = false →
      (s.save trouble now a state).2.load b = s.load b := by
  intro h
  have hload := h unused none epoch "a b" "a_b" (.fresh epoch) (by decide) (by decide) (by decide)
  have hok : (unused.save none epoch "a b" (.fresh epoch)).1 = .ok () := by
    rw [save_eq_ok_iff]
    rfl
  have hsaved := load_save (State.storable_fresh (t := epoch) (by decide)) (by decide) hok
  have hshared : fileName "a b" = fileName "a_b" := by decide
  rw [load_congr (b := "a_b") rfl hshared (by rw [hshared]), hload] at hsaved
  cases hsaved

end StateStore

end ValidatorWatch
