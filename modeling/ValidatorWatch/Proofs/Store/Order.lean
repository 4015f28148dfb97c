import ValidatorWatch.Proofs.Store.Saves
/-!
# Saves in any order

A save goes by the two files of its validator, the own one and the temporary
one, and changes no others. `StateStore.Agree` says that two stores have the same
of one validator. So saves for validators with files of their own do not see
each other (`Agree.save`, `agree_save_of_ne`), and after some of them the store is
the same whatever their order (`saveAll_perm`).
-/

namespace ValidatorWatch

open Time (Instant)

/-! ## Writing and renaming -/

namespace Folder

variable {f g : Folder} {name source target text : String}

/-- Writing goes by what has the name. -/
theorem write_congr (h : f.get? name = g.get? name) (text : String) :
    (∃ fault, f.write name text = .error fault ∧ g.write name text = .error fault) ∨
      f.write name text = .ok (f.insert name (.file text)) ∧
        g.write name text = .ok (g.insert name (.file text)) := by
  unfold write
  rw [← h]
  split
  · exact .inl ⟨_, rfl, rfl⟩
  split
  · exact .inl ⟨_, rfl, rfl⟩
  · exact .inr ⟨rfl, rfl⟩

/-- Renaming goes by what has the two names. -/
theorem rename_congr (hs : f.get? source = g.get? source) (ht : f.get? target = g.get? target) :
    (∃ fault, f.rename source target = .error fault ∧ g.rename source target = .error fault) ∨
      ∃ text, f.rename source target = .ok ((f.erase source).insert target (.file text)) ∧
        g.rename source target = .ok ((g.erase source).insert target (.file text)) := by
  unfold rename
  rw [← hs, ← ht]
  split
  · exact .inr ⟨_, rfl, rfl⟩
  · exact .inr ⟨_, rfl, rfl⟩
  · exact .inl ⟨_, rfl, rfl⟩
  · exact .inl ⟨_, rfl, rfl⟩

end Folder

/-- What has a name in the state folder. -/
def StatePlace.found? : StatePlace → String → Option FolderEntry
  | .folder files, name => files.get? name
  | _, _ => none

namespace StateStore

theorem makeFolder_of (p : StatePlace) : p = .occupied ∧ makeFolder p = .error .exists ∨
    ∃ files, p ≠ .occupied ∧ makeFolder p = .ok files ∧ ∀ name, files.get? name = p.found? name := by
  cases p with
  | absent => exact .inr ⟨.empty, by simp, rfl, fun _ => rfl⟩
  | occupied => exact .inl ⟨rfl, rfl⟩
  | folder files => exact .inr ⟨files, by simp, rfl, fun _ => rfl⟩

variable {p q : StatePlace} {temporary name : String}

/-- Replacing a file goes by what has its two names. -/
theorem replaceFile_congr (trouble : Option SaveTrouble) (text : String) (hplace : p = .occupied ↔ q = .occupied)
    (ht : p.found? temporary = q.found? temporary) (hn : p.found? name = q.found? name) :
    let r := replaceFile trouble temporary name text p
    let s := replaceFile trouble temporary name text q
    r.1 = s.1 ∧ (r.2 = .occupied ↔ s.2 = .occupied) ∧ r.2.found? temporary = s.2.found? temporary ∧
      r.2.found? name = s.2.found? name := by
  dsimp only
  unfold replaceFile
  rcases makeFolder_of p with ⟨hp, hmake⟩ | ⟨f, hp, hmake, hf⟩ <;>
    rcases makeFolder_of q with ⟨hq, hmake'⟩ | ⟨g, hq, hmake', hg⟩
  · subst hp
    subst hq
    exact ⟨rfl, Iff.rfl, rfl, rfl⟩
  · exact absurd (hplace.1 hp) hq
  · exact absurd (hplace.2 hq) hp
  rw [hmake, hmake']
  have hft : f.get? temporary = g.get? temporary := by rw [hf, hg, ht]
  have hfn : f.get? name = g.get? name := by rw [hf, hg, hn]
  rcases trouble with _ | ⟨reason | ⟨left, reason⟩ | reason⟩
  case some.creating => exact ⟨rfl, hplace, ht, hn⟩
  case some.writing =>
    cases left with
    | none => exact ⟨rfl, by simp, hft, hfn⟩
    | some left =>
      rcases Folder.write_congr hft left with ⟨fault, hw, hw'⟩ | ⟨hw, hw'⟩
      · simp only [Option.map_some, hw, hw']
        exact ⟨trivial, by simp, hft, hfn⟩
      · simp only [Option.map_some, hw, hw']
        exact ⟨trivial, by simp, by simp [StatePlace.found?], by simp [StatePlace.found?, NameMap.get?_insert, hfn]⟩
  all_goals
    dsimp only
    rcases Folder.write_congr hft text with ⟨fault, hw, hw'⟩ | ⟨hw, hw'⟩
    · rw [hw, hw']
      exact ⟨rfl, by simp, hft, hfn⟩
    rw [hw, hw']
    have hft' : (f.insert temporary (.file text)).get? temporary =
        (g.insert temporary (.file text)).get? temporary := by
      simp
    have hfn' : (f.insert temporary (.file text)).get? name = (g.insert temporary (.file text)).get? name := by
      rw [NameMap.get?_insert, NameMap.get?_insert, hfn]
    dsimp only
  case some.renaming.inr => exact ⟨rfl, by simp, hft', hfn'⟩
  rcases Folder.rename_congr hft' hfn' with ⟨fault, hr, hr'⟩ | ⟨text', hr, hr'⟩
  · rw [hr, hr']
    exact ⟨rfl, by simp, hft', hfn'⟩
  · rw [hr, hr']
    refine ⟨rfl, by simp, ?_, ?_⟩
    · simp [StatePlace.found?, NameMap.get?_insert]
    · simp [StatePlace.found?]

/-- Replacing a file changes no others, and where the folder could be made it
can be made. -/
theorem replaceFile_frame (temporary name : String) (trouble : Option SaveTrouble) (text : String) (p : StatePlace) :
    ((replaceFile trouble temporary name text p).2 = .occupied ↔ p = .occupied) ∧
      ∀ other, other ≠ temporary → other ≠ name →
        (replaceFile trouble temporary name text p).2.found? other = p.found? other := by
  rcases replaceFile_of trouble temporary name text p with ⟨_, hr⟩ | ⟨before, after, hmake, hdone⟩
  · rw [hr]
    exact ⟨Iff.rfl, fun _ _ _ => rfl⟩
  rcases makeFolder_of p with ⟨-, hmake'⟩ | ⟨files, hp, hmake', hfiles⟩ <;> rw [hmake] at hmake'
  · cases hmake'
  obtain rfl := Except.ok.inj hmake'
  rcases hdone with ⟨_, hr, hget⟩ | ⟨hr, -, -, hget⟩ <;> rw [hr]
  · exact ⟨by simpa using hp, fun other ht _ => (hget other ht).trans (hfiles other)⟩
  · exact ⟨by simpa using hp, fun other ht hn => (hget other ht hn).trans (hfiles other)⟩

/-- A save either leaves the place as it is, whatever that is, or there is a
folder afterwards. -/
theorem replaceFile_place (trouble : Option SaveTrouble) (temporary name text : String) :
    (∀ p, (replaceFile trouble temporary name text p).2 = p) ∨
      ∀ p, p ≠ .occupied → ∃ files, (replaceFile trouble temporary name text p).2 = .folder files := by
  rcases trouble with _ | ⟨reason | ⟨left, reason⟩ | reason⟩
  case some.creating =>
    left
    intro p
    unfold replaceFile
    cases makeFolder p <;> rfl
  all_goals
    right
    intro p hp
    unfold replaceFile
    rcases makeFolder_of p with ⟨hp', -⟩ | ⟨files, -, hmake, -⟩
    · exact absurd hp' hp
    rw [hmake]
    dsimp only
  case none =>
    split
    · exact ⟨_, rfl⟩
    · split <;> exact ⟨_, rfl⟩
  case some.writing => exact ⟨_, rfl⟩
  case some.renaming => split <;> exact ⟨_, rfl⟩

/-! ## What a store has of a validator -/

variable {a b : String} {s t : StateStore} {trouble : Option SaveTrouble} {now : Instant} {state : State}

theorem temporaryName_inj (h : temporaryName a = temporaryName b) : fileName a = fileName b := by
  have hlist := congrArg String.toList h
  simp only [temporaryName, String.toList_ofList] at hlist
  generalize ".tmp".toList = ending at hlist
  exact String.toList_inj.1 (List.append_cancel_right hlist)

/-- What a save does to the place of a validator's file. -/
def replaced (trouble : Option SaveTrouble) (now : Instant) (a : String) (state : State) (p : StatePlace) :
    Except String Unit × StatePlace :=
  replaceFile trouble (temporaryName a) (fileName a)
    (StateFile.text ⟨StateFile.currentVersion, a, now, state⟩) p

theorem save_eq (s : StateStore) : s.save trouble now a state =
    ((replaced trouble now a state s.place).1.mapError (.writeFailed (s.filePath a)),
      { s with place := (replaced trouble now a state s.place).2 }) := by
  simp only [save, replaced]

/-- Two stores have the same of a validator. -/
structure Agree (a : String) (s t : StateStore) : Prop where
  path : s.path = t.path
  occupied : s.place = .occupied ↔ t.place = .occupied
  temporary : s.place.found? (temporaryName a) = t.place.found? (temporaryName a)
  own : s.place.found? (fileName a) = t.place.found? (fileName a)

theorem Agree.refl (a : String) (s : StateStore) : Agree a s s :=
  ⟨rfl, Iff.rfl, rfl, rfl⟩

theorem Agree.symm (h : Agree a s t) : Agree a t s :=
  ⟨h.path.symm, h.occupied.symm, h.temporary.symm, h.own.symm⟩

theorem Agree.trans {u : StateStore} (h : Agree a s t) (h' : Agree a t u) : Agree a s u :=
  ⟨h.path.trans h'.path, h.occupied.trans h'.occupied, h.temporary.trans h'.temporary, h.own.trans h'.own⟩

/-- Such stores do the same with a save for the validator. -/
theorem Agree.save (h : Agree a s t) (trouble : Option SaveTrouble) (now : Instant) (state : State) :
    (s.save trouble now a state).1 = (t.save trouble now a state).1 ∧
      Agree a (s.save trouble now a state).2 (t.save trouble now a state).2 := by
  have hpath : s.filePath a = t.filePath a := by simp only [filePath, h.path]
  rw [save_eq, save_eq, hpath]
  unfold replaced
  generalize StateFile.text ⟨StateFile.currentVersion, a, now, state⟩ = text
  obtain ⟨houtcome, hplace, htemporary, hown⟩ :=
    replaceFile_congr trouble text h.occupied h.temporary h.own
  rw [houtcome]
  exact ⟨rfl, h.path, hplace, htemporary, hown⟩

/-- A save for another validator leaves what the store has of this one. -/
theorem agree_save_of_ne (h : fileName a ≠ fileName b) : Agree b s (s.save trouble now a state).2 := by
  rw [save_eq]
  unfold replaced
  generalize StateFile.text ⟨StateFile.currentVersion, a, now, state⟩ = text
  obtain ⟨hplace, hframe⟩ :=
    replaceFile_frame (temporaryName a) (fileName a) trouble text s.place
  refine ⟨rfl, hplace.symm, (hframe _ ?_ ?_).symm, (hframe _ ?_ ?_).symm⟩
  · exact fun ht => h (temporaryName_inj ht).symm
  · exact temporaryName_ne_fileName b a
  · exact (temporaryName_ne_fileName a b).symm
  · exact h.symm

/-- What is restored goes by the own file. -/
theorem restore_eq (a : String) (s : StateStore) : s.restore a =
    match s.place.found? (fileName a) with
    | some (.file text) =>
      if Folder.nameLimit < (fileName a).utf8ByteSize then none else (StateFile.ofText? text).map (·.state)
    | _ => none := by
  rw [StateStore.restore, load, readFile]
  cases s.place with
  | absent | occupied => rfl
  | folder files =>
    simp only [StatePlace.found?, Folder.read]
    by_cases hlong : Folder.nameLimit < (fileName a).utf8ByteSize
    · simp only [hlong, if_true]
      cases files.get? (fileName a) with
      | none => rfl
      | some entry => cases entry <;> rfl
    · simp only [hlong, if_false]
      cases files.get? (fileName a) with
      | none => rfl
      | some entry =>
        cases entry with
        | folder => rfl
        | file text => cases hfile : StateFile.ofText? text <;> simp [hfile]

theorem Agree.restore (h : Agree a s t) : s.restore a = t.restore a := by
  rw [restore_eq, restore_eq, h.own]

/-! ## Many saves -/

theorem found?_save_of_ne {name : String} (ht : name ≠ temporaryName a) (hn : name ≠ fileName a) :
    (s.save trouble now a state).2.place.found? name = s.place.found? name := by
  rw [save_eq]
  exact (replaceFile_frame (temporaryName a) (fileName a) trouble _ s.place).2 name ht hn

theorem mem_fileNames_iff {name : String} : name ∈ s.fileNames ↔ (s.place.found? name).isSome = true := by
  unfold fileNames StatePlace.found?
  cases s.place with
  | absent | occupied => simp
  | folder files => exact NameMap.mem_names_iff

/-- A save that fails, or that is for another file, leaves a file as it is. -/
theorem found?_save (h : (s.save trouble now a state).1 ≠ .ok () ∨ fileName a ≠ fileName b) :
    (s.save trouble now a state).2.place.found? (fileName b) = s.place.found? (fileName b) := by
  by_cases hfile : fileName a = fileName b
  · have hfailed := h.resolve_right (not_not_intro hfile)
    rw [← hfile]
    rw [ne_eq, save_eq_ok_iff] at hfailed
    rw [save_eq, replaced]
    rcases replaceFile_of trouble (temporaryName a) (fileName a)
        (StateFile.text ⟨StateFile.currentVersion, a, now, state⟩) s.place with
      ⟨_, hr⟩ | ⟨before, after, hmake, ⟨_, hr, hget⟩ | ⟨hr, -⟩⟩ <;> rw [hr] at hfailed ⊢
    · rcases makeFolder_of s.place with ⟨-, hmake'⟩ | ⟨files, -, hmake', hfiles⟩ <;> rw [hmake] at hmake'
      · cases hmake'
      · obtain rfl := Except.ok.inj hmake'
        exact (hget _ (temporaryName_ne_fileName a a).symm).trans (hfiles _)
    · exact absurd rfl hfailed
  · exact (agree_save_of_ne hfile).own.symm

theorem occupied_save : (s.save trouble now a state).2.place = .occupied ↔ s.place = .occupied := by
  rw [save_eq]
  exact (replaceFile_frame (temporaryName a) (fileName a) trouble _ s.place).1

/-- A save either does nothing to any store, or there is a folder after it. -/
theorem save_place (trouble : Option SaveTrouble) (now : Instant) (a : String) (state : State) :
    (∀ s : StateStore, (s.save trouble now a state).2 = s) ∨
      ∀ s : StateStore, s.place ≠ .occupied → ∃ files, (s.save trouble now a state).2.place = .folder files := by
  rcases replaceFile_place trouble (temporaryName a) (fileName a)
      (StateFile.text ⟨StateFile.currentVersion, a, now, state⟩) with h | h
  · left
    intro s
    rw [save_eq, replaced, h]
  · right
    intro s hs
    rw [save_eq]
    exact h s.place hs

/-- Saves for validators with files of their own can be exchanged. -/
theorem save_comm (h : fileName a ≠ fileName b) (ta tb : Option SaveTrouble) (na nb : Instant) (x y : State) :
    ((s.save ta na a x).2.save tb nb b y).2 = ((s.save tb nb b y).2.save ta na a x).2 := by
  -- A save that does nothing to any store can go anywhere.
  rcases save_place ta na a x with hid | ha
  · rw [hid, hid]
  rcases save_place tb nb b y with hid | hb
  · rw [hid, hid]
  have hagreeA : Agree a ((s.save ta na a x).2.save tb nb b y).2 ((s.save tb nb b y).2.save ta na a x).2 :=
    (agree_save_of_ne h.symm).symm.trans ((agree_save_of_ne h.symm).save ta na x).2
  have hagreeB : Agree b ((s.save ta na a x).2.save tb nb b y).2 ((s.save tb nb b y).2.save ta na a x).2 :=
    ((agree_save_of_ne h).save tb nb y).2.symm.trans (agree_save_of_ne h)
  -- Otherwise there is a folder in the end, and what it has under a name is the affair of one of the two.
  have hentries (name : String) : ((s.save ta na a x).2.save tb nb b y).2.place.found? name =
      ((s.save tb nb b y).2.save ta na a x).2.place.found? name := by
    by_cases hname : name = temporaryName a ∨ name = fileName a ∨ name = temporaryName b ∨ name = fileName b
    · rcases hname with rfl | rfl | rfl | rfl
      · exact hagreeA.temporary
      · exact hagreeA.own
      · exact hagreeB.temporary
      · exact hagreeB.own
    · simp only [not_or] at hname
      obtain ⟨hat, han, hbt, hbn⟩ := hname
      rw [found?_save_of_ne hbt hbn, found?_save_of_ne hat han, found?_save_of_ne hat han, found?_save_of_ne hbt hbn]
  have hplace : ((s.save ta na a x).2.save tb nb b y).2.place = ((s.save tb nb b y).2.save ta na a x).2.place := by
    by_cases hs : s.place = .occupied
    · rw [occupied_save.2 (occupied_save.2 hs), occupied_save.2 (occupied_save.2 hs)]
    · obtain ⟨f, hf⟩ := hb (s.save ta na a x).2 fun ho => hs (occupied_save.1 ho)
      obtain ⟨g, hg⟩ := ha (s.save tb nb b y).2 fun ho => hs (occupied_save.1 ho)
      rw [hf, hg] at hentries
      rw [hf, hg]
      exact congrArg StatePlace.folder (NameMap.ext_get? hentries)
  have hpath := hagreeA.path
  generalize ((s.save ta na a x).2.save tb nb b y).2 = t at hpath hplace
  generalize ((s.save tb nb b y).2.save ta na a x).2 = u at hpath hplace
  cases t
  cases u
  obtain rfl := hpath
  obtain rfl := hplace
  rfl

/-- After saves for validators with files of their own the store is the same,
whatever their order. -/
theorem saveAll_perm {calls calls' : List Save} (hperm : calls.Perm calls')
    (hapart : calls.Pairwise fun c c' => fileName c.validator ≠ fileName c'.validator) :
    s.saveAll calls = s.saveAll calls' := by
  have hsymm : Std.Symm fun c c' : Save => fileName c.validator ≠ fileName c'.validator := ⟨fun _ _ h => h.symm⟩
  refine hperm.foldl_eq' ?_ s
  intro c hc c' hc' t
  by_cases hsame : c = c'
  · rw [hsame]
  · exact save_comm (hapart.forall hc hc' hsame) ..

end StateStore

end ValidatorWatch
