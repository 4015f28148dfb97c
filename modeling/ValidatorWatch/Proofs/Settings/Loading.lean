import Mathlib.Data.List.Nodup
import Mathlib.Data.List.Pairwise
import ValidatorWatch.Proofs.Settings.Validation
import ValidatorWatch.Settings.Loading
/-!
# What loading gives

Loading reads a main file, a file of credentials that may be missing and any
number of files with validators. `load_eq_ok_iff` says when that succeeds and
what settings come of it: the main ones, each credential from the first source
that has one (`Credentials.Chosen`), and the validators of all files. The files
only have to be read and to have no validator in common, so validators may be
moved between them (`load_moved`).
-/

namespace ValidatorWatch

open Document

/-! ## Credentials -/

namespace Credentials

variable {environment file : Option String} {own value : String}

/-- Which of three values of a credential counts: the one of the environment or of
the file, without the blanks around it, unless it is blank, and else the own one
of the main settings. -/
inductive Chosen (environment file : Option String) (own : String) : String → Prop where
  | environment {v : String} (h : environment = some v) (hblank : Text.isAllBlank v = false) :
      Chosen environment file own (Text.trim v)
  | file {v : String} (henvironment : ∀ w, environment = some w → Text.isAllBlank w = true)
      (h : file = some v) (hblank : Text.isAllBlank v = false) : Chosen environment file own (Text.trim v)
  | own (henvironment : ∀ w, environment = some w → Text.isAllBlank w = true)
      (hfile : ∀ w, file = some w → Text.isAllBlank w = true) : Chosen environment file own own

theorem override_of_given {v : String} (h : environment = some v) (hblank : Text.isAllBlank v = false) (own : String) :
    override environment own = Text.trim v := by
  rw [override, given?, h, Option.filter_some, hblank]
  rfl

theorem override_of_blank (h : ∀ w, environment = some w → Text.isAllBlank w = true) (own : String) :
    override environment own = own := by
  cases environment with
  | none => rfl
  | some w =>
    rw [override, given?, Option.filter_some, h w rfl]
    rfl

/-- A source gives a value or has none but a blank one. -/
theorem given_or_blank (source : Option String) :
    (∃ v, source = some v ∧ Text.isAllBlank v = false) ∨ ∀ w, source = some w → Text.isAllBlank w = true := by
  cases source with
  | none => exact .inr fun w h => nomatch h
  | some v =>
    cases hblank : Text.isAllBlank v with
    | false => exact .inl ⟨v, rfl, hblank⟩
    | true => exact .inr fun w h => Option.some.inj h ▸ hblank

/-- Overriding twice chooses the value of the last source that has one. -/
theorem chosen_iff : Chosen environment file own value ↔ value = override environment (override file own) := by
  constructor
  · rintro (⟨h, hblank⟩ | ⟨henvironment, h, hblank⟩ | ⟨henvironment, hfile⟩)
    · rw [override_of_given h hblank]
    · rw [override_of_blank henvironment, override_of_given h hblank]
    · rw [override_of_blank henvironment, override_of_blank hfile]
  · rintro rfl
    rcases given_or_blank environment with ⟨v, h, hblank⟩ | henvironment
    · rw [override_of_given h hblank]
      exact .environment h hblank
    rw [override_of_blank henvironment]
    rcases given_or_blank file with ⟨v, h, hblank⟩ | hfile
    · rw [override_of_given h hblank]
      exact .file henvironment h hblank
    · rw [override_of_blank hfile]
      exact .own henvironment hfile

/-- Settings that are the main ones but for the five credentials, each of them the
one that counts, and for the validators. -/
structure Merged (get : String → Option String) (secrets : Credentials) (main s : Settings) : Prop where
  telegramToken : Chosen (get "TELEGRAM_TOKEN") secrets.telegramToken main.telegram.token s.telegram.token
  telegramChatId : Chosen (get "TELEGRAM_CHAT_ID") secrets.telegramChatId main.telegram.chatId s.telegram.chatId
  pushoverUserKey :
    Chosen (get "PUSHOVER_USER_KEY") secrets.pushoverUserKey main.pushover.userKey s.pushover.userKey
  pushoverAppToken :
    Chosen (get "PUSHOVER_APP_TOKEN") secrets.pushoverAppToken main.pushover.appToken s.pushover.appToken
  discordWebhookUrl :
    Chosen (get "DISCORD_WEBHOOK_URL") secrets.discordWebhookUrl main.discord.webhookUrl s.discord.webhookUrl
  rest : s = { main with
    telegram := { main.telegram with token := s.telegram.token, chatId := s.telegram.chatId }
    pushover := { main.pushover with userKey := s.pushover.userKey, appToken := s.pushover.appToken }
    discord := { main.discord with webhookUrl := s.discord.webhookUrl }
    validators := s.validators }

theorem merged_iff {get : String → Option String} {secrets : Credentials} {main s : Settings} :
    Merged get secrets main s ↔
      s = { (ofEnvironment get).overlay (secrets.overlay main) with validators := s.validators } := by
  constructor
  · rintro ⟨htoken, hchat, huser, happ, hwebhook, hrest⟩
    rw [chosen_iff] at htoken hchat huser happ hwebhook
    rw [htoken, hchat, huser, happ, hwebhook] at hrest
    exact hrest
  · intro h
    have htoken := congrArg (·.telegram.token) h
    have hchat := congrArg (·.telegram.chatId) h
    have huser := congrArg (·.pushover.userKey) h
    have happ := congrArg (·.pushover.appToken) h
    have hwebhook := congrArg (·.discord.webhookUrl) h
    refine ⟨chosen_iff.2 htoken, chosen_iff.2 hchat, chosen_iff.2 huser, chosen_iff.2 happ, chosen_iff.2 hwebhook, ?_⟩
    dsimp only at htoken hchat huser happ hwebhook
    rw [htoken, hchat, huser, happ, hwebhook]
    exact h

end Credentials

namespace SettingsFolder

variable {d : SettingsFolder} {tables : String → NameMap ValidatorEntry} {known m : NameMap ValidatorEntry}

/-! ## Reading files -/

/-- A file is there and is read as a document of its kind. -/
def Reads {α : Type} (d : SettingsFolder) (name : String) (read : Value → Option α) (a : α) : Prop :=
  ∃ text v, d.files.read name = .ok text ∧ Toml.parse? text = some v ∧ read v = some a

/-- The credentials of the file for them. There are none if it is missing. -/
def ReadsCredentials (d : SettingsFolder) (secrets : Credentials) : Prop :=
  d.files.read secretsFile = .error .missing ∧ secrets = {} ∨
    d.Reads secretsFile (Credentials.ofValue? .toml) secrets

theorem parse_eq_ok_iff {α : Type} {name text : String} {read : Value → Option α} {a : α} :
    d.parse name read text = .ok a ↔ ∃ v, Toml.parse? text = some v ∧ read v = some a := by
  rw [parse, ← Option.bind_eq_some_iff]
  cases (Toml.parse? text).bind read <;> simp

theorem loadFile_eq_ok_iff {α : Type} {name : String} {read : Value → Option α} {a : α} :
    d.loadFile name read = .ok a ↔ d.Reads name read a := by
  rw [loadFile, Reads]
  cases d.files.read name <;> simp [parse_eq_ok_iff]

theorem loadCredentials_eq_ok_iff {secrets : Credentials} :
    d.loadCredentials = .ok secrets ↔ d.ReadsCredentials secrets := by
  rw [loadCredentials, ReadsCredentials, Reads]
  cases d.files.read secretsFile with
  | ok text => simp [parse_eq_ok_iff]
  | error fault => cases fault <;> simp [eq_comm]

/-! ## Validators of all files -/

/-- The files that declare validators. -/
def validatorFiles (d : SettingsFolder) : List String :=
  d.files.names.filter isValidatorFile

/-- The files that declare validators are read as these tables of them. -/
def Declares (d : SettingsFolder) (tables : String → NameMap ValidatorEntry) : Prop :=
  ∀ file ∈ d.validatorFiles, d.Reads file (Settings.readValidators? .toml) (tables file)

/-- The validators of a file, with its name. -/
def tagged (file : String) (table : NameMap ValidatorEntry) : List (String × ValidatorEntry) :=
  table.entries.map fun e => (e.1, { e.2 with file := file })

/-- The validators of all files. -/
def declared (d : SettingsFolder) (tables : String → NameMap ValidatorEntry) : List (String × ValidatorEntry) :=
  d.validatorFiles.flatMap fun file => tagged file (tables file)

/-- Adds a validator that is not known by its name. -/
def addNew (known : NameMap ValidatorEntry) (e : String × ValidatorEntry) :
    Except SettingsError (NameMap ValidatorEntry) :=
  if known.contains e.1 then .error (.duplicateValidator e.1) else .ok (known.insert e.1 e.2)

/-- Entries that can be added: no two of them have one name, and no name is
known. -/
def AllNew (known : NameMap ValidatorEntry) (es : List (String × ValidatorEntry)) : Prop :=
  (es.map (·.1)).Nodup ∧ ∀ e ∈ es, known.get? e.1 = none

theorem allNew_cons {name : String} {v : ValidatorEntry} {es : List (String × ValidatorEntry)} :
    AllNew known ((name, v) :: es) ↔ known.get? name = none ∧ AllNew (known.insert name v) es := by
  have hinsert (e : String × ValidatorEntry) :
      (known.insert name v).get? e.1 = none ↔ name ≠ e.1 ∧ known.get? e.1 = none := by
    rw [NameMap.get?_insert]
    split <;> simp_all
  have hnames : name ∉ es.map (·.1) ↔ ∀ e ∈ es, name ≠ e.1 := by
    simp only [List.mem_map, not_exists, not_and]
    exact forall₂_congr fun e _ => ne_comm
  simp only [AllNew, List.map_cons, List.nodup_cons, hnames, List.forall_mem_cons, hinsert]
  constructor
  · rintro ⟨⟨hname, hnodup⟩, hknown, hnew⟩
    exact ⟨hknown, hnodup, fun e he => ⟨hname e he, hnew e he⟩⟩
  · rintro ⟨hknown, hnodup, hnew⟩
    exact ⟨⟨fun e he => (hnew e he).1, hnodup⟩, hknown, fun e he => (hnew e he).2⟩

/-- Entries are added, or one of them is told to be defined twice. -/
theorem foldlM_addNew (es : List (String × ValidatorEntry)) (known : NameMap ValidatorEntry) :
    (AllNew known es ∧ ∃ m, es.foldlM addNew known = .ok m ∧
      ∀ name v, m.get? name = some v ↔ known.get? name = some v ∨ (name, v) ∈ es) ∨
    ¬ AllNew known es ∧ ∃ name, es.foldlM addNew known = .error (.duplicateValidator name) := by
  induction es generalizing known with
  | nil => exact .inl ⟨⟨by simp, by simp⟩, known, rfl, by simp⟩
  | cons e es ih =>
    obtain ⟨name, v⟩ := e
    rw [List.foldlM_cons, addNew, allNew_cons, NameMap.contains]
    cases hknown : known.get? name with
    | some w => exact .inr ⟨fun h => (nomatch h.1), name, rfl⟩
    | none =>
      have hinsert (n : String) (w : ValidatorEntry) :
          (known.insert name v).get? n = some w ↔ known.get? n = some w ∨ (n, w) = (name, v) := by
        rw [NameMap.get?_insert, Prod.mk.injEq]
        split
        next hn => simp [← hn, hknown, eq_comm]
        next hn => simp [Ne.symm hn]
      rcases ih (known.insert name v) with ⟨hnew, m, hfold, hget⟩ | ⟨hnew, n, hfold⟩
      · refine .inl ⟨⟨rfl, hnew⟩, m, hfold, fun n w => ?_⟩
        rw [hget, hinsert, List.mem_cons, or_assoc]
      · exact .inr ⟨fun h => hnew h.2, n, hfold⟩

/-! ## Files as one list -/

theorem addFile_eq {file : String} {table : NameMap ValidatorEntry}
    (h : d.Reads file (Settings.readValidators? .toml) table) (known : NameMap ValidatorEntry) :
    d.addFile known file = (tagged file table).foldlM addNew known := by
  rw [addFile, loadFile_eq_ok_iff.2 h, tagged, List.foldlM_map]
  rfl

/-- Files that are read add what they declare, one after another. -/
theorem loadValidators_eq (h : d.Declares tables) :
    d.loadValidators = (d.declared tables).foldlM addNew .empty := by
  -- Later files find the validators of earlier ones, so the induction is for any that are known.
  have hfold (files : List String) (hfiles : ∀ file ∈ files, file ∈ d.validatorFiles)
      (known : NameMap ValidatorEntry) : files.foldlM d.addFile known =
        (files.flatMap fun file => tagged file (tables file)).foldlM addNew known := by
    induction files generalizing known with
    | nil => rfl
    | cons file files ih =>
      obtain ⟨hfile, hmore⟩ := List.forall_mem_cons.1 hfiles
      rw [List.foldlM_cons, addFile_eq (h file hfile), List.flatMap_cons, List.foldlM_append]
      exact bind_congr fun m => ih hmore m
  exact hfold _ (fun _ hfile => hfile) _

/-- Where loading succeeds every file was read. -/
theorem declares_of_loadValidators (h : d.loadValidators = .ok m) : ∃ tables, d.Declares tables := by
  have hfold (files : List String) (known : NameMap ValidatorEntry) (h : files.foldlM d.addFile known = .ok m) :
      ∀ file ∈ files, ∃ table, d.Reads file (Settings.readValidators? .toml) table := by
    induction files generalizing known with
    | nil => simp
    | cons file files ih =>
      rw [List.foldlM_cons, bind_eq_ok_iff] at h
      obtain ⟨next, hfile, hmore⟩ := h
      obtain ⟨table, htable, -⟩ := bind_eq_ok_iff.1 hfile
      exact List.forall_mem_cons.2 ⟨⟨table, loadFile_eq_ok_iff.1 htable⟩, ih next hmore⟩
  choose! tables htables using hfold _ _ h
  exact ⟨tables, htables⟩

/-- No validator is declared in two files. -/
def Apart (d : SettingsFolder) (tables : String → NameMap ValidatorEntry) : Prop :=
  ∀ file ∈ d.validatorFiles, ∀ other ∈ d.validatorFiles, ∀ name,
    name ∈ (tables file).names → name ∈ (tables other).names → file = other

/-- The validators of all files together, each with the file it is from. -/
def IsUnion (d : SettingsFolder) (tables : String → NameMap ValidatorEntry) (m : NameMap ValidatorEntry) : Prop :=
  ∀ name v, m.get? name = some v ↔
    ∃ file ∈ d.validatorFiles, ∃ e, (tables file).get? name = some e ∧ v = { e with file := file }

theorem nodup_names {α : Type} (m : NameMap α) : m.names.Nodup := by
  refine List.pairwise_map.2 (m.sorted.imp fun {a b} hlt heq => ?_)
  rw [heq] at hlt
  exact String.lt_irrefl _ hlt

theorem nodup_validatorFiles : d.validatorFiles.Nodup :=
  (nodup_names d.files).filter _

theorem map_fst_tagged (file : String) (table : NameMap ValidatorEntry) :
    (tagged file table).map (·.1) = table.names := by
  rw [tagged, List.map_map]
  rfl

/-- Files with no validator in common are just those whose entries can all be
added. -/
theorem allNew_declared_iff : AllNew .empty (d.declared tables) ↔ d.Apart tables := by
  have hnames : (d.declared tables).map (·.1) = d.validatorFiles.flatMap fun file => (tables file).names := by
    rw [declared, List.map_flatMap]
    simp only [map_fst_tagged]
  rw [AllNew, hnames, List.nodup_flatMap]
  constructor
  · rintro ⟨⟨-, hdisjoint⟩, -⟩ file hfile other hother name hname hname'
    by_contra hne
    have hsymm : Std.Symm (Function.onFun List.Disjoint fun file => (tables file).names) :=
      ⟨fun _ _ h _ hname hname' => h hname' hname⟩
    exact hdisjoint.forall hfile hother hne hname hname'
  · intro h
    refine ⟨⟨fun file _ => nodup_names _, nodup_validatorFiles.pairwise_of_forall_ne ?_⟩, fun _ _ => rfl⟩
    intro file hfile other hother hne name hname hname'
    exact hne (h file hfile other hother name hname hname')

theorem mem_declared {name : String} {v : ValidatorEntry} :
    (name, v) ∈ d.declared tables ↔
      ∃ file ∈ d.validatorFiles, ∃ e, (tables file).get? name = some e ∧ v = { e with file := file } := by
  simp only [declared, tagged, List.mem_flatMap, List.mem_map]
  constructor
  · rintro ⟨file, hfile, ⟨n, e⟩, he, heq⟩
    obtain ⟨rfl, rfl⟩ := Prod.mk.inj heq
    exact ⟨file, hfile, e, NameMap.get?_of_mem he, rfl⟩
  · rintro ⟨file, hfile, e, he, rfl⟩
    exact ⟨file, hfile, (name, e), NameMap.mem_of_get? he, rfl⟩

theorem loadValidators_eq_ok_iff :
    d.loadValidators = .ok m ↔ ∃ tables, d.Declares tables ∧ d.Apart tables ∧ d.IsUnion tables m := by
  constructor
  · intro h
    obtain ⟨tables, htables⟩ := declares_of_loadValidators h
    rw [loadValidators_eq htables] at h
    rcases foldlM_addNew (d.declared tables) .empty with ⟨hnew, n, hfold, hget⟩ | ⟨-, name, hfold⟩ <;> rw [hfold] at h
    · obtain rfl := Except.ok.inj h
      refine ⟨tables, htables, allNew_declared_iff.1 hnew, fun name v => ?_⟩
      rw [hget, mem_declared, NameMap.get?_empty]
      simp
    · cases h
  · rintro ⟨tables, htables, hapart, hunion⟩
    rw [loadValidators_eq htables]
    rcases foldlM_addNew (d.declared tables) .empty with ⟨-, n, hfold, hget⟩ | ⟨hnot, -⟩
    · have hsame : n = m := by
        refine NameMap.ext_get? fun name => Option.ext fun v => ?_
        rw [hunion, hget, mem_declared, NameMap.get?_empty]
        simp
      rw [hfold, hsame]
    · exact absurd (allNew_declared_iff.2 hapart) hnot

/-! ## Loading -/

/-- Settings are loaded just where all files are read, no validator is declared in
two of them and the merged settings pass. -/
theorem load_eq_ok_iff {get : String → Option String} {s : Settings} :
    d.load (.ofEnvironment get) = .ok s ↔ ∃ main secrets tables,
      d.Reads mainFile (Settings.ofValue? .toml) main ∧ d.ReadsCredentials secrets ∧ d.Declares tables ∧
        d.Apart tables ∧ Credentials.Merged get secrets main s ∧ d.IsUnion tables s.validators ∧
        s.validate = .ok () := by
  constructor
  · intro h
    obtain ⟨main, hmain, h⟩ := bind_eq_ok_iff.1 h
    obtain ⟨secrets, hsecrets, h⟩ := bind_eq_ok_iff.1 h
    obtain ⟨m, hm, h⟩ := bind_eq_ok_iff.1 h
    obtain ⟨_, hvalid, hs⟩ := bind_eq_ok_iff.1 h
    obtain rfl := Except.ok.inj hs
    obtain ⟨tables, hdeclares, hapart, hunion⟩ := loadValidators_eq_ok_iff.1 hm
    exact ⟨main, secrets, tables, loadFile_eq_ok_iff.1 hmain, loadCredentials_eq_ok_iff.1 hsecrets, hdeclares, hapart,
      Credentials.merged_iff.2 rfl, hunion, hvalid⟩
  · rintro ⟨main, secrets, tables, hmain, hsecrets, hdeclares, hapart, hmerged, hunion, hvalid⟩
    have hvalidators := loadValidators_eq_ok_iff.2 ⟨tables, hdeclares, hapart, hunion⟩
    refine bind_eq_ok_iff.2 ⟨main, loadFile_eq_ok_iff.2 hmain, bind_eq_ok_iff.2 ⟨secrets,
      loadCredentials_eq_ok_iff.2 hsecrets, bind_eq_ok_iff.2 ⟨s.validators, hvalidators, ?_⟩⟩⟩
    rw [← Credentials.merged_iff.1 hmerged]
    exact bind_eq_ok_iff.2 ⟨(), hvalid, rfl⟩

/-! ## Moving validators -/

/-- Two folders at one place that differ only in their files of validators. -/
structure SameMain (d d' : SettingsFolder) : Prop where
  path : d.path = d'.path
  main : d.files.read mainFile = d'.files.read mainFile
  secrets : d.files.read secretsFile = d'.files.read secretsFile

/-- The entries of all files, without the files. -/
def entries (d : SettingsFolder) (tables : String → NameMap ValidatorEntry) : List (String × ValidatorEntry) :=
  d.validatorFiles.flatMap fun file => (tables file).entries

variable {d' : SettingsFolder} {tables' : String → NameMap ValidatorEntry}

theorem SameMain.filePath_eq (h : d.SameMain d') (name : String) : d.filePath name = d'.filePath name := by
  rw [filePath, filePath, h.path]

theorem SameMain.parse_eq (h : d.SameMain d') {α : Type} (name text : String) (read : Value → Option α) :
    d.parse name read text = d'.parse name read text := by
  rw [parse, parse, h.filePath_eq]

theorem SameMain.loadFile_eq (h : d.SameMain d') {α : Type} (read : Value → Option α) :
    d.loadFile mainFile read = d'.loadFile mainFile read := by
  rw [loadFile, loadFile, h.main]
  split
  · exact h.parse_eq _ _ _
  · rw [h.filePath_eq]

theorem SameMain.loadCredentials_eq (h : d.SameMain d') : d.loadCredentials = d'.loadCredentials := by
  rw [loadCredentials, loadCredentials, h.secrets]
  split
  · exact h.parse_eq _ _ _
  · rfl
  · rw [h.filePath_eq]

theorem allNew_empty_iff {es : List (String × ValidatorEntry)} : AllNew .empty es ↔ (es.map (·.1)).Nodup :=
  and_iff_left fun _ _ => rfl

/-- Entries in another order can all be added as well. -/
theorem apart_iff_of_perm (h : (d.entries tables).Perm (d'.entries tables')) : d.Apart tables ↔ d'.Apart tables' := by
  have hnames (d : SettingsFolder) (tables : String → NameMap ValidatorEntry) :
      (d.declared tables).map (·.1) = (d.entries tables).map (·.1) := by
    rw [declared, entries, List.map_flatMap, List.map_flatMap]
    simp only [map_fst_tagged, NameMap.names]
  rw [← allNew_declared_iff, ← allNew_declared_iff, allNew_empty_iff, allNew_empty_iff, hnames, hnames]
  exact (h.map _).nodup_iff

/-- A validator without the file it is from. -/
def bare (v : ValidatorEntry) : ValidatorEntry :=
  { v with file := "" }

theorem map_bare_declared (d : SettingsFolder) (tables : String → NameMap ValidatorEntry) :
    ((d.declared tables).map fun e => (e.1, bare e.2)) = (d.entries tables).map fun e => (e.1, bare e.2) := by
  rw [declared, entries, List.map_flatMap, List.map_flatMap]
  congr 1
  funext file
  rw [tagged, List.map_map]
  rfl

/-- The files of validators do not matter to the map of them without the files. -/
theorem map_bare_eq {m' : NameMap ValidatorEntry} (h : (d.entries tables).Perm (d'.entries tables'))
    (hm : ∀ name v, m.get? name = some v ↔ (name, v) ∈ d.declared tables)
    (hm' : ∀ name v, m'.get? name = some v ↔ (name, v) ∈ d'.declared tables') :
    (m.map fun _ v => bare v) = m'.map fun _ v => bare v := by
  have hbare {d : SettingsFolder} {tables : String → NameMap ValidatorEntry} {m : NameMap ValidatorEntry}
      (hm : ∀ name v, m.get? name = some v ↔ (name, v) ∈ d.declared tables) (name : String) (u : ValidatorEntry) :
      (m.map fun _ v => bare v).get? name = some u ↔
        (name, u) ∈ (d.entries tables).map fun e => (e.1, bare e.2) := by
    rw [NameMap.get?_map, Option.map_eq_some_iff, ← map_bare_declared, List.mem_map]
    simp only [hm, Prod.mk.injEq]
    constructor
    · rintro ⟨v, hv, hu⟩
      exact ⟨(name, v), hv, rfl, hu⟩
    · rintro ⟨⟨n, v⟩, hv, rfl, hu⟩
      exact ⟨v, hv, hu⟩
  refine NameMap.ext_get? fun name => Option.ext fun u => ?_
  rw [hbare hm, hbare hm', (h.map _).mem_iff]

/-- Wherever the validators are declared, the same is loaded but for the files they
are from. If one is declared twice that is told, though perhaps of another. -/
theorem load_moved (hsame : d.SameMain d') (hd : d.Declares tables) (hd' : d'.Declares tables')
    (h : (d.entries tables).Perm (d'.entries tables')) (environment : Credentials) :
    (d.load environment).map Settings.withoutFiles = (d'.load environment).map Settings.withoutFiles ∨
      ¬ d.Apart tables ∧ ¬ d'.Apart tables' ∧ ∃ name name',
        d.load environment = .error (.duplicateValidator name) ∧
          d'.load environment = .error (.duplicateValidator name') := by
  rw [load, load, hsame.loadFile_eq, hsame.loadCredentials_eq, loadValidators_eq hd, loadValidators_eq hd']
  cases d'.loadFile mainFile (Settings.ofValue? .toml) with
  | error e => exact .inl rfl
  | ok main =>
  cases d'.loadCredentials with
  | error e => exact .inl rfl
  | ok secrets =>
  have hapart := apart_iff_of_perm h
  rw [← allNew_declared_iff, ← allNew_declared_iff] at hapart ⊢
  rcases foldlM_addNew (d.declared tables) .empty with ⟨hnew, m, hfold, hget⟩ | ⟨hnot, name, hfold⟩ <;>
    rcases foldlM_addNew (d'.declared tables') .empty with ⟨hnew', m', hfold', hget'⟩ | ⟨hnot', name', hfold'⟩
  · left
    rw [hfold, hfold']
    let merged (m : NameMap ValidatorEntry) : Settings :=
      { environment.overlay (secrets.overlay main) with validators := m }
    have hmap : (m.map fun _ v => bare v) = m'.map fun _ v => bare v :=
      map_bare_eq h (by simpa using hget) (by simpa using hget')
    have hbare : (merged m).withoutFiles = (merged m').withoutFiles := congrArg merged hmap
    have hvalid : (merged m).validate = (merged m').validate := by
      rw [← Settings.validate_withoutFiles, hbare, Settings.validate_withoutFiles]
    show ((merged m).validate >>= fun _ => .ok (merged m)).map _
      = ((merged m').validate >>= fun _ => .ok (merged m')).map _
    rw [hvalid]
    cases (merged m').validate with
    | error e => rfl
    | ok => exact congrArg Except.ok hbare
  · exact absurd (hapart.1 hnew) hnot'
  · exact absurd (hapart.2 hnew') hnot
  · refine .inr ⟨hnot, hnot', name, name', ?_, ?_⟩
    · rw [hfold]
      rfl
    · rw [hfold']
      rfl

/-- Settings are layers of files. They are loaded just where every file is read, no
validator is declared in two files and what the layers come to passes: the main
settings, each credential from the environment, the file of credentials or the
main settings, the first that has one, and the validators of all files, each with
its file. Which of the files a validator is in changes nothing but that. -/
theorem settings_loaded_in_layers :
    (∀ (d : SettingsFolder) (get : String → Option String) (s : Settings), d.load (.ofEnvironment get) = .ok s ↔
      ∃ main secrets tables,
        d.Reads mainFile (Settings.ofValue? .toml) main ∧ d.ReadsCredentials secrets ∧ d.Declares tables ∧
          d.Apart tables ∧ Credentials.Merged get secrets main s ∧ d.IsUnion tables s.validators ∧
          s.validate = .ok ()) ∧
      ∀ (d d' : SettingsFolder) (get : String → Option String) (tables tables' : String → NameMap ValidatorEntry),
        d.SameMain d' → d.Declares tables → d'.Declares tables' → (d.entries tables).Perm (d'.entries tables') →
          (d.load (.ofEnvironment get)).map Settings.withoutFiles =
              (d'.load (.ofEnvironment get)).map Settings.withoutFiles ∨
            ¬ d.Apart tables ∧ ¬ d'.Apart tables' ∧ ∃ name name',
              d.load (.ofEnvironment get) = .error (.duplicateValidator name) ∧
                d'.load (.ofEnvironment get) = .error (.duplicateValidator name') :=
  ⟨fun _ _ _ => load_eq_ok_iff, fun _ _ get _ _ hsame hd hd' h => load_moved hsame hd hd' h (.ofEnvironment get)⟩

/-- Two keys of the expected form. -/
def northKey : String := "02aaaaaaaaaaaaaaaaaaaaaaaaaaaaaaaaaaaaaaaaaaaaaaaaaaaaaaaaaaaaaaaa"

def southKey : String := "03bbbbbbbbbbbbbbbbbbbbbbbbbbbbbbbbbbbbbbbbbbbbbbbbbbbbbbbbbbbbbbbb"

/-- Two validators, each in a record of its own. -/
def northText : String := "[validators.north]\nhost = \"n\"\nvalidator_secp = \"" ++ northKey ++ "\"\n"

def southText : String := "[validators.south]\nhost = \"s\"\nvalidator_secp = \"" ++ southKey ++ "\"\n"

def northEntry : String × ValidatorEntry := ("north", { host := "n", publicKey := northKey })

def southEntry : String × ValidatorEntry := ("south", { host := "s", publicKey := southKey })

/-- Main settings with two credentials. -/
def mainText : String := "[telegram]\ntoken = \"main\"\n\n[pushover]\nuser_key = \"main\"\n"

/-- Credentials of which one is blank. -/
def secretsText : String :=
  "[telegram]\ntoken = \"secret\"\nchat_id = \" secret \"\n\n[pushover]\nuser_key = \" \"\n"

/-- An environment that has a token and a blank chat. -/
def environment (name : String) : Option String :=
  if name = "TELEGRAM_TOKEN" then some " environment "
  else if name = "TELEGRAM_CHAT_ID" then some " "
  else none

/-- Both validators in one file. -/
def together : SettingsFolder :=
  ⟨"config", .ofList [("all.toml", .file (northText ++ southText)), ("main.toml", .file mainText),
    ("secrets.toml", .file secretsText)]⟩

/-- The same validators in two files. -/
def moved : SettingsFolder :=
  ⟨"config", .ofList [("main.toml", .file mainText), ("north.toml", .file northText),
    ("secrets.toml", .file secretsText), ("south.toml", .file southText)]⟩

/-- The credentials of settings that loaded, and the files of their validators. -/
def origins (s : Settings) : List String × List (String × String) :=
  ([s.telegram.token, s.telegram.chatId, s.pushover.userKey], s.validators.entries.map fun e => (e.1, e.2.file))

theorem read_congr {files files' : Folder} {name : String} (h : files.get? name = files'.get? name) :
    files.read name = files'.read name := by
  rw [Folder.read, Folder.read, h]

theorem read_eq_ok {files : Folder} {name text : String} (hname : name.utf8ByteSize ≤ Folder.nameLimit)
    (h : files.get? name = some (.file text)) : files.read name = .ok text := by
  rw [Folder.read, if_neg (Nat.not_lt.2 hname), h]

theorem reads_of_entries {name text : String} {table : NameMap ValidatorEntry} (htext : d.files.read name = .ok text)
    (h : ((Toml.parse? text).bind (Settings.readValidators? .toml)).map (·.entries) = some table.entries) :
    d.Reads name (Settings.readValidators? .toml) table := by
  obtain ⟨read, hread, hentries⟩ := Option.map_eq_some_iff.1 h
  obtain ⟨v, hv, hparse⟩ := Option.bind_eq_some_iff.1 hread
  obtain rfl : read = table := by
    cases read
    cases table
    cases hentries
    rfl
  exact ⟨text, v, htext, hv, hparse⟩

/-- Both load, with a credential of each layer, and differ in the files of the
validators only. -/
theorem moved_loads_like_together :
    let tables := fun _ : String => NameMap.ofList [northEntry, southEntry]
    let tables' := fun file : String => NameMap.ofList [if file = "north.toml" then northEntry else southEntry]
    together.SameMain moved ∧ together.Declares tables ∧ moved.Declares tables' ∧
      (together.entries tables).Perm (moved.entries tables') ∧
      ∃ s s', together.load (.ofEnvironment environment) = .ok s ∧ moved.load (.ofEnvironment environment) = .ok s' ∧
        origins s = (["environment", "secret", "main"], [("north", "all.toml"), ("south", "all.toml")]) ∧
        origins s' = (["environment", "secret", "main"], [("north", "north.toml"), ("south", "south.toml")]) ∧
        s.withoutFiles = s'.withoutFiles ∧
        ∃ main secrets, together.Reads mainFile (Settings.ofValue? .toml) main ∧ together.ReadsCredentials secrets ∧
          Credentials.Merged environment secrets main s := by
  intro tables tables'
  have hfiles : together.validatorFiles = ["all.toml"] := by decide +kernel
  have hfiles' : moved.validatorFiles = ["north.toml", "south.toml"] := by decide +kernel
  have hsame : together.SameMain moved :=
    ⟨rfl, read_congr (by decide +kernel), read_congr (by decide +kernel)⟩
  have hdeclares : together.Declares tables := by
    rw [Declares, hfiles, List.forall_mem_singleton]
    have hall : together.files.read "all.toml" = .ok (northText ++ southText) :=
      read_eq_ok (by decide +kernel) (by decide +kernel)
    exact reads_of_entries hall (by decide +kernel)
  have hdeclares' : moved.Declares tables' := by
    rw [Declares, hfiles', List.forall_mem_cons, List.forall_mem_singleton]
    have hnorth : moved.files.read "north.toml" = .ok northText := read_eq_ok (by decide +kernel) (by decide +kernel)
    have hsouth : moved.files.read "south.toml" = .ok southText := read_eq_ok (by decide +kernel) (by decide +kernel)
    exact ⟨reads_of_entries hnorth (by decide +kernel), reads_of_entries hsouth (by decide +kernel)⟩
  have hperm : (together.entries tables).Perm (moved.entries tables') := by
    rw [entries, entries, hfiles, hfiles']
    decide +kernel
  have hloads {d : SettingsFolder} {o : List String × List (String × String)}
      (h : (d.load (.ofEnvironment environment)).toOption.map origins = some o) :
      ∃ s, d.load (.ofEnvironment environment) = .ok s ∧ origins s = o := by
    cases hload : d.load (.ofEnvironment environment) with
    | error e =>
      rw [hload] at h
      cases h
    | ok s =>
      rw [hload] at h
      exact ⟨s, rfl, Option.some.inj h⟩
  obtain ⟨s, hs, horigins⟩ := hloads (d := together)
    (o := (["environment", "secret", "main"], [("north", "all.toml"), ("south", "all.toml")])) (by decide +kernel)
  obtain ⟨s', hs', horigins'⟩ := hloads (d := moved)
    (o := (["environment", "secret", "main"], [("north", "north.toml"), ("south", "south.toml")])) (by decide +kernel)
  obtain ⟨hlayers, hmoved⟩ := settings_loaded_in_layers
  obtain ⟨main, secrets, -, hmain, hsecrets, -, -, hmerged, -, -⟩ := (hlayers together environment s).1 hs
  refine ⟨hsame, hdeclares, hdeclares', hperm, s, s', hs, hs', horigins, horigins', ?_,
    main, secrets, hmain, hsecrets, hmerged⟩
  rcases hmoved together moved environment tables tables' hsame hdeclares hdeclares' hperm with
    heq | ⟨-, -, _, _, hfails, -⟩
  · rw [hs, hs'] at heq
    exact Except.ok.inj heq
  · rw [hs] at hfails
    cases hfails

end SettingsFolder

end ValidatorWatch
