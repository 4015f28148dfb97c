import ValidatorWatch.Proofs.Source.Cached
/-!
# Asking gmonads

gmonads is asked for lists, one request for each. Both answers that come of
them are kept, so both lookups are instances of `cached`, and neither touches
what is kept of huginn.

`Tells` connects the validator sets that are kept with the exchanges that a
lookup has: what is kept afterwards is the last one that was told on the wire.
-/

namespace ValidatorWatch

open Document Http
open Time (Instant Span)

variable {wire : Wire} {v w : Visit SourceMemory}

/-! ## Pages and lists -/

namespace SourceLookup

variable {limit : Span} {source url : String}

/-- The page in an answer that means success. -/
def pageIn? : Exchange → Option String
  | .answered status (.text page) => if isSuccess status then some page else none
  | _ => none

theorem text_leaves : Lookup.Leaves id (text limit source url) :=
  (Lookup.Leaves.send _ _).bind fun reply => by
    cases reply with
    | timedOut => exact .pure _
    | refused reason => exact .pure _
    | answered status body =>
      dsimp only
      split
      · exact .pure _
      · split
        · exact .pure _
        · cases body <;> exact .pure _

/-- A page is asked for with one request, and comes at once if it is there. -/
theorem text_spec (limit : Span) (source url : String) (wire : Wire) (v : Visit SourceMemory) : ∃ answer left,
    text limit source url wire v = (answer, { v with sent := v.sent ++ [.get url], left := left }) ∧
      ∀ page, answer = some (.ok page) ↔
        pageIn? (wire (Request.get url).endpoint (requestsTo (Request.get url).endpoint v.sent)) = some page := by
  obtain ⟨reply, left, hsend, hreply⟩ := Lookup.send_spec limit (.get url) wire v
  rw [text, Lookup.bind_apply, hsend]
  revert hreply
  cases wire (Request.get url).endpoint (requestsTo (Request.get url).endpoint v.sent) with
  | silent =>
    rintro (rfl | rfl)
    · exact ⟨none, left, rfl, fun page => ⟨nofun, nofun⟩⟩
    · exact ⟨_, left, rfl, fun page => ⟨nofun, nofun⟩⟩
  | refused reason =>
    rintro rfl
    exact ⟨_, left, rfl, fun page => ⟨nofun, nofun⟩⟩
  | answered status body =>
    rintro rfl
    simp only [Lookup.Reply.ofExchange]
    by_cases hmany : status = tooManyRequests
    · subst hmany
      refine ⟨_, left, rfl, fun page => ⟨nofun, ?_⟩⟩
      cases body <;> exact nofun
    · rw [if_neg hmany]
      by_cases hsuccess : isSuccess status = true
      · rw [hsuccess]
        cases body with
        | broken reason => exact ⟨_, left, rfl, fun page => ⟨nofun, nofun⟩⟩
        | text s =>
          refine ⟨_, left, rfl, fun page => ?_⟩
          rw [pageIn?, if_pos hsuccess, Option.some.injEq, Option.some.injEq]
          exact Except.ok.injEq s page ▸ Iff.rfl
      · rw [Bool.eq_false_iff.2 hsuccess]
        refine ⟨_, left, rfl, fun page => ⟨nofun, ?_⟩⟩
        cases body with
        | broken reason => exact nofun
        | text s => rw [pageIn?, if_neg hsuccess]; exact nofun

end SourceLookup

namespace Gmonads

variable {α : Type} {g : GmonadsSettings} {now : Instant} {n : Network} {read : Value → Option α} {path : String}

/-- The address of a list. -/
def listUrl (g : GmonadsSettings) (path : String) (n : Network) : String :=
  let base := Text.dropEnd '/' g.baseUrl
  s!"{base}{path}?network={n.name}"

/-- The list in an answer. -/
def listIn? (read : Value → Option α) (x : Exchange) : Option (List α) :=
  (SourceLookup.pageIn? x).bind (readList? read)

theorem fetchList_leaves : Lookup.Leaves id (fetchList g read path n) :=
  SourceLookup.text_leaves.bind fun answer => by
    cases answer with
    | error e => exact .pure _
    | ok body =>
      dsimp only
      cases readList? read body <;> exact .pure _

/-- A list is asked for with one request, and comes at once if it is there. -/
theorem fetchList_spec (g : GmonadsSettings) (read : Value → Option α) (path : String) (n : Network) (wire : Wire)
    (v : Visit SourceMemory) : ∃ answer left, fetchList g read path n wire v =
    (answer, { v with sent := v.sent ++ [.get (listUrl g path n)], left := left }) ∧
      ∀ list, answer = some (.ok list) ↔
        listIn? read (wire (Request.get (listUrl g path n)).endpoint
          (requestsTo (Request.get (listUrl g path n)).endpoint v.sent)) = some list := by
  obtain ⟨answer, left, htext, hpage⟩ := SourceLookup.text_spec g.requestLimit source (listUrl g path n) wire v
  unfold listUrl at htext
  rw [fetchList, Lookup.bind_apply, htext]
  rcases answer with _ | e | page
  · refine ⟨none, left, rfl, fun list => ⟨nofun, fun h => ?_⟩⟩
    obtain ⟨page, hp, -⟩ := Option.bind_eq_some_iff.1 h
    cases (hpage page).2 hp
  · refine ⟨_, left, rfl, fun list => ⟨nofun, fun h => ?_⟩⟩
    obtain ⟨page, hp, -⟩ := Option.bind_eq_some_iff.1 h
    cases (hpage page).2 hp
  · rw [listIn?, (hpage page).1 rfl, Option.bind_some]
    cases hlist : readList? read page with
    | none =>
      refine ⟨_, left, by simp only [hlist]; rfl, fun list => ?_⟩
      exact ⟨nofun, nofun⟩
    | some list =>
      refine ⟨_, left, by simp only [hlist]; rfl, fun other => ?_⟩
      rw [Option.some.injEq, Option.some.injEq]
      exact Except.ok.injEq list other ▸ Iff.rfl

/-! ## Kept answers -/

/-- The address of the validator set. -/
def epochUrl (g : GmonadsSettings) (n : Network) : String :=
  listUrl g "/validators/epoch" n

/-- Asks for the validator set, whatever is kept. -/
def fetchEpoch (g : GmonadsSettings) (now : Instant) (n : Network) : SourceLookup (Answer Epoch) := do
  match ← fetchList g EpochValidator.ofValue? "/validators/epoch" n with
  | .ok validators => return .ok ⟨validators, now⟩
  | .error e => return .error e

/-- Asks for the figures of a network, whatever is kept of them. -/
def fetchHealth (g : GmonadsSettings) (now : Instant) (n : Network) : SourceLookup (Answer NetworkHealth) := do
  match ← fetchList g BlockBucket.ofValue? "/blocks/1m" n with
  | .error error => return .error error
  | .ok [] => return .error (.malformed source "no block buckets")
  | .ok buckets =>
    match ← epoch g now n with
    | .ok e => return .ok (aggregate n buckets (e.validators.countP EpochValidator.isActive) now)
    | .error _ => return .ok (aggregate n buckets 0 now)

theorem epoch_eq_cached : epoch g now n = cached (fun m => m.gmonads.epochs.get n)
    (fun e => now - e.fetchedAt < g.lifetime) (SourceMemory.keepEpoch n) (fetchEpoch g now n) := by
  funext wire v
  rw [epoch, cached, Lookup.kept_bind, Lookup.kept_bind]
  cases (v.kept.gmonads.epochs.get n).filter fun e => now - e.fetchedAt < g.lifetime with
  | some e => rfl
  | none =>
    simp only [fetchEpoch, Lookup.bind_apply]
    rcases fetchList g EpochValidator.ofValue? "/validators/epoch" n wire v with ⟨_ | e | validators, w⟩
    · rfl
    · cases v.kept.gmonads.epochs.get n <;> rfl
    · rfl

theorem networkHealth_eq_cached : networkHealth g now n = cached (fun m => m.gmonads.health.get n)
    (fun h => now - h.fetchedAt < g.lifetime) (SourceMemory.keepHealth n) (fetchHealth g now n) := by
  funext wire v
  rw [networkHealth, cached, Lookup.kept_bind, Lookup.kept_bind]
  cases (v.kept.gmonads.health.get n).filter fun h => now - h.fetchedAt < g.lifetime with
  | some h => rfl
  | none =>
    simp only [fetchHealth, Lookup.bind_apply]
    rcases fetchList g BlockBucket.ofValue? "/blocks/1m" n wire v with ⟨_ | e | _ | ⟨bucket, buckets⟩, w⟩
    · rfl
    · rfl
    · rfl
    · simp only [Lookup.bind_apply]
      rcases epoch g now n wire w with ⟨_ | e | e, w'⟩ <;> rfl

theorem fetchEpoch_leaves : Lookup.Leaves id (fetchEpoch g now n) :=
  fetchList_leaves.bind fun answer => by cases answer <;> exact .pure _

/-- Only the validator set is kept of asking for it. -/
theorem epoch_leaves : Lookup.Leaves (fun m => (m.huginn, m.gmonads.health)) (epoch g now n) :=
  epoch_eq_cached ▸ cached_leaves (fetchEpoch_leaves.of_part fun m => (m.huginn, m.gmonads.health)) fun _ _ => rfl

theorem fetchHealth_leaves : Lookup.Leaves (fun m => (m.huginn, m.gmonads.health)) (fetchHealth g now n) :=
  (fetchList_leaves.of_part fun m => (m.huginn, m.gmonads.health)).bind fun answer => by
    rcases answer with e | _ | ⟨bucket, buckets⟩
    · exact .pure _
    · exact .pure _
    · exact epoch_leaves.bind fun answer => by cases answer <;> exact .pure _

/-- gmonads is asked without a look at what is kept of huginn. -/
theorem networkHealth_leaves : Lookup.Leaves SourceMemory.huginn (networkHealth g now n) :=
  networkHealth_eq_cached ▸ cached_leaves (fetchHealth_leaves.of_part Prod.fst) fun _ _ => rfl

theorem membership_leaves {key : String} :
    Lookup.Leaves (fun m => (m.huginn, m.gmonads.health)) (membership g now n key) :=
  epoch_leaves.bind fun answer => by cases answer <;> exact .pure _

theorem referenceIndex?_leaves : Lookup.Leaves (fun m => (m.huginn, m.gmonads.health)) (referenceIndex? g now n) :=
  epoch_leaves.bind fun answer => by cases answer <;> exact .pure _

/-! ## Validator sets on the wire -/

/-- The validator set in an answer. -/
def epochIn? (now : Instant) (x : Exchange) : Option Epoch :=
  (listIn? EpochValidator.ofValue? x).map (⟨·, now⟩)

/-- The validator sets of a network that exchanges tell, in order. -/
def epochsIn (g : GmonadsSettings) (now : Instant) (n : Network) (xs : List (Request × Exchange)) : List Epoch :=
  xs.filterMap fun x => if x.1.endpoint = (Request.get (epochUrl g n)).endpoint then epochIn? now x.2 else none

/-- A lookup after which the last validator set that it was told is kept, and
else the one that was kept before. -/
structure Tells {α : Type} (g : GmonadsSettings) (now : Instant) (x : SourceLookup α) : Prop where
  sent : ∀ wire v, v.sent <+: (x wire v).2.sent
  epochs : ∀ wire v n, (x wire v).2.kept.gmonads.epochs.get n =
    (epochsIn g now n (x.exchanges wire v)).getLast?.or (v.kept.gmonads.epochs.get n)

namespace Tells

variable {β : Type} {x : SourceLookup α}

/-- Nothing is told without a request for a validator set. -/
theorem of_leaves (hx : Lookup.Leaves (fun m => m.gmonads.epochs) x)
    (hsent : ∀ wire v, (x wire v).2.sent = v.sent) : Tells g now x where
  sent := hx.sent
  epochs wire v n := by
    rw [Lookup.exchanges_eq [] (by rw [hsent, List.append_nil]), hx.kept]
    rfl

theorem pure (a : α) : Tells g now (Pure.pure a : SourceLookup α) := of_leaves (.pure a) fun _ _ => rfl

theorem memory : Tells g now (Lookup.kept : SourceLookup SourceMemory) := of_leaves .memory fun _ _ => rfl

theorem keep {f : SourceMemory → SourceMemory} (hf : ∀ m, (f m).gmonads.epochs = m.gmonads.epochs) :
    Tells g now (Lookup.keep f : SourceLookup Unit) := of_leaves (.keep hf) fun _ _ => rfl

theorem bind {f : α → SourceLookup β} (hx : Tells g now x) (hf : ∀ a, Tells g now (f a)) : Tells g now (x >>= f) where
  sent wire v := by
    have h := hx.sent wire v
    rw [Lookup.bind_apply]
    revert h
    rcases x wire v with ⟨_ | a, w⟩
    · exact id
    · exact fun h => h.trans ((hf a).sent wire w)
  epochs wire v n := by
    have hsent := hx.sent wire v
    have hepochs := hx.epochs wire v n
    rcases hrun : x wire v with ⟨_ | a, w⟩
    · rw [Lookup.exchanges_bind_of_none hrun, Lookup.bind_of_none hrun]
      rwa [hrun] at hepochs
    · rw [hrun] at hsent hepochs
      rw [Lookup.exchanges_bind_of_some hrun hsent ((hf a).sent wire w), Lookup.bind_of_some hrun,
        (hf a).epochs wire w n, hepochs, ← Option.or_assoc, ← List.getLast?_append, epochsIn, epochsIn, epochsIn,
        List.filterMap_append]

theorem within (deadline : Span) (hx : Tells g now x) : Tells g now (Lookup.within deadline x) where
  sent wire v := hx.sent wire { v with left := some deadline }
  epochs wire v := hx.epochs wire { v with left := some deadline }

end Tells

theorem epochUrl_inj {n o : Network} (h : epochUrl g n = epochUrl g o) : n = o := by
  have hchars := congrArg String.toList h
  simp only [epochUrl, listUrl, toString, String.toList_append, List.append_assoc, List.append_cancel_left_eq] at hchars
  revert hchars
  cases n <;> cases o <;> decide

theorem blocksUrl_ne_epochUrl (n o : Network) : listUrl g "/blocks/1m" n ≠ epochUrl g o := by
  intro h
  have hchars := congrArg String.toList h
  simp only [epochUrl, listUrl, toString, String.toList_append, List.append_assoc, List.append_cancel_left_eq] at hchars
  revert hchars
  cases n <;> cases o <;> decide

theorem epochsIn_one {url : String} (x : Exchange) :
    epochsIn g now n [(.get url, x)] = if url = epochUrl g n then (epochIn? now x).toList else [] := by
  by_cases h : url = epochUrl g n
  · rw [epochsIn, List.filterMap_cons, if_pos (congrArg (fun u => (Request.get u).endpoint) h), if_pos h]
    cases epochIn? now x <;> rfl
  · have hne : (Request.get url).endpoint ≠ (Request.get (epochUrl g n)).endpoint := fun he =>
      h (congrArg Endpoint.url he)
    rw [epochsIn, List.filterMap_cons, if_neg hne, if_neg h]
    rfl

/-- The figures are no validator set. -/
theorem fetchBlocks_tells {read : Value → Option α} : Tells g now (fetchList g read "/blocks/1m" n) where
  sent := fetchList_leaves.sent
  epochs wire v o := by
    obtain ⟨answer, left, hlist, -⟩ := fetchList_spec g read "/blocks/1m" n wire v
    rw [Lookup.exchanges_eq _ (congrArg (fun r => r.2.sent) hlist), hlist]
    show _ = (epochsIn g now o [(.get (listUrl g "/blocks/1m" n), _)]).getLast?.or _
    rw [epochsIn_one, if_neg (blocksUrl_ne_epochUrl n o)]
    rfl

/-- The validator set is asked for with one request, and comes at once if it is
there. -/
theorem fetchEpoch_spec (g : GmonadsSettings) (now : Instant) (n : Network) (wire : Wire) (v : Visit SourceMemory) :
    ∃ answer left, fetchEpoch g now n wire v =
    (answer, { v with sent := v.sent ++ [.get (epochUrl g n)], left := left }) ∧
      ∀ e, answer = some (.ok e) ↔ epochIn? now (wire (Request.get (epochUrl g n)).endpoint
        (requestsTo (Request.get (epochUrl g n)).endpoint v.sent)) = some e := by
  obtain ⟨answer, left, hfetch, hlist⟩ := fetchList_spec g EpochValidator.ofValue? "/validators/epoch" n
    wire v
  rw [fetchEpoch, Lookup.bind_apply, hfetch]
  have hnone (h : ∀ list, answer ≠ some (.ok list)) (e : Epoch) : epochIn? now
      (wire (Request.get (epochUrl g n)).endpoint (requestsTo (Request.get (epochUrl g n)).endpoint v.sent)) ≠ some e := by
    intro he
    obtain ⟨list, hl, -⟩ := Option.map_eq_some_iff.1 he
    exact h list ((hlist list).2 hl)
  rcases answer with _ | e | validators
  · exact ⟨none, left, rfl, fun e => ⟨nofun, fun h => absurd h (hnone nofun e)⟩⟩
  · exact ⟨_, left, rfl, fun e => ⟨nofun, fun h => absurd h (hnone nofun e)⟩⟩
  · refine ⟨_, left, rfl, fun e => ?_⟩
    have hl : listIn? EpochValidator.ofValue? (wire (Request.get (epochUrl g n)).endpoint
      (requestsTo (Request.get (epochUrl g n)).endpoint v.sent)) = some validators := (hlist validators).1 rfl
    rw [epochIn?, hl, Option.map_some, Option.some.injEq, Option.some.injEq]
    exact Except.ok.injEq _ e ▸ Iff.rfl

/-- What is kept of the validator set of a network is the last one told. -/
theorem epoch_tells : Tells g now (epoch g now n) where
  sent := epoch_leaves.sent
  epochs wire v o := by
    rw [epoch_eq_cached]
    cases hyoung : (v.kept.gmonads.epochs.get n).filter fun e => now - e.fetchedAt < g.lifetime with
    | some e =>
      rw [Lookup.exchanges_eq [] (by rw [cached_of_young hyoung, List.append_nil]), cached_of_young hyoung]
      rfl
    | none =>
      obtain ⟨answer, left, hfetch, htold⟩ := fetchEpoch_spec g now n wire v
      have hrun : cached (fun m => m.gmonads.epochs.get n) (fun e => now - e.fetchedAt < g.lifetime)
          (SourceMemory.keepEpoch n) (fetchEpoch g now n) wire v = _ := cached_of_stale hyoung
      have hsent : (cached (fun m => m.gmonads.epochs.get n) (fun e => now - e.fetchedAt < g.lifetime)
          (SourceMemory.keepEpoch n) (fetchEpoch g now n) wire v).2.sent = v.sent ++ [.get (epochUrl g n)] := by
        rw [sent_cached_of_stale _ hyoung, hfetch]
      have hnone (h : ∀ e, answer ≠ some (.ok e)) : epochIn? now (wire (Request.get (epochUrl g n)).endpoint
          (requestsTo (Request.get (epochUrl g n)).endpoint v.sent)) = none :=
        Option.eq_none_iff_forall_ne_some.2 fun e he => h e ((htold e).2 he)
      rw [Lookup.exchanges_eq _ hsent, hrun, hfetch]
      show _ = (epochsIn g now o [(.get (epochUrl g n), _)]).getLast?.or _
      rw [epochsIn_one]
      rcases answer with _ | e | told
      · rw [hnone nofun, Option.toList_none, ite_self]
        rfl
      · rw [hnone nofun, Option.toList_none, ite_self]
        rfl
      · show (v.kept.gmonads.epochs.set n (some told)).get o = _
        rw [(htold told).1 rfl, ByNetwork.get_set]
        by_cases hno : n = o
        · subst hno
          rw [if_pos rfl, if_pos rfl]
          rfl
        · rw [if_neg hno, if_neg fun h => hno (epochUrl_inj h)]
          rfl

theorem networkHealth_tells : Tells g now (networkHealth g now n) :=
  Tells.memory.bind fun m => by
    dsimp only
    cases (m.gmonads.health.get n).filter fun h => now - h.fetchedAt < g.lifetime with
    | some h => exact .pure _
    | none =>
      refine fetchBlocks_tells.bind fun answer => ?_
      rcases answer with e | _ | ⟨bucket, buckets⟩
      · exact .pure _
      · exact .pure _
      · refine epoch_tells.bind fun answer => ?_
        exact Tells.bind (.keep fun _ => rfl) fun _ => .pure _

theorem membership_tells {key : String} : Tells g now (membership g now n key) :=
  epoch_tells.bind fun answer => by cases answer <;> exact .pure _

theorem referenceIndex?_tells : Tells g now (referenceIndex? g now n) :=
  epoch_tells.bind fun answer => by cases answer <;> exact .pure _

end Gmonads

end ValidatorWatch
