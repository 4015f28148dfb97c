import ValidatorWatch.Proofs.Source.Uptime
/-!
# What is kept over many calls

The two services are asked again and again, at any times and with any luck.
What a call fetches is told from the wire and from the call alone: the report
that it builds when the call asks for one, and the validator sets in the
exchanges with gmonads. What is kept is the last of what was fetched
(`Services.reports_after`, `Services.epochs_after`), and every answer is given
from it.
-/

namespace ValidatorWatch

open Http
open Time (Instant Span)

variable {wire : Wire} {v w : Visit SourceMemory} {now : Instant} {n : Network} {key : String}
  {deadline : Option Span}

/-! ## Uptimes, with or without a deadline -/

namespace Huginn

variable {s : HuginnSettings}

/-- The uptime of a key, before a deadline if there is one. -/
def uptimeBy (s : HuginnSettings) (now : Instant) (n : Network) (key : String) :
    Option Span → SourceLookup (Answer UptimeReport)
  | none => uptime s now n key
  | some deadline => uptimeWithin s now n key deadline

theorem uptime_leaves : Lookup.Leaves (fun _ => ()) (uptime s now n key) :=
  uptime_eq_cached ▸ cached_leaves (fetchReport_leaves.of_part fun _ => ()) fun _ _ => rfl

theorem uptime_answers {answer : Answer UptimeReport} (h : uptime s now n key wire v = (some answer, w))
    (r : UptimeReport) : answer = .ok r ↔ w.kept.huginn.reports.get? (reportKey n key) = some r := by
  rw [uptime_eq_cached] at h
  exact cached_answers (fetchReport_leaves.of_part fun reports => reports.get? (reportKey n key))
    (fun a m => NameMap.get?_insert_self _ _ _) h r

/-- What follows a deadline that passed. -/
theorem expired_leaves (now : Instant) (n : Network) (key : String) (answer : Option (Answer UptimeReport)) (d : Span) :
    Lookup.Leaves (fun m => (m.gmonads, m.huginn.reports)) (match answer with
      | some answer => return answer
      | none => do
        noteFailure now n
        let kept := (← Lookup.kept).huginn.reports.get? (reportKey n key)
        return Gmonads.keptOr kept (.timeout source d.seconds.toNat)) := by
  cases answer with
  | some answer => exact .pure _
  | none => exact noteFailure_leaves.bind fun _ => .bind .memory fun _ => .pure _

/-- A deadline changes how far an uptime comes, and nothing of gmonads or of the
reports after that. -/
theorem kept_uptimeBy (h : v.left = none) :
    (uptimeBy s now n key deadline wire v).2.kept.gmonads =
        (uptime s now n key wire { v with left := deadline }).2.kept.gmonads ∧
      (uptimeBy s now n key deadline wire v).2.kept.huginn.reports =
        (uptime s now n key wire { v with left := deadline }).2.kept.huginn.reports := by
  cases deadline with
  | none =>
    obtain ⟨m, sent, left⟩ := v
    cases h
    exact ⟨rfl, rfl⟩
  | some d =>
    have heq := Lookup.Leaves.kept_bind_eq (x := Lookup.within d (uptime s now n key))
      (fun answer => expired_leaves now n key answer d) wire v
    exact ⟨congrArg Prod.fst heq, congrArg Prod.snd heq⟩

theorem sent_uptimeBy (h : v.left = none) : (uptimeBy s now n key deadline wire v).2.sent =
    (uptime s now n key wire { v with left := deadline }).2.sent := by
  cases deadline with
  | none =>
    obtain ⟨m, sent, left⟩ := v
    cases h
    rfl
  | some d =>
    rw [uptimeBy, uptimeWithin, Lookup.bind_apply]
    rw [Lookup.within_apply]
    rcases uptime s now n key wire { v with left := some d } with ⟨_ | a, w⟩ <;> rfl

theorem uptimeBy_leaves : Lookup.Leaves (fun _ => ()) (uptimeBy s now n key deadline) := by
  cases deadline with
  | none => exact uptime_leaves
  | some d => exact (uptime_leaves.within d).bind fun answer => (expired_leaves now n key answer d).of_part fun _ => ()

/-- A young report answers without a request. -/
theorem uptimeBy_of_young (h : v.left = none) {r : UptimeReport}
    (hr : v.kept.huginn.reports.get? (reportKey n key) = some r) (hyoung : now - r.fetchedAt < s.lifetime) :
    (uptimeBy s now n key deadline wire v).2.sent = v.sent := by
  rw [sent_uptimeBy h, uptime_eq_cached]
  rw [cached_of_young (v := { v with left := deadline })
    (by rw [hr, Option.filter_some, if_pos (decide_eq_true hyoung)])]

/-- An uptime is always answered, and with the report that is kept then. -/
theorem uptimeBy_answers (s : HuginnSettings) (now : Instant) (n : Network) (key : String) (deadline : Option Span)
    (wire : Wire) (h : v.left = none) : ∃ answer, (uptimeBy s now n key deadline wire v).1 = some answer ∧
    ∀ r, answer = .ok r ↔
      (uptimeBy s now n key deadline wire v).2.kept.huginn.reports.get? (reportKey n key) = some r := by
  cases deadline with
  | none =>
    obtain ⟨answer, ha⟩ := uptime_leaves.ends wire v h
    exact ⟨answer, ha, uptime_answers (Prod.ext ha rfl)⟩
  | some d =>
    rw [uptimeBy, uptimeWithin, Lookup.bind_apply]
    rcases hrun : uptime s now n key wire { v with left := some d } with ⟨_ | answer, w⟩
    · rw [Lookup.within_apply, hrun]
      exact ⟨_, rfl, fun r => keptOr_eq_ok_iff.trans Iff.rfl⟩
    · rw [Lookup.within_apply, hrun]
      exact ⟨answer, rfl, fun r => (uptime_answers hrun r).trans Iff.rfl⟩

end Huginn

namespace Gmonads

variable {g : GmonadsSettings}

/-- Membership of a key, before a deadline if there is one. -/
def membershipBy (g : GmonadsSettings) (now : Instant) (n : Network) (key : String) :
    Option Span → SourceLookup (Answer UptimeReport)
  | none => membership g now n key
  | some deadline => membershipWithin g now n key deadline

theorem membershipBy_leaves :
    Lookup.Leaves (fun m => (m.huginn, m.gmonads.health)) (membershipBy g now n key deadline) := by
  cases deadline with
  | none => exact membership_leaves
  | some d =>
    refine (membership_leaves.within d).bind fun answer => ?_
    cases answer with
    | some answer => exact .pure _
    | none =>
      refine Lookup.Leaves.memory.bind fun m => ?_
      cases m.gmonads.epochs.get n <;> exact .pure _

theorem membershipBy_tells : Tells g now (membershipBy g now n key deadline) := by
  cases deadline with
  | none => exact membership_tells
  | some d =>
    refine (membership_tells.within d).bind fun answer => ?_
    cases answer with
    | some answer => exact .pure _
    | none =>
      refine Tells.memory.bind fun m => ?_
      cases m.gmonads.epochs.get n <;> exact .pure _

theorem epoch_answers {answer : Answer Epoch} (h : epoch g now n wire v = (some answer, w)) (e : Epoch) :
    answer = .ok e ↔ w.kept.gmonads.epochs.get n = some e := by
  rw [epoch_eq_cached] at h
  exact cached_answers (fetchEpoch_leaves.of_part fun m => m.gmonads.epochs.get n)
    (fun a m => by cases n <;> rfl) h e

theorem membership_of_kept {answer : Answer UptimeReport} (h : membership g now n key wire v = (some answer, w))
    {e : Epoch} (he : w.kept.gmonads.epochs.get n = some e) : answer = membershipIn e key := by
  rw [membership, Lookup.bind_apply] at h
  rcases hepoch : epoch g now n wire v with ⟨_ | told, u⟩
  · rw [hepoch] at h
    cases h
  · have htold := epoch_answers hepoch e
    rw [hepoch] at h
    cases told with
    | ok e' =>
      cases h
      obtain rfl : e' = e := Except.ok.inj (htold.2 he)
      rfl
    | error error =>
      cases h
      cases htold.2 he

/-- Membership is always answered, and by the validator set that is kept then. -/
theorem membershipBy_of_kept (h : v.left = none) {e : Epoch}
    (he : (membershipBy g now n key deadline wire v).2.kept.gmonads.epochs.get n = some e) :
    (membershipBy g now n key deadline wire v).1 = some (membershipIn e key) := by
  cases deadline with
  | none =>
    have hleaves : Lookup.Leaves _ (membership g now n key) := membership_leaves
    obtain ⟨answer, ha⟩ := hleaves.ends wire v h
    exact ha.trans (congrArg some (membership_of_kept (Prod.ext ha rfl) he))
  | some d =>
    rw [membershipBy, membershipWithin, Lookup.bind_apply, Lookup.within_apply] at he ⊢
    rcases hrun : membership g now n key wire { v with left := some d } with ⟨_ | answer, w⟩
    · rw [hrun] at he
      dsimp only [Lookup.kept_bind] at he ⊢
      cases hkept : w.kept.gmonads.epochs.get n with
      | none =>
        simp only [hkept] at he
        exact absurd (hkept.symm.trans he) nofun
      | some e' =>
        simp only [hkept] at he ⊢
        obtain rfl : e' = e := Option.some.inj (hkept.symm.trans he)
        rfl
    · rw [hrun] at he
      exact congrArg some (membership_of_kept hrun he)

/-- A young validator set answers without a request. -/
theorem sent_membershipBy_of_young {e : Epoch} (he : v.kept.gmonads.epochs.get n = some e)
    (hyoung : now - e.fetchedAt < g.lifetime) : (membershipBy g now n key deadline wire v).2.sent = v.sent := by
  have hmembership (u : Visit SourceMemory) (hu : u.kept = v.kept) :
      membership g now n key wire u = (some (membershipIn e key), u) := by
    have hepoch : epoch g now n wire u = (some (.ok e), u) := by
      rw [epoch_eq_cached]
      exact cached_of_young (by rw [hu, he, Option.filter_some, if_pos (decide_eq_true hyoung)])
    rw [membership, Lookup.bind_of_some hepoch]
    rfl
  cases deadline with
  | none => rw [membershipBy, hmembership v rfl]
  | some d =>
    rw [membershipBy, membershipWithin, Lookup.bind_apply, Lookup.within_apply,
      hmembership { v with left := some d } rfl]
    rfl

/-- The figures of a network are always answered, and with those that are kept
then. -/
theorem networkHealth_answers (g : GmonadsSettings) (now : Instant) (n : Network) (wire : Wire) (h : v.left = none) :
    ∃ answer, (networkHealth g now n wire v).1 = some answer ∧
      ∀ health, answer = .ok health ↔ (networkHealth g now n wire v).2.kept.gmonads.health.get n = some health := by
  have hleaves : Lookup.Leaves _ (networkHealth g now n) := networkHealth_leaves
  obtain ⟨answer, ha⟩ := hleaves.ends wire v h
  refine ⟨answer, ha, fun health => ?_⟩
  rw [networkHealth_eq_cached] at ha ⊢
  exact cached_answers (fetchHealth_leaves.of_part fun m => m.2.get n) (fun a m => by cases n <;> rfl)
    (Prod.ext ha rfl) health

/-- Figures once kept are not lost. -/
theorem isSome_networkHealth (g : GmonadsSettings) (now : Instant) (wire : Wire) (o : Network)
    (h : (v.kept.gmonads.health.get n).isSome = true) :
    ((networkHealth g now o wire v).2.kept.gmonads.health.get n).isSome = true := by
  rw [networkHealth_eq_cached]
  by_cases hno : o = n
  · subst hno
    cases hyoung : (v.kept.gmonads.health.get o).filter fun h => now - h.fetchedAt < g.lifetime with
    | some health => rwa [cached_of_young hyoung]
    | none =>
      rw [slot_cached_of_stale (fun m => m.gmonads.health.get o) (fetchHealth_leaves.of_part fun m => m.2.get o)
        (fun a m => by cases o <;> rfl) hyoung, Option.isSome_or, h, Bool.or_true]
  · have hleaves : Lookup.Leaves (fun m => m.gmonads.health.get n) (networkHealth g now o) := by
      rw [networkHealth_eq_cached]
      refine cached_leaves (fetchHealth_leaves.of_part fun m => m.2.get n) fun health m => ?_
      cases o <;> cases n <;> first | rfl | exact absurd rfl hno
    rw [← networkHealth_eq_cached, hleaves.kept]
    exact h

end Gmonads

/-! ## Calls -/

/-- The two services as they are asked. huginn asks the same gmonads, or none. -/
structure Services where
  huginn : HuginnSettings
  gmonads : GmonadsSettings
  shared : ∀ g, huginn.gmonads = some g → g = gmonads

namespace Services

/-- What the services are asked. -/
inductive Question where
  | uptime (n : Network) (key : String) (deadline : Option Span)
  | networkRound (n : Network)
  | membership (n : Network) (key : String) (deadline : Option Span)
  | referenceIndex (n : Network)
  | networkHealth (n : Network)

/-- A question at a time. -/
structure Call where
  now : Instant
  question : Question

/-- What is answered. -/
inductive Reply where
  | report (answer : Answer UptimeReport)
  | number (answer : Option Nat)
  | health (answer : Answer NetworkHealth)
  deriving DecidableEq

variable (p : Services)

/-- Asks a question. -/
def ask (c : Call) : SourceLookup Reply :=
  match c.question with
  | .uptime n key deadline => .report <$> Huginn.uptimeBy p.huginn c.now n key deadline
  | .networkRound n => .number <$> Huginn.networkRound? p.huginn c.now n
  | .membership n key deadline => .report <$> Gmonads.membershipBy p.gmonads c.now n key deadline
  | .referenceIndex n => .number <$> Gmonads.referenceIndex? p.gmonads c.now n
  | .networkHealth n => .health <$> Gmonads.networkHealth p.gmonads c.now n

theorem ask_uptime (now : Instant) (n : Network) (key : String) (deadline : Option Span) :
    p.ask ⟨now, .uptime n key deadline⟩ wire v =
      ((Huginn.uptimeBy p.huginn now n key deadline wire v).1.map .report,
        (Huginn.uptimeBy p.huginn now n key deadline wire v).2) :=
  Lookup.map_apply _ _

theorem ask_networkRound (now : Instant) (n : Network) : p.ask ⟨now, .networkRound n⟩ wire v =
    ((Huginn.networkRound? p.huginn now n wire v).1.map .number, (Huginn.networkRound? p.huginn now n wire v).2) :=
  Lookup.map_apply _ _

theorem ask_membership (now : Instant) (n : Network) (key : String) (deadline : Option Span) :
    p.ask ⟨now, .membership n key deadline⟩ wire v =
      ((Gmonads.membershipBy p.gmonads now n key deadline wire v).1.map .report,
        (Gmonads.membershipBy p.gmonads now n key deadline wire v).2) :=
  Lookup.map_apply _ _

theorem ask_referenceIndex (now : Instant) (n : Network) : p.ask ⟨now, .referenceIndex n⟩ wire v =
    ((Gmonads.referenceIndex? p.gmonads now n wire v).1.map .number,
      (Gmonads.referenceIndex? p.gmonads now n wire v).2) :=
  Lookup.map_apply _ _

theorem ask_networkHealth (now : Instant) (n : Network) : p.ask ⟨now, .networkHealth n⟩ wire v =
    ((Gmonads.networkHealth p.gmonads now n wire v).1.map .health,
      (Gmonads.networkHealth p.gmonads now n wire v).2) :=
  Lookup.map_apply _ _

/-- The exchanges of a call with gmonads. huginn comes to gmonads first, if at
all. -/
def gmonadsExchanges (wire : Wire) (v : Visit SourceMemory) (c : Call) : List (Request × Exchange) :=
  match c.question with
  | .uptime n key deadline => (Huginn.uptimeIndex? p.huginn c.now n key).exchanges wire { v with left := deadline }
  | .networkRound n => (Huginn.roundIndex? p.huginn c.now n).exchanges wire v
  | _ => (p.ask c).exchanges wire v

/-- The calls of a history, each with the visit that it starts from. -/
def starts (wire : Wire) (v : Visit SourceMemory) : List Call → List (Visit SourceMemory × Call)
  | [] => []
  | c :: calls => (v, c) :: starts wire (p.ask c wire v).2 calls

/-- What is left of a visit after a history. -/
def after (wire : Wire) (v : Visit SourceMemory) (calls : List Call) : Visit SourceMemory :=
  calls.foldl (fun v c => (p.ask c wire v).2) v

/-! ## What is fetched -/

/-- The report that a call builds for a network and a normalized key, if it asks
for one. -/
def reportFetched? (wire : Wire) (n : Network) (key : String) (v : Visit SourceMemory) (c : Call) :
    Option UptimeReport :=
  match c.question with
  | .uptime o k deadline =>
    if o = n ∧ PublicKey.normalize k = key ∧ v.sent.length < (p.ask c wire v).2.sent.length then
      fetched? (Huginn.fetchReport p.huginn c.now o k) wire { v with left := deadline }
    else none
  | _ => none

/-- The last report that a history fetched. -/
def lastReport? (wire : Wire) (v : Visit SourceMemory) (calls : List Call) (n : Network) (key : String) :
    Option UptimeReport :=
  ((p.starts wire v calls).filterMap fun x => p.reportFetched? wire n key x.1 x.2).getLast?

/-- The last validator set that a history fetched. -/
def lastEpoch? (wire : Wire) (v : Visit SourceMemory) (calls : List Call) (n : Network) : Option Epoch :=
  ((p.starts wire v calls).flatMap fun x =>
    Gmonads.epochsIn p.gmonads x.2.now n (p.gmonadsExchanges wire x.1 x.2)).getLast?

variable {p} {wire : Wire} {v w : Visit SourceMemory} {c : Call} {n : Network} {key : String}

/-! ## One call -/

theorem tells_map {α β : Type} {g : GmonadsSettings} {x : SourceLookup α} (hx : Gmonads.Tells g now x) (f : α → β) :
    Gmonads.Tells g now (f <$> x) :=
  hx.bind fun _ => .pure _

/-- What huginn asks of gmonads, it asks of the one that is shared. -/
theorem roundIndex?_tells : Gmonads.Tells p.gmonads now (Huginn.roundIndex? p.huginn now n) := by
  refine Gmonads.Tells.memory.bind fun m => ?_
  cases (m.huginn.rounds.get n).filter fun k => now - k.2 < Huginn.roundLifetime with
  | some k => exact .pure _
  | none =>
    show Gmonads.Tells p.gmonads now (Huginn.namedIndex? p.huginn now n)
    rw [Huginn.namedIndex?]
    cases hg : p.huginn.gmonads with
    | none => exact .pure _
    | some g => exact p.shared g hg ▸ Gmonads.referenceIndex?_tells

theorem uptimeIndex?_tells : Gmonads.Tells p.gmonads now (Huginn.uptimeIndex? p.huginn now n key) := by
  refine Gmonads.Tells.memory.bind fun m => ?_
  cases (m.huginn.reports.get? (Huginn.reportKey n key)).filter fun r => now - r.fetchedAt < p.huginn.lifetime with
  | some r => exact .pure _
  | none => exact roundIndex?_tells

/-- After a call the last validator set that it was told is kept, or else the
one from before. -/
theorem epochs_ask {c : Call} (h : v.left = none) : (p.ask c wire v).2.kept.gmonads.epochs.get n =
    (Gmonads.epochsIn p.gmonads c.now n (p.gmonadsExchanges wire v c)).getLast?.or
      (v.kept.gmonads.epochs.get n) := by
  obtain ⟨now, question⟩ := c
  cases question with
  | uptime o k deadline =>
    rw [ask_uptime, (Huginn.kept_uptimeBy h).1, Huginn.gmonads_uptime]
    exact uptimeIndex?_tells.epochs wire { v with left := deadline } n
  | networkRound o =>
    rw [ask_networkRound, Huginn.gmonads_networkRound?]
    exact roundIndex?_tells.epochs wire v n
  | membership o k deadline => exact (tells_map Gmonads.membershipBy_tells _).epochs wire v n
  | referenceIndex o => exact (tells_map Gmonads.referenceIndex?_tells _).epochs wire v n
  | networkHealth o => exact (tells_map Gmonads.networkHealth_tells _).epochs wire v n

/-- After a call the report that it fetched for a key is kept, or else the one
from before. -/
theorem reports_ask {c : Call} (h : v.left = none) :
    (p.ask c wire v).2.kept.huginn.reports.get? (Huginn.reportKey n key) =
      (p.reportFetched? wire n (PublicKey.normalize key) v c).or
        (v.kept.huginn.reports.get? (Huginn.reportKey n key)) := by
  obtain ⟨now, question⟩ := c
  cases question with
  | uptime o k deadline =>
    rw [reportFetched?, ask_uptime, (Huginn.kept_uptimeBy h).2, Huginn.sent_uptimeBy h]
    exact Huginn.get?_uptime o k
  | networkRound o =>
    rw [ask_networkRound, (Huginn.networkRound?_leaves _ _ _).kept]
    rfl
  | membership o k deadline =>
    rw [ask_membership]
    exact congrArg (fun part => part.1.reports.get? (Huginn.reportKey n key)) (Gmonads.membershipBy_leaves.kept wire v)
  | referenceIndex o =>
    rw [ask_referenceIndex]
    exact congrArg (fun part => part.1.reports.get? (Huginn.reportKey n key))
      (Gmonads.referenceIndex?_leaves.kept wire v)
  | networkHealth o =>
    rw [ask_networkHealth]
    exact congrArg (fun part => part.reports.get? (Huginn.reportKey n key)) (Gmonads.networkHealth_leaves.kept wire v)

/-- Nothing is fetched without a request. -/
theorem reportFetched?_of_sent {c : Call} (h : (p.ask c wire v).2.sent = v.sent) :
    p.reportFetched? wire n key v c = none := by
  obtain ⟨now, question⟩ := c
  cases question with
  | uptime o k deadline =>
    refine if_neg fun hsent => ?_
    rw [h] at hsent
    exact Nat.lt_irrefl _ hsent.2.2
  | networkRound o => rfl
  | membership o k deadline => rfl
  | referenceIndex o => rfl
  | networkHealth o => rfl

/-- No call loses the figures of a network. -/
theorem health_ask {c : Call} (h : v.left = none) (hsome : (v.kept.gmonads.health.get n).isSome = true) :
    ((p.ask c wire v).2.kept.gmonads.health.get n).isSome = true := by
  -- Only the figures themselves are asked for in a way that changes them.
  have hother {m : SourceMemory} (hm : m.gmonads.health = v.kept.gmonads.health) :
      (m.gmonads.health.get n).isSome = true := by rw [hm]; exact hsome
  obtain ⟨now, question⟩ := c
  cases question with
  | uptime o k deadline =>
    rw [ask_uptime, (Huginn.kept_uptimeBy h).1, Huginn.gmonads_uptime]
    exact hother (congrArg Prod.snd (Huginn.uptimeIndex?_leaves.kept wire { v with left := deadline }))
  | networkRound o =>
    rw [ask_networkRound, Huginn.gmonads_networkRound?]
    exact hother (congrArg Prod.snd (Huginn.roundIndex?_leaves.kept wire v))
  | membership o k deadline =>
    rw [ask_membership]
    exact hother (congrArg Prod.snd (Gmonads.membershipBy_leaves.kept wire v))
  | referenceIndex o =>
    rw [ask_referenceIndex]
    exact hother (congrArg Prod.snd (Gmonads.referenceIndex?_leaves.kept wire v))
  | networkHealth o =>
    rw [ask_networkHealth]
    exact Gmonads.isSome_networkHealth p.gmonads now wire o hsome

theorem ask_leaves (c : Call) : Lookup.Leaves (fun _ => ()) (p.ask c) := by
  obtain ⟨now, question⟩ := c
  cases question with
  | uptime o k deadline => exact Huginn.uptimeBy_leaves.bind fun _ => .pure _
  | networkRound o => exact ((Huginn.networkRound?_leaves _ _ _).of_part fun _ => ()).bind fun _ => .pure _
  | membership o k deadline => exact (Gmonads.membershipBy_leaves.of_part fun _ => ()).bind fun _ => .pure _
  | referenceIndex o => exact (Gmonads.referenceIndex?_leaves.of_part fun _ => ()).bind fun _ => .pure _
  | networkHealth o => exact (Gmonads.networkHealth_leaves.of_part fun _ => ()).bind fun _ => .pure _

/-! ## Histories -/

theorem starts_append (calls more : List Call) : p.starts wire v (calls ++ more) =
    p.starts wire v calls ++ p.starts wire (p.after wire v calls) more := by
  induction calls generalizing v with
  | nil => rfl
  | cons c calls ih => rw [List.cons_append, starts, starts, ih]; rfl

theorem after_append (calls more : List Call) :
    p.after wire v (calls ++ more) = p.after wire (p.after wire v calls) more := List.foldl_append

theorem lastReport?_concat (calls : List Call) (c : Call) : p.lastReport? wire v (calls ++ [c]) n key =
    (p.reportFetched? wire n key (p.after wire v calls) c).or (p.lastReport? wire v calls n key) := by
  rw [lastReport?, starts_append, List.filterMap_append, List.getLast?_append, lastReport?]
  congr 1
  rw [starts, List.filterMap_cons]
  cases p.reportFetched? wire n key (p.after wire v calls) c <;> rfl

theorem lastEpoch?_concat (calls : List Call) (c : Call) : p.lastEpoch? wire v (calls ++ [c]) n =
    (Gmonads.epochsIn p.gmonads c.now n (p.gmonadsExchanges wire (p.after wire v calls) c)).getLast?.or
      (p.lastEpoch? wire v calls n) := by
  rw [lastEpoch?, starts_append, List.flatMap_append, List.getLast?_append, lastEpoch?]
  congr 1
  rw [starts, starts, List.flatMap_singleton]

/-- A report once fetched has no end. -/
theorem isSome_lastReport? {calls : List Call} (more : List Call)
    (h : (p.lastReport? wire v calls n key).isSome = true) :
    (p.lastReport? wire v (calls ++ more) n key).isSome = true := by
  rw [lastReport?, starts_append, List.filterMap_append, List.getLast?_append, Option.isSome_or]
  rw [lastReport?] at h
  rw [h, Bool.or_true]

theorem mem_starts {calls : List Call} {u : Visit SourceMemory} {c : Call} (h : (u, c) ∈ p.starts wire v calls) :
    ∃ before later, calls = before ++ [c] ++ later ∧ u = p.after wire v before := by
  induction calls generalizing v with
  | nil => cases h
  | cons first calls ih =>
    rcases List.mem_cons.1 h with heq | hmem
    · cases heq
      exact ⟨[], calls, rfl, rfl⟩
    · obtain ⟨before, later, rfl, rfl⟩ := ih hmem
      exact ⟨first :: before, later, rfl, rfl⟩

theorem left_after (p : Services) (wire : Wire) (v : Visit SourceMemory) (h : v.left = none) (calls : List Call) :
    (p.after wire v calls).left = none := by
  induction calls generalizing v with
  | nil => exact h
  | cons c calls ih => exact ih _ ((ask_leaves c).left wire v h)

/-- No history loses the figures of a network. -/
theorem health_after (h : v.left = none) (hsome : (v.kept.gmonads.health.get n).isSome = true) (calls : List Call) :
    ((p.after wire v calls).kept.gmonads.health.get n).isSome = true := by
  induction calls generalizing v with
  | nil => exact hsome
  | cons c calls ih => exact ih ((ask_leaves c).left wire v h) (health_ask h hsome)

/-- New clients: nothing is kept, and the breakers are in any state. -/
def start (breakers : ByNetwork CircuitBreaker) : Visit SourceMemory where
  kept := { huginn := { breakers := breakers } }

/-- What is kept after a history is the last that it fetched. -/
theorem reports_after (breakers : ByNetwork CircuitBreaker) (calls : List Call) :
    (p.after wire (start breakers) calls).kept.huginn.reports.get? (Huginn.reportKey n key) =
      p.lastReport? wire (start breakers) calls n (PublicKey.normalize key) := by
  induction calls using List.reverseRecOn with
  | nil => rfl
  | append_singleton calls c ih =>
    rw [after_append, lastReport?_concat, ← ih]
    exact reports_ask (left_after p wire _ rfl calls)

theorem epochs_after (p : Services) (wire : Wire) (n : Network) (breakers : ByNetwork CircuitBreaker)
    (calls : List Call) :
    (p.after wire (start breakers) calls).kept.gmonads.epochs.get n = p.lastEpoch? wire (start breakers) calls n := by
  induction calls using List.reverseRecOn with
  | nil => cases n <;> rfl
  | append_singleton calls c ih =>
    rw [after_append, lastEpoch?_concat, ← ih]
    exact epochs_ask (left_after p wire _ rfl calls)

/-! ## What is answered -/

/-- What an uptime is answered after a history: always something, and a report
if and only if one was fetched for that network and key by then, namely the last
one. Once a report was answered one always is, and while it is young no request
is sent. -/
structure ReportServes (p : Services) (wire : Wire) (v : Visit SourceMemory) (calls : List Call) (now : Instant)
    (n : Network) (key : String) (deadline : Option Span) : Prop where
  answered : ∃ answer, (p.ask ⟨now, .uptime n key deadline⟩ wire (p.after wire v calls)).1 = some (.report answer) ∧
    ∀ r, answer = .ok r ↔ p.lastReport? wire v (calls ++ [⟨now, .uptime n key deadline⟩]) n
      (PublicKey.normalize key) = some r
  lasting : ∀ u earlier k d r, (u, ⟨earlier, .uptime n k d⟩) ∈ p.starts wire v calls →
    PublicKey.normalize k = PublicKey.normalize key →
    (p.ask ⟨earlier, .uptime n k d⟩ wire u).1 = some (.report (.ok r)) →
    ∃ r, (p.ask ⟨now, .uptime n key deadline⟩ wire (p.after wire v calls)).1 = some (.report (.ok r))
  young : ∀ r, p.lastReport? wire v calls n (PublicKey.normalize key) = some r →
    now - r.fetchedAt < p.huginn.lifetime →
    (p.ask ⟨now, .uptime n key deadline⟩ wire (p.after wire v calls)).1 = some (.report (.ok r)) ∧
      (p.ask ⟨now, .uptime n key deadline⟩ wire (p.after wire v calls)).2.sent = (p.after wire v calls).sent

/-- What membership is answered after a history that fetched a validator set: it
is judged by the last one, so it is told or the key is not found, and while that
set is young no request is sent. -/
structure EpochServes (p : Services) (wire : Wire) (v : Visit SourceMemory) (calls : List Call) (now : Instant)
    (n : Network) (key : String) (deadline : Option Span) : Prop where
  answered : ∀ e, p.lastEpoch? wire v calls n = some e → ∃ latest,
    p.lastEpoch? wire v (calls ++ [⟨now, .membership n key deadline⟩]) n = some latest ∧
      (p.ask ⟨now, .membership n key deadline⟩ wire (p.after wire v calls)).1 =
        some (.report (Gmonads.membershipIn latest key)) ∧
      (Gmonads.membershipIn latest key = .error (.notFound Gmonads.source key) ∨
        ∃ r, Gmonads.membershipIn latest key = .ok r)
  young : ∀ e, p.lastEpoch? wire v calls n = some e → now - e.fetchedAt < p.gmonads.lifetime →
    (p.ask ⟨now, .membership n key deadline⟩ wire (p.after wire v calls)).2.sent = (p.after wire v calls).sent

/-- Once the figures of a network were answered they always are. -/
def HealthServes (p : Services) (wire : Wire) (v : Visit SourceMemory) (calls : List Call) (now : Instant)
    (n : Network) : Prop :=
  ∀ u earlier health, (u, ⟨earlier, .networkHealth n⟩) ∈ p.starts wire v calls →
    (p.ask ⟨earlier, .networkHealth n⟩ wire u).1 = some (.health (.ok health)) →
    ∃ health, (p.ask ⟨now, .networkHealth n⟩ wire (p.after wire v calls)).1 = some (.health (.ok health))

variable (breakers : ByNetwork CircuitBreaker) (calls : List Call)

theorem uptime_answered (p : Services) (wire : Wire) (breakers : ByNetwork CircuitBreaker) (calls : List Call)
    (now : Instant) (n : Network) (key : String) (deadline : Option Span) : ∃ answer,
    (p.ask ⟨now, .uptime n key deadline⟩ wire (p.after wire (start breakers) calls)).1 = some (.report answer) ∧
      ∀ r, answer = .ok r ↔ p.lastReport? wire (start breakers) (calls ++ [⟨now, .uptime n key deadline⟩]) n
        (PublicKey.normalize key) = some r := by
  obtain ⟨answer, ha, hkept⟩ := Huginn.uptimeBy_answers p.huginn now n key deadline wire
    (left_after p wire (start breakers) rfl calls)
  refine ⟨answer, ?_, fun r => ?_⟩
  · rw [ask_uptime, ha]
    rfl
  · rw [hkept, ← reports_after, after_append]
    show _ ↔ (p.ask ⟨now, .uptime n key deadline⟩ wire _).2.kept.huginn.reports.get? _ = some r
    rw [ask_uptime]

theorem reportServes (now : Instant) (n : Network) (key : String) (deadline : Option Span) :
    ReportServes p wire (start breakers) calls now n key deadline where
  answered := uptime_answered p wire breakers calls now n key deadline
  lasting u earlier k d r hmem hkey hr := by
    obtain ⟨before, later, rfl, rfl⟩ := mem_starts hmem
    obtain ⟨first, hfirst, hlast⟩ := uptime_answered p wire breakers before earlier n k d
    obtain ⟨answer, ha, hkept⟩ := uptime_answered p wire breakers (before ++ [⟨earlier, .uptime n k d⟩] ++ later)
      now n key deadline
    obtain rfl : first = .ok r := by
      rw [hfirst] at hr
      cases hr
      rfl
    have hsome := Option.isSome_iff_exists.2 ⟨r, (hlast r).1 rfl⟩
    rw [hkey] at hsome
    have hmore := isSome_lastReport? [⟨now, .uptime n key deadline⟩] (isSome_lastReport? later hsome)
    obtain ⟨r', hr'⟩ := Option.isSome_iff_exists.1 hmore
    exact ⟨r', by rw [ha, (hkept r').2 hr']⟩
  young r hr hyoung := by
    have hsent : (p.ask ⟨now, .uptime n key deadline⟩ wire (p.after wire (start breakers) calls)).2.sent =
        (p.after wire (start breakers) calls).sent := by
      rw [ask_uptime]
      exact Huginn.uptimeBy_of_young (left_after p wire _ rfl calls) ((reports_after breakers calls).trans hr) hyoung
    obtain ⟨answer, ha, hkept⟩ := uptime_answered p wire breakers calls now n key deadline
    refine ⟨?_, hsent⟩
    rw [ha, (hkept r).2]
    rwa [lastReport?_concat, reportFetched?_of_sent hsent, Option.none_or]

theorem epochServes (now : Instant) (n : Network) (key : String) (deadline : Option Span) :
    EpochServes p wire (start breakers) calls now n key deadline where
  answered e he := by
    have hleft := left_after p wire (start breakers) rfl calls
    have hlast := epochs_after p wire n breakers (calls ++ [⟨now, .membership n key deadline⟩])
    obtain ⟨latest, hlatest⟩ : ∃ latest,
        p.lastEpoch? wire (start breakers) (calls ++ [⟨now, .membership n key deadline⟩]) n = some latest := by
      rw [lastEpoch?_concat, he]
      exact ⟨_, Option.or_some⟩
    rw [hlatest, after_append] at hlast
    change (p.ask ⟨now, .membership n key deadline⟩ wire _).2.kept.gmonads.epochs.get n = some latest at hlast
    rw [ask_membership] at hlast
    refine ⟨latest, hlatest, ?_, ?_⟩
    · rw [ask_membership, Gmonads.membershipBy_of_kept hleft hlast]
      rfl
    · rw [Gmonads.membershipIn]
      cases latest.validators.find? fun v => PublicKey.keysMatch key v.nodeId with
      | none => exact .inl rfl
      | some validator => exact .inr ⟨_, rfl⟩
  young e he hyoung := by
    rw [ask_membership]
    exact Gmonads.sent_membershipBy_of_young ((epochs_after p wire n breakers calls).trans he) hyoung

theorem healthServes (now : Instant) (n : Network) : HealthServes p wire (start breakers) calls now n := by
  intro u earlier health hmem hanswer
  obtain ⟨before, later, rfl, rfl⟩ := mem_starts hmem
  have hleft := left_after p wire (start breakers) rfl
  obtain ⟨first, hfirst, hkept⟩ := Gmonads.networkHealth_answers p.gmonads earlier n wire
    (hleft before)
  rw [ask_networkHealth, hfirst] at hanswer
  cases hanswer
  have hsome : ((p.after wire (start breakers)
      (before ++ [⟨earlier, .networkHealth n⟩] ++ later)).kept.gmonads.health.get n).isSome = true := by
    rw [after_append, after_append]
    refine health_after ((ask_leaves _).left wire _ (hleft before)) ?_ later
    rw [ask_networkHealth, (hkept health).1 rfl]
    rfl
  obtain ⟨answer, ha, hnow⟩ := Gmonads.networkHealth_answers p.gmonads now n wire
    (hleft (before ++ [⟨earlier, .networkHealth n⟩] ++ later))
  obtain ⟨kept, hk⟩ := Option.isSome_iff_exists.1 (Gmonads.isSome_networkHealth p.gmonads now wire n
    hsome)
  exact ⟨kept, by rw [ask_networkHealth, ha, (hnow kept).2 hk]; rfl⟩

/-- Kept answers go on being given. Over any history of calls at new clients,
whatever the wire does, whenever deadlines pass and whatever state the breakers
are in: an uptime answers the last report fetched for its network and key, once
there was one always, and sends nothing while it is young; membership is judged
by the last validator set fetched, and sends nothing while it is young; and the
figures of a network, once answered, are always answered. -/
theorem caches_keep_answering (p : Services) (wire : Wire) (breakers : ByNetwork CircuitBreaker) (calls : List Call)
    (now : Instant) (n : Network) (key : String) (deadline : Option Span) :
    ReportServes p wire (start breakers) calls now n key deadline ∧
      EpochServes p wire (start breakers) calls now n key deadline ∧
      HealthServes p wire (start breakers) calls now n :=
  ⟨reportServes breakers calls now n key deadline, epochServes breakers calls now n key deadline,
    healthServes breakers calls now n⟩

/-- huginn beside a gmonads that it does not use. -/
def sideBySide : Services where
  huginn := Huginn.alone
  gmonads := ⟨"http://gmonads", .ofSeconds 120, .ofSeconds 5⟩
  shared _ h := nomatch h

/-- A key that is long enough to be matched. -/
def longKey : String := "abababababababababababababababababababababababababababababababab"

/-- Some addresses have pages, and from the second request on all are silent. -/
def onceTold : Wire := fun endpoint before =>
  if before ≠ 0 then .silent
  else
    Huginn.pages [("http://huginn/validator/uptime/5", 404, ""),
      ("http://huginn/validator/uptime/ab", 200, "\x7b\"total_events\":1\x7d"),
      ("http://gmonads/validators/epoch?network=testnet", 200,
        "\x7b\"data\":[\x7b\"node_id\":\"" ++ longKey ++ "\",\"validator_set_type\":\"active\"\x7d]\x7d"),
      ("http://gmonads/blocks/1m?network=testnet", 200, "\x7b\"data\":[\x7b\"blocks\":2\x7d]\x7d")] endpoint before

/-- One question of each kind that is answered from what is kept. -/
def onceAsked : List Call :=
  [⟨default, .uptime .testnet "0xAB" none⟩, ⟨default, .membership .testnet longKey none⟩,
    ⟨default, .networkHealth .testnet⟩]

/-- Breakers that nothing has gone through. -/
def closed : ByNetwork CircuitBreaker :=
  .const ⟨5, .ofSeconds 60, 0, .closed, none⟩

/-- The validator set that was told. -/
def toldEpoch : Epoch :=
  ⟨[⟨longKey, 0, "active"⟩], default⟩

/-- What is answered two hours later. -/
def later (q : Question) : Option Reply :=
  (sideBySide.ask ⟨.ofNanos 7200000000000, q⟩ onceTold (sideBySide.after onceTold (start closed) onceAsked)).1

/-- Whether the figures of a network are answered. -/
def tellsHealth : Reply → Bool
  | .health (.ok _) => true
  | _ => false

/-- What was told once serves two hours later, when nothing is. -/
theorem told_once_serves_on :
    (∃ r, later (.uptime .testnet "ab " (some (.ofSeconds 3))) = some (.report (.ok r))) ∧
      (∃ r, later (.membership .testnet ("0x" ++ longKey) (some (.ofSeconds 3))) = some (.report (.ok r)) ∧
        r.inActiveSet = some true) ∧
      later (.membership .testnet "cd" none) = some (.report (.error (.notFound Gmonads.source "cd"))) ∧
      ∃ health, later (.networkHealth .testnet) = some (.health (.ok health)) := by
  have hserves (key : String) (deadline : Option Span) :=
    caches_keep_answering sideBySide onceTold closed onceAsked (.ofNanos 7200000000000) .testnet key deadline
  have hepoch (key : String) (deadline : Option Span)
      (hlater : sideBySide.lastEpoch? onceTold (start closed)
        (onceAsked ++ [⟨.ofNanos 7200000000000, .membership .testnet key deadline⟩]) .testnet = some toldEpoch) :
      later (.membership .testnet key deadline) = some (.report (Gmonads.membershipIn toldEpoch key)) := by
    obtain ⟨latest, hlatest, hanswer, -⟩ := (hserves key deadline).2.1.answered toldEpoch (by decide +kernel)
    obtain rfl : latest = toldEpoch := Option.some.inj (hlatest.symm.trans hlater)
    exact hanswer
  refine ⟨?_, ?_, ?_, ?_⟩
  · exact (hserves "ab " (some (.ofSeconds 3))).1.lasting (start closed) default "0xAB" none
      (Huginn.reportOf default none ⟨1, 0, 0, none⟩) List.mem_cons_self (by decide +kernel) (by decide +kernel)
  · refine ⟨⟨.gmonads, none, none, none, some true, default⟩, ?_, rfl⟩
    exact (hepoch _ _ (by decide +kernel)).trans (by decide +kernel)
  · exact (hepoch _ _ (by decide +kernel)).trans (by decide +kernel)
  · let before := sideBySide.after onceTold (start closed) (onceAsked.take 2)
    have htold : (sideBySide.ask ⟨default, .networkHealth .testnet⟩ onceTold before).1.any tellsHealth = true := by
      decide +kernel
    obtain ⟨reply, hreply, hhealth⟩ := (Option.any_eq_true _ _).1 htold
    obtain ⟨health, rfl⟩ : ∃ health, reply = .health (.ok health) := by
      cases reply with
      | health answer =>
        cases answer with
        | ok health => exact ⟨health, rfl⟩
        | error e => cases hhealth
      | report answer => cases hhealth
      | number answer => cases hhealth
    exact (hserves "ab" none).2.2 before default health (.tail _ (.tail _ (.head _))) hreply

end Services

end ValidatorWatch
