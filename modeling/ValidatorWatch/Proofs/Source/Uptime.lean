import ValidatorWatch.Proofs.Source.Rounds
/-!
# What a round costs

An uptime is asked for after a round of reference validators, and needs nothing
of it but the membership. Whatever the round comes to, the report is built from
the own answer of the validator, unless the round makes the breaker open
(`round_failures_cost_only_membership`).

Before that, `get?_uptime` says which reports are kept after an uptime, and
`gmonads_uptime` which part of it goes to gmonads.
-/

namespace ValidatorWatch.Huginn

open Document Http
open Time (Instant Span)

variable {s : HuginnSettings} {now : Instant} {n : Network} {key : String} {wire : Wire} {v w : Visit SourceMemory}

/-- Asks for a report, whatever is kept of it. -/
def fetchReport (s : HuginnSettings) (now : Instant) (n : Network) (key : String) :
    SourceLookup (Answer UptimeReport) := do
  let round ← networkRound? s now n
  match ← fetch s now n (uptimeUrl s n (PublicKey.normalize key)) with
  | .error e => return .error e
  | .ok (status, body) => return readReport now (PublicKey.normalize key) round status body

theorem uptime_eq_cached : uptime s now n key = cached (fun m => m.huginn.reports.get? (reportKey n key))
    (fun r => now - r.fetchedAt < s.lifetime) (SourceMemory.keepReport (reportKey n key))
    (fetchReport s now n key) := by
  funext wire v
  rw [uptime, cached, Lookup.kept_bind, Lookup.kept_bind]
  cases (v.kept.huginn.reports.get? (reportKey n key)).filter fun r => now - r.fetchedAt < s.lifetime with
  | some r => rfl
  | none =>
    simp only [fetchReport, Lookup.bind_apply]
    rcases networkRound? s now n wire v with ⟨_ | round, w⟩
    · rfl
    · dsimp only
      rcases fetch s now n (uptimeUrl s n (PublicKey.normalize key)) wire w with ⟨_ | e | ⟨status, body⟩, w'⟩
      · rfl
      · rfl
      · cases hread : readReport now (PublicKey.normalize key) round status body with
        | error e => simp only [hread]; rfl
        | ok r => simp only [hread]; rfl

/-! ## What is left alone -/

/-- The breaker is told what some tries came to. -/
def noteOutcome (now : Instant) (n : Network) : Except SourceError (Nat × Body) → SourceLookup (Answer (Nat × String))
  | .error e => do
    noteFailure now n
    return .error e
  | .ok (_, .broken reason) => return .error (malformed reason)
  | .ok (status, .text body) => do
    noteSuccess n
    return .ok (status, body)

theorem fetch_eq {url : String} : fetch s now n url = breakerAllows now n >>= fun allowed =>
    if allowed then attempts s url 0 (s.retry.maxAttempts - 1) >>= noteOutcome now n
    else pure (.error (.circuitOpen s!"{source}/{n.name}")) := by
  rw [fetch]
  congr 1
  funext allowed
  cases allowed <;> rfl

theorem noteOutcome_leaves (x : Except SourceError (Nat × Body)) :
    Lookup.Leaves (fun m => (m.gmonads, m.huginn.reports)) (noteOutcome now n x) := by
  rcases x with e | ⟨status, body | reason⟩
  · exact .bind (.bind .memory fun _ => .keep fun _ => rfl) fun _ => .pure _
  · exact .bind (.bind .memory fun _ => .keep fun _ => rfl) fun _ => .pure _
  · exact .pure _

/-- Guarded requests change nothing but the breakers. -/
theorem fetch_leaves {url : String} : Lookup.Leaves (fun m => (m.gmonads, m.huginn.reports)) (fetch s now n url) := by
  rw [fetch_eq]
  refine Lookup.Leaves.bind (.bind .memory fun m => .bind (.keep fun _ => rfl) fun _ => .pure _) fun allowed => ?_
  cases allowed with
  | false => exact .pure _
  | true => exact ((attempts_leaves _ _ _ _).of_part fun m => (m.gmonads, m.huginn.reports)).bind noteOutcome_leaves

/-- There is no answer without a request. -/
theorem sends_of_fetch {url : String} {answer : Nat × String} (h : (fetch s now n url wire v).1 = some (.ok answer)) :
    v.sent.length < (fetch s now n url wire v).2.sent.length := by
  rw [fetch_eq, Lookup.bind_of_some breakerAllows_apply] at h ⊢
  cases hallow : ((v.kept.huginn.breakers.get n).canExecute now).1 with
  | false =>
    rw [hallow] at h
    cases h
  | true =>
    have htries := attempts_sends s url 0 (s.retry.maxAttempts - 1) wire
      { v with kept := v.kept.setBreaker n ((v.kept.huginn.breakers.get n).canExecute now).2 }
    exact Nat.lt_of_lt_of_le htries (Lookup.Leaves.sent_bind noteOutcome_leaves wire _).length_le

theorem roundOf?_leaves {index : Nat} :
    Lookup.Leaves (fun m => (m.gmonads, m.huginn.reports)) (roundOf? s now n index) :=
  fetch_leaves.bind fun answer => by
    rcases answer with e | ⟨status, body⟩
    · exact .pure _
    · dsimp only
      split
      · cases parseUptime body <;> exact .pure _
      · exact .pure _

theorem latestRound?_leaves (indices : List Nat) (best : Option Nat) :
    Lookup.Leaves (fun m => (m.gmonads, m.huginn.reports)) (latestRound? s now n indices best) := by
  induction indices generalizing best with
  | nil => exact .pure _
  | cons index rest ih =>
    refine roundOf?_leaves.bind fun round => ?_
    cases round with
    | none => exact ih best
    | some round => exact ih _

theorem noteFailure_leaves : Lookup.Leaves (fun m => (m.gmonads, m.huginn.reports)) (noteFailure now n) :=
  .bind .memory fun _ => .keep fun _ => rfl

theorem askedRound?_leaves : Lookup.Leaves (fun m => m.huginn.reports) (askedRound? s now n) := by
  have hnamed : Lookup.Leaves (fun m => m.huginn.reports) (namedRound? s now n) := by
    rw [namedRound?_eq]
    refine ((namedIndex?_leaves s now n).of_part fun part => part.1.reports).bind fun index => ?_
    cases index with
    | none => exact .pure _
    | some index => exact roundOf?_leaves.of_part Prod.snd
  refine hnamed.bind fun round => ?_
  cases round with
  | none => exact (latestRound?_leaves _ _).of_part Prod.snd
  | some round => exact .pure _

theorem networkRound?_leaves (s : HuginnSettings) (now : Instant) (n : Network) :
    Lookup.Leaves (fun m => m.huginn.reports) (networkRound? s now n) := by
  rw [networkRound?_eq]
  refine Lookup.Leaves.memory.bind fun m => ?_
  cases (m.huginn.rounds.get n).filter fun k => now - k.2 < roundLifetime with
  | some k => exact .pure _
  | none =>
    refine askedRound?_leaves.bind fun round => ?_
    cases round with
    | some round => exact .bind (.keep fun _ => rfl) fun _ => .pure _
    | none => exact .pure _

/-- Asking for a report keeps none. -/
theorem fetchReport_leaves : Lookup.Leaves (fun m => m.huginn.reports) (fetchReport s now n key) :=
  (networkRound?_leaves s now n).bind fun round => (fetch_leaves.of_part Prod.snd).bind fun answer => by
    rcases answer with e | ⟨status, body⟩ <;> exact .pure _

/-- A report is fetched with a request. -/
theorem sends_of_fetched {r : UptimeReport} (h : fetched? (fetchReport s now n key) wire v = some r) :
    v.sent.length < (fetchReport s now n key wire v).2.sent.length := by
  rw [fetched?, fetchReport, Lookup.bind_apply] at h
  rw [fetchReport, Lookup.bind_apply]
  have hround := ((networkRound?_leaves s now n).sent wire v).length_le
  revert h hround
  rcases networkRound? s now n wire v with ⟨_ | round, w⟩
  · intro h
    cases h
  · dsimp only
    rw [Lookup.bind_apply]
    have hfetch (answer : Nat × String) (h : (fetch s now n (uptimeUrl s n (PublicKey.normalize key)) wire w).1 =
        some (.ok answer)) := sends_of_fetch h
    revert hfetch
    rcases fetch s now n (uptimeUrl s n (PublicKey.normalize key)) wire w with ⟨_ | e | answer, u⟩
    · intro _ h
      cases h
    · intro _ h
      cases h
    · exact fun hfetch _ hround => Nat.lt_of_le_of_lt hround (hfetch answer rfl)

theorem reportKey_inj {n o : Network} {key k : String} (h : reportKey o k = reportKey n key) :
    o = n ∧ PublicKey.normalize k = PublicKey.normalize key := by
  have hchars := congrArg String.toList h
  simp only [reportKey, toString, String.toList_append] at hchars
  have hname : o = n := by
    cases o <;> cases n
    · rfl
    · simp [Network.name] at hchars
    · simp [Network.name] at hchars
    · rfl
  subst hname
  exact ⟨rfl, String.toList_inj.1 (List.append_cancel_left hchars)⟩

/-- What is kept under a key after an uptime: the report that the uptime fetched
for it, if it sent a request at all, or else the one from before. -/
theorem get?_uptime (o : Network) (k : String) :
    (uptime s now o k wire v).2.kept.huginn.reports.get? (reportKey n key) =
      (if o = n ∧ PublicKey.normalize k = PublicKey.normalize key ∧
          v.sent.length < (uptime s now o k wire v).2.sent.length then
        fetched? (fetchReport s now o k) wire v else none).or (v.kept.huginn.reports.get? (reportKey n key)) := by
  by_cases hkey : reportKey o k = reportKey n key
  · obtain ⟨rfl, hnormal⟩ := reportKey_inj hkey
    rw [← hkey, uptime_eq_cached]
    cases hyoung : (v.kept.huginn.reports.get? (reportKey o k)).filter fun r => now - r.fetchedAt < s.lifetime with
    | some r =>
      rw [cached_of_young hyoung, if_neg fun h => Nat.lt_irrefl _ h.2.2]
      rfl
    | none =>
      rw [slot_cached_of_stale (fun m => m.huginn.reports.get? (reportKey o k))
          (fetchReport_leaves.of_part fun reports => reports.get? (reportKey o k))
          (fun r m => NameMap.get?_insert_self _ _ _) hyoung,
        sent_cached_of_stale (fun m => m.huginn.reports.get? (reportKey o k)) hyoung]
      cases hfetched : fetched? (fetchReport s now o k) wire v with
      | none => rw [ite_self]
      | some r => rw [if_pos ⟨rfl, hnormal, sends_of_fetched hfetched⟩]
  · have hleaves : Lookup.Leaves (fun m => m.huginn.reports.get? (reportKey n key)) (uptime s now o k) :=
      uptime_eq_cached ▸ cached_leaves (fetchReport_leaves.of_part fun reports => reports.get? (reportKey n key))
        fun r m => NameMap.get?_insert_of_ne _ _ hkey
    rw [hleaves.kept, if_neg fun h => hkey (by rw [reportKey, reportKey, h.1, h.2.1])]
    rfl

/-! ## The part of gmonads -/

/-- What a round asks of gmonads. -/
def roundIndex? (s : HuginnSettings) (now : Instant) (n : Network) : SourceLookup (Option Nat) := do
  match ((← Lookup.kept).huginn.rounds.get n).filter fun k => now - k.2 < roundLifetime with
  | some _ => return none
  | none => namedIndex? s now n

/-- What an uptime asks of gmonads. -/
def uptimeIndex? (s : HuginnSettings) (now : Instant) (n : Network) (key : String) :
    SourceLookup (Option Nat) := do
  match ((← Lookup.kept).huginn.reports.get? (reportKey n key)).filter fun r => now - r.fetchedAt < s.lifetime with
  | some _ => return none
  | none => roundIndex? s now n

theorem roundIndex?_leaves : Lookup.Leaves (fun m => (m.huginn, m.gmonads.health)) (roundIndex? s now n) :=
  Lookup.Leaves.memory.bind fun m => by
    cases (m.huginn.rounds.get n).filter fun k => now - k.2 < roundLifetime with
    | some k => exact .pure _
    | none => exact namedIndex?_leaves s now n

theorem uptimeIndex?_leaves : Lookup.Leaves (fun m => (m.huginn, m.gmonads.health)) (uptimeIndex? s now n key) :=
  Lookup.Leaves.memory.bind fun m => by
    cases (m.huginn.reports.get? (reportKey n key)).filter fun r => now - r.fetchedAt < s.lifetime with
    | some r => exact .pure _
    | none => exact roundIndex?_leaves

/-- A round comes to gmonads only when it asks for a name. -/
theorem gmonads_networkRound? :
    (networkRound? s now n wire v).2.kept.gmonads = (roundIndex? s now n wire v).2.kept.gmonads := by
  rw [networkRound?_eq, roundIndex?, Lookup.kept_bind, Lookup.kept_bind]
  cases (v.kept.huginn.rounds.get n).filter fun k => now - k.2 < roundLifetime with
  | some k => rfl
  | none =>
    refine (Lookup.Leaves.kept_bind_eq (fun round => ?_) wire v).trans ?_
    · cases round with
      | some round => exact .bind (.keep fun _ => rfl) fun _ => .pure _
      | none => exact .pure _
    refine (Lookup.Leaves.kept_bind_eq (fun round => ?_) wire v).trans ?_
    · cases round with
      | some round => exact .pure _
      | none => exact (latestRound?_leaves _ _).of_part Prod.fst
    rw [namedRound?_eq]
    refine Lookup.Leaves.kept_bind_eq (fun index => ?_) wire v
    cases index with
    | none => exact .pure _
    | some index => exact roundOf?_leaves.of_part Prod.fst

/-- The same of an uptime. -/
theorem gmonads_uptime :
    (uptime s now n key wire v).2.kept.gmonads = (uptimeIndex? s now n key wire v).2.kept.gmonads := by
  rw [uptime, uptimeIndex?, Lookup.kept_bind, Lookup.kept_bind]
  cases (v.kept.huginn.reports.get? (reportKey n key)).filter fun r => now - r.fetchedAt < s.lifetime with
  | some r => rfl
  | none =>
    refine (Lookup.Leaves.kept_bind_eq (fun round => (?_ : Lookup.Leaves SourceMemory.gmonads _)) wire v).trans
      gmonads_networkRound?
    refine (fetch_leaves.of_part Prod.fst).bind fun answer => ?_
    rcases answer with e | ⟨status, body⟩
    · exact .pure _
    · dsimp only
      cases readReport now (PublicKey.normalize key) round status body with
      | error e => exact .pure _
      | ok r => exact .bind (.keep fun _ => rfl) fun _ => .pure _

/-! ## What a round costs -/

/-- The report that an uptime makes. -/
def reportOf (now : Instant) (round : Option Nat) (u : HuginnUptime) : UptimeReport where
  source := .huginn
  percent := some u.percent
  finalized := some u.finalized
  timeouts := some u.timeouts
  inActiveSet := u.inActiveSet round
  fetchedAt := now

theorem readReport_of_success {round : Option Nat} {status : Nat} {body : String} {u : HuginnUptime}
    (hstatus : isSuccess status = true) (hbody : parseUptime body = .ok u) :
    readReport now key round status body = .ok (reportOf now round u) := by
  have hmany : status ≠ tooManyRequests := by
    rintro rfl
    exact Bool.noConfusion hstatus
  have hnone : status ≠ Http.notFound := by
    rintro rfl
    exact Bool.noConfusion hstatus
  rw [readReport, if_neg hmany, if_neg hnone, hstatus, hbody]
  rfl

theorem not_serverError_of_success {status : Nat} (h : isSuccess status = true) : isServerError status = false := by
  simp only [isSuccess, isServerError, Bool.and_eq_true, decide_eq_true_eq, Bool.and_eq_false_iff,
    decide_eq_false_iff_not] at h ⊢
  omega

/-- The address of a validator answers with an uptime after some failed tries,
if so many requests went to it before. -/
structure AnswersUptime (s : HuginnSettings) (wire : Wire) (url : String) (before failed : Nat)
    (u : HuginnUptime) : Prop where
  tries : failed < max s.retry.maxAttempts 1
  failures : ∀ j < failed, failedTry (wire (Request.get url).endpoint (before + j)) = true
  answered : ∃ status body, wire (Request.get url).endpoint (before + failed) = .answered status (.text body) ∧
    isSuccess status = true ∧ parseUptime body = .ok u

/-- A closed breaker lets the request for the own uptime through. -/
theorem fetch_of_answersUptime (now : Instant) {url : String} {k : Nat} {u : HuginnUptime} (h : v.left = none)
    (hc : (v.kept.huginn.breakers.get n).state = .closed)
    (hu : AnswersUptime s wire url (requestsTo (Request.get url).endpoint v.sent) k u) :
    ∃ status body m, fetch s now n url wire v =
      (some (.ok (status, body)), { v with kept := m, sent := v.sent ++ List.replicate (k + 1) (.get url) }) ∧
        isSuccess status = true ∧ parseUptime body = .ok u := by
  obtain ⟨status, body, hanswer, hstatus, hbody⟩ := hu.answered
  have hk : k ≤ s.retry.maxAttempts - 1 := by
    have := hu.tries
    omega
  have htries : ∀ m, attempts s url 0 (s.retry.maxAttempts - 1) wire { v with kept := m } =
      (some (.ok (status, .text body)),
        { v with kept := m, sent := v.sent ++ List.replicate (k + 1) (.get url) }) := fun m =>
    attempts_of_answered (v := { v with kept := m }) h hk 0 hu.failures hanswer (not_serverError_of_success hstatus)
  exact ⟨status, body, _, fetch_of_closed now hc htries, hstatus, hbody⟩

/-- A round that opens no breaker costs no more than the membership. With the
breaker at rest and no young report at hand, and unless five lookups of
reference validators in a row fail, the own uptime is asked for, and if it is
told then the report is built from it. Without a round of the network the
membership is unknown, except that a validator without events never joined. -/
theorem round_failures_cost_only_membership (s : HuginnSettings) (now : Instant) (n : Network) (key : String)
    (wire : Wire) (v : Visit SourceMemory) (hleft : v.left = none)
    (hrested : (v.kept.huginn.breakers.get n).Rested)
    (hold : ∀ r, v.kept.huginn.reports.get? (reportKey n key) = some r → ¬ now - r.fetchedAt < s.lifetime)
    (hround : ¬ FiveLookupsFail s now n wire v) :
    ∃ round w, networkRound? s now n wire v = (some round, w) ∧
      ∀ failed u, AnswersUptime s wire (uptimeUrl s n (PublicKey.normalize key))
          (requestsTo (Request.get (uptimeUrl s n (PublicKey.normalize key))).endpoint w.sent) failed u →
        (uptime s now n key wire v).1 = some (.ok (reportOf now round u)) ∧
        (uptime s now n key wire v).2.sent =
          w.sent ++ List.replicate (failed + 1) (.get (uptimeUrl s n (PublicKey.normalize key))) ∧
        (round = none → (reportOf now round u).inActiveSet = if u.totalEvents = 0 then some false else none) := by
  obtain ⟨round, w, hw, hleft', hclosed, -⟩ := networkRound?_of_news hleft hrested hround
  refine ⟨round, w, hw, fun failed u hu => ?_⟩
  have hstale : (v.kept.huginn.reports.get? (reportKey n key)).filter (fun r => now - r.fetchedAt < s.lifetime) =
      none := by
    rw [Option.filter_eq_none_iff]
    exact fun r hr => by simpa using hold r hr
  obtain ⟨status, body, m, hfetch, hstatus, hbody⟩ := fetch_of_answersUptime now hleft' hclosed hu
  have hreport : fetchReport s now n key wire v = (some (.ok (reportOf now round u)), { w with
      kept := m, sent := w.sent ++ List.replicate (failed + 1) (.get (uptimeUrl s n (PublicKey.normalize key))) }) := by
    rw [fetchReport, Lookup.bind_of_some hw, Lookup.bind_of_some hfetch]
    dsimp only
    rw [readReport_of_success hstatus hbody]
    rfl
  rw [uptime_eq_cached, cached_of_stale hstale, hreport]
  refine ⟨rfl, rfl, ?_⟩
  rintro rfl
  rfl

/-- huginn without gmonads beside it. -/
def alone : HuginnSettings where
  endpoint _ := "http://huginn"
  lifetime := .ofSeconds 3600
  timeoutSeconds := 5
  gmonads := none

/-- Some addresses have pages and all others refuse. -/
def pages (known : List (String × Nat × String)) : Wire := fun endpoint _ =>
  match known.lookup endpoint.url with
  | some (status, body) => .answered status (.text body)
  | none => .refused "connection refused"

/-- Four reference validators refuse and the fifth is unknown. -/
def fourRefuse : Wire :=
  pages [("http://huginn/validator/uptime/5", 404, ""),
    ("http://huginn/validator/uptime/ab", 200, "\x7b\"total_events\":1\x7d")]

theorem told_beside_four_refusals : ∃ round w,
    networkRound? alone default .testnet fourRefuse { kept := {} } = (some round, w) ∧
      (uptime alone default .testnet "0xAB" fourRefuse { kept := {} }).1 =
        some (.ok (reportOf default round ⟨1, 0, 0, none⟩)) ∧
      (round = none → (reportOf default round ⟨1, 0, 0, none⟩).inActiveSet = none) := by
  have hnews : (roundNews alone default .testnet fourRefuse { kept := {} }).1 =
      some [false, false, false, false, true] := by decide +kernel
  have hfew : ¬ FiveLookupsFail alone default .testnet fourRefuse { kept := {} } := by
    rintro ⟨news, hsome, hfive⟩
    obtain rfl := Option.some.inj (hnews.symm.trans hsome)
    revert hfive
    decide
  obtain ⟨round, w, hw, h⟩ := round_failures_cost_only_membership alone default .testnet "0xAB" fourRefuse
    { kept := {} } rfl ⟨rfl, rfl, rfl⟩ (fun r hr => nomatch hr) hfew
  obtain ⟨hreport, -, hmember⟩ := h 0 ⟨1, 0, 0, none⟩
    ⟨by decide, fun j hj => (nomatch hj), 200, "\x7b\"total_events\":1\x7d", rfl, rfl, by decide +kernel⟩
  exact ⟨round, w, hw, hreport, hmember⟩

/-- Only the own address has a page. -/
def allRefuse : Wire :=
  pages [("http://huginn/validator/uptime/ab", 200, "\x7b\"total_events\":1\x7d")]

/-- No reference validator is known, and the own one had no events. -/
def noneKnown : Wire :=
  pages [("http://huginn/validator/uptime/1", 404, ""), ("http://huginn/validator/uptime/2", 404, ""),
    ("http://huginn/validator/uptime/3", 404, ""), ("http://huginn/validator/uptime/4", 404, ""),
    ("http://huginn/validator/uptime/5", 404, ""), ("http://huginn/validator/uptime/ab", 200, "\x7b\x7d")]

/-- Five refusals open the breaker, and the own uptime is not asked for though
it would be told. Without events a validator is no member, round or no round. -/
theorem kept_back_by_five_refusals :
    ((SourceMemory.huginn {}).breakers.get .testnet).Rested ∧
      (∀ before, AnswersUptime alone allRefuse "http://huginn/validator/uptime/ab" before 0 ⟨1, 0, 0, none⟩) ∧
      (uptime alone default .testnet "0xAB" allRefuse { kept := {} }).1 =
        some (.error (.circuitOpen "huginn/testnet")) ∧
      (∀ r ∈ (uptime alone default .testnet "0xAB" allRefuse { kept := {} }).2.sent,
        r.endpoint.url ≠ "http://huginn/validator/uptime/ab") ∧
      (networkRound? alone default .testnet noneKnown { kept := {} }).1 = some none ∧
      (uptime alone default .testnet "0xAB" noneKnown { kept := {} }).1 =
        some (.ok (reportOf default none ⟨0, 0, 0, none⟩)) ∧
      (reportOf default none ⟨0, 0, 0, none⟩).inActiveSet = some false := by
  refine ⟨⟨rfl, rfl, rfl⟩, fun before => ?_, ?_, ?_, ?_, ?_, rfl⟩
  · exact ⟨by decide, fun j hj => (nomatch hj), 200, "\x7b\"total_events\":1\x7d", rfl, rfl, by decide +kernel⟩
  · decide +kernel
  · decide +kernel
  · decide +kernel
  · decide +kernel

end ValidatorWatch.Huginn
