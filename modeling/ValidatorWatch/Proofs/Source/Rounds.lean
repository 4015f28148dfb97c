import Mathlib.Data.List.Induction
import Mathlib.Data.List.Infix
import ValidatorWatch.Proofs.Source.Gmonads
/-!
# Reference rounds and the breaker

The uptime of a validator is asked for last, after up to six lookups of
reference validators for the round of the network. All of them go through one
breaker, and what it hears of the first ones decides whether the last is made.

`roundNews` is what the breaker hears in such a round if it lets everything
through. As long as no five lookups in a row fail in it, the breaker stays
closed (`hear_of_few`), so that the round is the one it would be without a
breaker (`networkRound?_of_news`) and whatever it comes to costs no more than
the membership.
-/

namespace ValidatorWatch

open Document Http
open Time (Instant Span)

/-! ## What breakers hear -/

namespace CircuitBreaker

/-- A breaker that opens after five failures in a row and has counted none. -/
structure Rested (b : CircuitBreaker) : Prop where
  threshold : b.threshold = 5
  closed : b.state = .closed
  failures : b.failures = 0

/-- The breaker after it heard of answers and failures, in that order. -/
def hear (now : Instant) (b : CircuitBreaker) (news : List Bool) : CircuitBreaker :=
  news.foldl (fun b answered => if answered then b.recordSuccess else b.recordFailure now) b

variable {b : CircuitBreaker} {now : Instant} {news : List Bool}

theorem hear_append (now : Instant) (b : CircuitBreaker) (news more : List Bool) :
    b.hear now (news ++ more) = (b.hear now news).hear now more := List.foldl_append

theorem canExecute_of_closed (h : b.state = .closed) : b.canExecute now = (true, b) := by
  rw [canExecute, h]

theorem recordFailure_of_few (now : Instant) (hc : b.state = .closed) (hf : b.failures + 1 < b.threshold)
    (hlimit : b.threshold ≤ failureLimit) :
    (b.recordFailure now).state = .closed ∧ (b.recordFailure now).failures = b.failures + 1 := by
  have hmin : min (b.failures + 1) failureLimit = b.failures + 1 := by omega
  rw [recordFailure, hmin]
  refine ⟨?_, rfl⟩
  rw [if_neg (by simp [hc]; omega), hc]

/-- Until five failures in a row the breaker counts those that it heard last,
and stays closed. -/
theorem hear_of_few (h : b.Rested) (hnews : ¬ List.replicate 5 false <:+: news) :
    (b.hear now news).threshold = 5 ∧ (b.hear now news).state = .closed ∧
      List.replicate (b.hear now news).failures false <:+ news := by
  induction news using List.reverseRecOn with
  | nil => exact ⟨h.threshold, h.closed, by rw [hear, List.foldl_nil, h.failures]; exact List.nil_suffix⟩
  | append_singleton news answered ih =>
    rw [List.infix_concat_iff, not_or] at hnews
    obtain ⟨hlast, hbefore⟩ := hnews
    obtain ⟨ht, hc, hcount⟩ := ih hbefore
    rw [hear_append]
    cases answered with
    | true => exact ⟨ht, rfl, List.nil_suffix⟩
    | false =>
      have hmore : List.replicate ((b.hear now news).failures + 1) false <:+ news ++ [false] := by
        rw [List.replicate_succ']
        exact List.suffix_append_self_iff.2 hcount
      -- One failure more is still not the fifth: five would end what it heard.
      have hfew : (b.hear now news).failures + 1 < 5 := by
        by_contra hfive
        have hshorter : List.replicate 5 false <:+ List.replicate ((b.hear now news).failures + 1) false :=
          ⟨List.replicate ((b.hear now news).failures + 1 - 5) false, by
            rw [List.replicate_append_replicate]; congr 1; omega⟩
        exact hlast (hshorter.trans hmore)
      obtain ⟨hstate, hfailures⟩ := recordFailure_of_few now hc (by omega) (by rw [ht]; decide)
      exact ⟨ht, hstate, by rw [← hfailures] at hmore; exact hmore⟩

end CircuitBreaker

namespace SourceMemory

variable {m : SourceMemory} {n : Network} {now : Instant}

/-- The breaker of a network hears of answers and failures. -/
def hear (now : Instant) (n : Network) (news : List Bool) (m : SourceMemory) : SourceMemory :=
  m.setBreaker n ((m.huginn.breakers.get n).hear now news)

theorem setBreaker_self : m.setBreaker n (m.huginn.breakers.get n) = m := by
  cases n <;> rfl

theorem get_setBreaker (b : CircuitBreaker) : (m.setBreaker n b).huginn.breakers.get n = b := by
  cases n <;> rfl

theorem setBreaker_setBreaker (b c : CircuitBreaker) : (m.setBreaker n b).setBreaker n c = m.setBreaker n c := by
  cases n <;> rfl

theorem hear_nil : m.hear now n [] = m := setBreaker_self

theorem get_hear (news : List Bool) :
    (m.hear now n news).huginn.breakers.get n = (m.huginn.breakers.get n).hear now news :=
  get_setBreaker _

theorem hear_hear (news more : List Bool) : (m.hear now n news).hear now n more = m.hear now n (news ++ more) := by
  rw [hear, get_hear, hear, setBreaker_setBreaker, hear, CircuitBreaker.hear_append]

end SourceMemory

namespace Huginn

variable {s : HuginnSettings} {now : Instant} {n : Network} {wire : Wire} {v w : Visit SourceMemory}
  {url : String}

/-! ## Tries -/

/-- The exchanges that are worth another try. -/
def failedTry : Exchange → Bool
  | .answered status _ => isServerError status
  | _ => true

/-- What a try comes to. -/
def tried (s : HuginnSettings) : Exchange → Except SourceError (Nat × Body)
  | .answered status body =>
    if isServerError status then .error (.unreachable source (statusText status)) else .ok (status, body)
  | .refused reason => .error (.unreachable source reason)
  | .silent => .error (.timeout source s.timeoutSeconds)

theorem tried_of_failedTry {x : Exchange} (h : failedTry x = true) : ∃ e, tried s x = .error e := by
  cases x with
  | answered status body => exact ⟨_, if_pos h⟩
  | refused reason => exact ⟨_, rfl⟩
  | silent => exact ⟨_, rfl⟩

theorem attempt_of_unlimited (h : v.left = none) : attempt s url wire v =
    (some (tried s (wire (Request.get url).endpoint (requestsTo (Request.get url).endpoint v.sent))),
      { v with sent := v.sent ++ [.get url] }) := by
  rw [attempt, Lookup.bind_of_some (Lookup.send_of_unlimited h _ _)]
  cases wire (Request.get url).endpoint (requestsTo (Request.get url).endpoint v.sent) with
  | answered status body =>
    simp only [Lookup.Reply.ofExchange, tried]
    split <;> rfl
  | refused reason => rfl
  | silent => rfl

theorem attempts_succ_of_unlimited (s : HuginnSettings) (url : String) (wire : Wire) (h : v.left = none)
    (tries more : Nat) :
    attempts s url tries (more + 1) wire v =
      match tried s (wire (Request.get url).endpoint (requestsTo (Request.get url).endpoint v.sent)) with
      | .ok answer => (some (.ok answer), { v with sent := v.sent ++ [.get url] })
      | .error _ => attempts s url (tries + 1) more wire { v with sent := v.sent ++ [.get url] } := by
  rw [attempts, Lookup.bind_of_some (attempt_of_unlimited h)]
  cases tried s (wire (Request.get url).endpoint (requestsTo (Request.get url).endpoint v.sent)) with
  | ok answer => rfl
  | error e => exact Lookup.wait_bind_of_unlimited (v := { v with sent := v.sent ++ [.get url] }) h _ _

/-- Tries keep nothing. -/
theorem attempts_leaves (s : HuginnSettings) (url : String) (tries more : Nat) :
    Lookup.Leaves id (attempts s url tries more) := by
  have hattempt : Lookup.Leaves id (attempt s url) := (Lookup.Leaves.send _ _).bind fun reply => by
    cases reply with
    | answered status body => dsimp only; split <;> exact .pure _
    | refused reason => exact .pure _
    | timedOut => exact .pure _
  induction more generalizing tries with
  | zero => exact hattempt
  | succ more ih =>
    refine hattempt.bind fun x => ?_
    cases x with
    | ok answer => exact .pure _
    | error e => exact (Lookup.Leaves.wait _).bind fun _ => ih (tries + 1)

theorem sent_attempt : (attempt s url wire v).2.sent = v.sent ++ [.get url] := by
  obtain ⟨reply, left, hsend, -⟩ := Lookup.send_spec (.ofSeconds s.timeoutSeconds) (.get url) wire v
  rw [attempt, Lookup.bind_apply, hsend]
  rcases reply with _ | ⟨status, body⟩ | reason | _
  · rfl
  · dsimp only
    split <;> rfl
  · rfl
  · rfl

/-- A request is tried at least once. -/
theorem attempts_sends (s : HuginnSettings) (url : String) (tries more : Nat) (wire : Wire) (v : Visit SourceMemory) :
    v.sent.length < (attempts s url tries more wire v).2.sent.length := by
  have hsent : v.sent.length < (attempt s url wire v).2.sent.length := by
    rw [sent_attempt, List.length_append]
    exact Nat.lt_succ_self _
  cases more with
  | zero => exact hsent
  | succ more =>
    rw [attempts, Lookup.bind_apply]
    revert hsent
    rcases attempt s url wire v with ⟨_ | e | answer, w⟩
    · exact id
    · have hmore := ((Lookup.Leaves.wait (s.retry.delay tries)).bind fun _ =>
        attempts_leaves s url (tries + 1) more).sent wire w
      exact fun h => Nat.lt_of_lt_of_le h hmore.length_le
    · exact id

/-- With unlimited time the tries come to something, and that does not depend
on what is kept. -/
theorem attempts_of_unlimited (s : HuginnSettings) (url : String) (wire : Wire) (h : v.left = none) (tries more : Nat) :
    ∃ x sent, ∀ m,
    attempts s url tries more wire { v with kept := m } = (some x, { v with kept := m, sent := sent }) := by
  induction more generalizing v tries with
  | zero =>
    exact ⟨tried s (wire (Request.get url).endpoint (requestsTo (Request.get url).endpoint v.sent)),
      v.sent ++ [.get url], fun m => by
        rw [attempts]
        exact attempt_of_unlimited (v := { v with kept := m }) h⟩
  | succ more ih =>
    have hstep := fun m => attempts_succ_of_unlimited s url wire
      (v := { v with kept := m }) h tries more
    cases hx : tried s (wire (Request.get url).endpoint (requestsTo (Request.get url).endpoint v.sent)) with
    | ok answer =>
      exact ⟨.ok answer, v.sent ++ [.get url], fun m => (hstep m).trans (by simp only [hx])⟩
    | error e =>
      obtain ⟨x, sent, hmore⟩ := ih (v := { v with sent := v.sent ++ [.get url] }) h (tries + 1)
      exact ⟨x, sent, fun m => (hstep m).trans (by simp only [hx]; exact hmore m)⟩

/-- The tries end with the first one that is answered. -/
theorem attempts_of_answered (h : v.left = none) {more k status : Nat} {body : Body} (hk : k ≤ more)
    (tries : Nat)
    (hfailed : ∀ j < k, failedTry (wire (Request.get url).endpoint
      (requestsTo (Request.get url).endpoint v.sent + j)) = true)
    (hanswer : wire (Request.get url).endpoint (requestsTo (Request.get url).endpoint v.sent + k) =
      .answered status body)
    (hstatus : isServerError status = false) :
    attempts s url tries more wire v =
      (some (.ok (status, body)), { v with sent := v.sent ++ List.replicate (k + 1) (.get url) }) := by
  have htried : tried s (.answered status body) = .ok (status, body) := by rw [tried, hstatus]; rfl
  induction k generalizing v more tries with
  | zero =>
    rw [Nat.add_zero] at hanswer
    cases more with
    | zero => rw [attempts, attempt_of_unlimited h, hanswer, htried]; rfl
    | succ more => rw [attempts_succ_of_unlimited s url wire h, hanswer, htried]; rfl
  | succ k ih =>
    obtain ⟨more, rfl⟩ : ∃ fewer, more = fewer + 1 := ⟨more - 1, by omega⟩
    obtain ⟨e, he⟩ := tried_of_failedTry (s := s) (hfailed 0 (Nat.succ_pos k))
    have hcount : requestsTo (Request.get url).endpoint (v.sent ++ [.get url]) =
        requestsTo (Request.get url).endpoint v.sent + 1 := by
      simp [requestsTo, List.countP_append]
    have hrest := ih (v := { v with sent := v.sent ++ [.get url] }) h (Nat.le_of_succ_le_succ hk) (tries + 1)
      (fun j hj => by rw [hcount, Nat.add_right_comm, Nat.add_assoc]; exact hfailed (j + 1) (by omega))
      (by rw [hcount, Nat.add_right_comm, Nat.add_assoc]; exact hanswer)
    rw [attempts_succ_of_unlimited s url wire h, ← Nat.add_zero (requestsTo _ _), he]
    refine hrest.trans ?_
    rw [List.replicate_succ (n := k + 1), List.append_assoc]
    rfl

/-! ## Guarded requests -/

/-- What the breaker hears of some tries: a failure, an answer, or nothing if
the body of the answer breaks off. -/
def heard : Except SourceError (Nat × Body) → List Bool
  | .error _ => [false]
  | .ok (_, .text _) => [true]
  | .ok (_, .broken _) => []

/-- What is left of some tries for whoever asked. -/
def page : Except SourceError (Nat × Body) → Answer (Nat × String)
  | .error e => .error e
  | .ok (status, .text body) => .ok (status, body)
  | .ok (_, .broken reason) => .error (malformed reason)

theorem breakerAllows_apply : breakerAllows now n wire v =
    (some ((v.kept.huginn.breakers.get n).canExecute now).1,
      { v with kept := v.kept.setBreaker n ((v.kept.huginn.breakers.get n).canExecute now).2 }) := rfl

/-- A closed breaker lets all tries through and hears what comes of them. -/
theorem fetch_of_closed (now : Instant) (hc : (v.kept.huginn.breakers.get n).state = .closed)
    {x : Except SourceError (Nat × Body)} {sent : List Request}
    (hx : ∀ m, attempts s url 0 (s.retry.maxAttempts - 1) wire { v with kept := m } =
      (some x, { v with kept := m, sent := sent })) :
    fetch s now n url wire v =
      (some (page x), { v with sent := sent, kept := v.kept.hear now n (heard x) }) := by
  have hallow : breakerAllows now n wire v = (some true, v) := by
    rw [breakerAllows_apply, CircuitBreaker.canExecute_of_closed hc, SourceMemory.setBreaker_self]
  rw [fetch, Lookup.bind_of_some hallow]
  show (attempts s url 0 (s.retry.maxAttempts - 1) >>= _) wire v = _
  rw [Lookup.bind_of_some (hx v.kept)]
  rcases x with e | ⟨status, body | reason⟩
  · rfl
  · rfl
  · rw [heard, SourceMemory.hear_nil]; rfl

/-! ## Rounds -/

/-- The round that an answer tells. -/
def roundIn? : Answer (Nat × String) → Option Nat
  | .ok (status, body) =>
    if isSuccess status then
      match parseUptime body with
      | .ok u => u.lastRound
      | .error _ => none
    else none
  | .error _ => none

/-- The tries for a reference validator, whatever the breaker says. -/
def tryIndex (s : HuginnSettings) (n : Network) (index : Nat) :
    SourceLookup (Except SourceError (Nat × Body)) :=
  attempts s (uptimeUrl s n s!"{index}") 0 (s.retry.maxAttempts - 1)

/-- What a breaker hears of lookups of reference validators if it lets all of
them through. -/
def newsOf (s : HuginnSettings) (n : Network) : List Nat → SourceLookup (List Bool)
  | [] => return []
  | index :: rest => do
    let x ← tryIndex s n index
    return heard x ++ (← newsOf s n rest)

/-- The validator that gmonads names, if it is used and names one. -/
def namedIndex? (s : HuginnSettings) (now : Instant) (n : Network) : SourceLookup (Option Nat) :=
  match s.gmonads with
  | none => return none
  | some g => Gmonads.referenceIndex? g now n

/-- The round that is asked for when none is kept. -/
def askedRound? (s : HuginnSettings) (now : Instant) (n : Network) : SourceLookup (Option Nat) := do
  match ← namedRound? s now n with
  | some round => return some round
  | none => latestRound? s now n referenceIndices none

/-- What a breaker hears of such a round if it lets everything through: of the
validator that gmonads names, and of the fixed ones unless that one tells a
round. -/
def askedNews (s : HuginnSettings) (now : Instant) (n : Network) : SourceLookup (List Bool) := do
  match ← namedIndex? s now n with
  | none => newsOf s n referenceIndices
  | some index => do
    let x ← tryIndex s n index
    if (roundIn? (page x)).isSome then return heard x
    else return heard x ++ (← newsOf s n referenceIndices)

/-- The same of any round: nothing while the kept one is young. -/
def roundNews (s : HuginnSettings) (now : Instant) (n : Network) : SourceLookup (List Bool) := do
  match ((← Lookup.kept).huginn.rounds.get n).filter fun k => now - k.2 < roundLifetime with
  | some _ => return []
  | none => askedNews s now n

theorem networkRound?_eq : networkRound? s now n = Lookup.kept >>= fun m =>
    match (m.huginn.rounds.get n).filter fun k => now - k.2 < roundLifetime with
    | some k => pure (some k.1)
    | none => askedRound? s now n >>= fun round =>
      match round with
      | some round => do
        Lookup.keep (SourceMemory.keepRound n round now)
        return some round
      | none => return (m.huginn.rounds.get n).map Prod.fst := by
  funext wire v
  rw [networkRound?, Lookup.kept_bind, Lookup.kept_bind]
  cases (v.kept.huginn.rounds.get n).filter fun k => now - k.2 < roundLifetime with
  | some k => rfl
  | none =>
    simp only [askedRound?, Lookup.bind_apply]
    rcases namedRound? s now n wire v with ⟨_ | _ | round, w⟩ <;> rfl

theorem roundOf?_of_fetch {index : Nat} {p : Answer (Nat × String)}
    (h : fetch s now n (uptimeUrl s n s!"{index}") wire v = (some p, w)) :
    roundOf? s now n index wire v = (some (roundIn? p), w) := by
  rw [roundOf?, Lookup.bind_of_some h]
  rcases p with e | ⟨status, body⟩
  · rfl
  · simp only [roundIn?]
    split
    · cases parseUptime body <;> rfl
    · rfl

theorem newsOf_of_unlimited (s : HuginnSettings) (n : Network) (wire : Wire) (h : v.left = none)
    (indices : List Nat) : ∃ news sent, ∀ m,
    newsOf s n indices wire { v with kept := m } = (some news, { v with kept := m, sent := sent }) := by
  induction indices generalizing v with
  | nil => exact ⟨[], v.sent, fun m => rfl⟩
  | cons index rest ih =>
    obtain ⟨x, sent, hx⟩ := attempts_of_unlimited s (uptimeUrl s n s!"{index}") wire h 0
      (s.retry.maxAttempts - 1)
    obtain ⟨news, sent', hnews⟩ := ih (v := { v with sent := sent }) h
    refine ⟨heard x ++ news, sent', fun m => ?_⟩
    rw [newsOf, tryIndex, Lookup.bind_of_some (hx m), Lookup.bind_of_some (hnews m)]
    rfl

/-- While the breaker stays closed, it does not change what the fixed
reference validators are asked. -/
theorem latestRound?_of_news (now : Instant) (h : v.left = none) {indices : List Nat} {news : List Bool}
    {sent : List Request}
    (hnews : ∀ m, newsOf s n indices wire { v with kept := m } = (some news, { v with kept := m, sent := sent }))
    (hc : ∀ pre, pre <+: news → ((v.kept.hear now n pre).huginn.breakers.get n).state = .closed)
    (best : Option Nat) : ∃ round, latestRound? s now n indices best wire v =
      (some round, { v with sent := sent, kept := v.kept.hear now n news }) := by
  induction indices generalizing v news best with
  | nil =>
    obtain ⟨rfl, rfl⟩ : [] = news ∧ v.sent = sent := by
      have h := hnews v.kept
      rw [newsOf] at h
      cases h
      exact ⟨rfl, rfl⟩
    rw [SourceMemory.hear_nil]
    exact ⟨best, rfl⟩
  | cons index rest ih =>
    obtain ⟨x, sent', hx⟩ := attempts_of_unlimited s (uptimeUrl s n s!"{index}") wire h 0
      (s.retry.maxAttempts - 1)
    obtain ⟨more, sent'', hmore⟩ := newsOf_of_unlimited s n wire
      (v := { v with sent := sent' }) h rest
    have heq : heard x ++ more = news ∧ sent'' = sent := by
      have h := hnews v.kept
      rw [newsOf, tryIndex, Lookup.bind_of_some (hx v.kept), Lookup.bind_of_some (hmore v.kept)] at h
      cases h
      exact ⟨rfl, rfl⟩
    obtain ⟨rfl, rfl⟩ := heq
    have hclosed : (v.kept.huginn.breakers.get n).state = .closed := by
      have h := hc [] List.nil_prefix
      rwa [SourceMemory.hear_nil] at h
    have hround := roundOf?_of_fetch (fetch_of_closed now hclosed hx)
    have hrest := ih (v := { v with sent := sent', kept := v.kept.hear now n (heard x) }) h hmore
      (fun pre hpre => by
        rw [SourceMemory.hear_hear]
        exact hc _ (List.prefix_append_right_inj _ |>.2 hpre))
    rw [latestRound?, Lookup.bind_of_some hround]
    cases roundIn? (page x) with
    | none =>
      obtain ⟨round, hr⟩ := hrest best
      rw [SourceMemory.hear_hear] at hr
      exact ⟨round, hr⟩
    | some r =>
      obtain ⟨round, hr⟩ := hrest (some (max r (best.getD 0)))
      rw [SourceMemory.hear_hear] at hr
      exact ⟨round, hr⟩

/-- huginn's memory has no part in what gmonads names. -/
theorem namedIndex?_leaves (s : HuginnSettings) (now : Instant) (n : Network) :
    Lookup.Leaves (fun m => (m.huginn, m.gmonads.health)) (namedIndex? s now n) := by
  unfold namedIndex?
  cases s.gmonads with
  | none => exact .pure _
  | some g => exact Gmonads.referenceIndex?_leaves

theorem newsOf_leaves (s : HuginnSettings) (n : Network) (indices : List Nat) :
    Lookup.Leaves id (newsOf s n indices) := by
  induction indices with
  | nil => exact .pure _
  | cons index rest ih => exact (attempts_leaves _ _ _ _).bind fun x => ih.bind fun _ => .pure _

theorem askedNews_leaves (s : HuginnSettings) (now : Instant) (n : Network) :
    Lookup.Leaves SourceMemory.huginn (askedNews s now n) :=
  ((namedIndex?_leaves s now n).of_part Prod.fst).bind fun index => by
    have hfixed := (newsOf_leaves s n referenceIndices).of_part SourceMemory.huginn
    cases index with
    | none => exact hfixed
    | some index =>
      refine ((attempts_leaves _ _ _ _).of_part SourceMemory.huginn).bind fun x => ?_
      split
      · exact .pure _
      · exact hfixed.bind fun _ => .pure _

theorem namedRound?_eq : namedRound? s now n = namedIndex? s now n >>= fun index =>
    match index with
    | none => pure none
    | some index => roundOf? s now n index := by
  rw [namedRound?, namedIndex?]
  cases s.gmonads <;> rfl

/-- Five lookups of reference validators in a row would fail, each on all of
its tries, if the breaker let all of them through. -/
def FiveLookupsFail (s : HuginnSettings) (now : Instant) (n : Network) (wire : Wire)
    (v : Visit SourceMemory) : Prop :=
  ∃ news, (roundNews s now n wire v).1 = some news ∧ List.replicate 5 false <:+: news

/-- The breaker stays closed over all of the news if no five failures in a row
are among them. -/
theorem closed_after_few {m : SourceMemory} (h : (m.huginn.breakers.get n).Rested) {news : List Bool}
    (hfew : ¬ List.replicate 5 false <:+: news) {pre : List Bool} (hpre : pre <+: news) :
    ((m.hear now n pre).huginn.breakers.get n).state = .closed := by
  rw [SourceMemory.get_hear]
  exact (CircuitBreaker.hear_of_few h fun hfive => hfew (hfive.trans hpre.isInfix)).2.1

/-- While the breaker stays closed, it does not change what a round asks, and
hears of all of it. -/
theorem askedRound?_of_few (h : v.left = none) (hr : (v.kept.huginn.breakers.get n).Rested) {news : List Bool}
    (hnews : (askedNews s now n wire v).1 = some news) (hfew : ¬ List.replicate 5 false <:+: news) :
    ∃ (round : Option Nat) (m : SourceMemory) (sent : List Request),
      askedRound? s now n wire v = (some round, { v with kept := m.hear now n news, sent := sent }) ∧
        m.huginn = v.kept.huginn := by
  obtain ⟨index, u, hindex, hu, hhuginn⟩ := ((namedIndex?_leaves s now n).of_part Prod.fst).run
    wire h
  change u.kept.huginn = v.kept.huginn at hhuginn
  rw [← hhuginn] at hr
  have hleft : { v with kept := u.kept, sent := u.sent } = u := by rw [h, ← hu]
  rw [askedNews, Lookup.bind_of_some hindex] at hnews
  rw [askedRound?, namedRound?_eq]
  cases index with
  | none =>
    obtain ⟨all, sent, hall⟩ := newsOf_of_unlimited s n wire hu referenceIndices
    obtain rfl : all = news := Option.some.inj ((congrArg Prod.fst (hall u.kept)).symm.trans hnews)
    obtain ⟨round, hround⟩ := latestRound?_of_news now hu hall
      (fun pre hpre => closed_after_few hr hfew hpre) none
    refine ⟨round, u.kept, sent, ?_, hhuginn⟩
    rw [Lookup.bind_apply, Lookup.bind_of_some hindex]
    exact hround.trans (by rw [← hleft])
  | some index =>
    obtain ⟨x, sent, hx⟩ := attempts_of_unlimited s (uptimeUrl s n s!"{index}") wire hu 0
      (s.retry.maxAttempts - 1)
    have hnamed : tryIndex s n index wire u = (some x, { u with sent := sent }) := hx u.kept
    dsimp only at hnews
    rw [Lookup.bind_of_some hnamed] at hnews
    have hasked := roundOf?_of_fetch (fetch_of_closed now hr.closed hx)
    have hstart : (namedIndex? s now n >>= fun index =>
        match index with
        | none => pure none
        | some index => roundOf? s now n index) wire v =
          (some (roundIn? (page x)), { u with sent := sent, kept := u.kept.hear now n (heard x) }) :=
      (Lookup.bind_of_some hindex _).trans hasked
    rw [Lookup.bind_of_some hstart]
    cases hround : roundIn? (page x) with
    | some round =>
      rw [hround] at hnews
      obtain rfl : heard x = news := Option.some.inj hnews
      exact ⟨some round, u.kept, sent, by rw [h, ← hu]; rfl, hhuginn⟩
    | none =>
      obtain ⟨more, sent', hall⟩ := newsOf_of_unlimited s n wire
        (v := { u with sent := sent }) hu referenceIndices
      rw [hround] at hnews
      dsimp only [Option.isSome_none] at hnews
      rw [if_neg Bool.false_ne_true, Lookup.bind_of_some (hall u.kept)] at hnews
      obtain rfl : heard x ++ more = news := Option.some.inj hnews
      obtain ⟨round, hlatest⟩ := latestRound?_of_news now
        (v := { u with sent := sent, kept := u.kept.hear now n (heard x) }) hu hall
        (fun pre hpre => by
          rw [SourceMemory.hear_hear]
          exact closed_after_few hr hfew ((List.prefix_append_right_inj _).2 hpre)) none
      rw [SourceMemory.hear_hear] at hlatest
      exact ⟨round, u.kept, sent', hlatest.trans (by rw [h, ← hu]), hhuginn⟩

/-- Unless five lookups in a row fail, the round ends with the breaker closed
and the reports as they were. -/
theorem networkRound?_of_news (h : v.left = none) (hr : (v.kept.huginn.breakers.get n).Rested)
    (hfew : ¬ FiveLookupsFail s now n wire v) : ∃ round w,
    networkRound? s now n wire v = (some round, w) ∧ w.left = none ∧
      (w.kept.huginn.breakers.get n).state = .closed ∧ w.kept.huginn.reports = v.kept.huginn.reports := by
  unfold FiveLookupsFail at hfew
  rw [roundNews, Lookup.kept_bind] at hfew
  rw [networkRound?_eq, Lookup.kept_bind]
  cases hkept : (v.kept.huginn.rounds.get n).filter fun k => now - k.2 < roundLifetime with
  | some k => exact ⟨some k.1, v, rfl, h, hr.closed, rfl⟩
  | none =>
    simp only [hkept] at hfew ⊢
    obtain ⟨news, hnews⟩ := (askedNews_leaves s now n).ends wire v h
    have hclosed : ∀ m : SourceMemory, m.huginn = v.kept.huginn →
        ((m.hear now n news).huginn.breakers.get n).state = .closed := fun m hm =>
      closed_after_few (hm ▸ hr) (fun hfive => hfew ⟨news, hnews, hfive⟩) List.prefix_rfl
    obtain ⟨round, m, sent, hasked, hm⟩ := askedRound?_of_few h hr hnews fun hfive => hfew ⟨news, hnews, hfive⟩
    rw [Lookup.bind_of_some hasked]
    have hreports := congrArg HuginnMemory.reports hm
    cases round with
    | some round => exact ⟨some round, _, rfl, h, hclosed m hm, hreports⟩
    | none => exact ⟨_, _, rfl, h, hclosed m hm, hreports⟩

end Huginn

end ValidatorWatch
