import ValidatorWatch.Source.Memory
/-!
# How lookups run

A lookup is run against a wire, from a visit. These lemmas say what each of
its steps does, so that nothing later looks into the steps again. Most are
about lookups whose time is unlimited: those always end with a value.

`Leaves` says what a lookup leaves alone. It goes from the steps to the whole
along `bind`, whatever the other side does and whenever time runs out.
-/

namespace ValidatorWatch

open Http
open Time (Span)

namespace Http.Lookup

variable {σ α β : Type} {wire : Wire} {v w : Visit σ}

@[simp] theorem pure_apply (a : α) : (Pure.pure a : Lookup σ α) wire v = (some a, v) := rfl

@[simp] theorem kept_apply : (kept : Lookup σ σ) wire v = (some v.kept, v) := rfl

@[simp] theorem keep_apply (f : σ → σ) : keep f wire v = (some (), { v with kept := f v.kept }) := rfl

@[simp] theorem put_apply (r : Request) : (put r : Lookup σ Exchange) wire v =
    (some (wire r.endpoint (requestsTo r.endpoint v.sent)), { v with sent := v.sent ++ [r] }) := rfl

theorem bind_apply (x : Lookup σ α) (f : α → Lookup σ β) : (x >>= f) wire v =
    match x wire v with
    | (some a, w) => f a wire w
    | (none, w) => (none, w) := rfl

theorem bind_of_some {x : Lookup σ α} {a : α} (h : x wire v = (some a, w)) (f : α → Lookup σ β) :
    (x >>= f) wire v = f a wire w := by
  rw [bind_apply, h]

theorem bind_of_none {x : Lookup σ α} (h : x wire v = (none, w)) (f : α → Lookup σ β) :
    (x >>= f) wire v = (none, w) := by
  rw [bind_apply, h]

@[simp] theorem kept_bind (f : σ → Lookup σ β) : (kept >>= f) wire v = f v.kept wire v := rfl

@[simp] theorem keep_bind (g : σ → σ) (f : Unit → Lookup σ β) :
    (keep g >>= f) wire v = f () wire { v with kept := g v.kept } := rfl

theorem wait_of_unlimited (h : v.left = none) (d : Span) : wait d wire v = (some (), v) := by
  rw [wait, h]

theorem wait_bind_of_unlimited (h : v.left = none) (d : Span) (f : Unit → Lookup σ β) :
    (wait d >>= f) wire v = f () wire v :=
  bind_of_some (wait_of_unlimited h d) f

theorem within_apply (deadline : Span) (x : Lookup σ α) : within deadline x wire v =
    (some (x wire { v with left := some deadline }).1,
      { (x wire { v with left := some deadline }).2 with left := v.left }) := rfl

theorem map_apply (f : α → β) (x : Lookup σ α) : (f <$> x) wire v = ((x wire v).1.map f, (x wire v).2) := by
  show (x >>= fun a => Pure.pure (f a)) wire v = _
  rw [bind_apply]
  rcases x wire v with ⟨_ | a, w⟩ <;> rfl

/-- A wait takes time and nothing else. -/
theorem wait_spec (d : Span) (wire : Wire) (v : Visit σ) :
    ∃ ended left, wait d wire v = (ended, { v with left := left }) := by
  rcases v with ⟨m, sent, _ | left⟩
  · exact ⟨some (), none, rfl⟩
  · by_cases hd : d ≤ left
    · exact ⟨some (), _, if_pos hd⟩
    · exact ⟨none, _, if_neg hd⟩

/-- What a reply is, if there is all the time that the limit gives. -/
def Reply.ofExchange : Exchange → Reply
  | .answered status body => .answered status body
  | .refused reason => .refused reason
  | .silent => .timedOut

/-- A request is sent in any case. What becomes of it is told at once, except
that silence takes the whole limit. -/
theorem send_apply (limit : Span) (r : Request) : send limit r wire v =
    match wire r.endpoint (requestsTo r.endpoint v.sent) with
    | .silent => (wait limit >>= fun _ => Pure.pure .timedOut) wire { v with sent := v.sent ++ [r] }
    | x => (some (.ofExchange x), { v with sent := v.sent ++ [r] }) := by
  rw [send, bind_of_some (put_apply r)]
  cases wire r.endpoint (requestsTo r.endpoint v.sent) <;> rfl

/-- Of silence the only news is that there is none, if that comes in time. -/
theorem send_spec (limit : Span) (r : Request) (wire : Wire) (v : Visit σ) : ∃ reply left,
    send limit r wire v = (reply, { v with sent := v.sent ++ [r], left := left }) ∧
      match wire r.endpoint (requestsTo r.endpoint v.sent) with
      | .silent => reply = none ∨ reply = some .timedOut
      | x => reply = some (.ofExchange x) := by
  rw [send_apply]
  cases wire r.endpoint (requestsTo r.endpoint v.sent) with
  | answered status body => exact ⟨_, _, rfl, rfl⟩
  | refused reason => exact ⟨_, _, rfl, rfl⟩
  | silent =>
    obtain ⟨ended, left, hwait⟩ := wait_spec limit wire { v with sent := v.sent ++ [r] }
    simp only [bind_apply, hwait]
    cases ended with
    | none => exact ⟨none, left, rfl, .inl rfl⟩
    | some u => exact ⟨_, left, rfl, .inr rfl⟩

theorem send_of_unlimited (h : v.left = none) (limit : Span) (r : Request) :
    send limit r wire v =
      (some (.ofExchange (wire r.endpoint (requestsTo r.endpoint v.sent))),
        { v with sent := v.sent ++ [r] }) := by
  rw [send_apply]
  cases wire r.endpoint (requestsTo r.endpoint v.sent) with
  | answered status body => rfl
  | refused reason => rfl
  | silent =>
    exact wait_bind_of_unlimited (v := { v with sent := v.sent ++ [r] }) h limit _

/-! ## What lookups leave alone -/

/-- A lookup that leaves a part of what is kept alone. Like every lookup it only
adds requests, and it ends with a value if time is unlimited. -/
structure Leaves {τ : Type} (part : σ → τ) (x : Lookup σ α) : Prop where
  kept : ∀ wire v, part (x wire v).2.kept = part v.kept
  sent : ∀ wire v, v.sent <+: (x wire v).2.sent
  left : ∀ wire v, v.left = none → (x wire v).2.left = none
  ends : ∀ wire v, v.left = none → ∃ a, (x wire v).1 = some a

namespace Leaves

variable {τ υ : Type} {part : σ → τ} {x : Lookup σ α}

theorem pure (a : α) : Leaves part (Pure.pure a : Lookup σ α) where
  kept _ _ := rfl
  sent _ _ := List.prefix_rfl
  left _ _ h := h
  ends _ _ _ := ⟨a, rfl⟩

theorem memory : Leaves part (Lookup.kept : Lookup σ σ) where
  kept _ _ := rfl
  sent _ _ := List.prefix_rfl
  left _ _ h := h
  ends _ v _ := ⟨v.kept, rfl⟩

theorem keep {g : σ → σ} (hg : ∀ m, part (g m) = part m) : Leaves part (Lookup.keep g) where
  kept _ v := hg v.kept
  sent _ _ := List.prefix_rfl
  left _ _ h := h
  ends _ _ _ := ⟨(), rfl⟩

theorem put (r : Request) : Leaves part (Lookup.put r : Lookup σ Exchange) where
  kept _ _ := rfl
  sent _ _ := List.prefix_append _ _
  left _ _ h := h
  ends _ _ _ := ⟨_, rfl⟩

theorem wait (d : Span) : Leaves part (Lookup.wait d : Lookup σ Unit) where
  kept _ v := by
    unfold Lookup.wait
    cases v.left with
    | none => rfl
    | some left => dsimp only; split <;> rfl
  sent _ v := by
    unfold Lookup.wait
    cases v.left with
    | none => exact List.prefix_rfl
    | some left => dsimp only; split <;> exact List.prefix_rfl
  left _ v h := by rw [wait_of_unlimited h]; exact h
  ends _ v h := ⟨(), by rw [wait_of_unlimited h]⟩

theorem bind {f : α → Lookup σ β} (hx : Leaves part x) (hf : ∀ a, Leaves part (f a)) : Leaves part (x >>= f) where
  kept wire v := by
    have h := hx.kept wire v
    rw [bind_apply]
    revert h
    rcases x wire v with ⟨a | a, w⟩
    · exact id
    · exact ((hf a).kept wire w).trans
  sent wire v := by
    have h := hx.sent wire v
    rw [bind_apply]
    revert h
    rcases x wire v with ⟨a | a, w⟩
    · exact id
    · exact fun h => h.trans ((hf a).sent wire w)
  left wire v hv := by
    have h := hx.left wire v hv
    rw [bind_apply]
    revert h
    rcases x wire v with ⟨a | a, w⟩
    · exact id
    · exact (hf a).left wire w
  ends wire v hv := by
    obtain ⟨a, ha⟩ := hx.ends wire v hv
    have h := hx.left wire v hv
    rw [bind_of_some (Prod.ext ha rfl)]
    exact (hf a).ends wire _ h

/-- What the second lookup leaves alone is as after the first. -/
theorem kept_bind_eq {f : α → Lookup σ β} (hf : ∀ a, Leaves part (f a)) (wire : Wire) (v : Visit σ) :
    part ((x >>= f) wire v).2.kept = part (x wire v).2.kept := by
  rw [bind_apply]
  rcases x wire v with ⟨_ | a, w⟩
  · rfl
  · exact (hf a).kept wire w

/-- The second lookup only adds requests. -/
theorem sent_bind {f : α → Lookup σ β} (hf : ∀ a, Leaves part (f a)) (wire : Wire) (v : Visit σ) :
    (x wire v).2.sent <+: ((x >>= f) wire v).2.sent := by
  rw [bind_apply]
  rcases x wire v with ⟨_ | a, w⟩
  · exact List.prefix_rfl
  · exact (hf a).sent wire w

theorem send (limit : Span) (r : Request) : Leaves part (Lookup.send limit r : Lookup σ Reply) :=
  (put r).bind fun x =>
    match x with
    | .answered _ _ => pure _
    | .refused _ => pure _
    | .silent => (wait limit).bind fun _ => pure _

theorem within (deadline : Span) (hx : Leaves part x) : Leaves part (Lookup.within deadline x) where
  kept wire v := hx.kept wire { v with left := some deadline }
  sent wire v := hx.sent wire { v with left := some deadline }
  left _ _ h := h
  ends _ _ _ := ⟨_, rfl⟩

/-- What is left alone as a whole is left alone in its parts. -/
theorem of_part (g : τ → υ) (hx : Leaves part x) : Leaves (fun m => g (part m)) x where
  kept wire v := congrArg g (hx.kept wire v)
  sent := hx.sent
  left := hx.left
  ends := hx.ends

/-- A lookup comes to a value, if time is unlimited, and what it leaves alone is
as it was. -/
theorem run (hx : Leaves part x) (wire : Wire) {v : Visit σ} (hv : v.left = none) :
    ∃ a w, x wire v = (some a, w) ∧ w.left = none ∧ part w.kept = part v.kept := by
  obtain ⟨a, ha⟩ := hx.ends wire v hv
  exact ⟨a, _, Prod.ext ha rfl, hx.left wire v hv, hx.kept wire v⟩

end Leaves

/-! ## Exchanges -/

/-- What requests come to, if others were sent before them. -/
def exchangesOf (wire : Wire) (before : List Request) : List Request → List (Request × Exchange)
  | [] => []
  | r :: rest => (r, wire r.endpoint (requestsTo r.endpoint before)) :: exchangesOf wire (before ++ [r]) rest

theorem exchangesOf_append (before first rest : List Request) :
    exchangesOf wire before (first ++ rest) =
      exchangesOf wire before first ++ exchangesOf wire (before ++ first) rest := by
  induction first generalizing before with
  | nil => rw [List.append_nil]; rfl
  | cons r first ih => rw [List.cons_append, exchangesOf, exchangesOf, ih, List.append_assoc]; rfl

/-- The requests that a lookup sends, and what they come to. -/
def exchanges (x : Lookup σ α) (wire : Wire) (v : Visit σ) : List (Request × Exchange) :=
  exchangesOf wire v.sent ((x wire v).2.sent.drop v.sent.length)

theorem exchanges_eq {x : Lookup σ α} (more : List Request) (h : (x wire v).2.sent = v.sent ++ more) :
    x.exchanges wire v = exchangesOf wire v.sent more := by
  rw [exchanges, h, List.drop_left]

theorem exchanges_bind_of_none {x : Lookup σ α} (h : x wire v = (none, w)) (f : α → Lookup σ β) :
    (x >>= f).exchanges wire v = x.exchanges wire v := by
  rw [exchanges, exchanges, bind_of_none h, h]

theorem exchanges_bind_of_some {x : Lookup σ α} {f : α → Lookup σ β} {a : α} (h : x wire v = (some a, w))
    (hx : v.sent <+: w.sent) (hf : w.sent <+: (f a wire w).2.sent) :
    (x >>= f).exchanges wire v = x.exchanges wire v ++ (f a).exchanges wire w := by
  obtain ⟨first, hfirst⟩ := hx
  obtain ⟨rest, hrest⟩ := hf
  have hboth : ((x >>= f) wire v).2.sent = v.sent ++ (first ++ rest) := by
    rw [bind_of_some h, ← hrest, ← hfirst, List.append_assoc]
  rw [exchanges_eq _ hboth, exchanges_eq first (by rw [h, hfirst]), exchanges_eq _ hrest.symm,
    exchangesOf_append, hfirst]

end Http.Lookup

end ValidatorWatch
