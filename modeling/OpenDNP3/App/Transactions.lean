import OpenDNP3.App.Pieces

/-!
# Every transaction ends once

A send that a channel has accepted is a transaction of the channel, which goes on until the user is
told that it has succeeded, has failed or has been answered.  The transactions are counted here
along the runs of `AppLayer.move`, in which the lower layer and the user may call the layer back
from inside every call to them.

* `AppLayer.Transactions` and `AppLayer.Transactions.step` — the layer with the calls that are under
  way, and for each channel a `Tally` of what became of its transactions.
* `AppLayer.Transactions.ends_once` — a transaction is over or under way, never both, a channel
  without a transaction is idle, and no check of the layer itself fails, in every run in which no
  channel repeats a fragment before it has one.
* `AppLayer.Transactions.repeats_current` — a channel repeats the fragment of the transaction that
  is under way, in every run in which the call of `Send` that has started this transaction is the
  last one that has returned when the channel does so.
-/

set_option autoImplicit false

namespace OpenDNP3

open Handler

namespace AppLayer

variable {ω : Type}

/-! ## The machine

A tally counts for each channel what it was given, what it has reported as ended and what was
dropped with the link. The layer does not look at it. -/

/-- What became of the transactions of a channel. -/
structure Tally (ω : Type) where
  /-- The sends that it has accepted. -/
  accepted : ℕ := 0
  /-- The calls of the user that end a transaction. -/
  ended : ℕ := 0
  /-- The transactions during which the link went down. -/
  dropped : ℕ := 0
  /-- The number of the accepted send whose call of `Send` was the last to return. -/
  returned : ℕ := 0
  /-- The fragment of the last send that was accepted, and its retries. -/
  current : Option (OutAPDU ω) := none
  configured : ℕ := 0
  retried : ℕ := 0
  /-- The last fragment of the channel that the lower layer has reported as sent. -/
  transmitted : Option (OutAPDU ω) := none

/-- The layer with the calls that are under way, each `Send` with its number, and its tallies.  An
exception that is not for the user is an internal failure. -/
structure Transactions (ω : Type) where
  app : AppLayer ω
  acts : List (Act ω × ℕ)
  tally : Bool → Tally ω
  internal : Bool
  unwound : Bool

/-- The fragment that the call has handed to the channel. -/
def takenOn (v : Bool) (acts : List (Act ω)) : Option (OutAPDU ω) :=
  acts.findSome? fun act ↦ act.sends.bind fun p ↦ if p.1 = v then some p.2 else none

/-- The rest of the call needs the received fragment, of which the layer has only one. -/
def Act.reads : Act ω → Bool
  | .channelOnResponse _ | .onUnsol _ => true
  | _ => false

variable {a b t : AppLayer ω} {u v : Bool} {f : OutAPDU ω} {op : Op ω} {acts : List (Act ω)}
  {call : Option UserCall} {act : Act ω}

/-! ## One piece and the transactions -/

/-- The transactions of the channel that are under way. -/
def busy (a : AppLayer ω) (v : Bool) : ℕ := if (a.channel v).mpState = .idle then 0 else 1

theorem busy_of_idle (h : (a.channel v).mpState = .idle) : a.busy v = 0 := if_pos h

theorem busy_of_ne_idle (h : (a.channel v).mpState ≠ .idle) : a.busy v = 1 := if_neg h

theorem busy_congr (h : (t.channel v).mpState = (a.channel v).mpState) : t.busy v = a.busy v := by
  rw [busy, busy, h]

theorem busy_setChannel (c : AppLayerChannel ω) :
    (a.setChannel u c).busy v = if v = u then if c.mpState = .idle then 0 else 1 else a.busy v := by
  rw [busy, channel_setChannel]
  split
  · rfl
  · rfl

theorem takenOn_of_sends_none (h : ∀ act ∈ acts, act.sends = none) : takenOn v acts = none := by
  rw [takenOn, List.findSome?_eq_none_iff]
  intro act hact
  rw [h act hact]
  rfl

theorem takenOn_setSendAPDU :
    takenOn v [.setSendAPDU u f] = if v = u then some f else none := by
  rw [takenOn, List.findSome?_cons]
  by_cases hv : v = u
  · simp [Act.sends, hv]
  · simp [Act.sends, hv, Ne.symm hv]

/-- The channel ends what it was busy with, or stays busy. -/
theorem Goes.busy (h : Goes b u call t) (hb : (b.channel u).mpState ≠ .idle) (v : Bool) :
    t.busy v + (if call.bind UserCall.ends = some v then 1 else 0) = b.busy v := by
  cases h with
  | ends call hc =>
    rw [busy_setChannel, Option.bind_some, hc]
    by_cases hv : v = u
    · rw [if_pos hv, if_pos rfl, if_pos (hv ▸ rfl), hv, busy_of_ne_idle hb]
    · rw [if_neg hv, if_neg fun h ↦ hv (Option.some.inj h).symm]
      rfl
  | waits s hs =>
    rw [busy_setChannel]
    have hne : s ≠ .idle := by rcases hs with ⟨rfl, _⟩ | ⟨rfl, _⟩ <;> decide
    by_cases hv : v = u
    · rw [if_pos hv, if_neg hne, hv, busy_of_ne_idle hb]
      rfl
    · rw [if_neg hv]
      rfl
  | proceeds r hu =>
    rw [busy_setChannel]
    by_cases hv : v = u
    · rw [if_pos hv, if_neg (by simp), hv, busy_of_ne_idle hb]
      rfl
    · rw [if_neg hv]
      rfl

theorem busy_retried {s : ACS} (hs : s ≠ .idle) (hb : (b.channel u).mpState ≠ .idle) :
    (retried b u s f).busy v = b.busy v := by
  change (b.setChannel u _).busy v = b.busy v
  rw [busy_setChannel]
  by_cases hv : v = u
  · rw [if_pos hv, if_neg hs, hv, busy_of_ne_idle hb]
  · rw [if_neg hv]

theorem busy_stopTimer : (a.stopTimer u).busy v = a.busy v := by
  rw [stopTimer, busy_setChannel]
  split
  · next hv => rw [hv, busy]
  · rfl

theorem state_stopTimer : ((a.stopTimer u).channel u).mpState = (a.channel u).mpState := by
  rw [stopTimer, channel_setChannel_self]

/-- **What a call changes in the number of transactions under way.** -/
theorem Does.busy (h : Does a op acts call t) (ha : Steady a) (v : Bool) :
    t.busy v + (if call.bind UserCall.ends = some v then 1 else 0) +
        (if op.isDown = true ∧ (a.channel v).mpState ≠ .idle then 1 else 0) =
      a.busy v + if (takenOn v acts).isSome then 1 else 0 := by
  have hup {op : Op ω} (hdown : op.isDown = false) :
      (if op.isDown = true ∧ (a.channel v).mpState ≠ .idle then 1 else 0) = 0 :=
    if_neg fun h ↦ Bool.false_ne_true (hdown.symm.trans h.1)
  cases h with
  | same hdown _ _ hs hacts hcall =>
    rw [hup hdown, takenOn_of_sends_none hacts, hcall, busy_congr (hs.state v)]
    rfl
  | confirms u n hdown _ _ _ hacts =>
    rw [hup hdown, takenOn_of_sends_none hacts]
    rfl
  | confirmed s f q hq hf => rfl
  | sent s f q u hq hf _ _ hgoes =>
    have hsend := (ha.freed_dequeue hq hf).1
    rw [hup rfl]
    exact hgoes.busy (ACS.ne_idle_of_isSending hsend) v
  | failed f g q u s hq hf _ _ hs =>
    have hne : ((a.popped q).channel u).mpState ≠ .idle :=
      ACS.ne_idle_of_isSending (ha.freed_dequeue hq hf).1
    rw [hup rfl, busy_retried (hs ▸ hne) hne]
    rfl
  | stopped u hdown _ _ hw hgoes =>
    have hne : ((a.stopTimer u).channel u).mpState ≠ .idle := by
      rw [state_stopTimer]
      exact ACS.ne_idle_of_isWaiting hw
    have hbusy := hgoes.busy hne v
    rw [busy_stopTimer] at hbusy
    rw [hup hdown]
    exact hbusy
  | expired g u s hw _ _ hs =>
    rw [hup rfl, busy_retried (ACS.ne_idle_of_isSending hs.1) (by
      rw [state_stopTimer]
      exact ACS.ne_idle_of_isWaiting hw), busy_stopTimer]
    rfl
  | cancels u hdown _ _ hs =>
    rw [hup hdown, busy_setChannel]
    by_cases hv : v = u
    · rw [if_pos hv, if_neg (by simp), hv, busy_of_ne_idle (ACS.ne_idle_of_isSending hs)]
      rfl
    · rw [if_neg hv]
      rfl
  | sends u f s func seq hdown _ _ hi _ _ hs _ =>
    rw [hup hdown, takenOn_setSendAPDU]
    change (a.setChannel u _).busy v + 0 + 0 = _
    rw [busy_setChannel]
    by_cases hv : v = u
    · rw [if_pos hv, if_pos hv, if_neg (ACS.ne_idle_of_isSending hs), hv, busy_of_idle hi]
      rfl
    · rw [if_neg hv, if_neg hv]
      rfl
  | down hdown =>
    have hidle : (a.downed.channel v).mpState = .idle := by
      rw [channel_downed]
      rfl
    rw [busy_of_idle hidle]
    by_cases hi : (a.channel v).mpState = .idle
    · simp [hi, busy_of_idle hi, UserCall.ends, takenOn]
    · simp [hdown, hi, busy_of_ne_idle hi, UserCall.ends, takenOn]

theorem Resumes.busy (h : Resumes a act call t) (v : Bool) :
    t.busy v + (if call.bind UserCall.ends = some v then 1 else 0) = a.busy v := by
  cases h with
  | checkForSend => rfl
  | same _ _ hs hcall =>
    rw [hcall, busy_congr (hs.state v)]
    rfl
  | stopped r hw hgoes =>
    have hne : ((a.stopTimer false).channel false).mpState ≠ .idle := by
      rw [state_stopTimer]
      exact ACS.ne_idle_of_isWaiting hw
    rw [hgoes.busy hne v, busy_stopTimer]
  | sent u f =>
    rw [busy_setChannel]
    by_cases hv : v = u
    · rw [if_pos hv, hv]
      rfl
    · rw [if_neg hv]
      rfl

theorem Resumes.steady (h : Resumes a act call t) (ha : Steady a)
    (hact : ∀ u f, act = .setSendAPDU u f → isFor u f = true) : Steady t := by
  cases h with
  | checkForSend =>
    refine ⟨ha.timer, ha.apdu, ha.queued, ha.queue, ha.confirms, fun hs ↦ ?_⟩
    have hs' : (a.mSending || !a.mSendQueue.isEmpty) = true := hs
    rcases Bool.or_eq_true _ _ |>.mp hs' with h | h
    · exact ha.sending h
    · simpa using h
  | same _ _ hs _ => exact hs.steady ha
  | stopped r hw hgoes => exact hgoes.steady (ha.freed_stopTimer hw)
  | sent u f =>
    refine ⟨fun v ↦ ?_, fun v g hg ↦ ?_, fun v ↦ ?_, by simpa using ha.queue,
      by simpa using ha.confirms, by simpa using ha.sending⟩
    · rw [channel_setChannel]
      split
      · next hv => exact hv ▸ ha.timer v
      · exact ha.timer v
    · rw [channel_setChannel] at hg
      split at hg
      · next hv =>
        rw [hv, ← Option.some.inj hg]
        exact hact u f rfl
      · exact ha.apdu v g hg
    · rw [setChannel_mSendQueue, ha.queued]
      by_cases hv : v = u
      · rw [hv, channel_setChannel_self]
      · rw [channel_setChannel, if_neg hv]

namespace Transactions

/-- Nothing has happened yet. -/
def new (isMaster : Bool) (aFragSize aNumRetry : ℕ) : Transactions ω where
  app := .new isMaster aFragSize aNumRetry
  acts := []
  tally _ := {}
  internal := false
  unwound := false

/-- The layer and the calls that are under way. -/
def activity (c : Transactions ω) : Activity ω := ⟨c.app, c.acts.map Prod.fst⟩

/-- What may come in: no fragment does while another is being handled. -/
def possible (c : Transactions ω) (op : Op ω) : Bool :=
  c.app.allowed op && match op with
    | .event (.receive _) => c.acts.all fun p ↦ !p.1.reads
    | _ => true

/-- A call has come in, and has got to its call to the outside. -/
def entered (c : Transactions ω) (op : Op ω) (acts : List (Act ω)) (call : Option UserCall)
    (t : AppLayer ω) : Transactions ω :=
  { c with
    app := t
    acts := acts.map (fun act ↦ (act, act.sends.elim 0 fun p ↦ (c.tally p.1).accepted + 1)) ++
      c.acts
    tally := fun v ↦
      { accepted := (c.tally v).accepted + if (takenOn v acts).isSome then 1 else 0
        ended := (c.tally v).ended + if call.bind UserCall.ends = some v then 1 else 0
        dropped := (c.tally v).dropped +
          if op.isDown = true ∧ (c.app.channel v).mpState ≠ .idle then 1 else 0
        returned := (c.tally v).returned
        current := (takenOn v acts).or (c.tally v).current
        configured := match takenOn v acts with
          | some f => f.function.elim 0 c.app.getRetries
          | none => (c.tally v).configured
        retried := match takenOn v acts with
          | some _ => 0
          | none => (c.tally v).retried + if c.app.retriesAt op = some v then 1 else 0
        transmitted := ((c.app.sentAt op).filter (isFor v)).or (c.tally v).transmitted } }

/-- The call to the outside on top has returned, and the rest of the call has run. -/
def resumed (c : Transactions ω) (act : Act ω) (n : ℕ) (acts : List (Act ω × ℕ))
    (call : Option UserCall) (t : AppLayer ω) : Transactions ω :=
  { c with
    app := t
    acts := acts
    tally := fun v ↦
      { c.tally v with
        ended := (c.tally v).ended + if call.bind UserCall.ends = some v then 1 else 0
        returned := if act.sends.map Prod.fst = some v then n else (c.tally v).returned } }

/-- **One move**, which the tallies follow. -/
def step (c : Transactions ω) : Move ω → Option (Transactions ω)
  | .enter op =>
    if c.possible op then
      match enter op c.app with
      | .ok (acts, call) t => some (c.entered op acts call t)
      | .error e t => some { c with app := t, internal := c.internal || isInternal e }
    else none
  | .resume =>
    match c.acts with
    | [] => none
    | (act, n) :: acts =>
      match act.call c.app with
      | .ok call t => some (c.resumed act n acts call t)
      | .error e t => some { c with app := t, acts := acts, internal := c.internal || isInternal e }
  | .unwind =>
    match c.acts with
    | [] => none
    | _ :: acts => some { c with acts := acts, unwound := true }

variable {c d : Transactions ω}

/-- **The tallies only watch.** -/
theorem move_of_step {m : Move ω} (h : c.step m = some d) :
    move c.activity m = some d.activity := by
  cases m with
  | enter op =>
    have hfst := congrFun (fst_enter op) c.app
    change EStateM.map Prod.fst (enter op) c.app = _ at hfst
    rw [EStateM.map] at hfst
    rw [step] at h
    split at h
    · rw [move, activity]
      split at h
      · next acts call t heq =>
        rw [heq] at hfst
        rw [← hfst, ← Option.some.inj h]
        simp [activity, entered, Function.comp_def]
      · next e t heq =>
        rw [heq] at hfst
        rw [← hfst, ← Option.some.inj h]
        rfl
    · contradiction
  | resume =>
    rw [step] at h
    split at h
    · contradiction
    · next act n acts heq =>
      have hperform : (exec act.perform c.app).1 = (exec act.call c.app).1 := by
        rw [perform_eq_call]
        change (exec (EStateM.bind act.call fun _ ↦ EStateM.pure ()) c.app).1 = _
        rw [exec, exec, EStateM.bind]
        cases act.call c.app with
        | ok call t => rfl
        | error e t => rfl
      rw [move, activity, heq]
      change some (⟨(exec act.perform c.app).1, acts.map Prod.fst⟩ : Activity ω) = _
      rw [hperform, exec]
      split at h
      · next call t hcall =>
        rw [hcall, ← Option.some.inj h]
        rfl
      · next e t hcall =>
        rw [hcall, ← Option.some.inj h]
        rfl
  | unwind =>
    rw [step] at h
    split at h
    · contradiction
    · next p acts heq =>
      rw [move, activity, heq, ← Option.some.inj h]
      rfl

/-! ## Every transaction ends once

A channel is busy exactly if its tally has one transaction more that was accepted than that were
ended or dropped. -/

/-- **What holds in every reachable state** of the layer, its calls and its tallies. -/
structure Sound (c : Transactions ω) : Prop where
  steady : Steady c.app
  acts : ∀ p ∈ c.acts, ∀ u f, p.1 = .setSendAPDU u f → isFor u f = true
  counts : ∀ v, (c.tally v).accepted = (c.tally v).ended + (c.tally v).dropped + c.app.busy v
  internal : c.internal = false
  sends : c.unwound = false → c.app.mSendQueue ≠ [] →
    c.app.mSending = true ∨ ∃ p ∈ c.acts, p.1 = .checkForSend

theorem sound_new (isMaster : Bool) (aFragSize aNumRetry : ℕ) :
    (new isMaster aFragSize aNumRetry : Transactions ω).Sound where
  steady := steady_new isMaster aFragSize aNumRetry
  acts p hp := absurd hp List.not_mem_nil
  counts v := by cases v <;> rfl
  internal := rfl
  sends _ hq := absurd rfl hq

/-- A channel that repeats its fragment has one: a call of its `Send` has returned. -/
def HasFragment (c : Transactions ω) : Move ω → Prop
  | .enter op => ∀ u, c.app.retriesAt op = some u → (c.app.channel u).mpSendAPDU ≠ none
  | _ => True

/-- What is in the queue is with the lower layer, or goes there when the call is over. -/
theorem sends_of_does (h : Does c.app op acts call t)
    (hc : c.app.mSendQueue ≠ [] → c.app.mSending = true ∨ ∃ p ∈ c.acts, p.1 = .checkForSend)
    (hq : t.mSendQueue ≠ []) :
    t.mSending = true ∨ (∃ p ∈ c.acts, p.1 = .checkForSend) ∨ .checkForSend ∈ acts := by
  have hset {u : Bool} {d : AppLayerChannel ω} (hq : (c.app.setChannel u d).mSendQueue ≠ []) :
      (c.app.setChannel u d).mSending = true ∨ (∃ p ∈ c.acts, p.1 = .checkForSend) ∨
        .checkForSend ∈ acts := by
    rw [setChannel_mSendQueue] at hq
    rw [setChannel_mSending]
    exact (hc hq).imp_right .inl
  cases h with
  | same _ _ _ hs _ _ =>
    rw [hs.queue] at hq
    rcases hc hq with h | h
    · exact .inl (hs.sending h)
    · exact .inr (.inl h)
  | confirms => exact .inl rfl
  | confirmed => exact .inr (.inr (List.mem_singleton_self _))
  | sent => exact .inr (.inr (List.mem_singleton_self _))
  | failed => exact .inl rfl
  | stopped u _ _ _ _ hgoes =>
    cases hgoes with
    | ends call hc =>
      rw [stopTimer, channel_setChannel_self, setChannel_setChannel] at hq ⊢
      exact hset hq
    | waits s hs =>
      rw [stopTimer, channel_setChannel_self, setChannel_setChannel] at hq ⊢
      exact hset hq
    | proceeds r hu =>
      rw [stopTimer, channel_setChannel_self, setChannel_setChannel] at hq ⊢
      exact hset hq
  | expired => exact .inl rfl
  | cancels => exact hset hq
  | sends => exact .inl rfl
  | down => exact absurd rfl hq

theorem mSending_goes_stopTimer (h : Goes (a.stopTimer u) u call t) :
    t.mSending = a.mSending ∧ t.mSendQueue = a.mSendQueue := by
  cases h with
  | ends call hc => simp [stopTimer]
  | waits s hs => simp [stopTimer]
  | proceeds r hu => simp [stopTimer]

theorem sends_of_resumes {acts : List (Act ω × ℕ)} {n : ℕ} (h : Resumes a act call t)
    (hc : a.mSendQueue ≠ [] → a.mSending = true ∨ ∃ p ∈ (act, n) :: acts, p.1 = .checkForSend)
    (hq : t.mSendQueue ≠ []) : t.mSending = true ∨ ∃ p ∈ acts, p.1 = .checkForSend := by
  -- a call that is still to come, unless it is the one that has just run
  have hother (hact : act ≠ .checkForSend) (hq : a.mSendQueue ≠ []) :
      a.mSending = true ∨ ∃ p ∈ acts, p.1 = .checkForSend := by
    rcases hc hq with h | ⟨p, hp, hcheck⟩
    · exact .inl h
    · rcases List.mem_cons.mp hp with rfl | hp
      · exact absurd hcheck hact
      · exact .inr ⟨p, hp, hcheck⟩
  cases h with
  | checkForSend =>
    refine .inl ?_
    change (a.mSending || !a.mSendQueue.isEmpty) = true
    have hq' : a.mSendQueue ≠ [] := hq
    simp [hq']
  | same _ hcheck hs _ =>
    rw [hs.queue] at hq
    exact (hother hcheck hq).imp_left hs.sending
  | stopped r hw hgoes =>
    obtain ⟨hsend, hqueue⟩ := mSending_goes_stopTimer hgoes
    rw [hqueue] at hq
    rw [hsend]
    exact hother (by simp) hq
  | sent u f =>
    rw [setChannel_mSendQueue] at hq
    rw [setChannel_mSending]
    exact hother (by simp) hq

theorem isFor_of_does (h : Does a op acts call t) :
    ∀ act ∈ acts, ∀ u f, act = .setSendAPDU u f → isFor u f = true := by
  have hnone {act : Act ω} (hact : act.sends = none) (u : Bool) (f : OutAPDU ω)
      (he : act = .setSendAPDU u f) : isFor u f = true := by
    rw [he] at hact
    exact absurd hact (Option.some_ne_none _)
  intro act hact
  cases h with
  | same _ _ _ _ hacts _ => exact hnone (hacts act hact)
  | confirms u n _ _ _ _ hacts => exact hnone (hacts act hact)
  | confirmed | sent | failed =>
    rw [List.mem_singleton.mp hact]
    exact hnone rfl
  | stopped | expired | cancels | down => exact absurd hact List.not_mem_nil
  | sends u f s func seq _ _ _ _ hf =>
    rw [List.mem_singleton.mp hact]
    intro v g he
    obtain ⟨rfl, rfl⟩ := Act.setSendAPDU.inj he
    exact hf

/-- A call that comes in keeps what holds. -/
theorem Sound.entered (hc : c.Sound) (h : Does c.app op acts call t) :
    (c.entered op acts call t).Sound where
  steady := h.steady hc.steady
  acts p hp := by
    rcases List.mem_append.mp hp with hp | hp
    · obtain ⟨act, hact, rfl⟩ := List.mem_map.mp hp
      exact isFor_of_does h act hact
    · exact hc.acts p hp
  counts v := by
    have hbusy := h.busy hc.steady v
    have hcount := hc.counts v
    simp only [Transactions.entered]
    omega
  internal := hc.internal
  sends hu hq := by
    rcases sends_of_does h (hc.sends hu) hq with h | ⟨p, hp, hcheck⟩ | h
    · exact .inl h
    · exact .inr ⟨p, List.mem_append_right _ hp, hcheck⟩
    · exact .inr ⟨_, List.mem_append_left _ (List.mem_map_of_mem h), rfl⟩

/-- The rest of a call keeps what holds. -/
theorem Sound.resumed {n : ℕ} {rest : List (Act ω × ℕ)} (hc : c.Sound)
    (hacts : c.acts = (act, n) :: rest) (h : Resumes c.app act call t) :
    (c.resumed act n rest call t).Sound where
  steady := h.steady hc.steady fun u f he ↦
    hc.acts (act, n) (by rw [hacts]; exact List.mem_cons_self ..) u f he
  acts p hp := hc.acts p (by rw [hacts]; exact List.mem_cons_of_mem _ hp)
  counts v := by
    have hbusy := h.busy v
    have hcount := hc.counts v
    simp only [Transactions.resumed]
    omega
  internal := hc.internal
  sends hu hq := by
    have hsends := hc.sends hu
    rw [hacts] at hsends
    exact sends_of_resumes h hsends hq

theorem allowed_of_possible (h : c.possible op = true) : c.app.allowed op = true :=
  (Bool.and_eq_true _ _ |>.mp h).1

theorem sound_step {m : Move ω} (hc : c.Sound) (hg : c.HasFragment m) (h : c.step m = some d) :
    d.Sound := by
  cases m with
  | enter op =>
    rw [step] at h
    split at h
    · next hop =>
      have hdoes := wp_enter hc.steady (allowed_of_possible hop) hg
      rw [wpDoes, wp] at hdoes
      split at h
      · next acts call t heq =>
        rw [heq] at hdoes
        rw [← Option.some.inj h]
        exact hc.entered hdoes
      · next e t heq =>
        rw [heq] at hdoes
        obtain ⟨hint, hsame⟩ := hdoes
        rw [← Option.some.inj h]
        refine ⟨hsame.steady hc.steady, hc.acts, fun v ↦ ?_, ?_, fun hu hq ↦ ?_⟩
        · change _ = _ + _ + t.busy v
          rw [busy_congr (hsame.state v)]
          exact hc.counts v
        · change (c.internal || isInternal e) = false
          rw [hc.internal, hint]
          rfl
        · have hq' : t.mSendQueue ≠ [] := hq
          rw [hsame.queue] at hq'
          exact (hc.sends hu hq').imp_left hsame.sending
    · contradiction
  | resume =>
    rw [step] at h
    split at h
    · contradiction
    · next act n rest hacts =>
      have hcall := wp_call hc.steady act
      rw [wp] at hcall
      split at h
      · next call t heq =>
        rw [heq] at hcall
        rw [← Option.some.inj h]
        exact hc.resumed hacts hcall
      · next e t heq =>
        rw [heq] at hcall
        exact hcall.elim
  | unwind =>
    rw [step] at h
    split at h
    · contradiction
    · next p acts hacts =>
      rw [← Option.some.inj h]
      refine ⟨hc.steady, fun q hq ↦ hc.acts q ?_, hc.counts, hc.internal, fun hu ↦ ?_⟩
      · rw [hacts]
        exact List.mem_cons_of_mem _ hq
      · exact absurd hu (by simp)

theorem sound_of_guarded {isMaster : Bool} {aFragSize aNumRetry : ℕ} {moves : List (Move ω)}
    (hrun : Run.run step (new isMaster aFragSize aNumRetry) moves = some c)
    (hg : Run.Guarded step HasFragment (new isMaster aFragSize aNumRetry) moves) : c.Sound :=
  Run.inv_of_guarded (fun _ _ _ hc hd hm ↦ sound_step hc hd hm)
    (sound_new isMaster aFragSize aNumRetry) hg hrun

/-- A busy channel has its fragment in the queue, or its timer runs. -/
theorem queued_or_timer (h : Steady a) (hs : (a.channel v).mpState ≠ .idle) :
    (∃ f ∈ a.mSendQueue, isFor v f = true) ∨ (a.channel v).mpTimer = true := by
  have hq := h.queued v
  rw [h.timer]
  by_cases hw : (a.channel v).mpState.isSending = true
  · rw [if_pos hw] at hq
    exact .inl (List.countP_pos_iff.mp (by omega))
  · refine .inr ?_
    revert hs hw
    cases (a.channel v).mpState <;> simp [ACS.isSending, ACS.isWaiting]

/-- **Every transaction ends exactly once**, in every run in which a channel that repeats its
fragment has one.  A send that a channel has accepted has ended, was cut off when the link went
down, or is the one that the channel is busy with; then its fragment is in the queue, or the timer
of the channel runs, and what is in the queue is with the lower layer when no call is under way. -/
theorem ends_once {isMaster : Bool} {aFragSize aNumRetry : ℕ} {moves : List (Move ω)}
    (hrun : Run.run step (new isMaster aFragSize aNumRetry) moves = some c)
    (hg : Run.Guarded step HasFragment (new isMaster aFragSize aNumRetry) moves) :
    (∀ v, (c.tally v).accepted = (c.tally v).ended + (c.tally v).dropped +
      if (c.app.channel v).mpState = .idle then 0 else 1) ∧
    (∀ v, (c.app.channel v).mpState ≠ .idle →
      (∃ f ∈ c.app.mSendQueue, isFor v f = true) ∨ (c.app.channel v).mpTimer = true) ∧
    (c.unwound = false → c.acts = [] → c.app.mSendQueue ≠ [] → c.app.mSending = true) ∧
    (∀ v, (c.app.channel v).mpTimer = true ↔ (c.app.channel v).mpState.isWaiting = true) ∧
    (∀ v, c.app.mSendQueue.countP (isFor v) ≤ 1) ∧ c.app.mSendQueue.countP isConfirm ≤ 1 ∧
    (∀ f ∈ c.app.mSendQueue, isConfirm f = true ∨ ∃ v, isFor v f = true) ∧
    c.internal = false := by
  have hc := sound_of_guarded hrun hg
  refine ⟨hc.counts, fun v ↦ queued_or_timer hc.steady, fun hu hacts hq ↦ ?_, fun v ↦ ?_,
    fun v ↦ ?_, ?_, fun f hf ↦ ?_, hc.internal⟩
  · rcases hc.sends hu hq with h | ⟨p, hp, _⟩
    · exact h
    · rw [hacts] at hp
      exact absurd hp List.not_mem_nil
  · rw [hc.steady.timer]
  · rw [hc.steady.queued]
    split <;> omega
  · refine Nat.le_trans hc.steady.confirms ?_
    split <;> omega
  · obtain ⟨func, hfunc⟩ := Option.ne_none_iff_exists'.mp (hc.steady.queue f hf)
    by_cases hconf : func = .confirm
    · exact .inl (by simp [isConfirm, hfunc, hconf])
    · exact .inr ⟨_, isFor_of_function hfunc hconf⟩

instance HasFragment.decidable (c : Transactions ω) : ∀ m, Decidable (c.HasFragment m)
  | .enter op => inferInstanceAs (Decidable (∀ u, c.app.retriesAt op = some u →
      (c.app.channel u).mpSendAPDU ≠ none))
  | .resume => isTrue trivial
  | .unwind => isTrue trivial

/-- A request of a master. -/
def read : OutAPDU Unit := (OutAPDU.new 2048).set .read true true false false

/-- A request is sent, fails to be sent, is sent again and is answered; the next one is sent. -/
def answered : List (Move Unit) :=
  [.enter (.event .lowerLayerUp), .enter (.sendRequest read), .resume,
   .enter (.event (.sendResult false)), .resume, .enter (.event (.sendResult true)), .resume,
   .enter (.event (.receive [0xC0, 0x81, 0, 0])), .resume, .enter (.sendRequest read), .resume]

theorem ends_once_answered :
    ∃ c, Run.run step (new true 2048 1) answered = some c ∧
      ((c.tally false).accepted, (c.tally false).ended) = (2, 1) ∧
      (c.tally false).accepted = (c.tally false).ended + (c.tally false).dropped +
        if (c.app.channel false).mpState = .idle then 0 else 1 := by
  obtain ⟨c, hrun⟩ : ∃ c, Run.run step (new true 2048 1) answered = some c := ⟨_, rfl⟩
  have htally : (Run.run step (new true 2048 1) answered).map
      (fun c ↦ ((c.tally false).accepted, (c.tally false).ended)) = some (2, 1) := by decide +kernel
  rw [hrun] at htally
  exact ⟨c, hrun, Option.some.inj htally, (ends_once hrun (by decide +kernel)).1 false⟩

/-- A first request whose send fails inside the call of `Send` is repeated before the channel has a
fragment to repeat: the request is not over, nothing is in the queue and no timer runs. -/
theorem first_send_fails :
    ∃ c, Run.run step (new true 2048 1) [.enter (.event .lowerLayerUp), .enter (.sendRequest read),
        .enter (.event (.sendResult false))] = some c ∧
      c.internal = true ∧ (c.tally false).accepted = 1 ∧ (c.tally false).ended = 0 ∧
      (c.tally false).dropped = 0 ∧ (c.app.channel false).mpState = .sendExpectResponse ∧
      c.app.mSendQueue = [] ∧ c.app.mSending = false ∧ ∀ v, (c.app.channel v).mpTimer = false :=
  ⟨_, rfl, rfl, rfl, rfl, rfl, rfl, rfl, rfl, by decide⟩

end Transactions

end AppLayer

end OpenDNP3
