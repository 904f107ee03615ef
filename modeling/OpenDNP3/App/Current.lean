import OpenDNP3.App.Transactions

/-!
# The fragment that a retry sends

A channel remembers the fragment of its transaction only when `AppLayerChannel::Send` returns, which
may be long after it was queued: the lower layer may report a result inside the call, and the user
may send again inside the callback.

* `AppLayer.Transactions.Current` — what a channel remembers is the fragment of its transaction,
  once the last call of `Send` has returned.
* `AppLayer.Transactions.repeats_current` — a channel repeats the fragment of the transaction that
  is under way, in every run in which the call of `Send` that has started this transaction is the
  last one that has returned when the channel does so.
-/

set_option autoImplicit false

namespace OpenDNP3

open Handler

namespace AppLayer

variable {ω : Type} {a b t : AppLayer ω} {u v : Bool} {f : OutAPDU ω} {op : Op ω}
  {acts : List (Act ω)} {call : Option UserCall} {act : Act ω}

/-! ## One piece and the fragments -/

theorem ne_idle_of_retriesAt (h : Steady a) (hop : a.allowed op = true)
    (hr : a.retriesAt op = some u) : (a.channel u).mpState ≠ .idle := by
  unfold retriesAt at hr
  split at hr
  · cases hq : a.mSendQueue with
    | nil =>
      rw [hq] at hr
      exact absurd hr (by simp)
    | cons f q =>
      rw [hq, List.head?_cons, Option.bind_some] at hr
      have howner := (Option.filter_eq_some_iff.mp hr).1
      exact ACS.ne_idle_of_isSending (h.freed_dequeue hq (owner_eq_some.mp howner)).1
  · split at hr
    · rw [← Option.some.inj hr]
      exact ACS.ne_idle_of_isWaiting ((h.timer _).symm.trans hop)
    · contradiction
  · contradiction

theorem retriesAt_of_isDown (h : op.isDown = true) : a.retriesAt op = none := by
  unfold Op.isDown at h
  split at h
  · rfl
  · contradiction

theorem Goes.apdu (h : Goes b u call t) (v : Bool) :
    (t.channel v).mpSendAPDU = (b.channel v).mpSendAPDU ∧
      (t.channel v).mNumRetry = (b.channel v).mNumRetry := by
  cases h with
  | ends call hc =>
    rw [channel_setChannel]
    split
    · next hv => rw [hv]; exact ⟨rfl, rfl⟩
    · exact ⟨rfl, rfl⟩
  | waits s hs =>
    rw [channel_setChannel]
    split
    · next hv => rw [hv]; exact ⟨rfl, rfl⟩
    · exact ⟨rfl, rfl⟩
  | proceeds r hu =>
    rw [channel_setChannel]
    split
    · next hv => rw [hv]; exact ⟨rfl, rfl⟩
    · exact ⟨rfl, rfl⟩

theorem Goes.queue (h : Goes b u call t) : t.mSendQueue = b.mSendQueue := by
  cases h with
  | ends call hc => simp
  | waits s hs => simp
  | proceeds r hu => simp

theorem channel_retried (b : AppLayer ω) (u v : Bool) (s : ACS) (f : OutAPDU ω) :
    (retried b u s f).channel v =
      if v = u then { b.channel u with mNumRetry := (b.channel u).mNumRetry - 1, mpState := s }
      else b.channel v := channel_setChannel b u v _

theorem channel_taken (a : AppLayer ω) (u v : Bool) (s : ACS) (f : OutAPDU ω) (n : ℕ) (seq : Int) :
    (taken a u s f n seq).channel v =
      if v = u then { a.channel u with mpState := s, mNumRetry := n, mSequence := seq }
      else a.channel v := channel_setChannel a u v _

theorem channel_stopTimer (a : AppLayer ω) (u v : Bool) :
    (a.stopTimer u).channel v =
      if v = u then { a.channel u with mpTimer := false } else a.channel v :=
  channel_setChannel a u v _

theorem apdu_stopTimer : ((a.stopTimer u).channel v).mpSendAPDU = (a.channel v).mpSendAPDU ∧
    ((a.stopTimer u).channel v).mNumRetry = (a.channel v).mNumRetry := by
  rw [channel_stopTimer]
  split
  · next hv => rw [hv]; exact ⟨rfl, rfl⟩
  · exact ⟨rfl, rfl⟩

/-- A call leaves the fragments of the channels alone, up to its call to the outside. -/
theorem Does.apdu (h : Does a op acts call t) (v : Bool) :
    (t.channel v).mpSendAPDU = (a.channel v).mpSendAPDU := by
  cases h with
  | same _ _ _ hs _ _ => exact hs.apdu v
  | confirms => rfl
  | confirmed => rfl
  | sent s f q u _ _ _ _ hgoes => exact (hgoes.apdu v).1
  | failed f g q u s _ _ _ _ _ =>
    rw [channel_retried]
    split
    · next hv => rw [hv]; rfl
    · rfl
  | stopped u _ _ _ _ hgoes => exact (hgoes.apdu v).1.trans apdu_stopTimer.1
  | expired g u s _ _ _ _ =>
    rw [channel_retried]
    split
    · next hv => rw [hv]; exact apdu_stopTimer.1
    · exact apdu_stopTimer.1
  | cancels u _ _ _ _ =>
    rw [channel_setChannel]
    split
    · next hv => rw [hv]
    · rfl
  | sends u f s func seq _ _ _ _ _ _ _ _ =>
    rw [channel_taken]
    split
    · next hv => rw [hv]
    · rfl
  | down _ =>
    rw [channel_downed]
    rfl

/-- A channel uses up one retry when it repeats its fragment, and gets new ones with a fragment. -/
theorem Does.retries (h : Does a op acts call t) (v : Bool) :
    (∃ f, takenOn v acts = some f ∧ (t.channel v).mNumRetry = f.function.elim 0 a.getRetries) ∨
      (takenOn v acts = none ∧ (t.channel v).mNumRetry +
        (if a.retriesAt op = some v then 1 else 0) ≤ (a.channel v).mNumRetry) := by
  have hnone (hr : a.retriesAt op = none) (hn : (t.channel v).mNumRetry ≤ (a.channel v).mNumRetry) :
      (t.channel v).mNumRetry + (if a.retriesAt op = some v then 1 else 0) ≤
        (a.channel v).mNumRetry := by
    rw [hr, if_neg (by simp)]
    exact hn
  have hsome {b : AppLayer ω} {u : Bool} {s : ACS} {g : OutAPDU ω} (hr : a.retriesAt op = some u)
      (hn : 0 < (a.channel u).mNumRetry)
      (hb : ∀ v, (b.channel v).mNumRetry = (a.channel v).mNumRetry) :
      ((retried b u s g).channel v).mNumRetry + (if a.retriesAt op = some v then 1 else 0) ≤
        (a.channel v).mNumRetry := by
    rw [channel_retried, hr]
    by_cases hv : v = u
    · rw [if_pos hv, if_pos (by rw [hv]), hv]
      change (b.channel u).mNumRetry - 1 + 1 ≤ _
      rw [hb]
      omega
    · rw [if_neg hv, if_neg fun h ↦ hv (Option.some.inj h).symm, hb]
      exact Nat.le_refl _
  cases h with
  | same _ hr _ hs hacts _ => exact .inr ⟨takenOn_of_sends_none hacts, hnone hr (hs.retries v)⟩
  | confirms u n _ hr _ _ hacts =>
    exact .inr ⟨takenOn_of_sends_none hacts, hnone hr (Nat.le_refl _)⟩
  | confirmed s f q hq hf =>
    refine .inr ⟨rfl, hnone ?_ (Nat.le_refl _)⟩
    cases s with
    | true => rfl
    | false =>
      have hconf : f.function = some .confirm := by simpa [isConfirm] using hf
      rw [retriesAt, hq, List.head?_cons, Option.bind_some, owner, hconf]
      rfl
  | sent s f q u _ _ hr _ hgoes =>
    exact .inr ⟨rfl, hnone hr (Nat.le_of_eq (hgoes.apdu v).2)⟩
  | failed f g q u s hq hf hr _ _ =>
    rw [retriesAt_sendResult hq hf] at hr
    split at hr
    · next hn =>
      have hagain := (retriesAt_sendResult hq hf).trans (if_pos hn)
      exact .inr ⟨rfl, hsome hagain hn.2 fun _ ↦ rfl⟩
    · contradiction
  | stopped u _ hr _ _ hgoes =>
    exact .inr ⟨rfl, hnone hr (Nat.le_of_eq ((hgoes.apdu v).2.trans apdu_stopTimer.2))⟩
  | expired g u s _ hr _ _ =>
    refine .inr ⟨rfl, hsome hr ?_ fun _ ↦ apdu_stopTimer.2⟩
    rw [retriesAt] at hr
    split at hr
    · assumption
    · contradiction
  | cancels u _ hr _ _ =>
    refine .inr ⟨rfl, hnone hr ?_⟩
    rw [channel_setChannel]
    split
    · next hv => exact hv ▸ Nat.le_refl _
    · exact Nat.le_refl _
  | sends u f s func seq _ hr _ _ _ hfunc _ _ =>
    rw [takenOn_setSendAPDU, channel_taken]
    by_cases hv : v = u
    · refine .inl ⟨_, if_pos hv, ?_⟩
      rw [if_pos hv]
      change a.getRetries func = f.function.elim 0 a.getRetries
      rw [hfunc]
      rfl
    · refine .inr ⟨if_neg hv, ?_⟩
      rw [if_neg hv, hr]
      exact Nat.le_refl _
  | down hdown =>
    refine .inr ⟨rfl, hnone (retriesAt_of_isDown hdown) ?_⟩
    rw [channel_downed]
    exact Nat.le_refl _

/-- **What a call queues** for a channel: the fragment that it hands to it, or the one that the
channel repeats. -/
theorem Does.queue (h : Does a op acts call t) (ha : Steady a) {f : OutAPDU ω}
    (hf : f ∈ t.mSendQueue) (hv : isFor v f = true) :
    takenOn v acts = some f ∨ (takenOn v acts = none ∧ (f ∈ a.mSendQueue ∨
      (a.retriesAt op = some v ∧ (a.channel v).mpSendAPDU = some f))) := by
  have htail {q : List (OutAPDU ω)} {g : OutAPDU ω} (hq : a.mSendQueue = g :: q) (hf : f ∈ q) :
      f ∈ a.mSendQueue := by
    rw [hq]
    exact List.mem_cons_of_mem _ hf
  have howns {u : Bool} {g : OutAPDU ω} (hg : isFor u g = true) (hv : isFor v g = true) : v = u :=
    Option.some.inj ((owner_eq_some.mpr hv).symm.trans (owner_eq_some.mpr hg))
  cases h with
  | same _ _ _ hs hacts _ =>
    rw [hs.queue] at hf
    exact .inr ⟨takenOn_of_sends_none hacts, .inl hf⟩
  | confirms u n _ _ _ _ hacts =>
    refine .inr ⟨takenOn_of_sends_none hacts, .inl ?_⟩
    rcases List.mem_append.mp hf with hf | hf
    · exact hf
    · rw [List.mem_singleton.mp hf] at hv
      exact Bool.noConfusion hv
  | confirmed s g q hq _ => exact .inr ⟨rfl, .inl (htail hq hf)⟩
  | sent s g q u hq _ _ _ hgoes =>
    rw [hgoes.queue] at hf
    exact .inr ⟨rfl, .inl (htail hq hf)⟩
  | failed g g' q u s hq hg hr hapdu _ =>
    rcases List.mem_append.mp hf with hf | hf
    · exact .inr ⟨rfl, .inl (htail hq hf)⟩
    · rw [List.mem_singleton.mp hf] at hv ⊢
      have hu := howns (ha.apdu u g' hapdu) hv
      exact .inr ⟨rfl, .inr (by rw [hu]; exact ⟨hr, hapdu⟩)⟩
  | stopped u _ _ _ _ hgoes =>
    rw [hgoes.queue, stopTimer, setChannel_mSendQueue] at hf
    exact .inr ⟨rfl, .inl hf⟩
  | expired g u s _ hr hapdu _ =>
    rcases List.mem_append.mp hf with hf | hf
    · rw [stopTimer, setChannel_mSendQueue] at hf
      exact .inr ⟨rfl, .inl hf⟩
    · rw [List.mem_singleton.mp hf] at hv ⊢
      have hu := howns (ha.apdu u g hapdu) hv
      exact .inr ⟨rfl, .inr (by rw [hu]; exact ⟨hr, hapdu⟩)⟩
  | cancels u _ _ _ _ =>
    rw [setChannel_mSendQueue] at hf
    exact .inr ⟨rfl, .inl hf⟩
  | sends u g s func seq _ _ _ hi hg _ _ _ =>
    rw [takenOn_setSendAPDU]
    rcases List.mem_append.mp hf with hf | hf
    · refine .inr ⟨if_neg fun hu ↦ ?_, .inl hf⟩
      have hcount := ha.queued u
      rw [hi, if_neg (by decide)] at hcount
      exact Nat.ne_of_gt (List.countP_pos_iff.mpr ⟨f, hf, hu ▸ hv⟩) hcount
    · rw [List.mem_singleton.mp hf] at hv ⊢
      exact .inl (if_pos (howns hg hv))
  | down _ => exact absurd hf List.not_mem_nil

/-- The request is with the lower layer, or the master waits for the first part of its response. -/
def isRequesting : ACS → Bool
  | .sendExpectResponse | .waitForFirstResponse => true
  | _ => false

theorem Goes.isMaster (h : Goes b u call t) : t.isMaster = b.isMaster := by
  cases h with
  | ends call hc => simp
  | waits s hs => simp
  | proceeds r hu => simp

theorem Does.isMaster (h : Does a op acts call t) : t.isMaster = a.isMaster := by
  cases h with
  | same _ _ _ hs _ _ => exact hs.isMaster
  | confirms => rfl
  | confirmed => rfl
  | sent _ _ _ _ _ _ _ _ h => exact h.isMaster
  | failed f g q u s => exact setChannel_isMaster ..
  | stopped u _ _ _ _ h => exact h.isMaster.trans (setChannel_isMaster ..)
  | expired g u s => exact (setChannel_isMaster ..).trans (setChannel_isMaster ..)
  | cancels => exact setChannel_isMaster ..
  | sends => exact setChannel_isMaster ..
  | down => rfl

/-- What becomes of the solicited channel when it goes on. -/
theorem Goes.solicited (h : Goes b u call t) :
    (u = true ∧ t.channel false = b.channel false) ∨
      (u = false ∧ isRequesting (t.channel false).mpState = false) ∨
      (u = false ∧ call = none ∧ (b.channel false).mpState = .sendExpectResponse ∧
        (t.channel false).mpState = .waitForFirstResponse ∧
        (t.channel false).mSequence = (b.channel false).mSequence) := by
  cases u with
  | true =>
    refine .inl ⟨rfl, ?_⟩
    cases h with
    | ends call hc => rw [channel_setChannel, if_neg (by decide)]
    | waits s hs => rw [channel_setChannel, if_neg (by decide)]
    | proceeds r hu => rw [channel_setChannel, if_neg (by decide)]
  | false =>
    refine .inr ?_
    cases h with
    | ends call hc =>
      rw [channel_setChannel_self]
      exact .inl ⟨rfl, rfl⟩
    | waits s hs =>
      rw [channel_setChannel_self]
      rcases hs with ⟨rfl, _⟩ | ⟨rfl, hb⟩
      · exact .inl ⟨rfl, rfl⟩
      · exact .inr ⟨rfl, rfl, hb, rfl, rfl⟩
    | proceeds r hu =>
      rw [channel_setChannel_self]
      exact .inl ⟨rfl, rfl⟩

namespace Transactions

variable {c d : Transactions ω}

/-! ## The fragment of the current transaction -/

/-- The fragments that the calls under way, the channels and the queue hold are those of the current
transactions, as far as they are the latest. -/
structure Current (c : Transactions ω) : Prop where
  sound : c.Sound
  acts : ∀ p ∈ c.acts, ∀ u f, p.1 = .setSendAPDU u f →
    p.2 ≤ (c.tally u).accepted ∧ (p.2 = (c.tally u).accepted → (c.tally u).current = some f)
  returned : ∀ u, (c.tally u).returned ≤ (c.tally u).accepted
  apdu : ∀ u, (c.tally u).returned = (c.tally u).accepted →
    (c.app.channel u).mpSendAPDU = (c.tally u).current
  current : ∀ u, (c.tally u).accepted ≠ 0 → (c.tally u).current ≠ none
  queue : ∀ f ∈ c.app.mSendQueue, ∀ u, isFor u f = true → (c.tally u).current = some f
  retries : ∀ u, (c.tally u).retried + (c.app.channel u).mNumRetry ≤ (c.tally u).configured

theorem current_new (isMaster : Bool) (aFragSize aNumRetry : ℕ) :
    (new isMaster aFragSize aNumRetry : Transactions ω).Current where
  sound := sound_new isMaster aFragSize aNumRetry
  acts p hp := absurd hp List.not_mem_nil
  returned u := Nat.le_refl _
  apdu u _ := by cases u <;> rfl
  current u h := absurd rfl h
  queue f hf := absurd hf List.not_mem_nil
  retries u := by cases u <;> exact Nat.le_refl _

/-- A channel repeats its fragment only if the call of `Send` that has started the transaction has
returned, and no other one since. -/
def ReturnedLast (c : Transactions ω) : Move ω → Prop
  | .enter op => ∀ u, c.app.retriesAt op = some u → (c.tally u).returned = (c.tally u).accepted
  | _ => True

instance ReturnedLast.decidable (c : Transactions ω) : ∀ m, Decidable (c.ReturnedLast m)
  | .enter op => inferInstanceAs (Decidable (∀ u, c.app.retriesAt op = some u →
      (c.tally u).returned = (c.tally u).accepted))
  | .resume => isTrue trivial
  | .unwind => isTrue trivial

/-- A channel that is busy has accepted a send, and has the fragment of it if that has returned. -/
theorem Current.of_busy (hc : c.Current) (hb : (c.app.channel u).mpState ≠ .idle) :
    ∃ f, (c.tally u).current = some f ∧
      (c.tally u).accepted = (c.tally u).ended + (c.tally u).dropped + 1 ∧
      ((c.tally u).returned = (c.tally u).accepted →
        (c.app.channel u).mpSendAPDU = some f) := by
  have hcount := hc.sound.counts u
  rw [busy_of_ne_idle hb] at hcount
  obtain ⟨f, hf⟩ := Option.ne_none_iff_exists'.mp (hc.current u (by omega))
  exact ⟨f, hf, hcount, fun hr ↦ (hc.apdu u hr).trans hf⟩

theorem Current.hasFragment (hc : c.Current) (hop : c.app.allowed op = true)
    (hg : c.ReturnedLast (.enter op)) : c.HasFragment (.enter op) := by
  intro u hr
  obtain ⟨f, _, _, hf⟩ := hc.of_busy (ne_idle_of_retriesAt hc.sound.steady hop hr)
  rw [hf (hg u hr)]
  exact Option.some_ne_none f

/-- A call hands at most one fragment to a channel. -/
theorem takenOn_of_mem (h : Does a op acts call t) (hact : .setSendAPDU u f ∈ acts) :
    takenOn u acts = some f := by
  have hne {act : Act ω} (hs : act.sends = none) : act ≠ .setSendAPDU u f := by
    intro he
    rw [he] at hs
    exact absurd hs (Option.some_ne_none _)
  cases h with
  | same _ _ _ _ hacts _ => exact absurd rfl (hne (hacts _ hact))
  | confirms u n _ _ _ _ hacts => exact absurd rfl (hne (hacts _ hact))
  | confirmed | sent | failed => exact absurd (List.mem_singleton.mp hact) (by simp)
  | stopped | expired | cancels | down => exact absurd hact List.not_mem_nil
  | sends v g s func seq =>
    obtain ⟨rfl, rfl⟩ := Act.setSendAPDU.inj (List.mem_singleton.mp hact)
    rw [takenOn_setSendAPDU, if_pos rfl]

theorem Current.entered (hc : c.Current) (hg : c.ReturnedLast (.enter op))
    (h : Does c.app op acts call t) : (c.entered op acts call t).Current where
  sound := hc.sound.entered h
  acts p hp u f he := by
    change p.2 ≤ (c.tally u).accepted + _ ∧
      (p.2 = (c.tally u).accepted + _ → (takenOn u acts).or (c.tally u).current = some f)
    rcases List.mem_append.mp hp with hp | hp
    · obtain ⟨act, hact, rfl⟩ := List.mem_map.mp hp
      have he' : act = .setSendAPDU u f := he
      rw [he'] at hact ⊢
      rw [takenOn_of_mem h hact]
      exact ⟨Nat.le_refl _, fun _ ↦ rfl⟩
    · obtain ⟨hle, hcur⟩ := hc.acts p hp u f he
      refine ⟨Nat.le_add_right_of_le hle, fun heq ↦ ?_⟩
      cases htaken : takenOn u acts with
      | some g =>
        rw [htaken] at heq
        have hsucc : p.2 = (c.tally u).accepted + 1 := heq
        omega
      | none =>
        rw [htaken] at heq
        exact hcur heq
  returned u := Nat.le_add_right_of_le (hc.returned u)
  apdu u hr := by
    change (c.tally u).returned = (c.tally u).accepted + _ at hr
    change (t.channel u).mpSendAPDU = (takenOn u acts).or (c.tally u).current
    have hle := hc.returned u
    cases htaken : takenOn u acts with
    | some g =>
      rw [htaken] at hr
      have hsucc : (c.tally u).returned = (c.tally u).accepted + 1 := hr
      omega
    | none =>
      rw [htaken] at hr
      rw [h.apdu]
      exact hc.apdu u hr
  current u hacc := by
    change (takenOn u acts).or (c.tally u).current ≠ none
    cases htaken : takenOn u acts with
    | some g => exact Option.some_ne_none g
    | none =>
      refine hc.current u fun h0 ↦ hacc ?_
      change (c.tally u).accepted + _ = 0
      rw [h0, htaken]
      rfl
  queue f hf u hu := by
    change (takenOn u acts).or (c.tally u).current = some f
    rcases h.queue hc.sound.steady hf hu with htaken | ⟨htaken, hq | ⟨hr, hapdu⟩⟩
    · rw [htaken, Option.some_or]
    · rw [htaken, Option.none_or]
      exact hc.queue f hq u hu
    · rw [htaken, Option.none_or, ← hc.apdu u (hg u hr)]
      exact hapdu
  retries u := by
    have hn := hc.retries u
    simp only [Transactions.entered]
    rcases h.retries u with ⟨f, htaken, hnum⟩ | ⟨htaken, hnum⟩
    · rw [htaken, hnum]
      exact Nat.le_of_eq (Nat.zero_add _)
    · rw [htaken]
      change (c.tally u).retried + _ + _ ≤ (c.tally u).configured
      omega

theorem Current.resumed {n : ℕ} {rest : List (Act ω × ℕ)} (hc : c.Current)
    (hacts : c.acts = (act, n) :: rest) (h : Resumes c.app act call t) :
    (c.resumed act n rest call t).Current := by
  have hmem (p : Act ω × ℕ) (hp : p ∈ rest) : p ∈ c.acts := by
    rw [hacts]
    exact List.mem_cons_of_mem _ hp
  have hkeep (hact : act.sends = none) (v : Bool) :
      (if act.sends.map Prod.fst = some v then n else (c.tally v).returned) =
        (c.tally v).returned := by
    rw [hact]
    exact if_neg (by simp)
  -- what the rest of a call leaves alone unless it is the end of `Send`
  have hsame (hact : act.sends = none)
      (hapdu : ∀ v, (t.channel v).mpSendAPDU = (c.app.channel v).mpSendAPDU)
      (hnum : ∀ v, (t.channel v).mNumRetry ≤ (c.app.channel v).mNumRetry)
      (hqueue : t.mSendQueue = c.app.mSendQueue) : (c.resumed act n rest call t).Current := by
    refine ⟨hc.sound.resumed hacts h, fun p hp ↦ hc.acts p (hmem p hp), fun v ↦ ?_, fun v hv ↦ ?_,
      hc.current, fun f hf ↦ hc.queue f (hqueue ▸ hf), fun v ↦ ?_⟩
    · simp only [Transactions.resumed, hkeep hact v]
      exact hc.returned v
    · simp only [Transactions.resumed, hkeep hact v] at hv ⊢
      rw [hapdu]
      exact hc.apdu v hv
    · exact Nat.le_trans (Nat.add_le_add_left (hnum v) _) (hc.retries v)
  cases h with
  | checkForSend => exact hsame rfl (fun _ ↦ rfl) (fun _ ↦ Nat.le_refl _) rfl
  | same hact _ hs _ => exact hsame hact hs.apdu hs.retries hs.queue
  | stopped r hw hgoes =>
    refine hsame rfl (fun v ↦ (hgoes.apdu v).1.trans apdu_stopTimer.1)
      (fun v ↦ Nat.le_of_eq ((hgoes.apdu v).2.trans apdu_stopTimer.2)) ?_
    rw [hgoes.queue, stopTimer, setChannel_mSendQueue]
  | sent u f =>
    obtain ⟨hle, hcur⟩ := hc.acts (.setSendAPDU u f, n)
      (by rw [hacts]; exact List.mem_cons_self ..) u f rfl
    have hreturned (v : Bool) : ((c.resumed (.setSendAPDU u f) n rest none
        (c.app.setChannel u { c.app.channel u with mpSendAPDU := some f })).tally v).returned =
        if v = u then n else (c.tally v).returned := by
      simp only [Transactions.resumed, Act.sends, Option.map_some, Option.some.injEq]
      by_cases hv : v = u
      · rw [if_pos hv, if_pos hv.symm]
      · rw [if_neg hv, if_neg (Ne.symm hv)]
    refine ⟨hc.sound.resumed hacts (.sent u f), fun p hp ↦ hc.acts p (hmem p hp), fun v ↦ ?_,
      fun v hv ↦ ?_, hc.current, fun g hg ↦ hc.queue g ?_, fun v ↦ ?_⟩
    · rw [hreturned]
      split
      · next hv => exact hv ▸ hle
      · exact hc.returned v
    · rw [hreturned] at hv
      change ((c.app.setChannel u _).channel v).mpSendAPDU = (c.tally v).current
      rw [channel_setChannel]
      split at hv
      · next hu =>
        rw [if_pos hu, hu]
        exact (hcur (hu ▸ hv)).symm
      · next hu =>
        rw [if_neg hu]
        exact hc.apdu v hv
    · have hg' : g ∈ (c.app.setChannel u
          { c.app.channel u with mpSendAPDU := some f }).mSendQueue :=
        hg
      rwa [setChannel_mSendQueue] at hg'
    · refine Nat.le_trans (Nat.add_le_add_left ?_ _) (hc.retries v)
      change ((c.app.setChannel u _).channel v).mNumRetry ≤ _
      rw [channel_setChannel]
      split
      · next hv => exact hv ▸ Nat.le_refl _
      · exact Nat.le_refl _

theorem current_step {m : Move ω} (hc : c.Current) (hg : c.ReturnedLast m)
    (h : c.step m = some d) : d.Current := by
  cases m with
  | enter op =>
    rw [step] at h
    split at h
    · next hop =>
      have hdoes := wp_enter hc.sound.steady (allowed_of_possible hop)
        (hc.hasFragment (allowed_of_possible hop) hg)
      have hsound := sound_step (d := d) hc.sound (hc.hasFragment (allowed_of_possible hop) hg)
        (by rw [step, if_pos hop]; exact h)
      rw [wpDoes, wp] at hdoes
      split at h
      · next acts call t heq =>
        rw [heq] at hdoes
        rw [← Option.some.inj h]
        exact hc.entered hg hdoes
      · next e t heq =>
        rw [heq] at hdoes
        have hsame := hdoes.2
        rw [← Option.some.inj h] at hsound ⊢
        refine ⟨hsound, hc.acts, hc.returned, fun u hr ↦ ?_, hc.current, fun f hf ↦ ?_, fun u ↦ ?_⟩
        · exact (hsame.apdu u).trans (hc.apdu u hr)
        · exact hc.queue f (hsame.queue ▸ hf)
        · exact Nat.le_trans (Nat.add_le_add_left (hsame.retries u) _) (hc.retries u)
    · contradiction
  | resume =>
    rw [step] at h
    split at h
    · contradiction
    · next act n rest hacts =>
      have hcall := wp_call hc.sound.steady act
      rw [wp] at hcall
      split at h
      · next call t heq =>
        rw [heq] at hcall
        rw [← Option.some.inj h]
        exact hc.resumed hacts hcall
      · next e t heq =>
        rw [heq] at hcall
        exact hcall.elim
  | unwind =>
    have hsound := sound_step (m := .unwind) hc.sound trivial h
    rw [step] at h
    split at h
    · contradiction
    · next p acts hacts =>
      rw [← Option.some.inj h] at hsound ⊢
      refine ⟨hsound, fun q hq ↦ hc.acts q ?_, hc.returned, hc.apdu, hc.current, hc.queue,
        hc.retries⟩
      rw [hacts]
      exact List.mem_cons_of_mem _ hq

/-- What is in the queue behind the fragment that the event is about. -/
def queueAfter (a : AppLayer ω) : Op ω → List (OutAPDU ω)
  | .event (.sendResult _) => a.mSendQueue.tail
  | _ => a.mSendQueue

/-- A channel that repeats its fragment queues it. -/
theorem queue_of_retriesAt (h : Does a op acts call t) (hr : a.retriesAt op = some u)
    (hf : (a.channel u).mpSendAPDU = some f) : t.mSendQueue = queueAfter a op ++ [f] := by
  have hnone {op : Op ω} (hn : a.retriesAt op = none) (hr : a.retriesAt op = some u) : False :=
    Option.some_ne_none u (hr.symm.trans hn)
  cases h with
  | same _ hn _ _ _ _ => exact (hnone hn hr).elim
  | confirms _ _ _ hn _ _ _ => exact (hnone hn hr).elim
  | confirmed s g q hq hg =>
    cases s with
    | true => exact absurd hr (Option.some_ne_none u).symm
    | false =>
      have hconf : g.function = some .confirm := by simpa [isConfirm] using hg
      rw [retriesAt, hq, List.head?_cons, Option.bind_some, owner, hconf] at hr
      exact absurd hr (by simp)
  | sent _ _ _ _ _ _ hn _ _ => exact (hnone hn hr).elim
  | failed g g' q v s hq _ hr' hg _ =>
    obtain rfl := Option.some.inj (hr.symm.trans hr')
    obtain rfl := Option.some.inj (hf.symm.trans hg)
    rw [queueAfter, hq]
    rfl
  | stopped _ _ hn _ _ _ => exact (hnone hn hr).elim
  | expired g v s _ hr' hg _ =>
    obtain rfl := Option.some.inj (hr.symm.trans hr')
    obtain rfl := Option.some.inj (hf.symm.trans hg)
    change (a.stopTimer u).mSendQueue ++ [f] = a.mSendQueue ++ [f]
    rw [stopTimer, setChannel_mSendQueue]
  | cancels _ _ hn _ _ => exact (hnone hn hr).elim
  | sends _ _ _ _ _ _ hn _ _ _ _ _ _ => exact (hnone hn hr).elim
  | down hdown => exact (hnone (retriesAt_of_isDown hdown) hr).elim

/-- An event that makes a channel repeat its fragment throws nothing. -/
theorem wp_enter_of_retriesAt (h : Steady a) (hop : a.allowed op = true)
    (hnull : ∀ u, a.retriesAt op = some u → (a.channel u).mpSendAPDU ≠ none)
    (hr : a.retriesAt op = some u) :
    wp (enter op) (fun r t ↦ Does a op r.1 r.2 t) (fun _ _ ↦ False) a := by
  unfold retriesAt at hr
  split at hr
  · change wp (onSendResult false >>= _) _ _ a
    rw [wp_bind]
    exact wp_mono (wp_onSendResult_does h hop false hnull) (fun _ _ hd ↦ hd) fun _ _ he ↦ he
  · next v =>
    change wp (timeout v >>= _) _ _ a
    rw [wp_bind]
    exact wp_mono (wp_timeout_does h hop (hnull v)) (fun _ _ hd ↦ hd) fun _ _ he ↦ he
  · contradiction

/-- **A retry repeats the current transaction**, in every run in which a channel repeats its
fragment only if the call of `Send` that has started the transaction has returned, and no other one
since.  What the channel queues is the fragment of the transaction that is under way, and no
transaction is repeated more often than its function allows. -/
theorem repeats_current {isMaster : Bool} {aFragSize aNumRetry : ℕ} {moves : List (Move ω)}
    (hrun : Run.run step (new isMaster aFragSize aNumRetry) moves = some c)
    (hg : Run.Guarded step ReturnedLast (new isMaster aFragSize aNumRetry) moves) :
    (∀ u, (c.tally u).retried ≤ (c.tally u).configured) ∧
      ∀ op u d, c.app.retriesAt op = some u → c.ReturnedLast (.enter op) →
        c.step (.enter op) = some d →
        (c.tally u).accepted = (c.tally u).ended + (c.tally u).dropped + 1 ∧
          d.internal = false ∧ ∃ f, (c.tally u).current = some f ∧
            d.app.mSendQueue = queueAfter c.app op ++ [f] := by
  have hc : c.Current :=
    Run.inv_of_guarded (fun _ _ _ hc hd hm ↦ current_step hc hd hm)
      (current_new isMaster aFragSize aNumRetry) hg hrun
  refine ⟨fun u ↦ Nat.le_trans (Nat.le_add_right _ _) (hc.retries u), fun op u d hr hlast hd ↦ ?_⟩
  have hdcur := current_step hc hlast hd
  rw [step] at hd
  split at hd
  · next hop =>
    have hallowed := allowed_of_possible hop
    obtain ⟨f, hf, hcount, hapdu⟩ :=
      hc.of_busy (ne_idle_of_retriesAt hc.sound.steady hallowed hr)
    refine ⟨hcount, hdcur.sound.internal, f, hf, ?_⟩
    have hdoes := wp_enter_of_retriesAt hc.sound.steady hallowed (hc.hasFragment hallowed hlast) hr
    rw [wp] at hdoes
    split at hd
    · next acts call t heq =>
      rw [heq] at hdoes
      rw [← Option.some.inj hd]
      exact queue_of_retriesAt hdoes hr (hapdu (hlast u hr))
    · next e t heq =>
      rw [heq] at hdoes
      exact hdoes.elim
  · contradiction

/-- A request is sent, and the lower layer is about to fail to send it. -/
def failing : List (Move Unit) :=
  [.enter (.event .lowerLayerUp), .enter (.sendRequest read), .resume]

theorem repeats_current_failing :
    ∃ c d, Run.run step (new true 2048 1) failing = some c ∧
      c.step (.enter (.event (.sendResult false))) = some d ∧
        ∃ f, (c.tally false).current = some f ∧
        d.app.mSendQueue = queueAfter c.app (.event (.sendResult false)) ++ [f] := by
  obtain ⟨c, hrun⟩ : ∃ c, Run.run step (new true 2048 1) failing = some c := ⟨_, rfl⟩
  obtain ⟨d, hd⟩ : ∃ d, c.step (.enter (.event (.sendResult false))) = some d := by
    refine Option.isSome_iff_exists.mp ?_
    have hsome : (Run.run step (new true 2048 1) failing).all
        (fun c ↦ (c.step (.enter (.event (.sendResult false)))).isSome) = true := by decide +kernel
    rw [hrun] at hsome
    exact hsome
  have hlast : (Run.run step (new true 2048 1) failing).all (fun c ↦
      decide (c.app.retriesAt (.event (.sendResult false)) = some false) &&
        decide (c.ReturnedLast (.enter (.event (.sendResult false))))) = true := by decide +kernel
  rw [hrun] at hlast
  obtain ⟨hr, hl⟩ := Bool.and_eq_true _ _ |>.mp hlast
  exact ⟨c, d, hrun, hd, ((repeats_current hrun (by decide +kernel)).2 _ _ _ (of_decide_eq_true hr)
    (of_decide_eq_true hl) hd).2.2⟩

/-- A request that needs no response is sent inside the call of `Send`, and the user sends the next
request inside the callback. -/
def nested : List (Move Unit) :=
  [.enter (.event .lowerLayerUp),
   .enter (.sendRequest ((OutAPDU.new 2048).set .directOperateNoAck true true false false)),
   .enter (.event (.sendResult true)), .enter (.sendRequest read), .resume, .resume, .resume]

/-- A first request that fails inside the call of `Send` is repeated through a null pointer; and
when the send of a request fails that was sent inside the callback of an earlier one, the earlier
one is sent again. -/
theorem repeats_another :
    (∃ c d, Run.run step (new true 2048 1)
      [.enter (.event .lowerLayerUp), .enter (.sendRequest read)] =
        some c ∧ c.app.retriesAt (.event (.sendResult false)) = some false ∧
      c.step (.enter (.event (.sendResult false))) = some d ∧ d.internal = true) ∧
    ∃ c d f g, Run.run step (new true 2048 1) nested = some c ∧
      c.app.retriesAt (.event (.sendResult false)) = some false ∧
      (c.tally false).current = some f ∧ f.function = some .read ∧
      c.step (.enter (.event (.sendResult false))) = some d ∧ d.app.mSendQueue = [g] ∧
      g.function = some .directOperateNoAck :=
  ⟨⟨_, _, rfl, rfl, rfl, rfl⟩, _, _, _, _, rfl, rfl, rfl, rfl, rfl, rfl, rfl⟩

end Transactions

end AppLayer

end OpenDNP3
