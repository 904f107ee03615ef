import Mathlib.Data.List.Basic
import Mathlib.Data.List.InsertIdx

/-!
# Stop and wait with an alternating bit that can be reset

A sender has one payload outstanding at a time.  It first makes sure that the receiver is in step
with it, by a `reset` message that sets the bit the receiver expects, and then sends the payload
under its own bit until it is acknowledged, after which both sides have moved on to the other bit.
The acknowledgement of a reset and that of a payload look the same.  The channels are queues that
may lose a message at any place.

Two invariants are proved, for two assumptions on the timer of the sender.

* `Ordered` needs none: if the timer may expire at any moment, late acknowledgements are taken for
  others and payloads get lost, but a payload is never delivered twice or out of order.  Its heart
  is a rank for each message in flight, which never decreases along the queue.
* `Settled` needs a timer that expires only when nothing is in flight (`Quiet`).  Then a payload
  whose sending has succeeded has been delivered.
-/

set_option autoImplicit false

namespace StopAndWait

variable {α : Type}

/-- A message to the receiver.  A payload carries its number, which no step looks at. -/
inductive Msg (α : Type) where
  | reset
  | data (bit : Bool) (payload : α × ℕ)

/-- What the sender is doing: nothing, out of step or in step with the receiver, or waiting for the
acknowledgement of a reset or of a payload. -/
inductive Phase where
  | closed | ready | resetting | sending

/-- Both ends and what is in flight between them. -/
structure Net (α : Type) where
  phase : Phase
  /-- The bit of the next payload. -/
  bit : Bool
  /-- The bit that the receiver expects, once it has been reset. -/
  expect : Option Bool
  msgs : List (Msg α)
  acks : ℕ
  current : Option (α × ℕ)
  sent : List α
  delivered : List (α × ℕ)
  succeeded : List (α × ℕ)

/-- What can happen.  When the timer expires the sender tries again or gives up. -/
inductive Event (α : Type) where
  | send (a : α)
  | receiveMsg
  | receiveAck
  | loseMsg (i : ℕ)
  | loseAck
  | timeout (again : Bool)

namespace Net

/-- The state before anything has been sent. -/
def init : Net α where
  phase := .closed
  bit := false
  expect := none
  msgs := []
  acks := 0
  current := none
  sent := []
  delivered := []
  succeeded := []

/-- The message that repeats the outstanding payload. -/
def dataMsg (s : Net α) (bit : Bool) : List (Msg α) := s.current.toList.map (.data bit)

/-- The receiver takes a message. -/
def receive (s : Net α) : Msg α → Net α
  | .reset => { s with expect := some true, acks := s.acks + 1 }
  | .data b p =>
    if s.expect = none then s
    else if s.expect = some b then
      { s with expect := some (!b), acks := s.acks + 1, delivered := s.delivered ++ [p] }
    else { s with acks := s.acks + 1 }

theorem receive_of_none {s : Net α} {b : Bool} {p : α × ℕ} (h : s.expect = none) :
    s.receive (.data b p) = s := if_pos h

theorem receive_of_eq {s : Net α} {b : Bool} {p : α × ℕ} (h : s.expect = some b) :
    s.receive (.data b p) =
      { s with expect := some (!b), acks := s.acks + 1, delivered := s.delivered ++ [p] } := by
  rw [receive, if_neg (by simp [h]), if_pos h]

theorem receive_of_ne {s : Net α} {b : Bool} {p : α × ℕ} (h : s.expect ≠ none)
    (hb : s.expect ≠ some b) : s.receive (.data b p) = { s with acks := s.acks + 1 } := by
  rw [receive, if_neg h, if_neg hb]

/-- The sender takes an acknowledgement. -/
def acknowledge (s : Net α) : Net α :=
  match s.phase with
  | .resetting => { s with phase := .sending, bit := true, msgs := s.msgs ++ s.dataMsg true }
  | .sending => { s with
      phase := .ready, bit := !s.bit, current := none
      succeeded := s.succeeded ++ s.current.toList }
  | _ => s

/-- One event, if it can happen. -/
def step (s : Net α) : Event α → Option (Net α)
  | .send a =>
    let p := (a, s.sent.length)
    let s' := { s with current := some p, sent := s.sent ++ [a] }
    match s.phase with
    | .closed => some { s' with phase := .resetting, msgs := s.msgs ++ [.reset] }
    | .ready => some { s' with phase := .sending, msgs := s.msgs ++ [.data s.bit p] }
    | _ => none
  | .receiveMsg =>
    match s.msgs with
    | [] => none
    | m :: ms => some (receive { s with msgs := ms } m)
  | .receiveAck => if s.acks = 0 then none else some (acknowledge { s with acks := s.acks - 1 })
  | .loseMsg i => if i < s.msgs.length then some { s with msgs := s.msgs.eraseIdx i } else none
  | .loseAck => if s.acks = 0 then none else some { s with acks := s.acks - 1 }
  | .timeout again =>
    match s.phase with
    | .resetting =>
      if again then some { s with msgs := s.msgs ++ [.reset] }
      else some { s with phase := .closed, current := none }
    | .sending =>
      if again then some { s with msgs := s.msgs ++ s.dataMsg s.bit }
      else some { s with phase := .closed, current := none }
    | _ => none

/-! ## Order

Messages are ranked in the order in which they were sent, and the receiver takes them in the
order of their ranks. -/

/-- The messages in flight with their ranks: a reset of the sending number `k` has the rank `2 * k`,
and its payload `2 * k + 1`.  All that can be told from the ranks when `n` payloads have been sent
is collected here. -/
structure Ranked (A : List (ℕ × Msg α)) (sent : List α) : Prop where
  sorted : A.Pairwise fun p q ↦ p.1 ≤ q.1
  reset : ∀ r, (r, Msg.reset) ∈ A → r % 2 = 0
  data : ∀ r b a k, (r, Msg.data b (a, k)) ∈ A → r = 2 * k + 1 ∧ sent[k]? = some a
  lt : ∀ p ∈ A, p.1 < 2 * sent.length
  bit : ∀ r b b' p p', (r, Msg.data b p) ∈ A → (r, Msg.data b' p') ∈ A → b = b'

/-- Where the receiver stands: it has delivered payloads with numbers below `d` only, nothing older
is in flight, and what is in flight of the last one has the bit it does not expect. -/
structure Past (A : List (ℕ × Msg α)) (sent : List α) (delivered : List (α × ℕ))
    (expect : Option Bool) (d : ℕ) : Prop where
  le : d ≤ sent.length
  delivered : delivered.Sublist (sent.zipIdx.take d)
  rank : ∀ p ∈ A, 2 * d ≤ p.1 + 1
  bit : ∀ r b p, (r, Msg.data b p) ∈ A → r + 1 = 2 * d → expect = some (!b)

/-- Where the sender stands. -/
def Sending (A : List (ℕ × Msg α)) (phase : Phase) (current : Option (α × ℕ)) (sent : List α)
    (bit : Bool) (expect : Option Bool) (d : ℕ) : Prop :=
  match phase with
  | .resetting => ∃ a k, current = some (a, k) ∧ sent.length = k + 1 ∧ sent[k]? = some a ∧
      (∀ p ∈ A, p.1 ≤ 2 * k) ∧ d ≤ k
  | .sending => ∃ a k, current = some (a, k) ∧ sent.length = k + 1 ∧ sent[k]? = some a ∧
      (∀ b p, (2 * k + 1, Msg.data b p) ∈ A → b = bit) ∧ (d = k + 1 → expect = some (!bit))
  | _ => True

/-- **The invariant of every run.** -/
def Ordered (s : Net α) : Prop :=
  ∃ A d, s.msgs = A.map Prod.snd ∧ Ranked A s.sent ∧
    Past A s.sent s.delivered s.expect d ∧
    Sending A s.phase s.current s.sent s.bit s.expect d

theorem ordered_init : (init : Net α).Ordered := by
  refine ⟨[], 0, rfl, ⟨List.Pairwise.nil, ?_, ?_, ?_, ?_⟩, ⟨Nat.zero_le _, ?_, ?_, ?_⟩, trivial⟩
  · exact fun _ h ↦ nomatch h
  · exact fun _ _ _ _ h ↦ nomatch h
  · exact fun _ h ↦ nomatch h
  · exact fun _ _ _ _ _ h ↦ nomatch h
  · exact List.Sublist.refl []
  · exact fun _ h ↦ nomatch h
  · exact fun _ _ _ h ↦ nomatch h

/-- **At most once and in order**: in an ordered state the delivered payloads are some of those that
were sent, with their numbers. -/
theorem Ordered.sublist {s : Net α} (h : s.Ordered) : s.delivered.Sublist s.sent.zipIdx := by
  obtain ⟨A, d, -, -, hpast, -⟩ := h
  exact hpast.delivered.trans (List.take_sublist d _)

/-! ### What stays when messages leave the queue -/

theorem Ranked.sublist {A B : List (ℕ × Msg α)} {sent : List α} (h : Ranked A sent)
    (hB : B.Sublist A) : Ranked B sent where
  sorted := h.sorted.sublist hB
  reset r hr := h.reset r (hB.subset hr)
  data r b a k hr := h.data r b a k (hB.subset hr)
  lt p hp := h.lt p (hB.subset hp)
  bit r b b' p p' h₁ h₂ := h.bit r b b' p p' (hB.subset h₁) (hB.subset h₂)

theorem Past.sublist {A B : List (ℕ × Msg α)} {sent : List α} {delivered : List (α × ℕ)}
    {expect : Option Bool} {d : ℕ} (h : Past A sent delivered expect d) (hB : B.Sublist A) :
    Past B sent delivered expect d where
  le := h.le
  delivered := h.delivered
  rank p hp := h.rank p (hB.subset hp)
  bit r b p hp := h.bit r b p (hB.subset hp)

theorem Sending.sublist {A B : List (ℕ × Msg α)} {phase : Phase} {current : Option (α × ℕ)}
    {sent : List α} {bit : Bool} {expect : Option Bool} {d : ℕ}
    (h : Sending A phase current sent bit expect d) (hB : B.Sublist A) :
    Sending B phase current sent bit expect d := by
  cases phase with
  | closed | ready => trivial
  | resetting =>
    obtain ⟨a, k, h1, h2, h3, h4, h5⟩ := h
    exact ⟨a, k, h1, h2, h3, fun p hp ↦ h4 p (hB.subset hp), h5⟩
  | sending =>
    obtain ⟨a, k, h1, h2, h3, h4, h5⟩ := h
    exact ⟨a, k, h1, h2, h3, fun b p hp ↦ h4 b p (hB.subset hp), h5⟩

/-! ### What stays when a message joins the queue -/

/-- A message may join with a rank that none in the queue exceeds. -/
theorem Ranked.push {A : List (ℕ × Msg α)} {sent : List α} (h : Ranked A sent) {r : ℕ} {m : Msg α}
    (hle : ∀ p ∈ A, p.1 ≤ r) (hlt : r < 2 * sent.length) (hreset : m = .reset → r % 2 = 0)
    (hdata : ∀ b a k, m = .data b (a, k) → r = 2 * k + 1 ∧ sent[k]? = some a)
    (hbit : ∀ b p, m = .data b p → ∀ b' p', (r, Msg.data b' p') ∈ A → b' = b) :
    Ranked (A ++ [(r, m)]) sent where
  sorted := by
    rw [List.pairwise_append]
    refine ⟨h.sorted, List.pairwise_singleton _ _, fun p hp q hq ↦ ?_⟩
    rw [List.mem_singleton.mp hq]
    exact hle p hp
  reset r' hr' := by
    rcases List.mem_append.mp hr' with hr' | hr'
    · exact h.reset r' hr'
    · cases List.mem_singleton.mp hr'
      exact hreset rfl
  data r' b a k hr' := by
    rcases List.mem_append.mp hr' with hr' | hr'
    · exact h.data r' b a k hr'
    · cases List.mem_singleton.mp hr'
      exact hdata b a k rfl
  lt p hp := by
    rcases List.mem_append.mp hp with hp | hp
    · exact h.lt p hp
    · rw [List.mem_singleton.mp hp]
      exact hlt
  bit r' b b' p p' hp hp' := by
    rcases List.mem_append.mp hp with hA | hm <;> rcases List.mem_append.mp hp' with hA' | hm'
    · exact h.bit r' b b' p p' hA hA'
    · cases List.mem_singleton.mp hm'
      exact hbit b' p' rfl b p hA
    · cases List.mem_singleton.mp hm
      exact (hbit b p rfl b' p' hA').symm
    · cases List.mem_singleton.mp hm
      cases List.mem_singleton.mp hm'
      rfl

/-- One more payload has been sent. -/
theorem Ranked.snoc {A : List (ℕ × Msg α)} {sent : List α} (h : Ranked A sent) (a : α) :
    Ranked A (sent ++ [a]) where
  sorted := h.sorted
  reset := h.reset
  data r b a' k hr := by
    obtain ⟨h1, h2⟩ := h.data r b a' k hr
    refine ⟨h1, ?_⟩
    rw [List.getElem?_append_left (List.getElem?_eq_some_iff.mp h2).1, h2]
  lt p hp := by
    have := h.lt p hp
    rw [List.length_append, List.length_singleton]
    omega
  bit := h.bit

/-- The receiver does not notice what the sender does, as long as a message that joins the queue is
not an old one. -/
theorem Past.push {A : List (ℕ × Msg α)} {sent sent' : List α} {delivered : List (α × ℕ)}
    {expect : Option Bool} {d : ℕ} (h : Past A sent delivered expect d) (hsent : sent <+: sent')
    {r : ℕ} {m : Msg α} (hr : 2 * d ≤ r + 1)
    (hbit : ∀ b p, m = .data b p → r + 1 = 2 * d → expect = some (!b)) :
    Past (A ++ [(r, m)]) sent' delivered expect d where
  le := Nat.le_trans h.le hsent.length_le
  delivered := by
    obtain ⟨new, hnew⟩ := hsent
    rw [← hnew, List.zipIdx_append, List.take_append_of_le_length (by
      rw [List.length_zipIdx]; exact h.le)]
    exact h.delivered
  rank p hp := by
    rcases List.mem_append.mp hp with hp | hp
    · exact h.rank p hp
    · rw [List.mem_singleton.mp hp]
      exact hr
  bit r' b p hp hr' := by
    rcases List.mem_append.mp hp with hp | hp
    · exact h.bit r' b p hp hr'
    · cases List.mem_singleton.mp hp
      exact hbit b p rfl hr'

/-! ### The steps

One lemma for each step of the protocol. -/

theorem Ordered.send {s t : Net α} (h : s.Ordered) {a : α} (hs : s.step (.send a) = some t) :
    t.Ordered := by
  obtain ⟨A, d, hmsgs, hranked, hpast, -⟩ := h
  have hlast : (s.sent ++ [a])[s.sent.length]? = some a := by simp
  have hlen : (s.sent ++ [a]).length = s.sent.length + 1 := by simp
  have hold : ∀ p ∈ A, p.1 < 2 * s.sent.length := hranked.lt
  have hle := hpast.le
  simp only [step] at hs
  cases hp : s.phase with
  | closed =>
    simp only [hp, Option.some.injEq] at hs
    subst hs
    refine ⟨A ++ [(2 * s.sent.length, .reset)], d, by simp [hmsgs], ?_, ?_, ?_⟩
    · refine (hranked.snoc a).push (fun p hp ↦ Nat.le_of_lt (hold p hp)) (by omega)
        (fun _ ↦ by omega) (fun _ _ _ h ↦ nomatch h) (fun _ _ h ↦ nomatch h)
    · exact hpast.push (List.prefix_append s.sent [a]) (by omega) (fun _ _ h ↦ nomatch h)
    · refine ⟨a, s.sent.length, rfl, hlen, hlast, fun p hp ↦ ?_, hle⟩
      rcases List.mem_append.mp hp with hp | hp
      · exact Nat.le_of_lt (hold p hp)
      · exact Nat.le_of_eq (congrArg Prod.fst (List.mem_singleton.mp hp))
  | ready =>
    simp only [hp, Option.some.injEq] at hs
    subst hs
    refine ⟨A ++ [(2 * s.sent.length + 1, .data s.bit (a, s.sent.length))], d, by simp [hmsgs],
      ?_, ?_, ?_⟩
    · refine (hranked.snoc a).push (fun p hp ↦ ?_) (by omega) (fun h ↦ nomatch h) ?_ ?_
      · have := hold p hp
        omega
      · rintro b a' k h
        cases h
        exact ⟨rfl, hlast⟩
      · rintro b p - b' p' hmem
        have := hold _ hmem
        simp only at this
        omega
    · exact hpast.push (List.prefix_append s.sent [a]) (by omega) (fun _ _ _ _ ↦ by omega)
    · refine ⟨a, s.sent.length, rfl, hlen, hlast, fun b p hp ↦ ?_, fun _ ↦ by omega⟩
      rcases List.mem_append.mp hp with hp | hp
      · have := hold _ hp
        simp only at this
        omega
      · cases List.mem_singleton.mp hp
        rfl
  | resetting => simp [hp] at hs
  | sending => simp [hp] at hs

/-- Repeating the reset. -/
theorem Ordered.repeatReset {s : Net α} (h : s.Ordered) (hp : s.phase = .resetting) :
    Ordered { s with phase := .resetting, msgs := s.msgs ++ [.reset] } := by
  obtain ⟨A, d, hmsgs, hranked, hpast, hsending⟩ := h
  rw [hp] at hsending
  obtain ⟨a, k, hcur, hlen, hk, hle, hd⟩ := hsending
  refine ⟨A ++ [(2 * k, .reset)], d, by simp [hmsgs], ?_, ?_, ?_⟩
  · exact hranked.push hle (by omega) (fun _ ↦ by omega) (fun _ _ _ h ↦ nomatch h)
      (fun _ _ h ↦ nomatch h)
  · exact hpast.push (List.prefix_refl _) (by omega) (fun _ _ h ↦ nomatch h)
  · refine ⟨a, k, hcur, hlen, hk, fun p hp ↦ ?_, hd⟩
    rcases List.mem_append.mp hp with hp | hp
    · exact hle p hp
    · exact Nat.le_of_eq (congrArg Prod.fst (List.mem_singleton.mp hp))

/-- Sending the outstanding payload, for the first time or again: none with another bit is in
flight, and if it has been delivered then under the bit that is not expected any more. -/
theorem Ordered.sendData {s : Net α} {A : List (ℕ × Msg α)} {d k : ℕ} {a : α} {bit : Bool}
    (hmsgs : s.msgs = A.map Prod.snd) (hranked : Ranked A s.sent)
    (hpast : Past A s.sent s.delivered s.expect d)
    (hcur : s.current = some (a, k)) (hlen : s.sent.length = k + 1) (hk : s.sent[k]? = some a)
    (hbit : ∀ b p, (2 * k + 1, Msg.data b p) ∈ A → b = bit)
    (hd : d = k + 1 → s.expect = some (!bit)) :
    Ordered { s with phase := .sending, bit, msgs := s.msgs ++ s.dataMsg bit } := by
  have hle := hpast.le
  refine ⟨A ++ [(2 * k + 1, .data bit (a, k))], d, ?_, ?_, ?_, ?_⟩
  · simp [hmsgs, dataMsg, hcur]
  · refine hranked.push (fun p hp ↦ ?_) (by omega) (fun h ↦ nomatch h) ?_ ?_
    · have := hranked.lt p hp
      omega
    · rintro b a' k' h
      cases h
      exact ⟨rfl, hk⟩
    · rintro b p h b' p' hmem
      cases h
      exact hbit b' p' hmem
  · refine hpast.push (List.prefix_refl _) (by omega) ?_
    rintro b p h hr
    cases h
    exact hd (by omega)
  · refine ⟨a, k, hcur, hlen, hk, fun b p hp ↦ ?_, hd⟩
    rcases List.mem_append.mp hp with hp | hp
    · exact hbit b p hp
    · cases List.mem_singleton.mp hp
      rfl

theorem Ordered.timeout {s t : Net α} (h : s.Ordered) {again : Bool}
    (hs : s.step (.timeout again) = some t) : t.Ordered := by
  simp only [step] at hs
  have hclose : Ordered { s with phase := .closed, current := none } := by
    obtain ⟨A, d, hmsgs, hranked, hpast, -⟩ := h
    exact ⟨A, d, hmsgs, hranked, hpast, trivial⟩
  cases hp : s.phase with
  | closed => simp [hp] at hs
  | ready => simp [hp] at hs
  | resetting =>
    cases again <;> simp only [hp, if_true, Bool.false_eq_true, if_false, Option.some.injEq] at hs
    · exact hs ▸ hclose
    · have := h.repeatReset hp
      rw [← hs]
      simpa [hp] using this
  | sending =>
    cases again <;> simp only [hp, if_true, Bool.false_eq_true, if_false, Option.some.injEq] at hs
    · exact hs ▸ hclose
    · obtain ⟨A, d, hmsgs, hranked, hpast, hsending⟩ := h
      rw [hp] at hsending
      obtain ⟨a, k, hcur, hlen, hk, hbit, hd⟩ := hsending
      have := Ordered.sendData hmsgs hranked hpast hcur hlen hk hbit hd
      rw [← hs]
      simpa [hp] using this

theorem Ordered.acknowledge {s : Net α} (h : s.Ordered) : s.acknowledge.Ordered := by
  obtain ⟨A, d, hmsgs, hranked, hpast, hsending⟩ := h
  unfold Net.acknowledge
  cases hp : s.phase with
  | closed | ready => exact ⟨A, d, hmsgs, hranked, hpast, by simp only [Sending, hp]⟩
  | resetting =>
    rw [hp] at hsending
    obtain ⟨a, k, hcur, hlen, hk, hle, hd⟩ := hsending
    refine Ordered.sendData hmsgs hranked hpast hcur hlen hk (fun b p hmem ↦ ?_) (by omega)
    have := hle _ hmem
    simp only at this
    omega
  | sending => exact ⟨A, d, hmsgs, hranked, hpast, trivial⟩

/-- The receiver is reset: all that is left in the queue is newer than what has been delivered. -/
theorem Past.reset {B : List (ℕ × Msg α)} {sent : List α} {delivered : List (α × ℕ)}
    {expect : Option Bool} {d r : ℕ} (h : Past ((r, .reset) :: B) sent delivered expect d)
    (hranked : Ranked ((r, .reset) :: B) sent) : Past B sent delivered (some true) d where
  le := h.le
  delivered := h.delivered
  rank p hp := h.rank p (List.mem_cons_of_mem _ hp)
  bit r' b p hp hr' := by
    have hrank := h.rank _ (List.mem_cons_self ..)
    have heven := hranked.reset r (List.mem_cons_self ..)
    have hnext := (List.pairwise_cons.mp hranked.sorted).1 _ hp
    simp only at hrank hnext
    omega

/-- The receiver delivers a payload: the bit it expected was that of a new one. -/
theorem Past.deliver {B : List (ℕ × Msg α)} {sent : List α} {delivered : List (α × ℕ)}
    {d r k : ℕ} {a : α} {b : Bool}
    (h : Past ((r, .data b (a, k)) :: B) sent delivered (some b) d)
    (hranked : Ranked ((r, .data b (a, k)) :: B) sent) :
    d ≤ k ∧ Past B sent (delivered ++ [(a, k)]) (some (!b)) (k + 1) := by
  have hmem : (r, Msg.data b (a, k)) ∈ (r, Msg.data b (a, k)) :: B := List.mem_cons_self ..
  obtain ⟨hr, hk⟩ := hranked.data r b a k hmem
  have hrank := h.rank _ hmem
  simp only at hrank
  have hdk : d ≤ k := by
    by_contra hlt
    have := h.bit r b _ hmem (by omega)
    cases b <;> simp at this
  refine ⟨hdk, (List.getElem?_eq_some_iff.mp hk).1, ?_, fun p hp ↦ ?_, fun r' b' p hp hr' ↦ ?_⟩
  · rw [List.take_add_one, List.getElem?_zipIdx, hk]
    refine List.Sublist.append ?_ (by simp)
    exact h.delivered.trans (List.take_prefix_take_left hdk).sublist
  · have := (List.pairwise_cons.mp hranked.sorted).1 p hp
    simp only at this
    omega
  · obtain rfl : r' = r := by omega
    rw [hranked.bit r' b' b p (a, k) (List.mem_cons_of_mem _ hp) hmem]

/-- The sender waits for the acknowledgement of the payload that is delivered, or of a later one. -/
theorem Sending.deliver {B : List (ℕ × Msg α)} {phase : Phase} {current : Option (α × ℕ)}
    {sent : List α} {bit b : Bool} {expect : Option Bool} {d r k : ℕ} {p : α × ℕ}
    (h : Sending ((r, .data b p) :: B) phase current sent bit expect d)
    (hmem : (r, Msg.data b p) ∈ (r, Msg.data b p) :: B) (hr : r = 2 * k + 1) :
    Sending B phase current sent bit (some (!b)) (k + 1) := by
  have hB : B.Sublist ((r, Msg.data b p) :: B) := List.sublist_cons_self _ B
  cases phase with
  | closed | ready => trivial
  | resetting =>
    obtain ⟨a', k', hcur, hlen, hk', hle, -⟩ := h
    have := hle _ hmem
    simp only at this
    exact ⟨a', k', hcur, hlen, hk', fun p hp ↦ hle p (hB.subset hp), by omega⟩
  | sending =>
    obtain ⟨a', k', hcur, hlen, hk', hbit, -⟩ := h
    refine ⟨a', k', hcur, hlen, hk', fun b p hp ↦ hbit b p (hB.subset hp), fun hd ↦ ?_⟩
    obtain rfl : k = k' := by omega
    subst hr
    rw [hbit b _ hmem]

/-- The receiver takes the first message of the queue. -/
theorem Ordered.receive {s : Net α} {m : Msg α} {ms : List (Msg α)} (h : s.Ordered)
    (hm : s.msgs = m :: ms) : (Net.receive { s with msgs := ms } m).Ordered := by
  obtain ⟨A, d, hmsgs, hranked, hpast, hsending⟩ := h
  rw [hm] at hmsgs
  cases A with
  | nil => cases hmsgs
  | cons first B =>
    obtain ⟨r, m'⟩ := first
    obtain ⟨rfl, hms⟩ := List.cons.inj hmsgs
    have hB : B.Sublist ((r, m) :: B) := List.sublist_cons_self _ B
    have hmem : (r, m) ∈ (r, m) :: B := List.mem_cons_self ..
    cases m with
    | reset =>
      refine ⟨B, d, hms, hranked.sublist hB, hpast.reset hranked, ?_⟩
      cases hp : s.phase with
      | closed | ready => simp only [Net.receive, Sending]
      | resetting =>
        simp only [Net.receive]
        rw [hp] at hsending
        exact hsending.sublist hB
      | sending =>
        simp only [Net.receive]
        rw [hp] at hsending
        obtain ⟨a, k, hcur, hlen, hk, hbit, -⟩ := hsending.sublist hB
        -- a reset is not sent any more, so the payload has not been delivered
        have hrank := hpast.rank _ hmem
        have hlt := hranked.lt _ hmem
        have heven := hranked.reset r hmem
        simp only at hrank hlt
        exact ⟨a, k, hcur, hlen, hk, hbit, fun hd ↦ by omega⟩
    | data b p =>
      obtain ⟨a, k⟩ := p
      have hkeep : Past B s.sent s.delivered s.expect d := hpast.sublist hB
      by_cases hnone : s.expect = none
      · rw [receive_of_none]
        · exact ⟨B, d, hms, hranked.sublist hB, hkeep, hsending.sublist hB⟩
        · exact hnone
      · by_cases hb : s.expect = some b
        · rw [hb] at hpast
          obtain ⟨hdk, hpast'⟩ := hpast.deliver hranked
          obtain ⟨hr, -⟩ := hranked.data r b a k hmem
          rw [receive_of_eq]
          · refine ⟨B, k + 1, hms, hranked.sublist hB, hpast', ?_⟩
            exact hsending.deliver hmem hr
          · exact hb
        · rw [receive_of_ne]
          · exact ⟨B, d, hms, hranked.sublist hB, hkeep, hsending.sublist hB⟩
          · exact hnone
          · exact hb

/-- Any message may get lost. -/
theorem Ordered.lose {s : Net α} (h : s.Ordered) (i : ℕ) :
    Ordered { s with msgs := s.msgs.eraseIdx i } := by
  obtain ⟨A, d, hmsgs, hranked, hpast, hsending⟩ := h
  have hB := A.eraseIdx_sublist i
  exact ⟨A.eraseIdx i, d, by simp [hmsgs, List.eraseIdx_map], hranked.sublist hB, hpast.sublist hB,
    hsending.sublist hB⟩

/-- **The step lemma**: whatever happens, order is kept. -/
theorem Ordered.step {s t : Net α} {e : Event α} (h : s.Ordered) (hs : s.step e = some t) :
    t.Ordered := by
  cases e with
  | send a => exact h.send hs
  | receiveMsg =>
    simp only [Net.step] at hs
    cases hm : s.msgs with
    | nil => simp [hm] at hs
    | cons m ms =>
      simp only [hm, Option.some.injEq] at hs
      exact hs ▸ h.receive hm
  | receiveAck =>
    simp only [Net.step] at hs
    split at hs
    · cases hs
    · cases hs
      exact Ordered.acknowledge (s := { s with acks := s.acks - 1 }) h
  | loseMsg i =>
    simp only [Net.step] at hs
    split at hs
    · cases hs
      exact h.lose i
    · cases hs
  | loseAck =>
    simp only [Net.step] at hs
    split at hs
    · cases hs
    · cases hs
      exact h
  | timeout again => exact h.timeout hs

/-! ## Success

That the sender is told of a success says that the receiver has the message only if no
acknowledgement is late, which is what a quiet timer sees to. -/

/-- The timer expires only when nothing is in flight. -/
def Quiet (s : Net α) : Event α → Prop
  | .timeout _ => s.msgs = [] ∧ s.acks = 0
  | _ => True

/-- The receiver has or has not taken the outstanding payload, and expects a bit accordingly. -/
def Taken (bit : Bool) (expect : Option Bool) (delivered : List (α × ℕ)) (p : α × ℕ) : Prop :=
  expect = some bit ∨ expect = some (!bit) ∧ p ∈ delivered

/-- What is in flight, by phase: at most one message, and an acknowledgement only of what is
outstanding. -/
def InFlight (phase : Phase) (bit : Bool) (expect : Option Bool) (msgs : List (Msg α)) (acks : ℕ)
    (current : Option (α × ℕ)) (delivered : List (α × ℕ)) : Prop :=
  match phase with
  | .closed => msgs = [] ∧ acks = 0
  | .ready => msgs = [] ∧ acks = 0 ∧ expect = some bit
  | .resetting => ∃ p, current = some p ∧
    ((msgs = [.reset] ∧ acks = 0) ∨ (msgs = [] ∧ acks = 0) ∨
      (msgs = [] ∧ acks = 1 ∧ expect = some true))
  | .sending => ∃ p, current = some p ∧
    ((msgs = [.data bit p] ∧ acks = 0 ∧ Taken bit expect delivered p) ∨
      (msgs = [] ∧ acks = 0 ∧ Taken bit expect delivered p) ∨
      (msgs = [] ∧ acks = 1 ∧ expect = some (!bit) ∧ p ∈ delivered))

/-- **The invariant of the runs with a quiet timer.** -/
structure Settled (s : Net α) : Prop where
  inFlight : InFlight s.phase s.bit s.expect s.msgs s.acks s.current s.delivered
  succeeded : ∀ p ∈ s.succeeded, p ∈ s.delivered

theorem settled_init : (init : Net α).Settled where
  inFlight := ⟨rfl, rfl⟩
  succeeded _ h := nomatch h

theorem Settled.receive {s : Net α} {m : Msg α} {ms : List (Msg α)} (h : s.Settled)
    (hm : s.msgs = m :: ms) : (Net.receive { s with msgs := ms } m).Settled := by
  obtain ⟨hflight, hsucc⟩ := h
  rw [hm] at hflight
  cases hp : s.phase with
  | closed | ready =>
    rw [hp] at hflight
    exact absurd hflight.1 (List.cons_ne_nil _ _)
  | resetting =>
    rw [hp] at hflight
    obtain ⟨p, hcur, ⟨hmsg, hacks⟩ | ⟨hmsg, -⟩ | ⟨hmsg, -⟩⟩ := hflight
    · obtain ⟨rfl, rfl⟩ := List.cons.inj hmsg
      refine ⟨⟨p, hcur, .inr (.inr ⟨rfl, ?_, rfl⟩)⟩, hsucc⟩
      change s.acks + 1 = 1
      rw [hacks]
    · cases hmsg
    · cases hmsg
  | sending =>
    rw [hp] at hflight
    obtain ⟨p, hcur, ⟨hmsg, hacks, htaken⟩ | ⟨hmsg, -⟩ | ⟨hmsg, -⟩⟩ := hflight
    · obtain ⟨rfl, rfl⟩ := List.cons.inj hmsg
      have hone : s.acks + 1 = 1 := by rw [hacks]
      rcases htaken with hexp | ⟨hexp, hdel⟩
      · rw [receive_of_eq]
        · refine ⟨⟨p, hcur, .inr (.inr ⟨rfl, hone, rfl, by simp⟩)⟩, fun q hq ↦ ?_⟩
          exact List.mem_append_left _ (hsucc q hq)
        · exact hexp
      · rw [receive_of_ne]
        · exact ⟨⟨p, hcur, .inr (.inr ⟨rfl, hone, hexp, hdel⟩)⟩, hsucc⟩
        · exact fun h ↦ by simp [hexp] at h
        · exact fun h ↦ by simp [hexp] at h
    · cases hmsg
    · cases hmsg

theorem Settled.acknowledge {s : Net α} (h : s.Settled) (hacks : s.acks ≠ 0) :
    (Net.acknowledge { s with acks := s.acks - 1 }).Settled := by
  obtain ⟨hflight, hsucc⟩ := h
  cases hp : s.phase with
  | closed =>
    rw [hp] at hflight
    exact absurd hflight.2 hacks
  | ready =>
    rw [hp] at hflight
    exact absurd hflight.2.1 hacks
  | resetting =>
    rw [hp] at hflight
    obtain ⟨p, hcur, ⟨-, h0⟩ | ⟨-, h0⟩ | ⟨hmsgs, hone, hexp⟩⟩ := hflight
    · exact absurd h0 hacks
    · exact absurd h0 hacks
    · refine ⟨⟨p, hcur, .inl ⟨?_, ?_, .inl hexp⟩⟩, hsucc⟩
      · change s.msgs ++ s.current.toList.map (.data true) = [.data true p]
        rw [hmsgs, hcur]
        rfl
      · change s.acks - 1 = 0
        rw [hone]
  | sending =>
    rw [hp] at hflight
    obtain ⟨p, hcur, ⟨-, h0, -⟩ | ⟨-, h0, -⟩ | ⟨hmsgs, hone, hexp, hdel⟩⟩ := hflight
    · exact absurd h0 hacks
    · exact absurd h0 hacks
    · refine ⟨⟨hmsgs, ?_, hexp⟩, fun q hq ↦ ?_⟩
      · change s.acks - 1 = 0
        rw [hone]
      · rcases List.mem_append.mp hq with hq | hq
        · exact hsucc q hq
        · simp only [hcur, Option.toList_some, List.mem_singleton] at hq
          exact hq ▸ hdel

/-- A message that was alone in the queue leaves it empty. -/
theorem InFlight.lose {phase : Phase} {bit : Bool} {expect : Option Bool} {msgs : List (Msg α)}
    {acks : ℕ} {current : Option (α × ℕ)} {delivered : List (α × ℕ)}
    (h : InFlight phase bit expect msgs acks current delivered) {i : ℕ} (hi : i < msgs.length) :
    InFlight phase bit expect (msgs.eraseIdx i) acks current delivered := by
  have hone : ∀ m, msgs = [m] → msgs.eraseIdx i = [] := by
    rintro m rfl
    obtain rfl : i = 0 := by
      rw [List.length_singleton] at hi
      omega
    rfl
  have hnil : msgs ≠ [] := by
    rintro rfl
    cases hi
  cases phase with
  | closed | ready => exact absurd h.1 hnil
  | resetting =>
    obtain ⟨p, hcur, ⟨hmsg, hacks⟩ | ⟨hmsg, -⟩ | ⟨hmsg, -⟩⟩ := h
    · exact ⟨p, hcur, .inr (.inl ⟨hone _ hmsg, hacks⟩)⟩
    · exact absurd hmsg hnil
    · exact absurd hmsg hnil
  | sending =>
    obtain ⟨p, hcur, ⟨hmsg, hacks, htaken⟩ | ⟨hmsg, -⟩ | ⟨hmsg, -⟩⟩ := h
    · exact ⟨p, hcur, .inr (.inl ⟨hone _ hmsg, hacks, htaken⟩)⟩
    · exact absurd hmsg hnil
    · exact absurd hmsg hnil

/-- An acknowledgement that is lost was the only one. -/
theorem InFlight.loseAck {phase : Phase} {bit : Bool} {expect : Option Bool} {msgs : List (Msg α)}
    {acks : ℕ} {current : Option (α × ℕ)} {delivered : List (α × ℕ)}
    (h : InFlight phase bit expect msgs acks current delivered) (hacks : acks ≠ 0) :
    InFlight phase bit expect msgs (acks - 1) current delivered := by
  cases phase with
  | closed => exact absurd h.2 hacks
  | ready => exact absurd h.2.1 hacks
  | resetting =>
    obtain ⟨p, hcur, ⟨-, h0⟩ | ⟨-, h0⟩ | ⟨hmsg, hone, -⟩⟩ := h
    · exact absurd h0 hacks
    · exact absurd h0 hacks
    · exact ⟨p, hcur, .inr (.inl ⟨hmsg, by rw [hone]⟩)⟩
  | sending =>
    obtain ⟨p, hcur, ⟨-, h0, -⟩ | ⟨-, h0, -⟩ | ⟨hmsg, hone, hexp, hdel⟩⟩ := h
    · exact absurd h0 hacks
    · exact absurd h0 hacks
    · exact ⟨p, hcur, .inr (.inl ⟨hmsg, by rw [hone], .inr ⟨hexp, hdel⟩⟩)⟩

/-- **The step lemma with a quiet timer.** -/
theorem Settled.step {s t : Net α} {e : Event α} (h : s.Settled) (hq : s.Quiet e)
    (hs : s.step e = some t) : t.Settled := by
  cases e with
  | send a =>
    obtain ⟨hflight, hsucc⟩ := h
    simp only [Net.step] at hs
    cases hp : s.phase with
    | closed =>
      rw [hp] at hflight
      simp only [hp, Option.some.injEq] at hs
      subst hs
      exact ⟨⟨_, rfl, .inl ⟨by simp [hflight.1], hflight.2⟩⟩, hsucc⟩
    | ready =>
      rw [hp] at hflight
      simp only [hp, Option.some.injEq] at hs
      subst hs
      exact ⟨⟨_, rfl, .inl ⟨by simp [hflight.1], hflight.2.1, .inl hflight.2.2⟩⟩, hsucc⟩
    | resetting => simp [hp] at hs
    | sending => simp [hp] at hs
  | receiveMsg =>
    simp only [Net.step] at hs
    cases hm : s.msgs with
    | nil => simp [hm] at hs
    | cons m ms =>
      simp only [hm, Option.some.injEq] at hs
      exact hs ▸ h.receive hm
  | receiveAck =>
    simp only [Net.step] at hs
    split at hs
    · cases hs
    · next hacks =>
      cases hs
      exact h.acknowledge hacks
  | loseMsg i =>
    simp only [Net.step] at hs
    split at hs
    · next hi =>
      cases hs
      exact ⟨h.inFlight.lose hi, h.succeeded⟩
    · cases hs
  | loseAck =>
    simp only [Net.step] at hs
    split at hs
    · cases hs
    · next hacks =>
      cases hs
      exact ⟨h.inFlight.loseAck hacks, h.succeeded⟩
  | timeout again =>
    obtain ⟨hmsgs, hacks⟩ := hq
    obtain ⟨hflight, hsucc⟩ := h
    simp only [Net.step] at hs
    cases hp : s.phase with
    | closed => simp [hp] at hs
    | ready => simp [hp] at hs
    | resetting =>
      rw [hp] at hflight
      obtain ⟨p, hcur, -⟩ := hflight
      cases again <;> simp only [hp, if_true, Bool.false_eq_true, if_false, Option.some.injEq] at hs
      · exact hs ▸ ⟨⟨hmsgs, hacks⟩, hsucc⟩
      · exact hs ▸ ⟨⟨p, hcur, .inl ⟨by simp [hmsgs], hacks⟩⟩, hsucc⟩
    | sending =>
      rw [hp] at hflight
      obtain ⟨p, hcur, ⟨hbad, -⟩ | ⟨-, -, htaken⟩ | ⟨-, hone, -⟩⟩ := hflight
      · rw [hmsgs] at hbad
        cases hbad
      · cases again <;>
          simp only [hp, if_true, Bool.false_eq_true, if_false, Option.some.injEq] at hs
        · exact hs ▸ ⟨⟨hmsgs, hacks⟩, hsucc⟩
        · exact hs ▸ ⟨⟨p, hcur, .inl ⟨by simp [hmsgs, dataMsg, hcur], hacks, htaken⟩⟩, hsucc⟩
      · rw [hacks] at hone
        cases hone

end Net

end StopAndWait
