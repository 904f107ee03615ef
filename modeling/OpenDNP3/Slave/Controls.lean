import OpenDNP3.App.Grammar
import OpenDNP3.Slave.Slave

/-!
# How far a request with commands gets

`SELECT`, `OPERATE` and `DIRECT_OPERATE` are executed while their response is written.  Each header
of the request starts a block of the response, for as many objects as there is room for, and its
commands are passed on one by one, each before its status is written.  When the block is full, the
writer throws, and what has been passed on is not undone.

* `Slave.handled` — the headers that have been gotten to in the end, with the room that they have
  found, and `Slave.passed` — the commands that have been passed on, as functions of the request and
  of the size of the response.
* `Slave.Handles` — what the functions that commands are passed to have to keep.
* `Slave.Handles.wp_forEachCommand` — **the rule for the loop over the headers**.
-/

set_option autoImplicit false

namespace OpenDNP3

open Handler

/-! ## The objects of a header -/

namespace ObjectReadIterator

/-- The objects from the current one on, so many at most. -/
def walk : ℕ → ObjectReadIterator → List ObjectReadIterator
  | 0, _ => []
  | n + 1, it =>
    it :: match it.next with
      | .ok it' => walk n it'
      | .error _ => []

/-- The iterator is at the object of a header with this number. -/
structure At (r : APDU) (h : HeaderInfo) (k : ℕ) (it : ObjectReadIterator) : Prop where
  header : it.mHeaderInfo = h
  buffer : it.mpBuffer = r.mBuffer
  data : it.mHasData = hasData r.getFunction
  num : it.mCurrentObjectNum = k
  index : it.isEnd = false → it.calcIndex = .ok it.mIndex

variable {r : APDU} {h : HeaderInfo} {k n : ℕ} {it it' : ObjectReadIterator}

theorem calcIndex_of_setObjectInfo (heq : it.setObjectInfo = .ok it') :
    it'.calcIndex = .ok it'.mIndex := by
  obtain ⟨n, hn, heq⟩ := except_bind_eq_ok.mp heq
  obtain rfl := Except.ok.inj heq
  exact hn

/-- The index of the next object has been found. -/
theorem calcIndex_of_next (heq : it.next = .ok it') (hend : it'.isEnd = false) :
    it'.calcIndex = .ok it'.mIndex := by
  rw [next] at heq
  simp only [bind, Except.bind, throw, throwThe, MonadExceptOf.throw, pure, Except.pure] at heq
  repeat' split at heq
  all_goals try contradiction
  · next hend' =>
    obtain rfl := Except.ok.inj heq
    exact absurd (hend.symm.trans hend') Bool.false_ne_true
  all_goals exact calcIndex_of_setObjectInfo heq

theorem calcIndex_of_beginRead {aBuffer : List Byte} {d : Bool}
    (heq : beginRead h aBuffer d = .ok it)
    (hend : it.isEnd = false) : it.calcIndex = .ok it.mIndex := by
  rw [beginRead] at heq
  simp only [bind, Except.bind, pure, Except.pure] at heq
  repeat' split at heq
  all_goals try contradiction
  · next hend' =>
    obtain rfl := Except.ok.inj heq
    exact absurd (hend.symm.trans hend') Bool.false_ne_true
  · next hset _ =>
    obtain rfl := Except.ok.inj heq
    exact (calcIndex_of_setObjectInfo hset :)
  · next hset _ =>
    obtain rfl := Except.ok.inj heq
    exact calcIndex_of_setObjectInfo hset

theorem At.isEnd (hat : At r h k it) : it.isEnd = true ↔ h.mCount ≤ k := by
  rw [ObjectReadIterator.isEnd, count, hat.header, hat.num]
  exact decide_eq_true_iff

/-- To start reading is to be at the first object. -/
theorem at_beginRead (hacc : h.Accepted) :
    ∃ it, beginRead h r.mBuffer (hasData r.getFunction) = .ok it ∧ At r h 0 it := by
  obtain ⟨it, hit, hhdr, hnum, hbuf, hdata⟩ := beginRead_of_accepted hacc r.mBuffer
    (hasData r.getFunction)
  exact ⟨it, hit, hhdr, hbuf, hdata, hnum, calcIndex_of_beginRead hit⟩

/-- From an object to the next one. -/
theorem At.next (hat : At r h k it) (hacc : h.Accepted)
    (hstep : Steppable (hasData r.getFunction) h.mObjectBase.getType) (hk : k < h.mCount) :
    ∃ it', it.next = .ok it' ∧ At r h (k + 1) it' := by
  have hend : it.isEnd = false := by
    rw [Bool.eq_false_iff, Ne, hat.isEnd]
    omega
  obtain ⟨it', hnext, hhdr, hnum, hbuf, hdata⟩ :=
    next_of_accepted (hat.header ▸ hacc) hend (by rw [hat.data, hat.header]; exact hstep)
  exact ⟨it', hnext, hhdr.trans hat.header, hbuf.trans hat.buffer, hdata.trans hat.data,
    hnum.trans (congrArg (· + 1) hat.num), calcIndex_of_next hnext⟩

/-- The objects that are left. -/
theorem At.walk (hat : At r h k it) (hacc : h.Accepted)
    (hstep : Steppable (hasData r.getFunction) h.mObjectBase.getType) (hn : k + n = h.mCount) :
    (it.walk n).length = n ∧ ∀ j ∈ it.walk n, ∃ i, i < h.mCount ∧ At r h i j := by
  induction n generalizing it k with
  | zero => exact ⟨rfl, fun j hj ↦ absurd hj List.not_mem_nil⟩
  | succ n ih =>
    obtain ⟨it', hnext, hat'⟩ := hat.next hacc hstep (by omega)
    obtain ⟨hlen, hall⟩ := ih hat' (by omega)
    rw [ObjectReadIterator.walk, hnext]
    refine ⟨by rw [List.length_cons, hlen], fun j hj ↦ ?_⟩
    rcases List.mem_cons.mp hj with rfl | hj
    · exact ⟨k, by omega, hat⟩
    · exact hall j hj

end ObjectReadIterator

/-- The objects of a header, as `ObjectReadIterator` goes through them. -/
def APDU.objects (r : APDU) (h : HeaderInfo) : List ObjectReadIterator :=
  match ObjectReadIterator.beginRead h r.mBuffer (hasData r.getFunction) with
  | .ok it => it.walk h.mCount
  | .error _ => []

/-! ## The objects of commands -/

namespace Slave

namespace CommandObject

variable {o : CommandObject} {h : HeaderInfo}

theorem mem_known_of_get {n : ℕ} (hget : get n = some o) :
    o ∈ known ∧ radix o.base.getGroup o.base.getVariation = n :=
  ⟨List.mem_of_find?_eq_some hget, of_decide_eq_true (List.find?_some hget :)⟩

theorem getType_of_get {n : ℕ} (hget : get n = some o) : o.base.getType = .fixed o.size := by
  have hall : ∀ o ∈ known, o.base.getType = .fixed o.size := by decide
  exact hall o (mem_known_of_get hget).1

/-- The parser and the handlers of commands find the same object. -/
theorem base_of_get (hget : get h.radix = some o) (hacc : h.Accepted) : h.mObjectBase = o.base := by
  have hall : ∀ o ∈ known, ObjectBase.known.find?
      (fun p ↦ radix p.getGroup p.getVariation = radix o.base.getGroup o.base.getVariation) =
        some o.base := by decide
  obtain ⟨hmem, hradix⟩ := mem_known_of_get hget
  have hobject := hacc.object
  have hfound := hall o hmem
  rw [hradix, HeaderInfo.radix] at hfound
  rw [ObjectBase.get, hfound] at hobject
  exact (Option.some.inj hobject).symm

/-- The commands of a header can be read one after the other. -/
theorem steppable_of_get (hget : get h.radix = some o) (hacc : h.Accepted) (d : Bool) :
    ObjectReadIterator.Steppable d h.mObjectBase.getType := by
  rw [base_of_get hget hacc, getType_of_get hget]
  exact fun _ ↦ .inl ⟨_, rfl⟩

/-- The prefix and the qualifier of commands. -/
theorem prefixSize_of_get (hget : get h.radix = some o) (hacc : h.Accepted) :
    h.mQualifier.Suits (.fixed o.size) ∧ h.mPrefixSize = h.mQualifier.indexSize := by
  have hpre := hacc.prefixSize
  rw [base_of_get hget hacc, getType_of_get hget] at hpre
  exact (getPrefixSizeAndValidate_eq_ok (by simp)).mp hpre

end CommandObject

/-- The type of the command that an iterator is at. -/
def commandType (it : ObjectReadIterator) : Option CommandTypes :=
  (CommandObject.get it.mHeaderInfo.radix).map (·.type)

/-! ## What the request and the size of the response decide -/

/-- How many commands of a header go into so many octets, behind the header. -/
def room (o : CommandObject) (h : HeaderInfo) (aRemainder : ℕ) : ℕ :=
  (aRemainder - h.mHeader.getSize) / (o.size + h.mPrefixSize)

/-- The octets of the block that is started for a header, if there is room for a command. -/
def blockSize (o : CommandObject) (h : HeaderInfo) (aRemainder : ℕ) : ℕ :=
  if room o h aRemainder = 0 then 0
  else h.mHeader.getSize + min h.mCount (room o h aRemainder) * (o.size + h.mPrefixSize)

/-- A header of commands, with the number of them for which there is room. -/
structure Handled where
  header : HeaderInfo
  object : CommandObject
  room : ℕ
  deriving DecidableEq, Repr

/-- **The headers that are gotten to.**  A header without commands is passed over.  The last is one
that has more commands than there is room for, or the one before a header whose qualifier has no
count. -/
def handled : (aRemainder : ℕ) → List HeaderInfo → List Handled
  | _, [] => []
  | rem, h :: hs =>
    match CommandObject.get h.radix with
    | none => handled rem hs
    | some o =>
      if h.mHeader.isCount then
        ⟨h, o, room o h rem⟩ ::
          if h.mCount ≤ room o h rem then handled (rem - blockSize o h rem) hs else []
      else []

/-- The loop gets to the end of the headers. -/
def Completes : (aRemainder : ℕ) → List HeaderInfo → Prop
  | _, [] => True
  | rem, h :: hs =>
    match CommandObject.get h.radix with
    | none => Completes rem hs
    | some o =>
      h.mHeader.isCount = true ∧ h.mCount ≤ room o h rem ∧ Completes (rem - blockSize o h rem) hs

/-- **The commands that are passed on**: of each header as many as there is room for and one more,
but no more than the limit. -/
def passed (r : APDU) (aMaxControls : ℕ) (l : List Handled) : List ObjectReadIterator :=
  l.flatMap fun x ↦ ((r.objects x.header).take (x.room + 1)).take aMaxControls

theorem mem_handled {x : Handled} {rem : ℕ} {hs : List HeaderInfo} (hx : x ∈ handled rem hs) :
    x.header ∈ hs ∧ CommandObject.get x.header.radix = some x.object := by
  induction hs generalizing rem with
  | nil => exact absurd hx List.not_mem_nil
  | cons h hs ih =>
    rw [handled] at hx
    split at hx
    · exact (ih hx).imp (List.mem_cons_of_mem h) id
    · next o hget =>
      split at hx
      · rcases List.mem_cons.mp hx with rfl | hx
        · exact ⟨List.mem_cons_self, hget⟩
        · split at hx
          · exact (ih hx).imp (List.mem_cons_of_mem h) id
          · exact absurd hx List.not_mem_nil
      · exact absurd hx List.not_mem_nil

/-! ## The loop over the commands of a header -/

/-- What holds of some right-hand side holds of some left-hand side. -/
theorem exists_mem_iff_of_forall₂ {α β : Type} {R : α → β → Prop} {P : β → Prop} {Q : α → Prop}
    {l : List α} {l' : List β} (h : List.Forall₂ R l l') (hPQ : ∀ a ∈ l, ∀ b, R a b → (P b ↔ Q a)) :
    (∃ b ∈ l', P b) ↔ ∃ a ∈ l, Q a := by
  induction h with
  | nil => simp
  | cons hab _ ih =>
    rw [List.exists_mem_cons_iff, List.exists_mem_cons_iff, hPQ _ List.mem_cons_self _ hab,
      ih fun a ha ↦ hPQ a (List.mem_cons_of_mem _ ha)]

/-- What is written for a command: its index, and its octets with a status. -/
def echo (ν : Type) [SetpointValue ν] (o : CommandObject) (it : ObjectReadIterator)
    (aStatus : CommandStatus) :
    ℕ × List Byte :=
  (it.mIndex,
    o.write (o.read it.mpBuffer (it.mpPrefixPos + it.mHeaderInfo.mPrefixSize) : Command ν) aStatus)

/-- The status of a command is `TOO_MANY_OPS` beyond the limit, and else what it has been answered
with. -/
def Echoes (ν : Type) [SetpointValue ν] (aMaxControls : ℕ) (S : CommandStatus → Prop)
    (o : CommandObject) (it : ObjectReadIterator) (a : ℕ × List Byte) : Prop :=
  ∃ aStatus, a = echo ν o it aStatus ∧
    if it.mCurrentObjectNum + 1 > aMaxControls then aStatus = .tooManyOps else S aStatus

/-- Objects are written into the last block, one after the other. -/
def pushObjects (f : OutAPDU (List Byte)) (l : List (ℕ × List Byte)) : OutAPDU (List Byte) :=
  l.foldl (fun f a ↦ f.pushObject a.1 a.2) f

variable {ν ρ υ : Type} [SetpointValue ν]

/-- **What the function that commands are passed to has to keep**: a predicate on the commands that
have been passed to it so far. -/
structure Handles (aMaxControls : ℕ)
    (arFunc : HeaderInfo → CommandTypes → Command ν → ℕ → M ν ρ CommandStatus)
    (S : CommandStatus → Prop) (I : List ObjectReadIterator → Slave ν ρ → Prop) : Prop where
  config : ∀ l s, I l s → s.mConfig.mMaxControls = aMaxControls
  response : ∀ l s f, I l s → I l { s with mResponse := f }
  rspIIN : ∀ l s iin, I l s → I l { s with mRspIIN := iin }
  func : ∀ l s it o val, CommandObject.get it.mHeaderInfo.radix = some o → I l s →
    wp (arFunc it.mHeaderInfo o.type val it.mIndex)
      (fun st t ↦ S st ∧ t.mResponse = s.mResponse ∧ I (l ++ [it]) t) (fun _ _ ↦ False) s

/-- The exception is not the one that `DoRequest` catches. -/
def Escapes (e : Exception) : Prop := ∀ m, e ≠ .notSupported m

variable {aMax : ℕ} {arFunc : HeaderInfo → CommandTypes → Command ν → ℕ → M ν ρ CommandStatus}
  {S : CommandStatus → Prop} {I : List ObjectReadIterator → Slave ν ρ → Prop} {r : APDU}
    {h : HeaderInfo}
  {o : CommandObject} {s : Slave ν ρ} {l : List ObjectReadIterator}

omit [SetpointValue ν] in
/-- The status of a command, which is passed on only below the limit. -/
theorem Handles.wp_status (hH : Handles aMax arFunc S I) {it : ObjectReadIterator} {k : ℕ}
    (hat : it.At r h k) (hget : CommandObject.get h.radix = some o) (hs : I l s) (val : Command ν) :
    wp (if it.mCurrentObjectNum + 1 > aMax then pure .tooManyOps else arFunc h o.type val it.mIndex)
      (fun st t ↦ (if it.mCurrentObjectNum + 1 > aMax then st = .tooManyOps else S st) ∧
        t.mResponse = s.mResponse ∧ I (l ++ [it].take (aMax - k)) t) (fun _ _ ↦ False) s := by
  by_cases hmany : it.mCurrentObjectNum + 1 > aMax
  · rw [if_pos hmany, wp_pure, if_pos hmany, Nat.sub_eq_zero_of_le
        (by rw [hat.num] at hmany; omega),
      List.take_zero, List.append_nil]
    exact ⟨rfl, rfl, hs⟩
  · have htake : [it].take (aMax - k) = [it] := by
      rw [hat.num] at hmany
      exact List.take_of_length_le (by rw [List.length_singleton]; omega)
    rw [if_neg hmany, htake]
    refine wp_mono (hat.header ▸ hH.func l s it o val (hat.header ▸ hget) hs) (fun st t ht ↦ ?_)
      fun _ _ he ↦ he
    rw [if_neg hmany]
    exact ht

/-- **The loop over the commands of a header.**  It ends when there is room for all that are left,
and else it throws when the first one for which there is none has been passed on. -/
theorem Handles.wp_respondLoop (hH : Handles aMax arFunc S I) (hacc : h.Accepted)
    (hget : CommandObject.get h.radix = some o) (hdata : hasData r.getFunction = true) {n k : ℕ}
    {it : ObjectReadIterator} {i : IndexedWriteIterator} (hi : i.mIndexSet = false)
    (hmode : ∀ k j, ObjectReadIterator.At r h k j → j.isEnd = false →
      i.mMaxIndex.any (j.mIndex > ·) = false)
    (hat : it.At r h k) (hn : k + n = h.mCount) (hs : I l s) :
    wp (respondLoop o (arFunc h o.type) n it i)
      (fun _ t ↦ n ≤ i.mCount - i.mIndex ∧ I (l ++ (it.walk n).take (aMax - k)) t ∧
        ∃ objs, List.Forall₂ (Echoes ν aMax S o) (it.walk n) objs ∧
          t.mResponse = pushObjects s.mResponse objs)
      (fun e t ↦ i.mCount - i.mIndex < n ∧ Escapes e ∧
        I (l ++ ((it.walk n).take (i.mCount - i.mIndex + 1)).take (aMax - k)) t ∧
        ∃ objs, List.Forall₂ (Echoes ν aMax S o) ((it.walk n).take (i.mCount - i.mIndex)) objs ∧
          t.mResponse = pushObjects s.mResponse objs) s := by
  induction n generalizing k it i s l with
  | zero =>
    rw [respondLoop, wp_pure, ObjectReadIterator.walk, List.take_nil, List.append_nil]
    exact ⟨Nat.zero_le _, hs, [], .nil, rfl⟩
  | succ n ih =>
    have hend : it.isEnd = false := by
      rw [Bool.eq_false_iff, Ne, hat.isEnd]
      omega
    obtain ⟨it', hnext, hat'⟩ := hat.next hacc (CommandObject.steppable_of_get hget hacc _)
      (by omega)
    have hderef : it.deref = .ok (it.mpPrefixPos + it.mHeaderInfo.mPrefixSize) := by
      rw [ObjectReadIterator.deref, hend, hat.data, hdata]
      rfl
    have hwalk : it.walk (n + 1) = it :: it'.walk n := by
      rw [ObjectReadIterator.walk, hnext]
    rw [respondLoop, wp_bind, hderef, wp_lift_ok, wp_bind, wp_get, wp_bind, hH.config l s hs, hwalk]
    refine wp_mono (hH.wp_status hat hget hs _) (fun st t ht ↦ ?_) fun _ _ he ↦ he.elim
    obtain ⟨hst, hrsp, ht⟩ := ht
    have htake (its : List ObjectReadIterator) :
        (it :: its).take (aMax - k) = [it].take (aMax - k) ++ its.take (aMax - (k + 1)) := by
      cases hleft : aMax - k with
      | zero =>
        rw [List.take_zero, List.take_zero, show aMax - (k + 1) = 0 by omega, List.take_zero]; rfl
      | succ m => rw [List.take_succ_cons, List.take_succ_cons, show aMax - (k + 1) = m by omega,
          List.take_nil]; rfl
    by_cases hfull : i.isEnd = true
    · -- the block is full, and the command has been passed on
      have hzero : i.mCount - i.mIndex = 0 := by
        have hle : i.mIndex ≥ i.mCount := of_decide_eq_true hfull
        omega
      have hset : i.setIndex it.mIndex = .error (.invalidState "End of iteration") := by
        rw [IndexedWriteIterator.setIndex, hi, hfull]
        rfl
      rw [wp_bind, hset, wp_lift_error, hzero]
      refine ⟨Nat.succ_pos n, fun m hm ↦ Exception.noConfusion hm, ?_, [], .nil, hrsp⟩
      rw [List.take_succ_cons, List.take_zero]
      exact ht
    · have hlt : i.mIndex < i.mCount := by
        have hnot : ¬i.mIndex ≥ i.mCount := fun hle ↦ hfull (decide_eq_true hle)
        omega
      have hset : i.setIndex it.mIndex = .ok { i with mIndexSet := true } := by
        rw [IndexedWriteIterator.setIndex, hi, if_neg Bool.false_ne_true, if_neg hfull,
          hmode k it hat hend]
        rfl
      have hnext' : ({ i with mIndexSet := true } : IndexedWriteIterator).next =
          .ok { i with mIndex := i.mIndex + 1, mIndexSet := false } := by
        have hfull' : ({ i with mIndexSet := true } : IndexedWriteIterator).isEnd = false :=
          Bool.eq_false_iff.mpr hfull
        rw [IndexedWriteIterator.next, hfull']
        rfl
      have hleft : i.mCount - i.mIndex = i.mCount - (i.mIndex + 1) + 1 := by omega
      have hloop := ih (i := { i with mIndex := i.mIndex + 1, mIndexSet := false }) (k := k + 1)
        rfl hmode hat' (by omega)
          (hH.response _ t (t.mResponse.pushObject it.mIndex (echo ν o it st).2) ht)
      rw [wp_bind, hset, wp_lift_ok, wp_bind, IndexedWriteIterator.deref]
      dsimp only
      rw [if_neg (by decide), wp_lift_ok, wp_bind, wp_modify, wp_bind, hnext', wp_lift_ok,
        wp_bind, hnext, wp_lift_ok, hleft]
      have hecho : Echoes ν aMax S o it (echo ν o it st) := ⟨st, rfl, hst⟩
      refine wp_mono hloop (fun _ u hu ↦ ?_) fun e u hu ↦ ?_
      · obtain ⟨hle, hu, objs, hobjs, hrsp'⟩ := hu
        refine ⟨Nat.succ_le_succ hle, ?_, echo ν o it st :: objs, .cons hecho hobjs, ?_⟩
        · rw [htake, ← List.append_assoc]
          exact hu
        · rw [hrsp', hrsp]
          rfl
      · obtain ⟨hlt', hescapes, hu, objs, hobjs, hrsp'⟩ := hu
        refine ⟨Nat.succ_lt_succ hlt', hescapes, ?_, echo ν o it st :: objs, ?_, ?_⟩
        · rw [List.take_succ_cons, htake, ← List.append_assoc]
          exact hu
        · rw [List.take_succ_cons]
          exact .cons hecho hobjs
        · rw [hrsp', hrsp]
          rfl

/-! ## The block of a header -/

/-- A count is no larger than its field allows. -/
theorem mCount_le_of_headerAt {named : ℕ → ℕ → ObjectBase → Prop} {aBuffer : List Byte} {aPos : ℕ}
    (hat : HeaderAt named aBuffer aPos h) (hcount : h.mHeader.isCount = true) :
    h.mCount ≤ h.mHeader.maxField := by
  have hn := hat.count
  have hlt := readUInt_lt aBuffer h.mHeader.fieldSize (aPos + 3)
  revert hcount hn hlt
  cases h.mHeader with
  | allObjects | ranged2Octet | ranged4Octet | ranged8Octet =>
    exact fun hcount ↦ absurd hcount (by decide)
  | count1Octet | count2Octet | count4Octet =>
    rintro - hn hlt
    rw [show h.mCount = _ from hn]
    exact Nat.le_of_lt_succ hlt

/-- The writer has no block for a header with a range, or for all objects. -/
theorem writeIndexed_of_not_count {f : OutAPDU (List Byte)} (hf : f.function = some .response)
    (hget : CommandObject.get h.radix = some o) (hacc : h.Accepted)
    (hcount : h.mHeader.isCount = false) :
    f.writeIndexed o.base o.size h.mCount h.mQualifier =
      .error (.argument "Invalid qualifier for count header") := by
  obtain ⟨hsuits, hprefix⟩ := CommandObject.prefixSize_of_get hget hacc
  have hpre := (getPrefixSizeAndValidate_eq_ok (n := h.mPrefixSize) (by simp)).mpr ⟨hsuits, hprefix⟩
  have hhdr := hacc.header
  have hnone : getCountHeader h.mQualifier = .error
      (.argument "Invalid qualifier for count header") := by
    revert hhdr hsuits
    cases h.mQualifier with
    | startStop1B | startStop2B | startStop4B | allObj => exact fun _ _ ↦ rfl
    | undefined => exact fun hsuits ↦ hsuits.elim
    | _ =>
      intro hsuits hhdr
      rw [← Except.ok.inj hhdr] at hcount
      exact absurd hcount (by decide)
  rw [OutAPDU.writeIndexed, OutAPDU.checkWriteState, hf, if_neg (by simp), except_ok_bind, hpre,
    except_ok_bind, OutAPDU.writeCountHeader, hnone]
  rfl

/-- The header that is written is the one that was read, and an index that was read can be
written. -/
theorem mode_of_count (hget : CommandObject.get h.radix = some o) (hacc : h.Accepted)
    (hcount : h.mHeader.isCount = true) :
    getCountHeader h.mQualifier = .ok h.mHeader ∧ ∃ mode,
      IndexedWriteIterator.getIndexMode h.mQualifier = .ok mode ∧
      ∀ k j, ObjectReadIterator.At r h k j → j.isEnd = false → mode.any (j.mIndex > ·) = false := by
  have hsuits := (CommandObject.prefixSize_of_get hget hacc).1
  have hhdr := hacc.header
  have hprefixed {m : ℕ} (hm : 256 ^ h.mHeader.fieldSize ≤ m + 1)
      (hread : ∀ j : ObjectReadIterator, j.mHeaderInfo = h →
        j.calcIndex = .ok (readUInt j.mpBuffer h.mHeader.fieldSize j.mpPrefixPos)) :
      ∀ k j, ObjectReadIterator.At r h k j → j.isEnd = false →
        (some m).any (j.mIndex > ·) = false := by
    intro k j hat hend
    have hindex := Except.ok.inj ((hat.index hend).symm.trans (hread j hat.header))
    have hlt := readUInt_lt j.mpBuffer h.mHeader.fieldSize j.mpPrefixPos
    rw [Option.any_some, hindex]
    exact decide_eq_false (by omega)
  have hbare {mode : Option ℕ} (hmode : mode = none) :
      ∀ k j, ObjectReadIterator.At r h k j → j.isEnd = false → mode.any (j.mIndex > ·) = false := by
    rintro k j - -
    rw [hmode]
    rfl
  cases hq : h.mQualifier with
  | startStop1B | startStop2B | startStop4B | allObj =>
    rw [hq] at hhdr
    rw [← Except.ok.inj hhdr] at hcount
    exact absurd hcount (by decide)
  | undefined =>
    rw [hq] at hsuits
    exact hsuits.elim
  | vcnt1BSize1B | vcnt1BSize2B | vcnt1BSize4B =>
    rw [hq] at hsuits
    exact absurd hsuits (by simp [QualifierCode.Suits])
  | cnt1B | cnt2B | cnt4B =>
    rw [hq] at hhdr
    exact ⟨hhdr, none, rfl, hbare rfl⟩
  | cnt1BIndex1B | cnt2BIndex2B | cnt4BIndex4B =>
    rw [hq] at hhdr
    rw [← Except.ok.inj hhdr] at hprefixed
    refine ⟨hhdr, _, rfl, hprefixed (by decide) fun j hj ↦ ?_⟩
    rw [ObjectReadIterator.calcIndex, hj, ← Except.ok.inj hhdr]
    dsimp only
    rw [ObjectReadIterator.calcCountIndex, hj, hq]
    rfl

/-- **The block that is started for a header with a count**, and the iterator over it. -/
theorem writeIndexed_of_count {f : OutAPDU (List Byte)} (hf : f.function = some .response)
    (hget : CommandObject.get h.radix = some o) (hacc : h.Accepted)
    (hcount : h.mHeader.isCount = true) (hle : h.mCount ≤ h.mHeader.maxField) :
    ∃ mode, f.writeIndexed o.base o.size h.mCount h.mQualifier =
        .ok (if room o h f.remainder = 0 then (f, {})
          else (f.startBlock ⟨o.base.getGroup, o.base.getVariation, h.mQualifier, [], none⟩
            (blockSize o h f.remainder),
            { mMaxIndex := mode, mCount := min h.mCount (room o h f.remainder) })) ∧
      ∀ k j, ObjectReadIterator.At r h k j → j.isEnd = false → mode.any (j.mIndex > ·) = false := by
  obtain ⟨hsuits, hprefix⟩ := CommandObject.prefixSize_of_get hget hacc
  have hpre := (getPrefixSizeAndValidate_eq_ok (n := h.mPrefixSize) (by simp)).mpr ⟨hsuits, hprefix⟩
  obtain ⟨hcounthdr, mode, hmode, hindex⟩ := mode_of_count hget hacc hcount
  refine ⟨mode, ?_, hindex⟩
  have hdata : f.hasData = true := by
    rw [OutAPDU.hasData, hf]
    rfl
  rw [OutAPDU.writeIndexed, OutAPDU.checkWriteState, hf, if_neg (by simp), except_ok_bind, hpre,
    except_ok_bind, hdata, if_pos rfl, OutAPDU.writeCountHeader, hcounthdr, except_ok_bind]
  dsimp only
  by_cases hbig : h.mHeader.getSize > f.remainder
  · have hroom : room o h f.remainder = 0 := by
      rw [room, Nat.sub_eq_zero_of_le (Nat.le_of_lt hbig), Nat.zero_div]
    rw [if_pos hbig, if_pos hroom]
    rfl
  · rw [if_neg hbig, show (f.remainder - h.mHeader.getSize) / (o.size + h.mPrefixSize) =
      room o h f.remainder from rfl]
    by_cases hroom : room o h f.remainder = 0
    · rw [if_pos hroom, if_pos hroom]
      rfl
    · have hmin : (if h.mCount < room o h f.remainder then h.mCount else room o h f.remainder) =
          min h.mCount (room o h f.remainder) := by
        split <;> omega
      rw [if_neg hroom, if_neg hroom, blockSize, if_neg hroom, hmin, if_neg (by omega), hmode]
      rfl

/-- The block of a header. -/
def newBlock (o : CommandObject) (h : HeaderInfo) (objs : List (ℕ × List Byte)) :
    Block (List Byte) :=
  ⟨o.base.getGroup, o.base.getVariation, h.mQualifier, objs, none⟩

/-- The response with the block of a header, if there was room for one. -/
def addBlock (f : OutAPDU (List Byte)) (o : CommandObject) (h : HeaderInfo)
    (objs : List (ℕ × List Byte)) :
    OutAPDU (List Byte) :=
  if room o h f.remainder = 0 then f
  else f.startBlock (newBlock o h objs) (blockSize o h f.remainder)

theorem remainder_addBlock (f : OutAPDU (List Byte)) (o : CommandObject) (h : HeaderInfo)
    (objs : List (ℕ × List Byte)) : (addBlock f o h objs).remainder =
    f.remainder - blockSize o h f.remainder := by
  rw [addBlock]
  split
  · next hroom => rw [blockSize, if_pos hroom, Nat.sub_zero]
  · rw [OutAPDU.remainder, OutAPDU.remainder, Nat.sub_sub]
    rfl

/-- Objects go into the last block. -/
theorem pushObjects_startBlock (f : OutAPDU (List Byte)) (b : Block (List Byte)) (n : ℕ)
    (objs : List (ℕ × List Byte)) :
    pushObjects (f.startBlock b n) objs = f.startBlock
      { b with objects := b.objects ++ objs } n := by
  induction objs generalizing b with
  | nil => rw [List.append_nil]; rfl
  | cons a objs ih =>
    rw [pushObjects, List.foldl_cons, OutAPDU.pushObject_startBlock]
    refine (ih _).trans ?_
    rw [List.append_assoc]
    rfl

/-- **The commands of a header**: they are all passed on and answered, or the writer throws when it
gets to one that has no room. -/
theorem Handles.wp_respondToCommands (hH : Handles aMax arFunc S I) (hacc : h.Accepted)
    (hle : h.mHeader.isCount = true → h.mCount ≤ h.mHeader.maxField)
    (hget : CommandObject.get h.radix = some o) (hdata : hasData r.getFunction = true)
    {it : ObjectReadIterator} (hat : it.At r h 0) (hf : s.mResponse.function = some .response)
    (hs : I l s) :
    wp (respondToCommands o it (arFunc h o.type))
      (fun _ t ↦ h.mHeader.isCount = true ∧ h.mCount ≤ room o h s.mResponse.remainder ∧
        I (l ++ (it.walk h.mCount).take aMax) t ∧
        ∃ objs, List.Forall₂ (Echoes ν aMax S o) (it.walk h.mCount) objs ∧
          t.mResponse = addBlock s.mResponse o h objs)
      (fun e t ↦ Escapes e ∧
        (h.mHeader.isCount = false ∧ I l t ∧ t.mResponse = s.mResponse ∨
          h.mHeader.isCount = true ∧ room o h s.mResponse.remainder < h.mCount ∧
          I (l ++ ((it.walk h.mCount).take (room o h s.mResponse.remainder + 1)).take aMax) t ∧
          ∃ objs, List.Forall₂ (Echoes ν aMax S o)
            ((it.walk h.mCount).take (room o h s.mResponse.remainder)) objs ∧
            t.mResponse = addBlock s.mResponse o h objs)) s := by
  have hcount : it.count = h.mCount := by rw [ObjectReadIterator.count, hat.header]
  rw [respondToCommands, wp_bind, wp_get, wp_bind, hcount, hat.header]
  cases hisCount : h.mHeader.isCount with
  | false =>
    rw [writeIndexed_of_not_count hf hget hacc hisCount, wp_lift_error]
    exact ⟨fun m hm ↦ Exception.noConfusion hm, .inl ⟨rfl, hs, rfl⟩⟩
  | true =>
    obtain ⟨mode, hwrite, hmode⟩ := writeIndexed_of_count (r := r) hf hget hacc hisCount
      (hle hisCount)
    rw [hwrite, wp_lift_ok]
    by_cases hroom : room o h s.mResponse.remainder = 0
    · -- no block has been started
      rw [if_pos hroom, hroom]
      have hloop := hH.wp_respondLoop hacc hget hdata (i := {}) rfl (fun _ _ _ _ ↦ rfl) hat
        (Nat.zero_add _)
        (hH.response l s s.mResponse hs)
      refine wp_mono hloop (fun _ t ht ↦ ?_) fun e t ht ↦ ?_
      · obtain ⟨hn, ht, objs, hobjs, hrsp⟩ := ht
        obtain hn : h.mCount = 0 := Nat.le_zero.mp hn
        refine ⟨rfl, Nat.le_of_eq hn, ht, objs, hobjs, ?_⟩
        rw [hn] at hobjs
        cases hobjs
        rw [addBlock, if_pos hroom]
        exact hrsp
      · obtain ⟨hn, hescapes, ht, objs, hobjs, hrsp⟩ := ht
        refine ⟨hescapes, .inr ⟨rfl, hn, ht, objs, hobjs, ?_⟩⟩
        cases hobjs
        rw [addBlock, if_pos hroom]
        exact hrsp
    · rw [if_neg hroom]
      have hloop := hH.wp_respondLoop hacc hget hdata
        (i := { mMaxIndex := mode, mCount := min h.mCount (room o h s.mResponse.remainder) }) rfl
          hmode hat
        (Nat.zero_add _) (hH.response l s (s.mResponse.startBlock
          ⟨o.base.getGroup, o.base.getVariation, h.mQualifier, [], none⟩
            (blockSize o h s.mResponse.remainder)) hs)
      refine wp_mono hloop (fun _ t ht ↦ ?_) fun e t ht ↦ ?_
      · obtain ⟨hn, ht, objs, hobjs, hrsp⟩ := ht
        refine ⟨rfl, Nat.le_trans hn (Nat.min_le_right _ _), ht, objs, hobjs, ?_⟩
        rw [addBlock, if_neg hroom, hrsp, pushObjects_startBlock]
        rfl
      · obtain ⟨hn, hescapes, ht, objs, hobjs, hrsp⟩ := ht
        have hlt : room o h s.mResponse.remainder < h.mCount := by
          change min h.mCount (room o h s.mResponse.remainder) - 0 < h.mCount at hn
          omega
        have hmin : min h.mCount (room o h s.mResponse.remainder) - 0 =
            room o h s.mResponse.remainder := by
          omega
        dsimp only at ht hobjs
        rw [hmin] at ht hobjs
        refine ⟨hescapes, .inr ⟨rfl, hlt, ht, objs, hobjs, ?_⟩⟩
        rw [addBlock, if_neg hroom, hrsp, pushObjects_startBlock]
        rfl

/-! ## The loop over the headers -/

/-- The block that has been written for a header: the commands for which there was room,
answered. -/
structure BlockOf (ν : Type) [SetpointValue ν] (r : APDU) (aMaxControls : ℕ)
    (S : CommandStatus → Prop) (x : Handled) (b : Block (List Byte)) : Prop where
  group : b.group = x.object.base.getGroup
  variation : b.variation = x.object.base.getVariation
  qualifier : b.qualifier = x.header.mQualifier
  objects : List.Forall₂ (Echoes ν aMaxControls S x.object)
    ((r.objects x.header).take x.room) b.objects

/-- **How far the loop has gotten**, from a state with the given headers in front of it. -/
structure Reached (r : APDU) (aMaxControls : ℕ) (S : CommandStatus → Prop)
    (I : List ObjectReadIterator → Slave ν ρ → Prop) (l : List ObjectReadIterator)
    (f : OutAPDU (List Byte)) (hs : List HeaderInfo) (t : Slave ν ρ) : Prop where
  passed : I (l ++ passed r aMaxControls (handled f.remainder hs)) t
  function : t.mResponse.function = f.function
  control : t.mResponse.control = f.control
  blocks : ∃ bs, t.mResponse.blocks = f.blocks ++ bs ∧
    List.Forall₂ (BlockOf ν r aMaxControls S) ((handled f.remainder hs).filter (0 < ·.room)) bs

/-- The parser has accepted the header, and a count is no larger than its field allows. -/
structure Readable (h : HeaderInfo) : Prop where
  accepted : h.Accepted
  count : h.mHeader.isCount = true → h.mCount ≤ h.mHeader.maxField

omit [SetpointValue ν] in
theorem readable_of_interpret {apData : List Byte} (hr : APDU.interpret apData = .ok r) :
    ∀ h ∈ r.mObjectHeaders, Readable h := by
  intro h hh
  obtain ⟨-, hacc⟩ := APDU.interpret_eq_ok.mp hr
  obtain ⟨⟨p, hat⟩, -⟩ := hacc.objects.size_eq hacc.objects h hh
  exact ⟨APDU.accepted_of_interpret hr hh, mCount_le_of_headerAt hat⟩

/-- The commands of a header are among its objects. -/
theorem length_objects (hh : Readable h) (hget : CommandObject.get h.radix = some o) :
    (r.objects h).length = h.mCount := by
  obtain ⟨it, hit, hat⟩ := ObjectReadIterator.at_beginRead (r := r) hh.accepted
  rw [APDU.objects, hit]
  exact (hat.walk hh.accepted (CommandObject.steppable_of_get hget hh.accepted _)
    (Nat.zero_add _)).1

theorem blocks_addBlock (f : OutAPDU (List Byte)) (o : CommandObject) (h : HeaderInfo)
    (objs : List (ℕ × List Byte)) : (addBlock f o h objs).blocks = f.blocks ++
      if room o h f.remainder = 0 then [] else [newBlock o h objs] := by
  rw [addBlock]
  split
  · rw [List.append_nil]
  · rfl

/-- A header has been handled, and the ones after it are handled in what it has left. -/
theorem Reached.cons {f : OutAPDU (List Byte)} {hs : List HeaderInfo} {objs : List (ℕ × List Byte)}
    {t : Slave ν ρ} (hget : CommandObject.get h.radix = some o) (hcount : h.mHeader.isCount = true)
    (hfits : h.mCount ≤ room o h f.remainder) (hlen : (r.objects h).length = h.mCount)
    (hobjs : List.Forall₂ (Echoes ν aMax S o) (r.objects h) objs)
    (ht : Reached r aMax S I (l ++ (r.objects h).take aMax) (addBlock f o h objs) hs t) :
    Reached r aMax S I l f (h :: hs) t := by
  have hhandled : handled f.remainder (h :: hs) =
      ⟨h, o, room o h f.remainder⟩ :: handled (addBlock f o h objs).remainder hs := by
    rw [handled, hget, remainder_addBlock]
    dsimp only
    rw [if_pos hcount, if_pos hfits]
  have hframe : (addBlock f o h objs).function = f.function ∧
      (addBlock f o h objs).control = f.control := by
    rw [addBlock]
    split <;> exact ⟨rfl, rfl⟩
  have hall : (r.objects h).take (room o h f.remainder + 1) = r.objects h :=
    List.take_of_length_le (by omega)
  refine ⟨?_, ht.function.trans hframe.1, ht.control.trans hframe.2, ?_⟩
  · rw [hhandled, Slave.passed, List.flatMap_cons, hall, ← List.append_assoc]
    exact ht.passed
  · obtain ⟨bs, hbs, hblocks⟩ := ht.blocks
    rw [hbs, blocks_addBlock, hhandled, List.filter_cons]
    by_cases hroom : room o h f.remainder = 0
    · refine ⟨bs, ?_, ?_⟩
      · rw [if_pos hroom, List.append_nil]
      · rw [if_neg (by simp [hroom])]
        exact hblocks
    · refine ⟨newBlock o h objs :: bs, ?_, ?_⟩
      · rw [if_neg hroom, List.append_assoc]
        rfl
      · rw [if_pos (by simp; omega)]
        have htake : (r.objects h).take (room o h f.remainder) = r.objects h :=
          List.take_of_length_le (by omega)
        rw [← htake] at hobjs
        exact .cons ⟨rfl, rfl, rfl, hobjs⟩ hblocks

/-- A header has been handled until there was no more room. -/
theorem Reached.last {f : OutAPDU (List Byte)} {objs : List (ℕ × List Byte)} {t : Slave ν ρ}
    (hs : List HeaderInfo) (hget : CommandObject.get h.radix = some o)
    (hcount : h.mHeader.isCount = true) (hfull : room o h f.remainder < h.mCount)
    (hI : I (l ++ ((r.objects h).take (room o h f.remainder + 1)).take aMax) t)
    (hobjs : List.Forall₂ (Echoes ν aMax S o) ((r.objects h).take (room o h f.remainder)) objs)
    (hrsp : t.mResponse = addBlock f o h objs) : Reached r aMax S I l f (h :: hs) t := by
  have hhandled : handled f.remainder (h :: hs) = [⟨h, o, room o h f.remainder⟩] := by
    rw [handled, hget]
    dsimp only
    rw [if_pos hcount, if_neg (Nat.not_le.mpr hfull)]
  refine ⟨?_, ?_, ?_, ?_⟩
  · rw [hhandled, Slave.passed, List.flatMap_singleton]
    exact hI
  · rw [hrsp, addBlock]
    split <;> rfl
  · rw [hrsp, addBlock]
    split <;> rfl
  · rw [hrsp, blocks_addBlock, hhandled, List.filter_cons]
    by_cases hroom : room o h f.remainder = 0
    · exact ⟨[], by rw [if_pos hroom], by simp [hroom]⟩
    · refine ⟨[newBlock o h objs], by rw [if_neg hroom], ?_⟩
      rw [if_pos (by simp; omega)]
      exact .cons ⟨rfl, rfl, rfl, hobjs⟩ .nil

/-- The body of the loop over the headers. -/
def respondToHeader (r : APDU)
    (arFunc : HeaderInfo → CommandTypes → Command ν → ℕ → M ν ρ CommandStatus)
    (hdr : HeaderInfo) : M ν ρ Unit := do
  let i ← beginRead r hdr
  match CommandObject.get hdr.radix with
  | some obj => respondToCommands obj i (arFunc hdr obj.type)
  | none => setRspIIN (·.setFuncNotSupported true)

/-- **The rule for the loop over the headers.** -/
theorem Handles.wp_headers (hH : Handles aMax arFunc S I) (hdata : hasData r.getFunction = true)
    {hs : List HeaderInfo} (hall : ∀ h ∈ hs, Readable h)
    (hf : s.mResponse.function = some .response) (hI : I l s) :
    wp (hs.forM (respondToHeader r arFunc))
      (fun _ t ↦ Completes s.mResponse.remainder hs ∧ Reached r aMax S I l s.mResponse hs t)
      (fun e t ↦ ¬Completes s.mResponse.remainder hs ∧ Escapes e ∧
        Reached r aMax S I l s.mResponse hs t) s := by
  induction hs generalizing s l with
  | nil =>
    refine ⟨trivial, ?_, rfl, rfl, [], (List.append_nil _).symm, .nil⟩
    rw [handled, passed, List.flatMap_nil, List.append_nil]
    exact hI
  | cons h hs ih =>
    have hh := hall h List.mem_cons_self
    have hrest : ∀ x ∈ hs, Readable x := fun x hx ↦ hall x (List.mem_cons_of_mem h hx)
    obtain ⟨it, hit, hat⟩ := ObjectReadIterator.at_beginRead (r := r) hh.accepted
    have hobjects : r.objects h = it.walk h.mCount := by rw [APDU.objects, hit]
    rw [wp_forM_cons, respondToHeader, wp_bind, beginRead, hit, wp_lift_ok]
    cases hget : CommandObject.get h.radix with
    | none =>
      have hskip : handled s.mResponse.remainder (h :: hs) = handled s.mResponse.remainder hs := by
        rw [handled, hget]
      have hloop := ih (s := { s with mRspIIN := s.mRspIIN.setFuncNotSupported true }) hrest hf
        (hH.rspIIN l s _ hI)
      dsimp only at hloop ⊢
      rw [setRspIIN, wp_modify]
      have hreached {t : Slave ν ρ} (ht : Reached r aMax S I l s.mResponse hs t) :
          Reached r aMax S I l s.mResponse (h :: hs) t :=
        ⟨hskip ▸ ht.passed, ht.function, ht.control, hskip ▸ ht.blocks⟩
      rw [Completes, hget]
      exact wp_mono hloop (fun _ t ht ↦ ⟨ht.1, hreached ht.2⟩) fun e t ht ↦
        ⟨ht.1, ht.2.1, hreached ht.2.2⟩
    | some o =>
      have hlen := length_objects (r := r) hh hget
      dsimp only
      rw [Completes, hget]
      refine wp_mono (hH.wp_respondToCommands hh.accepted hh.count hget hdata hat hf hI)
        (fun _ t ht ↦ ?_)
        fun e t ht ↦ ?_
      · obtain ⟨hcount, hfits, ht, objs, hobjs, hrsp⟩ := ht
        rw [← hobjects] at ht hobjs
        have hf' : t.mResponse.function = some .response := by
          rw [hrsp, addBlock]
          split <;> exact hf
        have hloop := ih hrest hf' ht
        rw [hrsp] at hloop
        have hrem := remainder_addBlock s.mResponse o h objs
        refine wp_mono hloop (fun _ u hu ↦ ⟨⟨hcount, hfits, ?_⟩, ?_⟩) fun e u hu ↦ ⟨?_, hu.2.1, ?_⟩
        · exact hrem ▸ hu.1
        · exact .cons hget hcount hfits hlen hobjs hu.2
        · exact fun hc ↦ hu.1 (hrem ▸ hc.2.2)
        · exact .cons hget hcount hfits hlen hobjs hu.2.2
      · obtain ⟨hescapes, ⟨hcount, ht, hrsp⟩ | ⟨hcount, hfull, ht, objs, hobjs, hrsp⟩⟩ := ht
        · refine ⟨fun hc ↦ Bool.false_ne_true (hcount.symm.trans hc.1), hescapes, ?_⟩
          have hhandled : handled s.mResponse.remainder (h :: hs) = [] := by
            rw [handled, hget]
            dsimp only
            rw [hcount]
            rfl
          refine ⟨?_, by rw [hrsp], by rw [hrsp], [], by rw [hrsp, List.append_nil], ?_⟩
          · rw [hhandled, passed, List.flatMap_nil, List.append_nil]
            exact ht
          · rw [hhandled]
            exact .nil
        · rw [← hobjects] at ht hobjs
          exact ⟨fun hc ↦ Nat.not_lt.mpr hc.2.1 hfull, hescapes,
            .last hs hget hcount hfull ht hobjs hrsp⟩

/-- **A request with commands**, from a new response on. -/
theorem Handles.wp_forEachCommand (hH : Handles aMax arFunc S I)
    (hdata : hasData r.getFunction = true)
    (hall : ∀ h ∈ r.mObjectHeaders, Readable h) (hI : I l s) :
    wp (forEachCommand r arFunc)
      (fun _ t ↦ Completes (s.mResponse.mMaxSize - 4) r.mObjectHeaders ∧
        Reached r aMax S I l (s.mResponse.set .response true true false false) r.mObjectHeaders t)
      (fun e t ↦ ¬Completes (s.mResponse.mMaxSize - 4) r.mObjectHeaders ∧ Escapes e ∧
        Reached r aMax S I l (s.mResponse.set .response true true false false) r.mObjectHeaders t)
          s := by
  change wp (setResponse >>= fun _ ↦ r.mObjectHeaders.forM (respondToHeader r arFunc)) _ _ s
  rw [wp_bind, setResponse, wp_modify]
  exact hH.wp_headers (s := { s with mResponse := s.mResponse.set .response true true false false })
    hdata hall rfl (hH.response l s _ hI)

/-! ## The functions that commands are passed to -/

omit [SetpointValue ν] in
/-- **What `Select` changes.**  It never answers `TOO_MANY_OPS`. -/
theorem wp_select (env : Environment ρ υ) (aType : CommandTypes) (arCmd : CommandRequestInfo ν)
    (aIndex : ℕ) (s : Slave ν ρ) :
    wp (select env aType arCmd aIndex) (fun st t ↦ st ≠ .tooManyOps ∧ ∃ iin, t = { s with
      timesRead := s.timesRead + 1
      mpCmdMaster := (s.mpCmdMaster.select aType arCmd aIndex (env.clock s.timesRead)).2
      mRspIIN := iin }) (fun _ _ ↦ False) s := by
  simp only [Slave.select, getTimeStamp, wp_bind, wp_get, wp_modify, wp_pure]
  cases (s.mpCmdMaster.select aType arCmd aIndex (env.clock s.timesRead)).1 with
  | true =>
    simp only [if_true, reduceCtorEq, if_false, wp_pure]
    exact ⟨by simp, s.mRspIIN, rfl⟩
  | false =>
    simp only [Bool.false_eq_true, if_false, if_true, reduceCtorEq, wp_bind, wp_pure, setRspIIN,
      wp_modify]
    exact ⟨by simp, _, rfl⟩

/-- **What `Operate` changes.**  It executes a command once at most. -/
theorem wp_operate (env : Environment ρ υ) (aType : CommandTypes) (arCmd : CommandRequestInfo ν)
    (aDirect : Bool) (aIndex : ℕ) (s : Slave ν ρ) :
    wp (operate env aType arCmd aDirect aIndex) (fun _ t ↦ ∃ n m iin acts, t = { s with
      mSequence := n
      timesRead := s.timesRead + 1
      mpCmdMaster := m
      mRspIIN := iin
      history := s.history ++ acts } ∧
        ∀ e ∈ acts, e = ⟨s.executing, s.connection, .execute aType aIndex⟩)
          (fun _ _ ↦ False) s := by
  have hresult (res : CommandStatus) (m : DNPCommandMaster ν) (n : ℕ) :
      wp (if res ≠ .success then do
          if res = .notSupported then Slave.setRspIIN (·.setParameterError true)
          return res
        else do
          Slave.note (.execute aType aIndex)
          return env.answer (← get).mSequence) (fun _ t ↦ ∃ n m iin acts, t = { s with
        mSequence := n
        timesRead := s.timesRead + 1
        mpCmdMaster := m
        mRspIIN := iin
        history := s.history ++ acts } ∧
          ∀ e ∈ acts, e = ⟨s.executing, s.connection, .execute aType aIndex⟩) (fun _ _ ↦ False)
        { s with mSequence := n, timesRead := s.timesRead + 1, mpCmdMaster := m } := by
    refine wp_ite (fun _ ↦ ?_) fun _ ↦ ?_
    · refine wp_ite (fun _ ↦ ?_) fun _ ↦ ?_
      · exact ⟨n, m, _, [], by rw [List.append_nil], fun _ he ↦ absurd he List.not_mem_nil⟩
      · exact ⟨n, m, s.mRspIIN, [], by rw [List.append_nil], fun _ he ↦ absurd he List.not_mem_nil⟩
    · exact ⟨n, m, s.mRspIIN, [_], rfl, fun e he ↦ List.mem_singleton.mp he⟩
  simp only [Slave.operate, getTimeStamp, wp_bind, wp_get, wp_modify, wp_pure]
  cases aDirect with
  | true => exact hresult ..
  | false => exact hresult ..

end Slave

end OpenDNP3
