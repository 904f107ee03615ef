import OpenDNP3.App.BufferCalls

/-!
# Reading back what was written

A fragment is started and calls are made, as many as one likes.  The buffer holds the fragment all
the time, so what it holds at the end is read as the blocks that the calls have added.  A call that
fails ends the run, and does not harm what the calls before it have written.

* `Holds.run` — any number of calls.
* `APDUBuffer.reads_back` — what any calls have written is read as they have written it.
-/

set_option autoImplicit false

namespace OpenDNP3

open Handler LittleEndian


/-- No call changes the function code. -/
theorem OutAPDU.function_perform {f g : OutAPDU (List Byte)} {c : WriteCall}
    (hf : f.function ≠ none)
    (hc : c.Valid f.hasData) (h : f.perform c = .ok g) : g.function = f.function := by
  have happend (b : Except Exception (Option (Block (List Byte)))) (h : f.append <$> b = .ok g) :
      g.function = f.function := by
    cases b with
    | error e => cases h
    | ok b =>
      obtain rfl := Except.ok.inj h
      cases b <;> rfl
  rw [perform_eq hf hc] at h
  cases c with
  | setControl arControl =>
    obtain rfl := Except.ok.inj h
    rfl
  | setIIN arIIN =>
    obtain ⟨_, -, h⟩ := except_bind_eq_ok.mp h
    obtain ⟨_, -, h⟩ := except_bind_eq_ok.mp h
    obtain rfl := Except.ok.inj h
    rfl
  | _ => exact happend _ h

/-- A fragment that the buffer holds is read as it was written. -/
theorem Holds.readAs {w : APDUBuffer} {f : OutAPDU (List Byte)} (h : Holds w f) :
    w.mFragmentSize ≤ w.mBuffer.length ∧
      ∃ apdu, APDU.interpret (w.mBuffer.take w.mFragmentSize) = .ok apdu ∧ f.ReadAs apdu := by
  obtain ⟨aCode, hf, -⟩ := h.function
  obtain ⟨rest, hrest⟩ := h.octets
  have hat : f.octets.length = w.mFragmentSize := h.length.trans h.size.symm
  refine ⟨?_, ?_⟩
  · rw [hrest, List.length_append]
    omega
  · rw [hrest, List.take_left' hat]
    exact OutAPDU.readAs_of_formed hf h.formed

/-- Any number of calls. -/
theorem Holds.run {w : APDUBuffer} {f : OutAPDU (List Byte)} (h : Holds w f)
    {calls : List WriteCall} (hvalid : ∀ c ∈ calls, c.Valid f.hasData) :
    wp (APDUBuffer.run calls) (fun _ t ↦ ∃ g, f.run calls = .ok g ∧ Holds t g)
      (fun e t ↦ ∃ done c rest g, calls = done ++ c :: rest ∧ f.run done = .ok g ∧
        g.perform c = .error e ∧ Holds t g)
      w := by
  induction calls generalizing w f with
  | nil => exact ⟨f, rfl, h⟩
  | cons c calls ih =>
    obtain ⟨aCode, hf, -⟩ := h.function
    have hc := hvalid c List.mem_cons_self
    rw [APDUBuffer.run, wp_forM_cons]
    refine wp_mono (h.perform hc) ?_ ?_
    · rintro _ t ⟨g, hg, ht⟩
      have hfunction := OutAPDU.function_perform (by rw [hf]; rintro ⟨⟩) hc hg
      have hdata : g.hasData = f.hasData := by rw [OutAPDU.hasData, hfunction]; rfl
      refine wp_mono (ih ht fun x hx ↦ hdata ▸ hvalid x (List.mem_cons_of_mem _ hx)) ?_ ?_
      · rintro _ u ⟨k, hk, hu⟩
        exact ⟨k, by rw [OutAPDU.run, List.foldlM_cons, hg]; exact hk, hu⟩
      · rintro e u ⟨done, x, rest, k, rfl, hk, hx, hu⟩
        exact ⟨c :: done, x, rest, k, rfl,
          by rw [OutAPDU.run, List.foldlM_cons, hg]; exact hk, hx, hu⟩
    · rintro e t ⟨he, ht⟩
      exact ⟨[], c, calls, f, rfl, rfl, he, ht⟩

namespace APDUBuffer

/-- The fragment that `Set` starts: the indications are what the buffer has there. -/
def started (w : APDUBuffer) (aCode : FunctionCodes) (aFIR aFIN aCON aUNS : Bool) :
    OutAPDU (List Byte) :=
  ({ OutAPDU.new w.mBuffer.length with iin := ⟨w.mBuffer.getD 2 0, w.mBuffer.getD 3 0⟩ } :
    OutAPDU (List Byte)).set
    aCode aFIR aFIN aCON aUNS

/-- The fragment can be read: it is in the buffer, the parser accepts it, and what it finds is what
was written. -/
def ReadsAs (w : APDUBuffer) (f : OutAPDU (List Byte)) : Prop :=
  w.mFragmentSize ≤ w.mBuffer.length ∧
    ∃ apdu, APDU.interpret (w.mBuffer.take w.mFragmentSize) = .ok apdu ∧ f.ReadAs apdu

theorem exists_two_octets {l : List Byte} (h : 2 ≤ l.length) : ∃ b₀ b₁ tail, l = [b₀] ++
    ([b₁] ++ tail) := by
  rcases l with _ | ⟨b₀, _ | ⟨b₁, tail⟩⟩
  · cases h
  · simp at h
  · exact ⟨b₀, b₁, tail, rfl⟩

/-- `Set` starts a fragment, whatever the buffer has held before. -/
theorem wp_configure (w : APDUBuffer) {aCode : FunctionCodes}
    (hroom : aCode.appHeader.getSize ≤ w.mBuffer.length) (aFIR aFIN aCON aUNS : Bool) :
    wp (configure aCode aFIR aFIN aCON aUNS)
      (fun _ t ↦ Holds t (w.started aCode aFIR aFIN aCON aUNS))
      (fun _ _ ↦ False) w := by
  obtain ⟨b₀, b₁, tail, hbuffer⟩ :=
    exists_two_octets (Nat.le_trans (by cases aCode <;> decide) hroom)
  have hnone : assert "mpAppHeader == NULL" ((none : Option AppHeaderTypes) = none) = .ok () :=
    assert_of _ rfl
  have hsome : assert "mpAppHeader != NULL" ((some aCode.appHeader).isSome = true) = .ok () :=
    assert_of _ rfl
  have hdrop : List.drop 1 ([b₀] ++ ([BitVec.ofNat 8 aCode.toNat] ++ tail)) =
    [BitVec.ofNat 8 aCode.toNat] ++ tail := rfl
  rw [configure, wp_bind, reset, wp_modify, wp_bind, setFunction, wp_bind, wp_get, wp_bind, hnone,
    wp_lift_ok, wp_bind, wp_set,
    @wp_poke _ [b₀] ([b₁] ++ tail) 1 _ _ _ (by exact hbuffer) rfl (by simp),
      APDUBuffer.setControl, wp_bind,
    wp_get, wp_bind,
    hsome, wp_lift_ok, @wp_poke _ [] ([b₀] ++ ([BitVec.ofNat 8 aCode.toNat] ++ tail)) 0 _ _ _ rfl
      rfl (by simp)]
  simp only [List.length_singleton, hdrop, List.nil_append]
  have hlen : w.mBuffer.length = tail.length + 2 := by rw [hbuffer]; rfl
  have hheader := @OutAPDU.headerOctets_eq (w.started aCode aFIR aFIN aCON aUNS) aCode rfl
  have hoctets : (w.started aCode aFIR aFIN aCON aUNS).octets =
      (w.started aCode aFIR aFIN aCON aUNS).headerOctets :=
    List.append_nil _
  refine ⟨rfl, ⟨aCode, rfl, rfl⟩, hlen.symm, ?_, ?_, ?_, fun b hb ↦ absurd hb List.not_mem_nil⟩
  · cases aCode <;> rfl
  · rw [hoctets, hheader]
    by_cases hresponse : isResponse aCode = true
    · obtain ⟨b₂, b₃, rest, htail⟩ : ∃ b₂ b₃ rest, tail = [b₂] ++ ([b₃] ++ rest) := by
        have hfour : aCode.appHeader.getSize = 4 := by cases aCode <;> first | rfl | cases hresponse
        exact exists_two_octets (by omega)
      rw [htail] at hbuffer
      have hiin : (w.started aCode aFIR aFIN aCON aUNS).iin = ⟨b₂, b₃⟩ := by
        show (⟨w.mBuffer.getD 2 0, w.mBuffer.getD 3 0⟩ : IINField) = _
        rw [hbuffer]
        rfl
      refine ⟨rest, ?_⟩
      rw [if_pos hresponse, hiin, htail]
      rfl
    · refine ⟨tail, ?_⟩
      rw [if_neg hresponse]
      rfl
  · rw [hoctets, @OutAPDU.length_headerOctets _ aCode rfl]
    cases aCode <;> rfl

/-- A fragment is started, and calls are made. -/
def session (aCode : FunctionCodes) (aFIR aFIN aCON aUNS : Bool) (calls : List WriteCall) :
    M PUnit := do
  configure aCode aFIR aFIN aCON aUNS
  run calls

/-- **What any calls have written is read as they have written it**, also where one of them has
failed. -/
theorem reads_back (w : APDUBuffer) {aCode : FunctionCodes}
    (hroom : aCode.appHeader.getSize ≤ w.mBuffer.length)
    (aFIR aFIN aCON aUNS : Bool) {calls : List WriteCall}
    (hvalid : ∀ c ∈ calls, c.Valid (hasData aCode)) :
    ∃ done rest g, calls = done ++ rest ∧ (w.started aCode aFIR aFIN aCON aUNS).run done = .ok g ∧
      (exec (session aCode aFIR aFIN aCON aUNS calls) w).1.ReadsAs g ∧
      ((exec (session aCode aFIR aFIN aCON aUNS calls) w).2 = none → rest = []) ∧
      ∀ e, (exec (session aCode aFIR aFIN aCON aUNS calls) w).2 = some e →
        ∃ c after, rest = c :: after ∧ g.perform c = .error e := by
  refine exec_of_wp (Q := fun (t : APDUBuffer) (r : Option Exception) ↦ ∃ done rest g,
    calls = done ++ rest ∧
    (w.started aCode aFIR aFIN aCON aUNS).run done = .ok g ∧ t.ReadsAs g ∧ (r = none → rest = []) ∧
    ∀ e, r = some e → ∃ c after, rest = c :: after ∧ g.perform c = .error e) ?_
  rw [session, wp_bind]
  refine wp_mono (w.wp_configure hroom aFIR aFIN aCON aUNS) (fun _ t ht ↦ ?_) fun _ _ h ↦ h.elim
  refine wp_mono (ht.run hvalid) ?_ ?_
  · rintro _ u ⟨g, hg, hu⟩
    exact ⟨calls, [], g, (List.append_nil _).symm, hg, hu.readAs, fun _ ↦ rfl, by rintro e ⟨⟩⟩
  · rintro e u ⟨done, c, rest, g, hcalls, hg, hc, hu⟩
    refine ⟨done, c :: rest, g, hcalls, hg, hu.readAs, by rintro ⟨⟩, fun e' he ↦ ⟨c, rest, rfl, ?_⟩⟩
    rwa [← Option.some.inj he]

/-- A response of 20 octets has room for three points, and for a transfer of two octets. -/
theorem reads_back_of_twenty :
    ∃ g, ((⟨false, none, List.replicate 20 0, 0⟩ : APDUBuffer).started .response true true false
      false).run
        [.contiguous ⟨1, 2, .fixed 1⟩ 1 4 [[1], [2], [3]] .undefined, .setIIN ⟨0x80, 0⟩,
          .sized ⟨113, 0, .sizeByVariation⟩ 7 [0xAA, 0xBB]] = .ok g ∧
      (exec (session .response true true false false
        [.contiguous ⟨1, 2, .fixed 1⟩ 1 4 [[1], [2], [3]] .undefined, .setIIN ⟨0x80, 0⟩,
        .sized ⟨113, 0, .sizeByVariation⟩ 7 [0xAA, 0xBB]])
        ⟨false, none, List.replicate 20 0, 0⟩).1.ReadsAs g := by
  obtain ⟨done, rest, g, hcalls, hg, hread, hnone, -⟩ :=
    @reads_back ⟨false, none, List.replicate 20 0, 0⟩ .response
    (by decide) true true false false [.contiguous ⟨1, 2, .fixed 1⟩ 1 4 [[1], [2], [3]] .undefined,
      .setIIN ⟨0x80, 0⟩, .sized ⟨113, 0, .sizeByVariation⟩ 7 [0xAA, 0xBB]] (by
    intro c hc
    simp only [List.mem_cons, List.not_mem_nil, or_false] at hc
    obtain rfl | rfl | rfl := hc
    · exact ⟨by decide, rfl, by decide, by decide, rfl, .inl rfl⟩
    · trivial
    · exact ⟨by decide, rfl, by decide, by decide⟩)
  rw [hnone (by decide +kernel), List.append_nil] at hcalls
  exact ⟨g, hcalls ▸ hg, hread⟩

end APDUBuffer

end OpenDNP3
