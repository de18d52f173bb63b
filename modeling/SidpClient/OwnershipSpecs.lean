import SidpClient.AccessSpecs

/-! What ATTACH, DETACH and the disconnect cleanup do. -/
namespace SidpClient
open LittleEndian Interactive

variable {policy : Policy} {c₀ : Config} {s s' : Session} {h h' : SessionHistory}
  {fs : List (List UInt8)} {requestId : UInt32} {payload : List UInt8}

/-! The disconnect cleanup. -/

/-- How `handle_disconnect` leaves the session. -/
structure Disconnected (s s' : Session) (ok : Bool) : Prop where
  result : ok = true ↔ s'.attached = false
  dead : s'.transportDead = true
  state : s'.state = .lost ∨ s'.state = .detached ∨
    (s.attached = false ∧ s' = { s with transportDead := true })
  fits : SnapshotFits s → SnapshotFits s'

theorem fits_detachedState (s : Session) : SnapshotFits s.detachedState := Nat.zero_le _

theorem haltKnown_halt (s : Session) (h : SessionHistory) {a : Answer} (timeout : ℕ)
    (ok : a.code = .ok) :
    haltView (h ++ [⟨.call s (.halt timeout), a⟩]) = some ⟨a.stop, []⟩ := by
  simp only [haltView_call, haltViewCall]
  rw [if_pos ok]

theorem handleDisconnect_trace {Q : Bool → Session → SessionHistory → Prop}
    (ht : Trace policy c₀ s h fs) (leave : s.state ≠ .lost ∨ ∀ h, policy.leave h)
    (hQ : ∀ ok s' h', Trace policy c₀ s' h' fs → Disconnected s s' ok → Q ok s' h') :
    handleDisconnect.wp s h Q := by
  simp only [handleDisconnect, Action.wp_bind, updateSession_wp, getSession_wp, Action.wp_ite,
    Action.wp_pure, backend_wp, Bool.not_eq_true', Bool.not_eq_false]
  have ht₁ := ht.step .hangUp
  refine ⟨fun free => ?_, fun attached a => ⟨fun _ => ?_, fun confirmed => ?_⟩⟩
  · exact hQ _ _ _ ht₁ ⟨⟨fun _ => free, fun _ => rfl⟩, rfl, Or.inr (Or.inr ⟨free, rfl⟩), id⟩
  all_goals have ht₂ := ht₁.call (c := .halt haltTimeoutMs) a attached id
  · refine hQ _ _ _ (ht₂.step (.abandon rfl))
      ⟨⟨fun hr => absurd hr Bool.false_ne_true, fun he => ?_⟩, rfl, Or.inl rfl, id⟩
    exact absurd (attached.symm.trans he) (by decide)
  obtain ⟨ok, -⟩ := by simpa only [not_or, not_not] using confirmed
  have halted := haltKnown_halt { s with transportDead := true } h haltTimeoutMs ok
  refine swBpRestoreAll_trace ht₂ attached ⟨_, halted⟩ fun restored table h₃ ht₃ k₃ hempty _ =>
    ⟨fun _ => ?_, fun hr a₂ => ⟨fun fail => ?_, fun ok₂ => ?_⟩⟩
  · refine hQ _ _ _ (ht₃.step (.abandon rfl))
      ⟨⟨fun hr => absurd hr Bool.false_ne_true, fun he => ?_⟩, rfl, Or.inl rfl, id⟩
    exact absurd (attached.symm.trans he) (by decide)
  all_goals
    have clean : table = [] := hempty (by simpa using hr)
    have allowed : CallAllowed (Session.withTable { s with transportDead := true } table) h₃
        (.detach DetachAction.keepHalted) :=
      ⟨attached, k₃.toKeepsHalt.known ⟨_, halted⟩, clean⟩
  · refine hQ _ _ _ ((ht₃.call a₂ allowed fail).step (.abandon rfl))
      ⟨⟨fun hr => absurd hr Bool.false_ne_true, fun he => ?_⟩, rfl, Or.inl rfl, id⟩
    exact absurd (attached.symm.trans he) (by decide)
  · refine hQ _ _ _ (ht₃.settle (.detach DetachAction.keepHalted a₂ ?_ allowed
      (by simpa using ok₂)))
      ⟨⟨fun _ => rfl, fun _ => rfl⟩, rfl, Or.inr (Or.inl rfl), fun _ => fits_detachedState _⟩
    exact leave.imp id fun hl => hl _

theorem Disconnected.ready {ok : Bool} (hd : Disconnected s s' ok) (ready : Ready s h) :
    Ready s' h' := by
  have fits := hd.fits ready.fits
  rcases hd.state with lost | detached | ⟨free, rfl⟩
  · exact Ready.of_lost lost fits
  · exact Ready.of_detached detached fits
  · have idle : ¬(s.state = .halted ∨ s.state = .running) := fun hs =>
      absurd ((ready.engaged hs).attached.symm.trans free) (by decide)
    exact ⟨fun hs => absurd hs idle, fun hs _ => absurd (Or.inl hs) idle, fits⟩

/-! DETACH. -/

theorem haltForDetach_trace {Q : Bool → Session → SessionHistory → Prop}
    (ht : Trace policy c₀ s h []) (ready : Ready s h) (he : Engaged s h)
    (live : s.state = .halted ∨ s.state = .running) (alive : s.transportDead = false)
    (hfail : ∀ s' h', Replies policy c₀ Opcode.detach requestId s' h' → Q false s' h')
    (hQ : ∀ s' h', Trace policy c₀ s' h' [] → Ready s' h' → Engaged s' h' → HaltKnown h' →
      s'.state = s.state → s'.transportDead = false → Q true s' h') :
    (haltForDetach requestId).wp s h Q := by
  simp only [haltForDetach, Action.wp_bind, getSession_wp, Action.wp_ite,
    Action.wp_pure, backend_wp]
  refine ⟨fun hr => ?_, fun hr a => ⟨fun fail => ?_, fun ok => ?_⟩⟩
  · have state : s.state = .halted := live.resolve_right hr
    exact hQ s h ht ready he (ready.known state alive) rfl alive
  · have k : KeepsHalt h (h ++ [⟨.call s (.halt haltTimeoutMs), a⟩]) := by
      refine ⟨?_, advertisedMap_call, ?_, List.prefix_append _ _⟩
      · simp only [haltView_call, haltViewCall]
        rw [if_neg fail]
      · simp only [confirmations_call, confirmationsCall]
        rw [if_neg fail]
    exact Action.wp_mono (sendBackendFailure_replies
      (ht.call (c := .halt haltTimeoutMs) a he.attached id)
      (ready.keeps k) alive (by decide)) fun _ _ _ hr => hfail _ _ hr
  · have state : s.state = .running := not_not.mp hr
    have ht₁ := ht.call (c := .halt haltTimeoutMs) a he.attached id
    have he₁ : Engaged s (h ++ [⟨.call s (.halt haltTimeoutMs), a⟩]) :=
      he.append advertisedMap_call fun hr => hr.append _
    have halted := haltKnown_halt s h haltTimeoutMs (not_not.mp ok)
    cases softwareHit s.swTable a.stop with
    | none => exact hQ s _ ht₁ (Ready.of_running he₁ state) he₁ ⟨_, halted⟩ rfl alive
    | some bp =>
      have he₂ : Engaged { s with swStepOverPending := true, swStepOverAddress := bp.address }
          (h ++ [⟨.call s (.halt haltTimeoutMs), a⟩]) :=
        ⟨⟨he₁.attached, he₁.mapped, he₁.live⟩, he₁.armed, he₁.fits⟩
      exact hQ _ _ (ht₁.keep (sameCore_of_rfl rfl)) (Ready.of_running he₂ state) he₂
        ⟨_, halted⟩ rfl alive

theorem releaseTarget_replies {action : UInt8} (ht : Trace policy c₀ s h []) (ready : Ready s h)
    (he : Engaged s h) (halted : HaltKnown h) (state : s.state ≠ .lost)
    (alive : s.transportDead = false) :
    (releaseTarget requestId action).wp s h fun _ => Replies policy c₀ Opcode.detach requestId := by
  simp only [releaseTarget, Action.wp_bind, Action.wp_ite, backend_wp, updateSession_wp]
  refine swBpRestoreAll_trace ht he.attached halted fun restored table h₁ ht₁ k₁ hempty hall =>
    ⟨fun _ => ?_, fun hr a => ⟨fun fail => ?_, fun ok => ?_⟩⟩
  · exact respond_replies ht₁ (ready.transfer rfl hall k₁.toKeepsHalt) alive (Or.inl (by decide))
  all_goals
    have clean : table = [] := hempty (by simpa using hr)
    have allowed : CallAllowed (s.withTable table) h₁ (.detach action) :=
      ⟨he.attached, k₁.toKeepsHalt.known halted, clean⟩
  · have k₂ : KeepsHalt h₁ (h₁ ++ [⟨.call (s.withTable table) (.detach action), a⟩]) := by
      refine ⟨?_, advertisedMap_call, confirmations_call, List.prefix_append _ _⟩
      simp only [haltView_call, haltViewCall]
      rw [if_neg fail]
    exact respond_replies (ht₁.call a allowed fail)
      (ready.transfer rfl hall (k₁.toKeepsHalt.trans k₂)) alive (Or.inl (by decide))
  · have ht₂ := ht₁.settle (.detach action a (Or.inl state) allowed (not_not.mp ok))
    apply respond_wp
    intro b dead evs ho
    obtain ⟨fs', ht₃, hd⟩ := ht₂.respond (b := b) (n := 16) (ho.of_same rfl) fun f hf =>
      ⟨hf.header.isResponseTo.1, hf.not_advertised (Or.inl (by decide))⟩
    exact ⟨fs', ht₃, Ready.of_detached rfl (fits_detachedState _),
      hd.sent.responseFirst alive fun f hf => hf.header.isResponseTo⟩

theorem opDetach_replies (ready : Ready s h) (he : Engaged s h)
    (live : s.state = .halted ∨ s.state = .running) (alive : s.transportDead = false) :
    (opDetach requestId payload).wp s h fun _ =>
      Replies policy (s, h) Opcode.detach requestId := by
  simp only [opDetach]
  cases checkDetach payload with
  | error status => exact respond_replies Trace.start ready alive (Or.inl (by decide))
  | ok action =>
    simp only [Action.wp_bind, Action.wp_ite, Action.wp_pure, getSession_wp,
      writeCurrentPc, backend_wp]
    refine haltForDetach_trace Trace.start ready he live alive
      (fun s' h' hr => ⟨fun _ => hr, fun hf => absurd rfl hf⟩)
      fun s₁ h₁ ht₁ ready₁ he₁ halted₁ state₁ alive₁ => ⟨fun hf => (by simp at hf), fun _ => ?_⟩
    have state : s₁.state ≠ .lost := by
      rcases live with hs | hs <;> simp [state₁, hs]
    refine ⟨fun _ a => ?_, fun _ => releaseTarget_replies ht₁ ready₁ he₁ halted₁ state alive₁⟩
    have ht₂ := ht₁.call (c := .writeRegs (pcEntryBytes s₁.swStepOverAddress.toUInt32)) a
      ⟨he₁.attached, halted₁⟩ id
    have k : Keeps h₁ (h₁ ++ [⟨.call s₁ (.writeRegs (pcEntryBytes s₁.swStepOverAddress.toUInt32)),
      a⟩]) := keeps_movesData rfl
    refine ⟨fun _ => ?_, fun _ => ?_⟩
    · exact respond_replies ht₂ (ready₁.keeps k.toKeepsHalt) alive₁ (Or.inl (by decide))
    · exact releaseTarget_replies ht₂ (ready₁.keeps k.toKeepsHalt)
        (he₁.append k.map fun hr => k.toKeepsHalt.rejected hr) (halted₁.keeps k) state alive₁

/-! ATTACH. -/

/-- A successful ATTACH response, which carries this memory map. -/
structure AttachFrame (requestId : UInt32) (regions : List MemoryRegion) (f : List UInt8) :
    Prop where
  response : IsResponseTo Opcode.attach requestId f
  map : advertisedBy f = some regions

/-- The frame buffer `op_attach` fills. -/
def attachBuffer (b : Buffer) (requestId : UInt32) (info : AttachInfo) : Buffer :=
  ((b.write 0 (headerBytes MsgKind.response Opcode.attach requestId)).write (headerSize + 0)
    (attachResponseBytes info)).write (headerSize + attachResponseSize) info.memoryRegions

theorem attachBuffer_frame (b : Buffer) (requestId : UInt32) (info : AttachInfo) (crc : UInt32) :
    AttachFrame requestId (parseMap info.memoryRegions) (sealedFrame (attachBuffer b requestId info)
      (headerSize + (attachResponseSize + info.memoryRegions.length)) crc) := by
  have hfixed : (attachResponseBytes info).length = 32 := by simp [attachResponseBytes]
  have header : HasHeader (sealedFrame (attachBuffer b requestId info)
      (headerSize + (attachResponseSize + info.memoryRegions.length)) crc) MsgKind.response
      Opcode.attach requestId :=
    sealedFrame_hasHeader crc (by simp only [headerSize]; omega)
      (read_header_payload (read_header_payload (read_headerBytes _ _ _ _)))
  have hstatus : frameStatus (sealedFrame (attachBuffer b requestId info)
      (headerSize + (attachResponseSize + info.memoryRegions.length)) crc) = Status.ok.value := by
    have hbytes : slice (attachResponseBytes info) 0 4 = le32 Status.ok.value := by
      have hl : (le32 Status.ok.value).length = 4 := le32_length _
      simp [attachResponseBytes, slice, hl]
    have inside :
        headerSize + 4 ≤ headerSize + (attachResponseSize + info.memoryRegions.length) := by
      simp only [headerSize, attachResponseSize]
      omega
    rw [frameStatus, getU32, sealedFrame_slice _ _ _ _ _ inside (by decide), attachBuffer,
      Buffer.read_write_of_disjoint _ _ _ _ _ (Or.inl (by decide)),
      show headerSize = headerSize + 0 + 0 from rfl, Buffer.read_write_inside _ _ _ _ _ (by omega),
      hbytes, ofNat_leNat_le32]
  refine ⟨header.isResponseTo, ?_⟩
  have hmap : (sealedFrame (attachBuffer b requestId info)
      (headerSize + (attachResponseSize + info.memoryRegions.length)) crc).drop
        (headerSize + attachResponseSize) = info.memoryRegions := by
    have hs := sealedFrame_slice (attachBuffer b requestId info)
      (headerSize + (attachResponseSize + info.memoryRegions.length)) crc
      (headerSize + attachResponseSize) info.memoryRegions.length (by omega) (Or.inr (by decide))
    rw [slice, List.take_of_length_le (by simp; omega)] at hs
    rw [hs, attachBuffer, Buffer.read_write_self]
  rw [advertisedBy, if_pos ⟨header.isResponseTo.1, header.isResponseTo.2.1, hstatus⟩, hmap]

theorem haltAfterAttach_ready {Q : Unit → Session → SessionHistory → Prop}
    (ht : Trace policy c₀ s h fs) (he : Engaged s h) (state : s.state ≠ .lost)
    (hQ : ∀ s' h' fs', Trace policy c₀ s' h' (fs ++ fs') → Ready s' h' →
      (∀ f ∈ fs', IsEvent f) → Q () s' h') :
    haltAfterAttach.wp s h Q := by
  simp only [haltAfterAttach, Action.wp_bind, backend_wp, Action.wp_ite, Action.wp_pure,
    updateSession_wp]
  intro a
  have ht₁ := ht.call (c := .pollHalted) a he.attached id
  have he₁ : Engaged s (h ++ [⟨.call s .pollHalted, a⟩]) :=
    he.append advertisedMap_call fun hr => hr.append _
  refine ⟨fun _ => enterLost_ready ht₁ he.fits fun s' h' fs' ht' hr _ hev =>
    hQ s' h' fs' ht' hr hev, fun ok => ⟨fun halted => ?_, fun _ a₂ => ?_⟩⟩
  · have seen : haltView (h ++ [⟨.call s .pollHalted, a⟩]) = some ⟨a.stop, []⟩ := by
      simp only [haltView_call, haltViewCall]
      rw [if_pos ⟨by simpa using ok, halted⟩]
    exact enterHalted_ready (f := id) ht₁ he₁ seen state (fun s => ⟨SameCore.refl s, id⟩) hQ
  · have ht₂ := ht₁.call (c := .halt haltTimeoutMs) a₂ he.attached id
    have he₂ :
        Engaged s (h ++ [⟨.call s .pollHalted, a⟩] ++ [⟨.call s (.halt haltTimeoutMs), a₂⟩]) :=
      he₁.append advertisedMap_call fun hr => hr.append _
    refine ⟨fun ok₂ => ?_, fun _ => ⟨fun _ => ?_, fun _ => ?_⟩⟩
    · exact enterHalted_ready (f := id) ht₂ he₂ (haltKnown_halt _ _ _ ok₂) state
        (fun s => ⟨SameCore.refl s, id⟩) hQ
    · exact enterLost_ready ht₂ he.fits fun s' h' fs' ht' hr _ hev => hQ s' h' fs' ht' hr hev
    · have ht₃ := ht₂.step (t := { s with state := .running })
        (.run (Or.inl state) he₂.toActive rfl rfl ⟨rfl, rfl, rfl, rfl⟩)
      refine hQ _ _ [] (by rwa [List.append_nil]) (Ready.of_running ?_ rfl) (by simp)
      exact ⟨⟨he₂.attached, he₂.mapped, he₂.live⟩, he₂.armed, he₂.fits⟩

/-- An attachment that cannot be used is refused and ended at once. -/
theorem rejectAttach_replies (ht : Trace policy c₀ s h []) (state : s.state = .detached)
    (fits : SnapshotFits s) (alive : s.transportDead = false) :
    (respond Opcode.attach requestId .error).wp s h fun _ s' h' =>
      handleDisconnect.wp s' h' fun _ => Replies policy c₀ Opcode.attach requestId := by
  refine respond_trace ht (Or.inr (by decide)) fun b dead h₁ fs₁ ht₁ hd => ?_
  have ready : Ready (s.framed b 16 dead) h₁ := Ready.of_detached state fits
  refine handleDisconnect_trace ht₁ (Or.inl (by simp [Session.framed, state]))
    fun ok s' h' ht' hdis => ?_
  exact ⟨fs₁, ht', hdis.ready ready, hd.sent.responseFirst alive fun f hf => hf.header.isResponseTo⟩

/-- The map is sent, and only then is the target halted or polled. -/
theorem sendAttach_replies {info : AttachInfo} {haltAfter : Prop} (ht : Trace policy c₀ s h [])
    (attached : s.attached = true) (map : s.regions = parseMap info.memoryRegions)
    (clean : s.swTable = []) (state : s.state = .detached) (fits : SnapshotFits s)
    (alive : s.transportDead = false) (hn : isValidMessageSize
      (headerSize + (attachResponseSize + info.memoryRegions.length))) :
    finishFrame.wp
      { s with
        scratch := attachBuffer s.scratch requestId info
        txFrameSize := headerSize + (attachResponseSize + info.memoryRegions.length) } h
      fun accepted s' h' => (accepted = false → Replies policy c₀ Opcode.attach requestId s' h') ∧
        (accepted = true →
          (haltAfter → haltAfterAttach.wp s' h' fun _ =>
            Replies policy c₀ Opcode.attach requestId) ∧
          (¬haltAfter → Replies policy c₀ Opcode.attach requestId
            { s' with state := .running } h')) := by
  refine finishFrame_offered hn (fun crc => attachBuffer_frame s.scratch requestId info crc)
    fun b dead evs ho => ?_
  rcases ho with ⟨hd, -⟩ | ⟨-, f, accepted, hf, rfl, rfl⟩
  · exact absurd (alive.symm.trans hd) (by decide)
  have ht₁ : Trace policy c₀ _ (h ++ [⟨.offer f, accepted⟩]) ([] ++ [f]) :=
    ht.offer (.advertise (b := b)
    (n := headerSize + (attachResponseSize + info.memoryRegions.length))
    alive (hf.map.trans (congrArg some map.symm))) offered_offer
  rw [List.nil_append] at ht₁
  have he : Engaged (s.framed b (headerSize + (attachResponseSize + info.memoryRegions.length))
      (!accepted)) (h ++ [⟨.offer f, accepted⟩]) := by
    refine ⟨⟨attached, ?_, fun hd => ?_⟩, fun entry hm => ?_, fits⟩
    · rw [advertisedMap_offer, hf.map, Session.framed, map]
      rfl
    · have ha : accepted = false := by simpa [Session.framed] using hd
      exact ⟨f, by simp [ha]⟩
    · exact absurd (clean ▸ hm) List.not_mem_nil
  have first : ResponseFirst Opcode.attach requestId [f] := ⟨f, [], rfl, hf.response, by simp⟩
  refine ⟨fun _ => ?_, fun _ => ⟨fun _ => ?_, fun _ => ?_⟩⟩
  · exact ⟨[f], ht₁, Ready.of_detached state fits, first⟩
  · refine haltAfterAttach_ready ht₁ he (by simp [Session.framed, state])
      fun s' h' fs' ht' ready hev => ?_
    exact ⟨_, ht', ready, first.append hev⟩
  · have ht₂ := ht₁.step (t := { s.framed b (headerSize + (attachResponseSize +
        info.memoryRegions.length)) (!accepted) with state := .running }) (.run
      (Or.inl (by simp [Session.framed, state])) he.toActive rfl rfl ⟨rfl, rfl, rfl, rfl⟩)
    refine ⟨[f], ht₂, Ready.of_running ⟨⟨he.attached, he.mapped, he.live⟩, he.armed, he.fits⟩ rfl,
      first⟩

theorem opAttach_replies (ready : Ready s h) (state : s.state = .detached)
    (alive : s.transportDead = false) :
    (opAttach requestId payload).wp s h fun _ =>
      Replies policy (s, h) Opcode.attach requestId := by
  simp only [opAttach, Action.wp_bind, Action.wp_ite, getSession_wp, backend_wp, updateSession_wp,
    Action.wp_pure, beginFrame_wp, writePayload_wp, Bool.not_eq_true', Bool.not_eq_false]
  refine ⟨fun _ => respond_replies Trace.start ready alive (Or.inr (by decide)), fun free =>
    ⟨fun _ => respond_replies Trace.start ready alive (Or.inr (by decide)), fun _ a =>
      ⟨fun fail => ?_, fun ok => ?_⟩⟩⟩
  · have k :
        KeepsHalt h
        (h ++ [⟨.call s (.attach ⟨getU8 payload 4 != 0, getU8 payload 5 != 0⟩), a⟩]) := by
      refine ⟨haltView_call, ?_, confirmations_call, List.prefix_append _ _⟩
      simp only [advertisedMap_call, advertisedCall]
      rw [if_neg fail]
    exact sendBackendFailure_replies (Trace.start.call a (Bool.eq_false_of_not_eq_true free) fail)
      (ready.keeps k) alive (by decide)
  generalize hinfo : normalizeAttachInfo a.info = info
  have ht₁ (regions : List MemoryRegion) := (Trace.start (p := policy) (s := s) (h := h)).settle
    (.attach ⟨getU8 payload 4 != 0, getU8 payload 5 != 0⟩ a info regions
      (Bool.eq_false_of_not_eq_true free)
      state (not_not.mp ok))
  refine ⟨fun _ => ?_, fun wellFormed => ⟨fun _ => ⟨fun _ => ?_, fun hf => absurd hf (by decide)⟩,
    fun small => ⟨fun hf => absurd hf (by decide), fun _ => ?_⟩⟩⟩
  · exact rejectAttach_replies (ht₁ []) state (Nat.zero_le _) alive
  · exact rejectAttach_replies (ht₁ _) state (Nat.zero_le _) alive
  · refine sendAttach_replies (ht₁ _) rfl rfl rfl state (Nat.zero_le _) alive ?_
    simp only [isValidMessageSize, maxFrameSize, headerSize] at small ⊢
    omega

end SidpClient
