import SidpClient.FrameContents
import SidpClient.ShadowPrograms

/-! The reserved bytes of TARGET_LOST, which nothing writes: they are what the frame before left
there, and that is zero, but where RESET_HALT takes a halted session over the last stop_id. -/
namespace SidpClient
open LittleEndian Interactive

/-- The three bytes behind the first of the payload are zero, if another frame may follow. -/
def Blank (s : Session) : Prop := s.transportDead = false → s.scratch.read 13 3 = List.replicate 3 0

/-- The reset of a RESET_HALT was asked for with the last stop_id. -/
def WrapsInReset (h : SessionHistory) : Prop :=
  ∃ h' s kind a, h = h' ++ [⟨.call s (.reset kind true), a⟩] ∧ s.stopId + 1 = 0

/-- A TARGET_LOST has its reserved bytes zero. -/
def BlankLoss (h : SessionHistory) (f : List UInt8) : Prop :=
  isTargetLost f = true → slice f 13 3 = List.replicate 3 0 ∨ WrapsInReset h

/-- Whatever stands in the frame buffer. -/
def Anyhow (_ : Session) (h : SessionHistory) : Prop := EveryOffer BlankLoss h

/-- Ready for a TARGET_LOST. -/
def Cleared (s : Session) (h : SessionHistory) : Prop := Blank s ∧ EveryOffer BlankLoss h

/-- What holds between two inputs. -/
def Tidy (s : Session) (h : SessionHistory) : Prop :=
  (s.state = .running → Blank s) ∧ EveryOffer BlankLoss h

/-- What only depends on the frame buffer, the latch, the state and the frames offered. -/
structure BufferBound (P : Session → SessionHistory → Prop) : Prop where
  update : ∀ s s' h, (s'.scratch, s'.transportDead, s'.state) = (s.scratch, s.transportDead,
    s.state) → P s h → P s' h
  call : ∀ s h s₁ c a, P s h → P s (h ++ [⟨.call s₁ c, a⟩])

variable {P : Session → SessionHistory → Prop} {s s' : Session} {h evs : SessionHistory}
  {b : Buffer} {n : ℕ} {kind : UInt8} {opcode : UInt16} {requestId : UInt32} {α : Type}

/-! What the invariants depend on. -/

theorem anyhow_bound : BufferBound Anyhow := ⟨fun _ _ _ _ hp => hp, fun _ _ _ _ _ hp => hp.call⟩

theorem Blank.same (hb : Blank s) (scratch : s'.scratch = s.scratch)
    (dead : s'.transportDead = s.transportDead) :
    Blank s' := by
  rw [Blank, scratch, dead]
  exact hb

theorem cleared_bound : BufferBound Cleared := by
  constructor
  · intro s s' h same hp
    simp only [Prod.mk.injEq] at same
    exact ⟨hp.1.same same.1 same.2.1, hp.2⟩
  · exact fun _ _ _ _ _ hp => ⟨hp.1, hp.2.call⟩

theorem tidy_bound : BufferBound Tidy := by
  constructor
  · intro s s' h same hp
    simp only [Prod.mk.injEq] at same
    exact ⟨fun running => (hp.1 (same.2.2.symm.trans running)).same same.1 same.2.1, hp.2⟩
  · exact fun _ _ _ _ _ hp => ⟨hp.1, hp.2.call⟩

theorem Cleared.tidy (hc : Cleared s h) : Tidy s h := ⟨fun _ => hc.1, hc.2⟩

theorem Cleared.anyhow (hc : Cleared s h) : Anyhow s h := hc.2

theorem Tidy.anyhow (ht : Tidy s h) : Anyhow s h := ht.2

theorem Tidy.cleared (ht : Tidy s h) (running : s.state = .running) :
    Cleared s h := ⟨ht.1 running, ht.2⟩

theorem Anyhow.tidy (ha : Anyhow s h) (still : s.state ≠ .running) : Tidy s h :=
  ⟨fun running => absurd running still, ha⟩

/-! Programs that offer no frame. -/

section
variable (hP : BufferBound P)
include hP

theorem BufferBound.backend (c : Call) :
    (backend c).Preserves P := .ask fun s h a hp => hP.call s h s c a hp

theorem BufferBound.updateSession {f : Session → Session}
    (same : ∀ s, ((f s).scratch, (f s).transportDead, (f s).state) = (s.scratch,
      s.transportDead, s.state)) :
    (updateSession f).Preserves P := .modify fun s h hp => hP.update s (f s) h (same s) hp

theorem BufferBound.undisturbed : Undisturbed P :=
  ⟨fun s h table hp => hP.update s (s.withTable table) h rfl hp, fun s h s₁ c a _ hp =>
    hP.call s h s₁ c a hp⟩

theorem BufferBound.rollbackRunConfig : rollbackRunConfig.Preserves P :=
  .bind hP.undisturbed.restoreAll fun _ => .bind (hP.backend _) fun _ => .bind (hP.backend _)
    fun _ => .bind (hP.backend _) fun _ => .bind (hP.updateSession fun _ => rfl) fun _ => .pure _

theorem BufferBound.installRun (plan : RunPlan) : (installRun plan).Preserves P :=
  .bind (hP.undisturbed.apply _) fun _ => .ite (fun _ => .pure _) fun _ => .bind (hP.backend _)
    fun _ => .ite (fun _ => .pure _) fun _ => .bind (hP.updateSession fun _ => rfl)
      fun _ => .bind (hP.backend _) fun _ => .ite (fun _ => .pure _) fun _ => .bind (hP.backend _)
        fun _ => .ite (fun _ => .pure _) fun _ => .pure _

theorem BufferBound.pollStepHalted (n : ℕ) : (pollStepHalted n).Preserves P := by
  induction n with
  | zero => exact .pure _
  | succ n ih =>
    exact .bind (hP.backend _) fun _ => .ite (fun _ => .pure _) fun _ =>
      .ite (fun _ => .pure _) fun _ => ih

theorem BufferBound.writeCurrentPc (pc : UInt32) : (writeCurrentPc pc).Preserves P :=
  .bind (hP.backend _) fun _ => .pure _

theorem BufferBound.executeStepOver (action : UInt8) : (executeStepOver action).Preserves P := by
  apply getSession_preserves
  intro s
  apply Action.Preserves.ite (fun _ => .pure _)
  intro _
  apply Action.Preserves.bind (hP.undisturbed.restoreFound _)
  intro _
  apply Action.Preserves.ite (fun _ => .pure _)
  intro _
  apply Action.Preserves.bind (hP.writeCurrentPc _)
  intro _
  apply Action.Preserves.ite (fun _ => .bind (hP.undisturbed.installFound _) fun _ => .pure _)
  intro _
  apply Action.Preserves.bind (hP.backend _)
  intro _
  apply Action.Preserves.ite (fun _ => .pure _)
  intro _
  apply Action.Preserves.bind (hP.pollStepHalted _)
  intro outcome
  cases outcome with
  | error reason => exact .pure _
  | ok stop =>
    exact .bind (hP.updateSession fun _ => rfl) fun _ => .bind (hP.undisturbed.installFound _)
      fun _ => .ite (fun _ => .pure _) fun _ => .ite (fun _ => .pure _)
        fun _ => .ite (fun _ => .pure _) fun _ => .pure _

theorem BufferBound.captureSnapshot : captureSnapshot.Preserves P := by
  have stack : captureStackSnapshot.Preserves P := by
    apply getSession_preserves
    intro s
    cases findRegister s.pendingRegisters s.pendingRegistersSize armRegSp with
    | none => exact .pure _
    | some entry =>
      dsimp only
      split
      · exact .pure _
      · split
        · exact .pure _
        · exact .bind (hP.backend _) fun _ => .bind (hP.updateSession fun _ => rfl) fun _ =>
            .ite (fun _ => .pure _) fun _ => hP.updateSession fun _ => rfl
  exact getSession_preserves fun _ => .ite (fun _ => .bind (hP.backend _) fun _ =>
    .bind (hP.updateSession fun _ => rfl) fun _ =>
      .ite (fun _ => .bind (hP.updateSession fun _ => rfl) fun _ => stack)
      fun _ => .pure _) fun _ => .pure _

end

/-! Frames. -/

/-- The reserved bytes of a frame stay in the buffer. -/
theorem read_reserved {b' : Buffer} (kept : ∀ i, headerSize ≤ i → b' i = b i) :
    b'.read 13 3 = b.read 13 3 := by
  apply List.map_congr_left
  intro i _
  exact kept (13 + i) (by simp only [headerSize]; omega)

theorem HasHeader.not_lost {f : List UInt8} (hf : HasHeader f kind opcode requestId)
    (other : kind ≠ MsgKind.event ∨ opcode ≠ Opcode.targetLost) : isTargetLost f = false := by
  have named : frameKind f = kind ∧ frameOpcode f = opcode := ⟨hf.kind, hf.opcode⟩
  rw [isTargetLost, SidpClient.isEvent, named.1, named.2]
  rcases other with other | other
  · rw [beq_false_of_ne other]
    rfl
  · rw [beq_false_of_ne other, Bool.and_false]

theorem Anyhow.offered {P : List UInt8 → Prop} {dead : Bool} (ha : Anyhow s h)
    (ho : Offered s P dead evs) (hP : s.transportDead = false → ∀ f, P f → BlankLoss h f) :
    Anyhow s' (h ++ evs) := by
  rcases ho with ⟨-, -, rfl⟩ | ⟨alive, f, accepted, hf, -, rfl⟩
  · rw [List.append_nil]
    exact ha
  · exact EveryOffer.offer ha (hP alive f hf)

theorem head_under (head : b.read 0 8 = headerBytes kind opcode requestId) (offset : ℕ)
    (bytes : List UInt8) :
    (b.write (headerSize + offset) bytes).read 0 8 = headerBytes kind opcode requestId :=
    read_header_payload head

/-- A frame that is no TARGET_LOST and has zeros there clears the way for one. -/
theorem finishFrame_clears (ha : Anyhow s h)
    (other : kind ≠ MsgKind.event ∨ opcode ≠ Opcode.targetLost)
    (head : b.read 0 8 = headerBytes kind opcode requestId) (valid : isValidMessageSize n)
    (blank : b.read 13 3 = List.replicate 3 0) :
    finishFrame.wp { s with scratch := b, txFrameSize := n } h fun _ => Cleared := by
  have size : 8 ≤ n := le_trans (by decide) valid.1
  apply finishFrame_sealed (P := fun f => isTargetLost f = false) valid
  · exact (sealedFrame_hasHeader _ size head).not_lost other
  · intro b' dead evs kept sent
    have told : Anyhow s (h ++ evs) := by
      apply ha.offered sent
      intro _ f plain lost
      rw [plain] at lost
      exact absurd lost Bool.false_ne_true
    exact ⟨fun _ => (read_reserved kept).trans blank, told⟩

/-- A response begins with its status, which has zeros there. -/
theorem le32_status_reserved (status : Status) :
    slice (le32 status.value) 1 3 = List.replicate 3 0 := by
  cases status <;> decide

theorem write_status_reserved (b : Buffer) (status : Status) (rest : List UInt8) :
    (b.write headerSize (le32 status.value ++ rest)).read 13 3 = List.replicate 3 0 := by
  have inside := Buffer.read_write_inside b headerSize (le32 status.value ++ rest) 1 3 (by simp)
  have front : slice (le32 status.value ++ rest) 1 3 = slice (le32 status.value) 1 3 := by
    have length : (le32 status.value).length = 4 := le32_length _
    rw [slice, slice, List.drop_append_of_le_length (by omega),
      List.take_append_of_le_length (by rw [List.length_drop]; omega)]
  exact inside.trans (front.trans (le32_status_reserved status))

theorem respond_clears (opcode : UInt16) (requestId : UInt32) (status : Status) :
    (respond opcode requestId status).Leads Anyhow Cleared := by
  intro s h ha
  simp only [respond, sendResponse, Action.wp_bind, beginFrame_wp]
  refine ⟨fun hn => absurd hn (by decide), fun _ => ?_⟩
  simp only [Bool.not_true, Bool.false_eq_true, if_false, Action.wp_bind, writePayload_wp,
    ne_eq, not_true]
  have blank :=
    write_status_reserved (s.scratch.write 0 (headerBytes MsgKind.response opcode requestId)) status
    []
  rw [List.append_nil] at blank
  have head := read_headerBytes s.scratch MsgKind.response opcode requestId
  exact finishFrame_clears (s := s) ha (Or.inl (by decide)) (head_under head 0 _) (by decide) blank

/-- TARGET_LOST offers what stood there, and leaves it. -/
theorem sendTargetLost_offers (reason : TargetLostReason) (ha : Anyhow s h)
    (may : Blank s ∨ WrapsInReset h) :
    (sendTargetLost reason).wp s h fun _ s' h' => Anyhow s' h' ∧ (Blank s → Blank s') := by
  simp only [sendTargetLost, Action.wp_bind, beginFrame_wp]
  refine ⟨fun hn => absurd hn (by decide), fun _ => ?_⟩
  simp only [Bool.not_true, Bool.false_eq_true, if_false, Action.wp_bind, writePayload_wp]
  generalize hb : ((s.scratch.write 0 (headerBytes MsgKind.event Opcode.targetLost 0)).write
    (headerSize + 0)
    [reason.value]).write (headerSize + 4) (le32 0) = b
  have stale : b.read 13 3 = s.scratch.read 13 3 := by
    rw [← hb, Buffer.read_write_of_disjoint _ _ _ _ _ (Or.inl (by decide)),
      Buffer.read_write_of_disjoint _ _ _ _ _ (Or.inr (by simp [headerSize])),
      Buffer.read_write_of_disjoint _ _ _ _ _ (Or.inr (by rw [headerBytes_length]; decide))]
  apply finishFrame_sealed (s := s) (P := fun f => slice f 13 3 = s.scratch.read 13 3) (by decide)
  · rw [sealedFrame_slice _ _ _ _ _ (by decide) (Or.inr (by decide))]
    exact stale
  · intro b' dead evs kept sent
    constructor
    · apply ha.offered sent
      intro alive f bytes _
      rcases may with blank | wraps
      · exact Or.inl (bytes.trans (blank alive))
      · exact Or.inr wraps
    · intro blank live
      have alive : s.transportDead = false := by
        rcases sent with ⟨-, latched, -⟩ | ⟨alive, -⟩
        · exact absurd (latched.symm.trans live) (by decide)
        · exact alive
      exact (read_reserved kept).trans (stale.trans (blank alive))

theorem enterLost_clears (reason : TargetLostReason) : (enterLost reason).Preserves Cleared := by
  apply getSession_preserves
  intro s
  apply Action.Preserves.ite (fun _ => .pure _)
  intro _
  apply Action.Preserves.bind
  · exact .modify fun _ _ hc => ⟨hc.1, hc.2⟩
  intro _
  apply Action.Preserves.bind
  · intro s h hc
    apply Action.wp_mono (sendTargetLost_offers reason hc.2 (Or.inl hc.1))
    intro _ _ _ sent
    exact ⟨sent.2 hc.1, sent.1⟩
  · exact fun _ => .pure _

theorem sendBackendFailure_clears (opcode : UInt16) (requestId : UInt32) (result : EspErr)
    (fallback : Status) :
    (sendBackendFailure opcode requestId result fallback).Leads Anyhow Cleared :=
  .ite (fun _ => .bind (respond_clears _ _ _) fun _ => .bind (enterLost_clears _)
    fun _ => .pure (fun _ _ hc => hc) _)
    fun _ => respond_clears _ _ _

/-- A STOPPED is no TARGET_LOST, and only a halted session sends one. -/
theorem emitPendingStopped_tidies : emitPendingStopped.Preserves Tidy := by
  intro s h ht
  simp only [emitPendingStopped, Action.wp_bind, getSession_wp, Action.wp_ite, Action.wp_pure]
  refine ⟨fun _ => ht, fun unreported => ?_⟩
  have halted : s.state = .halted := not_not.mp fun other => unreported (Or.inr other)
  simp only [sendStopped, Action.wp_bind, getSession_wp, beginFrame_wp,
    Action.wp_ite, Action.wp_pure]
  refine ⟨fun _ => ⟨fun _ => ht, fun began => absurd rfl began⟩,
    fun small => ⟨fun began => absurd began (by decide), fun _ => ?_⟩⟩
  simp only [writePayload_wp, updateSession_wp]
  have fixed := head_under (read_headerBytes s.scratch MsgKind.event Opcode.stopped 0) 0
      (stoppedEventBytes s)
  have registers := head_under fixed stoppedEventSize
      (s.pendingRegisters.read 0 s.pendingRegistersSize)
  have head := head_under registers (stoppedEventSize + s.pendingRegistersSize)
    (s.pendingRegisters.read s.pendingRegistersSize s.pendingStackSize)
  have valid :
      isValidMessageSize (headerSize + (stoppedEventSize + s.pendingRegistersSize +
      s.pendingStackSize)) := by
    simp only [isValidMessageSize, headerSize, maxFrameSize] at small ⊢
    omega
  apply finishFrame_sealed (s := s) (P := fun f => isTargetLost f = false) valid
  · exact (sealedFrame_hasHeader _ (le_trans (by decide) valid.1) head).not_lost
      (Or.inr (by decide))
  · intro b' dead evs _ sent
    have told : Anyhow s (h ++ evs) := by
      apply ht.anyhow.offered sent
      intro _ f plain lost
      rw [plain] at lost
      exact absurd lost Bool.false_ne_true
    exact ⟨fun running => absurd (halted.symm.trans running) (by decide), told⟩

/-! Halts. -/

theorem enterHalted_clears (stop : StopDetect) : (enterHalted stop).Preserves Cleared := by
  intro s h hc
  simp only [enterHalted, Action.wp_bind, getSession_wp, Action.wp_ite, Action.wp_pure,
    updateSession_wp]
  refine ⟨fun _ => hc, fun _ => ⟨fun _ => ?_, fun _ => ?_⟩⟩
  · exact enterLost_clears .timeout _ h ⟨hc.1, hc.2⟩
  · exact cleared_bound.captureSnapshot _ h ⟨hc.1, hc.2⟩

/-- The halt behind a reset. Only at the last stop_id does it offer anything. -/
theorem enterHalted_reset (stop : StopDetect) (ha : Anyhow s h)
    (wraps : s.stopId + 1 = 0 → WrapsInReset h) :
    (enterHalted stop).wp s h fun _ => Anyhow := by
  simp only [enterHalted, Action.wp_bind, getSession_wp, Action.wp_ite, Action.wp_pure,
    updateSession_wp]
  refine ⟨fun _ => ha, fun live => ⟨fun wrap => ?_, fun _ => anyhow_bound.captureSnapshot _ h ha⟩⟩
  simp only [enterLost, Action.wp_bind, getSession_wp, Action.wp_ite, Action.wp_pure,
    updateSession_wp]
  refine ⟨fun lost => absurd lost live, fun _ => ?_⟩
  have lost :=
    sendTargetLost_offers (s := { s.nextStop (classifyStop s stop) with state := .lost }) .timeout
    ha
    (Or.inr (wraps wrap))
  apply Action.wp_mono lost
  intro _ _ _ sent
  exact sent.1

theorem pollStop_tidies : pollStop.Leads Cleared Tidy :=
  .bind (cleared_bound.backend _) fun _ => .ite
    (fun _ => .mono (enterLost_clears _) (fun _ _ hc => hc) fun _ _ hc => hc.tidy) fun _ =>
      .ite (fun _ => .bind (.mono (enterHalted_clears _) (fun _ _ hc => hc) fun _ _ hc => hc.tidy)
        fun _ => emitPendingStopped_tidies)
      fun _ => .pure (fun _ _ hc => hc.tidy) _

/-! The handlers. -/

theorem respond_tidies (opcode : UInt16) (requestId : UInt32) (status : Status) :
    (respond opcode requestId status).Preserves Tidy :=
  Action.Leads.mono (respond_clears _ _ _) (fun _ _ ht => ht.anyhow) fun _ _ hc => hc.tidy

theorem sendBackendFailure_tidies (opcode : UInt16) (requestId : UInt32) (result : EspErr)
    (fallback : Status) :
    (sendBackendFailure opcode requestId result fallback).Leads Anyhow Tidy :=
  .mono (sendBackendFailure_clears _ _ _ _) (fun _ _ ha => ha) fun _ _ hc => hc.tidy

/-- An update that leaves the frame buffer and the latch alone. -/
theorem update_clears {f : Session → Session}
    (same : ∀ s, ((f s).scratch, (f s).transportDead) = (s.scratch, s.transportDead)) :
    (updateSession f).Preserves Cleared := by
  apply Action.Preserves.modify
  intro s h hc
  obtain ⟨scratch, dead⟩ := Prod.mk.inj (same s)
  exact ⟨hc.1.same scratch dead, hc.2⟩

theorem Action.Leads.tidy {m : SessionM α} {P : Session → SessionHistory → Prop}
    (hm : m.Leads P Cleared) :
    m.Leads P Tidy := hm.mono (fun _ _ hp => hp) fun _ _ hc => hc.tidy

theorem Action.Leads.from_tidy {m : SessionM α} {Q : Session → SessionHistory → Prop}
    (hm : m.Leads Anyhow Q) :
    m.Leads Tidy Q := hm.mono (fun _ _ ht => ht.anyhow) fun _ _ hq => hq

theorem done_tidies (a : α) :
    (pure a : SessionM α).Leads Cleared Tidy := .pure (fun _ _ hc => hc.tidy) a

/-- Over a dead transport no frame follows. -/
theorem handleDisconnect_clears : handleDisconnect.Leads Anyhow Cleared := by
  have latch : (updateSession fun s => { s with transportDead := true }).Leads Anyhow Cleared :=
    fun _ _ ha => ⟨fun alive => absurd alive Bool.noConfusion, ha⟩
  have lose : Action.Preserves Cleared
      (do updateSession fun s => { s with state := .lost }; return false : SessionM Bool) :=
    .bind (update_clears fun _ => rfl) fun _ => .pure _
  apply Action.Leads.bind latch
  intro _
  exact getSession_preserves fun _ => .ite (fun _ => .pure _) fun _ =>
    .bind (cleared_bound.backend _) fun _ => .ite (fun _ => lose) fun _ =>
    .bind cleared_bound.undisturbed.restoreAll fun _ => .ite (fun _ => lose) fun _ =>
      .bind (cleared_bound.backend _) fun _ => .ite (fun _ => lose) fun _ =>
        .bind (update_clears fun _ => rfl) fun _ => .pure _

theorem haltAfterAttach_tidies : haltAfterAttach.Leads Cleared Tidy := by
  have lose (reason : TargetLostReason) :
      (do enterLost reason; return : SessionM Unit).Leads Cleared Tidy :=
    .bind (enterLost_clears _) fun _ => done_tidies _
  have stopped (stop : StopDetect) : (do enterHalted stop; emitPendingStopped).Leads Cleared Tidy :=
    .bind (Action.Leads.tidy (enterHalted_clears stop)) fun _ => emitPendingStopped_tidies
  exact .bind (cleared_bound.backend _) fun _ => .ite (fun _ => lose _)
    fun _ => .ite (fun _ => stopped _) fun _ => .bind (cleared_bound.backend _)
      fun _ => .ite (fun _ => stopped _) fun _ => .ite (fun _ => lose _) fun _ =>
      .bind (update_clears fun _ => rfl) fun _ => done_tidies _

/-- A response whose status stands in front of the rest. -/
theorem finishResponse_clears {c : Buffer} {status : Status} {rest : List UInt8} (ha : Anyhow s h)
    (head : c.read 0 8 = headerBytes MsgKind.response opcode requestId)
    (body : b = c.write headerSize (le32 status.value ++ rest)) (valid : isValidMessageSize n) :
    finishFrame.wp { s with scratch := b, txFrameSize := n } h fun _ => Cleared := by
  rw [body]
  exact finishFrame_clears (s := s) ha (Or.inl (by decide)) (head_under head 0 _) valid
    (write_status_reserved _ _ _)

theorem opAttach_tidies (requestId : UInt32) (payload : List UInt8) :
    (opAttach requestId payload).Preserves Tidy := by
  have refuse (status : Status) :
      (do respond Opcode.attach requestId status; return : SessionM Unit).Leads Anyhow Tidy :=
    .bind (respond_clears _ _ _) fun _ => done_tidies _
  have closed : handleDisconnect.Leads Cleared Cleared :=
    handleDisconnect_clears.mono (fun _ _ hc => hc.anyhow) fun _ _ hc => hc
  have reject : Action.Leads Anyhow Tidy (do
      respond Opcode.attach requestId .error
      let _ ← handleDisconnect
      return : SessionM Unit) :=
    .bind (respond_clears _ _ _) fun _ => .bind closed fun _ => done_tidies _
  have fail (result : EspErr) : Action.Leads Anyhow Tidy
      (do sendBackendFailure Opcode.attach requestId result .swdError; return : SessionM Unit) :=
    .bind (sendBackendFailure_clears _ _ _ _) fun _ => done_tidies _
  intro s h ht
  apply Action.wp_bind.mpr
  rw [getSession_wp, Action.wp_ite]
  refine ⟨fun _ => refuse _ s h ht.anyhow, fun _ => ?_⟩
  rw [Action.wp_ite]
  refine ⟨fun _ => refuse _ s h ht.anyhow, fun _ => ?_⟩
  rw [Action.wp_bind, backend_wp]
  intro a
  have told {c : Call} {t : Session} : Anyhow t (h ++ [⟨.call s c, a⟩]) := ht.anyhow.call
  rw [Action.wp_ite]
  refine ⟨fun _ => fail _ s _ told, fun _ => ?_⟩
  dsimp only
  rw [Action.wp_bind, updateSession_wp, Action.wp_ite]
  refine ⟨fun _ => reject _ _ told, fun _ => ?_⟩
  rw [Action.wp_bind, updateSession_wp, Action.wp_bind, beginFrame_wp]
  refine ⟨fun _ => ?_, fun small => ?_⟩
  · rw [Action.wp_ite]
    exact ⟨fun _ => reject _ _ told, fun began => absurd rfl began⟩
  rw [Action.wp_ite]
  refine ⟨fun began => absurd began (by decide), fun _ => ?_⟩
  rw [Action.wp_bind, writePayload_wp, Action.wp_bind, writePayload_wp, Action.wp_bind]
  generalize normalizeAttachInfo a.info = info at small ⊢
  -- the status is the first field of the response
  have written (c : Buffer) : ∃ rest, (c.write (headerSize + 0) (attachResponseBytes info)).write
      (headerSize + attachResponseSize) info.memoryRegions = c.write headerSize
      (le32 Status.ok.value ++ rest) := by
    have behind := Buffer.write_append c headerSize (attachResponseBytes info) info.memoryRegions
    rw [attachResponseBytes_length] at behind
    simp only [attachResponseBytes, List.append_assoc] at behind ⊢
    exact ⟨_, behind.symm⟩
  obtain ⟨rest, whole⟩ :=
    written (s.scratch.write 0 (headerBytes MsgKind.response Opcode.attach requestId))
  have valid :
      isValidMessageSize (headerSize + (attachResponseSize + info.memoryRegions.length)) := by
    simp only [isValidMessageSize, headerSize, maxFrameSize] at small ⊢
    omega
  apply Action.wp_mono (finishResponse_clears
    (s := { s.attachedWith info with regions := parseMap info.memoryRegions })
    told (read_headerBytes _ _ _ _) whole valid)
  have runs : (updateSession fun s => { s with state := .running }).Leads Cleared Tidy :=
    Action.Leads.tidy (update_clears fun _ => rfl)
  intro sent s₁ evs cleared
  rw [Action.wp_ite]
  refine ⟨fun _ => cleared.tidy, fun _ => ?_⟩
  rw [Action.wp_ite]
  exact ⟨fun _ => haltAfterAttach_tidies s₁ _ cleared, fun _ => runs s₁ _ cleared⟩

theorem opDetach_tidies (requestId : UInt32) (payload : List UInt8) :
    (opDetach requestId payload).Preserves Tidy := by
  have refuse : (do respond Opcode.detach requestId .swdError; return : SessionM Unit).Preserves
      Tidy :=
    .bind (respond_tidies _ _ _) fun _ => .pure _
  have left : (updateSession Session.detachedState).Preserves Tidy :=
    fun s h ht => Anyhow.tidy (s := s.detachedState) ht.anyhow
      (by decide : TargetState.detached ≠ .running)
  have release (action : UInt8) : (releaseTarget requestId action).Preserves Tidy :=
    .bind tidy_bound.undisturbed.restoreAll fun _ => .ite (fun _ => refuse)
      fun _ => .bind (tidy_bound.backend _)
      fun _ => .ite (fun _ => refuse) fun _ => .bind (respond_tidies _ _ _) fun _ => left
  have fail (result : EspErr) : (do
      sendBackendFailure Opcode.detach requestId result .timeout
      return false : SessionM Bool).Preserves Tidy :=
    .bind (Action.Leads.mono (sendBackendFailure_tidies _ _ _ _) (fun _ _ ht => ht.anyhow)
      fun _ _ ht => ht)
      fun _ => .pure _
  have halt : (haltForDetach requestId).Preserves Tidy := by
    refine getSession_preserves fun s => .ite (fun _ => .pure _) fun _ =>
      .bind (tidy_bound.backend _) fun a => .ite (fun _ => fail _) fun _ => ?_
    cases softwareHit s.swTable a.stop with
    | none => exact .pure _
    | some bp => exact .bind (tidy_bound.updateSession fun _ => rfl) fun _ => .pure _
  cases hcheck : checkDetach payload with
  | error status =>
    rw [opDetach, hcheck]
    exact respond_tidies _ _ _
  | ok action =>
    rw [opDetach, hcheck]
    exact .bind halt fun _ => .ite (fun _ => .pure _) fun _ => getSession_preserves fun _ =>
      .ite (fun _ => .bind (tidy_bound.writeCurrentPc _) fun _ => .ite (fun _ => refuse)
        fun _ => release _)
        fun _ => release _

theorem opGetState_tidies (requestId : UInt32) (payload : List UInt8) :
    (opGetState requestId payload).Preserves Tidy := by
  refine .ite (fun _ => .bind (respond_tidies _ _ _) fun _ => .pure _) fun _ => ?_
  intro s h ht
  simp only [Action.wp_bind, beginFrame_wp, Action.wp_ite, Action.wp_pure, getSession_wp,
    writePayload_wp]
  refine ⟨fun hn => absurd hn (by decide), fun _ => ⟨fun hf => absurd hf (by decide), fun _ => ?_⟩⟩
  simp only [getStateResponseBytes, List.append_assoc]
  apply Action.wp_mono (finishResponse_clears (s := s) ht.anyhow (read_headerBytes _ _ _ _)
    rfl (by decide))
  exact fun _ _ _ hc => hc.tidy

theorem opReadMemory_tidies (requestId : UInt32) (payload : List UInt8) :
    (opReadMemory requestId payload).Preserves Tidy := by
  apply getSession_preserves
  intro s
  cases hcheck : checkReadMemory s payload with
  | error status => exact respond_tidies _ _ _
  | ok req =>
    obtain ⟨-, -, room, -⟩ := checkReadMemory_ok hcheck
    intro s h ht
    simp only [Action.wp_bind, beginFrame_wp, Action.wp_ite, Action.wp_pure, backend_wp,
      writePayload_wp, getSession_wp]
    refine ⟨fun _ => ⟨fun _ => ht, fun hf => absurd rfl hf⟩, fun small =>
      ⟨fun hf => absurd hf (by decide), fun _ a => ?_⟩⟩
    refine ⟨fun _ => ?_, fun _ => ?_⟩
    · exact sendBackendFailure_tidies _ _ _ _ _ _ ht.anyhow.call
    have valid : isValidMessageSize (headerSize + (readMemoryResponseSize + req.length.toNat)) := by
      simp only [isValidMessageSize, headerSize, maxFrameSize, readMemoryResponseSize] at room ⊢
      omega
    simp only [List.append_assoc]
    apply Action.wp_mono (finishResponse_clears (s := s) ht.anyhow.call
      (read_header_payload (read_header_payload (read_headerBytes _ _ _ _))) rfl valid)
    exact fun _ _ _ hc => hc.tidy

theorem opWriteMemory_tidies (requestId : UInt32) (payload : List UInt8) :
    (opWriteMemory requestId payload).Preserves Tidy := by
  apply getSession_preserves
  intro s
  cases hcheck : checkWriteMemory s payload with
  | error status => exact respond_tidies _ _ _
  | ok req =>
    have image (f : Session → Session) : (updateSession f).Leads Tidy Anyhow :=
      fun _ _ ht => ht.anyhow
    exact Action.Leads.bind (image _) fun _ => .bind (anyhow_bound.backend _) fun _ =>
      .ite (fun _ => .bind (sendBackendFailure_clears _ _ _ _) fun _ => done_tidies _) fun _ =>
        .bind (anyhow_bound.updateSession fun _ => rfl) fun _ =>
          Action.Leads.tidy (respond_clears _ _ _)

theorem opReadRegisters_tidies (requestId : UInt32) (payload : List UInt8) :
    (opReadRegisters requestId payload).Preserves Tidy := by
  apply getSession_preserves
  intro s
  cases hcheck : checkReadRegisters s payload with
  | error status => exact respond_tidies _ _ _
  | ok req =>
    intro s h ht
    simp only [Action.wp_bind, beginFrame_wp, Action.wp_ite, Action.wp_pure, backend_wp,
      writePayload_wp, getSession_wp, updateSession_wp]
    refine ⟨fun big => absurd big (by decide), fun _ =>
      ⟨fun began => absurd began (by decide), fun _ a => ?_⟩⟩
    refine ⟨fun _ => sendBackendFailure_tidies _ _ _ _ _ _ ht.anyhow.call,
      fun _ => ⟨fun _ => Action.Leads.tidy (respond_clears _ _ _) _ _ ht.anyhow.call,
        fun room => ?_⟩⟩
    have fits : a.outSize ≤ registerBlobCapacity := not_lt.mp room
    have valid : isValidMessageSize (headerSize + readRegistersResponseSize + a.outSize) := by
      simp only [isValidMessageSize, registerBlobCapacity, headerSize, maxFrameSize,
        readRegistersResponseSize] at fits ⊢
      omega
    simp only [List.append_assoc]
    apply Action.wp_mono (finishResponse_clears (s := s) ht.anyhow.call
      (normalizePcInRegisterBlob_read_header (by decide)
      (read_header_payload (read_headerBytes _ _ _ _))) rfl valid)
    exact fun _ _ _ hc => hc.tidy

theorem opWriteRegisters_tidies (requestId : UInt32) (payload : List UInt8) :
    (opWriteRegisters requestId payload).Preserves Tidy := by
  have cancel (data : List UInt8) (count : ℕ) :
      (updateSession (updateStepOverAfterRegisterWrite data count)).Preserves Tidy := by
    intro s h ht
    rcases updateStepOver_cases data count s with same | cancelled
    · rw [updateSession_wp, same]
      exact ht
    · rw [updateSession_wp, cancelled]
      exact tidy_bound.update s _ h rfl ht
  apply getSession_preserves
  intro s
  cases hcheck : checkWriteRegisters s payload with
  | error status => exact respond_tidies _ _ _
  | ok req =>
    exact .bind (tidy_bound.backend _) fun _ =>
      .ite (fun _ => .bind (Action.Leads.from_tidy (sendBackendFailure_tidies _ _ _ _))
        fun _ => .pure _) fun _ => .bind (cancel _ _) fun _ => respond_tidies _ _ _

/-! Run control. -/

theorem failRun_tidies (requestId : UInt32) (status : Status) :
    (failRun requestId status).Preserves Tidy :=
  Action.Leads.bind tidy_bound.rollbackRunConfig fun _ =>
    .bind (Action.Leads.from_tidy (respond_clears _ _ _)) fun _ => .ite (fun _ =>
      Action.Leads.tidy (enterLost_clears _)) fun _ => done_tidies _

theorem reportStep_tidies (requestId : UInt32) (stop : StopDetect) (userStep : Bool) :
    (reportStep requestId stop userStep).Preserves Tidy :=
  Action.Leads.bind (Action.Leads.from_tidy (respond_clears _ _ _)) fun _ =>
    .bind (enterHalted_clears stop) fun _ =>
    .ite (fun _ => .bind (Action.Leads.tidy (cleared_bound.updateSession fun _ => rfl)) fun _ =>
    emitPendingStopped_tidies)
      fun _ => .mono emitPendingStopped_tidies (fun _ _ hc => hc.tidy) fun _ _ ht => ht

/-- The target runs before the response says so, which clears the way all the same. -/
theorem resumeRun_tidies (requestId : UInt32) (req : RunRequest) :
    (resumeRun requestId req).Preserves Tidy := by
  have runs (f : Session → Session) : (updateSession f).Leads Tidy Anyhow := fun _ _ ht => ht.anyhow
  exact Action.Leads.bind (tidy_bound.backend _) fun _ =>
    .ite (fun _ => .bind (Action.Leads.from_tidy (respond_clears _ _ _)) fun _ =>
      .bind (enterLost_clears _) fun _ => done_tidies _) fun _ => .bind (runs _)
      fun _ => .bind (respond_clears _ _ _) fun _ => pollStop_tidies

theorem opRun_tidies (requestId : UInt32) (payload : List UInt8) :
    (opRun requestId payload).Preserves Tidy := by
  apply getSession_preserves
  intro s
  cases hcheck : checkRun s payload with
  | error status => exact respond_tidies _ _ _
  | ok plan =>
    apply Action.Preserves.bind (tidy_bound.installRun plan)
    intro failure
    cases failure with
    | some status => exact failRun_tidies _ status
    | none =>
      apply Action.Preserves.bind (tidy_bound.executeStepOver _)
      intro outcome
      have lose (reason : TargetLostReason) (status : Status) : Action.Preserves Tidy
          (do respond Opcode.run requestId status; enterLost reason : SessionM Unit) :=
        Action.Leads.bind (Action.Leads.from_tidy (respond_clears _ _ _)) fun _ =>
          Action.Leads.tidy (enterLost_clears _)
      cases outcome with
      | notNeeded => exact resumeRun_tidies _ _
      | stepped => exact resumeRun_tidies _ _
      | stoppedStep stop => exact reportStep_tidies _ _ _
      | stoppedReal stop => exact reportStep_tidies _ _ _
      | failed =>
        exact .bind tidy_bound.rollbackRunConfig fun _ => .ite (fun _ => respond_tidies _ _ _)
          fun _ => lose _ _
      | failedLost reason => exact lose _ _

/-- Between two inputs of a target that runs or is halted. -/
def Awake (s : Session) (h : SessionHistory) : Prop :=
  Tidy s h ∧ (s.state = .running ∨ s.state = .halted)

theorem Awake.cleared (ha : Awake s h) (runs : s.state ≠ .halted) : Cleared s h :=
  ha.1.cleared (ha.2.resolve_right runs)

theorem Action.Leads.from_awake {m : SessionM α} {Q : Session → SessionHistory → Prop}
    (hm : m.Leads Tidy Q) :
    m.Leads Awake Q := hm.mono (fun _ _ ha => ha.1) fun _ _ hq => hq

theorem opHalt_tidies (requestId : UInt32) (payload : List UInt8) :
    (opHalt requestId payload).Leads Awake Tidy := by
  have answer (status : Status) : (respond Opcode.halt requestId status).Leads Tidy Cleared :=
    Action.Leads.from_tidy (respond_clears _ _ _)
  have quit (status : Status) :
      (do respond Opcode.halt requestId status; return : SessionM Unit).Leads Tidy Tidy :=
    .bind (answer _) fun _ => done_tidies _
  have repeated : (do respond Opcode.halt requestId .ok; emitPendingStopped : SessionM Unit).Leads
      Tidy Tidy :=
    .bind (Action.Leads.tidy (answer _)) fun _ => emitPendingStopped_tidies
  have reminded :
      (do respond Opcode.halt requestId .ok; emitPendingStopped; return : SessionM Unit).Leads Tidy
      Tidy :=
    .bind (Action.Leads.tidy (answer _)) fun _ => .bind emitPendingStopped_tidies
      fun _ => .pure (fun _ _ ht => ht) _
  have halt : Action.Leads Cleared Tidy (do
      let answer ← backend (.halt haltTimeoutMs)
      if answer.code ≠ .ok then
        sendBackendFailure Opcode.halt requestId answer.code .timeout
        return
      enterHalted answer.stop
      respond Opcode.halt requestId .ok
      emitPendingStopped : SessionM Unit) :=
    .bind (cleared_bound.backend _) fun _ =>
      .ite (fun _ => .bind (.mono (sendBackendFailure_clears _ _ _ _)
      (fun _ _ hc => hc.anyhow) fun _ _ hc => hc) fun _ => done_tidies _) fun _ =>
        .bind (Action.Leads.tidy (enterHalted_clears _)) fun _ => repeated
  apply Action.Leads.ite (fun _ => Action.Leads.from_awake (quit _))
  intro _
  apply Action.Leads.get_bind
  intro s t h hp
  obtain ⟨awake, rfl⟩ := hp
  rw [Action.wp_ite]
  refine ⟨fun _ => quit _ t h awake.1, fun reported => ?_⟩
  rw [Action.wp_ite]
  refine ⟨fun _ => reminded t h awake.1, fun unreported => ?_⟩
  apply halt t h (awake.cleared _)
  intro halted
  cases told : t.stopReported with
  | true => exact reported ⟨halted, told⟩
  | false => exact unreported ⟨halted, by rw [told]; rfl⟩

theorem prepareReset_tidies (opcode : UInt16) (requestId : UInt32) :
    (prepareReset opcode requestId).Leads Awake Tidy := by
  have clear : Action.Leads Tidy Tidy (do
      if !(← rollbackRunConfig) then
        respond opcode requestId .swdError
        enterLost .swdFault
        return false
      return true : SessionM Bool) :=
    .bind tidy_bound.rollbackRunConfig fun _ =>
      .ite (fun _ => .bind (Action.Leads.from_tidy (respond_clears _ _ _))
      fun _ => .bind (enterLost_clears _) fun _ => done_tidies _) fun _ => .pure
        (fun _ _ ht => ht) _
  have halt : Action.Leads Cleared Tidy (do
      let answer ← backend (.halt haltTimeoutMs)
      if answer.code ≠ .ok ∨ !answer.stop.halted then
        sendBackendFailure opcode requestId (if answer.code = .ok then .timeout else
          answer.code) .timeout
        return false
      enterHalted answer.stop
      if !(← rollbackRunConfig) then
        respond opcode requestId .swdError
        enterLost .swdFault
        return false
      return true : SessionM Bool) :=
    .bind (cleared_bound.backend _) fun _ =>
      .ite (fun _ => .bind (.mono (sendBackendFailure_clears _ _ _ _)
      (fun _ _ hc => hc.anyhow) fun _ _ hc => hc) fun _ => done_tidies _) fun _ =>
        .bind (Action.Leads.tidy (enterHalted_clears _)) fun _ => clear
  apply Action.Leads.get_bind
  intro s t h hp
  obtain ⟨awake, rfl⟩ := hp
  rw [Action.wp_ite]
  exact ⟨fun runs => halt t h (awake.cleared runs), fun _ => clear t h awake.1⟩

theorem resetFailed_tidies (opcode : UInt16) (requestId : UInt32) (result : EspErr) :
    (resetFailed opcode requestId result).Leads Tidy Tidy :=
  .bind (Action.Leads.from_tidy (respond_clears _ _ _)) fun _ =>
    Action.Leads.tidy (enterLost_clears _)

theorem opResetHalt_tidies (requestId : UInt32) (payload : List UInt8) :
    (opResetHalt requestId payload).Leads Awake Tidy := by
  apply Action.Leads.get_bind
  intro s
  apply Action.Leads.mono (P := Awake) _ (fun _ _ hp => hp.1) fun _ _ ht => ht
  cases hcheck : checkReset s Cap.resetHalt payload with
  | error status => exact Action.Leads.from_awake (respond_tidies _ _ _)
  | ok kind =>
    apply Action.Leads.bind (prepareReset_tidies _ _)
    intro ready
    apply Action.Leads.ite (fun _ => .pure (fun _ _ ht => ht) _)
    intro _ s h ht
    rw [Action.wp_bind, backend_wp]
    intro a
    rw [Action.wp_ite]
    have kept : Tidy s (h ++ [⟨.call s (.reset kind true), a⟩]) := tidy_bound.call s h s _ a ht
    refine ⟨fun _ => Action.Leads.bind (resetFailed_tidies _ _ _)
      (fun _ => .pure (fun _ _ ht => ht) _) s _ kept, fun _ => ?_⟩
    rw [Action.wp_bind, updateSession_wp, Action.wp_bind]
    have wraps (wrap : s.clearDebugState.clearRunTracking.stopId + 1 = 0) :
        WrapsInReset (h ++ [⟨.call s (.reset kind true), a⟩]) := ⟨h, s, kind, a, rfl, wrap⟩
    apply Action.wp_mono (enterHalted_reset a.stop (s := s.clearDebugState.clearRunTracking)
      kept.anyhow wraps)
    have told : Action.Leads Anyhow Tidy (do
        updateSession fun s => { s with pendingReason := .reset }
        respond Opcode.resetHalt requestId .ok
        emitPendingStopped : SessionM Unit) :=
      .bind (anyhow_bound.updateSession fun _ => rfl) fun _ =>
        .bind (Action.Leads.tidy (respond_clears _ _ _)) fun _ => emitPendingStopped_tidies
    intro _ s' _ halted
    exact told s' _ halted

theorem opResetRun_tidies (requestId : UInt32) (payload : List UInt8) :
    (opResetRun requestId payload).Leads Awake Tidy := by
  have runs (f : Session → Session) : (updateSession f).Leads Tidy Anyhow := fun _ _ ht => ht.anyhow
  apply Action.Leads.get_bind
  intro s
  apply Action.Leads.mono (P := Awake) _ (fun _ _ hp => hp.1) fun _ _ ht => ht
  cases hcheck : checkReset s Cap.resetRun payload with
  | error status => exact Action.Leads.from_awake (respond_tidies _ _ _)
  | ok kind =>
    exact .bind (prepareReset_tidies _ _) fun _ => .ite (fun _ => .pure (fun _ _ ht => ht) _)
      fun _ => .bind (tidy_bound.backend _) fun _ =>
        .ite (fun _ => .bind (resetFailed_tidies _ _ _) fun _ => .pure (fun _ _ ht => ht) _)
          fun _ => .bind (runs _) fun _ => Action.Leads.tidy (respond_clears _ _ _)

/-! The run. -/

theorem dispatch_tidies (op : RequestOp) (requestId : UInt32) (payload : List UInt8) (ht : Tidy s h)
    (gate : (gateTable s.state (gateColumn op)).refusal = none) :
    (dispatch op requestId payload).wp s h fun _ => Tidy := by
  have awake (controls : op = .halt ∨ op = .resetHalt ∨ op = .resetRun) :
      s.state = .running ∨ s.state = .halted := by
    rcases controls with rfl | rfl | rfl
    all_goals
      cases state : s.state with
      | running => exact Or.inl rfl
      | halted => exact Or.inr rfl
      | _ =>
        rw [state] at gate
        exact absurd gate (by decide)
  cases op with
  | attach => exact opAttach_tidies requestId payload s h ht
  | detach => exact opDetach_tidies requestId payload s h ht
  | getState => exact opGetState_tidies requestId payload s h ht
  | readMemory => exact opReadMemory_tidies requestId payload s h ht
  | writeMemory => exact opWriteMemory_tidies requestId payload s h ht
  | readRegisters => exact opReadRegisters_tidies requestId payload s h ht
  | writeRegisters => exact opWriteRegisters_tidies requestId payload s h ht
  | run => exact opRun_tidies requestId payload s h ht
  | halt => exact opHalt_tidies requestId payload s h ⟨ht, awake (Or.inl rfl)⟩
  | resetHalt => exact opResetHalt_tidies requestId payload s h ⟨ht, awake (Or.inr (Or.inl rfl))⟩
  | resetRun => exact opResetRun_tidies requestId payload s h ⟨ht, awake (Or.inr (Or.inr rfl))⟩

theorem handleRequest_tidies (message : List UInt8) : (handleRequest message).Preserves Tidy := by
  intro s h ht
  apply Action.wp_bind.mpr
  rw [getSession_wp, Action.wp_ite]
  refine ⟨fun _ => ht, fun _ => ?_⟩
  rw [Action.wp_ite]
  refine ⟨fun _ => ht, fun _ => ?_⟩
  rw [Action.wp_ite]
  refine ⟨fun _ => ht, fun _ => ?_⟩
  dsimp only
  cases requestOp (MsgHeader.parse message).opcode with
  | none => exact respond_tidies _ _ _ s h ht
  | some op =>
    dsimp only
    cases gate : (gateTable s.state (gateColumn op)).refusal with
    | some status => exact respond_tidies _ _ _ s h ht
    | none => exact dispatch_tidies op _ _ ht gate

theorem handlePoll_tidies : handlePoll.Preserves Tidy := by
  intro s h ht
  apply Action.wp_bind.mpr
  rw [getSession_wp, Action.wp_ite]
  refine ⟨fun _ => ht, fun polled => ?_⟩
  have running : s.state = .running := not_not.mp fun other => polled (Or.inr (Or.inl other))
  exact pollStop_tidies s h (ht.cleared running)

theorem handle_tidies (i : Input) : (handle i).Preserves Tidy := by
  cases i with
  | request message => exact .bind (handleRequest_tidies message) fun _ => .pure _
  | poll => exact .bind handlePoll_tidies fun _ => .pure _
  | disconnect => exact Action.Leads.from_tidy (Action.Leads.tidy handleDisconnect_clears)

/-- In every run the reserved bytes of a TARGET_LOST are zero, but where RESET_HALT passes the last
stop_id. -/
theorem lost_blank {T : Type} (env : SessionEnvironment T) (w : SessionWorld T)
    (detached : w.state.state = .detached) (empty : w.history = []) (inputs : List Input) :
    EveryOffer BlankLoss (playSession env w inputs).history := by
  have start : Tidy w.state w.history := by
    rw [empty]
    exact ⟨fun running => absurd (detached.symm.trans running) (by decide), .nil⟩
  have tidy : Tidy (playSession env w inputs).state (playSession env w inputs).history :=
    Action.Preserves.play handle_tidies inputs start
  exact tidy.2

end SidpClient
