import SidpClient.ReportSources
import SidpClient.ShadowPrograms

/-! Every frame the session offers says something, says it whole and says what it was told: the
invariant, and what keeps it. -/
namespace SidpClient
open LittleEndian Interactive

/-- An input, the history it comes upon, and what the two buffers held before the first input. -/
structure Occasion where
  input : Input
  past : SessionHistory
  scratch : Buffer
  registers : Buffer

/-- Nothing was written behind the two buffers of `MAX_FRAME_SIZE` bytes, and what is counted has
its room in them. -/
structure Confined (b c : Buffer) (s : Session) : Prop where
  scratch : ∀ i, maxFrameSize ≤ i → s.scratch i = b i
  registers : ∀ i, maxFrameSize ≤ i → s.pendingRegisters i = c i
  frame : s.txFrameSize ≤ maxFrameSize
  snapshot : SnapshotFits s

/-- The session can take a stop in. -/
structure Receptive (o : Occasion) (s : Session) (h : SessionHistory) : Prop where
  confined : Confined o.scratch o.registers s
  tiles : Tiles s.pendingRegisters s.pendingRegistersSize
  unsupported : s.hasCapability Cap.stopSnapshot = false → lastSnapshot h = none

/-- The stop held back for the next report is whole, and the last one. -/
structure Presentable (o : Occasion) (s : Session) (h : SessionHistory) :
    Prop extends Receptive o s h where
  shown : s.state = .halted →
    Shown (lastSnapshot h) s.stopId (s.pendingRegisters.read 0 s.pendingRegistersSize)
      s.pendingStackAddress
      (s.pendingRegisters.read s.pendingRegistersSize s.pendingStackSize)

/-- The frame is that of a report that is backed. -/
def Accounted (o : Occasion) (h : SessionHistory) (f : List UInt8) : Prop :=
  o.past <+: h → ∃ r : Report, r.Fits ∧ f = r.frame ∧ Backed o.input h r

/-- As long as every register read was well formed, every frame was whole and backed. -/
def Poised (o : Occasion) (s : Session) (h : SessionHistory) : Prop :=
  Trusted h → Receptive o s h ∧ EveryOffer (Accounted o) h

/-- As long as every register read was well formed, every frame was whole and backed, and the next
STOPPED will be. -/
def Legible (o : Occasion) (s : Session) (h : SessionHistory) : Prop :=
  Trusted h → Presentable o s h ∧ EveryOffer (Accounted o) h

abbrev Legibly {α : Type} (o : Occasion) (m : SessionM α) : Prop := m.Preserves (Legible o)

/-- What the snapshot of a stop and the buffers depend on. -/
def Session.framing (s : Session) : (Buffer × ℕ) × (Buffer × ℕ × ℕ) × UInt32 :=
  ((s.scratch, s.txFrameSize), (s.pendingRegisters, s.pendingRegistersSize, s.pendingStackSize),
    s.capabilities)

variable {o : Occasion} {s s' : Session} {h h' evs : SessionHistory} {b c : Buffer} {n : ℕ}
  {dead : Bool} {opcode : UInt16} {requestId : UInt32} {status : Status} {α : Type}

/-! What the invariant depends on. -/

theorem Trusted.before (trusted : Trusted (h ++ evs)) : Trusted h :=
  fun ev hm => trusted ev (List.mem_append_left _ hm)

theorem Receptive.same (hp : Receptive o s h) (same : s'.framing = s.framing) :
    Receptive o s' h := by
  obtain ⟨⟨scratch, registers, frame, snapshot⟩, tiles, unsupported⟩ := hp
  simp only [Session.framing, Prod.mk.injEq] at same
  obtain ⟨⟨hb, hn⟩, ⟨hr, hrs, hss⟩, hc⟩ := same
  refine ⟨⟨?_, ?_, ?_, ?_⟩, ?_, ?_⟩
  · rw [hb]
    exact scratch
  · rw [hr]
    exact registers
  · rw [hn]
    exact frame
  · rw [SnapshotFits, hrs, hss]
    exact snapshot
  · rw [hr, hrs]
    exact tiles
  · rw [Session.hasCapability, hc]
    exact unsupported

/-- A session that holds no stop. -/
theorem Receptive.emptied (hp : Receptive o s h)
    (scratch : (s'.scratch, s'.txFrameSize) = (s.scratch, s.txFrameSize))
    (registers : s'.pendingRegisters = s.pendingRegisters)
    (capabilities : s'.capabilities = s.capabilities) (size : s'.pendingRegistersSize = 0)
    (stack : s'.pendingStackSize = 0) : Receptive o s' h := by
  obtain ⟨hb, hn⟩ := Prod.mk.inj scratch
  refine ⟨⟨?_, ?_, ?_, ?_⟩, ?_, ?_⟩
  · rw [hb]
    exact hp.confined.scratch
  · rw [registers]
    exact hp.confined.registers
  · rw [hn]
    exact hp.confined.frame
  · rw [SnapshotFits, size, stack]
    exact Nat.zero_le _
  · rw [size]
    exact tiles_empty _
  · rw [Session.hasCapability, capabilities]
    exact hp.unsupported

theorem Receptive.other (hp : Receptive o s h) (last : lastSnapshot h' = lastSnapshot h) :
    Receptive o s h' := by
  refine ⟨hp.confined, hp.tiles, fun missing => ?_⟩
  rw [last]
  exact hp.unsupported missing

/-- Away from a halt there is no stop to show. -/
theorem Receptive.presentable (hp : Receptive o s h) (away : s.state ≠ .halted) :
    Presentable o s h :=
  ⟨hp, fun halted => absurd halted away⟩

theorem Presentable.same (hp : Presentable o s h) (same : s'.framing = s.framing)
    (stop : (s'.stopId, s'.pendingStackAddress) = (s.stopId, s.pendingStackAddress))
    (halted : s'.state = .halted → s.state = .halted) : Presentable o s' h := by
  refine ⟨hp.toReceptive.same same, fun hs => ?_⟩
  have shown := hp.shown (halted hs)
  simp only [Session.framing, Prod.mk.injEq] at same stop
  obtain ⟨-, ⟨hr, hrs, hss⟩, -⟩ := same
  rw [hr, hrs, hss, stop.1, stop.2]
  exact shown

theorem Presentable.other (hp : Presentable o s h) (last : lastSnapshot h' = lastSnapshot h) :
    Presentable o s h' := by
  refine ⟨hp.toReceptive.other last, fun halted => ?_⟩
  rw [last]
  exact hp.shown halted

theorem Legible.poised (hl : Legible o s h) : Poised o s h :=
  fun trusted => ⟨(hl trusted).1.toReceptive, (hl trusted).2⟩

theorem Poised.legible (hp : Poised o s h) (away : s.state ≠ .halted) : Legible o s h :=
  fun trusted => ⟨(hp trusted).1.presentable away, (hp trusted).2⟩

theorem Poised.session (hp : Poised o s h) (hs : Receptive o s h → Receptive o s' h) :
    Poised o s' h :=
  fun trusted => ⟨hs (hp trusted).1, (hp trusted).2⟩

theorem Legible.session (hl : Legible o s h) (hs : Presentable o s h → Presentable o s' h) :
    Legible o s' h :=
  fun trusted => ⟨hs (hl trusted).1, (hl trusted).2⟩

/-- A call that has no part in a snapshot. -/
theorem Legible.call {c : Call} {a : Answer} {s₁ : Session} (hl : Legible o s h)
    (other : c.snapshots = false) :
    Legible o s (h ++ [⟨.call s₁ c, a⟩]) := by
  intro trusted
  obtain ⟨presentable, told⟩ := hl trusted.before
  exact ⟨presentable.other (lastSnapshot_other other), told.call⟩

/-- An attach ends what was before it. -/
theorem Legible.attach {params : AttachParams} {a : Answer} {s₁ : Session} (hl : Legible o s h)
    (away : s.state ≠ .halted) : Legible o s (h ++ [⟨.call s₁ (.attach params), a⟩]) := by
  intro trusted
  obtain ⟨presentable, told⟩ := hl trusted.before
  have gone : lastSnapshot (h ++ [⟨.call s₁ (.attach params), a⟩]) = none := lastSnapshot_call
  have receptive : Receptive o s (h ++ [⟨.call s₁ (.attach params), a⟩]) :=
    ⟨presentable.confined, presentable.tiles, fun _ => gone⟩
  exact ⟨receptive.presentable away, told.call⟩

/-- What the session takes over from a report. -/
theorem Legible.attached {params : AttachParams} {a : Answer} {s₁ : Session} {info : AttachInfo}
    (hl : Legible o s h) (away : s.state ≠ .halted) :
    Legible o (s.attachedWith info) (h ++ [⟨.call s₁ (.attach params), a⟩]) := by
  intro trusted
  obtain ⟨presentable, told⟩ := hl trusted.before
  have gone : lastSnapshot (h ++ [⟨.call s₁ (.attach params), a⟩]) = none := lastSnapshot_call
  have confined : Confined o.scratch o.registers (s.attachedWith info) :=
    ⟨presentable.confined.scratch, presentable.confined.registers,
      presentable.confined.frame, Nat.zero_le _⟩
  have receptive : Receptive o (s.attachedWith info) (h ++ [⟨.call s₁ (.attach params), a⟩]) :=
    ⟨confined, tiles_empty _, fun _ => gone⟩
  exact ⟨receptive.presentable away, told.call⟩

theorem write_within {b : Buffer} {offset : ℕ} {bytes : List UInt8}
    (fits : offset + bytes.length ≤ maxFrameSize) {i : ℕ} (hi : maxFrameSize ≤ i) :
    b.write offset bytes i = b i :=
  Buffer.write_apply_of_not_mem _ _ _ _ (Or.inr (by omega))

/-- A frame being built in its buffer. -/
theorem Legible.buffered (hl : Legible o s h) (within : ∀ i, maxFrameSize ≤ i → b i = s.scratch i)
    (size : n ≤ maxFrameSize) : Legible o (s.framed b n dead) h := by
  apply hl.session
  intro hp
  have scratch (i : ℕ) (hi : maxFrameSize ≤ i) : b i = o.scratch i :=
    (within i hi).trans (hp.confined.scratch i hi)
  have confined : Confined o.scratch o.registers (s.framed b n dead) :=
    ⟨scratch, hp.confined.registers, size, hp.confined.snapshot⟩
  have receptive : Receptive o (s.framed b n dead) h := ⟨confined, hp.tiles, hp.unsupported⟩
  exact ⟨receptive, hp.shown⟩

theorem Legible.tell (hl : Legible o s h) (within : ∀ i, maxFrameSize ≤ i → b i = s.scratch i)
    (size : n ≤ maxFrameSize) (ho : Offered s (fun f => Trusted h → Accounted o h f) dead evs) :
    Legible o (s.framed b n dead) (h ++ evs) := by
  intro trusted
  have built : Legible o (s.framed b n dead) h := hl.buffered within size
  obtain ⟨kept, told⟩ := built trusted.before
  rcases ho with ⟨-, -, rfl⟩ | ⟨-, f, accepted, whole, -, rfl⟩
  · rw [List.append_nil]
    exact ⟨kept, told⟩
  · exact ⟨kept.other lastSnapshot_offer, told.offer (whole trusted.before)⟩

/-- Where a read was not well formed there is nothing to show. -/
theorem legible_of_trusted {m : SessionM α} (hm : Trusted h → m.wp s h fun _ => Legible o) :
    m.wp s h fun _ => Legible o := by
  by_cases trusted : Trusted h
  · exact hm trusted
  · apply Action.wp_from
    intro _ _ _ later
    exact absurd later.before trusted

/-! Rules. -/

theorem getSession_legible {f : Session → SessionM α} (hf : ∀ s, Legibly o (f s)) :
    Legibly o (getSession >>= f) :=
  .get_bind hf

/-- An update that leaves the stop held back alone. -/
theorem updateOther_legible {f : Session → Session} (same : ∀ s, (f s).framing = s.framing)
    (stop : ∀ s, ((f s).stopId, (f s).pendingStackAddress) = (s.stopId, s.pendingStackAddress))
    (halted : ∀ s, (f s).state = .halted → s.state = .halted) : Legibly o (updateSession f) :=
  .modify fun s _ hl => hl.session fun hp => hp.same (same s) (stop s) (halted s)

/-- An update that leaves the halt. -/
theorem leave_legible {f : Session → Session} (hf : ∀ s h, Receptive o s h → Receptive o (f s) h)
    (away : ∀ s, (f s).state ≠ .halted) : Legibly o (updateSession f) :=
  .modify fun s h hl => (hl.poised.session (hf s h)).legible (away s)

theorem backend_legible {c : Call} (other : c.snapshots = false) : Legibly o (backend c) :=
  .ask fun _ _ _ hl => hl.call other

/-! Frames. -/

/-- Offering a frame buffer that holds a report behind a header. -/
theorem finishFrame_legible {r : Report} (hl : Legible o s h)
    (within : ∀ i, maxFrameSize ≤ i → c i = s.scratch i)
    (head : c.read 0 8 = headerBytes r.kind r.opcode r.requestId)
    (body : b = c.write headerSize r.payload) (length : n = headerSize + r.payload.length)
    (fits : r.Fits) (backed : Backed o.input h r) :
    finishFrame.wp { s with scratch := b, txFrameSize := n } h fun _ => Legible o := by
  have front : b.read 0 8 = headerBytes r.kind r.opcode r.requestId := by
    rw [body, Buffer.read_write_of_disjoint _ _ _ _ _ (Or.inl (by decide))]
    exact head
  have behind : b.read headerSize r.payload.length = r.payload := by
    rw [body]
    exact Buffer.read_write_self _ _ _
  have size : n ≤ maxFrameSize := by
    rw [length]
    exact fits.size
  have valid : isValidMessageSize n := ⟨by omega, size⟩
  apply finishFrame_report (P := fun f => Trusted h → Accounted o h f) front behind length valid
  · exact fun _ _ => ⟨r, fits, rfl, backed⟩
  · intro b' dead evs kept sent
    refine hl.tell (fun i hi => ?_) size sent
    have header : headerSize ≤ i := le_trans (by decide) hi
    rw [kept i header, body, write_within (by rw [← length]; exact size) hi]
    exact within i hi

theorem begun_within (kind : UInt8) (opcode : UInt16) (requestId : UInt32) (i : ℕ)
    (hi : maxFrameSize ≤ i) :
    s.scratch.write 0 (headerBytes kind opcode requestId) i = s.scratch i := by
  apply write_within _ hi
  rw [headerBytes_length]
  decide

theorem answer_fits (named : requestId ≠ 0) (bare : status = .ok → carriesPayload opcode = false) :
    (Report.answer opcode requestId status).Fits := by
  refine ⟨?_, fun _ => named, bare⟩
  rw [Report.payload, le32_length]
  decide

theorem respond_legible (named : requestId ≠ 0)
    (bare : status = .ok → carriesPayload opcode = false) :
    Legibly o (respond opcode requestId status) := by
  intro s h hl
  simp only [respond, sendResponse, Action.wp_bind, beginFrame_wp]
  refine ⟨fun hn => absurd hn (by decide), fun _ => ?_⟩
  simp only [Bool.not_true, Bool.false_eq_true, if_false, Action.wp_bind, writePayload_wp,
    ne_eq, not_true]
  apply finishFrame_legible (r := .answer opcode requestId status) hl (begun_within _ _ _)
    (read_headerBytes _ _ _ _) rfl
  · rw [Report.payload, le32_length]
    rfl
  · exact answer_fits named bare
  · trivial

/-- A refusal of a request, whichever it is. -/
theorem refuse_legible (named : requestId ≠ 0) (refused : status ≠ .ok) :
    Legibly o (respond opcode requestId status) :=
  respond_legible named fun ok => absurd ok refused

theorem event_ne_response : MsgKind.event ≠ MsgKind.response := by decide

theorem sendTargetLost_legible (reason : TargetLostReason) : Legibly o (sendTargetLost reason) := by
  intro s h hl
  simp only [sendTargetLost, Action.wp_bind, beginFrame_wp]
  refine ⟨fun hn => absurd hn (by decide), fun _ => ?_⟩
  simp only [Bool.not_true, Bool.false_eq_true, if_false, Action.wp_bind, writePayload_wp]
  have within := begun_within (s := s) MsgKind.event Opcode.targetLost 0
  generalize hc : s.scratch.write 0 (headerBytes MsgKind.event Opcode.targetLost 0) = c at within
  have head : c.read 0 8 = headerBytes MsgKind.event Opcode.targetLost 0 := by
    rw [← hc]
    exact read_headerBytes _ _ _ _
  -- the reserved bytes are those of the frame before
  have stale : c.write 12 ([reason.value] ++ c.read 13 3) = c.write 12 [reason.value] := by
    have kept := Buffer.write_read (c.write 12 [reason.value]) 13 3
    have same := Buffer.read_write_of_disjoint c 12 [reason.value] 13 3 (Or.inr le_rfl)
    rw [same] at kept
    rw [Buffer.write_append]
    exact kept
  have body : (c.write 12 [reason.value]).write 16 (le32 0) =
      c.write headerSize (Report.lost reason (c.read 13 3)).payload := by
    have split := Buffer.write_append c 12 ([reason.value] ++ c.read 13 3) (le32 0)
    rw [stale] at split
    exact split.symm
  apply finishFrame_legible (r := .lost reason (c.read 13 3)) hl within head body
  · simp [Report.payload, headerSize, targetLostEventSize]
  · refine ⟨?_, fun answers => absurd answers event_ne_response, Buffer.read_length _ _ _⟩
    simp [Report.payload, headerSize, maxFrameSize]
  · trivial

/-- A lost target is not halted, whatever was held back. -/
theorem Poised.lost (hp : Poised o s h) (reason : TargetLostReason) :
    (enterLost reason).wp s h fun _ => Legible o := by
  simp only [enterLost, Action.wp_bind, getSession_wp, Action.wp_ite, Action.wp_pure,
    updateSession_wp]
  refine ⟨fun lost => hp.legible (by rw [lost]; decide), fun _ => ?_⟩
  apply sendTargetLost_legible reason
  have lost : Poised o { s with state := .lost } h := hp.session fun receptive => receptive.same rfl
  exact lost.legible (by decide : TargetState.lost ≠ .halted)

theorem enterLost_legible (reason : TargetLostReason) : Legibly o (enterLost reason) :=
  fun _ _ hl => hl.poised.lost reason

theorem stopped_payload {values : List RegisterValue} {stack : List UInt8}
    (count : values.length = (registerEntries s.pendingRegisters s.pendingRegistersSize).length)
    (size : stack.length = s.pendingStackSize) :
    (Report.stopped ⟨s.stopId, s.pendingReason, s.pendingDetail, s.pendingBreakpointId,
      s.pendingWatchpointAddress,
        s.pendingStackAddress⟩ values stack).payload = stoppedEventBytes s ++ registerBytes
        values ++ stack := by
  have zero : le16 0 = List.replicate 2 0 := by decide
  simp [Report.payload, stoppedEventBytes, count, size, zero]

/-- The report of the stop held back. -/
theorem sendStopped_legible (hl : Legible o s h) (halted : s.state = .halted) :
    sendStopped.wp s h fun _ => Legible o := by
  apply legible_of_trusted
  intro trusted
  obtain ⟨presentable, -⟩ := hl trusted
  obtain ⟨values, count, read⟩ := presentable.tiles.values
  have fits : s.pendingRegistersSize + s.pendingStackSize ≤ 8144 := presentable.confined.snapshot
  have shown := presentable.shown halted
  have fixed : (stoppedEventBytes s).length = 36 := stoppedEventBytes_length s
  have registers : (registerBytes values).length = s.pendingRegistersSize := by
    rw [← read]
    exact Buffer.read_length _ _ _
  generalize hstack : s.pendingRegisters.read s.pendingRegistersSize
    s.pendingStackSize = stack at shown
  have size : stack.length = s.pendingStackSize := by
    rw [← hstack]
    exact Buffer.read_length _ _ _
  have payload := stopped_payload count size
  have total : (stoppedEventBytes s ++ registerBytes values ++ stack).length =
      stoppedEventSize + s.pendingRegistersSize + s.pendingStackSize := by
    rw [List.length_append, List.length_append, fixed, registers, size]
    rfl
  have backed : Backed o.input h (Report.stopped ⟨s.stopId, s.pendingReason, s.pendingDetail,
      s.pendingBreakpointId, s.pendingWatchpointAddress, s.pendingStackAddress⟩ values stack) := by
    rw [read] at shown
    exact shown
  generalize hr : Report.stopped ⟨s.stopId, s.pendingReason, s.pendingDetail, s.pendingBreakpointId,
    s.pendingWatchpointAddress, s.pendingStackAddress⟩ values stack = r at payload backed
  -- header, fixed part, registers and stack are written one behind the other
  have written (c : Buffer) :
      ((c.write (headerSize + 0) (stoppedEventBytes s)).write (headerSize + stoppedEventSize)
      (registerBytes values)).write (headerSize + (stoppedEventSize + s.pendingRegistersSize)) stack
        = c.write headerSize r.payload := by
    rw [payload, Buffer.write_append, Buffer.write_append, List.length_append, fixed, registers]
    rfl
  have length : headerSize + (stoppedEventSize + s.pendingRegistersSize + s.pendingStackSize) =
      headerSize + r.payload.length := by rw [payload, total]
  have whole : r.Fits := by
    rw [← hr]
    refine ⟨?_, fun answers => absurd answers event_ne_response, trivial⟩
    rw [hr, ← length]
    simp only [headerSize, stoppedEventSize, maxFrameSize]
    omega
  have head : (s.scratch.write 0 (headerBytes MsgKind.event Opcode.stopped 0)).read 0 8 =
      headerBytes r.kind r.opcode r.requestId := by
    rw [← hr]
    exact read_headerBytes _ _ _ _
  simp only [sendStopped, Action.wp_bind, getSession_wp, beginFrame_wp,
    Action.wp_ite, Action.wp_pure]
  refine ⟨fun _ => ⟨fun _ => hl, fun hf => absurd rfl hf⟩, fun _ =>
    ⟨fun hf => absurd hf (by decide), fun _ => ?_⟩⟩
  simp only [writePayload_wp, updateSession_wp, read, hstack]
  apply Action.wp_mono (finishFrame_legible (s := s) hl (begun_within _ _ _) head
    (written _) length whole backed)
  intro reported s' evs legible
  exact legible.session fun hp => hp.same rfl rfl id

theorem emitPendingStopped_legible : Legibly o emitPendingStopped := by
  intro s h hl
  simp only [emitPendingStopped, Action.wp_bind, getSession_wp, Action.wp_ite, Action.wp_pure]
  refine ⟨fun _ => hl, fun unreported => ?_⟩
  have halted : s.state = .halted := not_not.mp fun other => unreported (Or.inr other)
  exact sendStopped_legible hl halted

theorem sendBackendFailure_legible {result : EspErr} {fallback : Status} (named : requestId ≠ 0)
    (refused : fallback ≠ .ok) :
    Legibly o (sendBackendFailure opcode requestId result fallback) := by
  refine .ite (fun _ => .bind (refuse_legible named (by decide)) fun _ =>
    .bind (enterLost_legible _) fun _ => .pure _)
    fun _ => refuse_legible named ?_
  split
  · decide
  · exact refused

/-! The stop pipeline. -/

/-- A snapshot is whole if the register read behind it was well formed. -/
theorem SnapshotTaken.tiles (taken : SnapshotTaken s s' evs) (empty : s.pendingRegistersSize = 0)
    (trusted : Trusted evs) : Tiles s'.pendingRegisters s'.pendingRegistersSize := by
  have registers (a : Answer) (ok : a.code = .ok) (fits : a.outSize ≤ snapshotBlobCapacity)
      (read : WellFormedRead (readRegistersEvent s a)) :
      Tiles (s.withRegisters a).pendingRegisters a.outSize := by
    obtain ⟨given, tiles⟩ := read ok fits
    have normalized := (tiles.written (b := s.pendingRegisters) 0 fits given).normalized s
    simp only [Nat.zero_add] at normalized
    exact normalized
  cases taken with
  | none =>
    rw [empty]
    exact tiles_empty _
  | unread a failed =>
    have size : (s.received a).pendingRegistersSize = 0 := empty
    rw [size]
    exact tiles_empty _
  | registers a ok fits window => exact registers a ok fits (trusted _ List.mem_cons_self)
  | stack a ok fits start size window answer =>
    have whole := registers a ok fits (trusted _ List.mem_cons_self)
    have kept : Tiles ((s.withRegisters a).pendingRegisters.write a.outSize
        (answer.data.take size)) a.outSize :=
      whole.congr fun i hi => Buffer.write_apply_of_not_mem _ _ _ _ (Or.inl hi)
    simp only [Session.withStack]
    split
    · exact kept
    · exact kept

/-- Normalization writes only among the entries. -/
theorem normalizePc_within (s : Session) (buffer : Buffer) {base size i : ℕ}
    (hi : base + size ≤ i) :
    normalizePcInRegisterBlob s buffer base size i = buffer i := by
  rw [normalizePcInRegisterBlob]
  split
  · rfl
  · cases found : findRegister (fun i => buffer (base + i)) size armRegPc with
    | none => rfl
    | some entry =>
      have whole := (findRegister_some found).2.2.2
      apply Buffer.write_apply_of_not_mem
      rw [le32_length]
      omega

/-- A snapshot stays in the buffer that is there for it. -/
theorem SnapshotTaken.within (taken : SnapshotTaken s s' evs) (i : ℕ) (hi : maxFrameSize ≤ i) :
    s'.pendingRegisters i = s.pendingRegisters i := by
  have room : snapshotBlobCapacity ≤ maxFrameSize := by decide
  have received (a : Answer) : (s.received a).pendingRegisters i = s.pendingRegisters i := by
    apply write_within _ hi
    have few := List.length_take_le snapshotBlobCapacity a.data
    omega
  have registers (a : Answer) (fits : a.outSize ≤ snapshotBlobCapacity) :
      (s.withRegisters a).pendingRegisters i = s.pendingRegisters i := by
    have behind : 0 + a.outSize ≤ i := by omega
    exact (normalizePc_within s _ behind).trans (received a)
  cases taken with
  | none => rfl
  | unread a failed => exact received a
  | registers a ok fits window => exact registers a fits
  | stack a ok fits start size window answer =>
    have total : a.outSize + size ≤ snapshotBlobCapacity := stackSnapshot_fits window fits
    have kept : (s.withRegisters a).pendingRegisters.write a.outSize (answer.data.take size) i =
        s.pendingRegisters i := by
      rw [write_within _ hi]
      · exact registers a fits
      · have few := List.length_take_le size answer.data
        omega
    simp only [Session.withStack]
    split
    · exact kept
    · exact kept

/-- Taking a stop in makes it the one to be shown. -/
theorem Poised.halts (hp : Poised o s h) (stop : StopDetect) :
    (enterHalted stop).wp s h fun _ => Legible o := by
  simp only [enterHalted, Action.wp_bind, getSession_wp, Action.wp_ite, Action.wp_pure,
    updateSession_wp]
  refine ⟨fun lost => hp.legible (by rw [lost]; decide), fun _ => ⟨fun _ => ?_, fun _ => ?_⟩⟩
  · have next : Poised o (s.nextStop (classifyStop s stop)) h :=
      hp.session fun receptive => receptive.same rfl
    exact next.lost _
  · apply captureSnapshot_wp
    intro s' evs taken unsupported trusted
    obtain ⟨receptive, told⟩ := hp trusted.before
    have later : Trusted evs := fun ev hm => trusted ev (List.mem_append_right _ hm)
    have stopped : Receptive o (s.stopRecorded stop) h := receptive.emptied rfl rfl rfl rfl rfl
    have frame := taken.frame
    have shown := taken.shown ⟨rfl, rfl⟩ later stopped.unsupported
    have registers (i : ℕ) (hi : maxFrameSize ≤ i) : s'.pendingRegisters i = o.registers i :=
      (taken.within i hi).trans (stopped.confined.registers i hi)
    have scratch : s'.scratch = s.scratch ∧ s'.txFrameSize = s.txFrameSize ∧
        s'.capabilities = s.capabilities := by
      rw [frame]
      exact ⟨rfl, rfl, rfl⟩
    have calls : ∀ ev ∈ evs, ∃ s c a, ev = ⟨.call s c, a⟩ := by
      intro ev hm
      obtain ⟨s₁, c, a, he, -⟩ := taken.reads ev hm
      exact ⟨s₁, c, a, he⟩
    refine ⟨⟨⟨⟨?_, registers, ?_, taken.fits ⟨rfl, rfl⟩⟩, taken.tiles rfl later, fun missing => ?_⟩,
      fun _ => shown⟩, told.calls calls⟩
    · rw [scratch.1]
      exact receptive.confined.scratch
    · rw [scratch.2.1]
      exact receptive.confined.frame
    · rw [Session.hasCapability, scratch.2.2] at missing
      rw [unsupported missing, List.append_nil]
      exact receptive.unsupported missing

theorem enterHalted_legible (stop : StopDetect) : Legibly o (enterHalted stop) :=
  fun _ _ hl => hl.poised.halts stop

theorem pollStop_legible : Legibly o pollStop :=
  .bind (backend_legible rfl) fun _ => .ite (fun _ => enterLost_legible _) fun _ =>
    .ite (fun _ => .bind (enterHalted_legible _) fun _ => emitPendingStopped_legible)
      fun _ => .pure _

/-! The parts of RUN. -/

theorem snapshots_of_shadows {c : Call} (shadows : c.shadows = true) : c.snapshots = false := by
  cases c with
  | readMem access address size width =>
    cases access with
    | original => rfl
    | _ => exact absurd shadows (by simp [Call.shadows])
  | writeMem => rfl
  | _ => exact absurd shadows (by simp [Call.shadows])

theorem legible_undisturbed : Undisturbed (Legible o) :=
  ⟨fun _ _ _ hl => hl.session fun hp => hp.same rfl rfl id,
    fun _ _ _ _ _ shadows hl => hl.call (snapshots_of_shadows shadows)⟩

theorem rollbackRunConfig_legible : Legibly o rollbackRunConfig :=
  .bind legible_undisturbed.restoreAll fun _ => .bind (backend_legible rfl)
    fun _ => .bind (backend_legible rfl)
    fun _ => .bind (backend_legible rfl) fun _ =>
      .bind (updateOther_legible (fun _ => rfl) (fun _ => rfl) fun _ => id) fun _ => .pure _

theorem installRun_legible (plan : RunPlan) : Legibly o (installRun plan) :=
  .bind (legible_undisturbed.apply _) fun _ => .ite (fun _ => .pure _)
    fun _ => .bind (backend_legible rfl) fun _ => .ite (fun _ => .pure _)
      fun _ => .bind (updateOther_legible (fun _ => rfl) (fun _ => rfl) fun _ => id) fun _ =>
      .bind (backend_legible rfl) fun _ => .ite (fun _ => .pure _) fun _ =>
        .bind (backend_legible rfl) fun _ => .ite (fun _ => .pure _) fun _ => .pure _

theorem writeCurrentPc_legible (pc : UInt32) : Legibly o (writeCurrentPc pc) :=
  .bind (backend_legible rfl) fun _ => .pure _

theorem pollStepHalted_legible (n : ℕ) : Legibly o (pollStepHalted n) := by
  induction n with
  | zero => exact .pure _
  | succ n ih =>
    exact .bind (backend_legible rfl) fun _ => .ite (fun _ => .pure _)
      fun _ => .ite (fun _ => .pure _) fun _ => ih

theorem executeStepOver_legible (action : UInt8) : Legibly o (executeStepOver action) := by
  apply getSession_legible
  intro s
  apply Action.Preserves.ite (fun _ => .pure _)
  intro _
  apply Action.Preserves.bind (legible_undisturbed.restoreFound _)
  intro _
  apply Action.Preserves.ite (fun _ => .pure _)
  intro _
  apply Action.Preserves.bind (writeCurrentPc_legible _)
  intro _
  apply Action.Preserves.ite (fun _ => .bind (legible_undisturbed.installFound _) fun _ => .pure _)
  intro _
  apply Action.Preserves.bind (backend_legible rfl)
  intro _
  apply Action.Preserves.ite (fun _ => .pure _)
  intro _
  apply Action.Preserves.bind (pollStepHalted_legible _)
  intro outcome
  cases outcome with
  | error reason => exact .pure _
  | ok stop =>
    have spend :
        Legibly o (updateSession fun s =>
        { s with swStepOverPending := false, swStepOverAddress := 0 }) :=
      updateOther_legible (fun _ => rfl) (fun _ => rfl) fun _ => id
    exact .bind spend fun _ => .bind (legible_undisturbed.installFound _)
      fun _ => .ite (fun _ => .pure _) fun _ => .ite (fun _ => .pure _)
        fun _ => .ite (fun _ => .pure _) fun _ => .pure _

theorem failRun_legible (named : requestId ≠ 0) (status : Status) :
    Legibly o (failRun requestId status) :=
  .bind rollbackRunConfig_legible fun _ => .bind (respond_legible named fun _ => rfl) fun _ =>
    .ite (fun _ => enterLost_legible _) fun _ => .pure _

theorem reportStep_legible (named : requestId ≠ 0) (stop : StopDetect) (userStep : Bool) :
    Legibly o (reportStep requestId stop userStep) :=
  .bind (respond_legible named fun _ => rfl) fun _ => .bind (enterHalted_legible stop) fun _ =>
    .ite (fun _ => .bind (updateOther_legible (fun _ => rfl) (fun _ => rfl) fun _ => id) fun _ =>
      emitPendingStopped_legible) fun _ => emitPendingStopped_legible

theorem resumeRun_legible (named : requestId ≠ 0) (req : RunRequest) :
    Legibly o (resumeRun requestId req) :=
  .bind (backend_legible rfl) fun _ =>
    .ite (fun _ => .bind (respond_legible named fun _ => rfl) fun _ => .bind (enterLost_legible _)
      fun _ => .pure _)
      fun _ => .bind (leave_legible (fun _ _ hp => hp.same rfl) fun _ =>
        (by decide : TargetState.running ≠ .halted))
        fun _ => .bind (respond_legible named fun _ => rfl) fun _ => pollStop_legible

end SidpClient
