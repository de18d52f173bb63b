import SidpClient.SessionHandlers

/-! What each frame-sending function does: which bytes it offers and which fields it leaves. -/
namespace SidpClient
open LittleEndian Interactive

section
variable {s : Session} {h : SessionHistory}

@[simp] theorem getSession_wp {Q : Session → Session → SessionHistory → Prop} :
    getSession.wp s h Q ↔ Q s s h := Iff.rfl

@[simp] theorem updateSession_wp {f : Session → Session}
    {Q : Unit → Session → SessionHistory → Prop} :
    (updateSession f).wp s h Q ↔ Q () (f s) h := Iff.rfl

@[simp] theorem backend_wp {c : Call} {Q : Answer → Session → SessionHistory → Prop} :
    (backend c).wp s h Q ↔ ∀ a : Answer, Q a s (h ++ [⟨.call s c, a⟩]) := Iff.rfl

@[simp] theorem txSink_wp {f : List UInt8} {Q : Bool → Session → SessionHistory → Prop} :
    (txSink f).wp s h Q ↔ ∀ b : Bool, Q b s (h ++ [⟨.offer f, b⟩]) := Iff.rfl

@[simp] theorem writePayload_wp {offset : ℕ} {bytes : List UInt8}
    {Q : Unit → Session → SessionHistory → Prop} :
    (writePayload offset bytes).wp s h Q ↔
      Q () { s with scratch := s.scratch.write (headerSize + offset) bytes } h := Iff.rfl

@[simp] theorem beginFrame_wp {kind : UInt8} {opcode : UInt16} {requestId : UInt32} {size : ℕ}
    {Q : Bool → Session → SessionHistory → Prop} :
    (beginFrame kind opcode requestId size).wp s h Q ↔
      (size > maxFrameSize - headerSize → Q false s h) ∧
      (¬size > maxFrameSize - headerSize →
        Q true { s with txFrameSize := headerSize + size,
                        scratch := s.scratch.write 0 (headerBytes kind opcode requestId) } h) := by
  simp [beginFrame]

end

/-! The bytes of an offered frame. -/

/-- A frame with this header, whatever its CRC field and payload are. -/
structure HasHeader (frame : List UInt8) (kind : UInt8) (opcode : UInt16) (requestId : UInt32) :
    Prop where
  version : getU8 frame 0 = protocolVersion
  kind : getU8 frame 1 = kind
  opcode : getU16 frame 2 = opcode
  requestId : getU32 frame 4 = requestId

/-- The frame `finish_frame` offers from a buffer: its first bytes with the CRC field set. -/
def sealedFrame (b : Buffer) (size : ℕ) (crc : UInt32) : List UInt8 :=
  (b.write Crc32.crcOffset (le32 crc)).read 0 size

@[simp] theorem sealedFrame_length (b : Buffer) (size : ℕ) (crc : UInt32) :
    (sealedFrame b size crc).length = size := Buffer.read_length _ _ _

theorem sealedFrame_slice (b : Buffer) (size : ℕ) (crc : UInt32) (offset n : ℕ)
    (hn : offset + n ≤ size) (hd : offset + n ≤ 8 ∨ 12 ≤ offset) :
    slice (sealedFrame b size crc) offset n = b.read offset n := by
  rw [sealedFrame, Buffer.slice_read _ _ _ _ hn, Buffer.read_write_of_disjoint]
  simp only [Crc32.crcOffset, le32_length]
  omega

theorem sealedFrame_getU8 (b : Buffer) (size : ℕ) (crc : UInt32) (offset : ℕ)
    (hn : offset < size) (hd : offset < 8 ∨ 12 ≤ offset) :
    getU8 (sealedFrame b size crc) offset = b offset := by
  rw [sealedFrame, Buffer.getU8_read _ _ _ hn, Buffer.write_apply_of_not_mem]
  simp only [Crc32.crcOffset, le32_length]
  omega

theorem headerBytes_length (kind : UInt8) (opcode : UInt16) (requestId : UInt32) :
    (headerBytes kind opcode requestId).length = 8 := by simp [headerBytes]

theorem headerBytes_slices (kind : UInt8) (opcode : UInt16) (requestId : UInt32) :
    slice (headerBytes kind opcode requestId) 2 2 = le16 opcode ∧
      slice (headerBytes kind opcode requestId) 4 4 = le32 requestId := by
  constructor
  · simp [headerBytes, slice, List.take_left']
  · have ho : (le16 opcode).length = 2 := le16_length _
    simp [headerBytes, slice, ho, List.take_of_length_le]

theorem read_headerBytes (b : Buffer) (kind : UInt8) (opcode : UInt16) (requestId : UInt32) :
    (b.write 0 (headerBytes kind opcode requestId)).read 0 8 = headerBytes kind opcode requestId :=
  headerBytes_length kind opcode requestId ▸ Buffer.read_write_self _ _ _

theorem read_le32 (b : Buffer) (offset : ℕ) (v : UInt32) :
    (b.write offset (le32 v)).read offset 4 = le32 v := by
  have hr := Buffer.read_write_self b offset (le32 v)
  rwa [le32_length] at hr

/-- A buffer whose first bytes are a header gives frames with that header. -/
theorem sealedFrame_hasHeader {b : Buffer} {size : ℕ} {kind : UInt8} {opcode : UInt16}
    {requestId : UInt32} (crc : UInt32) (hsize : 8 ≤ size)
    (hb : b.read 0 8 = headerBytes kind opcode requestId) :
    HasHeader (sealedFrame b size crc) kind opcode requestId := by
  have hget (i : ℕ) (hi : i < 8) : getU8 (sealedFrame b size crc) i =
      getU8 (headerBytes kind opcode requestId) i := by
    rw [sealedFrame_getU8 _ _ _ _ (by omega) (by omega), ← hb, Buffer.getU8_read _ _ _ hi]
  have hslice (i n : ℕ) (hi : i + n ≤ 8) : slice (sealedFrame b size crc) i n =
      slice (headerBytes kind opcode requestId) i n := by
    rw [sealedFrame_slice _ _ _ _ _ (by omega) (by omega), ← hb, Buffer.slice_read _ _ _ _ hi]
  have hs := headerBytes_slices kind opcode requestId
  refine ⟨(hget 0 (by omega)).trans rfl, (hget 1 (by omega)).trans rfl, ?_, ?_⟩
  · rw [getU16, hslice 2 2 (by omega), hs.1, ofNat_leNat_le16]
  · rw [getU32, hslice 4 4 (by omega), hs.2, ofNat_leNat_le32]

/-! Finishing a frame. -/

/-- The session behind an offer: a new frame buffer, and the latch where the sink said no. -/
def Session.framed (s : Session) (b : Buffer) (size : ℕ) (dead : Bool) : Session :=
  { s with scratch := b, txFrameSize := size, transportDead := dead }

theorem finishFrame_wp {s : Session} {h : SessionHistory}
    {Q : Bool → Session → SessionHistory → Prop} (hsize : isValidMessageSize s.txFrameSize)
    (hdead : s.transportDead = true → Q false s h)
    (hlive : s.transportDead = false → ∀ crc (accepted : Bool),
      Q accepted (s.framed (s.scratch.write Crc32.crcOffset (le32 crc)) s.txFrameSize (!accepted))
        (h ++ [⟨.offer (sealedFrame s.scratch s.txFrameSize crc), accepted⟩])) :
    finishFrame.wp s h Q := by
  have hc : Crc32.calculateMessage (s.scratch.read 0 s.txFrameSize) =
      some (Crc32.messageCrc (s.scratch.read 0 s.txFrameSize)) := by
    simp [Crc32.calculateMessage, hsize]
  cases hd : s.transportDead with
  | true => simpa [finishFrame, hd] using hdead hd
  | false =>
    simp only [finishFrame, Action.wp_bind, getSession_wp, hd, hc, Bool.false_eq_true, if_false,
      updateSession_wp, txSink_wp]
    intro accepted
    have hq := hlive hd (Crc32.messageCrc (s.scratch.read 0 s.txFrameSize)) accepted
    cases accepted with
    | true => exact hq
    | false => exact hq

/-- One frame with property `P` is offered, unless the transport is dead already. -/
def Offered (s : Session) (P : List UInt8 → Prop) (dead : Bool) (evs : SessionHistory) : Prop :=
  (s.transportDead = true ∧ dead = true ∧ evs = []) ∨
    (s.transportDead = false ∧ ∃ f accepted, P f ∧ dead = !accepted ∧ evs = [⟨.offer f, accepted⟩])

theorem finishFrame_offered {s : Session} {h : SessionHistory} {b : Buffer} {n : ℕ}
    {P : List UInt8 → Prop} {Q : Bool → Session → SessionHistory → Prop}
    (hn : isValidMessageSize n) (hP : ∀ crc, P (sealedFrame b n crc))
    (hQ : ∀ b' dead evs, Offered s P dead evs → Q (!dead) (s.framed b' n dead) (h ++ evs)) :
    finishFrame.wp { s with scratch := b, txFrameSize := n } h Q := by
  apply finishFrame_wp hn
  · intro hd
    have hd' : s.transportDead = true := hd
    have hq := hQ b true [] (Or.inl ⟨hd', rfl, rfl⟩)
    rw [List.append_nil] at hq
    simp only [hd']
    exact hq
  · intro hd crc accepted
    have hq := hQ (b.write Crc32.crcOffset (le32 crc)) _ _
      (Or.inr ⟨hd, _, accepted, hP crc, rfl, rfl⟩)
    rwa [Bool.not_not] at hq

structure ResponseFrame (opcode : UInt16) (requestId : UInt32) (status : Status) (f : List UInt8) :
    Prop where
  header : HasHeader f MsgKind.response opcode requestId
  status : getU32 f 12 = status.value

structure LostFrame (reason : TargetLostReason) (f : List UInt8) : Prop where
  header : HasHeader f MsgKind.event Opcode.targetLost 0
  reason : getU8 f 12 = reason.value

/-- The STOPPED frame a session sends for its pending stop. -/
structure StoppedFrame (s : Session) (f : List UInt8) : Prop where
  header : HasHeader f MsgKind.event Opcode.stopped 0
  fixed : slice f 12 stoppedEventSize = stoppedEventBytes s
  registers : slice f 48 s.pendingRegistersSize = s.pendingRegisters.read 0 s.pendingRegistersSize
  stack : slice f (48 + s.pendingRegistersSize) s.pendingStackSize =
    s.pendingRegisters.read s.pendingRegistersSize s.pendingStackSize
  length : f.length = 48 + s.pendingRegistersSize + s.pendingStackSize

theorem stoppedEventBytes_length (s : Session) :
    (stoppedEventBytes s).length = stoppedEventSize := by
  simp [stoppedEventBytes, stoppedEventSize]

theorem getU32_of_slice {f bytes : List UInt8} {offset size : ℕ} (i : ℕ) (hi : i + 4 ≤ size)
    (hf : slice f offset size = bytes) : getU32 f (offset + i) = getU32 bytes i := by
  subst hf
  simp only [getU32, slice, List.drop_take, List.take_take, List.drop_drop]
  rw [Nat.min_eq_left (by omega)]

theorem StoppedFrame.stopId {s : Session} {f : List UInt8} (hf : StoppedFrame s f) :
    getU32 f 12 = s.stopId := by
  rw [← Nat.add_zero 12, getU32_of_slice 0 (by decide) hf.fixed]
  have hl : slice (stoppedEventBytes s) 0 4 = le32 s.stopId := by
    simp [stoppedEventBytes, slice, List.take_left']
  rw [getU32, hl, ofNat_leNat_le32]

section
variable {s : Session} {h : SessionHistory} {opcode : UInt16} {requestId : UInt32}

theorem respond_wp {status : Status} {Q : Unit → Session → SessionHistory → Prop}
    (hQ : ∀ b dead evs, Offered s (ResponseFrame opcode requestId status) dead evs →
      Q () (s.framed b 16 dead) (h ++ evs)) : (respond opcode requestId status).wp s h Q := by
  simp only [respond, sendResponse, Action.wp_bind, beginFrame_wp]
  refine ⟨fun hn => absurd hn (by decide), fun _ => ?_⟩
  simp only [Bool.not_true, Bool.false_eq_true, if_false, Action.wp_bind, writePayload_wp, ne_eq,
    not_true]
  refine finishFrame_offered (s := s) (n := 16) (P := ResponseFrame opcode requestId status)
    (by decide) (fun crc => ⟨sealedFrame_hasHeader crc (by decide) ?_, ?_⟩) hQ
  · rw [Buffer.read_write_of_disjoint _ _ _ _ _ (Or.inl (by decide)), read_headerBytes]
  · rw [getU32, sealedFrame_slice _ _ _ _ _ (by decide) (by decide)]
    exact (congrArg (fun bytes => UInt32.ofNat (leNat bytes)) (read_le32 _ 12 _)).trans
      (ofNat_leNat_le32 _)

theorem sendTargetLost_wp {reason : TargetLostReason} {Q : Bool → Session → SessionHistory → Prop}
    (hQ : ∀ b dead evs, Offered s (LostFrame reason) dead evs →
      Q (!dead) (s.framed b 20 dead) (h ++ evs)) : (sendTargetLost reason).wp s h Q := by
  simp only [sendTargetLost, Action.wp_bind, beginFrame_wp]
  refine ⟨fun hn => absurd hn (by decide), fun _ => ?_⟩
  simp only [Bool.not_true, Bool.false_eq_true, if_false, Action.wp_bind, writePayload_wp]
  refine finishFrame_offered (s := s) (n := 20) (P := LostFrame reason)
    (by decide) (fun crc => ⟨sealedFrame_hasHeader crc (by decide) ?_, ?_⟩) hQ
  · rw [Buffer.read_write_of_disjoint _ _ _ _ _ (Or.inl (by decide)),
      Buffer.read_write_of_disjoint _ _ _ _ _ (Or.inl (by decide)), read_headerBytes]
  · rw [sealedFrame_getU8 _ _ _ _ (by decide) (by decide),
      Buffer.write_apply_of_not_mem _ _ _ _ (Or.inl (by decide))]
    rfl

theorem enterLost_wp {reason : TargetLostReason} {Q : Unit → Session → SessionHistory → Prop}
    (hsame : s.state = .lost → Q () s h)
    (hlost : s.state ≠ .lost → ∀ b dead evs, Offered s (LostFrame reason) dead evs →
      Q () ({ s with state := .lost }.framed b 20 dead) (h ++ evs)) :
    (enterLost reason).wp s h Q := by
  simp only [enterLost, Action.wp_bind, getSession_wp, Action.wp_ite, Action.wp_pure,
    updateSession_wp]
  refine ⟨hsame, fun hs => ?_⟩
  apply sendTargetLost_wp
  intro b dead evs ho
  exact hlost hs b dead evs ho

/-- The pending stop fits a frame. -/
def SnapshotFits (s : Session) : Prop :=
  s.pendingRegistersSize + s.pendingStackSize ≤ snapshotBlobCapacity

/-- The frame buffer `send_stopped` fills. -/
def stoppedBuffer (s : Session) : Buffer :=
  (((s.scratch.write 0 (headerBytes MsgKind.event Opcode.stopped 0)).write 12
    (stoppedEventBytes s)).write 48 (s.pendingRegisters.read 0 s.pendingRegistersSize)).write
      (48 + s.pendingRegistersSize)
      (s.pendingRegisters.read s.pendingRegistersSize s.pendingStackSize)

theorem stoppedBuffer_frame (s : Session) (crc : UInt32) :
    StoppedFrame s (sealedFrame (stoppedBuffer s)
      (48 + s.pendingRegistersSize + s.pendingStackSize) crc) := by
  have hregs : (s.pendingRegisters.read 0 s.pendingRegistersSize).length =
      s.pendingRegistersSize := Buffer.read_length _ _ _
  have hstack : (s.pendingRegisters.read s.pendingRegistersSize s.pendingStackSize).length =
      s.pendingStackSize := Buffer.read_length _ _ _
  have hfixed : (stoppedEventBytes s).length = 36 := stoppedEventBytes_length s
  refine ⟨sealedFrame_hasHeader crc (by omega) ?_, ?_, ?_, ?_, sealedFrame_length _ _ _⟩
  · rw [stoppedBuffer, Buffer.read_write_of_disjoint _ _ _ _ _ (by omega),
      Buffer.read_write_of_disjoint _ _ _ _ _ (by omega),
      Buffer.read_write_of_disjoint _ _ _ _ _ (by omega), read_headerBytes]
  · rw [stoppedEventSize, sealedFrame_slice _ _ _ _ _ (by omega) (by omega), stoppedBuffer,
      Buffer.read_write_of_disjoint _ _ _ _ _ (by omega),
      Buffer.read_write_of_disjoint _ _ _ _ _ (by omega)]
    have hw := Buffer.read_write_self
      (s.scratch.write 0 (headerBytes MsgKind.event Opcode.stopped 0)) 12 (stoppedEventBytes s)
    rwa [hfixed] at hw
  · rw [sealedFrame_slice _ _ _ _ _ (by omega) (by omega), stoppedBuffer,
      Buffer.read_write_of_disjoint _ _ _ _ _ (by omega)]
    have hw := Buffer.read_write_self ((s.scratch.write 0
      (headerBytes MsgKind.event Opcode.stopped 0)).write 12 (stoppedEventBytes s)) 48
      (s.pendingRegisters.read 0 s.pendingRegistersSize)
    rwa [hregs] at hw
  · rw [sealedFrame_slice _ _ _ _ _ (by omega) (by omega), stoppedBuffer]
    have hw := Buffer.read_write_self (((s.scratch.write 0
      (headerBytes MsgKind.event Opcode.stopped 0)).write 12 (stoppedEventBytes s)).write 48
      (s.pendingRegisters.read 0 s.pendingRegistersSize)) (48 + s.pendingRegistersSize)
      (s.pendingRegisters.read s.pendingRegistersSize s.pendingStackSize)
    rwa [hstack] at hw

theorem sendStopped_wp {Q : Bool → Session → SessionHistory → Prop} (hfits : SnapshotFits s)
    (hQ : ∀ b n dead evs, Offered s (StoppedFrame s) dead evs →
      Q (!dead) ({ s with stopReported := !dead }.framed b n dead) (h ++ evs)) :
    sendStopped.wp s h Q := by
  have hfit : s.pendingRegistersSize + s.pendingStackSize ≤ 8144 := hfits
  have hn : headerSize + (stoppedEventSize + s.pendingRegistersSize + s.pendingStackSize) =
      48 + s.pendingRegistersSize + s.pendingStackSize := by
    simp only [headerSize, stoppedEventSize]
    omega
  have ho : headerSize + (stoppedEventSize + s.pendingRegistersSize) =
      48 + s.pendingRegistersSize := by
    simp only [headerSize, stoppedEventSize]
    omega
  simp only [sendStopped, Action.wp_bind, getSession_wp, beginFrame_wp]
  refine ⟨fun hbig => ?_, fun _ => ?_⟩
  · simp only [stoppedEventSize, maxFrameSize, headerSize] at hbig
    omega
  simp only [Bool.not_true, Bool.false_eq_true, if_false, Action.wp_bind, writePayload_wp, hn, ho]
  refine finishFrame_offered (s := s) (b := stoppedBuffer s) (P := StoppedFrame s) ?_
    (fun crc => stoppedBuffer_frame s crc) ?_
  · simp only [isValidMessageSize, headerSize, maxFrameSize]
    omega
  · intro b dead evs ho
    simp only [updateSession_wp, Action.wp_pure]
    exact hQ b _ dead evs ho

end

end SidpClient
