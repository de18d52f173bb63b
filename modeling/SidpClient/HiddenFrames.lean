import SidpClient.HiddenFields

/-! Frames built over two frame buffers that differ: they are the same bytes, since every byte of a
frame is written before it is offered, or was written by an earlier frame of the attachment. -/
namespace SidpClient
open LittleEndian Interactive

variable {K : Session → Prop} {D : ℕ → Prop} {s s' : Session} {α : Type} {n : ℕ}

theorem read_congr {b b' : Buffer} {offset size : ℕ}
    (same : ∀ i, offset ≤ i → i < offset + size → b' i = b i) :
    b'.read offset size = b.read offset size := by
  apply List.map_congr_left
  intro i hi
  have hlt := List.mem_range.mp hi
  exact same (offset + i) (by omega) (by omega)

/-- The CRC field is not part of what the CRC covers. -/
theorem calculateMessage_congr {b b' : Buffer} (same : ∀ i < n, i < 8 ∨ 12 ≤ i → b' i = b i) :
    Crc32.calculateMessage (b'.read 0 n) = Crc32.calculateMessage (b.read 0 n) := by
  by_cases hn : isValidMessageSize n
  · have low := hn.1
    simp only [headerSize] at low
    obtain ⟨rest, rfl⟩ := Nat.exists_eq_add_of_le low
    have split (b : Buffer) : b.read 0 (12 + rest) = b.read 0 8 ++
        (b.read 8 4 ++ b.read 12 rest) := by
      rw [show 12 + rest = 8 + (4 + rest) by omega, Buffer.read_append, Buffer.read_append]
    have covered (b : Buffer) : Crc32.messageCrc (b.read 0 (12 + rest)) =
        Crc32.finalize (Crc32.update (Crc32.update Crc32.initialValue (b.read 0 8))
          (b.read 12 rest)) := by
      have behind : (b.read 0 (12 + rest)).drop 12 = b.read 12 rest := by
        rw [split, ← List.append_assoc]
        exact List.drop_left' (by simp)
      have front : (b.read 0 (12 + rest)).take 8 = b.read 0 8 := by
        rw [split]
        exact List.take_left' (by simp)
      rw [Crc32.messageCrc, Crc32.crcOffset, headerSize, behind, front]
    have front : b'.read 0 8 = b.read 0 8 := read_congr fun i _ high => same i (by omega) (by omega)
    have behind : b'.read 12 rest = b.read 12 rest := read_congr fun i low high =>
        same i high (by omega)
    simp only [Crc32.calculateMessage, Buffer.read_length, if_pos hn, covered, front, behind]
  · simp only [Crc32.calculateMessage, Buffer.read_length, if_neg hn]

/-! Building a frame of `n` bytes. -/

/-- Both sessions have a frame of `n` bytes in hand, the same on `D`. -/
def Building (K : Session → Prop) (D : ℕ → Prop) (n : ℕ) (s s' : Session) : Prop :=
  Alike K D s s' ∧ s.txFrameSize = n ∧ s'.txFrameSize = n

theorem write_agrees {b b' : Buffer} {offset : ℕ} {bytes : List UInt8}
    (same : ∀ i, D i → b' i = b i) (i : ℕ) (hi : D i ∨ (offset ≤ i ∧ i < offset + bytes.length)) :
    b'.write offset bytes i = b.write offset bytes i := by
  by_cases inside : offset ≤ i ∧ i < offset + bytes.length
  · simp only [Buffer.write, if_pos inside]
  · simp only [Buffer.write, if_neg inside]
    exact same i (hi.resolve_right inside)

theorem beginFrame_paired (hK : Framed K) (ha : Alike K D s s') {kind : UInt8} {opcode : UInt16}
    {requestId : UInt32} {size : ℕ} {Q : Bool → Session → Session → Prop}
    (hbig : size > maxFrameSize - headerSize → Q false s s')
    (hsmall : ∀ t t', Building K (fun i => D i ∨ i < 8) (headerSize + size) t t' →
      t = s.framed t.scratch (headerSize + size) s.transportDead → Q true t t') :
    (beginFrame kind opcode requestId size).paired outsider
      (beginFrame kind opcode requestId size) s s' Q := by
  apply Action.paired_ite
  · intro big
    exact Action.paired_pure (hbig big)
  · intro _
    apply Action.paired_bind
    apply Action.paired_modify
    apply Action.paired_pure
    apply hsmall
    · obtain ⟨x, rfl, hx⟩ := ha
      refine ⟨⟨{ x with
          txFrameSize := headerSize + size
          scratch := x.scratch.write 0 (headerBytes kind opcode requestId) },
        rfl, hK s _ _ s.transportDead id hx.lasting, hx.served, ?_, hx.pending⟩, rfl, rfl⟩
      intro i hi
      apply write_agrees hx.written i
      rw [headerBytes_length]
      exact hi.imp id fun low => ⟨Nat.zero_le i, by omega⟩
    · rfl

theorem writePayload_paired (hK : Framed K) (hb : Building K D n s s') {offset : ℕ}
    {bytes : List UInt8} {Q : Unit → Session → Session → Prop}
    (hQ : ∀ t t', Building K (fun i => D i ∨ (12 + offset ≤ i ∧ i < 12 + offset + bytes.length)) n t
      t' → t = s.framed t.scratch n s.transportDead → Q () t t') :
    (writePayload offset bytes).paired outsider (writePayload offset bytes) s s' Q := by
  apply Action.paired_modify
  obtain ⟨⟨x, rfl, hx⟩, hn, hn'⟩ := hb
  apply hQ
  · refine ⟨⟨{ x with scratch := x.scratch.write (headerSize + offset) bytes }, rfl,
      hK s _ _ s.transportDead id hx.lasting, hx.served, ?_, hx.pending⟩, hn, hn'⟩
    intro i hi
    exact write_agrees hx.written i hi
  · rw [← hn]
    rfl

/-- A frame whose bytes were all written, or are left from before on both sides. -/
theorem finishFrame_paired (hK : Framed K) (hb : Building K D n s s')
    (whole : ∀ i < n, i < 8 ∨ 12 ≤ i → D i) {Q : Bool → Session → Session → Prop}
    (hQ : ∀ sent t t', Alike K D t t' → (∃ b dead, t = s.framed b n dead) → Q sent t t') :
    finishFrame.paired outsider finishFrame s s' Q := by
  obtain ⟨⟨x, rfl, hx⟩, hn, hn'⟩ := hb
  -- the CRC is taken over bytes both frames agree in: its own field is left out
  have crc : Crc32.calculateMessage ((s.hiding x).scratch.read 0 (s.hiding x).txFrameSize) =
      Crc32.calculateMessage (s.scratch.read 0 s.txFrameSize) := by
    rw [hn, hn']
    exact calculateMessage_congr fun i hi hc => hx.written i (whole i hi hc)
  have same : Alike K D s (s.hiding x) := ⟨x, rfl, hx⟩
  have unframed : ∃ b dead, s = s.framed b n dead := ⟨s.scratch, s.transportDead, by rw [← hn]; rfl⟩
  have died (b b' : Buffer) (agree : ∀ i, D i → b' i = b i) :
      Alike K D { s with scratch := b, transportDead := true }
        { s.hiding x with scratch := b', transportDead := true } :=
    ⟨{ x with scratch := b' }, rfl, hK s b s.txFrameSize true (fun _ => rfl) hx.lasting, hx.served,
      agree, hx.pending⟩
  apply Action.paired_get
  apply Action.paired_ite
  · intro _
    exact Action.paired_pure (hQ false _ _ same unframed)
  · intro alive
    rw [crc]
    cases Crc32.calculateMessage (s.scratch.read 0 s.txFrameSize) with
    | none =>
      apply Action.paired_bind
      apply Action.paired_modify
      apply Action.paired_pure
      exact hQ false _ _ (died _ _ hx.written) ⟨s.scratch, true, by rw [← hn]; rfl⟩
    | some crc =>
      have agree (i : ℕ) (hi : D i) : x.scratch.write Crc32.crcOffset (le32 crc) i =
          s.scratch.write Crc32.crcOffset (le32 crc) i := write_agrees hx.written i (Or.inl hi)
      have frames : (x.scratch.write Crc32.crcOffset (le32 crc)).read 0 (s.hiding x).txFrameSize =
          (s.scratch.write Crc32.crcOffset (le32 crc)).read 0 s.txFrameSize := by
        rw [hn, hn']
        apply read_congr
        intro i _ high
        apply write_agrees (D := fun i => i < n ∧ (i < 8 ∨ 12 ≤ i)) fun i hi =>
          hx.written i (whole i hi.1 hi.2)
        rw [le32_length, Crc32.crcOffset]
        omega
      apply Action.paired_bind
      apply Action.paired_modify
      apply Action.paired_bind
      have offered :
          (txSink ((x.scratch.write Crc32.crcOffset (le32 crc)).read 0 (s.hiding x).txFrameSize)) =
          txSink ((s.scratch.write Crc32.crcOffset (le32 crc)).read 0 s.txFrameSize) := by
            rw [frames]
      change (txSink _).paired outsider
        (txSink ((x.scratch.write Crc32.crcOffset (le32 crc)).read 0 (s.hiding x).txFrameSize))
        _ _ _
      rw [offered]
      apply txSink_paired
      intro accepted
      cases accepted with
      | false =>
        apply Action.paired_bind
        apply Action.paired_modify
        apply Action.paired_pure
        exact hQ false _ _ (died _ _ agree) ⟨_, true, by rw [← hn]; rfl⟩
      | true =>
        apply Action.paired_pure
        refine hQ true _ _ ?_ ⟨s.scratch.write Crc32.crcOffset (le32 crc),
          s.transportDead, by rw [← hn]; rfl⟩
        exact ⟨{ x with scratch := x.scratch.write Crc32.crcOffset (le32 crc) }, rfl,
          hK s _ _ s.transportDead id hx.lasting, hx.served, agree, hx.pending⟩

/-! The frames. Each is the same on both sides, and leaves the status field the same. -/

/-- A frame that goes on with one write, and is sent. -/
theorem finishPayload_paired (hK : Framed K) (hb : Building K D n s s') {offset : ℕ}
    {bytes : List UInt8}
    (whole : ∀ i < n, i < 8 ∨ 12 ≤ i → D i ∨ (12 + offset ≤ i ∧ i < 12 + offset + bytes.length))
    {Q : Bool → Session → Session → Prop}
    (hQ : ∀ sent t t', Alike K (fun i => D i ∨ (12 + offset ≤ i ∧ i < 12 + offset + bytes.length)) t
      t' → (∃ b dead, t = s.framed b n dead) → Q sent t t') :
    (writePayload offset bytes >>= fun _ => finishFrame).paired outsider
      (writePayload offset bytes >>= fun _ => finishFrame) s s' Q := by
  apply Action.paired_bind
  apply writePayload_paired hK hb
  intro t t' hb' wrote
  apply finishFrame_paired hK hb' whole
  intro sent u u' ha done
  obtain ⟨b, dead, rfl⟩ := done
  apply hQ sent _ _ ha
  refine ⟨b, dead, ?_⟩
  rw [wrote]
  rfl

theorem respond_paired (hK : Framed K) (ha : Alike K D s s') (opcode : UInt16) (requestId : UInt32)
    (status : Status) {Q : Unit → Session → Session → Prop}
    (hQ : ∀ t t', Alike K StatusField t t' → (∃ b n dead, t = s.framed b n dead) → Q () t t') :
    (respond opcode requestId status).paired outsider (respond opcode requestId status) s s' Q := by
  apply Action.paired_bind
  apply Action.paired_bind
  apply beginFrame_paired hK ha
  · intro big
    exact absurd big (by decide)
  intro t t' hb begun
  rw [if_neg (by decide)]
  have size : headerSize + (responsePrefixSize + ([] : List UInt8).length) = 16 := by decide
  rw [size] at hb begun
  have only : ¬([] : List UInt8) ≠ [] := fun hn => hn rfl
  simp only [if_neg only]
  apply finishPayload_paired hK hb
  · intro i hi hc
    rw [le32_length]
    omega
  intro sent u u' ha' done
  obtain ⟨b, dead, rfl⟩ := done
  apply Action.paired_pure
  apply hQ
  · apply ha'.mono
    intro i hi
    obtain ⟨low, high⟩ := hi
    rw [le32_length]
    omega
  · exact ⟨b, 16, dead, by rw [begun]; rfl⟩

theorem respond_veiled (eng : Engages K) (opcode : UInt16) (requestId : UInt32) (status : Status) :
    Veiled K StatusField (respond opcode requestId status) :=
  fun _ _ ha => respond_paired eng.framed ha opcode requestId status fun _ _ ha' _ => ha'

theorem sendTargetLost_paired (hK : Framed K) (ha : Alike K StatusField s s')
    (reason : TargetLostReason) :
    (sendTargetLost reason).paired outsider (sendTargetLost reason) s s' fun _ =>
    Alike K StatusField := by
  apply Action.paired_bind
  apply beginFrame_paired hK ha
  · intro big
    exact absurd big (by decide)
  intro t t' hb begun
  rw [if_neg (by decide)]
  have size : headerSize + targetLostEventSize = 20 := by decide
  rw [size] at hb begun
  apply Action.paired_bind
  apply writePayload_paired hK hb
  intro u u' hb' _
  apply finishPayload_paired hK hb'
  · intro i hi hc
    -- bytes 13 to 15 are those of the frame before
    have old : i < 16 → StatusField i ∨ i < 8 := fun high => hc.symm.imp (fun low => ⟨low, high⟩) id
    rw [le32_length]
    by_cases high : i < 16
    · exact Or.inl (Or.inl (old high))
    · omega
  intro sent v v' ha' _
  exact ha'.mono fun i hi => Or.inl (Or.inl (Or.inl hi))

theorem enterLost_paired {K' : Session → Prop} (hK : Framed K')
    (lost : ∀ s : Session, K s → K' { s with state := .lost })
    (stays : ∀ s : Session, K s → s.state = .lost → K' s) (ha : Alike K StatusField s s')
    (reason : TargetLostReason) :
    (enterLost reason).paired outsider (enterLost reason) s s' fun _ => Alike K' StatusField := by
  obtain ⟨x, rfl, hx⟩ := ha
  apply Action.paired_get
  apply Action.paired_ite
  · intro already
    exact Action.paired_pure ⟨x, rfl, stays s hx.lasting already, hx.served, hx.written, hx.pending⟩
  · intro _
    apply Action.paired_bind
    apply Action.paired_modify
    apply Action.paired_bind
    have now : Alike K' StatusField { s with state := .lost } { s.hiding x with state := .lost } :=
      ⟨x, rfl, lost s hx.lasting, hx.served, hx.written, hx.pending⟩
    apply Action.paired_mono (sendTargetLost_paired hK now reason)
    intro _ t t' ha
    exact Action.paired_pure ha

theorem Engages.lost (eng : Engages K) (s : Session) (attached : s.attached = true) :
    K { s with state := .lost } := eng.settles _ attached (by decide : TargetState.lost ≠ .detached)

theorem enterLost_veiled (eng : Engages K) (reason : TargetLostReason) :
    Veiled K StatusField (enterLost reason) :=
  fun _ _ ha => enterLost_paired eng.framed (fun s hs => eng.lost s (eng.attached s hs))
    (fun _ hs _ => hs) ha reason

theorem sendBackendFailure_veiled (eng : Engages K) (opcode : UInt16) (requestId : UInt32)
    (result : EspErr) (fallback : Status) :
    Veiled K StatusField (sendBackendFailure opcode requestId result fallback) :=
  .ite (fun _ => .bind (respond_veiled eng _ _ _) fun _ => .bind (enterLost_veiled eng _)
    fun _ => .pure _)
    fun _ => respond_veiled eng _ _ _

/-- The snapshot is the same, and so is the event. -/
theorem sendStopped_paired (hK : Framed K)
    (reported : ∀ (s : Session) reported, K s → K { s with stopReported := reported })
    (ha : Alike K StatusField s s') :
    sendStopped.paired outsider sendStopped s s' fun _ t t' => Alike K StatusField t t' := by
  obtain ⟨x, rfl, hx⟩ := ha
  have size : (s.hiding x).pendingRegistersSize = s.pendingRegistersSize := rfl
  have registers : (s.hiding x).pendingRegisters.read 0 (s.hiding x).pendingRegistersSize =
      s.pendingRegisters.read 0 s.pendingRegistersSize :=
    read_congr fun i _ high => hx.pending i (by omega)
  have stack :
      (s.hiding x).pendingRegisters.read (s.hiding x).pendingRegistersSize
          (s.hiding x).pendingStackSize =
        s.pendingRegisters.read s.pendingRegistersSize s.pendingStackSize :=
    read_congr fun i _ high => hx.pending i high
  have fixed : stoppedEventBytes (s.hiding x) = stoppedEventBytes s := by
    have count : registerEntries (s.hiding x).pendingRegisters (s.hiding x).pendingRegistersSize =
        registerEntries s.pendingRegisters s.pendingRegistersSize :=
      registerEntriesFrom_congr _ _ fun i _ high => hx.pending i (by omega)
    rw [stoppedEventBytes, stoppedEventBytes, count]
    rfl
  have ha : Alike K StatusField s (s.hiding x) := ⟨x, rfl, hx⟩
  apply Action.paired_get
  apply Action.paired_bind
  rw [fixed, registers, stack]
  apply beginFrame_paired hK ha
  · intro _
    exact Action.paired_pure ha
  intro t t' hb _
  rw [if_neg (by decide)]
  apply Action.paired_bind
  apply writePayload_paired hK hb
  intro t₁ t₁' hb₁ _
  apply Action.paired_bind
  apply writePayload_paired hK hb₁
  intro t₂ t₂' hb₂ _
  apply Action.paired_bind
  apply writePayload_paired hK hb₂
  intro t₃ t₃' hb₃ _
  apply Action.paired_bind
  apply finishFrame_paired hK hb₃
  · intro i hi hc
    simp only [stoppedEventBytes_length, Buffer.read_length, headerSize] at hi ⊢
    by_cases fixedPart : i < 12 + stoppedEventSize
    · omega
    · omega
  intro sent u u' hu _
  apply Action.paired_bind
  apply Action.paired_modify
  apply Action.paired_pure
  obtain ⟨y, rfl, hy⟩ := hu
  refine ⟨y, rfl, reported u sent hy.lasting, hy.served, ?_, hy.pending⟩
  intro i hi
  exact hy.written i (Or.inl (Or.inl (Or.inl (Or.inl hi))))

theorem emitPendingStopped_veiled (eng : Engages K) : Veiled K StatusField emitPendingStopped := by
  apply getSession_veiled (fun _ _ => rfl)
  intro s _
  apply Action.Keeping.ite (fun _ => .pure _)
  intro _
  have sent : Veiled K StatusField sendStopped := fun _ _ ha => sendStopped_paired eng.framed
    (fun s reported hs => eng.keeps s _ hs rfl rfl id) ha
  exact .bind sent fun _ => .pure _

end SidpClient
