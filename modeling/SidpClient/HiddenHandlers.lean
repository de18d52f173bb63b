import SidpClient.HiddenStops

/-! The request handlers over two attached sessions that differ in hidden fields. -/
namespace SidpClient
open LittleEndian Interactive

variable {K K' : Session → Prop} {D : ℕ → Prop} {s s' : Session} {α : Type}

/-! Memory and registers. -/

theorem opGetState_paired (hK : Framed K) (ha : Alike K D s s') (requestId : UInt32)
    (payload : List UInt8) {Q : Unit → Session → Session → Prop}
    (hQ : ∀ t t', Alike K StatusField t t' → (∃ b n dead, t = s.framed b n dead) → Q () t t') :
    (opGetState requestId payload).paired outsider (opGetState requestId payload) s s' Q := by
  apply Action.paired_ite
  · intro _
    apply Action.paired_bind
    apply respond_paired hK ha
    intro t t' ht framed
    exact Action.paired_pure (hQ t t' ht framed)
  intro _
  apply Action.paired_bind
  apply beginFrame_paired hK ha
  · intro big
    exact absurd big (by decide)
  intro t t' hb begun
  rw [if_neg (by decide)]
  apply Action.paired_get
  have state : getStateResponseBytes t' = getStateResponseBytes t := by
    obtain ⟨⟨x, rfl, -⟩, -⟩ := hb
    rfl
  have size : headerSize + getStateResponseSize = 24 := by decide
  have length (s : Session) : (getStateResponseBytes s).length = 12 := by
    simp [getStateResponseBytes]
  rw [size] at hb begun
  rw [state]
  apply Action.paired_bind
  apply writePayload_paired hK hb
  intro u u' hu wrote
  apply Action.paired_bind
  apply finishFrame_paired hK hu
  · intro i hi hc
    rw [length]
    omega
  intro _ v v' hv done
  obtain ⟨b, dead, rfl⟩ := done
  apply Action.paired_pure
  apply hQ
  · apply hv.mono
    intro i hi
    obtain ⟨low, high⟩ := hi
    rw [length]
    omega
  · exact ⟨b, 24, dead, by rw [wrote, begun]; rfl⟩

theorem opReadMemory_veiled (eng : Engages K) (requestId : UInt32) (payload : List UInt8) :
    Veiled K StatusField (opReadMemory requestId payload) := by
  apply getSession_engaged eng (fun _ _ _ _ => rfl)
  intro s _
  cases checkReadMemory s payload with
  | error status => exact respond_veiled eng _ _ _
  | ok req =>
    intro s s' ha
    apply Action.paired_bind
    apply beginFrame_paired eng.framed ha
    · intro _
      exact Action.paired_pure ha
    intro t t' hb _
    rw [if_neg (by decide)]
    apply Action.paired_bind
    apply backend_paired
    intro a filled
    apply Action.paired_bind
    apply writePayload_paired eng.framed hb
    intro t₁ t₁' hb₁ _
    apply Action.paired_ite
    · intro _
      apply Action.paired_bind
      apply Action.paired_mono (sendBackendFailure_veiled eng _ _ _ _ t₁ t₁'
        (hb₁.1.mono fun i hi => Or.inl (Or.inl hi)))
      intro _ u u' hu
      exact Action.paired_pure hu
    intro ok
    have length : (a.data.take req.length.toNat).length = req.length.toNat := by
      rw [List.length_take, Nat.min_eq_left (filled (not_not.mp ok))]
    rw [length] at hb₁
    have table : t₁'.swTable = t₁.swTable := by
      obtain ⟨⟨x, rfl, -⟩, -⟩ := hb₁
      rfl
    have bytes : t₁'.scratch.read (headerSize + readMemoryResponseSize) req.length.toNat =
        t₁.scratch.read (headerSize + readMemoryResponseSize) req.length.toNat := by
      obtain ⟨⟨x, rfl, hx⟩, -⟩ := hb₁
      exact read_congr fun i low high => hx.written i (Or.inr ⟨low, high⟩)
    apply Action.paired_get
    rw [table, bytes]
    apply Action.paired_bind
    apply writePayload_paired eng.framed hb₁
    intro t₂ t₂' hb₂ _
    apply Action.paired_bind
    apply writePayload_paired eng.framed hb₂
    intro t₃ t₃' hb₃ _
    apply Action.paired_bind
    apply finishFrame_paired eng.framed hb₃
    · intro i hi hc
      simp only [List.length_append, le32_length, le64_length, headerSize,
        readMemoryResponseSize] at hi ⊢
      omega
    intro _ u u' hu _
    exact Action.paired_pure (hu.mono fun i hi => Or.inl (Or.inl (Or.inl (Or.inl hi))))

theorem opWriteMemory_veiled (eng : Engages K) (requestId : UInt32) (payload : List UInt8) :
    Veiled K StatusField (opWriteMemory requestId payload) := by
  apply getSession_engaged eng (fun _ _ _ _ => rfl)
  intro s _
  cases checkWriteMemory s payload with
  | error status => exact respond_veiled eng _ _ _
  | ok req =>
    have staged (image : List UInt8) : Veiled K StatusField
        (updateSession fun s => { s with scratch := s.scratch.write 0 image }) := by
      apply Action.Keeping.modify
      intro s s' ha
      obtain ⟨x, rfl, hx⟩ := ha
      exact ⟨{ x with scratch := x.scratch.write 0 image }, rfl,
        eng.keeps s _ hx.lasting rfl rfl id, hx.served, fun i hi =>
          write_agrees hx.written i (Or.inl hi), hx.pending⟩
    have absorbed (address : UInt64) (data : List UInt8) : Veiled K StatusField
        (updateSession fun s => { s with swTable := swBpWriteOverlap s.swTable address data }) :=
      updateSame_veiled eng ⟨fun _ _ => rfl, fun _ => rfl, fun _ => rfl, fun _ =>
        le_rfl⟩ fun _ => rfl
    exact .bind (staged _) fun _ => .bind (backend_veiled _) fun _ =>
      .ite (fun _ => .bind (sendBackendFailure_veiled eng _ _ _ _) fun _ => .pure _) fun _ =>
        .bind (absorbed _ _) fun _ => respond_veiled eng _ _ _

theorem opReadRegisters_veiled (eng : Engages K) (requestId : UInt32) (payload : List UInt8) :
    Veiled K StatusField (opReadRegisters requestId payload) := by
  apply getSession_engaged eng (fun _ _ _ _ => rfl)
  intro s _
  cases checkReadRegisters s payload with
  | error status => exact respond_veiled eng _ _ _
  | ok req =>
    intro s s' ha
    apply Action.paired_bind
    apply beginFrame_paired eng.framed ha
    · intro big
      exact absurd big (by decide)
    intro t t' hb _
    rw [if_neg (by decide)]
    apply Action.paired_bind
    apply backend_paired
    intro a filled
    apply Action.paired_bind
    apply writePayload_paired eng.framed hb
    intro t₁ t₁' hb₁ _
    -- the blob stays in the frame, but a failure sends its status only
    have known : Alike K StatusField t₁ t₁' := hb₁.1.mono fun i hi => Or.inl (Or.inl hi)
    apply Action.paired_ite
    · intro _
      apply Action.paired_bind
      apply Action.paired_mono (sendBackendFailure_veiled eng _ _ _ _ t₁ t₁' known)
      intro _ u u' hu
      exact Action.paired_pure hu
    intro ok
    apply Action.paired_ite
    · intro _
      apply Action.paired_bind
      apply Action.paired_mono (respond_veiled eng _ _ _ t₁ t₁' known)
      intro _ u u' hu
      exact Action.paired_pure hu
    intro fits
    have length : (a.data.take registerBlobCapacity).length = min registerBlobCapacity
        a.data.length :=
      List.length_take
    have long : a.outSize ≤ (a.data.take registerBlobCapacity).length := by
      rw [length]
      exact Nat.le_min.mpr ⟨Nat.not_lt.mp fits, filled (not_not.mp ok)⟩
    obtain ⟨⟨x, rfl, hx⟩, -⟩ := hb₁
    have start : headerSize + readRegistersResponseSize = 24 := by decide
    -- the backend filled as much as it reports, and the fix-up reads no further
    have blob (i : ℕ) (low : 24 ≤ i) (high : i < 24 + a.outSize) : x.scratch i = t₁.scratch i := by
      apply hx.written i
      refine Or.inr ⟨low, ?_⟩
      have twelve : readRegistersResponseSize = 12 := rfl
      omega
    have normalized (i : ℕ) (hi : (StatusField i ∨ i < 8) ∨ (24 ≤ i ∧ i < 24 + a.outSize)) :
        normalizePcInRegisterBlob (t₁.hiding x) x.scratch 24 a.outSize i =
          normalizePcInRegisterBlob t₁ t₁.scratch 24 a.outSize i :=
      normalizePc_agrees (D := fun i => (StatusField i ∨ i < 8) ∨
        (24 ≤ i ∧ i < 24 + a.outSize)) x blob
        (fun i hi => hi.elim (fun front => hx.written i (Or.inl front)) fun mid =>
          blob i mid.1 mid.2) i hi
    have hb₂ : Building K (fun i => (StatusField i ∨ i < 8) ∨ (24 ≤ i ∧ i < 24 + a.outSize))
        (24 + a.outSize)
        { t₁ with
          scratch := normalizePcInRegisterBlob t₁ t₁.scratch 24 a.outSize
          txFrameSize := 24 + a.outSize }
        { t₁.hiding x with
          scratch := normalizePcInRegisterBlob (t₁.hiding x) x.scratch 24 a.outSize
          txFrameSize := 24 + a.outSize } :=
      ⟨⟨{ x with
            scratch := normalizePcInRegisterBlob (t₁.hiding x) x.scratch 24 a.outSize
            txFrameSize := 24 + a.outSize },
        rfl, eng.keeps t₁ _ hx.lasting rfl rfl id, hx.served, normalized, hx.pending⟩, rfl, rfl⟩
    apply Action.paired_bind
    apply Action.paired_modify
    apply Action.paired_get
    have entries :
        registerEntries (fun i => normalizePcInRegisterBlob (t₁.hiding x) x.scratch 24 a.outSize
            (24 + i)) a.outSize =
          registerEntries (fun i => normalizePcInRegisterBlob t₁ t₁.scratch 24 a.outSize
            (24 + i)) a.outSize :=
      registerEntriesFrom_congr _ _ fun i _ high => normalized (24 + i) (Or.inr (by omega))
    dsimp only
    change Action.paired _ _ (writePayload 0 (le32 Status.ok.value ++ le32 t₁.stopId ++
      le16 (UInt16.ofNat (registerEntries
        (fun i => normalizePcInRegisterBlob (t₁.hiding x) x.scratch 24 a.outSize (24 + i))
          a.outSize).length) ++ le16 0) >>= _) _ _ _
    rw [entries]
    apply Action.paired_bind
    apply writePayload_paired eng.framed hb₂
    intro t₃ t₃' hb₃ _
    apply Action.paired_bind
    apply finishFrame_paired eng.framed hb₃
    · intro i hi hc
      simp only [List.length_append, le32_length, le16_length]
      omega
    intro _ u u' hu _
    exact Action.paired_pure (hu.mono fun i hi => Or.inl (Or.inl (Or.inl hi)))

theorem updateStepOver_clear (data : List UInt8) (count : ℕ) :
    Clear (updateStepOverAfterRegisterWrite data count) := by
  refine ⟨fun s x => ?_, fun s => ?_, fun s => ?_, fun s => ?_⟩
  · have pending : (s.hiding x).swStepOverPending = s.swStepOverPending := rfl
    have address : (s.hiding x).swStepOverAddress = s.swStepOverAddress := rfl
    rw [updateStepOverAfterRegisterWrite, updateStepOverAfterRegisterWrite, pending, address]
    cases s.swStepOverPending with
    | false => rfl
    | true =>
      simp only [Bool.not_true, Bool.false_eq_true, if_false]
      cases ((registerEntries (fun i => getU8 data i) data.length).take count).find? fun entry =>
          entry.registerId == armRegPc && entry.valueSize == 4 with
      | none => rfl
      | some entry =>
        dsimp only
        by_cases elsewhere : (getU32 data (entry.offset + registerValueSize)).toUInt64 ≠
          s.swStepOverAddress
        · rw [if_pos elsewhere, if_pos elsewhere]
          rfl
        · rw [if_neg elsewhere, if_neg elsewhere]
  · rcases updateStepOver_cases data count s with same | cancelled
    · rw [same]
    · rw [cancelled]
      rfl
  · rcases updateStepOver_cases data count s with same | cancelled
    · rw [same]
    · rw [cancelled]
  · rcases updateStepOver_cases data count s with same | cancelled
    · rw [same]
    · rw [cancelled]

theorem opWriteRegisters_veiled (eng : Engages K) (requestId : UInt32) (payload : List UInt8) :
    Veiled K StatusField (opWriteRegisters requestId payload) := by
  apply getSession_veiled (fun _ _ => rfl)
  intro s _
  cases checkWriteRegisters s payload with
  | error status => exact respond_veiled eng _ _ _
  | ok req =>
    have cancels : Veiled K StatusField (updateSession
        (updateStepOverAfterRegisterWrite (payload.drop writeRegistersRequestSize)
          req.registerCount.toNat)) := by
      apply updateSame_veiled eng (updateStepOver_clear _ _)
      intro s
      rcases updateStepOver_cases (payload.drop writeRegistersRequestSize) req.registerCount.toNat
        s with same | cancelled
      · rw [same]
      · rw [cancelled]
    exact .bind (backend_veiled _) fun _ =>
      .ite (fun _ => .bind (sendBackendFailure_veiled eng _ _ _ _) fun _ => .pure _) fun _ =>
        .bind cancels fun _ => respond_veiled eng _ _ _

/-! Run control. -/

theorem installRun_veiled (eng : Engages K) (plan : RunPlan) : Veiled K D (installRun plan) := by
  have named : Veiled K D
      (updateSession fun s => { s with hwBreakpointIds := plan.hwEntries.map (·.breakpointId) }) :=
    updateSame_veiled eng ⟨fun _ _ => rfl, fun _ => rfl, fun _ => rfl, fun _ => le_rfl⟩ fun _ => rfl
  exact .bind (swBpApply_veiled eng _) fun _ => .ite (fun _ => .pure _) fun _ =>
    .bind (backend_veiled _) fun _ => .ite (fun _ => .pure _) fun _ => .bind named fun _ =>
      .bind (backend_veiled _) fun _ => .ite (fun _ => .pure _) fun _ => .bind (backend_veiled _)
        fun _ => .ite (fun _ => .pure _) fun _ => .pure _

theorem resumeRun_veiled (eng : Engages K) (requestId : UInt32) (req : RunRequest) :
    Veiled K StatusField (resumeRun requestId req) := by
  have running : Veiled K StatusField (updateSession fun s =>
      { s with
        runningAction := req.action
        runToActive := req.action == RunAction.toAddress
        activeRunToAddress := if req.action = RunAction.toAddress then req.runToAddress else 0
        state := .running }) :=
    updateState_veiled eng ⟨fun _ _ => rfl, fun _ => rfl, fun _ => rfl, fun _ => le_rfl⟩
      fun _ => (by decide : TargetState.running ≠ .detached)
  exact .bind (backend_veiled _) fun _ =>
    .ite (fun _ => .bind (respond_veiled eng _ _ _) fun _ => .bind (enterLost_veiled eng _)
      fun _ => .pure _)
      fun _ => .bind running fun _ => .bind (respond_veiled eng _ _ _) fun _ => pollStop_veiled eng

/-- The reason of a stop that was asked for. -/
theorem updateReason_veiled (eng : Engages K) (reason : StopReason) :
    Veiled K D (updateSession fun s => { s with pendingReason := reason }) :=
  updateSame_veiled eng ⟨fun _ _ => rfl, fun _ => rfl, fun _ => rfl, fun _ => le_rfl⟩ fun _ => rfl

theorem reportStep_veiled (eng : Engages K) (requestId : UInt32) (stop : StopDetect)
    (userStep : Bool) :
    Veiled K StatusField (reportStep requestId stop userStep) :=
  .bind (respond_veiled eng _ _ _) fun _ => .bind (enterHalted_veiled eng _) fun _ =>
    .ite (fun _ => .bind (updateReason_veiled eng _) fun _ => emitPendingStopped_veiled eng)
      fun _ => emitPendingStopped_veiled eng

theorem opRun_veiled (eng : Engages K) (requestId : UInt32) (payload : List UInt8) :
    Veiled K StatusField (opRun requestId payload) := by
  apply getSession_engaged eng (fun _ _ _ _ => rfl)
  intro s _
  cases checkRun s payload with
  | error status => exact respond_veiled eng _ _ _
  | ok plan =>
    apply Action.Keeping.bind (installRun_veiled eng plan)
    intro installed
    cases installed with
    | some status => exact failRun_veiled eng _ _
    | none =>
      apply Action.Keeping.bind (executeStepOver_veiled eng _)
      intro outcome
      cases outcome with
      | failed =>
        exact .bind (rollbackRunConfig_veiled eng) fun _ => .ite (fun _ => respond_veiled eng _ _ _)
          fun _ => .bind (respond_veiled eng _ _ _) fun _ => enterLost_veiled eng _
      | failedLost reason => exact .bind (respond_veiled eng _ _ _) fun _ => enterLost_veiled eng _
      | stoppedStep stop => exact reportStep_veiled eng _ _ _
      | stoppedReal stop => exact reportStep_veiled eng _ _ _
      | notNeeded => exact resumeRun_veiled eng _ _
      | stepped => exact resumeRun_veiled eng _ _

theorem opHalt_veiled (eng : Engages K) (requestId : UInt32) (payload : List UInt8) :
    Veiled K StatusField (opHalt requestId payload) := by
  apply Action.Keeping.ite (fun _ => .bind (respond_veiled eng _ _ _) fun _ => .pure _)
  intro _
  apply getSession_veiled (fun _ _ => rfl)
  intro s _
  exact .ite (fun _ => .bind (respond_veiled eng _ _ _) fun _ => .pure _) fun _ =>
    .ite (fun _ => .bind (respond_veiled eng _ _ _) fun _ => .bind (emitPendingStopped_veiled eng)
      fun _ => .pure _)
      fun _ => .bind (backend_veiled _) fun _ =>
        .ite (fun _ => .bind (sendBackendFailure_veiled eng _ _ _ _) fun _ => .pure _) fun _ =>
          .bind (enterHalted_veiled eng _) fun _ => .bind (respond_veiled eng _ _ _) fun _ =>
            emitPendingStopped_veiled eng

theorem prepareReset_veiled (eng : Engages K) (opcode : UInt16) (requestId : UInt32) :
    Veiled K StatusField (prepareReset opcode requestId) := by
  have rolled : Veiled K StatusField (do
      if !(← rollbackRunConfig) then
        respond opcode requestId .swdError
        enterLost .swdFault
        return false
      return true) :=
    .bind (rollbackRunConfig_veiled eng) fun _ =>
      .ite (fun _ => .bind (respond_veiled eng _ _ _) fun _ => .bind (enterLost_veiled eng _)
        fun _ => .pure _)
        fun _ => .pure _
  apply getSession_veiled (fun _ _ => rfl)
  intro s _
  exact .ite (fun _ => .bind (backend_veiled _) fun _ =>
    .ite (fun _ => .bind (sendBackendFailure_veiled eng _ _ _ _) fun _ => .pure _) fun _ =>
      .bind (enterHalted_veiled eng _) fun _ => rolled) fun _ => rolled

theorem resetFailed_veiled (eng : Engages K) (opcode : UInt16) (requestId : UInt32)
    (result : EspErr) :
    Veiled K StatusField (resetFailed opcode requestId result) :=
  .bind (respond_veiled eng _ _ _) fun _ => enterLost_veiled eng _

theorem opResetHalt_veiled (eng : Engages K) (requestId : UInt32) (payload : List UInt8) :
    Veiled K StatusField (opResetHalt requestId payload) := by
  have cleared : Veiled K StatusField (updateSession fun s => s.clearDebugState.clearRunTracking) :=
    updateSame_veiled eng ⟨fun _ _ => rfl, fun _ => rfl, fun _ => rfl, fun _ =>
      Nat.zero_le _⟩ fun _ => rfl
  apply getSession_engaged eng (fun _ _ _ _ => rfl)
  intro s _
  cases checkReset s Cap.resetHalt payload with
  | error status => exact respond_veiled eng _ _ _
  | ok kind =>
    exact .bind (prepareReset_veiled eng _ _) fun _ => .ite (fun _ => .pure _) fun _ =>
      .bind (backend_veiled _) fun _ =>
        .ite (fun _ => .bind (resetFailed_veiled eng _ _ _) fun _ => .pure _) fun _ =>
          .bind cleared fun _ => .bind (enterHalted_veiled eng _) fun _ =>
            .bind (updateReason_veiled eng _) fun _ => .bind (respond_veiled eng _ _ _) fun _ =>
            emitPendingStopped_veiled eng

theorem opResetRun_veiled (eng : Engages K) (requestId : UInt32) (payload : List UInt8) :
    Veiled K StatusField (opResetRun requestId payload) := by
  have running : Veiled K StatusField
      (updateSession fun s => { s.clearDebugState.clearRunTracking with state := .running }) :=
    updateState_veiled eng ⟨fun _ _ => rfl, fun _ => rfl, fun _ => rfl, fun _ => Nat.zero_le _⟩
      fun _ => (by decide : TargetState.running ≠ .detached)
  apply getSession_engaged eng (fun _ _ _ _ => rfl)
  intro s _
  cases checkReset s Cap.resetRun payload with
  | error status => exact respond_veiled eng _ _ _
  | ok kind =>
    exact .bind (prepareReset_veiled eng _ _) fun _ => .ite (fun _ => .pure _) fun _ =>
      .bind (backend_veiled _) fun _ =>
        .ite (fun _ => .bind (resetFailed_veiled eng _ _ _) fun _ => .pure _) fun _ =>
          .bind running fun _ => respond_veiled eng _ _ _

theorem handlePoll_veiled (eng : Engages K) : Veiled K StatusField handlePoll :=
  getSession_veiled (fun _ _ => rfl) fun _ _ => .ite (fun _ => .pure _) fun _ => pollStop_veiled eng

end SidpClient
