import SidpClient.ReportedPc
import SidpClient.StopAgreement

/-! What a STOPPED frame says of a stop as it was classified, and the step-over the session keeps
for it. -/
namespace SidpClient
open LittleEndian Interactive

variable {s s' s₁ : Session} {h h' h₀ evs : SessionHistory} {f : List UInt8} {stop : StopDetect}
  {hit : StopClass} {req : RunRequest} {ids : List UInt32} {requestId : UInt32}
  {payload : List UInt8}

/-! The PC in the frame. -/

def stoppedStackLength (f : List UInt8) : ℕ := (getU16 f (headerSize + 26)).toNat

/-- The PC of the register entries behind the fixed part. -/
def stoppedFramePc (f : List UInt8) : Option UInt32 :=
  reportedPc (fun i => getU8 f (headerSize + stoppedEventSize + i))
    (f.length - (headerSize + stoppedEventSize) - stoppedStackLength f)

theorem StoppedFrame.stackLength (hf : StoppedFrame s f) (fits : SnapshotFits s) :
    stoppedStackLength f = s.pendingStackSize := by
  have h2 (v : UInt16) : (le16 v).length = 2 := le16_length v
  have h4 (v : UInt32) : (le32 v).length = 4 := le32_length v
  have h8 (v : UInt64) : (le64 v).length = 8 := le64_length v
  have read : slice (stoppedEventBytes s) 26 2 = le16 (UInt16.ofNat s.pendingStackSize) := by
    simp [stoppedEventBytes, slice, List.drop_append, List.drop_of_length_le, h2, h4, h8,
      List.take_left']
  have small : s.pendingStackSize < 2 ^ 16 := by
    have total : s.pendingRegistersSize + s.pendingStackSize ≤ 8144 := fits
    omega
  rw [stoppedStackLength, getU16, show headerSize + 26 = 12 + 26 from rfl,
    slice_of_slice 26 2 (by decide) hf.fixed, read, ofNat_leNat_le16, UInt16.toNat_ofNat',
      Nat.mod_eq_of_lt small]

/-- The frame reports the PC of the recorded registers. -/
theorem StoppedFrame.pc (hf : StoppedFrame s f) (fits : SnapshotFits s) :
    stoppedFramePc f = reportedPc s.pendingRegisters s.pendingRegistersSize := by
  have size : f.length - (headerSize + stoppedEventSize) - stoppedStackLength
      f = s.pendingRegistersSize := by
    rw [hf.stackLength fits, hf.length]
    simp only [headerSize, stoppedEventSize]
    omega
  rw [stoppedFramePc, size]
  apply reportedPc_congr
  intro i hi
  have byte : getU8 (slice f 48 s.pendingRegistersSize) i =
      getU8 (s.pendingRegisters.read 0 s.pendingRegistersSize) i :=
        congrArg (getU8 · i) hf.registers
  rw [getU8_slice _ _ _ _ hi, Buffer.getU8_read _ _ _ hi] at byte
  exact byte

/-! What is recorded of a stop. -/

/-- The session holds the report of a stop classified so, and the step-over it asks for. -/
structure Recorded (hit : StopClass) (s : Session) : Prop where
  reason : s.pendingReason = hit.reason
  breakpoint : s.pendingBreakpointId = hit.breakpointId
  watchpoint : s.pendingWatchpointAddress = hit.watchpointAddress
  pending : s.swStepOverPending = hit.stepOver.isSome
  address : s.swStepOverAddress = hit.stepOver.getD 0
  pc : ∀ address, hit.stepOver = some address →
    ∀ pc, reportedPc s.pendingRegisters s.pendingRegistersSize = some pc → pc = address.toUInt32
  fits : SnapshotFits s

theorem Recorded.framed (hr : Recorded hit s) (b : Buffer) (n : ℕ) (dead : Bool) :
    Recorded hit (s.framed b n dead) :=
  ⟨hr.reason, hr.breakpoint, hr.watchpoint, hr.pending, hr.address, hr.pc, hr.fits⟩

/-- The registers of a snapshot report the address of a pending step-over for a PC. -/
theorem SnapshotTaken.pc (taken : SnapshotTaken s s' evs) (empty : s.pendingRegistersSize = 0)
    (pending : s.swStepOverPending = true) {pc : UInt32}
    (reported : reportedPc s'.pendingRegisters s'.pendingRegistersSize = some pc) :
    pc = s.swStepOverAddress.toUInt32 := by
  have nothing (blob : Buffer) : reportedPc blob 0 = Option.none := rfl
  have normalized (a : Answer) {pc : UInt32}
      (hpc : reportedPc (s.withRegisters a).pendingRegisters a.outSize = some pc) :
      pc = s.swStepOverAddress.toUInt32 := by
    have whole := reportedPc_normalized s (s.received a).pendingRegisters 0 a.outSize
    simp only [Nat.zero_add] at whole
    rw [Session.withRegisters, whole] at hpc
    obtain ⟨old, -, he⟩ := Option.map_eq_some_iff.mp hpc
    rw [if_pos pending] at he
    exact he.symm
  cases taken with
  | none =>
    rw [empty, nothing] at reported
    exact absurd reported (by simp)
  | unread a failed =>
    rw [show (s.received a).pendingRegistersSize = 0 from empty, nothing] at reported
    exact absurd reported (by simp)
  | registers a ok fits window => exact normalized a reported
  | stack a ok fits start size window b =>
    apply normalized a
    rw [← reported]
    -- the stack goes behind the registers
    have behind (i : ℕ) (hi : i < a.outSize) :
        ((s.withRegisters a).withStack start size b).pendingRegisters i =
          (s.withRegisters a).pendingRegisters i := by
      simp only [Session.withStack]
      split
      · exact Buffer.write_apply_of_not_mem _ _ _ _ (Or.inl hi)
      · exact Buffer.write_apply_of_not_mem _ _ _ _ (Or.inl hi)
    have same : ((s.withRegisters a).withStack start size b).pendingRegistersSize = a.outSize := by
      simp only [Session.withStack]
      split
      · rfl
      · rfl
    rw [same]
    exact (reportedPc_congr behind).symm

theorem SnapshotTaken.recorded (taken : SnapshotTaken (s.stopRecorded stop) s' evs)
    (name : StopReason → StopReason) :
    Recorded { classifyStop s stop with reason := name (classifyStop s stop).reason }
      { s' with pendingReason := name s'.pendingReason } := by
  have frame := taken.frame
  have fits : SnapshotFits { s' with pendingReason := name s'.pendingReason } :=
    taken.fits ⟨rfl, rfl⟩
  have pc (address : UInt64) (asked : (classifyStop s stop).stepOver = some address) (pc : UInt32)
      (reported : reportedPc s'.pendingRegisters s'.pendingRegistersSize = some pc) :
      pc = address.toUInt32 := by
    have pending : (s.stopRecorded stop).swStepOverPending = true := by
      show (classifyStop s stop).stepOver.isSome = true
      rw [asked]
      rfl
    have placed : (s.stopRecorded stop).swStepOverAddress = address := by
      show (classifyStop s stop).stepOver.getD 0 = address
      rw [asked]
      rfl
    rw [← placed]
    exact taken.pc rfl pending reported
  rw [frame] at fits pc ⊢
  exact ⟨rfl, rfl, rfl, rfl, rfl, pc, fits⟩

/-! Stops and the frames that report them. -/

/-- Every STOPPED frame offered since a history is about the last halt observed, and of it `C`
holds. -/
def StopsSince (h₀ : SessionHistory) (C : StopDetect → List UInt8 → Prop)
    (h : SessionHistory) : Prop :=
  EveryOffer (fun h f => h₀ <+: h → isStopped f = true → ∃ report, haltView h = some report ∧
    C report.stop f) h

/-- No stop was reported. -/
abbrev Unstopped (h₀ h : SessionHistory) : Prop := StopsSince h₀ (fun _ _ => False) h

theorem Unstopped.start (h : SessionHistory) : Unstopped h h := EveryOffer.start h

theorem StopsSince.mono {C C' : StopDetect → List UInt8 → Prop} (hs : StopsSince h₀ C h)
    (hC : ∀ stop f, C stop f → C' stop f) : StopsSince h₀ C' h := by
  refine EveryOffer.mono hs fun h₁ f told later stopped => ?_
  obtain ⟨report, seen, allowed⟩ := told later stopped
  exact ⟨report, seen, hC _ _ allowed⟩

theorem Unstopped.stops {C : StopDetect → List UInt8 → Prop} (hu : Unstopped h₀ h) :
    StopsSince h₀ C h :=
  hu.mono fun _ _ => False.elim

theorem StopsSince.offer {C : StopDetect → List UInt8 → Prop} {accepted : Bool}
    (hs : StopsSince h₀ C h)
    (hC : isStopped f = true → ∃ report, haltView h = some report ∧ C report.stop f) :
    StopsSince h₀ C (h ++ [⟨.offer f, accepted⟩]) := EveryOffer.offer hs fun _ => hC

theorem Unstopped.call (hu : Unstopped h₀ h) {c : Call} {a : Answer} :
    Unstopped h₀ (h ++ [⟨.call s c, a⟩]) :=
  EveryOffer.call hu

theorem Offered.unstopped {P : List UInt8 → Prop} {dead : Bool} (ho : Offered s P dead evs)
    (hu : Unstopped h₀ h) (hP : ∀ f, P f → isStopped f = false) : Unstopped h₀ (h ++ evs) := by
  rcases ho with ⟨-, -, rfl⟩ | ⟨-, f, accepted, hf, -, rfl⟩
  · rwa [List.append_nil]
  · exact EveryOffer.offer hu fun _ stopped => absurd ((hP f hf).symm.trans stopped)
      Bool.false_ne_true

theorem Offered.haltView {P : List UInt8 → Prop} {dead : Bool} (ho : Offered s P dead evs)
    (hP : ∀ f, P f → isStopped f = false) : haltView (h ++ evs) = haltView h := by
  rcases ho with ⟨-, -, rfl⟩ | ⟨-, f, accepted, hf, -, rfl⟩
  · rw [List.append_nil]
  · rw [haltView_offer, hP f hf]
    rfl

theorem SnapshotTaken.unstopped (taken : SnapshotTaken s s' evs) (hu : Unstopped h₀ h) :
    Unstopped h₀ (h ++ evs) := by
  apply EveryOffer.calls hu
  intro ev hm
  obtain ⟨s₁, c, a, he, -⟩ := taken.reads ev hm
  exact ⟨s₁, c, a, he⟩

theorem SnapshotTaken.haltView (taken : SnapshotTaken s s' evs) :
    haltView (h ++ evs) = haltView h := by
  apply view_append_of_blind
  intro ev hm last
  obtain ⟨s₁, c, a, rfl, moves⟩ := taken.reads ev hm
  cases c with
  | readRegs | writeRegs | readMem | writeMem => rfl
  | _ => exact absurd moves Bool.false_ne_true

/-- What a STOPPED frame says, and the session it leaves. -/
structure Told (hit : StopClass) (f : List UInt8) (s' : Session) : Prop where
  carries : Carries f hit
  pc : ∀ address, hit.stepOver = some address → ∀ pc, stoppedFramePc f = some pc →
    pc = address.toUInt32
  pending : s'.swStepOverPending = hit.stepOver.isSome
  address : s'.swStepOverAddress = hit.stepOver.getD 0

theorem emitPendingStopped_told (hr : Recorded hit s) (before : Unstopped h₀ h)
    (seen : haltView h = some ⟨stop, []⟩) : emitPendingStopped.wp s h fun _ s' h' =>
      s'.swTable = s.swTable ∧ s'.state = s.state ∧
        StopsSince h₀ (fun stop' f => stop' = stop ∧ Told hit f s') h' := by
  simp only [emitPendingStopped, Action.wp_bind, getSession_wp, Action.wp_ite, Action.wp_pure]
  refine ⟨fun _ => ⟨trivial, trivial, before.stops⟩, fun _ => ?_⟩
  apply sendStopped_wp hr.fits
  intro b n dead evs sent
  refine ⟨rfl, rfl, ?_⟩
  rcases sent with ⟨-, -, rfl⟩ | ⟨-, f, accepted, hf, -, rfl⟩
  · rw [List.append_nil]
    exact before.stops
  · have carries := hf.carries
    apply before.stops.offer
    intro _
    refine ⟨_, seen, rfl, ⟨carries.reason.trans ?_, carries.breakpoint.trans hr.breakpoint,
      carries.watchpoint.trans hr.watchpoint⟩, ?_, hr.pending, hr.address⟩
    · rw [Session.pendingClass, hr.reason]
    · intro address asked pc reported
      rw [hf.pc hr.fits] at reported
      exact hr.pc address asked pc reported

theorem respond_unstopped (opcode : UInt16) (status : Status) (before : Unstopped h₀ h) :
    (respond opcode requestId status).wp s h fun _ s' h' =>
      Unstopped h₀ h' ∧ haltView h' = haltView h ∧ ∃ b n dead, s' = s.framed b n dead := by
  apply respond_wp
  intro b dead evs sent
  exact ⟨sent.unstopped before fun f hf => hf.not_stopped, sent.haltView fun f hf => hf.not_stopped,
    b, 16, dead, rfl⟩

theorem enterLost_unstopped (reason : TargetLostReason) (before : Unstopped h₀ h) :
    (enterLost reason).wp s h fun _ s' h' => s'.swTable = s.swTable ∧ s'.state = .lost ∧
    Unstopped h₀ h' := by
  apply enterLost_wp
  · exact fun lost => ⟨rfl, lost, before⟩
  · intro _ b dead evs sent
    exact ⟨rfl, rfl, sent.unstopped before fun f hf => hf.not_stopped⟩

/-- A halt is recorded as it is classified, or there is nothing to report of it. -/
theorem enterHalted_recorded (stop : StopDetect) (before : Unstopped h₀ h) :
    (enterHalted stop).wp s h fun _ s₁ h₁ => s₁.swTable = s.swTable ∧ s₁.state ≠ .running ∧
      Unstopped h₀ h₁ ∧ (s₁.state = .halted → haltView h₁ = haltView h ∧
        ∀ name : StopReason → StopReason,
          Recorded { classifyStop s stop with reason := name (classifyStop s stop).reason }
            { s₁ with pendingReason := name s₁.pendingReason }) := by
  apply enterHalted_wp
  · intro lost
    refine ⟨rfl, by simp [lost], before, fun halted => ?_⟩
    exact absurd (lost.symm.trans halted) (by decide)
  · intro _ _ b dead evs sent
    refine ⟨rfl, by simp [Session.framed], sent.unstopped before fun f hf => hf.not_stopped,
      fun halted => ?_⟩
    exact absurd halted (by simp [Session.framed])
  · intro _ _ s₁ evs taken
    have frame := taken.frame
    refine ⟨?_, ?_, taken.unstopped before, fun _ => ⟨taken.haltView, taken.recorded⟩⟩
    · rw [frame]
      rfl
    · rw [frame]
      simp [Session.stopRecorded, Session.stoppedWith]

end SidpClient
