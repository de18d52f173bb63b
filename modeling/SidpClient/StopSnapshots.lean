import SidpClient.StopPipelineSpecs
import SidpClient.QuietPrograms

/-! What `enter_halted` records of a stop, exactly. -/
namespace SidpClient
open LittleEndian Interactive

variable {s s' : Session} {h evs : SessionHistory}

/-! The snapshot. -/

/-- The window a stack snapshot reads, if the recorded registers have a stack pointer in RAM. -/
def stackSnapshot (s : Session) : Option (UInt64 × ℕ) := do
  let entry ← findRegister s.pendingRegisters s.pendingRegistersSize armRegSp
  let sp := getU32 (s.pendingRegisters.read (entry.offset + registerValueSize) 4) 0
  let region ← stackRegion s.regions sp
  stackWindow region sp s.pendingRegistersSize

/-- The bytes a register read puts into the snapshot buffer. -/
def Session.received (s : Session) (a : Answer) : Session :=
  { s with pendingRegisters := s.pendingRegisters.write 0 (a.data.take snapshotBlobCapacity) }

/-- The register part of a snapshot. -/
def Session.withRegisters (s : Session) (a : Answer) : Session :=
  { s with
    pendingRegistersSize := a.outSize
    pendingRegisters := normalizePcInRegisterBlob s (s.received a).pendingRegisters 0 a.outSize }

/-- The stack part of a snapshot, behind the registers. -/
def Session.withStack (s : Session) (start : UInt64) (size : ℕ) (a : Answer) : Session :=
  let s := { s with
    pendingRegisters := s.pendingRegisters.write s.pendingRegistersSize (a.data.take size) }
  if a.code = .ok then { s with pendingStackAddress := start, pendingStackSize := size } else s

def readRegistersEvent (s : Session) (a : Answer) : SessionEvent :=
  ⟨.call s (.readRegs [] snapshotBlobCapacity), a⟩

/-- How a snapshot is taken, with the calls it makes. -/
inductive SnapshotTaken (s : Session) : Session → SessionHistory → Prop
  | none (unsupported : s.hasCapability Cap.stopSnapshot = false) : SnapshotTaken s s []
  | unread (a : Answer) (failed : ¬(a.code = .ok ∧ a.outSize ≤ snapshotBlobCapacity)) :
      SnapshotTaken s (s.received a) [readRegistersEvent s a]
  | registers (a : Answer) (ok : a.code = .ok) (fits : a.outSize ≤ snapshotBlobCapacity)
      (window : stackSnapshot (s.withRegisters a) = Option.none) :
      SnapshotTaken s (s.withRegisters a) [readRegistersEvent s a]
  | stack (a : Answer) (ok : a.code = .ok) (fits : a.outSize ≤ snapshotBlobCapacity)
      (start : UInt64) (size : ℕ)
      (window : stackSnapshot (s.withRegisters a) = some (start, size)) (b : Answer) :
      SnapshotTaken s ((s.withRegisters a).withStack start size b)
        [readRegistersEvent s a,
          ⟨.call (s.withRegisters a) (.readMem .stack start size MemWidth.default), b⟩]

theorem captureStackSnapshot_wp {Q : Unit → Session → SessionHistory → Prop}
    (skipped : stackSnapshot s = none → Q () s h)
    (taken : ∀ start size a, stackSnapshot s = some (start, size) →
      Q () (s.withStack start size a)
        (h ++ [⟨.call s (.readMem .stack start size MemWidth.default), a⟩])) :
    captureStackSnapshot.wp s h Q := by
  simp only [stackSnapshot, bind, Option.bind_eq_none_iff, Option.bind_eq_some_iff] at skipped taken
  simp only [captureStackSnapshot, Action.wp_bind, getSession_wp]
  cases entry : findRegister s.pendingRegisters s.pendingRegistersSize armRegSp with
  | none => exact skipped (by simp [entry])
  | some found =>
    simp only
    generalize sp : getU32 (s.pendingRegisters.read (found.offset + registerValueSize) 4) 0 = top
    cases region : stackRegion s.regions top with
    | none => exact skipped (by simp [entry, sp, region])
    | some ram =>
      simp only
      cases window : stackWindow ram top s.pendingRegistersSize with
      | none => exact skipped (by simp [entry, sp, region, window])
      | some range =>
        obtain ⟨start, size⟩ := range
        simp only [Action.wp_bind, backend_wp, updateSession_wp, Action.wp_ite, Action.wp_pure]
        intro a
        have done := taken start size a ⟨found, entry, ram, by rw [sp, region], by rw [sp, window]⟩
        rw [Session.withStack] at done
        refine ⟨fun failed => ?_, fun ok => ?_⟩
        · rwa [if_neg failed] at done
        · rwa [if_pos (not_not.mp ok)] at done

theorem captureSnapshot_wp {Q : Unit → Session → SessionHistory → Prop}
    (hQ : ∀ s' evs, SnapshotTaken s s' evs → (s.hasCapability Cap.stopSnapshot = false → evs = []) →
      Q () s' (h ++ evs)) : captureSnapshot.wp s h Q := by
  simp only [captureSnapshot, Action.wp_bind, getSession_wp, Action.wp_ite, Action.wp_pure,
    backend_wp, updateSession_wp]
  refine ⟨fun supported a => ?_, fun unsupported => ?_⟩
  · have reads (evs : SessionHistory) (missing : s.hasCapability Cap.stopSnapshot = false) :
        evs = [] :=
      absurd (supported.symm.trans missing) (by decide)
    refine ⟨fun read => ?_, fun failed => hQ _ _ (.unread a failed) (reads _)⟩
    apply captureStackSnapshot_wp
    · exact fun window => hQ _ _ (.registers a read.1 read.2 window) (reads _)
    · intro start size b window
      rw [List.append_assoc]
      exact hQ _ _ (.stack a read.1 read.2 start size window b) (reads _)
  · have done := hQ s [] (.none (Bool.eq_false_of_not_eq_true unsupported)) fun _ => rfl
    rwa [List.append_nil] at done

/-- The window leaves the registers their room. -/
theorem stackSnapshot_fits {start : UInt64} {size : ℕ}
    (window : stackSnapshot s = some (start, size))
    (fits : s.pendingRegistersSize ≤ snapshotBlobCapacity) :
    s.pendingRegistersSize + size ≤ snapshotBlobCapacity := by
  obtain ⟨entry, -, window⟩ := Option.bind_eq_some_iff.mp window
  obtain ⟨region, found, window⟩ := Option.bind_eq_some_iff.mp window
  have bound := (stackWindow_some (stackRegion_some found).2.2.2 window).2
  omega

/-- Nothing but the snapshot changes. -/
theorem SnapshotTaken.frame (taken : SnapshotTaken s s' evs) : s' =
    { s with
      pendingRegisters := s'.pendingRegisters
      pendingRegistersSize := s'.pendingRegistersSize
      pendingStackAddress := s'.pendingStackAddress
      pendingStackSize := s'.pendingStackSize } := by
  cases taken with
  | none | unread | registers => rfl
  | stack a ok fits start size window b =>
    simp only [Session.withStack]
    split <;> rfl

theorem SnapshotTaken.fits (taken : SnapshotTaken s s' evs)
    (empty : s.pendingRegistersSize = 0 ∧ s.pendingStackSize = 0) : SnapshotFits s' := by
  obtain ⟨noRegisters, noStack⟩ := empty
  have start : SnapshotFits s := by
    rw [SnapshotFits, noRegisters, noStack]
    exact Nat.zero_le _
  cases taken with
  | none => exact start
  | unread => exact start
  | registers a ok fits window =>
    show a.outSize + s.pendingStackSize ≤ snapshotBlobCapacity
    omega
  | stack a ok fits start size window b =>
    have room := stackSnapshot_fits window fits
    simp only [Session.withStack]
    split
    · exact room
    · show a.outSize + s.pendingStackSize ≤ snapshotBlobCapacity
      omega

/-- A snapshot only reads. -/
theorem SnapshotTaken.reads (taken : SnapshotTaken s s' evs) :
    ∀ ev ∈ evs, ∃ s c a, ev = ⟨.call s c, a⟩ ∧ c.movesData = true := by
  cases taken with
  | none => exact fun ev hm => absurd hm List.not_mem_nil
  | unread a =>
    intro ev hm
    rw [List.mem_singleton.mp hm]
    exact ⟨_, _, _, rfl, rfl⟩
  | registers a =>
    intro ev hm
    rw [List.mem_singleton.mp hm]
    exact ⟨_, _, _, rfl, rfl⟩
  | stack a ok fits start size window b =>
    intro ev hm
    rcases List.mem_cons.mp hm with rfl | hm
    · exact ⟨_, _, _, rfl, rfl⟩
    · rw [List.mem_singleton.mp hm]
      exact ⟨_, _, _, rfl, rfl⟩

theorem SnapshotTaken.quiet (taken : SnapshotTaken s s' evs) : QuietHistory h (h ++ evs) := by
  refine ⟨evs, rfl, fun ev hm => ?_⟩
  obtain ⟨_, c, _, rfl, moves⟩ := taken.reads ev hm
  cases c with
  | attach | detach | reset | resume => exact nomatch moves
  | _ => exact rfl

/-! The stop. -/

/-- What a halt records of its stop before the snapshot. -/
def Session.stopRecorded (s : Session) (stop : StopDetect) : Session :=
  (s.nextStop (classifyStop s stop)).stoppedWith stop (classifyStop s stop)

theorem enterHalted_wp {stop : StopDetect} {Q : Unit → Session → SessionHistory → Prop}
    (lost : s.state = .lost → Q () s h)
    (wrap : s.state ≠ .lost → s.stopId + 1 = 0 → ∀ b dead evs,
      Offered s (LostFrame .timeout) dead evs →
        Q () ({ s.nextStop (classifyStop s stop) with state := .lost }.framed b 20 dead) (h ++ evs))
    (halt : s.state ≠ .lost → s.stopId + 1 ≠ 0 → ∀ s' evs,
      SnapshotTaken (s.stopRecorded stop) s' evs → Q () s' (h ++ evs)) :
    (enterHalted stop).wp s h Q := by
  simp only [enterHalted, Action.wp_bind, getSession_wp, Action.wp_ite, Action.wp_pure,
    updateSession_wp]
  refine ⟨lost, fun live => ⟨fun zero => ?_, fun next => ?_⟩⟩
  · apply enterLost_wp
    · exact fun gone => absurd gone live
    · exact fun _ b dead evs sent => wrap live zero b dead evs sent
  · exact captureSnapshot_wp fun s' evs taken _ => halt live next s' evs taken

end SidpClient
