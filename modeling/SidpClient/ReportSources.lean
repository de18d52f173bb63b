import SidpClient.FrameContents
import SidpClient.StopSnapshots

/-! Where the contents of a report come from: the request it answers and the calls made before
it. -/
namespace SidpClient
open LittleEndian Interactive

/-! Register blobs. -/

/-- A register blob as the session passes it on: with a step-over pending, its address stands for
the PC. -/
def normalizedBlob (s : Session) (blob : List UInt8) : List UInt8 :=
  (normalizePcInRegisterBlob s (getU8 blob) 0 blob.length).read 0 blob.length

variable {s s' : Session} {h h' evs : SessionHistory} {buffer buffer' : Buffer} {base size : ℕ}
  {data : List UInt8}

theorem normalizePc_behind (s : Session) (buffer : Buffer) (base size : ℕ) :
    (fun i => normalizePcInRegisterBlob s buffer base size (base + i)) =
      normalizePcInRegisterBlob s (fun i => buffer (base + i)) 0 size := by
  rw [normalizePcInRegisterBlob, normalizePcInRegisterBlob]
  simp only [Nat.zero_add]
  split
  · rfl
  · cases findRegister (fun i => buffer (base + i)) size armRegPc with
    | none => rfl
    | some entry =>
      have place : base + entry.offset + registerValueSize = base +
          (entry.offset + registerValueSize) := by omega
      simp only [place]
      exact write_behind buffer base _ _

theorem normalizePc_congr (s : Session) (same : ∀ i, i < size → buffer' i = buffer i) {i : ℕ}
    (hi : i < size) :
    normalizePcInRegisterBlob s buffer' 0 size i = normalizePcInRegisterBlob s buffer 0 size i := by
  have found : findRegister buffer' size armRegPc = findRegister buffer size armRegPc :=
    findRegister_congr same
  rw [normalizePcInRegisterBlob, normalizePcInRegisterBlob]
  simp only [Nat.zero_add, found]
  split
  · exact same i hi
  · cases findRegister buffer size armRegPc with
    | none => exact same i hi
    | some entry => simp only [Buffer.write, same i hi]

theorem write_apply_taken {b : Buffer} {capacity i : ℕ} (hi : i < capacity)
    (given : i < data.length) :
    b.write base (data.take capacity) (base + i) = getU8 data i := by
  have inside : base ≤ base + i ∧ base + i < base + (data.take capacity).length := by
    rw [List.length_take]
    omega
  have place : base + i - base = i := by omega
  simp only [Buffer.write, if_pos inside, place, getU8, List.getD_eq_getElem?_getD,
    List.getElem?_take, if_pos hi]

/-- What a call wrote into a buffer, read back after normalization. -/
theorem normalizedBlob_written (s : Session) {b : Buffer} {capacity : ℕ} (base : ℕ)
    (fits : size ≤ capacity) (given : size ≤ data.length) :
    (normalizePcInRegisterBlob s (b.write base (data.take capacity)) base size).read base size =
      normalizedBlob s (data.take size) := by
  have length : (data.take size).length = size := by
    rw [List.length_take]
    exact Nat.min_eq_left given
  have bytes (i : ℕ) (hi : i < size) : b.write base (data.take capacity) (base + i) = getU8
      (data.take size) i := by
    rw [write_apply_taken (by omega) (by omega)]
    simp only [getU8, List.getD_eq_getElem?_getD, List.getElem?_take, if_pos hi]
  have behind := normalizePc_behind s (b.write base (data.take capacity)) base size
  rw [normalizedBlob, length]
  apply List.map_congr_left
  intro i hi
  have inside := List.mem_range.mp hi
  rw [Nat.zero_add, ← normalizePc_congr s bytes inside]
  exact congrFun behind i

/-! The reads behind a STOPPED event. -/

/-- A successful register read that claims no more than it was allowed gave whole entries, as many
bytes as it says. -/
def WellFormedRead : SessionEvent → Prop
  | ⟨.call _ (.readRegs _ capacity), a⟩ =>
    a.code = .ok → a.outSize ≤ capacity → a.outSize ≤ a.data.length ∧ Tiles (getU8 a.data) a.outSize
  | _ => True

abbrev Trusted (h : SessionHistory) : Prop := ∀ ev ∈ h, WellFormedRead ev

/-- The register read of a stop with the session it was made in, and the stack read behind it. -/
structure SnapshotReads where
  session : Session
  registers : Answer
  stack : Option ((UInt64 × ℕ) × Answer) := none

def lastSnapshotCall (last : Option SnapshotReads) (s : Session) (c : Call) (a : Answer) :
    Option SnapshotReads :=
  match c with
  | .attach _ => none
  | .readRegs _ capacity => if capacity = snapshotBlobCapacity then some
      { session := s, registers := a } else last
  | .readMem .stack address size _ => last.map fun x =>
      { x with stack := some ((address, size), a) }
  | _ => last

def lastSnapshotStep (last : Option SnapshotReads) : SessionEvent → Option SnapshotReads
  | ⟨.call s c, a⟩ => lastSnapshotCall last s c a
  | ⟨.offer _, _⟩ => last

/-- The last snapshot since the last attach. -/
def lastSnapshot (h : SessionHistory) : Option SnapshotReads := view lastSnapshotStep none h

namespace SnapshotReads

/-- The register bytes a snapshot yields. A read that failed or claims too much yields none. -/
def blob (x : SnapshotReads) : List UInt8 :=
  if x.registers.code = .ok ∧ x.registers.outSize ≤ snapshotBlobCapacity then
    normalizedBlob x.session (x.registers.data.take x.registers.outSize)
  else []

/-- The stack bytes a snapshot yields: those of the window, where the backend wrote them all. -/
def ShowsStack (x : SnapshotReads) (address : UInt64) (stack : List UInt8) : Prop :=
  match x.stack with
  | none => stack = []
  | some ((start, size), a) =>
    if a.code = .ok then
      address = start ∧ stack.length = size ∧ (size ≤ a.data.length → stack = a.data.take size)
    else stack = []

end SnapshotReads

/-- Registers and stack are those of the snapshot of this stop. Without one there are none. -/
def Shown (last : Option SnapshotReads) (stopId : UInt32) (registers : List UInt8)
    (address : UInt64) (stack : List UInt8) : Prop :=
  match last with
  | none => registers = [] ∧ stack = []
  | some x => x.session.stopId = stopId ∧ registers = x.blob ∧ x.ShowsStack address stack

/-- What a report says is what was asked for and what the backend returned. -/
def Backed (i : Input) (h : SessionHistory) : Report → Prop
  | .attached _ info => ∃ given, lastAttach h = some ⟨given, none⟩ ∧
      info = normalizeAttachInfo given
  | .memory requestId address data =>
    ∃ message, i = .request message ∧ (MsgHeader.parse message).requestId = requestId ∧
      address = (MemoryRequest.parse (message.drop headerSize)).address ∧
      data.length = (MemoryRequest.parse (message.drop headerSize)).length.toNat ∧
      ∃ h' s access width a, h = h' ++ [⟨.call s (.readMem access address data.length width), a⟩] ∧
        a.code = .ok ∧
          (data.length ≤ a.data.length → data = swBpSubstituteRead s.swTable address
          (a.data.take data.length))
  | .registers _ stopId values =>
    ∃ h' s ids a, h = h' ++ [⟨.call s (.readRegs ids registerBlobCapacity), a⟩] ∧ a.code = .ok ∧
      stopId = s.stopId ∧ registerBytes values = normalizedBlob s (a.data.take a.outSize)
  | .stopped stop values stack =>
    Shown (lastSnapshot h) stop.stopId (registerBytes values) stop.stackAddress stack
  | _ => True

/-! How the snapshot changes. -/

/-- A call that takes part in a snapshot, or ends what was before. -/
def Call.snapshots : Call → Bool
  | .attach _ => true
  | .readRegs _ capacity => capacity == snapshotBlobCapacity
  | .readMem .stack _ _ _ => true
  | _ => false

theorem lastSnapshot_call {s₁ : Session} {c : Call} {a : Answer} :
    lastSnapshot (h ++ [⟨.call s₁ c, a⟩]) = lastSnapshotCall (lastSnapshot h) s₁ c a := view_concat

theorem lastSnapshot_offer {f : List UInt8} {accepted : Bool} :
    lastSnapshot (h ++ [⟨.offer f, accepted⟩]) = lastSnapshot h := view_concat

theorem lastSnapshot_other {s₁ : Session} {c : Call} {a : Answer} (other : c.snapshots = false) :
    lastSnapshot (h ++ [⟨.call s₁ c, a⟩]) = lastSnapshot h := by
  rw [lastSnapshot_call]
  cases c with
  | attach params => exact absurd other (by simp [Call.snapshots])
  | readRegs ids capacity =>
    have larger : capacity ≠ snapshotBlobCapacity := by simpa [Call.snapshots] using other
    exact if_neg larger
  | readMem access address size width =>
    cases access with
    | stack => exact absurd other (by simp [Call.snapshots])
    | _ => rfl
  | _ => rfl

/-- A snapshot that was taken is the last one, and the session holds what it shows. -/
theorem SnapshotTaken.shown (taken : SnapshotTaken s s' evs)
    (empty : s.pendingRegistersSize = 0 ∧ s.pendingStackSize = 0)
    (trusted : Trusted evs)
    (unsupported : s.hasCapability Cap.stopSnapshot = false → lastSnapshot h = Option.none) :
    Shown (lastSnapshot (h ++ evs)) s'.stopId (s'.pendingRegisters.read 0 s'.pendingRegistersSize)
      s'.pendingStackAddress
        (s'.pendingRegisters.read s'.pendingRegistersSize s'.pendingStackSize) := by
  obtain ⟨noRegisters, noStack⟩ := empty
  have first (a : Answer) : lastSnapshot (h ++ [readRegistersEvent s a]) = some
      { session := s, registers := a } := by
    rw [readRegistersEvent, lastSnapshot_call, lastSnapshotCall, if_pos rfl]
  have nothing (b : Buffer) (i : ℕ) : b.read i 0 = [] := rfl
  have blob (a : Answer) (ok : a.code = .ok) (fits : a.outSize ≤ snapshotBlobCapacity)
      (hm : readRegistersEvent s a ∈ evs) :
      (s.withRegisters a).pendingRegisters.read 0 a.outSize =
        SnapshotReads.blob { session := s, registers := a } := by
    rw [SnapshotReads.blob, if_pos ⟨ok, fits⟩]
    exact normalizedBlob_written s 0 fits (trusted _ hm ok fits).1
  -- one case per place where the capture gives up
  cases taken with
  | none missing =>
    rw [List.append_nil, unsupported missing, noRegisters, noStack]
    exact ⟨nothing _ _, nothing _ _⟩
  | unread a failed =>
    rw [first]
    refine ⟨rfl, ?_, ?_⟩
    · rw [SnapshotReads.blob, if_neg failed]
      show (s.received a).pendingRegisters.read 0 s.pendingRegistersSize = []
      rw [noRegisters]
      exact nothing _ _
    · show (s.received a).pendingRegisters.read _ s.pendingStackSize = []
      rw [noStack]
      exact nothing _ _
  | registers a ok fits window =>
    rw [first]
    refine ⟨rfl, blob a ok fits List.mem_cons_self, ?_⟩
    show (s.withRegisters a).pendingRegisters.read _ s.pendingStackSize = []
    rw [noStack]
    exact nothing _ _
  | stack a ok fits start size window b =>
    have second : lastSnapshot (h ++ [readRegistersEvent s a,
        ⟨.call (s.withRegisters a) (.readMem .stack start size MemWidth.default), b⟩]) =
          some { session := s, registers := a, stack := some ((start, size), b) } := by
      rw [List.append_cons, lastSnapshot_call, first]
      rfl
    -- the stack goes behind the registers and leaves them
    have kept : ((s.withRegisters a).pendingRegisters.write a.outSize (b.data.take size)).read 0
        a.outSize = (s.withRegisters a).pendingRegisters.read 0 a.outSize :=
      Buffer.read_write_of_disjoint _ _ _ _ _ (Or.inl (by omega))
    rw [second]
    by_cases hb : b.code = .ok
    · have whole : (s.withRegisters a).withStack start size b =
          { s.withRegisters a with
            pendingRegisters := (s.withRegisters a).pendingRegisters.write a.outSize
              (b.data.take size)
            pendingStackAddress := start
            pendingStackSize := size } := if_pos hb
      rw [whole]
      refine ⟨rfl, kept.trans (blob a ok fits List.mem_cons_self), ?_⟩
      simp only [SnapshotReads.ShowsStack, if_pos hb]
      refine ⟨trivial, Buffer.read_length _ _ _, fun all => ?_⟩
      have length : (b.data.take size).length = size := by
        rw [List.length_take]
        exact Nat.min_eq_left all
      have written := Buffer.read_write_self (s.withRegisters a).pendingRegisters a.outSize
          (b.data.take size)
      rw [length] at written
      exact written
    · have whole : (s.withRegisters a).withStack start size b =
          { s.withRegisters a with
            pendingRegisters :=
              (s.withRegisters a).pendingRegisters.write a.outSize (b.data.take size) } := if_neg hb
      rw [whole]
      refine ⟨rfl, kept.trans (blob a ok fits List.mem_cons_self), ?_⟩
      simp only [SnapshotReads.ShowsStack, if_neg hb]
      show Buffer.read _ _ s.pendingStackSize = []
      rw [noStack]
      exact nothing _ _

end SidpClient
