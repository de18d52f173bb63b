import SidpClient.AccessRules
import SidpClient.AttachReports

/-! READ_MEMORY and WRITE_MEMORY reach the backend exactly where section 9 admits them. -/
namespace SidpClient
open LittleEndian Interactive

def memoryOp (isWrite : Bool) : RequestOp := if isWrite then .writeMemory else .readMemory

/-- The call with exactly the address, length and width of a request. -/
def AccessCall (isWrite : Bool) (req : MemoryRequest) (c : Call) : Prop :=
  if isWrite then ∃ data image : List UInt8, image.length = req.length.toNat ∧
    c = .writeMem (.request req.flags data) req.address image req.accessWidth
  else c = .readMem (.request req.flags []) req.address req.length.toNat req.accessWidth

/-- One error response and nothing else: only the frame buffer changes, and the latch where the sink
rejects the response. -/
def OnlyRefused (opcode : UInt16) (requestId : UInt32) (s : Session) (h : SessionHistory)
    (s' : Session) (h' : SessionHistory) : Prop :=
  ∃ status f b accepted, status ≠ Status.ok ∧ ResponseFrame opcode requestId status f ∧
    s' = s.framed b 16 (!accepted) ∧ h' = h ++ [⟨.offer f, accepted⟩]

/-- One call for an admitted request, and only a refusal for any other. -/
structure Admission (admitted : Prop) (isWrite : Bool) (requestId : UInt32) (req : MemoryRequest)
    (s : Session) (h : SessionHistory) (s' : Session) (h' : SessionHistory) : Prop where
  served : admitted → ∃ c a, AccessCall isWrite req c ∧ calls h' = calls h ++ [(c, a)]
  refused : ¬admitted → OnlyRefused (memoryOp isWrite).opcode requestId s h s' h'

variable {s : Session} {h : SessionHistory} {requestId : UInt32} {payload : List UInt8}

theorem respond_refused {opcode : UInt16} {status : Status} (error : status ≠ .ok)
    (alive : s.transportDead = false) :
    (respond opcode requestId status).wp s h fun _ s' h' =>
    OnlyRefused opcode requestId s h s' h' := by
  apply respond_wp
  intro b dead evs sent
  rcases sent with ⟨dead', -⟩ | ⟨-, f, accepted, frame, rfl, rfl⟩
  · exact absurd (alive.symm.trans dead') (by decide)
  · exact ⟨status, f, b, accepted, error, frame, rfl, rfl⟩

theorem opReadMemory_admission (alive : s.transportDead = false)
    (limit : s.maxMemoryTransfer.toNat ≤ maxMemoryTransferLimit) :
    (opReadMemory requestId payload).wp s h fun _ => Admission
      (AccessAdmitted s.regions s.maxMemoryTransfer.toNat s.state s.stopId payload false) false
      requestId
      (MemoryRequest.parse payload) s h := by
  rw [opReadMemory, Action.wp_bind, getSession_wp]
  cases hcheck : checkReadMemory s payload with
  | error status =>
    apply Action.wp_mono (respond_refused (checkReadMemory_refuses s payload status hcheck) alive)
    intro _ s' _ refused
    refine ⟨fun admitted => ?_, fun _ => refused⟩
    rw [(checkReadMemory_iff limit).mpr ⟨rfl, admitted⟩] at hcheck
    exact absurd hcheck (by simp)
  | ok req =>
    obtain ⟨rfl, admitted⟩ := (checkReadMemory_iff limit).mp hcheck
    have size : (MemoryRequest.parse payload).length.toNat ≤ maxMemoryTransferLimit :=
      admitted.most.trans limit
    simp only [maxMemoryTransferLimit, maxFrameSize, headerSize, writeMemoryRequestSize] at size
    have served {s' : Session} {s₁ : Session} {a : Answer} {evs : SessionHistory}
        (quiet : calls evs = []) :
        Admission (AccessAdmitted s.regions s.maxMemoryTransfer.toNat s.state s.stopId
          payload false) false
          requestId (MemoryRequest.parse payload) s h s' (h ++ [⟨.call s₁ (.readMem (.request
            (MemoryRequest.parse payload).flags []) (MemoryRequest.parse payload).address
            (MemoryRequest.parse payload).length.toNat (MemoryRequest.parse payload).accessWidth),
            a⟩] ++ evs) := by
      refine ⟨fun _ => ⟨_, a, rfl, ?_⟩, fun refused => absurd admitted refused⟩
      rw [calls_append, calls_call, quiet, List.append_nil]
    simp only [Action.wp_bind, Action.wp_ite, Action.wp_pure, beginFrame_wp, backend_wp,
      writePayload_wp, getSession_wp]
    refine ⟨fun hn => ?_, fun _ => ⟨fun hf => absurd hf (by decide), fun _ a =>
      ⟨fun _ => ?_, fun _ => ?_⟩⟩⟩
    · simp only [maxFrameSize, headerSize, readMemoryResponseSize] at hn
      omega
    · apply sendBackendFailure_uncalled
      intro s' evs quiet
      exact served quiet
    · refine finishFrame_offered (s := s) (P := fun _ => True) ?_ (fun _ => trivial) ?_
      · simp only [isValidMessageSize, maxFrameSize, headerSize, readMemoryResponseSize]
        omega
      · intro b dead evs sent
        exact served sent.calls_nil

theorem opWriteMemory_admission (alive : s.transportDead = false) :
    (opWriteMemory requestId payload).wp s h fun _ => Admission
      (AccessAdmitted s.regions s.maxMemoryTransfer.toNat s.state s.stopId payload true) true
      requestId
      (MemoryRequest.parse payload) s h := by
  rw [opWriteMemory, Action.wp_bind, getSession_wp]
  cases hcheck : checkWriteMemory s payload with
  | error status =>
    apply Action.wp_mono (respond_refused (checkWriteMemory_refuses s payload status hcheck) alive)
    intro _ s' _ refused
    refine ⟨fun admitted => ?_, fun _ => refused⟩
    rw [checkWriteMemory_iff.mpr ⟨rfl, admitted⟩] at hcheck
    exact absurd hcheck (by simp)
  | ok req =>
    obtain ⟨rfl, admitted⟩ := checkWriteMemory_iff.mp hcheck
    have length : (payload.drop writeMemoryRequestSize).length =
        (MemoryRequest.parse payload).length.toNat := by
      rw [List.length_drop, admitted.size, if_pos rfl]
      simp only [writeMemoryRequestSize]
      omega
    generalize payload.drop writeMemoryRequestSize = data at length
    have served {s' : Session} {s₁ : Session} {a : Answer} {evs : SessionHistory}
        (quiet : calls evs = []) :
        Admission (AccessAdmitted s.regions s.maxMemoryTransfer.toNat s.state s.stopId payload true)
          true
          requestId (MemoryRequest.parse payload) s h s' (h ++ [⟨.call s₁ (.writeMem (.request
            (MemoryRequest.parse payload).flags data) (MemoryRequest.parse payload).address
            (writeImage s.swTable (MemoryRequest.parse payload).address data)
            (MemoryRequest.parse payload).accessWidth), a⟩] ++ evs) := by
      have image := (writeImage_length s.swTable (MemoryRequest.parse payload).address data).trans
          length
      refine ⟨fun _ => ⟨_, a, ⟨data, _, image, rfl⟩, ?_⟩, fun refused => absurd admitted refused⟩
      rw [calls_append, calls_call, quiet, List.append_nil]
    simp only [Action.wp_bind, Action.wp_ite, backend_wp, updateSession_wp, Action.wp_pure]
    intro a
    constructor
    · intro _
      apply sendBackendFailure_uncalled
      intro s' evs quiet
      exact served quiet
    · intro _
      apply respond_wp
      intro b dead evs sent
      exact served sent.calls_nil

/-- In every reachable halted or running state with a live transport, a READ_MEMORY or a
WRITE_MEMORY is served exactly where section 9 admits it, by the map and the limit of the ATTACH
response: with one call that has its address, length and width. Otherwise there is one error
response, and nothing else. -/
theorem memory_admission {T : Type} (env : SessionEnvironment T) (t₀ : T) (inputs : List Input)
    (message : List UInt8) (isWrite : Bool)
    (live : (playSession env (freshWorld t₀) inputs).state.state = .halted ∨
      (playSession env (freshWorld t₀) inputs).state.state = .running)
    (alive : (playSession env (freshWorld t₀) inputs).state.transportDead = false)
    (valid : ValidRequest message)
    (opcode : requestOp (MsgHeader.parse message).opcode = some (memoryOp isWrite)) :
    let w := playSession env (freshWorld t₀) inputs
    let w' := w.step env handle (.request message)
    ∃ info f, lastAttach w.history = some ⟨info, some f⟩ ∧ Advertises f (normalizeAttachInfo info) ∧
      Admission (AccessAdmitted (parseMap (f.drop (headerSize + attachResponseSize)))
        (advertisedResources f).maxMemoryTransfer.toNat w.state.state w.state.stopId
        (message.drop headerSize) isWrite) isWrite (MsgHeader.parse message).requestId
        (MemoryRequest.parse (message.drop headerSize)) w.state w.history w'.state w'.history := by
  intro w w'
  have advertised : Advertised w.state w.history := play_advertised env t₀ inputs
  obtain ⟨info, f, last, frame, map⟩ := advertised.announced live
  refine ⟨info, f, last, frame, ?_⟩
  have resources : w.state.resources = (normalizeAttachInfo info).resources := by
    rw [advertised.provided.same, reported, last]
    rfl
  have limit : w.state.maxMemoryTransfer = (advertisedResources f).maxMemoryTransfer := by
    rw [frame.resources, ← resources]
    rfl
  have small : w.state.maxMemoryTransfer.toNat ≤ maxMemoryTransferLimit := by
    rw [limit, frame.resources]
    exact (normalizeAttachInfo_normalized info).transfer
  have regions : w.state.regions = parseMap (f.drop (headerSize + attachResponseSize)) := by
    rw [frame.regions, map]
    rfl
  rw [← limit, ← regions]
  have allowed : (gateTable w.state.state (gateColumn (memoryOp isWrite))).refusal = none := by
    rcases live with halted | running
    · cases isWrite <;> rw [halted] <;> rfl
    · cases isWrite <;> rw [running] <;> rfl
  refine World.perform_wp (w := w) (m := handle (.request message)) (Q := fun _ s' h' =>
    Admission _ isWrite (MsgHeader.parse message).requestId
      (MemoryRequest.parse (message.drop headerSize)) w.state w.history s' h') ?_
  simp only [handle, Action.wp_bind, Action.wp_pure]
  apply handleRequest_op opcode
  · intro ignored
    rcases ignored with dead | invalid
    · exact absurd (alive.symm.trans dead) (by decide)
    · exact absurd valid invalid
  · intro status _ _ _ refusal
    rw [allowed] at refusal
    exact absurd refusal (by simp)
  · intro _ _ _
    cases isWrite with
    | false => exact opReadMemory_admission alive small
    | true => exact opWriteMemory_admission alive

/-- A client reads four bytes of a running target. -/
def readsRunning : List UInt8 :=
  requestMessage .readMemory 2 (le32 0 ++ le64 0x20000000 ++ le32 4 ++ le16
    MemAccess.allowRunning ++ [0, 0])

theorem running_read :
    let w := playSession scripted (freshWorld [{ info := debugTarget }]) [attachRunning]
    ∃ c a, AccessCall false (MemoryRequest.parse (readsRunning.drop headerSize)) c ∧
      calls (w.step scripted handle (.request readsRunning)).history = calls
        w.history ++ [(c, a)] := by
  intro w
  obtain ⟨info, f, last, frame, admission⟩ := memory_admission scripted [{ info := debugTarget }]
    [attachRunning] readsRunning false (Or.inr (by decide +kernel)) (by decide +kernel)
    ⟨by decide, by decide, by decide, by decide⟩ (by decide)
  have known : (lastAttach w.history).map (fun x =>
      ((normalizeAttachInfo x.info).resources.maxMemoryTransfer, x.info.memoryRegions)) = some
      (4096, debugTarget.memoryRegions) := by decide +kernel
  rw [last] at known
  obtain ⟨limit, map⟩ := Prod.mk.inj (Option.some.inj known)
  apply admission.served
  have regions : parseMap (f.drop (headerSize + attachResponseSize)) =
      parseMap debugTarget.memoryRegions := congrArg parseMap (frame.regions.trans map)
  have state : w.state.state = .running ∧ w.state.stopId = 0 := by decide +kernel
  have checked :
      checkReadMemory { state := .running, regions := parseMap debugTarget.memoryRegions }
          (readsRunning.drop headerSize) =
        .ok (MemoryRequest.parse (readsRunning.drop headerSize)) := by
    decide +kernel
  rw [frame.resources, limit, regions, state.1, state.2]
  exact ((checkReadMemory_iff (by decide)).mp checked).2

end SidpClient
