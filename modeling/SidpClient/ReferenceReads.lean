import SidpClient.TargetMemory
import SidpClient.AccessSpecs
import Mathlib.Data.List.Induction

/-! Software breakpoints are invisible to the client. -/
namespace SidpClient
open LittleEndian Interactive

variable {s : Session} {h : SessionHistory}

/-! Answers. -/

/-- No response with STATUS_OK is among the frames. -/
def Declines (evs : SessionHistory) : Prop :=
  ∀ f ∈ offered evs, isResponse f = true → frameStatus f ≠ Status.ok.value

theorem Declines.append {evs evs' : SessionHistory} (hr : Declines evs) (hr' : Declines evs') :
    Declines (evs ++ evs') := by
  intro f hf
  rw [offered_append] at hf
  rcases List.mem_append.mp hf with hf | hf
  · exact hr f hf
  · exact hr' f hf

theorem declines_of_offered {P : List UInt8 → Prop} {dead : Bool} {evs : SessionHistory}
    (ho : Offered s P dead evs)
    (hP : ∀ f, P f → isResponse f = true → frameStatus f ≠ Status.ok.value) : Declines evs := by
  intro f hf
  rcases ho with ⟨-, -, rfl⟩ | ⟨-, g, accepted, hg, -, rfl⟩
  · exact absurd hf (by simp [offered])
  · have same : f = g := by simpa [offered] using hf
    rw [same]
    exact hP g hg

theorem respond_declines {opcode : UInt16} {requestId : UInt32} {status : Status}
    {Q : Unit → Session → SessionHistory → Prop} (error : status ≠ .ok)
    (hQ : ∀ b dead evs, Declines evs → Q () (s.framed b 16 dead) (h ++ evs)) :
    (respond opcode requestId status).wp s h Q := by
  apply respond_wp
  intro b dead evs ho
  apply hQ
  apply declines_of_offered ho
  intro f hf _ ok
  have value : frameStatus f = status.value := hf.status
  exact error (Status.value_injective (value.symm.trans ok))

theorem enterLost_declines {reason : TargetLostReason} {Q : Unit → Session → SessionHistory → Prop}
    (hQ : ∀ s' evs, Declines evs → Q () s' (h ++ evs)) : (enterLost reason).wp s h Q := by
  apply enterLost_wp
  · intro _
    have hq := hQ s [] (fun f hf => absurd hf (by simp [offered]))
    rwa [List.append_nil] at hq
  · intro _ b dead evs ho
    apply hQ
    apply declines_of_offered ho
    intro f hf response
    have event := hf.header.isEvent.1
    rw [isEvent, beq_iff_eq] at event
    rw [isResponse, event] at response
    exact absurd response (by decide)

theorem sendBackendFailure_declines {opcode : UInt16} {requestId : UInt32} {result : EspErr}
    {fallback : Status} {Q : Unit → Session → SessionHistory → Prop} (error : fallback ≠ .ok)
    (hQ : ∀ s' evs, Declines evs → Q () s' (h ++ evs)) :
    (sendBackendFailure opcode requestId result fallback).wp s h Q := by
  simp only [sendBackendFailure, Action.wp_bind, Action.wp_ite, Action.wp_pure]
  constructor
  · intro _
    apply respond_declines (by decide)
    intro b dead evs declines
    apply enterLost_declines
    intro s' evs' declines'
    rw [List.append_assoc]
    exact hQ s' _ (declines.append declines')
  · intro _
    apply respond_declines (by split <;> first | decide | exact error)
    intro b dead evs declines
    exact hQ _ _ declines

/-! READ_MEMORY. -/

/-- A frame with STATUS_OK carries what the reference holds. -/
def Returns (req : MemoryRequest) (h evs : SessionHistory) : Prop :=
  ∀ f ∈ offered evs, isResponse f = true → frameStatus f = Status.ok.value →
    ∀ mem ref, MemoryRun (fun _ => True) (h ++ evs) mem ref →
      f.drop (headerSize + readMemoryResponseSize) = ref.read req.address.toNat req.length.toNat

theorem Declines.returns {req : MemoryRequest} {evs : SessionHistory} (hr : Declines evs) :
    Returns req h evs := fun f hf response ok => absurd ok (hr f hf response)

/-- What the frame carries behind its fixed fields. -/
theorem sealedFrame_drop (b : Buffer) (size : ℕ) (crc : UInt32) (offset : ℕ) (ho : 12 ≤ offset)
    (hs : offset ≤ size) :
    (sealedFrame b size crc).drop offset = b.read offset (size - offset) := by
  have hslice := sealedFrame_slice b size crc offset (size - offset) (by omega) (Or.inr ho)
  rw [← hslice, slice, List.take_of_length_le]
  rw [List.length_drop, sealedFrame_length]

/-- What a reader may see of a true read is the reference. -/
theorem Mirrored.substituteRead {table : List SwBp} {mem ref : Buffer} (hm : Mirrored table mem ref)
    (placed : ∀ entry ∈ table, entry.Placed) {address : UInt64} {size : ℕ}
    (bound : address.toNat + size < 2 ^ 64) :
    swBpSubstituteRead table address
      (mem.read address.toNat size) = ref.read address.toNat size := by
  have length : (mem.read address.toNat size).length = size := Buffer.read_length _ _ _
  have bytes (i : ℕ) (hi : i < size) :
      (swBpSubstituteRead table address (mem.read address.toNat size))[i]? =
        some (ref (address.toNat + i)) := by
    apply swBpSubstituteRead_getElem? (by rwa [length]) placed (fun e he _ => hm.saved e he) i
      (by rwa [length])
    by_cases hidden : ∃ entry ∈ table, entry.installed = true ∧ entry.Covers (address.toNat + i)
    · exact Or.inr hidden
    · left
      have clear : mem (address.toNat + i) = ref (address.toNat + i) := by
        apply hm.clear
        intro entry he inst patches
        exact hidden ⟨entry, he, inst, patches.covers (placed entry he)⟩
      rw [List.getElem?_eq_getElem (by rwa [length]), Buffer.read_getElem, clear]
  apply List.ext_getElem?
  intro i
  by_cases hi : i < size
  · have inside : i < (ref.read address.toNat size).length := by rwa [Buffer.read_length]
    rw [bytes i hi, List.getElem?_eq_getElem inside, Buffer.read_getElem]
  · rw [List.getElem?_eq_none, List.getElem?_eq_none]
    · rw [Buffer.read_length]
      omega
    · rw [swBpSubstituteRead_length, length]
      omega

/-- The bytes of a READ_MEMORY response are those a reader may see. -/
theorem opReadMemory_returns {requestId : UInt32} {payload : List UInt8} (hs : Shadowed s h)
    (mirrors : Mirrors s h) :
    (opReadMemory requestId payload).wp s h fun _ _ h' =>
      ∀ evs, h' = h ++ evs → Returns (MemoryRequest.parse payload) h evs := by
  simp only [opReadMemory, Action.wp_bind, getSession_wp]
  cases hcheck : checkReadMemory s payload with
  | error status =>
    apply respond_declines (checkReadMemory_refuses s payload status hcheck)
    intro b dead evs declines evs' he
    obtain rfl := List.append_cancel_left he
    exact declines.returns
  | ok req =>
    obtain ⟨rfl, -, hsize, hmap⟩ := checkReadMemory_ok hcheck
    generalize MemoryRequest.parse payload = req at hsize hmap ⊢
    obtain ⟨region, -, covers, -⟩ := validateMemoryAccess_ok hmap
    have bound : req.address.toNat + req.length.toNat < 2 ^ 64 :=
      lt_of_le_of_lt covers.stop covers.bound
    have room : 28 + req.length.toNat ≤ 8192 := by
      simp only [maxFrameSize, headerSize, readMemoryResponseSize] at hsize
      omega
    simp only [Action.wp_bind, Action.wp_ite, Action.wp_pure, beginFrame_wp, backend_wp,
      writePayload_wp, getSession_wp]
    refine ⟨fun hn => ?_, fun _ => ⟨fun hf => absurd hf (by decide), fun _ a => ⟨fun _ => ?_,
      fun ok => ?_⟩⟩⟩
    · simp only [maxFrameSize, headerSize, readMemoryResponseSize] at hn
      omega
    · apply sendBackendFailure_declines (by decide)
      intro s' evs declines evs' he
      rw [List.append_assoc] at he
      obtain rfl := List.append_cancel_left he
      apply Declines.returns
      intro f hf
      apply declines f
      simpa [offered] using hf
    · have size : headerSize + (readMemoryResponseSize + req.length.toNat) =
          28 + req.length.toNat := by
        simp only [headerSize, readMemoryResponseSize]
        omega
      have fixed : (le32 Status.ok.value ++ le64 req.address ++ le32 req.length).length = 16 := by
        simp
      rw [size]
      generalize hseen : swBpSubstituteRead s.swTable req.address _ = seen
      have seenLength : seen.length = req.length.toNat := by
        rw [← hseen, swBpSubstituteRead_length, Buffer.read_length]
      refine finishFrame_offered (s := s) (P := fun f => f.drop 28 = seen) ?_ (fun crc => ?_) ?_
      · simp only [isValidMessageSize, headerSize, maxFrameSize]
        omega
      · rw [sealedFrame_drop _ _ _ _ (by omega) (by omega), Nat.add_sub_cancel_left,
          Buffer.read_write_of_disjoint _ _ _ _ _ (by rw [fixed]; exact Or.inr (by decide)),
          ← seenLength]
        exact Buffer.read_write_self _ _ _
      · intro b' dead evs ho evs' he f hf response status mem ref run
        rw [List.append_assoc] at he
        obtain rfl := List.append_cancel_left he
        -- the bytes of the frame are the memory behind the patches, as the read saw it
        rcases ho with ⟨-, -, rfl⟩ | ⟨-, g, accepted, hg, -, rfl⟩
        · exact absurd hf (by simp [offered])
        · obtain rfl : f = g := by simpa [offered] using hf
          rw [← List.append_assoc] at run
          obtain ⟨_, _, mem₁, ref₁, run₀, stores, read, rfl, rfl⟩ := run.of_offer.of_call
          have mirrored := (mirrors _ _ run₀).stores stores
          have read := read (not_not.mp ok)
          have readLength : (mem.read req.address.toNat req.length.toNat).length =
              req.length.toNat := Buffer.read_length _ _ _
          have scratch (b : Buffer) := Buffer.read_write_self b 28 (mem.read req.address.toNat
            req.length.toNat)
          rw [readLength] at scratch
          rw [read] at hseen
          rw [show headerSize + readMemoryResponseSize = 28 from rfl, hg, ← hseen]
          exact (congrArg _ (scratch _)).trans (mirrored.substituteRead hs.placed bound)

/-! DETACH. -/

/-- Restoring offers no frame. -/
theorem swBpRestoreAll_unoffered : swBpRestoreAll.wp s h fun _ _ h' => offered h' = offered h := by
  simp only [swBpRestoreAll, Action.wp_bind, getSession_wp, Action.wp_pure, updateTable_wp]
  have turn (kept : Bool × ℕ) (index : ℕ) (s₁ : Session) (h₁ : SessionHistory)
      (_ : index < s.swTable.length) (same : offered h₁ = offered h) :
      (swBpRestoreTurn kept index).wp s₁ h₁ fun _ _ h' => offered h' = offered h := by
    simp only [swBpRestoreTurn, swBpRestoreOne, Action.wp_bind, getSession_wp]
    cases s₁.swTable[index]? with
    | none =>
      simp only [Action.wp_pure, Action.wp_ite, Action.wp_bind, updateTable_wp]
      exact ⟨fun _ => same, fun hf => absurd trivial hf⟩
    | some entry =>
      simp only [Action.wp_pure, Action.wp_ite, Action.wp_bind, updateTable_wp,
        backend_wp, offered_call]
      exact ⟨fun _ => ⟨fun _ => same, fun hf => absurd trivial hf⟩,
        fun _ a => ⟨fun _ => ⟨fun _ => same, fun _ => same⟩, fun _ =>
          ⟨fun _ => same, fun _ => same⟩⟩⟩
  exact Action.wp_foldFrom (I := fun _ _ _ h' => offered h' = offered h) turn (Nat.zero_add _) rfl

theorem declines_of_silent {evs : SessionHistory} (same : offered (h ++ evs) = offered h) :
    Declines evs := by
  rw [offered_append, List.append_right_eq_self] at same
  intro f hf
  rw [same] at hf
  exact absurd hf List.not_mem_nil

theorem declines_call {c : Call} {a : Answer} : Declines [⟨.call s c, a⟩] :=
  declines_of_silent (h := []) offered_call

/-- No response with STATUS_OK was sent, unless the target was given away. -/
def Released (h : SessionHistory) (s' : Session) (h' : SessionHistory) : Prop :=
  ∃ evs, h' = h ++ evs ∧ (Declines evs ∨ s'.attached = false)

theorem Released.after {s' : Session} {h' evs : SessionHistory} (first : Declines evs)
    (hr : Released (h ++ evs) s' h') : Released h s' h' := by
  obtain ⟨evs', rfl, hd⟩ := hr
  exact ⟨evs ++ evs', List.append_assoc _ _ _, hd.imp first.append id⟩

theorem respond_released {opcode : UInt16} {requestId : UInt32} {status : Status}
    (error : status ≠ .ok) : (respond opcode requestId status).wp s h fun _ => Released h := by
  apply respond_declines error
  intro b dead evs declines
  exact ⟨evs, rfl, Or.inl declines⟩

theorem releaseTarget_released {requestId : UInt32} {action : UInt8} :
    (releaseTarget requestId action).wp s h fun _ => Released h := by
  simp only [releaseTarget, Action.wp_bind]
  apply Action.wp_mono swBpRestoreAll_unoffered
  intro restored s₁ evs silent
  have first := declines_of_silent silent
  simp only [Action.wp_ite, Action.wp_bind, Action.wp_pure, backend_wp, updateSession_wp]
  refine ⟨fun _ => ?_, fun _ a => ⟨fun _ => ?_, fun _ => ?_⟩⟩
  · apply Action.wp_mono (respond_released (by decide))
    intro _ s' evs' hr
    exact hr.after first
  · apply Action.wp_mono (respond_released (by decide))
    intro _ s' evs' hr
    exact (hr.after declines_call).after first
  · apply respond_wp
    intro b dead evs' _
    have whole := List.append_assoc (h ++ evs) [⟨.call s₁ (.detach action), a⟩] evs'
    exact ⟨_, whole.trans (List.append_assoc h evs _), Or.inr rfl⟩

/-- A DETACH answered with STATUS_OK has given the target away. -/
theorem opDetach_released {requestId : UInt32} {payload : List UInt8} :
    (opDetach requestId payload).wp s h fun _ => Released h := by
  simp only [opDetach]
  cases hcheck : checkDetach payload with
  | error status => exact respond_released (checkDetach_refuses payload status hcheck)
  | ok action =>
    have released (s₁ : Session) (evs : SessionHistory) (first : Declines evs) :
        (releaseTarget requestId action).wp s₁ (h ++ evs) fun _ => Released h := by
      apply Action.wp_mono releaseTarget_released
      intro _ s' evs' hr
      exact hr.after first
    -- the rest of the handler, whichever PC is pending
    have leave (s₁ : Session) (evs : SessionHistory) (first : Declines evs) :
        (s₁.swStepOverPending = true →
          (writeCurrentPc s₁.swStepOverAddress.toUInt32).wp s₁ (h ++ evs) fun ok s' h' =>
            ((!ok) = true →
              (respond Opcode.detach requestId .swdError).wp s' h' fun _ => Released h) ∧
            (¬(!ok) = true → (releaseTarget requestId action).wp s' h' fun _ => Released h)) ∧
        (¬s₁.swStepOverPending = true →
          (releaseTarget requestId action).wp s₁ (h ++ evs) fun _ => Released h) := by
      refine ⟨fun _ => ?_, fun _ => released s₁ evs first⟩
      simp only [writeCurrentPc, Action.wp_bind, backend_wp, Action.wp_pure]
      intro a
      refine ⟨fun _ => ?_, fun _ => ?_⟩
      · apply Action.wp_mono (respond_released (by decide))
        intro _ s' evs' hr
        exact (hr.after declines_call).after first
      · rw [List.append_assoc]
        exact released s₁ _ (first.append declines_call)
    simp only [haltForDetach, Action.wp_bind, getSession_wp, Action.wp_ite, Action.wp_pure,
      backend_wp]
    refine ⟨fun _ => ⟨fun hf => absurd hf (by decide), fun _ => ?_⟩, fun _ a => ⟨fun _ => ?_,
      fun _ => ?_⟩⟩
    · have idle := leave s [] (declines_of_silent (h := []) rfl)
      rwa [List.append_nil] at idle
    · apply sendBackendFailure_declines (by decide)
      intro s' evs declines
      refine ⟨fun _ => ?_, fun hf => absurd rfl hf⟩
      exact ⟨_, List.append_assoc _ _ _, Or.inl (declines_call.append declines)⟩
    · cases softwareHit s.swTable a.stop with
      | none =>
        simp only [Action.wp_pure]
        exact ⟨fun hf => absurd hf (by decide), fun _ => leave s _ declines_call⟩
      | some bp =>
        simp only [Action.wp_bind, updateSession_wp, Action.wp_pure]
        have armed := (leave { s with swStepOverPending := true, swStepOverAddress := bp.address }
          [⟨.call s (.halt haltTimeoutMs), a⟩] declines_call).1 rfl
        exact ⟨fun hf => absurd hf (by decide), fun _ =>
          ⟨fun _ => armed, fun hf => absurd trivial hf⟩⟩

/-! Runs. -/

/-- What a client can tell about memory from one more request or from the cleanup, when the program
keeps out of the guarded instructions. -/
def PatchesInvisible {T : Type} (guarded : SwBp → Prop) (env : SessionEnvironment T)
    (w : SessionWorld T) (message : List UInt8) : Prop :=
  let op := requestOp (MsgHeader.parse message).opcode
  let req := MemoryRequest.parse (message.drop headerSize)
  let r := w.perform env (handleRequest message)
  let d := w.perform env handleDisconnect
  (∀ mem ref, MemoryRun guarded r.2.1.history mem ref →
    ∀ f ∈ offered r.2.2, isResponse f = true → frameStatus f = Status.ok.value →
      (op = some .readMemory → f.drop (headerSize + readMemoryResponseSize) =
        ref.read req.address.toNat req.length.toNat) ∧
      (op = some .detach → mem = ref)) ∧
  (d.1 = true → ∀ mem ref, MemoryRun guarded d.2.1.history mem ref → mem = ref)

/-- What holds of the table and of memory whenever the session is between two inputs. -/
theorem memory_invariant {T : Type} (env : SessionEnvironment T) (t₀ : T) (inputs : List Input) :
    let w := playSession env (freshWorld t₀) inputs
    (Shadowed w.state w.history ∧ Mirrors w.state w.history) ∧ Ready w.state w.history :=
  run_invariant (P := fun s h => Shadowed s h ∧ Mirrors s h) env t₀ inputs
    ⟨shadowed_fresh, mirrors_fresh⟩ fun _ _ _ _ _ hm hp => ⟨hp.1.step hm, hp.2.step hm hp.1⟩

/-- A handler whose moves keep the target keeps the memories apart only where a patch stands. -/
theorem mirrors_of_moves {policy : Policy} {s' : Session} {h' : SessionHistory}
    (hm : Moves policy (s, h) (s', h')) (hs : Shadowed s h) (mirrors : Mirrors s h) :
    Shadowed s' h' ∧ Mirrors s' h' :=
  hm.invariant (P := fun s h => Shadowed s h ∧ Mirrors s h)
    (fun _ _ _ _ move hp => ⟨hp.1.step move, hp.2.step move hp.1⟩) ⟨hs, mirrors⟩

theorem same_of_free {s' : Session} {h' : SessionHistory} {mem ref : Buffer}
    (hp : Shadowed s' h' ∧ Mirrors s' h') (free : s'.attached = false)
    (run : MemoryRun (fun _ => True) h' mem ref) : mem = ref := by
  have mirrored := hp.2 mem ref run
  rw [hp.1.free free] at mirrored
  exact mirrored_nil.mp mirrored

/-- In every run, when the program keeps out of every instruction of the shadow table: a
READ_MEMORY answered with STATUS_OK carries what a never patched memory holds, and after a DETACH
answered with STATUS_OK or a cleanup that reports success target memory is that memory. -/
theorem patches_invisible {T : Type} (env : SessionEnvironment T) (t₀ : T) (inputs : List Input)
    (message : List UInt8) :
    PatchesInvisible (fun _ => True) env (playSession env (freshWorld t₀) inputs) message := by
  obtain ⟨⟨shadowed, mirrors⟩, ready⟩ := memory_invariant env t₀ inputs
  generalize playSession env (freshWorld t₀) inputs = w at shadowed mirrors ready
  unfold PatchesInvisible
  intro op req r d
  obtain ⟨_, handled, -⟩ := World.perform_wp (w := w) (m := handleRequest message)
    (handleRequest_handled ready)
  have after : Shadowed r.2.1.state r.2.1.history ∧ Mirrors r.2.1.state r.2.1.history :=
    mirrors_of_moves handled.moves shadowed mirrors
  constructor
  · intro mem ref run f hf response ok
    constructor
    · intro hop
      have returns : ∀ evs, r.2.1.history = w.history ++ evs → Returns req w.history evs := by
        apply World.perform_wp (m := handleRequest message)
          (Q := fun _ _ h' => ∀ evs, h' = w.history ++ evs → Returns req w.history evs)
        apply handleRequest_op hop
        · intro _ evs he
          rw [List.self_eq_append_right] at he
          rw [he]
          exact Declines.returns fun f hf => absurd hf List.not_mem_nil
        · intro status error _ _ _
          apply respond_declines error
          intro b dead evs declines evs' he
          obtain rfl := List.append_cancel_left he
          exact declines.returns
        · intro _ _ _
          exact opReadMemory_returns shadowed mirrors
      exact returns r.2.2 rfl f hf response ok mem ref run
    · intro hop
      have released : Released w.history r.2.1.state r.2.1.history := by
        apply World.perform_wp (m := handleRequest message) (Q := fun _ => Released w.history)
        apply handleRequest_op hop
        · intro _
          exact ⟨[], (List.append_nil _).symm, Or.inl fun f hf => absurd hf List.not_mem_nil⟩
        · intro status error _ _ _
          exact respond_released error
        · intro _ _ _
          exact opDetach_released
      obtain ⟨evs, he, declines | free⟩ := released
      · obtain rfl : r.2.2 = evs := List.append_cancel_left he
        exact absurd ok (declines f hf response)
      · exact same_of_free after free run
  · intro done mem ref run
    obtain ⟨_, ht, -, -, ended⟩ := World.perform_wp (w := w) (handleDisconnect_handled ready)
    exact same_of_free (mirrors_of_moves ht.moves shadowed mirrors) (ended.result.mp done) run

/-! A backend that has such memories. -/

/-- What the backend answers to calls that do not access memory, and what the program stores before
a call. -/
structure RamScript where
  answer : Session → Call → Answer
  store : Session → Call → Option (ℕ × UInt8)

/-- The program's store, unless a guarded instruction is in its way. -/
def RamScript.stored (script : RamScript) (guarded : SwBp → Bool) (s : Session) (c : Call)
    (memories : Buffer × Buffer) : Buffer × Buffer :=
  match script.store s c with
  | none => memories
  | some (x, byte) =>
    if ∀ entry ∈ s.swTable, guarded entry = true → ¬entry.Covers x then
      (memories.1.write x [byte], memories.2.write x [byte])
    else memories

/-- Reads are true and writes succeed. -/
def ram (guarded : SwBp → Bool) (script : RamScript) : SessionEnvironment (Buffer × Buffer)
  | memories, .offer _ => (true, memories)
  | memories, .call s c =>
    let (mem, ref) := script.stored guarded s c memories
    match c with
    | .readMem _ address size _ => ({ data := mem.read address.toNat size }, (mem, ref))
    | .writeMem (.request _ data) address bytes _ =>
      ({}, (mem.write address.toNat bytes, ref.write address.toNat data))
    | .writeMem _ address bytes _ => ({}, (mem.write address.toNat bytes, ref))
    | c => (script.answer s c, (mem, ref))

theorem RamScript.stored_stores (script : RamScript) (guarded : SwBp → Bool) (s : Session)
    (c : Call) (memories : Buffer × Buffer) :
    Stores (guarded · = true) s.swTable memories.1 memories.2
      (script.stored guarded s c memories).1 (script.stored guarded s c memories).2 := by
  intro x
  unfold RamScript.stored
  cases script.store s c with
  | none => exact Or.inl ⟨rfl, rfl⟩
  | some place =>
    obtain ⟨y, byte⟩ := place
    dsimp only
    split
    · rename_i apart
      show memories.1.write y [byte] x = _ ∧ memories.2.write y [byte] x = _ ∨
        memories.1.write y [byte] x = memories.2.write y [byte] x ∧ _
      rw [Buffer.write_apply, Buffer.write_apply]
      by_cases inside : Within x y [byte].length
      · obtain rfl : x = y := by
          obtain ⟨low, high⟩ := inside
          simp only [List.length_singleton] at high
          omega
        exact Or.inr ⟨by rw [if_pos inside, if_pos inside], apart⟩
      · exact Or.inl ⟨if_neg inside, if_neg inside⟩
    · exact Or.inl ⟨rfl, rfl⟩

/-- Every history with this backend has its memories. -/
theorem ram_memoryRun (guarded : SwBp → Bool) (script : RamScript) (memory : Buffer)
    (answered : World.Answered (ram guarded script) (memory, memory) h) :
    MemoryRun (guarded · = true) h (World.outsideAfter (ram guarded script) (memory, memory) h).1
      (World.outsideAfter (ram guarded script) (memory, memory) h).2 := by
  induction h using List.reverseRecOn with
  | nil => exact .start memory
  | append_singleton h ev ih =>
    obtain ⟨before, last⟩ := World.answered_append.mp answered
    have run := ih before
    rw [World.outsideAfter, List.foldl_append, List.foldl_cons, List.foldl_nil]
    rw [World.outsideAfter] at run last
    generalize List.foldl _ (memory, memory) h = memories at run last ⊢
    obtain ⟨e, reply⟩ := ev
    cases e with
    | offer f => exact .offer f reply run
    | call s c =>
      have reply : reply = (ram guarded script memories (.call s c)).1 := last.1
      subst reply
      apply MemoryRun.call s c _ run (script.stored_stores guarded s c memories)
      cases c with
      | readMem access address size width =>
        exact ⟨fun _ => List.take_of_length_le (Buffer.read_length _ _ _).le, rfl, rfl⟩
      | writeMem access address bytes width => cases access <;> exact ⟨rfl, rfl⟩
      | _ => exact ⟨rfl, rfl⟩

/-- A run next to such a backend, and one more request, leave its memories. -/
theorem ram_request (guarded : SwBp → Bool) (script : RamScript) (memory : Buffer)
    (inputs : List Input) (message : List UInt8) :
    let w := playSession (ram guarded script) (freshWorld (memory, memory)) inputs
    let r := w.perform (ram guarded script) (handleRequest message)
    MemoryRun (guarded · = true) r.2.1.history r.2.1.outside.1 r.2.1.outside.2 := by
  intro w r
  have played : World.Answered (ram guarded script) (memory, memory) w.history ∧
      World.outsideAfter (ram guarded script) (memory, memory) w.history = w.outside :=
    World.play_answered (w := freshWorld (memory, memory)) (memory, memory) inputs trivial rfl
  obtain ⟨before, outside⟩ := played
  obtain ⟨answered, after⟩ := World.perform_answered (handleRequest message) (memory, memory)
    before outside
  have run := ram_memoryRun guarded script memory answered
  rw [after] at run
  exact run

/-! A client steps from a breakpoint whose instruction stores into itself. -/

/-- The target halts where it is attached, then at the breakpoint, then behind a step. -/
def haltsAtBreakpoint : Session → Call → Answer
  | _, .attach _ => { info := debugTarget }
  | s, .pollHalted =>
    match s.state with
    | .running => { stop := { halted := true, dfsr := Dfsr.bkpt, pc := 0x20000102 } }
    | .halted => { stop := { halted := true, dfsr := Dfsr.halted, pc := 0x20000102 } }
    | _ => { stop := { halted := true } }
  | _, _ => {}

/-- The instruction at the breakpoint stores a byte into itself when it is stepped. -/
def storesIntoItself : RamScript where
  answer := haltsAtBreakpoint
  store s
    | .pollHalted => if s.state = .halted then some (0x20000100, 0x33) else none
    | _ => none

def steppedRun : List Input :=
  [.request (requestMessage .attach 1 [0, 0, 0, 0, 0, 1, 0, 0]),
    .request (runMessage 2 1 RunAction.continueRun 0 [softwareBreakpoint 1 0x20000100]),
    .request (runMessage 3 2 RunAction.singleStep 0 [softwareBreakpoint 1 0x20000100])]

/-- The world behind the step, when a store is only kept out of instructions under a patch. -/
def steppedWorld : SessionWorld (Buffer × Buffer) :=
  playSession (ram SwBp.installed storesIntoItself) (freshWorld (Buffer.zero, Buffer.zero))
    steppedRun

/-- Reads the byte the step has stored. -/
def readBreakpoint : List UInt8 :=
  requestMessage .readMemory 4 (le32 3 ++ le64 0x20000100 ++ le32 1 ++
    le16 MemAccess.requireHalted ++ [MemWidth.default, 0])

/-- The answer: one byte, still the old one. -/
def sentRead : List UInt8 :=
  [1, 2, 16, 0, 4, 0, 0, 0, 118, 182, 108, 111, 0, 0, 0, 0, 0, 1, 0, 32, 0, 0, 0, 0, 1, 0, 0, 0, 0]

/-- Under the step the table holds the breakpoint, but not as installed: the byte saved for it is
the one before the step, and so is the byte a client reads. -/
theorem step_hides_store :
    ¬PatchesInvisible (fun entry => entry.installed = true) (ram SwBp.installed storesIntoItself)
      steppedWorld readBreakpoint := by
  intro invisible
  have run := ram_request SwBp.installed storesIntoItself Buffer.zero steppedRun readBreakpoint
  have sent : sentRead ∈ offered (steppedWorld.perform (ram SwBp.installed storesIntoItself)
        (handleRequest readBreakpoint)).2.2 := by decide +kernel
  have stored : (steppedWorld.perform (ram SwBp.installed storesIntoItself)
      (handleRequest readBreakpoint)).2.1.outside.2 0x20000100 = 0x33 := by decide +kernel
  have response : isResponse sentRead = true := by decide +kernel
  have status : frameStatus sentRead = Status.ok.value := by decide +kernel
  have op : requestOp (MsgHeader.parse readBreakpoint).opcode = some .readMemory := by
    decide +kernel
  unfold PatchesInvisible at invisible
  dsimp only at invisible
  obtain ⟨requests, -⟩ := invisible
  have reads := (requests _ _ run sentRead sent response status).1 op
  have address : (MemoryRequest.parse (readBreakpoint.drop headerSize)).address.toNat =
    0x20000100 := by decide +kernel
  have length : (MemoryRequest.parse (readBreakpoint.drop headerSize)).length.toNat = 1 := by
    decide +kernel
  rw [address, length, ← steppedWorld] at reads
  generalize (steppedWorld.perform (ram SwBp.installed storesIntoItself)
    (handleRequest readBreakpoint)).2.1.outside.2 = ref at reads stored
  have first : Buffer.read ref 0x20000100 1 = [ref 0x20000100] := rfl
  rw [first, stored] at reads
  exact absurd reads (by decide)

end SidpClient
