import SidpClient.HiddenFrames
import SidpClient.StepOverSpent

/-! The shadow table, the run configuration and the stop pipeline over two sessions that differ in
hidden fields. -/
namespace SidpClient
open LittleEndian Interactive

variable {K K' : Session → Prop} {D : ℕ → Prop} {s s' : Session} {α : Type}

/-- Updates of fields that are not hidden, written so that this is seen. -/
theorem updateTable_veiled (eng : Engages K) (f : List SwBp → List SwBp) :
    Veiled K D (updateTable f) :=
  updateSame_veiled eng ⟨fun _ _ => rfl, fun _ => rfl, fun _ => rfl, fun _ => le_rfl⟩ fun _ => rfl

/-! The shadow table. -/

theorem swBpInstallOne_veiled (eng : Engages K) (index : ℕ) :
    Veiled K D (swBpInstallOne index) := by
  apply Action.Keeping.bind (updateTable_veiled eng _)
  intro _
  apply getSession_veiled (fun _ _ => rfl)
  intro s _
  cases s.swTable[index]? with
  | none => exact .pure _
  | some entry => exact .bind (backend_veiled _) fun _ => .pure _

theorem swBpRestoreOne_veiled (eng : Engages K) (index : ℕ) :
    Veiled K D (swBpRestoreOne index) := by
  apply getSession_veiled (fun _ _ => rfl)
  intro s _
  cases s.swTable[index]? with
  | none => exact .pure _
  | some entry =>
    exact .ite (fun _ => .pure _) fun _ => .bind (backend_veiled _) fun _ =>
      .ite (fun _ => .bind (updateTable_veiled eng _) fun _ => .pure _) fun _ => .pure _

theorem swBpRestoreTurn_veiled (eng : Engages K) (kept : Bool × ℕ) (index : ℕ) :
    Veiled K D (swBpRestoreTurn kept index) :=
  .bind (swBpRestoreOne_veiled eng index) fun _ => .ite (fun _ => .pure _) fun _ =>
    .bind (updateTable_veiled eng _) fun _ => .pure _

theorem swBpRestoreAll_veiled (eng : Engages K) : Veiled K D swBpRestoreAll :=
  getSession_veiled (fun _ _ => rfl) fun _ _ =>
    .bind (.foldFrom (swBpRestoreTurn_veiled eng) _ _ _) fun _ =>
      .bind (updateTable_veiled eng _) fun _ => .pure _

theorem swBpRecord_veiled (eng : Engages K) (entries : List BpEntry) :
    Veiled K D (swBpRecord entries) := by
  induction entries with
  | nil => exact .pure _
  | cons entry entries ih =>
    have undo (status : Status) : Veiled K D (do let _ ← swBpRestoreAll; return status) :=
      .bind (swBpRestoreAll_veiled eng) fun _ => .pure _
    apply getSession_veiled (fun _ _ => rfl)
    intro s _
    exact .ite (fun _ => undo _) fun _ => .ite (fun _ => undo _) fun _ =>
      .bind (backend_veiled _) fun a => .ite (fun _ => undo _) fun _ => .ite (fun _ => undo _)
        fun _ => .bind (updateTable_veiled eng _) fun _ => ih

theorem swBpInstallFrom_veiled (eng : Engages K) (n index : ℕ) :
    Veiled K D (swBpInstallFrom index n) := by
  induction n generalizing index with
  | zero => exact .pure _
  | succ n ih =>
    exact .bind (swBpInstallOne_veiled eng index) fun _ =>
      .ite (fun _ => .bind (swBpRestoreAll_veiled eng) fun _ => .pure _) fun _ => ih (index + 1)

theorem swBpApply_veiled (eng : Engages K) (entries : List BpEntry) :
    Veiled K D (swBpApply entries) :=
  .bind (swBpRestoreAll_veiled eng) fun _ => .ite (fun _ => .pure _) fun _ =>
    .bind (swBpRecord_veiled eng entries) fun _ => .ite (fun _ => .pure _) fun _ =>
      getSession_veiled (fun _ _ => rfl) fun _ _ => swBpInstallFrom_veiled eng _ _

theorem rollbackRunConfig_veiled (eng : Engages K) : Veiled K D rollbackRunConfig := by
  have untrack : Veiled K D (updateSession Session.clearRunTracking) :=
    updateSame_veiled eng ⟨fun _ _ => rfl, fun _ => rfl, fun _ => rfl, fun _ => le_rfl⟩ fun _ => rfl
  exact .bind (swBpRestoreAll_veiled eng) fun _ => .bind (backend_veiled _) fun _ =>
    .bind (backend_veiled _) fun _ => .bind (backend_veiled _) fun _ => .bind untrack
      fun _ => .pure _

theorem failRun_veiled (eng : Engages K) (requestId : UInt32) (status : Status) :
    Veiled K StatusField (failRun requestId status) :=
  .bind (rollbackRunConfig_veiled eng) fun _ => .bind (respond_veiled eng _ _ _) fun _ =>
    .ite (fun _ => enterLost_veiled eng _) fun _ => .pure _

/-! The step-over. -/

theorem writeCurrentPc_veiled (pc : UInt32) : Veiled K D (writeCurrentPc pc) :=
  .bind (backend_veiled _) fun _ => .pure _

theorem swBpRestoreFound_veiled (eng : Engages K) (bp : Option ℕ) :
    Veiled K D (swBpRestoreFound bp) := by
  cases bp with
  | none => exact .pure _
  | some index => exact swBpRestoreOne_veiled eng index

theorem swBpInstallFound_veiled (eng : Engages K) (bp : Option ℕ) :
    Veiled K D (swBpInstallFound bp) := by
  cases bp with
  | none => exact .pure _
  | some index => exact swBpInstallOne_veiled eng index

theorem pollStepHalted_veiled (n : ℕ) : Veiled K D (pollStepHalted n) := by
  induction n with
  | zero => exact .pure _
  | succ n ih =>
    exact .bind (backend_veiled _) fun _ => .ite (fun _ => .pure _) fun _ =>
      .ite (fun _ => .pure _) fun _ => ih

theorem executeStepOver_veiled (eng : Engages K) (action : UInt8) :
    Veiled K D (executeStepOver action) := by
  have forget : Veiled K D
      (updateSession fun s => { s with swStepOverPending := false, swStepOverAddress := 0 }) :=
    updateSame_veiled eng ⟨fun _ _ => rfl, fun _ => rfl, fun _ => rfl, fun _ => le_rfl⟩ fun _ => rfl
  apply getSession_veiled (fun _ _ => rfl)
  intro s _
  apply Action.Keeping.ite (fun _ => .pure _)
  intro _
  apply Action.Keeping.bind (swBpRestoreFound_veiled eng _)
  intro _
  apply Action.Keeping.ite (fun _ => .pure _)
  intro _
  apply Action.Keeping.bind (writeCurrentPc_veiled _)
  intro _
  apply Action.Keeping.ite (fun _ => .bind (swBpInstallFound_veiled eng _) fun _ => .pure _)
  intro _
  apply Action.Keeping.bind (backend_veiled _)
  intro _
  apply Action.Keeping.ite (fun _ => .pure _)
  intro _
  apply Action.Keeping.bind (pollStepHalted_veiled _)
  intro polled
  cases polled with
  | error reason => exact .pure _
  | ok stop =>
    exact .bind forget fun _ => .bind (swBpInstallFound_veiled eng _) fun _ =>
      .ite (fun _ => .pure _) fun _ => .ite (fun _ => .pure _) fun _ => .ite (fun _ => .pure _)
      fun _ => .pure _

/-! Stops. The snapshot buffer is the same as far as the snapshot goes. -/

theorem captureStackSnapshot_veiled (eng : Engages K) : Veiled K D captureStackSnapshot := by
  apply Action.Keeping.get_bind
  intro s s' ha
  have hs := ha.lasting
  obtain ⟨b, n, r, rfl, hx⟩ := ha.fogged (eng.attached s hs)
  have inside (i : ℕ) (hi : i < s.pendingRegistersSize) : r i = s.pendingRegisters i :=
    hx.pending i (by omega)
  -- the stack pointer is looked for among registers both sessions hold
  have pointer :
      findRegister (s.fogged b n r).pendingRegisters (s.fogged b n r).pendingRegistersSize
          armRegSp =
        findRegister s.pendingRegisters s.pendingRegistersSize armRegSp := findRegister_congr inside
  have here : Alike K D s (s.fogged b n r) := ⟨_, rfl, hx⟩
  rw [pointer]
  cases found : findRegister s.pendingRegisters s.pendingRegistersSize armRegSp with
  | none => exact Action.paired_pure here
  | some entry =>
    have whole := (findRegister_some found).2.2.2
    have value : (s.fogged b n r).pendingRegisters.read (entry.offset + registerValueSize) 4 =
        s.pendingRegisters.read (entry.offset + registerValueSize) 4 :=
      read_congr fun i _ high => inside i (by omega)
    dsimp only
    rw [value]
    have regions : (s.fogged b n r).regions = s.regions := rfl
    rw [regions]
    cases stackRegion s.regions
      (getU32 (s.pendingRegisters.read (entry.offset + registerValueSize) 4) 0) with
    | none => exact Action.paired_pure here
    | some region =>
      dsimp only
      have size : (s.fogged b n r).pendingRegistersSize = s.pendingRegistersSize := rfl
      rw [size]
      cases stackWindow region _ s.pendingRegistersSize with
      | none => exact Action.paired_pure here
      | some window =>
        apply Action.paired_bind
        apply backend_paired
        intro a filled
        -- the window goes behind the registers: what it covers is the backend's answer
        have agree (i : ℕ) (hi : i < s.pendingRegistersSize + s.pendingStackSize ∨
            (s.pendingRegistersSize ≤ i ∧ i < s.pendingRegistersSize +
              (a.data.take window.2).length)) :
            r.write s.pendingRegistersSize (a.data.take window.2) i =
              s.pendingRegisters.write s.pendingRegistersSize (a.data.take window.2) i :=
          write_agrees (D := fun i => i < s.pendingRegistersSize + s.pendingStackSize) hx.pending i
            hi
        apply Action.paired_bind
        apply Action.paired_modify
        apply Action.paired_ite
        · intro _
          apply Action.paired_pure
          exact ⟨⟨b, n, _, s.resources, s.regions⟩, rfl, eng.keeps s _ hs rfl rfl id, fun _ =>
            ⟨rfl, rfl⟩, hx.written, fun i hi => agree i (Or.inl hi)⟩
        · intro ok
          apply Action.paired_modify
          refine ⟨⟨b, n, _, s.resources, s.regions⟩, rfl, eng.keeps s _ hs rfl rfl id, fun _ =>
            ⟨rfl, rfl⟩, hx.written, fun i hi => agree i ?_⟩
          have long := filled (not_not.mp ok)
          have length : (a.data.take window.2).length = window.2 := by
            rw [List.length_take, Nat.min_eq_left long]
          rw [length]
          change i < s.pendingRegistersSize + window.2 at hi
          omega

/-- The PC entry is found in the same place, and gets the same value. -/
theorem normalizePc_agrees {b b' : Buffer} {base size : ℕ} (x : Hidden)
    (blob : ∀ i, base ≤ i → i < base + size → b' i = b i) (same : ∀ i, D i → b' i = b i)
    (i : ℕ) (hi : D i) :
    normalizePcInRegisterBlob
      (s.hiding x) b' base size i = normalizePcInRegisterBlob s b base size i := by
  have found : findRegister (fun i => b' (base + i)) size armRegPc =
      findRegister (fun i => b (base + i)) size armRegPc :=
    findRegister_congr fun i hi => blob (base + i) (by omega) (by omega)
  have pending : (s.hiding x).swStepOverPending = s.swStepOverPending := rfl
  have address : (s.hiding x).swStepOverAddress = s.swStepOverAddress := rfl
  rw [normalizePcInRegisterBlob, normalizePcInRegisterBlob, found, pending, address]
  cases s.swStepOverPending with
  | false => exact same i hi
  | true =>
    cases findRegister (fun i => b (base + i)) size armRegPc with
    | none => exact same i hi
    | some entry => exact write_agrees same i (Or.inl hi)

theorem captureSnapshot_paired (eng : Engages K) (ha : Alike K D s s')
    (empty : s.pendingStackSize = 0) :
    captureSnapshot.paired outsider captureSnapshot s s' fun _ => Alike K D := by
  have hs := ha.lasting
  obtain ⟨b, n, r, rfl, hx⟩ := ha.fogged (eng.attached s hs)
  have here : Alike K D s (s.fogged b n r) := ⟨_, rfl, hx⟩
  apply Action.paired_get
  have capable :
      (s.fogged b n r).hasCapability Cap.stopSnapshot = s.hasCapability Cap.stopSnapshot := rfl
  rw [capable]
  apply Action.paired_ite
  · intro _
    apply Action.paired_bind
    apply backend_paired
    intro a filled
    have agree (i : ℕ) (hi : i < s.pendingRegistersSize ∨
        i < (a.data.take snapshotBlobCapacity).length) :
        r.write 0 (a.data.take snapshotBlobCapacity) i =
          s.pendingRegisters.write 0 (a.data.take snapshotBlobCapacity) i :=
      write_agrees (D := fun i => i < s.pendingRegistersSize) (fun i hi =>
        hx.pending i (by omega)) i (by omega)
    apply Action.paired_bind
    apply Action.paired_modify
    apply Action.paired_ite
    · intro ok
      have long := filled ok.1
      have length : a.outSize ≤ (a.data.take snapshotBlobCapacity).length := by
        rw [List.length_take]
        exact Nat.le_min.mpr ⟨ok.2, long⟩
      apply Action.paired_bind
      apply Action.paired_modify
      apply captureStackSnapshot_veiled eng
      refine ⟨⟨b, n, _, s.resources, s.regions⟩, rfl, eng.keeps s _ hs rfl rfl id, fun _ =>
        ⟨rfl, rfl⟩, hx.written, fun i hi => ?_⟩
      have inside : i < a.outSize := by
        change i < a.outSize + s.pendingStackSize at hi
        omega
      exact normalizePc_agrees (D := fun i => i < a.outSize)
        (s := { s with
          pendingRegisters := s.pendingRegisters.write 0 (a.data.take snapshotBlobCapacity) })
        ⟨b, n, r.write 0 (a.data.take snapshotBlobCapacity), s.resources, s.regions⟩
        (fun i _ high => agree i (Or.inr (by omega))) (fun i hi =>
          agree i (Or.inr (by omega))) i inside
    · intro _
      apply Action.paired_pure
      refine ⟨⟨b, n, _, s.resources, s.regions⟩, rfl, eng.keeps s _ hs rfl rfl id, fun _ =>
        ⟨rfl, rfl⟩, hx.written, fun i hi => agree i (Or.inl ?_)⟩
      change i < s.pendingRegistersSize + s.pendingStackSize at hi
      omega
  · intro _
    exact Action.paired_pure here

/-- A stop of a target that is not lost settles the state. -/
theorem enterHalted_paired (eng : Engages K) (eng' : Engages K') (ha : Alike K StatusField s s')
    (live : s.state ≠ .lost) (stop : StopDetect) :
    (enterHalted stop).paired outsider (enterHalted stop) s s' fun _ => Alike K' StatusField := by
  have hs := ha.lasting
  have attached := eng.attached s hs
  obtain ⟨x, rfl, hx⟩ := ha
  apply Action.paired_get
  apply Action.paired_ite
  · intro lost
    exact absurd lost live
  intro _
  have classified : classifyStop (s.hiding x) stop = classifyStop s stop := rfl
  have generation : (s.hiding x).stopId = s.stopId := rfl
  rw [classified, generation]
  have clear : Clear (·.nextStop (classifyStop s stop)) :=
    ⟨fun _ _ => rfl, fun _ => rfl, fun _ => rfl, fun _ => le_rfl⟩
  have next : Alike K StatusField (s.nextStop (classifyStop s stop))
      ((s.hiding x).nextStop (classifyStop s stop)) :=
    clear.alike (fun hs => eng.keeps s _ hs rfl rfl id) ⟨x, rfl, hx⟩
  apply Action.paired_bind
  apply Action.paired_modify
  apply Action.paired_ite
  · intro _
    apply Action.paired_bind
    apply Action.paired_mono (enterLost_paired eng'.framed (fun s hs =>
      eng'.lost s (eng.attached s hs))
      (fun s hs lost => eng'.settles s (eng.attached s hs) (by rw [lost]; decide)) next .timeout)
    intro _ t t' ht
    exact Action.paired_pure ht
  · intro _
    apply Action.paired_bind
    apply Action.paired_modify
    have stopped : Clear (·.stoppedWith stop (classifyStop s stop)) :=
      ⟨fun _ _ => rfl, fun _ => rfl, fun _ => rfl, fun _ => Nat.zero_le _⟩
    have attached' : (s.nextStop (classifyStop s stop)).attached = true := attached
    apply captureSnapshot_paired eng' _ rfl
    apply (stopped.alike (K := fun s => s.attached = true) id (next.with attached')).with
    exact eng'.settles _ attached' (by decide : TargetState.halted ≠ .detached)

theorem enterHalted_veiled (eng : Engages K) (stop : StopDetect) :
    Veiled K StatusField (enterHalted stop) := by
  intro s s' ha
  by_cases lost : s.state = .lost
  · obtain ⟨x, rfl, hx⟩ := ha
    apply Action.paired_get
    have same : (s.hiding x).state = s.state := rfl
    rw [same]
    apply Action.paired_ite
    · intro _
      exact Action.paired_pure ⟨x, rfl, hx⟩
    · intro live
      exact absurd lost live
  · exact enterHalted_paired eng eng ha lost stop

theorem pollStop_veiled (eng : Engages K) : Veiled K StatusField pollStop :=
  .bind (backend_veiled _) fun _ => .ite (fun _ => enterLost_veiled eng _) fun _ =>
    .ite (fun _ => .bind (enterHalted_veiled eng _) fun _ => emitPendingStopped_veiled eng)
      fun _ => .pure _

end SidpClient
