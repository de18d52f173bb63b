import SidpClient.QuietPrograms
import SidpClient.SessionUpdates

/-! The resources a session was attached with bound what it asks of the backend, whatever the client
requests. -/
namespace SidpClient
open LittleEndian Interactive

/-- The fields only ATTACH writes, without the memory map. -/
structure Resources where
  capabilities : UInt32 := 0
  vectorCatch : UInt32 := 0
  hardwareBreakpoints : UInt16 := 0
  hardwareWatchpoints : UInt16 := 0
  maxMemoryTransfer : UInt32 := defaultMaxMemoryTransfer
deriving DecidableEq

def Session.resources (s : Session) : Resources where
  capabilities := s.capabilities
  vectorCatch := s.supportedVectorCatch
  hardwareBreakpoints := s.hardwareBreakpointLimit
  hardwareWatchpoints := s.hardwareWatchpointLimit
  maxMemoryTransfer := s.maxMemoryTransfer

def Resources.has (r : Resources) (cap : UInt32) : Bool := r.capabilities &&& cap != 0

/-- The call asks for no more than these resources. -/
def Call.Within (r : Resources) : Call → Prop
  | .reset kind haltAfter => r.has (if haltAfter then Cap.resetHalt else Cap.resetRun) = true ∧
      (kind = ResetKind.system ∧ r.has Cap.resetSystem = true ∨
        kind = ResetKind.nrst ∧ r.has Cap.resetNrst = true)
  | .resume action _ => (action = RunAction.singleStep → r.has Cap.singleStep = true) ∧
      (action = RunAction.toAddress → r.has Cap.hardwareBp = true)
  | .applyBreakpoints entries => entries.length ≤ r.hardwareBreakpoints.toNat
  | .applyWatchpoints entries => entries.length ≤ r.hardwareWatchpoints.toNat
  | .setVectorCatch mask => mask &&& ~~~r.vectorCatch = 0
  | _ => True

/-- A call within the resources, other than an attach, and the session it is made in. The step of a
step-over is a single step. -/
def InReach (r : Resources) : Effect → Prop
  | .call s c => s.resources = r ∧ c.Within r ∧ (∀ params, c ≠ .attach params) ∧
      ∀ action address, c = .resume action address → s.swStepOverPending = true →
        action = RunAction.singleStep
  | .offer _ => True

/-- The session has these resources and this map, and no more software breakpoints and step-overs
than they allow. -/
structure Provided (r : Resources) (map : List MemoryRegion) (s : Session) : Prop where
  same : s.resources = r
  regions : s.regions = map
  armed : s.swTable ≠ [] → r.has Cap.softwareBp = true
  pending : s.swStepOverPending = true → r.has Cap.softwareBp = true
  steps : r.has Cap.softwareBp = true → r.has Cap.singleStep = true

/-- An action that keeps to the resources. -/
abbrev Serving (r : Resources) (map : List MemoryRegion) {α : Type} (m : SessionM α) : Prop :=
  m.Guarded (Provided r map) (InReach r)

variable {r : Resources} {map : List MemoryRegion} {s s' : Session} {h : SessionHistory} {α : Type}

theorem Provided.keep (hs : Provided r map s)
    (same : (s'.resources, s'.regions) = (s.resources, s.regions))
    (armed : s'.swTable ≠ [] → s.swTable ≠ [])
    (pending : s'.swStepOverPending = true → r.has Cap.softwareBp = true) : Provided r map s' := by
  obtain ⟨hresources, hregions⟩ := Prod.mk.inj same
  exact ⟨hresources.trans hs.same, hregions.trans hs.regions, fun hne => hs.armed (armed hne),
    pending, hs.steps⟩

/-! Rules. -/

theorem getSession_serving {f : Session → SessionM α}
    (hf : ∀ s, Provided r map s → Serving r map (f s)) :
    Serving r map (getSession >>= f) := .get_bind hf

theorem backend_serving {c : Call} (within : c.Within r) (attach : ∀ params, c ≠ .attach params)
    (resume : ∀ action address, c = .resume action address → action = RunAction.singleStep) :
    Serving r map (backend c) :=
  .ask fun _ hs => ⟨hs.same, within, attach, fun action address he _ => resume action address he⟩

/-- A call that asks for no resource. -/
theorem backend_plain {c : Call} (hc : c.routine = true) (within : c.Within r) :
    Serving r map (backend c) := by
  apply backend_serving within
  · intro params he
    rw [he] at hc
    exact absurd hc (by simp [Call.routine])
  · intro action address he
    rw [he] at hc
    exact absurd hc (by simp [Call.routine])

theorem txSink_serving (f : List UInt8) : Serving r map (txSink f) := .ask fun _ _ => trivial

/-- An update of other fields. -/
theorem updateOther_serving {f : Session → Session}
    (hf : ∀ s, ((f s).resources, (f s).regions, (f s).swTable, (f s).swStepOverPending) =
      (s.resources, s.regions, s.swTable, s.swStepOverPending)) :
    Serving r map (updateSession f) := by
  apply Action.Guarded.modify
  intro s hs
  obtain ⟨hresources, hregions, htable, hpending⟩ := by simpa only [Prod.mk.injEq] using hf s
  exact hs.keep (by rw [hresources, hregions]) (fun hne => htable ▸ hne) fun hp =>
    hs.pending (hpending ▸ hp)

/-- An update that drops the step-over. -/
theorem updateDropped_serving {f : Session → Session}
    (hf : ∀ s, ((f s).resources, (f s).regions, (f s).swTable, (f s).swStepOverPending) =
      (s.resources, s.regions, s.swTable, false)) :
    Serving r map (updateSession f) := by
  apply Action.Guarded.modify
  intro s hs
  obtain ⟨hresources, hregions, htable, hpending⟩ := by simpa only [Prod.mk.injEq] using hf s
  exact hs.keep (by rw [hresources, hregions]) (fun hne => htable ▸ hne) fun hp =>
    absurd (hpending.symm.trans hp) (by decide)

/-- A table that is no longer than before. -/
theorem updateTable_serving {f : List SwBp → List SwBp} (hf : f [] = []) :
    Serving r map (updateTable f) := by
  apply Action.Guarded.modify
  intro s hs
  refine hs.keep rfl (fun hne he => hne ?_) hs.pending
  change f s.swTable = []
  rw [he, hf]

/-- A step-over that the table asks for. -/
theorem updatePending_serving (address : UInt64) (has : r.has Cap.softwareBp = true) :
    Serving r map
      (updateSession fun s => { s with swStepOverPending := true, swStepOverAddress := address }) :=
  .modify fun _ hs => hs.keep rfl id fun _ => has

/-! Frames. -/

theorem writePayload_serving (offset : ℕ) (bytes : List UInt8) :
    Serving r map (writePayload offset bytes) := updateOther_serving fun _ => rfl

theorem beginFrame_serving (kind : UInt8) (opcode : UInt16) (requestId : UInt32) (size : ℕ) :
    Serving r map (beginFrame kind opcode requestId size) :=
  .ite (fun _ => .pure _) fun _ => .bind (updateOther_serving fun _ => rfl) fun _ => .pure _

theorem finishFrame_serving : Serving r map finishFrame := by
  apply getSession_serving
  intro s _
  apply Action.Guarded.ite (fun _ => .pure _)
  intro _
  cases Crc32.calculateMessage (s.scratch.read 0 s.txFrameSize) with
  | none => exact .bind (updateOther_serving fun _ => rfl) fun _ => .pure _
  | some crc =>
    exact .bind (updateOther_serving fun _ => rfl) fun _ => .bind (txSink_serving _) fun _ =>
      .ite (fun _ => .bind (updateOther_serving fun _ => rfl) fun _ => .pure _) fun _ => .pure _

theorem respond_serving (opcode : UInt16) (requestId : UInt32) (status : Status) :
    Serving r map (respond opcode requestId status) := by
  have sent : Serving r map (sendResponse opcode requestId status []) :=
    .bind (beginFrame_serving _ _ _ _) fun _ => .ite (fun _ => .pure _) fun _ =>
      .bind (writePayload_serving _ _) fun _ =>
        .ite (fun _ => .bind (writePayload_serving _ _) fun _ => finishFrame_serving) fun _ =>
          finishFrame_serving
  exact .bind sent fun _ => .pure _

theorem emitPendingStopped_serving : Serving r map emitPendingStopped := by
  have sent : Serving r map sendStopped :=
    getSession_serving fun _ _ => .bind (beginFrame_serving _ _ _ _) fun _ =>
      .ite (fun _ => .pure _)
      fun _ => .bind (writePayload_serving _ _) fun _ => .bind (writePayload_serving _ _) fun _ =>
        .bind (writePayload_serving _ _) fun _ => .bind finishFrame_serving fun _ =>
          .bind (updateOther_serving fun _ => rfl) fun _ => .pure _
  exact getSession_serving fun _ _ => .ite (fun _ => .pure _) fun _ => .bind sent fun _ => .pure _

theorem enterLost_serving (reason : TargetLostReason) : Serving r map (enterLost reason) := by
  have sent : Serving r map (sendTargetLost reason) :=
    .bind (beginFrame_serving _ _ _ _) fun _ => .ite (fun _ => .pure _) fun _ =>
      .bind (writePayload_serving _ _) fun _ => .bind (writePayload_serving _ _) fun _ =>
        finishFrame_serving
  exact getSession_serving fun _ _ => .ite (fun _ => .pure _) fun _ =>
    .bind (updateOther_serving fun _ => rfl) fun _ => .bind sent fun _ => .pure _

theorem sendBackendFailure_serving (opcode : UInt16) (requestId : UInt32) (result : EspErr)
    (fallback : Status) : Serving r map (sendBackendFailure opcode requestId result fallback) :=
  .ite (fun _ => .bind (respond_serving _ _ _) fun _ => .bind (enterLost_serving _)
    fun _ => .pure _)
    fun _ => respond_serving _ _ _

/-! The shadow table. -/

theorem swBpInstallOne_serving (index : ℕ) : Serving r map (swBpInstallOne index) := by
  apply Action.Guarded.bind (updateTable_serving (List.modify_nil _ _))
  intro _
  apply getSession_serving
  intro s _
  cases s.swTable[index]? with
  | none => exact .pure _
  | some entry => exact .bind (backend_plain rfl trivial) fun _ => .pure _

theorem swBpRestoreOne_serving (index : ℕ) : Serving r map (swBpRestoreOne index) := by
  apply getSession_serving
  intro s _
  cases s.swTable[index]? with
  | none => exact .pure _
  | some entry =>
    exact .ite (fun _ => .pure _) fun _ => .bind (backend_plain rfl trivial) fun _ =>
      .ite (fun _ => .bind (updateTable_serving (List.modify_nil _ _)) fun _ => .pure _)
        fun _ => .pure _

theorem swBpRestoreTurn_serving (kept : Bool × ℕ) (index : ℕ) :
    Serving r map (swBpRestoreTurn kept index) :=
  .bind (swBpRestoreOne_serving index) fun _ => .ite (fun _ => .pure _) fun _ =>
    .bind (updateTable_serving (moveDown_nil _ _)) fun _ => .pure _

theorem swBpRestoreAll_serving : Serving r map swBpRestoreAll :=
  getSession_serving fun _ _ => .bind (.foldFrom swBpRestoreTurn_serving _ _ _) fun _ =>
    .bind (updateTable_serving List.take_nil) fun _ => .pure _

theorem swBpRecord_serving (entries : List BpEntry)
    (has : entries ≠ [] → r.has Cap.softwareBp = true) : Serving r map (swBpRecord entries) := by
  induction entries with
  | nil => exact .pure _
  | cons entry entries ih =>
    have has := has (List.cons_ne_nil _ _)
    have record (a : Answer) : Serving r map (updateTable (· ++ [entry.recorded a.data])) :=
      .modify fun s hs => ⟨hs.same, hs.regions, fun _ => has, hs.pending, hs.steps⟩
    have undo (status : Status) : Serving r map (do let _ ← swBpRestoreAll; return status) :=
      .bind swBpRestoreAll_serving fun _ => .pure _
    exact getSession_serving fun _ _ => .ite (fun _ => undo _) fun _ => .ite (fun _ => undo _)
      fun _ => .bind (backend_plain rfl trivial) fun a => .ite (fun _ => undo _)
        fun _ => .ite (fun _ => undo _)
        fun _ => .bind (record a) fun _ => ih fun _ => has

theorem swBpInstallFrom_serving (n index : ℕ) : Serving r map (swBpInstallFrom index n) := by
  induction n generalizing index with
  | zero => exact .pure _
  | succ n ih =>
    exact .bind (swBpInstallOne_serving index) fun _ =>
      .ite (fun _ => .bind swBpRestoreAll_serving fun _ => .pure _) fun _ => ih (index + 1)

theorem swBpApply_serving (entries : List BpEntry)
    (has : entries ≠ [] → r.has Cap.softwareBp = true) : Serving r map (swBpApply entries) :=
  .bind swBpRestoreAll_serving fun _ => .ite (fun _ => .pure _) fun _ =>
    .bind (swBpRecord_serving entries has) fun _ => .ite (fun _ => .pure _) fun _ =>
      getSession_serving fun _ _ => swBpInstallFrom_serving _ _

/-- Clearing the run configuration asks for nothing. -/
theorem rollbackRunConfig_serving : Serving r map rollbackRunConfig :=
  .bind swBpRestoreAll_serving fun _ => .bind (backend_plain rfl (Nat.zero_le _)) fun _ =>
    .bind (backend_plain rfl (Nat.zero_le _)) fun _ =>
      .bind (backend_plain rfl (UInt32.zero_and)) fun _ => .bind (updateOther_serving fun _ => rfl)
        fun _ => .pure _

theorem failRun_serving (requestId : UInt32) (status : Status) :
    Serving r map (failRun requestId status) :=
  .bind rollbackRunConfig_serving fun _ => .bind (respond_serving _ _ _) fun _ =>
    .ite (fun _ => enterLost_serving _) fun _ => .pure _

theorem swBpRestoreFound_serving (bp : Option ℕ) : Serving r map (swBpRestoreFound bp) := by
  cases bp with
  | none => exact .pure _
  | some index => exact swBpRestoreOne_serving index

theorem swBpInstallFound_serving (bp : Option ℕ) : Serving r map (swBpInstallFound bp) := by
  cases bp with
  | none => exact .pure _
  | some index => exact swBpInstallOne_serving index

theorem writeCurrentPc_serving (pc : UInt32) : Serving r map (writeCurrentPc pc) :=
  .bind (backend_plain rfl trivial) fun _ => .pure _

theorem pollStepHalted_serving (n : ℕ) : Serving r map (pollStepHalted n) := by
  induction n with
  | zero => exact .pure _
  | succ n ih =>
    exact .bind (backend_plain rfl trivial) fun _ => .ite (fun _ => .pure _) fun _ =>
      .ite (fun _ => .pure _) fun _ => ih

/-- The internal step needs a step-over, that a software breakpoint, and that the single step. -/
theorem executeStepOver_serving (action : UInt8) : Serving r map (executeStepOver action) := by
  apply getSession_serving
  intro s hs
  apply Action.Guarded.ite (fun _ => .pure _)
  intro pending
  have has : r.has Cap.singleStep = true := hs.steps (hs.pending (by simpa using pending))
  have step : Serving r map (backend (.resume RunAction.singleStep 0)) :=
    backend_serving ⟨fun _ => has, fun he => absurd he (by decide)⟩ (fun _ he => by cases he)
      fun _ _ he => by cases he; rfl
  apply Action.Guarded.bind (swBpRestoreFound_serving _)
  intro _
  apply Action.Guarded.ite (fun _ => .pure _)
  intro _
  apply Action.Guarded.bind (writeCurrentPc_serving _)
  intro _
  apply Action.Guarded.ite (fun _ => .bind (swBpInstallFound_serving _) fun _ => .pure _)
  intro _
  apply Action.Guarded.bind step
  intro _
  apply Action.Guarded.ite (fun _ => .pure _)
  intro _
  apply Action.Guarded.bind (pollStepHalted_serving _)
  intro outcome
  cases outcome with
  | error reason => exact .pure _
  | ok stop =>
    exact .bind (updateDropped_serving fun _ => rfl) fun _ => .bind (swBpInstallFound_serving _)
      fun _ => .ite (fun _ => .pure _) fun _ => .ite (fun _ => .pure _) fun _ =>
        .ite (fun _ => .pure _) fun _ => .pure _

/-! Stops. -/

theorem captureSnapshot_serving : Serving r map captureSnapshot := by
  have stack : Serving r map captureStackSnapshot := by
    apply getSession_serving
    intro s _
    split
    · exact .pure _
    · dsimp only
      split
      · exact .pure _
      · split
        · exact .pure _
        · exact .bind (backend_plain rfl trivial) fun _ => .bind (updateOther_serving fun _ => rfl)
            fun _ => .ite (fun _ => .pure _) fun _ => updateOther_serving fun _ => rfl
  exact getSession_serving fun _ _ => .ite
    (fun _ => .bind (backend_plain rfl trivial) fun _ => .bind (updateOther_serving fun _ => rfl)
      fun _ => .ite (fun _ => .bind (updateOther_serving fun _ => rfl) fun _ => stack)
        fun _ => .pure _) fun _ => .pure _

theorem enterHalted_serving (stop : StopDetect) : Serving r map (enterHalted stop) := by
  apply getSession_serving
  intro s hs
  apply Action.Guarded.ite (fun _ => .pure _)
  intro _
  have next : Serving r map (updateSession (·.nextStop (classifyStop s stop))) := by
    refine .modify fun s₁ hs₁ => hs₁.keep rfl id fun hp => hs.armed ?_
    have hsome : (classifyStop s stop).stepOver.isSome = true := hp
    rw [classifyStop_stepOver] at hsome
    split at hsome
    · cases found : softwareHit s.swTable stop with
      | none => exact absurd (found ▸ hsome) (by simp)
      | some bp => exact softwareHit_ne_nil found
    · exact absurd hsome (by simp)
  exact .bind next fun _ => .ite (fun _ => .bind (enterLost_serving _) fun _ => .pure _) fun _ =>
    .bind (updateOther_serving fun _ => rfl) fun _ => captureSnapshot_serving

theorem pollStop_serving : Serving r map pollStop :=
  .bind (backend_plain rfl trivial) fun _ => .ite (fun _ => enterLost_serving _) fun _ =>
    .ite (fun _ => .bind (enterHalted_serving _) fun _ => emitPendingStopped_serving)
      fun _ => .pure _

/-! What RUN was checked for. -/

/-- The entries collected so far stay within the session's resources. -/
def Collected (s : Session) (c : List BpEntry × List BpEntry) : Prop :=
  c.1.length ≤ s.hardwareBreakpointLimit.toNat ∧ (c.2 ≠ [] → s.hasCapability Cap.softwareBp = true)

theorem Collected.collect {c c' : List BpEntry × List BpEntry} {bp : Breakpoint}
    (hc : Collected s c) (hok : collectBreakpoint s c bp = .ok c') : Collected s c' := by
  simp only [collectBreakpoint, bind, Except.bind, pure, Except.pure, throw, throwThe,
    MonadExceptOf.throw] at hok
  obtain ⟨-, hok⟩ := passed hok (by simp)
  by_cases software : bp.kind = BreakpointKind.software
  · rw [if_pos software] at hok
    obtain ⟨capable, hok⟩ := passed hok (by simp)
    obtain ⟨-, hok⟩ := passed hok (by simp)
    obtain ⟨-, hok⟩ := passed hok (by simp)
    obtain rfl := Except.ok.inj hok
    exact ⟨hc.1, fun _ => by simpa using capable⟩
  · rw [if_neg software] at hok
    obtain ⟨-, hok⟩ := passed hok (by simp)
    obtain ⟨-, hok⟩ := passed hok (by simp)
    obtain ⟨room, hok⟩ := passed hok (by simp)
    obtain rfl := Except.ok.inj hok
    refine ⟨?_, hc.2⟩
    rw [List.length_append, List.length_singleton]
    omega

theorem Collected.collectAll (bps : List Breakpoint) {c c' : List BpEntry × List BpEntry}
    (hc : Collected s c) (hok : bps.foldlM (collectBreakpoint s) c = .ok c') : Collected s c' := by
  induction bps generalizing c with
  | nil =>
    obtain rfl := Except.ok.inj hok
    exact hc
  | cons bp bps ih =>
    rw [List.foldlM_cons] at hok
    obtain ⟨c₁, hstep, hrest⟩ := Except.bind_ok hok
    exact ih (hc.collect hstep) hrest

theorem mapM_ok_length {α β : Type} {f : α → Except Status β} {as : List α} {bs : List β}
    (hok : as.mapM f = .ok bs) : bs.length = as.length := by
  induction as generalizing bs with
  | nil =>
    obtain rfl := Except.ok.inj hok
    rfl
  | cons a as ih =>
    rw [List.mapM_cons] at hok
    obtain ⟨b, -, hok⟩ := Except.bind_ok hok
    obtain ⟨bs', hrest, hok⟩ := Except.bind_ok hok
    obtain rfl := Except.ok.inj hok
    rw [List.length_cons, List.length_cons, ih hrest]

/-- What a RUN request asks for is there. -/
structure RunBounded (s : Session) (plan : RunPlan) : Prop where
  hardware : plan.hwEntries.length ≤ s.hardwareBreakpointLimit.toNat
  software : plan.swEntries ≠ [] → s.hasCapability Cap.softwareBp = true
  watchpoints : plan.wpEntries.length ≤ s.hardwareWatchpointLimit.toNat
  vectors : plan.request.vectorCatchMask &&& ~~~s.supportedVectorCatch = 0
  step : plan.request.action = RunAction.singleStep → s.hasCapability Cap.singleStep = true
  runTo : plan.request.action = RunAction.toAddress → s.hasCapability Cap.hardwareBp = true ∧
    ((∃ entry ∈ plan.hwEntries, entry.address = plan.request.runToAddress) ∨
      plan.hwEntries.length < s.hardwareBreakpointLimit.toNat)

theorem checkRun_bounded {payload : List UInt8} {plan : RunPlan}
    (hok : checkRun s payload = .ok plan) :
    RunBounded s plan := by
  obtain ⟨req, hreq, hok⟩ := Except.bind_ok hok
  obtain ⟨⟨hwEntries, swEntries⟩, hbps, hok⟩ := Except.bind_ok hok
  obtain ⟨_, hslot, hok⟩ := Except.bind_ok hok
  simp only [bind, Except.bind, pure, Except.pure, throw, throwThe, MonadExceptOf.throw] at hok
  obtain ⟨-, hok⟩ := passed hok (by simp)
  obtain ⟨most, hok⟩ := passed hok (by simp)
  obtain ⟨wpEntries, hwps, hok⟩ := Except.bind_ok hok
  obtain rfl := Except.ok.inj hok
  have collected : Collected s (hwEntries, swEntries) :=
    Collected.collectAll _ ⟨Nat.zero_le _, fun hne => absurd rfl hne⟩ hbps
  have counted := mapM_ok_length hwps
  simp only [checkRunRequest, bind, Except.bind, pure, Except.pure, throw, throwThe,
    MonadExceptOf.throw] at hreq
  obtain ⟨-, hreq⟩ := passed hreq (by simp)
  obtain ⟨-, hreq⟩ := passed hreq (by simp)
  obtain ⟨-, hreq⟩ := passed hreq (by simp)
  obtain ⟨-, hreq⟩ := passed hreq (by simp)
  obtain ⟨-, hreq⟩ := passed hreq (by simp)
  obtain ⟨step, hreq⟩ := passed hreq (by simp)
  obtain ⟨vectors, hreq⟩ := passed hreq (by simp)
  obtain ⟨-, hreq⟩ := passed hreq (by simp)
  obtain ⟨-, hreq⟩ := passed hreq (by simp)
  obtain ⟨-, hreq⟩ := passed hreq (by simp)
  obtain rfl := Except.ok.inj hreq
  refine ⟨collected.1, collected.2, ?_, not_not.mp vectors, ?_, fun runTo => ?_⟩
  · rw [counted]
    have hle : (RunRequest.parse payload).watchpointCount.toNat ≤
        s.hardwareWatchpointLimit.toNat := by
      have hnot := UInt16.not_lt.mp most
      exact UInt16.le_iff_toNat_le.mp hnot
    simpa [parseTable] using hle
  · simpa using step
  · simp only [checkRunToSlot, bind, Except.bind, pure, Except.pure, throw, throwThe,
      MonadExceptOf.throw] at hslot
    rw [if_pos runTo] at hslot
    obtain ⟨capable, hslot⟩ := passed hslot (by simp)
    obtain ⟨room, -⟩ := passed hslot (by simp)
    refine ⟨by simpa using capable, ?_⟩
    rcases not_and_or.mp room with among | less
    · simp only [Bool.not_eq_true', Bool.not_eq_false, List.any_eq_true, beq_iff_eq] at among
      exact Or.inl among
    · exact Or.inr (Nat.lt_of_not_le less)

theorem Provided.has_capability (hs : Provided r map s) (cap : UInt32) :
    r.has cap = s.hasCapability cap := by
  rw [← hs.same]
  rfl

/-- The bounds of a RUN, for the resources of the session that checked it. -/
theorem RunBounded.hardware_within {plan : RunPlan} (hb : RunBounded s plan)
    (hs : Provided r map s) :
    plan.hwEntries.length ≤ r.hardwareBreakpoints.toNat := by
  rw [← hs.same]
  exact hb.hardware

theorem RunBounded.watchpoints_within {plan : RunPlan} (hb : RunBounded s plan)
    (hs : Provided r map s) : plan.wpEntries.length ≤ r.hardwareWatchpoints.toNat := by
  rw [← hs.same]
  exact hb.watchpoints

theorem RunBounded.vectors_within {plan : RunPlan} (hb : RunBounded s plan)
    (hs : Provided r map s) : plan.request.vectorCatchMask &&& ~~~r.vectorCatch = 0 := by
  rw [← hs.same]
  exact hb.vectors

theorem RunBounded.resume_within {plan : RunPlan} (hb : RunBounded s plan) (hs : Provided r map s) :
    Call.Within r (.resume plan.request.action plan.request.runToAddress) := by
  constructor
  · intro single
    rw [hs.has_capability]
    exact hb.step single
  · intro runTo
    rw [hs.has_capability]
    exact (hb.runTo runTo).1

/-! The handlers. -/

theorem haltForDetach_serving (requestId : UInt32) : Serving r map (haltForDetach requestId) := by
  apply getSession_serving
  intro s hs
  apply Action.Guarded.ite (fun _ => .pure _)
  intro _
  have halted : Serving r map (backend (.halt haltTimeoutMs)) := backend_plain rfl trivial
  apply Action.Guarded.bind halted
  intro a
  apply Action.Guarded.ite (fun _ => .bind (sendBackendFailure_serving _ _ _ _) fun _ => .pure _)
  intro _
  cases found : softwareHit s.swTable a.stop with
  | none => exact .pure _
  | some bp =>
    have has := hs.armed (softwareHit_ne_nil found)
    exact .bind (updatePending_serving _ has) fun _ => .pure _

theorem opDetach_serving (requestId : UInt32) (payload : List UInt8) :
    Serving r map (opDetach requestId payload) := by
  have refuse : Serving r map (do respond Opcode.detach requestId .swdError; return) :=
    .bind (respond_serving _ _ _) fun _ => .pure _
  have detach (action : UInt8) : Serving r map (backend (.detach action)) :=
    backend_serving trivial (fun _ he => by cases he) fun _ _ he => by cases he
  have release (action : UInt8) : Serving r map (releaseTarget requestId action) :=
    .bind swBpRestoreAll_serving fun _ => .ite (fun _ => refuse) fun _ => .bind (detach action)
      fun _ => .ite (fun _ => refuse) fun _ => .bind (respond_serving _ _ _) fun _ =>
        updateDropped_serving fun _ => rfl
  rw [opDetach]
  split
  · exact respond_serving _ _ _
  · exact .bind (haltForDetach_serving _) fun _ => .ite (fun _ => .pure _) fun _ =>
      getSession_serving fun _ _ => .ite (fun _ => .bind (writeCurrentPc_serving _) fun _ =>
        .ite (fun _ => refuse) fun _ => release _) fun _ => release _

theorem opGetState_serving (requestId : UInt32) (payload : List UInt8) :
    Serving r map (opGetState requestId payload) :=
  .ite (fun _ => .bind (respond_serving _ _ _) fun _ => .pure _) fun _ =>
    .bind (beginFrame_serving _ _ _ _) fun _ => .ite (fun _ => .pure _) fun _ =>
      getSession_serving fun _ _ => .bind (writePayload_serving _ _) fun _ =>
        .bind finishFrame_serving fun _ => .pure _

theorem opReadMemory_serving (requestId : UInt32) (payload : List UInt8) :
    Serving r map (opReadMemory requestId payload) := by
  apply getSession_serving
  intro s _
  split
  · exact respond_serving _ _ _
  · exact .bind (beginFrame_serving _ _ _ _) fun _ => .ite (fun _ => .pure _) fun _ =>
      .bind (backend_plain rfl trivial) fun _ => .bind (writePayload_serving _ _) fun _ =>
        .ite (fun _ => .bind (sendBackendFailure_serving _ _ _ _) fun _ => .pure _) fun _ =>
          getSession_serving fun _ _ => .bind (writePayload_serving _ _) fun _ =>
            .bind (writePayload_serving _ _) fun _ => .bind finishFrame_serving fun _ => .pure _

theorem opWriteMemory_serving (requestId : UInt32) (payload : List UInt8) :
    Serving r map (opWriteMemory requestId payload) := by
  apply getSession_serving
  intro s _
  split
  · exact respond_serving _ _ _
  · exact .bind (updateOther_serving fun _ => rfl) fun _ => .bind (backend_plain rfl trivial)
      fun _ => .ite (fun _ => .bind (sendBackendFailure_serving _ _ _ _) fun _ => .pure _) fun _ =>
        .bind (updateTable_serving rfl) fun _ => respond_serving _ _ _

theorem opReadRegisters_serving (requestId : UInt32) (payload : List UInt8) :
    Serving r map (opReadRegisters requestId payload) := by
  apply getSession_serving
  intro s _
  split
  · exact respond_serving _ _ _
  · exact .bind (beginFrame_serving _ _ _ _) fun _ =>
      .ite (fun _ => .bind (respond_serving _ _ _) fun _ => .pure _) fun _ =>
        .bind (backend_plain rfl trivial) fun _ => .bind (writePayload_serving _ _) fun _ =>
          .ite (fun _ => .bind (sendBackendFailure_serving _ _ _ _) fun _ => .pure _) fun _ =>
            .ite (fun _ => .bind (respond_serving _ _ _) fun _ => .pure _) fun _ =>
              .bind (updateOther_serving fun _ => rfl) fun _ => getSession_serving fun _ _ =>
                .bind (writePayload_serving _ _) fun _ => .bind finishFrame_serving fun _ => .pure _

theorem opWriteRegisters_serving (requestId : UInt32) (payload : List UInt8) :
    Serving r map (opWriteRegisters requestId payload) := by
  have cancel (data : List UInt8) (count : ℕ) :
      Serving r map (updateSession (updateStepOverAfterRegisterWrite data count)) := by
    apply Action.Guarded.modify
    intro s hs
    rcases updateStepOver_cases data count s with same | cancelled
    · rw [same]
      exact hs
    · rw [cancelled]
      exact hs.keep rfl id fun hp => absurd hp (by simp)
  apply getSession_serving
  intro s _
  split
  · exact respond_serving _ _ _
  · exact .bind (backend_plain rfl trivial) fun _ =>
      .ite (fun _ => .bind (sendBackendFailure_serving _ _ _ _) fun _ => .pure _) fun _ =>
        .bind (cancel _ _) fun _ => respond_serving _ _ _

theorem installRun_serving {plan : RunPlan} (hb : RunBounded s plan) (hs : Provided r map s) :
    Serving r map (installRun plan) := by
  have has (hne : plan.swEntries ≠ []) : r.has Cap.softwareBp = true := by
    rw [hs.has_capability]
    exact hb.software hne
  exact .bind (swBpApply_serving _ has) fun _ => .ite (fun _ => .pure _) fun _ =>
    .bind (backend_plain rfl (hb.hardware_within hs)) fun _ => .ite (fun _ => .pure _) fun _ =>
      .bind (updateOther_serving fun _ => rfl) fun _ =>
        .bind (backend_plain rfl (hb.watchpoints_within hs)) fun _ => .ite (fun _ => .pure _)
        fun _ => .bind (backend_plain rfl (hb.vectors_within hs)) fun _ =>
          .ite (fun _ => .pure _) fun _ => .pure _

/-- Where RUN goes on to the user's resume, no step-over is pending. -/
theorem executeStepOver_consumed (action : UInt8) :
    (executeStepOver action).wp s h fun outcome s' _ =>
      outcome = .notNeeded ∨ outcome = .stepped → s'.swStepOverPending = false := by
  simp only [executeStepOver, Action.wp_bind, getSession_wp, Action.wp_ite, Action.wp_pure]
  refine ⟨fun idle _ => by simpa using idle, fun _ => ?_⟩
  generalize swBpFindByAddress s.swTable s.swStepOverAddress = bp
  apply Action.wp_mono (swBpRestoreFound_quiet bp)
  intro ok s₁ _ _
  refine ⟨fun _ hf => absurd hf (by simp), fun _ => ?_⟩
  simp only [writeCurrentPc, Action.wp_bind, backend_wp, Action.wp_pure]
  intro a
  constructor
  · intro _
    apply Action.wp_mono (swBpInstallFound_quiet bp)
    intro _ _ _ _ hf
    exact absurd hf (by simp)
  intro _ step
  refine ⟨fun _ hf => absurd hf (by simp), fun _ => ?_⟩
  apply Action.wp_mono (pollStepHalted_polled 100)
  intro outcome _ _ _
  cases outcome with
  | error reason => exact fun hf => absurd hf (by simp)
  | ok stop =>
    simp only [Action.wp_bind, updateSession_wp, Action.wp_ite, Action.wp_pure]
    apply Action.wp_mono (swBpInstallFound_quiet bp)
    intro ok' s₅ _ installed
    have cleared : s₅.swStepOverPending = false := by
      rw [installed.session]
      rfl
    exact ⟨fun _ _ => cleared, fun _ => ⟨fun _ _ => cleared, fun _ =>
      ⟨fun _ _ => cleared, fun _ _ => cleared⟩⟩⟩

/-- The user's resume, with no step-over pending. -/
theorem resumeRun_within (requestId : UInt32) (req : RunRequest) (hs : Provided r map s)
    (idle : s.swStepOverPending = false)
    (within : Call.Within r (.resume req.action req.runToAddress)) :
    (resumeRun requestId req).wp s h fun _ s' h' =>
      Provided r map s' ∧ ∃ evs, h' = h ++ evs ∧ ∀ ev ∈ evs, InReach r ev.1 := by
  have rest (a : Answer) : Serving r map (do
      if a.code ≠ .ok then
        respond Opcode.run requestId .targetLost
        enterLost (lostReason a.code)
        return
      updateSession fun s =>
        { s with
          runningAction := req.action
          runToActive := req.action == RunAction.toAddress
          activeRunToAddress := if req.action = RunAction.toAddress then req.runToAddress else 0
          state := .running }
      respond Opcode.run requestId .ok
      pollStop) :=
    .ite (fun _ => .bind (respond_serving _ _ _) fun _ => .bind (enterLost_serving _)
      fun _ => .pure _)
      fun _ => .bind (updateOther_serving fun _ => rfl) fun _ => .bind (respond_serving _ _ _)
        fun _ => pollStop_serving
  have asked : InReach r (.call s (.resume req.action req.runToAddress)) :=
    ⟨hs.same, within, (fun _ he => by cases he), fun _ _ _ pending =>
      absurd (idle.symm.trans pending) (by decide)⟩
  rw [resumeRun, Action.wp_bind, backend_wp]
  intro a
  apply Action.wp_mono (rest a s _ hs)
  intro _ s' evs' done
  obtain ⟨provided, evs, he, inReach⟩ := done
  refine ⟨provided, ⟨.call s (.resume req.action req.runToAddress), a⟩ :: evs, ?_, fun ev hm => ?_⟩
  · rw [he, List.append_assoc, List.singleton_append]
  · rcases List.mem_cons.mp hm with rfl | hm
    · exact asked
    · exact inReach ev hm

theorem reportStep_serving (requestId : UInt32) (stop : StopDetect) (userStep : Bool) :
    Serving r map (reportStep requestId stop userStep) :=
  .bind (respond_serving _ _ _) fun _ => .bind (enterHalted_serving _) fun _ =>
    .ite (fun _ => .bind (updateOther_serving fun _ => rfl) fun _ => emitPendingStopped_serving)
      fun _ => emitPendingStopped_serving

theorem opRun_serving (requestId : UInt32) (payload : List UInt8) :
    Serving r map (opRun requestId payload) := by
  apply getSession_serving
  intro s hs
  cases hcheck : checkRun s payload with
  | error status => exact respond_serving _ _ _
  | ok plan =>
    have bounded := checkRun_bounded hcheck
    apply Action.Guarded.bind (installRun_serving bounded hs)
    intro failure
    cases failure with
    | some status => exact failRun_serving _ _
    | none =>
      intro s₁ h₁ hs₁
      rw [Action.wp_bind]
      apply Action.wp_mono (Action.wp_and (executeStepOver_serving plan.request.action s₁ h₁ hs₁)
        (executeStepOver_consumed plan.request.action))
      intro outcome s₂ evs₂ stepped
      obtain ⟨⟨hs₂, evs, he, inReach⟩, consumed⟩ := stepped
      have onward {m : SessionM Unit} (hm : ∀ h₂, m.wp s₂ h₂ fun _ s' h' =>
          Provided r map s' ∧ ∃ evs', h' = h₂ ++ evs' ∧ ∀ ev ∈ evs', InReach r ev.1) :
          m.wp s₂ (h₁ ++ evs₂) fun _ s' h' =>
            Provided r map s' ∧ ∃ evs', h' = h₁ ++ evs' ∧ ∀ ev ∈ evs', InReach r ev.1 := by
        apply Action.wp_mono (hm _)
        intro _ s₃ _ done
        obtain ⟨hs₃, evs', he', inReach'⟩ := done
        have whole := he'.trans (by rw [he, List.append_assoc])
        refine ⟨hs₃, evs ++ evs', whole, fun ev hmem => ?_⟩
        rcases List.mem_append.mp hmem with hmem | hmem
        · exact inReach ev hmem
        · exact inReach' ev hmem
      have resume (hc : outcome = .notNeeded ∨ outcome = .stepped) :=
        onward fun h₂ => resumeRun_within (h := h₂) requestId plan.request hs₂ (consumed hc)
          (bounded.resume_within hs)
      have report (stop : StopDetect) (userStep : Bool) :=
        onward fun h₂ => reportStep_serving requestId stop userStep s₂ h₂ hs₂
      have failed : Serving r map (do
          if ← rollbackRunConfig then
            respond Opcode.run requestId .swdError
          else
            respond Opcode.run requestId .swdError
            enterLost .swdFault) :=
        .bind rollbackRunConfig_serving fun _ => .ite (fun _ => respond_serving _ _ _) fun _ =>
          .bind (respond_serving _ _ _) fun _ => enterLost_serving _
      have lost (reason : TargetLostReason) : Serving r map (do
          respond Opcode.run requestId .targetLost
          enterLost reason) := .bind (respond_serving _ _ _) fun _ => enterLost_serving _
      cases outcome with
      | notNeeded => exact resume (Or.inl rfl)
      | stepped => exact resume (Or.inr rfl)
      | stoppedStep stop => exact report stop true
      | stoppedReal stop => exact report stop false
      | failed => exact onward fun h₂ => failed s₂ h₂ hs₂
      | failedLost reason => exact onward fun h₂ => lost reason s₂ h₂ hs₂

theorem opHalt_serving (requestId : UInt32) (payload : List UInt8) :
    Serving r map (opHalt requestId payload) :=
  .ite (fun _ => .bind (respond_serving _ _ _) fun _ => .pure _) fun _ =>
    getSession_serving fun _ _ => .ite (fun _ => .bind (respond_serving _ _ _) fun _ => .pure _)
      fun _ => .ite (fun _ => .bind (respond_serving _ _ _) fun _ =>
        .bind emitPendingStopped_serving fun _ => .pure _)
        fun _ => .bind (backend_plain rfl trivial) fun _ =>
          .ite (fun _ => .bind (sendBackendFailure_serving _ _ _ _) fun _ => .pure _) fun _ =>
            .bind (enterHalted_serving _) fun _ => .bind (respond_serving _ _ _) fun _ =>
              emitPendingStopped_serving

theorem prepareReset_serving (opcode : UInt16) (requestId : UInt32) :
    Serving r map (prepareReset opcode requestId) := by
  have clear : Serving r map (do
      if !(← rollbackRunConfig) then
        respond opcode requestId .swdError
        enterLost .swdFault
        return false
      return true) :=
    .bind rollbackRunConfig_serving fun _ => .ite (fun _ => .bind (respond_serving _ _ _) fun _ =>
      .bind (enterLost_serving _) fun _ => .pure _) fun _ => .pure _
  exact getSession_serving fun _ _ => .ite (fun _ => .bind (backend_plain rfl trivial) fun _ =>
    .ite (fun _ => .bind (sendBackendFailure_serving _ _ _ _) fun _ => .pure _) fun _ =>
      .bind (enterHalted_serving _) fun _ => clear) fun _ => clear

theorem resetFailed_serving (opcode : UInt16) (requestId : UInt32) (result : EspErr) :
    Serving r map (resetFailed opcode requestId result) :=
  .bind (respond_serving _ _ _) fun _ => enterLost_serving _

/-- What the checks of both resets leave to ask for. -/
theorem checkReset_within {cap : UInt32} {payload : List UInt8} {kind : UInt8}
    (hok : checkReset s cap payload = .ok kind) (hs : Provided r map s) : r.has cap = true ∧
      (kind = ResetKind.system ∧ r.has Cap.resetSystem = true ∨
        kind = ResetKind.nrst ∧ r.has Cap.resetNrst = true) := by
  simp only [checkReset, bind, Except.bind, pure, Except.pure, throw, throwThe,
    MonadExceptOf.throw] at hok
  obtain ⟨-, hok⟩ := passed hok (by simp)
  obtain ⟨known, hok⟩ := passed hok (by simp)
  obtain ⟨capable, hok⟩ := passed hok (by simp)
  obtain rfl := Except.ok.inj hok
  simp only [not_or, not_and, Bool.not_eq_true', Bool.not_eq_false] at capable
  obtain ⟨able, system, nrst⟩ := capable
  rw [hs.has_capability, hs.has_capability, hs.has_capability]
  refine ⟨able, ?_⟩
  by_cases isSystem : getU8 payload 0 = ResetKind.system
  · exact Or.inl ⟨isSystem, system isSystem⟩
  · have isNrst : getU8 payload 0 = ResetKind.nrst := by
      by_contra isNot
      exact known ⟨isSystem, isNot⟩
    exact Or.inr ⟨isNrst, nrst isNrst⟩

theorem reset_serving {kind : UInt8} {haltAfter : Bool}
    (within : Call.Within r (.reset kind haltAfter)) :
    Serving r map (backend (.reset kind haltAfter)) :=
  backend_serving within (fun _ he => by cases he) fun _ _ he => by cases he

theorem opResetHalt_serving (requestId : UInt32) (payload : List UInt8) :
    Serving r map (opResetHalt requestId payload) := by
  apply getSession_serving
  intro s hs
  cases hcheck : checkReset s Cap.resetHalt payload with
  | error status => exact respond_serving _ _ _
  | ok kind =>
    have within : Call.Within r (.reset kind true) := checkReset_within hcheck hs
    exact .bind (prepareReset_serving _ _) fun _ => .ite (fun _ => .pure _) fun _ =>
      .bind (reset_serving within) fun _ =>
        .ite (fun _ => .bind (resetFailed_serving _ _ _) fun _ => .pure _) fun _ =>
          .bind (updateDropped_serving fun _ => rfl) fun _ => .bind (enterHalted_serving _) fun _ =>
            .bind (updateOther_serving fun _ => rfl) fun _ => .bind (respond_serving _ _ _) fun _ =>
              emitPendingStopped_serving

theorem opResetRun_serving (requestId : UInt32) (payload : List UInt8) :
    Serving r map (opResetRun requestId payload) := by
  apply getSession_serving
  intro s hs
  cases hcheck : checkReset s Cap.resetRun payload with
  | error status => exact respond_serving _ _ _
  | ok kind =>
    have within : Call.Within r (.reset kind false) := checkReset_within hcheck hs
    exact .bind (prepareReset_serving _ _) fun _ => .ite (fun _ => .pure _) fun _ =>
      .bind (reset_serving within) fun _ =>
        .ite (fun _ => .bind (resetFailed_serving _ _ _) fun _ => .pure _) fun _ =>
          .bind (updateDropped_serving fun _ => rfl) fun _ => respond_serving _ _ _

theorem handlePoll_serving : Serving r map handlePoll :=
  getSession_serving fun _ _ => .ite (fun _ => .pure _) fun _ => pollStop_serving

theorem handleDisconnect_serving : Serving r map handleDisconnect := by
  have lose : Serving r map (do updateSession fun s => { s with state := .lost }; return false) :=
    .bind (updateOther_serving fun _ => rfl) fun _ => .pure _
  have detach : Serving r map (backend (.detach DetachAction.keepHalted)) :=
    backend_serving trivial (fun _ he => by cases he) fun _ _ he => by cases he
  exact .bind (updateOther_serving fun _ => rfl) fun _ => getSession_serving
    fun _ _ => .ite (fun _ => .pure _) fun _ => .bind (backend_plain rfl trivial)
      fun _ => .ite (fun _ => lose) fun _ => .bind swBpRestoreAll_serving
        fun _ => .ite (fun _ => lose) fun _ => .bind detach fun _ => .ite (fun _ => lose)
          fun _ => .bind (updateDropped_serving fun _ => rfl) fun _ => .pure _

theorem dispatch_serving {op : RequestOp} (hop : op ≠ .attach) (requestId : UInt32)
    (payload : List UInt8) : Serving r map (dispatch op requestId payload) := by
  cases op with
  | attach => exact absurd rfl hop
  | detach => exact opDetach_serving _ _
  | getState => exact opGetState_serving _ _
  | readMemory => exact opReadMemory_serving _ _
  | writeMemory => exact opWriteMemory_serving _ _
  | readRegisters => exact opReadRegisters_serving _ _
  | writeRegisters => exact opWriteRegisters_serving _ _
  | run => exact opRun_serving _ _
  | halt => exact opHalt_serving _ _
  | resetHalt => exact opResetHalt_serving _ _
  | resetRun => exact opResetRun_serving _ _

end SidpClient
