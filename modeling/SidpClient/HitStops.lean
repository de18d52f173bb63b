import SidpClient.HitReports
import SidpClient.RunAllOrNothing

/-! The stops of a run, each told as its classification by the tables of that run says. -/
namespace SidpClient
open LittleEndian Interactive

variable {s s' s₁ : Session} {h h' h₀ evs : SessionHistory} {f payload message : List UInt8}
  {α : Type} {stop : StopDetect} {req : RunRequest} {ids : List UInt32} {requestId : UInt32}
  {P : List SwBp → Prop}

/-- The identifier, address and instruction size of a software breakpoint. -/
abbrev PatchKey := UInt32 × UInt64 × UInt8

def Session.patchKeys (s : Session) : List PatchKey := s.swTable.map SwBp.key

def RunPlan.patchKeys (plan : RunPlan) : List PatchKey := plan.swEntries.map BpEntry.key

variable {keys : List PatchKey}

/-! Programs that report no stop. -/

def SilentEffect : Effect → Prop
  | .call _ _ => True
  | .offer f => isStopped f = false

/-- The program reports no stop, and keeps what holds of the shadow table. -/
abbrev Mute (P : List SwBp → Prop) (m : SessionM α) : Prop :=
  m.Guarded (fun s => P s.swTable) SilentEffect

/-- No program in a mute history reports a stop. -/
theorem unstopped_of_silent (before : Unstopped h₀ h) (silent : ∀ ev ∈ evs, SilentEffect ev.1) :
    Unstopped h₀ (h ++ evs) := by
  induction evs generalizing h with
  | nil => rwa [List.append_nil]
  | cons ev evs ih =>
    rw [List.append_cons]
    apply ih _ fun ev hm => silent ev (List.mem_cons_of_mem _ hm)
    obtain ⟨e, reply⟩ := ev
    have first := silent _ List.mem_cons_self
    cases e with
    | call s c => exact before.call
    | offer f =>
      exact before.offer fun stopped => absurd (first.symm.trans stopped) Bool.false_ne_true

theorem Mute.unstopped {m : SessionM α} (hm : Mute P m) (hp : P s.swTable)
    (before : Unstopped h₀ h) :
    m.wp s h fun _ s' h' => P s'.swTable ∧ Unstopped h₀ h' := by
  apply Action.wp_mono (hm s h hp)
  intro _ _ _ done
  obtain ⟨kept, evs, he, silent⟩ := done
  rw [he]
  exact ⟨kept, unstopped_of_silent before silent⟩

theorem Offered.mute {Q : List UInt8 → Prop} {dead : Bool} (ho : Offered s Q dead evs)
    (hQ : ∀ f, Q f → isStopped f = false) : ∀ ev ∈ evs, SilentEffect ev.1 := by
  intro ev hm
  rcases ho with ⟨-, -, rfl⟩ | ⟨-, f, accepted, hf, -, rfl⟩
  · exact absurd hm List.not_mem_nil
  · rw [List.mem_singleton.mp hm]
    exact hQ f hf

theorem QuietHistory.silent (q : QuietHistory h h') :
    ∃ evs, h' = h ++ evs ∧ ∀ ev ∈ evs, SilentEffect ev.1 := by
  obtain ⟨evs, rfl, quiet⟩ := q
  refine ⟨evs, rfl, fun ev hm => ?_⟩
  have hev := quiet ev hm
  obtain ⟨e, reply⟩ := ev
  cases e with
  | call s c => trivial
  | offer f => exact absurd hev id

theorem getSession_mute {m : Session → SessionM α} (hm : ∀ s, Mute P (m s)) :
    Mute P (getSession >>= m) :=
  .get_bind fun s _ => hm s

theorem backend_mute (c : Call) : Mute P (backend c) := .ask fun _ _ => trivial

theorem updateSession_mute {f : Session → Session} (hf : ∀ s, P s.swTable → P (f s).swTable) :
    Mute P (updateSession f) := .modify hf

theorem respond_mute (opcode : UInt16) (requestId : UInt32) (status : Status) :
    Mute P (respond opcode requestId status) := by
  intro s h hp
  apply respond_wp
  intro b dead evs sent
  exact ⟨hp, evs, rfl, sent.mute fun f hf => hf.not_stopped⟩

theorem enterLost_mute (reason : TargetLostReason) : Mute P (enterLost reason) := by
  intro s h hp
  apply enterLost_wp
  · exact fun _ => ⟨hp, [], (List.append_nil h).symm, fun _ hm => absurd hm List.not_mem_nil⟩
  · intro _ b dead evs sent
    exact ⟨hp, evs, rfl, sent.mute fun f hf => hf.not_stopped⟩

theorem sendBackendFailure_mute (opcode : UInt16) (requestId : UInt32) (result : EspErr)
    (fallback : Status) :
    Mute P (sendBackendFailure opcode requestId result fallback) :=
  .ite (fun _ => .bind (respond_mute _ _ _) fun _ => .bind (enterLost_mute _) fun _ => .pure _)
    fun _ => respond_mute _ _ _

/-- A frame built by a handler itself. -/
theorem finishFrame_mute (opcode : UInt16) (requestId : UInt32) {b : Buffer} {n : ℕ}
    (hn : isValidMessageSize n)
    (hheader : ∀ crc, HasHeader (sealedFrame b n crc) MsgKind.response opcode requestId)
    (hp : P s.swTable) (he : h' = h ++ evs) (hevs : ∀ ev ∈ evs, SilentEffect ev.1) :
    finishFrame.wp { s with scratch := b, txFrameSize := n } h' fun _ s' h' =>
      P s'.swTable ∧ ∃ evs', h' = h ++ evs' ∧ ∀ ev ∈ evs', SilentEffect ev.1 := by
  subst he
  refine finishFrame_offered (s := s) (P := fun f => HasHeader f MsgKind.response opcode requestId)
    hn hheader
    fun b' dead sent offers => ⟨hp, evs ++ sent, List.append_assoc _ _ _, fun ev hm => ?_⟩
  rcases List.mem_append.mp hm with hm | hm
  · exact hevs ev hm
  · exact offers.mute (fun f hf => hf.not_stopped (Or.inl (by decide))) ev hm

theorem silent_call {c : Call} {a : Answer} :
    ∀ ev ∈ ([⟨.call s c, a⟩] : SessionHistory), SilentEffect ev.1 := by
  intro ev hm
  rw [List.mem_singleton.mp hm]
  trivial

theorem opGetState_mute (requestId : UInt32) (payload : List UInt8) :
    Mute P (opGetState requestId payload) := by
  refine .ite (fun _ => .bind (respond_mute _ _ _) fun _ => .pure _) fun _ s h hp => ?_
  simp only [Action.wp_bind, beginFrame_wp, Action.wp_ite, Action.wp_pure, getSession_wp,
    writePayload_wp]
  refine ⟨fun hn => absurd hn (by decide), fun _ => ⟨fun hf => absurd hf (by decide), fun _ => ?_⟩⟩
  refine finishFrame_mute (s := s) Opcode.getState requestId (by decide)
    (fun crc => ?_) hp (List.append_nil h).symm fun _ hm => absurd hm List.not_mem_nil
  apply sealedFrame_hasHeader crc (by decide)
  rw [Buffer.read_write_of_disjoint _ _ _ _ _ (Or.inl (by decide)), read_headerBytes]

theorem opReadMemory_mute (requestId : UInt32) (payload : List UInt8) :
    Mute P (opReadMemory requestId payload) := by
  apply getSession_mute
  intro s₀
  cases hcheck : checkReadMemory s₀ payload with
  | error status => exact respond_mute _ _ _
  | ok req =>
    obtain ⟨-, -, hsize, -⟩ := checkReadMemory_ok hcheck
    simp only [maxFrameSize, headerSize, readMemoryResponseSize] at hsize
    intro s h hp
    simp only [Action.wp_bind, Action.wp_ite, Action.wp_pure, beginFrame_wp, backend_wp,
      writePayload_wp, getSession_wp]
    refine ⟨fun _ => ⟨fun _ => ⟨hp, [], (List.append_nil h).symm, fun _ hm =>
      absurd hm List.not_mem_nil⟩, fun hf => absurd rfl hf⟩, fun _ =>
        ⟨fun hf => absurd hf (by decide), fun _ a => ⟨fun _ => ?_, fun _ => ?_⟩⟩⟩
    · exact (sendBackendFailure_mute _ _ _ _).after hp silent_call
    · refine finishFrame_mute (s := s) Opcode.readMemory requestId ?_ (fun crc => ?_)
        hp rfl silent_call
      · simp only [isValidMessageSize, maxFrameSize, headerSize, readMemoryResponseSize]
        omega
      · apply sealedFrame_hasHeader crc (by simp only [headerSize]; omega)
        rw [Buffer.read_write_of_disjoint _ _ _ _ _ (Or.inl (by decide)),
          Buffer.read_write_of_disjoint _ _ _ _ _ (Or.inl (by decide)),
          Buffer.read_write_of_disjoint _ _ _ _ _ (Or.inl (by decide)), read_headerBytes]

theorem opWriteMemory_mute
    (overlap : ∀ table address data, P table → P (swBpWriteOverlap table address data))
    (requestId : UInt32) (payload : List UInt8) : Mute P (opWriteMemory requestId payload) := by
  apply getSession_mute
  intro s
  cases checkWriteMemory s payload with
  | error status => exact respond_mute _ _ _
  | ok req =>
    exact .bind (updateSession_mute fun _ hp => hp) fun _ => .bind (backend_mute _) fun _ =>
      .ite (fun _ => .bind (sendBackendFailure_mute _ _ _ _) fun _ => .pure _) fun _ =>
        .bind (updateSession_mute fun s hp => overlap _ _ _ hp) fun _ => respond_mute _ _ _

/-! What only ends a run. -/

def AnyTable (_ : List SwBp) : Prop := True

/-- A program that may change the table, but reports no stop. -/
abbrev Silent (m : SessionM α) : Prop := Mute AnyTable m

theorem Silent.of_quiet {m : SessionM α} (hm : ∀ s h, m.wp s h fun _ _ h' => QuietHistory h h') :
    Silent m :=
  fun s h _ => Action.wp_mono (hm s h) fun _ _ _ done => ⟨trivial, done.silent⟩

theorem swBpRestoreAll_silent : Silent swBpRestoreAll :=
  .of_quiet fun _ _ => Action.wp_mono swBpRestoreAll_quiet fun _ _ _ done => done.history

theorem handleDisconnect_silent : Silent handleDisconnect := by
  have lose : Silent (do updateSession fun s => { s with state := .lost }; return false) :=
    .bind (updateSession_mute fun _ hp => hp) fun _ => .pure _
  exact .bind (updateSession_mute fun _ hp => hp) fun _ => getSession_mute
    fun _ => .ite (fun _ => .pure _) fun _ => .bind (backend_mute _) fun _ => .ite (fun _ => lose)
      fun _ => .bind swBpRestoreAll_silent fun _ => .ite (fun _ => lose)
        fun _ => .bind (backend_mute _) fun _ => .ite (fun _ => lose) fun _ =>
        .bind (updateSession_mute fun _ hp => hp) fun _ => .pure _

/-- A disconnect leaves the table, or no running target. -/
theorem disconnect_ends :
    handleDisconnect.wp s h fun _ s' _ => s'.state = .running → s'.patchKeys = s.patchKeys := by
  simp only [handleDisconnect, Action.wp_bind, updateSession_wp, getSession_wp, Action.wp_ite,
    Action.wp_pure, backend_wp]
  refine ⟨fun _ _ => rfl, fun _ a => ⟨fun _ lost => absurd lost (by simp), fun _ => ?_⟩⟩
  apply Action.wp_from
  intro _ s₁ _
  refine ⟨fun _ lost => absurd lost (by simp), fun _ b =>
    ⟨fun _ lost => absurd lost (by simp), fun _ freed => ?_⟩⟩
  exact absurd freed (by simp [Session.detachedState])

theorem opDetach_silent (requestId : UInt32) (payload : List UInt8) :
    Silent (opDetach requestId payload) := by
  have refuse : Silent (do respond Opcode.detach requestId .swdError; return) :=
    .bind (respond_mute _ _ _) fun _ => .pure _
  have release (action : UInt8) : Silent (releaseTarget requestId action) :=
    .bind swBpRestoreAll_silent fun _ => .ite (fun _ => refuse) fun _ => .bind (backend_mute _)
      fun _ => .ite (fun _ => refuse) fun _ => .bind (respond_mute _ _ _) fun _ =>
        updateSession_mute fun _ hp => hp
  have halt : Silent (haltForDetach requestId) := by
    refine getSession_mute fun s => .ite (fun _ => .pure _) fun _ => .bind (backend_mute _) fun a =>
      .ite (fun _ => .bind (sendBackendFailure_mute _ _ _ _) fun _ => .pure _) fun _ => ?_
    cases softwareHit s.swTable a.stop with
    | none => exact .pure _
    | some bp => exact .bind (updateSession_mute fun _ hp => hp) fun _ => .pure _
  have write (pc : UInt32) : Silent (writeCurrentPc pc) :=
    .of_quiet fun _ _ => Action.wp_mono (writeCurrentPc_quiet pc) fun _ _ _ done => done.history
  rw [opDetach]
  cases checkDetach payload with
  | error status => exact respond_mute _ _ _
  | ok action =>
    exact .bind halt fun _ => .ite (fun _ => .pure _) fun _ => getSession_mute fun _ =>
      .ite (fun _ => .bind (write _) fun _ => .ite (fun _ => refuse) fun _ => release _)
        fun _ => release _

/-! A reset of a running target. -/

def HasKeys (keys : List PatchKey) (table : List SwBp) : Prop := table.map SwBp.key = keys

def IsTable (table other : List SwBp) : Prop := other = table

/-- Where the target still runs, these breakpoints are in the table. -/
def HoldsKeys (keys : List PatchKey) (s : Session) : Prop := s.state = .running → s.patchKeys = keys

/-- What comes before a reset halts the target, or fails with the table as it was. -/
theorem prepareReset_silent (opcode : UInt16) (before : Unstopped h₀ h) :
    (prepareReset opcode requestId).wp s h fun ok s' h' =>
      Unstopped h₀ h' ∧ (s'.state = .running → ok = false ∧ s'.swTable = s.swTable) := by
  -- the rollback sends nothing, and its failure leaves no running target
  have clear (s₁ : Session) (h₁ : SessionHistory) (unmoved : s₁.state ≠ .running)
      (before₁ : Unstopped h₀ h₁) :
      (do
        if !(← rollbackRunConfig) then
          respond opcode requestId .swdError
          enterLost .swdFault
          return false
        return true : SessionM Bool).wp s₁ h₁ fun ok s' h' =>
          Unstopped h₀ h' ∧ (s'.state = .running → ok = false ∧ s'.swTable = s.swTable) := by
    have silent : Silent rollbackRunConfig :=
      .of_quiet fun _ _ => Action.wp_mono rollbackRunConfig_quiet fun _ _ _ done => done.1
    have updating : Updating Clears (do
        if !(← rollbackRunConfig) then
          respond opcode requestId .swdError
          enterLost .swdFault
          return false
        return true) :=
      .bind (rollbackRunConfig_updating .untrack) fun _ =>
        .ite (.bind (respond_updating _ _ _) fun _ => .bind (enterLost_updating _)
          fun _ => .pure _) (.pure _)
    have mute : Silent (do
        if !(← rollbackRunConfig) then
          respond opcode requestId .swdError
          enterLost .swdFault
          return false
        return true) :=
      .bind silent fun _ => .ite (fun _ => .bind (respond_mute _ _ _) fun _ =>
        .bind (enterLost_mute _) fun _ => .pure _) fun _ => .pure _
    apply Action.wp_mono (Action.wp_and (updating.keeps (fun _ _ => unmoved_step) unmoved)
      (mute.unstopped trivial before₁))
    intro ok s' evs done
    exact ⟨done.2.2, fun running => absurd running done.1⟩
  rw [prepareReset, Action.wp_bind, getSession_wp, Action.wp_ite]
  refine ⟨fun _ => ?_, fun halted => clear s h ?_ before⟩
  · rw [Action.wp_bind, backend_wp]
    intro a
    have asked : Unstopped h₀ (h ++ [⟨.call s (.halt haltTimeoutMs), a⟩]) := before.call
    rw [Action.wp_ite]
    constructor
    · intro _
      rw [Action.wp_bind]
      apply Action.wp_mono ((sendBackendFailure_mute _ _ _ _).unstopped
        (P := IsTable s.swTable) rfl asked)
      intro _ s' _ failed
      exact ⟨failed.2, fun _ => ⟨rfl, failed.1⟩⟩
    · intro _
      rw [Action.wp_bind]
      apply Action.wp_mono (enterHalted_recorded _ asked)
      intro _ s₁ _ entered
      exact clear s₁ _ entered.2.1 entered.2.2.1
  · rw [not_not.mp halted]
    decide

/-- A reset whose request passed its check; only a confirmed one reaches its tail. -/
theorem reset_silent (opcode : UInt16) (kind : UInt8) (haltAfter : Bool)
    {tail : Answer → SessionM Unit} (calm : ∀ s h a, (tail a).wp s h fun _ _ => Calm h)
    (holds : HoldsKeys keys s) (running : s.state = .running) :
    (do
      if !(← prepareReset opcode requestId) then
        return
      let answer ← backend (.reset kind haltAfter)
      if answer.code ≠ .ok then
        resetFailed opcode requestId answer.code
        return
      tail answer : SessionM Unit).wp s h fun _ s' h' =>
        (confirmations h').resets = (confirmations h).resets →
        Unstopped h h' ∧ HoldsKeys keys s' := by
  rw [Action.wp_bind]
  apply Action.wp_mono (Action.wp_and (prepareReset_silent _ (Unstopped.start h))
    (prepareReset_calm _ _))
  intro ok s₁ evs prepared
  obtain ⟨⟨silent, kept⟩, prepared⟩ := prepared
  rw [Action.wp_ite]
  refine ⟨fun _ _ => ⟨silent, fun still => ?_⟩, fun hok => ?_⟩
  · rw [Session.patchKeys, (kept still).2]
    exact holds running
  have unmoved : s₁.state ≠ .running := fun still => absurd (kept still).1 (by simpa using hok)
  rw [Action.wp_bind, backend_wp]
  intro a
  rw [Action.wp_ite]
  constructor
  · intro _
    rw [Action.wp_bind]
    have mute : Silent (resetFailed opcode requestId a.code) :=
      .bind (respond_mute _ _ _) fun _ => enterLost_mute _
    apply Action.wp_mono (Action.wp_and ((resetFailed_updating _ _ _).keeps
      (fun _ _ => unmoved_step) unmoved)
      (mute.unstopped trivial silent.call))
    intro _ _ _ failed _
    exact ⟨failed.2.2, fun still => absurd still failed.1⟩
  · intro ok
    apply Action.wp_mono (calm _ _ a)
    intro _ s₂ _ rest same
    have counted : (confirmations (h ++ evs ++ [⟨.call s₁ (.reset kind haltAfter), a⟩])).resets =
        (confirmations (h ++ evs)).resets + 1 := by
      rw [confirmations_call, confirmationsCall, if_pos (not_not.mp ok)]
    rw [rest.resets, counted, prepared.resets] at same
    omega

/-- An answer changes neither the table nor what was reported. -/
theorem respond_holds (opcode : UInt16) (status : Status) (holds : HoldsKeys keys s)
    (running : s.state = .running) :
    (respond opcode requestId status).wp s h fun _ s' h' => Unstopped h h' ∧ HoldsKeys keys s' := by
  apply Action.wp_mono ((respond_mute _ _ _).unstopped (P := IsTable s.swTable) rfl
    (Unstopped.start h))
  intro _ s' _ answered
  refine ⟨answered.2, fun _ => ?_⟩
  rw [Session.patchKeys, answered.1]
  exact holds running

theorem opResetHalt_silent (holds : HoldsKeys keys s) (running : s.state = .running) :
    (opResetHalt requestId payload).wp s h fun _ s' h' =>
      (confirmations h').resets = (confirmations h).resets →
      Unstopped h h' ∧ HoldsKeys keys s' := by
  rw [opResetHalt, Action.wp_bind, getSession_wp]
  cases checkReset s Cap.resetHalt payload with
  | error status =>
    apply Action.wp_mono (respond_holds _ _ holds running)
    intro _ _ _ answered _
    exact answered
  | ok kind =>
    apply reset_silent _ kind true _ holds running
    intro s h a
    simp only [Action.wp_bind, updateSession_wp]
    apply Action.wp_mono (enterHalted_calm _)
    intro _ _ _ entered
    apply Action.wp_mono (respond_calm _ _ _)
    intro _ _ _ answered
    apply Action.wp_mono emitPendingStopped_calm
    intro _ _ _ emitted
    exact (entered.trans answered).trans emitted

theorem opResetRun_silent (holds : HoldsKeys keys s) (running : s.state = .running) :
    (opResetRun requestId payload).wp s h fun _ s' h' =>
      (confirmations h').resets = (confirmations h).resets →
      Unstopped h h' ∧ HoldsKeys keys s' := by
  rw [opResetRun, Action.wp_bind, getSession_wp]
  cases checkReset s Cap.resetRun payload with
  | error status =>
    apply Action.wp_mono (respond_holds _ _ holds running)
    intro _ _ _ answered _
    exact answered
  | ok kind =>
    apply reset_silent _ kind false _ holds running
    intro s h a
    simp only [Action.wp_bind, updateSession_wp]
    exact respond_calm _ _ _

/-! The stops a run reports. -/

/-- The session whose classification is meant: these comparators, and no other address to run to. -/
structure Classifies (req : RunRequest) (ids : List UInt32) (s : Session) : Prop where
  named : s.hwBreakpointIds = ids
  address : s.runToActive = true → req.action = RunAction.toAddress ∧
    s.activeRunToAddress = req.runToAddress

/-- A STOPPED frame tells of a stop as such a session classifies it over these patches. -/
structure Called (req : RunRequest) (ids : List UInt32) (keys : List PatchKey) (s' : Session)
    (stop : StopDetect) (f : List UInt8) : Prop where
  keys : s'.patchKeys = keys
  halted : s'.state = .halted
  told : ∃ s₀, Classifies req ids s₀ ∧ s₀.swTable = s'.swTable ∧
    (isRealStop stop = true → Told (classifyStop s₀ stop) f s')

theorem Tracks.classifies (ht : Tracks req ids s) : Classifies req ids s := by
  refine ⟨ht.named, fun active => ?_⟩
  rw [ht.active] at active
  have toAddress : req.action = RunAction.toAddress := by simpa using active
  rw [ht.address, if_pos toAddress]
  exact ⟨toAddress, rfl⟩

theorem Classifies.framed (hc : Classifies req ids s) (b : Buffer) (n : ℕ) (dead : Bool) :
    Classifies req ids (s.framed b n dead) := ⟨hc.named, hc.address⟩

/-- What a handler leaves that may report a stop. -/
structure Reported (req : RunRequest) (ids : List UInt32) (s : Session) (h₀ : SessionHistory)
    (s' : Session) (h' : SessionHistory) : Prop where
  table : s'.swTable = s.swTable
  stops : StopsSince h₀ (Called req ids s.patchKeys s') h'

theorem Unstopped.reported (hu : Unstopped h₀ h') (table : s'.swTable = s.swTable) :
    Reported req ids s h₀ s' h' := ⟨table, hu.stops⟩

/-- The report of a stop that was recorded. -/
theorem emitPendingStopped_called (name : StopReason → StopReason) (stop : StopDetect)
    (s₁ : Session) (hc : Classifies req ids s) (kind : isRealStop stop = true → name = id)
    (table : s₁.swTable = s.swTable) (before : Unstopped h₀ h)
    (recorded : s₁.state = .halted → haltView h = some ⟨stop, []⟩ ∧
      Recorded { classifyStop s stop with reason := name (classifyStop s stop).reason } s₁) :
    emitPendingStopped.wp s₁ h fun _ s' h' => Reported req ids s h₀ s' h' := by
  by_cases halted : s₁.state = .halted
  · obtain ⟨seen, record⟩ := recorded halted
    apply Action.wp_mono (emitPendingStopped_told record before seen)
    intro _ s' _ told
    obtain ⟨same, state, stops⟩ := told
    have table' : s'.swTable = s.swTable := same.trans table
    refine ⟨table', stops.mono ?_⟩
    rintro _ f ⟨rfl, told⟩
    refine ⟨congrArg (List.map SwBp.key) table', state.trans halted, s, hc,
      table'.symm, fun real => ?_⟩
    rw [kind real] at told
    exact told
  · exact emitPendingStopped_idle (Or.inr halted) (before.reported table)

theorem pollStop_called (hc : Classifies req ids s) (before : Unstopped h₀ h) :
    pollStop.wp s h fun _ s' h' => Reported req ids s h₀ s' h' := by
  simp only [pollStop, Action.wp_bind, backend_wp, Action.wp_ite, Action.wp_pure]
  intro a
  have asked : Unstopped h₀ (h ++ [⟨.call s .pollHalted, a⟩]) := before.call
  refine ⟨fun _ => ?_, fun ok => ⟨fun halted => ?_, fun _ => asked.reported rfl⟩⟩
  · apply Action.wp_mono (enterLost_unstopped _ asked)
    intro _ s' _ lost
    exact lost.2.2.reported lost.1
  · have seen : haltView (h ++ [⟨.call s .pollHalted, a⟩]) = some ⟨a.stop, []⟩ :=
      haltView_call.trans (if_pos ⟨not_not.mp ok, halted⟩)
    apply Action.wp_mono (enterHalted_recorded a.stop asked)
    intro _ s₁ _ entered
    obtain ⟨table, -, silent, recorded⟩ := entered
    refine emitPendingStopped_called id a.stop _ hc (fun _ => rfl) table silent fun halted₁ => ?_
    obtain ⟨kept, record⟩ := recorded halted₁
    exact ⟨kept.trans seen, record id⟩

theorem opHalt_called (hc : Classifies req ids s) (running : s.state = .running) :
    (opHalt requestId payload).wp s h fun _ s' h' => Reported req ids s h s' h' := by
  have start := Unstopped.start h
  simp only [opHalt, Action.wp_bind, Action.wp_ite, Action.wp_pure, getSession_wp, backend_wp]
  refine ⟨fun _ => ?_, fun _ => ⟨fun halted => absurd (running.symm.trans halted.1) (by decide),
    fun _ => ⟨fun halted => absurd (running.symm.trans halted.1) (by decide), fun _ a =>
      ⟨fun _ => ?_, fun ok => ?_⟩⟩⟩⟩
  · apply Action.wp_mono ((respond_mute _ _ _).unstopped (P := IsTable s.swTable) rfl start)
    intro _ s' _ answered
    exact answered.2.reported answered.1
  · apply Action.wp_mono ((sendBackendFailure_mute _ _ _ _).unstopped
      (P := IsTable s.swTable) rfl start.call)
    intro _ s' _ failed
    exact failed.2.reported failed.1
  · have seen : haltView (h ++ [⟨.call s (.halt haltTimeoutMs), a⟩]) = some ⟨a.stop, []⟩ :=
      haltView_call.trans (if_pos (not_not.mp ok))
    apply Action.wp_mono (enterHalted_recorded a.stop start.call)
    intro _ s₁ _ entered
    obtain ⟨table, -, silent, recorded⟩ := entered
    apply Action.wp_mono (respond_unstopped _ _ silent)
    intro _ s₂ _ answered
    obtain ⟨silent₂, kept₂, b, n, dead, rfl⟩ := answered
    refine emitPendingStopped_called id a.stop _ hc (fun _ => rfl) table silent₂ fun halted₂ => ?_
    obtain ⟨kept, record⟩ := recorded halted₂
    exact ⟨kept₂.trans (kept.trans seen), (record id).framed b n dead⟩

/-! Every input of a run. -/

/-- Any input to a running session, where no reset is confirmed. -/
theorem handle_called (running : s.state = .running) (tracks : Tracks req ids s) (i : Input) :
    (handle i).wp s h fun _ s' h' => (confirmations h').resets = (confirmations h).resets →
      StopsSince h (Called req ids s.patchKeys s') h' ∧
        ((∀ message, i = .request message → requestOp (MsgHeader.parse message).opcode ≠
          some .detach) → HoldsKeys s.patchKeys s') := by
  have start := Unstopped.start h
  have holds : HoldsKeys s.patchKeys s := fun _ => rfl
  -- what reports as the tables say keeps them
  have reporting {m : SessionM Unit} (hm : m.wp s h fun _ s' h' => Reported req ids s h s' h') :
      m.wp s h fun _ s' h' => (confirmations h').resets = (confirmations h).resets →
        StopsSince h (Called req ids s.patchKeys s') h' ∧
          ((∀ message, i = .request message → requestOp (MsgHeader.parse message).opcode ≠
            some .detach) → HoldsKeys s.patchKeys s') := by
    apply Action.wp_mono hm
    intro _ _ _ reported _
    exact ⟨reported.stops, fun _ _ => congrArg (List.map SwBp.key) reported.table⟩
  have mute {m : SessionM Unit} (hm : Mute (HasKeys s.patchKeys) m) :
      m.wp s h fun _ s' h' => (confirmations h').resets = (confirmations h).resets →
        StopsSince h (Called req ids s.patchKeys s') h' ∧
          ((∀ message, i = .request message → requestOp (MsgHeader.parse message).opcode ≠
            some .detach) → HoldsKeys s.patchKeys s') := by
    apply Action.wp_mono (hm.unstopped rfl start)
    intro _ _ _ done _
    exact ⟨done.2.stops, fun _ _ => done.1⟩
  cases i with
  | poll =>
    simp only [handle, Action.wp_bind, Action.wp_pure]
    apply reporting
    simp only [handlePoll, Action.wp_bind, getSession_wp, Action.wp_ite, Action.wp_pure]
    exact ⟨fun _ => start.reported rfl, fun _ => pollStop_called tracks.classifies start⟩
  | disconnect =>
    apply Action.wp_mono (Action.wp_and (handleDisconnect_silent.unstopped trivial start)
      disconnect_ends)
    intro _ s' _ done _
    exact ⟨done.1.2.stops, fun _ still => done.2 still⟩
  | request message =>
    simp only [handle, Action.wp_bind, Action.wp_pure]
    cases hop : requestOp (MsgHeader.parse message).opcode with
    | none =>
      apply mute
      simp only [handleRequest, hop]
      exact getSession_mute fun _ => .ite (fun _ => .pure _) fun _ => .ite (fun _ => .pure _)
        fun _ => .ite (fun _ => .pure _) fun _ => respond_mute _ _ _
    | some op =>
      apply handleRequest_op hop
      · exact fun _ _ => ⟨start.stops, fun _ => holds⟩
      · exact fun _ _ _ _ _ => mute (respond_mute _ _ _)
      intro _ _ gate
      rw [running] at gate
      cases op with
      | detach =>
        apply Action.wp_mono ((opDetach_silent _ _).unstopped trivial start)
        intro _ _ _ done _
        exact ⟨done.2.stops, fun other => absurd hop (other message rfl)⟩
      | getState => exact mute (opGetState_mute _ _)
      | readMemory => exact mute (opReadMemory_mute _ _)
      | writeMemory =>
        apply mute (opWriteMemory_mute _ _ _)
        intro table address data hk
        rw [HasKeys, swBpWriteOverlap, List.map_map, ← hk]
        exact List.map_congr_left fun entry _ => absorb_key entry address data
      | halt => exact reporting (opHalt_called tracks.classifies running)
      | resetHalt =>
        apply Action.wp_mono (opResetHalt_silent holds running)
        intro _ _ _ done same
        exact ⟨(done same).1.stops, fun _ => (done same).2⟩
      | resetRun =>
        apply Action.wp_mono (opResetRun_silent holds running)
        intro _ _ _ done same
        exact ⟨(done same).1.stops, fun _ => (done same).2⟩
      | attach | readRegisters | writeRegisters | run =>
        exact absurd gate (by simp [gateTable, gateColumn, GateType.refusal])

/-! RUN itself. -/

/-- What the internal step of a RUN leaves, by its outcome. -/
theorem executeStepOver_steps {policy : Policy} {c₀ : Config} {fs : List (List UInt8)}
    (action : UInt8) (ht : Trace policy c₀ s h fs) (he : Engaged s h) (halted : HaltKnown h) :
    (executeStepOver action).wp s h fun outcome s' h' => (outcome = .notNeeded → s' = s) ∧
      (∀ stop, outcome = .stoppedReal stop ∨ outcome = .stoppedStep stop →
        Trace policy c₀ s' h' fs ∧ Stepped s s' h h' stop) ∧
      (outcome = .stepped → ∃ stop, Stepped s s' h h' stop) := by
  apply executeStepOver_trace ht he halted
  · exact fun _ => ⟨fun _ => rfl, fun _ hf => absurd hf (by simp), fun hf => absurd hf (by simp)⟩
  · exact fun _ _ _ _ _ => ⟨fun hf => absurd hf (by simp), fun _ hf => absurd hf (by simp),
      fun hf => absurd hf (by simp)⟩
  · exact fun _ _ _ _ _ _ =>
      ⟨fun hf => absurd hf (by simp), fun _ hf => absurd hf (by simp), fun hf =>
        absurd hf (by simp)⟩
  · intro outcome stop s' h' ht' stepped completed
    rcases completed with rfl | rfl | rfl
    · refine ⟨fun hf => absurd hf (by simp), fun stop' same => ?_, fun hf => absurd hf (by simp)⟩
      rcases same with same | same
      · cases same
        exact ⟨ht', stepped⟩
      · exact absurd same (by simp)
    · refine ⟨fun hf => absurd hf (by simp), fun stop' same => ?_, fun hf => absurd hf (by simp)⟩
      rcases same with same | same
      · exact absurd same (by simp)
      · cases same
        exact ⟨ht', stepped⟩
    · exact ⟨fun hf => absurd hf (by simp), fun _ hf => absurd hf (by simp), fun _ =>
        ⟨stop, stepped⟩⟩

theorem Unreported.unstopped (hu : Unreported h₀ h) : Unstopped h₀ h := by
  refine EveryOffer.mono hu fun h₁ f reported later stopped => ?_
  obtain ⟨_, _, -, -, never⟩ := reported later stopped
  exact never.elim

theorem resumeRun_called (named : s.hwBreakpointIds = ids) (before : Unstopped h₀ h) :
    (resumeRun requestId req).wp s h fun _ s' h' => Reported req ids s h₀ s' h' := by
  simp only [resumeRun, Action.wp_bind, backend_wp, Action.wp_ite, Action.wp_pure, updateSession_wp]
  intro a
  have asked : Unstopped h₀ (h ++ [⟨.call s (.resume req.action req.runToAddress), a⟩]) :=
    before.call
  constructor
  · intro _
    have mute : Mute (IsTable s.swTable) (do
        respond Opcode.run requestId .targetLost
        enterLost (lostReason a.code)) := .bind (respond_mute _ _ _) fun _ => enterLost_mute _
    have lost := mute.unstopped rfl asked
    rw [Action.wp_bind] at lost
    apply Action.wp_mono lost
    intro _ _ _ first
    apply Action.wp_mono first
    intro _ _ _ done
    exact done.2.reported done.1
  · intro _
    apply Action.wp_mono (respond_unstopped _ _ asked)
    intro _ s₁ _ answered
    obtain ⟨silent, -, b, n, dead, rfl⟩ := answered
    have tracks : Tracks req ids
        { s with
          runningAction := req.action
          runToActive := req.action == RunAction.toAddress
          activeRunToAddress := if req.action = RunAction.toAddress then req.runToAddress else 0
          state := .running } := ⟨rfl, rfl, rfl, named⟩
    apply Action.wp_mono (pollStop_called (tracks.classifies.framed b n dead) silent)
    intro _ _ _ reported
    exact ⟨reported.table, reported.stops⟩

theorem reportStep_called {userStep : Bool} (hc : Classifies req ids s)
    (seen : haltView h = some ⟨stop, []⟩) (kind : userStep = true → isRealStop stop = false)
    (before : Unstopped h₀ h) :
    (reportStep requestId stop userStep).wp s h fun _ s' h' => Reported req ids s h₀ s' h' := by
  simp only [reportStep, Action.wp_bind, Action.wp_ite, updateSession_wp]
  apply Action.wp_mono (respond_unstopped _ _ before)
  intro _ s₁ _ answered
  obtain ⟨silent, kept, b, n, dead, rfl⟩ := answered
  apply Action.wp_mono (enterHalted_recorded stop silent)
  intro _ s₂ _ entered
  obtain ⟨table, -, silent₂, recorded⟩ := entered
  have report (name : StopReason → StopReason) (real : isRealStop stop = true → name = id) :=
    emitPendingStopped_called name stop { s₂ with pendingReason := name s₂.pendingReason }
      (hc.framed b n dead) real table silent₂
      fun halted => ⟨(recorded halted).1.trans (kept.trans seen), (recorded halted).2 name⟩
  constructor
  · intro user
    apply Action.wp_mono (report (fun _ => .singleStep) fun real =>
      absurd (real.symm.trans (kind user)) (by decide))
    intro _ _ _ reported
    exact ⟨reported.table, reported.stops⟩
  · intro _
    apply Action.wp_mono (report id fun _ => rfl)
    intro _ _ _ reported
    exact ⟨reported.table, reported.stops⟩

theorem Reported.holds {plan : RunPlan} (hr : Reported req ids s h₀ s' h')
    (keys : s.patchKeys = plan.patchKeys) :
    StopsSince h₀ (Called req ids plan.patchKeys s') h' ∧ HoldsKeys plan.patchKeys s' := by
  have table : s'.patchKeys = s.patchKeys := congrArg (List.map SwBp.key) hr.table
  rw [← keys]
  exact ⟨hr.stops, fun _ => table⟩

theorem opRun_called {plan : RunPlan} (hcheck : checkRun s payload = .ok plan) (ready : Ready s h)
    (halted : s.state = .halted) (alive : s.transportDead = false) (idle : s.runToActive = false) :
    (opRun requestId payload).wp s h fun _ s' h' =>
      StopsSince h
        (Called plan.request (plan.hwEntries.map (·.breakpointId)) plan.patchKeys s') h' ∧
        HoldsKeys plan.patchKeys s' := by
  have hu : Underway s h s h := ⟨ready, halted, alive, rfl, rfl, rfl, rfl, List.prefix_rfl⟩
  have placed : (installRun plan).wp s h fun failure s₁ h₁ => failure = none →
      Trace (requestPolicy (s, h) (some .run) payload) (s, h) s₁ h₁ [] ∧ Underway s h s₁ h₁ ∧
        InPlace plan s₁ h₁ := by
    apply installRun_trace Trace.start hu (fun entry he => ((checkRun_ok hcheck).2.2 entry he).1)
    · exact fun _ _ _ _ _ _ hf => absurd hf (by simp)
    · exact fun s₁ h₁ ht₁ hu₁ inPlace _ => ⟨ht₁, hu₁, inPlace⟩
  simp only [opRun, Action.wp_bind, getSession_wp, hcheck]
  apply Action.wp_mono (Action.wp_and (Action.wp_and (installRun_quiet plan)
    (installRun_named plan)) placed)
  intro failure s₁ evs installed
  obtain ⟨⟨⟨quiet, same⟩, named⟩, placed⟩ := installed
  have silent₁ : Unreported h (h ++ evs) := quiet.reports (EveryOffer.start h)
  have unmoved₁ : s₁.state ≠ .running := by
    rw [same]
    show s.state ≠ .running
    rw [halted]
    decide
  -- what reports nothing and does not let the target run
  have ends {m : SessionM Unit} {s₂ : Session} {h₂ : SessionHistory} (mute : Silent m)
      (updating : Updating Clears m)
      (unmoved : s₂.state ≠ .running) (silent : Unstopped h h₂) : m.wp s₂ h₂ fun _ s' h' =>
        StopsSince h (Called plan.request (plan.hwEntries.map (·.breakpointId)) plan.patchKeys s')
          h' ∧ HoldsKeys plan.patchKeys s' := by
    apply Action.wp_mono (Action.wp_and (mute.unstopped trivial silent)
      (updating.keeps (fun _ _ => unmoved_step) unmoved))
    intro _ _ _ done
    exact ⟨done.1.2.stops, fun still => absurd still done.2⟩
  have rollback : Silent rollbackRunConfig :=
    .of_quiet fun _ _ => Action.wp_mono rollbackRunConfig_quiet fun _ _ _ done => done.1
  cases failure with
  | some status =>
    refine ends ?_ (failRun_updating .untrack _ _) unmoved₁ silent₁.unstopped
    exact .bind rollback fun _ => .bind (respond_mute _ _ _) fun _ =>
      .ite (fun _ => enterLost_mute _) fun _ => .pure _
  | none =>
    obtain ⟨ht₁, hu₁, keys₁, -, -⟩ := placed rfl
    have named₁ := named rfl
    have idle₁ : s₁.runToActive = false := by
      rw [same]
      exact idle
    simp only [Action.wp_bind]
    apply Action.wp_mono (Action.wp_and (executeStepOver_steps plan.request.action ht₁
      hu₁.engaged hu₁.known)
      (executeStepOver_observes plan.request.action silent₁))
    intro outcome s₂ evs₂ step
    obtain ⟨⟨needless, reported, stepped⟩, observed⟩ := step
    have silent₂ := observed.silent.unstopped
    have unmoved₂ : s₂.state ≠ .running := by
      rw [observed.state]
      exact unmoved₁
    have named₂ := observed.named.trans named₁
    have classifies : Classifies plan.request (plan.hwEntries.map (·.breakpointId)) s₂ :=
      ⟨named₂, fun active => absurd ((observed.idle.trans idle₁).symm.trans active) (by decide)⟩
    cases outcome with
    | notNeeded =>
      -- the two ends that resume, then the two that report the step's own stop
      obtain rfl := needless rfl
      apply Action.wp_mono (resumeRun_called named₂ silent₂)
      intro _ _ _ done
      exact done.holds keys₁
    | stepped =>
      obtain ⟨stop, done₂⟩ := stepped rfl
      apply Action.wp_mono (resumeRun_called named₂ silent₂)
      intro _ _ _ done
      exact done.holds (done₂.keys.trans keys₁)
    | stoppedStep stop =>
      have done₂ := (reported stop (Or.inr rfl)).2
      apply Action.wp_mono (reportStep_called classifies done₂.seen
        (fun _ => (observed.step stop rfl).2.1) silent₂)
      intro _ _ _ done
      exact done.holds (done₂.keys.trans keys₁)
    | stoppedReal stop =>
      have done₂ := (reported stop (Or.inl rfl)).2
      apply Action.wp_mono (reportStep_called classifies done₂.seen
        (fun hf => absurd hf (by decide)) silent₂)
      intro _ _ _ done
      exact done.holds (done₂.keys.trans keys₁)
    | failed =>
      refine ends (m := do
        if ← rollbackRunConfig then
          respond Opcode.run requestId .swdError
        else
          respond Opcode.run requestId .swdError
          enterLost .swdFault) ?_ ?_ unmoved₂ silent₂
      · exact .bind rollback fun _ => .ite (fun _ => respond_mute _ _ _) fun _ =>
          .bind (respond_mute _ _ _) fun _ => enterLost_mute _
      · exact .bind (rollbackRunConfig_updating .untrack) fun _ =>
          .ite (respond_updating _ _ _) (.bind (respond_updating _ _ _) fun _ =>
            enterLost_updating _)
    | failedLost reason =>
      exact ends (m := do
        respond Opcode.run requestId .targetLost
        enterLost reason) (.bind (respond_mute _ _ _) fun _ => enterLost_mute _)
        (.bind (respond_updating _ _ _) fun _ => enterLost_updating _) unmoved₂ silent₂

end SidpClient
