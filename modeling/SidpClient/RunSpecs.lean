import SidpClient.StopPipelineSpecs

/-! What RUN does: the step-over, the installation, the resume and the report. -/
namespace SidpClient
open LittleEndian Interactive

variable {policy : Policy} {c₀ : Config} {s s' : Session}
  {h h' : SessionHistory} {fs : List (List UInt8)}

/-! The step-over. -/

/-- Every entry is installed, but for the one under the step. -/
def ArmedExcept (bp : Option ℕ) (table : List SwBp) : Prop :=
  ∀ i entry, table[i]? = some entry → bp ≠ some i → entry.installed = true

theorem swBpFindByAddress_lt {table : List SwBp} {address : UInt64} {index : ℕ}
    (hf : swBpFindByAddress table address = some index) : index < table.length :=
  (List.findIdx?_eq_some_iff_getElem.mp hf).1

theorem swBpRestoreFound_trace {bp : Option ℕ} {Q : Bool → Session → SessionHistory → Prop}
    (ht : Trace policy c₀ s h fs) (attached : s.attached = true) (halted : HaltKnown h)
    (hbp : ∀ index, bp = some index → index < s.swTable.length)
    (armed : ∀ entry ∈ s.swTable, entry.installed = true)
    (hQ : ∀ ok table h', Trace policy c₀ (s.withTable table) h' fs → Keeps h h' →
      table.map SwBp.key = s.swTable.map SwBp.key → ArmedExcept bp table →
      (ok = false → table = s.swTable) → Q ok (s.withTable table) h') :
    (swBpRestoreFound bp).wp s h Q := by
  have armed' : ArmedExcept bp s.swTable := fun i entry get _ =>
    armed entry (List.mem_of_getElem? get)
  cases bp with
  | none => exact hQ true s.swTable h ht (Keeps.refl h) rfl armed' fun _ => rfl
  | some index =>
    refine swBpRestoreOne_trace ht attached halted (List.getElem?_eq_getElem (hbp index rfl))
      fun ok table h₁ ht₁ k₁ hok hfail => ?_
    cases ok with
    | false =>
      obtain ⟨rfl, -⟩ := hfail rfl
      exact hQ false s.swTable h₁ ht₁ k₁ rfl armed' fun _ => rfl
    | true =>
      have htable := hok rfl
      subst htable
      refine hQ true _ h₁ ht₁ k₁ (map_key_modify _ _ _ fun _ => rfl) (fun i entry get hi => ?_)
        fun hf => absurd hf (by decide)
      rcases getElem?_modify_cases get with ⟨-, get⟩ | ⟨he, -⟩
      · exact armed entry (List.mem_of_getElem? get)
      · exact absurd (congrArg some he) hi

theorem swBpInstallFound_trace {bp : Option ℕ} {Q : Bool → Session → SessionHistory → Prop}
    (ht : Trace policy c₀ s h fs) (attached : s.attached = true) (halted : HaltKnown h)
    (hbp : ∀ index, bp = some index → index < s.swTable.length) (armed : ArmedExcept bp s.swTable)
    (hQ : ∀ ok table h', Trace policy c₀ (s.withTable table) h' fs → Keeps h h' →
      table.map SwBp.key = s.swTable.map SwBp.key → (∀ entry ∈ table, entry.installed = true) →
      Q ok (s.withTable table) h') :
    (swBpInstallFound bp).wp s h Q := by
  cases bp with
  | none =>
    refine hQ true s.swTable h ht (Keeps.refl h) rfl fun entry hm => ?_
    obtain ⟨i, hi, rfl⟩ := List.mem_iff_getElem.mp hm
    exact armed i _ (List.getElem?_eq_getElem hi) (by simp)
  | some index =>
    refine swBpInstallOne_trace ht attached halted (List.getElem?_eq_getElem (hbp index rfl))
      fun ok h₁ ht₁ k₁ => hQ ok _ h₁ ht₁ k₁ (map_key_modify _ _ _ fun _ => rfl) fun entry hm => ?_
    obtain ⟨i, get⟩ := List.mem_iff_getElem?.mp hm
    rcases getElem?_modify_cases get with ⟨hi, get⟩ | ⟨-, old, -, rfl⟩
    · exact armed i entry get fun he => hi (Option.some.inj he)
    · rfl

/-- A history that goes on without a new attachment or configuration. -/
structure KeepsPlan (h h' : SessionHistory) : Prop where
  map : advertisedMap h' = advertisedMap h
  config : runConfig h' = runConfig h
  grows : h <+: h'

theorem KeepsPlan.trans {h'' : SessionHistory} (k : KeepsPlan h h') (k' : KeepsPlan h' h'') :
    KeepsPlan h h'' :=
  ⟨k'.map.trans k.map, k'.config.trans k.config, k.grows.trans k'.grows⟩

theorem Keeps.plan (k : Keeps h h') : KeepsPlan h h' := ⟨k.map, k.config, k.grows⟩

theorem keepsPlan_call {c : Call} {a : Answer}
    (hc : (∃ action address, c = .resume action address) ∨ c = .pollHalted) :
    KeepsPlan h (h ++ [⟨.call s c, a⟩]) := by
  rcases hc with ⟨action, address, rfl⟩ | rfl <;>
    exact ⟨advertisedMap_call, runConfig_call, List.prefix_append _ _⟩

theorem pollStepHalted_trace (n : ℕ) {h : SessionHistory}
    {Q : Except TargetLostReason StopDetect → Session → SessionHistory → Prop}
    (ht : Trace policy c₀ s h fs) (attached : s.attached = true)
    (hQ : ∀ r h', Trace policy c₀ s h' fs → KeepsPlan h h' →
      (∀ stop, r = .ok stop → haltView h' = some ⟨stop, []⟩) → Q r s h') :
    (pollStepHalted n).wp s h Q := by
  induction n generalizing h Q with
  | zero =>
    exact hQ _ h ht ⟨rfl, rfl, List.prefix_rfl⟩ fun stop hs => absurd hs (by simp)
  | succ n ih =>
    simp only [pollStepHalted, Action.wp_bind, backend_wp, Action.wp_ite, Action.wp_pure]
    intro a
    have ht₁ := ht.call (c := .pollHalted) a attached id
    have k₁ : KeepsPlan h (h ++ [⟨.call s .pollHalted, a⟩]) := keepsPlan_call (Or.inr rfl)
    refine ⟨fun _ => hQ _ _ ht₁ k₁ fun stop hs => absurd hs (by simp), fun ok =>
      ⟨fun halted => ?_, fun _ => ?_⟩⟩
    · refine hQ _ _ ht₁ k₁ fun stop hs => ?_
      cases hs
      simp only [haltView_call, haltViewCall]
      rw [if_pos ⟨by simpa using ok, halted⟩]
    · exact ih ht₁ fun r h' ht' k' hr => hQ r h' ht' (k₁.trans k') hr

/-- What a completed internal step leaves: the same breakpoints, halted, no rewind pending. -/
structure Stepped (s s' : Session) (h h' : SessionHistory) (stop : StopDetect) : Prop where
  engaged : Engaged s' h'
  state : s'.state = s.state
  stopId : s'.stopId = s.stopId
  transportDead : s'.transportDead = s.transportDead
  regions : s'.regions = s.regions
  pending : s'.swStepOverPending = false
  keys : s'.swTable.map SwBp.key = s.swTable.map SwBp.key
  seen : haltView h' = some ⟨stop, []⟩
  plan : KeepsPlan h h'

/-- The outcomes of a completed internal step. -/
def StepOver.Completed (outcome : StepOver) (stop : StopDetect) : Prop :=
  outcome = .stoppedReal stop ∨ outcome = .stoppedStep stop ∨ outcome = .stepped

theorem executeStepOver_trace {action : UInt8} {Q : StepOver → Session → SessionHistory → Prop}
    (ht : Trace policy c₀ s h fs) (he : Engaged s h) (halted : HaltKnown h)
    (hnone : s.swStepOverPending = false → Q .notNeeded s h)
    (hfailed : ∀ table h', Trace policy c₀ (s.withTable table) h' fs → Keeps h h' →
      (∀ entry ∈ table, entry.installed = true) → Q .failed (s.withTable table) h')
    (hlost : ∀ reason s' h', Trace policy c₀ s' h' fs → SnapshotFits s' →
      s'.transportDead = s.transportDead → Q (.failedLost reason) s' h')
    (hdone : ∀ outcome stop s' h', Trace policy c₀ s' h' fs → Stepped s s' h h' stop →
      outcome.Completed stop → Q outcome s' h') :
    (executeStepOver action).wp s h Q := by
  simp only [executeStepOver, Action.wp_bind, getSession_wp, Action.wp_ite, Action.wp_pure,
    Bool.not_eq_true', Bool.not_eq_false]
  refine ⟨hnone, fun pending => ?_⟩
  have hbp : ∀ index, swBpFindByAddress s.swTable s.swStepOverAddress = some index →
      index < s.swTable.length := fun _ => swBpFindByAddress_lt
  generalize swBpFindByAddress s.swTable s.swStepOverAddress = bp at hbp ⊢
  refine swBpRestoreFound_trace ht he.attached halted hbp he.armed
    fun ok table h₁ ht₁ k₁ hkeys armed hfail => ⟨fun hok => ?_, fun _ => ?_⟩
  · exact hfailed table h₁ ht₁ k₁ (by rw [hfail hok]; exact he.armed)
  have hlen : table.length = s.swTable.length := by simpa using congrArg List.length hkeys
  have hbp₁ : ∀ index, bp = some index → index < (s.withTable table).swTable.length :=
    fun index hi => by rw [Session.withTable_swTable, hlen]; exact hbp index hi
  simp only [writeCurrentPc, Action.wp_bind, backend_wp, Action.wp_pure]
  intro a
  have ht₂ := ht₁.call (c := .writeRegs (pcEntryBytes s.swStepOverAddress.toUInt32)) a
    ⟨he.attached, halted.keeps k₁⟩ id
  have k₂ := k₁.trans (keeps_movesData (s := s.withTable table)
    (c := .writeRegs (pcEntryBytes s.swStepOverAddress.toUInt32)) (a := a) rfl)
  refine ⟨fun _ => ?_, fun _ => ?_⟩
  · exact swBpInstallFound_trace ht₂ he.attached (halted.keeps k₂) hbp₁ armed
      fun _ table' h₃ ht₃ k₃ _ hall => hfailed table' h₃ ht₃ (k₂.trans k₃) hall
  intro step
  have ht₃ := ht₂.settle (.resume RunAction.singleStep 0 step he.attached (Or.inl pending))
  have k₃ := k₂.plan.trans (keepsPlan_call (s := s.withTable table) (a := step)
    (c := .resume RunAction.singleStep 0) (Or.inl ⟨_, _, rfl⟩))
  refine ⟨fun _ => hlost _ _ _ ht₃ he.fits rfl, fun _ => ?_⟩
  refine pollStepHalted_trace 100 ht₃ he.attached fun r h₄ ht₄ k₄ seen => ?_
  cases r with
  | error reason => exact hlost reason _ _ ht₄ he.fits rfl
  | ok stop =>
    have seen₄ := seen stop rfl
    simp only [Action.wp_bind, updateSession_wp, Action.wp_ite, Action.wp_pure]
    have ht₅ := ht₄.keep (t := { s.withTable table with
      swStepOverPending := false, swStepOverAddress := 0 }) (sameCore_of_rfl rfl)
    refine swBpInstallFound_trace ht₅ he.attached ⟨_, seen₄⟩ hbp₁ armed
      fun ok' table' h₅ ht₆ k₅ hkeys' hall => ⟨fun _ => hlost _ _ _ ht₆ he.fits rfl, fun _ => ?_⟩
    have plan := (k₃.trans k₄).trans k₅.plan
    have done : Stepped s (Session.withTable { s.withTable table with
        swStepOverPending := false, swStepOverAddress := 0 } table') h h₅ stop :=
      ⟨⟨⟨he.attached, plan.map.trans he.mapped, fun hd => (he.live hd).mono plan.grows⟩, hall,
        he.fits⟩, rfl, rfl, rfl, rfl, rfl, hkeys'.trans hkeys, k₅.halt.trans seen₄, plan⟩
    exact ⟨fun _ => hdone _ stop _ _ ht₆ done (Or.inl rfl), fun _ =>
      ⟨fun _ => hdone _ stop _ _ ht₆ done (Or.inr (Or.inl rfl)),
        fun _ => hdone _ stop _ _ ht₆ done (Or.inr (Or.inr rfl))⟩⟩

/-! Handlers. -/

/-- The post-condition of a handler: its moves, the state it leaves and the frames it offered. -/
def Handled (policy : Policy) (c₀ : Config)
    (shape : Session → SessionHistory → List (List UInt8) → Prop) (s' : Session)
    (h' : SessionHistory) : Prop :=
  ∃ fs, Trace policy c₀ s' h' fs ∧ Ready s' h' ∧ shape s' h' fs

/-- The request is answered with this status, and then there are only events. -/
def AnsweredWith (opcode : UInt16) (requestId : UInt32) (status : Status)
    (fs : List (List UInt8)) : Prop :=
  ∃ f events, fs = f :: events ∧ ResponseFrame opcode requestId status f ∧ ∀ e ∈ events, IsEvent e

theorem AnsweredWith.responseFirst {opcode : UInt16} {requestId : UInt32} {status : Status}
    (ha : AnsweredWith opcode requestId status fs) : ResponseFirst opcode requestId fs := by
  obtain ⟨f, events, rfl, hf, hev⟩ := ha
  exact ⟨f, events, rfl, hf.header.isResponseTo, hev⟩

theorem AnsweredWith.append {opcode : UInt16} {requestId : UInt32} {status : Status}
    {fs' : List (List UInt8)} (ha : AnsweredWith opcode requestId status fs)
    (hev : ∀ e ∈ fs', IsEvent e) : AnsweredWith opcode requestId status (fs ++ fs') := by
  obtain ⟨f, events, rfl, hf, hev₀⟩ := ha
  refine ⟨f, events ++ fs', rfl, hf, fun e hm => ?_⟩
  rcases List.mem_append.mp hm with hm | hm
  · exact hev₀ e hm
  · exact hev e hm

theorem Sent.answered {opcode : UInt16} {requestId : UInt32} {status : Status}
    (hs : Sent s (ResponseFrame opcode requestId status) fs) (alive : s.transportDead = false) :
    AnsweredWith opcode requestId status fs := by
  rcases hs with ⟨hd, -⟩ | ⟨-, f, hf, rfl⟩
  · exact absurd (alive.symm.trans hd) (by decide)
  · exact ⟨f, [], rfl, hf, by simp⟩

/-- A table of installed entries and other fields no stop report depends on may be exchanged. -/
theorem Ready.transfer (hr : Ready s h)
    (same : (s'.state, s'.attached, s'.transportDead, s'.regions, s'.stopReported,
      s'.pendingRegistersSize,
        s'.pendingStackSize) = (s.state, s.attached, s.transportDead, s.regions, s.stopReported,
        s.pendingRegistersSize, s.pendingStackSize))
    (armed : ∀ entry ∈ s'.swTable, entry.installed = true) (k : KeepsHalt h h') : Ready s' h' := by
  simp only [Prod.mk.injEq] at same
  obtain ⟨state, attached, dead, regions, reported, registers, stack⟩ := same
  have fits : SnapshotFits s' := by
    rw [SnapshotFits, registers, stack]
    exact hr.fits
  refine ⟨fun hs => ?_, fun hs hd => ?_, fits⟩
  · have he := hr.engaged (by rwa [state] at hs)
    exact ⟨he.toActive.of_keeps attached regions k.map fun hd =>
      k.rejected (he.live (dead.symm.trans hd)), armed, fits⟩
  · obtain ⟨hrep, stop, f, hv⟩ := hr.reported (state.symm.trans hs) (dead.symm.trans hd)
    exact ⟨reported.trans hrep, stop, f, k.halt.trans hv⟩

/-- How a RUN request from a halted session ends. -/
inductive RunOutcome (s : Session) (h : SessionHistory) (requestId : UInt32) (s' : Session)
    (h' : SessionHistory) (fs : List (List UInt8)) : Prop
  | refused (status : Status) (error : status ≠ .ok)
      (answered : AnsweredWith Opcode.run requestId status fs) (quiet : calls h' = calls h)
      (same : ∃ b n dead, s' = s.framed b n dead)
  | rolledBack (status : Status) (error : status ≠ .ok)
      (answered : AnsweredWith Opcode.run requestId status fs)
      (called : (calls h).length < (calls h').length) (state : s'.state = .halted)
      (stopId : s'.stopId = s.stopId) (pending : s'.swStepOverPending = s.swStepOverPending)
      (address : s'.swStepOverAddress = s.swStepOverAddress) (clean : s'.swTable = [])
      (cleared : runConfig h' = clearedConfig)
  | lost (status : Status) (error : status ≠ .ok)
      (answered : AnsweredWith Opcode.run requestId status fs) (state : s'.state = .lost)
  | accepted (answered : AnsweredWith Opcode.run requestId .ok fs)

/-- A RUN whose target has not moved yet. -/
structure Underway (s₀ : Session) (h₀ : SessionHistory) (s : Session) (h : SessionHistory) :
    Prop where
  ready : Ready s h
  state : s.state = .halted
  alive : s.transportDead = false
  stopId : s.stopId = s₀.stopId
  pending : s.swStepOverPending = s₀.swStepOverPending
  address : s.swStepOverAddress = s₀.swStepOverAddress
  regions : s.regions = s₀.regions
  grows : h₀ <+: h

section
variable {s₀ : Session} {h₀ : SessionHistory} {requestId : UInt32}

theorem Underway.known (hu : Underway s₀ h₀ s h) : HaltKnown h := hu.ready.known hu.state hu.alive

theorem Underway.engaged (hu : Underway s₀ h₀ s h) : Engaged s h :=
  hu.ready.engaged (Or.inl hu.state)

theorem Underway.transfer (hu : Underway s₀ h₀ s h)
    (same : (s'.state, s'.attached, s'.transportDead, s'.regions, s'.stopReported,
      s'.pendingRegistersSize, s'.pendingStackSize, s'.stopId, s'.swStepOverPending,
      s'.swStepOverAddress) = (s.state, s.attached, s.transportDead, s.regions, s.stopReported,
      s.pendingRegistersSize, s.pendingStackSize, s.stopId, s.swStepOverPending,
      s.swStepOverAddress))
    (armed : ∀ entry ∈ s'.swTable, entry.installed = true) (k : KeepsHalt h h') :
    Underway s₀ h₀ s' h' := by
  simp only [Prod.mk.injEq] at same
  obtain ⟨state, attached, dead, regions, reported, registers, stack, stopId, pending, address⟩ :=
    same
  exact ⟨hu.ready.transfer (by rw [state, attached, dead, regions, reported, registers, stack])
    armed k, state.trans hu.state, dead.trans hu.alive, stopId.trans hu.stopId,
      pending.trans hu.pending,
    address.trans hu.address, regions.trans hu.regions, hu.grows.trans k.grows⟩

/-- Setting comparators, watchpoints or vector catch. -/
theorem Underway.configure (hu : Underway s₀ h₀ s h) {c : Call} (a : Answer)
    (hc : (∃ entries, c = .applyBreakpoints entries) ∨ (∃ entries, c = .applyWatchpoints entries) ∨
      ∃ mask, c = .setVectorCatch mask) : Underway s₀ h₀ s (h ++ [⟨.call s c, a⟩]) := by
  refine hu.transfer rfl hu.engaged.armed ?_
  rcases hc with ⟨_, rfl⟩ | ⟨_, rfl⟩ | ⟨_, rfl⟩ <;>
    exact ⟨haltView_call, advertisedMap_call, confirmations_call, List.prefix_append _ _⟩

/-- A refusing answer to a RUN that has lost the target. -/
theorem respondLost_handled {status : Status} {reason : TargetLostReason}
    (ht : Trace policy (s₀, h₀) s h []) (fits : SnapshotFits s) (alive : s.transportDead = false)
    (error : status ≠ .ok) :
    (respond Opcode.run requestId status).wp s h fun _ s' h' =>
      (enterLost reason).wp s' h' fun _ s' h' =>
        Handled policy (s₀, h₀) (RunOutcome s₀ h₀ requestId) s' h' := by
  refine respond_trace ht (Or.inr error) fun b dead h₁ fs₁ ht₁ hd => ?_
  refine enterLost_ready ht₁ fits fun s₂ h₂ fs₂ ht₂ ready lost hev => ?_
  rw [List.nil_append] at ht₂
  exact ⟨_, ht₂, ready, .lost status error ((hd.sent.answered alive).append hev) lost⟩

/-- The rollback of a RUN that failed before its target moved. -/
theorem rollbackRunConfig_handled (requestId : UInt32) {status : Status}
    {Q : Bool → Session → SessionHistory → Prop} (ht : Trace policy (s₀, h₀) s h [])
    (hu : Underway s₀ h₀ s h) (error : status ≠ .ok)
    (hclean : ∀ s' h', (respond Opcode.run requestId status).wp s' h' (fun _ s' h' =>
      Handled policy (s₀, h₀) (RunOutcome s₀ h₀ requestId) s' h') → Q true s' h')
    (hleft : ∀ s' h', (respond Opcode.run requestId .swdError).wp s' h' (fun _ s' h' =>
      (enterLost .swdFault).wp s' h' fun _ s' h' =>
        Handled policy (s₀, h₀) (RunOutcome s₀ h₀ requestId) s' h') → Q false s' h') :
    rollbackRunConfig.wp s h Q := by
  refine rollbackRunConfig_trace ht hu.engaged.attached hu.known
    fun ok table h₁ ht₁ k hclear hall called => ?_
  have hu₁ : Underway s₀ h₀ (s.withTable table).clearRunTracking h₁ := hu.transfer rfl hall k
  cases ok with
  | false =>
    exact hleft _ _ (respondLost_handled ht₁ hu₁.ready.fits hu₁.alive (by decide))
  | true =>
    obtain ⟨htable, hconfig⟩ := hclear rfl
    refine hclean _ _ (respond_trace ht₁ (Or.inr error) fun b dead h₂ fs₂ ht₂ hd => ?_)
    rw [List.nil_append] at ht₂
    refine ⟨fs₂, ht₂, hu₁.ready.framed hd.keeps.toKeepsHalt hd.live hd.latched,
      .rolledBack status error (hd.sent.answered hu₁.alive) ?_ hu₁.state hu₁.stopId hu₁.pending
        hu₁.address htable (hd.keeps.config.trans hconfig)⟩
    exact lt_of_le_of_lt (calls_length_mono hu.grows)
      (lt_of_lt_of_le called (calls_length_mono hd.keeps.grows))

theorem failRun_handled {status : Status} (ht : Trace policy (s₀, h₀) s h [])
    (hu : Underway s₀ h₀ s h) (error : status ≠ .ok) :
    (failRun requestId status).wp s h fun _ s' h' =>
      Handled policy (s₀, h₀) (RunOutcome s₀ h₀ requestId) s' h' := by
  simp only [failRun, Action.wp_bind, Action.wp_ite, Action.wp_pure]
  refine rollbackRunConfig_handled requestId ht hu error (fun s' h' hr => ?_) fun s' h' hr => ?_
  · simpa using hr
  · simpa using hr

/-- What a completed installation has put in place. -/
def InPlace (plan : RunPlan) (s : Session) (h : SessionHistory) : Prop :=
  s.swTable.map SwBp.key = plan.swEntries.map BpEntry.key ∧
    (∀ entry ∈ s.swTable, entry.installed = true) ∧
    runConfig h = ⟨some plan.hwEntries, some plan.wpEntries, some plan.request.vectorCatchMask⟩

theorem installRun_trace {plan : RunPlan} {Q : Option Status → Session → SessionHistory → Prop}
    (ht : Trace policy (s₀, h₀) s h []) (hu : Underway s₀ h₀ s h)
    (requestable : ∀ entry ∈ plan.swEntries, Requestable s.regions entry)
    (hfail : ∀ status s' h', status ≠ .ok → Trace policy (s₀, h₀) s' h' [] →
      Underway s₀ h₀ s' h' → Q (some status) s' h')
    (hdone : ∀ s' h', Trace policy (s₀, h₀) s' h' [] → Underway s₀ h₀ s' h' → InPlace plan s' h' →
      Q none s' h') :
    (installRun plan).wp s h Q := by
  simp only [installRun, Action.wp_bind, Action.wp_ite, Action.wp_pure, backend_wp,
    updateSession_wp]
  refine swBpApply_trace ht hu.engaged.toActive hu.known requestable
    fun status table h₁ ht₁ k₁ hkeys hall => ?_
  have hu₁ : Underway s₀ h₀ (s.withTable table) h₁ := hu.transfer rfl hall k₁.toKeepsHalt
  refine ⟨fun error => hfail status _ _ error ht₁ hu₁, fun hok a₁ => ?_⟩
  have keys := hkeys (by simpa using hok)
  have ht₂ := ht₁.call (c := .applyBreakpoints plan.hwEntries) a₁
      ⟨hu₁.engaged.attached, hu₁.known⟩ id
  have hu₂ := hu₁.configure (c := .applyBreakpoints plan.hwEntries) a₁ (Or.inl ⟨_, rfl⟩)
  refine ⟨fun _ => hfail _ _ _ (by decide) ht₂ hu₂, fun ok₁ a₂ => ?_⟩
  have ht₃ := ht₂.keep (t := { s.withTable table with
    hwBreakpointIds := plan.hwEntries.map (·.breakpointId) }) (sameCore_of_rfl rfl)
  have hu₃ : Underway s₀ h₀ { s.withTable table with
      hwBreakpointIds := plan.hwEntries.map (·.breakpointId) } _ :=
    hu₂.transfer rfl hall ⟨rfl, rfl, rfl, List.prefix_rfl⟩
  have ht₄ := ht₃.call (c := .applyWatchpoints plan.wpEntries) a₂
    ⟨hu₃.engaged.attached, hu₃.known⟩ id
  have hu₄ := hu₃.configure (c := .applyWatchpoints plan.wpEntries) a₂ (Or.inr (Or.inl ⟨_, rfl⟩))
  refine ⟨fun _ => hfail _ _ _ (by decide) ht₄ hu₄, fun ok₂ a₃ => ?_⟩
  have ht₅ := ht₄.call (c := .setVectorCatch plan.request.vectorCatchMask) a₃
    ⟨hu₄.engaged.attached, hu₄.known⟩ id
  have hu₅ := hu₄.configure (c := .setVectorCatch plan.request.vectorCatchMask) a₃
    (Or.inr (Or.inr ⟨_, rfl⟩))
  refine ⟨fun _ => hfail _ _ _ (by decide) ht₅ hu₅, fun ok₃ => hdone _ _ ht₅ hu₅ ⟨keys, hall, ?_⟩⟩
  simp only [ne_eq, not_not] at ok₁ ok₂ ok₃
  simp only [runConfig_call, runConfigCall, ok₁, ok₂, ok₃, if_true]

/-- The user's resume and the poll behind its answer. -/
theorem resumeRun_handled {req : RunRequest} (ht : Trace policy (s₀, h₀) s h []) (he : Engaged s h)
    (alive : s.transportDead = false) (state : s.state ≠ .lost)
    (planned : policy.resume req.action req.runToAddress s h) :
    (resumeRun requestId req).wp s h fun _ s' h' =>
      Handled policy (s₀, h₀) (RunOutcome s₀ h₀ requestId) s' h' := by
  simp only [resumeRun, Action.wp_bind, backend_wp, Action.wp_ite, Action.wp_pure, updateSession_wp]
  intro a
  have ht₁ := ht.settle (.resume req.action req.runToAddress a he.attached (Or.inr planned))
  have he₁ : Engaged s (h ++ [⟨.call s (.resume req.action req.runToAddress), a⟩]) :=
    he.append advertisedMap_call fun hr => hr.append _
  refine ⟨fun _ => respondLost_handled ht₁ he.fits alive (by decide), fun _ => ?_⟩
  have ht₂ := ht₁.step (t := { s with
      runningAction := req.action
      runToActive := req.action == RunAction.toAddress
      activeRunToAddress := if req.action = RunAction.toAddress then req.runToAddress else 0
      state := .running })
    (.run (Or.inl state) he₁.toActive rfl rfl ⟨rfl, rfl, rfl, rfl⟩)
  refine respond_trace ht₂ (Or.inl (by decide)) fun b dead h₁ fs₁ ht₃ hd => ?_
  have he₂ : Engaged ({ s with
      runningAction := req.action
      runToActive := req.action == RunAction.toAddress
      activeRunToAddress := if req.action = RunAction.toAddress then req.runToAddress else 0
      state := .running }.framed b 16 dead) h₁ :=
    Engaged.framed ⟨⟨he₁.attached, he₁.mapped, he₁.live⟩, he₁.armed, he₁.fits⟩ hd.keeps.map hd.live
  refine pollStop_ready ht₃ he₂ rfl fun s' h' fs' ht' ready hev => ?_
  rw [List.nil_append] at ht'
  exact ⟨_, ht', ready, .accepted ((hd.sent.answered alive).append hev)⟩

/-- The report of an internal step that ends the RUN. -/
theorem reportStep_handled {stop : StopDetect} {userStep : Bool}
    (ht : Trace policy (s₀, h₀) s h []) (he : Engaged s h) (alive : s.transportDead = false)
    (state : s.state ≠ .lost) (seen : haltView h = some ⟨stop, []⟩) :
    (reportStep requestId stop userStep).wp s h fun _ s' h' =>
      Handled policy (s₀, h₀) (RunOutcome s₀ h₀ requestId) s' h' := by
  simp only [reportStep, Action.wp_bind, Action.wp_ite, updateSession_wp]
  refine respond_trace ht (Or.inl (by decide)) fun b dead h₁ fs₁ ht₁ hd => ?_
  have he₁ : Engaged (s.framed b 16 dead) h₁ := he.framed hd.keeps.map hd.live
  have done (s' : Session) (h' : SessionHistory) (fs' : List (List UInt8))
      (ht' : Trace policy (s₀, h₀) s' h' ([] ++ fs₁ ++ fs')) (ready : Ready s' h')
      (hev : ∀ f ∈ fs', IsEvent f) :
      Handled policy (s₀, h₀) (RunOutcome s₀ h₀ requestId) s' h' := by
    rw [List.nil_append] at ht'
    exact ⟨_, ht', ready, .accepted ((hd.sent.answered alive).append hev)⟩
  cases userStep with
  | true =>
    have hr := enterHalted_ready (f := fun s => { s with pendingReason := .singleStep })
      (Q := fun _ => Handled policy (s₀, h₀) (RunOutcome s₀ h₀ requestId)) ht₁ he₁
      (hd.keeps.halt.trans seen) state (fun s => ⟨sameCore_of_rfl rfl, id⟩) done
    simpa using hr
  | false =>
    have hr := enterHalted_ready (f := id)
      (Q := fun _ => Handled policy (s₀, h₀) (RunOutcome s₀ h₀ requestId)) ht₁ he₁
      (hd.keeps.halt.trans seen) state (fun s => ⟨sameCore_of_rfl rfl, id⟩) done
    simpa using hr

end

theorem opRun_handled {requestId : UInt32} {payload : List UInt8} (ready : Ready s h)
    (state : s.state = .halted) (alive : s.transportDead = false)
    (planned : ∀ plan, checkRun s payload = .ok plan → ∀ s₁ h₁, InPlace plan s₁ h₁ →
      policy.resume plan.request.action plan.request.runToAddress s₁ h₁) :
    (opRun requestId payload).wp s h fun _ s' h' =>
      Handled policy (s, h) (RunOutcome s h requestId) s' h' := by
  simp only [opRun, Action.wp_bind, getSession_wp]
  cases hcheck : checkRun s payload with
  | error status =>
    have error := checkRun_refuses s payload status hcheck
    refine respond_trace (Trace.start (p := policy)) (Or.inr error) fun b dead h₁ fs₁ ht₁ hd => ?_
    exact ⟨fs₁, ht₁, ready.framed hd.keeps.toKeepsHalt hd.live hd.latched,
      .refused status error (hd.sent.answered alive) hd.quiet ⟨b, 16, dead, rfl⟩⟩
  | ok plan =>
    have hu : Underway s h s h := ⟨ready, state, alive, rfl, rfl, rfl, rfl, List.prefix_rfl⟩
    simp only [Action.wp_bind]
    refine installRun_trace Trace.start hu (fun entry he => ((checkRun_ok hcheck).2.2 entry he).1)
      (fun status s₁ h₁ error ht₁ hu₁ => failRun_handled ht₁ hu₁ error)
      fun s₁ h₁ ht₁ hu₁ inPlace => ?_
    simp only [Action.wp_bind]
    refine executeStepOver_trace ht₁ hu₁.engaged hu₁.known (fun _ => ?_)
      (fun table h₂ ht₂ k₂ hall => ?_) (fun reason s₂ h₂ ht₂ fits dead => ?_)
      fun outcome stop s₂ h₂ ht₂ stepped completed => ?_
    · exact resumeRun_handled ht₁ hu₁.engaged hu₁.alive (by simp [hu₁.state])
        (planned plan hcheck s₁ h₁ inPlace)
    · have hu₂ : Underway s h (s₁.withTable table) h₂ := hu₁.transfer rfl hall k₂.toKeepsHalt
      simp only [Action.wp_bind, Action.wp_ite]
      refine rollbackRunConfig_handled requestId ht₂ hu₂ (show Status.swdError ≠ .ok by decide)
        (fun s' h' hr => ?_) fun s' h' hr => ?_
      · simpa using hr
      · simpa using hr
    · simp only [Action.wp_bind]
      exact respondLost_handled ht₂ fits (dead.trans hu₁.alive) (by decide)
    · have alive₂ := stepped.transportDead.trans hu₁.alive
      have state₂ : s₂.state ≠ .lost := by simp [stepped.state, hu₁.state]
      rcases completed with rfl | rfl | rfl
      · exact reportStep_handled ht₂ stepped.engaged alive₂ state₂ stepped.seen
      · exact reportStep_handled ht₂ stepped.engaged alive₂ state₂ stepped.seen
      · exact resumeRun_handled ht₂ stepped.engaged alive₂ state₂
          (planned plan hcheck s₂ h₂ ⟨stepped.keys.trans inPlace.1, stepped.engaged.armed,
            stepped.plan.config.trans inPlace.2.2⟩)

end SidpClient
