import SidpClient.SessionUpdates
import SidpClient.StopSnapshots

/-! A stop is classified alike whichever poll observes it, but for two the internal step
misreads. -/
namespace SidpClient
open LittleEndian Interactive

variable {s s' t : Session} {h h' h'' evs : SessionHistory} {f : List UInt8} {accepted : Bool}
  {state : TargetState} {stop : StopDetect} {requestId : UInt32} {payload message : List UInt8}

/-! What a report says. -/

def stoppedFrameReason (f : List UInt8) : UInt8 := getU8 f (headerSize + 6)
def stoppedFrameBreakpoint (f : List UInt8) : UInt32 := getU32 f (headerSize + 12)
def stoppedFrameWatchpoint (f : List UInt8) : UInt64 := getU64 f (headerSize + 16)

/-- Two classifications that a client cannot tell apart. -/
structure SameReport (hit hit' : StopClass) : Prop where
  reason : hit.reason = hit'.reason
  breakpoint : hit.breakpointId = hit'.breakpointId
  watchpoint : hit.watchpointAddress = hit'.watchpointAddress

/-- The frame reports this classification. -/
structure Carries (f : List UInt8) (hit : StopClass) : Prop where
  reason : stoppedFrameReason f = hit.reason.value
  breakpoint : stoppedFrameBreakpoint f = hit.breakpointId
  watchpoint : stoppedFrameWatchpoint f = hit.watchpointAddress

theorem StopReason.value_injective : Function.Injective StopReason.value := by
  intro a b hab
  cases a <;> cases b <;> first | rfl | exact absurd hab (by decide)

theorem Carries.iff {hit hit' : StopClass} (hc : Carries f hit) :
    Carries f hit' ↔ SameReport hit hit' := by
  constructor
  · intro hc'
    exact ⟨StopReason.value_injective (hc.reason.symm.trans hc'.reason),
      hc.breakpoint.symm.trans hc'.breakpoint, hc.watchpoint.symm.trans hc'.watchpoint⟩
  · intro same
    exact ⟨same.reason ▸ hc.reason, same.breakpoint ▸ hc.breakpoint,
      same.watchpoint ▸ hc.watchpoint⟩

/-- What a session has recorded of its stop. -/
def Session.pendingClass (s : Session) : StopClass where
  reason := s.pendingReason
  breakpointId := s.pendingBreakpointId
  watchpointAddress := s.pendingWatchpointAddress

theorem slice_of_slice {f bytes : List UInt8} {offset size : ℕ} (i n : ℕ) (hi : i + n ≤ size)
    (hf : slice f offset size = bytes) : slice f (offset + i) n = slice bytes i n := by
  subst hf
  simp only [slice, List.drop_take, List.take_take, List.drop_drop]
  rw [Nat.min_eq_left (by omega)]

theorem StoppedFrame.carries (hf : StoppedFrame s f) : Carries f s.pendingClass := by
  have h2 : (le16 0).length = 2 := le16_length _
  have h4 (v : UInt32) : (le32 v).length = 4 := le32_length v
  have h8 (v : UInt64) : (le64 v).length = 8 := le64_length v
  constructor
  · have read := getU8_slice f 12 stoppedEventSize 6 (by decide)
    rw [hf.fixed] at read
    rw [stoppedFrameReason, show headerSize + 6 = 12 + 6 from rfl, ← read]
    simp [stoppedEventBytes, getU8, h2, h4, Session.pendingClass]
  · have read : slice (stoppedEventBytes s) 12 4 = le32 s.pendingBreakpointId := by
      simp [stoppedEventBytes, slice, List.drop_append, List.drop_of_length_le, h2, h4,
        List.take_left']
    rw [stoppedFrameBreakpoint, getU32, show headerSize + 12 = 12 + 12 from rfl,
      slice_of_slice 12 4 (by decide) hf.fixed, read, ofNat_leNat_le32]
    rfl
  · have read : slice (stoppedEventBytes s) 16 8 = le64 s.pendingWatchpointAddress := by
      simp [stoppedEventBytes, slice, List.drop_append, List.drop_of_length_le, h2, h4, h8,
        List.take_left']
    rw [stoppedFrameWatchpoint, getU64, show headerSize + 16 = 12 + 16 from rfl,
      slice_of_slice 16 8 (by decide) hf.fixed, read, ofNat_leNat_le64]
    rfl

/-! Which observation a report is about. -/

/-- A poll that found the target halted, and the state of the session that polled. -/
structure Observation where
  state : TargetState
  stop : StopDetect
deriving DecidableEq

def observationCall (last : Option Observation) (s : Session) (c : Call) (a : Answer) :
    Option Observation :=
  match c with
  | .pollHalted => if a.code = .ok ∧ a.stop.halted = true then some ⟨s.state, a.stop⟩ else last
  | .halt _ | .reset _ _ | .resume _ _ => none
  | _ => last

def observationStep (last : Option Observation) : SessionEvent → Option Observation
  | ⟨.call s c, a⟩ => observationCall last s c a
  | ⟨.offer _, _⟩ => last

/-- The last such poll, if nothing has halted, reset or resumed the target since. -/
def observation (h : SessionHistory) : Option Observation := view observationStep none h

@[simp] theorem observation_call {c : Call} {a : Answer} :
    observation (h ++ [⟨.call s c, a⟩]) = observationCall (observation h) s c a := view_concat

@[simp] theorem observation_offer :
    observation (h ++ [⟨.offer f, accepted⟩]) = observation h := view_concat

theorem Offered.observation {P : List UInt8 → Prop} {dead : Bool} (ho : Offered s P dead evs) :
    observation (h ++ evs) = observation h := by
  rcases ho with ⟨-, -, rfl⟩ | ⟨-, f, accepted, -, -, rfl⟩
  · rw [List.append_nil]
  · exact observation_offer

theorem SnapshotTaken.observation (taken : SnapshotTaken s s' evs) :
    observation (h ++ evs) = observation h := by
  apply view_append_of_blind
  intro ev hm last
  obtain ⟨s₁, c, a, rfl, moves⟩ := taken.reads ev hm
  cases c with
  | readRegs | writeRegs | readMem | writeMem => rfl
  | _ => exact absurd moves Bool.false_ne_true

/-- A STOPPED frame is about the last observation, and is classified as `C` allows. -/
def ReportedAs (C : Observation → StopClass → Prop) (h : SessionHistory) (f : List UInt8) : Prop :=
  isStopped f = true → ∃ seen hit, observation h = some seen ∧ Carries f hit ∧ C seen hit

theorem reportedAs_other {C : Observation → StopClass → Prop} (hf : isStopped f = false) :
    ReportedAs C h f := fun stopped => absurd (hf.symm.trans stopped) Bool.false_ne_true

/-- The same of every STOPPED frame offered since a history. -/
def ReportsSince (h₀ : SessionHistory) (C : Observation → StopClass → Prop)
    (h : SessionHistory) : Prop :=
  EveryOffer (fun h f => h₀ <+: h → ReportedAs C h f) h

/-! What a stop of a run is called. -/

/-- A session that has resumed the target for a request. -/
structure Tracks (req : RunRequest) (ids : List UInt32) (s : Session) : Prop where
  action : s.runningAction = req.action
  active : s.runToActive = (req.action == RunAction.toAddress)
  address : s.activeRunToAddress = if req.action = RunAction.toAddress then req.runToAddress else 0
  named : s.hwBreakpointIds = ids

/-- What a request, the comparators' ids and the shadow table make of an observation. -/
def runClass (req : RunRequest) (ids : List UInt32) (table : List SwBp) (stop : StopDetect) :
    StopClass :=
  classifyStop
    { runningAction := req.action
      runToActive := req.action == RunAction.toAddress
      activeRunToAddress := if req.action = RunAction.toAddress then req.runToAddress else 0
      hwBreakpointIds := ids
      swTable := table } stop

variable {req : RunRequest} {ids : List UInt32} {table : List SwBp}

theorem Tracks.classify (ht : Tracks req ids s) (stop : StopDetect) :
    classifyStop s stop = runClass req ids s.swTable stop := by
  simp only [runClass, classifyStop, ht.action, ht.active, ht.address, ht.named]

/-- The comparator stopped the target at the requested address, and nothing else comes first. -/
structure ReachedAddress (req : RunRequest) (stop : StopDetect) : Prop where
  lockup : stop.lockup = false
  watchpoint : stop.watchpointMatch = false
  trap : stop.dfsr &&& Dfsr.dwtTrap = 0
  comparator : stop.comparatorMatch = true
  pc : stop.pc.toUInt64 = req.runToAddress

theorem runClass_reached (toAddress : req.action = RunAction.toAddress)
    (reached : ReachedAddress req stop) :
    runClass req ids table stop = { reason := .runToAddress } := by
  have watch : ¬(stop.watchpointMatch = true ∨ stop.dfsr &&& Dfsr.dwtTrap ≠ 0) := by
    simp [reached.watchpoint, reached.trap]
  rw [runClass, classifyStop, if_neg (by simp [reached.lockup]), if_neg watch, if_pos]
  simp [toAddress, reached.comparator, reached.pc]

/-- The two observations of an internal step that are not called what they are called elsewhere. -/
def Misread (req : RunRequest) (stop : StopDetect) : Prop :=
  (req.action = RunAction.toAddress ∧ ReachedAddress req stop) ∨
    (req.action = RunAction.singleStep ∧ isRealStop stop = false ∧ stop.dfsr &&& Dfsr.halted = 0)

theorem stopBits_eq_zero (dfsr : UInt32) : dfsr &&& 0x0000000E = 0 ↔
    dfsr &&& Dfsr.bkpt = 0 ∧ dfsr &&& Dfsr.dwtTrap = 0 ∧ dfsr &&& Dfsr.vCatch = 0 := by
  have split : (0x0000000E : UInt32) = Dfsr.bkpt ||| (Dfsr.dwtTrap ||| Dfsr.vCatch) := by decide
  have distrib (a b c : UInt32) : a &&& (b ||| c) = (a &&& b) ||| (a &&& c) := by
    apply UInt32.toBitVec_inj.mp
    simp [BitVec.and_or_distrib_left]
  rw [split, distrib, distrib]
  simp [UInt32.or_eq_zero_iff]

theorem isRealStop_eq_false : isRealStop stop = false ↔ stop.lockup = false ∧ stop.fault = false ∧
    stop.watchpointMatch = false ∧ stop.comparatorMatch = false ∧ stop.dfsr &&& Dfsr.bkpt = 0 ∧
    stop.dfsr &&& Dfsr.dwtTrap = 0 ∧ stop.dfsr &&& Dfsr.vCatch = 0 := by
  rw [← stopBits_eq_zero]
  simp [isRealStop, and_assoc]

/-- What nothing but the step accounts for. -/
theorem classifyStop_clean (s : Session) (clean : isRealStop stop = false) :
    classifyStop s stop =
      { reason := if stop.dfsr &&& Dfsr.halted ≠ 0 ∧ s.runningAction =
        RunAction.singleStep then .singleStep
          else .userHalt } := by
  obtain ⟨lockup, fault, watch, comparator, bkpt, trap, catches⟩ := isRealStop_eq_false.mp clean
  simp only [classifyStop, lockup, fault, watch, comparator, bkpt, trap, catches]
  simp only [Bool.false_eq_true, ne_eq, not_true, or_self, if_false, false_and,
    and_false, Bool.not_false]
  split <;> rfl

/-- But for the end of a RUN_TO_ADDRESS a real stop does not depend on what the target was run
for. -/
theorem classifyStop_real (idle : s.runToActive = false) (real : isRealStop stop = true)
    (other : ¬(req.action = RunAction.toAddress ∧ ReachedAddress req stop)) :
    classifyStop s stop = runClass req s.hwBreakpointIds s.swTable stop := by
  rw [runClass, classifyStop, classifyStop]
  by_cases lockup : stop.lockup = true
  · rw [if_pos lockup, if_pos lockup]
  by_cases watch : stop.watchpointMatch = true ∨ stop.dfsr &&& Dfsr.dwtTrap ≠ 0
  · rw [if_neg lockup, if_neg lockup, if_pos watch, if_pos watch]
  obtain ⟨noMatch, noTrap⟩ := not_or.mp watch
  have unreached : ¬((req.action == RunAction.toAddress) = true ∧ stop.comparatorMatch = true ∧
      stop.pc.toUInt64 = if req.action = RunAction.toAddress then req.runToAddress else 0) := by
    rintro ⟨toAddress, comparator, pc⟩
    have toAddress : req.action = RunAction.toAddress := by simpa using toAddress
    rw [if_pos toAddress] at pc
    exact other ⟨toAddress, Bool.eq_false_of_not_eq_true lockup,
      Bool.eq_false_of_not_eq_true noMatch, not_not.mp noTrap, comparator, pc⟩
  have inactive : ¬(s.runToActive = true ∧ stop.comparatorMatch = true ∧
      stop.pc.toUInt64 = s.activeRunToAddress) :=
        fun hn => absurd (idle.symm.trans hn.1) (by decide)
  rw [if_neg lockup, if_neg lockup, if_neg watch, if_neg watch, if_neg unreached, if_neg inactive]
  by_cases software : (!stop.comparatorMatch) = true ∧ stop.dfsr &&& Dfsr.bkpt ≠ 0
  · rw [if_pos software, if_pos software]
  by_cases breakpoint : stop.comparatorMatch = true ∨ stop.dfsr &&& Dfsr.bkpt ≠ 0
  · rw [if_neg software, if_neg software, if_pos breakpoint, if_pos breakpoint]
  by_cases fault : stop.fault = true
  · simp only [if_neg software, if_neg breakpoint, if_pos fault]
  -- a real stop with no other cause is a vector catch
  obtain ⟨noComparator, noBkpt⟩ := not_or.mp breakpoint
  have catches : stop.dfsr &&& Dfsr.vCatch ≠ 0 := by
    intro zero
    have clean : isRealStop stop = false :=
      isRealStop_eq_false.mpr ⟨Bool.eq_false_of_not_eq_true lockup,
        Bool.eq_false_of_not_eq_true fault, Bool.eq_false_of_not_eq_true noMatch,
          Bool.eq_false_of_not_eq_true noComparator, not_not.mp noBkpt,
        not_not.mp noTrap, zero⟩
    exact absurd (real.symm.trans clean) (by decide)
  simp only [if_neg software, if_neg breakpoint, if_neg fault, if_pos catches]

theorem sameReport_real (idle : s.runToActive = false) (real : isRealStop stop = true) :
    SameReport (classifyStop s stop) (runClass req s.hwBreakpointIds s.swTable stop) ↔
      ¬Misread req stop := by
  constructor
  · rintro same (⟨toAddress, reached⟩ | ⟨-, clean, -⟩)
    · have watch : ¬(stop.watchpointMatch = true ∨ stop.dfsr &&& Dfsr.dwtTrap ≠ 0) := by
        simp [reached.watchpoint, reached.trap]
      have breakpoint : (classifyStop s stop).reason = .breakpoint := by
        rw [classifyStop, if_neg (by simp [reached.lockup]), if_neg watch]
        simp [idle, reached.comparator]
      have different := same.reason
      rw [breakpoint, runClass_reached toAddress reached] at different
      exact absurd different (by decide)
    · exact absurd (real.symm.trans clean) (by decide)
  · intro unmisread
    rw [classifyStop_real idle real fun reached => unmisread (Or.inl reached)]
    exact ⟨rfl, rfl, rfl⟩

/-- A clean step of the user is called a single step, and the class of its stop is that if the halt
bit is set. -/
theorem sameReport_step (single : req.action = RunAction.singleStep)
    (clean : isRealStop stop = false) :
    SameReport { classifyStop s stop with reason := .singleStep } (runClass req ids table stop) ↔
      ¬Misread req stop := by
  have called : runClass req ids table stop =
      { reason := if stop.dfsr &&& Dfsr.halted ≠ 0 ∧
        req.action = RunAction.singleStep then .singleStep
          else .userHalt } := classifyStop_clean _ clean
  rw [called, classifyStop_clean _ clean]
  constructor
  · rintro same (⟨toAddress, -⟩ | ⟨-, -, bit⟩)
    · exact absurd (single.symm.trans toAddress) (by decide)
    · have reasons := same.reason
      dsimp only at reasons
      rw [if_neg fun hn => hn.1 bit] at reasons
      exact absurd reasons (by decide)
  · intro unmisread
    have bit : stop.dfsr &&& Dfsr.halted ≠ 0 := fun zero => unmisread (Or.inr ⟨single, clean, zero⟩)
    rw [if_pos (c := _ ∧ req.action = _) ⟨bit, single⟩]
    exact ⟨rfl, rfl, rfl⟩

/-! Reporting a stop. -/

section
variable {h₀ : SessionHistory} {C : Observation → StopClass → Prop}

theorem ReportsSince.mono {C' : Observation → StopClass → Prop} (hr : ReportsSince h₀ C h)
    (hC : ∀ seen hit, C seen hit → C' seen hit) : ReportsSince h₀ C' h := by
  refine EveryOffer.mono hr fun h₁ f reported later stopped => ?_
  obtain ⟨seen, hit, observed, carries, allowed⟩ := reported later stopped
  exact ⟨seen, hit, observed, carries, hC seen hit allowed⟩

theorem QuietHistory.reports (q : QuietHistory h h') (hr : ReportsSince h₀ C h) :
    ReportsSince h₀ C h' := by
  obtain ⟨evs, rfl, quiet⟩ := q
  apply EveryOffer.calls hr
  rintro ⟨e, reply⟩ hm
  cases e with
  | call s c => exact ⟨s, c, reply, rfl⟩
  | offer f => exact absurd (quiet _ hm) id

theorem SnapshotTaken.reports (taken : SnapshotTaken s s' evs) (hr : ReportsSince h₀ C h) :
    ReportsSince h₀ C (h ++ evs) := by
  apply EveryOffer.calls hr
  intro ev hm
  obtain ⟨s₁, c, a, he, -⟩ := taken.reads ev hm
  exact ⟨s₁, c, a, he⟩

theorem Offered.reports {P : List UInt8 → Prop} {dead : Bool} (ho : Offered s P dead evs)
    (hr : ReportsSince h₀ C h) (hP : ∀ f, P f → ReportedAs C h f) :
    ReportsSince h₀ C (h ++ evs) := by
  rcases ho with ⟨-, -, rfl⟩ | ⟨-, f, accepted, hf, -, rfl⟩
  · rwa [List.append_nil]
  · exact EveryOffer.offer hr fun _ => hP f hf

end

section
variable {h₀ : SessionHistory} {C : List SwBp → Observation → StopClass → Prop}

/-- Nothing was reported. -/
abbrev Unreported (h₀ h : SessionHistory) : Prop := ReportsSince h₀ (fun _ _ => False) h

theorem Unreported.start (h : SessionHistory) : Unreported h h := EveryOffer.start h

theorem Unreported.reports {C : Observation → StopClass → Prop} (hu : Unreported h₀ h) :
    ReportsSince h₀ C h :=
  ReportsSince.mono hu fun _ _ => False.elim

/-- A stop is reported as it is classified, or with the reason a step gives it. -/
theorem enterHalted_reports (name : StopReason → StopReason) (before : Unreported h₀ h)
    (seen : observation h = some ⟨state, stop⟩)
    (hC : C s.swTable ⟨state, stop⟩
      { classifyStop s stop with reason := name (classifyStop s stop).reason }) :
    (enterHalted stop).wp s h fun _ s₁ h₁ =>
      emitPendingStopped.wp { s₁ with pendingReason := name s₁.pendingReason } h₁ fun _ s' h' =>
        ReportsSince h₀ (C s'.swTable) h' := by
  apply enterHalted_wp
  · intro lost
    exact emitPendingStopped_idle (Or.inr (by simp [lost])) before.reports
  · intro _ _ b dead evs ho
    apply emitPendingStopped_idle (Or.inr (by simp [Session.framed]))
    exact ho.reports before.reports fun f hf => reportedAs_other hf.not_stopped
  · intro _ _ s₁ evs taken
    have reports : ReportsSince h₀ (C s.swTable) (h ++ evs) := taken.reports before.reports
    have fits : SnapshotFits { s₁ with pendingReason := name s₁.pendingReason } :=
      taken.fits ⟨rfl, rfl⟩
    have recorded := taken.frame
    simp only [emitPendingStopped, Action.wp_bind, getSession_wp, Action.wp_ite, Action.wp_pure]
    refine ⟨fun idle => ?_, fun _ => ?_⟩
    · rw [recorded] at idle
      simp [Session.stopRecorded, Session.stoppedWith] at idle
    · apply sendStopped_wp fits
      intro b n dead evs' ho
      have table : s₁.swTable = s.swTable := by
        rw [recorded]
        rfl
      show ReportsSince h₀ (C s₁.swTable) _
      rw [table]
      apply ho.reports reports
      intro f hf _
      refine ⟨⟨state, stop⟩, _, taken.observation.trans seen, ?_, hC⟩
      have carries := hf.carries
      rw [recorded] at carries
      exact ⟨carries.reason, carries.breakpoint, carries.watchpoint⟩

/-! The three ways a RUN ends in a report. -/

theorem respond_unreported (opcode : UInt16) (status : Status) (before : Unreported h₀ h) :
    (respond opcode requestId status).wp s h fun _ s' h' =>
      Unreported h₀ h' ∧ observation h' = observation h ∧ ∃ b n dead, s' = s.framed b n dead := by
  apply respond_wp
  intro b dead evs ho
  exact ⟨ho.reports before fun f hf => reportedAs_other hf.not_stopped, ho.observation,
    b, 16, dead, rfl⟩

theorem enterLost_unreported (reason : TargetLostReason) (before : Unreported h₀ h) :
    (enterLost reason).wp s h fun _ _ => Unreported h₀ := by
  apply enterLost_wp
  · exact fun _ => before
  · intro _ b dead evs ho
    exact ho.reports before fun f hf => reportedAs_other hf.not_stopped

theorem rollbackRunConfig_unreported (before : Unreported h₀ h) :
    rollbackRunConfig.wp s h fun _ _ => Unreported h₀ := by
  apply Action.wp_mono rollbackRunConfig_quiet
  intro _ _ _ rolled
  exact rolled.1.reports before

/-- The class of a reported stop of a RUN is that of the run, unless the internal step misread
it. -/
def RunReport (req : RunRequest) (ids : List UInt32) (table : List SwBp) (seen : Observation)
    (hit : StopClass) :
    Prop :=
  SameReport hit (runClass req ids table seen.stop) ↔
    ¬(seen.state = .halted ∧ Misread req seen.stop)

theorem Tracks.framed {b : Buffer} {n : ℕ} {dead : Bool} (ht : Tracks req ids s) :
    Tracks req ids (s.framed b n dead) := ⟨ht.action, ht.active, ht.address, ht.named⟩

/-- A poll in a run. -/
theorem pollStop_reports (ht : Tracks req ids s) (before : Unreported h₀ h) :
    pollStop.wp s h fun _ s' h' => ReportsSince h₀ (fun seen hit =>
      seen.state = s.state ∧ SameReport hit (runClass req ids s'.swTable seen.stop)) h' := by
  simp only [pollStop, Action.wp_bind, backend_wp, Action.wp_ite, Action.wp_pure]
  intro a
  have asked : Unreported h₀ (h ++ [⟨.call s .pollHalted, a⟩]) := EveryOffer.call before
  refine ⟨fun _ => ?_, fun ok => ⟨fun halted => ?_, fun _ => asked.reports⟩⟩
  · apply Action.wp_mono (enterLost_unreported _ asked)
    intro _ s' _ lost
    exact lost.reports
  · have seen : observation (h ++ [⟨.call s .pollHalted, a⟩]) = some ⟨s.state, a.stop⟩ :=
      observation_call.trans (if_pos ⟨not_not.mp ok, halted⟩)
    apply enterHalted_reports (C := fun table seen hit =>
      seen.state = s.state ∧ SameReport hit (runClass req ids table seen.stop)) id asked seen
    rw [ht.classify]
    exact ⟨rfl, rfl, rfl, rfl⟩

theorem resumeRun_reports (before : Unreported h₀ h) :
    (resumeRun requestId req).wp s h fun _ s' h' =>
      ReportsSince h₀ (RunReport req s.hwBreakpointIds s'.swTable) h' := by
  simp only [resumeRun, Action.wp_bind, backend_wp, Action.wp_ite, Action.wp_pure, updateSession_wp]
  intro a
  have asked : Unreported h₀ (h ++ [⟨.call s (.resume req.action req.runToAddress), a⟩]) :=
    EveryOffer.call before
  constructor
  · intro _
    apply Action.wp_mono (respond_unreported _ _ asked)
    intro _ _ _ answered
    apply Action.wp_mono (enterLost_unreported _ answered.1)
    intro _ s' _ lost
    exact lost.reports
  · intro _
    apply Action.wp_mono (respond_unreported _ _ asked)
    intro _ s₁ _ answered
    obtain ⟨silent, -, b, n, dead, rfl⟩ := answered
    have tracks : Tracks req s.hwBreakpointIds
        { s with
          runningAction := req.action
          runToActive := req.action == RunAction.toAddress
          activeRunToAddress := if req.action = RunAction.toAddress then req.runToAddress else 0
          state := .running } := ⟨rfl, rfl, rfl, rfl⟩
    apply Action.wp_mono (pollStop_reports tracks.framed silent)
    intro _ s' _ reports
    apply reports.mono
    rintro seen hit ⟨state, same⟩
    have running : seen.state = .running := state
    exact ⟨fun _ misread => absurd (running.symm.trans misread.1) (by decide), fun _ => same⟩

/-- The observation of the internal step. -/
theorem reportStep_reports {userStep : Bool} (idle : s.runToActive = false)
    (before : Unreported h₀ h) (seen : observation h = some ⟨.halted, stop⟩)
    (kind : (userStep = false ∧ isRealStop stop = true) ∨
      (userStep = true ∧ isRealStop stop = false ∧ req.action = RunAction.singleStep)) :
    (reportStep requestId stop userStep).wp s h fun _ s' h' =>
      ReportsSince h₀ (RunReport req s.hwBreakpointIds s'.swTable) h' := by
  have report (name : StopReason → StopReason) (b : Buffer) (n : ℕ) (dead : Bool)
      (h₁ : SessionHistory)
      (silent : Unreported h₀ h₁) (seen₁ : observation h₁ = some ⟨.halted, stop⟩)
      (same : SameReport { classifyStop s stop with reason := name (classifyStop s stop).reason }
        (runClass req s.hwBreakpointIds s.swTable stop) ↔ ¬Misread req stop) :
      (enterHalted stop).wp (s.framed b n dead) h₁ fun _ s₁ h₁ =>
        emitPendingStopped.wp { s₁ with pendingReason := name s₁.pendingReason } h₁ fun _ s' h' =>
          ReportsSince h₀ (RunReport req s.hwBreakpointIds s'.swTable) h' := by
    apply enterHalted_reports (C := fun table => RunReport req s.hwBreakpointIds table)
      name silent seen₁
    rw [RunReport, and_iff_right rfl]
    exact same
  simp only [reportStep, Action.wp_bind, Action.wp_ite, updateSession_wp]
  apply Action.wp_mono (respond_unreported _ _ before)
  intro _ s₁ _ answered
  obtain ⟨silent, kept, b, n, dead, rfl⟩ := answered
  rcases kind with ⟨rfl, real⟩ | ⟨rfl, clean, single⟩
  · apply Action.wp_mono (report id b n dead _ silent (kept.trans seen) (sameReport_real idle real))
    intro _ _ _ reported
    exact ⟨fun hf => absurd hf (by decide), fun _ => reported⟩
  · apply Action.wp_mono (report (fun _ => .singleStep) b n dead _ silent (kept.trans seen)
      (sameReport_step single clean))
    intro _ _ _ reported
    exact ⟨fun _ => reported, fun hn => absurd rfl hn⟩

/-! The step-over. -/

theorem swBpInstallFound_observes (bp : Option ℕ) : (swBpInstallFound bp).wp s h fun _ s' h' =>
    Quiet s h s' h' ∧ observation h' = observation h := by
  apply Action.wp_and (swBpInstallFound_quiet bp)
  cases bp with
  | none => exact rfl
  | some index =>
    simp only [swBpInstallFound, swBpInstallOne, Action.wp_bind, updateTable_wp, getSession_wp]
    split
    · exact rfl
    · simp only [Action.wp_bind, backend_wp, Action.wp_pure]
      exact fun _ => observation_call

theorem pollStepHalted_observes (n : ℕ) : (pollStepHalted n).wp s h fun r _ h' =>
    ∀ stop, r = .ok stop → observation h' = some ⟨s.state, stop⟩ := by
  induction n generalizing h with
  | zero => exact fun stop he => absurd he (by simp)
  | succ n ih =>
    simp only [pollStepHalted, Action.wp_bind, backend_wp, Action.wp_ite, Action.wp_pure]
    intro a
    refine ⟨fun _ stop he => absurd he (by simp), fun ok => ⟨fun halted stop he => ?_, fun _ => ih⟩⟩
    cases he
    exact observation_call.trans (if_pos ⟨not_not.mp ok, halted⟩)

/-- What an internal step leaves for a report. -/
structure Observed (action : UInt8) (s : Session) (h₀ : SessionHistory) (outcome : StepOver)
    (s' : Session) (h' : SessionHistory) : Prop where
  silent : Unreported h₀ h'
  state : s'.state = s.state
  idle : s'.runToActive = s.runToActive
  named : s'.hwBreakpointIds = s.hwBreakpointIds
  real : ∀ stop, outcome = .stoppedReal stop → observation h' = some ⟨s.state, stop⟩ ∧
    isRealStop stop = true
  step : ∀ stop, outcome = .stoppedStep stop →
    observation h' = some ⟨s.state, stop⟩ ∧ isRealStop stop = false ∧ action = RunAction.singleStep

/-- An outcome that reports nothing. -/
theorem Observed.of_unstopped {action : UInt8} {outcome : StepOver} {pending : Bool}
    {address : UInt64}
    (silent : Unreported h₀ h')
    (other : ∀ stop, outcome ≠ .stoppedReal stop ∧ outcome ≠ .stoppedStep stop)
    (same : s' = { s.withTable s'.swTable with
      swStepOverPending := pending
      swStepOverAddress := address }) :
    Observed action s h₀ outcome s' h' := by
  rw [same]
  exact ⟨silent, rfl, rfl, rfl, fun stop he => absurd he (other stop).1,
    fun stop he => absurd he (other stop).2⟩

theorem executeStepOver_observes (action : UInt8) (before : Unreported h₀ h) :
    (executeStepOver action).wp s h fun outcome => Observed action s h₀ outcome := by
  simp only [executeStepOver, Action.wp_bind, getSession_wp, Action.wp_ite, Action.wp_pure]
  refine ⟨fun _ => .of_unstopped before (by simp) rfl, fun _ => ?_⟩
  generalize swBpFindByAddress s.swTable s.swStepOverAddress = bp
  apply Action.wp_mono (swBpRestoreFound_quiet bp)
  intro _ s₁ _ restored
  have silent₁ := restored.history.reports before
  refine ⟨fun _ => .of_unstopped silent₁ (by simp) restored.session, fun _ => ?_⟩
  simp only [writeCurrentPc, Action.wp_bind, backend_wp, Action.wp_pure]
  intro a
  have silent₂ :
      Unreported h₀
      (_ ++ [⟨.call s₁ (.writeRegs (pcEntryBytes s.swStepOverAddress.toUInt32)), a⟩]) :=
    EveryOffer.call silent₁
  refine ⟨fun _ => ?_, fun _ step => ?_⟩
  · apply Action.wp_mono (swBpInstallFound_quiet bp)
    intro _ s₂ _ again
    exact .of_unstopped (again.history.reports silent₂) (by simp)
      ((restored.call (by rfl)).trans again).session
  have silent₃ : Unreported h₀ (_ ++ [⟨.call s₁ (.resume RunAction.singleStep 0), step⟩]) :=
    EveryOffer.call silent₂
  refine ⟨fun _ => .of_unstopped silent₃ (by simp) restored.session, fun _ => ?_⟩
  apply Action.wp_mono (Action.wp_and (pollStepHalted_polled 100) (pollStepHalted_observes 100))
  intro r s₂ evs polled
  obtain ⟨⟨polled, rfl⟩, seen⟩ := polled
  have silent₄ := polled.quiet.reports silent₃
  cases r with
  | error reason => exact .of_unstopped silent₄ (by simp) restored.session
  | ok stop =>
    simp only [Action.wp_bind, updateSession_wp, Action.wp_ite, Action.wp_pure]
    apply Action.wp_mono (swBpInstallFound_observes bp)
    intro _ s₃ _ armed
    obtain ⟨again, kept⟩ := armed
    have silent₅ := again.history.reports silent₄
    have same : s₃ = { s.withTable s₃.swTable with
        swStepOverPending := false
        swStepOverAddress := 0 } := by
      have second := again.session
      rw [restored.session] at second
      exact second
    have seen₅ := kept.trans (seen stop rfl)
    rw [show s₂.state = s.state by rw [restored.session]; rfl] at seen₅
    refine ⟨fun _ => .of_unstopped silent₅ (by simp) same, fun _ =>
      ⟨fun real => ?_, fun clean => ⟨fun single => ?_, fun _ => .of_unstopped silent₅
        (by simp) same⟩⟩⟩
    · rw [same]
      exact ⟨silent₅, rfl, rfl, rfl, fun _ he => by cases he; exact ⟨seen₅,
        real⟩, fun _ he => absurd he (by simp)⟩
    · rw [same]
      exact ⟨silent₅, rfl, rfl, rfl, fun _ he => absurd he (by simp), fun _ he => by
        cases he
        exact ⟨seen₅, Bool.eq_false_of_not_eq_true clean, single⟩⟩

/-! A whole RUN. -/

theorem installRun_named (plan : RunPlan) : (installRun plan).wp s h fun failure s' _ =>
    failure = none → s'.hwBreakpointIds = plan.hwEntries.map (·.breakpointId) := by
  simp only [installRun, Action.wp_bind, Action.wp_ite, Action.wp_pure, backend_wp,
    updateSession_wp]
  apply Action.wp_from
  intro _ _ _
  exact ⟨fun _ hf => absurd hf (by simp), fun _ _ => ⟨fun _ hf => absurd hf (by simp), fun _ _ =>
    ⟨fun _ hf => absurd hf (by simp), fun _ _ => ⟨fun _ hf => absurd hf (by simp),
      fun _ _ => trivial⟩⟩⟩⟩

theorem opRun_reports {plan : RunPlan} (hcheck : checkRun s payload = .ok plan)
    (halted : s.state = .halted) (idle : s.runToActive = false) :
    (opRun requestId payload).wp s h fun _ s' h' =>
      ReportsSince h
        (RunReport plan.request (plan.hwEntries.map (·.breakpointId)) s'.swTable) h' := by
  simp only [opRun, Action.wp_bind, getSession_wp, hcheck]
  apply Action.wp_mono (Action.wp_and (installRun_quiet plan) (installRun_named plan))
  intro failure s₁ evs installed
  obtain ⟨⟨quiet, same⟩, named⟩ := installed
  have silent : Unreported h (h ++ evs) := quiet.reports (EveryOffer.start h)
  have halted₁ : s₁.state = .halted := by rw [same]; exact halted
  have idle₁ : s₁.runToActive = false := by rw [same]; exact idle
  cases failure with
  | some status =>
    simp only [failRun, Action.wp_bind, Action.wp_ite, Action.wp_pure]
    apply Action.wp_mono (rollbackRunConfig_unreported silent)
    intro _ s₂ _ rolled
    apply Action.wp_mono (respond_unreported _ _ rolled)
    intro _ s₃ _ answered
    refine ⟨fun _ => ?_, fun _ => answered.1.reports⟩
    apply Action.wp_mono (enterLost_unreported _ answered.1)
    intro _ _ _ lost
    exact lost.reports
  | none =>
    rw [← named rfl]
    simp only [Action.wp_bind]
    apply Action.wp_mono (executeStepOver_observes _ silent)
    intro outcome s₂ evs₂ step
    rw [← step.named]
    have halted₂ := step.state.trans halted₁
    have idle₂ := step.idle.trans idle₁
    cases outcome with
    | notNeeded => exact resumeRun_reports step.silent
    | stepped => exact resumeRun_reports step.silent
    | stoppedStep stop =>
      obtain ⟨seen, clean, single⟩ := step.step stop rfl
      rw [halted₁] at seen
      exact reportStep_reports idle₂ step.silent seen (Or.inr ⟨rfl, clean, single⟩)
    | stoppedReal stop =>
      obtain ⟨seen, real⟩ := step.real stop rfl
      rw [halted₁] at seen
      exact reportStep_reports idle₂ step.silent seen (Or.inl ⟨rfl, real⟩)
    | failed =>
      simp only [Action.wp_bind, Action.wp_ite]
      apply Action.wp_mono (rollbackRunConfig_unreported step.silent)
      intro _ _ _ rolled
      constructor
      · intro _
        apply Action.wp_mono (respond_unreported _ _ rolled)
        intro _ _ _ answered
        exact answered.1.reports
      · intro _
        apply Action.wp_mono (respond_unreported _ _ rolled)
        intro _ _ _ answered
        apply Action.wp_mono (enterLost_unreported _ answered.1)
        intro _ _ _ lost
        exact lost.reports
    | failedLost reason =>
      simp only [Action.wp_bind]
      apply Action.wp_mono (respond_unreported _ _ step.silent)
      intro _ _ _ answered
      apply Action.wp_mono (enterLost_unreported _ answered.1)
      intro _ _ _ lost
      exact lost.reports

end

end SidpClient
