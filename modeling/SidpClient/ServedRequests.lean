import SidpClient.MemoryAdmission
import SidpClient.ResponseStatuses
import SidpClient.RunAllOrNothing

/-! What an ATTACH response advertises is what the requests behind it are served with, and no
more. -/
namespace SidpClient
open LittleEndian Interactive

/-! What requests stay within. -/

def requestedBreakpoints (payload : List UInt8) : List Breakpoint :=
  parseTable Breakpoint.parse breakpointSize (payload.drop runRequestSize)
    (RunRequest.parse payload).breakpointCount.toNat

def ofKind (kind : UInt8) (bps : List Breakpoint) : List Breakpoint := bps.filter (·.kind == kind)

/-- A RUN that asks for no more than these resources, with one more comparator for RUN_TO_ADDRESS
unless a requested one has its address. -/
structure RunFits (r : Resources) (payload : List UInt8) : Prop where
  kinds : ∀ bp ∈ requestedBreakpoints payload,
    bp.kind = BreakpointKind.hardware ∨ bp.kind = BreakpointKind.software
  hardware : (ofKind BreakpointKind.hardware (requestedBreakpoints payload)).length ≤
    r.hardwareBreakpoints.toNat
  runTo : (RunRequest.parse payload).action = RunAction.toAddress →
    (∃ bp ∈ ofKind BreakpointKind.hardware (requestedBreakpoints payload),
      bp.address = (RunRequest.parse payload).runToAddress) ∨
    (ofKind BreakpointKind.hardware (requestedBreakpoints payload)).length <
    r.hardwareBreakpoints.toNat
  software : (ofKind BreakpointKind.software (requestedBreakpoints payload)).length ≤
    maxSoftwareBreakpoints
  capable : ofKind BreakpointKind.software (requestedBreakpoints payload) ≠ [] →
    r.has Cap.softwareBp = true
  watchpoints : (RunRequest.parse payload).watchpointCount.toNat ≤ r.hardwareWatchpoints.toNat
  vectors : (RunRequest.parse payload).vectorCatchMask &&& ~~~r.vectorCatch = 0
  step : (RunRequest.parse payload).action = RunAction.singleStep → r.has Cap.singleStep = true

/-- A reset of an advertised kind. -/
structure ResetFits (r : Resources) (cap : UInt32) (payload : List UInt8) : Prop where
  able : r.has cap = true
  system : getU8 payload 0 = ResetKind.system → r.has Cap.resetSystem = true
  nrst : getU8 payload 0 = ResetKind.nrst → r.has Cap.resetNrst = true

/-- A request within the resources and the map of an ATTACH response. Flash is not written. -/
def Fits (r : Resources) (map : List MemoryRegion) (payload : List UInt8) : RequestOp → Prop
  | .run => RunFits r payload
  | .resetHalt => ResetFits r Cap.resetHalt payload
  | .resetRun => ResetFits r Cap.resetRun payload
  | .writeMemory => ∀ region, FirstCovering map (MemoryRequest.parse payload).address
      (MemoryRequest.parse payload).length.toNat region → region.type ≠ MemoryType.flash
  | _ => True

variable {s : Session} {h h' evs : SessionHistory} {payload : List UInt8} {requestId : UInt32}
  {info : AttachInfo}

/-! The checks of RUN. -/

/-- The rest of a breakpoint table fits behind what is collected already. -/
structure Room (s : Session) (c : List BpEntry × List BpEntry) (bps : List Breakpoint) : Prop where
  kinds : ∀ bp ∈ bps, bp.kind = BreakpointKind.hardware ∨ bp.kind = BreakpointKind.software
  hardware : c.1.length + (ofKind BreakpointKind.hardware bps).length ≤
    s.hardwareBreakpointLimit.toNat
  software : c.2.length + (ofKind BreakpointKind.software bps).length ≤ maxSoftwareBreakpoints
  comparators : s.hardwareBreakpointLimit ≠ 0 → s.hasCapability Cap.hardwareBp = true
  capable : ofKind BreakpointKind.software bps ≠ [] → s.hasCapability Cap.softwareBp = true

theorem collectBreakpoint_collects {c c' : List BpEntry × List BpEntry} {bp : Breakpoint}
    (hok : collectBreakpoint s c bp = .ok c') :
    (bp.kind = BreakpointKind.software ∧ c' = (c.1, c.2 ++ [bp.entry])) ∨
      (bp.kind = BreakpointKind.hardware ∧ c' = (c.1 ++ [bp.entry], c.2)) := by
  simp only [collectBreakpoint, bind, Except.bind, pure, Except.pure, throw, throwThe,
    MonadExceptOf.throw] at hok
  obtain ⟨known, hok⟩ := passed hok (by simp)
  by_cases software : bp.kind = BreakpointKind.software
  · rw [if_pos software] at hok
    obtain ⟨-, hok⟩ := passed hok (by simp)
    obtain ⟨-, hok⟩ := passed hok (by simp)
    obtain ⟨-, hok⟩ := passed hok (by simp)
    exact Or.inl ⟨software, (Except.ok.inj hok).symm⟩
  · rw [if_neg software] at hok
    obtain ⟨-, hok⟩ := passed hok (by simp)
    obtain ⟨-, hok⟩ := passed hok (by simp)
    obtain ⟨-, hok⟩ := passed hok (by simp)
    refine Or.inr ⟨?_, (Except.ok.inj hok).symm⟩
    by_contra other
    exact known (Or.inr (Or.inr ⟨other, software⟩))

theorem ofKind_cons_same {kind : UInt8} {bp : Breakpoint} (bps : List Breakpoint)
    (hk : bp.kind = kind) :
    ofKind kind (bp :: bps) = bp :: ofKind kind bps := by
  simp [ofKind, hk]

theorem ofKind_cons_other {kind : UInt8} {bp : Breakpoint} (bps : List Breakpoint)
    (hk : bp.kind ≠ kind) :
    ofKind kind (bp :: bps) = ofKind kind bps := by
  simp [ofKind, hk]

theorem Room.next {c c' : List BpEntry × List BpEntry} {bp : Breakpoint} {bps : List Breakpoint}
    (room : Room s c (bp :: bps)) (hok : collectBreakpoint s c bp = .ok c') : Room s c' bps := by
  have kinds : ∀ bp ∈ bps, bp.kind = BreakpointKind.hardware ∨ bp.kind = BreakpointKind.software :=
    fun bp' hm => room.kinds bp' (List.mem_cons_of_mem _ hm)
  have hardware := room.hardware
  have software := room.software
  rcases collectBreakpoint_collects hok with ⟨hk, rfl⟩ | ⟨hk, rfl⟩
  · rw [ofKind_cons_other bps (by rw [hk]; decide)] at hardware
    rw [ofKind_cons_same bps hk, List.length_cons] at software
    refine ⟨kinds, hardware, ?_, room.comparators, fun _ => room.capable ?_⟩
    · rw [List.length_append, List.length_singleton]
      omega
    · rw [ofKind_cons_same bps hk]
      exact List.cons_ne_nil _ _
  · rw [ofKind_cons_same bps hk, List.length_cons] at hardware
    rw [ofKind_cons_other bps (by rw [hk]; decide)] at software
    refine ⟨kinds, ?_, software, room.comparators, fun some => room.capable ?_⟩
    · rw [List.length_append, List.length_singleton]
      omega
    · rw [ofKind_cons_other bps (by rw [hk]; decide)]
      exact some

theorem Room.spares_first {c : List BpEntry × List BpEntry} {bp : Breakpoint}
    {bps : List Breakpoint} (room : Room s c (bp :: bps)) : Spares (collectBreakpoint s c bp) := by
  have hardware := room.hardware
  have software := room.software
  simp only [collectBreakpoint, refusesWith_ite, throw_bind, refusesWith_throw, refusesWith_pure]
  refine ⟨fun _ => rfl, fun _ => ⟨fun hk => ?_, fun hk => ?_⟩⟩
  · rw [ofKind_cons_same bps hk, List.length_cons] at software
    have capable := room.capable (by rw [ofKind_cons_same bps hk]; exact List.cons_ne_nil _ _)
    refine ⟨fun refused => absurd refused (by simp [capable]), fun _ => ⟨fun _ => rfl, fun _ =>
      ⟨fun full => ?_, fun _ => trivial⟩⟩⟩
    omega
  · have hw : bp.kind = BreakpointKind.hardware :=
      (room.kinds bp List.mem_cons_self).resolve_right hk
    rw [ofKind_cons_same bps hw, List.length_cons] at hardware
    have some : s.hardwareBreakpointLimit ≠ 0 := by
      intro zero
      rw [zero, UInt16.toNat_zero] at hardware
      omega
    refine ⟨fun refused => absurd refused (by simp [room.comparators some, some]), fun _ =>
      ⟨fun _ => rfl, fun _ => ⟨fun full => ?_, fun _ => trivial⟩⟩⟩
    omega

theorem Room.spares (bps : List Breakpoint) {c : List BpEntry × List BpEntry}
    (room : Room s c bps) :
    Spares (bps.foldlM (collectBreakpoint s) c) := by
  induction bps generalizing c with
  | nil => exact refusesWith_pure
  | cons bp bps ih =>
    rw [List.foldlM_cons]
    exact room.spares_first.bind fun c' hok => ih (room.next hok)

/-- The hardware entries of a RUN are its hardware breakpoints, in order. -/
theorem collected_hardware (bps : List Breakpoint) {c c' : List BpEntry × List BpEntry}
    (hok : bps.foldlM (collectBreakpoint s) c = .ok c') :
    c'.1 = c.1 ++ (ofKind BreakpointKind.hardware bps).map Breakpoint.entry := by
  induction bps generalizing c with
  | nil =>
    obtain rfl := Except.ok.inj hok
    simp [ofKind]
  | cons bp bps ih =>
    rw [List.foldlM_cons] at hok
    obtain ⟨c₁, hstep, hrest⟩ := Except.bind_ok hok
    rw [ih hrest]
    rcases collectBreakpoint_collects hstep with ⟨hk, rfl⟩ | ⟨hk, rfl⟩
    · rw [ofKind_cons_other bps (by rw [hk]; decide)]
    · rw [ofKind_cons_same bps hk, List.map_cons, List.append_assoc, List.singleton_append]

theorem requested_length (kinds : ∀ bp ∈ requestedBreakpoints payload,
    bp.kind = BreakpointKind.hardware ∨ bp.kind = BreakpointKind.software) :
    (RunRequest.parse payload).breakpointCount.toNat =
      (ofKind BreakpointKind.hardware (requestedBreakpoints payload)).length +
        (ofKind BreakpointKind.software (requestedBreakpoints payload)).length := by
  have count : (requestedBreakpoints payload).length = (RunRequest.parse
      payload).breakpointCount.toNat := by
    simp [requestedBreakpoints, parseTable]
  rw [← count]
  generalize requestedBreakpoints payload = bps at kinds
  induction bps with
  | nil => rfl
  | cons bp bps ih =>
    have rest := ih fun bp' hm => kinds bp' (List.mem_cons_of_mem _ hm)
    rcases kinds bp List.mem_cons_self with hk | hk
    · rw [ofKind_cons_same bps hk, ofKind_cons_other bps (by rw [hk]; decide), List.length_cons,
        List.length_cons]
      omega
    · rw [ofKind_cons_same bps hk, ofKind_cons_other bps (by rw [hk]; decide), List.length_cons,
        List.length_cons]
      omega

theorem checkRunRequest_spares (fits : RunFits s.resources payload)
    (norm : Normalized info s.resources) :
    Spares (checkRunRequest s payload) := by
  have hardware := fits.hardware.trans (norm.breakpoints.trans (Nat.min_le_right _ _))
  have watchpoints := fits.watchpoints.trans (norm.watchpoints.trans (Nat.min_le_right _ _))
  have count := requested_length fits.kinds
  have software := fits.software
  have step : (RunRequest.parse payload).action = RunAction.singleStep →
      s.hasCapability Cap.singleStep = true := fits.step
  have vectors : (RunRequest.parse payload).vectorCatchMask &&& ~~~s.supportedVectorCatch = 0 :=
    fits.vectors
  simp only [maxSoftwareBreakpoints] at software
  simp only [checkRunRequest, refusesWith_ite, throw_bind, refusesWith_throw, refusesWith_pure]
  refine ⟨fun _ => rfl, fun _ => ⟨fun _ => rfl, fun _ =>
    ⟨fun _ => rfl, fun _ => ⟨fun _ => rfl, fun _ => ⟨fun _ => rfl, fun _ =>
      ⟨fun refused => ?_, fun _ => ⟨fun refused => absurd vectors refused, fun _ =>
      ⟨fun _ => rfl, fun _ => ⟨fun many => ?_, fun _ => ⟨fun many => ?_, fun _ => trivial⟩⟩⟩⟩⟩⟩⟩⟩⟩⟩
  · exact absurd refused.2 (by simp [step refused.1])
  · simp only [maxHardwareBreakpoints, maxSoftwareBreakpoints] at many
    omega
  · simp only [maxHardwareWatchpoints] at many
    omega

theorem checkRunToSlot_spares {hwEntries : List BpEntry} (fits : RunFits s.resources payload)
    (norm : Normalized info s.resources) (entries : hwEntries =
      (ofKind BreakpointKind.hardware (requestedBreakpoints payload)).map Breakpoint.entry) :
    Spares (checkRunToSlot s (RunRequest.parse payload) hwEntries) := by
  have hardware := fits.hardware
  simp only [checkRunToSlot, refusesWith_ite, throw_bind, refusesWith_throw, refusesWith_pure]
  refine ⟨fun runTo => ?_, fun _ => trivial⟩
  have some : s.hardwareBreakpointLimit ≠ 0 := by
    intro zero
    have none : s.resources.hardwareBreakpoints.toNat = 0 := congrArg UInt16.toNat zero
    rcases fits.runTo runTo with ⟨bp, hm, -⟩ | less
    · have pos := List.length_pos_of_mem hm
      omega
    · omega
  have capable : s.hasCapability Cap.hardwareBp = true := norm.comparators some
  refine ⟨fun refused => absurd refused (by simp [capable]), fun _ =>
    ⟨fun refused => ?_, fun _ => trivial⟩⟩
  obtain ⟨apart, full⟩ := refused
  rw [entries, List.length_map] at full
  rcases fits.runTo runTo with ⟨bp, hm, same⟩ | less
  · have among :
        hwEntries.any (fun entry => entry.address == (RunRequest.parse payload).runToAddress) =
        true := by
      rw [List.any_eq_true, entries]
      exact ⟨bp.entry, List.mem_map_of_mem hm, beq_iff_eq.mpr same⟩
    exact absurd apart (by simp [among])
  · exact absurd less (not_lt.mpr full)

/-- A RUN within the resources is refused for none of them. -/
theorem checkRun_spares (fits : RunFits s.resources payload) (norm : Normalized info s.resources) :
    Spares (checkRun s payload) := by
  refine (checkRunRequest_spares fits norm).bind fun req hreq => ?_
  obtain rfl : req = RunRequest.parse payload := (checkRunRequest_ok hreq).1
  have room : Room s ([], []) (requestedBreakpoints payload) := by
    refine ⟨fits.kinds, ?_, ?_, norm.comparators, fits.capable⟩
    · rw [List.length_nil, Nat.zero_add]
      exact fits.hardware
    · rw [List.length_nil, Nat.zero_add]
      exact fits.software
  refine (room.spares).bind fun collected hbps => ?_
  obtain ⟨hwEntries, swEntries⟩ := collected
  have entries := collected_hardware _ hbps
  rw [List.nil_append] at entries
  refine (checkRunToSlot_spares fits norm entries).bind fun _ _ => ?_
  have wps : ∀ wp, Spares (collectWatchpoint wp) := by
    intro wp
    simp [collectWatchpoint, Status.blamesResources]
  simp only [refusesWith_ite, throw_bind, refusesWith_throw]
  have watchpoints : (RunRequest.parse payload).watchpointCount.toNat ≤
      s.hardwareWatchpointLimit.toNat := fits.watchpoints
  refine ⟨fun refused => ?_, fun _ => ⟨fun many => ?_, fun _ =>
    (RefusesWith.mapM wps _).bind fun _ _ => refusesWith_pure⟩⟩
  · obtain ⟨some, incapable⟩ := refused
    have limit : s.hardwareWatchpointLimit ≠ 0 := by
      intro zero
      rw [zero, UInt16.toNat_zero, Nat.le_zero] at watchpoints
      exact some (UInt16.toNat_inj.mp watchpoints)
    have capable : s.hasCapability Cap.watchpoint = true := norm.watches limit
    exact absurd incapable (by simp [capable])
  · have above := UInt16.lt_iff_toNat_lt.mp many
    omega

/-! The other checks. -/

theorem checkReset_spares {cap : UInt32} (fits : ResetFits s.resources cap payload) :
    Spares (checkReset s cap payload) := by
  have able : s.hasCapability cap = true := fits.able
  have system : getU8 payload 0 = ResetKind.system → s.hasCapability Cap.resetSystem = true :=
    fits.system
  have nrst : getU8 payload 0 = ResetKind.nrst → s.hasCapability Cap.resetNrst = true := fits.nrst
  simp only [checkReset, refusesWith_ite, throw_bind, refusesWith_throw, refusesWith_pure]
  refine ⟨fun _ => rfl, fun _ => ⟨fun _ => rfl, fun _ => ⟨fun refused => ?_, fun _ => trivial⟩⟩⟩
  rcases refused with missing | ⟨kind, missing⟩ | ⟨kind, missing⟩
  · exact absurd missing (by simp [able])
  · exact absurd missing (by simp [system kind])
  · exact absurd missing (by simp [nrst kind])

theorem checkStopMode_spares (s : Session) (req : MemoryRequest) :
    Spares (checkStopMode s req) := by
  simp only [checkStopMode, refusesWith_ite, throw_bind, refusesWith_throw, refusesWith_pure]
  refine ⟨fun _ => ⟨fun _ => ?_, fun _ => ⟨fun _ => rfl, fun _ => trivial⟩⟩, fun _ =>
    ⟨fun _ => rfl, fun _ => trivial⟩⟩
  split
  · rfl
  · rfl

/-- The validation only blames flash that is written. -/
theorem validateMemoryAccess_blames {map : List MemoryRegion} {req : MemoryRequest} {isWrite : Bool}
    (hb : (validateMemoryAccess map req.address req.length req.flags req.accessWidth
      isWrite).blamesResources = true) :
    isWrite = true ∧ ∃ region, FirstCovering map req.address req.length.toNat region ∧
      region.type = MemoryType.flash := by
  rw [validateMemoryAccess] at hb
  split at hb
  · exact absurd hb (by decide)
  · rename_i range
    rw [not_or, exceeds_iff, not_not, UInt32.toNat_toUInt64] at range
    cases hfind : map.find? (·.contains req.address req.length.toUInt64) with
    | none =>
      rw [hfind] at hb
      exact absurd hb (by simp [Status.blamesResources])
    | some region =>
      rw [hfind] at hb
      have first := (find_covering_iff map range.2 region).mp hfind
      by_cases flash : region.type = MemoryType.flash ∧ isWrite = true
      · exact ⟨flash.2, region, first, flash.1⟩
      · simp only [if_neg flash] at hb
        repeat' split at hb
        all_goals exact absurd hb (by decide)

theorem checkReadMemory_spares (s : Session) (payload : List UInt8) :
    Spares (checkReadMemory s payload) := by
  simp only [checkReadMemory, refusesWith_ite, throw_bind, refusesWith_throw]
  refine ⟨fun _ => rfl, fun _ => ⟨fun _ => rfl, fun _ => ?_⟩⟩
  refine (checkStopMode_spares s _).bind fun _ _ => ?_
  simp only [refusesWith_ite, refusesWith_throw, refusesWith_pure]
  refine ⟨fun _ => rfl, fun _ => ⟨fun _ => ?_, fun _ => trivial⟩⟩
  rw [Bool.eq_false_iff]
  intro blames
  exact absurd (validateMemoryAccess_blames blames).1 (by decide)

theorem checkWriteMemory_spares
    (dry : ∀ region, FirstCovering s.regions (MemoryRequest.parse payload).address
    (MemoryRequest.parse payload).length.toNat region → region.type ≠ MemoryType.flash) :
    Spares (checkWriteMemory s payload) := by
  simp only [checkWriteMemory, refusesWith_ite, throw_bind, refusesWith_throw]
  refine ⟨fun _ => rfl, fun _ => ⟨fun _ => rfl, fun _ => ?_⟩⟩
  refine (checkStopMode_spares s _).bind fun _ _ => ?_
  simp only [refusesWith_ite, refusesWith_throw, refusesWith_pure]
  refine ⟨fun _ => rfl, fun _ => ⟨fun _ => ?_, fun _ => trivial⟩⟩
  rw [Bool.eq_false_iff]
  intro blames
  obtain ⟨-, region, first, flash⟩ := validateMemoryAccess_blames blames
  exact dry region first flash

/-! The installation of a RUN. -/

/-- Every call of these events succeeded. -/
def Succeeds (evs : SessionHistory) : Prop := ∀ ca ∈ calls evs, ca.2.code = .ok

theorem swBpRecord_spares (entries : List BpEntry) :
    (swBpRecord entries).wp s h fun status _ _ => status.blamesResources = false := by
  induction entries generalizing s h with
  | nil => rfl
  | cons entry entries ih =>
    have undo (status : Status) (hs : status.blamesResources = false) {s : Session}
        {h : SessionHistory} :
        swBpRestoreAll.wp s h fun _ _ _ => status.blamesResources = false :=
      Action.wp_from fun _ _ _ => hs
    simp only [swBpRecord, Action.wp_bind, getSession_wp, Action.wp_ite, Action.wp_pure, backend_wp,
      updateTable_wp]
    exact ⟨fun _ => undo _ rfl, fun _ => ⟨fun _ => undo _ rfl, fun _ a =>
      ⟨fun _ => undo _ rfl, fun _ => ⟨fun _ => undo _ rfl, fun _ => ih⟩⟩⟩⟩

theorem swBpInstallFrom_spares (n index : ℕ) :
    (swBpInstallFrom index n).wp s h fun status _ _ => status.blamesResources = false := by
  induction n generalizing index s h with
  | zero => rfl
  | succ n ih =>
    rw [swBpInstallFrom, Action.wp_bind]
    apply Action.wp_from
    intro installed s' evs
    simp only [Action.wp_ite, Action.wp_bind, Action.wp_pure]
    exact ⟨fun _ => Action.wp_from fun _ _ _ => rfl, fun _ => ih (index + 1)⟩

theorem swBpApply_spares (entries : List BpEntry) :
    (swBpApply entries).wp s h fun status _ _ => status.blamesResources = false := by
  rw [swBpApply, Action.wp_bind]
  apply Action.wp_from
  intro restored s₁ evs₁
  simp only [Action.wp_ite, Action.wp_pure, Action.wp_bind]
  refine ⟨fun _ => rfl, fun _ => ?_⟩
  apply Action.wp_mono (swBpRecord_spares entries)
  intro recorded s₂ evs₂ spares
  exact ⟨fun _ => spares, fun _ => swBpInstallFrom_spares _ _⟩

/-- The installation only blames resources where a backend call failed. -/
theorem installRun_blames (plan : RunPlan) :
    (installRun plan).wp s h fun result _ h' => ∀ status, result = some status →
      status.blamesResources = true → ∃ evs, h' = h ++ evs ∧ ¬Succeeds evs := by
  have failed {h₁ : SessionHistory} {s₁ : Session} {c : Call} {a : Answer} (fail : a.code ≠ .ok)
      (later : h <+: h₁) : ∃ evs, h₁ ++ [⟨.call s₁ c, a⟩] = h ++ evs ∧ ¬Succeeds evs := by
    obtain ⟨evs, rfl⟩ := later
    refine ⟨evs ++ [⟨.call s₁ c, a⟩], List.append_assoc _ _ _, fun succeeds =>
      fail (succeeds (c, a) ?_)⟩
    rw [calls_append]
    exact List.mem_append_right _ List.mem_cons_self
  rw [installRun, Action.wp_bind]
  apply Action.wp_mono (swBpApply_spares plan.swEntries)
  intro swResult s₁ evs₁ spares
  simp only [Action.wp_ite, Action.wp_pure, Action.wp_bind, backend_wp, updateSession_wp]
  have later : h <+: h ++ evs₁ := List.prefix_append _ _
  refine ⟨fun _ status he blames => ?_, fun _ a₁ => ⟨fun fail _ _ _ => failed fail later,
    fun _ a₂ => ⟨fun fail _ _ _ => failed fail (later.trans (List.prefix_append _ _)), fun _ a₃ =>
      ⟨fun fail _ _ _ => failed fail ((later.trans (List.prefix_append _ _)).trans
        (List.prefix_append _ _)), fun _ status he => absurd he (by simp)⟩⟩⟩⟩
  obtain rfl := Option.some.inj he
  exact absurd (spares.symm.trans blames) (by decide)

theorem mem_offered {f : List UInt8} (hm : f ∈ offered evs) :
    ∃ accepted, (⟨.offer f, accepted⟩ : SessionEvent) ∈ evs := by
  induction evs with
  | nil => exact absurd hm List.not_mem_nil
  | cons ev evs ih =>
    obtain ⟨e, reply⟩ := ev
    cases e with
    | call s c =>
      obtain ⟨accepted, later⟩ := ih hm
      exact ⟨accepted, List.mem_cons_of_mem _ later⟩
    | offer f' =>
      rcases List.mem_cons.mp hm with rfl | hm
      · exact ⟨reply, List.mem_cons_self⟩
      · obtain ⟨accepted, later⟩ := ih hm
        exact ⟨accepted, List.mem_cons_of_mem _ later⟩

/-- The history goes on, and politely if every call succeeds. -/
def PoliteIfServed (h h' : SessionHistory) : Prop :=
  ∃ evs, h' = h ++ evs ∧ (Succeeds evs → ∀ ev ∈ evs, PoliteEffect ev.1)

theorem PoliteHistory.ifServed (p : PoliteHistory h h') : PoliteIfServed h h' := by
  obtain ⟨evs, he, polite⟩ := p
  exact ⟨evs, he, fun _ => polite⟩

theorem opRun_polite (spares : Spares (checkRun s payload)) :
    (opRun requestId payload).wp s h fun _ _ h' => PoliteIfServed h h' := by
  rw [opRun, Action.wp_bind, getSession_wp]
  cases hcheck : checkRun s payload with
  | error status =>
    apply Action.wp_mono (respond_polite _ _ _ (spares status hcheck)).history
    intro _ _ _ polite
    exact polite.ifServed
  | ok plan =>
    rw [Action.wp_bind]
    apply Action.wp_mono (Action.wp_and (installRun_quiet plan) (installRun_blames plan))
    intro failure s₁ evs₁ installed
    obtain ⟨⟨quiet, -⟩, blames⟩ := installed
    have polite := quiet.polite
    cases failure with
    | none =>
      have resume : Polite (resumeRun requestId plan.request) :=
        .bind (backend_polite _) fun _ => .ite (fun _ => .bind (respond_polite _ _ _ rfl) fun _ =>
          .bind (enterLost_polite _) fun _ => .pure _) fun _ => .bind (updateSession_polite _)
            fun _ => .bind (respond_polite _ _ _ rfl) fun _ => pollStop_polite
      have report (stop : StopDetect) (userStep : Bool) :
          Polite (reportStep requestId stop userStep) :=
        .bind (respond_polite _ _ _ rfl) fun _ => .bind (enterHalted_polite _) fun _ =>
          .ite (fun _ => .bind (updateSession_polite _) fun _ => emitPendingStopped_polite) fun _ =>
            emitPendingStopped_polite
      rw [Action.wp_bind]
      apply Action.wp_mono ((executeStepOver_polite _).after polite)
      intro outcome s₂ evs₂ stepped
      apply Action.wp_mono (Q := fun _ _ h' => PoliteHistory h h')
      · -- past the installs no status can blame the resources
        cases outcome with
        | notNeeded => exact resume.after stepped
        | stepped => exact resume.after stepped
        | stoppedStep stop => exact (report stop true).after stepped
        | stoppedReal stop => exact (report stop false).after stepped
        | failed =>
          refine Polite.after (.bind rollbackRunConfig_polite fun _ => .ite
            (fun _ => respond_polite _ _ _ rfl) fun _ => .bind (respond_polite _ _ _ rfl) fun _ =>
              enterLost_polite _) stepped
        | failedLost reason =>
          exact Polite.after (.bind (respond_polite _ _ _ rfl) fun _ => enterLost_polite _) stepped
      · intro _ _ _ done
        exact done.ifServed
    | some status =>
      cases blamed : status.blamesResources with
      | false =>
        apply Action.wp_mono ((failRun_polite _ _ blamed).after polite)
        intro _ _ _ done
        exact done.ifServed
      | true =>
        -- a status that blames them has a failed call before it
        obtain ⟨evs, he, fails⟩ := blames status rfl blamed
        rw [he]
        apply Action.wp_from
        intro _ s' evs'
        refine ⟨evs ++ evs', List.append_assoc _ _ _, fun succeeds =>
          absurd (fun ca hm => ?_) fails⟩
        apply succeeds
        rw [calls_append]
        exact List.mem_append_left _ hm

/-! Requests within the advertised resources. -/

theorem refusal_spares {gate : GateType} {status : Status} (hg : gate.refusal = some status) :
    status.blamesResources = false := by
  cases gate with
  | allow => exact absurd hg (by simp [GateType.refusal])
  | _ =>
    obtain rfl := Option.some.inj hg
    rfl

/-- A request that fits what the session has is not blamed for asking too much. -/
theorem handleRequest_polite (info : AttachInfo) {message : List UInt8} {op : RequestOp}
    (norm : Normalized info s.resources)
    (hop : requestOp (MsgHeader.parse message).opcode = some op)
    (fits : s.state = .halted ∨ s.state = .running →
      Fits s.resources s.regions (message.drop headerSize) op) :
    (handleRequest message).wp s h fun _ _ h' => PoliteIfServed h h' := by
  have polite {m : SessionM Unit} (hm : m.wp s h fun _ _ h' => PoliteHistory h h') :
      m.wp s h fun _ _ h' => PoliteIfServed h h' := by
    apply Action.wp_mono hm
    intro _ _ _ done
    exact done.ifServed
  apply handleRequest_op hop
  · exact fun _ => (PoliteHistory.refl h).ifServed
  · intro status _ _ _ gate
    exact polite (respond_polite _ _ _ (refusal_spares gate)).history
  · intro _ _ gate
    have live (other : op ≠ .attach ∧ op ≠ .getState) := live_of_gate gate other
    cases op with
    | attach => exact polite (opAttach_polite _ _).history
    | detach => exact polite (opDetach_polite _ _).history
    | getState => exact polite (opGetState_polite _ _).history
    | readMemory => exact polite (opReadMemory_polite (checkReadMemory_spares s _))
    | writeMemory => exact polite (opWriteMemory_polite
        (checkWriteMemory_spares (fits (live (by decide)))))
    | readRegisters => exact polite (opReadRegisters_polite _ _).history
    | writeRegisters => exact polite (opWriteRegisters_polite _ _).history
    | run => exact opRun_polite (checkRun_spares (fits (live (by decide))) norm)
    | halt => exact polite (opHalt_polite _ _).history
    | resetHalt => exact polite (opResetHalt_polite (checkReset_spares (fits (live (by decide)))))
    | resetRun => exact polite (opResetRun_polite (checkReset_spares (fits (live (by decide)))))

/-! What the backend is asked for. -/

/-- The resources the backend itself reported. -/
def rawReport (h : SessionHistory) : Resources := ((lastAttach h).map (·.info.resources)).getD {}

/-- The call asks for no more than the backend reported, and a RUN_TO_ADDRESS finds a comparator
that is free or set to its address. -/
structure AskedWithin (h : SessionHistory) (c : Call) : Prop where
  within : c.Within (rawReport h)
  comparators : ∀ address, c = .resume RunAction.toAddress address →
    ∃ entries, (runConfig h).breakpoints = some entries ∧
      ((∃ entry ∈ entries, entry.address = address) ∨
        entries.length < (rawReport h).hardwareBreakpoints.toNat)

theorem Normalized.has {cap : UInt32} {r : Resources} (norm : Normalized info r)
    (hr : r.has cap = true) :
    info.resources.has cap = true := by
  rw [Resources.has, bne_iff_ne] at hr ⊢
  intro missing
  have none : info.capabilities &&& cap = 0 := missing
  apply hr
  rw [← norm.subset, UInt32.and_assoc, none, UInt32.and_zero]

theorem Normalized.within {c : Call} {r : Resources} (norm : Normalized info r)
    (within : c.Within r) :
    c.Within info.resources := by
  cases c with
  | reset kind haltAfter =>
    obtain ⟨able, ⟨kind, system⟩ | ⟨kind, nrst⟩⟩ := within
    · exact ⟨norm.has able, Or.inl ⟨kind, norm.has system⟩⟩
    · exact ⟨norm.has able, Or.inr ⟨kind, norm.has nrst⟩⟩
  | resume action address =>
    exact ⟨fun single => norm.has (within.1 single), fun runTo => norm.has (within.2 runTo)⟩
  | applyBreakpoints entries => exact within.trans (norm.breakpoints.trans (Nat.min_le_left _ _))
  | applyWatchpoints entries => exact within.trans (norm.watchpoints.trans (Nat.min_le_left _ _))
  | setVectorCatch mask =>
    have same : r.vectorCatch = info.resources.vectorCatch := norm.vectors
    rw [Call.Within, same] at within
    exact within
  | _ => trivial

/-- What is served is within what was reported. -/
theorem reported_within (h : SessionHistory) :
    (∀ c : Call, c.Within (reported h) → c.Within (rawReport h)) ∧
      (reported h).hardwareBreakpoints.toNat ≤ (rawReport h).hardwareBreakpoints.toNat := by
  rw [reported, rawReport]
  cases lastAttach h with
  | none => exact ⟨fun _ within => within, le_rfl⟩
  | some last =>
    have norm := normalizeAttachInfo_normalized last.info
    exact ⟨fun c within => norm.within within, norm.breakpoints.trans (Nat.min_le_left _ _)⟩

/-- The calls of an extended history are old ones or later ones. -/
theorem EveryCall.extend {E : Session → SessionHistory → Call → Prop} (every : EveryCall E h)
    (later : EveryCall (fun s₁ h₁ c => h <+: h₁ → E s₁ h₁ c) (h ++ evs)) :
    EveryCall E (h ++ evs) := by
  intro h₁ s₁ c a h₂ he
  rcases List.append_eq_append_iff.mp he with ⟨rest, rfl, -⟩ | ⟨rest, hh, hrest⟩
  · exact later _ s₁ c a h₂ he (List.prefix_append _ _)
  · cases rest with
    | nil =>
      rw [List.append_nil] at hh
      exact later _ s₁ c a h₂ he (hh ▸ List.prefix_rfl)
    | cons ev rest =>
      obtain ⟨rfl, -⟩ := List.cons.inj hrest
      exact every h₁ s₁ c a rest hh

theorem handleRequest_inReach {message : List UInt8} {op : RequestOp} (hs : Advertised s h)
    (hop : requestOp (MsgHeader.parse message).opcode = some op) (other : op ≠ .attach) :
    (handleRequest message).wp s h fun _ _ h' =>
      ∃ evs, h' = h ++ evs ∧ ∀ ev ∈ evs, InReach (reported h) ev.1 := by
  have serving {m : SessionM Unit} (hm : Serving (reported h) s.regions m) : m.wp s h fun _ _ h' =>
      ∃ evs, h' = h ++ evs ∧ ∀ ev ∈ evs, InReach (reported h) ev.1 := by
    apply Action.wp_mono (hm s h hs.provided)
    intro _ _ _ done
    exact done.2
  apply handleRequest_op hop
  · exact fun _ => ⟨[], (List.append_nil h).symm, fun _ hm => absurd hm List.not_mem_nil⟩
  · exact fun _ _ _ _ _ => serving (respond_serving _ _ _)
  · exact fun _ _ _ => serving (dispatch_serving other _ _)

theorem handle_asked (i : Input) (hs : Advertised s h) (ready : Ready s h)
    (every : EveryCall (fun _ h₁ c => AskedWithin h₁ c) h) :
    (handle i).wp s h fun _ _ h' => EveryCall (fun _ h₁ c => AskedWithin h₁ c) h' := by
  -- a RUN keeps the report it was checked against
  have reach : (handle i).wp s h fun _ _ h' => ∀ message, i = .request message →
      requestOp (MsgHeader.parse message).opcode = some .run →
      ∃ evs, h' = h ++ evs ∧ ∀ ev ∈ evs, InReach (reported h) ev.1 := by
    cases i with
    | poll => exact Action.wp_from fun _ _ _ _ he => absurd he (by simp)
    | disconnect => exact Action.wp_from fun _ _ _ _ he => absurd he (by simp)
    | request message =>
      by_cases run : requestOp (MsgHeader.parse message).opcode = some .run
      · simp only [handle, Action.wp_bind, Action.wp_pure]
        apply Action.wp_mono (handleRequest_inReach hs run (by decide))
        rintro _ _ _ done _ ⟨⟩ _
        exact done
      · apply Action.wp_from
        rintro _ _ _ _ ⟨⟩ run'
        exact absurd run' run
  apply Action.wp_mono (Action.wp_and (handle_advertised i hs)
    (Action.wp_and (handle_moves i ready) reach))
  intro _ s' evs done
  obtain ⟨advertised, ⟨moves, -⟩, reach⟩ := done
  have planned := moves.invariant (P := fun _ h' => EveryCall (fun s₁ h₁ c => h <+: h₁ →
      ∀ action address, c = .resume action address →
        s₁.swStepOverPending = true ∨ (inputPolicy (s, h) i).resume action address s₁ h₁) h')
    (fun _ _ _ _ move hall => move.everyCall hall fun s₁ c _ issued _ => issued.planned)
    (fun h₁ _ _ _ _ he later => by
      have length := later.length_le
      rw [he, List.length_append, List.length_cons] at length
      omega)
  refine every.extend fun h₁ s₁ c a h₂ he later => ?_
  rcases advertised.affordable h₁ s₁ c a h₂ he with ⟨params, rfl⟩ | ⟨-, within, -, steps⟩
  · exact ⟨trivial, fun address hc => absurd hc (by simp)⟩
  · refine ⟨(reported_within h₁).1 c within, ?_⟩
    rintro address rfl
    rcases planned h₁ s₁ _ a h₂ he later RunAction.toAddress address rfl with pending | resumes
    · exact absurd (steps _ _ rfl pending) (by decide)
    cases i with
    | poll => exact absurd resumes id
    | disconnect => exact absurd resumes id
    | request message =>
      obtain ⟨run, plan, hcheck, haction, haddress, inPlace⟩ := resumes
      obtain ⟨-, -, config⟩ := inPlace
      -- the comparator for the address is among those the plan installed, or one is left
      refine ⟨plan.hwEntries, by rw [config], ?_⟩
      have bounded := (checkRun_bounded hcheck).runTo haction
      rw [haddress] at bounded
      rcases bounded.2 with among | less
      · exact Or.inl among
      · refine Or.inr (less.trans_le ?_)
        -- no attach can lie between the check and the resume
        have same : reported h₁ = reported h := by
          obtain ⟨before, rfl⟩ := later
          obtain ⟨evs', he', inReach⟩ := reach message rfl run
          have split :
              evs' = before ++ ⟨.call s₁ (.resume RunAction.toAddress address), a⟩ :: h₂ := by
            have joined : h ++ evs' =
                h ++ (before ++ ⟨.call s₁ (.resume RunAction.toAddress address), a⟩ :: h₂) := by
              rw [← he', he, List.append_assoc]
            exact List.append_cancel_left joined
          exact reported_append fun ev hm => inReach ev (split ▸ List.mem_append_left _ hm)
        have limit : s.hardwareBreakpointLimit = (reported h₁).hardwareBreakpoints := by
          rw [same, ← hs.provided.same]
          rfl
        rw [limit]
        exact (reported_within h₁).2

/-- Along every run the backend is asked for no more than it reported. -/
theorem play_asked {T : Type} (env : SessionEnvironment T) (t₀ : T) (inputs : List Input) :
    EveryCall (fun _ h c => AskedWithin h c) (playSession env (freshWorld t₀) inputs).history := by
  let w := playSession env (freshWorld t₀) inputs
  have invariant : Advertised w.state w.history ∧ Ready w.state w.history ∧
      EveryCall (fun _ h c => AskedWithin h c) w.history := World.play_invariant
    (P := fun s h => Advertised s h ∧ Ready s h ∧ EveryCall (fun _ h c => AskedWithin h c) h)
    (fun s h i hp => by
      obtain ⟨advertised, ready, every⟩ := hp
      apply Action.wp_mono (Action.wp_and (handle_advertised i advertised)
        (Action.wp_and (handle_moves i ready) (handle_asked i advertised ready every)))
      intro _ _ _ done
      exact ⟨done.1, done.2.1.2, done.2.2⟩)
    inputs ⟨advertised_fresh, ready_fresh, .nil⟩
  exact invariant.2.2

/-- What an ATTACH response advertises is what the requests behind it are served with. In every
state a run reaches: the backend was asked for no more than it reported itself; a request that fits
the resources and the map of the response is not refused for want of resources while backend calls
succeed; and a memory transfer of section 9, up to the advertised length, is passed on in one call
and fits a frame in both directions. -/
theorem advertised_served {T : Type} (env : SessionEnvironment T) (t₀ : T) (inputs : List Input) :
    let w := playSession env (freshWorld t₀) inputs
    EveryCall (fun _ h c => AskedWithin h c) w.history ∧
    ∀ info f, lastAttach w.history = some ⟨info, some f⟩ → Advertises f (normalizeAttachInfo info) →
      let r := advertisedResources f
      let map := parseMap (f.drop (headerSize + attachResponseSize))
      (∀ message op, requestOp (MsgHeader.parse message).opcode = some op →
        Fits r map (message.drop headerSize) op →
        let served := w.perform env (handleRequest message)
        Succeeds served.2.2 → ∀ f' ∈ offered served.2.2, PoliteFrame f') ∧
      (∀ message isWrite, w.state.state = .halted ∨ w.state.state = .running →
        w.state.transportDead = false → ValidRequest message →
        requestOp (MsgHeader.parse message).opcode = some (memoryOp isWrite) →
        AccessAdmitted map r.maxMemoryTransfer.toNat w.state.state w.state.stopId
          (message.drop headerSize) isWrite →
        ∃ c a, AccessCall isWrite (MemoryRequest.parse (message.drop headerSize)) c ∧
          calls (w.step env handle (.request message)).history = calls w.history ++ [(c, a)]) ∧
      headerSize + writeMemoryRequestSize + r.maxMemoryTransfer.toNat ≤ maxFrameSize ∧
      headerSize + readMemoryResponseSize + r.maxMemoryTransfer.toNat ≤ maxFrameSize := by
  intro w
  refine ⟨play_asked env t₀ inputs, fun info f last frame => ?_⟩
  intro r map
  have advertised : Advertised w.state w.history := play_advertised env t₀ inputs
  have norm := normalizeAttachInfo_normalized info
  have resources : w.state.resources = (normalizeAttachInfo info).resources := by
    rw [advertised.provided.same, reported, last]
    rfl
  have same : r = w.state.resources := frame.resources.trans resources.symm
  refine ⟨fun message op hop fits => ?_, fun message isWrite live alive valid hop admitted => ?_,
    ?_⟩
  · intro served succeeds
    have polite : PoliteIfServed w.history served.2.1.history := by
      refine World.perform_wp (handleRequest_polite info (by rw [resources]; exact norm) hop
        fun live => ?_)
      obtain ⟨info', f₁, last', -, regions⟩ := advertised.announced live
      rw [last] at last'
      obtain ⟨rfl, -⟩ := AttachRecord.mk.inj (Option.some.inj last')
      -- the map the peer was sent is the one the session checks against
      have map' : map = w.state.regions := by
        rw [regions]
        exact congrArg parseMap frame.regions
      rw [← same, ← map']
      exact fits
    obtain ⟨evs, he, offers⟩ := polite
    obtain rfl : served.2.2 = evs :=
      List.append_cancel_left (he.symm ▸ World.perform_history _).symm
    intro f' hm
    obtain ⟨accepted, hev⟩ := mem_offered hm
    exact offers succeeds _ hev
  · obtain ⟨info', f₁, last', -, admission⟩ :=
      memory_admission env t₀ inputs message isWrite live alive valid hop
    rw [last] at last'
    obtain ⟨-, same'⟩ := AttachRecord.mk.inj (Option.some.inj last')
    obtain rfl := Option.some.inj same'
    exact admission.served admitted
  · have transfer : r.maxMemoryTransfer.toNat ≤ maxMemoryTransferLimit := by
      rw [same, resources]
      exact norm.transfer
    simp only [maxMemoryTransferLimit, maxFrameSize, headerSize, writeMemoryRequestSize,
      readMemoryResponseSize] at transfer ⊢
    omega

/-- A backend that reports flash as writable. -/
def flashTarget : AttachInfo where
  memoryRegions := le64 0x08000000 ++ le64 0x1000 ++ [MemoryType.flash,
    MemFlag.read ||| MemFlag.write, 0, 0]

def flashWorld : SessionWorld (List Answer) :=
  playSession scripted (freshWorld [{ info := flashTarget }]) [attachRunning]

/-- A client writes four bytes to it. -/
def writesFlash : List UInt8 :=
  requestMessage .writeMemory 2 (le32 0 ++ le64 0x08000000 ++ le32 4 ++ le16
    MemAccess.allowRunning ++ [0, 0] ++ [1, 2, 3, 4])

/-- Flash is advertised as writable here and refused with UNSUPPORTED, with no call to fail. -/
theorem flash_write_unsupported :
    let served := flashWorld.perform scripted (handleRequest writesFlash)
    ValidRequest writesFlash ∧ flashWorld.state.state = .running ∧
    (∃ region ∈ flashWorld.state.regions, region.has MemFlag.write = true ∧
      region.start.toNat = 0x08000000 ∧ region.length.toNat = 0x1000) ∧
    4 ≤ flashWorld.state.maxMemoryTransfer.toNat ∧
    calls served.2.2 = [] ∧ (offered served.2.2).map frameStatus = [Status.unsupported.value] := by
  refine ⟨⟨by decide, by decide, by decide, by decide⟩, by decide +kernel, ?_, by decide +kernel,
    by decide +kernel, by decide +kernel⟩
  have regions : flashWorld.state.regions = parseMap flashTarget.memoryRegions := by decide +kernel
  rw [regions]
  decide +kernel

/-- The backend halts the target, sets what it is asked to set and lets the target run. -/
def obligingAnswers : List Answer :=
  [{ info := debugTarget }, { stop := { halted := true } }, { data := [0x11, 0x22] }]

def obligingWorld : SessionWorld (List Answer) :=
  playSession scripted (freshWorld obligingAnswers) attachedRun

/-- A RUN with one software breakpoint fits what is advertised, and is not refused. -/
theorem first_run_served :
    ∀ f ∈ offered (obligingWorld.perform scripted (handleRequest firstRun)).2.2,
    PoliteFrame f := by
  obtain ⟨info, f, last, frame, -⟩ :=
    (play_advertised scripted obligingAnswers attachedRun).announced
    (Or.inl (by decide +kernel))
  have known : (lastAttach obligingWorld.history).map (fun x =>
      (normalizeAttachInfo x.info).resources) = some
      (normalizeAttachInfo debugTarget).resources := by decide +kernel
  have last' : lastAttach obligingWorld.history = some ⟨info, some f⟩ := last
  rw [last'] at known
  have resources : advertisedResources f = (normalizeAttachInfo debugTarget).resources :=
    frame.resources.trans (Option.some.inj known)
  have fits : RunFits (advertisedResources f) (firstRun.drop headerSize) := by
    rw [resources]
    constructor <;> decide +kernel
  have succeeds : Succeeds (obligingWorld.perform scripted (handleRequest firstRun)).2.2 := by
    unfold Succeeds
    decide +kernel
  exact ((advertised_served scripted obligingAnswers attachedRun).2 info f last frame).1
    firstRun .run
    (by decide) fits succeeds

end SidpClient
