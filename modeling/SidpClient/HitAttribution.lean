import SidpClient.StepOverOnce
import SidpClient.ServedRequests

/-! The stops of a run against the breakpoints of its request: which frames name the breakpoint that
was hit, and that the next RUN steps over its instruction. -/
namespace SidpClient
open LittleEndian Interactive

variable {s s' : Session} {h h' evs : SessionHistory} {f payload message : List UInt8}
  {stop : StopDetect} {ids : List UInt32} {plan : RunPlan} {convention : PcConvention}
  {keys : List PatchKey}

/-! The tables of a request. -/

theorem collected_software (bps : List Breakpoint) {c c' : List BpEntry × List BpEntry}
    (hok : bps.foldlM (collectBreakpoint s) c = .ok c') :
    c'.2 = c.2 ++ (ofKind BreakpointKind.software bps).map Breakpoint.entry := by
  induction bps generalizing c with
  | nil =>
    obtain rfl := Except.ok.inj hok
    simp [ofKind]
  | cons bp bps ih =>
    rw [List.foldlM_cons] at hok
    obtain ⟨c₁, hstep, hrest⟩ := Except.bind_ok hok
    rw [ih hrest]
    rcases collectBreakpoint_collects hstep with ⟨hk, rfl⟩ | ⟨hk, rfl⟩
    · rw [ofKind_cons_same bps hk, List.map_cons, List.append_assoc, List.singleton_append]
    · rw [ofKind_cons_other bps (by rw [hk]; decide)]

/-- An accepted RUN sorts its breakpoints by kind, in their order. -/
theorem checkRun_tables (hcheck : checkRun s payload = .ok plan) :
    plan.hwEntries =
        (ofKind BreakpointKind.hardware (requestedBreakpoints payload)).map Breakpoint.entry ∧
      plan.swEntries =
        (ofKind BreakpointKind.software (requestedBreakpoints payload)).map Breakpoint.entry := by
  obtain ⟨req, hreq, hc⟩ := Except.bind_ok hcheck
  obtain rfl : req = RunRequest.parse payload := (checkRunRequest_ok hreq).1
  obtain ⟨⟨hwEntries, swEntries⟩, hbps, hc⟩ := Except.bind_ok hc
  obtain ⟨_, -, hc⟩ := Except.bind_ok hc
  simp only [bind, Except.bind, pure, Except.pure, throw, throwThe, MonadExceptOf.throw] at hc
  obtain ⟨-, hc⟩ := passed hc (by simp)
  obtain ⟨-, hc⟩ := passed hc (by simp)
  obtain ⟨wpEntries, -, hc⟩ := Except.bind_ok hc
  obtain rfl := Except.ok.inj hc
  exact ⟨collected_hardware _ hbps, collected_software _ hbps⟩

/-- With the patches of a RUN in place, its breakpoint is met first unless another one stands two
bytes before it, under the convention that leaves the PC on the patch. -/
theorem metFirst_plan {e : BpEntry} (he : e ∈ plan.swEntries) :
    MetFirst convention e plan.patchKeys ↔
      (convention = .notAdvanced → ∀ other ∈ plan.swEntries, other.address + 2 ≠ e.address) := by
  have there : ∃ k ∈ plan.patchKeys, k.1 = e.breakpointId ∧ k.2.1 = e.address :=
    ⟨e.key, List.mem_map_of_mem he, rfl, rfl⟩
  have others : (∀ k ∈ plan.patchKeys, k.2.1 + 2 ≠ e.address) ↔
      ∀ other ∈ plan.swEntries, other.address + 2 ≠ e.address := by
    simp [RunPlan.patchKeys, BpEntry.key]
  rw [MetFirst, others]
  exact ⟨fun met => met.2, fun first => ⟨there, first⟩⟩

/-! The stops of a run. -/

/-- Every STOPPED frame of these events tells of the last halt observed before it, and `P` holds of
it. -/
def StopsOf (h evs : SessionHistory) (P : StopDetect → List UInt8 → Prop) : Prop :=
  ∀ e₁ f accepted e₂, evs = e₁ ++ ⟨.offer f, accepted⟩ :: e₂ → isStopped f = true →
    ∃ report, haltView (h ++ e₁) = some report ∧ P report.stop f

theorem StopsSince.of {C P : StopDetect → List UInt8 → Prop} (hs : StopsSince h C (h ++ evs))
    (hP : ∀ stop f, C stop f → P stop f) : StopsOf h evs P := by
  intro e₁ f accepted e₂ he stopped
  have split : h ++ evs = (h ++ e₁) ++ ⟨.offer f, accepted⟩ :: e₂ := by rw [he, List.append_assoc]
  obtain ⟨report, seen, allowed⟩ := hs _ _ _ _ split (List.prefix_append _ _) stopped
  exact ⟨report, seen, hP _ _ allowed⟩

/-- What a STOPPED frame says of the breakpoint that was hit. -/
structure HitsNamed (convention : PcConvention) (plan : RunPlan) (ids : List UInt32) (s' : Session)
    (stop : StopDetect) (f : List UInt8) : Prop where
  software : ∀ e ∈ plan.swEntries, ExecutedPatch convention e.address stop →
    (NamesHit e f s' ↔ MetFirst convention e s'.patchKeys)
  hardware : ComparatorHit plan.request stop → stoppedFrameReason f = StopReason.breakpoint.value ∧
    stoppedFrameBreakpoint f = (ids[stop.comparatorIndex.toNat]?).getD 0

theorem isRealStop_of_bkpt (bkpt : stop.dfsr &&& Dfsr.bkpt ≠ 0) : isRealStop stop = true := by
  by_contra real
  obtain ⟨-, -, -, -, clean, -, -⟩ := isRealStop_eq_false.mp (by simpa using real)
  exact bkpt clean

theorem isRealStop_of_comparator (comparator : stop.comparatorMatch = true) :
    isRealStop stop = true := by
  by_contra real
  obtain ⟨-, -, -, clean, -, -, -⟩ := isRealStop_eq_false.mp (by simpa using real)
  exact absurd (comparator.symm.trans clean) (by decide)

theorem Called.named (called : Called plan.request ids keys s' stop f) (hs : Shadowed s' h')
    (spaced : Spaced s'.swTable) (ready : Ready s' h') :
    HitsNamed convention plan ids s' stop f := by
  have armed := (ready.engaged (Or.inl called.halted)).armed
  obtain ⟨s₀, classifies, table, told⟩ := called.told
  constructor
  · intro e _ executed
    exact namesHit_iff hs spaced armed table executed (told (isRealStop_of_bkpt executed.bkpt))
  · intro hit
    have said := told (isRealStop_of_comparator hit.comparator)
    rw [classifyStop_comparator hit classifies.address, classifies.named] at said
    exact ⟨said.carries.reason, said.carries.breakpoint⟩

/-- `handle_called` for one step of a run. -/
theorem step_called {T : Type} {env : SessionEnvironment T} {w : SessionWorld T} {req : RunRequest}
    (running : w.state.state = .running) (tracks : Tracks req ids w.state) (i : Input)
    (same : (confirmations (w.step env handle i).history).resets = (confirmations w.history).resets)
    :
    StopsSince w.history (Called req ids w.state.patchKeys (w.step env handle i).state)
        (w.step env handle i).history ∧
      ((∀ message, i = .request message → requestOp (MsgHeader.parse message).opcode ≠
        some .detach) → HoldsKeys w.state.patchKeys (w.step env handle i).state) := by
  have called : (confirmations (w.step env handle i).history).resets =
      (confirmations w.history).resets → _ ∧ _ := World.perform_wp (handle_called running tracks i)
  exact called same

/-- While the target runs and no DETACH is tried, the patches stay those of the RUN. -/
theorem KeptRunning.patchKeys {T : Type} {env : SessionEnvironment T} {w : SessionWorld T}
    {later : List Input} {req : RunRequest} (ran : KeptRunning env w later)
    (tracking : Tracking req ids w.state) (held : HoldsKeys keys w.state)
    (stays : ∀ message, .request message ∈ later →
      requestOp (MsgHeader.parse message).opcode ≠ some .detach) :
    (playSession env w later).state.patchKeys = keys := by
  induction later generalizing w with
  | nil => exact held (ran [] List.prefix_rfl).1
  | cons i later ih =>
    have start := (ran [] List.nil_prefix).1
    have next := ran [i] (by simp)
    have kept : (confirmations (w.step env handle i).history).resets =
        (confirmations w.history).resets → Tracking req ids (w.step env handle i).state :=
        World.perform_wp (handle_tracking start tracking i)
    have holds : HoldsKeys keys (w.step env handle i).state := by
      rw [← held start]
      apply (step_called start (tracking start) i next.2).2
      rintro message rfl
      exact stays message List.mem_cons_self
    apply ih _ (kept next.2) holds
    · exact fun message hm => stays message (List.mem_cons_of_mem _ hm)
    · intro p hp
      have more := ran (i :: p) (List.cons_prefix_cons.mpr ⟨rfl, hp⟩)
      exact ⟨more.1, more.2.trans next.2.symm⟩

/-- The STOPPED frames among these events name what was hit, over these patches. -/
abbrev NamesHits (convention : PcConvention) (plan : RunPlan) (ids : List UInt32)
    (h evs : SessionHistory) (s' : Session) (keys : List PatchKey) : Prop :=
  StopsOf h evs fun stop f => s'.patchKeys = keys ∧ HitsNamed convention plan ids s' stop f

/-- The frame that accepts a RUN. -/
def AcceptsRun (evs : SessionHistory) : Prop :=
  ∃ f ∈ offered evs, isResponse f = true ∧ frameStatus f = Status.ok.value

/-- The RUN that was accepted has issued the step. -/
theorem RunSteps.accepted {entries : List BpEntry} {A : UInt64} {s s' : Session}
    {h evs : SessionHistory} (steps : RunSteps entries A s h s' (h ++ evs))
    (accepts : AcceptsRun evs) : stepCount (h ++ evs) = stepCount h + 1 := by
  have once := steps.once
  have grows : stepCount (h ++ evs) = stepCount h + stepCount evs := by
    simp only [stepCount, List.countP_append]
  by_contra other
  have same : stepCount (h ++ evs) = stepCount h := by omega
  obtain ⟨evs', he, declines⟩ := (steps.withheld same).unanswered
  obtain rfl := List.append_cancel_left he
  obtain ⟨f, hf, response, ok⟩ := accepts
  exact declines f hf response ok

/-- For every halted session a run reaches, every valid RUN and either convention: a stop on the
patch of a requested breakpoint, reported by the RUN or by any later input while the target runs, is
reported for that breakpoint and steps over it, if and only if the lookup meets its patch first. A
comparator is reported by its place in the request. The next accepted RUN takes the pending step
over, once. -/
theorem hits_named_iff {T : Type} (env : SessionEnvironment T) (t₀ : T) (inputs : List Input)
    (message : List UInt8) (plan : RunPlan) (convention : PcConvention)
    (halted : (playSession env (freshWorld t₀) inputs).state.state = .halted)
    (op : requestOp (MsgHeader.parse message).opcode = some .run)
    (hcheck : checkRun (playSession env (freshWorld t₀) inputs).state
      (message.drop headerSize) = .ok plan) :
    let w := playSession env (freshWorld t₀) inputs
    let r := w.perform env (handle (.request message))
    let ids := (ofKind BreakpointKind.hardware (requestedBreakpoints (message.drop headerSize))).map
      (·.breakpointId)
    plan.swEntries =
      (ofKind BreakpointKind.software (requestedBreakpoints (message.drop headerSize))).map
        Breakpoint.entry ∧
    NamesHits convention plan ids w.history r.2.2 r.2.1.state plan.patchKeys ∧
    (∀ later, KeptRunning env r.2.1 later → let v := playSession env r.2.1 later
      ((∀ message', .request message' ∈ later →
        requestOp (MsgHeader.parse message').opcode ≠ some .detach) →
          v.state.patchKeys = plan.patchKeys) ∧
      ∀ i, let p := v.perform env (handle i)
        (confirmations p.2.1.history).resets = (confirmations v.history).resets →
          NamesHits convention plan ids v.history p.2.2 p.2.1.state v.state.patchKeys) ∧
    (∀ e ∈ plan.swEntries, MetFirst convention e plan.patchKeys ↔
      (convention = .notAdvanced → ∀ other ∈ plan.swEntries, other.address + 2 ≠ e.address)) ∧
    (w.state.swStepOverPending = true → AcceptsRun r.2.2 →
      stepCount r.2.1.history = stepCount w.history + 1 ∧
      EveryCall (StepIssue w.state.swStepOverAddress plan.swEntries w.history) r.2.1.history) := by
  intro w r ids
  obtain ⟨hardware, software⟩ := checkRun_tables hcheck
  have named : plan.hwEntries.map (·.breakpointId) = ids := by
    rw [hardware, List.map_map]
    rfl
  have idle : w.state.runToActive = false :=
    run_kept (P := IdleHalt) env t₀ inputs (fun _ => rfl) (fun _ _ => IdleHalt.step) halted
  have aligned : AlignedHits w.state :=
    run_kept env t₀ inputs ⟨by simp, by decide⟩ fun _ _ => AlignedHits.step
  -- wherever a run leads, table and memory agree about the patches
  have invariant (later : List Input) : Shadowed (playSession env w later).state
      (playSession env w later).history ∧ Mirrors (playSession env w later).state
      (playSession env w later).history ∧ Ready (playSession env w later).state
      (playSession env w later).history ∧ Spaced (playSession env w later).state.swTable := by
    have whole : playSession env (freshWorld t₀) (inputs ++ later) = playSession env w later :=
      World.play_append inputs later
    have holds := memory_invariant env t₀ (inputs ++ later)
    have spaced := run_spaced env t₀ (inputs ++ later)
    rw [whole] at holds spaced
    exact ⟨holds.1.1, holds.1.2, holds.2, spaced⟩
  obtain ⟨shadowed, mirrors, ready, spaced⟩ : Shadowed w.state w.history ∧
      Mirrors w.state w.history ∧ Ready w.state w.history ∧ Spaced w.state.swTable := invariant []
  have unmoved : w.state.state ≠ .running := by
    rw [show w.state.state = .halted from halted]
    decide
  have handled : (StopsSince w.history (Called plan.request ids plan.patchKeys r.2.1.state)
      r.2.1.history ∧ HoldsKeys plan.patchKeys r.2.1.state) ∧
        Tracking plan.request ids r.2.1.state := by
    apply World.perform_wp (m := handle (.request message)) (w := w) (Q := fun _ s' h' =>
      (StopsSince w.history (Called plan.request ids plan.patchKeys s') h' ∧
        HoldsKeys plan.patchKeys s') ∧ Tracking plan.request ids s')
    simp only [handle, Action.wp_bind, Action.wp_pure]
    apply handleRequest_op op
    · intro _
      exact ⟨⟨(Unstopped.start w.history).stops, fun running => absurd running unmoved⟩,
        tracking_of_unmoved unmoved⟩
    · intro _ _ _ _ gate
      rw [show w.state.state = .halted from halted] at gate
      exact absurd gate (by simp [gateTable, gateColumn, GateType.refusal])
    · intro alive _ _
      rw [← named]
      exact Action.wp_and (opRun_called hcheck ready halted alive idle)
        (opRun_tracking hcheck halted)
  -- what the RUN does about the hit that is pending
  have stepping (pending : w.state.swStepOverPending = true) :
      EveryCall (StepIssue w.state.swStepOverAddress plan.swEntries w.history) r.2.1.history ∧
        RunSteps plan.swEntries w.state.swStepOverAddress w.state w.history r.2.1.state
          r.2.1.history := by
    apply World.perform_wp (m := handle (.request message)) (w := w) (Q := fun _ s' h' =>
      EveryCall (StepIssue w.state.swStepOverAddress plan.swEntries w.history) h' ∧
        RunSteps plan.swEntries w.state.swStepOverAddress w.state w.history s' h')
    exact handle_runSteps op hcheck ready ⟨shadowed, mirrors⟩ spaced aligned pending
  obtain ⟨⟨stops, holds⟩, tracking⟩ := handled
  refine ⟨software, ?_, fun later ran => ⟨ran.patchKeys tracking holds, fun i same => ?_⟩,
    fun e he => metFirst_plan he, fun pending accepts => ?_⟩
  · obtain ⟨shadowed', -, ready', spaced'⟩ := invariant [.request message]
    exact stops.of fun stop f called => ⟨called.keys, called.named shadowed' spaced' ready'⟩
  · have tracks := ran.tracks tracking
    have running := (ran later List.prefix_rfl).1
    have called := (step_called running tracks i same).1
    have reached : playSession env w (.request message :: (later ++ [i])) =
        (playSession env r.2.1 later).step env handle i := World.play_append later [i]
    obtain ⟨shadowed', -, ready', spaced'⟩ := invariant (.request message :: (later ++ [i]))
    rw [reached] at shadowed' ready' spaced'
    exact called.of fun stop f called => ⟨called.keys, called.named shadowed' spaced' ready'⟩
  · obtain ⟨issues, steps⟩ := stepping pending
    exact ⟨steps.accepted accepts, issues⟩

theorem StopsOf.last {P : StopDetect → List UInt8 → Prop} (hs : StopsOf h evs P)
    (hlast : lastOffered evs = some f) (stopped : isStopped f = true) :
    ∃ stop, (haltView (h ++ evs)).map (·.stop) = some stop ∧ P stop f := by
  rcases List.eq_nil_or_concat' evs with rfl | ⟨e₁, ⟨e, reply⟩, rfl⟩
  · exact absurd hlast (by simp [lastOffered])
  · rw [lastOffered, List.getLast?_concat] at hlast
    cases e with
    | call s c => exact absurd hlast (by simp)
    | offer g =>
      obtain rfl := Option.some.inj hlast
      obtain ⟨report, seen, told⟩ := hs e₁ g reply [] rfl stopped
      refine ⟨report.stop, ?_, told⟩
      rw [← List.append_assoc, haltView_offer, seen, stopped]
      rfl

/-! Two breakpoints on adjacent halfwords, and a target that leaves the PC on the patch of the
second. -/

def adjacentRun : List UInt8 :=
  runMessage 2 1 RunAction.continueRun 0 [softwareBreakpoint 1 0x20000100,
    softwareBreakpoint 2 0x20000102]

def adjacentStop : StopDetect := { halted := true, dfsr := Dfsr.bkpt, pc := 0x20000102 }

def adjacentAnswers : List Answer :=
  [{ info := debugTarget }, { stop := { halted := true } }, { data := [0x11, 0x22] }, {},
    { data := [0x33, 0x44] }, {}, {}, {}, {}, {}, { stop := adjacentStop }]

def adjacentWorld : SessionWorld (List Answer) :=
  playSession scripted (freshWorld adjacentAnswers) attachedRun

def secondBreakpoint : BpEntry := ⟨2, 0x20000102, BreakpointKind.software, 2, 0⟩

/-- The session accepts that RUN. -/
theorem adjacent_accepts : adjacentWorld.state.state = .halted ∧
    ∃ plan, checkRun adjacentWorld.state (adjacentRun.drop headerSize) = .ok plan ∧
      secondBreakpoint ∈ plan.swEntries := by
  have accepts : adjacentWorld.state.state = .halted ∧
      (checkRun adjacentWorld.state (adjacentRun.drop headerSize)).toBool = true := by
      decide +kernel
  refine ⟨accepts.1, ?_⟩
  cases hcheck : checkRun adjacentWorld.state (adjacentRun.drop headerSize) with
  | error status =>
    rw [hcheck] at accepts
    exact absurd accepts.2 (by simp [Except.toBool])
  | ok plan =>
    refine ⟨plan, rfl, ?_⟩
    rw [(checkRun_tables hcheck).2]
    decide

/-- The target halts on the patch of the second breakpoint, and the frame names the first. -/
theorem adjacent_hit_misnamed : ¬∀ (env : SessionEnvironment (List Answer)) (answers : List Answer)
    (inputs : List Input) (message : List UInt8) (plan : RunPlan) (convention : PcConvention),
    (playSession env (freshWorld answers) inputs).state.state = .halted →
    requestOp (MsgHeader.parse message).opcode = some .run →
    checkRun (playSession env (freshWorld answers) inputs).state
      (message.drop headerSize) = .ok plan →
    let w := playSession env (freshWorld answers) inputs
    let r := w.perform env (handle (.request message))
    AcceptsRun r.2.2 → StopsOf w.history r.2.2 fun stop f =>
      ∀ e ∈ plan.swEntries, ExecutedPatch convention e.address stop → NamesHit e f r.2.1.state := by
  intro names
  obtain ⟨halted, plan, hcheck, second⟩ := adjacent_accepts
  have run : ((lastOffered (adjacentWorld.perform scripted (handle (.request adjacentRun))).2.2).map
        fun f => (isStopped f, stoppedFrameBreakpoint f)) = some (true, 1) ∧
      ((haltView (adjacentWorld.perform scripted (handle (.request adjacentRun))).2.1.history).map
        (·.stop)) = some adjacentStop ∧
      (offered (adjacentWorld.perform scripted (handle (.request adjacentRun))).2.2).any
        (fun f => isResponse f && frameStatus f == Status.ok.value) = true := by decide +kernel
  obtain ⟨last, seen, accepted⟩ := run
  have accepts :
      AcceptsRun (adjacentWorld.perform scripted (handle (.request adjacentRun))).2.2 := by
    obtain ⟨f, hf, ok⟩ := List.any_eq_true.mp accepted
    rw [Bool.and_eq_true, beq_iff_eq] at ok
    exact ⟨f, hf, ok.1, ok.2⟩
  have stops := names scripted adjacentAnswers attachedRun adjacentRun plan .notAdvanced halted
      (by decide) hcheck
    accepts
  obtain ⟨f, hlast, hf⟩ := Option.map_eq_some_iff.mp last
  obtain ⟨stopped, first⟩ := Prod.mk.inj hf
  obtain ⟨stop, hstop, named⟩ := stops.last hlast stopped
  obtain rfl := Option.some.inj (seen.symm.trans hstop)
  have executed : ExecutedPatch .notAdvanced secondBreakpoint.address adjacentStop :=
    ⟨⟨rfl, rfl, by decide⟩, rfl, by decide, by decide⟩
  have wrong := (named secondBreakpoint second executed).breakpoint
  rw [first] at wrong
  exact absurd wrong (by decide)

/-- What the theorem says of that RUN. -/
theorem adjacent_hits_named :
    ∃ plan, checkRun adjacentWorld.state (adjacentRun.drop headerSize) = .ok plan ∧
    (let r := adjacentWorld.perform scripted (handle (.request adjacentRun))
    NamesHits .advanced plan [] adjacentWorld.history r.2.2 r.2.1.state plan.patchKeys) := by
  obtain ⟨halted, plan, hcheck, -⟩ := adjacent_accepts
  unfold adjacentWorld at halted hcheck ⊢
  exact ⟨plan, hcheck, (hits_named_iff scripted adjacentAnswers attachedRun adjacentRun
    plan .advanced halted
    (by decide) hcheck).2.1⟩

end SidpClient
