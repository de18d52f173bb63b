import SidpClient.CallGuards
import Mathlib.Data.List.Induction

/-! Every request gets one response and then only events, as long as stop generations last. -/
namespace SidpClient
open LittleEndian Interactive

variable {s : Session} {h evs : SessionHistory} {message : List UInt8} {op : Option RequestOp}
  {fs : List (List UInt8)}

/-! What the backend answered while one request was handled. -/

/-- `halt()` returned ESP_OK. -/
def haltAnswered : Call × Answer → Bool
  | (.halt _, a) => a.code = .ok
  | _ => false

/-- `halt()` returned ESP_OK with an observation that says halted. -/
def haltConfirmed : Call × Answer → Bool
  | (.halt _, a) => a.code = .ok ∧ a.stop.halted = true
  | _ => false

/-- `reset()` returned ESP_OK. -/
def resetAnswered : Call × Answer → Bool
  | (.reset _ _, a) => a.code = .ok
  | _ => false

/-- The request runs out of stop generations before it is answered: a HALT or the halt before a
reset needs one in RUNNING, RESET_HALT one more for the halt after it. -/
def EndsGenerations (s : Session) (op : Option RequestOp) (asked : List (Call × Answer)) : Prop :=
  (s.state = .running ∧ s.stopId + 1 = 0 ∧
    ((op = some .halt ∧ asked.any haltAnswered) ∨
      ((op = some .resetHalt ∨ op = some .resetRun) ∧ asked.any haltConfirmed))) ∨
  (op = some .resetHalt ∧ asked.any resetAnswered ∧
    ((s.state = .halted ∧ s.stopId + 1 = 0) ∨ (s.state = .running ∧ s.stopId + 1 + 1 = 0)))

theorem confirmationsCall_eq (n : Confirmations) (c : Call) (a : Answer) :
    confirmationsCall n c a =
      ⟨n.halts + if haltAnswered (c, a) then 1 else 0,
        n.confirmedHalts + if haltConfirmed (c, a) then 1 else 0,
        n.resets + if resetAnswered (c, a) then 1 else 0⟩ := by
  cases c with
  | halt timeout =>
    by_cases ok : a.code = .ok <;> cases hh : a.stop.halted <;>
      simp [confirmationsCall, haltAnswered, haltConfirmed, resetAnswered, ok, hh]
  | reset kind haltAfter =>
    by_cases ok : a.code = .ok <;>
      simp [confirmationsCall, haltAnswered, haltConfirmed, resetAnswered, ok]
  | _ => simp [confirmationsCall, haltAnswered, haltConfirmed, resetAnswered]

/-- Confirmations are counted over the calls. -/
theorem confirmations_append :
    confirmations (h ++ evs) =
      ⟨(confirmations h).halts + (calls evs).countP haltAnswered,
        (confirmations h).confirmedHalts + (calls evs).countP haltConfirmed,
        (confirmations h).resets + (calls evs).countP resetAnswered⟩ := by
  induction evs using List.reverseRecOn with
  | nil => simp [calls]
  | append_singleton evs ev ih =>
    obtain ⟨e, reply⟩ := ev
    rw [← List.append_assoc]
    cases e with
    | offer f => rw [confirmations_offer, calls_offer, ih]
    | call s c =>
      rw [confirmations_call, calls_call, ih, confirmationsCall_eq]
      simp only [List.countP_append, List.countP_singleton, Nat.add_assoc]

theorem lt_add_countP_iff {p : Call × Answer → Bool} {n : ℕ} {asked : List (Call × Answer)} :
    n < n + asked.countP p ↔ asked.any p = true := by
  rw [Nat.lt_add_right_iff_pos, List.countP_pos_iff, List.any_eq_true]

theorem overtaken_iff :
    Overtaken message s (confirmations h) (confirmations (h ++ evs)) ↔
      EndsGenerations s (requestOp (MsgHeader.parse message).opcode) (calls evs) := by
  rw [confirmations_append, Overtaken, EndsGenerations]
  constructor
  · rintro ⟨op, hop, hw⟩
    rw [hop]
    cases op with
    | halt =>
      obtain ⟨⟨state, wrap⟩, hlt⟩ := hw
      exact Or.inl ⟨state, wrap, Or.inl ⟨rfl, lt_add_countP_iff.mp hlt⟩⟩
    | resetRun =>
      obtain ⟨⟨state, wrap⟩, hlt⟩ := hw
      exact Or.inl ⟨state, wrap, Or.inr ⟨Or.inr rfl, lt_add_countP_iff.mp hlt⟩⟩
    | resetHalt =>
      rcases hw with ⟨⟨state, wrap⟩, hlt⟩ | ⟨hlt, wrap⟩
      · exact Or.inl ⟨state, wrap, Or.inr ⟨Or.inl rfl, lt_add_countP_iff.mp hlt⟩⟩
      · exact Or.inr ⟨rfl, lt_add_countP_iff.mp hlt, wrap⟩
    | _ => exact hw.elim
  · rintro (⟨state, wrap, ⟨hop, hany⟩ | ⟨hop | hop, hany⟩⟩ | ⟨hop, hany, wrap⟩)
    · exact ⟨.halt, hop, ⟨state, wrap⟩, lt_add_countP_iff.mpr hany⟩
    · exact ⟨.resetHalt, hop, Or.inl ⟨⟨state, wrap⟩, lt_add_countP_iff.mpr hany⟩⟩
    · exact ⟨.resetRun, hop, ⟨state, wrap⟩, lt_add_countP_iff.mpr hany⟩
    · exact ⟨.resetHalt, hop, Or.inr ⟨lt_add_countP_iff.mpr hany, wrap⟩⟩

theorem IsEvent.not_response {f : List UInt8} (hf : IsEvent f) : isResponse f = false := by
  have hk : frameKind f = MsgKind.event := by simpa [isEvent] using hf.1
  simp [isResponse, hk, MsgKind.response, MsgKind.event]

theorem Trace.frames_eq {policy : Policy} {s' : Session}
    (ht : Trace policy (s, h) s' (h ++ evs) fs) :
    fs = offered evs := by
  have hf := ht.frames
  rw [offered_append] at hf
  exact (List.append_cancel_left hf).symm

/-- In every state a run reaches with a live transport: a valid request gets exactly one response,
with its opcode and id, followed by events only, if and only if it does not run out of stop
generations; and a poll never offers a response. -/
theorem response_first_iff {T : Type} (env : SessionEnvironment T) (t₀ : T) (inputs : List Input)
    (message : List UInt8) (valid : ValidRequest message)
    (alive : (playSession env (freshWorld t₀) inputs).state.transportDead = false) :
    let w := playSession env (freshWorld t₀) inputs
    let request := MsgHeader.parse message
    let r := w.perform env (handleRequest message)
    (ResponseFirst request.opcode request.requestId (offered r.2.2) ↔
        ¬EndsGenerations w.state (requestOp request.opcode) (calls r.2.2)) ∧
      ∀ f ∈ offered (w.perform env handlePoll).2.2, isResponse f = false := by
  intro w request r
  have ready : Ready w.state w.history :=
    (run_invariant (P := fun _ _ => True) env t₀ inputs trivial fun _ _ _ _ _ _ _ => trivial).2
  constructor
  · obtain ⟨fs, ht, -, outcome⟩ := World.perform_wp (w := w) (handleRequest_handled ready)
    rw [World.perform_history] at ht outcome
    obtain rfl : fs = offered r.2.2 := ht.frames_eq
    cases outcome with
    | ignored silent =>
      rcases silent with dead | invalid
      · exact absurd (alive.symm.trans dead) Bool.false_ne_true
      · exact absurd valid invalid
    | answered _ _ next first =>
      rw [overtaken_iff] at next
      exact ⟨fun _ => next, fun _ => first⟩
    | overtaken _ _ wraps led =>
      rw [overtaken_iff] at wraps
      exact ⟨fun first => absurd first led.not_responseFirst, fun next => absurd wraps next⟩
  · obtain ⟨fs, ht, -, events⟩ := World.perform_wp (w := w) (handlePoll_handled ready)
    rw [World.perform_history] at ht
    obtain rfl := ht.frames_eq
    exact fun f hf => (events f hf).not_response

/-- The first request of a run is answered and followed by nothing. -/
theorem response_first_get_state :
    (ResponseFirst Opcode.getState 1 (offered ((freshWorld []).perform scripted
        (handleRequest (requestMessage .getState 1 []))).2.2) ↔
      ¬EndsGenerations {} (some .getState) (calls ((freshWorld []).perform scripted
        (handleRequest (requestMessage .getState 1 []))).2.2)) ∧
      ∀ f ∈ offered ((freshWorld ([] : List Answer)).perform scripted handlePoll).2.2,
        isResponse f = false :=
  response_first_iff scripted [] [] (requestMessage .getState 1 [])
    ⟨by decide, by decide, by decide, by decide⟩ rfl

/-! A run to the last stop generation. The backend attaches with both resets, is always halted and
always succeeds. -/

def resetCaps : UInt32 := Cap.resetHalt ||| Cap.resetRun ||| Cap.resetSystem

def steadyAnswer : Answer := { stop := { halted := true }, info := { capabilities := resetCaps } }

def steady : SessionEnvironment Unit
  | _, .call _ _ => (steadyAnswer, ())
  | _, .offer _ => (true, ())

def attachRequest : List UInt8 := requestMessage .attach 1 [0, 0, 0, 0, 0, 1, 0, 0]
def resetHaltRequest : List UInt8 := requestMessage .resetHalt 2 [ResetKind.system, 0, 0, 0]
def resetRunRequest : List UInt8 := requestMessage .resetRun 3 [ResetKind.system, 0, 0, 0]
def haltRequest : List UInt8 := requestMessage .halt 4 []

/-- `k` times RESET_HALT after an ATTACH, and then RESET_RUN. -/
def generationRun (k : ℕ) : List Input :=
  .request attachRequest :: (List.replicate k (.request resetHaltRequest) ++
    [.request resetRunRequest])

/-- The fields those runs depend on. -/
structure Parked (state : TargetState) (n : ℕ) (s : Session) : Prop where
  state : s.state = state
  stopId : s.stopId = UInt32.ofNat n
  attached : s.attached = true
  alive : s.transportDead = false
  table : s.swTable = []
  caps : s.capabilities = resetCaps

theorem attach_parked :
    Parked .halted 1 ((freshWorld ()).step steady handle (.request attachRequest)).state := by
  constructor <;> decide +kernel

variable {h : SessionHistory} {state : TargetState} {n : ℕ}

theorem respond_steady {opcode : UInt16} {requestId : UInt32} {status : Status}
    {Q : Unit → Session → Unit → SessionHistory → Prop} (alive : s.transportDead = false)
    (hQ : ∀ b h', Q () (s.framed b 16 false) () h') :
    (respond opcode requestId status).runs steady s () h Q := by
  apply Action.runs_of_wp
  apply respond_wp
  intro b dead evs ho evs' he answered
  rcases ho with ⟨hd, -⟩ | ⟨-, f, accepted, -, rfl, rfl⟩
  · exact absurd (alive.symm.trans hd) Bool.false_ne_true
  · obtain rfl := List.append_cancel_left he
    have accepts : accepted = true := answered.1
    rw [accepts]
    exact hQ b _

theorem sendStopped_steady {Q : Bool → Session → Unit → SessionHistory → Prop}
    (fits : SnapshotFits s) (alive : s.transportDead = false)
    (hQ : ∀ b n h', Q true ({ s with stopReported := true }.framed b n false) () h') :
    sendStopped.runs steady s () h Q := by
  apply Action.runs_of_wp
  apply sendStopped_wp fits
  intro b n dead evs ho evs' he answered
  rcases ho with ⟨hd, -⟩ | ⟨-, f, accepted, -, rfl, rfl⟩
  · exact absurd (alive.symm.trans hd) Bool.false_ne_true
  · obtain rfl := List.append_cancel_left he
    have accepts : accepted = true := answered.1
    rw [accepts]
    exact hQ b n _

theorem enterHalted_steady (hp : Parked state n s) (hs : state ≠ .lost) (hn : n + 1 < 2 ^ 32)
    {stop : StopDetect}
   {Q : Unit → Session → Unit → SessionHistory → Prop}
   (hQ : ∀ s' , Parked .halted (n + 1) s' → s'.stopReported = false → SnapshotFits s' →
     Q () s' () h) : (enterHalted stop).runs steady s () h Q := by
  have live : s.state ≠ .lost := by rw [hp.state]; exact hs
  have next : s.stopId + 1 = UInt32.ofNat (n + 1) := by rw [hp.stopId]; simp
  have fresh : s.stopId + 1 ≠ 0 := by
    rw [next]
    intro h0
    have := congrArg UInt32.toNat h0
    rw [UInt32.toNat_ofNat_of_lt' hn] at this
    simp at this
  have snap : s.hasCapability Cap.stopSnapshot = false := by
    simp [Session.hasCapability, hp.caps]; decide
  simp only [enterHalted, Action.runs_bind, getSession_runs, Action.runs_ite, Action.runs_pure,
    updateSession_runs, captureSnapshot]
  refine ⟨fun hl => absurd hl live, fun _ => ⟨fun h0 => absurd h0 fresh, fun _ =>
    ⟨fun hc => ?_, fun _ => ?_⟩⟩⟩
  · exact absurd (snap.symm.trans hc) Bool.false_ne_true
  · exact hQ _ ⟨rfl, next, hp.attached, hp.alive, hp.table, hp.caps⟩ rfl (Nat.zero_le _)


theorem rollback_steady (hp : Parked state n s) {Q : Bool → Session → Unit → SessionHistory → Prop}
    (hQ : ∀ s' h', Parked state n s' → Q true s' () h') :
    rollbackRunConfig.runs steady s () h Q := by
  simp only [rollbackRunConfig, swBpRestoreAll, Action.runs_bind, getSession_runs, hp.table,
    List.length_nil, Action.foldFrom, updateTable, Action.runs_pure, backend_runs,
      updateSession_runs,
    List.take_zero]
  exact hQ _ _ ⟨hp.state, hp.stopId, hp.attached, hp.alive, rfl, hp.caps⟩

theorem checkReset_parked (hp : Parked state n s) (cap : UInt32) (hc : resetCaps &&& cap ≠ 0) :
    checkReset s cap [ResetKind.system, 0, 0, 0] = .ok ResetKind.system := by
  have hcap : s.hasCapability cap = true := by simpa [Session.hasCapability, hp.caps] using hc
  have hsys : s.hasCapability Cap.resetSystem = true := by
    simp only [Session.hasCapability, hp.caps]
    decide
  simp [checkReset, hcap, hsys, resetRequestSize, getU8, ResetKind.system, ResetKind.nrst]
  rfl

/-- A valid request the gate lets through is dispatched. -/
theorem handleRequest_steady {message : List UInt8} (op : RequestOp)
    {Q : Unit → Session → Unit → SessionHistory → Prop} (hp : Parked state n s)
    (valid : ValidRequest message) (hop : requestOp (MsgHeader.parse message).opcode = some op)
    (gate : (gateTable state (gateColumn op)).refusal = none)
    (hd : (dispatch op (MsgHeader.parse message).requestId (message.drop headerSize)).runs steady s
      ()
      h Q) : (handleRequest message).runs steady s () h Q := by
  rw [← hp.state] at gate
  exact handleRequest_runs op hp.alive valid hop gate hd

theorem prepareReset_steady {opcode : UInt16} {requestId : UInt32}
    {Q : Bool → Session → Unit → SessionHistory → Prop} (hp : Parked .halted n s)
    (hQ : ∀ s' h', Parked .halted n s' → Q true s' () h') :
    (prepareReset opcode requestId).runs steady s () h Q := by
  simp only [prepareReset, Action.runs_bind, getSession_runs, Action.runs_ite, Action.runs_pure]
  refine ⟨fun hs => absurd hp.state hs, fun _ => ?_⟩
  refine rollback_steady hp fun s' h' hp' => ⟨fun hf => absurd hf (by decide), fun _ => ?_⟩
  exact hQ s' h' hp'

/-- RESET_HALT leaves the next generation. -/
theorem resetHalt_parked (hp : Parked .halted n s) (hn : n + 1 < 2 ^ 32) :
    (handleRequest resetHaltRequest).runs steady s () h fun _ s' _ _ =>
    Parked .halted (n + 1) s' := by
  refine handleRequest_steady .resetHalt hp ⟨by decide, by decide, by decide, by decide⟩
    (by decide) rfl ?_
  have hpl : resetHaltRequest.drop headerSize = [ResetKind.system, 0, 0, 0] := by decide
  have hcheck := checkReset_parked hp Cap.resetHalt (by decide)
  simp only [dispatch, opResetHalt, Action.runs_bind, getSession_runs, hpl, hcheck, Action.runs_ite,
    Action.runs_pure, backend_runs, updateSession_runs]
  refine prepareReset_steady hp fun s₁ h₁ hp₁ => ⟨fun hf => absurd hf (by decide), fun _ =>
    ⟨fun hf => absurd rfl hf, fun _ => ?_⟩⟩
  have hp₂ : Parked .halted n s₁.clearDebugState.clearRunTracking :=
    ⟨hp₁.state, hp₁.stopId, hp₁.attached, hp₁.alive, hp₁.table, hp₁.caps⟩
  refine enterHalted_steady hp₂ (by decide) hn fun s₃ hp₃ unreported fits => ?_
  refine respond_steady hp₃.alive fun b h₄ => ?_
  simp only [emitPendingStopped, Action.runs_bind, getSession_runs, Action.runs_ite,
    Action.runs_pure]
  refine ⟨fun _ => ⟨hp₃.state, hp₃.stopId, hp₃.attached, rfl, hp₃.table, hp₃.caps⟩, fun _ => ?_⟩
  refine sendStopped_steady fits rfl fun b n h₅ => ?_
  exact ⟨hp₃.state, hp₃.stopId, hp₃.attached, rfl, hp₃.table, hp₃.caps⟩

/-- RESET_RUN keeps the generation. -/
theorem resetRun_parked (hp : Parked .halted n s) :
    (handleRequest resetRunRequest).runs steady s () h fun _ s' _ _ => Parked .running n s' := by
  refine handleRequest_steady .resetRun hp ⟨by decide, by decide, by decide, by decide⟩
    (by decide) rfl ?_
  have hpl : resetRunRequest.drop headerSize = [ResetKind.system, 0, 0, 0] := by decide
  have hcheck := checkReset_parked hp Cap.resetRun (by decide)
  simp only [dispatch, opResetRun, Action.runs_bind, getSession_runs, hpl, hcheck, Action.runs_ite,
    Action.runs_pure, backend_runs, updateSession_runs]
  refine prepareReset_steady hp fun s₁ h₁ hp₁ => ⟨fun hf => absurd hf (by decide), fun _ =>
    ⟨fun hf => absurd rfl hf, fun _ => ?_⟩⟩
  refine respond_steady hp₁.alive fun b h₂ => ?_
  exact ⟨rfl, hp₁.stopId, hp₁.attached, rfl, hp₁.table, hp₁.caps⟩

theorem resetHalts_parked {w : SessionWorld Unit} (k : ℕ) (hp : Parked .halted n w.state)
    (hn : n + k < 2 ^ 32) :
    Parked .halted (n + k)
      (playSession steady w (List.replicate k (.request resetHaltRequest))).state := by
  induction k generalizing n w with
  | zero => exact hp
  | succ k ih =>
    rw [List.replicate_succ, playSession, World.play_cons]
    have next :
        Parked .halted (n + 1) (w.step steady handle (.request resetHaltRequest)).state := by
      have hr : (handle (.request resetHaltRequest)).runs steady w.state w.outside w.history
          fun _ s' _ _ => Parked .halted (n + 1) s' := by
        simp only [handle, Action.runs_bind, Action.runs_pure]
        exact resetHalt_parked hp (by omega)
      exact hr
    have hk := ih next (by omega)
    rwa [show n + (k + 1) = n + 1 + k by omega]

/-- `k` resets take the session to generation `k + 1`, where RESET_RUN lets it run. -/
theorem generationRun_parked {k : ℕ} (hk : 1 + k < 2 ^ 32) :
    Parked .running (1 + k) (playSession steady (freshWorld ()) (generationRun k)).state := by
  rw [generationRun, playSession, World.play_cons, World.play_append]
  have hp := resetHalts_parked k attach_parked hk
  rw [playSession] at hp
  generalize World.play steady handle _ (List.replicate k _) = w at hp
  have hr : (handle (.request resetRunRequest)).runs steady w.state w.outside w.history
      fun _ s' _ _ => Parked .running (1 + k) s' := by
    simp only [handle, Action.runs_bind, Action.runs_pure]
    exact resetRun_parked hp
  exact hr

/-- HALT of a running target asks the backend first. -/
theorem halt_asks (hp : Parked .running n s) :
    (handleRequest haltRequest).runs steady s () h fun _ _ _ h' =>
      h ++ [⟨.call s (.halt haltTimeoutMs), steadyAnswer⟩] <+: h' := by
  refine handleRequest_steady .halt hp ⟨by decide, by decide, by decide, by decide⟩
    (by decide) rfl ?_
  have hpl : haltRequest.drop headerSize = [] := by decide
  have halted : s.state ≠ .halted := by simp [hp.state]
  simp only [dispatch, opHalt, Action.runs_bind, getSession_runs, hpl, Action.runs_ite,
    Action.runs_pure, backend_runs]
  refine ⟨fun hf => absurd rfl hf, fun _ => ⟨fun hf => absurd hf.1 halted, fun _ =>
    ⟨fun hf => absurd hf.1 halted, fun _ => ⟨fun hf => absurd rfl hf, fun _ => ?_⟩⟩⟩⟩
  -- whatever follows only adds to the history
  refine Action.runs_from fun _ _ _ evs₁ => Action.runs_from fun _ _ _ evs₂ =>
    Action.runs_from fun _ _ _ evs₃ => ?_
  rw [List.append_assoc _ evs₂, List.append_assoc _ evs₁]
  exact List.prefix_append _ _

/-- At the last generation TARGET_LOST is sent before the response to a HALT. -/
theorem lost_before_halt_response_of {k : ℕ} (hk : 1 + k = 4294967295) :
    (playSession steady (freshWorld ()) (generationRun k)).state.transportDead = false ∧
    ¬ResponseFirst Opcode.halt 4
      (offered ((playSession steady (freshWorld ()) (generationRun k)).perform steady
        (handleRequest haltRequest)).2.2) := by
  have hp : Parked .running 4294967295 (playSession steady (freshWorld ())
      (generationRun k)).state :=
    by
    rw [← hk]
    exact generationRun_parked (by omega)
  have ready : Ready (playSession steady (freshWorld ()) (generationRun k)).state
      (playSession steady (freshWorld ()) (generationRun k)).history :=
    (run_invariant (P := fun _ _ => True) steady () (generationRun k) trivial
      fun _ _ _ _ _ _ _ => trivial).2
  refine ⟨hp.alive, ?_⟩
  generalize playSession steady (freshWorld ()) (generationRun k) = w at hp ready
  have handled : (handleRequest haltRequest).wp w.state w.history fun _ =>
      Handled (inputPolicy (w.state, w.history) (.request haltRequest)) (w.state, w.history)
        (Outcome haltRequest w.state w.history) := handleRequest_handled ready
  have played : Handled _ _ _ (w.perform steady (handleRequest haltRequest)).2.1.state _ :=
    World.perform_wp handled
  obtain ⟨fs, ht, -, outcome⟩ := played
  rw [World.perform_history] at ht outcome
  obtain rfl := ht.frames_eq
  have asked : (calls (w.perform steady (handleRequest haltRequest)).2.2).any
      haltAnswered = true := by
    have hr : (handleRequest haltRequest).runs steady w.state () []
      fun _ _ _ h' => [] ++ [⟨.call w.state (.halt haltTimeoutMs), steadyAnswer⟩] <+: h' :=
        halt_asks hp
    obtain ⟨rest, hrest⟩ := hr
    have he : (w.perform steady (handleRequest haltRequest)).2.2 =
        ⟨.call w.state (.halt haltTimeoutMs), steadyAnswer⟩ :: rest := hrest.symm
    rw [he]
    rfl
  cases outcome with
  | ignored silent =>
    rcases silent with dead | invalid
    · exact absurd (hp.alive.symm.trans dead) Bool.false_ne_true
    · exact absurd ⟨by decide, by decide, by decide, by decide⟩ invalid
  | answered _ _ next _ =>
    rw [overtaken_iff] at next
    refine absurd (Or.inl ⟨hp.state, ?_, Or.inl ⟨by decide, asked⟩⟩) next
    rw [hp.stopId]
    rfl
  | overtaken _ _ _ led => exact led.not_responseFirst

theorem lost_before_halt_response :
    (playSession steady (freshWorld ()) (generationRun 4294967294)).state.transportDead = false ∧
      ¬ResponseFirst Opcode.halt 4 (offered ((playSession steady (freshWorld ())
        (generationRun 4294967294)).perform steady (handleRequest haltRequest)).2.2) :=
  lost_before_halt_response_of rfl

end SidpClient
