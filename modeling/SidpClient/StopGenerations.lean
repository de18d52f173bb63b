import SidpClient.ResponseOrder

/-! Stop generations: each is reported once, and a request bound to one acts in its halt only. -/
namespace SidpClient
open LittleEndian Interactive

variable {policy : Policy} {s s' : Session} {h h' evs : SessionHistory} {requestId : UInt32}
  {payload message : List UInt8} {fs : List (List UInt8)}

/-! One attachment. -/

/-- The STOPPED frames offered in the current attachment, until LOST or a detach ends it. -/
structure Attachment where
  ended : Bool := true
  reports : List (List UInt8) := []

def attachmentCall (att : Attachment) (c : Call) (a : Answer) : Attachment :=
  match c with
  | .attach _ => if a.code = .ok then { ended := false } else att
  | .detach _ => if a.code = .ok then { att with ended := true } else att
  | _ => att

def attachmentOffer (att : Attachment) (f : List UInt8) : Attachment :=
  if att.ended then att
  else if isTargetLost f then { att with ended := true }
  else if isStopped f then { att with reports := att.reports ++ [f] }
  else att

def attachmentStep (att : Attachment) : SessionEvent → Attachment
  | ⟨.call _ c, a⟩ => attachmentCall att c a
  | ⟨.offer f, _⟩ => attachmentOffer att f

def attachment (h : SessionHistory) : Attachment := view attachmentStep {} h

section
variable {c : Call} {a : Answer} {f : List UInt8} {accepted : Bool} {s₁ : Session}

@[simp] theorem attachment_call :
    attachment (h ++ [⟨.call s₁ c, a⟩]) = attachmentCall (attachment h) c a := view_concat

@[simp] theorem attachment_offer :
    attachment (h ++ [⟨.offer f, accepted⟩]) = attachmentOffer (attachment h) f := view_concat

theorem attachmentCall_plain (att : Attachment) (plain : ¬c.Settles a) :
    attachmentCall att c a = att := by
  cases c with
  | attach params => exact if_neg plain
  | detach action => exact if_neg plain
  | _ => rfl

theorem attachmentOffer_response (att : Attachment) (hr : isResponse f = true) :
    attachmentOffer att f = att := by
  rw [attachmentOffer, isTargetLost_of_response hr, isStopped_of_response hr]
  simp

theorem attachmentOffer_ended {att : Attachment} (he : att.ended = true) :
    attachmentOffer att f = att := by
  rw [attachmentOffer, if_pos he]

theorem attachmentOffer_lost {att : Attachment} (hf : isTargetLost f = true) :
    (attachmentOffer att f).ended = true ∧ (attachmentOffer att f).reports = att.reports := by
  rw [attachmentOffer, if_pos hf]
  split
  · rename_i he
    exact ⟨he, rfl⟩
  · exact ⟨rfl, rfl⟩

theorem attachmentOffer_stopped {att : Attachment} (live : att.ended = false)
    (hf : isStopped f = true) (hn : isTargetLost f = false) :
    attachmentOffer att f = { att with reports := att.reports ++ [f] } := by
  simp [attachmentOffer, live, hf, hn]

end

/-! The invariant. -/

/-- The generation counter against the stops reported in this attachment. -/
structure Counts (s : Session) (fs : List (List UInt8)) : Prop where
  bound : ∀ f ∈ fs, stoppedFrameId f ≤ s.stopId
  fresh : s.state = .halted → s.stopId ≠ 0
  pending : s.state = .halted → s.stopReported = false → ∀ f ∈ fs, stoppedFrameId f < s.stopId
  last : s.state = .halted → s.stopReported = true →
    ∃ f, fs.getLast? = some f ∧ stoppedFrameId f = s.stopId

/-- Generations only grow while the attachment lasts. -/
structure Counted (s : Session) (h : SessionHistory) : Prop where
  increasing : (attachment h).reports.Pairwise fun f g => stoppedFrameId f < stoppedFrameId g
  counts : s.transportDead = true ∨ (attachment h).ended = true ∨ Counts s (attachment h).reports
  /-- The frames sent since the last halt are among the last reports. -/
  since : (attachment h).ended = false → ∀ r, haltView h = some r →
    r.frames <:+ (attachment h).reports
  idle : s.attached = false → haltView h = none

theorem Counts.of_same {t : Session} (hc : Counts s fs) (state : t.state = s.state)
    (stopId : t.stopId = s.stopId)
    (reported : s.state = .halted → t.stopReported = s.stopReported) :
    Counts t fs := by
  refine ⟨stopId ▸ hc.bound, fun hs => stopId ▸ hc.fresh (state ▸ hs), fun hs hr => ?_,
    fun hs hr => ?_⟩
  · rw [state] at hs
    rw [reported hs] at hr
    exact stopId ▸ hc.pending hs hr
  · rw [state] at hs
    rw [reported hs] at hr
    exact stopId ▸ hc.last hs hr

theorem Counts.of_unhalted {t : Session} (hc : Counts s fs) (state : t.state ≠ .halted)
    (stopId : t.stopId = s.stopId) : Counts t fs :=
  ⟨stopId ▸ hc.bound, fun hs => absurd hs state, fun hs => absurd hs state, fun hs =>
    absurd hs state⟩

/-- A new generation lies above every report. -/
theorem Counts.next {t : Session} {stop : StopDetect} (hc : Counts s fs)
    (entered : StopEntered s t stop) :
    Counts t fs := by
  have above (f : List UInt8) (hf : f ∈ fs) : stoppedFrameId f < t.stopId := by
    have le := UInt32.le_iff_toNat_le.mp (hc.bound f hf)
    have fresh : (s.stopId + 1).toNat ≠ 0 := by
      intro h0
      apply entered.fresh
      rw [entered.stopId]
      exact UInt32.toNat_inj.mp h0
    rw [UInt32.toNat_add] at fresh
    rw [UInt32.lt_iff_toNat_lt, entered.stopId, UInt32.toNat_add]
    have := s.stopId.toNat_lt
    simp only [UInt32.toNat_one] at fresh ⊢
    omega
  refine ⟨fun f hf => UInt32.le_of_lt (above f hf), fun _ => entered.fresh, fun _ _ =>
    above, fun _ hr => ?_⟩
  exact absurd (entered.unreported.symm.trans hr) (by decide)

/-- Events that do not concern the attachment or the last halt leave the invariant. -/
theorem Counted.of_blind {t : Session} (hc : Counted s h) (att : attachment h' = attachment h)
    (view : ∀ r, haltView h' = some r → haltView h = some r ∨ r.frames = [])
    (idle : t.attached = false → haltView h' = none)
    (counts : t.transportDead = true ∨ (Counts s (attachment h).reports →
      Counts t (attachment h).reports))
    (dead : s.transportDead = true → t.transportDead = true) : Counted t h' := by
  refine ⟨att ▸ hc.increasing, ?_, fun live r hr => ?_, idle⟩
  · rw [att]
    rcases counts with latched | same
    · exact Or.inl latched
    · rcases hc.counts with gone | ended | counts
      · exact Or.inl (dead gone)
      · exact Or.inr (Or.inl ended)
      · exact Or.inr (Or.inr (same counts))
  · rw [att] at live ⊢
    rcases view r hr with before | none
    · exact hc.since live r before
    · exact none ▸ List.nil_suffix

/-- A call keeps the last halt with its frames, or starts a new one without. -/
theorem haltViewCall_frames {report : Option HaltReport} {c : Call} {a : Answer} {r : HaltReport}
    (hr : haltViewCall report c a = some r) : report = some r ∨ r.frames = [] := by
  cases c with
  | halt timeout =>
    rw [haltViewCall] at hr
    split at hr
    · exact Or.inr (Option.some.inj hr ▸ rfl)
    · exact Or.inl hr
  | pollHalted =>
    rw [haltViewCall] at hr
    split at hr
    · exact Or.inr (Option.some.inj hr ▸ rfl)
    · exact Or.inl hr
  | reset kind haltAfter =>
    rw [haltViewCall] at hr
    split at hr
    · exact Or.inr (Option.some.inj hr ▸ rfl)
    · exact absurd hr (by simp)
  | resume action address => exact absurd hr (by simp [haltViewCall])
  | detach action =>
    rw [haltViewCall] at hr
    split at hr
    · exact absurd hr (by simp)
    · exact Or.inl hr
  | _ => exact Or.inl hr

/-- A call that leaves the counter and does not end the attachment. -/
theorem Counted.call {s₁ : Session} {c : Call} {a : Answer} (hc : Counted s h)
    (att : attachmentCall (attachment h) c a = attachment h)
    (attached : s.attached = true ∨ haltViewCall none c a = none) (table : List SwBp) :
    Counted (s.withTable table) (h ++ [⟨.call s₁ c, a⟩]) := by
  apply hc.of_blind (attachment_call.trans att)
  · intro r hr
    rw [haltView_call] at hr
    exact haltViewCall_frames hr
  · intro free
    rw [haltView_call]
    rcases attached with taken | none
    · exact absurd (taken.symm.trans free) (by decide)
    · rw [hc.idle free]
      exact none
  · exact Or.inr fun counts => counts.of_same rfl rfl fun _ => rfl
  · exact id

/-- A response leaves the counter. -/
theorem Counted.respond {f : List UInt8} {accepted : Bool} {b : Buffer} {n : ℕ} (hc : Counted s h)
    (response : isResponse f = true) (alive : s.transportDead = false) :
    Counted (s.framed b n (!accepted)) (h ++ [⟨.offer f, accepted⟩]) := by
  have view : haltView (h ++ [⟨.offer f, accepted⟩]) = haltView h := by
    rw [haltView_offer, isStopped_of_response response]
    rfl
  apply hc.of_blind (attachment_offer.trans (attachmentOffer_response _ response))
  · intro r hr
    exact Or.inl (view.symm.trans hr)
  · intro free
    exact view.trans (hc.idle free)
  · exact Or.inr fun counts => counts.of_same rfl rfl fun _ => rfl
  · intro dead
    exact absurd (alive.symm.trans dead) (by decide)

/-- STOPPED carries the generation that is not reported yet. -/
theorem Counted.report {f : List UInt8} {accepted : Bool} {b : Buffer} {n : ℕ} (hc : Counted s h)
    (alive : s.transportDead = false) (state : s.state = .halted)
    (unreported : s.stopReported = false) (frame : StoppedFrame s f) :
    Counted ({ s with stopReported := accepted }.framed b n (!accepted))
      (h ++ [⟨.offer f, accepted⟩]) := by
  have view : haltView (h ++ [⟨.offer f, accepted⟩]) =
      (haltView h).map fun r => { r with frames := r.frames ++ [f] } := by
    rw [haltView_offer, if_pos frame.isStopped]
  have idle (free : s.attached = false) : haltView (h ++ [⟨.offer f, accepted⟩]) = none := by
    rw [view, hc.idle free]
    rfl
  rcases hc.counts with dead | ended | counts
  · exact absurd (alive.symm.trans dead) (by decide)
  · have att : attachment (h ++ [⟨.offer f, accepted⟩]) = attachment h :=
      attachment_offer.trans (attachmentOffer_ended ended)
    refine ⟨att ▸ hc.increasing, Or.inr (Or.inl (att ▸ ended)), fun live => ?_, idle⟩
    rw [att] at live
    exact absurd (live.symm.trans ended) (by decide)
  · cases live : (attachment h).ended with
    | true =>
      have att : attachment (h ++ [⟨.offer f, accepted⟩]) = attachment h :=
        attachment_offer.trans (attachmentOffer_ended live)
      refine ⟨att ▸ hc.increasing, Or.inr (Or.inl (att ▸ live)), fun going => ?_, idle⟩
      rw [att] at going
      exact absurd (going.symm.trans live) (by decide)
    | false =>
      have att : attachment (h ++ [⟨.offer f, accepted⟩]) =
          { attachment h with reports := (attachment h).reports ++ [f] } :=
        attachment_offer.trans (attachmentOffer_stopped live frame.isStopped frame.not_lost)
      have id_f : stoppedFrameId f = s.stopId := frame.stopId
      refine ⟨?_, ?_, fun _ r hr => ?_, idle⟩
      · rw [att, List.pairwise_append]
        refine ⟨hc.increasing, List.pairwise_singleton _ _, fun g hg k hk => ?_⟩
        rw [List.mem_singleton.mp hk, id_f]
        exact counts.pending state unreported g hg
      · cases accepted with
        | false => exact Or.inl rfl
        | true =>
          right; right
          rw [att]
          refine ⟨fun g hg => ?_, fun _ => counts.fresh state, fun _ hr => ?_, fun _ _ =>
            ⟨f, by simp, id_f⟩⟩
          · rcases List.mem_append.mp hg with hg | hg
            · exact counts.bound g hg
            · rw [List.mem_singleton.mp hg, id_f]
              exact UInt32.le_refl _
          · exact absurd hr (by simp [Session.framed])
      · rw [view] at hr
        obtain ⟨r', hr', rfl⟩ := Option.map_eq_some_iff.mp hr
        rw [att]
        exact List.suffix_append_self_iff.mpr (hc.since live r' hr')

theorem Counted.step (move : Move policy (s, h) (s', h')) (hc : Counted s h) : Counted s' h' := by
  have silent {t : Session} (attached : t.attached = s.attached)
      (counts : t.transportDead = true ∨
        (Counts s (attachment h).reports → Counts t (attachment h).reports))
      (dead : s.transportDead = true → t.transportDead = true) : Counted t h :=
    hc.of_blind rfl (fun _ => Or.inl) (fun free => hc.idle (attached.symm.trans free)) counts dead
  cases move with
  | keep same =>
    exact silent same.attached (Or.inr fun counts => counts.of_same same.state same.stopId
      fun hs => (same.report hs).1) fun dead => same.transportDead.trans dead
  | call c a allowed plain =>
    apply hc.call (attachmentCall_plain _ plain) ?_ s.swTable
    cases c with
    | attach params => exact Or.inr rfl
    | halt | pollHalted => exact Or.inl allowed
    | resume => exact Or.inl allowed
    | detach | reset | readRegs | writeRegs | readMem | writeMem => exact Or.inl allowed.1
    | applyBreakpoints | applyWatchpoints | setVectorCatch => exact Or.inl allowed.1
  | resume action address a attached => exact hc.call rfl (Or.inl attached) s.swTable
  | arm index entry a attached => exact hc.call rfl (Or.inl attached) _
  | restore index entry a attached => exact hc.call rfl (Or.inl attached) _
  | record entry a allowed => exact hc.call rfl (Or.inl allowed.1) _
  | write flags data address width a allowed => exact hc.call rfl (Or.inl allowed.1) _
  | compact =>
    exact silent rfl (Or.inr fun counts => counts.of_same rfl rfl fun _ => rfl) id
  | advertise alive map => exact hc.respond (isResponse_of_advertised map) alive
  | respond alive response => exact hc.respond response alive
  | report alive state unreported frame => exact hc.report alive state unreported frame
  | halt state active seen entered =>
    exact silent entered.attached (Or.inr fun counts => counts.next entered)
      fun dead => entered.transportDead.trans dead
  | run state active running stopId same =>
    exact silent same.attached (Or.inr fun counts => counts.of_unhalted (by simp [running]) stopId)
      fun dead => same.transportDead.trans dead
  | hangUp => exact silent rfl (Or.inl rfl) fun _ => rfl
  | abandon dead => exact silent rfl (Or.inl dead) id
  | attach params a info regions free state ok =>
    -- a new attachment has reported nothing
    have att : attachment (h ++ [⟨.call s (.attach params), a⟩]) = { ended := false } := by
      rw [attachment_call, attachmentCall, if_pos ok]
    have view : haltView (h ++ [⟨.call s (.attach params), a⟩]) = none :=
      haltView_call.trans (hc.idle free)
    refine ⟨att ▸ List.Pairwise.nil, ?_, fun _ r hr => ?_, fun _ => view⟩
    · right; right
      rw [att]
      refine ⟨fun f hf => absurd hf List.not_mem_nil, fun hs => ?_, fun hs => ?_, fun hs => ?_⟩ <;>
        exact absurd (state.symm.trans hs) (by decide)
    · exact absurd (view.symm.trans hr) (by simp)
  | detach action a state allowed ok =>
    have att : attachment (h ++ [⟨.call s (.detach action), a⟩]) =
        { attachment h with ended := true } := by
      rw [attachment_call, attachmentCall, if_pos ok]
    refine ⟨att ▸ hc.increasing, Or.inr (Or.inl (att ▸ rfl)), fun live => ?_, fun _ => ?_⟩
    · rw [att] at live
      exact absurd live (by simp)
    · exact haltView_call.trans (if_pos ok)
  | lose state lost attached regions swTable offered =>
    rcases offered with ⟨gone, dead, rfl⟩ | ⟨-, f, accepted, hf, -, rfl⟩
    · rw [List.append_nil]
      exact silent attached (Or.inl dead) fun _ => dead
    · -- TARGET_LOST ends the attachment, so nothing more is counted
      have closing : (attachmentOffer (attachment h) f).ended = true ∧
          (attachmentOffer (attachment h) f).reports = (attachment h).reports :=
        attachmentOffer_lost hf.isTargetLost
      have same : attachment (h ++ [⟨.offer f, accepted⟩]) = attachmentOffer (attachment h) f :=
        attachment_offer
      rw [← same] at closing
      obtain ⟨ended, reports⟩ := closing
      refine ⟨reports ▸ hc.increasing, Or.inr (Or.inl ended), fun live => ?_, fun free => ?_⟩
      · exact absurd (live.symm.trans ended) (by decide)
      · rw [haltView_offer, hf.not_stopped]
        exact hc.idle (attached.symm.trans free)

theorem counted_fresh : Counted {} [] :=
  ⟨List.Pairwise.nil, Or.inr (Or.inl rfl), fun live => absurd live (by decide), fun _ => rfl⟩

theorem run_counted {T : Type} (env : SessionEnvironment T) (t₀ : T) (inputs : List Input) :
    let w := playSession env (freshWorld t₀) inputs
    Counted w.state w.history ∧ Ready w.state w.history :=
  run_invariant (P := Counted) env t₀ inputs counted_fresh fun _ _ _ _ _ move hc => hc.step move

/-- What HALTED tells while nothing was lost: the last report is the one of this generation, and
nothing let the target run since the halt it reports. -/
structure ReportedOnce (s : Session) (h : SessionHistory) : Prop where
  generation : s.stopId ≠ 0
  reported : s.stopReported = true
  last : ∃ stop earlier f, (attachment h).reports = earlier ++ [f] ∧ stoppedFrameId f = s.stopId ∧
    (∀ g ∈ earlier, stoppedFrameId g ≠ s.stopId) ∧ haltView h = some ⟨stop, [f]⟩

theorem Counted.reportedOnce (hc : Counted s h) (ready : Ready s h) (state : s.state = .halted)
    (alive : s.transportDead = false) (live : (attachment h).ended = false) : ReportedOnce s h := by
  obtain ⟨reported, stop, f, hv⟩ := ready.reported state alive
  rcases hc.counts with dead | ended | counts
  · exact absurd (alive.symm.trans dead) (by decide)
  · exact absurd (live.symm.trans ended) (by decide)
  obtain ⟨earlier, he⟩ := hc.since live _ hv
  obtain ⟨g, hg, hid⟩ := counts.last state reported
  have hf : g = f := by
    rw [← he, List.getLast?_concat] at hg
    exact (Option.some.inj hg).symm
  subst hf
  refine ⟨counts.fresh state, reported, stop, earlier, g, he.symm, hid, fun k hk => ?_, hv⟩
  have below := hc.increasing
  rw [← he, List.pairwise_append] at below
  rw [← hid]
  exact UInt32.ne_of_lt (below.2.2 k hk g List.mem_cons_self)

/-- In every run the reported generations increase, and whenever the session waits in HALTED, its
sink never having refused a frame, the current generation was reported exactly once and last, with
no resume and no reset since its halt. -/
theorem generations_reported_once {T : Type} (env : SessionEnvironment T) (t₀ : T)
    (inputs : List Input) :
    let w := playSession env (freshWorld t₀) inputs
    (attachment w.history).reports.Pairwise (fun f g => stoppedFrameId f < stoppedFrameId g) ∧
      (w.state.state = .halted → ¬Rejected w.history → (attachment w.history).ended = false →
        ReportedOnce w.state w.history) := by
  intro w
  obtain ⟨counted, ready⟩ := run_counted env t₀ inputs
  refine ⟨counted.increasing, fun state accepted live => ?_⟩
  apply counted.reportedOnce ready state _ live
  have engaged := ready.engaged (Or.inl state)
  exact Bool.eq_false_of_not_eq_true fun dead => accepted (engaged.live dead)

def accepted : SessionEvent → Bool
  | ⟨.offer _, reply⟩ => reply
  | ⟨.call _ _, _⟩ => true

theorem not_rejected_of_accepted (ha : h.all accepted = true) : ¬Rejected h := by
  rintro ⟨f, hf⟩
  exact absurd (List.all_eq_true.mp ha _ hf) Bool.false_ne_true

/-- The halt of an ATTACH is reported as generation 1. -/
theorem attach_reported_once : ReportedOnce
    (playSession scripted (freshWorld [{}, { stop := { halted := true } }])
      [.request attachRequest]).state
    (playSession scripted (freshWorld [{}, { stop := { halted := true } }])
      [.request attachRequest]).history :=
  (generations_reported_once scripted [{}, { stop := { halted := true } }]
    [.request attachRequest]).2
    (by decide +kernel) (not_rejected_of_accepted (by decide +kernel)) (by decide +kernel)

/-! Requests that name a generation. -/

/-- The stop generation a request is bound to, if it is bound to one. -/
def boundTo (message : List UInt8) : Option UInt32 :=
  let payload := message.drop headerSize
  match requestOp (MsgHeader.parse message).opcode with
  | some .readRegisters => some (RegistersRequest.parse payload).stopId
  | some .writeRegisters => some (RegistersRequest.parse payload).stopId
  | some .run => some (RunRequest.parse payload).stopId
  | some .readMemory | some .writeMemory =>
    let req := MemoryRequest.parse payload
    if req.flags &&& MemAccess.requireHalted ≠ 0 then some req.stopId else none
  | _ => none

/-- The generation was reported in this attachment, and nothing let the target run since the halt
it reports. -/
structure Standing (h : SessionHistory) (stopId : UInt32) : Prop where
  nonzero : stopId ≠ 0
  reported : ∃ f ∈ (attachment h).reports, stoppedFrameId f = stopId ∧
    ∃ stop, haltView h = some ⟨stop, [f]⟩

/-- The request is answered with an error and does nothing else. -/
structure RefusedOnly (message : List UInt8) (s s' : Session) (evs : SessionHistory) : Prop where
  quiet : calls evs = []
  same : ∃ b n dead, s' = s.framed b n dead
  answered : ∃ status f, status ≠ Status.ok ∧ offered evs = [f] ∧
    ResponseFrame (MsgHeader.parse message).opcode (MsgHeader.parse message).requestId status f

/-- What becomes of a request bound to a generation. -/
inductive BoundOutcome (message : List UInt8) (stopId : UInt32) (s s' : Session)
  (evs : SessionHistory) :
    Prop
  | acts (state : s.state = .halted) (alive : s.transportDead = false) (current : stopId = s.stopId)
  | dropped (silent : s.transportDead = true ∨ ¬ValidRequest message) (same : s' = s)
      (quiet : evs = [])
  | refused (alive : s.transportDead = false) (only : RefusedOnly message s s' evs)

theorem ReportedOnce.standing (once : ReportedOnce s h) : Standing h s.stopId := by
  obtain ⟨stop, earlier, f, reports, hid, -, view⟩ := once.last
  exact ⟨once.generation, f, reports ▸ List.mem_append_right _ List.mem_cons_self, hid, stop, view⟩

theorem bound_outcome {stopId : UInt32} (bound : boundTo message = some stopId) :
    (handleRequest message).wp s h fun _ s' h' =>
      ∃ evs, h' = h ++ evs ∧ BoundOutcome message stopId s s' evs := by
  -- a refusal reaches the peer over a live transport, and changes nothing else
  have refuse {opcode : UInt16} {status : Status} (op : (MsgHeader.parse message).opcode = opcode)
      (alive : s.transportDead = false) (error : status ≠ .ok) :
      (respond opcode (MsgHeader.parse message).requestId status).wp s h
        fun _ s' h' => ∃ evs, h' = h ++ evs ∧ BoundOutcome message stopId s s' evs := by
    subst op
    apply respond_wp
    intro b dead evs ho
    rcases ho with ⟨gone, -⟩ | ⟨-, f, accepted, hf, -, rfl⟩
    · exact absurd (alive.symm.trans gone) (by decide)
    · exact ⟨_, rfl, .refused alive ⟨rfl, ⟨b, 16, dead, rfl⟩, status, f, error, rfl, hf⟩⟩
  -- past its checks a handler is bound to the current stop, whatever it then does
  have act {m : SessionM Unit} (state : s.state = .halted) (alive : s.transportDead = false)
      (current : stopId = s.stopId) :
      m.wp s h fun _ s' h' => ∃ evs, h' = h ++ evs ∧ BoundOutcome message stopId s s' evs :=
    Action.wp_from fun _ _ evs => ⟨evs, rfl, .acts state alive current⟩
  cases hop : requestOp (MsgHeader.parse message).opcode with
  | none => exact absurd bound (by simp [boundTo, hop])
  | some op =>
    apply handleRequest_op hop
    · exact fun silent => ⟨[], (List.append_nil h).symm, .dropped silent rfl rfl⟩
    · exact fun status error alive _ _ => refuse rfl alive error
    intro alive _ gate
    have opcode := opcode_of_requestOp hop
    simp only [boundTo, hop] at bound
    cases op with
    | readRegisters =>
      have state := halted_of_gate gate (Or.inr (Or.inl rfl))
      simp only [dispatch, opReadRegisters, Action.wp_bind, getSession_wp]
      cases hc : checkReadRegisters s (message.drop headerSize) with
      | error status => exact refuse opcode alive (checkReadRegisters_refuses s _ status hc)
      | ok req =>
        obtain ⟨rfl, current⟩ := checkReadRegisters_ok hc
        exact act state alive ((Option.some.inj bound).symm.trans current)
    | writeRegisters =>
      have state := halted_of_gate gate (Or.inr (Or.inr rfl))
      simp only [dispatch, opWriteRegisters, Action.wp_bind, getSession_wp]
      cases hc : checkWriteRegisters s (message.drop headerSize) with
      | error status => exact refuse opcode alive (checkWriteRegisters_refuses s _ status hc)
      | ok req =>
        obtain ⟨rfl, current⟩ := checkWriteRegisters_ok hc
        exact act state alive ((Option.some.inj bound).symm.trans current)
    | run =>
      have state := halted_of_gate gate (Or.inl rfl)
      simp only [dispatch, opRun, Action.wp_bind, getSession_wp]
      cases hc : checkRun s (message.drop headerSize) with
      | error status => exact refuse opcode alive (checkRun_refuses s _ status hc)
      | ok plan =>
        obtain ⟨request, current, -⟩ := checkRun_ok hc
        rw [request] at current
        exact act state alive ((Option.some.inj bound).symm.trans current)
    | readMemory =>
      have halts := Option.ite_none_right_eq_some.mp bound
      simp only [dispatch, opReadMemory, Action.wp_bind, getSession_wp]
      cases hc : checkReadMemory s (message.drop headerSize) with
      | error status => exact refuse opcode alive (checkReadMemory_refuses s _ status hc)
      | ok req =>
        obtain ⟨rfl, mode, -⟩ := checkReadMemory_ok hc
        obtain ⟨state, current⟩ := mode halts.1
        exact act state alive ((Option.some.inj halts.2).symm.trans current)
    | writeMemory =>
      have halts := Option.ite_none_right_eq_some.mp bound
      simp only [dispatch, opWriteMemory, Action.wp_bind, getSession_wp]
      cases hc : checkWriteMemory s (message.drop headerSize) with
      | error status => exact refuse opcode alive (checkWriteMemory_refuses s _ status hc)
      | ok req =>
        obtain ⟨rfl, mode, -⟩ := checkWriteMemory_ok hc
        obtain ⟨state, current⟩ := mode halts.1
        exact act state alive ((Option.some.inj halts.2).symm.trans current)
    | _ => exact absurd bound (by simp)

/-- In every run, before LOST ends the attachment: a request bound to a generation makes a backend
call only in the halt that generation reported. Otherwise it is answered with an error and changes
nothing but the frame buffer and the latch; a dead transport drops it without an answer. -/
theorem bound_requests_current {T : Type} (env : SessionEnvironment T) (t₀ : T)
    (inputs : List Input) (message : List UInt8) (stopId : UInt32) (valid : ValidRequest message)
    (bound : boundTo message = some stopId) :
    let w := playSession env (freshWorld t₀) inputs
    let r := w.perform env (handleRequest message)
    (attachment w.history).ended = false →
      (calls r.2.2 ≠ [] → Standing w.history stopId) ∧
      (¬Standing w.history stopId →
        (w.state.transportDead = false ∧ RefusedOnly message w.state r.2.1.state r.2.2) ∨
        (w.state.transportDead = true ∧ r.2.1.state = w.state ∧ r.2.2 = [])) := by
  intro w r live
  obtain ⟨counted, ready⟩ := run_counted env t₀ inputs
  have handled : ∃ evs, r.2.1.history = w.history ++ evs ∧
      BoundOutcome message stopId w.state r.2.1.state evs := World.perform_wp (bound_outcome bound)
  obtain ⟨evs, he, outcome⟩ := handled
  rw [World.perform_history] at he
  obtain rfl := List.append_cancel_left he
  cases outcome with
  | acts state alive current =>
    have standing := (counted.reportedOnce ready state alive live).standing
    rw [← current] at standing
    exact ⟨fun _ => standing, fun stale => absurd standing stale⟩
  | dropped silent same quiet =>
    refine ⟨fun acts => absurd (by rw [quiet]; rfl) acts, fun _ => Or.inr ⟨?_, same, quiet⟩⟩
    exact silent.resolve_right fun invalid => invalid valid
  | refused alive only =>
    exact ⟨fun acts => absurd only.quiet acts, fun _ => Or.inl ⟨alive, only⟩⟩

def readRegistersOf (stopId : UInt32) : List UInt8 :=
  requestMessage .readRegisters 2 (le32 stopId ++ [0, 0, 0, 0])

/-- In its first halt a client reads the registers of generation 1. -/
theorem read_registers_standing :
    Standing (playSession scripted (freshWorld [{}, { stop := { halted := true } }])
      [.request attachRequest]).history 1 :=
  (bound_requests_current scripted [{}, { stop := { halted := true } }] [.request attachRequest]
    (readRegistersOf 1) 1 ⟨by decide, by decide, by decide, by decide⟩ (by decide)
    (by decide +kernel)).1
    (by decide +kernel)

/-- A backend and a sink that each follow a list. -/
def scriptedSink : SessionEnvironment (List Answer × List Bool)
  | (answers, replies), .call _ _ => (answers.headD {}, answers.tail, replies)
  | (answers, replies), .offer _ => (replies.headD true, answers, replies.tail)

/-- The sink takes the ATTACH response and refuses the STOPPED behind it. -/
def refusedReport : SessionWorld (List Answer × List Bool) :=
  playSession scriptedSink (freshWorld ([{}, { stop := { halted := true } }], [true, false]))
    [.request attachRequest]

/-- A request bound to another generation is dropped unanswered once the sink has refused a
frame. -/
theorem stale_request_dropped :
    boundTo (readRegistersOf 7) = some 7 ∧ ValidRequest (readRegistersOf 7) ∧
      (attachment refusedReport.history).ended = false ∧ ¬Standing refusedReport.history 7 ∧
      offered
        (refusedReport.perform scriptedSink (handleRequest (readRegistersOf 7))).2.2 = [] := by
  refine ⟨by decide, ⟨by decide, by decide, by decide, by decide⟩, by decide +kernel,
    fun standing => ?_, by decide +kernel⟩
  obtain ⟨f, hf, hid, -⟩ := standing.reported
  have others : ∀ g ∈ (attachment refusedReport.history).reports, stoppedFrameId g ≠ 7 := by
    decide +kernel
  exact others f hf hid

end SidpClient
