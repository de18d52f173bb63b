import SidpClient.ServedResources
import SidpClient.LostTerminal

/-! What a session serves is what its backend reported, normalized, and what its ATTACH response
carried. -/
namespace SidpClient
open LittleEndian Interactive

/-- A successful attach: what the backend reported, and the first frame offered since. -/
structure AttachRecord where
  info : AttachInfo
  response : Option (List UInt8) := none

def lastAttachCall (last : Option AttachRecord) (c : Call) (a : Answer) : Option AttachRecord :=
  match c with
  | .attach _ => if a.code = .ok then some ⟨a.info, none⟩ else last
  | _ => last

def lastAttachStep (last : Option AttachRecord) : SessionEvent → Option AttachRecord
  | ⟨.call _ c, a⟩ => lastAttachCall last c a
  | ⟨.offer f, _⟩ => last.map fun x => { x with response := x.response.or (some f) }

/-- The last successful attach of a history. -/
def lastAttach (h : SessionHistory) : Option AttachRecord := view lastAttachStep none h

def AttachInfo.resources (info : AttachInfo) : Resources where
  capabilities := info.capabilities
  vectorCatch := info.supportedVectorCatchMask
  hardwareBreakpoints := info.hardwareBreakpoints
  hardwareWatchpoints := info.hardwareWatchpoints
  maxMemoryTransfer := info.maxMemoryTransfer.toUInt32

/-- The resources the last report was normalized to. -/
def reported (h : SessionHistory) : Resources :=
  ((lastAttach h).map fun x => (normalizeAttachInfo x.info).resources).getD {}

/-- The frame is an ATTACH response that carries a normalized report. -/
structure Advertises (f : List UInt8) (info : AttachInfo) : Prop where
  response : isResponse f = true
  opcode : frameOpcode f = Opcode.attach
  body : f.drop headerSize = attachResponseBytes info ++ info.memoryRegions

/-- The resources an ATTACH response carries. -/
def advertisedResources (f : List UInt8) : Resources where
  capabilities := getU32 f (headerSize + 8)
  vectorCatch := getU32 f (headerSize + 20)
  hardwareBreakpoints := getU16 f (headerSize + 24)
  hardwareWatchpoints := getU16 f (headerSize + 26)
  maxMemoryTransfer := (getU16 f (headerSize + 30)).toUInt32

/-- The ATTACH response of the last report was offered and carried this map. -/
def Announced (map : List MemoryRegion) (h : SessionHistory) : Prop :=
  ∃ info f, lastAttach h = some ⟨info, some f⟩ ∧ Advertises f (normalizeAttachInfo info) ∧
    map = parseMap info.memoryRegions

/-- A call is an attach, or within the resources last reported. -/
def Affordable (s : Session) (h : SessionHistory) (c : Call) : Prop :=
  (∃ params, c = .attach params) ∨ InReach (reported h) (.call s c)

/-- The session serves what was reported, and works only after announcing it. -/
structure Advertised (s : Session) (h : SessionHistory) : Prop where
  provided : Provided (reported h) s.regions s
  announced : s.state = .halted ∨ s.state = .running → Announced s.regions h
  affordable : EveryCall Affordable h

variable {s s' : Session} {h evs : SessionHistory} {map : List MemoryRegion} {f : List UInt8}
  {info : AttachInfo} {α : Type} {requestId : UInt32} {payload : List UInt8}

/-! Frames. -/

theorem attachResponseBytes_length (info : AttachInfo) :
    (attachResponseBytes info).length = 32 := by
  simp [attachResponseBytes]

/-- What a client reads from the response is what the session keeps. -/
theorem Advertises.resources (hf : Advertises f info) : advertisedResources f = info.resources := by
  have h2 (v : UInt16) : (le16 v).length = 2 := le16_length v
  have h4 (v : UInt32) : (le32 v).length = 4 := le32_length v
  have at32 (i : ℕ) (v : UInt32) (hi : i + 4 ≤ 32)
      (hs : slice (attachResponseBytes info) i 4 = le32 v) : getU32 f (headerSize + i) = v := by
    rw [getU32, slice_of_drop hf.body (by rwa [attachResponseBytes_length]), hs, ofNat_leNat_le32]
  have at16 (i : ℕ) (v : UInt16) (hi : i + 2 ≤ 32)
      (hs : slice (attachResponseBytes info) i 2 = le16 v) : getU16 f (headerSize + i) = v := by
    rw [getU16, slice_of_drop hf.body (by rwa [attachResponseBytes_length]), hs, ofNat_leNat_le16]
  rw [advertisedResources, AttachInfo.resources, at32 8 info.capabilities (by decide),
    at32 20 info.supportedVectorCatchMask (by decide), at16 24 info.hardwareBreakpoints (by decide),
    at16 26 info.hardwareWatchpoints (by decide), at16 30 info.maxMemoryTransfer (by decide)]
  all_goals simp [attachResponseBytes, slice, h2, h4, List.drop_append, List.drop_of_length_le,
    List.take_left', List.take_of_length_le]

theorem Advertises.regions (hf : Advertises f info) :
    f.drop (headerSize + attachResponseSize) = info.memoryRegions := by
  rw [← List.drop_drop, hf.body]
  exact List.drop_left' (attachResponseBytes_length info)

theorem attachBuffer_advertises (b : Buffer) (requestId : UInt32) (info : AttachInfo)
    (crc : UInt32) :
    Advertises (sealedFrame (attachBuffer b requestId info)
      (headerSize + (attachResponseSize + info.memoryRegions.length)) crc) info := by
  have frame := attachBuffer_frame b requestId info crc
  refine ⟨frame.response.1, frame.response.2.1, ?_⟩
  have whole := sealedFrame_slice (attachBuffer b requestId info)
    (headerSize + (attachResponseSize + info.memoryRegions.length)) crc headerSize
    (attachResponseSize + info.memoryRegions.length) le_rfl (Or.inr (by decide))
  rw [slice, List.take_of_length_le (by simp)] at whole
  have fixed : (attachBuffer b requestId info).read headerSize attachResponseSize =
      attachResponseBytes info := by
    have hw :=
      Buffer.read_write_self (b.write 0 (headerBytes MsgKind.response Opcode.attach requestId))
      (headerSize + 0) (attachResponseBytes info)
    rw [attachResponseBytes_length] at hw
    rw [attachBuffer, Buffer.read_write_of_disjoint _ _ _ _ _ (Or.inl (by decide))]
    exact hw
  rw [whole, Buffer.read_append, fixed, attachBuffer, Buffer.read_write_self]

/-! Calls within the resources leave the report as it is. -/

theorem lastAttachStep_info {r : Resources} {ev : SessionEvent} (hev : InReach r ev.1)
    (last : Option AttachRecord) : (lastAttachStep last ev).map (·.info) = last.map (·.info) := by
  obtain ⟨e, a⟩ := ev
  cases e with
  | offer f => simp [lastAttachStep, Function.comp_def]
  | call s c =>
    obtain ⟨-, -, other, -⟩ := hev
    cases c with
    | attach params => exact absurd rfl (other params)
    | _ => rfl

theorem lastAttachStep_response {r : Resources} {ev : SessionEvent} (hev : InReach r ev.1)
    (info : AttachInfo) (f : List UInt8) :
    lastAttachStep (some ⟨info, some f⟩) ev = some ⟨info, some f⟩ := by
  obtain ⟨e, a⟩ := ev
  cases e with
  | offer f' => rfl
  | call s c =>
    obtain ⟨-, -, other, -⟩ := hev
    cases c with
    | attach params => exact absurd rfl (other params)
    | _ => rfl

theorem reported_append {r : Resources} (hevs : ∀ ev ∈ evs, InReach r ev.1) :
    reported (h ++ evs) = reported h := by
  have same : (lastAttach (h ++ evs)).map (·.info) = (lastAttach h).map (·.info) := by
    induction evs generalizing h with
    | nil => rw [List.append_nil]
    | cons ev evs ih =>
      rw [List.append_cons, ih fun ev' hm => hevs ev' (List.mem_cons_of_mem _ hm), lastAttach,
        view_concat, lastAttachStep_info (hevs ev List.mem_cons_self)]
      rfl
  have through (x : Option AttachRecord) : (x.map fun x => (normalizeAttachInfo x.info).resources) =
      (x.map (·.info)).map fun info => (normalizeAttachInfo info).resources := by
    rw [Option.map_map]
    rfl
  rw [reported, reported, through, through, same]

theorem Announced.append {r : Resources} (hm : Announced map h)
    (hevs : ∀ ev ∈ evs, InReach r ev.1) :
    Announced map (h ++ evs) := by
  obtain ⟨info, f, hlast, hf, hmap⟩ := hm
  refine ⟨info, f, ?_, hf, hmap⟩
  clear hf hmap
  induction evs generalizing h with
  | nil => rwa [List.append_nil]
  | cons ev evs ih =>
    rw [List.append_cons]
    apply ih (fun ev' hm => hevs ev' (List.mem_cons_of_mem _ hm))
    rw [lastAttach, view_concat]
    change lastAttachStep (lastAttach h) ev = _
    rw [hlast, lastAttachStep_response (hevs ev List.mem_cons_self)]

theorem affordable_append (every : EveryCall Affordable h)
    (hevs : ∀ ev ∈ evs, InReach (reported h) ev.1) :
    EveryCall Affordable (h ++ evs) := by
  induction evs using List.reverseRecOn with
  | nil => rwa [List.append_nil]
  | append_singleton evs ev ih =>
    have before : ∀ ev' ∈ evs, InReach (reported h) ev'.1 := fun ev' hm =>
      hevs ev' (List.mem_append_left _ hm)
    rw [← List.append_assoc]
    apply (ih before).concat
    rintro s c a rfl
    refine Or.inr ?_
    rw [reported_append before]
    exact hevs _ (List.mem_append_right _ List.mem_cons_self)

/-- What an action that keeps to the resources leaves. -/
structure Serves (map : List MemoryRegion) (h : SessionHistory) (s' : Session)
    (h' : SessionHistory) : Prop where
  provided : Provided (reported h') s'.regions s'
  regions : s'.regions = map
  announced : Announced map h → Announced map h'
  affordable : EveryCall Affordable h → EveryCall Affordable h'

theorem Serves.of_serving {m : SessionM α} (hm : Serving (reported h) map m)
    (hs : Provided (reported h) map s) : m.wp s h fun _ s' h' => Serves map h s' h' := by
  apply Action.wp_mono (hm s h hs)
  intro _ s' _ done
  obtain ⟨provided, evs, he, inReach⟩ := done
  rw [he]
  refine ⟨?_, provided.regions, fun announced => announced.append inReach, fun every =>
    affordable_append every inReach⟩
  rw [reported_append inReach, provided.regions]
  exact provided

theorem Serves.advertised {h' : SessionHistory} (hs : Serves map h s' h')
    (every : EveryCall Affordable h)
    (known : s'.state = .halted ∨ s'.state = .running → Announced map h) : Advertised s' h' where
  provided := hs.provided
  announced live := by
    rw [hs.regions]
    exact hs.announced (known live)
  affordable := hs.affordable every

/-! A session that is not attached to a running or halted target. -/

/-- The target is lost, or there is none. -/
def Session.Idle (s : Session) : Prop := s.state = .lost ∨ s.state = .detached

theorem Session.Idle.not_live (hs : s.Idle) : ¬(s.state = .halted ∨ s.state = .running) := by
  rintro (halted | running)
  · rcases hs with lost | detached
    · exact absurd (halted.symm.trans lost) (by decide)
    · exact absurd (halted.symm.trans detached) (by decide)
  · rcases hs with lost | detached
    · exact absurd (running.symm.trans lost) (by decide)
    · exact absurd (running.symm.trans detached) (by decide)

theorem Session.idle_or_live (s : Session) : s.Idle ∨ s.state = .halted ∨ s.state = .running := by
  unfold Session.Idle
  cases s.state <;> simp

theorem respond_idle {opcode : UInt16} {status : Status} (hs : s.Idle) :
    (respond opcode requestId status).wp s h fun _ s' _ => s'.Idle := by
  apply respond_wp
  intro b dead evs _
  exact hs

theorem sendBackendFailure_idle {opcode : UInt16} {result : EspErr}
    {fallback : Status} (hs : s.Idle) :
    (sendBackendFailure opcode requestId result fallback).wp s h fun _ s' _ => s'.Idle := by
  simp only [sendBackendFailure, Action.wp_bind, Action.wp_ite, Action.wp_pure]
  refine ⟨fun _ => ?_, fun _ => respond_idle hs⟩
  apply Action.wp_mono (respond_idle hs)
  intro _ s₁ _ hs₁
  apply enterLost_wp
  · exact fun _ => hs₁
  · intro _ b dead evs _
    exact Or.inl rfl

theorem handleDisconnect_idle (hs : s.Idle) : handleDisconnect.wp s h fun _ s' _ => s'.Idle := by
  have start : Trace ⟨fun _ => True, fun _ _ _ _ => True⟩ (s, h) s h [] := Trace.start
  refine handleDisconnect_trace start (Or.inr fun _ => trivial) ?_
  intro _ s' _ _ left
  rcases left.state with lost | detached | ⟨-, rfl⟩
  · exact Or.inl lost
  · exact Or.inr detached
  · exact hs

/-! What a report is normalized to. -/

theorem stripUnless_and {cap bit : UInt32} (other : ~~~cap &&& bit = bit) (usable : Bool)
    (caps : UInt32) :
    stripUnless cap usable caps &&& bit = caps &&& bit := by
  rw [stripUnless]
  split
  · rw [UInt32.and_assoc, other]
  · rfl

theorem stripUnless_unusable (cap caps : UInt32) : stripUnless cap false caps &&& cap = 0 := by
  rw [stripUnless]
  split
  · rw [UInt32.and_assoc, UInt32.not_and_self, UInt32.and_zero]
  · rename_i kept
    simpa using kept

/-- Stripping only clears bits. -/
theorem stripUnless_subset (cap : UInt32) (usable : Bool) {caps raw : UInt32}
    (hsub : caps &&& raw = caps) :
    stripUnless cap usable caps &&& raw = stripUnless cap usable caps := by
  rw [stripUnless]
  split
  · rw [UInt32.and_assoc, UInt32.and_comm (~~~cap), ← UInt32.and_assoc, hsub]
  · exact hsub

/-- What normalization promises about a report. -/
structure Normalized (info : AttachInfo) (r : Resources) : Prop where
  subset : r.capabilities &&& info.capabilities = r.capabilities
  vectors : r.vectorCatch = info.supportedVectorCatchMask
  breakpoints : r.hardwareBreakpoints.toNat ≤ min info.hardwareBreakpoints.toNat 16
  watchpoints : r.hardwareWatchpoints.toNat ≤ min info.hardwareWatchpoints.toNat 16
  comparators : r.hardwareBreakpoints ≠ 0 → r.has Cap.hardwareBp = true
  watches : r.hardwareWatchpoints ≠ 0 → r.has Cap.watchpoint = true
  steps : r.has Cap.softwareBp = true → r.has Cap.singleStep = true
  transfer : r.maxMemoryTransfer.toNat ≤ maxMemoryTransferLimit

theorem clamp_le (n limit : UInt16) :
    (if n > limit then limit else n).toNat ≤ min n.toNat limit.toNat := by
  split
  · rename_i above
    have habove := UInt16.lt_iff_toNat_lt.mp above
    omega
  · rename_i below
    have hbelow := UInt16.le_iff_toNat_le.mp (UInt16.not_lt.mp below)
    omega

theorem zeroUnless_le (c : Prop) [Decidable c] (n : UInt16) {m : ℕ} (hn : n.toNat ≤ m) :
    (if c then 0 else n).toNat ≤ m := by
  split
  · exact Nat.zero_le m
  · exact hn

theorem normalizeAttachInfo_normalized (info : AttachInfo) :
    Normalized info (normalizeAttachInfo info).resources := by
  have passes {cap bit : UInt32} (other : ~~~cap &&& bit = bit) (usable : Bool) (caps : UInt32) :=
    stripUnless_and other usable caps
  refine ⟨?_, rfl, zeroUnless_le _ _ (clamp_le _ _), zeroUnless_le _ _ (clamp_le _ _), ?_, ?_, ?_,
    ?_⟩
  · have handled : (info.capabilities &&& handledCapabilities) &&& info.capabilities =
        info.capabilities &&& handledCapabilities := by
      rw [UInt32.and_assoc, UInt32.and_comm handledCapabilities, ← UInt32.and_assoc,
        UInt32.and_self]
    exact stripUnless_subset _ _ (stripUnless_subset _ _ (stripUnless_subset _ _
      (stripUnless_subset _ _ (stripUnless_subset _ _ handled))))
  · -- a comparator count is only kept with its bit, which no later rule strips
    intro some
    rw [Resources.has, bne_iff_ne]
    intro stripped
    apply some
    refine if_pos (Eq.trans ?_ stripped)
    exact ((passes rfl _ _).trans ((passes rfl _ _).trans (passes rfl _ _))).symm
  · intro some
    rw [Resources.has, bne_iff_ne]
    intro stripped
    apply some
    refine if_pos (Eq.trans ?_ stripped)
    exact ((passes rfl _ _).trans ((passes rfl _ _).trans (passes rfl _ _))).symm
  · -- the software breakpoint bit goes with the single step bit
    intro soft
    rw [Resources.has, bne_iff_ne]
    intro stripped
    have single := Eq.trans ((passes rfl _ _).trans ((passes rfl _ _).trans (passes rfl _ _))).symm
        stripped
    rw [Resources.has, bne_iff_ne] at soft
    apply soft
    refine Eq.trans ((passes rfl _ _).trans (passes rfl _ _)) ?_
    rw [single]
    exact stripUnless_unusable _ _
  · have most := clamp_le (if info.maxMemoryTransfer = 0 then defaultMaxMemoryTransfer.toUInt16
      else info.maxMemoryTransfer) (UInt16.ofNat maxMemoryTransferLimit)
    exact (UInt16.toNat_toUInt32 _).trans_le (most.trans (Nat.min_le_right _ _))

/-! One input. -/

theorem advertised_of_idle {m : SessionM α} (hm : Serving (reported h) map m)
    (hs : Provided (reported h) map s) (every : EveryCall Affordable h)
    (idle : m.wp s h fun _ s' _ => s'.Idle) : m.wp s h fun _ s' h' => Advertised s' h' := by
  apply Action.wp_mono (Action.wp_and (Serves.of_serving hm hs) idle)
  intro _ s' _ done
  exact done.1.advertised every fun live => absurd live done.2.not_live

theorem advertised_of_announced {m : SessionM α} (hm : Serving (reported h) map m)
    (hs : Provided (reported h) map s) (every : EveryCall Affordable h)
    (announced : Announced map h) :
    m.wp s h fun _ s' h' => Advertised s' h' := by
  apply Action.wp_mono (Serves.of_serving hm hs)
  intro _ s' _ done
  exact done.advertised every fun _ => announced

theorem rejectAttach_advertised (hs : Provided (reported h) map s) (every : EveryCall Affordable h)
    (idle : s.Idle) :
    (respond Opcode.attach requestId .error).wp s h fun _ s' h' =>
      handleDisconnect.wp s' h' fun _ => Advertised := by
  have serving : Serving (reported h) map (respond Opcode.attach requestId .error >>= fun _ =>
      handleDisconnect) := .bind (respond_serving _ _ _) fun _ => handleDisconnect_serving
  refine Action.wp_bind.mp (advertised_of_idle serving hs every ?_)
  rw [Action.wp_bind]
  apply Action.wp_mono (respond_idle idle)
  intro _ _ _ idle'
  exact handleDisconnect_idle idle'

theorem provided_attachedWith (s : Session) (info : AttachInfo) (regions : List MemoryRegion) :
    Provided (normalizeAttachInfo info).resources regions
      { s.attachedWith (normalizeAttachInfo info) with regions := regions } where
  same := rfl
  regions := rfl
  armed hne := absurd rfl hne
  pending hp := absurd hp (by simp [Session.attachedWith, Session.clearRunTracking,
    Session.clearDebugState])
  steps := (normalizeAttachInfo_normalized info).steps

theorem haltAfterAttach_serving {r : Resources} : Serving r map haltAfterAttach := by
  have polled : Serving r map (backend .pollHalted) := backend_plain rfl trivial
  have halted : Serving r map (backend (.halt haltTimeoutMs)) := backend_plain rfl trivial
  exact .bind polled fun _ => .ite (fun _ => .bind (enterLost_serving _) fun _ => .pure _) fun _ =>
    .ite (fun _ => .bind (enterHalted_serving _) fun _ => emitPendingStopped_serving) fun _ =>
      .bind halted fun _ => .ite
        (fun _ => .bind (enterHalted_serving _) fun _ => emitPendingStopped_serving) fun _ =>
          .ite (fun _ => .bind (enterLost_serving _) fun _ => .pure _) fun _ =>
            .bind (updateOther_serving fun _ => rfl) fun _ => .pure _

/-- The map is announced before the target may be worked with. -/
theorem sendAttach_advertised {haltAfter : Prop} (raw : AttachInfo)
    (last : lastAttach h = some ⟨raw, none⟩)
    (hs : Provided (reported h) (parseMap raw.memoryRegions) s) (every : EveryCall Affordable h)
    (idle : s.Idle)
    (hn : isValidMessageSize (headerSize + (attachResponseSize + raw.memoryRegions.length))) :
    finishFrame.wp
      { s with
        scratch := attachBuffer s.scratch requestId (normalizeAttachInfo raw)
        txFrameSize := headerSize + (attachResponseSize + raw.memoryRegions.length) } h
      fun accepted s' h' => (accepted = false → Advertised s' h') ∧ (accepted = true →
        (haltAfter → haltAfterAttach.wp s' h' fun _ => Advertised) ∧
        (¬haltAfter → Advertised { s' with state := .running } h')) := by
  refine finishFrame_offered (P := fun f => Advertises f (normalizeAttachInfo raw)) hn
    (fun crc => attachBuffer_advertises s.scratch requestId (normalizeAttachInfo raw) crc) ?_
  intro b dead evs sent
  have framed : Provided (reported h) (parseMap raw.memoryRegions) (s.framed b
      (headerSize + (attachResponseSize + raw.memoryRegions.length)) dead) :=
    ⟨hs.same, hs.regions, hs.armed, hs.pending, hs.steps⟩
  rcases sent with ⟨-, rfl, rfl⟩ | ⟨-, f, accepted, hf, rfl, rfl⟩
  · rw [List.append_nil]
    refine ⟨fun _ => ?_, fun hf => absurd hf (by decide)⟩
    exact ⟨by rw [framed.regions]; exact framed, fun live => absurd live idle.not_live, every⟩
  · have inReach : ∀ ev ∈ ([⟨.offer f, accepted⟩] : SessionHistory), InReach (reported h) ev.1 := by
      intro ev hm
      rw [List.mem_singleton.mp hm]
      trivial
    have announced : Announced (parseMap raw.memoryRegions) (h ++ [⟨.offer f, accepted⟩]) := by
      refine ⟨raw, f, ?_, hf, rfl⟩
      rw [lastAttach, view_concat]
      change lastAttachStep (lastAttach h) _ = _
      rw [last]
      rfl
    rw [← reported_append inReach] at framed
    refine ⟨fun _ => ?_, fun _ => ⟨fun _ => ?_, fun _ => ?_⟩⟩
    · refine ⟨?_, fun live => absurd live idle.not_live, every.offer⟩
      rw [framed.regions]
      exact framed
    · exact advertised_of_announced haltAfterAttach_serving framed every.offer announced
    · have running : Serving (reported (h ++ [⟨.offer f, accepted⟩])) (parseMap raw.memoryRegions)
          (updateSession fun s => { s with state := .running }) := updateOther_serving fun _ => rfl
      exact advertised_of_announced running framed every.offer announced

theorem opAttach_advertised (hs : Advertised s h) (state : s.state = .detached) :
    (opAttach requestId payload).wp s h fun _ => Advertised := by
  have idle : s.Idle := Or.inr state
  have refuse (status : Status) : (respond Opcode.attach requestId status).wp s h
      fun _ => Advertised :=
    advertised_of_idle (respond_serving _ _ _) hs.provided hs.affordable (respond_idle idle)
  simp only [opAttach, Action.wp_bind, Action.wp_ite, getSession_wp, backend_wp, updateSession_wp,
    Action.wp_pure, beginFrame_wp, writePayload_wp, Bool.not_eq_true', Bool.not_eq_false]
  have every (a : Answer) : EveryCall Affordable
      (h ++ [⟨.call s (.attach ⟨getU8 payload 4 != 0, getU8 payload 5 != 0⟩), a⟩]) :=
    hs.affordable.call (Or.inl ⟨_, rfl⟩)
  refine ⟨fun _ => refuse _, fun _ => ⟨fun _ => refuse _, fun _ a =>
    ⟨fun fail => ?_, fun ok => ?_⟩⟩⟩
  · have same :
        lastAttach (h ++ [⟨.call s (.attach ⟨getU8 payload 4 != 0, getU8 payload 5 != 0⟩), a⟩]) =
        lastAttach h := by
      rw [lastAttach, view_concat]
      exact if_neg fail
    have provided : Provided (reported (h ++ [⟨.call s (.attach
        ⟨getU8 payload 4 != 0, getU8 payload 5 != 0⟩), a⟩])) s.regions s := by
      rw [reported, same]
      exact hs.provided
    exact advertised_of_idle (sendBackendFailure_serving _ _ _ _) provided (every a)
      (sendBackendFailure_idle idle)
  · have last :
        lastAttach (h ++ [⟨.call s (.attach ⟨getU8 payload 4 != 0, getU8 payload 5 != 0⟩), a⟩]) =
        some ⟨a.info, none⟩ := by
      rw [lastAttach, view_concat]
      exact if_pos (not_not.mp ok)
    have provided (regions : List MemoryRegion) : Provided (reported (h ++ [⟨.call s (.attach
        ⟨getU8 payload 4 != 0, getU8 payload 5 != 0⟩), a⟩])) regions
        { s.attachedWith (normalizeAttachInfo a.info) with regions := regions } := by
      rw [reported, last]
      exact provided_attachedWith s a.info regions
    refine ⟨fun _ => rejectAttach_advertised (provided []) (every a) idle, fun _ =>
      ⟨fun _ => ⟨fun _ => rejectAttach_advertised (provided _) (every a) idle, fun hf =>
        absurd hf (by decide)⟩, fun small => ⟨fun hf => absurd hf (by decide), fun _ => ?_⟩⟩⟩
    have fits : isValidMessageSize (headerSize + (attachResponseSize +
        (normalizeAttachInfo a.info).memoryRegions.length)) := by
      simp only [isValidMessageSize, maxFrameSize, headerSize] at small ⊢
      omega
    exact sendAttach_advertised a.info last (provided _) (every a) idle fits

theorem handleRequest_advertised (message : List UInt8) (hs : Advertised s h) :
    (handleRequest message).wp s h fun _ => Advertised := by
  -- an answer leaves the state of the target as it is
  have answer (opcode : UInt16) (requestId : UInt32) (status : Status) :
      (respond opcode requestId status).wp s h fun _ => Advertised := by
    have same : (respond opcode requestId status).wp s h fun _ s' _ => s'.state = s.state := by
      apply respond_wp
      intro b dead evs _
      rfl
    apply Action.wp_mono (Action.wp_and (Serves.of_serving (respond_serving _ _ _) hs.provided)
      same)
    intro _ s' _ done
    apply done.1.advertised hs.affordable
    rw [done.2]
    exact hs.announced
  cases hop : requestOp (MsgHeader.parse message).opcode with
  | none =>
    simp only [handleRequest, Action.wp_bind, getSession_wp, Action.wp_ite, Action.wp_pure, hop]
    exact ⟨fun _ => hs, fun _ => ⟨fun _ => hs, fun _ => ⟨fun _ => hs, fun _ => answer _ _ _⟩⟩⟩
  | some op =>
    apply handleRequest_op hop
    · exact fun _ => hs
    · exact fun status _ _ _ _ => answer _ _ status
    · intro _ _ gate
      cases op with
      | attach => exact opAttach_advertised hs (detached_of_gate gate)
      | getState =>
        apply Action.wp_mono (Action.wp_and (Serves.of_serving (opGetState_serving _ _) hs.provided)
          opGetState_silent)
        intro _ s' _ done
        apply done.1.advertised hs.affordable
        rw [done.2.1]
        exact hs.announced
      | _ =>
        have announced := hs.announced (live_of_gate gate (by decide))
        exact advertised_of_announced (dispatch_serving (by decide) _ _) hs.provided
          hs.affordable announced

theorem handle_advertised (i : Input) (hs : Advertised s h) :
    (handle i).wp s h fun _ => Advertised := by
  cases i with
  | request message =>
    simp only [handle, Action.wp_bind, Action.wp_pure]
    exact handleRequest_advertised message hs
  | poll =>
    simp only [handle, Action.wp_bind, Action.wp_pure]
    rcases s.idle_or_live with idle | live
    · simp only [handlePoll, Action.wp_bind, getSession_wp, Action.wp_ite, Action.wp_pure]
      refine ⟨fun _ => hs, fun running => absurd (Or.inr ?_) idle.not_live⟩
      by_contra other
      exact running (Or.inr (Or.inl other))
    · exact advertised_of_announced handlePoll_serving hs.provided hs.affordable (hs.announced live)
  | disconnect =>
    rcases s.idle_or_live with idle | live
    · exact advertised_of_idle handleDisconnect_serving hs.provided hs.affordable
        (handleDisconnect_idle idle)
    · exact advertised_of_announced handleDisconnect_serving hs.provided hs.affordable
        (hs.announced live)

theorem advertised_fresh : Advertised {} [] where
  provided := ⟨rfl, rfl, fun hne => absurd rfl hne, fun hp => absurd hp (by decide),
    fun has => absurd has (by decide)⟩
  announced live := absurd live (by decide)
  affordable := .nil

/-- In every run the session serves what was reported to it, and works only after announcing it. -/
theorem play_advertised {T : Type} (env : SessionEnvironment T) (t₀ : T) (inputs : List Input) :
    Advertised (playSession env (freshWorld t₀) inputs).state
      (playSession env (freshWorld t₀) inputs).history :=
  World.play_invariant (fun _ _ i hs => handle_advertised i hs) inputs advertised_fresh

end SidpClient
