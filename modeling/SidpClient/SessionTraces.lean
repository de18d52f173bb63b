import SidpClient.SessionMoves

/-! Traces of moves with the frames they offered, and what holds between two inputs. -/
namespace SidpClient
open LittleEndian Interactive

/-! Kinds of frames. -/

def IsResponseTo (opcode : UInt16) (requestId : UInt32) (f : List UInt8) : Prop :=
  isResponse f = true ∧ frameOpcode f = opcode ∧ frameRequestId f = requestId

def IsEvent (f : List UInt8) : Prop := isEvent f = true ∧ frameRequestId f = 0

section
variable {f : List UInt8} {opcode : UInt16} {requestId : UInt32} {status : Status}

theorem HasHeader.not_stopped {kind : UInt8} (hf : HasHeader f kind opcode requestId)
    (hn : kind ≠ MsgKind.event ∨ opcode ≠ Opcode.stopped) : isStopped f = false := by
  rcases hn with hk | ho
  · have hb : (frameKind f == MsgKind.event) = false := by
      rw [frameKind, hf.kind]
      exact beq_false_of_ne hk
    simp [isStopped, isEvent, hb]
  · have hb : (frameOpcode f == Opcode.stopped) = false := by
      rw [frameOpcode, hf.opcode]
      exact beq_false_of_ne ho
    simp [isStopped, hb]

theorem HasHeader.event_not_advertised (hf : HasHeader f MsgKind.event opcode requestId) :
    advertisedBy f = none := by
  have hb : isResponse f = false := by
    rw [isResponse, frameKind, hf.kind]
    rfl
  simp [advertisedBy, hb]

theorem HasHeader.isResponseTo (hf : HasHeader f MsgKind.response opcode requestId) :
    IsResponseTo opcode requestId f :=
  ⟨by rw [isResponse, frameKind, hf.kind]; rfl, hf.opcode, hf.requestId⟩

theorem HasHeader.isEvent (hf : HasHeader f MsgKind.event opcode 0) : IsEvent f :=
  ⟨by rw [SidpClient.isEvent, frameKind, hf.kind]; rfl, hf.requestId⟩

theorem HasHeader.not_advertised {kind : UInt8} (hf : HasHeader f kind opcode requestId)
    (ho : opcode ≠ Opcode.attach) : advertisedBy f = none := by
  have hne : frameOpcode f ≠ Opcode.attach := by
    rw [frameOpcode, hf.opcode]
    exact ho
  simp [advertisedBy, hne]

theorem ResponseFrame.not_advertised (hf : ResponseFrame opcode requestId status f)
    (hn : opcode ≠ Opcode.attach ∨ status ≠ .ok) : advertisedBy f = none := by
  rcases hn with ho | hs
  · exact hf.header.not_advertised ho
  · have hne : frameStatus f ≠ Status.ok.value := by
      rw [frameStatus, show headerSize = 12 from rfl, hf.status]
      exact fun he => hs (Status.value_injective he)
    simp [advertisedBy, hne]

theorem ResponseFrame.not_stopped (hf : ResponseFrame opcode requestId status f) :
    isStopped f = false := hf.header.not_stopped (Or.inl (by decide))

theorem LostFrame.not_stopped {reason : TargetLostReason} (hf : LostFrame reason f) :
    isStopped f = false := hf.header.not_stopped (Or.inr (by decide))

theorem LostFrame.isTargetLost {reason : TargetLostReason} (hf : LostFrame reason f) :
    isTargetLost f = true := by
  rw [SidpClient.isTargetLost, SidpClient.isEvent, frameKind, frameOpcode, hf.header.kind,
    hf.header.opcode]
  rfl

theorem StoppedFrame.isStopped {s : Session} (hf : StoppedFrame s f) : isStopped f = true := by
  rw [SidpClient.isStopped, SidpClient.isEvent, frameKind, frameOpcode, hf.header.kind,
    hf.header.opcode]
  rfl

theorem StoppedFrame.not_lost {s : Session} (hf : StoppedFrame s f) : isTargetLost f = false := by
  rw [isTargetLost, frameOpcode, hf.header.opcode]
  simp [Opcode.stopped, Opcode.targetLost]

theorem isTargetLost_of_response (hr : isResponse f = true) : isTargetLost f = false := by
  have hk : frameKind f = MsgKind.response := by simpa [isResponse] using hr
  simp [isTargetLost, isEvent, hk, MsgKind.response, MsgKind.event]

theorem isStopped_of_response (hr : isResponse f = true) : isStopped f = false := by
  have hk : frameKind f = MsgKind.response := by simpa [isResponse] using hr
  simp [isStopped, isEvent, hk, MsgKind.response, MsgKind.event]

theorem isResponse_of_advertised {map : List MemoryRegion}
    (ha : advertisedBy f = some map) : isResponse f = true := by
  rw [advertisedBy] at ha
  split at ha
  · rename_i response
    exact response.1
  · exact absurd ha (by simp)

end

/-! What an offer adds to a history. -/

/-- The frames of one offer: none on a dead transport. -/
def Sent (s : Session) (P : List UInt8 → Prop) (fs : List (List UInt8)) : Prop :=
  (s.transportDead = true ∧ fs = []) ∨ (s.transportDead = false ∧ ∃ f, P f ∧ fs = [f])

theorem Sent.all {s : Session} {P R : List UInt8 → Prop} {fs : List (List UInt8)}
    (hs : Sent s P fs) (hR : ∀ f, P f → R f) : ∀ f ∈ fs, R f := by
  rcases hs with ⟨-, rfl⟩ | ⟨-, g, hg, rfl⟩
  · simp
  · simpa using hR g hg

/-- One offer of a frame that is neither STOPPED nor a memory map. -/
structure Delivery (s : Session) (h : SessionHistory) (P : List UInt8 → Prop) (dead : Bool)
    (h' : SessionHistory) (fs : List (List UInt8)) : Prop where
  sent : Sent s P fs
  keeps : Keeps h h'
  live : (s.transportDead = true → Rejected h) → dead = true → Rejected h'
  latched : s.transportDead = true → dead = true
  quiet : calls h' = calls h

theorem Offered.live {s : Session} {h : SessionHistory} {P : List UInt8 → Prop} {dead : Bool}
    {evs : SessionHistory} (ho : Offered s P dead evs)
    (hl : s.transportDead = true → Rejected h) (hd : dead = true) : Rejected (h ++ evs) := by
  rcases ho with ⟨hs, -, rfl⟩ | ⟨-, f, accepted, -, rfl, rfl⟩
  · exact (hl hs).append _
  · have ha : accepted = false := by simpa using hd
    subst ha
    exact ⟨f, by simp⟩

theorem Offered.frames {s : Session} {P : List UInt8 → Prop} {dead : Bool} {evs : SessionHistory}
    (ho : Offered s P dead evs) :
    ∃ fs, Sent s P fs ∧ ∀ h, offered (h ++ evs) = offered h ++ fs := by
  rcases ho with ⟨hs, -, rfl⟩ | ⟨hs, f, accepted, hf, -, rfl⟩
  · exact ⟨[], Or.inl ⟨hs, rfl⟩, fun h => by simp⟩
  · exact ⟨[f], Or.inr ⟨hs, f, hf, rfl⟩, fun h => offered_offer⟩

theorem Offered.calls_nil {s : Session} {P : List UInt8 → Prop} {dead : Bool} {evs : SessionHistory}
    (ho : Offered s P dead evs) : calls evs = [] := by
  rcases ho with ⟨-, -, rfl⟩ | ⟨-, f, accepted, -, -, rfl⟩ <;> rfl

theorem Offered.delivery {s : Session} (h : SessionHistory) {P : List UInt8 → Prop} {dead : Bool}
    {evs : SessionHistory} (ho : Offered s P dead evs)
    (hP : ∀ f, P f → isStopped f = false ∧ advertisedBy f = none) :
    ∃ fs, Delivery s h P dead (h ++ evs) fs ∧ offered (h ++ evs) = offered h ++ fs := by
  obtain ⟨fs, hs, hf⟩ := ho.frames
  refine ⟨fs, ⟨hs, ?_, ho.live, ?_, ?_⟩, hf h⟩
  · rcases ho with ⟨-, -, rfl⟩ | ⟨-, f, accepted, hpf, -, rfl⟩
    · rw [List.append_nil]
      exact Keeps.refl h
    · exact keeps_offer (hP f hpf).1 (hP f hpf).2
  · intro hd
    rcases ho with ⟨-, hdead, -⟩ | ⟨ha, -⟩
    · exact hdead
    · rw [ha] at hd
      exact absurd hd Bool.false_ne_true
  · rcases ho with ⟨-, -, rfl⟩ | ⟨-, f, accepted, -, -, rfl⟩
    · rw [List.append_nil]
    · exact calls_offer

/-! Traces. -/

/-- Moves from a configuration, with the frames offered on the way. -/
structure Trace (policy : Policy) (c₀ : Config) (s : Session) (h : SessionHistory)
    (fs : List (List UInt8)) : Prop where
  moves : Moves policy c₀ (s, h)
  frames : offered h = offered c₀.2 ++ fs

variable {policy : Policy} {c₀ : Config} {s s' : Session} {h : SessionHistory}
  {fs : List (List UInt8)}

theorem Trace.start {p : Policy} : Trace p (s, h) s h [] := ⟨.refl, (List.append_nil _).symm⟩

theorem Trace.step {t : Session} (ht : Trace policy c₀ s h fs) (hm : Move policy (s, h) (t, h)) :
    Trace policy c₀ t h fs := ⟨ht.moves.tail hm, ht.frames⟩

theorem Trace.keep {t : Session} (ht : Trace policy c₀ s h fs) (same : SameCore s t) :
    Trace policy c₀ t h fs :=
  ht.step (.keep same)

theorem Trace.settle (ht : Trace policy c₀ s h fs) {s₁ : Session} {c : Call} {a : Answer}
    (hm : Move policy (s, h) (s', h ++ [⟨.call s₁ c, a⟩])) :
    Trace policy c₀ s' (h ++ [⟨.call s₁ c, a⟩]) fs :=
  ⟨ht.moves.tail hm, offered_call.trans ht.frames⟩

theorem Trace.call (ht : Trace policy c₀ s h fs) {c : Call} (a : Answer)
    (allowed : CallAllowed s h c) (plain : ¬c.Settles a) :
    Trace policy c₀ s (h ++ [⟨.call s c, a⟩]) fs := ht.settle (.call c a allowed plain)

theorem Trace.offer (ht : Trace policy c₀ s h fs) {evs : SessionHistory} {fs' : List (List UInt8)}
    (hm : Move policy (s, h) (s', h ++ evs)) (hf : offered (h ++ evs) = offered h ++ fs') :
    Trace policy c₀ s' (h ++ evs) (fs ++ fs') :=
  ⟨ht.moves.tail hm, by rw [hf, ht.frames, List.append_assoc]⟩

theorem SameCore.of_framed (s : Session) (b : Buffer) (n : ℕ) :
    SameCore s (s.framed b n s.transportDead) :=
  ⟨⟨rfl, rfl, rfl, rfl⟩, rfl, rfl, fun _ => ⟨rfl, rfl⟩⟩

/-- Offering a response that is no memory map. -/
theorem Trace.respond (ht : Trace policy c₀ s h fs) {P : List UInt8 → Prop} {b : Buffer} {n : ℕ}
    {dead : Bool} {evs : SessionHistory} (ho : Offered s P dead evs)
    (hP : ∀ f, P f → isResponse f = true ∧ advertisedBy f = none) :
    ∃ fs', Trace policy c₀ (s.framed b n dead) (h ++ evs) (fs ++ fs') ∧
      Delivery s h P dead (h ++ evs) fs' := by
  obtain ⟨fs', hd, hf⟩ := ho.delivery h fun f hf =>
    ⟨isStopped_of_response (hP f hf).1, (hP f hf).2⟩
  refine ⟨fs', ht.offer ?_ hf, hd⟩
  rcases ho with ⟨hs, rfl, rfl⟩ | ⟨hs, f, accepted, hpf, rfl, rfl⟩
  · rw [List.append_nil, ← hs]
    exact .keep (SameCore.of_framed s b n)
  · exact .respond hs (hP f hpf).1 (hP f hpf).2

theorem respond_trace {opcode : UInt16} {requestId : UInt32} {status : Status}
    {Q : Unit → Session → SessionHistory → Prop} (ht : Trace policy c₀ s h fs)
    (hnot : opcode ≠ Opcode.attach ∨ status ≠ .ok)
    (hQ : ∀ b dead h' fs', Trace policy c₀ (s.framed b 16 dead) h' (fs ++ fs') →
      Delivery s h (ResponseFrame opcode requestId status) dead h' fs' →
      Q () (s.framed b 16 dead) h') :
    (respond opcode requestId status).wp s h Q := by
  apply respond_wp
  intro b dead evs ho
  obtain ⟨fs', ht', hd⟩ := ht.respond (b := b) (n := 16) ho fun f hf =>
    ⟨hf.header.isResponseTo.1, hf.not_advertised hnot⟩
  exact hQ b dead _ fs' ht' hd

/-! Between two inputs. -/

/-- An attachment that can be worked with: every table entry is installed. -/
structure Engaged (s : Session) (h : SessionHistory) : Prop extends Active s h where
  armed : ∀ entry ∈ s.swTable, entry.installed = true
  fits : SnapshotFits s

/-- What holds whenever the session waits for an input. -/
structure Ready (s : Session) (h : SessionHistory) : Prop where
  engaged : s.state = .halted ∨ s.state = .running → Engaged s h
  reported : s.state = .halted → s.transportDead = false →
    s.stopReported = true ∧ ∃ stop f, haltView h = some ⟨stop, [f]⟩
  fits : SnapshotFits s

theorem Active.of_keeps {h' : SessionHistory} (ha : Active s h)
    (attached : s'.attached = s.attached) (regions : s'.regions = s.regions)
    (map : advertisedMap h' = advertisedMap h) (live : s'.transportDead = true → Rejected h') :
    Active s' h' :=
  ⟨attached.trans ha.attached, by rw [map, regions, ha.mapped], live⟩

theorem Ready.known (hr : Ready s h) (state : s.state = .halted) (alive : s.transportDead = false) :
    HaltKnown h := by
  obtain ⟨-, stop, f, hv⟩ := hr.reported state alive
  exact ⟨_, hv⟩

theorem Ready.of_lost (state : s.state = .lost) (fits : SnapshotFits s) : Ready s h := by
  refine ⟨fun hs => ?_, fun hs => ?_, fits⟩ <;> simp [state] at hs

theorem Ready.of_detached (state : s.state = .detached) (fits : SnapshotFits s) : Ready s h := by
  refine ⟨fun hs => ?_, fun hs => ?_, fits⟩ <;> simp [state] at hs

theorem Ready.of_running (he : Engaged s h) (state : s.state = .running) : Ready s h :=
  ⟨fun _ => he, fun hs => by simp [state] at hs, he.fits⟩

theorem Engaged.framed {b : Buffer} {n : ℕ} {dead : Bool} {h' : SessionHistory} (he : Engaged s h)
    (map : advertisedMap h' = advertisedMap h)
    (live : (s.transportDead = true → Rejected h) → dead = true → Rejected h') :
    Engaged (s.framed b n dead) h' :=
  ⟨he.toActive.of_keeps rfl rfl map (live he.live), he.armed, he.fits⟩

theorem Ready.framed {b : Buffer} {n : ℕ} {dead : Bool} {h' : SessionHistory} (hr : Ready s h)
    (keeps : KeepsHalt h h')
    (live : (s.transportDead = true → Rejected h) → dead = true → Rejected h')
    (latched : s.transportDead = true → dead = true) : Ready (s.framed b n dead) h' := by
  refine ⟨fun hs => (hr.engaged hs).framed keeps.map live, fun hs hd => ?_, hr.fits⟩
  have ha : s.transportDead = false := by
    cases hc : s.transportDead with
    | false => rfl
    | true => exact absurd ((latched hc).symm.trans hd) (by decide)
  rw [keeps.halt]
  exact hr.reported hs ha

/-- A call that changes nothing the state between inputs depends on. -/
theorem Ready.keeps {h' : SessionHistory} (hr : Ready s h) (keeps : KeepsHalt h h') : Ready s h' :=
  hr.framed (b := s.scratch) (n := s.txFrameSize) keeps
    (fun hl hd => keeps.rejected (hl hd)) id

/-! Sequences of frames. -/

/-- One response to a request, and then only events. -/
def ResponseFirst (opcode : UInt16) (requestId : UInt32) (fs : List (List UInt8)) : Prop :=
  ∃ f events, fs = f :: events ∧ IsResponseTo opcode requestId f ∧ ∀ e ∈ events, IsEvent e

theorem ResponseFirst.append {opcode : UInt16} {requestId : UInt32} {fs fs' : List (List UInt8)}
    (hr : ResponseFirst opcode requestId fs) (he : ∀ e ∈ fs', IsEvent e) :
    ResponseFirst opcode requestId (fs ++ fs') := by
  obtain ⟨f, events, rfl, hf, hev⟩ := hr
  refine ⟨f, events ++ fs', rfl, hf, fun e hm => ?_⟩
  rcases List.mem_append.mp hm with hm | hm
  · exact hev e hm
  · exact he e hm

theorem Sent.responseFirst {P : List UInt8 → Prop} {opcode : UInt16} {requestId : UInt32}
    (hs : Sent s P fs) (alive : s.transportDead = false)
    (hP : ∀ f, P f → IsResponseTo opcode requestId f) : ResponseFirst opcode requestId fs := by
  rcases hs with ⟨hd, -⟩ | ⟨-, f, hf, rfl⟩
  · exact absurd (alive.symm.trans hd) (by decide)
  · exact ⟨f, [], rfl, hP f hf, by simp⟩

end SidpClient
