import SidpClient.PacketQueue

/-! What crosses the boundary between two sessions of the packet queues: nothing. -/
namespace SidpClient
open Fifo
namespace QueueSystem

/-- Fewer than 2^32 changes of the epoch lie between a sample and the delivery that uses it. -/
def Timely (s : QueueSystem) : QueueStep → Prop
  | .deliverPacket _ received _ => s.changes < received.changes + 2 ^ 32
  | _ => True

/-- The states of all interleavings. -/
inductive Interleaving : QueueSystem → Prop
  | start : Interleaving {}
  | step {s t : QueueSystem} {a : QueueStep} (before : Interleaving s) (timely : s.Timely a)
      (taken : s.step a = some t) : Interleaving t

/-- The queues once the mutex holder is done. -/
def settled (s : QueueSystem) : PacketQueue := s.holder.foldl PacketQueue.perform s.queue

def settledChanges (s : QueueSystem) : ℕ := s.changes + s.holder.count .incrementEpoch

end QueueSystem

/-- The frames of one kind, logs or control frames. -/
def SessionLog.lane (s : SessionLog) (log : Bool) : Ledger (List UInt8) :=
  if log then s.logs else s.control

/-- A session took packets and frames in the order they were queued in it, and every packet queued
came with an epoch sampled in it. -/
structure SessionLog.Sound (log : SessionLog) : Prop where
  packets : log.packets.InOrder
  control : log.control.InOrder
  logs : log.logs.InOrder
  valid : ∀ data ∈ log.packets.put, validPacket data = true
  counted : log.samples.length = log.packets.put.length
  sampled : ∀ received ∈ log.samples, received.session = log.number

namespace QueueSystem

/-- What holds at every moment, of the queues and the changes of the epoch as the mutex holder will
leave them. -/
structure Consistent (q : PacketQueue) (n : ℕ) (s : QueueSystem) : Prop where
  closed : q.dead = true → q.ringBuffer = [] ∧ q.txRing = [] ∧ q.logRing = []
  packets : q.dead = false → s.current.packets.Waits q.ringBuffer
  control : q.dead = false → s.current.control.Waits q.txRing
  logs : q.dead = false → s.current.logs.Waits q.logRing
  fresh : q.dead = false → ∀ x ∈ s.samples, x.changes = n → x.session = s.current.number
  linked : q.linkSerial ≠ q.acceptedLinkSerial → 0 < s.current.linkUps
  busy : q.txBusy = false → s.txTask = .idle
  inFlight : ∀ log frame, s.txTask = .sending log frame → frame ∈ (s.current.lane log).took
  borrowed : q.rxBorrowed = s.borrowed.length
  sound : s.current.Sound
  past : ∀ log ∈ s.past, log.Sound ∧ 0 < log.linkUps

/-- The epoch counts its changes modulo 2^32, and so does every sample of it. -/
structure EpochCounts (s : QueueSystem) : Prop where
  now : s.queue.epoch = .ofNat s.changes
  then_ : ∀ x ∈ s.samples, x.epoch = .ofNat x.changes ∧ x.changes ≤ s.changes

theorem sound_start (n : ℕ) : SessionLog.Sound { number := n } :=
  ⟨Ledger.inOrder_nil, Ledger.inOrder_nil, Ledger.inOrder_nil, fun _ hd => absurd hd (by simp), rfl,
    fun _ hx => absurd hx (by simp)⟩

variable {s t : QueueSystem} {a : QueueStep} {q : PacketQueue} {n : ℕ}

/-- A write of the mutex holder was counted on. -/
theorem settled_perform {w : QueueWrite} {ws : List QueueWrite} (held : s.holder = w :: ws)
    (changes : ℕ) (hchanges : changes = if w = .incrementEpoch then s.changes + 1 else s.changes) :
    { s with queue := s.queue.perform w, holder := ws, changes }.settled = s.settled ∧
    { s with queue := s.queue.perform w, holder := ws, changes }.settledChanges =
      s.settledChanges := by
  rw [settled, settled, settledChanges, settledChanges, held, hchanges]
  refine ⟨rfl, ?_⟩
  rw [List.count_cons]
  by_cases hw : w = .incrementEpoch
  · subst hw
    simp only [if_true, BEq.rfl]
    omega
  · simp [hw]

theorem EpochCounts.step (h : s.EpochCounts) (hstep : s.step a = some t) : t.EpochCounts := by
  have hmoved := step_moved hstep
  cases hmoved with
  | sampled =>
    refine ⟨h.now, fun x hx => ?_⟩
    obtain rfl | hx := List.mem_cons.mp hx
    · exact ⟨h.now, le_rfl⟩
    · exact h.then_ x hx
  | @written w ws held =>
    by_cases hw : w = .incrementEpoch
    · subst hw
      refine ⟨?_, fun x hx => ?_⟩
      · have hnext : s.queue.epoch + 1 = UInt32.ofNat (s.changes + 1) := by
          rw [h.now, UInt32.ofNat_add]
          rfl
        exact hnext
      · obtain ⟨hepoch, hle⟩ := h.then_ x hx
        exact ⟨hepoch, Nat.le_succ_of_le hle⟩
    · have hsame : (s.queue.perform w).epoch = s.queue.epoch := by
        cases w with
        | incrementEpoch => exact absurd rfl hw
        | _ => rfl
      refine ⟨?_, ?_⟩
      · simpa only [if_neg hw] using hsame.trans h.now
      · simpa only [if_neg hw] using h.then_
  | _ => exact ⟨h.now, h.then_⟩

theorem EpochCounts.current {x : EpochSample} (h : s.EpochCounts) (hx : x ∈ s.samples)
    (same : x.epoch = s.queue.epoch) (timely : s.changes < x.changes + 2 ^ 32) :
    x.changes = s.changes := by
  obtain ⟨hepoch, hle⟩ := h.then_ x hx
  have hnat : (UInt32.ofNat x.changes).toNat = (UInt32.ofNat s.changes).toNat := by
    rw [← hepoch, same, h.now]
  rw [UInt32.toNat_ofNat', UInt32.toNat_ofNat'] at hnat
  omega

/-- While nobody holds the mutex, the queues are as the last holder left them. -/
theorem consistent_free (free : s.holder = []) :
    Consistent s.settled s.settledChanges s ↔ Consistent s.queue s.changes s := by
  rw [settled, settledChanges, free]
  rfl

theorem lane_took {l l' : SessionLog} {log : Bool} {frame : List UInt8}
    (h : frame ∈ (l.lane log).took) (control : l'.control.took = l.control.took)
    (logs : l'.logs.took = l.logs.took) : frame ∈ (l'.lane log).took := by
  cases log with
  | false => exact control ▸ h
  | true => exact logs ▸ h

/-- A section that closes the session. -/
theorem Consistent.close {q' : PacketQueue} {n' : ℕ} (h : Consistent q n s)
    (dead : q'.dead = true) (empty : q'.ringBuffer = [] ∧ q'.txRing = [] ∧ q'.logRing = [])
    (linked : q'.linkSerial ≠ q'.acceptedLinkSerial → 0 < t.current.linkUps)
    (busy : q'.txBusy = false → t.txTask = .idle)
    (inFlight : ∀ log frame, t.txTask = .sending log frame → frame ∈ (t.current.lane log).took)
    (borrowed : q'.rxBorrowed = t.borrowed.length)
    (sound : t.current.Sound) (past : t.past = s.past) : Consistent q' n' t where
  closed _ := empty
  packets hlive := absurd (dead.symm.trans hlive) (by simp)
  control hlive := absurd (dead.symm.trans hlive) (by simp)
  logs hlive := absurd (dead.symm.trans hlive) (by simp)
  fresh hlive := absurd (dead.symm.trans hlive) (by simp)
  linked := linked
  busy := busy
  inFlight := inFlight
  borrowed := borrowed
  sound := sound
  past := past ▸ h.past

theorem Consistent.step (h : Consistent s.settled s.settledChanges s) (counts : s.EpochCounts)
    (timely : s.Timely a) (hstep : s.step a = some t) :
    Consistent t.settled t.settledChanges t := by
  have hmoved := step_moved hstep
  cases hmoved with
  | refused => exact h
  | physicalLink => exact { h with }
  | sampled =>
    refine { h with fresh := fun hlive x hx hn => ?_ }
    obtain rfl | hx := List.mem_cons.mp hx
    · rfl
    · exact h.fresh hlive x hx hn
  | written held =>
    obtain ⟨hq, hn⟩ := settled_perform held _ rfl
    rw [hq, hn]
    exact { h with }
  | @linkChanged up free =>
    have h := (consistent_free free).mp h
    cases up with
    | false =>
      exact h.close rfl ⟨rfl, rfl, rfl⟩ h.linked h.busy h.inFlight h.borrowed { h.sound with } rfl
    | true =>
      exact h.close rfl ⟨rfl, rfl, rfl⟩ (fun _ => Nat.succ_pos _) h.busy h.inFlight h.borrowed
        { h.sound with } rfl
  | begun free may =>
    -- the new session starts with empty ledgers, and nothing sampled before it names it
    have h := (consistent_free free).mp h
    have hlinked : s.queue.linkSerial ≠ s.queue.acceptedLinkSerial := by
      simp only [begins, PacketQueue.mayBegin, Bool.and_eq_true, bne_iff_ne] at may
      exact may.1.1.2
    refine {
      closed := fun hdead => absurd (show false = true from hdead) (by simp)
      packets := fun _ => Ledger.waits_nil
      control := fun _ => Ledger.waits_nil
      logs := fun _ => Ledger.waits_nil
      fresh := fun _ x hx hn => ?_
      linked := fun hne => absurd rfl hne
      busy := h.busy
      inFlight := fun log frame hsending => ?_
      borrowed := h.borrowed
      sound := sound_start _
      past := fun log hlog => ?_ }
    · -- the epoch changes once while the session is accepted
      have hnew : x.changes = s.changes + 1 := hn
      have hle := (counts.then_ x hx).2
      omega
    · have hidle : s.queue.txBusy = false := by
        simp only [begins, PacketQueue.mayBegin, Bool.and_eq_true, Bool.not_eq_true'] at may
        exact may.1.2
      exact absurd ((h.busy hidle).symm.trans hsending) (by simp)
    · obtain rfl | hlog := List.mem_cons.mp hlog
      · exact ⟨h.sound, h.linked hlinked⟩
      · exact h.past log hlog
  | @closing _ ws free closes =>
    have h := (consistent_free free).mp h
    simp only [List.mem_cons, List.not_mem_nil, or_false] at closes
    obtain rfl | rfl | rfl := closes
    · exact h.close rfl ⟨rfl, rfl, rfl⟩ h.linked h.busy h.inFlight h.borrowed h.sound rfl
    · exact { h with }
    · exact h.close rfl ⟨rfl, rfl, rfl⟩ h.linked h.busy h.inFlight h.borrowed h.sound rfl
  | @queued data received room free opened sampled epoch valid version =>
    -- the sample names the session of the accepted epoch, so the packet joins its ledger
    have h := (consistent_free free).mp h
    have hlive : s.queue.dead = false := (isOpen_iff.mp opened).1
    have hwaits := (h.packets hlive).add data
    have hsession : received.session = s.current.number :=
      h.fresh hlive received sampled (counts.current sampled epoch timely)
    refine (consistent_free (by exact free)).mpr { h with
      closed := fun hdead => absurd (hlive.symm.trans hdead) (by simp)
      packets := fun _ => hwaits
      sound := { h.sound with
        packets := hwaits.inOrder
        valid := fun d hd => ?_
        counted := ?_
        sampled := fun x hx => ?_ } }
    · obtain hd | hd := List.mem_append.mp hd
      · exact h.sound.valid d hd
      · rw [List.mem_singleton.mp hd]
        exact valid
    · simp only [Ledger.add, List.length_append, List.length_singleton, h.sound.counted]
    · obtain hx | hx := List.mem_append.mp hx
      · exact h.sound.sampled x hx
      · rw [List.mem_singleton.mp hx]
        exact hsession
  | @read packet packets free opened waiting =>
    have h := (consistent_free free).mp h
    have hlive : s.queue.dead = false := (isOpen_iff.mp opened).1
    have hwaits : (s.current.packets.remove packet).Waits packets := by
      apply Ledger.Waits.remove
      rw [← waiting]
      exact h.packets hlive
    exact (consistent_free (by exact free)).mpr { h with
      closed := fun hdead => absurd (hlive.symm.trans hdead) (by simp)
      packets := fun _ => hwaits
      borrowed := congrArg (· + 1) h.borrowed
      sound := { h.sound with packets := hwaits.inOrder } }
  | @ended buffer free borrowed =>
    have h := (consistent_free free).mp h
    have hlength := List.length_erase_of_mem borrowed
    exact (consistent_free (by exact free)).mpr
      { h with borrowed := (congrArg (· - 1) h.borrowed).trans hlength.symm }
  | @enqueuedLog message room free opened =>
    have h := (consistent_free free).mp h
    have hlive : s.queue.dead = false := (isOpen_iff.mp opened).1
    have hwaits := (h.logs hlive).add message
    exact (consistent_free (by exact free)).mpr { h with
      closed := fun hdead => absurd (hlive.symm.trans hdead) (by simp)
      logs := fun _ => hwaits
      inFlight := fun log frame hsending => lane_took (h.inFlight log frame hsending) rfl rfl
      sound := { h.sound with logs := hwaits.inOrder } }
  | @enqueuedControl message room free opened =>
    have h := (consistent_free free).mp h
    have hlive : s.queue.dead = false := (isOpen_iff.mp opened).1
    have hwaits := (h.control hlive).add message
    exact (consistent_free (by exact free)).mpr { h with
      closed := fun hdead => absurd (hlive.symm.trans hdead) (by simp)
      control := fun _ => hwaits
      inFlight := fun log frame hsending => lane_took (h.inFlight log frame hsending) rfl rfl
      sound := { h.sound with control := hwaits.inOrder } }
  | @sendsControl frame frames free opened idle waiting =>
    have h := (consistent_free free).mp h
    have hlive : s.queue.dead = false := (isOpen_iff.mp opened).1
    have hwaits : (s.current.control.remove frame).Waits frames := by
      apply Ledger.Waits.remove
      rw [← waiting]
      exact h.control hlive
    exact (consistent_free (by exact free)).mpr { h with
      closed := fun hdead => absurd (hlive.symm.trans hdead) (by simp)
      control := fun _ => hwaits
      busy := fun hidle => absurd (show true = false from hidle) (by simp)
      inFlight := fun log f hsending => by
        obtain ⟨rfl, rfl⟩ := TxTask.sending.inj hsending
        exact List.mem_append_right _ List.mem_cons_self
      sound := { h.sound with control := hwaits.inOrder } }
  | @sendsLog frame frames free opened idle control waiting =>
    have h := (consistent_free free).mp h
    have hlive : s.queue.dead = false := (isOpen_iff.mp opened).1
    have hwaits : (s.current.logs.remove frame).Waits frames := by
      apply Ledger.Waits.remove
      rw [← waiting]
      exact h.logs hlive
    exact (consistent_free (by exact free)).mpr { h with
      closed := fun hdead => absurd (hlive.symm.trans hdead) (by simp)
      logs := fun _ => hwaits
      busy := fun hidle => absurd (show true = false from hidle) (by simp)
      inFlight := fun log f hsending => by
        obtain ⟨rfl, rfl⟩ := TxTask.sending.inj hsending
        exact List.mem_append_right _ List.mem_cons_self
      sound := { h.sound with logs := hwaits.inOrder } }
  | frameSent task =>
    exact { h with
      busy := fun hidle => absurd ((h.busy hidle).symm.trans task) (by simp)
      inFlight := fun log frame hsending => absurd hsending (by simp) }
  | @finished sent free task =>
    have h := (consistent_free free).mp h
    cases sent with
    | false =>
      exact h.close rfl ⟨rfl, rfl, rfl⟩ h.linked (fun _ => rfl)
        (fun log frame hsending => absurd hsending (by simp)) h.borrowed h.sound rfl
    | true =>
      exact { h with
        busy := fun _ => rfl
        inFlight := fun log frame hsending => absurd hsending (by simp) }

theorem Interleaving.invariant (h : Interleaving s) :
    Consistent s.settled s.settledChanges s ∧ s.EpochCounts := by
  induction h with
  | start =>
    refine ⟨?_, ⟨rfl, fun x hx => absurd hx (by simp)⟩⟩
    exact {
      closed := fun _ => ⟨rfl, rfl, rfl⟩
      packets := fun _ => Ledger.waits_nil
      control := fun _ => Ledger.waits_nil
      logs := fun _ => Ledger.waits_nil
      fresh := fun _ x hx => absurd hx (by simp)
      linked := fun hne => absurd rfl hne
      busy := fun _ => rfl
      inFlight := fun _ _ hsending => absurd hsending (by simp)
      borrowed := rfl
      sound := sound_start 0
      past := fun log hlog => absurd hlog (by simp) }
  | step _ timely taken ih => exact ⟨ih.1.step ih.2 timely taken, ih.2.step taken⟩

theorem changes_le (hstep : s.step a = some t) : t.changes ≤ s.changes + 1 := by
  have hmoved := step_moved hstep
  cases hmoved with
  | @written w ws held =>
    simp only
    split
    · exact le_rfl
    · exact Nat.le_succ _
  | _ => exact Nat.le_succ _

/-- In a run of fewer than 2^32 steps every delivery is timely. -/
theorem Interleaving.play {as : List QueueStep} (h : Interleaving s)
    (hshort : s.changes + as.length < 2 ^ 32) (hplay : s.play as = some t) : Interleaving t := by
  induction as generalizing s with
  | nil =>
    obtain rfl := Option.some.inj hplay
    exact h
  | cons a as ih =>
    obtain ⟨u, hstep, hrest⟩ := Option.bind_eq_some_iff.mp hplay
    rw [List.length_cons] at hshort
    have hle := changes_le hstep
    have htimely : s.Timely a := by
      cases a with
      | deliverPacket data received room =>
        have hnow : s.changes < received.changes + 2 ^ 32 := by omega
        exact hnow
      | _ => trivial
    exact ih (h.step htimely hstep) (by omega) hrest

/-- Nothing crosses from one session to the next. In every session the packets read are the first
ones queued, in order, and each was delivered with an epoch sampled in that session; the frames
taken for sending are the first ones enqueued in it, and the one in flight is of the current
session. A session begins only after a `link_changed(true)` since the last one began, with no frame
in flight and no buffer borrowed. A valid packet of an open session is queued or closes it. -/
theorem no_frame_crosses (h : Interleaving s) :
    (∀ log ∈ s.current :: s.past, log.Sound) ∧ (∀ log ∈ s.past, 0 < log.linkUps) ∧
    (∀ log frame, s.txTask = .sending log frame → frame ∈ (s.current.lane log).put) ∧
    (∀ t, s.step .beginSession = some t → t.current.number ≠ s.current.number →
      s.txTask = .idle ∧ s.borrowed = []) ∧
    ∀ data received room t, validPacket data = true → s.isOpen = true →
      received.epoch = s.queue.epoch → s.step (.deliverPacket data received room) = some t →
      t.current.packets.put = s.current.packets.put ++ [data] ∨ t.holder = closeLocked := by
  obtain ⟨consistent, -⟩ := h.invariant
  refine ⟨?_, fun log hlog => (consistent.past log hlog).2, ?_, ?_, ?_⟩
  · intro log hlog
    obtain rfl | hlog := List.mem_cons.mp hlog
    · exact consistent.sound
    · exact (consistent.past log hlog).1
  · intro log frame hsending
    have htook := consistent.inFlight log frame hsending
    have horder : (s.current.lane log).InOrder := by
      cases log with
      | false => exact consistent.sound.control
      | true => exact consistent.sound.logs
    exact horder.subset htook
  · intro t hstep hnumber
    obtain ⟨free, rfl⟩ := lock_some.mp hstep
    have hmay : s.begins = true := by
      by_contra hnot
      rw [beginSession, if_neg hnot] at hnumber
      exact hnumber rfl
    have hsettled := (consistent_free free).mp consistent
    simp only [begins, PacketQueue.mayBegin, Bool.and_eq_true, Bool.not_eq_true',
      beq_iff_eq] at hmay
    refine ⟨hsettled.busy hmay.1.2, List.length_eq_zero_iff.mp ?_⟩
    exact hsettled.borrowed.symm.trans hmay.2
  · intro data received room t hvalid hopen hepoch hstep
    rw [QueueSystem.step] at hstep
    split at hstep
    · obtain ⟨free, rfl⟩ := lock_some.mp hstep
      have hcurrent : ¬((!s.isOpen || received.epoch != s.queue.epoch) = true) := by
        simp [hopen, hepoch]
      rw [deliverPacket, if_neg hcurrent]
      split
      · exact .inr rfl
      · exact .inl rfl
    · exact absurd hstep (by simp)

/-- A link comes up, a session begins, and a request arrives and is read. -/
def servesRequest (packet : List UInt8) : List QueueStep :=
  .linkChanged true :: List.replicate 8 .write ++
    (.physicalLink true :: .beginSession :: List.replicate 9 .write ++
      [.receiveEpoch, .deliverPacket packet ⟨2, 2, 1⟩ true, .startRead])

def getStatePacket : List UInt8 := [1, 1, 3, 0, 1, 0, 0, 0, 136, 193, 215, 49]

theorem serves_request : ∃ s, ({} : QueueSystem).play (servesRequest getStatePacket) = some s ∧
    s.current.packets.took = [getStatePacket] ∧
    ∀ log ∈ s.current :: s.past, log.Sound := by
  have hplay : (({} : QueueSystem).play (servesRequest getStatePacket)).map
      (·.current.packets.took) = some [getStatePacket] := by decide +kernel
  obtain ⟨s, hs, htook⟩ := Option.map_eq_some_iff.mp hplay
  have hrun : Interleaving s := Interleaving.start.play (by decide) hs
  exact ⟨s, hs, htook, (no_frame_crosses hrun).1⟩

end QueueSystem
end SidpClient
