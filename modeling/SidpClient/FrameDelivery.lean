import SidpClient.LinkLatch
import SidpClient.SessionBoundaries

/-! Which of the frames a session accepts reach the driver, and in which order. -/
namespace SidpClient
open Fifo

/-- A frame that went through `deliver_tx_frame`, with the session it was accepted in and what
`deliver_tx_frame` returned. -/
structure Transmission where
  session : ℕ
  log : Bool
  frame : List UInt8
  sent : Bool
deriving DecidableEq

/-- The frames of a session and a kind that went through `deliver_tx_frame`. -/
def transmitted (ts : List Transmission) (session : ℕ) (log : Bool) : List (List UInt8) :=
  (ts.filter fun x => x.session == session && x.log == log).map (·.frame)

/-- The frame of a kind that `deliver_tx_frame` has. -/
def TxTask.carries (log : Bool) : TxTask → List (List UInt8)
  | .sending l frame => if l = log then [frame] else []
  | _ => []

/-- What `write_message`, `write_message_log` and `flush_write` return. -/
inductive WriteResult where
  | ok | invalidArg | invalidSize | invalidState | noMem | timeout
deriving DecidableEq

namespace QueueSystem

/-- What `write_message` and `write_message_log` return. -/
def enqueueResult (s : QueueSystem) (message : List UInt8) (log room : Bool) : WriteResult :=
  if message.length < headerSize then .invalidArg
  else if message.length > (if log then maxLogFrameSize else maxFrameSize) then .invalidSize
  else if log && (MsgHeader.parse message).kind != MsgKind.logStream then .invalidArg
  else if !s.isOpen then .invalidState
  else if !room then .noMem
  else .ok

/-- The frames that come back from `deliver_tx_frame` in a step. -/
def transmissions (s : QueueSystem) : QueueStep → List Transmission
  | .frameSent sent => match s.txTask with
    | .sending log frame => [⟨s.current.number, log, frame, sent⟩]
    | _ => []
  | _ => []

/-- The frames that come back from `deliver_tx_frame` in a run. -/
def transmissionsOf (s : QueueSystem) : List QueueStep → List Transmission
  | [] => []
  | a :: as => s.transmissions a ++ match s.step a with
    | some t => t.transmissionsOf as
    | none => []

/-- What holds at every moment of a run, with `ts` its transmissions and `q` the queues as the mutex
holder will leave them. -/
structure FramesKept (ts : List Transmission) (q : PacketQueue) (s : QueueSystem) : Prop where
  closed : q.dead = true → q.txRing = [] ∧ q.logRing = []
  control : q.dead = false → s.current.control.Waits q.txRing
  logs : q.dead = false → s.current.logs.Waits q.logRing
  pending : q.txPending = q.txRing.length + q.logRing.length
  busy : q.txBusy = false → s.txTask = .idle
  inOrder : ∀ l ∈ s.current :: s.past, ∀ log, (l.lane log).InOrder
  carried : ∀ log, (s.current.lane log).took =
    transmitted ts s.current.number log ++ s.txTask.carries log
  numbered : ∀ x ∈ ts, x.session ≤ s.current.number
  sent : q.dead = false → s.txTask ≠ .returned false →
    ∀ x ∈ ts, x.session = s.current.number → x.sent = true

variable {s t : QueueSystem} {a : QueueStep} {q q' : PacketQueue} {ts : List Transmission}

theorem settled_free (free : s.holder = []) : s.settled = s.queue := by
  rw [settled, free]
  rfl

theorem transmitted_none {n : ℕ} (h : ∀ x ∈ ts, x.session < n) (log : Bool) :
    transmitted ts n log = [] := by
  rw [transmitted, List.map_eq_nil_iff, List.filter_eq_nil_iff]
  intro x hx hmatch
  have hlt := h x hx
  simp only [Bool.and_eq_true, beq_iff_eq] at hmatch
  omega

theorem transmitted_snoc (x : Transmission) (n : ℕ) (log : Bool) :
    transmitted (ts ++ [x]) n log =
      transmitted ts n log ++ if x.session = n ∧ x.log = log then [x.frame] else [] := by
  rw [transmitted, transmitted, List.filter_append, List.map_append]
  congr 1
  by_cases hmatch : x.session = n ∧ x.log = log
  · rw [if_pos hmatch]
    simp [hmatch]
  · rw [if_neg hmatch, List.map_eq_nil_iff, List.filter_eq_nil_iff]
    simpa using hmatch

/-- A section that closes the session. -/
theorem FramesKept.close (h : FramesKept ts q s) (dead : q'.dead = true)
    (empty : q'.txRing = [] ∧ q'.logRing = []) (pending : q'.txPending = 0)
    (busy : q'.txBusy = false → t.txTask = .idle)
    (carries : ∀ log, t.txTask.carries log = s.txTask.carries log)
    (control : t.current.control = s.current.control) (logs : t.current.logs = s.current.logs)
    (number : t.current.number = s.current.number) (past : t.past = s.past) :
    FramesKept ts q' t := by
  have hlane : ∀ log, t.current.lane log = s.current.lane log := by
    intro log
    cases log with
    | false => exact control
    | true => exact logs
  have hlive : q'.dead ≠ false := by simp [dead]
  refine {
    closed := fun _ => empty
    control := fun hopen => absurd hopen hlive
    logs := fun hopen => absurd hopen hlive
    pending := ?_
    busy := busy
    inOrder := fun l hl log => ?_
    carried := fun log => ?_
    numbered := fun x hx => number ▸ h.numbered x hx
    sent := fun hopen => absurd hopen hlive }
  · rw [pending, empty.1, empty.2]
    rfl
  · obtain rfl | hl := List.mem_cons.mp hl
    · rw [hlane]
      exact h.inOrder s.current List.mem_cons_self log
    · exact h.inOrder l (List.mem_cons_of_mem _ (past ▸ hl)) log
  · rw [hlane, number, carries]
    exact h.carried log

/-- A section of an open session that puts a frame into a queue or takes one out. -/
theorem FramesKept.exchange (h : FramesKept ts q s) (live : q.dead = false) (dead : q'.dead = false)
    (control : t.current.control.Waits q'.txRing) (logs : t.current.logs.Waits q'.logRing)
    (pending : q'.txPending = q'.txRing.length + q'.logRing.length)
    (busy : q'.txBusy = false → t.txTask = .idle)
    (carried : ∀ log, (t.current.lane log).took =
      transmitted ts s.current.number log ++ t.txTask.carries log)
    (returned : s.txTask = .returned false → t.txTask = .returned false)
    (number : t.current.number = s.current.number) (past : t.past = s.past) :
    FramesKept ts q' t := by
  refine {
    closed := fun hdead => absurd (dead.symm.trans hdead) (by simp)
    control := fun _ => control
    logs := fun _ => logs
    pending := pending
    busy := busy
    inOrder := fun l hl log => ?_
    carried := fun log => ?_
    numbered := fun x hx => number ▸ h.numbered x hx
    sent := fun _ _ x hx hn => ?_ }
  · obtain rfl | hl := List.mem_cons.mp hl
    · cases log with
      | false => exact control.inOrder
      | true => exact logs.inOrder
    · exact h.inOrder l (List.mem_cons_of_mem _ (past ▸ hl)) log
  · rw [number]
    exact carried log
  · rename_i hreturned
    apply h.sent live (fun hs => hreturned (returned hs)) x hx
    rw [hn, number]

/-- A section that leaves the frames alone. -/
theorem FramesKept.keep (h : FramesKept ts q s) (dead : q'.dead = q.dead)
    (txRing : q'.txRing = q.txRing) (logRing : q'.logRing = q.logRing)
    (pending : q'.txPending = q.txPending) (busy : q'.txBusy = q.txBusy)
    (task : t.txTask = s.txTask) (control : t.current.control = s.current.control)
    (logs : t.current.logs = s.current.logs) (number : t.current.number = s.current.number)
    (past : t.past = s.past) : FramesKept ts q' t := by
  have hlane : ∀ log, t.current.lane log = s.current.lane log := by
    intro log
    cases log with
    | false => exact control
    | true => exact logs
  obtain ⟨hclosed, hcontrol, hlogs, hpending, hbusy, hinOrder, hcarried, hnumbered, hsent⟩ := h
  refine ⟨?_, ?_, ?_, ?_, ?_, fun l hl log => ?_, fun log => ?_, ?_, ?_⟩
  · rwa [dead, txRing, logRing]
  · rwa [dead, control, txRing]
  · rwa [dead, logs, logRing]
  · rwa [pending, txRing, logRing]
  · rwa [busy, task]
  · obtain rfl | hl := List.mem_cons.mp hl
    · rw [hlane]
      exact hinOrder s.current List.mem_cons_self log
    · exact hinOrder l (List.mem_cons_of_mem _ (past ▸ hl)) log
  · rw [hlane, number, task]
    exact hcarried log
  · rwa [number]
  · rwa [dead, task, number]

theorem FramesKept.carried_idle (h : FramesKept ts q s) (idle : s.txTask = .idle) (log : Bool) :
    (s.current.lane log).took = transmitted ts s.current.number log := by
  rw [h.carried log, idle]
  exact List.append_nil _

/-- Every step but the return of `deliver_tx_frame`. -/
theorem FramesKept.moved (h : FramesKept ts s.settled s) (hmoved : Moved s a t)
    (silent : ∀ sent, a ≠ .frameSent sent) : FramesKept ts t.settled t := by
  cases hmoved with
  | refused => exact h
  | physicalLink => exact { h with }
  | sampled => exact { h with }
  | written held =>
    obtain ⟨hq, -⟩ := settled_perform held _ rfl
    rw [hq]
    exact { h with }
  | @linkChanged up free =>
    rw [settled_free free] at h
    cases up <;> exact h.close rfl ⟨rfl, rfl⟩ rfl h.busy (fun _ => rfl) rfl rfl rfl rfl
  | begun free may =>
    rw [settled_free free] at h
    have hidle : s.queue.txBusy = false := by
      simp only [begins, PacketQueue.mayBegin, Bool.and_eq_true, Bool.not_eq_true'] at may
      exact may.1.2
    -- no transmission bears the new session's number yet
    have hfresh : ∀ x ∈ ts, x.session < s.current.number + 1 := by
      intro x hx
      have hle := h.numbered x hx
      omega
    refine {
      closed := fun _ => ⟨rfl, rfl⟩
      control := fun _ => Ledger.waits_nil
      logs := fun _ => Ledger.waits_nil
      pending := rfl
      busy := h.busy
      inOrder := fun l hl log => ?_
      carried := fun log => ?_
      numbered := fun x hx => (hfresh x hx).le
      sent := fun _ _ x hx hn => absurd hn (hfresh x hx).ne }
    · obtain rfl | hl := List.mem_cons.mp hl
      · cases log <;> exact Ledger.inOrder_nil
      · exact h.inOrder l hl log
    · have hnone := transmitted_none hfresh log
      rw [hnone, h.busy hidle]
      cases log <;> rfl
  | @closing _ ws free closes =>
    rw [settled_free free] at h
    simp only [List.mem_cons, List.not_mem_nil, or_false] at closes
    obtain rfl | rfl | rfl := closes
    · exact h.close rfl ⟨rfl, rfl⟩ rfl h.busy (fun _ => rfl) rfl rfl rfl rfl
    · exact { h with }
    · exact h.close rfl ⟨rfl, rfl⟩ rfl h.busy (fun _ => rfl) rfl rfl rfl rfl
  | queued free | read free | ended free =>
    -- the receiving side owns none of the frames
    rw [settled_free free] at h
    rw [settled_free (by exact free)]
    exact h.keep rfl rfl rfl rfl rfl rfl rfl rfl rfl rfl
  | @enqueuedLog message room free opened =>
    rw [settled_free free] at h
    rw [settled_free (by exact free)]
    have hlive : s.queue.dead = false := (isOpen_iff.mp opened).1
    refine h.exchange hlive hlive (h.control hlive) ((h.logs hlive).add message) ?_ h.busy
      (fun log => ?_) id rfl rfl
    · have hpending := h.pending
      simp only [List.length_append, List.length_singleton]
      omega
    · cases log with
      | false => exact h.carried false
      | true => exact h.carried true
  | @enqueuedControl message room free opened =>
    rw [settled_free free] at h
    rw [settled_free (by exact free)]
    have hlive : s.queue.dead = false := (isOpen_iff.mp opened).1
    refine h.exchange hlive hlive ((h.control hlive).add message) (h.logs hlive) ?_ h.busy
      (fun log => ?_) id rfl rfl
    · have hpending := h.pending
      simp only [List.length_append, List.length_singleton]
      omega
    · cases log with
      | false => exact h.carried false
      | true => exact h.carried true
  | @sendsControl frame frames free opened idle waiting =>
    -- the frame leaves its ring for the task: it is carried from here on
    rw [settled_free free] at h
    rw [settled_free (by exact free)]
    have hlive : s.queue.dead = false := (isOpen_iff.mp opened).1
    have hwaits := h.control hlive
    rw [waiting] at hwaits
    refine h.exchange hlive hlive hwaits.remove (h.logs hlive) ?_
      (fun hidle => absurd hidle (by simp)) (fun log => ?_) (fun hs => ?_) rfl rfl
    · have hpending := h.pending
      rw [waiting, List.length_cons] at hpending
      change s.queue.txPending - 1 = frames.length + s.queue.logRing.length
      omega
    · have hbefore := h.carried_idle idle log
      cases log with
      | false => exact congrArg (· ++ [frame]) hbefore
      | true => exact hbefore.trans (List.append_nil _).symm
    · rw [idle] at hs
      exact absurd hs (by simp)
  | @sendsLog frame frames free opened idle control waiting =>
    rw [settled_free free] at h
    rw [settled_free (by exact free)]
    have hlive : s.queue.dead = false := (isOpen_iff.mp opened).1
    have hwaits := h.logs hlive
    rw [waiting] at hwaits
    refine h.exchange hlive hlive (h.control hlive) hwaits.remove ?_
      (fun hidle => absurd hidle (by simp)) (fun log => ?_) (fun hs => ?_) rfl rfl
    · have hpending := h.pending
      rw [waiting, List.length_cons] at hpending
      change s.queue.txPending - 1 = s.queue.txRing.length + frames.length
      omega
    · have hbefore := h.carried_idle idle log
      cases log with
      | false => exact hbefore.trans (List.append_nil _).symm
      | true => exact congrArg (· ++ [frame]) hbefore
    · rw [idle] at hs
      exact absurd hs (by simp)
  | frameSent => exact absurd rfl (silent _)
  | @finished sent free task =>
    rw [settled_free free] at h
    cases sent with
    | false =>
      refine h.close rfl ⟨rfl, rfl⟩ rfl (fun _ => rfl) (fun log => ?_) rfl rfl rfl rfl
      rw [task]
      rfl
    | true =>
      have hidle : ∀ log, s.txTask.carries log = TxTask.idle.carries log := by
        intro log
        rw [task]
        rfl
      exact { h with
        busy := fun _ => rfl
        carried := fun log => (h.carried log).trans (congrArg _ (hidle log))
        sent := fun hlive _ => h.sent hlive (by simp [task]) }

/-- The return of `deliver_tx_frame`. -/
theorem FramesKept.returned {sent : Bool} (h : FramesKept ts s.settled s)
    (hstep : s.step (.frameSent sent) = some t) :
    FramesKept (ts ++ s.transmissions (.frameSent sent)) t.settled t := by
  rw [QueueSystem.step] at hstep
  split at hstep
  · rename_i log frame task
    obtain rfl := Option.some.inj hstep
    have hnew : s.transmissions (.frameSent sent) = [⟨s.current.number, log, frame, sent⟩] := by
      rw [transmissions, task]
    rw [hnew]
    refine { h with
      busy := fun hidle => absurd ((h.busy hidle).symm.trans task) (by simp)
      carried := fun l => ?_
      numbered := fun x hx => ?_
      sent := fun hlive hnot x hx hn => ?_ }
    · rw [transmitted_snoc, h.carried l, task, TxTask.carries]
      simp [TxTask.carries]
    · obtain hx | hx := List.mem_append.mp hx
      · exact h.numbered x hx
      · rw [List.mem_singleton.mp hx]
    · obtain hx | hx := List.mem_append.mp hx
      · exact h.sent hlive (by simp [task]) x hx hn
      · rw [List.mem_singleton.mp hx]
        cases sent with
        | true => rfl
        | false => exact absurd rfl hnot
  · exact absurd hstep (by simp)

theorem FramesKept.step (h : FramesKept ts s.settled s) (hstep : s.step a = some t) :
    FramesKept (ts ++ s.transmissions a) t.settled t := by
  by_cases hreturn : ∃ sent, a = .frameSent sent
  · obtain ⟨sent, rfl⟩ := hreturn
    exact h.returned hstep
  · have hnone : s.transmissions a = [] := by
      cases a with
      | frameSent sent => exact absurd ⟨sent, rfl⟩ hreturn
      | _ => rfl
    rw [hnone, List.append_nil]
    exact h.moved (step_moved hstep) fun sent ha => hreturn ⟨sent, ha⟩

theorem FramesKept.play {as : List QueueStep} (h : FramesKept ts s.settled s)
    (hplay : s.play as = some t) : FramesKept (ts ++ s.transmissionsOf as) t.settled t := by
  induction as generalizing s ts with
  | nil =>
    obtain rfl := Option.some.inj hplay
    rw [transmissionsOf, List.append_nil]
    exact h
  | cons a as ih =>
    obtain ⟨u, hstep, hrest⟩ := Option.bind_eq_some_iff.mp hplay
    have hlater := ih (h.step hstep) hrest
    rw [transmissionsOf, hstep, ← List.append_assoc]
    exact hlater

theorem framesKept_start : FramesKept [] ({} : QueueSystem).settled {} where
  closed _ := ⟨rfl, rfl⟩
  control _ := Ledger.waits_nil
  logs _ := Ledger.waits_nil
  pending := rfl
  busy _ := rfl
  inOrder l hl log := by
    rw [List.mem_singleton.mp hl]
    cases log <;> exact Ledger.inOrder_nil
  carried log := by cases log <;> rfl
  numbered x hx := absurd hx (by simp)
  sent _ _ x hx := absurd hx (by simp)

theorem framesKept {as : List QueueStep} (hplay : ({} : QueueSystem).play as = some s) :
    FramesKept (({} : QueueSystem).transmissionsOf as) s.settled s :=
  framesKept_start.play hplay

/-! How sessions follow each other. -/

/-- A step stays in the session, and adds to what it accepted and took, or begins the next one. -/
theorem moved_session (h : Moved s a t) :
    (t.current.number = s.current.number ∧ t.past = s.past ∧
      ∀ log, (s.current.lane log).put <+: (t.current.lane log).put) ∨
    (a = .beginSession ∧ s.begins = true ∧ t.current.number = s.current.number + 1 ∧
      t.past = s.current :: s.past) := by
  cases h with
  | begun free may => exact .inr ⟨rfl, may, rfl, rfl⟩
  | enqueuedLog =>
    refine .inl ⟨rfl, rfl, fun log => ?_⟩
    cases log with
    | false => exact List.prefix_rfl
    | true => exact List.prefix_append _ _
  | enqueuedControl =>
    refine .inl ⟨rfl, rfl, fun log => ?_⟩
    cases log with
    | false => exact List.prefix_append _ _
    | true => exact List.prefix_rfl
  | _ =>
    refine .inl ⟨rfl, rfl, fun log => ?_⟩
    cases log <;> exact List.prefix_rfl

/-- The step that begins a session. -/
def Replaces (s : QueueSystem) (as : List QueueStep) (before : List QueueStep) (u : QueueSystem) :
    Prop :=
  ∃ after, as = before ++ .beginSession :: after ∧ s.play before = some u ∧ u.begins = true ∧
    u.current.number = s.current.number

theorem play_session {as : List QueueStep} (hplay : s.play as = some t) :
    (t.current.number = s.current.number ∧ t.past = s.past ∧
      ∀ log, (s.current.lane log).put <+: (t.current.lane log).put) ∨
    (s.current.number < t.current.number ∧ ∃ before u, s.Replaces as before u) := by
  induction as generalizing s with
  | nil =>
    obtain rfl := Option.some.inj hplay
    exact .inl ⟨rfl, rfl, fun _ => List.prefix_rfl⟩
  | cons a as ih =>
    obtain ⟨u, hstep, hrest⟩ := Option.bind_eq_some_iff.mp hplay
    have hlater := ih hrest
    obtain ⟨hnumber, hpast, hput⟩ | ⟨rfl, hbegins, hnumber, -⟩ := moved_session (step_moved hstep)
    · obtain ⟨hnumber', hpast', hput'⟩ | ⟨hlt, before, v, after, hsplit, hbefore, hv, hvn⟩ := hlater
      · exact .inl ⟨hnumber'.trans hnumber, hpast'.trans hpast,
          fun log => (hput log).trans (hput' log)⟩
      · refine .inr ⟨hnumber ▸ hlt, a :: before, v, after, ?_, ?_, hv, hvn.trans hnumber⟩
        · rw [hsplit, List.cons_append]
        · exact Option.bind_eq_some_iff.mpr ⟨u, hstep, hbefore⟩
    · refine .inr ⟨?_, [], s, as, rfl, rfl, hbegins, rfl⟩
      obtain ⟨hnumber', -⟩ | ⟨hlt, -⟩ := hlater <;> omega

theorem lane_eq {l l' : SessionLog} (control : l'.control = l.control) (logs : l'.logs = l.logs)
    (log : Bool) : l'.lane log = l.lane log := by
  cases log with
  | false => exact control
  | true => exact logs

/-- A closed session stays as it is until the next one begins. -/
theorem closed_step (hdead : s.settled.dead = true) (hstep : s.step a = some t) :
    (t.settled.dead = true ∧ t.past = s.past ∧ ∀ log, t.current.lane log = s.current.lane log) ∨
    t.past = s.current :: s.past := by
  have hshut : s.holder = [] → s.isOpen = true → False := by
    intro free opened
    rw [settled_free free] at hdead
    exact absurd ((isOpen_iff.mp opened).1.symm.trans hdead) (by simp)
  have hmoved := step_moved hstep
  cases hmoved with
  | refused => exact .inl ⟨hdead, rfl, fun _ => rfl⟩
  | physicalLink => exact .inl ⟨hdead, rfl, fun _ => rfl⟩
  | sampled => exact .inl ⟨hdead, rfl, fun _ => rfl⟩
  | written held =>
    obtain ⟨hq, -⟩ := settled_perform held _ rfl
    exact .inl ⟨hq ▸ hdead, rfl, fun _ => rfl⟩
  | @linkChanged up free =>
    refine .inl ⟨?_, rfl, lane_eq rfl rfl⟩
    cases up <;> rfl
  | begun => exact .inr rfl
  | @closing _ ws free closes =>
    refine .inl ⟨?_, rfl, fun _ => rfl⟩
    rw [settled_free free] at hdead
    simp only [List.mem_cons, List.not_mem_nil, or_false] at closes
    obtain rfl | rfl | rfl := closes
    · rfl
    · exact hdead
    · rfl
  | queued free opened => exact (hshut free opened).elim
  | read free opened => exact (hshut free opened).elim
  | ended free =>
    rw [settled_free free] at hdead
    refine .inl ⟨?_, rfl, fun _ => rfl⟩
    rw [settled_free (by exact free)]
    exact hdead
  | enqueuedLog free opened => exact (hshut free opened).elim
  | enqueuedControl free opened => exact (hshut free opened).elim
  | sendsControl free opened => exact (hshut free opened).elim
  | sendsLog free opened => exact (hshut free opened).elim
  | frameSent => exact .inl ⟨hdead, rfl, fun _ => rfl⟩
  | @finished sent free =>
    refine .inl ⟨?_, rfl, fun _ => rfl⟩
    rw [settled_free free] at hdead
    cases sent with
    | false => rfl
    | true => exact hdead

theorem past_suffix {as : List QueueStep} (hplay : s.play as = some t) :
    s.past <:+ t.past := by
  induction as generalizing s with
  | nil =>
    obtain rfl := Option.some.inj hplay
    exact List.suffix_rfl
  | cons a as ih =>
    obtain ⟨u, hstep, hrest⟩ := Option.bind_eq_some_iff.mp hplay
    have hlater := ih hrest
    obtain ⟨-, hpast, -⟩ | ⟨-, -, -, hpast⟩ := moved_session (step_moved hstep)
    · exact hpast ▸ hlater
    · have hgrown : s.past <:+ u.past := hpast ▸ List.suffix_cons _ _
      exact hgrown.trans hlater

/-- Whatever comes after a close, the closed session has taken what it had taken. -/
theorem closed_play {later : List QueueStep} (hdead : s.settled.dead = true)
    (hplay : s.play later = some t) :
    ∃ l, l :: s.past <:+ t.current :: t.past ∧ ∀ log, l.lane log = s.current.lane log := by
  induction later generalizing s with
  | nil =>
    obtain rfl := Option.some.inj hplay
    exact ⟨s.current, List.suffix_rfl, fun _ => rfl⟩
  | cons a later ih =>
    obtain ⟨u, hstep, hrest⟩ := Option.bind_eq_some_iff.mp hplay
    obtain ⟨hstill, hpast, hlane⟩ | hpast := closed_step hdead hstep
    · obtain ⟨l, hsuffix, hl⟩ := ih hstill hrest
      exact ⟨l, hpast ▸ hsuffix, fun log => (hl log).trans (hlane log)⟩
    · refine ⟨s.current, ?_, fun _ => rfl⟩
      have hkept : s.current :: s.past <:+ t.past := hpast ▸ past_suffix hrest
      exact hkept.trans (List.suffix_cons _ _)

/-! What `enqueue` does with a frame. -/

/-- `enqueue` refuses a frame that is not valid. -/
theorem enqueueResult_invalid {message : List UInt8} {log : Bool} (room : Bool)
    (h : validFrame log message = false) :
    s.enqueueResult message log room = .invalidArg ∨
      s.enqueueResult message log room = .invalidSize := by
  rw [enqueueResult]
  by_cases hshort : message.length < headerSize
  · exact .inl (if_pos hshort)
  · rw [if_neg hshort]
    by_cases hlong : message.length > if log then maxLogFrameSize else maxFrameSize
    · exact .inr (if_pos hlong)
    · rw [if_neg hlong]
      have hkind : (log && (MsgHeader.parse message).kind != MsgKind.logStream) = true := by
        rw [validFrame] at h
        simp_all
      exact .inl (if_pos hkind)

theorem enqueueResult_valid {message : List UInt8} {log : Bool} (room : Bool)
    (h : validFrame log message = true) : s.enqueueResult message log room =
      if !s.isOpen then .invalidState else if !room then .noMem else .ok := by
  simp only [validFrame, Bool.and_eq_true, decide_eq_true_eq, Bool.or_eq_true, Bool.not_eq_true',
    beq_iff_eq] at h
  obtain ⟨⟨hshort, hlong⟩, hkind⟩ := h
  rw [enqueueResult, if_neg (by omega), if_neg (by omega), if_neg]
  simp only [Bool.and_eq_true, bne_iff_ne, ne_eq, not_and, not_not]
  intro hlog
  exact hkind.resolve_left (by simp [hlog])

theorem enqueue_cases {message : List UInt8} {log room : Bool}
    (hstep : s.step (.enqueue message log room) = some t) :
    (s.enqueueResult message log room ∉ [WriteResult.ok, .noMem] ∧ t = s) ∨
    (s.enqueueResult message log room = .noMem ∧ s.holder = [] ∧
      t = { s with holder := refuseFrame log }) ∨
    (s.enqueueResult message log room = .ok ∧
      t.current.lane log = (s.current.lane log).add message ∧
      t.current.lane (!log) = s.current.lane (!log)) := by
  rw [QueueSystem.step] at hstep
  split at hstep
  · rename_i hvalid
    obtain ⟨free, rfl⟩ := lock_some.mp hstep
    rw [enqueueResult_valid room hvalid, QueueSystem.enqueue]
    split
    · exact .inl ⟨by simp, rfl⟩
    · split
      · exact .inr (.inl ⟨rfl, free, rfl⟩)
      · cases log with
        | false => exact .inr (.inr ⟨rfl, rfl, rfl⟩)
        | true => exact .inr (.inr ⟨rfl, rfl, rfl⟩)
  · rename_i hinvalid
    obtain rfl := Option.some.inj hstep
    refine .inl ⟨?_, rfl⟩
    obtain hr | hr := @enqueueResult_invalid s message log room (by simpa using hinvalid) <;>
      simp [hr]

/-- The step that accepts a frame. -/
theorem put_step (hstep : s.step a = some t) (same : t.current.number = s.current.number)
    (log : Bool) : (t.current.lane log).put = (s.current.lane log).put ∨
      ∃ message room, a = .enqueue message log room ∧
        s.enqueueResult message log room = .ok ∧
        t.current.lane log = (s.current.lane log).add message := by
  by_cases henqueue : ∃ message l room, a = .enqueue message l room
  · obtain ⟨message, l, room, rfl⟩ := henqueue
    obtain ⟨-, rfl⟩ | ⟨-, -, rfl⟩ | ⟨hok, hlane, hother⟩ := enqueue_cases hstep
    · exact .inl rfl
    · exact .inl rfl
    · by_cases hl : l = log
      · subst hl
        exact .inr ⟨message, room, rfl, hok, hlane⟩
      · have hnot : log = !l := by
          cases l <;> cases log <;> simp_all
        rw [hnot, hother]
        exact .inl rfl
  · have hmoved := step_moved hstep
    cases hmoved with
    | begun =>
      change s.current.number + 1 = s.current.number at same
      omega
    | enqueuedLog => exact absurd ⟨_, _, _, rfl⟩ henqueue
    | enqueuedControl => exact absurd ⟨_, _, _, rfl⟩ henqueue
    | _ => cases log <;> exact .inl rfl

/-- The step that takes a frame out of a queue. -/
theorem took_step (hstep : s.step a = some t) (same : t.current.number = s.current.number)
    (log : Bool) : (t.current.lane log).took = (s.current.lane log).took ∨
      ∃ frame, a = .serviceTx ∧ t.txTask = .sending log frame ∧
        t.current.lane log = (s.current.lane log).remove frame ∧ s.isOpen = true ∧
        s.holder = [] ∧ (log = true → s.queue.txRing = []) := by
  have hmoved := step_moved hstep
  cases hmoved with
  | begun =>
    change s.current.number + 1 = s.current.number at same
    omega
  | @sendsControl frame frames free opened =>
    cases log with
    | false => exact .inr ⟨frame, rfl, rfl, rfl, opened, free, fun hlog => absurd hlog (by simp)⟩
    | true => exact .inl rfl
  | @sendsLog frame frames free opened idle control =>
    cases log with
    | false => exact .inl rfl
    | true => exact .inr ⟨frame, rfl, rfl, rfl, opened, free, fun _ => control⟩
  | _ => cases log <;> exact .inl rfl

/-- In every session the control frames passed to `deliver_tx_frame` are the first of those
accepted, in order, and so are the log frames. A log frame is taken only while no accepted control
frame waits. A rejected log frame changes neither the queues nor whether the session is open. A
control frame that finds no room and a failed `deliver_tx_frame` close the session, and no frame
accepted before a close is taken after it. -/
theorem control_before_logs {as : List QueueStep} (run : ({} : QueueSystem).play as = some s) :
    (∀ l ∈ s.current :: s.past, l.control.InOrder ∧ l.logs.InOrder) ∧
    (∀ a log t, s.step a = some t → t.current.number = s.current.number →
      (t.current.lane log).put ≠ (s.current.lane log).put →
      ∃ message room, a = .enqueue message log room ∧ s.enqueueResult message log room = .ok) ∧
    (∀ message log room t, s.step (.enqueue message log room) = some t →
      s.enqueueResult message log room = .ok →
      t.current.lane log = (s.current.lane log).add message) ∧
    (∀ a log t, s.step a = some t → t.current.number = s.current.number →
      (t.current.lane log).took ≠ (s.current.lane log).took →
      (∃ frame, t.txTask = .sending log frame ∧
        t.current.lane log = (s.current.lane log).remove frame) ∧
      (log = true → s.current.control.took = s.current.control.put)) ∧
    (∀ message room t, s.step (.enqueue message true room) = some t →
      s.enqueueResult message true room ≠ .ok →
      t.current = s.current ∧ t.isOpen = s.isOpen ∧ t.settled.dead = s.settled.dead ∧
      t.settled.txRing = s.settled.txRing ∧ t.settled.logRing = s.settled.logRing) ∧
    (∀ message room t, s.step (.enqueue message false room) = some t →
      s.enqueueResult message false room ≠ .ok →
      t.current = s.current ∧ (s.enqueueResult message false room ≠ .noMem → t = s) ∧
      (s.enqueueResult message false room = .noMem → t.settled.dead = true)) ∧
    (∀ t, s.txTask = .returned false → s.step .serviceTxEnd = some t →
      t.current = s.current ∧ t.settled.dead = true) ∧
    (s.settled.dead = true → ∀ later u, s.play later = some u →
      ∃ l, l :: s.past <:+ u.current :: u.past ∧ ∀ log, l.lane log = s.current.lane log) := by
  have kept := framesKept run
  refine ⟨fun l hl => ⟨kept.inOrder l hl false, kept.inOrder l hl true⟩, ?_, ?_, ?_, ?_, ?_, ?_, ?_⟩
  · intro a log t hstep same hput
    obtain hsame | ⟨message, room, ha, hok, -⟩ := put_step hstep same log
    · exact absurd hsame hput
    · exact ⟨message, room, ha, hok⟩
  · intro message log room t hstep hok
    obtain ⟨hnot, -⟩ | ⟨hfull, -⟩ | ⟨-, hlane, -⟩ := enqueue_cases hstep
    · exact absurd (hok ▸ List.mem_cons_self) hnot
    · exact absurd (hok.symm.trans hfull) (by simp)
    · exact hlane
  · -- the task takes a log only when no control frame waits
    intro a log t hstep same htook
    obtain hsame | ⟨frame, -, htask, hlane, opened, free, hempty⟩ := took_step hstep same log
    · exact absurd hsame htook
    · refine ⟨⟨frame, htask, hlane⟩, fun hlog => ?_⟩
      rw [settled_free free] at kept
      have hwaits := kept.control (isOpen_iff.mp opened).1
      rw [hempty hlog, Ledger.Waits, List.append_nil] at hwaits
      exact hwaits
  · intro message room t hstep hrejected
    obtain ⟨-, rfl⟩ | ⟨-, free, rfl⟩ | ⟨hok, -⟩ := enqueue_cases hstep
    · exact ⟨rfl, rfl, rfl, rfl, rfl⟩
    · rw [settled_free free]
      exact ⟨rfl, rfl, rfl, rfl, rfl⟩
    · exact absurd hok hrejected
  · intro message room t hstep hrejected
    obtain ⟨hnot, rfl⟩ | ⟨hfull, free, rfl⟩ | ⟨hok, -⟩ := enqueue_cases hstep
    · refine ⟨rfl, fun _ => rfl, fun hfull => ?_⟩
      exact absurd (hfull ▸ List.mem_cons_of_mem _ List.mem_cons_self) hnot
    · exact ⟨rfl, fun hnot => absurd hfull hnot, fun _ => rfl⟩
    · exact absurd hok hrejected
  · intro t htask hstep
    rw [QueueSystem.step, htask] at hstep
    obtain ⟨free, rfl⟩ := lock_some.mp hstep
    exact ⟨rfl, rfl⟩
  · intro hdead later u hplay
    exact closed_play hdead hplay

/-- A link comes up and a session begins. -/
def opensSession : List QueueStep :=
  .linkChanged true :: List.replicate 8 .write ++
    (.physicalLink true :: .beginSession :: List.replicate 9 .write)

/-- A control frame of no bytes is rejected and the session stays open. -/
theorem short_frame_leaves_open : ¬∀ as s message room t, ({} : QueueSystem).play as = some s →
    s.isOpen = true → s.step (.enqueue message false room) = some t →
    s.enqueueResult message false room ≠ .ok → t.settled.dead = true := by
  intro closes
  have hclosed := closes opensSession _ [] true _ rfl (by decide) rfl (by decide)
  exact absurd hclosed (by decide)

def logPacket : List UInt8 := [1, 4, 1, 0, 0, 0, 0, 0, 0, 0, 0, 0]

/-- A log frame is accepted before a control frame, and the control frame is taken first. -/
def acceptsBoth : List QueueStep :=
  opensSession ++ [.enqueue logPacket true true, .enqueue getStatePacket false true, .serviceTx]

theorem both_sent : ∃ s, ({} : QueueSystem).play acceptsBoth = some s ∧
    s.current.logs.put = [logPacket] ∧ s.txTask = .sending false getStatePacket ∧
    ∀ l ∈ s.current :: s.past, l.control.InOrder ∧ l.logs.InOrder := by
  have hplay : (({} : QueueSystem).play acceptsBoth).map (fun s => (s.current.logs.put, s.txTask)) =
      some ([logPacket], .sending false getStatePacket) := by decide +kernel
  obtain ⟨s, hs, hboth⟩ := Option.map_eq_some_iff.mp hplay
  obtain ⟨hlog, htask⟩ := Prod.mk.inj hboth
  exact ⟨s, hs, hlog, htask, (control_before_logs hs).1⟩

end QueueSystem
end SidpClient
