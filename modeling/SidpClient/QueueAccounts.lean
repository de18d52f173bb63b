import SidpClient.FrameDelivery

/-! The counters of the packet queues against what they count. -/
namespace SidpClient
namespace QueueSystem

/-- The buffer that `start_read` returns in a step. -/
def returnedBuffers (s : QueueSystem) : QueueStep → List (List UInt8)
  | .startRead => if s.holder = [] ∧ s.isOpen then s.queue.ringBuffer.take 1 else []
  | _ => []

/-- The buffers that `start_read` returns in a run. -/
def returnedBuffersOf (s : QueueSystem) : List QueueStep → List (List UInt8)
  | [] => []
  | a :: as => s.returnedBuffers a ++ match s.step a with
    | some t => t.returnedBuffersOf as
    | none => []

end QueueSystem

/-- The buffer that `end_read` takes back in a step. -/
def QueueStep.endedBuffers : QueueStep → List (List UInt8)
  | .endRead buffer => [buffer]
  | _ => []

namespace QueueSystem

/-- The counters of `q` are exact: `tx_pending` for the frames in the rings, `rx_borrowed` for the
buffers a reader has, `tx_busy` for the frame the TX task has. -/
structure Accounts (q : PacketQueue) (s : QueueSystem) : Prop where
  pending : q.txPending = q.txRing.length + q.logRing.length
  borrowed : q.rxBorrowed = s.borrowed.length
  busy : q.txBusy = true ↔ s.txTask ≠ .idle

variable {s t : QueueSystem} {a : QueueStep} {q : PacketQueue} {as : List QueueStep}

theorem accounts_start : Accounts ({} : QueueSystem).settled {} where
  pending := rfl
  borrowed := rfl
  busy := by simp [settled]

theorem accounts_free (free : s.holder = []) : Accounts s.settled s ↔ Accounts s.queue s := by
  rw [settled_free free]

/-- A section that closes the session counts the discarded frames off, and no buffer. -/
theorem Accounts.close {ws : List QueueWrite} (h : Accounts s.queue s)
    (closes : ws ∈ [closeLocked, refuseFrame true, refuseFrame false]) :
    Accounts { s with holder := ws }.settled { s with holder := ws } := by
  simp only [List.mem_cons, List.not_mem_nil, or_false] at closes
  obtain rfl | rfl | rfl := closes
  · exact { h with pending := rfl }
  · exact { h with }
  · exact { h with pending := rfl }

/-- The second section of `service_tx` closes the session if the frame was not sent. -/
theorem Accounts.finish {sent : Bool} (h : Accounts s.queue s) :
    Accounts { s with holder := finishTx sent, txTask := .idle }.settled
      { s with holder := finishTx sent, txTask := .idle } := by
  have hidle : (false = true) ↔ TxTask.idle ≠ .idle := by simp
  cases sent with
  | true => exact { h with busy := hidle }
  | false => exact { h with pending := rfl, busy := hidle }

/-- A step keeps the counters exact, as the mutex holder will leave them. -/
theorem Accounts.step (h : Accounts s.settled s) (hstep : s.step a = some t) :
    Accounts t.settled t := by
  have hmoved := step_moved hstep
  cases hmoved with
  | refused => exact h
  | physicalLink => exact { h with }
  | sampled => exact { h with }
  | written held =>
    obtain ⟨hq, -⟩ := settled_perform held _ rfl
    rw [hq]
    exact { h with }
  | @linkChanged up free =>
    have h := (accounts_free free).mp h
    cases up <;> exact { h with pending := rfl }
  | begun free =>
    have h := (accounts_free free).mp h
    exact { h with pending := rfl }
  | closing free closes => exact ((accounts_free free).mp h).close closes
  | queued free =>
    have h := (accounts_free free).mp h
    apply (accounts_free (by exact free)).mpr
    exact { h with }
  | read free =>
    have h := (accounts_free free).mp h
    apply (accounts_free (by exact free)).mpr
    exact { h with borrowed := congrArg (· + 1) h.borrowed }
  | ended free borrowed =>
    have h := (accounts_free free).mp h
    apply (accounts_free (by exact free)).mpr
    have hlen := List.length_erase_of_mem borrowed
    exact { h with borrowed := (congrArg (· - 1) h.borrowed).trans hlen.symm }
  | enqueuedLog free | enqueuedControl free =>
    have h := (accounts_free free).mp h
    apply (accounts_free (by exact free)).mpr
    have hpending := h.pending
    refine { h with pending := ?_ }
    simp only [List.length_append, List.length_singleton]
    omega
  | @sendsControl frame frames free _ _ waiting =>
    have h := (accounts_free free).mp h
    apply (accounts_free (by exact free)).mpr
    have hpending := h.pending
    rw [waiting, List.length_cons] at hpending
    refine { h with pending := ?_, busy := by simp }
    change s.queue.txPending - 1 = frames.length + s.queue.logRing.length
    omega
  | @sendsLog frame frames free _ _ control waiting =>
    have h := (accounts_free free).mp h
    apply (accounts_free (by exact free)).mpr
    have hpending := h.pending
    rw [waiting, List.length_cons] at hpending
    refine { h with pending := ?_, busy := by simp }
    change s.queue.txPending - 1 = s.queue.txRing.length + frames.length
    omega
  | @frameSent log sent frame task =>
    have hbusy : s.settled.txBusy = true := h.busy.mpr (by rw [task]; simp)
    have hreturned : s.settled.txBusy = true ↔ TxTask.returned sent ≠ .idle := by simp [hbusy]
    exact { h with busy := hreturned }
  | finished free => exact ((accounts_free free).mp h).finish

theorem Accounts.play (h : Accounts s.settled s) (hplay : s.play as = some t) :
    Accounts t.settled t := by
  induction as generalizing s with
  | nil =>
    obtain rfl := Option.some.inj hplay
    exact h
  | cons a as ih =>
    obtain ⟨u, hstep, hrest⟩ := Option.bind_eq_some_iff.mp hplay
    exact ih (h.step hstep) hrest

theorem accounts {as : List QueueStep} (hplay : ({} : QueueSystem).play as = some s) :
    Accounts s.settled s :=
  accounts_start.play hplay

/-! What the counters count is what the calls did. -/

/-- Nothing but `start_read` and `end_read` changes which buffers a reader has. -/
theorem borrowed_kept (hstep : s.step a = some t) (hread : a ≠ .startRead)
    (hend : ∀ buffer, a ≠ .endRead buffer) :
    t.queue.rxBorrowed = s.queue.rxBorrowed ∧ t.borrowed = s.borrowed := by
  have hmoved := step_moved hstep
  cases hmoved with
  | @written w ws held => cases w <;> exact ⟨rfl, rfl⟩
  | read => exact absurd rfl hread
  | ended => exact absurd rfl (hend _)
  | _ => exact ⟨rfl, rfl⟩

/-- `start_read` returns the buffer it counts. -/
theorem startRead_borrows (hstep : s.step .startRead = some t) :
    t.borrowed = s.returnedBuffers .startRead ++ s.borrowed := by
  rw [QueueSystem.step] at hstep
  obtain ⟨free, rfl⟩ := lock_some.mp hstep
  rw [startRead, returnedBuffers]
  by_cases opened : s.isOpen = true
  · cases hring : s.queue.ringBuffer with
    | nil => simp [opened]
    | cons packet packets => simp [opened, free]
  · simp [opened]

theorem endRead_returns {buffer : List UInt8} (hstep : s.step (.endRead buffer) = some t) :
    buffer ∈ s.borrowed ∧ t = s.endRead buffer := by
  rw [QueueSystem.step] at hstep
  split at hstep
  · rename_i borrowed
    obtain ⟨-, rfl⟩ := lock_some.mp hstep
    exact ⟨borrowed, rfl⟩
  · exact absurd hstep (by simp)

/-- The buffers a reader has after a step are those it had and the one it was given, less the one
it gave back. -/
theorem borrowed_step (hstep : s.step a = some t) :
    (t.borrowed ++ a.endedBuffers).Perm (s.borrowed ++ s.returnedBuffers a) := by
  by_cases hread : a = .startRead
  · subst hread
    rw [startRead_borrows hstep]
    exact (List.append_nil _).symm ▸ List.perm_append_comm
  by_cases hend : ∃ buffer, a = .endRead buffer
  · obtain ⟨buffer, rfl⟩ := hend
    obtain ⟨borrowed, rfl⟩ := endRead_returns hstep
    have hfront := (List.perm_cons_erase borrowed).symm
    have hback := List.perm_append_singleton buffer (s.borrowed.erase buffer)
    exact (List.append_nil s.borrowed).symm ▸ hback.trans hfront
  · have hkept := (borrowed_kept hstep hread fun buffer h => hend ⟨buffer, h⟩).2
    cases a with
    | startRead => exact absurd rfl hread
    | endRead buffer => exact absurd ⟨buffer, rfl⟩ hend
    | _ => exact .of_eq (congrArg (· ++ []) hkept)

theorem borrowed_play (hplay : s.play as = some t) :
    (t.borrowed ++ as.flatMap QueueStep.endedBuffers).Perm
      (s.borrowed ++ s.returnedBuffersOf as) := by
  induction as generalizing s with
  | nil =>
    obtain rfl := Option.some.inj hplay
    exact .refl _
  | cons a as ih =>
    obtain ⟨u, hstep, hrest⟩ := Option.bind_eq_some_iff.mp hplay
    have hlater := ih hrest
    have hnow := borrowed_step hstep
    rw [returnedBuffersOf, hstep, List.flatMap_cons]
    have hswap : (t.borrowed ++ (a.endedBuffers ++ as.flatMap QueueStep.endedBuffers)).Perm
        (t.borrowed ++ as.flatMap QueueStep.endedBuffers ++ a.endedBuffers) := by
      rw [List.append_assoc]
      exact List.perm_append_comm.append_left _
    have hmiddle : (u.borrowed ++ u.returnedBuffersOf as ++ a.endedBuffers).Perm
        (u.borrowed ++ a.endedBuffers ++ u.returnedBuffersOf as) := by
      rw [List.append_assoc, List.append_assoc]
      exact List.perm_append_comm.append_left _
    have hwhole := (hswap.trans (hlater.append_right _)).trans hmiddle
    rw [← List.append_assoc s.borrowed]
    exact hwhole.trans (hnow.append_right _)

/-- `service_tx` counts a frame off exactly when it takes one. -/
theorem serviceTx_pending (h : Accounts s.queue s) (hstep : s.step .serviceTx = some t) :
    (t.txTask = .idle ∧ t.queue.txPending = s.queue.txPending) ∨
      (t.txTask ≠ .idle ∧ s.queue.txPending = t.queue.txPending + 1) := by
  have hpending := h.pending
  have hidle : s.txTask = .idle := by
    by_contra hsending
    rw [QueueSystem.step, if_neg hsending] at hstep
    exact absurd hstep (by simp)
  have hmoved := step_moved hstep
  cases hmoved with
  | refused => exact .inl ⟨hidle, rfl⟩
  | closing => exact .inl ⟨hidle, rfl⟩
  | @sendsControl frame frames _ _ _ waiting =>
    rw [waiting, List.length_cons] at hpending
    right
    refine ⟨by simp, ?_⟩
    change s.queue.txPending = s.queue.txPending - 1 + 1
    omega
  | @sendsLog frame frames _ _ _ control waiting =>
    rw [waiting, List.length_cons] at hpending
    right
    refine ⟨by simp, ?_⟩
    change s.queue.txPending = s.queue.txPending - 1 + 1
    omega

/-- `end_read` counts off a buffer that was counted. -/
theorem endRead_borrowed {buffer : List UInt8} (h : Accounts s.queue s)
    (hstep : s.step (.endRead buffer) = some t) :
    s.queue.rxBorrowed = t.queue.rxBorrowed + 1 := by
  obtain ⟨borrowed, rfl⟩ := endRead_returns hstep
  have hpos := List.length_pos_of_mem borrowed
  have hcount := h.borrowed
  change s.queue.rxBorrowed = s.queue.rxBorrowed - 1 + 1
  omega

/-- In every interleaving, while nobody holds the mutex, `tx_pending` counts the frames in the two
rings, `rx_borrowed` the buffers that `start_read` has returned and `end_read` has not taken back,
and `tx_busy` tells whether the TX task has a frame. No counter is decremented at 0. -/
theorem accounts_exact (hplay : ({} : QueueSystem).play as = some s) (free : s.holder = []) :
    s.queue.txPending = s.queue.txRing.length + s.queue.logRing.length ∧
    (s.queue.rxBorrowed = s.borrowed.length ∧
      (s.borrowed ++ as.flatMap QueueStep.endedBuffers).Perm
        (({} : QueueSystem).returnedBuffersOf as)) ∧
    (s.queue.txBusy = true ↔ s.txTask ≠ .idle) ∧
    (∀ t, s.step .serviceTx = some t →
      (t.txTask = .idle ∧ t.queue.txPending = s.queue.txPending) ∨
        (t.txTask ≠ .idle ∧ s.queue.txPending = t.queue.txPending + 1)) ∧
    (∀ buffer t, s.step (.endRead buffer) = some t →
      s.queue.rxBorrowed = t.queue.rxBorrowed + 1) ∧
    ∀ a t, s.step a = some t → a ≠ .startRead → (∀ buffer, a ≠ .endRead buffer) →
      t.queue.rxBorrowed = s.queue.rxBorrowed ∧ t.borrowed = s.borrowed := by
  have h := (accounts_free free).mp (accounts hplay)
  refine ⟨h.pending, ⟨h.borrowed, borrowed_play hplay⟩, h.busy, ?_, ?_, ?_⟩
  · intro t hstep
    exact serviceTx_pending h hstep
  · intro buffer t hstep
    exact endRead_borrowed h hstep
  · intro a t hstep hread hend
    exact borrowed_kept hstep hread hend

/-- The link is lost while a reader has a packet, a control frame is being sent and a log frame
waits. -/
def losesLinkBusy : List QueueStep :=
  servesRequest getStatePacket ++
    [.enqueue logPacket true true, .enqueue getStatePacket false true, .serviceTx,
      .linkChanged false] ++ List.replicate 7 .write

/-- The log frame is discarded and counted off, the packet and the control frame are not. -/
theorem lost_link_counted : ∃ s, ({} : QueueSystem).play losesLinkBusy = some s ∧
    s.queue.txPending = s.queue.txRing.length + s.queue.logRing.length ∧
    s.queue.rxBorrowed = s.borrowed.length ∧ s.queue.txPending = 0 ∧ s.queue.rxBorrowed = 1 ∧
    (s.queue.txBusy = true ↔ s.txTask ≠ .idle) ∧ s.queue.txBusy = true := by
  have hplay : (({} : QueueSystem).play losesLinkBusy).map
      (fun s => (s.holder, s.queue.txPending, s.queue.rxBorrowed, s.queue.txBusy)) =
      some ([], 0, 1, true) := by decide +kernel
  obtain ⟨s, hs, hall⟩ := Option.map_eq_some_iff.mp hplay
  simp only [Prod.mk.injEq] at hall
  obtain ⟨free, hpending, hborrowed, hbusy⟩ := hall
  have h := accounts_exact hs free
  exact ⟨s, hs, h.1, h.2.1.1, hpending, hborrowed, h.2.2.1, hbusy⟩

end QueueSystem
end SidpClient
