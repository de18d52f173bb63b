import SidpClient.FrameDelivery

/-! What `flush_write` says about the frames accepted before it was called. -/
namespace SidpClient
open Fifo

/-- The frames of a session and a kind for which `deliver_tx_frame` returned true. -/
def delivered (ts : List Transmission) (session : ℕ) (log : Bool) : List (List UInt8) :=
  transmitted (ts.filter (·.sent)) session log

namespace QueueSystem

/-- The frames of a kind that wait. -/
def waiting (s : QueueSystem) (log : Bool) : List (List UInt8) :=
  if log then s.queue.logRing else s.queue.txRing

/-- What one turn of the loop of `flush_write` returns, if anything. -/
def flushTurn (s : QueueSystem) : Option WriteResult :=
  if !s.isOpen then some .invalidState
  else if s.queue.txPending == 0 && !s.queue.txBusy then some .ok
  else none

/-- `flush_write`, and the state it returns in. Every turn of its loop comes after the steps that
others took since the turn before. After the last turn the time is over. -/
def flushWrite (s : QueueSystem) : List (List QueueStep) → Option (QueueSystem × WriteResult)
  | [] => some (s, .timeout)
  | as :: turns => (s.play as).bind fun t =>
    if t.holder = [] then
      match t.flushTurn, turns with
      | none, _ => t.flushWrite turns
      | some result, [] => some (t, result)
      | some _, _ :: _ => none
    else none

/-- Among the frames of one kind that the session of `s` accepted before `s`, none is missing from
`frames`. -/
def Covers (s : QueueSystem) (frames : Bool → List (List UInt8)) : Prop :=
  ∀ log, (s.current.lane log).put <+: frames log

/-- The frames of the session of `s` delivered in a run. -/
def deliveredOf (s : QueueSystem) (run : List QueueStep) (log : Bool) : List (List UInt8) :=
  delivered (({} : QueueSystem).transmissionsOf run) s.current.number log

/-- Between the call and the return a session begins while a frame accepted before the call is not
delivered. -/
def LostBehind (s : QueueSystem) (before during : List QueueStep) : Prop :=
  ∃ steps u, s.Replaces during steps u ∧ ¬s.Covers (s.deliveredOf (before ++ steps))

variable {s t u : QueueSystem} {a : QueueStep} {ts : List Transmission}
  {as bs before : List QueueStep} {turns : List (List QueueStep)}

theorem transmitted_append (ts ts' : List Transmission) (n : ℕ) (log : Bool) :
    transmitted (ts ++ ts') n log = transmitted ts n log ++ transmitted ts' n log := by
  rw [transmitted, List.filter_append, List.map_append]
  rfl

theorem delivered_append (ts ts' : List Transmission) (n : ℕ) (log : Bool) :
    delivered (ts ++ ts') n log = delivered ts n log ++ delivered ts' n log := by
  rw [delivered, List.filter_append, transmitted_append]
  rfl

theorem delivered_all {n : ℕ} (h : ∀ x ∈ ts, x.session = n → x.sent = true) (log : Bool) :
    delivered ts n log = transmitted ts n log := by
  rw [delivered, transmitted, transmitted, List.filter_filter]
  congr 1
  apply List.filter_congr
  intro x hx
  by_cases hn : x.session = n
  · simp [h x hx hn]
  · simp [hn]

theorem transmissionsOf_append (hplay : s.play as = some t) :
    s.transmissionsOf (as ++ bs) = s.transmissionsOf as ++ t.transmissionsOf bs := by
  induction as generalizing s with
  | nil =>
    obtain rfl := Option.some.inj hplay
    rfl
  | cons a as ih =>
    obtain ⟨u, hstep, hrest⟩ := Option.bind_eq_some_iff.mp hplay
    rw [List.cons_append, transmissionsOf, transmissionsOf, hstep, List.append_assoc]
    exact congrArg _ (ih hrest)

theorem deliveredOf_append (hbefore : ({} : QueueSystem).play before = some t) (log : Bool) :
    s.deliveredOf (before ++ as) log =
      s.deliveredOf before log ++ delivered (t.transmissionsOf as) s.current.number log := by
  rw [deliveredOf, transmissionsOf_append hbefore, delivered_append]
  rfl

/-- What comes back from `deliver_tx_frame` is of the current session or a later one. -/
theorem transmissionsOf_session (as : List QueueStep) :
    ∀ x ∈ s.transmissionsOf as, s.current.number ≤ x.session := by
  induction as generalizing s with
  | nil => exact fun x hx => absurd hx (by simp [transmissionsOf])
  | cons a as ih =>
    intro x hx
    rw [transmissionsOf] at hx
    obtain hnow | hlater := List.mem_append.mp hx
    · cases a with
      | frameSent sent =>
        rw [transmissions] at hnow
        split at hnow
        · rw [List.mem_singleton.mp hnow]
        · exact absurd hnow (by simp)
      | _ => exact absurd hnow (by simp [transmissions])
    · split at hlater
      · rename_i t hstep
        have hle := ih x hlater
        obtain ⟨hnumber, -⟩ | ⟨-, -, hnumber, -⟩ := moved_session (step_moved hstep) <;> omega
      · exact absurd hlater (by simp)

theorem flushWrite_ok (h : s.flushWrite turns = some (t, .ok)) :
    s.play turns.flatten = some t ∧ t.holder = [] ∧ t.flushTurn = some .ok := by
  induction turns generalizing s with
  | nil =>
    rw [flushWrite] at h
    simp at h
  | cons as turns ih =>
    obtain ⟨u, hplay, hturn⟩ := Option.bind_eq_some_iff.mp h
    split at hturn
    · rename_i free
      split at hturn
      · obtain ⟨hrest, hend⟩ := ih hturn
        exact ⟨play_append hplay hrest, hend⟩
      · rename_i result hresult
        obtain ⟨rfl, rfl⟩ := Prod.mk.inj (Option.some.inj hturn)
        rw [List.flatten_cons, List.flatten_nil, List.append_nil]
        exact ⟨hplay, free, hresult⟩
      · exact absurd hturn (by simp)
    · exact absurd hturn (by simp)

/-- Of the frames of an open session, each waits, is with `deliver_tx_frame` or was delivered. -/
theorem FramesKept.accounted (h : FramesKept ts s.queue s) (live : s.queue.dead = false)
    (task : s.txTask ≠ .returned false) (log : Bool) :
    (s.current.lane log).put =
      delivered ts s.current.number log ++ s.txTask.carries log ++ s.waiting log := by
  rw [delivered_all (h.sent live task), ← h.carried log]
  cases log with
  | false => exact (h.control live).symm
  | true => exact (h.logs live).symm

theorem flushTurn_ok (h : s.flushTurn = some .ok) :
    s.queue.dead = false ∧ s.queue.txPending = 0 ∧ s.queue.txBusy = false := by
  rw [flushTurn] at h
  split at h
  · exact absurd h (by simp)
  · rename_i opened
    have opened : s.isOpen = true := by simpa using opened
    split at h
    · rename_i idle
      simp only [Bool.and_eq_true, beq_iff_eq, Bool.not_eq_true'] at idle
      exact ⟨(isOpen_iff.mp opened).1, idle⟩
    · exact absurd h (by simp)

/-- Where a turn of `flush_write` returns `ESP_OK`, everything the open session accepted is
delivered. -/
theorem FramesKept.flushed (h : FramesKept ts s.queue s) (hturn : s.flushTurn = some .ok)
    (log : Bool) : (s.current.lane log).put = delivered ts s.current.number log := by
  obtain ⟨live, pending, idle⟩ := flushTurn_ok hturn
  have hidle := h.busy idle
  have hempty : s.queue.txRing.length + s.queue.logRing.length = 0 := h.pending.symm.trans pending
  have hwaiting : s.waiting log = [] := by
    cases log with
    | false =>
      have hring : s.queue.txRing.length = 0 := by omega
      exact List.length_eq_zero_iff.mp hring
    | true =>
      have hring : s.queue.logRing.length = 0 := by omega
      exact List.length_eq_zero_iff.mp hring
  rw [h.accounted live (by simp [hidle]) log, hidle, hwaiting, List.append_nil]
  exact List.append_nil _

/-- What the session accepted is covered by more when it is covered by less. -/
theorem Covers.mono {frames frames' : Bool → List (List UInt8)} (h : s.Covers frames)
    (hle : ∀ log, frames log <+: frames' log) : s.Covers frames' :=
  fun log => (h log).trans (hle log)

/-- Once the next session began, no more frames of this one are delivered. -/
theorem delivered_behind {n : ℕ} (as : List QueueStep) (h : n < s.current.number) (log : Bool) :
    delivered (s.transmissionsOf as) n log = [] := by
  rw [delivered, transmitted, List.map_eq_nil_iff, List.filter_eq_nil_iff]
  intro x hx
  have hle := transmissionsOf_session as x (List.mem_of_mem_filter hx)
  simp only [Bool.and_eq_true, beq_iff_eq, not_and]
  intro hn
  omega

theorem replaced_delivers_none {n : ℕ} (may : s.begins = true) (hn : s.current.number = n)
    (after : List QueueStep) (log : Bool) :
    delivered (s.transmissionsOf (.beginSession :: after)) n log = [] := by
  have hnow : s.transmissions .beginSession = [] := rfl
  rw [transmissionsOf, hnow, List.nil_append]
  split
  · rename_i t hstep
    obtain ⟨-, rfl⟩ := lock_some.mp hstep
    apply delivered_behind
    rw [beginSession, if_pos may]
    exact Nat.lt_succ_of_le hn.ge
  · rfl

/-- A call of `flush_write` that returns `ESP_OK` has delivered every frame accepted in the session
that was open at the call, exactly if no session began, before it returned, while such a frame was
not delivered. While the session is not replaced, a turn of it that finds such a frame lost returns
`ESP_ERR_INVALID_STATE`, once `service_tx` is done with the failure. -/
theorem flush_ok_delivered_iff (call : ({} : QueueSystem).play before = some s)
    (returned : s.flushWrite turns = some (t, .ok)) :
    (s.Covers (s.deliveredOf (before ++ turns.flatten)) ↔ ¬s.LostBehind before turns.flatten) ∧
    ∀ steps u, s.play steps = some u → u.holder = [] → u.current.number = s.current.number →
      u.txTask ≠ .returned false →
      ¬s.Covers (fun log => s.deliveredOf (before ++ steps) log ++ u.txTask.carries log ++
        u.waiting log) → u.flushTurn = some .invalidState := by
  obtain ⟨hplay, free, hturn⟩ := flushWrite_ok returned
  refine ⟨⟨?_, fun hkept => ?_⟩, ?_⟩
  · rintro hcovers ⟨steps, u, ⟨after, hsplit, hsteps, hbegins, hnumber⟩, hlost⟩
    apply hlost
    intro log
    have hnone := replaced_delivers_none hbegins hnumber after log
    have hsame : s.deliveredOf (before ++ turns.flatten) log = s.deliveredOf
        (before ++ steps) log := by
      rw [hsplit, ← List.append_assoc, deliveredOf_append (play_append call hsteps), hnone,
        List.append_nil]
    exact hsame ▸ hcovers log
  · obtain ⟨hnumber, -, hput⟩ | ⟨-, steps, u, hreplaces⟩ := play_session hplay
    · have kept := framesKept (play_append call hplay)
      rw [settled_free free] at kept
      intro log
      have hall := kept.flushed hturn log
      rw [hnumber] at hall
      exact (hput log).trans (hall ▸ List.prefix_rfl)
    · have hcovers : s.Covers (s.deliveredOf (before ++ steps)) := by
        by_contra hlost
        exact hkept ⟨steps, u, hreplaces, hlost⟩
      obtain ⟨after, hsplit, hsteps, -⟩ := hreplaces
      apply hcovers.mono
      intro log
      rw [hsplit, ← List.append_assoc, deliveredOf_append (play_append call hsteps)]
      exact List.prefix_append _ _
  · intro steps u hsteps hfree hnumber htask hlost
    have kept := framesKept (play_append call hsteps)
    rw [settled_free hfree] at kept
    have hput : ∀ log, (s.current.lane log).put <+: (u.current.lane log).put := by
      obtain ⟨-, -, hput⟩ | ⟨hlt, -⟩ := play_session hsteps
      · exact hput
      · omega
    have hdead : u.queue.dead = true := by
      by_contra hlive
      apply hlost
      intro log
      have hall := kept.accounted (by simpa using hlive) htask log
      rw [hnumber] at hall
      exact (hput log).trans (hall ▸ List.prefix_rfl)
    rw [flushTurn, if_pos]
    simp [isOpen, PacketQueue.isOpen, hdead]

/-- A control frame waits, and a caller of `flush_write` sleeps after its first turn. -/
def waitsToFlush : List QueueStep := opensSession ++ [.enqueue getStatePacket false true]

/-- The link is lost and comes back, and the next session begins. -/
def reconnects : List QueueStep :=
  .linkChanged false :: List.replicate 7 .write ++
    (.linkChanged true :: List.replicate 8 .write ++ (.beginSession :: List.replicate 9 .write))

/-- The frame was discarded and `flush_write` returns `ESP_OK`. -/
theorem flush_reports_lost : ¬∀ before turns s t, ({} : QueueSystem).play before = some s →
    s.isOpen = true → s.flushWrite turns = some (t, .ok) →
    s.Covers (s.deliveredOf (before ++ turns.flatten)) := by
  intro reports
  have hcall : (({} : QueueSystem).play waitsToFlush).map (fun s =>
      (s.isOpen, (s.flushWrite [[], reconnects]).map (·.2), s.current.control.put,
        s.deliveredOf (waitsToFlush ++ reconnects) false)) =
      some (true, some .ok, [getStatePacket], []) := by decide +kernel
  obtain ⟨s, hs, hall⟩ := Option.map_eq_some_iff.mp hcall
  simp only [Prod.mk.injEq] at hall
  obtain ⟨hopen, hflush, hput, hnone⟩ := hall
  obtain ⟨⟨t, result⟩, ht, rfl⟩ := Option.map_eq_some_iff.mp hflush
  have hcovers : (s.current.lane false).put <+: s.deliveredOf (waitsToFlush ++ reconnects) false :=
    reports waitsToFlush [[], reconnects] s t hs hopen ht false
  rw [hnone, List.prefix_nil] at hcovers
  exact absurd (hput.symm.trans hcovers) (by simp)

/-- `service_tx` sends the frame, and the next turn returns. -/
theorem sent_frame_flushed : ∃ s t : QueueSystem,
    s.flushWrite [[], [.serviceTx, .frameSent true, .serviceTxEnd, .write]] = some
      (t, WriteResult.ok) ∧
    (s.Covers
      (s.deliveredOf (waitsToFlush ++ [.serviceTx, .frameSent true, .serviceTxEnd, .write])) ↔
      ¬s.LostBehind waitsToFlush [.serviceTx, .frameSent true, .serviceTxEnd, .write]) := by
  have hcall : (({} : QueueSystem).play waitsToFlush).map (fun s =>
      (s.flushWrite [[], [.serviceTx, .frameSent true, .serviceTxEnd, .write]]).map (·.2)) =
      some (some .ok) := by decide +kernel
  obtain ⟨s, hs, hflush⟩ := Option.map_eq_some_iff.mp hcall
  obtain ⟨⟨t, result⟩, ht, rfl⟩ := Option.map_eq_some_iff.mp hflush
  exact ⟨s, t, ht, (flush_ok_delivered_iff hs ht).1⟩

end QueueSystem
end SidpClient
