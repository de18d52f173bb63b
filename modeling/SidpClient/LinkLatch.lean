import SidpClient.PacketQueue
import Mathlib.Data.List.Infix

/-! Whether the loss of the link stays visible to the owner of the transport. -/
namespace SidpClient
namespace QueueSystem

/-- The step with which a `begin_session` succeeds. -/
def Accepts (s : QueueSystem) (a : QueueStep) : Prop :=
  a = .write ∧ s.holder.head? = some (.storeDead false)

/-- The physical link comes back under a session that was neither closed nor told of a link
change. -/
def Revives (s : QueueSystem) (a : QueueStep) : Prop :=
  a = .physicalLink true ∧ s.physicalLinkOpen = false ∧ s.queue.connected = true ∧
    s.queue.dead = false

/-- No `begin_session` succeeds in these steps. -/
def Quiet : QueueSystem → List QueueStep → Prop
  | _, [] => True
  | s, a :: as => ¬s.Accepts a ∧ ∀ t, s.step a = some t → Quiet t as

/-- In this run the loss of the link is latched: from any moment where the transport is not open
until a `begin_session` succeeds it stays so, and the owner sees it. -/
def Latches (as : List QueueStep) : Prop :=
  ∀ before between after s t, as = before ++ (between ++ after) →
    ({} : QueueSystem).play before = some s → s.play between = some t → s.Quiet between →
    s.isOpen = false → t.isOpen = false ∧ t.needsDisconnect = true

/-! Where the mutex holder can be. -/

def sections : List (List QueueWrite) :=
  [SidpClient.linkChanged true, SidpClient.linkChanged false, closeLocked, acceptSession,
    finishTx true, finishTx false, refuseFrame true, refuseFrame false]

/-- What can be left of a section. -/
def sectionRests : List (List QueueWrite) := sections.flatMap List.tails

theorem tail_mem_sectionRests : ∀ ws ∈ sectionRests, ws.tail ∈ sectionRests := by decide

/-- A session is never accepted while the link is reported, and a link reported lost is closed
next. -/
theorem storeConnected_rest : ∀ ws ∈ sectionRests, ∀ up,
    ws.head? = some (.storeConnected up) →
      .storeDead false ∉ ws ∧ (up = true ∨ ws.tail.head? = some (.storeDead true)) := by
  decide

theorem closing_section : ∀ ws ∈ [closeLocked, refuseFrame true, refuseFrame false],
    ws ∈ sectionRests ∧ .storeDead false ∉ ws := by
  decide

/-- While a session is accepted, or not latched closed, the link was last reported connected. -/
structure LinkHeld (s : QueueSystem) : Prop where
  within : s.holder ∈ sectionRests
  accepting : .storeDead false ∈ s.holder → s.queue.connected = true
  reported : s.queue.dead = false →
    s.queue.connected = true ∨ s.holder.head? = some (.storeDead true)

variable {s t : QueueSystem} {a : QueueStep} {as before between : List QueueStep}

/-- A section taken by a step that leaves the flags alone. -/
theorem LinkHeld.enter (ws : List QueueWrite) (h : s.LinkHeld) (free : s.holder = [])
    (holder : t.holder = ws) (within : ws ∈ sectionRests)
    (accepting : .storeDead false ∈ ws → s.queue.connected = true)
    (dead : t.queue.dead = s.queue.dead) (connected : t.queue.connected = s.queue.connected) :
    t.LinkHeld := by
  refine ⟨holder ▸ within, fun hmem => connected.trans (accepting (holder ▸ hmem)),
    fun halive => ?_⟩
  rw [dead] at halive
  obtain hconnected | hnext := h.reported halive
  · exact .inl (connected.trans hconnected)
  · rw [free] at hnext
    exact absurd hnext (by simp)

/-- A section that accepts no session. -/
theorem LinkHeld.enter_closed (ws : List QueueWrite) (h : s.LinkHeld) (free : s.holder = [])
    (holder : t.holder = ws) (closed : ws ∈ sectionRests ∧ .storeDead false ∉ ws)
    (dead : t.queue.dead = s.queue.dead) (connected : t.queue.connected = s.queue.connected) :
    t.LinkHeld :=
  h.enter ws free holder closed.1 (fun hmem => absurd hmem closed.2) dead connected

/-- A step of an unlocked section, which the flags and the mutex holder do not see. -/
theorem LinkHeld.keep (h : s.LinkHeld) (holder : t.holder = s.holder)
    (dead : t.queue.dead = s.queue.dead) (connected : t.queue.connected = s.queue.connected) :
    t.LinkHeld := by
  obtain ⟨within, accepting, reported⟩ := h
  exact ⟨by rwa [holder], by rwa [holder, connected], by rwa [holder, dead, connected]⟩

theorem LinkHeld.perform {w : QueueWrite} {ws : List QueueWrite} {changes : ℕ} (h : s.LinkHeld)
    (held : s.holder = w :: ws) :
    { s with queue := s.queue.perform w, holder := ws, changes }.LinkHeld := by
  have hrest : w :: ws ∈ sectionRests := held ▸ h.within
  have haccepting : .storeDead false ∈ ws → s.queue.connected = true := by
    intro hmem
    apply h.accepting
    rw [held]
    exact List.mem_cons_of_mem _ hmem
  have hreported : w ≠ .storeDead true → s.queue.dead = false → s.queue.connected = true := by
    intro hw halive
    obtain hconnected | hnext := h.reported halive
    · exact hconnected
    · rw [held] at hnext
      exact absurd (Option.some.inj hnext) hw
  have hwithin : ws ∈ sectionRests := tail_mem_sectionRests _ hrest
  cases w with
  | storeConnected up =>
    obtain ⟨hnone, hnext⟩ := storeConnected_rest _ hrest up rfl
    exact ⟨hwithin, fun hmem => absurd (List.mem_cons_of_mem _ hmem) hnone, fun _ => hnext⟩
  | storeDead value =>
    refine ⟨hwithin, haccepting, fun halive => .inl ?_⟩
    obtain rfl : value = false := halive
    apply h.accepting
    rw [held]
    exact List.mem_cons_self
  | _ => exact ⟨hwithin, haccepting, fun halive => .inl (hreported (by simp) halive)⟩

theorem LinkHeld.step (h : s.LinkHeld) (hstep : s.step a = some t) : t.LinkHeld := by
  have hmoved := step_moved hstep
  cases hmoved with
  | refused => exact h
  | physicalLink => exact h.keep rfl rfl rfl
  | sampled => exact h.keep rfl rfl rfl
  | written held => exact h.perform held
  | @linkChanged up free =>
    exact h.enter_closed (SidpClient.linkChanged up) free rfl (by cases up <;> decide) rfl rfl
  | begun free may =>
    have hconnected : s.queue.connected = true := by
      simp only [begins, PacketQueue.mayBegin, PacketQueue.linkIsConnected,
        Bool.and_eq_true] at may
      exact may.1.1.1.2.1
    exact h.enter acceptSession free rfl (by decide) (fun _ => hconnected) rfl rfl
  | @closing _ ws free closes =>
    exact h.enter_closed ws free rfl (closing_section ws closes) rfl rfl
  | queued => exact h.keep rfl rfl rfl
  | read => exact h.keep rfl rfl rfl
  | ended => exact h.keep rfl rfl rfl
  | enqueuedLog => exact h.keep rfl rfl rfl
  | enqueuedControl => exact h.keep rfl rfl rfl
  | sendsControl => exact h.keep rfl rfl rfl
  | sendsLog => exact h.keep rfl rfl rfl
  | frameSent => exact h.keep rfl rfl rfl
  | @finished sent free =>
    exact h.enter_closed (finishTx sent) free rfl (by cases sent <;> decide) rfl rfl

theorem LinkHeld.play (h : s.LinkHeld) (hplay : s.play as = some t) : t.LinkHeld := by
  induction as generalizing s with
  | nil => exact Option.some.inj hplay ▸ h
  | cons a as ih =>
    obtain ⟨u, hstep, hrest⟩ := Option.bind_eq_some_iff.mp hplay
    exact ih (h.step hstep) hrest

theorem linkHeld_start : LinkHeld {} := ⟨by decide, by decide, by decide⟩

/-- A transport that is not open stays so, unless a session is accepted or the link revived. -/
theorem LinkHeld.stays_closed (h : s.LinkHeld) (hstep : s.step a = some t)
    (quiet : ¬s.Accepts a) (lost : ¬s.Revives a) (opened : t.isOpen = true) : s.isOpen = true := by
  have hmoved := step_moved hstep
  cases hmoved with
  | @physicalLink up =>
    obtain ⟨halive, hconnected, hphysical⟩ := isOpen_iff.mp opened
    obtain rfl : up = true := hphysical
    by_cases hdown : s.physicalLinkOpen = true
    · exact isOpen_iff.mpr ⟨halive, hconnected, hdown⟩
    · exact absurd ⟨rfl, by simpa using hdown, hconnected, halive⟩ lost
  | @written w ws held =>
    obtain ⟨halive, hconnected, hphysical⟩ := isOpen_iff.mp opened
    cases w with
    | storeConnected up =>
      obtain hwas | hnext := h.reported halive
      · exact isOpen_iff.mpr ⟨halive, hwas, hphysical⟩
      · rw [held] at hnext
        exact absurd hnext (by simp)
    | storeDead value =>
      obtain rfl : value = false := halive
      exact absurd ⟨rfl, by rw [held]; rfl⟩ quiet
    | _ => exact isOpen_iff.mpr ⟨halive, hconnected, hphysical⟩
  | _ => exact opened

/-- A run with no revival latches the loss of the link, whatever the moment it is seen at. -/
theorem LinkHeld.latched (h : s.LinkHeld) (hplay : s.play between = some t)
    (quiet : s.Quiet between)
    (lost : ∀ before a after u, between = before ++ a :: after → s.play before = some u →
      ¬u.Revives a) (closed : s.isOpen = false) : t.isOpen = false := by
  induction between generalizing s with
  | nil =>
    obtain rfl := Option.some.inj hplay
    exact closed
  | cons a as ih =>
    obtain ⟨u, hstep, hrest⟩ := Option.bind_eq_some_iff.mp hplay
    have hlost := lost [] a as s rfl rfl
    have hclosed : u.isOpen = false := by
      rw [← Bool.not_eq_true]
      intro hopen
      have hwas := h.stays_closed hstep quiet.1 hlost hopen
      exact absurd (closed.symm.trans hwas) (by simp)
    refine ih (h.step hstep) hrest (quiet.2 u hstep) ?_ hclosed
    intro before b after v hsplit hbefore
    apply lost (a :: before) b after v
    · rw [hsplit, List.cons_append]
    · exact Option.bind_eq_some_iff.mpr ⟨u, hstep, hbefore⟩

theorem play_append {xs ys : List QueueStep} {u : QueueSystem} (hxs : s.play xs = some t)
    (hys : t.play ys = some u) : s.play (xs ++ ys) = some u := by
  induction xs generalizing s with
  | nil =>
    obtain rfl := Option.some.inj hxs
    exact hys
  | cons x xs ih =>
    obtain ⟨v, hstep, hrest⟩ := Option.bind_eq_some_iff.mp hxs
    exact Option.bind_eq_some_iff.mpr ⟨v, hstep, ih hrest⟩

/-- A run latches every loss of the link, with no report of it, exactly if the physical link never
comes back under a session that is not latched closed. -/
theorem loss_latched_iff (as : List QueueStep) :
    Latches as ↔ ∀ before a after s, as = before ++ a :: after →
      ({} : QueueSystem).play before = some s → ¬s.Revives a := by
  refine ⟨fun hlatched before a after s hsplit hbefore hrevives => ?_, fun hlost => ?_⟩
  · obtain ⟨rfl, hdown, hconnected, halive⟩ := hrevives
    have hclosed : s.isOpen = false := by
      simp [isOpen, PacketQueue.isOpen, PacketQueue.linkIsConnected, hdown]
    have hquiet : s.Quiet [.physicalLink true] :=
      ⟨fun ha => absurd ha.1 (by simp), fun _ _ => trivial⟩
    have hstays := hlatched before [.physicalLink true] after s
      { s with physicalLinkOpen := true } hsplit hbefore rfl hquiet hclosed
    have hopen : { s with physicalLinkOpen := true }.isOpen = true :=
      isOpen_iff.mpr ⟨halive, hconnected, rfl⟩
    exact absurd (hstays.1.symm.trans hopen) (by simp)
  · intro before between after s t hsplit hbefore hbetween hquiet hclosed
    have hs := linkHeld_start.play hbefore
    have ht : t.isOpen = false := by
      refine hs.latched hbetween hquiet ?_ hclosed
      intro front a back u hcut hfront
      apply hlost (before ++ front) a (back ++ after) u
      · rw [hsplit, hcut, List.append_assoc, List.append_assoc, List.cons_append]
      · exact play_append hbefore hfront
    refine ⟨ht, ?_⟩
    rw [isOpen] at ht
    rw [needsDisconnect, PacketQueue.needsDisconnect, ht]
    rfl

/-- A session is begun, the host suspends the bus, and resumes it without a report. -/
def suspendAndResume : List QueueStep :=
  .linkChanged true :: List.replicate 8 .write ++
    (.physicalLink true :: .beginSession :: List.replicate 9 .write ++
      [.physicalLink false, .physicalLink true])

theorem suspend_not_latched : ¬Latches suspendAndResume := by
  intro hlatched
  have hstays := hlatched (suspendAndResume.take 21) [.physicalLink true] [] _ _ rfl rfl rfl
    ⟨fun ha => absurd ha.1 (by simp), fun _ _ => trivial⟩ (by decide)
  exact absurd hstays.1 (by decide)

end QueueSystem
end SidpClient
