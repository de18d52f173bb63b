import SidpClient.ShadowTableSpecs

/-! What the stop pipeline does: entering a halt, reporting it, losing the target. -/
namespace SidpClient
open LittleEndian Interactive

variable {policy : Policy} {c₀ : Config} {s s₁ s' : Session}
  {h h' : SessionHistory} {fs : List (List UInt8)}

/-- A software hit is what a stop is classified by, unless a lockup or a watchpoint comes first. -/
theorem classifyStop_stepOver (s : Session) (stop : StopDetect) :
    (classifyStop s stop).stepOver =
      if stop.lockup = false ∧ stop.watchpointMatch = false ∧ stop.dfsr &&& Dfsr.dwtTrap = 0 then
        (softwareHit s.swTable stop).map (·.address)
      else none := by
  have missed (hn : ¬(stop.comparatorMatch = false ∧ stop.dfsr &&& Dfsr.bkpt ≠ 0)) :
      softwareHit s.swTable stop = none := by
    rw [softwareHit, if_neg]
    simpa using hn
  unfold classifyStop
  by_cases lockup : stop.lockup = true
  · simp [lockup]
  by_cases watch : stop.watchpointMatch = true ∨ stop.dfsr &&& Dfsr.dwtTrap ≠ 0
  · have hn : ¬(stop.lockup = false ∧ stop.watchpointMatch = false ∧
        stop.dfsr &&& Dfsr.dwtTrap = 0) := by
      rintro ⟨-, hw, hd⟩
      exact watch.elim (fun h => Bool.false_ne_true (hw.symm.trans h)) fun h => h hd
    rw [if_neg lockup, if_pos watch, if_neg hn]
  obtain ⟨noMatch, noTrap⟩ := not_or.mp watch
  have clear : stop.lockup = false ∧ stop.watchpointMatch = false ∧
      stop.dfsr &&& Dfsr.dwtTrap = 0 :=
    ⟨Bool.eq_false_of_not_eq_true lockup, Bool.eq_false_of_not_eq_true noMatch, not_not.mp noTrap⟩
  rw [if_neg lockup, if_neg watch, if_pos clear]
  by_cases breakpoint : stop.comparatorMatch = false ∧ stop.dfsr &&& Dfsr.bkpt ≠ 0
  · have other : ¬(s.runToActive = true ∧ stop.comparatorMatch = true ∧
        stop.pc.toUInt64 = s.activeRunToAddress) := by
      rintro ⟨-, hc, -⟩
      exact Bool.false_ne_true (breakpoint.1.symm.trans hc)
    have software : (!stop.comparatorMatch) = true ∧ stop.dfsr &&& Dfsr.bkpt ≠ 0 := by
      simpa using breakpoint
    rw [if_neg other, if_pos software]
    cases softwareHit s.swTable stop with
    | none => rfl
    | some sw => rfl
  · have software : ¬((!stop.comparatorMatch) = true ∧ stop.dfsr &&& Dfsr.bkpt ≠ 0) := by
      simpa using breakpoint
    rw [missed breakpoint, if_neg software]
    split_ifs <;> rfl

/-- A software hit names an entry of the table. -/
theorem softwareHit_ne_nil {table : List SwBp} {stop : StopDetect} {bp : SwBp}
    (found : softwareHit table stop = some bp) : table ≠ [] := by
  rintro rfl
  have none (address : UInt64) : swBpFindInstalled [] address = none := rfl
  rw [softwareHit, swBpFindByHaltPc] at found
  simp only [none, ite_self] at found
  exact absurd found (by simp)

theorem Offered.of_same {P : List UInt8 → Prop} {dead : Bool} {evs : SessionHistory}
    (ho : Offered s₁ P dead evs) (same : s₁.transportDead = s.transportDead) :
    Offered s P dead evs := by
  rwa [Offered, same] at ho

/-- Entry into LOST, with the event that reports it. -/
structure LostEntered (s s' : Session) (h h' : SessionHistory) (reason : TargetLostReason)
    (fs : List (List UInt8)) : Prop where
  state : s'.state = .lost
  attached : s'.attached = s.attached
  regions : s'.regions = s.regions
  swTable : s'.swTable = s.swTable
  fits : SnapshotFits s'
  delivery : Delivery s h (LostFrame reason) s'.transportDead h' fs

theorem enterLost_trace {reason : TargetLostReason} {Q : Unit → Session → SessionHistory → Prop}
    (ht : Trace policy c₀ s h fs) (same : SameTarget s s₁) (fits : SnapshotFits s₁)
    (state : s.state ≠ .lost) (state₁ : s₁.state = s.state)
    (hQ : ∀ s' h' fs', Trace policy c₀ s' h' (fs ++ fs') → LostEntered s s' h h' reason fs' →
      Q () s' h') :
    (enterLost reason).wp s₁ h Q := by
  apply enterLost_wp
  · intro hs
    exact absurd (state₁.symm.trans hs) state
  · intro _ b dead evs ho
    have ho' : Offered s (LostFrame reason) dead evs := ho.of_same same.transportDead
    obtain ⟨fs', hd, hf⟩ := ho'.delivery h fun f hf =>
      ⟨hf.not_stopped, hf.header.event_not_advertised⟩
    refine hQ _ _ fs' (ht.offer (.lose state rfl same.attached same.regions same.swTable ho') hf) ?_
    exact ⟨rfl, same.attached, same.regions, same.swTable, fits, hd⟩

/-- Losing the target as the last thing a handler does. -/
theorem enterLost_keeps {reason : TargetLostReason} {Q : Unit → Session → SessionHistory → Prop}
    (ht : Trace policy c₀ s h fs) (fits : SnapshotFits s)
    (hQ : ∀ s' h' fs', Trace policy c₀ s' h' (fs ++ fs') → Ready s' h' → s'.state = .lost →
      Keeps h h' → (∀ f ∈ fs', IsEvent f) → Q () s' h') :
    (enterLost reason).wp s h Q := by
  by_cases state : s.state = .lost
  · refine enterLost_wp (fun _ => ?_) fun hs => absurd state hs
    refine hQ s h [] ?_ (Ready.of_lost state fits) state (Keeps.refl h) (by simp)
    rwa [List.append_nil]
  · refine enterLost_trace ht (SameTarget.refl s) fits state rfl fun s' h' fs' ht' hl => ?_
    exact hQ s' h' fs' ht' (Ready.of_lost hl.state hl.fits) hl.state hl.delivery.keeps
      (hl.delivery.sent.all fun f hf => hf.header.isEvent)

theorem enterLost_ready {reason : TargetLostReason} {Q : Unit → Session → SessionHistory → Prop}
    (ht : Trace policy c₀ s h fs) (fits : SnapshotFits s)
    (hQ : ∀ s' h' fs', Trace policy c₀ s' h' (fs ++ fs') → Ready s' h' → s'.state = .lost →
      (∀ f ∈ fs', IsEvent f) → Q () s' h') :
    (enterLost reason).wp s h Q :=
  enterLost_keeps ht fits fun s' h' fs' ht' ready lost _ hev => hQ s' h' fs' ht' ready lost hev

theorem emitPendingStopped_idle {Q : Unit → Session → SessionHistory → Prop}
    (idle : s.stopReported = true ∨ s.state ≠ .halted) (hQ : Q () s h) :
    emitPendingStopped.wp s h Q := by
  simp only [emitPendingStopped, Action.wp_bind, getSession_wp, Action.wp_ite, Action.wp_pure]
  exact ⟨fun _ => hQ, fun hn => absurd idle hn⟩

theorem Engaged.append (he : Engaged s h) (map : advertisedMap h' = advertisedMap h)
    (rejected : Rejected h → Rejected h') : Engaged s h' :=
  ⟨⟨he.attached, map.trans he.mapped, fun hd => rejected (he.live hd)⟩, he.armed, he.fits⟩

/-- The report of a fresh stop leaves the session ready. -/
theorem emitPendingStopped_ready {stop : StopDetect} {Q : Unit → Session → SessionHistory → Prop}
    (ht : Trace policy c₀ s h fs) (he : Engaged s h) (state : s.state = .halted)
    (unreported : s.stopReported = false) (seen : haltView h = some ⟨stop, []⟩)
    (hQ : ∀ s' h' fs', Trace policy c₀ s' h' (fs ++ fs') → Ready s' h' →
      (∀ f ∈ fs', IsEvent f) → Q () s' h') :
    emitPendingStopped.wp s h Q := by
  simp only [emitPendingStopped, Action.wp_bind, getSession_wp, Action.wp_ite, Action.wp_pure]
  refine ⟨fun hr => absurd hr (by simp [unreported, state]), fun _ => ?_⟩
  refine sendStopped_wp he.fits fun b n dead evs ho => ?_
  rcases ho with ⟨hd, rfl, rfl⟩ | ⟨hd, f, accepted, hf, rfl, rfl⟩
  · have same : SameCore s ({ s with stopReported := !true }.framed b n true) :=
      ⟨⟨rfl, hd.symm, rfl, rfl⟩, rfl, rfl, fun _ => ⟨unreported.symm, rfl⟩⟩
    have ht' := ht.keep same
    rw [← List.append_nil fs] at ht'
    rw [List.append_nil]
    refine hQ _ _ [] ht' ⟨fun _ => ?_, fun _ hl => absurd hl (by simp [Session.framed]), he.fits⟩
      (by simp)
    exact ⟨⟨he.attached, he.mapped, fun _ => he.live hd⟩, he.armed, he.fits⟩
  · have ht' : Trace policy c₀ _ (h ++ [⟨.offer f, accepted⟩]) (fs ++ [f]) :=
      ht.offer (.report (b := b) (n := n) hd state unreported hf) offered_offer
    rw [Bool.not_not]
    refine hQ _ _ [f] ht' ⟨fun _ => ?_, fun _ hl => ?_, he.fits⟩ (by simpa using hf.header.isEvent)
    · refine ⟨⟨he.attached, ?_, fun hl => ?_⟩, he.armed, he.fits⟩
      · rw [advertisedMap_offer, hf.header.event_not_advertised]
        exact he.mapped
      · have ha : accepted = false := by simpa [Session.framed] using hl
        exact ⟨f, by simp [ha]⟩
    · have ha : accepted = true := by simpa [Session.framed] using hl
      exact ⟨ha, stop, f, by simp [hf.isStopped, seen]⟩

/-! The snapshot. -/

theorem SameCore.refl (s : Session) : SameCore s s :=
  ⟨SameTarget.refl s, rfl, rfl, fun _ => ⟨rfl, rfl⟩⟩

theorem SameCore.trans {s'' : Session} (hc : SameCore s s') (hc' : SameCore s' s'') :
    SameCore s s'' := by
  refine ⟨hc.toSameTarget.trans hc'.toSameTarget, hc'.state.trans hc.state,
    hc'.stopId.trans hc.stopId, fun hs => ?_⟩
  obtain ⟨hr, hd⟩ := hc.report hs
  obtain ⟨hr', hd'⟩ := hc'.report (hc.state.trans hs)
  exact ⟨hr'.trans hr, hd'.trans hd⟩

/-- A session that differs in other fields only, where every core field is the same term. -/
theorem sameCore_of_rfl
    (same : (s'.attached, s'.transportDead, s'.regions, s'.swTable, s'.state, s'.stopId,
        s'.stopReported, s'.pendingDetail) =
      (s.attached, s.transportDead, s.regions, s.swTable, s.state, s.stopId, s.stopReported,
        s.pendingDetail)) : SameCore s s' := by
  simp only [Prod.mk.injEq] at same
  obtain ⟨h₁, h₂, h₃, h₄, h₅, h₆, h₇, h₈⟩ := same
  exact ⟨⟨h₁, h₂, h₃, h₄⟩, h₅, h₆, fun _ => ⟨h₇, h₈⟩⟩

theorem captureStackSnapshot_trace {Q : Unit → Session → SessionHistory → Prop}
    (ht : Trace policy c₀ s h fs) (active : Active s h)
    (fits : s.pendingRegistersSize ≤ snapshotBlobCapacity) (empty : s.pendingStackSize = 0)
    (hQ : ∀ s' h', Trace policy c₀ s' h' fs → SameCore s s' → SnapshotFits s' → Keeps h h' →
      Q () s' h') :
    captureStackSnapshot.wp s h Q := by
  have hsame : Q () s h :=
    hQ s h ht (SameCore.refl s) (by rwa [SnapshotFits, empty, Nat.add_zero]) (Keeps.refl h)
  simp only [captureStackSnapshot, Action.wp_bind, getSession_wp]
  cases findRegister s.pendingRegisters s.pendingRegistersSize armRegSp with
  | none => exact hsame
  | some entry =>
    simp only
    generalize getU32 (s.pendingRegisters.read (entry.offset + registerValueSize) 4) 0 = sp
    cases hregion : stackRegion s.regions sp with
    | none => exact hsame
    | some region =>
      have hfound := stackRegion_some hregion
      have hwrap := hfound.2.2.2
      simp only
      cases hwindow : stackWindow region sp s.pendingRegistersSize with
      | none => exact hsame
      | some window =>
        obtain ⟨start, size⟩ := window
        obtain ⟨hcovers, hsize⟩ := stackWindow_some hwrap hwindow
        have allowed : CallAllowed s h (.readMem .stack start size MemWidth.default) :=
          ⟨active.attached, active.mapped, fun _ => ⟨region, hfound.1, hcovers,
            hfound.2.1, hfound.2.2.1⟩⟩
        simp only [Action.wp_bind, backend_wp, updateSession_wp, Action.wp_ite, Action.wp_pure]
        intro a
        have ht₁ := ht.call a allowed (fun hs => hs)
        have k : Keeps h (h ++ [⟨.call s (.readMem .stack start size MemWidth.default), a⟩]) :=
          keeps_movesData rfl
        refine ⟨fun _ => ?_, fun _ => ?_⟩
        · refine hQ _ _ (ht₁.keep (sameCore_of_rfl rfl)) (sameCore_of_rfl rfl) ?_ k
          show s.pendingRegistersSize + s.pendingStackSize ≤ _
          omega
        · refine hQ _ _ (ht₁.keep (sameCore_of_rfl rfl)) (sameCore_of_rfl rfl) ?_ k
          show s.pendingRegistersSize + size ≤ _
          omega

theorem captureSnapshot_trace {Q : Unit → Session → SessionHistory → Prop}
    (ht : Trace policy c₀ s h fs) (active : Active s h) (halted : HaltKnown h)
    (empty : s.pendingRegistersSize = 0 ∧ s.pendingStackSize = 0)
    (hQ : ∀ s' h', Trace policy c₀ s' h' fs → SameCore s s' → SnapshotFits s' → Keeps h h' →
      Q () s' h') :
    captureSnapshot.wp s h Q := by
  obtain ⟨hregs, hstack⟩ := empty
  have hfits : SnapshotFits s := by
    rw [SnapshotFits, hregs, hstack]
    exact Nat.zero_le _
  simp only [captureSnapshot, Action.wp_bind, getSession_wp, Action.wp_ite, Action.wp_pure,
    backend_wp, updateSession_wp]
  refine ⟨fun _ a => ?_, fun _ => hQ s h ht (SameCore.refl s) hfits (Keeps.refl h)⟩
  have ht₁ := ht.call (c := .readRegs [] snapshotBlobCapacity) a ⟨active.attached, halted⟩ id
  have k : Keeps h (h ++ [⟨.call s (.readRegs [] snapshotBlobCapacity), a⟩]) := keeps_movesData rfl
  refine ⟨fun hok => ?_, fun _ => ?_⟩
  · refine captureStackSnapshot_trace (ht₁.keep (sameCore_of_rfl rfl))
      (active.of_keeps rfl rfl k.map fun hd => k.rejected (active.live hd)) hok.2 hstack
      fun s' h' ht' same' fits' k' => ?_
    exact hQ s' h' ht' (SameCore.trans (sameCore_of_rfl (by rfl)) same') fits' (k.trans k')
  · exact hQ _ _ (ht₁.keep (sameCore_of_rfl rfl)) (sameCore_of_rfl rfl) hfits k

/-! Entering a halt. -/

theorem StopEntered.of_core {s'' : Session} {stop : StopDetect} (he : StopEntered s s' stop)
    (same : SameCore s' s'') : StopEntered s s'' stop := by
  obtain ⟨hr, hd⟩ := same.report he.state
  exact ⟨he.toSameTarget.trans same.toSameTarget, same.state.trans he.state,
    same.stopId.trans he.stopId, by rw [same.stopId]; exact he.fresh, hr.trans he.unreported,
    hd.trans he.detail⟩

theorem StopEntered.engaged {stop : StopDetect} (he : StopEntered s s' stop) (hs : Engaged s h)
    (fits : SnapshotFits s') (k : KeepsHalt h h') : Engaged s' h' :=
  ⟨⟨he.attached.trans hs.attached, by rw [k.map, he.regions, hs.mapped],
    fun hd => k.rejected (hs.live (he.transportDead.symm.trans hd))⟩,
    by rw [he.swTable]; exact hs.armed, fits⟩

/-- `enter_halted`, called where the session has just left `s` for `s₁`. -/
theorem enterHalted_trace {stop : StopDetect} {Q : Unit → Session → SessionHistory → Prop}
    (ht : Trace policy c₀ s h fs) (active : Active s h) (seen : haltView h = some ⟨stop, []⟩)
    (state : s.state ≠ .lost) (same : SameTarget s s₁) (state₁ : s₁.state = s.state)
    (stopId₁ : s₁.stopId = s.stopId) (fits : SnapshotFits s₁)
    (hwrap : s.stopId + 1 = 0 → ∀ s' h' fs', Trace policy c₀ s' h' (fs ++ fs') →
      LostEntered s s' h h' .timeout fs' → Q () s' h')
    (hhalt : s.stopId + 1 ≠ 0 → ∀ s' h', Trace policy c₀ s' h' fs → StopEntered s s' stop →
      SnapshotFits s' → Keeps h h' → Q () s' h') :
    (enterHalted stop).wp s₁ h Q := by
  simp only [enterHalted, Action.wp_bind, getSession_wp, Action.wp_ite, Action.wp_pure,
    updateSession_wp]
  refine ⟨fun hl => absurd (state₁.symm.trans hl) state, fun _ => ⟨fun wrap => ?_, fun next => ?_⟩⟩
  · rw [stopId₁] at wrap
    exact enterLost_trace ht ⟨same.attached, same.transportDead, same.regions, same.swTable⟩ fits
      state state₁ (hwrap wrap)
  · rw [stopId₁] at next
    have entered : StopEntered s
        ((s₁.nextStop (classifyStop s₁ stop)).stoppedWith stop (classifyStop s₁ stop)) stop :=
      ⟨⟨same.attached, same.transportDead, same.regions, same.swTable⟩, rfl,
        congrArg (· + 1) stopId₁, fun hz => next ((congrArg (· + 1) stopId₁).symm.trans hz),
        rfl, rfl⟩
    refine captureSnapshot_trace (ht.step (.halt state active seen entered)) ?_ ⟨_, seen⟩ ⟨rfl, rfl⟩
      fun s' h' ht' core fits' k => hhalt next s' h' ht' (entered.of_core core) fits' k
    exact active.of_keeps same.attached same.regions rfl fun hd =>
      active.live (same.transportDead.symm.trans hd)

/-- A stop entered and reported at once, as the last thing a handler does. -/
theorem enterHalted_ready {stop : StopDetect} {f : Session → Session}
    {Q : Unit → Session → SessionHistory → Prop} (ht : Trace policy c₀ s h fs) (he : Engaged s h)
    (seen : haltView h = some ⟨stop, []⟩) (state : s.state ≠ .lost)
    (hf : ∀ s, SameCore s (f s) ∧ (SnapshotFits s → SnapshotFits (f s)))
    (hQ : ∀ s' h' fs', Trace policy c₀ s' h' (fs ++ fs') → Ready s' h' →
      (∀ f ∈ fs', IsEvent f) → Q () s' h') :
    (enterHalted stop).wp s h fun _ s' h' => emitPendingStopped.wp (f s') h' Q := by
  refine enterHalted_trace ht he.toActive seen state (SameTarget.refl s) rfl rfl he.fits
    (fun _ s' h' fs' ht' hl => ?_) fun _ s' h' ht' entered fits k => ?_
  · have lost : (f s').state = .lost := (hf s').1.state.trans hl.state
    refine emitPendingStopped_idle (Or.inr (by simp [lost])) ?_
    exact hQ _ h' fs' (ht'.keep (hf s').1) (Ready.of_lost lost ((hf s').2 hl.fits))
      (hl.delivery.sent.all fun f hf => hf.header.isEvent)
  · have entered' := entered.of_core (hf s').1
    exact emitPendingStopped_ready (ht'.keep (hf s').1)
      (entered'.engaged he ((hf s').2 fits) k.toKeepsHalt) entered'.state entered'.unreported
      (k.halt.trans seen) hQ

theorem pollStop_ready {Q : Unit → Session → SessionHistory → Prop}
    (ht : Trace policy c₀ s h fs) (he : Engaged s h) (state : s.state = .running)
    (hQ : ∀ s' h' fs', Trace policy c₀ s' h' (fs ++ fs') → Ready s' h' →
      (∀ f ∈ fs', IsEvent f) → Q () s' h') :
    pollStop.wp s h Q := by
  simp only [pollStop, Action.wp_bind, backend_wp, Action.wp_ite, Action.wp_pure]
  intro a
  have ht₁ := ht.call (c := .pollHalted) a he.attached id
  have he₁ : Engaged s (h ++ [⟨.call s .pollHalted, a⟩]) :=
    he.append advertisedMap_call fun hr => hr.append _
  refine ⟨fun _ => enterLost_ready ht₁ he.fits fun s' h' fs' ht' hr _ hev =>
    hQ s' h' fs' ht' hr hev, fun ok => ⟨fun halted => ?_, fun _ => ?_⟩⟩
  · have seen : haltView (h ++ [⟨.call s .pollHalted, a⟩]) = some ⟨a.stop, []⟩ := by
      simp only [haltView_call, haltViewCall]
      rw [if_pos ⟨by simpa using ok, halted⟩]
    exact enterHalted_ready (f := id) ht₁ he₁ seen (by simp [state])
      (fun s => ⟨SameCore.refl s, id⟩) hQ
  · refine hQ s _ [] ?_ (Ready.of_running he₁ state) (by simp)
    rwa [List.append_nil]

/-- The answer to a failed backend call, as the last thing a handler does. -/
theorem sendBackendFailure_ready {opcode : UInt16} {requestId : UInt32} {result : EspErr}
    {fallback : Status} {Q : Unit → Session → SessionHistory → Prop}
    (ht : Trace policy c₀ s h fs) (ready : Ready s h) (hne : fallback ≠ .ok)
    (alive : s.transportDead = false)
    (hQ : ∀ s' h' fs', Trace policy c₀ s' h' (fs ++ fs') → Ready s' h' → KeepsHalt h h' →
      ResponseFirst opcode requestId fs' → Q () s' h') :
    (sendBackendFailure opcode requestId result fallback).wp s h Q := by
  simp only [sendBackendFailure, Action.wp_bind, Action.wp_ite, Action.wp_pure]
  refine ⟨fun _ => ?_, fun _ => ?_⟩
  · refine respond_trace ht (Or.inr (by decide)) fun b dead h₁ fs₁ ht₁ hd => ?_
    have first := hd.sent.responseFirst alive fun f hf => hf.header.isResponseTo
    refine enterLost_keeps ht₁ ready.fits fun s₂ h₂ fs₂ ht₂ ready₂ _ k hev => ?_
    rw [List.append_assoc] at ht₂
    exact hQ _ _ _ ht₂ ready₂ (hd.keeps.toKeepsHalt.trans k.toKeepsHalt) (first.append hev)
  · have status : (if result = .timeout then Status.timeout else fallback) ≠ .ok := by
      split
      · decide
      · exact hne
    refine respond_trace ht (Or.inr status) fun b dead h₁ fs₁ ht₁ hd => ?_
    exact hQ _ _ _ ht₁ (ready.framed hd.keeps.toKeepsHalt hd.live hd.latched) hd.keeps.toKeepsHalt
      (hd.sent.responseFirst alive fun f hf => hf.header.isResponseTo)

end SidpClient
