import SidpClient.PairedPrograms
import SidpClient.ReportedPc
import SidpClient.ServedResources

/-! The fields in which a session may keep something of its past: the two buffers, and what only
ATTACH writes. Sessions that differ in them alone ask the backend for the same and send the same
frames. -/
namespace SidpClient
open LittleEndian Interactive

/-- The backend has read all the bytes it says it has read. -/
def Call.Filled : Call → Answer → Prop
  | .readMem _ _ size _, a => a.code = .ok → size ≤ a.data.length
  | .readRegs _ _, a => a.code = .ok → a.outSize ≤ a.data.length
  | _, _ => True

/-- Sees the calls, the frames and how they are answered, but not the session behind a call. -/
def outsider : Observer Effect Reply where
  asked
    | .call _ c, .call _ c' => c' = c
    | .offer f, .offer f' => f' = f
    | _, _ => False
  answered
    | ⟨.call _ c, a⟩, ⟨.call _ c', a'⟩ => c' = c ∧ a' = a ∧ c.Filled a
    | ⟨.offer f, accepted⟩, ⟨.offer f', accepted'⟩ => f' = f ∧ accepted' = accepted
    | _, _ => False

structure Hidden where
  scratch : Buffer
  txFrameSize : ℕ
  pendingRegisters : Buffer
  resources : Resources
  regions : List MemoryRegion

def Session.hidden (s : Session) : Hidden :=
  ⟨s.scratch, s.txFrameSize, s.pendingRegisters, s.resources, s.regions⟩

def Session.hiding (s : Session) (x : Hidden) : Session :=
  { s with
    scratch := x.scratch
    txFrameSize := x.txFrameSize
    pendingRegisters := x.pendingRegisters
    capabilities := x.resources.capabilities
    supportedVectorCatch := x.resources.vectorCatch
    hardwareBreakpointLimit := x.resources.hardwareBreakpoints
    hardwareWatchpointLimit := x.resources.hardwareWatchpoints
    maxMemoryTransfer := x.resources.maxMemoryTransfer
    regions := x.regions }

/-- The same session but for the buffers. -/
def Session.fogged (s : Session) (b : Buffer) (n : ℕ) (r : Buffer) : Session :=
  s.hiding ⟨b, n, r, s.resources, s.regions⟩

/-- The four bytes behind the header. TARGET_LOST leaves three of them as they are. -/
def StatusField (i : ℕ) : Prop := 12 ≤ i ∧ i < 16

/-- Two sessions, of which the first has `K`, that differ in what no observer can tell: the frame
buffers agree on `D`, the snapshot buffers up to the end of the snapshot. -/
structure Veils (K : Session → Prop) (D : ℕ → Prop) (s : Session) (x : Hidden) : Prop where
  lasting : K s
  served : s.attached = true → x.resources = s.resources ∧ x.regions = s.regions
  written : ∀ i, D i → x.scratch i = s.scratch i
  pending : ∀ i < s.pendingRegistersSize + s.pendingStackSize,
    x.pendingRegisters i = s.pendingRegisters i

def Alike (K : Session → Prop) (D : ℕ → Prop) (s s' : Session) : Prop :=
  ∃ x, s' = s.hiding x ∧ Veils K D s x

/-- A condition that sending a frame does not break. -/
def Framed (K : Session → Prop) : Prop :=
  ∀ s b n dead, (s.transportDead = true → dead = true) → K s → K (s.framed b n dead)

/-- A condition on an attached session that only a return to DETACHED may break. -/
structure Engages (K : Session → Prop) : Prop where
  attached : ∀ s, K s → s.attached = true
  settles : ∀ s, s.attached = true → s.state ≠ .detached → K s
  keeps : ∀ s s' : Session, K s → s'.attached = s.attached → s'.state = s.state →
    (s.transportDead = true → s'.transportDead = true) → K s'

variable {K : Session → Prop} {D : ℕ → Prop} {s s' : Session} {α : Type}

theorem Engages.framed (eng : Engages K) : Framed K :=
  fun _ _ _ _ latched hs => eng.keeps _ _ hs rfl rfl latched

theorem Alike.refl (hs : K s) : Alike K D s s :=
  ⟨s.hidden, rfl, hs, fun _ => ⟨rfl, rfl⟩, fun _ _ => rfl, fun _ _ => rfl⟩

theorem Alike.mono {D' : ℕ → Prop} (ha : Alike K D s s') (hD : ∀ i, D' i → D i) :
    Alike K D' s s' := by
  obtain ⟨x, rfl, hx⟩ := ha
  exact ⟨x, rfl, hx.lasting, hx.served, fun i hi => hx.written i (hD i hi), hx.pending⟩

theorem Alike.lasting (ha : Alike K D s s') : K s := by
  obtain ⟨x, rfl, hx⟩ := ha
  exact hx.lasting

theorem Alike.with {K' : Session → Prop} (ha : Alike K D s s') (hs : K' s) : Alike K' D s s' := by
  obtain ⟨x, rfl, hx⟩ := ha
  exact ⟨x, rfl, hs, hx.served, hx.written, hx.pending⟩

/-- Whether to act the same, the two sessions have the same fields. -/
theorem Alike.fogged (ha : Alike K D s s') (attached : s.attached = true) :
    ∃ b n r, s' = s.fogged b n r ∧ Veils K D s ⟨b, n, r, s.resources, s.regions⟩ := by
  obtain ⟨⟨b, n, r, resources, regions⟩, rfl, hx⟩ := ha
  obtain ⟨hresources, hregions⟩ := hx.served attached
  simp only at hresources hregions
  subst hresources hregions
  exact ⟨b, n, r, rfl, hx⟩

/-- An action that does the same in two such sessions. -/
abbrev Veiled (K : Session → Prop) (D : ℕ → Prop) (m : SessionM α) : Prop :=
  m.Keeping outsider (Alike K D)

/-! Rules. -/

theorem backend_paired {c : Call} {Q : Answer → Session → Session → Prop}
    (hQ : ∀ a, c.Filled a → Q a s s') : (backend c).paired outsider (backend c) s s' Q := by
  refine ⟨rfl, fun a a' same => ?_⟩
  obtain ⟨-, rfl, filled⟩ := same
  exact ⟨rfl, hQ a' filled⟩

theorem txSink_paired {f : List UInt8} {Q : Bool → Session → Session → Prop}
    (hQ : ∀ accepted, Q accepted s s') : (txSink f).paired outsider (txSink f) s s' Q := by
  refine ⟨rfl, fun b b' same => ?_⟩
  obtain ⟨-, rfl⟩ := same
  exact ⟨rfl, hQ b'⟩

theorem backend_veiled (c : Call) : Veiled K D (backend c) :=
  fun _ _ ha => backend_paired fun _ _ => ha

/-- What is read of the session is nothing that is hidden. -/
theorem getSession_veiled {f : Session → SessionM α} (hf : ∀ s x, f (s.hiding x) = f s)
    (hm : ∀ s, K s → Veiled K D (f s)) : Veiled K D (getSession >>= f) := by
  apply Action.Keeping.get_bind
  intro s s' ha
  obtain ⟨x, rfl, hx⟩ := ha
  rw [hf]
  exact hm s hx.lasting s _ ⟨x, rfl, hx⟩

/-- What is read of an attached session may also be what ATTACH wrote. -/
theorem getSession_engaged (eng : Engages K) {f : Session → SessionM α}
    (hf : ∀ s b n r, f (s.fogged b n r) = f s) (hm : ∀ s, K s → Veiled K D (f s)) :
    Veiled K D (getSession >>= f) := by
  apply Action.Keeping.get_bind
  intro s s' ha
  have hs := ha.lasting
  obtain ⟨b, n, r, rfl, hx⟩ := ha.fogged (eng.attached s hs)
  rw [hf]
  exact hm s hs s _ ⟨_, rfl, hx⟩

/-- An update that neither reads nor writes a hidden field. -/
structure Clear (f : Session → Session) : Prop where
  commutes : ∀ s x, f (s.hiding x) = (f s).hiding x
  hidden : ∀ s, (f s).hidden = s.hidden
  attached : ∀ s, (f s).attached = s.attached
  sizes : ∀ s, (f s).pendingRegistersSize + (f s).pendingStackSize ≤ s.pendingRegistersSize +
    s.pendingStackSize

theorem Clear.alike {f : Session → Session} (hf : Clear f) (lasts : K s → K (f s))
    (ha : Alike K D s s') :
    Alike K D (f s) (f s') := by
  obtain ⟨x, rfl, hx⟩ := ha
  have own := hf.hidden s
  simp only [Session.hidden, Hidden.mk.injEq] at own
  obtain ⟨scratch, -, registers, resources, regions⟩ := own
  refine ⟨x, hf.commutes s x, lasts hx.lasting, ?_, ?_, ?_⟩
  · rw [hf.attached, resources, regions]
    exact hx.served
  · rw [scratch]
    exact hx.written
  · intro i hi
    rw [registers]
    exact hx.pending i (Nat.lt_of_lt_of_le hi (hf.sizes s))

/-- An update of an attached session that keeps its state. -/
theorem updateSame_veiled (eng : Engages K) {f : Session → Session} (hf : Clear f)
    (same : ∀ s, ((f s).state, (f s).transportDead) = (s.state, s.transportDead)) :
    Veiled K D (updateSession f) := by
  apply Action.Keeping.modify
  intro s s' ha
  obtain ⟨state, dead⟩ := Prod.mk.inj (same s)
  apply hf.alike _ ha
  intro hs
  exact eng.keeps s _ hs (hf.attached s) state fun hd => dead.trans hd

/-- An update of an attached session to a state other than DETACHED. -/
theorem updateState_veiled (eng : Engages K) {f : Session → Session} (hf : Clear f)
    (state : ∀ s, (f s).state ≠ .detached) : Veiled K D (updateSession f) := by
  apply Action.Keeping.modify
  intro s s' ha
  apply hf.alike _ ha
  intro hs
  exact eng.settles _ ((hf.attached s).trans (eng.attached s hs)) (state s)

end SidpClient
