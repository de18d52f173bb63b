import SidpClient.HistoryViews

/-! The moves a session makes between two states that an observer can tell apart, each with what
the code has checked by then. -/
namespace SidpClient
open LittleEndian

/-! What a backend call may be issued for. -/

/-- The whole range lies in the region, and neither wraps the 64-bit space. -/
structure MemoryRegion.Covers (region : MemoryRegion) (address : UInt64) (size : ℕ) : Prop where
  start : region.start.toNat ≤ address.toNat
  stop : address.toNat + size ≤ region.start.toNat + region.length.toNat
  bound : region.start.toNat + region.length.toNat < 2 ^ 64

/-- The rules of section 9 for one request in one region. -/
structure MemoryRegion.Permits (region : MemoryRegion) (flags : UInt16) (address : UInt64)
    (size : ℕ) (width : UInt8) (isWrite : Bool) : Prop where
  flag : region.has (if isWrite then MemFlag.write else MemFlag.read) = true
  flash : isWrite = true → region.type ≠ MemoryType.flash
  mmio : region.type = MemoryType.mmio → flags &&& MemAccess.allowMmio ≠ 0 ∧
    isExplicitWidth width = true ∧ size = width.toNat ∧ address.toNat % width.toNat = 0

/-- Some region is RAM with read, write and execute and covers the range. -/
def Patchable (regions : List MemoryRegion) (address : UInt64) (size : ℕ) : Prop :=
  ∃ region ∈ regions, region.Covers address size ∧ region.type = MemoryType.ram ∧
    region.has MemFlag.read = true ∧ region.has MemFlag.write = true ∧
    region.has MemFlag.execute = true

def ReadAllowed (s : Session) (h : SessionHistory) (access : Access) (address : UInt64) (size : ℕ)
    (width : UInt8) : Prop :=
  advertisedMap h = some s.regions ∧
    match access with
    | .request flags _ => ∃ region ∈ s.regions, region.Covers address size ∧
        region.Permits flags address size width false
    | .original => Patchable s.regions address size ∧ ∀ prior ∈ s.swTable,
        ¬(address < prior.stop ∧ prior.address < address + UInt64.ofNat size)
    | .stack => size ≠ 0 → ∃ region ∈ s.regions, region.Covers address size ∧
        region.type = MemoryType.ram ∧ region.has MemFlag.read = true
    | _ => False

def WriteAllowed (s : Session) (h : SessionHistory) (access : Access) (address : UInt64)
    (bytes : List UInt8) (width : UInt8) : Prop :=
  match access with
  | .request flags _ => advertisedMap h = some s.regions ∧
      ∃ region ∈ s.regions, region.Covers address bytes.length ∧
        region.Permits flags address bytes.length width true
  | .patch => HaltKnown h ∧ bytes = bkptPatch ∧
      ∃ entry ∈ s.swTable, entry.installed = true ∧ entry.address = address
  | .restore => HaltKnown h ∧
      ∃ entry ∈ s.swTable, entry.installed = true ∧ entry.address = address ∧
        bytes = entry.originalBytes
  | _ => False

/-- What holds of the session and the history whenever a call is issued. -/
def CallAllowed (s : Session) (h : SessionHistory) : Call → Prop
  | .attach _ => s.attached = false
  | .detach _ => s.attached = true ∧ HaltKnown h ∧ s.swTable = []
  | .reset _ _ => s.attached = true ∧ HaltKnown h ∧ s.swTable = [] ∧ runConfig h = clearedConfig
  | .pollHalted => s.attached = true
  | .halt _ => s.attached = true
  | .resume _ _ => s.attached = true
  | .readRegs _ _ => s.attached = true ∧ HaltKnown h
  | .writeRegs _ => s.attached = true ∧ HaltKnown h
  | .readMem access address size width =>
    s.attached = true ∧ ReadAllowed s h access address size width
  | .writeMem access address bytes width =>
    s.attached = true ∧ WriteAllowed s h access address bytes width
  | .applyBreakpoints _ => s.attached = true ∧ HaltKnown h
  | .applyWatchpoints _ => s.attached = true ∧ HaltKnown h
  | .setVectorCatch _ => s.attached = true ∧ HaltKnown h

/-- Calls whose answer changes what the session owns or has patched: they are part of a move. -/
def Call.Settles : Call → Answer → Prop
  | .attach _, a => a.code = .ok
  | .detach _, a => a.code = .ok
  | .writeMem (.request _ _) _ _ _, a => a.code = .ok
  | .writeMem .patch _ _ _, _ => True
  | .writeMem .restore _ _ _, a => a.code = .ok
  | .resume _ _, _ => True
  | _, _ => False

/-! Session fields across a move. -/

/-- The session with another shadow table. -/
def Session.withTable (s : Session) (table : List SwBp) : Session := { s with swTable := table }

@[simp] theorem Session.withTable_swTable (s : Session) (table : List SwBp) :
    (s.withTable table).swTable = table := rfl

@[simp] theorem Session.withTable_withTable (s : Session) (table table' : List SwBp) :
    (s.withTable table).withTable table' = s.withTable table' := rfl

@[simp] theorem Session.withTable_self (s : Session) : s.withTable s.swTable = s := rfl

/-- The target side is unchanged: ownership, memory map, shadow table and the latch. -/
structure SameTarget (s s' : Session) : Prop where
  attached : s'.attached = s.attached
  transportDead : s'.transportDead = s.transportDead
  regions : s'.regions = s.regions
  swTable : s'.swTable = s.swTable

/-- No field changes that a move is about. -/
structure SameCore (s s' : Session) : Prop extends SameTarget s s' where
  state : s'.state = s.state
  stopId : s'.stopId = s.stopId
  report : s.state = .halted →
    s'.stopReported = s.stopReported ∧ s'.pendingDetail = s.pendingDetail

/-- An attachment whose map was sent, over a transport that only a sink can have closed. -/
structure Active (s : Session) (h : SessionHistory) : Prop where
  attached : s.attached = true
  mapped : advertisedMap h = some s.regions
  live : s.transportDead = true → Rejected h

/-- A new stop generation that is not reported yet. -/
structure StopEntered (s s' : Session) (stop : StopDetect) : Prop extends SameTarget s s' where
  state : s'.state = .halted
  stopId : s'.stopId = s.stopId + 1
  fresh : s'.stopId ≠ 0
  unreported : s'.stopReported = false
  detail : s'.pendingDetail = stop.dfsr

/-- A session with its history. -/
abbrev Config := Session × SessionHistory

/-- What the input at hand allows: after which histories LOST may be left, and which resume the
user may see. -/
structure Policy where
  leave : SessionHistory → Prop
  resume : UInt8 → UInt64 → Session → SessionHistory → Prop

inductive Move (policy : Policy) : Config → Config → Prop
  | keep {s s' h} (same : SameCore s s') : Move policy (s, h) (s', h)
  | call {s h} (c : Call) (a : Answer) (allowed : CallAllowed s h c) (plain : ¬c.Settles a) :
      Move policy (s, h) (s, h ++ [⟨.call s c, a⟩])
  | resume {s h} (action : UInt8) (address : UInt64) (a : Answer) (attached : s.attached = true)
      (planned : s.swStepOverPending = true ∨ policy.resume action address s h) :
      Move policy (s, h) (s, h ++ [⟨.call s (.resume action address), a⟩])
  | attach {s h} (params : AttachParams) (a : Answer) (info : AttachInfo)
      (regions : List MemoryRegion) (free : s.attached = false) (state : s.state = .detached)
      (ok : a.code = .ok) :
      Move policy (s, h)
        ({ s.attachedWith info with regions := regions }, h ++ [⟨.call s (.attach params), a⟩])
  | detach {s h} (action : UInt8) (a : Answer) (state : s.state ≠ .lost ∨ policy.leave h)
      (allowed : CallAllowed s h (.detach action)) (ok : a.code = .ok) :
      Move policy (s, h) (s.detachedState, h ++ [⟨.call s (.detach action), a⟩])
  | advertise {s h f b n accepted} (alive : s.transportDead = false)
      (map : advertisedBy f = some s.regions) :
      Move policy (s, h) (s.framed b n (!accepted), h ++ [⟨.offer f, accepted⟩])
  | respond {s h f b n accepted} (alive : s.transportDead = false) (response : isResponse f = true)
      (map : advertisedBy f = none) :
      Move policy (s, h) (s.framed b n (!accepted), h ++ [⟨.offer f, accepted⟩])
  | report {s h f b n accepted} (alive : s.transportDead = false) (state : s.state = .halted)
      (unreported : s.stopReported = false) (frame : StoppedFrame s f) :
      Move policy (s, h)
        ({ s with stopReported := accepted }.framed b n (!accepted), h ++ [⟨.offer f, accepted⟩])
  | lose {s s' h evs reason} (state : s.state ≠ .lost) (lost : s'.state = .lost)
      (attached : s'.attached = s.attached) (regions : s'.regions = s.regions)
      (swTable : s'.swTable = s.swTable)
      (offered : Offered s (LostFrame reason) s'.transportDead evs) :
      Move policy (s, h) (s', h ++ evs)
  | halt {s s' h stop} (state : s.state ≠ .lost) (active : Active s h)
      (seen : haltView h = some ⟨stop, []⟩) (entered : StopEntered s s' stop) :
      Move policy (s, h) (s', h)
  | run {s s' h} (state : s.state ≠ .lost ∨ policy.leave h) (active : Active s h)
      (running : s'.state = .running) (stopId : s'.stopId = s.stopId) (same : SameTarget s s') :
      Move policy (s, h) (s', h)
  | hangUp {s h} : Move policy (s, h) ({ s with transportDead := true }, h)
  | abandon {s h} (dead : s.transportDead = true) :
      Move policy (s, h) ({ s with state := .lost }, h)
  | arm {s h} (index : ℕ) (entry : SwBp) (a : Answer) (attached : s.attached = true)
      (halted : HaltKnown h) (get : s.swTable[index]? = some entry) :
      Move policy (s, h)
        (s.withTable (s.swTable.modify index SwBp.install),
          h ++ [⟨.call (s.withTable (s.swTable.modify index SwBp.install))
            (.writeMem .patch entry.address bkptPatch MemWidth.default), a⟩])
  | restore {s h} (index : ℕ) (entry : SwBp) (a : Answer) (attached : s.attached = true)
      (halted : HaltKnown h) (get : s.swTable[index]? = some entry)
      (installed : entry.installed = true) (ok : a.code = .ok) :
      Move policy (s, h)
        (s.withTable (s.swTable.modify index SwBp.uninstall),
          h ++ [⟨.call s
            (.writeMem .restore entry.address entry.originalBytes MemWidth.default), a⟩])
  | compact {s h} (table : List SwBp) (inside : ∀ entry ∈ table, entry ∈ s.swTable)
      (keeps : ∀ entry ∈ s.swTable, entry.installed = true → entry ∈ table)
      (shorter : table.length ≤ s.swTable.length) : Move policy (s, h) (s.withTable table, h)
  | record {s h} (entry : BpEntry) (a : Answer)
      (allowed : CallAllowed s h
        (.readMem .original entry.address entry.instructionSize.toNat MemWidth.default))
      (size : entry.instructionSize = 2 ∨ entry.instructionSize = 4) (ok : a.code = .ok)
      (room : s.swTable.length ≠ maxSoftwareBreakpoints) :
      Move policy (s, h)
        (s.withTable (s.swTable ++ [entry.recorded a.data]),
          h ++ [⟨.call s (.readMem .original entry.address entry.instructionSize.toNat
            MemWidth.default), a⟩])
  | write {s h} (flags : UInt16) (data : List UInt8) (address : UInt64) (width : UInt8) (a : Answer)
      (allowed : CallAllowed s h
        (.writeMem (.request flags data) address (writeImage s.swTable address data) width))
      (armed : ∀ entry ∈ s.swTable, entry.installed = true) (ok : a.code = .ok) :
      Move policy (s, h)
        (s.withTable (swBpWriteOverlap s.swTable address data),
          h ++ [⟨.call s (.writeMem (.request flags data) address
            (writeImage s.swTable address data) width), a⟩])

abbrev Moves (policy : Policy) : Config → Config → Prop :=
  Relation.ReflTransGen (Move policy)

variable {policy : Policy}

theorem Move.extends {c c' : Config} (hm : Move policy c c') : ∃ evs, c'.2 = c.2 ++ evs := by
  cases hm <;> first | exact ⟨_, rfl⟩ | exact ⟨[], (List.append_nil _).symm⟩

/-- What every move keeps holds after any number of moves. -/
theorem Moves.invariant {P : Session → SessionHistory → Prop}
    (hstep : ∀ s h s' h', Move policy (s, h) (s', h') → P s h → P s' h')
    {s s' : Session} {h h' : SessionHistory} (hm : Moves policy (s, h) (s', h')) (hp : P s h) :
    P s' h' := by
  have hall : ∀ c, Moves policy (s, h) c → P c.1 c.2 := by
    intro c hc
    induction hc with
    | refl => exact hp
    | tail _ step ih => exact hstep _ _ _ _ step ih
  exact hall _ hm

theorem SameTarget.refl (s : Session) : SameTarget s s := ⟨rfl, rfl, rfl, rfl⟩

theorem SameTarget.trans {s s' s'' : Session} (h : SameTarget s s') (h' : SameTarget s' s'') :
    SameTarget s s'' :=
  ⟨h'.attached.trans h.attached, h'.transportDead.trans h.transportDead,
    h'.regions.trans h.regions, h'.swTable.trans h.swTable⟩

end SidpClient
