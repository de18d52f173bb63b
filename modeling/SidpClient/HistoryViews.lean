import SidpClient.SessionFrameSpecs

/-! What an observer reads from a history: which frames were sent and what the backend was told. -/
namespace SidpClient
open LittleEndian

def frameKind (f : List UInt8) : UInt8 := getU8 f 1
def frameOpcode (f : List UInt8) : UInt16 := getU16 f 2
def frameRequestId (f : List UInt8) : UInt32 := getU32 f 4
def frameStatus (f : List UInt8) : UInt32 := getU32 f headerSize
def stoppedFrameId (f : List UInt8) : UInt32 := getU32 f headerSize

def isResponse (f : List UInt8) : Bool := frameKind f == MsgKind.response

def isEvent (f : List UInt8) : Bool := frameKind f == MsgKind.event

def isStopped (f : List UInt8) : Bool := isEvent f && frameOpcode f == Opcode.stopped

def isTargetLost (f : List UInt8) : Bool := isEvent f && frameOpcode f == Opcode.targetLost

def isAccepted (opcode : UInt16) (f : List UInt8) : Bool :=
  isResponse f && frameOpcode f == opcode && frameStatus f == Status.ok.value

/-- The memory map of an ATTACH response with STATUS_OK. -/
def advertisedBy (f : List UInt8) : Option (List MemoryRegion) :=
  if isResponse f ∧ frameOpcode f = Opcode.attach ∧ frameStatus f = Status.ok.value then
    some (parseMap (f.drop (headerSize + attachResponseSize)))
  else none

/-- The frames offered to the sink, in order. -/
def offered : SessionHistory → List (List UInt8)
  | [] => []
  | ⟨.offer f, _⟩ :: h => f :: offered h
  | ⟨.call _ _, _⟩ :: h => offered h

/-- Some offered frame was not accepted. -/
def Rejected (h : SessionHistory) : Prop := ∃ f, (⟨.offer f, false⟩ : SessionEvent) ∈ h

theorem Rejected.mono {h h' : SessionHistory} (hr : Rejected h) (hp : h <+: h') : Rejected h' := by
  obtain ⟨f, hf⟩ := hr
  exact ⟨f, hp.subset hf⟩

theorem Rejected.append {h : SessionHistory} (hr : Rejected h) (evs : SessionHistory) :
    Rejected (h ++ evs) := hr.mono (List.prefix_append _ _)

/-- The backend calls with their answers, in order. -/
def calls : SessionHistory → List (Call × Answer)
  | [] => []
  | ⟨.offer _, _⟩ :: h => calls h
  | ⟨.call _ c, a⟩ :: h => (c, a) :: calls h

theorem offered_append (h h' : SessionHistory) : offered (h ++ h') = offered h ++ offered h' := by
  induction h with
  | nil => rfl
  | cons ev h ih =>
    obtain ⟨e, r⟩ := ev
    cases e with
    | call s c => exact ih
    | offer f => exact congrArg (f :: ·) ih

theorem calls_append (h h' : SessionHistory) : calls (h ++ h') = calls h ++ calls h' := by
  induction h with
  | nil => rfl
  | cons ev h ih =>
    obtain ⟨e, r⟩ := ev
    cases e with
    | call s c => exact congrArg ((c, r) :: ·) ih
    | offer f => exact ih

/-- A value read off a history event by event. -/
def view {β : Type} (step : β → SessionEvent → β) (start : β) (h : SessionHistory) : β :=
  h.foldl step start

@[simp] theorem view_nil {β : Type} {step : β → SessionEvent → β} {start : β} :
    view step start [] = start := rfl

@[simp] theorem view_concat {β : Type} {step : β → SessionEvent → β} {start : β}
    {h : SessionHistory} {ev : SessionEvent} :
    view step start (h ++ [ev]) = step (view step start h) ev := by
  simp [view]

/-- Events that a view does not look at leave it as it is. -/
theorem view_append_of_blind {β : Type} {step : β → SessionEvent → β} {start : β}
    {h evs : SessionHistory} (hb : ∀ ev ∈ evs, ∀ b, step b ev = b) :
    view step start (h ++ evs) = view step start h := by
  induction evs generalizing h with
  | nil => rw [List.append_nil]
  | cons ev evs ih =>
    rw [List.append_cons, ih fun ev' hev' => hb ev' (List.mem_cons_of_mem _ hev'), view_concat,
      hb ev List.mem_cons_self]

/-! The last halt. -/

/-- A halt the session observed, and the STOPPED frames offered since. -/
structure HaltReport where
  stop : StopDetect
  frames : List (List UInt8)

/-- Halting calls that return ESP_OK, and a poll that says so, establish that the target is
halted. Only resume, reset and a completed detach end that. -/
def haltViewCall (report : Option HaltReport) (c : Call) (a : Answer) : Option HaltReport :=
  match c with
  | .halt _ => if a.code = .ok then some ⟨a.stop, []⟩ else report
  | .pollHalted => if a.code = .ok ∧ a.stop.halted = true then some ⟨a.stop, []⟩ else report
  | .reset _ haltAfter => if a.code = .ok ∧ haltAfter = true then some ⟨a.stop, []⟩ else none
  | .resume _ _ => none
  | .detach _ => if a.code = .ok then none else report
  | _ => report

def haltViewStep (report : Option HaltReport) : SessionEvent → Option HaltReport
  | ⟨.call _ c, a⟩ => haltViewCall report c a
  | ⟨.offer f, _⟩ =>
    if isStopped f then report.map fun r => { r with frames := r.frames ++ [f] } else report

def haltView (h : SessionHistory) : Option HaltReport := view haltViewStep none h

/-- No resume and no reset was issued since the last observed halt. -/
def HaltKnown (h : SessionHistory) : Prop := ∃ report, haltView h = some report

/-! The run configuration. -/

/-- What the comparators, watchpoints and vector catch hold, as far as their last call said so. -/
structure RunConfig where
  breakpoints : Option (List BpEntry) := none
  watchpoints : Option (List WpEntry) := none
  vectors : Option UInt32 := none
deriving DecidableEq

def runConfigCall (config : RunConfig) (c : Call) (a : Answer) : RunConfig :=
  match c with
  | .applyBreakpoints entries =>
    { config with breakpoints := if a.code = .ok then some entries else none }
  | .applyWatchpoints entries =>
    { config with watchpoints := if a.code = .ok then some entries else none }
  | .setVectorCatch mask => { config with vectors := if a.code = .ok then some mask else none }
  | _ => config

def runConfigStep (config : RunConfig) : SessionEvent → RunConfig
  | ⟨.call _ c, a⟩ => runConfigCall config c a
  | ⟨.offer _, _⟩ => config

def runConfig (h : SessionHistory) : RunConfig := view runConfigStep {} h

def clearedConfig : RunConfig := ⟨some [], some [], some 0⟩

/-! Attachments. -/

/-- The memory map sent in the current attachment, if it was sent yet. -/
def advertisedCall (map : Option (List MemoryRegion)) (c : Call) (a : Answer) :
    Option (List MemoryRegion) :=
  match c with
  | .attach _ => if a.code = .ok then none else map
  | _ => map

def advertisedStep (map : Option (List MemoryRegion)) : SessionEvent → Option (List MemoryRegion)
  | ⟨.call _ c, a⟩ => advertisedCall map c a
  | ⟨.offer f, _⟩ => (advertisedBy f).or map

def advertisedMap (h : SessionHistory) : Option (List MemoryRegion) := view advertisedStep none h

def ownsCall (owns : Bool) (c : Call) (a : Answer) : Bool :=
  match c with
  | .attach _ => if a.code = .ok then true else owns
  | .detach _ => if a.code = .ok then false else owns
  | _ => owns

def ownsStep (owns : Bool) : SessionEvent → Bool
  | ⟨.call _ c, a⟩ => ownsCall owns c a
  | ⟨.offer _, _⟩ => owns

/-- The last attach that returned ESP_OK has no later detach that did. -/
def ownsTarget (h : SessionHistory) : Bool := view ownsStep false h

/-! Halts and resets that the backend confirmed. -/

structure Confirmations where
  halts : ℕ := 0
  confirmedHalts : ℕ := 0
  resets : ℕ := 0
deriving DecidableEq

def confirmationsCall (n : Confirmations) (c : Call) (a : Answer) : Confirmations :=
  match c with
  | .halt _ =>
    if a.code = .ok then
      { n with
        halts := n.halts + 1
        confirmedHalts := n.confirmedHalts + if a.stop.halted then 1 else 0 }
    else n
  | .reset _ _ => if a.code = .ok then { n with resets := n.resets + 1 } else n
  | _ => n

def confirmationsStep (n : Confirmations) : SessionEvent → Confirmations
  | ⟨.call _ c, a⟩ => confirmationsCall n c a
  | ⟨.offer _, _⟩ => n

def confirmations (h : SessionHistory) : Confirmations := view confirmationsStep {} h

section
variable {h : SessionHistory} {s : Session} {c : Call} {a : Answer} {f : List UInt8}
  {accepted : Bool}

@[simp] theorem haltView_call :
    haltView (h ++ [⟨.call s c, a⟩]) = haltViewCall (haltView h) c a := view_concat

@[simp] theorem runConfig_call :
    runConfig (h ++ [⟨.call s c, a⟩]) = runConfigCall (runConfig h) c a := view_concat

@[simp] theorem advertisedMap_call :
    advertisedMap (h ++ [⟨.call s c, a⟩]) = advertisedCall (advertisedMap h) c a := view_concat

@[simp] theorem ownsTarget_call :
    ownsTarget (h ++ [⟨.call s c, a⟩]) = ownsCall (ownsTarget h) c a := view_concat

@[simp] theorem confirmations_call :
    confirmations (h ++ [⟨.call s c, a⟩]) = confirmationsCall (confirmations h) c a := view_concat

@[simp] theorem haltView_offer :
    haltView (h ++ [⟨.offer f, accepted⟩]) =
      if isStopped f then (haltView h).map fun r => { r with frames := r.frames ++ [f] }
      else haltView h := view_concat

@[simp] theorem runConfig_offer : runConfig (h ++ [⟨.offer f, accepted⟩]) = runConfig h :=
  view_concat

@[simp] theorem advertisedMap_offer :
    advertisedMap (h ++ [⟨.offer f, accepted⟩]) = (advertisedBy f).or (advertisedMap h) :=
  view_concat

@[simp] theorem ownsTarget_offer : ownsTarget (h ++ [⟨.offer f, accepted⟩]) = ownsTarget h :=
  view_concat

@[simp] theorem confirmations_offer :
    confirmations (h ++ [⟨.offer f, accepted⟩]) = confirmations h := view_concat

@[simp] theorem calls_offer :
    calls (h ++ [⟨.offer f, accepted⟩]) = calls h := by simp [calls_append, calls]

@[simp] theorem calls_call :
    calls (h ++ [⟨.call s c, a⟩]) = calls h ++ [(c, a)] := by simp [calls_append, calls]

theorem calls_length_mono {h' : SessionHistory} (hp : h <+: h') :
    (calls h).length ≤ (calls h').length := by
  obtain ⟨evs, rfl⟩ := hp
  rw [calls_append, List.length_append]
  omega

@[simp] theorem offered_call : offered (h ++ [⟨.call s c, a⟩]) = offered h := by
  simp [offered_append, offered]

@[simp] theorem offered_offer : offered (h ++ [⟨.offer f, accepted⟩]) = offered h ++ [f] := by
  simp [offered_append, offered]

end

/-! Stretches of a history that the views do not notice. -/

/-- Nothing between two histories halts, resumes or resets the target or sends a memory map. -/
structure KeepsHalt (h h' : SessionHistory) : Prop where
  halt : haltView h' = haltView h
  map : advertisedMap h' = advertisedMap h
  confirmed : confirmations h' = confirmations h
  grows : h <+: h'

/-- Nor does anything change the run configuration. -/
structure Keeps (h h' : SessionHistory) : Prop extends KeepsHalt h h' where
  config : runConfig h' = runConfig h

theorem KeepsHalt.trans {h h' h'' : SessionHistory} (k : KeepsHalt h h') (k' : KeepsHalt h' h'') :
    KeepsHalt h h'' :=
  ⟨k'.halt.trans k.halt, k'.map.trans k.map, k'.confirmed.trans k.confirmed, k.grows.trans k'.grows⟩

theorem KeepsHalt.rejected {h h' : SessionHistory} (k : KeepsHalt h h') (hr : Rejected h) :
    Rejected h' := hr.mono k.grows

theorem Keeps.refl (h : SessionHistory) : Keeps h h := ⟨⟨rfl, rfl, rfl, List.prefix_rfl⟩, rfl⟩

theorem Keeps.trans {h h' h'' : SessionHistory} (k : Keeps h h') (k' : Keeps h' h'') :
    Keeps h h'' :=
  ⟨k.toKeepsHalt.trans k'.toKeepsHalt, k'.config.trans k.config⟩

theorem KeepsHalt.known {h h' : SessionHistory} (k : KeepsHalt h h') (hk : HaltKnown h) :
    HaltKnown h' := by
  obtain ⟨report, hr⟩ := hk
  exact ⟨report, k.halt.trans hr⟩

/-- Calls that only move bytes between the session and the target. -/
def Call.movesData : Call → Bool
  | .readRegs _ _ => true
  | .writeRegs _ => true
  | .readMem _ _ _ _ => true
  | .writeMem _ _ _ _ => true
  | _ => false

theorem keeps_movesData {h : SessionHistory} {s : Session} {c : Call} {a : Answer}
    (hc : c.movesData = true) : Keeps h (h ++ [⟨.call s c, a⟩]) := by
  cases c with
  | readRegs | writeRegs | readMem | writeMem =>
    exact ⟨⟨haltView_call, advertisedMap_call, confirmations_call, List.prefix_append _ _⟩,
      runConfig_call⟩
  | _ => exact absurd hc Bool.false_ne_true

theorem keeps_offer {h : SessionHistory} {f : List UInt8} {accepted : Bool}
    (hs : isStopped f = false) (hm : advertisedBy f = none) :
    Keeps h (h ++ [⟨.offer f, accepted⟩]) :=
  ⟨⟨by simp [hs], by simp [hm], confirmations_offer, List.prefix_append _ _⟩, runConfig_offer⟩

end SidpClient
