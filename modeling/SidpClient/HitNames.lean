import SidpClient.HitStops
import SidpClient.StepOverIssue

/-! A STOPPED frame names the breakpoint whose patch was executed, where the lookup meets that patch
first. -/
namespace SidpClient
open LittleEndian Interactive

variable {s s' s₀ : Session} {h h' h₀ evs : SessionHistory} {f payload message : List UInt8}
  {stop : StopDetect} {req : RunRequest} {ids : List UInt32} {requestId : UInt32}

/-! How a target tells of a breakpoint. -/

/-- Where the PC stands when a patch has halted the target: behind it, or on it. -/
inductive PcConvention where
  | advanced | notAdvanced
deriving DecidableEq, Repr

def PcConvention.haltPc : PcConvention → UInt64 → UInt64
  | .advanced, address => address + 2
  | .notAdvanced, address => address

/-- A stop that nothing of higher priority accounts for. -/
structure Uncaught (stop : StopDetect) : Prop where
  lockup : stop.lockup = false
  watchpoint : stop.watchpointMatch = false
  trap : stop.dfsr &&& Dfsr.dwtTrap = 0

/-- The target halted because it executed the patch at this address. -/
structure ExecutedPatch (convention : PcConvention) (address : UInt64) (stop : StopDetect) :
    Prop extends
    Uncaught stop where
  comparator : stop.comparatorMatch = false
  bkpt : stop.dfsr &&& Dfsr.bkpt ≠ 0
  pc : stop.pc.toUInt64 = convention.haltPc address

/-- A comparator halted the target, and not at the end of a RUN_TO_ADDRESS. -/
structure ComparatorHit (req : RunRequest) (stop : StopDetect) : Prop extends Uncaught stop where
  comparator : stop.comparatorMatch = true
  elsewhere : ¬(req.action = RunAction.toAddress ∧ stop.pc.toUInt64 = req.runToAddress)

/-- The frame names the breakpoint, and the session is to step over its instruction. -/
structure NamesHit (e : BpEntry) (f : List UInt8) (s' : Session) : Prop where
  reason : stoppedFrameReason f = StopReason.breakpoint.value
  breakpoint : stoppedFrameBreakpoint f = e.breakpointId
  pc : ∀ pc, stoppedFramePc f = some pc → pc = e.address.toUInt32
  pending : s'.swStepOverPending = true
  address : s'.swStepOverAddress = e.address

/-- The lookup meets the patch of a breakpoint first: it is there, and where the PC does not advance
there is none two bytes before it. -/
def MetFirst (convention : PcConvention) (e : BpEntry) (keys : List PatchKey) : Prop :=
  (∃ k ∈ keys, k.1 = e.breakpointId ∧ k.2.1 = e.address) ∧
    (convention = .notAdvanced → ∀ k ∈ keys, k.2.1 + 2 ≠ e.address)

/-! The lookup. -/

/-- Where every entry is installed the search by address finds what stands there. -/
theorem swBpFindInstalled_iff (spaced : Spaced s.swTable)
    (armed : ∀ entry ∈ s.swTable, entry.installed = true)
    {address : UInt64} {entry : SwBp} :
    swBpFindInstalled s.swTable address = some entry ↔
      entry ∈ s.swTable ∧ entry.address = address := by
  constructor
  · intro found
    rw [swBpFindInstalled] at found
    cases hf : swBpFindByAddress s.swTable address with
    | none =>
      rw [hf] at found
      exact absurd found (by simp)
    | some index =>
      simp only [hf, Option.filter_eq_some_iff] at found
      obtain ⟨get, -⟩ := found
      obtain ⟨hlt, hp, -⟩ := List.findIdx?_eq_some_iff_getElem.mp hf
      obtain ⟨_, rfl⟩ := List.getElem?_eq_some_iff.mp get
      exact ⟨List.getElem_mem hlt, by simpa using hp⟩
  · rintro ⟨hm, rfl⟩
    cases hf : swBpFindByAddress s.swTable entry.address with
    | none =>
      have missed := List.findIdx?_eq_none_iff.mp hf entry hm
      exact absurd missed (by simp)
    | some index =>
      obtain ⟨hlt, hp, -⟩ := List.findIdx?_eq_some_iff_getElem.mp hf
      have there : s.swTable[index] = entry :=
        spaced.address_unique (List.getElem_mem hlt) hm (by simpa using hp)
      simp only [swBpFindInstalled, hf, List.getElem?_eq_getElem hlt, there]
      simp [armed entry hm]

theorem SwBp.Placed.add_two_eq_iff {entry : SwBp} (hp : entry.Placed) (pc : UInt64) :
    entry.address + 2 = pc ↔ 2 ≤ pc ∧ entry.address = pc - 2 := by
  have two : (2 : UInt64).toNat = 2 := rfl
  have ahead := hp.halfword_toNat
  constructor
  · rintro rfl
    refine ⟨?_, ?_⟩
    · rw [UInt64.le_iff_toNat_le, ahead, two]
      omega
    · rw [UInt64.add_sub_cancel]
  · rintro ⟨-, same⟩
    rw [same, UInt64.sub_add_cancel]

/-- The entry in front of the PC is found before the one at it. -/
theorem swBpFindByHaltPc_iff (hs : Shadowed s h) (spaced : Spaced s.swTable)
    (armed : ∀ entry ∈ s.swTable, entry.installed = true)
    {pc : UInt64} {entry : SwBp} :
    swBpFindByHaltPc s.swTable pc = some entry ↔ entry ∈ s.swTable ∧
      (entry.address + 2 = pc ∨ (entry.address = pc ∧ ∀ other ∈ s.swTable,
        other.address + 2 ≠ pc)) := by
  have found (e : SwBp) : (if pc ≥ 2 then swBpFindInstalled s.swTable (pc - 2) else none) = some e ↔
      e ∈ s.swTable ∧ e.address + 2 = pc := by
    constructor
    · intro hf
      split at hf
      · rename_i low
        obtain ⟨hm, same⟩ := (swBpFindInstalled_iff spaced armed).mp hf
        exact ⟨hm, ((hs.placed e hm).add_two_eq_iff pc).mpr ⟨low, same⟩⟩
      · exact absurd hf (by simp)
    · rintro ⟨hm, same⟩
      obtain ⟨low, place⟩ := ((hs.placed e hm).add_two_eq_iff pc).mp same
      rw [if_pos low]
      exact (swBpFindInstalled_iff spaced armed).mpr ⟨hm, place⟩
  rw [swBpFindByHaltPc]
  cases front : (if pc ≥ 2 then swBpFindInstalled s.swTable (pc - 2) else none) with
  | some first =>
    obtain ⟨hm, same⟩ := (found first).mp front
    constructor
    · intro he
      obtain rfl := Option.some.inj he
      exact ⟨hm, Or.inl same⟩
    · rintro ⟨he, behind | ⟨-, none⟩⟩
      · have again := (found entry).mpr ⟨he, behind⟩
        rw [front] at again
        exact again
      · exact absurd same (none first hm)
  | none =>
    have absent (e : SwBp) (hm : e ∈ s.swTable) : e.address + 2 ≠ pc := by
      intro same
      rw [(found e).mpr ⟨hm, same⟩] at front
      exact absurd front (by simp)
    dsimp only
    rw [swBpFindInstalled_iff spaced armed]
    constructor
    · rintro ⟨hm, same⟩
      exact ⟨hm, Or.inr ⟨same, absent⟩⟩
    · rintro ⟨hm, behind | ⟨same, -⟩⟩
      · exact absurd behind (absent entry hm)
      · exact ⟨hm, same⟩

/-! The classification of a breakpoint. -/

theorem classifyStop_patch {convention : PcConvention} {address : UInt64}
    (executed : ExecutedPatch convention address stop) : classifyStop s stop =
      match swBpFindByHaltPc s.swTable (convention.haltPc address) with
      | some sw => { reason := .breakpoint, breakpointId := sw.id, stepOver := some sw.address }
      | none => { reason := .breakpoint } := by
  have hit : softwareHit s.swTable stop = swBpFindByHaltPc s.swTable
      (convention.haltPc address) := by
    rw [softwareHit, if_pos (by simp [executed.comparator, executed.bkpt]), executed.pc]
  have watch : ¬(stop.watchpointMatch = true ∨ stop.dfsr &&& Dfsr.dwtTrap ≠ 0) := by
    simp [executed.watchpoint, executed.trap]
  have prior : ¬(s.runToActive = true ∧ stop.comparatorMatch = true ∧
      stop.pc.toUInt64 = s.activeRunToAddress) := by
    simp [executed.comparator]
  have software : (!stop.comparatorMatch) = true ∧ stop.dfsr &&& Dfsr.bkpt ≠ 0 := by
    simp [executed.comparator, executed.bkpt]
  unfold classifyStop
  simp only [executed.lockup, Bool.false_eq_true, if_false, if_neg watch, if_neg prior,
    if_pos software]
  cases found : swBpFindByHaltPc s.swTable (convention.haltPc address) with
  | none =>
    have none : softwareHit s.swTable stop = none := hit.trans found
    simp only [none]
  | some sw =>
    have some : softwareHit s.swTable stop = some sw := hit.trans found
    simp only [some]

theorem classifyStop_comparator (hit : ComparatorHit req stop)
    (address : s.runToActive = true → req.action = RunAction.toAddress ∧
      s.activeRunToAddress = req.runToAddress) :
    classifyStop s stop =
      { reason := .breakpoint
        breakpointId := (s.hwBreakpointIds[stop.comparatorIndex.toNat]?).getD 0 } := by
  have watch : ¬(stop.watchpointMatch = true ∨ stop.dfsr &&& Dfsr.dwtTrap ≠ 0) := by
    simp [hit.watchpoint, hit.trap]
  have other : ¬(s.runToActive = true ∧ stop.comparatorMatch = true ∧
      stop.pc.toUInt64 = s.activeRunToAddress) := by
    rintro ⟨active, -, pc⟩
    obtain ⟨toAddress, same⟩ := address active
    exact hit.elsewhere ⟨toAddress, pc.trans same⟩
  rw [classifyStop, if_neg (by simp [hit.lockup]), if_neg watch, if_neg other,
    if_neg (by simp [hit.comparator]), if_pos (Or.inl hit.comparator), if_pos hit.comparator]

/-- A stop on a patch is reported for the entry the lookup meets first. -/
theorem namesHit_iff {convention : PcConvention} {e : BpEntry} (hs : Shadowed s' h)
    (spaced : Spaced s'.swTable) (armed : ∀ entry ∈ s'.swTable, entry.installed = true)
    (table : s₀.swTable = s'.swTable) (executed : ExecutedPatch convention e.address stop)
    (told : Told (classifyStop s₀ stop) f s') :
    NamesHit e f s' ↔ MetFirst convention e s'.patchKeys := by
  have lookup (entry : SwBp) : swBpFindByHaltPc s'.swTable (convention.haltPc e.address) =
      some entry ↔ _ :=
    swBpFindByHaltPc_iff hs spaced armed
  have called := classifyStop_patch (s := s₀) executed
  rw [table] at called
  have keys (P : PatchKey → Prop) : (∃ k ∈ s'.patchKeys, P k) ↔ ∃ entry ∈ s'.swTable,
      P entry.key := by
    simp [Session.patchKeys]
  have noKeys : (∀ k ∈ s'.patchKeys, k.2.1 + 2 ≠ e.address) ↔
      ∀ entry ∈ s'.swTable, entry.address + 2 ≠ e.address := by
    simp [Session.patchKeys, SwBp.key]
  rw [MetFirst, keys, noKeys]
  cases found : swBpFindByHaltPc s'.swTable (convention.haltPc e.address) with
  | none =>
    rw [found] at called
    rw [called] at told
    constructor
    · intro names
      exact absurd (told.pending.symm.trans names.pending) (by simp)
    · rintro ⟨⟨entry, hm, -, same⟩, first⟩
      have met : swBpFindByHaltPc s'.swTable (convention.haltPc e.address) = some entry := by
        apply (lookup entry).mpr
        refine ⟨hm, ?_⟩
        cases convention with
        | advanced => exact Or.inl (congrArg (· + 2) same)
        | notAdvanced => exact Or.inr ⟨same, first rfl⟩
      rw [met] at found
      exact absurd found (by simp)
  | some sw =>
    rw [found] at called
    rw [called] at told
    obtain ⟨hm, place⟩ := (lookup sw).mp found
    constructor
    · intro names
      have same : sw.address = e.address := told.address.symm.trans names.address
      refine ⟨⟨sw, hm, told.carries.breakpoint.symm.trans names.breakpoint, same⟩, ?_⟩
      rintro rfl
      rcases place with behind | ⟨-, none⟩
      · -- no entry starts two bytes behind itself
        have ahead := (hs.placed sw hm).halfword_toNat
        rw [behind, same] at ahead
        exact absurd ahead (by simp [PcConvention.haltPc])
      · exact none
    · rintro ⟨⟨entry, hentry, id, same⟩, first⟩
      have met : sw = entry := by
        have again : swBpFindByHaltPc s'.swTable (convention.haltPc e.address) = some entry := by
          apply (lookup entry).mpr
          refine ⟨hentry, ?_⟩
          cases convention with
          | advanced => exact Or.inl (congrArg (· + 2) same)
          | notAdvanced => exact Or.inr ⟨same, first rfl⟩
        exact Option.some.inj (found.symm.trans again)
      subst met
      refine ⟨told.carries.reason, told.carries.breakpoint.trans id, ?_, told.pending,
        told.address.trans same⟩
      intro pc reported
      rw [told.pc sw.address rfl pc reported]
      exact congrArg UInt64.toUInt32 same

end SidpClient
