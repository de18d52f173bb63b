import SidpClient.RequestChecks

/-! Section 9 in plain numbers: which memory requests are admitted, whatever order the source checks
in. -/
namespace SidpClient
open LittleEndian

/-- The first region of a map that covers a range. -/
structure FirstCovering (map : List MemoryRegion) (address : UInt64) (length : ℕ)
    (region : MemoryRegion) : Prop where
  covers : region.Covers address length
  first : ∃ before after, map = before ++ region :: after ∧
    ∀ other ∈ before, ¬other.Covers address length

/-- What a region asks of a request that lies in it. -/
structure MemoryRegion.Admits (region : MemoryRegion) (req : MemoryRequest) (isWrite : Bool) :
    Prop where
  flash : isWrite = true → region.type ≠ MemoryType.flash
  flag : region.has (if isWrite then MemFlag.write else MemFlag.read) = true
  mmio : region.type = MemoryType.mmio → req.flags &&& MemAccess.allowMmio ≠ 0 ∧
    req.accessWidth.toNat ∈ [1, 2, 4] ∧ req.length.toNat = req.accessWidth.toNat ∧
    req.accessWidth.toNat ∣ req.address.toNat
  plain : region.type ≠ MemoryType.mmio → req.accessWidth.toNat = 0 ∨
    (req.accessWidth.toNat ∈ [1, 2, 4] ∧ req.accessWidth.toNat ∣ req.address.toNat ∧
      req.accessWidth.toNat ∣ req.length.toNat)

/-- One of the two stop modes is chosen, and it fits the target. -/
def ModeAdmitted (req : MemoryRequest) (state : TargetState) (stopId : UInt32) : Prop :=
  (req.flags &&& MemAccess.requireHalted ≠ 0 ∧ req.flags &&& MemAccess.allowRunning = 0 ∧
    state = .halted ∧ req.stopId = stopId) ∨
  (req.flags &&& MemAccess.requireHalted = 0 ∧ req.flags &&& MemAccess.allowRunning ≠ 0 ∧
    req.stopId = 0)

/-- The rules of section 9 for a READ_MEMORY or a WRITE_MEMORY payload. -/
structure AccessAdmitted (map : List MemoryRegion) (limit : ℕ) (state : TargetState)
    (stopId : UInt32) (payload : List UInt8) (isWrite : Bool) : Prop where
  size : payload.length = 20 + if isWrite then (MemoryRequest.parse payload).length.toNat else 0
  mode : ModeAdmitted (MemoryRequest.parse payload) state stopId
  some : 1 ≤ (MemoryRequest.parse payload).length.toNat
  most : (MemoryRequest.parse payload).length.toNat ≤ limit
  range : (MemoryRequest.parse payload).address.toNat +
    (MemoryRequest.parse payload).length.toNat < 2 ^ 64
  region : ∃ region, FirstCovering map (MemoryRequest.parse payload).address
    (MemoryRequest.parse payload).length.toNat region ∧
    region.Admits (MemoryRequest.parse payload) isWrite

variable {s : Session} {payload : List UInt8} {req : MemoryRequest} {isWrite : Bool}

/-! One check after the other. -/

theorem passed_iff {α : Type} {c : Prop} [Decidable c] {x y z : α} (hx : x ≠ z) :
    (if c then x else y) = z ↔ ¬c ∧ y = z := by
  constructor
  · intro h
    exact passed h hx
  · rintro ⟨hc, hy⟩
    rw [if_neg hc, hy]

theorem isExplicitWidth_iff (width : UInt8) :
    isExplicitWidth width = true ↔ width.toNat ∈ [1, 2, 4] := by
  have hone : width = 1 ↔ width.toNat = 1 := UInt8.toNat_inj.symm
  have htwo : width = 2 ↔ width.toNat = 2 := UInt8.toNat_inj.symm
  have hfour : width = 4 ↔ width.toNat = 4 := UInt8.toNat_inj.symm
  simp only [isExplicitWidth, MemWidth.width8, MemWidth.width16, MemWidth.width32,
    Bool.or_eq_true, beq_iff_eq, or_assoc, List.mem_cons, List.not_mem_nil, or_false,
      hone, htwo, hfour]

theorem mod_width64_iff (address : UInt64) (width : UInt8) :
    address % width.toUInt64 = 0 ↔ width.toNat ∣ address.toNat := by
  rw [← UInt64.toNat_inj, UInt64.toNat_mod, UInt8.toNat_toUInt64, UInt64.toNat_zero,
    Nat.dvd_iff_mod_eq_zero]

theorem mod_width32_iff (length : UInt32) (width : UInt8) :
    length % width.toUInt32 = 0 ↔ width.toNat ∣ length.toNat := by
  rw [← UInt32.toNat_inj, UInt32.toNat_mod, UInt8.toNat_toUInt32, UInt32.toNat_zero,
    Nat.dvd_iff_mod_eq_zero]

theorem length_width_iff (length : UInt32) (width : UInt8) :
    length = width.toUInt32 ↔ length.toNat = width.toNat := by
  rw [← UInt32.toNat_inj, UInt8.toNat_toUInt32]

theorem zero_iff_not_pos (length : UInt32) : length = 0 ↔ ¬1 ≤ length.toNat := by
  rw [← UInt32.toNat_inj, UInt32.toNat_zero]
  omega

/-- The region the source picks. -/
theorem find_covering_iff (map : List MemoryRegion) {address : UInt64} {length : UInt32}
    (hrange : address.toNat + length.toNat < 2 ^ 64) (region : MemoryRegion) :
    map.find? (·.contains address length.toUInt64) = some region ↔
      FirstCovering map address length.toNat region := by
  have hwide : address.toNat + length.toUInt64.toNat < 2 ^ 64 := by
    rwa [UInt32.toNat_toUInt64]
  have hcovers (other : MemoryRegion) : other.contains address length.toUInt64 = true ↔
      other.Covers address length.toNat := by
    rw [MemoryRegion.contains_iff hwide, UInt32.toNat_toUInt64]
  rw [List.find?_eq_some_iff_append, hcovers]
  constructor
  · rintro ⟨hc, before, after, hsplit, hbefore⟩
    refine ⟨hc, before, after, hsplit, fun other hm hcov => ?_⟩
    have hnot := hbefore other hm
    rw [(hcovers other).mpr hcov] at hnot
    exact absurd hnot (by decide)
  · rintro ⟨hc, before, after, hsplit, hbefore⟩
    refine ⟨hc, before, after, hsplit, fun other hm => ?_⟩
    rw [Bool.not_eq_true', Bool.eq_false_iff]
    exact fun hcov => hbefore other hm ((hcovers other).mp hcov)

/-- The checks on the region, in the order of the source. -/
theorem region_checks_iff (region : MemoryRegion) :
    (if region.type = MemoryType.flash ∧ isWrite = true then Status.unsupported
      else if !region.has (if isWrite then MemFlag.write else MemFlag.read) then .addressError
      else if region.type = MemoryType.mmio then
        if req.flags &&& MemAccess.allowMmio = 0 then .addressError
        else if !isExplicitWidth req.accessWidth then .invalidArgument
        else if req.length ≠ req.accessWidth.toUInt32 then .invalidArgument
        else if req.address % req.accessWidth.toUInt64 ≠ 0 then .alignmentError
        else .ok
      else if req.accessWidth ≠ MemWidth.default then
        if !isExplicitWidth req.accessWidth then .invalidArgument
        else if req.address % req.accessWidth.toUInt64 ≠ 0 ∨
          req.length % req.accessWidth.toUInt32 ≠ 0 then .alignmentError
        else .ok
      else .ok) = .ok ↔ region.Admits req isWrite := by
  rw [passed_iff (by decide), passed_iff (by decide), Bool.not_eq_true',
    Bool.not_eq_false, not_and']
  by_cases hm : region.type = MemoryType.mmio
  · rw [if_pos hm, passed_iff (by decide), passed_iff (by decide), passed_iff (by decide),
      passed_iff (by decide), Bool.not_eq_true', Bool.not_eq_false,
        isExplicitWidth_iff, ne_eq, not_not,
      ne_eq, not_not, length_width_iff, mod_width64_iff]
    constructor
    · rintro ⟨hflash, hflag, hallow, hwidth, hlength, halign, -⟩
      exact ⟨hflash, hflag, fun _ => ⟨hallow, hwidth, hlength, halign⟩, fun hplain =>
        absurd hm hplain⟩
    · rintro ⟨hflash, hflag, hmmio, -⟩
      obtain ⟨hallow, hwidth, hlength, halign⟩ := hmmio hm
      exact ⟨hflash, hflag, hallow, hwidth, hlength, halign, rfl⟩
  · rw [if_neg hm]
    have hdefault : req.accessWidth = MemWidth.default ↔ req.accessWidth.toNat = 0 :=
      UInt8.toNat_inj.symm
    by_cases hw : req.accessWidth = MemWidth.default
    · rw [if_neg (not_not.mpr hw)]
      constructor
      · rintro ⟨hflash, hflag, -⟩
        exact ⟨hflash, hflag, fun hmmio => absurd hmmio hm, fun _ => Or.inl (hdefault.mp hw)⟩
      · rintro ⟨hflash, hflag, -, -⟩
        exact ⟨hflash, hflag, rfl⟩
    · rw [if_pos hw, passed_iff (by decide), passed_iff (by decide), Bool.not_eq_true',
        Bool.not_eq_false, isExplicitWidth_iff, not_or, ne_eq, not_not, ne_eq, not_not,
        mod_width64_iff, mod_width32_iff]
      constructor
      · rintro ⟨hflash, hflag, hwidth, ⟨haddress, hlength⟩, -⟩
        exact ⟨hflash, hflag, fun hmmio => absurd hmmio hm,
          fun _ => Or.inr ⟨hwidth, haddress, hlength⟩⟩
      · rintro ⟨hflash, hflag, -, hplain⟩
        obtain hzero | ⟨hwidth, haddress, hlength⟩ := hplain hm
        · exact absurd (hdefault.mpr hzero) hw
        · exact ⟨hflash, hflag, hwidth, ⟨haddress, hlength⟩, rfl⟩

theorem validateMemoryAccess_iff (map : List MemoryRegion) :
    validateMemoryAccess map req.address req.length req.flags req.accessWidth isWrite = .ok ↔
      1 ≤ req.length.toNat ∧ req.address.toNat + req.length.toNat < 2 ^ 64 ∧
      ∃ region, FirstCovering map req.address req.length.toNat region ∧
        region.Admits req isWrite := by
  rw [validateMemoryAccess, passed_iff (by decide), not_or, zero_iff_not_pos, not_not, exceeds_iff,
    not_not, UInt32.toNat_toUInt64, and_assoc]
  refine and_congr_right fun _ => and_congr_right fun hrange => ?_
  cases hfind : map.find? (·.contains req.address req.length.toUInt64) with
  | none =>
    constructor
    · intro h
      exact absurd h (by simp)
    · rintro ⟨region, hfirst, -⟩
      rw [(find_covering_iff map hrange region).mpr hfirst] at hfind
      exact absurd hfind (by simp)
  | some region =>
    have hfirst := (find_covering_iff map hrange region).mp hfind
    constructor
    · intro h
      exact ⟨region, hfirst, (region_checks_iff region).mp h⟩
    · rintro ⟨other, hother, hadmits⟩
      rw [(find_covering_iff map hrange other).mpr hother] at hfind
      obtain rfl := Option.some.inj hfind
      exact (region_checks_iff other).mpr hadmits

/-! The two handlers' checks. -/

theorem bind_unit_iff {α : Type} {m : Except Status Unit} {f : Unit → Except Status α} {a : α} :
    (m >>= f) = .ok a ↔ m = .ok () ∧ f () = .ok a := by
  cases m with
  | error status => simp [bind, Except.bind]
  | ok u => simp [bind, Except.bind]

theorem checkStopMode_iff :
    checkStopMode s req = .ok () ↔
      (req.flags &&& MemAccess.requireHalted ≠ 0 → s.state = .halted ∧ req.stopId = s.stopId) ∧
      (req.flags &&& MemAccess.requireHalted = 0 → req.stopId = 0) := by
  simp only [checkStopMode, throw, throwThe, MonadExceptOf.throw]
  by_cases hmode : req.flags &&& MemAccess.requireHalted ≠ 0
  · rw [if_pos hmode, passed_iff (by simp [bind, Except.bind]), passed_iff (by simp), ne_eq,
      not_not, ne_eq, not_not]
    constructor
    · rintro ⟨hstate, hstop, -⟩
      exact ⟨fun _ => ⟨hstate, hstop⟩, fun hzero => absurd hzero hmode⟩
    · rintro ⟨hhalted, -⟩
      exact ⟨(hhalted hmode).1, (hhalted hmode).2, rfl⟩
  · rw [if_neg hmode, passed_iff (by simp), ne_eq, not_not]
    constructor
    · rintro ⟨hstop, -⟩
      exact ⟨fun hset => absurd hset hmode, fun _ => hstop⟩
    · rintro ⟨-, hrunning⟩
      exact ⟨hrunning (not_not.mp hmode), rfl⟩

theorem bothOrNeitherMode_iff (flags : UInt16) :
    bothOrNeitherMode flags = true ↔
      (flags &&& MemAccess.requireHalted = 0 ↔ flags &&& MemAccess.allowRunning = 0) := by
  rw [bothOrNeitherMode, beq_iff_eq, Bool.eq_iff_iff, bne_iff_ne, bne_iff_ne, not_iff_not]

/-- One mode is chosen and checked. -/
theorem mode_iff : ¬bothOrNeitherMode req.flags = true ∧ checkStopMode s req = .ok () ↔
    ModeAdmitted req s.state s.stopId := by
  rw [bothOrNeitherMode_iff, checkStopMode_iff, ModeAdmitted]
  by_cases hhalted : req.flags &&& MemAccess.requireHalted = 0
  · by_cases hrunning : req.flags &&& MemAccess.allowRunning = 0 <;> simp [hhalted, hrunning]
  · by_cases hrunning : req.flags &&& MemAccess.allowRunning = 0 <;> simp [hhalted, hrunning]

theorem most_iff (length limit : UInt32) : length > limit ↔ ¬length.toNat ≤ limit.toNat := by
  rw [gt_iff_lt, UInt32.lt_iff_toNat_lt, not_le]

/-- The frame has room for the longest transfer a session advertises. -/
theorem checkReadMemory_iff (limit : s.maxMemoryTransfer.toNat ≤ maxMemoryTransferLimit) :
    checkReadMemory s payload = .ok req ↔ req = MemoryRequest.parse payload ∧
      AccessAdmitted s.regions s.maxMemoryTransfer.toNat s.state s.stopId payload false := by
  simp only [checkReadMemory, throw, throwThe, MonadExceptOf.throw]
  rw [passed_iff (by simp [bind, Except.bind]), passed_iff (by simp [bind, Except.bind]),
    bind_unit_iff, passed_iff (by simp [bind, Except.bind]),
      passed_iff (by simp [bind, Except.bind]), ne_eq, not_not,
    ne_eq, not_not, validateMemoryAccess_iff, zero_iff_not_pos, most_iff]
  constructor
  · rintro ⟨hsize, hone, hmode, hlength, ⟨hsome, hrange, hregion⟩, hreq⟩
    refine ⟨(Except.ok.inj hreq).symm, hsize, mode_iff.mp ⟨hone, hmode⟩, hsome, ?_, hrange, hregion⟩
    omega
  · rintro ⟨rfl, hsize, hmode, hsome, hmost, hrange, hregion⟩
    obtain ⟨hone, hmode⟩ := mode_iff.mpr hmode
    refine ⟨hsize, hone, hmode, ?_, ⟨hsome, hrange, hregion⟩, rfl⟩
    simp only [maxMemoryTransferLimit, maxFrameSize, headerSize, readMemoryResponseSize,
      writeMemoryRequestSize] at limit ⊢
    omega

theorem checkWriteMemory_iff :
    checkWriteMemory s payload = .ok req ↔ req = MemoryRequest.parse payload ∧
      AccessAdmitted s.regions s.maxMemoryTransfer.toNat s.state s.stopId payload true := by
  simp only [checkWriteMemory, throw, throwThe, MonadExceptOf.throw]
  rw [passed_iff (by simp [bind, Except.bind]), passed_iff (by simp [bind, Except.bind]),
    bind_unit_iff, passed_iff (by simp [bind, Except.bind]),
      passed_iff (by simp [bind, Except.bind]), not_or, ne_eq,
    not_not, ne_eq, not_not, validateMemoryAccess_iff, zero_iff_not_pos, most_iff]
  constructor
  · rintro ⟨hleast, ⟨hone, hsize⟩, hmode, hlength, ⟨hsome, hrange, hregion⟩, hreq⟩
    have hwhole : payload.length = 20 + (MemoryRequest.parse payload).length.toNat := by
      simp only [writeMemoryRequestSize] at hleast hsize
      omega
    refine ⟨(Except.ok.inj hreq).symm, hwhole, mode_iff.mp ⟨hone, hmode⟩, hsome, ?_,
      hrange, hregion⟩
    omega
  · rintro ⟨rfl, hsize, hmode, hsome, hmost, hrange, hregion⟩
    obtain ⟨hone, hmode⟩ := mode_iff.mpr hmode
    rw [if_pos rfl] at hsize
    refine ⟨?_, ⟨hone, ?_⟩, hmode, ?_, ⟨hsome, hrange, hregion⟩, rfl⟩
    · simp only [writeMemoryRequestSize]
      omega
    · simp only [writeMemoryRequestSize]
      omega
    · omega

end SidpClient
