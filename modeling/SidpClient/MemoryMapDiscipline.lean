import SidpClient.PatchLedger

/-! Every access to target memory stays inside the memory map the client was sent. -/
namespace SidpClient
open LittleEndian Interactive

/-- What a call does to target memory. -/
structure MemoryAccess where
  access : Access
  address : UInt64
  size : ℕ
  width : UInt8
  isWrite : Bool

def Call.memoryAccess : Call → Option MemoryAccess
  | .readMem access address size width => some ⟨access, address, size, width, false⟩
  | .writeMem access address data width => some ⟨access, address, data.length, width, true⟩
  | _ => none

/-- The access concerns a breakpoint's instruction: its original is read, patched or put back. -/
def MemoryAccess.ForBreakpoint (m : MemoryAccess) : Prop :=
  m.access = .original ∨ m.access = .patch ∨ m.access = .restore

/-- One region contains the whole range of an access and permits it. -/
structure MemoryRegion.Serves (region : MemoryRegion) (m : MemoryAccess) : Prop where
  covers : region.Covers m.address m.size
  read : m.isWrite = false → region.has MemFlag.read = true
  write : m.isWrite = true → region.has MemFlag.write = true ∧ region.type ≠ MemoryType.flash
  breakpoint : m.ForBreakpoint → region.type = MemoryType.ram ∧ region.has MemFlag.read = true ∧
    region.has MemFlag.write = true ∧ region.has MemFlag.execute = true
  stack : m.access = .stack → region.type = MemoryType.ram ∧ region.has MemFlag.read = true
  mmio : region.type = MemoryType.mmio → (∃ flags data, m.access = .request flags data ∧
    flags &&& MemAccess.allowMmio ≠ 0) ∧ (m.width = 1 ∨ m.width = 2 ∨ m.width = 4) ∧
    m.size = m.width.toNat ∧ m.address.toNat % m.width.toNat = 0

/-- The memory map of the current attachment serves the access. -/
def Served (h : SessionHistory) (m : MemoryAccess) : Prop :=
  ∃ map, advertisedMap h = some map ∧ ∃ region ∈ map, region.Serves m

variable {s : Session} {h : SessionHistory} {region : MemoryRegion} {m : MemoryAccess}
  {address : UInt64}

theorem explicitWidth_cases {width : UInt8} (hw : isExplicitWidth width = true) :
    width = 1 ∨ width = 2 ∨ width = 4 := by
  simpa [isExplicitWidth, MemWidth.width8, MemWidth.width16, MemWidth.width32, or_assoc] using hw

theorem MemoryRegion.Covers.shrink {size size' : ℕ} (hc : region.Covers address size)
    (hle : size' ≤ size) : region.Covers address size' := by
  have hstop := hc.stop
  refine ⟨hc.start, ?_, hc.bound⟩
  omega

theorem ram_ne_mmio (hr : region.type = MemoryType.ram) : region.type ≠ MemoryType.mmio := by
  rw [hr]
  decide

theorem ram_ne_flash (hr : region.type = MemoryType.ram) : region.type ≠ MemoryType.flash := by
  rw [hr]
  decide

/-- A request that passed the checks of section 9 is served. -/
theorem MemoryRegion.Permits.serves {flags : UInt16} {data : List UInt8}
    (hm : m.access = .request flags data) (hc : region.Covers m.address m.size)
    (hp : region.Permits flags m.address m.size m.width m.isWrite) : region.Serves m := by
  refine ⟨hc, ?_, ?_, ?_, ?_, ?_⟩
  · intro hread
    have hflag := hp.flag
    rw [hread] at hflag
    exact hflag
  · intro hwrite
    have hflag := hp.flag
    rw [hwrite] at hflag
    exact ⟨hflag, hp.flash hwrite⟩
  · intro hb
    simp [MemoryAccess.ForBreakpoint, hm] at hb
  · intro hs
    simp [hm] at hs
  · intro ht
    obtain ⟨allowed, explicit, size, aligned⟩ := hp.mmio ht
    exact ⟨⟨flags, data, hm, allowed⟩, explicitWidth_cases explicit, size, aligned⟩

/-- A range that may hold a breakpoint serves every access made for it. -/
theorem Patchable.serves {size : ℕ} (hp : Patchable s.regions m.address size)
    (hle : m.size ≤ size) : ∃ region ∈ s.regions, region.Serves m := by
  obtain ⟨region, hm, covers, ram, read, write, execute⟩ := hp
  refine ⟨region, hm, covers.shrink hle, fun _ => read, fun _ => ⟨write, ram_ne_flash ram⟩,
    fun _ => ⟨ram, read, write, execute⟩, fun _ => ⟨ram, read⟩, ?_⟩
  intro ht
  exact absurd ht (ram_ne_mmio ram)

theorem ReadAllowed.served {access : Access} {size : ℕ} {width : UInt8}
    (allowed : ReadAllowed s h access address size width) (hne : size ≠ 0) :
    Served h ⟨access, address, size, width, false⟩ := by
  obtain ⟨map, hcase⟩ := allowed
  refine ⟨s.regions, map, ?_⟩
  cases access with
  | request flags data =>
    obtain ⟨region, hm, covers, permits⟩ := hcase
    exact ⟨region, hm, permits.serves rfl covers⟩
  | original => exact hcase.1.serves le_rfl
  | stack =>
    obtain ⟨region, hm, covers, ram, read⟩ := hcase hne
    refine ⟨region, hm, covers, fun _ => read, ?_, ?_, fun _ => ⟨ram, read⟩, ?_⟩
    · intro hw
      exact absurd hw Bool.false_ne_true
    · intro hb
      simp [MemoryAccess.ForBreakpoint] at hb
    · intro ht
      exact absurd ht (ram_ne_mmio ram)
  | patch => exact hcase.elim
  | restore => exact hcase.elim

/-- The table entry behind a patch or a restore was checked against the map when it was made. -/
theorem Shadowed.entry_served {entry : SwBp} {access : Access} {size : ℕ} {width : UInt8}
    (hs : Shadowed s h) (hm : entry ∈ s.swTable) (hle : size ≤ entry.instructionSize.toNat) :
    Served h ⟨access, entry.address, size, width, true⟩ := by
  have hne : s.swTable ≠ [] := List.ne_nil_of_mem hm
  exact ⟨s.regions, hs.mapped hne, (hs.patchable entry hm).serves hle⟩

theorem WriteAllowed.served {access : Access} {bytes : List UInt8} {width : UInt8}
    (hs : Shadowed s h) (allowed : WriteAllowed s h access address bytes width) :
    Served h ⟨access, address, bytes.length, width, true⟩ := by
  cases access with
  | request flags data =>
    obtain ⟨map, region, hm, covers, permits⟩ := allowed
    exact ⟨s.regions, map, region, hm, permits.serves rfl covers⟩
  | patch =>
    obtain ⟨-, rfl, entry, hm, -, rfl⟩ := allowed
    -- only the first halfword is patched, also of a 4-byte instruction
    exact hs.entry_served hm (hs.placed entry hm).two_le
  | restore =>
    obtain ⟨-, entry, hm, -, rfl, rfl⟩ := allowed
    have hle : entry.originalBytes.length ≤ entry.instructionSize.toNat := List.length_take_le _ _
    exact hs.entry_served hm hle
  | original => exact allowed.elim
  | stack => exact allowed.elim

/-- In every run, whatever map the backend supplies: each memory access of nonzero size, made for
any reason, lies in one region of the map sent in the current attachment that permits it. -/
theorem accesses_mapped {T : Type} (env : SessionEnvironment T) (t₀ : T) (inputs : List Input) :
    EveryCall (fun _ h c => ∀ m, c.memoryAccess = some m → m.size ≠ 0 → Served h m)
      (playSession env (freshWorld t₀) inputs).history := by
  refine (run_everyCall (P := Shadowed)
    (E := fun _ h c => ∀ m, c.memoryAccess = some m → m.size ≠ 0 → Served h m)
    env t₀ inputs shadowed_fresh (fun _ _ _ _ _ hm hs => hs.step hm) ?_).2
  intro s s₁ h c hs hi allowed m hm hne
  have hs₁ : Shadowed s₁ h := hs.issues hi
  cases c with
  | readMem access address size width =>
    cases hm
    exact allowed.2.served hne
  | writeMem access address bytes width =>
    cases hm
    exact allowed.2.served hs₁
  | _ => exact absurd hm (by simp [Call.memoryAccess])

end SidpClient
