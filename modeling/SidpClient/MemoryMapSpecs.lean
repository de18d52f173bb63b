import SidpClient.SessionMoves

/-! What the three range checks of the session prove about a memory access. -/
namespace SidpClient
open LittleEndian

/-- The wrap test of the source. -/
theorem exceeds_iff (a b : UInt64) : a > uint64Max - b ↔ ¬a.toNat + b.toNat < 2 ^ 64 := by
  have hlen := b.toNat_lt
  have hmax : uint64Max.toNat = 2 ^ 64 - 1 := rfl
  have hle : b ≤ uint64Max := UInt64.le_iff_toNat_le.mpr (by omega)
  rw [gt_iff_lt, UInt64.lt_iff_toNat_lt, UInt64.toNat_sub_of_le _ _ hle]
  omega

theorem toNat_add_of_lt {a b : UInt64} (hlt : a.toNat + b.toNat < 2 ^ 64) :
    (a + b).toNat = a.toNat + b.toNat := by
  rw [UInt64.toNat_add]
  exact Nat.mod_eq_of_lt hlt

theorem toNat_add_of_bound {a b : UInt64} (hb : ¬a > uint64Max - b) :
    (a + b).toNat = a.toNat + b.toNat ∧ a.toNat + b.toNat < 2 ^ 64 := by
  have hlt : a.toNat + b.toNat < 2 ^ 64 := by
    rwa [exceeds_iff, not_not] at hb
  exact ⟨toNat_add_of_lt hlt, hlt⟩

/-- A region contains a range that does not wrap exactly if it covers it. -/
theorem MemoryRegion.contains_iff {region : MemoryRegion} {address size : UInt64}
    (hrange : address.toNat + size.toNat < 2 ^ 64) :
    region.contains address size = true ↔ region.Covers address size.toNat := by
  simp only [MemoryRegion.contains, Bool.and_eq_true, Bool.not_eq_true', decide_eq_false_iff_not,
    decide_eq_true_eq, exceeds_iff, not_not, ge_iff_le, UInt64.le_iff_toNat_le]
  rw [toNat_add_of_lt hrange]
  constructor
  · rintro ⟨hbound, hstart, hstop⟩
    rw [toNat_add_of_lt hbound] at hstop
    exact ⟨hstart, hstop, hbound⟩
  · rintro ⟨hstart, hstop, hbound⟩
    rw [toNat_add_of_lt hbound]
    exact ⟨hbound, hstart, hstop⟩

theorem MemoryRegion.covers_of_contains {region : MemoryRegion} {address size : UInt64}
    (hc : region.contains address size = true) (hb : ¬address > uint64Max - size) :
    region.Covers address size.toNat := by
  rw [exceeds_iff, not_not] at hb
  exact (MemoryRegion.contains_iff hb).mp hc

/-- A check that refuses with something else was passed. -/
theorem passed {α : Type} {c : Prop} [Decidable c] {x y z : α} (h : (if c then x else y) = z)
    (hx : x ≠ z) : ¬c ∧ y = z := by
  by_cases hc : c
  · rw [if_pos hc] at h
    exact absurd h hx
  · rw [if_neg hc] at h
    exact ⟨hc, h⟩

theorem validateMemoryAccess_ok {regions : List MemoryRegion} {address : UInt64} {length : UInt32}
    {flags : UInt16} {width : UInt8} {isWrite : Bool}
    (hv : validateMemoryAccess regions address length flags width isWrite = .ok) :
    ∃ region ∈ regions, region.Covers address length.toNat ∧
      region.Permits flags address length.toNat width isWrite := by
  obtain ⟨hrange, hv⟩ := passed hv (by decide)
  obtain ⟨-, hbound⟩ := not_or.mp hrange
  cases hfind : regions.find? (·.contains address length.toUInt64) with
  | none =>
    rw [hfind] at hv
    exact absurd hv (by simp)
  | some region =>
    rw [hfind] at hv
    have hcontains : region.contains address length.toUInt64 = true := by
      simpa using List.find?_some hfind
    have hcovers := MemoryRegion.covers_of_contains hcontains hbound
    rw [UInt32.toNat_toUInt64] at hcovers
    obtain ⟨hflash, hv⟩ := passed hv (by decide)
    obtain ⟨hflag, hv⟩ := passed hv (by decide)
    refine ⟨region, List.mem_of_find?_eq_some hfind, hcovers, by simpa using hflag,
      fun hw ht => hflash ⟨ht, hw⟩, fun hm => ?_⟩
    rw [if_pos hm] at hv
    obtain ⟨hallow, hv⟩ := passed hv (by decide)
    obtain ⟨hwidth, hv⟩ := passed hv (by decide)
    obtain ⟨hlength, hv⟩ := passed hv (by decide)
    obtain ⟨halign, -⟩ := passed hv (by decide)
    refine ⟨hallow, by simpa using hwidth, ?_, ?_⟩
    · rw [not_not.mp hlength, UInt8.toNat_toUInt32]
    · have hz := congrArg UInt64.toNat (not_not.mp halign)
      simpa using hz

theorem isExecutableRange_patchable {regions : List MemoryRegion} {address size : UInt64}
    (he : isExecutableRange regions address size true = true) :
    Patchable regions address size.toNat := by
  unfold isExecutableRange at he
  split at he
  · exact absurd he (by decide)
  rename_i hrange
  obtain ⟨-, hbound⟩ := not_or.mp hrange
  obtain ⟨region, hmem, hr⟩ := List.any_eq_true.mp he
  simp only [MemoryRegion.executable, Bool.and_eq_true, Bool.not_true, Bool.false_or,
    beq_iff_eq] at hr
  obtain ⟨hc, hx, ⟨ht, hread⟩, hwrite⟩ := hr
  exact ⟨region, hmem, MemoryRegion.covers_of_contains hc hbound, ht, hread, hwrite, hx⟩

theorem stackRegion_some {regions : List MemoryRegion} {sp : UInt32} {region : MemoryRegion}
    (hs : stackRegion regions sp = some region) :
    region ∈ regions ∧ region.type = MemoryType.ram ∧ region.has MemFlag.read = true ∧
      ¬region.start > uint64Max - region.length := by
  have hp := List.find?_some hs
  simp only [Bool.and_eq_true, beq_iff_eq, Bool.not_eq_true', decide_eq_false_iff_not,
    decide_eq_true_eq] at hp
  exact ⟨List.mem_of_find?_eq_some hs, hp.1.1.1, hp.1.1.2, hp.1.2⟩

/-- The clipped window lies in its region and leaves the frame its capacity. -/
theorem stackWindow_some {region : MemoryRegion} {sp : UInt32} {registersSize size : ℕ}
    {start : UInt64} (hwrap : ¬region.start > uint64Max - region.length)
    (hw : stackWindow region sp registersSize = some (start, size)) :
    region.Covers start size ∧ size ≤ snapshotBlobCapacity - registersSize := by
  obtain ⟨hregion, hbound⟩ := toNat_add_of_bound hwrap
  unfold stackWindow at hw
  extract_lets regionEnd start₀ stop₀ start₁ stop₁ size₁ capacity at hw
  have hstart : region.start.toNat ≤ start₁.toNat := by
    rw [← UInt64.le_iff_toNat_le]
    show region.start ≤ if start₀ < region.start then region.start else start₀
    split
    · exact UInt64.le_refl _
    · exact UInt64.not_lt.mp (by assumption)
  have hstop : stop₁.toNat ≤ region.start.toNat + region.length.toNat := by
    rw [← hregion, ← UInt64.le_iff_toNat_le]
    show (if stop₀ > regionEnd then regionEnd else stop₀) ≤ regionEnd
    split
    · exact UInt64.le_refl _
    · exact UInt64.not_lt.mp (by assumption)
  by_cases hle : stop₁ ≤ start₁
  · rw [if_pos hle] at hw
    exact absurd hw (by simp)
  rw [if_neg hle] at hw
  obtain ⟨rfl, hsize⟩ := Prod.mk.inj (Option.some.inj hw)
  have hlt : start₁.toNat < stop₁.toNat := by
    rwa [UInt64.le_iff_toNat_le, not_le] at hle
  have hdiff : size₁ = stop₁.toNat - start₁.toNat := by
    show (stop₁ - start₁).toNat = _
    rw [UInt64.toNat_sub_of_le _ _ (UInt64.le_iff_toNat_le.mpr hlt.le)]
  have hcut : size ≤ size₁ ∧ size ≤ capacity := by
    rw [← hsize]
    split <;> omega
  exact ⟨⟨hstart, by omega, hbound⟩, hcut.2⟩

end SidpClient
