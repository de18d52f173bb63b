import SidpClient.SessionState

/-! The byte loops over the shadow table, as facts about single target addresses. Addresses are
natural numbers here: no access of the session wraps. -/
namespace SidpClient
open LittleEndian

theorem toNat_add_ofNat {a : UInt64} {n : ℕ} (hn : a.toNat + n < 2 ^ 64) :
    (a + UInt64.ofNat n).toNat = a.toNat + n := by
  rw [UInt64.toNat_add, UInt64.toNat_ofNat', Nat.mod_eq_of_lt (show n < 2 ^ 64 by omega),
    Nat.mod_eq_of_lt hn]

/-- The address lies in `[start, start + size)`. -/
def Within (x start size : ℕ) : Prop := start ≤ x ∧ x < start + size

instance (x start size : ℕ) : Decidable (Within x start size) := inferInstanceAs (Decidable (_ ∧ _))

/-- A table entry whose instruction does not wrap the address space. -/
structure SwBp.Placed (entry : SwBp) : Prop where
  size : entry.instructionSize = 2 ∨ entry.instructionSize = 4
  bound : entry.address.toNat + entry.instructionSize.toNat < 2 ^ 64
  saved : entry.original.length = 4

/-- The address holds a byte of the entry's instruction. -/
def SwBp.Covers (entry : SwBp) (x : ℕ) : Prop :=
  Within x entry.address.toNat entry.instructionSize.toNat

/-- The address holds a byte of the entry's patch. -/
def SwBp.Patches (entry : SwBp) (x : ℕ) : Prop := Within x entry.address.toNat 2

/-- The saved byte for an address of the instruction. -/
def SwBp.savedAt (entry : SwBp) (x : ℕ) : UInt8 := entry.original.getD (x - entry.address.toNat) 0

instance (entry : SwBp) (x : ℕ) : Decidable (entry.Covers x) :=
  inferInstanceAs (Decidable (Within ..))
instance (entry : SwBp) (x : ℕ) : Decidable (entry.Patches x) :=
  inferInstanceAs (Decidable (Within ..))

theorem SwBp.Placed.two_le {entry : SwBp} (hp : entry.Placed) :
    2 ≤ entry.instructionSize.toNat := by
  rcases hp.size with hs | hs <;> simp [hs]

theorem SwBp.Placed.le_four {entry : SwBp} (hp : entry.Placed) :
    entry.instructionSize.toNat ≤ 4 := by
  rcases hp.size with hs | hs <;> simp [hs]

theorem SwBp.Placed.stop_toNat {entry : SwBp} (hp : entry.Placed) :
    entry.stop.toNat = entry.address.toNat + entry.instructionSize.toNat := by
  have hb := hp.bound
  rw [SwBp.stop, UInt64.toNat_add, UInt8.toNat_toUInt64, Nat.mod_eq_of_lt hb]

theorem SwBp.Placed.halfword_toNat {entry : SwBp} (hp : entry.Placed) :
    (entry.address + 2).toNat = entry.address.toNat + 2 := by
  have hb := hp.bound
  have h2 := hp.two_le
  rw [UInt64.toNat_add, show (2 : UInt64).toNat = 2 from rfl, Nat.mod_eq_of_lt (by omega)]

theorem SwBp.Patches.covers {entry : SwBp} {x : ℕ} (hx : entry.Patches x) (hp : entry.Placed) :
    entry.Covers x := by
  have h2 := hp.two_le
  exact ⟨hx.1, lt_of_lt_of_le hx.2 (by omega)⟩

/-! `overlay`. -/

theorem overlay_length (address : UInt64) (data : List UInt8) (start stop : UInt64)
    (bytes : List UInt8) : (overlay address data start stop bytes).length = data.length := by
  unfold overlay
  split
  · rfl
  · rw [List.length_mapIdx]

theorem overlay_getElem? {address start stop : UInt64} {data bytes : List UInt8}
    (hdata : address.toNat + data.length < 2 ^ 64) (i : ℕ) :
    (overlay address data start stop bytes)[i]? = data[i]?.map fun byte =>
      if start.toNat ≤ address.toNat + i ∧ address.toNat + i < stop.toNat then
        bytes.getD (address.toNat + i - start.toNat) byte
      else byte := by
  by_cases hi : i < data.length
  · have hx : (address + UInt64.ofNat i).toNat = address.toNat + i := toNat_add_ofNat (by omega)
    have hend : (address + UInt64.ofNat data.length).toNat = address.toNat + data.length :=
      toNat_add_ofNat hdata
    have hcond : (address + UInt64.ofNat i ≥ start ∧ address + UInt64.ofNat i < stop) ↔
        (start.toNat ≤ address.toNat + i ∧ address.toNat + i < stop.toNat) := by
      rw [ge_iff_le, UInt64.le_iff_toNat_le, UInt64.lt_iff_toNat_lt, hx]
    unfold overlay
    split
    · rename_i hout
      rw [UInt64.le_iff_toNat_le, UInt64.le_iff_toNat_le, hend] at hout
      have hn : ¬(start.toNat ≤ address.toNat + i ∧ address.toNat + i < stop.toNat) := by omega
      simp [hi, hn]
    · rw [List.getElem?_mapIdx, List.getElem?_eq_getElem hi]
      simp only [Option.map_some, hcond]
      split
      · rename_i hin
        rw [UInt64.toNat_sub_of_le _ _ (UInt64.le_iff_toNat_le.mpr (by rw [hx]; exact hin.1)), hx]
      · rfl
  · have hl : (overlay address data start stop bytes).length ≤ i := by
      rw [overlay_length]
      omega
    rw [List.getElem?_eq_none hl, List.getElem?_eq_none (by omega)]
    rfl

theorem overlay_saved {entry : SwBp} {address : UInt64} {data : List UInt8}
    (hdata : address.toNat + data.length < 2 ^ 64) (hp : entry.Placed) {i : ℕ}
    (hi : i < data.length) :
    (overlay address data entry.address entry.stop entry.original)[i]? =
      if entry.Covers (address.toNat + i) then some (entry.savedAt (address.toNat + i))
      else data[i]? := by
  rw [overlay_getElem? hdata, List.getElem?_eq_getElem hi, Option.map_some, hp.stop_toNat]
  by_cases hc : entry.Covers (address.toNat + i)
  · have hb : address.toNat + i - entry.address.toNat < entry.original.length := by
      have h4 := hp.le_four
      obtain ⟨hl, hr⟩ := hc
      rw [hp.saved]
      omega
    rw [if_pos hc, if_pos ⟨hc.1, hc.2⟩, SwBp.savedAt, List.getD_eq_getElem?_getD,
      List.getD_eq_getElem?_getD, List.getElem?_eq_getElem hb]
    rfl
  · rw [if_neg hc, if_neg (show ¬(_ ∧ _) from hc)]

theorem overlay_patch {entry : SwBp} {address : UInt64} {data : List UInt8}
    (hdata : address.toNat + data.length < 2 ^ 64) (hp : entry.Placed) {i : ℕ}
    (hn : ¬entry.Patches (address.toNat + i)) :
    (overlay address data entry.address (entry.address + 2) bkptPatch)[i]? = data[i]? := by
  rw [overlay_getElem? hdata, hp.halfword_toNat]
  simp only [SwBp.Patches, Within] at hn
  simp [hn]

/-! What a reader sees. -/

theorem swBpSubstituteRead_length (table : List SwBp) (address : UInt64) (data : List UInt8) :
    (swBpSubstituteRead table address data).length = data.length := by
  unfold swBpSubstituteRead
  induction table generalizing data with
  | nil => rfl
  | cons entry table ih =>
    rw [List.foldl_cons, ih]
    split
    · exact overlay_length _ _ _ _ _
    · rfl

/-- Bytes that are right outside the installed entries come out right everywhere, when every
installed entry has saved the right ones. -/
theorem swBpSubstituteRead_getElem? {table : List SwBp} {address : UInt64} {data : List UInt8}
    {memory : Buffer} (hdata : address.toNat + data.length < 2 ^ 64)
    (placed : ∀ entry ∈ table, entry.Placed)
    (saved : ∀ entry ∈ table, entry.installed = true → ∀ x, entry.Covers x →
      entry.savedAt x = memory x) (i : ℕ) (hi : i < data.length)
    (hrest : data[i]? = some (memory (address.toNat + i)) ∨
      ∃ entry ∈ table, entry.installed = true ∧ entry.Covers (address.toNat + i)) :
    (swBpSubstituteRead table address data)[i]? = some (memory (address.toNat + i)) := by
  unfold swBpSubstituteRead
  induction table generalizing data with
  | nil =>
    rcases hrest with hd | ⟨_, hm, -⟩
    · exact hd
    · exact absurd hm List.not_mem_nil
  | cons entry table ih =>
    have hp := placed entry List.mem_cons_self
    have placed' : ∀ e ∈ table, e.Placed := fun e he => placed e (List.mem_cons_of_mem _ he)
    have saved' : ∀ e ∈ table, e.installed = true → ∀ x, e.Covers x → e.savedAt x = memory x :=
      fun e he => saved e (List.mem_cons_of_mem _ he)
    rw [List.foldl_cons]
    by_cases hinst : entry.installed = true
    · rw [if_pos hinst]
      refine ih (by rwa [overlay_length]) placed' saved' (by rwa [overlay_length]) ?_
      rw [overlay_saved hdata hp hi]
      by_cases hc : entry.Covers (address.toNat + i)
      · left
        rw [if_pos hc, saved entry List.mem_cons_self hinst _ hc]
      · rw [if_neg hc]
        refine hrest.imp id ?_
        rintro ⟨e, he, hi', hce⟩
        rcases List.mem_cons.mp he with rfl | he
        · exact absurd hce hc
        · exact ⟨e, he, hi', hce⟩
    · rw [if_neg hinst]
      refine ih hdata placed' saved' hi (hrest.imp id ?_)
      rintro ⟨e, he, hi', hce⟩
      rcases List.mem_cons.mp he with rfl | he
      · exact absurd hi' hinst
      · exact ⟨e, he, hi', hce⟩

/-! What a writer sends. -/

theorem writeImage_length (table : List SwBp) (address : UInt64) (data : List UInt8) :
    (writeImage table address data).length = data.length := by
  unfold writeImage
  induction table generalizing data with
  | nil => rfl
  | cons entry table ih =>
    rw [List.foldl_cons, ih]
    split
    · exact overlay_length _ _ _ _ _
    · rfl

/-- The image differs from the data only where an installed patch stands. -/
theorem writeImage_getElem? {table : List SwBp} {address : UInt64} {data : List UInt8}
    (hdata : address.toNat + data.length < 2 ^ 64) (placed : ∀ entry ∈ table, entry.Placed) (i : ℕ)
    (hfree : ∀ entry ∈ table, entry.installed = true → ¬entry.Patches (address.toNat + i)) :
    (writeImage table address data)[i]? = data[i]? := by
  unfold writeImage
  induction table generalizing data with
  | nil => rfl
  | cons entry table ih =>
    have placed' : ∀ e ∈ table, e.Placed := fun e he => placed e (List.mem_cons_of_mem _ he)
    have hfree' : ∀ e ∈ table, e.installed = true → ¬e.Patches (address.toNat + i) :=
      fun e he => hfree e (List.mem_cons_of_mem _ he)
    rw [List.foldl_cons]
    by_cases hinst : entry.installed = true
    · rw [if_pos hinst, ih (by rwa [overlay_length]) placed' hfree']
      exact overlay_patch hdata (placed entry List.mem_cons_self)
        (hfree entry List.mem_cons_self hinst)
    · rw [if_neg hinst]
      exact ih hdata placed' hfree'

/-! What an entry remembers of a write. -/

theorem SwBp.absorb_installed (entry : SwBp) (address : UInt64) (data : List UInt8) :
    (entry.absorb address data).installed = entry.installed := by
  unfold SwBp.absorb
  split
  · rfl
  · split <;> rfl

theorem absorb_loop {entry : SwBp} {address : UInt64} {data : List UInt8} (hp : entry.Placed)
    (hdata : address.toNat + data.length < 2 ^ 64) (n : ℕ) (hn : n ≤ data.length) (j : ℕ)
    (hj : j < entry.instructionSize.toNat) :
    ((List.range n).foldl (fun original offset =>
        let absolute := address + UInt64.ofNat offset
        if absolute ≥ entry.address ∧ absolute < entry.stop then
          original.set (absolute - entry.address).toNat (data.getD offset 0)
        else original) entry.original)[j]? =
      if Within (entry.address.toNat + j) address.toNat n then
        some (data.getD (entry.address.toNat + j - address.toNat) 0)
      else entry.original[j]? := by
  -- induction on the written bytes: the loop has absorbed the first n of them
  induction n with
  | zero =>
    rw [if_neg (by simp only [Within]; omega)]
    rfl
  | succ n ih =>
    have hx : (address + UInt64.ofNat n).toNat = address.toNat + n := toNat_add_ofNat (by omega)
    rw [List.range_succ, List.foldl_append, List.foldl_cons, List.foldl_nil]
    have ih := ih (by omega)
    generalize List.foldl _ entry.original (List.range n) = original at ih ⊢
    have hlen : j < original.length := by
      by_contra hn
      have hj4 : j < entry.original.length := by
        rw [hp.saved]
        exact lt_of_lt_of_le hj hp.le_four
      rw [List.getElem?_eq_none (not_lt.mp hn), List.getElem?_eq_getElem hj4] at ih
      split at ih <;> exact nomatch ih
    have hcond : (address + UInt64.ofNat n ≥ entry.address ∧
        address + UInt64.ofNat n < entry.stop) ↔ entry.Covers (address.toNat + n) := by
      rw [ge_iff_le, UInt64.le_iff_toNat_le, UInt64.lt_iff_toNat_lt, hx, hp.stop_toNat]
      rfl
    simp only [hcond]
    by_cases hc : entry.Covers (address.toNat + n)
    · have hsub : (address + UInt64.ofNat n - entry.address).toNat =
          address.toNat + n - entry.address.toNat := by
        rw [UInt64.toNat_sub_of_le _ _ (UInt64.le_iff_toNat_le.mpr (by rw [hx]; exact hc.1)), hx]
      have hlow := hc.1
      rw [if_pos hc, hsub, List.getElem?_set]
      -- the byte of this turn is the one asked for, or the loop before has decided it
      by_cases hj' : address.toNat + n - entry.address.toNat = j
      · have hw : Within (entry.address.toNat + j) address.toNat (n + 1) := by
          simp only [Within]
          omega
        have hoff : entry.address.toNat + j - address.toNat = n := by omega
        rw [if_pos hj', if_pos (by omega), if_pos hw, hoff]
      · have hw : Within (entry.address.toNat + j) address.toNat (n + 1) ↔
            Within (entry.address.toNat + j) address.toNat n := by
          simp only [Within]
          omega
        rw [if_neg hj', ih]
        simp only [hw]
    · have hw : Within (entry.address.toNat + j) address.toNat (n + 1) ↔
          Within (entry.address.toNat + j) address.toNat n := by
        simp only [SwBp.Covers, Within] at hc ⊢
        omega
      rw [if_neg hc, ih]
      simp only [hw]

/-- A write replaces the saved bytes it covers and no others. -/
theorem SwBp.absorb_savedAt {entry : SwBp} {address : UInt64} {data : List UInt8}
    (hp : entry.Placed) (hdata : address.toNat + data.length < 2 ^ 64)
    (hinst : entry.installed = true) {x : ℕ} (hx : entry.Covers x) :
    (entry.absorb address data).savedAt x =
      if Within x address.toNat data.length then data.getD (x - address.toNat) 0
      else entry.savedAt x := by
  obtain ⟨hlow, hhigh⟩ := hx
  obtain ⟨j, rfl⟩ := Nat.exists_eq_add_of_le hlow
  have hj : j < entry.instructionSize.toNat := by omega
  have hend : (address + UInt64.ofNat data.length).toNat = address.toNat + data.length :=
    toNat_add_ofNat hdata
  unfold SwBp.absorb
  rw [if_neg (by simp [hinst])]
  split
  · rename_i hout
    rw [UInt64.le_iff_toNat_le, UInt64.le_iff_toNat_le, hend, hp.stop_toNat] at hout
    rw [if_neg (by simp only [Within]; omega)]
  · have hloop := absorb_loop hp hdata data.length (le_refl _) j hj
    generalize List.foldl _ entry.original (List.range data.length) = original at hloop ⊢
    simp only [SwBp.savedAt, Nat.add_sub_cancel_left, List.getD_eq_getElem?_getD, hloop]
    split <;> simp

/-- A write leaves everything else about an entry. -/
theorem SwBp.absorb_fields (entry : SwBp) (address : UInt64) (data : List UInt8) :
    (entry.absorb address data).id = entry.id ∧
      (entry.absorb address data).address = entry.address ∧
      (entry.absorb address data).instructionSize = entry.instructionSize ∧
      (entry.absorb address data).original.length = entry.original.length := by
  unfold SwBp.absorb
  split
  · exact ⟨rfl, rfl, rfl, rfl⟩
  · split
    · exact ⟨rfl, rfl, rfl, rfl⟩
    · refine ⟨rfl, rfl, rfl, ?_⟩
      generalize data.length = n
      induction n with
      | zero => rfl
      | succ n ih =>
        rw [← ih, List.range_succ, List.foldl_append, List.foldl_cons, List.foldl_nil]
        dsimp only
        split
        · rw [List.length_set]
        · rfl

end SidpClient
