import SidpClient.StackWindow

/-! The PC a register blob reports, and what its normalization makes of it. -/
namespace SidpClient
open LittleEndian

variable {blob blob' : Buffer} {size offset : ℕ} {entry : RegisterEntry} {id : UInt16} {s : Session}
  {f : List UInt8}

/-! A walk only reads the heads of its entries. -/

theorem registerEntryAt_congr
    (same : ∀ i, offset ≤ i → i < offset + registerValueSize → blob' i = blob i) :
    registerEntryAt blob' offset = registerEntryAt blob offset := by
  have two : blob'.read offset 2 = blob.read offset 2 := by
    apply List.map_congr_left
    intro i hi
    have hlt := List.mem_range.mp hi
    exact same (offset + i) (by omega) (by simp only [registerValueSize]; omega)
  have valueSize := same (offset + 2) (by omega) (by simp only [registerValueSize]; omega)
  have flags := same (offset + 3) (by omega) (by simp only [registerValueSize]; omega)
  rw [registerEntryAt, registerEntryAt, two, valueSize, flags]

theorem registerEntriesFrom_congr (fuel offset : ℕ)
    (same : ∀ i, offset ≤ i → i < size → blob' i = blob i) :
    registerEntriesFrom blob' size fuel offset = registerEntriesFrom blob size fuel offset := by
  induction fuel generalizing offset with
  | zero => rfl
  | succ fuel ih =>
    by_cases hhead : offset + registerValueSize ≤ size
    · have head : registerEntryAt blob' offset = registerEntryAt blob offset :=
        registerEntryAt_congr fun i low high => same i low (by omega)
      simp only [registerEntriesFrom, if_pos hhead, head]
      rw [ih _ fun i low high => same i (by omega) high]
    · simp only [registerEntriesFrom, if_neg hhead]

theorem le_of_mem_registerEntriesFrom {fuel : ℕ}
    (hm : entry ∈ registerEntriesFrom blob size fuel offset) :
    offset ≤ entry.offset := by
  induction fuel generalizing offset with
  | zero => exact absurd hm List.not_mem_nil
  | succ fuel ih =>
    rw [registerEntriesFrom] at hm
    split at hm
    · dsimp only at hm
      split at hm
      · exact absurd hm List.not_mem_nil
      · cases hm with
        | head => exact Nat.le_refl _
        | tail _ hm =>
          have further := ih hm
          omega
    · exact absurd hm List.not_mem_nil

/-- A walk does not read the value of an entry it yields. -/
theorem registerEntriesFrom_of_value {fuel : ℕ}
    (hm : entry ∈ registerEntriesFrom blob size fuel offset) (same : ∀ i, offset ≤ i → i < size →
      ¬(entry.offset + registerValueSize ≤ i ∧ i < entry.offset + entry.size) → blob' i = blob i) :
    registerEntriesFrom blob' size fuel offset = registerEntriesFrom blob size fuel offset := by
  induction fuel generalizing offset with
  | zero => rfl
  | succ fuel ih =>
    by_cases hhead : offset + registerValueSize ≤ size
    · have start := le_of_mem_registerEntriesFrom hm
      have head : registerEntryAt blob' offset = registerEntryAt blob offset :=
        registerEntryAt_congr fun i low high => same i low (by omega) (by omega)
      simp only [registerEntriesFrom, if_pos hhead, head] at hm ⊢
      split
      · rfl
      · rename_i hwhole
        rw [if_neg hwhole] at hm
        have width : (registerEntryAt blob offset).size = registerValueSize +
            (registerEntryAt blob offset).valueSize.toNat := rfl
        cases hm with
        | head =>
          -- behind the entry itself the blobs agree
          rw [registerEntriesFrom_congr fuel _ fun i low high => same i (by omega) high ?_]
          have at_offset : (registerEntryAt blob offset).offset = offset := rfl
          omega
        | tail _ hm =>
          rw [ih hm fun i low high outside => same i (by omega) high outside]
    · simp only [registerEntriesFrom, if_neg hhead]

/-! The value of the entry found. -/

/-- The four bytes behind the head of an entry. -/
def registerValue (blob : Buffer) (entry : RegisterEntry) : UInt32 :=
  getU32 (blob.read (entry.offset + registerValueSize) 4) 0

/-- The first available PC of four bytes. -/
def reportedPc (blob : Buffer) (size : ℕ) : Option UInt32 :=
  (findRegister blob size armRegPc).map (registerValue blob)

theorem findRegister_congr (same : ∀ i, i < size → blob' i = blob i) :
    findRegister blob' size id = findRegister blob size id := by
  rw [findRegister, findRegister, registerEntries, registerEntries,
    registerEntriesFrom_congr size 0 fun i _ high => same i high]

theorem findRegister_some (hf : findRegister blob size id = some entry) :
    entry ∈ registerEntriesFrom blob size size 0 ∧ entry.registerId = id ∧
      entry.size = registerValueSize + 4 ∧ entry.offset + registerValueSize + 4 ≤ size := by
  have hm := List.mem_of_find?_eq_some hf
  have wanted := List.find?_some hf
  simp only [Bool.and_eq_true, beq_iff_eq] at wanted
  obtain ⟨⟨hid, valueSize⟩, -⟩ := wanted
  have width : entry.size = registerValueSize + 4 := by
    rw [RegisterEntry.size, valueSize]
    rfl
  have whole := (mem_registerEntriesFrom .first hm).2.2
  rw [width] at whole
  exact ⟨hm, hid, width, by omega⟩

theorem reportedPc_congr (same : ∀ i, i < size → blob' i = blob i) :
    reportedPc blob' size = reportedPc blob size := by
  rw [reportedPc, reportedPc, findRegister_congr same]
  cases hf : findRegister blob size armRegPc with
  | none => rfl
  | some entry =>
    have whole := (findRegister_some hf).2.2.2
    have read : blob'.read (entry.offset + registerValueSize) 4 =
        blob.read (entry.offset + registerValueSize) 4 := by
      apply List.map_congr_left
      intro i hi
      have hlt := List.mem_range.mp hi
      exact same _ (by omega)
    rw [Option.map_some, Option.map_some, registerValue, registerValue, read]

theorem findRegister_write_value (hf : findRegister blob size id = some entry) (value : UInt32)
    (other : UInt16) :
    findRegister (blob.write (entry.offset + registerValueSize) (le32 value)) size other =
      findRegister blob size other := by
  obtain ⟨hm, -, width, -⟩ := findRegister_some hf
  rw [findRegister, findRegister, registerEntries, registerEntries, registerEntriesFrom_of_value hm]
  intro i _ _ outside
  apply Buffer.write_apply_of_not_mem
  rw [le32_length]
  omega

theorem registerValue_write (entry : RegisterEntry) (value : UInt32) :
    registerValue (blob.write (entry.offset + registerValueSize) (le32 value)) entry = value := by
  have written := Buffer.read_write_self blob (entry.offset + registerValueSize) (le32 value)
  rw [le32_length] at written
  rw [registerValue, written, getU32, slice, List.drop_zero,
    List.take_of_length_le (by rw [le32_length]), ofNat_leNat_le32]

/-! The normalization. -/

theorem write_behind (buffer : Buffer) (base start : ℕ) (bytes : List UInt8) :
    (fun i => buffer.write (base + start) bytes (base + i)) =
      Buffer.write (fun i => buffer (base + i)) start bytes := by
  funext i
  have place : (base + start ≤ base + i ∧ base + i < base + start + bytes.length) ↔
      (start ≤ i ∧ i < start + bytes.length) := by omega
  have shift : base + i - (base + start) = i - start := by omega
  simp only [Buffer.write, place, shift]

/-- With a step-over pending the blob reports its address for a PC, and else what it did before. -/
theorem reportedPc_normalized (s : Session) (buffer : Buffer) (base size : ℕ) :
    reportedPc (fun i => normalizePcInRegisterBlob s buffer base size (base + i)) size =
      (reportedPc (fun i => buffer (base + i)) size).map fun pc =>
        if s.swStepOverPending then s.swStepOverAddress.toUInt32 else pc := by
  by_cases pending : s.swStepOverPending = true
  · cases hf : findRegister (fun i => buffer (base + i)) size armRegPc with
    | none =>
      have unchanged : normalizePcInRegisterBlob s buffer base size = buffer := by
        simp only [normalizePcInRegisterBlob, pending, hf]
        rfl
      rw [unchanged, reportedPc, hf]
      rfl
    | some entry =>
      have changed : normalizePcInRegisterBlob s buffer base size =
          buffer.write (base + entry.offset + registerValueSize)
            (le32 s.swStepOverAddress.toUInt32) := by
        simp only [normalizePcInRegisterBlob, pending, hf]
        rfl
      rw [changed, Nat.add_assoc, write_behind, reportedPc, reportedPc,
        findRegister_write_value hf, hf]
      simp only [Option.map_some, registerValue_write, pending, if_true]
  · have unchanged : normalizePcInRegisterBlob s buffer base size = buffer := by
      rw [normalizePcInRegisterBlob, if_pos (by simpa using pending)]
    rw [unchanged]
    simp only [if_neg pending, Option.map_id']

end SidpClient
