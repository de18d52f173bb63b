import SidpClient.LittleEndianBuffer

/-! Readers that take one field off the front of a byte list, each the inverse of how the field is
written. -/
namespace LittleEndian

/-- A value read from the front, and the bytes behind it. -/
abbrev Reader (α : Type) := List UInt8 → Option (α × List UInt8)

def readU8 : Reader UInt8
  | [] => none
  | byte :: rest => some (byte, rest)

def readU16 : Reader UInt16 := fun bytes =>
  if 2 ≤ bytes.length then some (getU16 bytes 0, bytes.drop 2) else none

def readU32 : Reader UInt32 := fun bytes =>
  if 4 ≤ bytes.length then some (getU32 bytes 0, bytes.drop 4) else none

def readU64 : Reader UInt64 := fun bytes =>
  if 8 ≤ bytes.length then some (getU64 bytes 0, bytes.drop 8) else none

def readBytes (n : ℕ) : Reader (List UInt8) := fun bytes =>
  if n ≤ bytes.length then some (bytes.take n, bytes.drop n) else none

/-- Reserved bytes, which have to be zero. -/
def readZeros (n : ℕ) : Reader Unit := fun bytes =>
  if n ≤ bytes.length ∧ bytes.take n = List.replicate n 0 then some ((), bytes.drop n) else none

/-- `count` fields of one kind, one behind the other. -/
def readMany {α : Type} (read : Reader α) : ℕ → Reader (List α)
  | 0, bytes => some ([], bytes)
  | count + 1, bytes => do
    let (a, rest) ← read bytes
    let (as, rest) ← readMany read count rest
    return (a :: as, rest)

variable {α : Type} (rest : List UInt8)

theorem slice_zero_append {front : List UInt8} {n : ℕ} (hn : front.length = n) :
    slice (front ++ rest) 0 n = front := by
  rw [slice, List.drop_zero, List.take_left' hn]

@[simp] theorem readU8_cons (v : UInt8) : readU8 (v :: rest) = some (v, rest) := rfl

@[simp] theorem readU16_le16 (v : UInt16) : readU16 (le16 v ++ rest) = some (v, rest) := by
  have size : (le16 v).length = 2 := le16_length v
  have room : 2 ≤ (le16 v ++ rest).length := by
    rw [List.length_append, size]
    omega
  rw [readU16, if_pos room, getU16, slice_zero_append rest size, ofNat_leNat_le16,
    List.drop_left' size]

@[simp] theorem readU32_le32 (v : UInt32) : readU32 (le32 v ++ rest) = some (v, rest) := by
  have size : (le32 v).length = 4 := le32_length v
  have room : 4 ≤ (le32 v ++ rest).length := by
    rw [List.length_append, size]
    omega
  rw [readU32, if_pos room, getU32, slice_zero_append rest size, ofNat_leNat_le32,
    List.drop_left' size]

@[simp] theorem readU64_le64 (v : UInt64) : readU64 (le64 v ++ rest) = some (v, rest) := by
  have size : (le64 v).length = 8 := le64_length v
  have room : 8 ≤ (le64 v ++ rest).length := by
    rw [List.length_append, size]
    omega
  rw [readU64, if_pos room, getU64, slice_zero_append rest size, ofNat_leNat_le64,
    List.drop_left' size]

@[simp] theorem readBytes_append (front : List UInt8) :
    readBytes front.length (front ++ rest) = some (front, rest) := by
  have room : front.length ≤ (front ++ rest).length := by
    rw [List.length_append]
    omega
  rw [readBytes, if_pos room, List.take_left, List.drop_left]

@[simp] theorem readZeros_replicate (n : ℕ) :
    readZeros n (List.replicate n 0 ++ rest) = some ((), rest) := by
  have size : (List.replicate n (0 : UInt8)).length = n := List.length_replicate
  have room : n ≤ (List.replicate n 0 ++ rest).length ∧
      (List.replicate n 0 ++ rest).take n = List.replicate n 0 := by
    rw [List.length_append, size, List.take_left' size]
    exact ⟨by omega, rfl⟩
  rw [readZeros, if_pos room, List.drop_left' size]

/-- A list that was written item by item is read back item by item. -/
theorem readMany_flatMap {read : Reader α} {write : α → List UInt8}
    (inverse : ∀ a rest, read (write a ++ rest) = some (a, rest)) (as : List α) :
    readMany read as.length (as.flatMap write ++ rest) = some (as, rest) := by
  induction as with
  | nil => rfl
  | cons a as ih =>
    rw [List.flatMap_cons, List.append_assoc, List.length_cons, readMany, inverse]
    simp [ih]

/-! A buffer that was written piece by piece. -/

theorem Buffer.write_append (b : Buffer) (offset : ℕ) (front back : List UInt8) :
    b.write offset (front ++ back) = (b.write offset front).write (offset + front.length) back := by
  funext i
  simp only [Buffer.write, List.length_append]
  by_cases inside : offset ≤ i ∧ i < offset + front.length
  · have whole : offset ≤ i ∧ i < offset + (front.length + back.length) := by omega
    have first : ¬(offset + front.length ≤ i ∧ i < offset + front.length + back.length) := by omega
    rw [if_pos whole, if_neg first, if_pos inside]
    rw [List.getD_eq_getElem?_getD, List.getD_eq_getElem?_getD,
      List.getElem?_append_left (by omega)]
  · by_cases behind : offset + front.length ≤ i ∧ i < offset + front.length + back.length
    · have whole : offset ≤ i ∧ i < offset + (front.length + back.length) := by omega
      have place : i - offset - front.length = i - (offset + front.length) := by omega
      rw [if_pos whole, if_pos behind, List.getD_eq_getElem?_getD, List.getD_eq_getElem?_getD,
        List.getElem?_append_right (by omega), place]
    · have outside : ¬(offset ≤ i ∧ i < offset + (front.length + back.length)) := by omega
      rw [if_neg outside, if_neg behind, if_neg inside]

/-- Pieces that do not meet are written in any order. -/
theorem Buffer.write_comm (b : Buffer) {offset offset' : ℕ} {bytes bytes' : List UInt8}
    (apart : offset + bytes.length ≤ offset' ∨ offset' + bytes'.length ≤ offset) :
    (b.write offset bytes).write offset' bytes' = (b.write offset' bytes').write offset bytes := by
  funext i
  simp only [Buffer.write]
  by_cases first : offset ≤ i ∧ i < offset + bytes.length
  · have second : ¬(offset' ≤ i ∧ i < offset' + bytes'.length) := by omega
    rw [if_neg second, if_pos first, if_pos first]
  · rw [if_neg first, if_neg first]

/-- Writing what is there changes nothing. -/
theorem Buffer.write_read (b : Buffer) (offset size : ℕ) :
    b.write offset (b.read offset size) = b := by
  funext i
  rw [Buffer.write, Buffer.read_length]
  split
  · rename_i inside
    have place : i - offset < (b.read offset size).length := by
      rw [Buffer.read_length]
      omega
    have back : offset + (i - offset) = i := by omega
    rw [List.getD_eq_getElem?_getD, List.getElem?_eq_getElem place, Buffer.read_getElem, back]
    rfl
  · rfl

/-! Fields at an offset. -/

theorem le64_getU64 (bytes : List UInt8) (offset : ℕ) (hs : offset + 8 ≤ bytes.length) :
    le64 (getU64 bytes offset) = slice bytes offset 8 := by
  have hlen := slice_length bytes offset 8 hs
  have hlt : leNat (slice bytes offset 8) < 2 ^ 64 := by
    have hlt := leNat_lt (slice bytes offset 8)
    rwa [hlen] at hlt
  have hback := leBytes_leNat (slice bytes offset 8)
  rw [hlen] at hback
  rw [getU64, le64, UInt64.toNat_ofNat', Nat.mod_eq_of_lt hlt, hback]

section
variable {bytes rest : List UInt8} {offset : ℕ}

/-- What is behind a field is behind its bytes. -/
theorem drop_behind {front : List UInt8} {n next : ℕ} (hd : bytes.drop offset = front ++ rest)
    (hn : front.length = n) (hnext : offset + n = next) : bytes.drop next = rest := by
  rw [← hnext, ← List.drop_drop, hd, List.drop_left' hn]

theorem drop_behind_u8 {v : UInt8} (hd : bytes.drop offset = v :: rest) :
    bytes.drop (offset + 1) = rest :=
  drop_behind (n := 1) (show bytes.drop offset = [v] ++ rest from hd) rfl rfl

theorem drop_u8 (hs : offset < bytes.length) :
    bytes.drop offset = getU8 bytes offset :: bytes.drop (offset + 1) := by
  rw [drop_eq_slice_append bytes offset 1, slice_one bytes offset hs]
  rfl

theorem drop_u16 (hs : offset + 2 ≤ bytes.length) :
    bytes.drop offset = le16 (getU16 bytes offset) ++ bytes.drop (offset + 2) := by
  rw [le16_getU16 bytes offset hs]
  exact drop_eq_slice_append ..

theorem drop_u32 (hs : offset + 4 ≤ bytes.length) :
    bytes.drop offset = le32 (getU32 bytes offset) ++ bytes.drop (offset + 4) := by
  rw [le32_getU32 bytes offset hs]
  exact drop_eq_slice_append ..

theorem drop_u64 (hs : offset + 8 ≤ bytes.length) :
    bytes.drop offset = le64 (getU64 bytes offset) ++ bytes.drop (offset + 8) := by
  rw [le64_getU64 bytes offset hs]
  exact drop_eq_slice_append ..

theorem getU8_at {v : UInt8} (hd : bytes.drop offset = v :: rest) : getU8 bytes offset = v := by
  have inside : offset < bytes.length := by
    by_contra outside
    rw [List.drop_eq_nil_of_le (by omega)] at hd
    exact absurd hd (by simp)
  rw [drop_u8 inside] at hd
  exact (List.cons.inj hd).1

theorem getU16_at {v : UInt16} (hd : bytes.drop offset = le16 v ++ rest) :
    getU16 bytes offset = v := by
  rw [getU16, slice, hd, List.take_left' (le16_length v), ofNat_leNat_le16]

theorem getU32_at {v : UInt32} (hd : bytes.drop offset = le32 v ++ rest) :
    getU32 bytes offset = v := by
  rw [getU32, slice, hd, List.take_left' (le32_length v), ofNat_leNat_le32]

theorem getU64_at {v : UInt64} (hd : bytes.drop offset = le64 v ++ rest) :
    getU64 bytes offset = v := by
  rw [getU64, slice, hd, List.take_left' (le64_length v), ofNat_leNat_le64]

end

end LittleEndian
