import Mathlib.Data.List.Basic
import Mathlib.Data.Nat.ModEq
import Mathlib.Tactic.Ring

/-! Little-endian numbers in byte lists, and a byte buffer written in pieces. -/
namespace LittleEndian

/-- The `k` low bytes of a number, least significant first. -/
def leBytes : ℕ → ℕ → List UInt8
  | 0, _ => []
  | k + 1, n => UInt8.ofNat n :: leBytes k (n / 256)

def leNat : List UInt8 → ℕ
  | [] => 0
  | b :: bs => b.toNat + 256 * leNat bs

@[simp] theorem leBytes_length (k n : ℕ) : (leBytes k n).length = k := by
  induction k generalizing n with
  | zero => rfl
  | succ k ih => simp [leBytes, ih]

theorem leNat_leBytes (k n : ℕ) : leNat (leBytes k n) = n % 256 ^ k := by
  induction k generalizing n with
  | zero => simp [leBytes, leNat, Nat.mod_one]
  | succ k ih =>
    have hb : (UInt8.ofNat n).toNat = n % 256 := by simp [UInt8.toNat_ofNat']
    rw [leBytes, leNat, ih, hb, pow_succ, mul_comm (256 ^ k), Nat.mod_mul]

theorem leBytes_leNat (bs : List UInt8) : leBytes bs.length (leNat bs) = bs := by
  induction bs with
  | nil => rfl
  | cons b bs ih =>
    have hb : b.toNat < 256 := b.toNat_lt
    have hlow : UInt8.ofNat (b.toNat + 256 * leNat bs) = b := by
      apply UInt8.toNat_inj.mp
      rw [UInt8.toNat_ofNat']
      omega
    have hhigh : (b.toNat + 256 * leNat bs) / 256 = leNat bs := by omega
    rw [List.length_cons, leNat, leBytes, hlow, hhigh, ih]

theorem leNat_lt (bs : List UInt8) : leNat bs < 256 ^ bs.length := by
  induction bs with
  | nil => simp [leNat]
  | cons b bs ih =>
    have hb : b.toNat < 256 := b.toNat_lt
    rw [leNat, List.length_cons, pow_succ]
    omega

def le16 (v : UInt16) : List UInt8 := leBytes 2 v.toNat

def le32 (v : UInt32) : List UInt8 := leBytes 4 v.toNat

def le64 (v : UInt64) : List UInt8 := leBytes 8 v.toNat

@[simp] theorem le16_length (v : UInt16) : (le16 v).length = 2 := leBytes_length _ _

@[simp] theorem le32_length (v : UInt32) : (le32 v).length = 4 := leBytes_length _ _

@[simp] theorem le64_length (v : UInt64) : (le64 v).length = 8 := leBytes_length _ _

/-- The bytes of a list at `[offset, offset + size)`. -/
def slice (bytes : List UInt8) (offset size : ℕ) : List UInt8 := (bytes.drop offset).take size

def getU8 (bytes : List UInt8) (offset : ℕ) : UInt8 := bytes.getD offset 0

def getU16 (bytes : List UInt8) (offset : ℕ) : UInt16 := UInt16.ofNat (leNat (slice bytes offset 2))

def getU32 (bytes : List UInt8) (offset : ℕ) : UInt32 := UInt32.ofNat (leNat (slice bytes offset 4))

def getU64 (bytes : List UInt8) (offset : ℕ) : UInt64 := UInt64.ofNat (leNat (slice bytes offset 8))

theorem ofNat_leNat_le16 (v : UInt16) : UInt16.ofNat (leNat (le16 v)) = v := by
  rw [le16, leNat_leBytes, Nat.mod_eq_of_lt (show v.toNat < 256 ^ 2 from v.toNat_lt),
    UInt16.ofNat_toNat]

theorem ofNat_leNat_le32 (v : UInt32) : UInt32.ofNat (leNat (le32 v)) = v := by
  rw [le32, leNat_leBytes, Nat.mod_eq_of_lt (show v.toNat < 256 ^ 4 from v.toNat_lt),
    UInt32.ofNat_toNat]

theorem ofNat_leNat_le64 (v : UInt64) : UInt64.ofNat (leNat (le64 v)) = v := by
  rw [le64, leNat_leBytes, Nat.mod_eq_of_lt (show v.toNat < 256 ^ 8 from v.toNat_lt),
    UInt64.ofNat_toNat]

/-- Unbounded memory of bytes. Bounds are facts about the offsets used, not about the type. -/
abbrev Buffer := ℕ → UInt8

namespace Buffer

def zero : Buffer := fun _ => 0

def read (b : Buffer) (offset size : ℕ) : List UInt8 :=
  (List.range size).map fun i => b (offset + i)

def write (b : Buffer) (offset : ℕ) (bytes : List UInt8) : Buffer := fun i =>
  if offset ≤ i ∧ i < offset + bytes.length then bytes.getD (i - offset) 0 else b i

variable (b : Buffer) (offset size : ℕ) (bytes : List UInt8)

@[simp] theorem read_length : (b.read offset size).length = size := by simp [read]

theorem read_getElem (i : ℕ) (hi : i < (b.read offset size).length) :
    (b.read offset size)[i] = b (offset + i) := by simp [read]

theorem read_write_self : (b.write offset bytes).read offset bytes.length = bytes := by
  apply List.ext_getElem
  · simp
  · intro i hi hb
    rw [read_getElem]
    simp [write, hb]

theorem read_write_of_disjoint (offset' size' : ℕ)
    (hd : offset' + size' ≤ offset ∨ offset + bytes.length ≤ offset') :
    (b.write offset bytes).read offset' size' = b.read offset' size' := by
  apply List.ext_getElem
  · simp
  · intro i hi hb
    rw [read_length] at hi
    rw [read_getElem, read_getElem]
    have hn : ¬(offset ≤ offset' + i ∧ offset' + i < offset + bytes.length) := by omega
    simp [write, hn]

theorem read_append (m n : ℕ) :
    b.read offset (m + n) = b.read offset m ++ b.read (offset + m) n := by
  simp [read, List.range_add, add_assoc]

theorem slice_read (size' offset' : ℕ) (hs : offset' + size' ≤ size) :
    slice (b.read 0 size) offset' size' = b.read offset' size' := by
  obtain ⟨rest, rfl⟩ := Nat.exists_eq_add_of_le hs
  rw [slice, read_append, read_append, List.append_assoc, List.drop_left' (by simp),
    List.take_left' (by simp), zero_add]

theorem getU8_read (offset' : ℕ) (hs : offset' < size) :
    getU8 (b.read 0 size) offset' = b offset' := by
  have hl : offset' < (b.read 0 size).length := by simpa using hs
  rw [getU8, List.getD_eq_getElem?_getD, List.getElem?_eq_getElem hl, read_getElem]
  simp

theorem read_write_inside (i n : ℕ) (hn : i + n ≤ bytes.length) :
    (b.write offset bytes).read (offset + i) n = slice bytes i n := by
  have hw := read_write_self b offset bytes
  obtain ⟨rest, hr⟩ := Nat.exists_eq_add_of_le hn
  have hs : slice ((b.write offset bytes).read offset bytes.length) i n =
      (b.write offset bytes).read (offset + i) n := by
    rw [hr, read_append, read_append, slice, List.append_assoc, List.drop_left' (by simp),
      List.take_left' (by simp)]
  rw [← hs, hw]

theorem write_apply_of_not_mem (i : ℕ) (hi : i < offset ∨ offset + bytes.length ≤ i) :
    b.write offset bytes i = b i := by
  have hn : ¬(offset ≤ i ∧ i < offset + bytes.length) := by omega
  simp [write, hn]

end Buffer

/-- The first byte of a slice, and a slice of a slice. -/
theorem getU8_slice (bytes : List UInt8) (offset size i : ℕ) (hi : i < size) :
    getU8 (slice bytes offset size) i = getU8 bytes (offset + i) := by
  simp [getU8, slice, List.getD_eq_getElem?_getD, hi]

theorem drop_eq_slice_append (bytes : List UInt8) (offset size : ℕ) :
    bytes.drop offset = slice bytes offset size ++ bytes.drop (offset + size) := by
  rw [slice, ← List.drop_drop, List.take_append_drop]

theorem slice_length (bytes : List UInt8) (offset size : ℕ) (hs : offset + size ≤ bytes.length) :
    (slice bytes offset size).length = size := by
  rw [slice, List.length_take, List.length_drop]
  omega

theorem slice_one (bytes : List UInt8) (offset : ℕ) (hs : offset < bytes.length) :
    slice bytes offset 1 = [getU8 bytes offset] := by
  rw [slice, getU8, List.drop_eq_getElem_cons hs, List.getD_eq_getElem?_getD,
    List.getElem?_eq_getElem hs]
  rfl

theorem le16_getU16 (bytes : List UInt8) (offset : ℕ) (hs : offset + 2 ≤ bytes.length) :
    le16 (getU16 bytes offset) = slice bytes offset 2 := by
  have hlen := slice_length bytes offset 2 hs
  have hlt : leNat (slice bytes offset 2) < 2 ^ 16 := by
    have hlt := leNat_lt (slice bytes offset 2)
    rwa [hlen] at hlt
  have hback := leBytes_leNat (slice bytes offset 2)
  rw [hlen] at hback
  rw [getU16, le16, UInt16.toNat_ofNat', Nat.mod_eq_of_lt hlt, hback]

theorem le32_getU32 (bytes : List UInt8) (offset : ℕ) (hs : offset + 4 ≤ bytes.length) :
    le32 (getU32 bytes offset) = slice bytes offset 4 := by
  have hlen := slice_length bytes offset 4 hs
  have hlt : leNat (slice bytes offset 4) < 2 ^ 32 := by
    have hlt := leNat_lt (slice bytes offset 4)
    rwa [hlen] at hlt
  have hback := leBytes_leNat (slice bytes offset 4)
  rw [hlen] at hback
  rw [getU32, le32, UInt32.toNat_ofNat', Nat.mod_eq_of_lt hlt, hback]

/-- The bytes a list starts with, behind an offset. -/
theorem slice_of_drop {bytes front rest : List UInt8} {offset : ℕ}
    (hd : bytes.drop offset = front ++ rest) {i n : ℕ} (hn : i + n ≤ front.length) :
    slice bytes (offset + i) n = slice front i n := by
  rw [slice, ← List.drop_drop, hd, slice, List.drop_append_of_le_length (by omega),
    List.take_append_of_le_length (by rw [List.length_drop]; omega)]

theorem getU8_of_drop {bytes front rest : List UInt8} {offset : ℕ}
    (hd : bytes.drop offset = front ++ rest) {i : ℕ} (hi : i < front.length) :
    getU8 bytes (offset + i) = getU8 front i := by
  have hfront := slice_of_drop hd (i := i) (n := 1) (by omega)
  have hlen : offset + i < bytes.length := by
    have hl := congrArg List.length hd
    rw [List.length_drop, List.length_append] at hl
    omega
  rw [slice_one bytes (offset + i) hlen, slice_one front i hi] at hfront
  exact List.head_eq_of_cons_eq hfront

/-- A list read as a buffer. -/
theorem Buffer.read_getU8 (bytes : List UInt8) (offset size : ℕ)
    (hs : offset + size ≤ bytes.length) :
    Buffer.read (getU8 bytes) offset size = slice bytes offset size := by
  apply List.ext_getElem
  · rw [Buffer.read_length, slice_length bytes offset size hs]
  · intro i hi hi'
    rw [Buffer.read_length] at hi
    have hlt : offset + i < bytes.length := by omega
    simp [Buffer.read, slice, getU8, List.getD_eq_getElem?_getD, hlt]

end LittleEndian
