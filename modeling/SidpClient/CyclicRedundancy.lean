import Mathlib.Data.List.Basic
import Mathlib.Logic.Function.Iterate

/-! Cyclic redundancy checks of any width, one bit after another, and the reflected register that
takes a byte at a time from a table. -/
namespace Crc

variable {w : ℕ}

/-- The parameters a CRC is specified by. -/
structure Parameters (w : ℕ) where
  poly : BitVec w
  init : BitVec w
  reflectIn : Bool
  reflectOut : Bool
  xorOut : BitVec w

/-- A bit meets the top of the register, and what leaves there selects the polynomial. -/
def shiftIn (poly r : BitVec w) (b : Bool) :
    BitVec w := (r <<< 1) ^^^ if r.msb ^^ b then poly else 0#w

/-- The bits of a byte in the order they enter. -/
def byteBits (reflect : Bool) (byte : BitVec 8) : List Bool :=
  (List.range 8).map fun i => if reflect then byte.getLsbD i else byte.getMsbD i

def register (p : Parameters w) (data : List (BitVec 8)) : BitVec w :=
  (data.flatMap (byteBits p.reflectIn)).foldl (shiftIn p.poly) p.init

/-- The CRC as it is specified. -/
def checksum (p : Parameters w) (data : List (BitVec 8)) : BitVec w :=
  (if p.reflectOut then (register p data).reverse else register p data) ^^^ p.xorOut

/-! The reflected register. -/

/-- A bit meets the bottom of the register. -/
def shiftOut (poly r : BitVec w) (b : Bool) : BitVec w :=
  (r >>> 1) ^^^ if r.getLsbD 0 ^^ b then poly else 0#w

/-- A zero bit enters. -/
def step (poly r : BitVec w) : BitVec w := shiftOut poly r false

theorem reverse_shiftIn (poly r : BitVec w) (b : Bool) :
    (shiftIn poly r b).reverse = shiftOut poly.reverse r.reverse b := by
  have low : r.reverse.getLsbD 0 = r.msb := by
    rw [BitVec.getLsbD_reverse, BitVec.msb_eq_getMsbD_zero]
  apply BitVec.eq_of_getLsbD_eq
  intro i hi
  rw [shiftIn, shiftOut, low, BitVec.getLsbD_reverse, BitVec.getMsbD_xor, BitVec.getLsbD_xor,
    BitVec.getMsbD_shiftLeft, BitVec.getLsbD_ushiftRight, BitVec.getLsbD_reverse, Nat.add_comm]
  split
  · rw [BitVec.getLsbD_reverse]
  · simp

theorem reverse_foldl_shiftIn (poly r : BitVec w) (bits : List Bool) :
    (bits.foldl (shiftIn poly) r).reverse = bits.foldl (shiftOut poly.reverse) r.reverse := by
  induction bits generalizing r with
  | nil => rfl
  | cons b bits ih => rw [List.foldl_cons, List.foldl_cons, ih, reverse_shiftIn]

/-! A byte at a time. -/

/-- Bits that enter one by one may as well be in the register from the start. -/
theorem foldl_shiftOut_bits (poly r x : BitVec w) (n : ℕ) :
    (List.range n).foldl (fun r i => shiftOut poly r (x.getLsbD i)) r =
      (step poly)^[n] (r ^^^ x) ^^^ (x >>> n) := by
  induction n with
  | zero =>
    have same : x >>> 0 = x := BitVec.ushiftRight_zero x
    rw [List.range_zero, List.foldl_nil, Function.iterate_zero, id_eq, same, BitVec.xor_assoc,
      BitVec.xor_self, BitVec.xor_zero]
  | succ n ih =>
    rw [List.range_succ, List.foldl_concat, ih, Function.iterate_succ_apply']
    generalize (step poly)^[n] (r ^^^ x) = t
    -- the bit that enters cancels the one that waits at the bottom
    have bottom : ((t ^^^ x >>> n).getLsbD 0 ^^ x.getLsbD n) = t.getLsbD 0 := by
      rw [BitVec.getLsbD_xor, BitVec.getLsbD_ushiftRight, Nat.add_zero, Bool.xor_assoc,
        Bool.xor_self, Bool.xor_false]
    rw [step, shiftOut, shiftOut, bottom, Bool.xor_false, BitVec.ushiftRight_xor_distrib,
      BitVec.shiftRight_add, BitVec.xor_assoc, BitVec.xor_assoc, BitVec.xor_comm (x >>> n >>> 1)]

/-- The bits that have not reached the bottom only move down. -/
theorem iterate_step_low (poly x y : BitVec w) (n : ℕ) (low : ∀ i < n, x.getLsbD i = y.getLsbD i)
    (none : y >>> n = 0#w) : (step poly)^[n] x = (step poly)^[n] y ^^^ (x >>> n) := by
  have same : (List.range n).foldl (fun r i => shiftOut poly r (x.getLsbD i)) 0#w =
      (List.range n).foldl (fun r i => shiftOut poly r (y.getLsbD i)) 0#w := by
    apply List.foldl_ext
    intro r i hi
    rw [low i (List.mem_range.mp hi)]
  rw [foldl_shiftOut_bits, foldl_shiftOut_bits, BitVec.zero_xor, BitVec.zero_xor, none,
    BitVec.xor_zero] at same
  rw [← same, BitVec.xor_assoc, BitVec.xor_self, BitVec.xor_zero]

/-- The entry of the byte table for one index. -/
def tableEntry (poly : BitVec w) (index : BitVec 8) : BitVec w := (step poly)^[8] (index.setWidth w)

/-- A byte enters through the table. -/
def byteStep (poly r : BitVec w) (byte : BitVec 8) : BitVec w :=
  tableEntry poly (r.setWidth 8 ^^^ byte) ^^^ (r >>> 8)

theorem foldl_byteBits (hw : 8 ≤ w) (poly r : BitVec w) (byte : BitVec 8) :
    (byteBits true byte).foldl (shiftOut poly) r = byteStep poly r byte := by
  have bits : (byteBits true byte).foldl (shiftOut poly) r =
      (List.range 8).foldl (fun r i => shiftOut poly r ((byte.setWidth w).getLsbD i)) r := by
    rw [byteBits, List.foldl_map]
    apply List.foldl_ext
    intro r i hi
    have small : i < w := Nat.lt_of_lt_of_le (List.mem_range.mp hi) hw
    simp [small]
  have byte_gone : byte.setWidth w >>> 8 = 0#w := by
    apply BitVec.eq_of_getLsbD_eq
    intro i hi
    simp [BitVec.getLsbD_ushiftRight]
  have index_gone : (r.setWidth 8 ^^^ byte).setWidth w >>> 8 = 0#w := by
    apply BitVec.eq_of_getLsbD_eq
    intro i hi
    simp [BitVec.getLsbD_ushiftRight]
  have low : ∀ i < 8, (r ^^^ byte.setWidth w).getLsbD i =
      ((r.setWidth 8 ^^^ byte).setWidth w).getLsbD i := by
    intro i hi
    have small : i < w := Nat.lt_of_lt_of_le hi hw
    simp [hi, small]
  rw [bits, foldl_shiftOut_bits, byte_gone, BitVec.xor_zero,
    iterate_step_low poly _ _ 8 low index_gone, BitVec.ushiftRight_xor_distrib, byte_gone,
      BitVec.xor_zero]
  rfl

/-- With both reflections the specification is the table-driven register. -/
theorem checksum_reflected (hw : 8 ≤ w) (p : Parameters w) (input : p.reflectIn = true)
    (output : p.reflectOut = true) (data : List (BitVec 8)) :
    checksum p data = data.foldl (byteStep p.poly.reverse) p.init.reverse ^^^ p.xorOut := by
  have bytes (r : BitVec w) : (data.flatMap (byteBits true)).foldl (shiftOut p.poly.reverse) r =
      data.foldl (byteStep p.poly.reverse) r := by
    induction data generalizing r with
    | nil => rfl
    | cons byte data ih =>
      rw [List.flatMap_cons, List.foldl_append, foldl_byteBits hw, ih, List.foldl_cons]
  rw [checksum, if_pos output, register, input, reverse_foldl_shiftIn, bytes]

/-! Corruptions that a checksum detects. -/

/-- Where the polynomial leaves its mark on top, nothing of the register is forgotten. -/
theorem shiftOut_injective {poly : BitVec w} (top : poly.msb = true) (b : Bool) :
    Function.Injective fun r => shiftOut poly r b := by
  intro r r' same
  have mark (x : BitVec w) : (shiftOut poly x b).msb = (x.getLsbD 0 ^^ b) := by
    rw [shiftOut]
    by_cases selected : (x.getLsbD 0 ^^ b) = true
    · rw [if_pos selected, BitVec.msb_xor, top, selected]
      simp
    · rw [if_neg selected, eq_false_of_ne_true selected]
      simp
  have marks : (r.getLsbD 0 ^^ b) = (r'.getLsbD 0 ^^ b) := by
    rw [← mark r, ← mark r']
    exact congrArg BitVec.msb same
  have halves : r >>> 1 = r' >>> 1 := by
    have whole : shiftOut poly r b = shiftOut poly r' b := same
    rw [shiftOut, shiftOut, marks] at whole
    exact BitVec.xor_left_inj _ |>.mp whole
  apply BitVec.eq_of_getLsbD_eq
  intro i _
  cases i with
  | zero => exact Bool.xor_left_inj.mp marks
  | succ i =>
    have bit := congrArg (BitVec.getLsbD · i) halves
    simp only [BitVec.getLsbD_ushiftRight] at bit
    rw [Nat.add_comm i 1]
    exact bit

theorem foldl_shiftOut_injective {poly : BitVec w} (top : poly.msb = true) (bits : List Bool) :
    Function.Injective fun r => bits.foldl (shiftOut poly) r := by
  induction bits with
  | nil => exact fun _ _ same => same
  | cons b bits ih => exact fun _ _ same => shiftOut_injective top b (ih same)

theorem step_iterate_injective {poly : BitVec w} (top : poly.msb = true) (n : ℕ) :
    Function.Injective (step poly)^[n] :=
      Function.Injective.iterate (shiftOut_injective top false) n

/-- A stream in the register, its first bit at the bottom. -/
def inRegister (w : ℕ) (bits : List Bool) : BitVec w := (BitVec.ofBoolListLE bits).setWidth w

theorem getLsbD_inRegister {bits : List Bool} {i : ℕ} (hi : i < bits.length) (small : i < w) :
    (inRegister w bits).getLsbD i = bits[i] := by
  rw [inRegister, BitVec.getLsbD_setWidth, BitVec.getLsbD_ofBoolListLE]
  simp [small, hi]

/-- Bits that fit into the register may as well be there from the start. -/
theorem foldl_shiftOut_entered (poly r : BitVec w) {bits : List Bool} (short : bits.length ≤ w) :
    bits.foldl (shiftOut poly) r = (step poly)^[bits.length] (r ^^^ inRegister w bits) := by
  have listed : bits = (List.range bits.length).map (inRegister w bits).getLsbD := by
    apply List.ext_getElem
    · simp
    · intro i hi _
      rw [List.getElem_map, List.getElem_range, getLsbD_inRegister hi (Nat.lt_of_lt_of_le hi short)]
  have gone : inRegister w bits >>> bits.length = 0#w := by
    apply BitVec.eq_of_getLsbD_eq
    intro i hi
    simp [inRegister]
  calc bits.foldl (shiftOut poly) r
      = ((List.range bits.length).map (inRegister w bits).getLsbD).foldl (shiftOut poly) r := by
        rw [← listed]
    _ = (step poly)^[bits.length] (r ^^^ inRegister w bits) := by
        rw [List.foldl_map, foldl_shiftOut_bits, gone, BitVec.xor_zero]

theorem foldl_shiftOut_short {poly : BitVec w} (top : poly.msb = true) (r : BitVec w)
    {bits bits' : List Bool} (length : bits.length = bits'.length) (short : bits.length ≤ w)
    (same : bits.foldl (shiftOut poly) r = bits'.foldl (shiftOut poly) r) : bits = bits' := by
  rw [foldl_shiftOut_entered poly r short, foldl_shiftOut_entered poly r (length ▸ short),
    ← length] at same
  have values := BitVec.xor_right_inj _ |>.mp (step_iterate_injective top _ same)
  apply List.ext_getElem length
  intro i hi hi'
  have small : i < w := Nat.lt_of_lt_of_le hi short
  rw [← getLsbD_inRegister hi small, ← getLsbD_inRegister hi' small, values]

/-- Streams that differ inside a window as wide as the register leave different registers. -/
theorem foldl_shiftOut_window {poly : BitVec w} (top : poly.msb = true) (r : BitVec w)
    {bits bits' : List Bool} (length : bits.length = bits'.length) (start : ℕ)
    (window : ∀ i, bits[i]? ≠ bits'[i]? → start ≤ i ∧ i < start + w)
    (same : bits.foldl (shiftOut poly) r = bits'.foldl (shiftOut poly) r) : bits = bits' := by
  have outside (i : ℕ) (hi : ¬(start ≤ i ∧ i < start + w)) : bits[i]? = bits'[i]? := by
    by_contra differ
    exact hi (window i differ)
  have before : bits.take start = bits'.take start := by
    apply List.ext_getElem?
    intro i
    rw [List.getElem?_take, List.getElem?_take]
    split
    · exact outside i (by omega)
    · rfl
  have behind : (bits.drop start).drop w = (bits'.drop start).drop w := by
    apply List.ext_getElem?
    intro i
    rw [List.drop_drop, List.drop_drop, List.getElem?_drop, List.getElem?_drop]
    exact outside _ (by omega)
  have cut (l : List Bool) :
      l = l.take start ++ ((l.drop start).take w ++ (l.drop start).drop w) := by
    rw [List.take_append_drop, List.take_append_drop]
  rw [cut bits, cut bits', before, behind, List.foldl_append, List.foldl_append, List.foldl_append,
    List.foldl_append] at same
  have inside := foldl_shiftOut_short top _ (by simp [length]) (List.length_take_le _ _)
      (foldl_shiftOut_injective top _ same)
  rw [cut bits, cut bits', before, behind, inside]

/-- Every corruption inside one window as wide as the register changes the checksum, if the
polynomial has a constant term. -/
theorem checksum_window (p : Parameters w) (constant : p.poly.getLsbD 0 = true)
    {data data' : List (BitVec 8)} (length : data.length = data'.length) (start : ℕ)
    (window : ∀ i, (data.flatMap (byteBits p.reflectIn))[i]? ≠
      (data'.flatMap (byteBits p.reflectIn))[i]? → start ≤ i ∧ i < start + w)
    (same : checksum p data = checksum p data') :
    data.flatMap (byteBits p.reflectIn) = data'.flatMap (byteBits p.reflectIn) := by
  have size (l : List (BitVec 8)) : (l.flatMap (byteBits p.reflectIn)).length = 8 * l.length := by
    induction l with
    | nil => rfl
    | cons byte l ih =>
      rw [List.flatMap_cons, List.length_append, ih, List.length_cons, byteBits, List.length_map,
        List.length_range]
      omega
  have registers : (register p data).reverse = (register p data').reverse := by
    have unmasked := BitVec.xor_left_inj _ |>.mp same
    split at unmasked
    · exact unmasked
    · exact congrArg BitVec.reverse unmasked
  rw [register, register, reverse_foldl_shiftIn, reverse_foldl_shiftIn] at registers
  have top : p.poly.reverse.msb = true := by
    rw [BitVec.msb_reverse]
    exact constant
  exact foldl_shiftOut_window top _ (by rw [size, size, length]) start window registers

theorem byteBits_injective (reflect : Bool) : Function.Injective (byteBits reflect) := by
  intro byte byte' same
  have bits (i : ℕ) (hi : i < 8) : (if reflect then byte.getLsbD i else byte.getMsbD i) =
      if reflect then byte'.getLsbD i else byte'.getMsbD i := by
    have entry := congrArg (fun l : List Bool => l[i]?) same
    simpa [byteBits, hi] using entry
  cases reflect with
  | true =>
    apply BitVec.eq_of_getLsbD_eq
    intro i hi
    exact bits i hi
  | false =>
    apply BitVec.eq_of_getMsbD_eq
    intro i hi
    exact bits i hi

/-- Different bytes are different bits. -/
theorem flatMap_byteBits_injective (reflect : Bool) {data data' : List (BitVec 8)}
    (length : data.length = data'.length)
    (same : data.flatMap (byteBits reflect) = data'.flatMap (byteBits reflect)) : data = data' := by
  induction data generalizing data' with
  | nil => exact (List.length_eq_zero_iff.mp length.symm).symm
  | cons byte data ih =>
    cases data' with
    | nil => exact absurd length (by simp)
    | cons byte' data' =>
      rw [List.flatMap_cons, List.flatMap_cons] at same
      obtain ⟨first, rest⟩ := List.append_inj same (by simp [byteBits])
      rw [byteBits_injective reflect first, ih (Nat.succ.inj length) rest]

end Crc
