import SidpClient.CyclicRedundancy
import SidpClient.MessageCrc

/-! The message CRC against the bit-serial definition of section 3.1. -/
namespace SidpClient
open LittleEndian

namespace Crc32

/-- CRC-32/ISO-HDLC as section 3.1 gives it. -/
def isoHdlc : Crc.Parameters 32 where
  poly := 0x04C11DB7#32
  init := 0xFFFFFFFF#32
  reflectIn := true
  reflectOut := true
  xorOut := 0xFFFFFFFF#32

/-- The CRC of a message: its first 8 bytes and its payload, bit after bit. -/
def specifiedCrc (message : List UInt8) : UInt32 :=
  ⟨Crc.checksum isoHdlc ((message.take 8 ++ message.drop 12).map UInt8.toBitVec)⟩

example : Crc.checksum isoHdlc [0x31, 0x32, 0x33, 0x34, 0x35, 0x36, 0x37, 0x38,
    0x39] = 0xCBF43926#32 := by
  decide +kernel

/-- The constant of the table is the polynomial reversed. -/
theorem reversed_poly : isoHdlc.poly.reverse = 0xEDB88320#32 := by decide +kernel

theorem tableStep_toBitVec (value : UInt32) :
    (tableStep value).toBitVec = Crc.step isoHdlc.poly.reverse value.toBitVec := by
  have bottom : value &&& 1 ≠ 0 ↔ value.toBitVec.getLsbD 0 = true := by
    have bit : (value &&& 1).toBitVec = BitVec.setWidth 32
        (BitVec.ofBool (value.toBitVec.getLsbD 0)) := by
      rw [UInt32.toBitVec_and]
      exact BitVec.and_one_eq_setWidth_ofBool_getLsbD
    rw [ne_eq, ← UInt32.toBitVec_inj, bit]
    cases value.toBitVec.getLsbD 0 <;> decide
  have half : (value >>> 1).toBitVec = value.toBitVec >>> 1 := UInt32.toBitVec_shiftRight ..
  rw [tableStep, reversed_poly, Crc.step, Crc.shiftOut, Bool.xor_false]
  by_cases low : value &&& 1 ≠ 0
  · rw [if_pos low, if_pos (bottom.mp low), UInt32.toBitVec_xor, half]
    rfl
  · have clear : ¬value.toBitVec.getLsbD 0 = true := fun high => low (bottom.mpr high)
    rw [if_neg low, if_neg clear, BitVec.xor_zero, half]

theorem tableEntry_toBitVec (index : UInt8) :
    (tableEntry index).toBitVec = Crc.tableEntry isoHdlc.poly.reverse index.toBitVec := by
  have steps (n : ℕ) (value : UInt32) :
      (tableStep^[n] value).toBitVec = (Crc.step isoHdlc.poly.reverse)^[n] value.toBitVec := by
    induction n generalizing value with
    | zero => rfl
    | succ n ih => rw [Function.iterate_succ_apply, Function.iterate_succ_apply, ih,
        tableStep_toBitVec]
  exact steps 8 index.toUInt32

/-- The table-driven update is the reflected register, byte by byte. -/
theorem update_toBitVec (state : UInt32) (data : List UInt8) : (update state data).toBitVec =
    (data.map UInt8.toBitVec).foldl (Crc.byteStep isoHdlc.poly.reverse) state.toBitVec := by
  induction data generalizing state with
  | nil => rfl
  | cons byte data ih =>
    have entered : (tableEntry (state.toUInt8 ^^^ byte) ^^^ (state >>> 8)).toBitVec =
        Crc.byteStep isoHdlc.poly.reverse state.toBitVec byte.toBitVec := by
      have shifted : (state >>> 8).toBitVec = state.toBitVec >>> 8 := UInt32.toBitVec_shiftRight ..
      rw [UInt32.toBitVec_xor, tableEntry_toBitVec, UInt8.toBitVec_xor,
        UInt32.toBitVec_toUInt8, shifted]
      rfl
    rw [List.map_cons, List.foldl_cons, ← entered]
    exact ih _

theorem update_append (state : UInt32) (data rest : List UInt8) :
    update state (data ++ rest) = update (update state data) rest := List.foldl_append

theorem messageCrc_specified (message : List UInt8) :
    messageCrc message = specifiedCrc message := by
  apply UInt32.toBitVec_inj.mp
  have start : isoHdlc.init.reverse = initialValue.toBitVec := by decide +kernel
  rw [specifiedCrc, Crc.checksum_reflected (by decide) isoHdlc rfl rfl, start, ← update_toBitVec,
    update_append]
  rfl

/-- The message with another CRC field. -/
def withField (message : List UInt8) (crc : UInt32) : List UInt8 :=
  message.take 8 ++ le32 crc ++ message.drop 12

section
variable {message : List UInt8} (long : 12 ≤ message.length) (crc : UInt32)

include long

theorem withField_parts : (withField message crc).take 8 = message.take 8 ∧
    slice (withField message crc) 8 4 = le32 crc ∧
      (withField message crc).drop 12 = message.drop 12 := by
  have front : (message.take 8).length = 8 := List.length_take_of_le (by omega)
  have field : (le32 crc).length = 4 := le32_length _
  have both : (message.take 8 ++ le32 crc).length = 12 := by rw [List.length_append, front, field]
  refine ⟨?_, ?_, List.drop_left' both⟩
  · rw [withField, List.append_assoc, List.take_left' front]
  · rw [withField, slice, List.append_assoc, List.drop_left' front, List.take_left' field]

theorem withField_length : (withField message crc).length = message.length := by
  have front : (message.take 8).length = 8 := List.length_take_of_le (by omega)
  rw [withField, List.length_append, List.length_append, front, le32_length, List.length_drop]
  omega

theorem withField_getElem? (i : ℕ) (outside : ¬(8 ≤ i ∧ i < 12)) :
    (withField message crc)[i]? = message[i]? := by
  obtain ⟨front, -, back⟩ := withField_parts long crc
  by_cases before : i < 8
  · rw [← List.getElem?_take_of_lt before, front, List.getElem?_take_of_lt before]
  · have behind : i = 12 + (i - 12) := by omega
    rw [behind, ← List.getElem?_drop, back, List.getElem?_drop]

/-- The field is not part of what the CRC covers. -/
theorem withField_specified : specifiedCrc (withField message crc) = specifiedCrc message := by
  obtain ⟨front, -, back⟩ := withField_parts long crc
  rw [specifiedCrc, specifiedCrc, front, back]

end

/-- For every message of 12 to 8192 bytes: the table-driven CRC over the two spans is the specified
one, verification compares the stored field with it, and setting the field makes the message verify
and changes nothing but the field. -/
theorem message_crc_specified (message : List UInt8) (size : isValidMessageSize message.length) :
    calculateMessage message = some (specifiedCrc message) ∧
      (verifyMessageCrc message = true ↔ getU32 message 8 = specifiedCrc message) ∧
      ∃ sealed, setMessageCrc message = some sealed ∧ verifyMessageCrc sealed = true ∧
        sealed.length = message.length ∧ ∀ i, ¬(8 ≤ i ∧ i < 12) → sealed[i]? = message[i]? := by
  have long : 12 ≤ message.length := size.1
  have calculated (m : List UInt8) (hm : isValidMessageSize m.length) :
      calculateMessage m = some (specifiedCrc m) := by
    rw [calculateMessage, if_pos hm, messageCrc_specified]
  have verified (m : List UInt8) (hm : isValidMessageSize m.length) :
      verifyMessageCrc m = true ↔ getU32 m 8 = specifiedCrc m := by
    rw [verifyMessageCrc, calculated m hm]
    exact beq_iff_eq
  have set : setMessageCrc message = some (withField message (specifiedCrc message)) := by
    rw [setMessageCrc, calculated message size]
    rfl
  refine ⟨calculated message size, verified message size, _, set, ?_, withField_length long _,
    withField_getElem? long _⟩
  have field := (withField_parts long (specifiedCrc message)).2.1
  have size' : isValidMessageSize (withField message (specifiedCrc message)).length := by
    rw [withField_length long]
    exact size
  rw [verified _ size', withField_specified long, getU32, field, ofNat_leNat_le32]

/-- A READ_REGISTERS request for all registers of stop 1: the CRC goes on behind its field. -/
theorem readRegisters_crc_specified :
    let message := [1, 1, 0x13, 0, 2, 0, 0, 0, 0, 0, 0, 0, 1, 0, 0, 0, 0, 0, 0, 0]
    calculateMessage message = some (specifiedCrc message) ∧
      (verifyMessageCrc message = true ↔ getU32 message 8 = specifiedCrc message) ∧
      ∃ sealed, setMessageCrc message = some sealed ∧ verifyMessageCrc sealed = true ∧
        sealed.length = message.length ∧ ∀ i, ¬(8 ≤ i ∧ i < 12) → sealed[i]? = message[i]? :=
  message_crc_specified [1, 1, 0x13, 0, 2, 0, 0, 0, 0, 0, 0, 0, 1, 0, 0, 0, 0, 0, 0, 0] (by decide)

/-! Corrupted messages. -/

/-- What the CRC is taken over: the header in front of its field, and the payload. -/
def coveredBytes (message : List UInt8) : List UInt8 := message.take 8 ++ message.drop 12

/-- The bits of these bytes, the least significant of each byte first. -/
def coveredBits (message : List UInt8) : List Bool :=
  ((coveredBytes message).map UInt8.toBitVec).flatMap (Crc.byteBits true)

theorem verifyMessageCrc_iff (message : List UInt8) : verifyMessageCrc message = true ↔
    isValidMessageSize message.length ∧ getU32 message 8 = specifiedCrc message := by
  rw [verifyMessageCrc, calculateMessage]
  by_cases size : isValidMessageSize message.length
  · rw [if_pos size, messageCrc_specified]
    simp [size, crcOffset]
  · rw [if_neg size]
    simp [size]

theorem coveredBytes_of_specified {message corrupted : List UInt8}
    (size : corrupted.length = message.length) (start : ℕ)
    (window : ∀ i, (coveredBits message)[i]? ≠ (coveredBits corrupted)[i]? →
    start ≤ i ∧ i < start + 32) (same : specifiedCrc message = specifiedCrc corrupted) :
      coveredBytes message = coveredBytes corrupted := by
  have length : (coveredBytes message).length = (coveredBytes corrupted).length := by
    simp [coveredBytes, size]
  have length' : ((coveredBytes message).map UInt8.toBitVec).length =
      ((coveredBytes corrupted).map UInt8.toBitVec).length := by
    rw [List.length_map, List.length_map, length]
  have bits := Crc.checksum_window isoHdlc (by decide) length' start window
      (congrArg UInt32.toBitVec same)
  have bytes := Crc.flatMap_byteBits_injective true length' bits
  exact List.map_injective_iff.mpr (fun _ _ => UInt8.toBitVec_inj.mp) bytes

/-- For every message that verifies and every other of its size: with the same field and covered
bits that differ inside a window of 32 it does not verify, and neither does it with another field
alone. -/
theorem short_corruption_rejected (message corrupted : List UInt8)
    (accepted : verifyMessageCrc message = true) (size : corrupted.length = message.length) :
    (slice corrupted 8 4 = slice message 8 4 → coveredBytes corrupted ≠ coveredBytes message →
      ∀ start,
        (∀ i, (coveredBits message)[i]? ≠ (coveredBits corrupted)[i]? →
        start ≤ i ∧ i < start + 32) → verifyMessageCrc corrupted = false) ∧
    (coveredBytes corrupted = coveredBytes message → slice corrupted 8 4 ≠ slice message 8 4 →
      verifyMessageCrc corrupted = false) := by
  obtain ⟨valid, stored⟩ := (verifyMessageCrc_iff message).mp accepted
  constructor
  · intro field differ start window
    apply Bool.eq_false_of_not_eq_true
    intro verified
    have stored' := ((verifyMessageCrc_iff corrupted).mp verified).2
    have same : specifiedCrc message = specifiedCrc corrupted := by
      rw [← stored, ← stored', getU32, getU32, field]
    exact differ (coveredBytes_of_specified size start window same).symm
  · intro covered differ
    apply Bool.eq_false_of_not_eq_true
    intro verified
    have stored' := ((verifyMessageCrc_iff corrupted).mp verified).2
    have same : specifiedCrc corrupted = specifiedCrc message := by
      rw [specifiedCrc, specifiedCrc]
      exact congrArg (fun bytes : List UInt8 =>
        (⟨Crc.checksum isoHdlc (bytes.map UInt8.toBitVec)⟩ : UInt32)) covered
    have long : 8 + 4 ≤ message.length := valid.1
    apply differ
    calc slice corrupted 8 4
        = le32 (getU32 corrupted 8) := (le32_getU32 corrupted 8 (by omega)).symm
      _ = le32 (getU32 message 8) := by rw [stored', same, stored]
      _ = slice message 8 4 := le32_getU32 message 8 long

def getStateMessage : List UInt8 := [1, 1, 3, 0, 1, 0, 0, 0, 136, 193, 215, 49]

/-- The same request with one bit of its opcode flipped. -/
def flippedMessage : List UInt8 := [1, 1, 7, 0, 1, 0, 0, 0, 136, 193, 215, 49]

theorem flippedMessage_window (i : ℕ)
    (differ : (coveredBits getStateMessage)[i]? ≠ (coveredBits flippedMessage)[i]?) :
    16 ≤ i ∧ i < 16 + 32 := by
  have inside : ∀ i < 64, (coveredBits getStateMessage)[i]? ≠ (coveredBits flippedMessage)[i]? →
      16 ≤ i ∧ i < 16 + 32 := by decide +kernel
  by_cases small : i < 64
  · exact inside i small differ
  · have size : (coveredBits getStateMessage).length = 64 ∧
        (coveredBits flippedMessage).length = 64 := by
      decide +kernel
    rw [List.getElem?_eq_none (by omega), List.getElem?_eq_none (by omega)] at differ
    exact absurd rfl differ

theorem flippedMessage_rejected : verifyMessageCrc flippedMessage = false :=
  (short_corruption_rejected getStateMessage flippedMessage (by decide +kernel) rfl).1
  rfl (by decide) 16
    flippedMessage_window

end Crc32

end SidpClient
