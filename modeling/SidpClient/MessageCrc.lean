import SidpClient.WireDefinitions

/-! `crc32_hasher`: the table-driven reflected CRC-32 over a message without its CRC field. -/
namespace SidpClient
open LittleEndian

namespace Crc32

def initialValue : UInt32 := 0xFFFFFFFF
def xorOut : UInt32 := 0xFFFFFFFF

def tableStep (value : UInt32) : UInt32 :=
  if value &&& 1 ≠ 0 then (value >>> 1) ^^^ 0xEDB88320 else value >>> 1

/-- The entry `make_table` computes for one index. -/
def tableEntry (index : UInt8) : UInt32 := tableStep^[8] index.toUInt32

def update (state : UInt32) (data : List UInt8) : UInt32 :=
  data.foldl (fun state byte => tableEntry (state.toUInt8 ^^^ byte) ^^^ (state >>> 8)) state

def finalize (state : UInt32) : UInt32 := state ^^^ xorOut

def crcOffset : ℕ := 8

end Crc32

def isValidMessageSize (messageSize : ℕ) : Prop :=
  headerSize ≤ messageSize ∧ messageSize ≤ maxFrameSize

instance (n : ℕ) : Decidable (isValidMessageSize n) :=
  inferInstanceAs (Decidable (headerSize ≤ n ∧ n ≤ maxFrameSize))

namespace Crc32

/-- The CRC of the bytes in front of the CRC field and behind the header. -/
def messageCrc (message : List UInt8) : UInt32 :=
  finalize (update (update initialValue (message.take crcOffset)) (message.drop headerSize))

def calculateMessage (message : List UInt8) : Option UInt32 :=
  if isValidMessageSize message.length then some (messageCrc message) else none

/-- The message with its CRC field set, if it has the size of one. -/
def setMessageCrc (message : List UInt8) : Option (List UInt8) :=
  (calculateMessage message).map fun crc =>
    message.take crcOffset ++ le32 crc ++ message.drop (crcOffset + 4)

def verifyMessageCrc (message : List UInt8) : Bool :=
  match calculateMessage message with
  | some crc => getU32 message crcOffset == crc
  | none => false

end Crc32

end SidpClient
