import SidpClient.StreamDecoder
import SidpClient.WireDefinitions

/-! The SLIP codec of the CDC transport. -/
namespace SidpClient
open Streams

/-- A byte buffer of `MAX_FRAME_SIZE` bytes that is filled from its start. -/
structure FrameBuffer where
  bytes : List UInt8
  fits : bytes.length ≤ maxFrameSize

namespace FrameBuffer

def empty : FrameBuffer := ⟨[], Nat.zero_le _⟩

/-- The buffer with more bytes, if there is room for all of them. -/
def append (b : FrameBuffer) (data : List UInt8) : Option FrameBuffer :=
  if h : b.bytes.length + data.length ≤ maxFrameSize then
    some ⟨b.bytes ++ data, by rwa [List.length_append]⟩
  else none

theorem append_of_fits {b : FrameBuffer} {data : List UInt8}
    (h : b.bytes.length + data.length ≤ maxFrameSize) :
    b.append data = some ⟨b.bytes ++ data, by rwa [List.length_append]⟩ := dif_pos h

theorem append_of_overflow {b : FrameBuffer} {data : List UInt8}
    (h : maxFrameSize < b.bytes.length + data.length) : b.append data = none :=
  dif_neg (not_le.mpr h)

end FrameBuffer

namespace Slip
def frameEnd : UInt8 := 0xC0
def esc : UInt8 := 0xDB
def escEnd : UInt8 := 0xDC
def escEsc : UInt8 := 0xDD
end Slip

def maxEncodedFrameSize : ℕ := maxFrameSize * 2 + 2

/-! Encoding. -/

/-- `append_escaped_tx_byte` -/
def escapedByte (byte : UInt8) : List UInt8 :=
  if byte = Slip.frameEnd then [Slip.esc, Slip.escEnd]
  else if byte = Slip.esc then [Slip.esc, Slip.escEsc]
  else [byte]

def encodeMessage (message : List UInt8) : List UInt8 :=
  Slip.frameEnd :: (message.flatMap escapedByte ++ [Slip.frameEnd])

/-! Decoding. -/

/-- The decoder state; `frame` is `frame_buffer` up to `frame_size`. -/
structure SlipDecoder where
  receivingFrame : Bool := false
  escapePending : Bool := false
  frameDiscarded : Bool := false
  frame : FrameBuffer := .empty

namespace SlipDecoder

def resetFrameState (d : SlipDecoder) : SlipDecoder :=
  { d with frame := .empty, frameDiscarded := false, escapePending := false }

def appendDecodedByte (d : SlipDecoder) (byte : UInt8) : SlipDecoder :=
  match d.frame.append [byte] with
  | none => { d with frameDiscarded := true }
  | some frame => { d with frame }

/-- `consume_input_byte`: the next state, and whether the byte completes a frame. -/
def consumeInputByte (d : SlipDecoder) (byte : UInt8) : SlipDecoder × Bool :=
  if byte = Slip.frameEnd then
    if !d.receivingFrame then ({ d with receivingFrame := true }.resetFrameState, false)
    else if d.escapePending then (d.resetFrameState, false)
    else if d.frameDiscarded then (d.resetFrameState, false)
    else if d.frame.bytes.length = 0 then (d, false)
    else (d, true)
  else if !d.receivingFrame || d.frameDiscarded then (d, false)
  else if d.escapePending then
    let d := { d with escapePending := false }
    if byte = Slip.escEnd then (d.appendDecodedByte Slip.frameEnd, false)
    else if byte = Slip.escEsc then (d.appendDecodedByte Slip.esc, false)
    else ({ d with frameDiscarded := true }, false)
  else if byte = Slip.esc then ({ d with escapePending := true }, false)
  else (d.appendDecodedByte byte, false)

/-- One turn of the read loop: a completed frame is delivered and the decoder starts over. -/
def step (d : SlipDecoder) (byte : UInt8) : SlipDecoder × Option (List UInt8) :=
  let r := d.consumeInputByte byte
  if r.2 then (r.1.resetFrameState, some r.1.frame.bytes) else (r.1, none)

end SlipDecoder

/-- The receive side of the CDC transport. -/
structure CdcInput where
  decoder : SlipDecoder := {}
  decoderEpoch : UInt32 := 0

/-- `drain_cdc_input` on the chunks the driver hands out until it has no more bytes: the packets
passed to `deliver_packet`, all with the epoch sampled at the start. -/
def CdcInput.drainCdcInput (c : CdcInput) (currentEpoch : UInt32) (isOpen : Bool)
    (chunks : List (List UInt8)) : CdcInput × List (List UInt8) :=
  let c := if c.decoderEpoch ≠ currentEpoch ∨ !isOpen then
      ⟨{ c.decoder.resetFrameState with receivingFrame := false }, currentEpoch⟩
    else c
  if !isOpen then (c, [])
  else
    let r := feedChunks SlipDecoder.step c.decoder chunks
    (⟨r.1, c.decoderEpoch⟩, r.2)

/-! Round trips. -/

/-- A message the transport carries. -/
structure SlipMessage where
  bytes : List UInt8
  nonempty : bytes ≠ []
  fits : bytes.length ≤ maxFrameSize

/-- A decoder inside a frame, with the bytes it holds. -/
def SlipDecoder.holding (frame : FrameBuffer) : SlipDecoder := { receivingFrame := true, frame }

/-- The empty synchronised state. -/
def SlipDecoder.synced : SlipDecoder := .holding .empty

/-- What the next END makes of the bytes a decoder holds. -/
def SlipDecoder.leftover (d : SlipDecoder) : Option (List UInt8) :=
  if d.receivingFrame ∧ !d.escapePending ∧ !d.frameDiscarded ∧ d.frame.bytes ≠ [] then
    some d.frame.bytes
  else none

variable {d : SlipDecoder} {frame : FrameBuffer}

theorem escapedByte_length_le (byte : UInt8) : (escapedByte byte).length ≤ 2 := by
  rw [escapedByte]
  split
  · exact le_rfl
  · split <;> simp

theorem encodeMessage_length_le (message : List UInt8) :
    (encodeMessage message).length ≤ message.length * 2 + 2 := by
  have hbody : (message.flatMap escapedByte).length ≤ message.length * 2 := by
    induction message with
    | nil => exact Nat.zero_le _
    | cons byte message ih =>
      have hb := escapedByte_length_le byte
      rw [List.flatMap_cons, List.length_append, List.length_cons]
      omega
  rw [encodeMessage, List.length_cons, List.length_append, List.length_singleton]
  omega

/-- An END ends, drops or ignores whatever the decoder holds, and leaves it synchronised. -/
theorem step_end (d : SlipDecoder) : d.step Slip.frameEnd = (.synced, d.leftover) := by
  obtain ⟨receiving, escaped, discarded, frame⟩ := d
  cases receiving with
  | false => rfl
  | true =>
    cases escaped with
    | true => rfl
    | false =>
      cases discarded with
      | true => rfl
      | false =>
        obtain ⟨bytes, fits⟩ := frame
        cases bytes with
        | nil => rfl
        | cons byte bytes => rfl

/-- One escaped byte adds that byte. -/
theorem feed_escapedByte (byte : UInt8) (hroom : frame.bytes.length + 1 ≤ maxFrameSize) :
    feed SlipDecoder.step (.holding frame) (escapedByte byte) =
      (.holding ⟨frame.bytes ++ [byte], by rwa [List.length_append]⟩, []) := by
  have happend : frame.append [byte] = some ⟨frame.bytes ++ [byte], by rwa [List.length_append]⟩ :=
    FrameBuffer.append_of_fits hroom
  rw [escapedByte]
  split
  · rename_i hend
    subst hend
    simp [feed, SlipDecoder.step, SlipDecoder.consumeInputByte, SlipDecoder.holding,
      SlipDecoder.appendDecodedByte, Slip.esc, Slip.frameEnd, Slip.escEnd] at happend ⊢
    rw [happend]
  · rename_i hend
    split
    · rename_i hesc
      subst hesc
      simp [feed, SlipDecoder.step, SlipDecoder.consumeInputByte, SlipDecoder.holding,
        SlipDecoder.appendDecodedByte, Slip.esc, Slip.frameEnd, Slip.escEnd,
          Slip.escEsc] at happend ⊢
      rw [happend]
    · rename_i hesc
      simp [feed, SlipDecoder.step, SlipDecoder.consumeInputByte, SlipDecoder.holding,
        SlipDecoder.appendDecodedByte, hend, hesc, happend]

theorem feed_payload (message : List UInt8)
    (hroom : frame.bytes.length + message.length ≤ maxFrameSize) :
    feed SlipDecoder.step (.holding frame) (message.flatMap escapedByte) =
      (.holding ⟨frame.bytes ++ message, by rwa [List.length_append]⟩, []) := by
  induction message generalizing frame with
  | nil => simp [SlipDecoder.holding]
  | cons byte message ih =>
    rw [List.length_cons] at hroom
    have hone : frame.bytes.length + 1 ≤ maxFrameSize := by omega
    have hrest : (frame.bytes ++ [byte]).length + message.length ≤ maxFrameSize := by
      rw [List.length_append, List.length_singleton]
      omega
    rw [List.flatMap_cons, feed_append, feed_escapedByte byte hone, ih hrest]
    simp [List.append_assoc]

/-- Whatever the decoder holds, an encoded message is the last packet it completes. -/
theorem feed_encodeMessage (d : SlipDecoder) (m : SlipMessage) :
    feed SlipDecoder.step d (encodeMessage m.bytes) =
      (.synced, d.leftover.toList ++ [m.bytes]) := by
  have hroom : FrameBuffer.empty.bytes.length + m.bytes.length ≤ maxFrameSize := by
    rw [FrameBuffer.empty, List.length_nil, Nat.zero_add]
    exact m.fits
  have hpayload := feed_payload m.bytes hroom
  have hlast : (SlipDecoder.holding ⟨m.bytes, m.fits⟩).leftover = some m.bytes := by
    simp [SlipDecoder.leftover, SlipDecoder.holding, m.nonempty]
  -- the leading END clears the decoder, the trailing one completes the message
  rw [encodeMessage, feed_cons, step_end, SlipDecoder.synced, feed_append, hpayload]
  simp only [FrameBuffer.empty, List.nil_append]
  rw [feed_cons, step_end, hlast, feed_nil]
  rfl

/-- After an END a decoder never holds a packet back. -/
theorem feed_messages (ms : List SlipMessage) :
    feed SlipDecoder.step .synced (ms.flatMap fun m => encodeMessage m.bytes) =
      (.synced, ms.map SlipMessage.bytes) := by
  have hone : ∀ (d : SlipDecoder) (m : SlipMessage), d = .synced →
      (feed SlipDecoder.step d (encodeMessage m.bytes)).1 = .synced ∧
      (feed SlipDecoder.step d (encodeMessage m.bytes)).2 = [m.bytes] := by
    intro d m hd
    rw [hd, feed_encodeMessage]
    exact ⟨rfl, rfl⟩
  obtain ⟨hstate, hpackets⟩ :=
    feed_flatMap (P := fun d => d = SlipDecoder.synced) (fun d m => hone d m) rfl ms
  have hmap : (ms.flatMap fun m => [m.bytes]) = ms.map SlipMessage.bytes :=
    (List.map_eq_flatMap ..).symm
  exact Prod.ext hstate (hpackets.trans hmap)

/-- The callbacks of one session, each with the chunks it reads. -/
def CdcInput.drainAll (c : CdcInput) (currentEpoch : UInt32) :
    List (List (List UInt8)) → CdcInput × List (List UInt8)
  | [] => (c, [])
  | chunks :: callbacks =>
    let r := c.drainCdcInput currentEpoch true chunks
    let rest := r.1.drainAll currentEpoch callbacks
    (rest.1, r.2 ++ rest.2)

theorem CdcInput.drainAll_eq (c : CdcInput) (callbacks : List (List (List UInt8))) :
    c.drainAll c.decoderEpoch callbacks =
      (⟨(feed SlipDecoder.step c.decoder callbacks.flatten.flatten).1, c.decoderEpoch⟩,
        (feed SlipDecoder.step c.decoder callbacks.flatten.flatten).2) := by
  induction callbacks generalizing c with
  | nil => rfl
  | cons chunks callbacks ih =>
    have hdrain : c.drainCdcInput c.decoderEpoch true chunks =
        (⟨(feed SlipDecoder.step c.decoder chunks.flatten).1, c.decoderEpoch⟩,
          (feed SlipDecoder.step c.decoder chunks.flatten).2) := by
      simp [drainCdcInput, feedChunks_eq]
    rw [drainAll, hdrain]
    simp only
    rw [ih ⟨_, c.decoderEpoch⟩, List.flatten_cons, List.flatten_append, feed_append]

/-- SLIP round trip: an encoding fits the transmit buffer; whatever the decoder holds, the encoding
of a message delivers the bytes held, if they are a packet, and then the message, and leaves the
decoder synchronised; and a stream of messages is decoded to them however callbacks and chunks cut
it. -/
theorem slip_round_trip (m : SlipMessage) (ms : List SlipMessage) (c : CdcInput) :
    (encodeMessage m.bytes).length ≤ maxEncodedFrameSize ∧
      feed SlipDecoder.step c.decoder (encodeMessage m.bytes) =
        (.synced, c.decoder.leftover.toList ++ [m.bytes]) ∧
      (∀ packet ∈ c.decoder.leftover, packet = c.decoder.frame.bytes) ∧
      ∀ callbacks : List (List (List UInt8)),
        callbacks.flatten.flatten = (m :: ms).flatMap (fun m => encodeMessage m.bytes) →
        c.drainAll c.decoderEpoch callbacks =
          (⟨.synced, c.decoderEpoch⟩,
            c.decoder.leftover.toList ++ (m :: ms).map SlipMessage.bytes) := by
  refine ⟨?_, feed_encodeMessage c.decoder m, ?_, ?_⟩
  · have hlen := encodeMessage_length_le m.bytes
    have hfits := m.fits
    rw [maxEncodedFrameSize]
    omega
  · intro packet hp
    rw [SlipDecoder.leftover] at hp
    split at hp
    · exact (Option.some.inj hp).symm
    · exact absurd hp (by simp)
  · intro callbacks hcut
    rw [c.drainAll_eq, hcut, List.flatMap_cons, feed_append, feed_encodeMessage, feed_messages]
    simp [List.append_assoc]

end SidpClient
