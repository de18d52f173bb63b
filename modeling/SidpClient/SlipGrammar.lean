import SidpClient.SlipTransport

/-! The grammar of a SLIP stream, and that the CDC decoder accepts exactly that. -/
namespace SidpClient
open Streams

/-- The bytes between two ENDs that stand for a packet. -/
inductive Unescapes : List UInt8 → List UInt8 → Prop where
  | nil : Unescapes [] []
  | plain {byte : UInt8} {piece packet : List UInt8} (notEnd : byte ≠ Slip.frameEnd)
      (notEsc : byte ≠ Slip.esc) (rest : Unescapes piece packet) :
      Unescapes (byte :: piece) (byte :: packet)
  | escapedEnd {piece packet : List UInt8} (rest : Unescapes piece packet) :
      Unescapes (Slip.esc :: Slip.escEnd :: piece) (Slip.frameEnd :: packet)
  | escapedEsc {piece packet : List UInt8} (rest : Unescapes piece packet) :
      Unescapes (Slip.esc :: Slip.escEsc :: piece) (Slip.esc :: packet)

/-- The byte an escape pair stands for. -/
def escapedAs (code : UInt8) : Option UInt8 :=
  if code = Slip.escEnd then some Slip.frameEnd
  else if code = Slip.escEsc then some Slip.esc
  else none

/-- The packet a piece without END stands for. -/
def unescape : List UInt8 → Option (List UInt8)
  | [] => some []
  | byte :: piece =>
    if byte = Slip.esc then
      match piece with
      | [] => none
      | code :: piece => (escapedAs code).bind fun byte => (unescape piece).map (byte :: ·)
    else (unescape piece).map (byte :: ·)

/-- What one piece of the stream delivers. -/
def piecePacket (piece : List UInt8) : Option (List UInt8) :=
  (unescape piece).filter fun packet => packet ≠ [] ∧ packet.length ≤ maxFrameSize

/-- The pieces between two consecutive ENDs of a stream. -/
def framedPieces (stream : List UInt8) : List (List UInt8) :=
  (stream.splitOn Slip.frameEnd).tail.dropLast

variable {piece packet : List UInt8}

theorem unescape_plain {byte : UInt8} (hesc : byte ≠ Slip.esc) (piece : List UInt8) :
    unescape (byte :: piece) = (unescape piece).map (byte :: ·) := by
  rw [unescape.eq_def]
  exact if_neg hesc

theorem unescape_dangling : unescape [Slip.esc] = none := rfl

theorem unescape_escaped (code : UInt8) (piece : List UInt8) :
    unescape (Slip.esc :: code :: piece) =
      (escapedAs code).bind fun byte => (unescape piece).map (byte :: ·) := by
  rw [unescape.eq_def]
  exact if_pos rfl

theorem escapedAs_escEnd : escapedAs Slip.escEnd = some Slip.frameEnd := rfl

theorem escapedAs_escEsc : escapedAs Slip.escEsc = some Slip.esc := rfl

theorem Unescapes.unescape_eq (h : Unescapes piece packet) : unescape piece = some packet := by
  induction h with
  | nil => rfl
  | plain hend hesc rest ih => rw [unescape_plain hesc, ih, Option.map_some]
  | escapedEnd rest ih =>
    rw [unescape_escaped, escapedAs_escEnd, Option.bind_some, ih, Option.map_some]
  | escapedEsc rest ih =>
    rw [unescape_escaped, escapedAs_escEsc, Option.bind_some, ih, Option.map_some]

theorem unescapes_of_unescape (hend : Slip.frameEnd ∉ piece) (h : unescape piece = some packet) :
    Unescapes piece packet := by
  fun_induction unescape piece generalizing packet with
  | case1 =>
    cases h
    exact .nil
  | case2 => exact absurd h (by simp)
  | case3 code piece ih =>
    have hrest : Slip.frameEnd ∉ piece := fun hmem => hend (by simp [hmem])
    obtain ⟨byte, hbyte, hmap⟩ := Option.bind_eq_some_iff.mp h
    obtain ⟨out, hout, rfl⟩ := Option.map_eq_some_iff.mp hmap
    rw [escapedAs] at hbyte
    split at hbyte
    · rename_i hcode
      cases hbyte
      rw [hcode]
      exact .escapedEnd (ih hrest hout)
    · split at hbyte
      · rename_i hcode
        cases hbyte
        rw [hcode]
        exact .escapedEsc (ih hrest hout)
      · exact absurd hbyte (by simp)
  | case4 byte piece hesc ih =>
    have hbyte : byte ≠ Slip.frameEnd := fun heq => hend (by simp [heq])
    have hrest : Slip.frameEnd ∉ piece := fun hmem => hend (by simp [hmem])
    obtain ⟨out, hout, rfl⟩ := Option.map_eq_some_iff.mp h
    exact .plain hbyte hesc (ih hrest hout)

theorem unescape_nil_iff : unescape piece = some [] ↔ piece = [] := by
  constructor
  · intro h
    cases piece with
    | nil => rfl
    | cons byte piece =>
      by_cases hesc : byte = Slip.esc
      · subst hesc
        cases piece with
        | nil => exact absurd h (by simp [unescape_dangling])
        | cons code piece =>
          rw [unescape_escaped] at h
          obtain ⟨byte, -, hmap⟩ := Option.bind_eq_some_iff.mp h
          obtain ⟨out, -, hout⟩ := Option.map_eq_some_iff.mp hmap
          exact absurd hout (by simp)
      · rw [unescape_plain hesc] at h
        obtain ⟨out, -, hout⟩ := Option.map_eq_some_iff.mp h
        exact absurd hout (by simp)
  · intro h
    rw [h]
    rfl

/-- A piece delivers the packet it stands for, if it is not empty and the packet fits. -/
theorem piecePacket_eq_some_iff (hend : Slip.frameEnd ∉ piece) :
    piecePacket piece = some packet ↔
      piece ≠ [] ∧ Unescapes piece packet ∧ packet.length ≤ maxFrameSize := by
  rw [piecePacket, Option.filter_eq_some_iff, decide_eq_true_iff]
  constructor
  · intro ⟨hout, hne, hlen⟩
    have hpiece : piece ≠ [] := by
      intro hnil
      rw [unescape_nil_iff.mpr hnil] at hout
      exact hne (Option.some.inj hout).symm
    exact ⟨hpiece, unescapes_of_unescape hend hout, hlen⟩
  · intro ⟨hpiece, hout, hlen⟩
    have hne : packet ≠ [] := by
      intro hnil
      rw [hnil] at hout
      exact hpiece (unescape_nil_iff.mp hout.unescape_eq)
    exact ⟨hout.unescape_eq, hne, hlen⟩

/-! The decoder reads pieces. -/

variable {d : SlipDecoder} {frame : FrameBuffer}

/-- Before the first END every byte is lost. -/
theorem feed_unsynchronised (hend : Slip.frameEnd ∉ piece) :
    feed SlipDecoder.step {} piece = ({}, []) := by
  induction piece with
  | nil => rfl
  | cons byte piece ih =>
    have hbyte : byte ≠ Slip.frameEnd := fun heq => hend (by simp [heq])
    have hrest : Slip.frameEnd ∉ piece := fun hmem => hend (by simp [hmem])
    have hstep : SlipDecoder.step {} byte = ({}, none) := by
      simp [SlipDecoder.step, SlipDecoder.consumeInputByte, hbyte]
    rw [feed_silent hstep, ih hrest]

/-- A discarded frame absorbs the rest of its piece. -/
theorem feed_discarded (hdisc : d.frameDiscarded = true) (hend : Slip.frameEnd ∉ piece) :
    feed SlipDecoder.step d piece = (d, []) := by
  induction piece with
  | nil => rfl
  | cons byte piece ih =>
    have hbyte : byte ≠ Slip.frameEnd := fun heq => hend (by simp [heq])
    have hrest : Slip.frameEnd ∉ piece := fun hmem => hend (by simp [hmem])
    have hstep : d.step byte = (d, none) := by
      simp [SlipDecoder.step, SlipDecoder.consumeInputByte, hbyte, hdisc]
    rw [feed_silent hstep, ih hrest]

theorem leftover_discarded (hdisc : d.frameDiscarded = true) : d.leftover = none := by
  simp [SlipDecoder.leftover, hdisc]

/-- What a piece comes to behind bytes already decoded. -/
def packetBehind (front : List UInt8) (decoded : Option (List UInt8)) : Option (List UInt8) :=
  (decoded.map (front ++ ·)).filter fun packet => packet ≠ [] ∧ packet.length ≤ maxFrameSize

theorem packetBehind_nil (piece : List UInt8) :
    packetBehind [] (unescape piece) = piecePacket piece := by
  rw [packetBehind, piecePacket]
  cases unescape piece <;> rfl

theorem packetBehind_cons (front : List UInt8) (byte : UInt8) (decoded : Option (List UInt8)) :
    packetBehind front (decoded.map (byte :: ·)) = packetBehind (front ++ [byte]) decoded := by
  rw [packetBehind, packetBehind]
  cases decoded <;> simp

/-- Too many bytes in front leave no packet. -/
theorem packetBehind_overflow {front : List UInt8} (hfull : maxFrameSize < front.length)
    (decoded : Option (List UInt8)) : packetBehind front decoded = none := by
  rw [packetBehind]
  cases decoded with
  | none => rfl
  | some packet =>
    have hlen : ¬(front ++ packet).length ≤ maxFrameSize := by
      rw [List.length_append]
      omega
    rw [Option.map_some, Option.filter_some, if_neg (by simp only [hlen]; simp)]

theorem leftover_holding (frame : FrameBuffer) :
    (SlipDecoder.holding frame).leftover = packetBehind frame.bytes (some []) := by
  have hfits := frame.fits
  simp [SlipDecoder.leftover, SlipDecoder.holding, packetBehind, Option.filter, hfits]

/-- The next decoded byte is kept, or the frame is discarded when it is full: either way the piece
comes to what its grammar says. -/
theorem feed_appended (byte : UInt8) (hend : Slip.frameEnd ∉ piece)
    (ih : ∀ frame : FrameBuffer, (feed SlipDecoder.step (.holding frame) piece).2 = [] ∧
      (feed SlipDecoder.step (.holding frame) piece).1.leftover =
        packetBehind frame.bytes (unescape piece)) :
    (feed SlipDecoder.step ((SlipDecoder.holding frame).appendDecodedByte byte) piece).2 = [] ∧
      (feed SlipDecoder.step ((SlipDecoder.holding frame).appendDecodedByte byte) piece).1.leftover
        = packetBehind frame.bytes ((unescape piece).map (byte :: ·)) := by
  have hlen : (frame.bytes ++ [byte]).length = frame.bytes.length + 1 := by
    rw [List.length_append, List.length_singleton]
  rw [packetBehind_cons]
  by_cases hroom : frame.bytes.length + 1 ≤ maxFrameSize
  · have happend : (SlipDecoder.holding frame).appendDecodedByte byte =
        .holding ⟨frame.bytes ++ [byte], hlen.trans_le hroom⟩ := by
      rw [SlipDecoder.appendDecodedByte, SlipDecoder.holding]
      simp only
      rw [FrameBuffer.append_of_fits hroom]
      rfl
    rw [happend]
    exact ih ⟨frame.bytes ++ [byte], hlen.trans_le hroom⟩
  · have hfull : maxFrameSize < frame.bytes.length + 1 := by omega
    have hdisc : ((SlipDecoder.holding frame).appendDecodedByte byte).frameDiscarded = true := by
      rw [SlipDecoder.appendDecodedByte, SlipDecoder.holding]
      simp only
      rw [FrameBuffer.append_of_overflow hfull]
    rw [feed_discarded hdisc hend, leftover_discarded hdisc,
      packetBehind_overflow (by rw [hlen]; exact hfull)]
    exact ⟨rfl, rfl⟩

theorem step_plain {byte : UInt8} (hend : byte ≠ Slip.frameEnd) (hesc : byte ≠ Slip.esc) :
    (SlipDecoder.holding frame).step byte =
      ((SlipDecoder.holding frame).appendDecodedByte byte, none) := by
  simp [SlipDecoder.step, SlipDecoder.consumeInputByte, SlipDecoder.holding, hend, hesc]

/-- A decoder that has just read ESC. -/
def SlipDecoder.escaping (frame : FrameBuffer) : SlipDecoder :=
  { receivingFrame := true, escapePending := true, frame }

theorem step_esc :
    (SlipDecoder.holding frame).step Slip.esc = (.escaping frame, none) := by
  have hne : Slip.esc ≠ Slip.frameEnd := by decide
  simp [SlipDecoder.step, SlipDecoder.consumeInputByte, SlipDecoder.holding,
    SlipDecoder.escaping, hne]

theorem step_escaped {code byte : UInt8} (hcode : escapedAs code = some byte) :
    (SlipDecoder.escaping frame).step code =
      ((SlipDecoder.holding frame).appendDecodedByte byte, none) := by
  rw [escapedAs] at hcode
  split at hcode
  · rename_i heq
    cases hcode
    have hend : Slip.escEnd ≠ Slip.frameEnd := by decide
    simp [SlipDecoder.step, SlipDecoder.consumeInputByte, SlipDecoder.holding,
      SlipDecoder.escaping, heq, hend]
  · split at hcode
    · rename_i heq
      cases hcode
      have hend : Slip.escEsc ≠ Slip.frameEnd := by decide
      have hne : Slip.escEsc ≠ Slip.escEnd := by decide
      simp [SlipDecoder.step, SlipDecoder.consumeInputByte, SlipDecoder.holding,
        SlipDecoder.escaping, heq, hend, hne]
    · exact absurd hcode (by simp)

theorem step_misescaped {code : UInt8} (hend : code ≠ Slip.frameEnd)
    (hcode : escapedAs code = none) :
    (SlipDecoder.escaping frame).step code =
      ({ SlipDecoder.holding frame with frameDiscarded := true }, none) := by
  have hescEnd : code ≠ Slip.escEnd := by
    intro heq
    rw [heq, escapedAs_escEnd] at hcode
    exact absurd hcode (by simp)
  have hescEsc : code ≠ Slip.escEsc := by
    intro heq
    rw [heq, escapedAs_escEsc] at hcode
    exact absurd hcode (by simp)
  simp [SlipDecoder.step, SlipDecoder.consumeInputByte, SlipDecoder.holding,
    SlipDecoder.escaping, hend, hescEnd, hescEsc]

/-- Inside a frame a piece completes nothing, and the END behind it delivers what its grammar
says. -/
theorem feed_piece (frame : FrameBuffer) (piece : List UInt8) (hend : Slip.frameEnd ∉ piece) :
    (feed SlipDecoder.step (.holding frame) piece).2 = [] ∧
      (feed SlipDecoder.step (.holding frame) piece).1.leftover =
        packetBehind frame.bytes (unescape piece) := by
  -- induction along the grammar: one escape pair, or one plain byte, at a time
  induction piece using unescape.induct generalizing frame with
  | case1 => exact ⟨rfl, leftover_holding frame⟩
  | case2 =>
    rw [feed_silent step_esc, feed_nil]
    exact ⟨rfl, rfl⟩
  | case3 code piece ih =>
    have hcodeEnd : code ≠ Slip.frameEnd := fun heq => hend (by simp [heq])
    have hrest : Slip.frameEnd ∉ piece := fun hmem => hend (by simp [hmem])
    rw [feed_silent step_esc, unescape_escaped]
    cases hcode : escapedAs code with
    | some byte =>
      rw [feed_silent (step_escaped hcode), Option.bind_some]
      exact feed_appended byte hrest fun frame => ih frame hrest
    | none =>
      have hdisc :
          ({ SlipDecoder.holding frame with frameDiscarded := true }).frameDiscarded = true :=
        rfl
      rw [feed_silent (step_misescaped hcodeEnd hcode), feed_discarded hdisc hrest,
        leftover_discarded hdisc]
      exact ⟨rfl, rfl⟩
  | case4 byte piece hesc ih =>
    have hbyte : byte ≠ Slip.frameEnd := fun heq => hend (by simp [heq])
    have hrest : Slip.frameEnd ∉ piece := fun hmem => hend (by simp [hmem])
    rw [feed_silent (step_plain hbyte hesc), unescape_plain hesc]
    exact feed_appended byte hrest fun frame => ih frame hrest

theorem feed_stream (stream : List UInt8) :
    (feed SlipDecoder.step {} stream).2 = (framedPieces stream).filterMap piecePacket := by
  have hpiece (piece : List UInt8) (hend : Slip.frameEnd ∉ piece) :
      (feed SlipDecoder.step .synced piece).2 = [] ∧
        (feed SlipDecoder.step .synced piece).1.leftover = piecePacket piece := by
    rw [← packetBehind_nil]
    exact feed_piece .empty piece hend
  have hlost (piece : List UInt8) (hend : Slip.frameEnd ∉ piece) :
      (feed SlipDecoder.step {} piece).2 = [] ∧
        (feed SlipDecoder.step {} piece).1.leftover = none := by
    rw [feed_unsynchronised hend]
    exact ⟨rfl, rfl⟩
  exact feed_resynchronised step_end hpiece hlost stream

theorem framedPieces_free (stream : List UInt8) :
    ∀ piece ∈ framedPieces stream, Slip.frameEnd ∉ piece :=
  fun _ hmem => not_mem_of_mem_splitOn (List.mem_of_mem_tail (List.dropLast_subset _ hmem))

/-- The decoder accepts exactly its grammar: from the unsynchronised state, however callbacks and
reads cut the stream, the packets delivered are in order those of the pieces between two ENDs; a
piece delivers its packet when it is not empty, escapes only in pairs and decodes to at most
`MAX_FRAME_SIZE` bytes, and nothing otherwise; and the frame buffer never overflows. -/
theorem decoder_accepts_grammar (callbacks : List (List (List UInt8))) (epoch : UInt32) :
    ((⟨{}, epoch⟩ : CdcInput).drainAll epoch callbacks).2 =
        (framedPieces callbacks.flatten.flatten).filterMap piecePacket ∧
      (∀ piece ∈ framedPieces callbacks.flatten.flatten, Slip.frameEnd ∉ piece ∧
        ∀ packet, piecePacket piece = some packet ↔
          piece ≠ [] ∧ Unescapes piece packet ∧ packet.length ≤ maxFrameSize) ∧
      ∀ consumed, consumed <+: callbacks.flatten.flatten →
        (feed SlipDecoder.step {} consumed).1.frame.bytes.length ≤ maxFrameSize := by
  have hfree := framedPieces_free callbacks.flatten.flatten
  refine ⟨?_, ?_, ?_⟩
  · rw [CdcInput.drainAll_eq]
    exact feed_stream callbacks.flatten.flatten
  · intro piece hmem
    have hend := hfree piece hmem
    exact ⟨hend, fun packet => piecePacket_eq_some_iff hend⟩
  · intro consumed _
    exact (feed SlipDecoder.step {} consumed).1.frame.fits

end SidpClient
