import SidpClient.SlipTransport

/-! Message reassembly of the WebSocket transport. -/
namespace SidpClient
open Streams

namespace WsTransportOpcodes
def cont : ℤ := 0
def binary : ℤ := 2
end WsTransportOpcodes

/-- `esp_websocket_event_data_t`, with the bytes readable at `data_ptr`. -/
structure WsEvent where
  opCode : ℤ
  fin : Bool
  payloadLen : ℤ
  payloadOffset : ℤ
  dataLen : ℤ
  dataPtr : Option (List UInt8)
  readable : ∀ bytes ∈ dataPtr, dataLen ≤ bytes.length

namespace WsEvent

/-- The bytes the event hands over. -/
def chunk (e : WsEvent) : List UInt8 := (e.dataPtr.getD []).take e.dataLen.toNat

def isBinary (e : WsEvent) : Bool := e.opCode = WsTransportOpcodes.binary
def isContinuation (e : WsEvent) : Bool := e.opCode = WsTransportOpcodes.cont

/-- The events that carry message bytes; the others are control or text frames. -/
def isData (e : WsEvent) : Bool := e.isBinary || e.isContinuation

end WsEvent

/-- The staging state; `received` is `staging_buffer` up to `staging_received`. -/
structure Staging where
  received : FrameBuffer := .empty
  active : Bool := false
  discarded : Bool := false
  epoch : UInt32 := 0

namespace Staging

def resetStaging (s : Staging) : Staging :=
  { s with received := .empty, active := false, discarded := false }

/-- The copy of a chunk behind the bytes staged so far; an overlong message is discarded. -/
def store (s : Staging) (data : WsEvent) : Staging :=
  if s.discarded then s
  else match s.received.append data.chunk with
    | none => { s with discarded := true }
    | some received => { s with received }

/-- The second half of `handle_data`: a chunk of the message that is staged. -/
def stageChunk (s : Staging) (data : WsEvent) : Staging × Option (List UInt8) :=
  let frameSize := data.payloadLen.toNat
  let frameOffset := data.payloadOffset.toNat
  let chunkSize := data.dataLen.toNat
  if frameSize < frameOffset ∨ frameSize - frameOffset < chunkSize then (s.resetStaging, none)
  else
    let s := s.store data
    if !data.fin ∨ frameOffset + chunkSize < frameSize then (s, none)
    else (s.resetStaging, if s.discarded then none else some s.received.bytes)

/-- `handle_data`: the next staging state, and the packet passed to `deliver_packet`. -/
def handleData (currentEpoch : UInt32) (isOpen : Bool) (s : Staging) (data : WsEvent) :
    Staging × Option (List UInt8) :=
  let s := if s.epoch ≠ currentEpoch ∨ !isOpen then { s.resetStaging with epoch := currentEpoch }
    else s
  if !isOpen then (s, none)
  else if data.payloadLen < 0 ∨ data.payloadOffset < 0 ∨ data.dataLen < 0 ∨
      (data.dataLen ≠ 0 ∧ data.dataPtr = none) then (s, none)
  else if !data.isBinary && !data.isContinuation then (s, none)
  else if data.payloadOffset.toNat = 0 ∧ data.isBinary then
    { s.resetStaging with active := true }.stageChunk data
  else if !s.active then (s, none)
  else s.stageChunk data

end Staging

/-! Messages as the client library reports them. -/

/-- An event that hands over bytes of a frame of a given size, from an offset on. -/
structure WsEvent.Carries (e : WsEvent) (opCode : ℤ) (fin : Bool) (size offset : ℕ) : Prop where
  opCode : e.opCode = opCode
  fin : e.fin = fin
  payloadLen : e.payloadLen = size
  payloadOffset : e.payloadOffset = offset
  dataLen : e.dataLen = e.chunk.length

/-- Events that hand over the rest of a frame in nonempty chunks. -/
def CarryRest (opCode : ℤ) (fin : Bool) (size : ℕ) : ℕ → List WsEvent → Prop
  | offset, [] => offset = size
  | offset, e :: es => e.Carries opCode fin size offset ∧ e.chunk ≠ [] ∧
      CarryRest opCode fin size (offset + e.chunk.length) es

/-- The events of one frame. An empty frame has one event, which carries nothing. -/
structure WsFrame (opCode : ℤ) (fin : Bool) where
  size : ℕ
  first : WsEvent
  others : List WsEvent
  starts : first.Carries opCode fin size 0
  nonempty : size ≠ 0 → first.chunk ≠ []
  carried : CarryRest opCode fin size first.chunk.length others

namespace WsFrame
variable {opCode : ℤ} {fin : Bool}

def events (f : WsFrame opCode fin) : List WsEvent := f.first :: f.others
def payload (f : WsFrame opCode fin) : List UInt8 := f.events.flatMap WsEvent.chunk

end WsFrame

/-- A message in one frame, or cut into a BINARY frame and CONTINUATION frames. -/
inductive WsMessage
  | whole (frame : WsFrame WsTransportOpcodes.binary true)
  | fragments (first : WsFrame WsTransportOpcodes.binary false)
      (middle : List (WsFrame WsTransportOpcodes.cont false))
      (last : WsFrame WsTransportOpcodes.cont true)

namespace WsMessage

def events : WsMessage → List WsEvent
  | whole frame => frame.events
  | fragments first middle last => first.events ++ (middle.flatMap WsFrame.events ++ last.events)

def payload : WsMessage → List UInt8
  | whole frame => frame.payload
  | fragments first middle last =>
    first.payload ++ (middle.flatMap WsFrame.payload ++ last.payload)

end WsMessage

/-! Reassembly. -/

/-- A staging state in the middle of a message, after some bytes of it. -/
structure Staging.Holds (s : Staging) (epoch : UInt32) (bytes : List UInt8) : Prop where
  epoch : s.epoch = epoch
  active : s.active = true
  kept : bytes.length ≤ maxFrameSize → s.discarded = false ∧ s.received.bytes = bytes
  dropped : maxFrameSize < bytes.length → s.discarded = true

/-- What the end of a message delivers. -/
def packetOf (bytes : List UInt8) : Option (List UInt8) :=
  if bytes.length ≤ maxFrameSize then some bytes else none

theorem packets_of_messages (ms : List WsMessage) :
    (ms.flatMap fun m => (packetOf m.payload).toList) =
      (ms.map WsMessage.payload).filter (·.length ≤ maxFrameSize) := by
  induction ms with
  | nil => rfl
  | cons m ms ih =>
    rw [List.flatMap_cons, ih, List.map_cons, List.filter_cons, packetOf]
    by_cases hfit : m.payload.length ≤ maxFrameSize
    · simp [hfit]
    · simp [hfit]

variable {s : Staging} {epoch : UInt32} {bytes : List UInt8} {e : WsEvent} {opCode : ℤ} {fin : Bool}
  {size offset : ℕ}

theorem Staging.Holds.store (h : s.Holds epoch bytes) (e : WsEvent) :
    (s.store e).Holds epoch (bytes ++ e.chunk) := by
  have hlen : (bytes ++ e.chunk).length = bytes.length + e.chunk.length := List.length_append
  by_cases hfit : bytes.length ≤ maxFrameSize
  · obtain ⟨hkept, hbytes⟩ := h.kept hfit
    by_cases hroom : bytes.length + e.chunk.length ≤ maxFrameSize
    · have happend : s.received.append e.chunk = some ⟨bytes ++ e.chunk, by omega⟩ := by
        rw [FrameBuffer.append_of_fits (by rw [hbytes]; exact hroom)]
        simp only [hbytes]
      have hstore : s.store e = { s with received := ⟨bytes ++ e.chunk, by omega⟩ } := by
        simp [Staging.store, hkept, happend]
      rw [hstore]
      exact ⟨h.epoch, h.active, fun _ => ⟨hkept, rfl⟩, fun hover => by omega⟩
    · have happend : s.received.append e.chunk = none :=
        FrameBuffer.append_of_overflow (by rw [hbytes]; omega)
      have hstore : s.store e = { s with discarded := true } := by
        simp [Staging.store, hkept, happend]
      rw [hstore]
      exact ⟨h.epoch, h.active, fun hfits => by omega, fun _ => rfl⟩
  · have hdropped := h.dropped (by omega)
    have hstore : s.store e = s := by simp [Staging.store, hdropped]
    rw [hstore]
    exact ⟨h.epoch, h.active, fun hfits => by omega, fun _ => hdropped⟩

theorem Staging.Holds.packet (h : s.Holds epoch bytes) :
    (if s.discarded then none else some s.received.bytes) = packetOf bytes := by
  by_cases hfit : bytes.length ≤ maxFrameSize
  · obtain ⟨hkept, hbytes⟩ := h.kept hfit
    simp [hkept, hbytes, packetOf, hfit]
  · have hdropped := h.dropped (by omega)
    simp [hdropped, packetOf, hfit]

/-- The fields of an event as `std::size_t`. -/
theorem WsEvent.Carries.sizes (h : e.Carries opCode fin size offset) :
    e.payloadLen.toNat = size ∧ e.payloadOffset.toNat = offset ∧
      e.dataLen.toNat = e.chunk.length := by
  rw [h.payloadLen, h.payloadOffset, h.dataLen]
  exact ⟨Int.toNat_natCast .., Int.toNat_natCast .., Int.toNat_natCast ..⟩

/-- A chunk that does not end its message is staged. -/
theorem Staging.Holds.stages (h : s.Holds epoch bytes) (he : e.Carries opCode fin size offset)
    (hroom : offset + e.chunk.length ≤ size)
    (hmore : fin = false ∨ offset + e.chunk.length < size) :
    ∃ t, s.stageChunk e = (t, none) ∧ t.Holds epoch (bytes ++ e.chunk) := by
  obtain ⟨hsize, hoffset, hchunk⟩ := he.sizes
  have hvalid : ¬(size < offset ∨ size - offset < e.chunk.length) := by omega
  have hopen : !e.fin ∨ offset + e.chunk.length < size := by
    rw [he.fin]
    exact hmore.imp_left (by simp)
  refine ⟨s.store e, ?_, h.store e⟩
  simp only [Staging.stageChunk, hsize, hoffset, hchunk, if_neg hvalid, if_pos hopen]

/-- The chunk that ends a message delivers it. -/
theorem Staging.Holds.finishes (h : s.Holds epoch bytes) (he : e.Carries opCode true size offset)
    (hend : offset + e.chunk.length = size) :
    ∃ t, s.stageChunk e = (t, packetOf (bytes ++ e.chunk)) ∧ t.epoch = epoch := by
  obtain ⟨hsize, hoffset, hchunk⟩ := he.sizes
  have hvalid : ¬(size < offset ∨ size - offset < e.chunk.length) := by omega
  have hdone : ¬(!e.fin ∨ offset + e.chunk.length < size) := by
    rw [he.fin]
    simp [hend]
  have hstored := h.store e
  refine ⟨(s.store e).resetStaging, ?_, hstored.epoch⟩
  simp only [Staging.stageChunk, hsize, hoffset, hchunk, if_neg hvalid, if_neg hdone,
    hstored.packet]

/-- Where an event may continue a message: it is of a CONTINUATION frame, or not the first of its
frame. -/
def Continues (opCode : ℤ) (offset : ℕ) : Prop :=
  opCode = WsTransportOpcodes.cont ∨ opCode = WsTransportOpcodes.binary ∧ offset ≠ 0

theorem Continues.later (h : Continues opCode offset) (n : ℕ) : Continues opCode (offset + n) :=
  h.imp_right fun ⟨hbinary, hpos⟩ => ⟨hbinary, by omega⟩

/-- The event is a well-formed data event. -/
theorem WsEvent.Carries.accepted (h : e.Carries opCode fin size offset)
    (hop : opCode = WsTransportOpcodes.cont ∨ opCode = WsTransportOpcodes.binary) :
    ¬(e.payloadLen < 0 ∨ e.payloadOffset < 0 ∨ e.dataLen < 0 ∨
      (e.dataLen ≠ 0 ∧ e.dataPtr = none)) ∧ ¬((!e.isBinary && !e.isContinuation) = true) := by
  have hlen := h.payloadLen
  have hoffset := h.payloadOffset
  have hdata := h.dataLen
  refine ⟨?_, ?_⟩
  · rintro (hneg | hneg | hneg | ⟨hsome, hnull⟩)
    · omega
    · omega
    · omega
    · rw [WsEvent.chunk, hnull] at hdata
      exact hsome (by simpa using hdata)
  · rw [WsEvent.isBinary, WsEvent.isContinuation, h.opCode]
    obtain hcont | hbinary := hop
    · simp [hcont]
    · simp [hbinary]

/-- `handle_data` on a staging of the current, open session. -/
theorem handleData_open (hs : s.epoch = epoch) (e : WsEvent) :
    Staging.handleData epoch true s e =
      if e.payloadLen < 0 ∨ e.payloadOffset < 0 ∨ e.dataLen < 0 ∨
          (e.dataLen ≠ 0 ∧ e.dataPtr = none) then (s, none)
      else if !e.isBinary && !e.isContinuation then (s, none)
      else if e.payloadOffset.toNat = 0 ∧ e.isBinary then
        { s.resetStaging with active := true }.stageChunk e
      else if !s.active then (s, none)
      else s.stageChunk e := by
  simp only [Staging.handleData, hs, ne_eq, not_true_eq_false, Bool.not_true, Bool.false_eq_true,
    or_false, if_false]

/-- The first event of a BINARY frame starts a message. -/
theorem handleData_starts (hs : s.epoch = epoch)
    (he : e.Carries WsTransportOpcodes.binary fin size 0) :
    ∃ t : Staging, t.Holds epoch [] ∧ Staging.handleData epoch true s e = t.stageChunk e := by
  obtain ⟨hvalid, hdata⟩ := he.accepted (.inr rfl)
  obtain ⟨-, hoffset, -⟩ := he.sizes
  have hbinary : e.isBinary = true := by simp [WsEvent.isBinary, he.opCode]
  refine ⟨{ s.resetStaging with active := true }, ⟨hs, rfl, fun _ => ⟨rfl, rfl⟩, ?_⟩, ?_⟩
  · intro hover
    exact absurd hover (by simp)
  · rw [handleData_open hs, if_neg hvalid, if_neg hdata, if_pos ⟨hoffset, hbinary⟩]

/-- Every other event of the message adds to it. -/
theorem handleData_continues (h : s.Holds epoch bytes) (he : e.Carries opCode fin size offset)
    (hop : Continues opCode offset) :
    Staging.handleData epoch true s e = s.stageChunk e := by
  obtain ⟨hvalid, hdata⟩ := he.accepted (hop.imp_right And.left)
  obtain ⟨-, hoffset, -⟩ := he.sizes
  have hlater : ¬(e.payloadOffset.toNat = 0 ∧ e.isBinary = true) := by
    rintro ⟨hzero, hbinary⟩
    rw [WsEvent.isBinary, he.opCode] at hbinary
    obtain hcont | ⟨-, hpos⟩ := hop
    · rw [hcont] at hbinary
      exact absurd hbinary (by decide)
    · exact hpos (hoffset.symm.trans hzero)
  have hactive : ¬((!s.active) = true) := by simp [h.active]
  rw [handleData_open h.epoch, if_neg hvalid, if_neg hdata, if_neg hlater, if_neg hactive]

theorem CarryRest.le {es : List WsEvent} (h : CarryRest opCode fin size offset es) :
    offset ≤ size := by
  induction es generalizing offset with
  | nil => exact le_of_eq h
  | cons e es ih =>
    have hrest := ih h.2.2
    omega

theorem CarryRest.lt {es : List WsEvent} (h : CarryRest opCode fin size offset es)
    (hes : es ≠ []) : offset < size := by
  cases es with
  | nil => exact absurd rfl hes
  | cons e es =>
    have hchunk := List.length_pos_of_ne_nil h.2.1
    have hrest := CarryRest.le h.2.2
    omega

/-- The rest of a frame that does not end the message. -/
theorem feed_carryRest_open {es : List WsEvent} (hes : CarryRest opCode false size offset es)
    (hop : es ≠ [] → Continues opCode offset) (h : s.Holds epoch bytes) :
    ∃ t, feed (Staging.handleData epoch true) s es = (t, []) ∧
      t.Holds epoch (bytes ++ es.flatMap WsEvent.chunk) := by
  induction es generalizing s bytes offset with
  | nil => exact ⟨s, rfl, by simpa using h⟩
  | cons e es ih =>
    obtain ⟨he, -, hrest⟩ := hes
    have hc := hop (List.cons_ne_nil _ _)
    obtain ⟨t, hstep, ht⟩ := h.stages he hrest.le (.inl rfl)
    obtain ⟨u, hfeed, hu⟩ := ih hrest (fun _ => hc.later _) ht
    refine ⟨u, ?_, ?_⟩
    · rw [feed_silent ((handleData_continues h he hc).trans hstep), hfeed]
    · rwa [List.flatMap_cons, ← List.append_assoc]

/-- The rest of the frame that ends the message. -/
theorem feed_carryRest_last {es : List WsEvent} (hes : CarryRest opCode true size offset es)
    (hne : es ≠ []) (hop : Continues opCode offset) (h : s.Holds epoch bytes) :
    ∃ t, feed (Staging.handleData epoch true) s es =
        (t, (packetOf (bytes ++ es.flatMap WsEvent.chunk)).toList) ∧ t.epoch = epoch := by
  induction es generalizing s bytes offset with
  | nil => exact absurd rfl hne
  | cons e es ih =>
    obtain ⟨he, -, hrest⟩ := hes
    have hstep := handleData_continues h he hop
    by_cases hlast : es = []
    · subst hlast
      obtain ⟨t, hend, ht⟩ := h.finishes he hrest
      refine ⟨t, ?_, ht⟩
      rw [feed_cons, hstep, hend]
      simp
    · obtain ⟨t, hmore, ht⟩ := h.stages he hrest.le (.inr (hrest.lt hlast))
      obtain ⟨u, hfeed, hu⟩ := ih hrest hlast (hop.later _) ht
      refine ⟨u, ?_, hu⟩
      rw [feed_silent (hstep.trans hmore), hfeed, List.flatMap_cons, List.append_assoc]

/-- A later event of a frame is not at offset 0. -/
theorem WsFrame.continues (f : WsFrame opCode fin)
    (hop : opCode = WsTransportOpcodes.cont ∨ opCode = WsTransportOpcodes.binary)
    (hothers : f.others ≠ []) : Continues opCode f.first.chunk.length := by
  have hsize := f.carried.lt hothers
  have hfirst := List.length_pos_of_ne_nil (f.nonempty (by omega))
  exact hop.imp_right fun hbinary => ⟨hbinary, by omega⟩

/-- A frame without FIN, from its first event's staging. -/
theorem WsFrame.feed_open (f : WsFrame opCode false) {t : Staging} (ht : t.Holds epoch bytes)
    (hop : opCode = WsTransportOpcodes.cont ∨ opCode = WsTransportOpcodes.binary)
    (hfirst : Staging.handleData epoch true s f.first = t.stageChunk f.first) :
    ∃ u, feed (Staging.handleData epoch true) s f.events = (u, []) ∧
      u.Holds epoch (bytes ++ f.payload) := by
  have hroom : 0 + f.first.chunk.length ≤ f.size := by
    have hle := f.carried.le
    omega
  obtain ⟨v, hstep, hv⟩ := ht.stages f.starts hroom (.inl rfl)
  obtain ⟨u, hfeed, hu⟩ := feed_carryRest_open f.carried (f.continues hop) hv
  refine ⟨u, ?_, ?_⟩
  · rw [WsFrame.events, feed_silent (hfirst.trans hstep), hfeed]
  · rwa [WsFrame.payload, WsFrame.events, List.flatMap_cons, ← List.append_assoc]

/-- A frame with FIN, from its first event's staging. -/
theorem WsFrame.feed_last (f : WsFrame opCode true) {t : Staging} (ht : t.Holds epoch bytes)
    (hop : opCode = WsTransportOpcodes.cont ∨ opCode = WsTransportOpcodes.binary)
    (hfirst : Staging.handleData epoch true s f.first = t.stageChunk f.first) :
    ∃ u, feed (Staging.handleData epoch true) s f.events =
        (u, (packetOf (bytes ++ f.payload)).toList) ∧ u.epoch = epoch := by
  have hpayload : f.payload = f.first.chunk ++ f.others.flatMap WsEvent.chunk := rfl
  by_cases hothers : f.others = []
  · have hsize : f.first.chunk.length = f.size := by
      have hcarried := f.carried
      rw [hothers] at hcarried
      exact hcarried
    obtain ⟨u, hstep, hu⟩ := ht.finishes f.starts (by omega)
    refine ⟨u, ?_, hu⟩
    rw [WsFrame.events, hpayload, hothers, feed_cons, hfirst, hstep]
    simp
  · have hsize := f.carried.lt hothers
    obtain ⟨v, hstep, hv⟩ := ht.stages f.starts (by omega) (.inr (by omega))
    obtain ⟨u, hfeed, hu⟩ := feed_carryRest_last f.carried hothers (f.continues hop hothers) hv
    refine ⟨u, ?_, hu⟩
    rw [WsFrame.events, feed_silent (hfirst.trans hstep), hfeed, hpayload, List.append_assoc]

/-- CONTINUATION frames without FIN. -/
theorem feed_middle (frames : List (WsFrame WsTransportOpcodes.cont false))
    (h : s.Holds epoch bytes) :
    ∃ t, feed (Staging.handleData epoch true) s (frames.flatMap WsFrame.events) = (t, []) ∧
      t.Holds epoch (bytes ++ frames.flatMap WsFrame.payload) := by
  induction frames generalizing s bytes with
  | nil => exact ⟨s, rfl, by simpa using h⟩
  | cons f frames ih =>
    have hfirst := handleData_continues h f.starts (.inl rfl)
    obtain ⟨t, hframe, ht⟩ := f.feed_open h (.inl rfl) hfirst
    obtain ⟨u, hrest, hu⟩ := ih ht
    refine ⟨u, ?_, ?_⟩
    · rw [List.flatMap_cons, feed_append, hframe, hrest]
      rfl
    · rwa [List.flatMap_cons, ← List.append_assoc]

/-- A message is delivered when it fits, whatever was staged before it. -/
theorem feed_message (hs : s.epoch = epoch) (m : WsMessage) :
    ∃ t, feed (Staging.handleData epoch true) s m.events = (t, (packetOf m.payload).toList) ∧
      t.epoch = epoch := by
  cases m with
  | whole frame =>
    obtain ⟨t, ht, hfirst⟩ := handleData_starts hs frame.starts
    exact frame.feed_last ht (.inr rfl) hfirst
  | fragments first middle last =>
    obtain ⟨t, ht, hstart⟩ := handleData_starts hs first.starts
    obtain ⟨u, hfirst, hu⟩ := first.feed_open ht (.inr rfl) hstart
    obtain ⟨v, hmiddle, hv⟩ := feed_middle middle hu
    have hcontinues := handleData_continues hv last.starts (.inl rfl)
    obtain ⟨w, hlast, hw⟩ := last.feed_last hv (.inl rfl) hcontinues
    refine ⟨w, ?_, hw⟩
    rw [WsMessage.events, feed_append, hfirst, feed_append, hmiddle, hlast, WsMessage.payload]
    simp [List.append_assoc]

/-- A non-data event leaves a staging of the current session alone. -/
theorem handleData_ignores (hs : s.epoch = epoch) (he : e.isData = false) :
    Staging.handleData epoch true s e = (s, none) := by
  have hdata : (!e.isBinary && !e.isContinuation) = true := by
    rw [WsEvent.isData, Bool.or_eq_false_iff] at he
    simp [he.1, he.2]
  rw [handleData_open hs, if_pos hdata, ite_self]

theorem stageChunk_epoch (s : Staging) (e : WsEvent) : (s.stageChunk e).1.epoch = s.epoch := by
  have hstore : (s.store e).epoch = s.epoch := by
    rw [Staging.store]
    split
    · rfl
    · split <;> rfl
  rw [Staging.stageChunk]
  split
  · rfl
  · dsimp only
    split
    · exact hstore
    · exact hstore

/-- A staging of another session is reset by the first event. -/
def Staging.current (s : Staging) (epoch : UInt32) : Staging :=
  if s.epoch = epoch then s else { s.resetStaging with epoch }

theorem Staging.current_epoch (s : Staging) : (s.current epoch).epoch = epoch := by
  rw [current]
  split
  · assumption
  · rfl

theorem handleData_current (s : Staging) (e : WsEvent) :
    Staging.handleData epoch true s e = Staging.handleData epoch true (s.current epoch) e := by
  have hs : (s.current epoch).epoch = epoch := s.current_epoch
  by_cases h : s.epoch = epoch
  · rw [Staging.current, if_pos h]
  · rw [Staging.handleData, Staging.handleData]
    simp [Staging.current, h]

/-- Whatever it handles, the staging belongs to the current session afterwards. -/
theorem handleData_epoch (s : Staging) (e : WsEvent) :
    (Staging.handleData epoch true s e).1.epoch = epoch := by
  have hs : (s.current epoch).epoch = epoch := s.current_epoch
  rw [handleData_current, handleData_open hs]
  split
  · exact hs
  split
  · exact hs
  split
  · exact (stageChunk_epoch _ e).trans hs
  split
  · exact hs
  · exact (stageChunk_epoch _ e).trans hs

/-- The client library's events of one open session, from whatever was staged before: the packets
delivered are the messages that fit, in order, and the staging buffer never overflows. -/
theorem reassembles_messages (s : Staging) (epoch : UInt32) (ms : List WsMessage)
    (es : List WsEvent) (hes : es.filter WsEvent.isData = ms.flatMap WsMessage.events) :
    (feed (Staging.handleData epoch true) s es).2 =
        (ms.map WsMessage.payload).filter (·.length ≤ maxFrameSize) ∧
      ∀ n, (feed (Staging.handleData epoch true) s (es.take n)).1.received.bytes.length ≤
        maxFrameSize := by
  refine ⟨?_, fun n => FrameBuffer.fits _⟩
  have hs : (s.current epoch).epoch = epoch := s.current_epoch
  -- the first event of a session resets what an earlier one left
  have hcurrent : (feed (Staging.handleData epoch true) s es).2 =
      (feed (Staging.handleData epoch true) (s.current epoch) es).2 := by
    cases es with
    | nil => rfl
    | cons e es => rw [feed_cons, feed_cons, handleData_current]
  have hignore : ∀ (s : Staging) (e : WsEvent), s.epoch = epoch → e.isData = false →
      Staging.handleData epoch true s e = (s, none) := fun s e hs he => handleData_ignores hs he
  have hfilter : feed (Staging.handleData epoch true) (s.current epoch) es =
      feed (Staging.handleData epoch true) (s.current epoch) (es.filter WsEvent.isData) :=
    feed_filter (P := (·.epoch = epoch)) (fun s e _ => handleData_epoch s e) hignore hs es
  have hmessage : ∀ (s : Staging) (m : WsMessage), s.epoch = epoch →
      (feed (Staging.handleData epoch true) s m.events).1.epoch = epoch ∧
      (feed (Staging.handleData epoch true) s m.events).2 = (packetOf m.payload).toList := by
    intro s m hs
    obtain ⟨t, hfeed, ht⟩ := feed_message hs m
    rw [hfeed]
    exact ⟨ht, rfl⟩
  have hmessages := (feed_flatMap (P := fun s => s.epoch = epoch) (fun s m => hmessage s m) hs ms).2
  rw [hcurrent, hfilter, hes, hmessages]
  exact packets_of_messages ms

/-- A frame that arrives in one event. -/
def WsFrame.single (opCode : ℤ) (fin : Bool) (bytes : List UInt8) : WsFrame opCode fin where
  size := bytes.length
  first := {
    opCode, fin, payloadLen := bytes.length, payloadOffset := 0, dataLen := bytes.length
    dataPtr := some bytes, readable := by simp }
  others := []
  starts := ⟨rfl, rfl, rfl, rfl, by simp [WsEvent.chunk]⟩
  nonempty := by
    intro hsize
    simpa [WsEvent.chunk] using hsize
  carried := by simp [CarryRest, WsEvent.chunk]

/-- Two bytes, a PING and an empty last frame. -/
theorem reassembles_around_ping :
    (feed (Staging.handleData 7 true) {}
      [(WsFrame.single WsTransportOpcodes.binary false [1, 2]).first,
        (WsFrame.single 9 true []).first,
        (WsFrame.single WsTransportOpcodes.cont true []).first]).2 = [[1, 2]] := by
  have h := reassembles_messages {} 7 [.fragments (.single _ _ [1, 2]) [] (.single _ _ [])]
    [(WsFrame.single WsTransportOpcodes.binary false [1, 2]).first,
      (WsFrame.single 9 true []).first,
      (WsFrame.single WsTransportOpcodes.cont true []).first] (by rfl)
  exact h.1.trans (by decide)

end SidpClient
