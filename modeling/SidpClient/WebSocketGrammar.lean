import SidpClient.WebSocketTransport
import Mathlib.Data.List.Induction

/-! The messages in a sequence of WebSocket callbacks, and that the transport delivers exactly
these. -/
namespace SidpClient

/-- A callback of the client library. For data events, the epoch at its start and what `is_open`
says each time it is asked, with the other tasks running in between. -/
inductive WsCallback
  | linkChanged (opened : Bool)
  | data (currentEpoch : UInt32) (openFirst openThen : Bool) (event : WsEvent)
  | other

namespace Staging

/-- The first lines of `handle_data`: what was staged in another session, or before the link was
closed, is dropped. -/
def arrive (s : Staging) (currentEpoch : UInt32) (openFirst : Bool) : Staging :=
  if s.epoch ≠ currentEpoch ∨ !openFirst then { s.resetStaging with epoch := currentEpoch } else s

/-- `websocket_event_handler`: the next staging state, and the packet passed to `deliver_packet`
with its epoch. -/
def websocketEventHandler (s : Staging) : WsCallback → Staging × Option (UInt32 × List UInt8)
  | .linkChanged _ => (s.resetStaging, none)
  | .data currentEpoch openFirst openThen event =>
    let s := s.arrive currentEpoch openFirst
    if !openThen then (s, none)
    else
      let r := s.handleData currentEpoch true event
      (r.1, r.2.map fun packet => (currentEpoch, packet))
  | .other => (s, none)

/-- The staging after some callbacks. -/
def afterCallbacks (s : Staging) (calls : List WsCallback) : Staging :=
  calls.foldl (fun s call => (s.websocketEventHandler call).1) s

end Staging

/-! The grammar. -/

namespace WsEvent

/-- Control and text frames, and events that hand nothing over, are no part of a message. -/
def Ignored (e : WsEvent) : Prop :=
  (e.payloadLen < 0 ∨ e.payloadOffset < 0 ∨ e.dataLen < 0 ∨ (e.dataLen ≠ 0 ∧ e.dataPtr = none)) ∨
  e.isData = false

/-- A chunk of a data frame, inside that frame. -/
structure Piece (e : WsEvent) : Prop where
  read : ¬e.Ignored
  within : e.payloadOffset + e.dataLen ≤ e.payloadLen

/-- A message begins with the first chunk of a BINARY frame. -/
def Begins (e : WsEvent) : Prop := e.isBinary = true ∧ e.payloadOffset = 0

/-- It ends with the last chunk of a frame that has FIN. -/
def Ends (e : WsEvent) : Prop := e.fin = true ∧ e.payloadOffset + e.dataLen = e.payloadLen

end WsEvent

/-- A callback that may come in the middle of a message without being part of it. -/
def WsCallback.Skipped (epoch : UInt32) : WsCallback → Prop
  | .linkChanged _ => False
  | .data currentEpoch openFirst openThen event =>
    currentEpoch = epoch ∧ openFirst = true ∧ (openThen = false ∨ event.Ignored)
  | .other => True

/-- Callbacks that have handed over the first bytes of a message. -/
inductive Gathered (epoch : UInt32) : List WsCallback → List UInt8 → Prop
  | first {openFirst : Bool} {e : WsEvent} (piece : e.Piece) (begins : e.Begins) (more : ¬e.Ends) :
      Gathered epoch [.data epoch openFirst true e] e.chunk
  | next {calls : List WsCallback} {bytes : List UInt8} {e : WsEvent}
      (before : Gathered epoch calls bytes) (piece : e.Piece) (continues : ¬e.Begins)
      (more : ¬e.Ends) :
      Gathered epoch (calls ++ [.data epoch true true e]) (bytes ++ e.chunk)
  | skip {calls : List WsCallback} {bytes : List UInt8} {call : WsCallback}
      (before : Gathered epoch calls bytes) (skipped : call.Skipped epoch) :
      Gathered epoch (calls ++ [call]) bytes

/-- Callbacks that have handed over a message, all in one session. -/
inductive WholeMessage (epoch : UInt32) : List WsCallback → List UInt8 → Prop
  | single {openFirst : Bool} {e : WsEvent} (piece : e.Piece) (begins : e.Begins) (ends : e.Ends) :
      WholeMessage epoch [.data epoch openFirst true e] e.chunk
  | last {calls : List WsCallback} {bytes : List UInt8} {e : WsEvent}
      (before : Gathered epoch calls bytes) (piece : e.Piece) (continues : ¬e.Begins)
      (ends : e.Ends) :
      WholeMessage epoch (calls ++ [.data epoch true true e]) (bytes ++ e.chunk)

/-! One event. -/

variable {s : Staging} {epoch : UInt32} {bytes : List UInt8} {e : WsEvent} {calls : List WsCallback}
  {call : WsCallback} {openFirst : Bool}

namespace WsEvent.Piece

theorem sizes (piece : e.Piece) : 0 ≤ e.payloadLen ∧ 0 ≤ e.payloadOffset ∧ 0 ≤ e.dataLen ∧
    (e.dataLen = 0 ∨ e.dataPtr ≠ none) ∧ e.isData = true := by
  have read := piece.read
  simp only [Ignored, not_or, not_and_or, not_lt, ne_eq, Decidable.not_not,
    Bool.not_eq_false] at read
  exact ⟨read.1.1, read.1.2.1, read.1.2.2.1, read.1.2.2.2, read.2⟩

/-- What is handed over is what the event says. -/
theorem chunk_length (piece : e.Piece) : e.chunk.length = e.dataLen.toNat := by
  obtain ⟨-, -, -, readable, -⟩ := piece.sizes
  rw [WsEvent.chunk, List.length_take]
  rcases readable with none | some
  · rw [none]
    rfl
  · obtain ⟨data, hdata⟩ := Option.ne_none_iff_exists'.mp some
    have enough := e.readable data hdata
    rw [hdata, Option.getD_some]
    omega

theorem carries (piece : e.Piece) :
    e.Carries e.opCode e.fin e.payloadLen.toNat e.payloadOffset.toNat := by
  obtain ⟨size, offset, length, -, -⟩ := piece.sizes
  have chunk := piece.chunk_length
  exact ⟨rfl, rfl, by omega, by omega, by omega⟩

end WsEvent.Piece

theorem Staging.Holds.stages_piece (holds : s.Holds epoch bytes) (piece : e.Piece)
    (more : ¬e.Ends) :
    ∃ t, s.stageChunk e = (t, none) ∧ t.Holds epoch (bytes ++ e.chunk) := by
  obtain ⟨size, offset, length, -, -⟩ := piece.sizes
  have within := piece.within
  have chunk := piece.chunk_length
  apply holds.stages piece.carries
  · omega
  · cases fin : e.fin with
    | false => exact Or.inl rfl
    | true =>
      have short : e.payloadOffset + e.dataLen ≠ e.payloadLen := fun all => more ⟨fin, all⟩
      exact Or.inr (by omega)

theorem Staging.Holds.finishes_piece (holds : s.Holds epoch bytes) (piece : e.Piece)
    (ends : e.Ends) :
    ∃ t : Staging, s.stageChunk e = (t, packetOf (bytes ++ e.chunk)) ∧ t.active = false := by
  obtain ⟨size, offset, length, -, -⟩ := piece.sizes
  have chunk := piece.chunk_length
  have all := ends.2
  have carries := piece.carries
  rw [ends.1] at carries
  obtain ⟨t, heq, -⟩ := holds.finishes carries (by omega)
  refine ⟨t, heq, ?_⟩
  have state : (s.stageChunk e).1 = t := congrArg Prod.fst heq
  have valid : ¬(e.payloadLen.toNat < e.payloadOffset.toNat ∨
      e.payloadLen.toNat - e.payloadOffset.toNat < e.dataLen.toNat) := by omega
  have done : ¬(!e.fin ∨ e.payloadOffset.toNat + e.dataLen.toNat < e.payloadLen.toNat) := by
    rw [ends.1]
    simp only [Bool.not_true, Bool.false_eq_true, false_or]
    omega
  rw [← state, Staging.stageChunk]
  simp only [if_neg valid, if_neg done]
  rfl

/-- A chunk outside its frame drops the message. -/
theorem stageChunk_outside (read : ¬e.Ignored) (outside : ¬e.Piece) :
    (s.stageChunk e).2 = none ∧ (s.stageChunk e).1.active = false := by
  have past : ¬e.payloadOffset + e.dataLen ≤ e.payloadLen := fun within => outside ⟨read, within⟩
  simp only [WsEvent.Ignored, not_or, not_lt] at read
  have invalid : e.payloadLen.toNat < e.payloadOffset.toNat ∨
      e.payloadLen.toNat - e.payloadOffset.toNat < e.dataLen.toNat := by omega
  rw [Staging.stageChunk]
  simp only [if_pos invalid]
  exact ⟨trivial, rfl⟩

theorem handleData_ignored (current : s.epoch = epoch) (ignored : e.Ignored) :
    Staging.handleData epoch true s e = (s, none) := by
  rw [handleData_open current]
  rcases ignored with malformed | control
  · rw [if_pos malformed]
  · have other : (!e.isBinary && !e.isContinuation) = true := by
      rw [WsEvent.isData, Bool.or_eq_false_iff] at control
      rw [control.1, control.2]
      rfl
    rw [if_pos other, ite_self]

/-- An event that is read begins a message, continues the one that is staged, or is an orphan. -/
theorem handleData_read (current : s.epoch = epoch) (read : ¬e.Ignored) :
    (e.Begins → ∃ t : Staging, t.Holds epoch [] ∧
        Staging.handleData epoch true s e = t.stageChunk e) ∧
      (¬e.Begins → Staging.handleData epoch true s e =
        if s.active then s.stageChunk e else (s, none)) := by
  have data : ¬((!e.isBinary && !e.isContinuation) = true) := by
    intro control
    apply read
    refine Or.inr ?_
    rw [WsEvent.isData, Bool.or_eq_false_iff]
    simpa using control
  have valid : ¬(e.payloadLen < 0 ∨ e.payloadOffset < 0 ∨ e.dataLen < 0 ∨
      (e.dataLen ≠ 0 ∧ e.dataPtr = none)) :=
    fun malformed => read (Or.inl malformed)
  have first : e.payloadOffset.toNat = 0 ∧ e.isBinary = true ↔ e.Begins := by
    rw [WsEvent.Begins]
    constructor
    · rintro ⟨offset, binary⟩
      exact ⟨binary, by omega⟩
    · rintro ⟨binary, offset⟩
      exact ⟨by omega, binary⟩
  rw [handleData_open current, if_neg valid, if_neg data]
  constructor
  · intro begins
    refine ⟨{ s.resetStaging with active := true }, ⟨current, rfl, fun _ => ⟨rfl, rfl⟩,
      fun discarded => ?_⟩, ?_⟩
    · exact absurd discarded (by simp)
    · rw [if_pos (first.mpr begins)]
  · intro continues
    rw [if_neg fun h => continues (first.mp h)]
    cases s.active <;> rfl

theorem arrive_same (current : s.epoch = epoch) : s.arrive epoch true = s := by
  rw [Staging.arrive, if_neg]
  rw [current]
  simp

theorem arrive_epoch (s : Staging) (epoch : UInt32) (openFirst : Bool) :
    (s.arrive epoch openFirst).epoch = epoch := by
  rw [Staging.arrive]
  split
  · rfl
  · rename_i same
    rw [not_or, not_not] at same
    exact same.1

/-- What is still staged when an event arrives was staged in its session, with the link open
since. -/
theorem arrive_active (active : (s.arrive epoch openFirst).active = true) :
    s.epoch = epoch ∧ openFirst = true ∧ s.arrive epoch openFirst = s := by
  rw [Staging.arrive] at active ⊢
  split at active
  · exact absurd active (by simp [Staging.resetStaging])
  · rename_i same
    rw [if_neg same]
    rw [not_or, not_not, Bool.not_eq_true, Bool.not_eq_false'] at same
    exact ⟨same.1, same.2, rfl⟩

/-! Runs of callbacks. -/

theorem afterCallbacks_append (s : Staging) (calls calls' : List WsCallback) :
    s.afterCallbacks (calls ++ calls') = (s.afterCallbacks calls).afterCallbacks calls' :=
  List.foldl_append

theorem afterCallbacks_concat (s : Staging) (calls : List WsCallback) (call : WsCallback) :
    s.afterCallbacks (calls ++ [call]) = ((s.afterCallbacks calls).websocketEventHandler call).1 :=
  List.foldl_concat ..

/-- The bytes of a message so far are staged, whatever was staged before it. -/
theorem Gathered.holds (gathered : Gathered epoch calls bytes) (s : Staging) :
    (s.afterCallbacks calls).Holds epoch bytes := by
  induction gathered with
  | @first openFirst e piece begins more =>
    have current := arrive_epoch s epoch openFirst
    obtain ⟨t, start, handled⟩ := (handleData_read current piece.read).1 begins
    obtain ⟨u, staged, holds⟩ := start.stages_piece piece more
    change (Staging.handleData epoch true (s.arrive epoch openFirst) e).1.Holds epoch _
    rw [handled, staged]
    exact holds
  | @next calls bytes e before piece continues more ih =>
    rw [afterCallbacks_concat]
    have handled := (handleData_read ih.epoch piece.read).2 continues
    obtain ⟨u, staged, holds⟩ := ih.stages_piece piece more
    rw [if_pos ih.active, staged] at handled
    change (Staging.handleData epoch true ((s.afterCallbacks calls).arrive epoch true) e).1.Holds
      epoch _
    rw [arrive_same ih.epoch, handled]
    exact holds
  | @skip calls bytes call before skipped ih =>
    rw [afterCallbacks_concat]
    cases call with
    | linkChanged opened => exact absurd skipped not_false
    | other => exact ih
    | data currentEpoch openFirst openThen event =>
      obtain ⟨rfl, rfl, closed | ignored⟩ := skipped
      · subst closed
        change ((s.afterCallbacks calls).arrive currentEpoch true).Holds currentEpoch bytes
        rw [arrive_same ih.epoch]
        exact ih
      · cases openThen with
        | false =>
          change ((s.afterCallbacks calls).arrive currentEpoch true).Holds currentEpoch bytes
          rw [arrive_same ih.epoch]
          exact ih
        | true =>
          change (Staging.handleData currentEpoch true
            ((s.afterCallbacks calls).arrive currentEpoch true) event).1.Holds
            currentEpoch bytes
          rw [arrive_same ih.epoch, handleData_ignored ih.epoch ignored]
          exact ih

/-- What is staged was gathered from the last callbacks. -/
def Staged (calls : List WsCallback) (s : Staging) : Prop :=
  s.active = true → ∃ before message bytes, calls = before ++ message ∧
    Gathered s.epoch message bytes ∧ s.Holds s.epoch bytes

/-- The last callback handed over the end of a message, if it delivered a packet. -/
def Delivered (calls : List WsCallback) (out : Option (UInt32 × List UInt8)) : Prop :=
  ∀ packet ∈ out, packet.2.length ≤ maxFrameSize ∧
    ∃ before message, calls = before ++ message ∧ WholeMessage packet.1 message packet.2

theorem Staged.idle (idle : s.active = false) : Staged calls s :=
  fun active => absurd active (by simp [idle])

theorem Delivered.none : Delivered calls none := fun _ hp => absurd hp (Option.not_mem_none _)

/-- What is staged stays so over a callback that is skipped. -/
theorem Staged.skip (staged : Staged calls s) (skipped : call.Skipped s.epoch) :
    Staged (calls ++ [call]) s := by
  intro active
  obtain ⟨before, message, bytes, rfl, gathered, holds⟩ := staged active
  exact ⟨before, message ++ [call], bytes, List.append_assoc .., gathered.skip skipped, holds⟩

theorem delivered_packetOf {message : List WsCallback} {before : List WsCallback}
    (heq : calls = before ++ message) (whole : WholeMessage epoch message bytes) :
    Delivered calls ((packetOf bytes).map fun packet => (epoch, packet)) := by
  intro packet hp
  obtain ⟨data, hdata, rfl⟩ := Option.map_eq_some_iff.mp hp
  rw [packetOf] at hdata
  split at hdata
  · rename_i fits
    obtain rfl := Option.some.inj hdata
    exact ⟨fits, before, message, heq, whole⟩
  · exact absurd hdata (by simp)

/-- An event that is ignored, or finds the link closed. -/
theorem Staged.arrives {openThen : Bool} (staged : Staged calls s)
    (skipped : openThen = false ∨ e.Ignored) :
    Staged (calls ++ [.data epoch openFirst openThen e]) (s.arrive epoch openFirst) := by
  intro active
  obtain ⟨current, opened, same⟩ := arrive_active active
  rw [same] at active ⊢
  exact staged.skip ⟨current.symm, opened, skipped⟩ active

/-- What an event that is read does to the staging it finds. -/
theorem Staged.reads {r : Staging × Option (List UInt8)} {before message : List WsCallback}
    (heq : calls ++ [.data epoch openFirst true e] = before ++ message)
    (holds : s.Holds epoch bytes) (piece : e.Piece) (result : s.stageChunk e = r)
    (more : ¬e.Ends → Gathered epoch message (bytes ++ e.chunk))
    (whole : e.Ends → WholeMessage epoch message (bytes ++ e.chunk)) :
    Staged (calls ++ [.data epoch openFirst true e]) r.1 ∧
      Delivered (calls ++ [.data epoch openFirst true e])
        (r.2.map fun packet => (epoch, packet)) := by
  rw [← result]
  by_cases ends : e.Ends
  · obtain ⟨t, finished, idle⟩ := holds.finishes_piece piece ends
    rw [finished]
    exact ⟨.idle idle, delivered_packetOf heq (whole ends)⟩
  · obtain ⟨t, staged, holds'⟩ := holds.stages_piece piece ends
    have same : t.epoch = epoch := holds'.epoch
    subst same
    rw [staged]
    exact ⟨fun _ => ⟨before, message, _, heq, more ends, holds'⟩, .none⟩

theorem Staged.step (staged : Staged calls s) (call : WsCallback) :
    Staged (calls ++ [call]) (s.websocketEventHandler call).1 ∧
      Delivered (calls ++ [call]) (s.websocketEventHandler call).2 := by
  cases call with
  | linkChanged opened => exact ⟨.idle rfl, .none⟩
  | other => exact ⟨staged.skip trivial, .none⟩
  | data epoch openFirst openThen e =>
    cases openThen with
    | false => exact ⟨staged.arrives (Or.inl rfl), .none⟩
    | true =>
      have current := arrive_epoch s epoch openFirst
      have opened : s.websocketEventHandler (.data epoch openFirst true e) =
          ((Staging.handleData epoch true (s.arrive epoch openFirst) e).1,
            (Staging.handleData epoch true (s.arrive epoch openFirst) e).2.map fun packet =>
            (epoch, packet)) := rfl
      rw [opened]
      by_cases ignored : e.Ignored
      · rw [handleData_ignored current ignored]
        exact ⟨staged.arrives (Or.inr ignored), .none⟩
      have read := handleData_read current ignored
      by_cases begins : e.Begins
      · obtain ⟨t, start, handled⟩ := read.1 begins
        rw [handled]
        by_cases piece : e.Piece
        · exact Staged.reads rfl start piece rfl (.first piece begins) (.single piece begins)
        · obtain ⟨nothing, idle⟩ := stageChunk_outside (s := t) ignored piece
          rw [nothing]
          exact ⟨.idle idle, .none⟩
      · rw [read.2 begins]
        cases active : (s.arrive epoch openFirst).active with
        | false => exact ⟨.idle active, .none⟩
        | true =>
          obtain ⟨rfl, rfl, same⟩ := arrive_active active
          rw [same] at active ⊢
          by_cases piece : e.Piece
          · obtain ⟨before, message, bytes, rfl, gathered, holds⟩ := staged active
            exact Staged.reads (List.append_assoc ..) holds piece rfl (gathered.next piece begins)
              (.last gathered piece begins)
          · obtain ⟨nothing, idle⟩ := stageChunk_outside (s := s) ignored piece
            rw [if_pos rfl, nothing]
            exact ⟨.idle idle, .none⟩

theorem staged_afterCallbacks (calls : List WsCallback) :
    Staged calls (Staging.afterCallbacks {} calls) := by
  induction calls using List.reverseRecOn with
  | nil => exact .idle rfl
  | append_singleton calls call ih =>
    rw [afterCallbacks_concat]
    exact (ih.step call).1

/-- The end of a message delivers it, whatever was staged before it. -/
theorem WholeMessage.delivers {before message : List WsCallback}
    (heq : calls ++ [call] = before ++ message)
    (whole : WholeMessage epoch message bytes) (s : Staging) :
    ((s.afterCallbacks calls).websocketEventHandler call).2 =
      (packetOf bytes).map fun packet => (epoch, packet) := by
  cases whole with
  | @single openFirst e piece begins ends =>
    obtain ⟨rfl, hcall⟩ := List.append_inj' heq rfl
    obtain rfl := (List.cons.inj hcall).1
    have current := arrive_epoch (s.afterCallbacks calls) epoch openFirst
    obtain ⟨t, start, handled⟩ := (handleData_read current piece.read).1 begins
    obtain ⟨u, finished, -⟩ := start.finishes_piece piece ends
    change Option.map _ (Staging.handleData epoch true
      ((s.afterCallbacks calls).arrive epoch openFirst) e).2 = _
    rw [handled, finished]
    rfl
  | @last message bytes e gathered piece continues ends =>
    rw [← List.append_assoc] at heq
    obtain ⟨rfl, hcall⟩ := List.append_inj' heq rfl
    obtain rfl := (List.cons.inj hcall).1
    rw [afterCallbacks_append]
    have holds := gathered.holds (s.afterCallbacks before)
    have handled := (handleData_read holds.epoch piece.read).2 continues
    obtain ⟨u, finished, -⟩ := holds.finishes_piece piece ends
    rw [if_pos holds.active, finished] at handled
    change Option.map _ (Staging.handleData epoch true
      (((s.afterCallbacks before).afterCallbacks message).arrive epoch true) e).2 = _
    rw [arrive_same holds.epoch, handled]

/-- After any callbacks, in any order, with any fields and with sessions that come and go meanwhile,
a callback delivers a packet exactly when it is the end of a message of at most 8192 bytes: one that
begins with a BINARY frame and is handed over in one session, with nothing but control frames and
the like between its chunks. -/
theorem websocket_delivers_exactly (calls : List WsCallback) (call : WsCallback) (epoch : UInt32)
    (packet : List UInt8) :
    ((Staging.afterCallbacks {} calls).websocketEventHandler call).2 = some (epoch, packet) ↔
      packet.length ≤ maxFrameSize ∧
        ∃ before message, calls ++ [call] = before ++ message ∧
          WholeMessage epoch message packet := by
  constructor
  · intro delivered
    exact ((staged_afterCallbacks calls).step call).2 (epoch, packet) delivered
  · rintro ⟨fits, before, message, heq, whole⟩
    rw [whole.delivers heq {}, packetOf, if_pos fits]
    rfl

end SidpClient
