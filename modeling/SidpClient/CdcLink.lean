import SidpClient.CdcDelivery
import SidpClient.SlipGrammar
import SidpClient.PreservedInvariants
import Mathlib.Data.List.Induction
import Mathlib.Data.List.Forall2
import Mathlib.Data.List.ReduceOption

/-! The CDC link from end to end: what a SLIP decoder makes of the bytes a driver puts on the wire
while frames are sent, some of them not to their end. -/
namespace SidpClient
open Interactive Streams

/-! The driver. -/

abbrev CdcEvent := Event CdcCall CdcCall.Reply

/-- A flush is `ESP_OK` once the driver has sent all it had. -/
def CdcEvent.flushes : CdcEvent → Prop
  | ⟨.writeFlush _, result⟩ => result = .ok
  | _ => False

/-- What the driver still has to send after an event. -/
def driverQueue (queue : List UInt8) : CdcEvent → List UInt8
  | ⟨.writeQueue bytes, queued⟩ => queue ++ bytes.take queued.val
  | ⟨.writeClear, _⟩ => []
  | _ => queue

/-- A driver with this history still has a queue to send, and has put those bytes on the wire. It
sends when it likes. -/
inductive Driven : CdcHistory → List UInt8 → List UInt8 → Prop
  | start : Driven [] [] []
  | sent {h : CdcHistory} {first rest wire : List UInt8} (before : Driven h (first ++ rest) wire) :
      Driven h rest (wire ++ first)
  | event {h : CdcHistory} {queue wire : List UInt8} (ev : CdcEvent) (before : Driven h queue wire)
      (emptied : ev.flushes → queue = []) : Driven (h ++ [ev]) (driverQueue queue ev) wire

variable {h h' evs : CdcHistory} {queue wire : List UInt8} {ev : CdcEvent}
  {frame packet : List UInt8} {d : SlipDecoder} {o : CdcOutput}

theorem Driven.of_nil (driven : Driven h queue wire) (empty : h = []) : queue = [] ∧ wire = [] := by
  induction driven with
  | start => exact ⟨rfl, rfl⟩
  | sent before ih =>
    obtain ⟨none, rfl⟩ := ih empty
    obtain ⟨rfl, rfl⟩ := List.append_eq_nil_iff.mp none
    exact ⟨rfl, rfl⟩
  | event ev before emptied ih => exact absurd empty (by simp)

/-- What was sent since before the last event was queued by then. -/
theorem Driven.concat (driven : Driven (h ++ [ev]) queue wire) :
    ∃ queue₀ wire₀ now, Driven h queue₀ wire₀ ∧ (ev.flushes → queue₀ = []) ∧ wire = wire₀ ++ now ∧
      now ++ queue = driverQueue queue₀ ev := by
  generalize heq : h ++ [ev] = h₁ at driven
  induction driven with
  | start => exact absurd heq (by simp)
  | @sent h₁ first rest wire before ih =>
    obtain ⟨queue₀, wire₀, now, driven₀, emptied, rfl, hqueue⟩ := ih heq
    exact ⟨queue₀, wire₀, now ++ first, driven₀, emptied, List.append_assoc ..,
      (List.append_assoc ..).trans hqueue⟩
  | @event h₁ queue wire ev' before emptied ih =>
    obtain ⟨rfl, hev⟩ := List.append_inj' heq rfl
    obtain rfl := (List.cons.inj hev).1
    exact ⟨queue, wire, [], before, emptied, (List.append_nil _).symm, rfl⟩

/-- The driver is not cleared. -/
def Uncleared (evs : CdcHistory) : Prop := ∀ ev ∈ evs, ev.1 ≠ .writeClear

theorem driverQueue_uncleared (uncleared : ev.1 ≠ .writeClear) :
    driverQueue queue ev = queue ++ acceptedBytes [ev] := by
  obtain ⟨e, r⟩ := ev
  cases e with
  | writeClear => exact absurd rfl uncleared
  | writeQueue bytes => rw [driverQueue, acceptedBytes, acceptedBytes, List.append_nil]
  | _ => exact (List.append_nil _).symm

/-- Without a clear the driver sends what it is given in order, and keeps the rest. -/
theorem Driven.since (driven : Driven (h ++ evs) queue wire) (uncleared : Uncleared evs) :
    ∃ queue₀ wire₀ now, Driven h queue₀ wire₀ ∧ wire = wire₀ ++ now ∧
      now ++ queue = queue₀ ++ acceptedBytes evs := by
  induction evs using List.reverseRecOn generalizing queue wire with
  | nil =>
    rw [List.append_nil] at driven
    exact ⟨queue, wire, [], driven, (List.append_nil _).symm, (List.append_nil _).symm⟩
  | append_singleton evs ev ih =>
    rw [← List.append_assoc] at driven
    obtain ⟨queue₁, wire₁, now, driven₁, -, rfl, hqueue⟩ := driven.concat
    obtain ⟨queue₀, wire₀, before, driven₀, rfl, hbefore⟩ := ih driven₁ fun ev hm =>
      uncleared ev (List.mem_append_left _ hm)
    have last : ev.1 ≠ .writeClear := uncleared ev (List.mem_append_right _ List.mem_cons_self)
    refine ⟨queue₀, wire₀, before ++ now, driven₀, List.append_assoc .., ?_⟩
    rw [driverQueue_uncleared last] at hqueue
    rw [List.append_assoc, hqueue, ← List.append_assoc, hbefore, acceptedBytes_append,
      List.append_assoc]

/-! One end: a send clears the driver when it is done, and not before. -/

/-- The body of a send, and the clear behind it if the link was open at all. -/
def ClearsLast (evs : CdcHistory) : Prop :=
  (Uncleared evs ∧ acceptedBytes evs = []) ∨
    ∃ body, evs = body ++ [⟨.writeClear, ()⟩] ∧ Uncleared body

/-- Since `h₀` the driver has not been cleared. -/
def UnclearedSince (h₀ : CdcHistory) (_ : CdcOutput) (h : CdcHistory) : Prop :=
  ∃ evs, h = h₀ ++ evs ∧ Uncleared evs

theorem ask_unclearedSince {c : CdcCall} (hc : c ≠ .writeClear) :
    (Action.ask c : CdcM (CdcCall.Reply c)).Preserves (UnclearedSince h) := by
  rintro o _ ⟨evs, rfl, uncleared⟩
  rw [Action.wp_ask]
  intro r
  refine ⟨evs ++ [⟨c, r⟩], List.append_assoc .., fun ev hm => ?_⟩
  rcases List.mem_append.mp hm with hm | hm
  · exact uncleared ev hm
  · rw [List.mem_singleton.mp hm]
    exact hc

theorem flushCdcOnce_unclearedSince (tickRateHz : ℕ) (deadline : Deadline) :
    (flushCdcOnce tickRateHz deadline).Preserves (UnclearedSince h) := by
  have remaining : (remainingTimeout deadline).Preserves (UnclearedSince h) :=
    .ite (fun _ => .pure _) fun _ => .bind (.bind (ask_unclearedSince (by simp)) fun _ => .pure _)
      fun _ => .pure _
  exact .bind (ask_unclearedSince (by simp)) fun _ => .ite (fun _ => .pure _)
    fun _ => .bind remaining fun _ => .bind (ask_unclearedSince (by simp))
      fun _ => .ite (fun _ => .pure _) fun _ => .bind (ask_unclearedSince (by simp))
        fun _ => .ite (fun _ => .pure _) fun _ => .ite (fun _ => .pure _) fun _ =>
        .ite (fun _ => .bind remaining fun _ => .pure _) fun _ => .pure _

theorem sendFrame_unclearedSince (tickRateHz fuel : ℕ) (frame : List UInt8) (log : Bool) :
    (sendFrame tickRateHz fuel frame log).Preserves (UnclearedSince h) := by
  have staged (f : CdcOutput → CdcOutput) :
      (Action.modify f : CdcM Unit).Preserves (UnclearedSince h) :=
    .modify fun _ _ hu => hu
  have now : nowMs.Preserves (UnclearedSince h) := .bind (ask_unclearedSince (by simp))
      fun _ => .pure _
  have abandon : abandonFrame.Preserves (UnclearedSince h) := .bind (staged _) fun _ => .pure _
  have queues (deadline : Deadline) : (queueTurn tickRateHz deadline).Preserves
      (UnclearedSince h) := by
    have aborts : (sendAborts deadline).Preserves (UnclearedSince h) :=
      .bind (ask_unclearedSince (by simp)) fun _ => .ite (fun _ => .pure _) fun _ =>
        .bind (.ite (fun _ => .pure _) fun _ => .bind now fun _ => .pure _) fun _ => .pure _
    exact .get_bind fun _ => .ite (fun _ => .pure _) fun _ => .bind aborts
      fun _ => .ite (fun _ => abandon) fun _ => .bind (ask_unclearedSince (by simp))
        fun _ => .ite (fun _ => .bind (staged _) fun _ => .pure _) fun _ =>
          .bind (flushCdcOnce_unclearedSince _ _) fun _ => .ite (fun _ => abandon)
          fun _ => .ite (fun _ => abandon)
          fun _ => .pure _
  have drains (deadline : Deadline) : (drainTurn tickRateHz deadline).Preserves
      (UnclearedSince h) :=
    .bind (flushCdcOnce_unclearedSince _ _) fun _ => .ite (fun _ => .pure _)
      fun _ => .bind (staged _) fun _ => .pure _
  exact .bind (staged _) fun _ => .bind now fun _ => .bind (.loop (queues _) _) fun _ =>
    .ite (fun _ => .loop (drains _) _) fun _ => .pure _

theorem deliverTxFrame_clearsLast (tickRateHz fuel : ℕ) (log : Bool) :
    (deliverTxFrame tickRateHz fuel frame log).wp o h fun result _ h' => ∃ evs, h' = h ++ evs ∧
      (result = none → Uncleared evs) ∧ (result ≠ none → ClearsLast evs) := by
  simp only [deliverTxFrame, cdcIsOpen, cdcWriteClear, Action.wp_bind, Action.wp_ask,
    Action.wp_ite, Action.wp_pure]
  intro opened
  have asked : Uncleared [⟨.isOpen, opened⟩] := by
    intro ev hm
    rw [List.mem_singleton.mp hm]
    simp
  refine ⟨fun _ => ⟨_, rfl, fun hf => absurd hf (by simp), fun _ => Or.inl ⟨asked, rfl⟩⟩,
    fun _ => ?_⟩
  apply Action.wp_mono (sendFrame_unclearedSince tickRateHz fuel frame log o _ ⟨_, rfl, asked⟩)
  intro result _ _ sent
  obtain ⟨body, heq, uncleared⟩ := sent
  cases result with
  | none => exact ⟨body, heq, fun _ => uncleared, fun hf => absurd rfl hf⟩
  | some result =>
    simp only [Action.wp_bind, Action.wp_ask, Action.wp_pure]
    intro r
    refine ⟨body ++ [⟨.writeClear, r⟩], ?_, fun hf => absurd hf (by simp), fun _ =>
      Or.inr ⟨body, rfl, uncleared⟩⟩
    rw [heq, List.append_assoc]

/-! The other end: what a decoder makes of a frame that is cut short. -/

/-- A cut is in front of a byte, inside its escape pair, or behind it. -/
theorem escapedByte_cut {byte : UInt8} {part rest : List UInt8}
    (cut : part <+: escapedByte byte ++ rest) :
    part = [] ∨ part = [Slip.esc] ∨ ∃ part', part = escapedByte byte ++ part' ∧ part' <+: rest := by
  have shape : ∃ last, escapedByte byte = [last] ∨ escapedByte byte = [Slip.esc, last] := by
    rw [escapedByte]
    split
    · exact ⟨_, Or.inr rfl⟩
    · split
      · exact ⟨_, Or.inr rfl⟩
      · exact ⟨_, Or.inl rfl⟩
  obtain ⟨last, single | pair⟩ := shape
  · rw [single] at cut ⊢
    cases part with
    | nil => exact Or.inl rfl
    | cons x part =>
      obtain ⟨rfl, behind⟩ := List.cons_prefix_cons.mp cut
      exact Or.inr (Or.inr ⟨part, rfl, behind⟩)
  · rw [pair] at cut ⊢
    cases part with
    | nil => exact Or.inl rfl
    | cons x part =>
      obtain ⟨rfl, inside⟩ := List.cons_prefix_cons.mp cut
      cases part with
      | nil => exact Or.inr (Or.inl rfl)
      | cons y part =>
        obtain ⟨rfl, behind⟩ := List.cons_prefix_cons.mp inside
        exact Or.inr (Or.inr ⟨part, rfl, behind⟩)

theorem leftover_holding_prefix {held : FrameBuffer} (message : List UInt8)
    (hp : packet ∈ (SlipDecoder.holding held).leftover) :
    packet ≠ [] ∧ packet <+: held.bytes ++ message := by
  rw [SlipDecoder.leftover] at hp
  split at hp
  · rename_i complete
    rw [← Option.mem_some.mp hp]
    exact ⟨complete.2.2.2, List.prefix_append _ _⟩
  · exact absurd hp (Option.not_mem_none packet)

/-- Inside a frame: nothing is complete yet, and an END would deliver the first bytes of the
frame. -/
theorem feed_payload_part {held : FrameBuffer} {message part : List UInt8}
    (room : held.bytes.length + message.length ≤ maxFrameSize)
    (cut : part <+: message.flatMap escapedByte) :
    (feed SlipDecoder.step (.holding held) part).2 = [] ∧
      ∀ packet ∈ (feed SlipDecoder.step (.holding held) part).1.leftover,
        packet ≠ [] ∧ packet <+: held.bytes ++ message := by
  induction message generalizing held part with
  | nil =>
    obtain rfl := List.prefix_nil.mp cut
    exact ⟨rfl, fun packet hp => leftover_holding_prefix [] hp⟩
  | cons byte message ih =>
    rw [List.length_cons] at room
    rw [List.flatMap_cons] at cut
    rcases escapedByte_cut cut with rfl | rfl | ⟨part', rfl, behind⟩
    · exact ⟨rfl, fun packet hp => leftover_holding_prefix (byte :: message) hp⟩
    · -- an END would drop the frame with its escape
      rw [feed_silent step_esc, feed_nil]
      exact ⟨rfl, fun packet hp => absurd hp (Option.not_mem_none packet)⟩
    · have one : held.bytes.length + 1 ≤ maxFrameSize := by omega
      have more : (held.bytes ++ [byte]).length + message.length ≤ maxFrameSize := by
        rw [List.length_append, List.length_singleton]
        omega
      have grown : (held.bytes ++ [byte]).length ≤ maxFrameSize := by rwa [List.length_append]
      have rest := @ih ⟨held.bytes ++ [byte], grown⟩ _ more behind
      rw [feed_append, feed_escapedByte byte one, rest.1]
      refine ⟨rfl, fun packet hp => ?_⟩
      have first := rest.2 packet hp
      rw [List.append_assoc] at first
      exact first

/-- What reaches the peer of a frame: its first bytes at most, and all of them if the send said
so. -/
def Reaches (piece : Option (List UInt8)) (send : List UInt8 × Bool) : Prop :=
  (∀ packet ∈ piece, packet ≠ [] ∧ packet <+: send.1) ∧ (send.2 = true → piece = some send.1)

/-- A decoder that would have delivered `held` on an END has delivered `packets` and would deliver
`held'`: it got what it held before, and then a piece of each frame sent. After a frame that was
sent it holds nothing back. -/
def Received (held : Option (List UInt8)) (sends : List (List UInt8 × Bool))
    (packets : List (List UInt8)) (held' : Option (List UInt8)) : Prop :=
  (∃ pieces, List.Forall₂ Reaches pieces sends ∧ packets ++ held'.toList = held.toList ++
    pieces.reduceOption) ∧ ∀ send ∈ sends.getLast?, send.2 = true → held' = none

variable {held held' held₁ : Option (List UInt8)} {sends : List (List UInt8 × Bool)}
  {packets now : List (List UInt8)} {m : SlipMessage} {sent : Bool}

theorem Received.nil : Received held [] [] held :=
  ⟨⟨[], .nil, (List.append_nil _).symm⟩, fun _ hm => absurd hm (by simp)⟩

theorem Received.snoc {send : List UInt8 × Bool} (before : Received held sends packets held₁)
    (last : Received held₁ [send] now held') :
    Received held (sends ++ [send]) (packets ++ now) held' := by
  obtain ⟨⟨pieces, reach, got⟩, -⟩ := before
  obtain ⟨⟨pieces', reach', got'⟩, ending⟩ := last
  constructor
  · refine ⟨pieces ++ pieces', List.rel_append reach reach', ?_⟩
    calc
      packets ++ now ++ held'.toList = packets ++ held₁.toList ++ pieces'.reduceOption := by
        rw [List.append_assoc, got', List.append_assoc]
      _ = held.toList ++ (pieces ++ pieces').reduceOption := by
        rw [got, List.reduceOption_append, List.append_assoc]
  · intro send' hm
    rw [List.getLast?_concat] at hm
    exact ending send' hm

/-- One piece of one frame. -/
theorem Received.piece {piece : Option (List UInt8)} {frame : List UInt8}
    (reaches : Reaches piece (frame, sent))
    (got : now ++ held'.toList = held.toList ++ piece.toList)
    (ending : sent = true → held' = none) :
    Received held [(frame, sent)] now held' := by
  refine ⟨⟨[piece], .cons reaches .nil, ?_⟩, fun send hm => ?_⟩
  · rw [got]
    cases piece <;> rfl
  · obtain rfl := Option.mem_some.mp hm
    exact ending

theorem feed_part {part : List UInt8} (cut : part <+: encodeMessage m.bytes) :
    Received d.leftover [(m.bytes, false)] (feed SlipDecoder.step d part).2
      (feed SlipDecoder.step d part).1.leftover := by
  have whole : Reaches (some m.bytes) (m.bytes, false) := by
    refine ⟨fun packet hp => ?_, fun _ => rfl⟩
    obtain rfl := Option.mem_some.mp hp
    exact ⟨m.nonempty, List.prefix_rfl⟩
  cases part with
  | nil =>
    have none_reaches : Reaches none (m.bytes, false) :=
      ⟨fun packet hp => absurd hp (Option.not_mem_none packet), fun sent => absurd sent (by simp)⟩
    apply Received.piece none_reaches
    · exact (List.append_nil _).symm
    · exact fun sent => absurd sent (by simp)
  | cons first part =>
    rw [encodeMessage] at cut
    obtain ⟨rfl, inside⟩ := List.cons_prefix_cons.mp cut
    rcases List.prefix_concat_iff.mp inside with all | short
    · rw [all, ← encodeMessage, feed_encodeMessage]
      apply Received.piece whole
      · exact List.append_nil _
      · exact fun sent => absurd sent (by simp)
    · have room : FrameBuffer.empty.bytes.length + m.bytes.length ≤ maxFrameSize := by
        rw [FrameBuffer.empty, List.length_nil, Nat.zero_add]
        exact m.fits
      have behind := feed_payload_part room short
      rw [feed_cons, step_end, SlipDecoder.synced, behind.1, List.append_nil]
      apply Received.piece ⟨behind.2, fun sent => absurd sent (by simp)⟩
      · rfl
      · exact fun sent => absurd sent (by simp)

theorem feed_whole :
    Received d.leftover [(m.bytes, true)] (feed SlipDecoder.step d (encodeMessage m.bytes)).2
    (feed SlipDecoder.step d (encodeMessage m.bytes)).1.leftover := by
  have whole : Reaches (some m.bytes) (m.bytes, true) := by
    refine ⟨fun packet hp => ?_, fun _ => rfl⟩
    obtain rfl := Option.mem_some.mp hp
    exact ⟨m.nonempty, List.prefix_rfl⟩
  rw [feed_encodeMessage]
  apply Received.piece whole
  · exact List.append_nil _
  · exact fun _ => rfl

/-! Both ends. -/

/-- However the driver has sent what it was given in `h`, a decoder that got all of it has received
the sends. -/
def Receives (d : SlipDecoder) (sends : List (List UInt8 × Bool)) (h : CdcHistory) : Prop :=
  ∀ queue wire, Driven h queue wire →
    Received d.leftover sends (feed SlipDecoder.step d wire).2
      (feed SlipDecoder.step d wire).1.leftover

/-- So it has, and the driver has nothing left. -/
structure Linked (d : SlipDecoder) (sends : List (List UInt8 × Bool)) (h : CdcHistory) : Prop where
  empty : ∀ queue wire, Driven h queue wire → queue = []
  receives : Receives d sends h

theorem Linked.nil : Linked d [] [] := by
  constructor
  · intro queue wire driven
    exact (driven.of_nil rfl).1
  · intro queue wire driven
    obtain ⟨rfl, rfl⟩ := driven.of_nil rfl
    exact Received.nil

/-- The driver has sent `now` since. -/
theorem Receives.concat {send : List UInt8 × Bool} (receives : Receives d sends h)
    (since : ∀ queue wire, Driven (h ++ evs) queue wire → ∃ queue₀ wire₀ now,
      Driven h queue₀ wire₀ ∧ wire = wire₀ ++ now ∧ ∀ d₀ : SlipDecoder,
        Received d₀.leftover [send] (feed SlipDecoder.step d₀ now).2
          (feed SlipDecoder.step d₀ now).1.leftover) :
    Receives d (sends ++ [send]) (h ++ evs) := by
  intro queue wire driven
  obtain ⟨queue₀, wire₀, now, driven₀, rfl, received⟩ := since queue wire driven
  have before := receives queue₀ wire₀ driven₀
  rw [feed_append]
  exact before.snoc (received _)

/-- What was queued since the last clear is a part of a frame. -/
theorem Linked.cleared {body : CdcHistory} (linked : Linked d sends h) (uncleared : Uncleared body)
    (driven : Driven (h ++ body) queue wire) :
    ∃ queue₀ wire₀ now, Driven h queue₀ wire₀ ∧ wire = wire₀ ++ now ∧
      now ++ queue = acceptedBytes body := by
  obtain ⟨queue₀, wire₀, now, driven₀, rfl, together⟩ := driven.since uncleared
  obtain rfl := linked.empty queue₀ wire₀ driven₀
  exact ⟨[], wire₀, now, driven₀, rfl, together⟩

/-- In the middle of a send the driver may still hold some of the frame. -/
theorem Linked.in_send {result : Option Bool} (linked : Linked d sends h)
    (send : CdcSend m.bytes result o evs) (uncleared : Uncleared evs) :
    Receives d (sends ++ [(m.bytes, false)]) (h ++ evs) := by
  apply linked.receives.concat
  intro queue wire driven
  obtain ⟨queue₀, wire₀, now, driven₀, rfl, together⟩ := linked.cleared uncleared driven
  refine ⟨queue₀, wire₀, now, driven₀, rfl, fun d₀ => feed_part ?_⟩
  have part := send.accepted
  rw [← together] at part
  exact (List.prefix_append _ _).trans part

theorem Linked.after_send {b : Bool} (linked : Linked d sends h)
    (send : CdcSend m.bytes (some b) o evs) (clears : ClearsLast evs) :
    Linked d (sends ++ [(m.bytes, b)]) (h ++ evs) := by
  rcases clears with ⟨uncleared, nothing⟩ | ⟨body, rfl, uncleared⟩
  · -- the link was closed
    have unsent : b = false := by
      by_contra sent
      obtain ⟨before, ticks, rfl, accepted⟩ := send.sent (congrArg some (by simpa using sent))
      rw [acceptedBytes_append, accepted] at nothing
      simp [encodeMessage] at nothing
    rw [unsent]
    refine ⟨fun queue wire driven => ?_, linked.in_send send uncleared⟩
    obtain ⟨queue₀, wire₀, now, -, -, together⟩ := linked.cleared uncleared driven
    rw [nothing] at together
    exact (List.append_eq_nil_iff.mp together).2
  · constructor
    · intro queue wire driven
      rw [← List.append_assoc] at driven
      obtain ⟨queue₁, wire₁, late, -, -, -, emptied⟩ := driven.concat
      exact (List.append_eq_nil_iff.mp emptied).2
    apply linked.receives.concat
    intro queue wire driven
    rw [← List.append_assoc] at driven
    obtain ⟨queue₁, wire₁, late, driven₁, -, rfl, emptied⟩ := driven.concat
    obtain ⟨rfl, rfl⟩ := List.append_eq_nil_iff.mp emptied
    obtain ⟨queue₀, wire₀, now, driven₀, rfl, together⟩ := linked.cleared uncleared driven₁
    refine ⟨queue₀, wire₀, now, driven₀, List.append_nil _, fun d₀ => ?_⟩
    cases b with
    | true =>
      obtain ⟨before, ticks, heq, accepted⟩ := send.sent rfl
      have split : body ++ [⟨.writeClear, ()⟩] =
          before ++ [⟨.writeFlush ticks, .ok⟩] ++ [(⟨.writeClear, ()⟩ : CdcEvent)] := by
        rw [heq, List.append_assoc]
        rfl
      obtain rfl := List.append_cancel_right split
      rw [← List.append_assoc] at driven₁
      -- the flush found nothing left
      obtain ⟨queue₂, wire₂, late, -, flushed, -, rest⟩ := driven₁.concat
      obtain rfl := flushed rfl
      obtain ⟨-, rfl⟩ := List.append_eq_nil_iff.mp rest
      rw [List.append_nil, acceptedBytes_append, accepted] at together
      have all : now = encodeMessage m.bytes := together.trans (List.append_nil _)
      rw [all]
      exact feed_whole
    | false =>
      apply feed_part
      have part : acceptedBytes body <+: encodeMessage m.bytes :=
        (acceptedBytes_before (List.prefix_append _ _)).trans send.accepted
      rw [← together] at part
      exact (List.prefix_append _ _).trans part

theorem deliverTxFrame_linked (tickRateHz fuel : ℕ) (log : Bool) (linked : Linked d sends h)
    (clear : o.Cleared) :
    (deliverTxFrame tickRateHz fuel m.bytes log).wp o h fun result o' h' =>
      (result = none → Receives d (sends ++ [(m.bytes, false)]) h') ∧
        ∀ b, result = some b → o'.Cleared ∧ Linked d (sends ++ [(m.bytes, b)]) h' := by
  apply Action.wp_mono (Action.wp_and (deliverTxFrame_delivers m.fits clear)
    (deliverTxFrame_clearsLast tickRateHz fuel log))
  intro result o' _ sent
  obtain ⟨⟨evs, heq, send⟩, evs', heq', underway, finished⟩ := sent
  rw [heq] at heq' ⊢
  obtain rfl := List.append_cancel_left heq'
  constructor
  · exact fun none => linked.in_send send (underway none)
  · rintro b rfl
    exact ⟨send.cleared (by simp), linked.after_send send (finished (by simp))⟩

/-- What was sent of some frames, up to the one that is still being sent. -/
theorem deliverTxFrames_linked (tickRateHz fuel : ℕ) (frames : List (SlipMessage × Bool))
    (linked : Linked d sends h) (clear : o.Cleared) :
    (deliverTxFrames tickRateHz fuel (frames.map fun f => (f.1.bytes, f.2))).wp o h fun sent _ h' =>
      ∃ results, results.length ≤ frames.length ∧
        (∀ all, sent = some all → all = results ∧ results.length = frames.length ∧
          ∀ queue wire, Driven h' queue wire → queue = []) ∧
          Receives d (sends ++ (frames.map fun f => f.1.bytes).zip results) h' := by
  induction frames generalizing sends o h with
  | nil =>
    rw [List.map_nil, deliverTxFrames, Action.wp_pure]
    refine ⟨[], le_rfl, fun all sent => ⟨(Option.some.inj sent).symm, rfl, linked.empty⟩, ?_⟩
    rw [List.map_nil, List.zip_nil_left, List.append_nil]
    exact linked.receives
  | cons f frames ih =>
    obtain ⟨m, log⟩ := f
    rw [List.map_cons, deliverTxFrames, Action.wp_bind]
    apply Action.wp_mono (deliverTxFrame_linked tickRateHz fuel log linked clear)
    intro result o₁ evs sent
    obtain ⟨underway, finished⟩ := sent
    cases result with
    | none =>
      rw [Action.wp_pure]
      refine ⟨[false], by simp, fun all sent => absurd sent (by simp), ?_⟩
      rw [List.map_cons, List.zip_cons_cons, List.zip_nil_right]
      exact underway rfl
    | some b =>
      obtain ⟨cleared, next⟩ := finished b rfl
      rw [Action.wp_bind]
      apply Action.wp_mono (ih next cleared)
      intro rest o₂ evs' sent
      obtain ⟨results, within, finished, received⟩ := sent
      rw [Action.wp_pure]
      rw [List.append_assoc] at received
      refine ⟨b :: results, Nat.succ_le_succ within, fun all sent => ?_, received⟩
      obtain ⟨all', hrest, rfl⟩ := Option.map_eq_some_iff.mp sent
      obtain ⟨rfl, same, empty⟩ := finished all' hrest
      exact ⟨rfl, congrArg (· + 1) same, empty⟩

/-- Frames sent one after the other over the CDC link: however the driver queues and sends their
bytes, fails or loses the link, and however the peer's callbacks cut what it gets, the peer receives
at most one nonempty piece of each frame, from its start, in order, and each frame whole whose send
succeeded. -/
theorem cdc_frames_received (tickRateHz fuel : ℕ) (frames : List (SlipMessage × Bool))
    (c : CdcInput) :
    (deliverTxFrames tickRateHz fuel (frames.map fun f => (f.1.bytes, f.2))).wp {}
    [] fun sent _ h =>
      ∃ results, results.length ≤ frames.length ∧
        (∀ all, sent = some all → all = results ∧ results.length = frames.length) ∧
          ∀ queue wire, Driven h queue wire → (sent ≠ none → queue = []) ∧
            ∀ callbacks : List (List (List UInt8)), callbacks.flatten.flatten = wire →
              Received c.decoder.leftover ((frames.map fun f => f.1.bytes).zip results)
                (c.drainAll c.decoderEpoch callbacks).2
                (c.drainAll c.decoderEpoch callbacks).1.decoder.leftover := by
  have start : Linked c.decoder [] [] := Linked.nil
  apply Action.wp_mono (deliverTxFrames_linked tickRateHz fuel frames start ⟨rfl, rfl⟩)
  intro sent o evs link
  obtain ⟨results, within, finished, receives⟩ := link
  refine ⟨results, within, fun all done => ⟨(finished all done).1, (finished all done).2.1⟩, ?_⟩
  intro queue wire driven
  constructor
  · intro done
    obtain ⟨all, hall⟩ := Option.ne_none_iff_exists'.mp done
    exact (finished all hall).2.2 queue wire driven
  · intro callbacks cut
    rw [c.drainAll_eq, cut]
    exact receives queue wire driven

/-- A driver may send everything at once. -/
theorem Driven.prompt (h : CdcHistory) : Driven h [] (acceptedBytes h) := by
  induction h using List.reverseRecOn with
  | nil => exact .start
  | append_singleton h ev ih =>
    have queued : Driven (h ++ [ev]) (driverQueue [] ev) (acceptedBytes h) := .event
        ev ih fun _ => rfl
    rw [acceptedBytes_append]
    by_cases clear : ev.1 = .writeClear
    · obtain ⟨e, r⟩ := ev
      cases clear
      rw [acceptedBytes, acceptedBytes, List.append_nil]
      exact queued
    · rw [driverQueue_uncleared clear, List.nil_append] at queued
      rw [← List.append_nil (acceptedBytes [ev])] at queued
      exact .sent queued

/-- A frame with an END byte, and a log. -/
def twoFrames : List (SlipMessage × Bool) :=
  [(⟨[0xC0, 1], by simp, by decide⟩, false), (⟨[2], by simp, by decide⟩, true)]

/-- Both arrive over a driver that takes three bytes at a time. -/
theorem two_frames_received :
    ∃ wire,
      Driven ((deliverTxFrames 100 10 (twoFrames.map fun f => (f.1.bytes, f.2)) {}).run steadyDriver
      0).2 [] wire ∧ Received none ((twoFrames.map fun f => f.1.bytes).zip [true, true])
        (({} : CdcInput).drainAll 0 [[wire]]).2
        (({} : CdcInput).drainAll 0 [[wire]]).1.decoder.leftover := by
  have sends : ((deliverTxFrames 100 10 (twoFrames.map fun f => (f.1.bytes, f.2)) {}).run
      steadyDriver 0).1.1.1 = some [true, true] := by decide +kernel
  have received := Program.wp_run steadyDriver _ [] 0 (cdc_frames_received 100 10 twoFrames {})
  obtain ⟨results, -, finished, linked⟩ := received
  obtain ⟨rfl, -⟩ := finished _ sends
  have whole :=
    Driven.prompt ((deliverTxFrames 100 10 (twoFrames.map fun f => (f.1.bytes, f.2)) {}).run
    steadyDriver 0).2
  have cut (wire : List UInt8) : [[wire]].flatten.flatten = wire := by simp
  exact ⟨_, whole, (linked [] _ whole).2 _ (cut _)⟩

end SidpClient
