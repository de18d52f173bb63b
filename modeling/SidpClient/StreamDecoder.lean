import Mathlib.Data.List.Basic

/-! Decoders that read a stream symbol by symbol and emit a message now and then. -/
namespace Streams

variable {σ β α M : Type}

/-- The state after some symbols, and the messages emitted on the way. -/
def feed (step : σ → β → σ × Option α) : σ → List β → σ × List α
  | s, [] => (s, [])
  | s, b :: bs =>
    let r := step s b
    let rest := feed step r.1 bs
    (rest.1, r.2.toList ++ rest.2)

variable {step : σ → β → σ × Option α} {s : σ}

@[simp] theorem feed_nil : feed step s [] = (s, []) := rfl

theorem feed_cons (b : β) (bs : List β) :
    feed step s (b :: bs) =
      ((feed step (step s b).1 bs).1, (step s b).2.toList ++ (feed step (step s b).1 bs).2) := rfl

theorem feed_silent {b : β} {t : σ} (hb : step s b = (t, none)) (bs : List β) :
    feed step s (b :: bs) = feed step t bs := by
  rw [feed_cons, hb]
  rfl

theorem feed_append (xs ys : List β) :
    feed step s (xs ++ ys) =
      ((feed step (feed step s xs).1 ys).1, (feed step s xs).2 ++
        (feed step (feed step s xs).1 ys).2) := by
  induction xs generalizing s with
  | nil => rfl
  | cons b xs ih =>
    rw [List.cons_append, feed_cons, ih, feed_cons, List.append_assoc]

/-- Symbols that arrive in pieces. -/
def feedChunks (step : σ → β → σ × Option α) : σ → List (List β) → σ × List α
  | s, [] => (s, [])
  | s, chunk :: chunks =>
    let r := feed step s chunk
    let rest := feedChunks step r.1 chunks
    (rest.1, r.2 ++ rest.2)

/-- How a stream is cut into pieces does not matter. -/
theorem feedChunks_eq (chunks : List (List β)) :
    feedChunks step s chunks = feed step s chunks.flatten := by
  induction chunks generalizing s with
  | nil => rfl
  | cons chunk chunks ih =>
    rw [List.flatten_cons, feed_append, ← ih]
    rfl

/-- Symbols that never change the state or emit anything can be left out. -/
theorem feed_filter {P : σ → Prop} {keep : β → Bool} (hstep : ∀ s b, P s → P (step s b).1)
    (hskip : ∀ s b, P s → keep b = false → step s b = (s, none)) (hs : P s) (bs : List β) :
    feed step s bs = feed step s (bs.filter keep) := by
  induction bs generalizing s with
  | nil => rfl
  | cons b bs ih =>
    cases hb : keep b with
    | false =>
      rw [List.filter_cons_of_neg (by simp [hb]), ← ih hs]
      exact feed_silent (hskip s b hs hb) bs
    | true => rw [List.filter_cons_of_pos hb, feed_cons, feed_cons, ih (hstep s b hs)]

/-- Messages that are each decoded from, and back to, states with a property are decoded in a
row. -/
theorem feed_flatMap {P : σ → Prop} {encode : M → List β} {decode : M → List α}
    (hone : ∀ s m, P s → P (feed step s (encode m)).1 ∧ (feed step s (encode m)).2 = decode m)
    (hs : P s) (ms : List M) :
    P (feed step s (ms.flatMap encode)).1 ∧
      (feed step s (ms.flatMap encode)).2 = ms.flatMap decode := by
  induction ms generalizing s with
  | nil => exact ⟨hs, rfl⟩
  | cons m ms ih =>
    obtain ⟨hp, hm⟩ := hone s m hs
    obtain ⟨hps, hms⟩ := ih hp
    rw [List.flatMap_cons, feed_append, List.flatMap_cons]
    exact ⟨hps, by rw [hm, hms]⟩

theorem not_mem_of_mem_splitOn [BEq β] [LawfulBEq β] {sep : β} {stream piece : List β}
    (hmem : piece ∈ stream.splitOn sep) : sep ∉ piece := by
  induction stream generalizing piece with
  | nil => simp_all
  | cons b stream ih =>
    rw [List.splitOn_cons_eq_if_modifyHead] at hmem
    split at hmem
    · cases hmem with
      | head => exact List.not_mem_nil
      | tail _ hrest => exact ih hrest
    · rename_i hne
      cases hsplit : stream.splitOn sep with
      | nil => exact absurd hsplit (List.splitOn_ne_nil sep stream)
      | cons first rest =>
        rw [hsplit] at ih hmem
        cases hmem with
        | head =>
          have hfirst := ih (List.mem_cons_self ..)
          have hb : sep ≠ b := fun heq => hne (by simp [heq])
          simp [hb, hfirst]
        | tail _ hrest => exact ih (List.mem_cons_of_mem _ hrest)

/-- A decoder that every delimiter brings to one state, emitting what is left over, cuts the stream
at the delimiters: `packet` is what one piece comes to. -/
theorem feed_delimited [BEq β] [LawfulBEq β] {sep : β} {synced : σ} {leftover : σ → Option α}
    {packet : List β → Option α} (hsep : ∀ d, step d sep = (synced, leftover d))
    (hpiece : ∀ piece, sep ∉ piece →
      (feed step synced piece).2 = [] ∧ leftover (feed step synced piece).1 = packet piece)
    (stream : List β) :
    (feed step synced stream).2 = (stream.splitOn sep).dropLast.filterMap packet := by
  -- induction on the length: what follows a delimiter is again fed from the synchronised state
  induction hn : stream.length using Nat.strongRecOn generalizing stream with
  | _ n ih =>
    by_cases hmem : sep ∈ stream
    · obtain ⟨piece, rest, rfl, hnot⟩ := List.eq_append_cons_of_mem hmem
      obtain ⟨hquiet, hleft⟩ := hpiece piece hnot
      have hlt : rest.length < n := by
        rw [← hn, List.length_append, List.length_cons]
        omega
      have hrest := ih rest.length hlt rest rfl
      have hne : rest.splitOn sep ≠ [] := List.splitOn_ne_nil sep rest
      rw [feed_append, hquiet, List.nil_append, feed_cons, hsep, hleft, hrest,
        List.splitOn_append_cons_self_of_not_mem hnot, List.dropLast_cons_of_ne_nil hne,
        List.filterMap_cons]
      cases packet piece <;> rfl
    · rw [List.splitOn_eq_singleton hmem]
      exact (hpiece stream hmem).1

/-- The same from a state in which everything up to the first delimiter is lost. -/
theorem feed_resynchronised [BEq β] [LawfulBEq β] {sep : β} {start synced : σ}
    {leftover : σ → Option α} {packet : List β → Option α}
    (hsep : ∀ d, step d sep = (synced, leftover d))
    (hpiece : ∀ piece, sep ∉ piece →
      (feed step synced piece).2 = [] ∧ leftover (feed step synced piece).1 = packet piece)
    (hlost : ∀ piece, sep ∉ piece →
      (feed step start piece).2 = [] ∧ leftover (feed step start piece).1 = none)
    (stream : List β) :
    (feed step start stream).2 = (stream.splitOn sep).tail.dropLast.filterMap packet := by
  by_cases hmem : sep ∈ stream
  · obtain ⟨piece, rest, rfl, hnot⟩ := List.eq_append_cons_of_mem hmem
    obtain ⟨hquiet, hleft⟩ := hlost piece hnot
    rw [feed_append, hquiet, List.nil_append, feed_cons, hsep, hleft,
      List.splitOn_append_cons_self_of_not_mem hnot, List.tail_cons]
    exact feed_delimited hsep hpiece rest
  · rw [List.splitOn_eq_singleton hmem]
    exact (hlost stream hmem).1

end Streams
