import SidpClient.DeviceReports
import SidpClient.AttachReports
import SidpClient.ReportedPc

/-! What the frame buffer holds when a frame is offered: a whole report under its CRC. -/
namespace SidpClient
open LittleEndian Interactive

/-- The entries the walk finds fill the blob to its last byte. -/
def Tiles (blob : Buffer) (size : ℕ) : Prop :=
  ((registerEntries blob size).map RegisterEntry.size).sum = size

instance (blob : Buffer) (size : ℕ) : Decidable (Tiles blob size) :=
  inferInstanceAs (Decidable (_ = _))

variable {blob blob' : Buffer} {size n : ℕ} {s : Session} {h evs : SessionHistory} {b : Buffer}
  {kind : UInt8} {opcode : UInt16} {requestId : UInt32} {payload : List UInt8}

/-! Register blobs. -/

theorem tiles_empty (blob : Buffer) : Tiles blob 0 := rfl

theorem Tiles.congr (tiles : Tiles blob size) (same : ∀ i, i < size → blob' i = blob i) :
    Tiles blob' size := by
  rw [Tiles, registerEntries, registerEntriesFrom_congr size 0 fun i _ high => same i high]
  exact tiles

/-- One entry of a blob, with its value. -/
def RegisterEntry.read (blob : Buffer) (entry : RegisterEntry) : RegisterValue where
  id := entry.registerId
  flags := entry.flags
  value := blob.read (entry.offset + registerValueSize) entry.valueSize.toNat
  bounded := by
    rw [Buffer.read_length]
    exact entry.valueSize.toNat_lt

theorem registerEntryAt_bytes (blob : Buffer) (offset : ℕ) :
    ((registerEntryAt blob offset).read blob).bytes = blob.read offset
    (registerEntryAt blob offset).size := by
  have id : le16 (getU16 (blob.read offset 2) 0) = blob.read offset 2 := by
    rw [le16_getU16 _ _ (by rw [Buffer.read_length]), slice, List.drop_zero]
    exact List.take_of_length_le (by rw [Buffer.read_length])
  have valueSize : UInt8.ofNat (blob (offset + 2)).toNat = blob (offset + 2) := UInt8.ofNat_toNat
  have head : blob.read offset registerValueSize = blob.read offset 2 ++ [blob (offset + 2),
      blob (offset + 3)] :=
    Buffer.read_append blob offset 2 2
  have split : blob.read offset (registerEntryAt blob offset).size = blob.read offset
      registerValueSize ++ blob.read (offset + registerValueSize) (blob (offset + 2)).toNat :=
        Buffer.read_append blob offset _ _
  rw [split, head, RegisterValue.bytes]
  simp only [RegisterEntry.read, registerEntryAt, Buffer.read_length, id, valueSize]

/-- The bytes a walk passes are the entries it yields. -/
theorem registerEntriesFrom_bytes (fuel offset : ℕ) :
    registerBytes ((registerEntriesFrom blob size fuel offset).map (RegisterEntry.read blob)) =
      blob.read offset
        ((registerEntriesFrom blob size fuel offset).map RegisterEntry.size).sum := by
  induction fuel generalizing offset with
  | zero => rfl
  | succ fuel ih =>
    rw [registerEntriesFrom]
    split
    · dsimp only
      split
      · rfl
      · have rest := ih (offset + (registerEntryAt blob offset).size)
        rw [List.map_cons, List.map_cons, List.sum_cons, Buffer.read_append, ← rest,
          ← registerEntryAt_bytes]
        rfl
    · rfl

/-- A blob without loose bytes is a list of registers with their values. -/
theorem Tiles.values (tiles : Tiles blob size) : ∃ values : List RegisterValue,
    values.length = (registerEntries blob size).length ∧
      blob.read 0 size = registerBytes values := by
  have bytes : registerBytes ((registerEntriesFrom blob size size 0).map (RegisterEntry.read blob))
      = blob.read 0 ((registerEntriesFrom blob size size 0).map RegisterEntry.size).sum :=
        registerEntriesFrom_bytes size 0
  rw [Tiles, registerEntries] at tiles
  rw [tiles] at bytes
  exact ⟨_, List.length_map _, bytes.symm⟩

/-- Normalization changes the value of one entry and moves none. -/
theorem registerEntries_normalized (s : Session) (buffer : Buffer) (base size : ℕ) :
    registerEntries (fun i => normalizePcInRegisterBlob s buffer base size (base + i)) size =
      registerEntries (fun i => buffer (base + i)) size := by
  rw [normalizePcInRegisterBlob]
  split
  · rfl
  · cases found : findRegister (fun i => buffer (base + i)) size armRegPc with
    | none => rfl
    | some entry =>
      obtain ⟨hm, -, width, -⟩ := findRegister_some found
      apply registerEntriesFrom_of_value hm
      intro i _ _ outside
      apply Buffer.write_apply_of_not_mem
      rw [le32_length]
      omega

theorem Tiles.normalized (s : Session) {buffer : Buffer} {base : ℕ}
    (tiles : Tiles (fun i => buffer (base + i)) size) :
    Tiles (fun i => normalizePcInRegisterBlob s buffer base size (base + i)) size := by
  rw [Tiles, registerEntries_normalized]
  exact tiles

/-- What a call wrote to the front of a buffer tiles if what it returned does. -/
theorem Tiles.written {data : List UInt8} {capacity : ℕ} (base : ℕ)
    (tiles : Tiles (getU8 data) size) (fits : size ≤ capacity) (given : size ≤ data.length) :
    Tiles (fun i => b.write base (data.take capacity) (base + i)) size := by
  apply tiles.congr
  intro i hi
  have inside : base ≤ base + i ∧ base + i < base + (data.take capacity).length := by
    rw [List.length_take]
    omega
  have place : base + i - base = i := by omega
  have taken : i < capacity := by omega
  simp only [Buffer.write, if_pos inside, place, getU8, List.getD_eq_getElem?_getD,
    List.getElem?_take, if_pos taken]

/-! The envelope. -/

/-- A buffer with a header in front and a payload behind the CRC field is sealed to a message. -/
theorem sealedFrame_eq_sealMessage (head : b.read 0 8 = headerBytes kind opcode requestId)
    (body : b.read headerSize payload.length = payload) (length : n = headerSize + payload.length) :
    sealedFrame b n
      (Crc32.messageCrc (b.read 0 n)) = sealMessage kind opcode requestId payload := by
  have split (c : Buffer) :
      c.read 0 n = c.read 0 8 ++ (c.read 8 4 ++ c.read headerSize payload.length) := by
    have count : n = 8 + (4 + payload.length) := by
      rw [length, headerSize]
      omega
    rw [count, Buffer.read_append, Buffer.read_append]
    rfl
  have crc : Crc32.messageCrc (b.read 0 n) =
      Crc32.messageCrc (headerBytes kind opcode requestId ++ (List.replicate 4 0 ++ payload)) := by
    rw [split, head, body]
    exact messageCrc_field _ _ _ _ (headerBytes_length _ _ _) (Buffer.read_length _ _ _) (by simp)
  have field := read_le32 b Crc32.crcOffset (Crc32.messageCrc (b.read 0 n))
  have front := Buffer.read_write_of_disjoint b Crc32.crcOffset
      (le32 (Crc32.messageCrc (b.read 0 n))) 0 8
    (Or.inl (by decide))
  have behind := Buffer.read_write_of_disjoint b Crc32.crcOffset
      (le32 (Crc32.messageCrc (b.read 0 n))) headerSize
    payload.length (Or.inr (by rw [le32_length]; decide))
  rw [sealedFrame, split, front, behind, head, body]
  rw [Crc32.crcOffset] at field ⊢
  rw [field, crc]
  rfl

/-- Offering a frame, with the CRC it is offered under. Only the CRC field of the buffer changes. -/
theorem finishFrame_sealed {P : List UInt8 → Prop} {Q : Bool → Session → SessionHistory → Prop}
    (valid : isValidMessageSize n) (hP : P (sealedFrame b n (Crc32.messageCrc (b.read 0 n))))
    (hQ : ∀ b' dead evs, (∀ i, headerSize ≤ i → b' i = b i) → Offered s P dead evs →
      Q (!dead) (s.framed b' n dead) (h ++ evs)) :
    finishFrame.wp { s with scratch := b, txFrameSize := n } h Q := by
  have crc : Crc32.calculateMessage (b.read 0 n) = some (Crc32.messageCrc (b.read 0 n)) := by
    simp [Crc32.calculateMessage, valid]
  cases latched : s.transportDead with
  | true =>
    have same := hQ b true [] (fun _ _ => rfl) (Or.inl ⟨latched, rfl, rfl⟩)
    rw [List.append_nil] at same
    simpa [finishFrame, latched, Session.framed] using same
  | false =>
    have behind (i : ℕ) (hi : headerSize ≤ i) :
        b.write Crc32.crcOffset (le32 (Crc32.messageCrc (b.read 0 n))) i = b i := by
      apply Buffer.write_apply_of_not_mem
      rw [le32_length]
      exact Or.inr hi
    have sent (accepted : Bool) :=
      hQ (b.write Crc32.crcOffset (le32 (Crc32.messageCrc (b.read 0 n)))) _ _ behind
      (Or.inr ⟨latched, _, accepted, hP, rfl, rfl⟩)
    simp only [finishFrame, Action.wp_bind, getSession_wp, crc, Bool.false_eq_true, if_false,
      updateSession_wp, txSink_wp]
    intro accepted
    cases accepted with
    | true => exact sent true
    | false => exact sent false

/-- Offering a report. -/
theorem finishFrame_report {Q : Bool → Session → SessionHistory → Prop} {P : List UInt8 → Prop}
    {r : Report} (head : b.read 0 8 = headerBytes r.kind r.opcode r.requestId)
    (body : b.read headerSize r.payload.length = r.payload)
    (length : n = headerSize + r.payload.length) (valid : isValidMessageSize n) (hP : P r.frame)
    (hQ : ∀ b' dead evs, (∀ i, headerSize ≤ i → b' i = b i) → Offered s P dead evs →
      Q (!dead) (s.framed b' n dead) (h ++ evs)) :
    finishFrame.wp { s with scratch := b, txFrameSize := n } h Q := by
  apply finishFrame_sealed valid _ hQ
  rw [sealedFrame_eq_sealMessage head body length]
  exact hP

end SidpClient
