import SidpClient.FieldReaders
import SidpClient.ServedRequests
import SidpClient.HitAttribution

/-! RUN accepts exactly the encodings of the configurations that fit the session, and sets the
target up as they say. -/
namespace SidpClient
open LittleEndian Interactive

/-! Tables of structures of one size. -/

section
variable {α : Type} {parse : List UInt8 → α} {write : α → List UInt8} {size : ℕ}

theorem parseTable_succ (bytes : List UInt8) (count : ℕ) :
    parseTable parse size bytes (count + 1) =
      parse (slice bytes 0 size) :: parseTable parse size (bytes.drop size) count := by
  have later (index : ℕ) : slice bytes ((index + 1) * size) size = slice (bytes.drop size)
      (index * size) size := by
    rw [slice, slice, List.drop_drop, Nat.succ_mul, Nat.add_comm]
  rw [parseTable, List.range_succ_eq_map, List.map_cons, List.map_map, Nat.zero_mul]
  exact congrArg _ (List.map_congr_left fun index _ => congrArg parse (later index))

/-- A table that was written is read back. -/
theorem parseTable_flatMap (length : ∀ a, (write a).length = size)
    (inverse : ∀ a, parse (write a) = a) (as : List α) (rest : List UInt8) :
    parseTable parse size (as.flatMap write ++ rest) as.length = as := by
  induction as with
  | nil => rfl
  | cons a as ih =>
    rw [List.flatMap_cons, List.append_assoc, List.length_cons, parseTable_succ,
      slice_zero_append _ (length a), List.drop_left' (length a), inverse, ih]

/-- A table that was read is written back. -/
theorem flatMap_parseTable (inverse : ∀ bytes, bytes.length = size → write (parse bytes) = bytes)
    (bytes : List UInt8) (count : ℕ) (room : count * size ≤ bytes.length) :
    (parseTable parse size bytes count).flatMap write = bytes.take (count * size) := by
  induction count generalizing bytes with
  | zero =>
    rw [Nat.zero_mul]
    rfl
  | succ count ih =>
    rw [Nat.succ_mul] at room
    have first : (slice bytes 0 size).length = size := slice_length bytes 0 size (by omega)
    have behind := ih (bytes.drop size) (by rw [List.length_drop]; omega)
    rw [parseTable_succ, List.flatMap_cons, inverse _ first, behind, slice, List.drop_zero,
      Nat.succ_mul, Nat.add_comm (count * size), List.take_add]

theorem parseTable_map {β : Type} (f : α → β) (bytes : List UInt8) (count : ℕ) :
    (parseTable parse size bytes count).map f = parseTable (f ∘ parse) size bytes count := by
  rw [parseTable, parseTable, List.map_map]
  rfl

/-- The length of a table that was written. -/
theorem flatMap_length (length : ∀ a, (write a).length = size) (as : List α) :
    (as.flatMap write).length = as.length * size := by
  induction as with
  | nil => simp
  | cons a as ih =>
    rw [List.flatMap_cons, List.length_append, length, ih, List.length_cons, Nat.succ_mul]
    omega

theorem parseTable_length (bytes : List UInt8) (count : ℕ) :
    (parseTable parse size bytes count).length = count := by
  rw [parseTable, List.length_map, List.length_range]

end

/-! The wire format. -/

def Breakpoint.bytes (bp : Breakpoint) : List UInt8 :=
  le32 bp.breakpointId ++ (le64 bp.address ++ [bp.kind, bp.instructionSize,
    bp.enabled, bp.temporary])

theorem Breakpoint.bytes_length (bp : Breakpoint) : bp.bytes.length = breakpointSize := by
  simp [Breakpoint.bytes, breakpointSize]

theorem Breakpoint.parse_bytes (bp : Breakpoint) : Breakpoint.parse bp.bytes = bp := by
  have id : bp.bytes.drop 0 = le32 bp.breakpointId ++ _ := rfl
  have address := drop_behind id (le32_length _) (Nat.zero_add 4)
  have kind := drop_behind address (le64_length _) (show 4 + 8 = 12 from rfl)
  have size := drop_behind_u8 kind
  have enabled := drop_behind_u8 size
  have temporary := drop_behind_u8 enabled
  rw [Breakpoint.parse, getU32_at id, getU64_at address, getU8_at kind, getU8_at size,
    getU8_at enabled, getU8_at temporary]

theorem Breakpoint.bytes_parse {bytes : List UInt8} (length : bytes.length = breakpointSize) :
    (Breakpoint.parse bytes).bytes = bytes := by
  simp only [breakpointSize] at length
  have last : bytes.drop 16 = [] := List.drop_eq_nil_of_le (by omega)
  calc
    (Breakpoint.parse bytes).bytes = le32 (getU32 bytes 0) ++ (le64 (getU64 bytes 4) ++
        (getU8 bytes 12 ::
          getU8 bytes 13 :: getU8 bytes 14 :: getU8 bytes 15 :: bytes.drop 16)) := by
      rw [last]
      rfl
    _ = bytes.drop 0 := by
      rw [← drop_u8 (by omega), ← drop_u8 (by omega), ← drop_u8 (by omega), ← drop_u8 (by omega),
        ← drop_u64 (by omega), ← drop_u32 (by omega)]
    _ = bytes := List.drop_zero

/-- A watchpoint with its reserved byte. -/
structure WireWatchpoint where
  watchpoint : Watchpoint
  reserved : UInt8

def WireWatchpoint.parse (bytes : List UInt8) : WireWatchpoint where
  watchpoint := Watchpoint.parse bytes
  reserved := getU8 bytes 15

def WireWatchpoint.bytes (w : WireWatchpoint) : List UInt8 :=
  le32 w.watchpoint.watchpointId ++ (le64 w.watchpoint.address ++
    [w.watchpoint.access, w.watchpoint.size, w.watchpoint.enabled, w.reserved])

theorem WireWatchpoint.bytes_length (w : WireWatchpoint) : w.bytes.length = watchpointSize := by
  simp [WireWatchpoint.bytes, watchpointSize]

theorem WireWatchpoint.parse_bytes (w : WireWatchpoint) : WireWatchpoint.parse w.bytes = w := by
  have id : w.bytes.drop 0 = le32 w.watchpoint.watchpointId ++ _ := rfl
  have address := drop_behind id (le32_length _) (Nat.zero_add 4)
  have access := drop_behind address (le64_length _) (show 4 + 8 = 12 from rfl)
  have size := drop_behind_u8 access
  have enabled := drop_behind_u8 size
  have reserved := drop_behind_u8 enabled
  rw [WireWatchpoint.parse, Watchpoint.parse, getU32_at id, getU64_at address, getU8_at access,
    getU8_at size, getU8_at enabled, getU8_at reserved]

theorem WireWatchpoint.bytes_parse {bytes : List UInt8} (length : bytes.length = watchpointSize) :
    (WireWatchpoint.parse bytes).bytes = bytes := by
  simp only [watchpointSize] at length
  have last : bytes.drop 16 = [] := List.drop_eq_nil_of_le (by omega)
  calc
    (WireWatchpoint.parse bytes).bytes = le32 (getU32 bytes 0) ++ (le64 (getU64 bytes 4) ++
        (getU8 bytes 12 ::
          getU8 bytes 13 :: getU8 bytes 14 :: getU8 bytes 15 :: bytes.drop 16)) := by
      rw [last]
      rfl
    _ = bytes.drop 0 := by
      rw [← drop_u8 (by omega), ← drop_u8 (by omega), ← drop_u8 (by omega), ← drop_u8 (by omega),
        ← drop_u64 (by omega), ← drop_u32 (by omega)]
    _ = bytes := List.drop_zero

/-- What a RUN request says, the fields that nothing reads included. -/
structure RunConfiguration where
  stopId : UInt32
  coreId : UInt16
  action : UInt8
  flags : UInt8
  vectorCatchMask : UInt32
  runToAddress : UInt64
  breakpoints : List Breakpoint
  watchpoints : List WireWatchpoint

namespace RunConfiguration

/-- Both tables can be counted. -/
def Countable (cfg : RunConfiguration) : Prop :=
  cfg.breakpoints.length < 2 ^ 16 ∧ cfg.watchpoints.length < 2 ^ 16

/-- Its fixed part. -/
def request (cfg : RunConfiguration) : RunRequest where
  stopId := cfg.stopId
  coreId := cfg.coreId
  action := cfg.action
  vectorCatchMask := cfg.vectorCatchMask
  runToAddress := cfg.runToAddress
  breakpointCount := UInt16.ofNat cfg.breakpoints.length
  watchpointCount := UInt16.ofNat cfg.watchpoints.length

def tables (cfg : RunConfiguration) : List UInt8 :=
  cfg.breakpoints.flatMap Breakpoint.bytes ++ cfg.watchpoints.flatMap WireWatchpoint.bytes

/-- The payload of a RUN request. -/
def bytes (cfg : RunConfiguration) : List UInt8 :=
  le32 cfg.stopId ++ (le16 cfg.coreId ++ (cfg.action :: cfg.flags :: (le32 cfg.vectorCatchMask ++
    (le64 cfg.runToAddress ++ (le16 (UInt16.ofNat cfg.breakpoints.length) ++
      (le16 (UInt16.ofNat cfg.watchpoints.length) ++ cfg.tables))))))

def parse (payload : List UInt8) : RunConfiguration where
  stopId := getU32 payload 0
  coreId := getU16 payload 4
  action := getU8 payload 6
  flags := getU8 payload 7
  vectorCatchMask := getU32 payload 8
  runToAddress := getU64 payload 12
  breakpoints := parseTable Breakpoint.parse breakpointSize (payload.drop runRequestSize)
    (getU16 payload 20).toNat
  watchpoints := parseTable WireWatchpoint.parse watchpointSize
    (payload.drop (runRequestSize + (getU16 payload 20).toNat * breakpointSize))
    (getU16 payload 22).toNat

variable {cfg : RunConfiguration}

theorem tables_length (cfg : RunConfiguration) : cfg.tables.length =
    cfg.breakpoints.length * breakpointSize + cfg.watchpoints.length * watchpointSize := by
  rw [tables, List.length_append, flatMap_length Breakpoint.bytes_length,
    flatMap_length WireWatchpoint.bytes_length]

theorem bytes_length (cfg : RunConfiguration) : cfg.bytes.length = runRequestSize +
    cfg.breakpoints.length * breakpointSize + cfg.watchpoints.length * watchpointSize := by
  simp only [bytes, List.length_append, List.length_cons, le16_length, le32_length, le64_length,
    tables_length, runRequestSize]
  omega

/-- A configuration that was written is read back. -/
theorem parse_bytes (countable : cfg.Countable) : parse cfg.bytes = cfg := by
  have stop : cfg.bytes.drop 0 = le32 cfg.stopId ++ _ := rfl
  have core := drop_behind stop (le32_length _) (Nat.zero_add 4)
  have action := drop_behind core (le16_length _) (show 4 + 2 = 6 from rfl)
  have flags := drop_behind_u8 action
  have vectors := drop_behind_u8 flags
  have address := drop_behind vectors (le32_length _) (show 8 + 4 = 12 from rfl)
  have bps := drop_behind address (le64_length _) (show 12 + 8 = 20 from rfl)
  have wps := drop_behind bps (le16_length _) (show 20 + 2 = 22 from rfl)
  have tables : cfg.bytes.drop runRequestSize = cfg.tables := drop_behind wps (le16_length _) rfl
  have bpCount : (getU16 cfg.bytes 20).toNat = cfg.breakpoints.length := by
    rw [getU16_at bps, UInt16.toNat_ofNat', Nat.mod_eq_of_lt countable.1]
  have wpCount : (getU16 cfg.bytes 22).toNat = cfg.watchpoints.length := by
    rw [getU16_at wps, UInt16.toNat_ofNat', Nat.mod_eq_of_lt countable.2]
  have bpTable : parseTable Breakpoint.parse breakpointSize cfg.tables cfg.breakpoints.length =
      cfg.breakpoints :=
    parseTable_flatMap Breakpoint.bytes_length Breakpoint.parse_bytes _ _
  have behind : cfg.bytes.drop (runRequestSize + cfg.breakpoints.length * breakpointSize) =
      cfg.watchpoints.flatMap WireWatchpoint.bytes ++ [] := by
    rw [List.append_nil]
    exact drop_behind tables (flatMap_length Breakpoint.bytes_length _) rfl
  have wpTable : parseTable WireWatchpoint.parse watchpointSize
      (cfg.watchpoints.flatMap WireWatchpoint.bytes ++ []) cfg.watchpoints.length =
      cfg.watchpoints :=
    parseTable_flatMap WireWatchpoint.bytes_length WireWatchpoint.parse_bytes _ _
  rw [parse, bpCount, wpCount, tables, bpTable, behind, wpTable, getU32_at stop, getU16_at core,
    getU8_at action, getU8_at flags, getU32_at vectors, getU64_at address]

/-- A payload of the right length is what was written. -/
theorem bytes_parse {payload : List UInt8} (length : payload.length = runRequestSize +
    (getU16 payload 20).toNat * breakpointSize + (getU16 payload 22).toNat * watchpointSize) :
    (parse payload).bytes = payload := by
  have counts (n : UInt16) : UInt16.ofNat n.toNat = n := UInt16.ofNat_toNat
  have bpTable := flatMap_parseTable (α := Breakpoint) (fun _ => Breakpoint.bytes_parse)
    (payload.drop runRequestSize) (getU16 payload 20).toNat (by rw [List.length_drop]; omega)
  have wpTable := flatMap_parseTable (α := WireWatchpoint) (fun _ => WireWatchpoint.bytes_parse)
    (payload.drop (runRequestSize + (getU16 payload 20).toNat * breakpointSize))
    (getU16 payload 22).toNat
    (by rw [List.length_drop]; omega)
  have rest : (payload.drop (runRequestSize + (getU16 payload 20).toNat * breakpointSize)).take
      ((getU16 payload 22).toNat * watchpointSize) =
        payload.drop (runRequestSize + (getU16 payload 20).toNat * breakpointSize) := by
    apply List.take_of_length_le
    rw [List.length_drop]
    omega
  have tables : (parse payload).tables = payload.drop 24 := by
    rw [RunConfiguration.tables, parse]
    simp only
    rw [bpTable, wpTable, rest, ← List.drop_drop]
    exact List.take_append_drop ..
  simp only [runRequestSize] at length
  calc
    (parse payload).bytes = le32 (getU32 payload 0) ++
    (le16 (getU16 payload 4) ++ (getU8 payload 6 ::
        getU8 payload 7 :: (le32 (getU32 payload 8) ++
          (le64 (getU64 payload 12) ++ (le16 (getU16 payload 20) ++
            (le16 (getU16 payload 22) ++ payload.drop 24)))))) := by
      rw [bytes, tables]
      simp only [parse, parseTable_length, counts]
    _ = payload.drop 0 := by
      rw [← drop_u16 (by omega), ← drop_u16 (by omega), ← drop_u64 (by omega),
        ← drop_u32 (by omega), ← drop_u8 (by omega), ← drop_u8 (by omega), ← drop_u16 (by omega),
          ← drop_u32 (by omega)]
    _ = payload := List.drop_zero

end RunConfiguration

/-! What fits a session. -/

/-- A breakpoint that can be set: a comparator anywhere in code, a patch only in writable code. -/
structure Breakpoint.Valid (bp : Breakpoint) (s : Session) : Prop where
  named : bp.breakpointId ≠ 0
  enabled : bp.enabled = 1
  even : bp.address &&& 1 = 0
  placed : (bp.kind = BreakpointKind.hardware ∧ bp.instructionSize = 0 ∧
      isExecutableRange s.regions bp.address 2 false = true) ∨
    (bp.kind = BreakpointKind.software ∧ (bp.instructionSize = 2 ∨ bp.instructionSize = 4) ∧
      isExecutableRange s.regions bp.address bp.instructionSize.toUInt64 true = true)

structure Watchpoint.Valid (wp : Watchpoint) : Prop where
  named : wp.watchpointId ≠ 0
  enabled : wp.enabled = 1
  access : wp.access = WatchAccess.read ∨ wp.access = WatchAccess.write ∨
    wp.access = WatchAccess.readWrite
  size : wp.size = 1 ∨ wp.size = 2 ∨ wp.size = 4
  aligned : wp.address % wp.size.toUInt64 = 0

def Watchpoint.entry (wp : Watchpoint) :
    WpEntry := ⟨wp.watchpointId, wp.address, wp.access, wp.size⟩

namespace RunConfiguration
variable {cfg : RunConfiguration} {s : Session}

def hardware (cfg : RunConfiguration) : List Breakpoint :=
  ofKind BreakpointKind.hardware cfg.breakpoints

def software (cfg : RunConfiguration) : List Breakpoint :=
  ofKind BreakpointKind.software cfg.breakpoints

/-- The fixed part fits: a known action of this halt, with a target just where it needs one. -/
structure Directed (cfg : RunConfiguration) (s : Session) : Prop where
  core : cfg.coreId = 0
  stop : cfg.stopId = s.stopId
  action : cfg.action = RunAction.continueRun ∨ cfg.action = RunAction.singleStep ∨
    cfg.action = RunAction.toAddress
  target : cfg.action = RunAction.toAddress ↔ cfg.runToAddress ≠ 0
  code : cfg.action = RunAction.toAddress →
    cfg.runToAddress &&& 1 = 0 ∧ isExecutableRange s.regions cfg.runToAddress 2 false = true
  step : cfg.action = RunAction.singleStep → s.hasCapability Cap.singleStep = true
  vectors : cfg.vectorCatchMask &&& ~~~s.supportedVectorCatch = 0

/-- The tables fit the resources, with one more comparator for RUN_TO_ADDRESS unless one has its
address. -/
structure Equipped (cfg : RunConfiguration) (s : Session) : Prop where
  breakpoints : ∀ bp ∈ cfg.breakpoints, bp.Valid s
  most : cfg.breakpoints.length ≤ maxHardwareBreakpoints + maxSoftwareBreakpoints
  comparators : cfg.hardware ≠ [] → s.hasCapability Cap.hardwareBp = true
  hardware : cfg.hardware.length ≤ s.hardwareBreakpointLimit.toNat
  patches : cfg.software ≠ [] → s.hasCapability Cap.softwareBp = true
  software : cfg.software.length ≤ maxSoftwareBreakpoints
  runTo : cfg.action = RunAction.toAddress → s.hasCapability Cap.hardwareBp = true ∧
    ((∃ bp ∈ cfg.hardware, bp.address = cfg.runToAddress) ∨
      cfg.hardware.length < s.hardwareBreakpointLimit.toNat)
  watchpoints : ∀ w ∈ cfg.watchpoints, w.watchpoint.Valid
  watching : cfg.watchpoints ≠ [] → s.hasCapability Cap.watchpoint = true
  watched : cfg.watchpoints.length ≤ s.hardwareWatchpointLimit.toNat ∧
    cfg.watchpoints.length ≤ maxHardwareWatchpoints

/-- The session can run like this. -/
structure Valid (cfg : RunConfiguration) (s : Session) : Prop where
  directed : cfg.Directed s
  equipped : cfg.Equipped s

def plan (cfg : RunConfiguration) : RunPlan where
  request := cfg.request
  hwEntries := cfg.hardware.map Breakpoint.entry
  swEntries := cfg.software.map Breakpoint.entry
  wpEntries := cfg.watchpoints.map fun w => w.watchpoint.entry

end RunConfiguration

/-! The checks of `op_run`, one by one. -/

variable {s : Session} {payload : List UInt8}

theorem collectWatchpoint_iff {wp : Watchpoint} {entry : WpEntry} :
    collectWatchpoint wp = .ok entry ↔ wp.Valid ∧ entry = wp.entry := by
  simp only [collectWatchpoint, throw, throwThe, MonadExceptOf.throw]
  rw [passed_iff (by simp [bind, Except.bind]), passed_iff (by simp [bind, Except.bind])]
  simp only [not_or, ne_eq, not_and_or, not_not]
  constructor
  · rintro ⟨⟨named, enabled, access, size⟩, aligned, same⟩
    exact ⟨⟨named, enabled, access, size, aligned⟩, (Except.ok.inj same).symm⟩
  · rintro ⟨valid, rfl⟩
    exact ⟨⟨valid.named, valid.enabled, valid.access, valid.size⟩, valid.aligned, rfl⟩

theorem collectWatchpoints_iff (wps : List Watchpoint) (entries : List WpEntry) :
    wps.mapM collectWatchpoint = .ok entries ↔
      (∀ wp ∈ wps, wp.Valid) ∧ entries = wps.map Watchpoint.entry := by
  induction wps generalizing entries with
  | nil =>
    constructor
    · intro same
      exact ⟨fun _ hm => absurd hm List.not_mem_nil, (Except.ok.inj same).symm⟩
    · rintro ⟨-, rfl⟩
      rfl
  | cons wp wps ih =>
    rw [List.mapM_cons]
    constructor
    · intro same
      obtain ⟨entry, first, same⟩ := Except.bind_ok same
      obtain ⟨rest, later, same⟩ := Except.bind_ok same
      obtain ⟨valid, rfl⟩ := collectWatchpoint_iff.mp first
      obtain ⟨valids, rfl⟩ := (ih rest).mp later
      obtain rfl := Except.ok.inj same
      exact ⟨List.forall_mem_cons.mpr ⟨valid, valids⟩, rfl⟩
    · rintro ⟨valids, rfl⟩
      obtain ⟨valid, rest⟩ := List.forall_mem_cons.mp valids
      rw [collectWatchpoint_iff.mpr ⟨valid, rfl⟩, (ih _).mpr ⟨rest, rfl⟩]
      rfl

/-- A turn of the breakpoint loop. -/
theorem collectBreakpoint_iff {c c' : List BpEntry × List BpEntry} {bp : Breakpoint} :
    collectBreakpoint s c bp = .ok c' ↔ bp.Valid s ∧
      ((bp.kind = BreakpointKind.hardware ∧ s.hasCapability Cap.hardwareBp = true ∧
          c.1.length < s.hardwareBreakpointLimit.toNat ∧ c' = (c.1 ++ [bp.entry], c.2)) ∨
        (bp.kind = BreakpointKind.software ∧ s.hasCapability Cap.softwareBp = true ∧
          c.2.length ≠ maxSoftwareBreakpoints ∧ c' = (c.1, c.2 ++ [bp.entry]))) := by
  have apart : BreakpointKind.hardware ≠ BreakpointKind.software := by decide
  simp only [collectBreakpoint, throw, throwThe, MonadExceptOf.throw]
  rw [passed_iff (by simp [bind, Except.bind])]
  simp only [not_or, ne_eq, not_and_or, not_not]
  by_cases soft : bp.kind = BreakpointKind.software
  · rw [if_pos soft, passed_iff (by simp [bind, Except.bind]),
      passed_iff (by simp [bind, Except.bind]), passed_iff (by simp [bind, Except.bind])]
    simp only [not_or, not_and_or, not_not, Bool.not_eq_true', Bool.not_eq_false]
    constructor
    · rintro ⟨⟨named, enabled, -⟩, able, ⟨size, even, code⟩, room, same⟩
      exact ⟨⟨named, enabled, even, Or.inr ⟨soft, size, code⟩⟩,
        Or.inr ⟨soft, able, room, (Except.ok.inj same).symm⟩⟩
    · rintro ⟨valid, ⟨hard, -⟩ | ⟨-, able, room, rfl⟩⟩
      · exact absurd (hard.symm.trans soft) apart
      · rcases valid.placed with ⟨hard, -⟩ | ⟨-, size, code⟩
        · exact absurd (hard.symm.trans soft) apart
        · exact ⟨⟨valid.named, valid.enabled, Or.inr soft⟩, able,
            ⟨size, valid.even, code⟩, room, rfl⟩
  · rw [if_neg soft, passed_iff (by simp [bind, Except.bind]),
      passed_iff (by simp [bind, Except.bind]), passed_iff (by simp [bind, Except.bind])]
    simp only [not_or, not_not, Bool.not_eq_true', Bool.not_eq_false, ge_iff_le, not_le]
    constructor
    · rintro ⟨⟨named, enabled, kind⟩, ⟨able, -⟩, ⟨size, even, code⟩, room, same⟩
      have hard : bp.kind = BreakpointKind.hardware := kind.resolve_right soft
      exact ⟨⟨named, enabled, even, Or.inl ⟨hard, size, code⟩⟩,
        Or.inl ⟨hard, able, room, (Except.ok.inj same).symm⟩⟩
    · rintro ⟨valid, ⟨hard, able, room, rfl⟩ | ⟨soft', -⟩⟩
      · have some : s.hardwareBreakpointLimit ≠ 0 := by
          intro none
          rw [none] at room
          exact absurd room (Nat.not_lt_zero _)
        rcases valid.placed with ⟨-, size, code⟩ | ⟨soft', -⟩
        · exact ⟨⟨valid.named, valid.enabled, Or.inl hard⟩, ⟨able, some⟩,
            ⟨size, valid.even, code⟩, room, rfl⟩
        · exact absurd soft' soft
      · exact absurd soft' soft

/-- The rest of a breakpoint table fits behind what is collected already. -/
structure Collects (s : Session) (c : List BpEntry × List BpEntry) (bps : List Breakpoint) :
    Prop where
  valid : ∀ bp ∈ bps, bp.Valid s
  comparators : ofKind BreakpointKind.hardware bps ≠ [] → s.hasCapability Cap.hardwareBp = true
  hardware : c.1.length + (ofKind BreakpointKind.hardware bps).length ≤
    s.hardwareBreakpointLimit.toNat
  patches : ofKind BreakpointKind.software bps ≠ [] → s.hasCapability Cap.softwareBp = true
  software : c.2.length + (ofKind BreakpointKind.software bps).length ≤ maxSoftwareBreakpoints

/-- What the breakpoint loop collects. -/
def collection (c : List BpEntry × List BpEntry) (bps : List Breakpoint) :
    List BpEntry × List BpEntry :=
  (c.1 ++ (ofKind BreakpointKind.hardware bps).map Breakpoint.entry,
    c.2 ++ (ofKind BreakpointKind.software bps).map Breakpoint.entry)

theorem collects_hardware {c : List BpEntry × List BpEntry} {bp : Breakpoint}
    {bps : List Breakpoint} (hard : bp.kind = BreakpointKind.hardware) :
    (Collects s c (bp :: bps) ↔ bp.Valid s ∧ s.hasCapability Cap.hardwareBp = true ∧
      Collects s (c.1 ++ [bp.entry], c.2) bps) ∧
      collection c (bp :: bps) = collection (c.1 ++ [bp.entry], c.2) bps := by
  have same := ofKind_cons_same bps hard
  have other : ofKind BreakpointKind.software (bp :: bps) = ofKind BreakpointKind.software bps :=
    ofKind_cons_other bps (by rw [hard]; decide)
  have counted : (c.1 ++ [bp.entry]).length + (ofKind BreakpointKind.hardware bps).length =
      c.1.length + (ofKind BreakpointKind.hardware (bp :: bps)).length := by
    rw [same, List.length_append, List.length_singleton, List.length_cons]
    omega
  constructor
  · constructor
    · intro fits
      have able := fits.comparators (by rw [same]; exact List.cons_ne_nil _ _)
      obtain ⟨valid, valids⟩ := List.forall_mem_cons.mp fits.valid
      exact ⟨valid, able, valids, fun _ => able, counted.trans_le fits.hardware, fun some =>
        fits.patches (other ▸ some), other ▸ fits.software⟩
    · rintro ⟨valid, able, rest⟩
      exact ⟨List.forall_mem_cons.mpr ⟨valid, rest.valid⟩, fun _ => able,
        counted.symm.trans_le rest.hardware, fun some => rest.patches (other ▸ some),
          other ▸ rest.software⟩
  · rw [collection, collection, same, other, List.map_cons]
    exact congrArg (·, _) (List.append_cons ..)

theorem collects_software {c : List BpEntry × List BpEntry} {bp : Breakpoint}
    {bps : List Breakpoint} (soft : bp.kind = BreakpointKind.software) :
    (Collects s c (bp :: bps) ↔ bp.Valid s ∧ s.hasCapability Cap.softwareBp = true ∧
      Collects s (c.1, c.2 ++ [bp.entry]) bps) ∧
      collection c (bp :: bps) = collection (c.1, c.2 ++ [bp.entry]) bps := by
  have same := ofKind_cons_same bps soft
  have other : ofKind BreakpointKind.hardware (bp :: bps) = ofKind BreakpointKind.hardware bps :=
    ofKind_cons_other bps (by rw [soft]; decide)
  have counted : (c.2 ++ [bp.entry]).length + (ofKind BreakpointKind.software bps).length =
      c.2.length + (ofKind BreakpointKind.software (bp :: bps)).length := by
    rw [same, List.length_append, List.length_singleton, List.length_cons]
    omega
  constructor
  · constructor
    · intro fits
      have able := fits.patches (by rw [same]; exact List.cons_ne_nil _ _)
      obtain ⟨valid, valids⟩ := List.forall_mem_cons.mp fits.valid
      exact ⟨valid, able, valids, fun some => fits.comparators (other ▸ some),
        other ▸ fits.hardware, fun _ => able, counted.trans_le fits.software⟩
    · rintro ⟨valid, able, rest⟩
      exact ⟨List.forall_mem_cons.mpr ⟨valid, rest.valid⟩, fun some =>
        rest.comparators (other ▸ some), other ▸ rest.hardware, fun _ => able,
          counted.symm.trans_le rest.software⟩
  · rw [collection, collection, same, other, List.map_cons]
    exact congrArg (_, ·) (List.append_cons ..)

theorem collectBreakpoints_iff (bps : List Breakpoint) (c c' : List BpEntry × List BpEntry)
    (hardware : c.1.length ≤ s.hardwareBreakpointLimit.toNat)
    (software : c.2.length ≤ maxSoftwareBreakpoints) :
    bps.foldlM (collectBreakpoint s) c = .ok c' ↔ Collects s c bps ∧ c' = collection c bps := by
  induction bps generalizing c with
  | nil =>
    have nothing : collection c [] = c := by simp [collection, ofKind]
    rw [nothing]
    constructor
    · intro same
      exact ⟨⟨fun _ hm => absurd hm List.not_mem_nil, fun some => absurd rfl some, hardware,
        fun some => absurd rfl some, software⟩, (Except.ok.inj same).symm⟩
    · rintro ⟨-, rfl⟩
      rfl
  | cons bp bps ih =>
    rw [List.foldlM_cons]
    constructor
    · intro same
      obtain ⟨c₁, first, later⟩ := Except.bind_ok same
      obtain ⟨valid, ⟨hard, able, room, rfl⟩ | ⟨soft, able, room, rfl⟩⟩ :=
        collectBreakpoint_iff.mp first
      · have fits : (c.1 ++ [bp.entry]).length ≤ s.hardwareBreakpointLimit.toNat := by
          rw [List.length_append]
          exact room
        obtain ⟨rest, rfl⟩ := (ih (c.1 ++ [bp.entry], c.2) fits software).mp later
        exact ⟨(collects_hardware hard).1.mpr ⟨valid, able, rest⟩,
          (collects_hardware (s := s) hard).2.symm⟩
      · have fits : (c.2 ++ [bp.entry]).length ≤ maxSoftwareBreakpoints := by
          rw [List.length_append, List.length_singleton]
          omega
        obtain ⟨rest, rfl⟩ := (ih (c.1, c.2 ++ [bp.entry]) hardware fits).mp later
        exact ⟨(collects_software soft).1.mpr ⟨valid, able, rest⟩,
          (collects_software (s := s) soft).2.symm⟩
    · rintro ⟨fits, rfl⟩
      rcases (fits.valid bp List.mem_cons_self).placed with ⟨hard, -⟩ | ⟨soft, -⟩
      · obtain ⟨valid, able, rest⟩ := (collects_hardware hard).1.mp fits
        have counted := rest.hardware
        rw [List.length_append, List.length_singleton] at counted
        have room : c.1.length < s.hardwareBreakpointLimit.toNat := by omega
        have first := collectBreakpoint_iff.mpr ⟨valid, Or.inl ⟨hard, able, room, rfl⟩⟩
        have later :=
          (ih (c.1 ++ [bp.entry], c.2) (by rw [List.length_append]; exact room) software).mpr
          ⟨rest, (collects_hardware (s := s) hard).2⟩
        rw [first]
        exact later
      · obtain ⟨valid, able, rest⟩ := (collects_software soft).1.mp fits
        have counted := rest.software
        rw [List.length_append, List.length_singleton] at counted
        have room : c.2.length < maxSoftwareBreakpoints := by omega
        have first := collectBreakpoint_iff.mpr ⟨valid, Or.inr ⟨soft, able, room.ne, rfl⟩⟩
        have later :=
          (ih (c.1, c.2 ++ [bp.entry]) hardware (by rw [List.length_append]; exact room)).mpr
          ⟨rest, (collects_software (s := s) soft).2⟩
        rw [first]
        exact later

theorem checkRunToSlot_iff {req : RunRequest} {hwEntries : List BpEntry} :
    checkRunToSlot s req hwEntries = .ok () ↔
      (req.action = RunAction.toAddress → s.hasCapability Cap.hardwareBp = true ∧
      ((∃ entry ∈ hwEntries, entry.address = req.runToAddress) ∨
        hwEntries.length < s.hardwareBreakpointLimit.toNat)) := by
  simp only [checkRunToSlot, throw, throwThe, MonadExceptOf.throw]
  by_cases aimed : req.action = RunAction.toAddress
  · rw [if_pos aimed, passed_iff (by simp [bind, Except.bind]), passed_iff (by simp)]
    simp only [Bool.not_eq_true', Bool.not_eq_false, not_and_or, List.any_eq_true, beq_iff_eq,
      not_le, ge_iff_le]
    constructor
    · rintro ⟨able, slot, -⟩ -
      exact ⟨able, slot⟩
    · intro fits
      obtain ⟨able, slot⟩ := fits aimed
      exact ⟨able, slot, rfl⟩
  · rw [if_neg aimed]
    exact ⟨fun _ aimed' => absurd aimed' aimed, fun _ => rfl⟩

/-- The counts of a request, and its length. -/
structure Sized (payload : List UInt8) : Prop where
  length : payload.length = runRequestSize + (getU16 payload 20).toNat * breakpointSize +
    (getU16 payload 22).toNat * watchpointSize
  breakpoints : (getU16 payload 20).toNat ≤ maxHardwareBreakpoints + maxSoftwareBreakpoints
  watchpoints : (getU16 payload 22).toNat ≤ maxHardwareWatchpoints

theorem checkRunRequest_iff {req : RunRequest} : checkRunRequest s payload = .ok req ↔
    req = RunRequest.parse payload ∧ (RunConfiguration.parse payload).Directed s ∧
      Sized payload := by
  simp only [checkRunRequest, throw, throwThe, MonadExceptOf.throw]
  iterate 10 rw [passed_iff (by simp [bind, Except.bind])]
  simp only [RunRequest.parse, not_or, not_and_or, ne_eq, not_not, not_lt, gt_iff_lt,
    Bool.not_eq_true', Bool.not_eq_false]
  constructor
  · rintro ⟨least, core, stop, ⟨action, away, toward⟩, code, step, vectors, length, bps, wps, same⟩
    refine ⟨(Except.ok.inj same).symm, ⟨core, stop, by tauto, ?_, ?_, ?_, vectors⟩,
      length, bps, wps⟩
    · constructor
      · intro aimed
        exact toward.resolve_left (not_not.mpr aimed)
      · intro target
        exact away.resolve_right target
    · intro aimed
      exact code.resolve_left (not_not.mpr aimed)
    · intro single
      exact step.resolve_left (not_not.mpr single)
  · rintro ⟨rfl, directed, sized⟩
    refine ⟨?_, directed.core, directed.stop, ⟨?_, ?_, ?_⟩, ?_, ?_, directed.vectors, sized.length,
      sized.breakpoints, sized.watchpoints, rfl⟩
    · have length := sized.length
      omega
    · have action := directed.action
      simp only [RunConfiguration.parse] at action
      tauto
    · have target := directed.target
      simp only [RunConfiguration.parse] at target
      tauto
    · have target := directed.target
      simp only [RunConfiguration.parse] at target
      tauto
    · have code := directed.code
      simp only [RunConfiguration.parse] at code
      tauto
    · have step := directed.step
      simp only [RunConfiguration.parse] at step
      tauto

section
variable (payload)

theorem request_parse : RunRequest.parse payload = (RunConfiguration.parse payload).request := by
  simp only [RunRequest.parse, RunConfiguration.request, RunConfiguration.parse, parseTable_length,
    UInt16.ofNat_toNat]

theorem parse_counts :
    (RunConfiguration.parse payload).breakpoints.length = (getU16 payload 20).toNat ∧
    (RunConfiguration.parse payload).watchpoints.length = (getU16 payload 22).toNat :=
  ⟨parseTable_length _ _, parseTable_length _ _⟩

theorem parse_watchpoints :
    (RunConfiguration.parse payload).watchpoints.map WireWatchpoint.watchpoint =
    parseTable Watchpoint.parse watchpointSize
      (payload.drop (runRequestSize + (getU16 payload 20).toNat * breakpointSize))
      (getU16 payload 22).toNat :=
  parseTable_map ..

end

/-- The slot of RUN_TO_ADDRESS, by the breakpoints instead of their entries. -/
theorem slot_iff {address : UInt64} {bps : List Breakpoint} {limit : ℕ} :
    ((∃ entry ∈ bps.map Breakpoint.entry, entry.address = address) ∨
      (bps.map Breakpoint.entry).length < limit) ↔
      (∃ bp ∈ bps, bp.address = address) ∨ bps.length < limit := by
  rw [List.length_map]
  apply or_congr_left
  constructor
  · rintro ⟨entry, hm, same⟩
    obtain ⟨bp, inside, rfl⟩ := List.mem_map.mp hm
    exact ⟨bp, inside, same⟩
  · rintro ⟨bp, hm, same⟩
    exact ⟨bp.entry, List.mem_map_of_mem hm, same⟩

theorem checkRun_parse_iff {plan : RunPlan} : checkRun s payload = .ok plan ↔
    payload.length = runRequestSize + (getU16 payload 20).toNat * breakpointSize +
        (getU16 payload 22).toNat * watchpointSize ∧
      (RunConfiguration.parse payload).Valid s ∧ plan = (RunConfiguration.parse payload).plan := by
  obtain ⟨bpCount, wpCount⟩ := parse_counts payload
  have wps := parse_watchpoints payload
  have request := request_parse payload
  generalize hcfg : RunConfiguration.parse payload = cfg at bpCount wpCount wps request ⊢
  have bps : parseTable Breakpoint.parse breakpointSize (payload.drop runRequestSize)
      (getU16 payload 20).toNat = cfg.breakpoints := by
    rw [← hcfg]
    rfl
  constructor
  · intro accepted
    -- every check that can refuse has passed, in the source's order
    obtain ⟨req, hreq, accepted⟩ := Except.bind_ok accepted
    obtain ⟨rfl, directed, sized⟩ := checkRunRequest_iff.mp hreq
    rw [hcfg] at directed
    obtain ⟨⟨hwEntries, swEntries⟩, hbps, accepted⟩ := Except.bind_ok accepted
    obtain ⟨collects, hentries⟩ :=
      (collectBreakpoints_iff cfg.breakpoints ([], []) (hwEntries, swEntries)
      (Nat.zero_le _) (Nat.zero_le _)).mp (bps ▸ hbps)
    obtain ⟨rfl, rfl⟩ := Prod.mk.inj hentries
    obtain ⟨_, hslot, accepted⟩ := Except.bind_ok accepted
    have slot := checkRunToSlot_iff.mp hslot
    simp only [throw, throwThe, MonadExceptOf.throw, List.nil_append, slot_iff] at accepted slot
    obtain ⟨watching, accepted⟩ := passed accepted (by simp [bind, Except.bind])
    obtain ⟨watched, accepted⟩ := passed accepted (by simp [bind, Except.bind])
    obtain ⟨wpEntries, hwps, accepted⟩ := Except.bind_ok accepted
    obtain ⟨watchpoints, rfl⟩ := (collectWatchpoints_iff _ _).mp hwps
    obtain rfl := Except.ok.inj accepted
    have hardware := collects.hardware
    have software := collects.software
    rw [List.length_nil, Nat.zero_add] at hardware software
    refine ⟨sized.length, ⟨directed, collects.valid, bpCount.trans_le sized.breakpoints,
      collects.comparators, hardware, collects.patches, software, ?_, ?_, ?_, ?_,
        wpCount.trans_le sized.watchpoints⟩, ?_⟩
    · rw [request] at slot
      exact slot
    · intro w hm
      apply watchpoints
      change w.watchpoint ∈ parseTable Watchpoint.parse watchpointSize
        (payload.drop (runRequestSize + (getU16 payload 20).toNat * breakpointSize))
        (getU16 payload 22).toNat
      rw [← wps]
      exact List.mem_map_of_mem hm
    · intro some
      by_contra unable
      apply watching
      refine ⟨fun none => some ?_, by simpa using unable⟩
      have zero : getU16 payload 22 = 0 := none
      rw [← List.length_eq_zero_iff, wpCount, zero]
      rfl
    · have most : ¬s.hardwareWatchpointLimit < getU16 payload 22 := watched
      rw [UInt16.lt_iff_toNat_lt, not_lt] at most
      exact wpCount.trans_le most
    · rw [RunConfiguration.plan, ← request]
      change RunPlan.mk _ _ _ ((parseTable Watchpoint.parse watchpointSize
        (payload.drop (runRequestSize + (getU16 payload 20).toNat * breakpointSize))
        (getU16 payload 22).toNat).map
          Watchpoint.entry) = _
      rw [← wps, List.map_map]
      rfl
  · rintro ⟨length, ⟨directed, equipped⟩, rfl⟩
    -- a valid configuration passes each of them
    have sized : Sized payload := ⟨length, bpCount.symm.trans_le equipped.most,
        wpCount.symm.trans_le equipped.watched.2⟩
    have hreq : checkRunRequest s payload = .ok (RunRequest.parse payload) := by
      apply checkRunRequest_iff.mpr
      rw [hcfg]
      exact ⟨rfl, directed, sized⟩
    have collects : Collects s ([], []) cfg.breakpoints := by
      refine ⟨equipped.breakpoints, equipped.comparators, ?_, equipped.patches, ?_⟩
      · rw [List.length_nil, Nat.zero_add]
        exact equipped.hardware
      · rw [List.length_nil, Nat.zero_add]
        exact equipped.software
    have hbps : cfg.breakpoints.foldlM (collectBreakpoint s) ([], []) =
        .ok (cfg.hardware.map Breakpoint.entry, cfg.software.map Breakpoint.entry) :=
      (collectBreakpoints_iff cfg.breakpoints ([], []) _ (Nat.zero_le _) (Nat.zero_le _)).mpr
      ⟨collects, rfl⟩
    have hslot : checkRunToSlot s (RunRequest.parse payload)
        (cfg.hardware.map Breakpoint.entry) = .ok () := by
      rw [checkRunToSlot_iff, slot_iff, request]
      exact equipped.runTo
    have hwps : (cfg.watchpoints.map WireWatchpoint.watchpoint).mapM collectWatchpoint =
        .ok (cfg.watchpoints.map fun w => w.watchpoint.entry) := by
      rw [collectWatchpoints_iff, List.map_map]
      refine ⟨fun wp hm => ?_, rfl⟩
      obtain ⟨w, inside, rfl⟩ := List.mem_map.mp hm
      exact equipped.watchpoints w inside
    have watching : ¬(getU16 payload 22 ≠ 0 ∧ !s.hasCapability Cap.watchpoint) := by
      rintro ⟨some, unable⟩
      have none : cfg.watchpoints = [] := by
        by_contra hne
        exact absurd (equipped.watching hne) (by simpa using unable)
      apply some
      rw [← UInt16.toNat_inj, ← wpCount, none]
      rfl
    have watched : ¬getU16 payload 22 > s.hardwareWatchpointLimit := by
      rw [gt_iff_lt, UInt16.lt_iff_toNat_lt, not_lt, ← wpCount]
      exact equipped.watched.1
    rw [← bps] at hbps
    rw [wps] at hwps
    rw [RunConfiguration.plan, ← request, checkRun, hreq]
    change (List.foldlM (collectBreakpoint s) ([], []) (parseTable Breakpoint.parse breakpointSize
      (payload.drop runRequestSize) (getU16 payload 20).toNat) >>= _) = _
    rw [hbps]
    change (checkRunToSlot s (RunRequest.parse payload) (cfg.hardware.map Breakpoint.entry) >>=
      _) = _
    rw [hslot]
    change (if getU16 payload 22 ≠ 0 ∧ !s.hasCapability Cap.watchpoint then _ else
      if getU16 payload 22 > s.hardwareWatchpointLimit then _ else List.mapM collectWatchpoint
        (parseTable Watchpoint.parse
        watchpointSize (payload.drop (runRequestSize + (getU16 payload 20).toNat * breakpointSize))
          (getU16 payload 22).toNat) >>= _) = _
    rw [if_neg watching, if_neg watched, hwps]
    rfl

theorem RunConfiguration.Valid.countable {cfg : RunConfiguration} (valid : cfg.Valid s) :
    cfg.Countable := by
  have most := valid.equipped.most
  have watched := valid.equipped.watched.2
  simp only [maxHardwareBreakpoints, maxSoftwareBreakpoints, maxHardwareWatchpoints] at most watched
  exact ⟨by omega, by omega⟩

theorem RunConfiguration.bytes_injective {cfg cfg' : RunConfiguration} (countable : cfg.Countable)
    (countable' : cfg'.Countable) (same : cfg.bytes = cfg'.bytes) : cfg = cfg' := by
  rw [← RunConfiguration.parse_bytes countable, same, RunConfiguration.parse_bytes countable']

/-- A RUN is accepted exactly if its payload encodes a configuration that fits the session, and then
that one is what is installed. -/
theorem checkRun_iff {plan : RunPlan} :
    checkRun s payload = .ok plan ↔ ∃ cfg : RunConfiguration,
      cfg.Valid s ∧ payload = cfg.bytes ∧ plan = cfg.plan := by
  rw [checkRun_parse_iff]
  constructor
  · rintro ⟨length, valid, rfl⟩
    exact ⟨_, valid, (RunConfiguration.bytes_parse length).symm, rfl⟩
  · rintro ⟨cfg, valid, rfl, rfl⟩
    have read := RunConfiguration.parse_bytes valid.countable
    obtain ⟨bpCount, wpCount⟩ := parse_counts cfg.bytes
    rw [read] at bpCount wpCount ⊢
    rw [← bpCount, ← wpCount]
    exact ⟨cfg.bytes_length, valid, rfl⟩

end SidpClient
