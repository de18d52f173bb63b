import SidpClient.SessionHandlers
import SidpClient.MemoryMapSpecs

/-! What a request has shown when its checks let it through. -/
namespace SidpClient
open LittleEndian

theorem Except.bind_ok {ε α β : Type} {x : Except ε α} {f : α → Except ε β} {b : β}
    (h : (x >>= f) = .ok b) : ∃ a, x = .ok a ∧ f a = .ok b := by
  cases x with
  | error e => exact nomatch h
  | ok a => exact ⟨a, rfl, h⟩

theorem Patchable.bound {regions : List MemoryRegion} {address : UInt64} {size : ℕ}
    (hp : Patchable regions address size) : address.toNat + size < 2 ^ 64 := by
  obtain ⟨region, -, covers, -⟩ := hp
  exact lt_of_le_of_lt covers.stop covers.bound

/-- A requested breakpoint the attached map can hold. -/
def Requestable (regions : List MemoryRegion) (entry : BpEntry) : Prop :=
  (entry.instructionSize = 2 ∨ entry.instructionSize = 4) ∧
    Patchable regions entry.address entry.instructionSize.toNat

theorem collectBreakpoint_ok {s : Session} {c c' : List BpEntry × List BpEntry} {bp : Breakpoint}
    (hc : collectBreakpoint s c bp = .ok c') :
    c'.2 = c.2 ∨ (c'.2 = c.2 ++ [bp.entry] ∧ Requestable s.regions bp.entry ∧
      bp.entry.address &&& 1 = 0) := by
  simp only [collectBreakpoint, bind, Except.bind, pure, Except.pure, throw, throwThe,
    MonadExceptOf.throw] at hc
  obtain ⟨-, hc⟩ := passed hc (by simp)
  by_cases hk : bp.kind = BreakpointKind.software
  · rw [if_pos hk] at hc
    obtain ⟨-, hc⟩ := passed hc (by simp)
    obtain ⟨hplace, hc⟩ := passed hc (by simp)
    obtain ⟨-, hc⟩ := passed hc (by simp)
    obtain rfl := Except.ok.inj hc
    obtain ⟨hsize, haligned, hrange⟩ := by simpa only [not_or] using hplace
    refine Or.inr ⟨rfl, ⟨by_contra fun hn => hsize (not_or.mp hn), ?_⟩, not_not.mp haligned⟩
    have hp := isExecutableRange_patchable (by simpa using hrange)
    rwa [UInt8.toNat_toUInt64] at hp
  · rw [if_neg hk] at hc
    obtain ⟨-, hc⟩ := passed hc (by simp)
    obtain ⟨-, hc⟩ := passed hc (by simp)
    obtain ⟨-, hc⟩ := passed hc (by simp)
    obtain rfl := Except.ok.inj hc
    exact Or.inl rfl

theorem collectBreakpoints_ok {s : Session} (bps : List Breakpoint)
    {c c' : List BpEntry × List BpEntry} (hc : bps.foldlM (collectBreakpoint s) c = .ok c')
    (hr : ∀ entry ∈ c.2, Requestable s.regions entry ∧ entry.address &&& 1 = 0) :
    ∀ entry ∈ c'.2, Requestable s.regions entry ∧ entry.address &&& 1 = 0 := by
  induction bps generalizing c with
  | nil =>
    obtain rfl := Except.ok.inj hc
    exact hr
  | cons bp bps ih =>
    rw [List.foldlM_cons] at hc
    obtain ⟨c₁, hstep, hrest⟩ := Except.bind_ok hc
    refine ih hrest fun entry hm => ?_
    rcases collectBreakpoint_ok hstep with he | ⟨he, hb⟩
    · exact hr entry (he ▸ hm)
    · rw [he] at hm
      rcases List.mem_append.mp hm with hm | hm
      · exact hr entry hm
      · rw [List.mem_singleton.mp hm]
        exact hb

theorem checkRunRequest_ok {s : Session} {payload : List UInt8} {req : RunRequest}
    (hc : checkRunRequest s payload = .ok req) :
    req = RunRequest.parse payload ∧ req.stopId = s.stopId := by
  simp only [checkRunRequest, bind, Except.bind, pure, Except.pure, throw, throwThe,
    MonadExceptOf.throw] at hc
  obtain ⟨-, hc⟩ := passed hc (by simp)
  obtain ⟨-, hc⟩ := passed hc (by simp)
  obtain ⟨hstop, hc⟩ := passed hc (by simp)
  obtain ⟨-, hc⟩ := passed hc (by simp)
  obtain ⟨-, hc⟩ := passed hc (by simp)
  obtain ⟨-, hc⟩ := passed hc (by simp)
  obtain ⟨-, hc⟩ := passed hc (by simp)
  obtain ⟨-, hc⟩ := passed hc (by simp)
  obtain ⟨-, hc⟩ := passed hc (by simp)
  obtain ⟨-, hc⟩ := passed hc (by simp)
  obtain rfl := Except.ok.inj hc
  exact ⟨rfl, by simpa using hstop⟩

theorem checkRun_ok {s : Session} {payload : List UInt8} {plan : RunPlan}
    (hc : checkRun s payload = .ok plan) :
    plan.request = RunRequest.parse payload ∧ plan.request.stopId = s.stopId ∧
      ∀ entry ∈ plan.swEntries, Requestable s.regions entry ∧ entry.address &&& 1 = 0 := by
  obtain ⟨req, hreq, hc⟩ := Except.bind_ok hc
  obtain ⟨⟨hwEntries, swEntries⟩, hbps, hc⟩ := Except.bind_ok hc
  obtain ⟨_, -, hc⟩ := Except.bind_ok hc
  simp only [bind, Except.bind, pure, Except.pure, throw, throwThe, MonadExceptOf.throw] at hc
  obtain ⟨-, hc⟩ := passed hc (by simp)
  obtain ⟨-, hc⟩ := passed hc (by simp)
  obtain ⟨wpEntries, -, hc⟩ := Except.bind_ok hc
  obtain rfl := Except.ok.inj hc
  obtain ⟨hparse, hstop⟩ := checkRunRequest_ok hreq
  exact ⟨hparse, hstop, collectBreakpoints_ok _ hbps (by simp)⟩

/-- What REQUIRE_HALTED means to a memory request that passed. -/
def StopBound (s : Session) (req : MemoryRequest) : Prop :=
  req.flags &&& MemAccess.requireHalted ≠ 0 → s.state = .halted ∧ req.stopId = s.stopId

theorem checkStopMode_ok {s : Session} {req : MemoryRequest} (hc : checkStopMode s req = .ok ()) :
    StopBound s req := by
  intro hflag
  simp only [checkStopMode, bind, Except.bind, pure, Except.pure, throw, throwThe,
    MonadExceptOf.throw] at hc
  rw [if_pos hflag] at hc
  obtain ⟨hstate, hc⟩ := passed hc (by simp)
  obtain ⟨hstop, -⟩ := passed hc (by simp)
  exact ⟨by simpa using hstate, by simpa using hstop⟩

theorem checkReadMemory_ok {s : Session} {payload : List UInt8} {req : MemoryRequest}
    (hc : checkReadMemory s payload = .ok req) :
    req = MemoryRequest.parse payload ∧ StopBound s req ∧
      req.length.toNat ≤ maxFrameSize - headerSize - readMemoryResponseSize ∧
      validateMemoryAccess s.regions req.address req.length req.flags req.accessWidth
        false = .ok := by
  simp only [checkReadMemory, throw, throwThe, MonadExceptOf.throw] at hc
  obtain ⟨-, hc⟩ := passed hc (by simp [bind, Except.bind])
  obtain ⟨-, hc⟩ := passed hc (by simp [bind, Except.bind])
  obtain ⟨_, hmode, hc⟩ := Except.bind_ok hc
  obtain ⟨hlength, hc⟩ := passed hc (by simp [bind, Except.bind])
  obtain ⟨hmap, hc⟩ := passed hc (by simp [bind, Except.bind])
  obtain rfl := Except.ok.inj hc
  exact ⟨rfl, checkStopMode_ok hmode, by omega, not_not.mp hmap⟩

theorem checkWriteMemory_ok {s : Session} {payload : List UInt8} {req : MemoryRequest}
    (hc : checkWriteMemory s payload = .ok req) :
    req = MemoryRequest.parse payload ∧ StopBound s req ∧
      (payload.drop writeMemoryRequestSize).length = req.length.toNat ∧
      validateMemoryAccess s.regions req.address req.length req.flags req.accessWidth
        true = .ok := by
  simp only [checkWriteMemory, throw, throwThe, MonadExceptOf.throw] at hc
  obtain ⟨-, hc⟩ := passed hc (by simp [bind, Except.bind])
  obtain ⟨hsize, hc⟩ := passed hc (by simp [bind, Except.bind])
  obtain ⟨_, hmode, hc⟩ := Except.bind_ok hc
  obtain ⟨-, hc⟩ := passed hc (by simp [bind, Except.bind])
  obtain ⟨hmap, hc⟩ := passed hc (by simp [bind, Except.bind])
  obtain rfl := Except.ok.inj hc
  refine ⟨rfl, checkStopMode_ok hmode, ?_, not_not.mp hmap⟩
  rw [List.length_drop]
  exact not_not.mp (not_or.mp hsize).2

theorem checkReadRegisters_ok {s : Session} {payload : List UInt8} {req : RegistersRequest}
    (hc : checkReadRegisters s payload = .ok req) :
    req = RegistersRequest.parse payload ∧ req.stopId = s.stopId := by
  simp only [checkReadRegisters, bind, Except.bind, pure, Except.pure, throw, throwThe,
    MonadExceptOf.throw] at hc
  obtain ⟨-, hc⟩ := passed hc (by simp)
  obtain ⟨-, hc⟩ := passed hc (by simp)
  obtain ⟨-, hc⟩ := passed hc (by simp)
  obtain ⟨hstop, hc⟩ := passed hc (by simp)
  obtain ⟨-, hc⟩ := passed hc (by simp)
  obtain rfl := Except.ok.inj hc
  exact ⟨rfl, not_not.mp hstop⟩

theorem checkWriteRegisters_ok {s : Session} {payload : List UInt8} {req : RegistersRequest}
    (hc : checkWriteRegisters s payload = .ok req) :
    req = RegistersRequest.parse payload ∧ req.stopId = s.stopId := by
  simp only [checkWriteRegisters, bind, Except.bind, pure, Except.pure, throw, throwThe,
    MonadExceptOf.throw] at hc
  obtain ⟨-, hc⟩ := passed hc (by simp)
  obtain ⟨hstop, hc⟩ := passed hc (by simp)
  obtain ⟨-, hc⟩ := passed hc (by simp)
  obtain rfl := Except.ok.inj hc
  exact ⟨rfl, not_not.mp hstop⟩

/-! Refusals. -/

/-- A check that refuses does so with a status of this kind. -/
def RefusesWith {α : Type} (P : Status → Prop) (x : Except Status α) : Prop :=
  ∀ status, x = .error status → P status

/-- A check that refuses does so with an error status. -/
def Refuses {α : Type} (x : Except Status α) : Prop := ∀ status, x = .error status → status ≠ .ok

section
variable {α β : Type} {P : Status → Prop}

@[simp] theorem refusesWith_pure {a : α} : RefusesWith P (pure a : Except Status α) :=
  fun _ h => nomatch h

@[simp] theorem refusesWith_throw {status : Status} :
    RefusesWith P (throw status : Except Status α) ↔ P status :=
  ⟨fun h => h status rfl, fun hp _ h => Except.error.inj h ▸ hp⟩

@[simp] theorem refusesWith_ite {c : Prop} [Decidable c] {x y : Except Status α} :
    RefusesWith P (if c then x else y) ↔ (c → RefusesWith P x) ∧ (¬c → RefusesWith P y) := by
  split <;> simp_all

theorem RefusesWith.bind {x : Except Status α} {f : α → Except Status β} (hx : RefusesWith P x)
    (hf : ∀ a, x = .ok a → RefusesWith P (f a)) : RefusesWith P (x >>= f) := by
  cases x with
  | error status =>
    intro status' h
    exact hx status' (congrArg Except.error (Except.error.inj h))
  | ok a => exact hf a rfl

theorem RefusesWith.mapM {f : α → Except Status β} (hf : ∀ a, RefusesWith P (f a)) (as : List α) :
    RefusesWith P (as.mapM f) := by
  induction as with
  | nil => exact refusesWith_pure
  | cons a as ih =>
    rw [List.mapM_cons]
    exact (hf a).bind fun b _ => ih.bind fun bs _ => refusesWith_pure

@[simp] theorem refuses_pure {a : α} : Refuses (pure a : Except Status α) :=
  refusesWith_pure (P := (· ≠ .ok))

@[simp] theorem refuses_throw {status : Status} :
    Refuses (throw status : Except Status α) ↔ status ≠ .ok :=
  refusesWith_throw (P := (· ≠ .ok))

@[simp] theorem throw_bind {status : Status} {f : α → Except Status β} :
    (throw status >>= f) = throw status := rfl

@[simp] theorem map_throw {status : Status} {f : α → β} :
    f <$> (throw status : Except Status α) = throw status := rfl

@[simp] theorem refuses_ite {c : Prop} [Decidable c] {x y : Except Status α} :
    Refuses (if c then x else y) ↔ (c → Refuses x) ∧ (¬c → Refuses y) :=
  refusesWith_ite (P := (· ≠ .ok))

theorem Refuses.bind {x : Except Status α} {f : α → Except Status β} (hx : Refuses x)
    (hf : ∀ a, Refuses (f a)) : Refuses (x >>= f) :=
  RefusesWith.bind (P := (· ≠ .ok)) hx fun a _ => hf a

theorem Refuses.foldlM {f : β → α → Except Status β} (hf : ∀ b a, Refuses (f b a)) (as : List α)
    (b : β) : Refuses (as.foldlM f b) := by
  induction as generalizing b with
  | nil => exact refuses_pure
  | cons a as ih =>
    rw [List.foldlM_cons]
    exact (hf b a).bind fun b' => ih b'

theorem Refuses.mapM {f : α → Except Status β} (hf : ∀ a, Refuses (f a)) (as : List α) :
    Refuses (as.mapM f) := RefusesWith.mapM (P := (· ≠ .ok)) hf as

end

section
variable (s : Session) (payload : List UInt8)

theorem checkStopMode_refuses (req : MemoryRequest) : Refuses (checkStopMode s req) := by
  simp only [checkStopMode, refuses_ite, throw_bind, refuses_throw, refuses_pure]
  split <;> simp

theorem checkReadMemory_refuses : Refuses (checkReadMemory s payload) := by
  simp only [checkReadMemory, refuses_ite, throw_bind, refuses_throw]
  refine ⟨fun _ => by decide, fun _ => ⟨fun _ => by decide, fun _ => ?_⟩⟩
  exact (checkStopMode_refuses s _).bind fun _ => by simp

theorem checkWriteMemory_refuses : Refuses (checkWriteMemory s payload) := by
  simp only [checkWriteMemory, refuses_ite, throw_bind, refuses_throw]
  refine ⟨fun _ => by decide, fun _ => ⟨fun _ => by decide, fun _ => ?_⟩⟩
  exact (checkStopMode_refuses s _).bind fun _ => by simp

theorem checkReadRegisters_refuses : Refuses (checkReadRegisters s payload) := by
  simp [checkReadRegisters]

theorem checkWriteRegisters_refuses : Refuses (checkWriteRegisters s payload) := by
  simp [checkWriteRegisters]

theorem collectBreakpoint_refuses (collected : List BpEntry × List BpEntry) (bp : Breakpoint) :
    Refuses (collectBreakpoint s collected bp) := by
  simp [collectBreakpoint]

theorem collectWatchpoint_refuses (wp : Watchpoint) : Refuses (collectWatchpoint wp) := by
  simp [collectWatchpoint]

theorem checkRun_refuses : Refuses (checkRun s payload) := by
  have hreq : Refuses (checkRunRequest s payload) := by simp [checkRunRequest]
  refine hreq.bind fun req => ?_
  refine (Refuses.foldlM (collectBreakpoint_refuses s) _ _).bind fun ⟨hwEntries, swEntries⟩ => ?_
  have hslot : Refuses (checkRunToSlot s req hwEntries) := by simp [checkRunToSlot]
  refine hslot.bind fun _ => ?_
  have hwps := Refuses.mapM collectWatchpoint_refuses
  simp only [refuses_ite, throw_bind, refuses_throw, (hwps _).bind fun _ => refuses_pure]
  simp

theorem checkDetach_refuses : Refuses (checkDetach payload) := by
  simp [checkDetach]

theorem checkReset_refuses (cap : UInt32) : Refuses (checkReset s cap payload) := by
  simp [checkReset]

end

theorem refusal_not_ok {g : GateType} {status : Status} (refused : g.refusal = some status) :
    status ≠ .ok := by
  cases g with
  | allow => exact nomatch refused
  | attachBusy | detachedError | runningDeny | lost =>
    rw [← Option.some.inj refused]
    decide

end SidpClient
