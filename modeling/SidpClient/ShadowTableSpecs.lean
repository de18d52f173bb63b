import SidpClient.SessionTraces
import SidpClient.RequestChecks
import Mathlib.Data.List.Pairwise

/-! What the shadow table operations and the configuration rollback do. -/
namespace SidpClient
open LittleEndian Interactive

variable {policy : Policy} {c₀ : Config} {s : Session} {h : SessionHistory}
  {fs : List (List UInt8)}

/-- What a table entry and a requested breakpoint have in common. -/
def SwBp.key (entry : SwBp) : UInt32 × UInt64 × UInt8 :=
  (entry.id, entry.address, entry.instructionSize)

def BpEntry.key (entry : BpEntry) : UInt32 × UInt64 × UInt8 :=
  (entry.breakpointId, entry.address, entry.instructionSize)

@[simp] theorem updateTable_wp {f : List SwBp → List SwBp}
    {Q : Unit → Session → SessionHistory → Prop} :
    (updateTable f).wp s h Q ↔ Q () (s.withTable (f s.swTable)) h := Iff.rfl

theorem HaltKnown.keeps {h' : SessionHistory} (hk : HaltKnown h) (k : Keeps h h') : HaltKnown h' :=
  k.toKeepsHalt.known hk

theorem modify_uninstall {table : List SwBp} {index : ℕ} {entry : SwBp}
    (get : table[index]? = some entry) (uninstalled : entry.installed = false) :
    table.modify index SwBp.uninstall = table := by
  apply List.ext_getElem?
  intro i
  rw [List.getElem?_modify]
  by_cases hi : index = i
  · subst hi
    rw [get]
    obtain ⟨id, address, size, installed, original⟩ := entry
    simp only at uninstalled
    subst uninstalled
    simp [SwBp.uninstall]
  · simp [hi]

theorem swBpRestoreOne_trace {index : ℕ} {entry : SwBp} {Q : Bool → Session → SessionHistory → Prop}
    (ht : Trace policy c₀ s h fs) (attached : s.attached = true) (halted : HaltKnown h)
    (get : s.swTable[index]? = some entry)
    (hQ : ∀ ok table h', Trace policy c₀ (s.withTable table) h' fs → Keeps h h' →
      (ok = true → table = s.swTable.modify index SwBp.uninstall) →
      (ok = false → table = s.swTable ∧ entry.installed = true) →
      Q ok (s.withTable table) h') :
    (swBpRestoreOne index).wp s h Q := by
  simp only [swBpRestoreOne, Action.wp_bind, getSession_wp, get, Action.wp_ite, Action.wp_pure,
    backend_wp, updateTable_wp, Bool.not_eq_true', Bool.not_eq_false]
  have mem : entry ∈ s.swTable := List.mem_of_getElem? get
  refine ⟨fun hn => ?_, fun hi a => ⟨fun ok => ?_, fun fail => ?_⟩⟩
  · exact hQ true s.swTable h ht (Keeps.refl h) (fun _ => (modify_uninstall get hn).symm)
      (fun hf => absurd hf (by decide))
  · have hs := ht.settle (.restore index entry a attached halted get hi ok)
    simp only [ok, decide_true]
    exact hQ true _ _ hs (keeps_movesData rfl) (fun _ => rfl) (fun hf => absurd hf (by decide))
  · have allowed : CallAllowed s h
        (.writeMem .restore entry.address entry.originalBytes MemWidth.default) :=
      ⟨attached, halted, entry, mem, hi, rfl, rfl⟩
    have hs := ht.call a allowed fail
    simp only [fail, decide_false]
    exact hQ false s.swTable _ hs (keeps_movesData rfl) (fun hf => absurd hf (by decide))
      (fun _ => ⟨rfl, hi⟩)

theorem swBpInstallOne_trace {index : ℕ} {entry : SwBp} {Q : Bool → Session → SessionHistory → Prop}
    (ht : Trace policy c₀ s h fs) (attached : s.attached = true) (halted : HaltKnown h)
    (get : s.swTable[index]? = some entry)
    (hQ : ∀ ok h', Trace policy c₀
        (s.withTable (s.swTable.modify index SwBp.install)) h' fs →
      Keeps h h' →
      Q ok (s.withTable (s.swTable.modify index SwBp.install)) h') :
    (swBpInstallOne index).wp s h Q := by
  have get' : (s.swTable.modify index SwBp.install)[index]? =
      some entry.install := by
    rw [List.getElem?_modify, get]
    simp
  simp only [swBpInstallOne, Action.wp_bind, updateTable_wp, Session.withTable_swTable,
    getSession_wp, get', backend_wp, Action.wp_pure]
  intro a
  exact hQ _ _ (ht.settle (.arm index entry a attached halted get)) (keeps_movesData rfl)

theorem getElem?_modify_cases {table : List SwBp} {index i : ℕ} {f : SwBp → SwBp} {entry : SwBp}
    (get : (table.modify index f)[i]? = some entry) :
    (index ≠ i ∧ table[i]? = some entry) ∨
      (index = i ∧ ∃ old, table[i]? = some old ∧ entry = f old) := by
  rw [List.getElem?_modify] at get
  by_cases hi : index = i
  · simp only [hi, if_true] at get
    obtain ⟨old, hold, rfl⟩ := Option.map_eq_some_iff.mp get
    exact Or.inr ⟨hi, old, hold, rfl⟩
  · simp only [hi, if_false, id_map'] at get
    exact Or.inl ⟨hi, get⟩

theorem map_key_modify (table : List SwBp) (index : ℕ) (f : SwBp → SwBp)
    (hf : ∀ entry, (f entry).key = entry.key) :
    (table.modify index f).map SwBp.key = table.map SwBp.key := by
  apply List.ext_getElem?
  intro i
  rw [List.getElem?_map, List.getElem?_map, List.getElem?_modify]
  cases table[i]? with
  | none => rfl
  | some entry =>
    by_cases hi : index = i
    · simp [hi, hf]
    · simp [hi]

/-! Instructions that do not overlap. -/

/-- Two instructions have no address in common. -/
def KeysApart (k k' : UInt32 × UInt64 × UInt8) : Prop :=
  k.2.1.toNat + k.2.2.toNat ≤ k'.2.1.toNat ∨ k'.2.1.toNat + k'.2.2.toNat ≤ k.2.1.toNat

/-- The instructions of a table have at least two bytes, none wraps the address space, and no two
overlap. -/
structure Spaced (table : List SwBp) : Prop where
  sized : ∀ key ∈ table.map SwBp.key, 2 ≤ key.2.2.toNat ∧ key.2.1.toNat + key.2.2.toNat < 2 ^ 64
  apart : (table.map SwBp.key).Pairwise KeysApart

theorem spaced_nil : Spaced [] := ⟨fun _ hm => absurd hm List.not_mem_nil, List.Pairwise.nil⟩

theorem Spaced.of_keys {table table' : List SwBp} (hs : Spaced table)
    (keys : (table'.map SwBp.key).Sublist (table.map SwBp.key)) : Spaced table' :=
  ⟨fun key hm => hs.sized key (keys.subset hm), hs.apart.sublist keys⟩

theorem Spaced.address_unique {table : List SwBp} (hs : Spaced table) {a b : SwBp} (ha : a ∈ table)
    (hb : b ∈ table) (same : a.address = b.address) : a = b := by
  by_contra different
  have apart : table.Pairwise fun a b => KeysApart a.key b.key := List.pairwise_map.mp hs.apart
  have symmetric : Std.Symm fun a b : SwBp => KeysApart a.key b.key := ⟨fun _ _ hk => hk.symm⟩
  have clear := apart.forall ha hb different
  have sizeA := (hs.sized a.key (List.mem_map_of_mem ha)).1
  have sizeB := (hs.sized b.key (List.mem_map_of_mem hb)).1
  simp only [KeysApart, SwBp.key, same] at clear sizeA sizeB
  omega

/-- An entry that passed the overlap check of `sw_bp_apply`. -/
theorem Spaced.append {table : List SwBp} (hs : Spaced table) {entry : BpEntry} {bytes : List UInt8}
    (sized : 2 ≤ entry.instructionSize.toNat)
    (bound : entry.address.toNat + entry.instructionSize.toNat < 2 ^ 64)
    (clear : table.any (intervalsOverlap entry) = false) :
    Spaced (table ++ [entry.recorded bytes]) := by
  have apart (prior : SwBp) (hm : prior ∈ table) :
      KeysApart prior.key (entry.recorded bytes).key := by
    have no := List.any_eq_false.mp clear prior hm
    have priorBound := (hs.sized prior.key (List.mem_map_of_mem hm)).2
    simp only [SwBp.key] at priorBound
    simp only [intervalsOverlap, SwBp.stop, Bool.and_eq_true, decide_eq_true_eq,
      UInt64.lt_iff_toNat_lt, UInt64.toNat_add, UInt8.toNat_toUInt64, Nat.mod_eq_of_lt bound,
        Nat.mod_eq_of_lt priorBound] at no
    show prior.address.toNat + prior.instructionSize.toNat ≤ entry.address.toNat ∨
      entry.address.toNat + entry.instructionSize.toNat ≤ prior.address.toNat
    omega
  constructor
  · intro key hm
    rw [List.map_append, List.mem_append] at hm
    rcases hm with hm | hm
    · exact hs.sized key hm
    · rw [List.mem_singleton.mp hm]
      exact ⟨sized, bound⟩
  · rw [List.map_append, List.pairwise_append]
    refine ⟨hs.apart, List.pairwise_singleton _ _, fun key hk key' hk' => ?_⟩
    obtain ⟨prior, hm, rfl⟩ := List.mem_map.mp hk
    rw [List.mem_singleton.mp hk']
    exact apart prior hm

/-! The restoring loop. -/

theorem moveDown_nil (remaining index : ℕ) : moveDown remaining index [] = [] := by
  unfold moveDown
  split
  · rfl
  · rfl

theorem moveDown_eq {table : List SwBp} {remaining index : ℕ} {entry : SwBp}
    (get : table[index]? = some entry) :
    moveDown remaining index table = table.set remaining entry := by
  unfold moveDown
  split
  · rename_i same
    obtain ⟨hlt, rfl⟩ := List.getElem?_eq_some_iff.mp get
    rw [same, List.set_getElem_self]
  · rw [get]

/-- What the restoring loop has made of a table before its turn at `index`: the entries it kept are
the first `remaining`, those between are restored or were copied down. -/
structure Restoring (start table : List SwBp) (allRestored : Bool) (remaining index : ℕ) :
    Prop where
  behind : remaining ≤ index
  length : table.length = start.length
  clean : allRestored = true → remaining = 0
  kept : ∀ i entry, i < remaining → table[i]? = some entry → entry.installed = true
  passed : ∀ i entry, remaining ≤ i → i < index → table[i]? = some entry → entry.installed = true →
    ∃ j, j < remaining ∧ table[j]? = some entry
  keys : ((table.take remaining ++ table.drop index).map SwBp.key).Sublist (start.map SwBp.key)

section
variable {start table : List SwBp} {allRestored : Bool} {remaining index : ℕ} {entry : SwBp}

theorem restoring_start (table : List SwBp) : Restoring table table true 0 0 :=
  ⟨le_rfl, rfl, fun _ => rfl, fun _ _ hi => absurd hi (by omega), fun _ _ _ hi =>
    absurd hi (by omega), List.Sublist.refl _⟩

theorem Restoring.present (hr : Restoring start table allRestored remaining index)
    (hlt : index < start.length) : ∃ entry, table[index]? = some entry :=
  ⟨_, List.getElem?_eq_getElem (hr.length.symm ▸ hlt)⟩

/-- The entry at `index` holds no patch any more. -/
theorem Restoring.restored (hr : Restoring start table allRestored remaining index)
    (get : table[index]? = some entry) :
    Restoring start (table.modify index SwBp.uninstall) allRestored remaining (index + 1) := by
  have behind := hr.behind
  have others (i : ℕ) (hi : i ≠ index) : (table.modify index SwBp.uninstall)[i]? = table[i]? := by
    simp [Ne.symm hi]
  have keys : (table.modify index SwBp.uninstall).map SwBp.key = table.map SwBp.key :=
    map_key_modify _ _ _ fun _ => rfl
  refine ⟨by omega, (List.length_modify ..).trans hr.length, hr.clean, ?_, ?_, ?_⟩
  · intro i e hi hget
    rw [others i (by omega)] at hget
    exact hr.kept i e hi hget
  · intro i e low high hget inst
    by_cases hi : i = index
    · have off : e = entry.uninstall := by simpa [hi, List.getElem?_modify, get] using hget.symm
      rw [off] at inst
      exact absurd inst Bool.false_ne_true
    · rw [others i hi] at hget
      obtain ⟨j, hj, copy⟩ := hr.passed i e low (by omega) hget inst
      exact ⟨j, hj, (others j (by omega)).trans copy⟩
  · have fewer : ((table.take remaining ++ table.drop (index + 1)).map SwBp.key).Sublist
        ((table.take remaining ++ table.drop index).map SwBp.key) := by
      apply List.Sublist.map
      apply List.Sublist.append_left
      exact List.drop_sublist_drop_left _ (Nat.le_succ index)
    rw [List.map_append, List.map_take, List.map_drop, keys, ← List.map_take, ← List.map_drop,
      ← List.map_append]
    exact fewer.trans hr.keys

/-- The entry at `index` could not be restored and is copied down. -/
theorem Restoring.copied (hr : Restoring start table allRestored remaining index)
    (get : table[index]? = some entry) (installed : entry.installed = true) :
    Restoring start (table.set remaining entry) false (remaining + 1) (index + 1) := by
  have behind := hr.behind
  obtain ⟨hlt, hentry⟩ := List.getElem?_eq_some_iff.mp get
  have others (i : ℕ) (hi : i ≠ remaining) : (table.set remaining entry)[i]? = table[i]? :=
    List.getElem?_set_ne (Ne.symm hi)
  have here : (table.set remaining entry)[remaining]? = some entry :=
    List.getElem?_set_self (by omega)
  refine ⟨by omega, List.length_set.trans hr.length, fun hf => absurd hf (by decide), ?_, ?_, ?_⟩
  · intro i e hi hget
    by_cases last : i = remaining
    · rw [last, here] at hget
      exact Option.some.inj hget ▸ installed
    · rw [others i last] at hget
      exact hr.kept i e (by omega) hget
  · intro i e low high hget inst
    rw [others i (by omega)] at hget
    by_cases hi : i = index
    · rw [hi, get] at hget
      exact ⟨remaining, by omega, here.trans hget⟩
    · obtain ⟨j, hj, copy⟩ := hr.passed i e (by omega) (by omega) hget inst
      exact ⟨j, by omega, (others j (by omega)).trans copy⟩
  · have same : (table.set remaining entry).take (remaining + 1) ++
        (table.set remaining entry).drop (index + 1) = table.take remaining ++
        table.drop index := by
      have front : (table.set remaining entry).take (remaining + 1) = table.take
          remaining ++ [entry] := by
        rw [List.take_add_one, here, List.take_set_of_le le_rfl]
        rfl
      rw [front, List.drop_set_of_lt (by omega), List.append_assoc,
        List.drop_eq_getElem_cons hlt, hentry]
      rfl
    rw [same]
    exact hr.keys

/-- Copying down and cutting off only loses entries that hold no patch. -/
theorem Restoring.keeps_copied (hr : Restoring start table allRestored remaining index)
    (get : table[index]? = some entry) :
    ∀ e ∈ table, e.installed = true → e ∈ table.set remaining entry := by
  have behind := hr.behind
  intro e hm inst
  have others (i : ℕ) (hi : i ≠ remaining) (hget : table[i]? = some e) :
      e ∈ table.set remaining entry :=
    List.mem_of_getElem? ((List.getElem?_set_ne (Ne.symm hi)).trans hget)
  obtain ⟨i, hget⟩ := List.mem_iff_getElem?.mp hm
  by_cases hi : i = remaining
  · by_cases last : remaining = index
    · rw [hi, last, get] at hget
      obtain ⟨hlt, -⟩ := List.getElem?_eq_some_iff.mp get
      rw [← Option.some.inj hget]
      exact List.mem_of_getElem? (List.getElem?_set_self (by omega))
    · obtain ⟨j, hj, copy⟩ := hr.passed i e (by omega) (by omega) hget inst
      exact others j (by omega) copy
  · exact others i hi hget

theorem Restoring.keeps_cut (hr : Restoring start table allRestored remaining start.length) :
    ∀ e ∈ table, e.installed = true → e ∈ table.take remaining := by
  intro e hm inst
  obtain ⟨i, hget⟩ := List.mem_iff_getElem?.mp hm
  have first (j : ℕ) (hj : j < remaining) (copy : table[j]? = some e) :
      e ∈ table.take remaining := by
    apply List.mem_of_getElem? (i := j)
    rw [List.getElem?_take_of_lt hj]
    exact copy
  by_cases hi : i < remaining
  · exact first i hi hget
  · have length := hr.length
    obtain ⟨hlt, -⟩ := List.getElem?_eq_some_iff.mp hget
    obtain ⟨j, hj, copy⟩ := hr.passed i e (by omega) (by omega) hget inst
    exact first j hj copy

/-- What the loop leaves: the entries it could not restore, at their old addresses. -/
structure Restored (start table : List SwBp) (ok : Bool) : Prop where
  empty : ok = true → table = []
  installed : ∀ entry ∈ table, entry.installed = true
  keys : (table.map SwBp.key).Sublist (start.map SwBp.key)

theorem Restoring.done (hr : Restoring start table allRestored remaining start.length) :
    Restored start (table.take remaining) allRestored := by
  refine ⟨fun ok => ?_, fun entry hm => ?_, ?_⟩
  · rw [hr.clean ok, List.take_zero]
  · obtain ⟨i, hget⟩ := List.mem_iff_getElem?.mp hm
    obtain ⟨hi, -⟩ := List.getElem?_eq_some_iff.mp hget
    rw [List.length_take] at hi
    rw [List.getElem?_take_of_lt (by omega)] at hget
    exact hr.kept i entry (by omega) hget
  · have keys := hr.keys
    rw [← hr.length, List.drop_length, List.append_nil] at keys
    exact keys

end

/-- One turn of the loop: there is nothing to restore, the write succeeds, or it fails. -/
theorem swBpRestoreTurn_wp {kept : Bool × ℕ} {index : ℕ} {entry : SwBp}
    {Q : Bool × ℕ → Session → SessionHistory → Prop} (get : s.swTable[index]? = some entry)
    (out : entry.installed = false → Q kept s h)
    (restored : ∀ a : Answer, entry.installed = true → a.code = .ok →
      Q kept (s.withTable (s.swTable.modify index SwBp.uninstall))
        (h ++ [⟨.call s (.writeMem .restore entry.address entry.originalBytes MemWidth.default),
          a⟩]))
    (failed : ∀ a : Answer, entry.installed = true → a.code ≠ .ok →
      Q (false, kept.2 + 1) (s.withTable (s.swTable.set kept.2 entry))
        (h ++ [⟨.call s (.writeMem .restore entry.address entry.originalBytes MemWidth.default),
          a⟩])) :
    (swBpRestoreTurn kept index).wp s h Q := by
  simp only [swBpRestoreTurn, swBpRestoreOne, Action.wp_bind, getSession_wp, get, Action.wp_ite,
    Action.wp_pure, backend_wp, updateTable_wp, Bool.not_eq_true', Bool.not_eq_false]
  refine ⟨fun hn => ⟨fun _ => out hn, fun hf => absurd trivial hf⟩, fun inst a =>
    ⟨fun ok => ?_, fun fail => ?_⟩⟩
  · simp only [ok, decide_true]
    exact ⟨fun _ => restored a inst ok, fun hf => absurd trivial hf⟩
  · simp only [fail, decide_false]
    refine ⟨fun hf => absurd hf (by decide), fun _ => ?_⟩
    rw [moveDown_eq get]
    exact failed a inst fail

theorem swBpRestoreAll_restored : swBpRestoreAll.wp s h fun ok s' _ =>
    ∃ table, s' = s.withTable table ∧ Restored s.swTable table ok := by
  simp only [swBpRestoreAll, Action.wp_bind, getSession_wp, updateTable_wp, Action.wp_pure]
  let Turned (kept : Bool × ℕ) (index : ℕ) (s' : Session) (_ : SessionHistory) : Prop :=
    ∃ table, s' = s.withTable table ∧ Restoring s.swTable table kept.1 kept.2 index
  have start : Turned (true, 0) 0 s h := ⟨s.swTable, rfl, restoring_start s.swTable⟩
  apply Action.wp_mono (Action.wp_foldFrom (fun kept index s₁ h₁ hlt hI => ?_)
    (Nat.zero_add _) start)
  · intro kept s' _ hI
    obtain ⟨table, rfl, hr⟩ := hI
    exact ⟨table.take kept.2, rfl, hr.done⟩
  · obtain ⟨table, rfl, hr⟩ := hI
    obtain ⟨entry, get⟩ := hr.present hlt
    apply swBpRestoreTurn_wp get
    · intro out
      refine ⟨table, rfl, ?_⟩
      rw [← modify_uninstall get out]
      exact hr.restored get
    · exact fun _ _ _ => ⟨_, rfl, hr.restored get⟩
    · exact fun _ inst _ => ⟨_, rfl, hr.copied get inst⟩

theorem swBpRestoreAll_trace {Q : Bool → Session → SessionHistory → Prop}
    (ht : Trace policy c₀ s h fs) (attached : s.attached = true) (halted : HaltKnown h)
    (hQ : ∀ ok table h', Trace policy c₀ (s.withTable table) h' fs → Keeps h h' →
      (ok = true → table = []) → (∀ entry ∈ table, entry.installed = true) →
      Q ok (s.withTable table) h') :
    swBpRestoreAll.wp s h Q := by
  simp only [swBpRestoreAll, Action.wp_bind, getSession_wp, updateTable_wp, Action.wp_pure]
  let Turned (kept : Bool × ℕ) (index : ℕ) (s' : Session) (h' : SessionHistory) : Prop :=
    ∃ table, s' = s.withTable table ∧ Trace policy c₀ s' h' fs ∧ Keeps h h' ∧
      Restoring s.swTable table kept.1 kept.2 index
  have start : Turned (true, 0) 0 s h :=
    ⟨s.swTable, rfl, ht, Keeps.refl h, restoring_start s.swTable⟩
  apply Action.wp_mono (Action.wp_foldFrom (fun kept index s₁ h₁ hlt hI => ?_)
    (Nat.zero_add _) start)
  · intro kept s' evs hI
    obtain ⟨table, rfl, ht', k, hr⟩ := hI
    have cut := ht'.step (.compact (table.take kept.2) (fun _ hm =>
        List.mem_of_mem_take hm) hr.keeps_cut
      (List.length_take_le' ..))
    exact hQ kept.1 _ _ cut k hr.done.empty hr.done.installed
  · obtain ⟨table, rfl, ht₁, k, hr⟩ := hI
    obtain ⟨entry, get⟩ := hr.present hlt
    have halted₁ := k.toKeepsHalt.known halted
    apply swBpRestoreTurn_wp get
    · intro out
      refine ⟨table, rfl, ht₁, k, ?_⟩
      rw [← modify_uninstall get out]
      exact hr.restored get
    · intro a inst ok
      have done := ht₁.settle (.restore index entry a attached halted₁ get inst ok)
      exact ⟨_, rfl, done, k.trans (keeps_movesData rfl), hr.restored get⟩
    · intro a inst fail
      have allowed : CallAllowed (s.withTable table) h₁
          (.writeMem .restore entry.address entry.originalBytes MemWidth.default) :=
        ⟨attached, halted₁, _, List.mem_of_getElem? get, inst, rfl, rfl⟩
      have tried := ht₁.call a allowed fail
      have copied := tried.step (.compact (table.set kept.2 entry)
        (fun e hm => (List.mem_or_eq_of_mem_set hm).elim id fun he => he ▸ List.mem_of_getElem? get)
        (hr.keeps_copied get) (List.length_set ..).le)
      exact ⟨_, rfl, copied, k.trans (keeps_movesData rfl), hr.copied get inst⟩

theorem Active.table {h' : SessionHistory} (ha : Active s h) (k : KeepsHalt h h')
    (table : List SwBp) : Active (s.withTable table) h' :=
  ha.of_keeps rfl rfl k.map fun hd => k.rejected (ha.live hd)

theorem swBpRecord_trace (entries : List BpEntry) {s : Session} {h : SessionHistory}
    {Q : Status → Session → SessionHistory → Prop} (ht : Trace policy c₀ s h fs)
    (active : Active s h) (halted : HaltKnown h)
    (requestable : ∀ entry ∈ entries, Requestable s.regions entry)
    (hQ : ∀ status table h', Trace policy c₀ (s.withTable table) h' fs → Keeps h h' →
      (status = .ok →
        ∃ new, table = s.swTable ++ new ∧ new.map SwBp.key = entries.map BpEntry.key) →
      (status ≠ .ok → ∀ entry ∈ table, entry.installed = true) →
      Q status (s.withTable table) h') :
    (swBpRecord entries).wp s h Q := by
  induction entries generalizing s h Q with
  | nil => exact hQ .ok s.swTable h ht (Keeps.refl h) (fun _ => ⟨[], by simp⟩) (by simp)
  | cons entry entries ih =>
    have undo {h₁ : SessionHistory} (status : Status) (hne : status ≠ .ok)
        (ht₁ : Trace policy c₀ s h₁ fs) (k₁ : Keeps h h₁) :
        swBpRestoreAll.wp s h₁ fun _ s' h' => Q status s' h' :=
      swBpRestoreAll_trace ht₁ active.attached (halted.keeps k₁) fun _ table h' ht' k' _ hinst =>
        hQ status table h' ht' (k₁.trans k') (fun hs => absurd hs hne) fun _ => hinst
    simp only [swBpRecord, Action.wp_bind, getSession_wp, Action.wp_ite, Action.wp_pure, backend_wp]
    refine ⟨fun _ => undo _ (by decide) ht (Keeps.refl h), fun full => ?_⟩
    refine ⟨fun _ => undo _ (by decide) ht (Keeps.refl h), fun overlap => ?_⟩
    obtain ⟨size, patchable⟩ := requestable entry List.mem_cons_self
    have allowed : CallAllowed s h
        (.readMem .original entry.address entry.instructionSize.toNat MemWidth.default) := by
      refine ⟨active.attached, active.mapped, patchable, fun prior hm ho => ?_⟩
      have hn := List.any_eq_false.mp (Bool.eq_false_of_not_eq_true overlap) prior hm
      exact hn (by simpa [intervalsOverlap] using ho)
    intro a
    have ht₁ := ht.call a allowed (fun hs => hs)
    have k₁ : Keeps h (h ++ [⟨.call s
      (.readMem .original entry.address entry.instructionSize.toNat MemWidth.default), a⟩]) :=
      keeps_movesData rfl
    refine ⟨fun _ => undo _ (by decide) ht₁ k₁, fun ok => ?_⟩
    refine ⟨fun _ => undo _ (by decide) ht₁ k₁, fun _ => ?_⟩
    have ht₂ := ht.settle (.record entry a allowed size (by simpa using ok) full)
    simp only [updateTable_wp]
    refine ih ht₂ (active.table k₁.toKeepsHalt _) (halted.keeps k₁)
      (fun e he => requestable e (List.mem_cons_of_mem _ he))
      fun status table h' ht' k' hok hne => ?_
    refine hQ status table h' ht' (k₁.trans k') (fun hs => ?_) hne
    obtain ⟨new, rfl, hkeys⟩ := hok hs
    exact ⟨entry.recorded a.data :: new, by simp, by simp [hkeys, SwBp.key, BpEntry.key,
      BpEntry.recorded]⟩

theorem swBpInstallFrom_trace (n : ℕ) {s : Session} {h : SessionHistory} {index : ℕ}
    {Q : Status → Session → SessionHistory → Prop} (ht : Trace policy c₀ s h fs)
    (attached : s.attached = true) (halted : HaltKnown h) (hn : index + n = s.swTable.length)
    (hinst : ∀ i entry, i < index → s.swTable[i]? = some entry → entry.installed = true)
    (hQ : ∀ status table h', Trace policy c₀ (s.withTable table) h' fs → Keeps h h' →
      (status = .ok → table.map SwBp.key = s.swTable.map SwBp.key) →
      (∀ entry ∈ table, entry.installed = true) → Q status (s.withTable table) h') :
    (swBpInstallFrom index n).wp s h Q := by
  induction n generalizing s h index Q with
  | zero =>
    refine hQ .ok s.swTable h ht (Keeps.refl h) (fun _ => rfl) fun entry hm => ?_
    obtain ⟨i, hi, rfl⟩ := List.mem_iff_getElem.mp hm
    exact hinst i _ (by omega) (List.getElem?_eq_getElem hi)
  | succ n ih =>
    have hlt : index < s.swTable.length := by omega
    simp only [swBpInstallFrom, Action.wp_bind, Action.wp_ite, Action.wp_pure]
    refine swBpInstallOne_trace ht attached halted (List.getElem?_eq_getElem hlt)
      fun ok h₁ ht₁ k₁ => ⟨fun _ => ?_, fun _ => ?_⟩
    · exact swBpRestoreAll_trace ht₁ attached (halted.keeps k₁) fun _ table h₂ ht₂ k₂ _ hall =>
        hQ _ table h₂ ht₂ (k₁.trans k₂) (fun hs => absurd hs (by decide)) hall
    · refine ih ht₁ attached (halted.keeps k₁) (by simp; omega) (fun i entry hi get => ?_)
        fun status table h₂ ht₂ k₂ hkeys hall => ?_
      · rcases getElem?_modify_cases get with ⟨hne, get⟩ | ⟨-, old, -, rfl⟩
        · exact hinst i entry (by omega) get
        · rfl
      · refine hQ status table h₂ ht₂ (k₁.trans k₂) (fun hs => ?_) hall
        rw [hkeys hs]
        exact map_key_modify _ _ _ fun _ => rfl

theorem swBpApply_trace {entries : List BpEntry} {Q : Status → Session → SessionHistory → Prop}
    (ht : Trace policy c₀ s h fs) (active : Active s h) (halted : HaltKnown h)
    (requestable : ∀ entry ∈ entries, Requestable s.regions entry)
    (hQ : ∀ status table h', Trace policy c₀ (s.withTable table) h' fs → Keeps h h' →
      (status = .ok → table.map SwBp.key = entries.map BpEntry.key) →
      (∀ entry ∈ table, entry.installed = true) → Q status (s.withTable table) h') :
    (swBpApply entries).wp s h Q := by
  simp only [swBpApply, Action.wp_bind, Action.wp_ite, Action.wp_pure, getSession_wp]
  refine swBpRestoreAll_trace ht active.attached halted fun ok table h₁ ht₁ k₁ hempty hall =>
    ⟨fun _ => ?_, fun hok => ?_⟩
  · exact hQ _ table h₁ ht₁ k₁ (fun hs => absurd hs (by decide)) hall
  have htable : table = [] := hempty (by simpa using hok)
  subst htable
  refine swBpRecord_trace entries ht₁ (active.table k₁.toKeepsHalt _) (halted.keeps k₁) requestable
    fun status table h₂ ht₂ k₂ hnew hfail => ⟨fun hne => ?_, fun hok => ?_⟩
  · exact hQ _ table h₂ ht₂ (k₁.trans k₂) (fun hs => absurd hs hne) (hfail hne)
  obtain ⟨new, rfl, hkeys⟩ := hnew (by simpa using hok)
  refine swBpInstallFrom_trace _ ht₂ active.attached ((halted.keeps k₁).keeps k₂) (by omega)
    (fun i entry hi => absurd hi (by omega)) fun status table h₃ ht₃ k₃ hsame hall => ?_
  refine hQ status table h₃ ht₃ ((k₁.trans k₂).trans k₃) (fun hs => ?_) hall
  rw [hsame hs]
  exact hkeys

/-- The configuration rollback. On success no patch and no comparator is left. -/
theorem rollbackRunConfig_trace {Q : Bool → Session → SessionHistory → Prop}
    (ht : Trace policy c₀ s h fs) (attached : s.attached = true) (halted : HaltKnown h)
    (hQ : ∀ ok table h', Trace policy c₀ (s.withTable table).clearRunTracking h' fs →
      KeepsHalt h h' → (ok = true → table = [] ∧ runConfig h' = clearedConfig) →
      (∀ entry ∈ table, entry.installed = true) → (calls h).length < (calls h').length →
      Q ok (s.withTable table).clearRunTracking h') :
    rollbackRunConfig.wp s h Q := by
  simp only [rollbackRunConfig, Action.wp_bind, backend_wp, updateSession_wp, Action.wp_pure]
  refine swBpRestoreAll_trace ht attached halted fun ok table h₁ ht₁ k₁ hempty hall a₁ a₂ a₃ => ?_
  have kc (h' : SessionHistory) (c : Call) (a : Answer)
      (hc : c = .applyBreakpoints [] ∨ c = .applyWatchpoints [] ∨ c = .setVectorCatch 0) :
      KeepsHalt h' (h' ++ [⟨.call (s.withTable table) c, a⟩]) := by
    rcases hc with rfl | rfl | rfl <;>
      exact ⟨haltView_call, advertisedMap_call, confirmations_call, List.prefix_append _ _⟩
  have k₂ := k₁.toKeepsHalt.trans (kc h₁ (.applyBreakpoints []) a₁ (by simp))
  have k₃ := k₂.trans (kc _ (.applyWatchpoints []) a₂ (by simp))
  have k₄ := k₃.trans (kc _ (.setVectorCatch 0) a₃ (by simp))
  have ht₂ := ht₁.call (c := .applyBreakpoints []) a₁ ⟨attached, k₁.toKeepsHalt.known halted⟩ id
  have ht₃ := ht₂.call (c := .applyWatchpoints []) a₂ ⟨attached, k₂.known halted⟩ id
  have ht₄ := ht₃.call (c := .setVectorCatch 0) a₃ ⟨attached, k₃.known halted⟩ id
  have ht₅ : Trace policy c₀ (s.withTable table).clearRunTracking _ fs :=
    ht₄.keep ⟨⟨rfl, rfl, rfl, rfl⟩, rfl, rfl, fun _ => ⟨rfl, rfl⟩⟩
  refine hQ _ table _ ht₅ k₄ (fun hok => ?_) hall ?_
  · simp only [decide_eq_true_eq] at hok
    obtain ⟨ok₃, ok₂, ok₁, ok₀⟩ := hok
    refine ⟨hempty ok₀, ?_⟩
    simp only [runConfig_call, runConfigCall, clearedConfig, ok₁, ok₂, ok₃, if_true]
  · have called := calls_length_mono k₁.grows
    simp only [calls_call, List.length_append, List.length_singleton]
    omega

end SidpClient
