import PveAntiDetection.Smbios.Refinement

/-!
# What ends a pass early

The conditions on the options, the machine and the PCI devices under which a pass stops or reports
an error, in terms of its inputs.

* `slotFails`, `deviceFails` — a type 9 or type 41 entry names a device that is not on the root bus
  (`slotError_isSome`, `deviceError_isSome`);
* `AssertionsHold` — what type 11 and the memory calls rely on (`assertionFault_eq_none`);
* `ReadsBehindAreas` — the memory calls read `mem_array` behind its end
  (`assertionFault_outOfBounds`).
-/

set_option autoImplicit false

namespace Smbios

open Script

variable {h : Host} {ep : SmbiosEntryPointType} {ms : Machine} {o : Options}

/-! ## Types 9 and 41 -/

/-- The `pcidev` of an entry names no device, or one that is not on the root bus. -/
def unresolvable (h : Host) : CharPtr → Bool
  | none => false
  | some pcidev =>
    match h.pciQdevFindDevice pcidev with
    | none => true
    | some pdev => !pdev.onRootBus

/-- Type 9 is built, with an entry whose device is not found. -/
def slotFails (h : Host) (o : Options) : Bool :=
  !smbiosSkipTable o 9 true && o.type9.any fun t9 => unresolvable h t9.pcidev

/-- Type 41 is built, with an entry whose device is not found. -/
def deviceFails (h : Host) (o : Options) : Bool :=
  !smbiosSkipTable o 41 true && o.type41.any fun t41 => unresolvable h t41.pcidev

theorem unresolvable_of_error {type : Nat} {pcidev : CString} {d : CharPtr} {e : Error}
    (hfind : findRootBusDevice h type pcidev d = .error e) :
    unresolvable h (some pcidev) = true := by
  unfold findRootBusDevice at hfind
  cases hdev : h.pciQdevFindDevice pcidev with
  | none => simp only [unresolvable, hdev]
  | some pdev =>
    rw [hdev] at hfind
    cases hroot : pdev.onRootBus with
    | false => simp only [unresolvable, hdev, hroot, Bool.not_false]
    | true => simp [hroot] at hfind

theorem unresolvable_of_ok {type : Nat} {pcidev : CString} {d : CharPtr} {pdev : PCIDevice}
    (hfind : findRootBusDevice h type pcidev d = .ok pdev) :
    unresolvable h (some pcidev) = false := by
  unfold findRootBusDevice at hfind
  cases hdev : h.pciQdevFindDevice pcidev with
  | none => simp [hdev] at hfind
  | some pdev' =>
    rw [hdev] at hfind
    cases hroot : pdev'.onRootBus with
    | false => simp [hroot] at hfind
    | true => simp only [unresolvable, hdev, hroot, Bool.not_true]

theorem type9Table_report (h : Host) (i : Nat) (t9 : Type9Instance) :
    (type9Table h i t9).report.isSome = unresolvable h t9.pcidev := by
  unfold type9Table
  split
  · split
    · rename_i hp _ e hfind
      rw [hp, unresolvable_of_error hfind]
      rfl
    · rename_i hp _ pdev hfind
      rw [hp, unresolvable_of_ok hfind]
      rfl
  · rename_i hp
    rw [hp]
    rfl

theorem type41Table_report (h : Host) (i : Nat) (t41 : Type41Instance) :
    (type41Table h i t41).report.isSome = unresolvable h t41.pcidev := by
  unfold type41Table
  split
  · split
    · rename_i hp _ e hfind
      rw [hp, unresolvable_of_error hfind]
      rfl
    · rename_i hp _ pdev hfind
      rw [hp, unresolvable_of_ok hfind]
      rfl
  · rename_i hp
    rw [hp]
    rfl

/-- A loop reports an error if one of its tables does. -/
theorem firstReport_untilHalt {ts : List Table} (hts : ∀ t ∈ ts, ∀ f, t.halt ≠ some (.fault f)) :
    (firstReport (untilHalt ts)).isSome = ts.any fun t => t.report.isSome := by
  induction ts with
  | nil => rfl
  | cons t ts ih =>
    have ih' := ih fun t' h' => hts t' (List.mem_cons_of_mem _ h')
    cases hhalt : t.halt with
    | none => simpa [untilHalt, hhalt, firstReport, Table.report] using ih'
    | some halt =>
      cases halt with
      | fault f => exact absurd hhalt (hts t (List.mem_cons_self ..) f)
      | report e => simp [untilHalt, hhalt, firstReport, Table.report]

theorem any_mapIdx {α : Type} {p : Table → Bool} {q : α → Bool} {f : Nat → α → Table}
    (hf : ∀ i x, p (f i x) = q x) (xs : List α) : (xs.mapIdx f).any p = xs.any q := by
  induction xs generalizing f with
  | nil => rfl
  | cons x xs ih =>
    rw [List.mapIdx_cons, List.any_cons, List.any_cons, hf, ih fun i x => hf (i + 1) x]

theorem slotError_isSome : (slotError h o).isSome = slotFails h o := by
  unfold slotError slotTables slotFails Options.opt
  cases smbiosSkipTable o 9 true with
  | true => rfl
  | false =>
    simp only [Bool.false_eq_true, if_false, Bool.not_false, Bool.true_and]
    rw [firstReport_untilHalt (mapIdx_forall (type9Table_noFault h)),
      any_mapIdx (type9Table_report h)]

theorem deviceError_isSome : (deviceError h o).isSome = deviceFails h o := by
  unfold deviceError deviceTables deviceFails Options.opt
  cases smbiosSkipTable o 41 true with
  | true => rfl
  | false =>
    simp only [Bool.false_eq_true, if_false, Bool.not_false, Bool.true_and]
    rw [firstReport_untilHalt (mapIdx_forall (type41Table_noFault h)),
      any_mapIdx (type41Table_report h)]

/-! ## Type 11 and the memory calls -/

/-- The strings that the type 11 builder reads end in a NUL. -/
def ValuesTerminated (o : Options) : Prop :=
  smbiosSkipTable o 11 true = false → ∀ block, some block ∈ o.type11 → 0 ∈ block

/-- The chunks that the type 17 builder describes are below 2 PiB. -/
def ChunksFit (ms : Machine) (o : Options) : Prop :=
  smbiosSkipTable o 17 true = false →
    ∀ i, i < dimmCnt ms → sizeMb (getDimmSz ms i) < MAX_T17_EXT_SZ

/-- Chunk `i`, placed at the address of area `i`, ends behind its start. -/
def RangeOk (ms : Machine) (i : Nat) (a : SmbiosPhysMemArea) : Prop :=
  rangeEnd a.address.toNat (getDimmSz ms i) > a.address.toNat

/-- What type 11 and the memory calls rely on. -/
structure AssertionsHold (ms : Machine) (o : Options) : Prop where
  terminated : ValuesTerminated o
  device : ms.smbiosMemoryDeviceSize ≠ 0
  chunks : ChunksFit ms o
  areas : dimmCnt ms ≤ ms.memArray.length
  ranges : ∀ i a, i < dimmCnt ms → ms.memArray[i]? = some a → RangeOk ms i a
  handles : handleRangeOk ms

/-- The memory calls are reached, and read `mem_array` behind its end. -/
structure ReadsBehindAreas (ms : Machine) (o : Options) : Prop where
  terminated : ValuesTerminated o
  device : ms.smbiosMemoryDeviceSize ≠ 0
  chunks : ChunksFit ms o
  areas : ms.memArray.length < dimmCnt ms
  ranges : ∀ i a, ms.memArray[i]? = some a → RangeOk ms i a

theorem type11Values_halt (vs : List (Option (List UInt8))) :
    (type11Values vs).2 = none ∧ (∀ block, some block ∈ vs → 0 ∈ block) ∨
      (type11Values vs).2 = some (.fault .unterminatedString) ∧
        ∃ block, some block ∈ vs ∧ 0 ∉ block := by
  induction vs with
  | nil => exact .inl ⟨rfl, fun _ hb => by cases hb⟩
  | cons v vs ih =>
    cases v with
    | none =>
      rcases ih with ⟨hhalt, hall⟩ | ⟨hhalt, block, hmem, hno⟩
      · exact .inl ⟨hhalt, fun b hb => hall b (by simpa using hb)⟩
      · exact .inr ⟨hhalt, block, List.mem_cons_of_mem _ hmem, hno⟩
    | some block =>
      by_cases hnul : (0 : UInt8) ∈ block
      · obtain ⟨s, hs⟩ : ∃ s, readCString block = some s := by
          unfold readCString
          rw [if_pos hnul]
          exact ⟨_, rfl⟩
        have hcons : (type11Values (some block :: vs)).2 = (type11Values vs).2 := by
          simp only [type11Values, hs]
        rw [hcons]
        rcases ih with ⟨hhalt, hall⟩ | ⟨hhalt, block', hmem, hno⟩
        · refine .inl ⟨hhalt, fun b hb => ?_⟩
          rcases List.mem_cons.mp hb with heq | hb
          · rw [Option.some.inj heq]
            exact hnul
          · exact hall b hb
        · exact .inr ⟨hhalt, block', List.mem_cons_of_mem _ hmem, hno⟩
      · have hread : readCString block = none := by
          unfold readCString
          rw [if_neg hnul]
        refine .inr ⟨?_, block, List.mem_cons_self .., hnul⟩
        simp only [type11Values, hread]

theorem type17Table_halt (o : Options) (i size : Nat) : (type17Table o i size).halt =
    if sizeMb size < MAX_T17_EXT_SZ then none else some (.fault .type17SizeAssert) := by
  unfold type17Table
  by_cases hstd : sizeMb size < MAX_T17_STD_SZ
  · have hext : sizeMb size < MAX_T17_EXT_SZ := Nat.lt_trans hstd (by decide)
    rw [if_pos hstd, if_pos hext]
    rfl
  · rw [if_neg hstd]
    split <;> rfl

theorem type19Table_halt (i offset start size : Nat) : (type19Table i offset start size).halt =
    if rangeEnd start size > start then none else some (.fault .type19RangeAssert) := by
  unfold type19Table
  split <;> rfl

/-! ### The faults, part by part -/

theorem faultFrom_append_silent {p : TableScript} (hp : ∀ t ∈ p.cmds, t.report = none)
    (q : TableScript) :
    faultFrom none (p.append q) = (faultFrom none p).or (faultFrom none q) := by
  rw [faultFrom_append, firstReport_complete hp]
  rfl

/-- Tables whose only fault is `f`. -/
theorem faultOf_uniform {f : Fault} {ts : List Table}
    (hts : ∀ t ∈ ts, t.halt = none ∨ t.halt = some (.fault f)) (errp : Option Error) :
    faultOf errp ts = none ∧ (∀ t ∈ ts, t.halt = none) ∨
      faultOf errp ts = some f ∧ ∃ t ∈ ts, t.halt ≠ none := by
  induction ts with
  | nil => exact .inl ⟨rfl, fun _ ht => by cases ht⟩
  | cons t ts ih =>
    rcases hts t (List.mem_cons_self ..) with hhalt | hhalt
    · have hcons : faultOf errp (t :: ts) = faultOf errp ts := by simp only [faultOf, hhalt]
      rw [hcons]
      rcases ih fun t' h' => hts t' (List.mem_cons_of_mem _ h') with
        ⟨hf, hall⟩ | ⟨hf, t', hmem, hne⟩
      · exact .inl ⟨hf, List.forall_mem_cons.mpr ⟨hhalt, hall⟩⟩
      · exact .inr ⟨hf, t', List.mem_cons_of_mem _ hmem, hne⟩
    · refine .inr ⟨by simp only [faultOf, hhalt], t, List.mem_cons_self .., ?_⟩
      rw [hhalt]
      exact fun hne => by cases hne

theorem oem_fault :
    faultFrom none (ofList (oemTables o) : TableScript) = none ∧ ValuesTerminated o ∨
      faultFrom none (ofList (oemTables o) : TableScript) = some .unterminatedString ∧
        ¬ValuesTerminated o := by
  unfold ValuesTerminated oemTables
  simp only [faultFrom, ofList, Option.or_none]
  split
  · rename_i hnil
    exact .inl ⟨rfl, fun _ block hb => by rw [hnil] at hb; cases hb⟩
  · cases hskip : smbiosSkipTable o 11 true with
    | true => exact .inl ⟨by simp [Options.opt, hskip, faultOf], fun hb => by cases hb⟩
    | false =>
      have hopt : o.opt 11 true [type11Table o] = [type11Table o] := by
        simp [Options.opt, hskip]
      have hhalt : (type11Table o).halt = (type11Values o.type11).2 := rfl
      rw [hopt]
      rcases type11Values_halt o.type11 with ⟨hnone, hall⟩ | ⟨hsome, block, hmem, hno⟩
      · exact .inl ⟨by simp only [faultOf, hhalt, hnone], fun _ => hall⟩
      · exact .inr ⟨by simp only [faultOf, hhalt, hsome], fun hall => hno (hall rfl block hmem)⟩

theorem dimm_fault :
    faultFrom none (ofList (arrayTables ms o ++ dimmTables ms o) : TableScript) = none ∧
        ChunksFit ms o ∨
      faultFrom none (ofList (arrayTables ms o ++ dimmTables ms o) : TableScript) =
        some .type17SizeAssert ∧ ¬ChunksFit ms o := by
  have harray : ∀ t ∈ arrayTables ms o, t.halt = none := by
    intro t ht
    rw [List.mem_singleton.mp (mem_opt.mp ht).2]
    rfl
  simp only [faultFrom, ofList, Option.or_none]
  rw [faultOf_complete_append harray]
  unfold ChunksFit dimmTables
  cases hskip : smbiosSkipTable o 17 true with
  | true => exact .inl ⟨by simp [Options.opt, hskip, faultOf], fun hb => by cases hb⟩
  | false =>
    have hone : ∀ t ∈ (List.range' 0 (dimmCnt ms)).map fun i => type17Table o i (getDimmSz ms i),
        t.halt = none ∨ t.halt = some (.fault .type17SizeAssert) := by
      intro t ht
      obtain ⟨i, -, rfl⟩ := List.mem_map.mp ht
      rw [type17Table_halt]
      split
      · exact .inl rfl
      · exact .inr rfl
    simp only [Options.opt, hskip, Bool.false_eq_true, if_false]
    rcases faultOf_uniform hone none with ⟨hf, hall⟩ | ⟨hf, t, hmem, hne⟩
    · refine .inl ⟨hf, fun _ i hi => ?_⟩
      have hnone := hall _ (List.mem_map_of_mem (List.mem_range'_1.mpr ⟨Nat.zero_le i, by omega⟩))
      rw [type17Table_halt] at hnone
      by_contra hbig
      rw [if_neg hbig] at hnone
      cases hnone
    · refine .inr ⟨hf, fun hall => hne ?_⟩
      obtain ⟨i, hi, rfl⟩ := List.mem_map.mp hmem
      rw [type17Table_halt, if_pos (hall trivial i (by simpa using (List.mem_range'_1.mp hi).2))]

/-- The fault of the loop over types 19 and 20, for `n` chunks from chunk `i` on. -/
def mappedFault (ms : Machine) (o : Options) : (n i : Nat) → Option Fault
  | 0, _ => none
  | n + 1, i =>
    match ms.memArray[i]? with
    | none => some (.memArrayOutOfBounds i)
    | some a =>
      if rangeEnd a.address.toNat (getDimmSz ms i) > a.address.toNat then mappedFault ms o n (i + 1)
      else if smbiosSkipTable o 19 true then some .type20RangeAssert
      else some .type19RangeAssert

theorem mapped_fault : ∀ n i, faultFrom none (mappedScript ms o n i) = mappedFault ms o n i
  | 0, _ => rfl
  | n + 1, i => by
    have ih := mapped_fault n (i + 1)
    unfold mappedFault
    cases ha : ms.memArray[i]? with
    | none => simp only [mappedScript, ha, faultFrom, raise, faultOf, Option.none_or]
    | some a =>
      have hhalt := type19Table_halt i (handleOffset ms) a.address.toNat (getDimmSz ms i)
      have h19 : ∀ t ∈ o.opt 19 true
          [type19Table i (handleOffset ms) a.address.toNat (getDimmSz ms i)], t.report = none := by
        intro t ht
        rw [List.mem_singleton.mp (mem_opt.mp ht).2]
        exact type19Table_report ..
      have h20 : ∀ t ∈ o.opt 20 true [type20Table a.address.toNat (getDimmSz ms i)],
          t.halt = none := by
        intro t ht
        rw [List.mem_singleton.mp (mem_opt.mp ht).2]
        rfl
      unfold mappedScript
      simp only [ha]
      rw [faultFrom_append_silent h19]
      split
      · rename_i hok
        rw [if_pos hok] at hhalt
        have hfault19 : faultOf none (o.opt 19 true
            [type19Table i (handleOffset ms) a.address.toNat (getDimmSz ms i)]) = none :=
          faultOf_complete (fun t ht => by
            rw [List.mem_singleton.mp (mem_opt.mp ht).2]
            exact hhalt) none
        have hnil : ∀ q : TableScript, nil.append q = q := fun _ => rfl
        rw [hnil, faultFrom_append_silent fun t ht => report_of_complete (h20 t ht), ih]
        simp only [faultFrom, ofList, hfault19, faultOf_complete h20, Option.or_none,
          Option.none_or]
      · rename_i hbad
        rw [if_neg hbad] at hhalt
        have hraise : (raise .type20RangeAssert : TableScript).append
            ((ofList (o.opt 20 true [type20Table a.address.toNat (getDimmSz ms i)])).append
              (mappedScript ms o n (i + 1))) = raise .type20RangeAssert := rfl
        rw [hraise]
        cases hskip : smbiosSkipTable o 19 true with
        | true => simp [faultFrom, ofList, Options.opt, hskip, faultOf, raise]
        | false => simp [faultFrom, ofList, Options.opt, hskip, faultOf, hhalt]

theorem mappedFault_eq_none : ∀ n i, mappedFault ms o n i = none ↔
    ∀ j, i ≤ j → j < i + n → ∃ a, ms.memArray[j]? = some a ∧ RangeOk ms j a
  | 0, i => ⟨fun _ j hlo hhi => absurd hhi (by omega), fun _ => rfl⟩
  | n + 1, i => by
    have ih := mappedFault_eq_none n (i + 1)
    unfold mappedFault
    cases ha : ms.memArray[i]? with
    | none =>
      refine ⟨fun hf => (nomatch hf), fun hall => ?_⟩
      obtain ⟨a, hsome, -⟩ := hall i (Nat.le_refl i) (by omega)
      rw [ha] at hsome
      cases hsome
    | some a =>
      by_cases hok : rangeEnd a.address.toNat (getDimmSz ms i) > a.address.toNat
      · simp only [if_pos hok]
        rw [ih]
        refine ⟨fun hall j hlo hhi => ?_, fun hall j hlo hhi => hall j (by omega) (by omega)⟩
        rcases Nat.eq_or_lt_of_le hlo with rfl | hlt
        · exact ⟨a, ha, hok⟩
        · exact hall j hlt (by omega)
      · simp only [if_neg hok]
        refine ⟨fun hf => (by split at hf <;> cases hf), fun hall => ?_⟩
        obtain ⟨a', hsome, hok'⟩ := hall i (Nat.le_refl i) (by omega)
        rw [ha, Option.some.injEq] at hsome
        rw [← hsome] at hok'
        exact absurd hok' hok

theorem mappedFault_outOfBounds : ∀ n i, i ≤ ms.memArray.length →
    ((∃ k, mappedFault ms o n i = some (.memArrayOutOfBounds k)) ↔
      ms.memArray.length < i + n ∧ ∀ j a, i ≤ j → ms.memArray[j]? = some a → RangeOk ms j a)
  | 0, i, hi => ⟨fun ⟨_, hk⟩ => (nomatch hk), fun ⟨hlt, _⟩ => absurd hlt (by omega)⟩
  | n + 1, i, hi => by
    unfold mappedFault
    cases ha : ms.memArray[i]? with
    | none =>
      have hlen := List.getElem?_eq_none_iff.mp ha
      refine ⟨fun _ => ⟨by omega, fun j a hlo hsome => ?_⟩, fun _ => ⟨i, rfl⟩⟩
      have := (List.getElem?_eq_some_iff.mp hsome).1
      omega
    | some a =>
      have hlt := (List.getElem?_eq_some_iff.mp ha).1
      have ih := mappedFault_outOfBounds n (i + 1) hlt
      by_cases hok : rangeEnd a.address.toNat (getDimmSz ms i) > a.address.toNat
      · simp only [if_pos hok]
        rw [ih]
        refine ⟨fun ⟨hlen, hall⟩ => ⟨by omega, fun j a' hlo hsome => ?_⟩,
          fun ⟨hlen, hall⟩ => ⟨by omega, fun j a' hlo => hall j a' (by omega)⟩⟩
        rcases Nat.eq_or_lt_of_le hlo with rfl | hlt'
        · rw [ha, Option.some.injEq] at hsome
          rw [← hsome]
          exact hok
        · exact hall j a' hlt' hsome
      · simp only [if_neg hok]
        refine ⟨fun ⟨k, hk⟩ => (by split at hk <;> cases hk), fun ⟨_, hall⟩ => ?_⟩
        exact absurd (hall i a (Nat.le_refl i) ha) hok

/-- The assertions of type 11 and of the memory calls, in source order. -/
theorem assertionFault_eq : assertionFault ms o =
    (faultFrom none (ofList (oemTables o) : TableScript)).or
      ((if ms.smbiosMemoryDeviceSize = 0 then some .divisionByZero else none).or
      ((faultFrom none (ofList (arrayTables ms o ++ dimmTables ms o) : TableScript)).or
      ((mappedFault ms o (dimmCnt ms) 0).or
      (if handleRangeOk ms then none else some .handleRangeAssert)))) := by
  have hoem : ∀ t ∈ oemTables o, t.report = none := by
    unfold oemTables
    split
    · exact fun t ht => nomatch ht
    · intro t ht
      rw [List.mem_singleton.mp (mem_opt.mp ht).2]
      exact type11Table_report o
  have hdimm : ∀ t ∈ arrayTables ms o ++ dimmTables ms o, t.report = none := by
    intro t ht
    rcases List.mem_append.mp ht with harray | hdimm
    · rw [List.mem_singleton.mp (mem_opt.mp harray).2]
      rfl
    · obtain ⟨i, -, rfl⟩ := List.mem_map.mp (mem_opt.mp hdimm).2
      exact type17Table_report ..
  have hmapped : ∀ t ∈ (mappedScript ms o (dimmCnt ms) 0).cmds, t.report = none := by
    have hall : (mappedScript ms o (dimmCnt ms) 0).All fun t =>
        t.report = none ∧ Unskipped o true t :=
      mappedScript_all (fun _ _ => type19Table_report ..) (fun _ _ => rfl) _ _
    exact fun t ht => (hall t ht).1
  have hbattery : ∀ t ∈ batteryTables o, t.halt = none := by
    intro t ht
    rw [List.mem_singleton.mp (mem_opt.mp ht).2]
    rfl
  have hdevice : ∀ t ∈ (if ms.smbiosMemoryDeviceSize = 0 then raise Fault.divisionByZero
      else nil : TableScript).cmds, t.report = none := by
    split <;> exact fun t ht => nomatch ht
  unfold assertionFault assertingScript memoryScript
  rw [faultFrom_append_silent hoem, faultFrom_append_silent hdevice, faultFrom_append_silent hdimm,
    faultFrom_append_silent hmapped,
    faultFrom_append_silent fun t ht => report_of_complete (hbattery t ht), mapped_fault]
  congr 2
  · split <;> rfl
  · congr 2
    simp only [faultFrom, ofList, faultOf_complete hbattery, Option.none_or]
    split <;> rfl

/-- **Type 11 and the memory calls run through exactly when what they rely on holds.** -/
theorem assertionFault_eq_none : assertionFault ms o = none ↔ AssertionsHold ms o := by
  rw [assertionFault_eq, Option.or_eq_none_iff, Option.or_eq_none_iff, Option.or_eq_none_iff,
    Option.or_eq_none_iff, mappedFault_eq_none]
  constructor
  · rintro ⟨hoem, hdev, hdimm, hmapped, hrange⟩
    have hlen : dimmCnt ms ≤ ms.memArray.length := by
      by_contra hlt
      obtain ⟨a, ha, -⟩ := hmapped ms.memArray.length (Nat.zero_le _) (by omega)
      exact absurd (List.getElem?_eq_some_iff.mp ha).1 (by omega)
    refine ⟨?_, ?_, ?_, hlen, fun i a hi ha => ?_, ?_⟩
    · rcases @oem_fault o with ⟨-, hok⟩ | ⟨hbad, -⟩
      · exact hok
      · rw [hoem] at hbad
        cases hbad
    · intro hzero
      rw [if_pos hzero] at hdev
      cases hdev
    · rcases @dimm_fault ms o with ⟨-, hok⟩ | ⟨hbad, -⟩
      · exact hok
      · rw [hdimm] at hbad
        cases hbad
    · obtain ⟨a', ha', hok⟩ := hmapped i (Nat.zero_le _) (by omega)
      rw [ha, Option.some.injEq] at ha'
      rw [ha']
      exact hok
    · by_contra hbad
      rw [if_neg hbad] at hrange
      cases hrange
  · intro hold
    refine ⟨?_, if_neg hold.device, ?_, fun j _ hj => ?_, if_pos hold.handles⟩
    · rcases @oem_fault o with ⟨hok, -⟩ | ⟨-, hbad⟩
      · exact hok
      · exact absurd hold.terminated hbad
    · rcases @dimm_fault ms o with ⟨hok, -⟩ | ⟨-, hbad⟩
      · exact hok
      · exact absurd hold.chunks hbad
    · have hlt : j < ms.memArray.length := by
        have := hold.areas
        omega
      have ha := List.getElem?_eq_getElem hlt
      exact ⟨_, ha, hold.ranges j _ (by omega) ha⟩

/-- The memory calls of a machine with one chunk. -/
theorem assertionsHold_one (hterm : ValuesTerminated o) (hdev : ms.smbiosMemoryDeviceSize ≠ 0)
    (hcnt : dimmCnt ms = 1) (hchunk : sizeMb (getDimmSz ms 0) < MAX_T17_EXT_SZ)
    {a : SmbiosPhysMemArea} (ha : ms.memArray[0]? = some a) (hok : RangeOk ms 0 a)
    (hhandles : handleRangeOk ms) : AssertionsHold ms o where
  terminated := hterm
  device := hdev
  chunks _ i hi := by
    rw [hcnt, Nat.lt_one_iff] at hi
    rw [hi]
    exact hchunk
  areas := by
    rw [hcnt]
    exact (List.getElem?_eq_some_iff.mp ha).1
  ranges i b hi hb := by
    rw [hcnt, Nat.lt_one_iff] at hi
    subst hi
    rw [ha, Option.some.injEq] at hb
    rw [← hb]
    exact hok
  handles := hhandles

/-- The memory of `Machine.small` is one chunk in one area. -/
theorem assertionsHold_small (hterm : ValuesTerminated o) : AssertionsHold .small o :=
  assertionsHold_one hterm (by decide) (by decide) (by decide) rfl
    (by unfold RangeOk; decide +kernel) (by decide)

/-- **The memory calls read behind the last area exactly when they get there and the DIMM chunks
outnumber the areas.** -/
theorem assertionFault_outOfBounds :
    (∃ k, assertionFault ms o = some (.memArrayOutOfBounds k)) ↔ ReadsBehindAreas ms o := by
  have hmapped := @mappedFault_outOfBounds ms o (dimmCnt ms) 0 (Nat.zero_le _)
  rw [assertionFault_eq]
  constructor
  · rintro ⟨k, hk⟩
    rcases @oem_fault o with ⟨hoem, hterm⟩ | ⟨hoem, -⟩
    · rw [hoem, Option.none_or] at hk
      by_cases hdev : ms.smbiosMemoryDeviceSize = 0
      · rw [if_pos hdev, Option.some_or] at hk
        cases hk
      · rw [if_neg hdev, Option.none_or] at hk
        rcases @dimm_fault ms o with ⟨hdimm, hchunks⟩ | ⟨hdimm, -⟩
        · rw [hdimm, Option.none_or] at hk
          cases hf : mappedFault ms o (dimmCnt ms) 0 with
          | none =>
            rw [hf, Option.none_or] at hk
            split at hk <;> cases hk
          | some f =>
            rw [hf, Option.some_or] at hk
            obtain ⟨hlt, hall⟩ := hmapped.mp ⟨k, hf ▸ hk⟩
            exact ⟨hterm, hdev, hchunks, by omega, fun i a ha => hall i a (Nat.zero_le _) ha⟩
        · rw [hdimm, Option.some_or] at hk
          cases hk
    · rw [hoem, Option.some_or] at hk
      cases hk
  · intro hread
    obtain ⟨k, hk⟩ := hmapped.mpr
      ⟨by have := hread.areas; omega, fun j a _ ha => hread.ranges j a ha⟩
    refine ⟨k, ?_⟩
    have hoem : faultFrom none (ofList (oemTables o) : TableScript) = none := by
      rcases @oem_fault o with ⟨hok, -⟩ | ⟨-, hbad⟩
      · exact hok
      · exact absurd hread.terminated hbad
    have hdimm : faultFrom none (ofList (arrayTables ms o ++ dimmTables ms o) : TableScript) =
        none := by
      rcases @dimm_fault ms o with ⟨hok, -⟩ | ⟨-, hbad⟩
      · exact hok
      · exact absurd hread.chunks hbad
    rw [hoem, if_neg hread.device, hdimm, hk]
    rfl

theorem or_ne_some {α : Type} {a b : Option α} {x : α} (ha : a ≠ some x) (hb : b ≠ some x) :
    a.or b ≠ some x := by
  cases a with
  | none => exact hb
  | some y => exact ha

theorem mappedFault_ne_alreadySet : ∀ n i, mappedFault ms o n i ≠ some .errorAlreadySet
  | 0, _ => by simp [mappedFault]
  | n + 1, i => by
    unfold mappedFault
    split
    · simp
    · split
      · exact mappedFault_ne_alreadySet n (i + 1)
      · split <;> simp

/-- The assertions are no second error. -/
theorem assertionFault_ne_alreadySet : assertionFault ms o ≠ some .errorAlreadySet := by
  rw [assertionFault_eq]
  refine or_ne_some ?_ (or_ne_some ?_ (or_ne_some ?_ (or_ne_some
    (mappedFault_ne_alreadySet _ _) ?_)))
  · rcases @oem_fault o with ⟨hf, -⟩ | ⟨hf, -⟩ <;> simp [hf]
  · split <;> simp
  · rcases @dimm_fault ms o with ⟨hf, -⟩ | ⟨hf, -⟩ <;> simp [hf]
  · split <;> simp

end Smbios
