import Mathlib.Data.List.Perm.Basic
import PveAntiDetection.Smbios.Ends

/-!
# Published passes

* `Publishes` — the conditions under which a pass publishes its tables (`publishes_of_run`,
  `run_of_publishes`);
* `getTables_lastPass`, `getTables_published` — what a call of `smbios_get_tables` that returns, or
  that publishes, has done in its last pass;
* `plannedTables_eq` — the tables of such a pass, one list behind another.
-/

set_option autoImplicit false

namespace Smbios

open Script

variable {h : Host} {ep : SmbiosEntryPointType} {ms : Machine} {o : Options} {s s' : State}

/-- The pass for `ep` publishes its tables. -/
structure Publishes (h : Host) (ep : SmbiosEntryPointType) (ms : Machine) (o : Options) : Prop where
  notAuto : ep ≠ .auto
  sockets : ms.sockets.toNat ≠ 0
  accepted : type4Rejects ep ms o = false
  hold : AssertionsHold ms o
  once : slotFails h o = false ∨ deviceFails h o = false
  fits : ¬TooLong h ep ms o

/-- **What `smbios_get_tables_ep` returns and leaves when it publishes.** -/
theorem run_of_publishes (hh : h.Contract) (hpub : Publishes h ep ms s.opts) :
    smbiosGetTablesEp h ep ms s =
      .ok (some (publishedOf ep (Build.planned h ep ms s.opts).buf))
        ⟨s.opts.consumed, Build.planned h ep ms s.opts,
          some (entryPointOf ep (Build.planned h ep ms s.opts).buf)⟩ := by
  have hrun := @smbiosGetTablesEp_eq h ep ms hh hpub.notAuto s
  rw [epRun_published hh hpub.sockets hpub.accepted hpub.hold hpub.once hpub.fits] at hrun
  exact hrun

/-- **A pass that publishes meets the conditions.** -/
theorem publishes_of_run (hh : h.Contract) {p : Published}
    (hrun : smbiosGetTablesEp h ep ms s = .ok (some p) s') : Publishes h ep ms s.opts := by
  have hep : ep ≠ .auto := by
    rintro rfl
    have hfault : smbiosGetTablesEp h .auto ms s = .error .entryPointAssert s := rfl
    rw [hfault] at hrun
    cases hrun
  have heq := @smbiosGetTablesEp_eq h ep ms hh hep s
  have hend := @epRun_end h ep ms s.opts hh
  generalize epRun h ep ms s.opts = e at hend heq
  have hok : ∀ f, ¬Ended.Describes ep s.ep (.faulted f) (.ok (some p) s') := fun f ⟨_, hf⟩ => by
    cases hf
  have hsome : ∀ o b, ¬Ended.Describes ep s.ep (.refused o b) (.ok (some p) s') := fun o b hf => by
    cases hf
  rw [hrun] at heq
  cases hend with
  | noSocket => exact absurd heq (hok _)
  | rejected => exact absurd heq (hsome _ _)
  | asserted _ _ f => exact absurd heq (hok f)
  | twice => exact absurd heq (hok _)
  | tooLongTwice => exact absurd heq (hok _)
  | tooLong => exact absurd heq (hsome _ _)
  | published hsockets hrej hhold honce hfits => exact ⟨hep, hsockets, hrej, hhold, honce, hfits⟩

/-- The build state and the results behind a pass that publishes. -/
theorem planned_of_run (hh : h.Contract) {p : Published}
    (hrun : smbiosGetTablesEp h ep ms s = .ok (some p) s') :
    s'.bld = Build.planned h ep ms s.opts ∧
      p = publishedOf ep (Build.planned h ep ms s.opts).buf := by
  have hpub := publishes_of_run hh hrun
  rw [run_of_publishes hh hpub] at hrun
  simp only [EStateM.Result.ok.injEq, Option.some.injEq] at hrun
  obtain ⟨rfl, rfl⟩ := hrun
  exact ⟨rfl, rfl⟩

/-- A pass that returns has started the tables of its plan. -/
theorem planned_of_return (hh : h.Contract) {r : Option Published}
    (hrun : smbiosGetTablesEp h ep ms s = .ok r s') :
    s'.bld.started = plannedTables h ep ms s.opts ∧
      (type4Rejects ep ms s.opts = false → AssertionsHold ms s.opts) := by
  have hep : ep ≠ .auto := by
    rintro rfl
    have hfault : smbiosGetTablesEp h .auto ms s = .error .entryPointAssert s := rfl
    rw [hfault] at hrun
    cases hrun
  have heq := @smbiosGetTablesEp_eq h ep ms hh hep s
  have hend := @epRun_end h ep ms s.opts hh
  generalize epRun h ep ms s.opts = e at hend heq
  have hok : ∀ f, ¬Ended.Describes ep s.ep (.faulted f) (.ok r s') := fun f ⟨_, hf⟩ => by
    cases hf
  rw [hrun] at heq
  cases hend with
  | noSocket => exact absurd heq (hok _)
  | rejected _ hrej =>
    cases heq
    refine ⟨planned_started, fun hacc => ?_⟩
    rw [hrej] at hacc
    cases hacc
  | asserted _ _ f => exact absurd heq (hok f)
  | twice => exact absurd heq (hok _)
  | tooLongTwice => exact absurd heq (hok _)
  | tooLong _ _ hhold =>
    cases heq
    exact ⟨planned_started, fun _ => hhold⟩
  | published _ _ hhold =>
    cases heq
    exact ⟨planned_started, fun _ => hhold⟩

/-! ## Calls that return -/

/-- The tables that a pass has started, and the options it leaves. -/
theorem passEnd_started {e : Ended} (hend : PassEnd h ep ms o e) {o' : Options} {b : Build}
    (hstate : e.state? = some (o', b)) : (o' = o ∨ o' = o.consumed) ∧
      b.started = plannedTables h ep ms o ∧
        (type4Rejects ep ms o = false → AssertionsHold ms o) := by
  cases hend with
  | noSocket => cases hstate
  | asserted => cases hstate
  | twice => cases hstate
  | tooLongTwice => cases hstate
  | rejected _ hrej =>
    cases hstate
    refine ⟨.inl rfl, planned_started, fun hacc => ?_⟩
    rw [hrej] at hacc
    cases hacc
  | tooLong _ _ hhold =>
    cases hstate
    exact ⟨.inr rfl, planned_started, fun _ => hhold⟩
  | published _ _ hhold =>
    cases hstate
    exact ⟨.inr rfl, planned_started, fun _ => hhold⟩

/-- **A call that returns** ends with a pass over its options, perhaps without the strings of
type 11. -/
theorem getTables_lastPass (hh : h.Contract) {r : GetTablesResult}
    (hrun : smbiosGetTables h ep ms s = .ok r s') :
    ∃ ep' o, (o = s.opts ∨ o = s.opts.consumed) ∧ (epRun h ep' ms o).result ep' = .ok r ∧
      (epRun h ep' ms o).state? = some (s'.opts, s'.bld) := by
  obtain ⟨hresult, hleaves⟩ := @smbiosGetTables_eq h ms hh ep s
  rw [hrun] at hresult hleaves
  cases ep with
  | type32 => exact ⟨.type32, s.opts, .inl rfl, hresult.symm, hleaves.symm⟩
  | type64 => exact ⟨.type64, s.opts, .inl rfl, hresult.symm, hleaves.symm⟩
  | auto =>
    have hfirst := @epRun_end h .type32 ms s.opts hh
    simp only [getTablesRun] at hresult hleaves
    cases hend : epRun h .type32 ms s.opts with
    | faulted f =>
      rw [hend] at hleaves
      cases hleaves
    | published o b =>
      rw [hend] at hresult hleaves
      refine ⟨.type32, s.opts, .inl rfl, ?_, ?_⟩
      · rw [hend]
        exact hresult.symm
      · rw [hend]
        exact hleaves.symm
    | refused o b =>
      rw [hend] at hresult hleaves hfirst
      exact ⟨.type64, o, (passEnd_started hfirst rfl).1, hresult.symm, hleaves.symm⟩

/-- **A call that publishes** does so in its last pass. -/
theorem getTables_published (hh : h.Contract) {p : Published} {err : Option Error}
    (hrun : smbiosGetTables h ep ms s = .ok ⟨some p, err⟩ s') :
    ∃ ep' o, (o = s.opts ∨ o = s.opts.consumed) ∧ type4Rejects ep' ms o = false ∧
      AssertionsHold ms o ∧ s'.bld = Build.planned h ep' ms o ∧
        p = publishedOf ep' (Build.planned h ep' ms o).buf := by
  obtain ⟨ep', o, hopts, hresult, hstate⟩ := getTables_lastPass hh hrun
  have hend := @epRun_end h ep' ms o hh
  refine ⟨ep', o, hopts, ?_⟩
  generalize epRun h ep' ms o = e at hend hresult hstate
  cases hend with
  | published _ hrej hhold =>
    simp only [Ended.result, Except.ok.injEq, GetTablesResult.mk.injEq,
      Option.some.injEq] at hresult
    simp only [Ended.state?, Option.some.injEq, Prod.mk.injEq] at hstate
    exact ⟨hrej, hhold, hstate.2.symm, hresult.1.symm⟩
  | _ => simp [Ended.result] at hresult

/-- The 64-bit pass of `Machine.small` without PCI devices publishes tables, unless a type 9 and a
type 41 entry name one. -/
theorem publishes_small (hterm : ValuesTerminated o)
    (honce : slotFails .plain o = false ∨ deviceFails .plain o = false) :
    Publishes .plain .type64 .small o :=
  ⟨by decide, by decide, type4Rejects_type64, assertionsHold_small hterm, honce, not_tooLong_type64⟩

/-- The state behind `smbios_set_defaults` with `NULL` arguments. -/
def State.bare : State where
  opts := { haveDefaults := true }

theorem bare_terminated : ValuesTerminated State.bare.opts := fun _ _ hmem => nomatch hmem

/-! ## The tables of a published pass -/

/-- The address of the area that chunk `i` is placed at. -/
def chunkAddress (ms : Machine) (i : Nat) : Nat :=
  match ms.memArray[i]? with
  | none => 0
  | some a => a.address.toNat

/-- Types 19 and 20 of `n` chunks from chunk `i` on. -/
def mappedTables (ms : Machine) (o : Options) (n i : Nat) : List Table :=
  (List.range' i n).flatMap fun i =>
    o.opt 19 true [type19Table i (handleOffset ms) (chunkAddress ms i) (getDimmSz ms i)] ++
      o.opt 20 true [type20Table (chunkAddress ms i) (getDimmSz ms i)]

theorem mappedScript_eq : ∀ n i, (∀ j, i ≤ j → j < i + n →
    ∃ a, ms.memArray[j]? = some a ∧ RangeOk ms j a) →
    mappedScript ms o n i = ofList (mappedTables ms o n i)
  | 0, _, _ => rfl
  | n + 1, i, hall => by
    obtain ⟨a, ha, hok⟩ := hall i (Nat.le_refl i) (by omega)
    have haddr : chunkAddress ms i = a.address.toNat := by
      unfold chunkAddress
      rw [ha]
    have hok' : rangeEnd a.address.toNat (getDimmSz ms i) > a.address.toNat := hok
    have ih := mappedScript_eq n (i + 1) fun j hlo hhi => hall j (by omega) (by omega)
    unfold mappedScript
    simp only [ha, if_pos hok', ih]
    unfold mappedTables
    rw [List.range'_succ, List.flatMap_cons, haddr, List.append_assoc]
    rfl

theorem memoryScript_eq (hhold : AssertionsHold ms o) : memoryScript ms o =
    ofList ((arrayTables ms o ++ dimmTables ms o) ++
      (mappedTables ms o (dimmCnt ms) 0 ++ batteryTables o)) := by
  have hmapped := @mappedScript_eq ms o (dimmCnt ms) 0 fun j _ hj => by
    have hlt : j < ms.memArray.length := by
      have := hhold.areas
      omega
    have ha := List.getElem?_eq_getElem hlt
    exact ⟨_, ha, hhold.ranges j _ (by omega) ha⟩
  unfold memoryScript
  rw [if_neg hhold.device, if_pos hhold.handles, hmapped]
  simp [append, nil, ofList]

/-- **The tables of a published pass.** -/
theorem plannedTables_eq (hrej : type4Rejects ep ms o = false) (hhold : AssertionsHold ms o) :
    plannedTables h ep ms o =
      systemTables o ++ (processorTables ep ms o ++ (cacheTables ms o ++ (portTables o ++
        (slotTables h o ++ (oemTables o ++ (arrayTables ms o ++ (dimmTables ms o ++
          (mappedTables ms o (dimmCnt ms) 0 ++ (batteryTables o ++ probeTables h o))))))))) := by
  have hcmds : (assertingScript ms o).cmds = oemTables o ++ (memoryScript ms o).cmds := rfl
  unfold plannedTables
  rw [hrej, if_neg Bool.false_ne_true, restScript_cmds (assertionFault_eq_none.mpr hhold), hcmds,
    memoryScript_eq hhold]
  simp only [ofList, List.append_assoc]

/-! ## The tables of one type -/

/-- The types of the builders, in ascending order. -/
def builtTypes : List Nat :=
  [0, 1, 2, 3, 4, 7, 8, 9, 11, 16, 17, 19, 20, 22, 26, 27, 28, 29, 32, 37, 38, 39, 41, 127]

/-- The tables of a type that a published pass starts. -/
def tablesOf (h : Host) (ep : SmbiosEntryPointType) (ms : Machine) (o : Options) : Nat → List Table
  | 0 => o.opt 0 false [type0Table o]
  | 1 => o.opt 1 true [type1Table o]
  | 2 => o.opt 2 true [type2Table o]
  | 3 => o.opt 3 true [type3Table o]
  | 4 => processorTables ep ms o
  | 7 => cacheTables ms o
  | 8 => portTables o
  | 9 => slotTables h o
  | 11 => oemTables o
  | 16 => arrayTables ms o
  | 17 => dimmTables ms o
  | 19 => o.opt 19 true ((List.range' 0 (dimmCnt ms)).map fun i =>
      type19Table i (handleOffset ms) (chunkAddress ms i) (getDimmSz ms i))
  | 20 => o.opt 20 true ((List.range' 0 (dimmCnt ms)).map fun i =>
      type20Table (chunkAddress ms i) (getDimmSz ms i))
  | 22 => batteryTables o
  | 26 => o.opt 26 true [type26Table 0 (lit "LM78A") 0x6A, type26Table 1 (lit "LM78A-1") 0x67]
  | 27 => o.opt 27 true [type27Table 0 (lit "CPU FAN") 0x67]
  | 28 => o.opt 28 true [type28Table 0 (lit "LM78A") 0x63, type28Table 1 (lit "LM78A-1") 0x67]
  | 29 => o.opt 29 true [type29Table]
  | 32 => o.opt 32 true [type32Table]
  | 37 => o.opt 37 true [type37Table]
  | 38 => o.opt 38 true h.type38Tables
  | 39 => o.opt 39 true [type39Table]
  | 41 => deviceTables h o
  | 127 => endTables o
  | _ => []

theorem flatMap_opt {α : Type} (type : Nat) (required : Bool) (f : α → Table) (xs : List α) :
    (xs.flatMap fun x => o.opt type required [f x]) = o.opt type required (xs.map f) := by
  unfold Options.opt
  split
  · simp
  · exact List.map_eq_flatMap.symm

theorem mappedTables_perm :
    (mappedTables ms o (dimmCnt ms) 0).Perm (tablesOf h ep ms o 19 ++ tablesOf h ep ms o 20) := by
  unfold mappedTables tablesOf
  rw [← flatMap_opt, ← flatMap_opt]
  exact (List.flatMap_append_perm ..).symm

/-- **The tables of a published pass, sorted by type.** -/
theorem plannedTables_perm (hrej : type4Rejects ep ms o = false) (hhold : AssertionsHold ms o) :
    (plannedTables h ep ms o).Perm (builtTypes.flatMap (tablesOf h ep ms o)) := by
  have hmapped := @mappedTables_perm h ep ms o
  have hhead : plannedTables h ep ms o =
      (systemTables o ++ (processorTables ep ms o ++ (cacheTables ms o ++ (portTables o ++
        (slotTables h o ++ (oemTables o ++ (arrayTables ms o ++ dimmTables ms o))))))) ++
        (mappedTables ms o (dimmCnt ms) 0 ++ (batteryTables o ++ probeTables h o)) := by
    rw [plannedTables_eq hrej hhold]
    simp only [List.append_assoc]
  have htypes : builtTypes.flatMap (tablesOf h ep ms o) =
      (systemTables o ++ (processorTables ep ms o ++ (cacheTables ms o ++ (portTables o ++
        (slotTables h o ++ (oemTables o ++ (arrayTables ms o ++ dimmTables ms o))))))) ++
        ((tablesOf h ep ms o 19 ++ tablesOf h ep ms o 20) ++
          (batteryTables o ++ probeTables h o)) := by
    simp only [builtTypes, List.flatMap_cons, List.flatMap_nil, List.append_nil, systemTables,
      probeTables, sensorTables, supplyTables, List.append_assoc]
    rfl
  rw [hhead, htypes]
  exact (hmapped.append_right _).append_left _

/-- A table that a builder makes, with its type. -/
inductive BuiltTable (h : Host) (ep : SmbiosEntryPointType) (ms : Machine) (o : Options) :
    Nat → Table → Prop
  | bios : BuiltTable h ep ms o 0 (type0Table o)
  | system : BuiltTable h ep ms o 1 (type1Table o)
  | baseboard : BuiltTable h ep ms o 2 (type2Table o)
  | chassis : BuiltTable h ep ms o 3 (type3Table o)
  | processor (i : Nat) : BuiltTable h ep ms o 4 (type4Table o ms ep i)
  | cache (i : Nat) (d : CharPtr) (c m : UInt16) (e s a : UInt8) :
      BuiltTable h ep ms o 7 (type7Table i d c m e s a)
  | port (i : Nat) (t8 : Type8Instance) : BuiltTable h ep ms o 8 (type8Table i t8)
  | slot (i : Nat) (t9 : Type9Instance) : BuiltTable h ep ms o 9 (type9Table h i t9)
  | oem : BuiltTable h ep ms o 11 (type11Table o)
  | array : BuiltTable h ep ms o 16 (type16Table ms (dimmCnt ms))
  | dimm (i : Nat) (hi : i < dimmCnt ms) (hskip : smbiosSkipTable o 17 true = false) :
      BuiltTable h ep ms o 17 (type17Table o i (getDimmSz ms i))
  | mapped (i : Nat) (hi : i < dimmCnt ms) :
      BuiltTable h ep ms o 19
        (type19Table i (handleOffset ms) (chunkAddress ms i) (getDimmSz ms i))
  | chunk (i : Nat) : BuiltTable h ep ms o 20 (type20Table (chunkAddress ms i) (getDimmSz ms i))
  | battery : BuiltTable h ep ms o 22 type22Table
  | voltage (i : Nat) (d : CharPtr) (l : UInt8) : BuiltTable h ep ms o 26 (type26Table i d l)
  | cooling (i : Nat) (d : CharPtr) (s : UInt8) : BuiltTable h ep ms o 27 (type27Table i d s)
  | temperature (i : Nat) (d : CharPtr) (l : UInt8) : BuiltTable h ep ms o 28 (type28Table i d l)
  | current : BuiltTable h ep ms o 29 type29Table
  | boot : BuiltTable h ep ms o 32 type32Table
  | channel : BuiltTable h ep ms o 37 type37Table
  | ipmi (t : Table) (ht : t ∈ h.type38Tables) : BuiltTable h ep ms o 38 t
  | supply : BuiltTable h ep ms o 39 type39Table
  | device (i : Nat) (t41 : Type41Instance) : BuiltTable h ep ms o 41 (type41Table h i t41)
  | endOfTable : BuiltTable h ep ms o 127 type127Table

/-- **The tables of a type are made by its builder.** -/
theorem builtTable_of_mem {type : Nat} {t : Table} (ht : t ∈ tablesOf h ep ms o type) :
    BuiltTable h ep ms o type t := by
  have hone : ∀ {n : Nat} {required : Bool} {t u : Table}, BuiltTable h ep ms o n t →
      u ∈ o.opt n required [t] → BuiltTable h ep ms o n u := by
    intro n required t u hbuilt hu
    rw [List.mem_singleton.mp (mem_opt.mp hu).2]
    exact hbuilt
  unfold tablesOf at ht
  split at ht
  case h_1 => exact hone .bios ht
  case h_2 => exact hone .system ht
  case h_3 => exact hone .baseboard ht
  case h_4 => exact hone .chassis ht
  case h_5 =>
    obtain ⟨i, -, rfl⟩ := List.mem_map.mp (mem_untilHalt (mem_opt.mp ht).2)
    exact .processor i
  case h_6 =>
    have hmem := (mem_opt.mp ht).2
    simp only [List.mem_cons, List.not_mem_nil, or_false] at hmem
    rcases hmem with rfl | rfl | rfl | rfl <;> apply BuiltTable.cache
  case h_7 => exact mapIdx_forall .port t (mem_opt.mp ht).2
  case h_8 =>
    obtain ⟨i, -, rfl⟩ := List.mem_mapIdx.mp (mem_untilHalt (mem_opt.mp ht).2)
    apply BuiltTable.slot
  case h_9 =>
    unfold oemTables at ht
    split at ht
    · cases ht
    · exact hone .oem ht
  case h_10 => exact hone .array ht
  case h_11 =>
    obtain ⟨hskip, hmem⟩ := mem_opt.mp ht
    obtain ⟨i, hi, rfl⟩ := List.mem_map.mp hmem
    have hlt := (List.mem_range'_1.mp hi).2
    exact .dimm i (by omega) hskip
  case h_12 =>
    obtain ⟨i, hi, rfl⟩ := List.mem_map.mp (mem_opt.mp ht).2
    have hlt := (List.mem_range'_1.mp hi).2
    exact .mapped i (by omega)
  case h_13 =>
    obtain ⟨i, -, rfl⟩ := List.mem_map.mp (mem_opt.mp ht).2
    exact .chunk i
  case h_14 => exact hone .battery ht
  case h_15 =>
    have hmem := (mem_opt.mp ht).2
    simp only [List.mem_cons, List.not_mem_nil, or_false] at hmem
    rcases hmem with rfl | rfl <;> apply BuiltTable.voltage
  case h_16 => exact hone (.cooling 0 _ _) ht
  case h_17 =>
    have hmem := (mem_opt.mp ht).2
    simp only [List.mem_cons, List.not_mem_nil, or_false] at hmem
    rcases hmem with rfl | rfl <;> apply BuiltTable.temperature
  case h_18 => exact hone .current ht
  case h_19 => exact hone .boot ht
  case h_20 => exact hone .channel ht
  case h_21 => exact .ipmi t (mem_opt.mp ht).2
  case h_22 => exact hone .supply ht
  case h_23 =>
    obtain ⟨i, -, rfl⟩ := List.mem_mapIdx.mp (mem_untilHalt (mem_opt.mp ht).2)
    apply BuiltTable.device
  case h_24 => exact hone .endOfTable ht
  case h_25 => cases ht

theorem tablesOf_type (hh : h.Contract) {type : Nat} :
    ∀ t ∈ tablesOf h ep ms o type, t.type = type := by
  intro t ht
  cases builtTable_of_mem ht with
  | processor i => exact type4Table_type ..
  | slot i t9 => exact type9Table_type ..
  | dimm i => exact type17Table_type ..
  | mapped i => exact type19Table_type ..
  | ipmi t ht => exact hh.type38_type t ht
  | device i t41 => exact type41Table_type ..
  | _ => rfl

/-- **The tables of the types `S`.** -/
theorem filter_planned (hh : h.Contract) (hrej : type4Rejects ep ms o = false)
    (hhold : AssertionsHold ms o) (S : List Nat) :
    ((plannedTables h ep ms o).filter fun t => t.type ∈ S).Perm
      ((builtTypes.filter fun n => n ∈ S).flatMap (tablesOf h ep ms o)) := by
  refine ((plannedTables_perm hrej hhold).filter _).trans (List.Perm.of_eq ?_)
  generalize builtTypes = ns
  induction ns with
  | nil => rfl
  | cons n ns ih =>
    have htype := @tablesOf_type h ep ms o hh n
    rw [List.flatMap_cons, List.filter_append, ih, List.filter_cons]
    by_cases hn : n ∈ S
    · rw [List.filter_eq_self.mpr fun t ht => by simpa [htype t ht] using hn,
        if_pos (by simpa using hn), List.flatMap_cons]
    · rw [List.filter_eq_nil_iff.mpr fun t ht => by simpa [htype t ht] using hn,
        if_neg (by simpa using hn), List.nil_append]

end Smbios
