import PveAntiDetection.Smbios.Plan

/-!
# The shape of a plan

What the tables of a plan can be, without their bytes.

* `RestTable` — the tables behind the type 4 loop; `mem_rest` says that a table planned there is one
  of them and is of a type that is not skipped;
* `faultFrom_rest` — what stops the calls behind the type 4 loop;
* `planned_type4Count` — the number of complete type 4 tables.
-/

set_option autoImplicit false

namespace Smbios

open Script

/-! ## Lists of tables -/

theorem opt_cons (o : Options) (type : Nat) (required : Bool) (t u : Table) (ts : List Table) :
    o.opt type required (t :: u :: ts) =
      o.opt type required [t] ++ o.opt type required (u :: ts) := by
  unfold Options.opt
  split <;> rfl

/-- A loop whose tables all reach POST runs through. -/
theorem untilHalt_complete {ts : List Table} (hts : ∀ t ∈ ts, t.halt = none) :
    untilHalt ts = ts := by
  induction ts with
  | nil => rfl
  | cons t ts ih =>
    rw [untilHalt, if_pos (hts t (List.mem_cons_self ..)),
      ih fun t' h' => hts t' (List.mem_cons_of_mem _ h')]

theorem mem_opt {o : Options} {type : Nat} {required : Bool} {ts : List Table} {t : Table} :
    t ∈ o.opt type required ts ↔ smbiosSkipTable o type required = false ∧ t ∈ ts := by
  unfold Options.opt
  cases smbiosSkipTable o type required <;> simp

theorem untilHalt_initial (ts : List Table) : untilHalt ts <+: ts := by
  induction ts with
  | nil => exact List.prefix_refl _
  | cons t ts ih =>
    unfold untilHalt
    split
    · exact List.cons_prefix_cons.mpr ⟨rfl, ih⟩
    · exact ⟨ts, rfl⟩

theorem mem_untilHalt {ts : List Table} {t : Table} (ht : t ∈ untilHalt ts) : t ∈ ts :=
  (untilHalt_initial ts).subset ht

/-- A loop that meets no fault is stopped only if an error was reported before it, and in it. -/
theorem faultOf_untilHalt {ts : List Table} (hts : ∀ t ∈ ts, ∀ f, t.halt ≠ some (.fault f))
    (errp : Option Error) : faultOf errp (untilHalt ts) =
      if errp.isSome ∧ (firstReport (untilHalt ts)).isSome then some .errorAlreadySet
      else none := by
  induction ts with
  | nil => simp [untilHalt, faultOf, firstReport]
  | cons t ts ih =>
    have ih' := ih fun t' h' => hts t' (List.mem_cons_of_mem _ h')
    cases hhalt : t.halt with
    | none => simpa [untilHalt, hhalt, faultOf, firstReport, Table.report] using ih'
    | some halt =>
      cases halt with
      | fault f => exact absurd hhalt (hts t (List.mem_cons_self ..) f)
      | report e => cases errp <;> simp [untilHalt, hhalt, faultOf, firstReport, Table.report]

/-- Tables that report nothing fault whatever was reported before. -/
theorem faultOf_silent {ts : List Table} (hts : ∀ t ∈ ts, t.report = none) (errp : Option Error) :
    faultOf errp ts = faultOf none ts := by
  induction ts with
  | nil => rfl
  | cons t ts ih =>
    have ih' := ih fun t' h' => hts t' (List.mem_cons_of_mem _ h')
    have ht := hts t (List.mem_cons_self ..)
    cases hhalt : t.halt with
    | none => simpa only [faultOf, hhalt] using ih'
    | some halt =>
      cases halt with
      | fault f => simp only [faultOf, hhalt]
      | report e => simp [Table.report, hhalt] at ht

/-- Tables that reach POST in front of others change neither their faults nor their reports. -/
theorem firstReport_complete_append {ts : List Table} (hts : ∀ t ∈ ts, t.halt = none)
    (us : List Table) : firstReport (ts ++ us) = firstReport us := by
  rw [firstReport_append, firstReport_complete fun t ht => ?_, Option.none_or]
  unfold Table.report
  rw [hts t ht]

theorem faultOf_complete_append {ts : List Table} (hts : ∀ t ∈ ts, t.halt = none)
    (us : List Table) (errp : Option Error) : faultOf errp (ts ++ us) = faultOf errp us := by
  have hfirst := firstReport_complete_append hts []
  rw [List.append_nil] at hfirst
  rw [faultOf_append, faultOf_complete hts, hfirst]
  simp [firstReport]

theorem report_of_complete {t : Table} (ht : t.halt = none) : t.report = none := by
  unfold Table.report
  rw [ht]

theorem mapIdx_forall {α : Type} {P : Table → Prop} {f : Nat → α → Table} {xs : List α}
    (hf : ∀ i x, P (f i x)) : ∀ t ∈ xs.mapIdx f, P t := by
  intro t ht
  obtain ⟨i, hi, rfl⟩ := List.mem_mapIdx.mp ht
  exact hf _ _

theorem type9Table_type (h : Host) (i : Nat) (t9 : Type9Instance) :
    (type9Table h i t9).type = 9 := by
  unfold type9Table
  split
  · split <;> rfl
  · rfl

theorem type41Table_type (h : Host) (i : Nat) (t41 : Type41Instance) :
    (type41Table h i t41).type = 41 := by
  unfold type41Table
  split
  · split <;> rfl
  · rfl

theorem type17Table_type (o : Options) (i size : Nat) : (type17Table o i size).type = 17 := by
  unfold type17Table
  split
  · rfl
  · split <;> rfl

theorem type19Table_type (i offset start size : Nat) :
    (type19Table i offset start size).type = 19 := by
  unfold type19Table
  split <;> rfl

theorem type20Table_type (start size : Nat) : (type20Table start size).type = 20 := rfl

theorem type4Table_type (o : Options) (ms : Machine) (ep : SmbiosEntryPointType) (i : Nat) :
    (type4Table o ms ep i).type = 4 := by
  unfold type4Table
  split <;> rfl

theorem type4Table_halt (o : Options) (ms : Machine) (ep : SmbiosEntryPointType) (i : Nat) :
    (type4Table o ms ep i).halt =
      if ep != .type64 && countsSaturated ms then some (.report .type4Unrepresentable)
      else none := by
  unfold type4Table
  by_cases hep : ep = .type64
  · simp only [hep, if_true]
    rfl
  · have hne : (ep != .type64) = true := by simpa using hep
    simp only [hep, if_false, hne, Bool.true_and]
    rfl

/-- The type 4 tables from socket `i` on. -/
def type4From (o : Options) (ms : Machine) (ep : SmbiosEntryPointType) (n i : Nat) : List Table :=
  o.opt 4 true (untilHalt ((List.range' i n).map (type4Table o ms ep)))

theorem type4From_succ (o : Options) (ms : Machine) (ep : SmbiosEntryPointType) (n i : Nat)
    (hskip : smbiosSkipTable o 4 true = false) :
    type4From o ms ep (n + 1) i =
      if (type4Table o ms ep i).halt = none then type4Table o ms ep i :: type4From o ms ep n (i + 1)
      else [type4Table o ms ep i] := by
  simp only [type4From, Options.opt, hskip, Bool.false_eq_true, if_false, List.range'_succ,
    List.map_cons, untilHalt]

/-! ## The tables of a plan -/

/-- The tables of the calls behind the type 4 loop. -/
inductive RestTable (h : Host) (ms : Machine) (o : Options) : Table → Prop
  | cache (i : Nat) (d : CharPtr) (c m : UInt16) (e s a : UInt8) :
      RestTable h ms o (type7Table i d c m e s a)
  | port (i : Nat) (t8 : Type8Instance) : RestTable h ms o (type8Table i t8)
  | slot (i : Nat) (t9 : Type9Instance) (ht9 : t9 ∈ o.type9) : RestTable h ms o (type9Table h i t9)
  | oem : RestTable h ms o (type11Table o)
  | array : RestTable h ms o (type16Table ms (dimmCnt ms))
  | dimm (i : Nat) : RestTable h ms o (type17Table o i (getDimmSz ms i))
  | mapped (i : Nat) (a : SmbiosPhysMemArea) :
      RestTable h ms o (type19Table i (handleOffset ms) a.address.toNat (getDimmSz ms i))
  | chunk (i : Nat) (a : SmbiosPhysMemArea) :
      RestTable h ms o (type20Table a.address.toNat (getDimmSz ms i))
  | battery : RestTable h ms o type22Table
  | voltage (i : Nat) (d : CharPtr) (l : UInt8) : RestTable h ms o (type26Table i d l)
  | cooling (d : CharPtr) (s : UInt8) : RestTable h ms o (type27Table 0 d s)
  | temperature (i : Nat) (hi : i < 2) (d : CharPtr) (l : UInt8) :
      RestTable h ms o (type28Table i d l)
  | current : RestTable h ms o type29Table
  | boot : RestTable h ms o type32Table
  | channel : RestTable h ms o type37Table
  | ipmi (t : Table) (ht : t ∈ h.type38Tables) : RestTable h ms o t
  | supply : RestTable h ms o type39Table
  | device (i : Nat) (t41 : Type41Instance) (ht41 : t41 ∈ o.type41) :
      RestTable h ms o (type41Table h i t41)
  | endOfTable : RestTable h ms o type127Table

/-- A table of a type that is built. -/
def Unskipped (o : Options) (required : Bool) (t : Table) : Prop :=
  smbiosSkipTable o t.type required = false

variable {h : Host} {ep : SmbiosEntryPointType} {ms : Machine} {o : Options}

/-- A family of one type, from its members. -/
theorem opt_unskipped {P : Table → Prop} {type : Nat} {required : Bool} {ts : List Table}
    (hts : ∀ t ∈ ts, t.type = type ∧ P t) :
    ∀ t ∈ o.opt type required ts, P t ∧ Unskipped o required t := by
  intro t ht
  obtain ⟨hskip, hmem⟩ := mem_opt.mp ht
  obtain ⟨htype, hP⟩ := hts t hmem
  refine ⟨hP, ?_⟩
  unfold Unskipped
  rw [htype]
  exact hskip

theorem opt_one {P : Table → Prop} {type : Nat} {required : Bool} {t : Table}
    (htype : t.type = type) (hP : P t) :
    ∀ t' ∈ o.opt type required [t], P t' ∧ Unskipped o required t' :=
  opt_unskipped fun t' h' => by
    rw [List.mem_singleton.mp h']
    exact ⟨htype, hP⟩

section
variable {P : Table → Prop}

theorem mappedScript_all
    (h19 : ∀ i (a : SmbiosPhysMemArea),
      P (type19Table i (handleOffset ms) a.address.toNat (getDimmSz ms i)))
    (h20 : ∀ i (a : SmbiosPhysMemArea), P (type20Table a.address.toNat (getDimmSz ms i))) :
    ∀ n i, (mappedScript ms o n i).All fun t => P t ∧ Unskipped o true t
  | 0, _ => All.nil
  | n + 1, i => by
    unfold mappedScript
    split
    · exact All.raise _
    · rename_i a _
      refine All.append (opt_one (type19Table_type ..) (h19 i a)) (All.append ?_
        (All.append (opt_one (type20Table_type ..) (h20 i a)) (mappedScript_all h19 h20 n (i + 1))))
      split
      · exact All.nil
      · exact All.raise _

/-- What type 11 and the memory tables have in common. -/
theorem assertingScript_all (h11 : P (type11Table o)) (h16 : P (type16Table ms (dimmCnt ms)))
    (h17 : ∀ i, P (type17Table o i (getDimmSz ms i)))
    (h19 : ∀ i (a : SmbiosPhysMemArea),
      P (type19Table i (handleOffset ms) a.address.toNat (getDimmSz ms i)))
    (h20 : ∀ i (a : SmbiosPhysMemArea), P (type20Table a.address.toNat (getDimmSz ms i)))
    (h22 : P type22Table) : (assertingScript ms o).All fun t => P t ∧ Unskipped o true t := by
  have hoem : ∀ t ∈ oemTables o, P t ∧ Unskipped o true t := by
    unfold oemTables
    split
    · intro t ht
      cases ht
    · exact opt_one rfl h11
  have hdimm : ∀ t ∈ dimmTables ms o, P t ∧ Unskipped o true t :=
    opt_unskipped fun t ht => by
      obtain ⟨i, -, rfl⟩ := List.mem_map.mp ht
      exact ⟨type17Table_type .., h17 i⟩
  refine All.append hoem (All.append ?_ (All.append (List.forall_mem_append.mpr
    ⟨opt_one rfl h16, hdimm⟩) (All.append (mappedScript_all h19 h20 _ _) (All.append
    (opt_one rfl h22) ?_))))
  · split
    · exact All.raise _
    · exact All.nil
  · split
    · exact All.nil
    · exact All.raise _
end

/-- **A table behind the type 4 loop** is one of the builders', of a type that is built. -/
theorem mem_rest (hh : h.Contract) :
    (restScript h ms o).All fun t => RestTable h ms o t ∧ Unskipped o true t := by
  have hport : ∀ t ∈ portTables o, RestTable h ms o t ∧ Unskipped o true t :=
    opt_unskipped (mapIdx_forall fun i x => ⟨rfl, .port i x⟩)
  have hcache : ∀ t ∈ cacheTables ms o, RestTable h ms o t ∧ Unskipped o true t := by
    refine opt_unskipped fun t ht => ?_
    simp only [List.mem_cons, List.not_mem_nil, or_false] at ht
    rcases ht with rfl | rfl | rfl | rfl <;> exact ⟨rfl, .cache ..⟩
  have hslot : ∀ t ∈ slotTables h o, RestTable h ms o t ∧ Unskipped o true t :=
    opt_unskipped fun t ht => by
      obtain ⟨i, hi, rfl⟩ := List.mem_mapIdx.mp (mem_untilHalt ht)
      exact ⟨type9Table_type .., .slot i _ (List.getElem_mem hi)⟩
  have hdevice : ∀ t ∈ deviceTables h o, RestTable h ms o t ∧ Unskipped o true t :=
    opt_unskipped fun t ht => by
      obtain ⟨i, hi, rfl⟩ := List.mem_mapIdx.mp (mem_untilHalt ht)
      exact ⟨type41Table_type .., .device i _ (List.getElem_mem hi)⟩
  have hsensor : ∀ t ∈ sensorTables o, RestTable h ms o t ∧ Unskipped o true t := by
    simp only [sensorTables, List.forall_mem_append]
    refine ⟨opt_unskipped fun t ht => ?_, opt_one rfl (.cooling ..),
      opt_unskipped fun t ht => ?_, opt_one rfl .current, opt_one rfl .boot, opt_one rfl .channel⟩
    · simp only [List.mem_cons, List.not_mem_nil, or_false] at ht
      rcases ht with rfl | rfl <;> exact ⟨rfl, .voltage ..⟩
    · simp only [List.mem_cons, List.not_mem_nil, or_false] at ht
      rcases ht with rfl | rfl
      · exact ⟨rfl, .temperature 0 (by decide) ..⟩
      · exact ⟨rfl, .temperature 1 (by decide) ..⟩
  have hsupply : ∀ t ∈ supplyTables h o, RestTable h ms o t ∧ Unskipped o true t :=
    List.forall_mem_append.mpr ⟨opt_unskipped fun t ht => ⟨hh.type38_type t ht, .ipmi t ht⟩,
      opt_one rfl .supply⟩
  refine All.append ?_ (All.append (assertingScript_all .oem .array .dimm .mapped .chunk
    .battery) ?_)
  · exact List.forall_mem_append.mpr ⟨hcache, List.forall_mem_append.mpr ⟨hport, hslot⟩⟩
  · exact List.forall_mem_append.mpr ⟨hsensor, List.forall_mem_append.mpr ⟨hsupply,
      List.forall_mem_append.mpr ⟨hdevice, opt_one rfl .endOfTable⟩⟩⟩

/-- No table behind the type 4 loop is of type 4. -/
theorem RestTable.type_ne_four (hh : h.Contract) {t : Table} (ht : RestTable h ms o t) :
    t.type ≠ 4 := by
  cases ht with
  | slot i t9 _ => rw [type9Table_type]; decide
  | dimm i => rw [type17Table_type]; decide
  | mapped i a => rw [type19Table_type]; decide
  | ipmi t ht => rw [hh.type38_type _ ht]; decide
  | device i t41 _ => rw [type41Table_type]; decide
  | _ => simp [type7Table, type8Table, type11Table, type16Table, type20Table, type22Table,
      type26Table, type27Table, type28Table, type29Table, type32Table, type37Table, type39Table,
      type127Table, tableOf]

/-! ## Ends -/

theorem systemTables_complete : ∀ t ∈ systemTables o, t.halt = none := by
  intro t ht
  simp only [systemTables, List.mem_append, mem_opt, List.mem_singleton] at ht
  rcases ht with ⟨-, rfl⟩ | ⟨-, rfl⟩ | ⟨-, rfl⟩ | ⟨-, rfl⟩ <;> rfl

theorem type9Table_noFault (h : Host) (i : Nat) (t9 : Type9Instance) (f : Fault) :
    (type9Table h i t9).halt ≠ some (.fault f) := by
  unfold type9Table
  split
  · split <;> simp [tableOf]
  · simp [tableOf]

theorem type41Table_noFault (h : Host) (i : Nat) (t41 : Type41Instance) (f : Fault) :
    (type41Table h i t41).halt ≠ some (.fault f) := by
  unfold type41Table
  split
  · split <;> simp [tableOf]
  · simp [tableOf]

/-- The tables in front of type 9 reach POST. -/
theorem cachesAndPorts_complete :
    ∀ t ∈ cacheTables ms o ++ portTables o, t.halt = none := by
  intro t ht
  rcases List.mem_append.mp ht with hcache | hport
  · have hmem := (mem_opt.mp hcache).2
    simp only [List.mem_cons, List.not_mem_nil, or_false] at hmem
    rcases hmem with rfl | rfl | rfl | rfl <;> rfl
  · obtain ⟨i, _, rfl⟩ := List.mem_mapIdx.mp (mem_opt.mp hport).2
    rfl

/-- The tables behind the handle assertion and in front of type 41 reach POST. -/
theorem sensorsAndSupplies_complete (hh : h.Contract) :
    ∀ t ∈ sensorTables o ++ supplyTables h o, t.halt = none := by
  intro t ht
  simp only [sensorTables, supplyTables, List.mem_append, mem_opt, List.mem_cons,
    List.not_mem_nil, or_false] at ht
  rcases ht with (⟨-, rfl | rfl⟩ | ⟨-, rfl⟩ | ⟨-, rfl | rfl⟩ | ⟨-, rfl⟩ | ⟨-, rfl⟩ | ⟨-, rfl⟩) |
    ⟨-, hipmi⟩ | ⟨-, rfl⟩
  all_goals first | rfl | exact hh.type38_complete _ hipmi

theorem type17Table_report (o : Options) (i size : Nat) : (type17Table o i size).report = none := by
  unfold type17Table
  split
  · rfl
  · split <;> rfl

theorem type19Table_report (i offset start size : Nat) :
    (type19Table i offset start size).report = none := by
  unfold type19Table
  split <;> rfl

theorem type11Values_noReport (vs : List (Option (List UInt8))) (e : Error) :
    (type11Values vs).2 ≠ some (.report e) := by
  induction vs with
  | nil => simp [type11Values]
  | cons v vs ih =>
    cases v with
    | none => exact ih
    | some block =>
      unfold type11Values
      split
      · simp
      · exact ih

theorem type11Table_report (o : Options) : (type11Table o).report = none := by
  have hno := type11Values_noReport o.type11
  unfold Table.report
  split
  · rename_i e hhalt
    exact absurd hhalt (hno e)
  · rfl

/-- Type 11 and the memory tables report no error. -/
theorem assertingScript_silent : ∀ t ∈ (assertingScript ms o).cmds, t.report = none := by
  have hall : (assertingScript ms o).All fun t => t.report = none ∧ Unskipped o true t :=
    assertingScript_all (type11Table_report o) rfl (fun _ => type17Table_report ..)
      (fun _ _ => type19Table_report ..) (fun _ _ => rfl) rfl
  exact fun t ht => (hall t ht).1

theorem firstReport_asserting : firstReport (assertingScript ms o).cmds = none :=
  firstReport_complete assertingScript_silent

/-- The loops of types 9 and 41 meet no fault of their own. -/
theorem faultOf_slots (errp : Option Error) : faultOf errp (slotTables h o) =
    if errp.isSome ∧ (slotError h o).isSome then some .errorAlreadySet else none := by
  unfold slotError slotTables Options.opt
  split
  · simp [faultOf, firstReport]
  · exact faultOf_untilHalt (mapIdx_forall (type9Table_noFault h)) errp

theorem faultOf_devices (errp : Option Error) : faultOf errp (deviceTables h o) =
    if errp.isSome ∧ (deviceError h o).isSome then some .errorAlreadySet else none := by
  unfold deviceError deviceTables Options.opt
  split
  · simp [faultOf, firstReport]
  · exact faultOf_untilHalt (mapIdx_forall (type41Table_noFault h)) errp

/-- The parts of `restScript` around the asserting one, without the tables that reach POST. -/
theorem firstReport_slots :
    firstReport (cacheTables ms o ++ (portTables o ++ slotTables h o)) = slotError h o := by
  rw [← List.append_assoc, firstReport_complete_append cachesAndPorts_complete]
  rfl

theorem endTables_complete : ∀ t ∈ endTables o, t.halt = none := by
  intro t ht
  rw [List.mem_singleton.mp (mem_opt.mp ht).2]
  rfl

theorem firstReport_probes (hh : h.Contract) :
    firstReport (probeTables h o) = deviceError h o := by
  unfold probeTables
  rw [← List.append_assoc, firstReport_complete_append (sensorsAndSupplies_complete hh),
    firstReport_append,
    firstReport_complete fun t ht => report_of_complete (endTables_complete t ht),
    Option.or_none]
  rfl

/-- The tables behind the type 4 loop, if no assertion fails. -/
theorem restScript_cmds (hfault : assertionFault ms o = none) : (restScript h ms o).cmds =
    (cacheTables ms o ++ (portTables o ++ slotTables h o)) ++
      ((assertingScript ms o).cmds ++ probeTables h o) := by
  have hnone : (assertingScript ms o).fault = none := (Option.or_eq_none_iff.mp hfault).2
  unfold restScript
  simp only [append, ofList, hnone]

/-- The first error behind the type 4 loop. -/
theorem firstReport_rest (hh : h.Contract) (hfault : assertionFault ms o = none) :
    firstReport (restScript h ms o).cmds = (slotError h o).or (deviceError h o) := by
  rw [restScript_cmds hfault, firstReport_append, firstReport_slots, firstReport_append,
    firstReport_asserting, Option.none_or, firstReport_probes hh]

/-- **What stops the calls behind the type 4 loop**: an assertion of type 11 or of the memory
calls, or an error of type 41 on top of one of type 9. -/
theorem faultFrom_rest (hh : h.Contract) : faultFrom none (restScript h ms o) =
    (assertionFault ms o).or
      (if (slotError h o).isSome ∧ (deviceError h o).isSome then some .errorAlreadySet
        else none) := by
  have hfront : faultFrom none
      (ofList (cacheTables ms o ++ (portTables o ++ slotTables h o)) : TableScript) = none := by
    simp only [faultFrom, ofList, Option.or_none]
    rw [← List.append_assoc, faultOf_complete_append cachesAndPorts_complete, faultOf_slots]
    simp
  have hmiddle : ∀ errp, faultFrom errp (assertingScript ms o) = assertionFault ms o := by
    intro errp
    unfold assertionFault faultFrom
    rw [faultOf_silent assertingScript_silent]
  have hback : ∀ errp, faultFrom errp (ofList (probeTables h o) : TableScript) =
      if errp.isSome ∧ (deviceError h o).isSome then some .errorAlreadySet else none := by
    intro errp
    simp only [faultFrom, ofList, Option.or_none, probeTables]
    rw [← List.append_assoc, faultOf_complete_append (sensorsAndSupplies_complete hh),
      faultOf_append, faultOf_devices, faultOf_complete endTables_complete, Option.or_none]
  unfold restScript
  rw [faultFrom_append, hfront, faultFrom_append, hmiddle, hback]
  simp only [ofList, firstReport_slots, firstReport_asserting, Option.none_or, Option.or_none]

/-! ## Type 4 -/

/-- A type 4 table is stopped exactly when the counts reject the entry point. -/
theorem firstReport_processors (hsockets : ms.sockets.toNat ≠ 0) :
    (firstReport (processorTables ep ms o)).isNone = !type4Rejects ep ms o := by
  obtain ⟨n, hn⟩ := Nat.exists_eq_succ_of_ne_zero hsockets
  have hfrom : processorTables ep ms o = type4From o ms ep (n + 1) 0 := by
    unfold processorTables type4From
    rw [hn]
  unfold type4Rejects
  rw [hfrom]
  cases hskip : smbiosSkipTable o 4 true with
  | true => simp [type4From, Options.opt, hskip, firstReport]
  | false =>
    have hhalt := type4Table_halt o ms ep
    cases hrej : (ep != .type64 && countsSaturated ms) with
    | true =>
      simp only [hrej, if_true] at hhalt
      rw [type4From_succ o ms ep n 0 hskip, hhalt]
      simp [firstReport, Table.report, hhalt]
    | false =>
      simp only [hrej, Bool.false_eq_true, if_false] at hhalt
      rw [firstReport_complete]
      · rfl
      · intro t ht
        obtain ⟨i, -, rfl⟩ := List.mem_map.mp (mem_untilHalt (mem_opt.mp ht).2)
        exact report_of_complete (hhalt i)

/-- The number of type 4 tables a pass completes. -/
def builtType4 (ep : SmbiosEntryPointType) (ms : Machine) (o : Options) : Nat :=
  if smbiosSkipTable o 4 true || type4Rejects ep ms o then 0 else ms.sockets.toNat

theorem countP_isType4_of_ne {ts : List Table} (hts : ∀ t ∈ ts, t.type ≠ 4) :
    ts.countP Table.isType4 = 0 := by
  rw [List.countP_eq_zero]
  intro t ht
  simp [Table.isType4, hts t ht]

theorem countP_processors :
    (processorTables ep ms o).countP Table.isType4 = builtType4 ep ms o := by
  have hhalt := type4Table_halt o ms ep
  unfold builtType4 type4Rejects processorTables Options.opt
  cases hskip : smbiosSkipTable o 4 true with
  | true => simp
  | false =>
    cases hrej : (ep != .type64 && countsSaturated ms) with
    | true =>
      simp only [hrej, if_true] at hhalt
      simp only [Bool.false_eq_true, if_false, Bool.not_false, Bool.and_self, Bool.or_true, if_true]
      rw [List.countP_eq_zero]
      intro t ht
      obtain ⟨i, -, rfl⟩ := List.mem_map.mp (mem_untilHalt ht)
      simp [Table.isType4, hhalt]
    | false =>
      simp only [hrej, Bool.false_eq_true, if_false] at hhalt
      have hall : ∀ t ∈ (List.range' 0 ms.sockets.toNat).map (type4Table o ms ep),
          t.halt = none ∧ t.type = 4 := by
        intro t ht
        obtain ⟨i, -, rfl⟩ := List.mem_map.mp ht
        exact ⟨hhalt i, type4Table_type ..⟩
      simp only [Bool.false_eq_true, if_false, Bool.and_false, Bool.or_false]
      rw [untilHalt_complete fun t ht => (hall t ht).1, List.countP_eq_length.mpr]
      · simp
      · intro t ht
        simp [Table.isType4, hall t ht]

/-- **The type 4 tables of a pass**: one for each socket, or none. -/
theorem planned_type4Count (hh : h.Contract) :
    (plannedTables h ep ms o).countP Table.isType4 = builtType4 ep ms o := by
  have hsystem : ∀ t ∈ systemTables o, t.type ≠ 4 := by
    intro t ht
    simp only [systemTables, List.mem_append, mem_opt, List.mem_singleton] at ht
    rcases ht with ⟨-, rfl⟩ | ⟨-, rfl⟩ | ⟨-, rfl⟩ | ⟨-, rfl⟩ <;> exact Nat.ne_of_beq_eq_false rfl
  have hrest : ∀ t ∈ (if type4Rejects ep ms o then [] else (restScript h ms o).cmds),
      t.type ≠ 4 := by
    intro t ht
    split at ht
    · cases ht
    · exact (mem_rest hh t ht).1.type_ne_four hh
  unfold plannedTables
  rw [List.countP_append, List.countP_append, countP_isType4_of_ne hsystem,
    countP_isType4_of_ne hrest, countP_processors]
  omega

end Smbios
