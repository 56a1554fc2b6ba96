import PveAntiDetection.Smbios.Shape

/-!
# The code follows the plan

Each builder call of `smbios_get_tables_ep` does what its part of the plan says, and so does the
pass as a whole (`smbiosGetTablesEp_eq`).
-/

set_option autoImplicit false

namespace Smbios

open Script

variable {h : Host} {ep : SmbiosEntryPointType} {ms : Machine} {o o' o'' : Options}
  {m : SmbiosM Unit} {p q : TableScript} {fresh : Nat → UInt8}

/-! ## Lists and scripts -/

theorem Does.congr (hm : Does fresh o o' m p) (hpq : p = q) : Does fresh o o' m q := hpq ▸ hm

theorem Does.nil : Does fresh o o (pure ()) nil := fun _ => Simulates.pure

/-! ## The builder calls -/

theorem does_systemTables (hh : h.Contract) :
    Does (h.fresh ep) o o (do
      smbiosBuildType0Table h ep
      smbiosBuildType1Table h ep
      smbiosBuildType2Table h ep
      smbiosBuildType3Table h ep) (ofList (systemTables o)) := by
  have h0 : Does (h.fresh ep) o o (smbiosBuildType0Table h ep) _ :=
    Does.withOpts (f := fun o => buildOne h ep false (type0Table o)) (does_buildOne hh 0 rfl)
  have h1 : Does (h.fresh ep) o o (smbiosBuildType1Table h ep) _ :=
    Does.withOpts (f := fun o => buildOne h ep true (type1Table o)) (does_buildOne hh 1 rfl)
  have h2 : Does (h.fresh ep) o o (smbiosBuildType2Table h ep) _ :=
    Does.withOpts (f := fun o => buildOne h ep true (type2Table o)) (does_buildOne hh 2 rfl)
  have h3 : Does (h.fresh ep) o o (smbiosBuildType3Table h ep) _ :=
    Does.withOpts (f := fun o => buildOne h ep true (type3Table o)) (does_buildOne hh 3 rfl)
  exact h0.seq (h1.seq (h2.seq h3))

/-- `smbios_build_type_11_table` and the strings it frees. -/
theorem does_type11 (hh : h.Contract) :
    Does (h.fresh ep) o o.consumed (smbiosBuildType11Table h ep) (ofList (oemTables o)) := by
  intro e b
  by_cases hnil : o.type11 = []
  · have hsame : o.consumed = o := by
      obtain ⟨_, _, _, _, _, _, _, _, _, _, _, _, _, _, _, _, t11, _, _, _⟩ := o
      simp only at hnil
      subst hnil
      unfold Options.consumed
      simp
    rw [hsame]
    simp only [smbiosBuildType11Table, bind, EStateM.bind, get_run, hnil, if_true, oemTables, exec,
      ofList, run]
    rfl
  · cases hskip : smbiosSkipTable o 11 true with
    | true =>
      have hsame : o.consumed = o := by
        unfold Options.consumed
        rw [hskip]
        rfl
      have hrun : buildTable h ep true (type11Table o) (atState o e b) =
          .ok .skipped (atState o e b) := buildTable_skipped hskip
      rw [hsame]
      simp only [smbiosBuildType11Table, bind, EStateM.bind, get_run, hnil, if_false, hrun,
        oemTables, Options.opt, hskip, if_true, exec, ofList, run]
      rfl
    | false =>
      have hconsumed : o.consumed = { o with type11 := o.type11.map fun _ => none } := by
        unfold Options.consumed
        rw [hskip]
        rfl
      have hrun := @buildTable_eq h hh ep true (type11Table o) o hskip b e
      rw [hconsumed]
      simp only [smbiosBuildType11Table, bind, EStateM.bind, get_run, hnil, if_false, hrun,
        oemTables, Options.opt, hskip, Bool.false_eq_true, exec_single, Build.step,
        Build.countType4]
      cases (type11Table o).halt with
      | none => rfl
      | some halt =>
        cases halt with
        | fault f => exact ⟨_, rfl, rfl⟩
        | report er =>
          cases b.errp with
          | none => rfl
          | some _ => exact ⟨_, rfl, rfl⟩

theorem does_cachesAndSlots (hh : h.Contract) :
    Does (h.fresh ep) o o.consumed (buildCachesAndSlots h ep ms)
      (ofList (cacheTables ms o ++ (portTables o ++ (slotTables h o ++ oemTables o)))) := by
  have h8 : Does (h.fresh ep) o o (smbiosBuildType8Table h ep) _ :=
    Does.withOpts (f := fun o => buildEach h ep true (o.type8.mapIdx type8Table))
      (does_buildEach hh (by decide) _ (mapIdx_forall fun _ _ => rfl))
  rw [untilHalt_complete (mapIdx_forall fun _ _ => rfl)] at h8
  have h9 : Does (h.fresh ep) o o (smbiosBuildType9Table h ep) _ :=
    Does.withOpts (f := fun o => buildEach h ep true (o.type9.mapIdx (type9Table h)))
      (does_buildEach hh (by decide) _ (mapIdx_forall (type9Table_type h)))
  have h7 : ∀ i d c m' e' s a, Does (h.fresh ep) o o (smbiosBuildType7Table h ep i d c m' e' s a)
      (ofList (o.opt 7 true [type7Table i d c m' e' s a])) :=
    fun i d c m' e' s a => does_buildOne hh 7 rfl
  refine Does.congr (Does.seq (h7 _ _ _ _ _ _ _) (Does.seq (h7 _ _ _ _ _ _ _)
    (Does.seq (h7 _ _ _ _ _ _ _) (Does.seq (h7 _ _ _ _ _ _ _)
    (h8.seq (h9.seq (does_type11 hh))))))) ?_
  simp only [ofList_append, cacheTables, opt_cons, List.append_assoc, portTables, slotTables]

theorem does_dimmTables (hh : h.Contract) : ∀ n i,
    Does (h.fresh ep) o o (type17Loop h ep ms n i)
      (ofList (o.opt 17 true ((List.range' i n).map fun i => type17Table o i (getDimmSz ms i))))
  | 0, i => Does.congr Does.nil (by simp [Options.opt, ofList, nil])
  | n + 1, i => by
    have h17 : Does (h.fresh ep) o o (smbiosBuildType17Table h ep i (getDimmSz ms i)) _ :=
      Does.withOpts (f := fun o => buildOne h ep true (type17Table o i (getDimmSz ms i)))
        (does_buildOne hh 17 (type17Table_type ..))
    refine Does.congr (h17.seq (does_dimmTables hh n (i + 1))) ?_
    rw [ofList_append, List.range'_succ, List.map_cons]
    congr 1
    unfold Options.opt
    split <;> rfl

/-- The assertion of type 20 comes before its skip test. -/
theorem does_type20 (hh : h.Contract) (start size : Nat) :
    Does (h.fresh ep) o o (smbiosBuildType20Table h ep start size)
      ((if rangeEnd start size > start then nil else raise .type20RangeAssert).append
        (ofList (o.opt 20 true [type20Table start size]))) := by
  unfold smbiosBuildType20Table
  rcases Nat.lt_or_ge start (rangeEnd start size) with hlt | hge
  · rw [if_pos hlt, if_pos hlt]
    exact does_buildOne hh 20 (type20Table_type ..)
  · rw [if_neg (Nat.not_lt.mpr hge), if_neg (Nat.not_lt.mpr hge)]
    exact fun e b => ⟨_, rfl, rfl⟩

/-- An assertion at the end of a part. -/
theorem does_check (c : Prop) [Decidable c] (f : Fault) :
    Does fresh o o (if c then pure () else throwThe Fault f) (if c then nil else raise f) := by
  by_cases hc : c
  · rw [if_pos hc, if_pos hc]
    exact Does.nil
  · rw [if_neg hc, if_neg hc]
    exact Does.throw f

theorem does_mappedScript (hh : h.Contract) : ∀ n i,
    Does (h.fresh ep) o o (mappedAddressLoop h ep ms n i) (mappedScript ms o n i)
  | 0, _ => Does.nil
  | n + 1, i => by
    unfold mappedAddressLoop mappedScript
    cases harea : ms.memArray[i]? with
    | none =>
      have hread : memArrayAddress ms i = throw (.memArrayOutOfBounds i) := by
        unfold memArrayAddress
        rw [harea]
      rw [hread]
      exact fun e b => ⟨_, rfl, rfl⟩
    | some a =>
      have hread : memArrayAddress ms i = pure a.address.toNat := by
        unfold memArrayAddress
        rw [harea]
      simp only [hread, pure_bind]
      have h19 : Does (h.fresh ep) o o (smbiosBuildType19Table h ep i (handleOffset ms)
          a.address.toNat (getDimmSz ms i)) _ := does_buildOne hh 19 (type19Table_type ..)
      exact Does.congr (h19.seq (Does.seq (does_type20 hh _ _) (does_mappedScript hh n (i + 1))))
        (by simp only [append_assoc])

theorem does_memoryScript (hh : h.Contract) :
    Does (h.fresh ep) o o (buildMemory h ep ms) (memoryScript ms o) := by
  have h16 : Does (h.fresh ep) o o (smbiosBuildType16Table h ep ms (dimmCnt ms)) _ :=
    does_buildOne hh 16 rfl
  have h22 : Does (h.fresh ep) o o (smbiosBuildType22Table h ep) _ := does_buildOne hh 22 rfl
  unfold buildMemory memoryScript
  by_cases hdev : ms.smbiosMemoryDeviceSize = 0
  · simp only [hdev, if_true]
    exact fun e b => ⟨_, rfl, rfl⟩
  · simp only [hdev, if_false]
    refine Does.congr (h16.seq (Does.seq (does_dimmTables hh _ _)
      (Does.seq (does_mappedScript hh _ _) (h22.seq (does_check (handleRangeOk ms) _))))) ?_
    rw [← append_assoc, ofList_append]
    rfl

theorem does_probeTables (hh : h.Contract) :
    Does (h.fresh ep) o o (buildProbes h ep) (ofList (probeTables h o)) := by
  have h26 : ∀ i d l, Does (h.fresh ep) o o (smbiosBuildType26Table h ep i d l)
      (ofList (o.opt 26 true [type26Table i d l])) := fun _ _ _ => does_buildOne hh 26 rfl
  have h27 : ∀ i d l, Does (h.fresh ep) o o (smbiosBuildType27Table h ep i d l)
      (ofList (o.opt 27 true [type27Table i d l])) := fun _ _ _ => does_buildOne hh 27 rfl
  have h28 : ∀ i d l, Does (h.fresh ep) o o (smbiosBuildType28Table h ep i d l)
      (ofList (o.opt 28 true [type28Table i d l])) := fun _ _ _ => does_buildOne hh 28 rfl
  have h29 : Does (h.fresh ep) o o (smbiosBuildType29Table h ep) _ := does_buildOne hh 29 rfl
  have h32 : Does (h.fresh ep) o o (smbiosBuildType32Table h ep) _ := does_buildOne hh 32 rfl
  have h37 : Does (h.fresh ep) o o (smbiosBuildType37Table h ep) _ := does_buildOne hh 37 rfl
  have h38 : Does (h.fresh ep) o o (smbiosBuildType38Table h ep) _ :=
    does_buildEach hh (by decide) _ hh.type38_type
  rw [untilHalt_complete hh.type38_complete] at h38
  have h39 : Does (h.fresh ep) o o (smbiosBuildType39Table h ep) _ := does_buildOne hh 39 rfl
  have h41 : Does (h.fresh ep) o o (smbiosBuildType41Table h ep) _ :=
    Does.withOpts (f := fun o => buildEach h ep true (o.type41.mapIdx (type41Table h)))
      (does_buildEach hh (by decide) _ (mapIdx_forall (type41Table_type h)))
  have h127 : Does (h.fresh ep) o o (smbiosBuildType127Table h ep) _ := does_buildOne hh 127 rfl
  refine Does.congr (Does.seq (h26 _ _ _) (Does.seq (h26 _ _ _) (Does.seq (h27 _ _ _)
    (Does.seq (h28 _ _ _) (Does.seq (h28 _ _ _) (h29.seq (h32.seq (h37.seq (h38.seq (h39.seq
    (h41.seq h127))))))))))) ?_
  simp only [ofList_append, probeTables, sensorTables, supplyTables, deviceTables, endTables,
    opt_cons, List.append_assoc]

/-! ## Type 4 -/

theorem does_type4_skipped (hskip : smbiosSkipTable o 4 true = true) (i : Nat) (b : Build)
    (e : Option SmbiosEntryPoint) :
    smbiosBuildType4Table h ep ms i (atState o e b) = .ok () (atState o e b) := by
  have hrun : buildTable h ep true (type4Table o ms ep i) (atState o e b) =
      .ok .skipped (atState o e b) := buildTable_skipped (by rw [type4Table_type]; exact hskip)
  simp only [smbiosBuildType4Table, bind, EStateM.bind, get_run, hrun]
  rfl

/-- One socket: the table is built and counted, or it reports the first error of the pass. -/
theorem does_type4 (hh : h.Contract) (hskip : smbiosSkipTable o 4 true = false) (i : Nat)
    {b : Build} (hb : b.errp = none) (e : Option SmbiosEntryPoint) :
    smbiosBuildType4Table h ep ms i (atState o e b) =
      .ok () (atState o e (b.next (h.fresh ep) (type4Table o ms ep i))) := by
  have htype := type4Table_type o ms ep i
  have hhalt := type4Table_halt o ms ep i
  have hrun := @buildTable_eq h hh ep true (type4Table o ms ep i) o (by rw [htype]; exact hskip) b e
  simp only [smbiosBuildType4Table, bind, EStateM.bind, get_run,
    hrun, Build.next, Table.report, hb, htype]
  split at hhalt
  · simp only [hhalt, reduceCtorEq, false_and, if_false]
    rfl
  · simp only [hhalt, true_and, if_true]
    rw [show b.after (h.fresh ep) (type4Table o ms ep i) =
      { b.after (h.fresh ep) (type4Table o ms ep i) with errp := none } by
        simp only [Build.after, Build.push, hb]]
    rfl

/-- **The type 4 loop**: it runs through unless a table reports. -/
theorem type4Loop_eq (hh : h.Contract) (e : Option SmbiosEntryPoint) : ∀ (n i : Nat) (b : Build),
    b.errp = none → type4Loop h ep ms n i (atState o e b) =
      .ok (firstReport (type4From o ms ep n i)).isNone
        (atState o e (b.ran (h.fresh ep) (type4From o ms ep n i)))
  | 0, i, b, _ => by
    have hnil : type4From o ms ep 0 i = [] := by simp [type4From, Options.opt, untilHalt]
    rw [hnil]
    rfl
  | n + 1, i, b, hb => by
    cases hskip : smbiosSkipTable o 4 true with
    | true =>
      have hnil : ∀ k j, type4From o ms ep k j = [] := fun k j => by
        simp [type4From, Options.opt, hskip]
      have ih := type4Loop_eq hh e n (i + 1) b hb
      rw [hnil] at ih ⊢
      simp only [type4Loop, bind, EStateM.bind, does_type4_skipped hskip, get_run, hb,
        Option.isSome_none, Bool.false_eq_true, if_false]
      exact ih
    | false =>
      have hone := @does_type4 h ep ms o hh hskip i b hb e
      have hnext : (b.next (h.fresh ep) (type4Table o ms ep i)).errp =
          (type4Table o ms ep i).report := by simp [Build.next, hb]
      simp only [type4Loop, bind, EStateM.bind, hone, get_run,
        hnext, type4From_succ o ms ep n i hskip]
      have hhalt := type4Table_halt o ms ep i
      split at hhalt
      · simp only [hhalt, reduceCtorEq, if_false, Table.report, Option.isSome_some, if_true,
          firstReport, Option.some_or, Option.isNone_some]
        rfl
      · have ih := type4Loop_eq hh e n (i + 1) (b.next (h.fresh ep) (type4Table o ms ep i))
          (by rw [hnext, Table.report, hhalt])
        simp only [hhalt, if_true, Table.report, Option.isSome_none, Bool.false_eq_true, if_false,
          firstReport, Option.none_or]
        exact ih

/-! ## The pass -/

/-- A builder whose script runs to its end. -/
theorem Does.ok (hm : Does fresh o o' m p) (e : Option SmbiosEntryPoint) {b : Build}
    (hf : faultFrom b.errp p = none) :
    m (atState o e b) = .ok () (atState o' e (b.ran fresh p.cmds)) := by
  have hexec := @exec_eq fresh p b
  have hsim := hm e b
  rw [hf] at hexec
  rw [hexec] at hsim
  exact hsim

/-- A builder whose script faults. -/
theorem Does.fault (hm : Does fresh o o' m p) (e : Option SmbiosEntryPoint) {b : Build} {f : Fault}
    (hf : faultFrom b.errp p = some f) : ∃ s', m (atState o e b) = .error f s' := by
  have hexec := @exec_eq fresh p b
  have hsim := hm e b
  rw [hf] at hexec
  obtain ⟨b', hb'⟩ := hexec
  rw [hb'] at hsim
  obtain ⟨s', hs', -⟩ := hsim
  exact ⟨s', hs'⟩

/-- The strings of type 11 play no part behind its builder. -/
theorem mappedScript_consumed : ∀ n i, mappedScript ms o.consumed n i = mappedScript ms o n i
  | 0, _ => rfl
  | n + 1, i => by
    unfold mappedScript
    rw [mappedScript_consumed n (i + 1)]
    rfl

theorem dimmTables_consumed : dimmTables ms o.consumed = dimmTables ms o := rfl

theorem memoryScript_consumed : memoryScript ms o.consumed = memoryScript ms o := by
  unfold memoryScript
  rw [mappedScript_consumed, dimmTables_consumed]
  rfl

theorem does_rest (hh : h.Contract) :
    Does (h.fresh ep) o o.consumed (do
      buildCachesAndSlots h ep ms
      buildMemory h ep ms
      buildProbes h ep) (restScript h ms o) := by
  refine Does.congr ((does_cachesAndSlots hh).seq ((does_memoryScript hh).seq
    (does_probeTables hh))) ?_
  have hprobes : probeTables h o.consumed = probeTables h o := rfl
  rw [memoryScript_consumed, hprobes]
  unfold restScript assertingScript
  rw [append_assoc, ← append_assoc (ofList _) (ofList (oemTables o)), ofList_append]
  simp only [List.append_assoc]

theorem buildProcessors_split (h : Host) (ep : SmbiosEntryPointType) (ms : Machine) :
    buildProcessors h ep ms = ((do
      smbiosBuildType0Table h ep
      smbiosBuildType1Table h ep
      smbiosBuildType2Table h ep
      smbiosBuildType3Table h ep) >>= fun _ =>
      if 1 ≤ ms.sockets.toNat then type4Loop h ep ms ms.sockets.toNat 0
      else throw .socketsAssert >>= fun _ : Unit => type4Loop h ep ms ms.sockets.toNat 0) := by
  unfold buildProcessors
  simp only [bind_assoc]

theorem buildProcessors_eq (hh : h.Contract) (e : Option SmbiosEntryPoint) {b : Build}
    (hb : b.errp = none) :
    if ms.sockets.toNat = 0 then
      ∃ s', buildProcessors h ep ms (atState o e b) = .error .socketsAssert s'
    else buildProcessors h ep ms (atState o e b) = .ok (!type4Rejects ep ms o)
      (atState o e (b.ran (h.fresh ep) (systemTables o ++ processorTables ep ms o))) := by
  have hfault : faultFrom b.errp (ofList (systemTables o) : TableScript) = none := by
    simp only [faultFrom, ofList, Option.or_none]
    exact faultOf_complete systemTables_complete _
  have hsystem := (@does_systemTables h ep o hh).ok e hfault
  rw [buildProcessors_split]
  simp only [bind, EStateM.bind] at hsystem ⊢
  rw [hsystem]
  split
  · rename_i hzero
    rw [if_neg (by omega)]
    exact ⟨_, rfl⟩
  · rename_i hsockets
    have herrp : (b.ran (h.fresh ep) (systemTables o)).errp = none := by
      have hcomplete := firstReport_complete_append (systemTables_complete (o := o)) []
      rw [List.append_nil] at hcomplete
      rw [ran_errp, hb, hcomplete]
      rfl
    rw [if_pos (by omega), ran_append, ← firstReport_processors hsockets]
    exact type4Loop_eq hh e ms.sockets.toNat 0 _ herrp

/-- The end of a pass: the type 4 count is right, so that only the length can be refused. -/
theorem finishTables_eq (hep : ep ≠ .auto) (e : Option SmbiosEntryPoint) {b : Build}
    (hcnt : b.type4Count = 0 ∨ b.type4Count = ms.sockets.toNat) :
    (finishRun ep o b).Describes ep e (finishTables ep ms (atState o.consumed e b)) := by
  have hcheck : smbiosCheckType4Count ms.sockets.toNat (atState o.consumed e b) =
      .ok true (atState o.consumed e b) := by
    have hno : ¬(b.type4Count ≠ 0 ∧ b.type4Count ≠ ms.sockets.toNat) := by omega
    simp only [smbiosCheckType4Count, bind, EStateM.bind, get_run, hno, if_false]
    rfl
  unfold finishRun finishTables
  simp only [bind, EStateM.bind, hcheck, if_true]
  by_cases hlong : ep = .type32 ∧ b.buf.bytes.length > SMBIOS_21_MAX_TABLES_LEN
  · have hvalidate : smbiosValidateTable ep (atState o.consumed e b) =
        (errorSetg (.tablesTooLong b.buf.bytes.length) >>= fun _ => pure false)
          (atState o.consumed e b) := by
      simp only [smbiosValidateTable, bind, EStateM.bind, get_run, hlong, and_self, if_true]
    rw [if_pos hlong]
    simp only [hvalidate, bind, EStateM.bind, errorSetg]
    cases herrp : b.errp with
    | some er => exact ⟨_, rfl⟩
    | none => rfl
  · have hvalidate : smbiosValidateTable ep (atState o.consumed e b) =
        .ok true (atState o.consumed e b) := by
      simp only [smbiosValidateTable, bind, EStateM.bind, get_run, hlong, if_false]
      rfl
    rw [if_neg hlong]
    simp only [hvalidate, if_true]
    cases ep with
    | auto => exact absurd rfl hep
    | type32 => rfl
    | type64 => rfl

/-- The pass behind the type 4 loop. -/
theorem rest_eq (hh : h.Contract) (hep : ep ≠ .auto) (e : Option SmbiosEntryPoint) {b : Build}
    (hb : b.errp = none)
    (hcnt : (b.ran (h.fresh ep) (restScript h ms o).cmds).type4Count = 0 ∨
      (b.ran (h.fresh ep) (restScript h ms o).cmds).type4Count = ms.sockets.toNat) :
    (match assertionFault ms o with
      | some f => Ended.faulted f
      | none =>
        if (slotError h o).isSome ∧ (deviceError h o).isSome then .faulted .errorAlreadySet
        else finishRun ep o (b.ran (h.fresh ep) (restScript h ms o).cmds)).Describes ep e
      (((do
        buildCachesAndSlots h ep ms
        buildMemory h ep ms
        buildProbes h ep) >>= fun _ => finishTables ep ms) (atState o e b)) := by
  have hdoes := @does_rest h ep ms o hh
  have hrest : faultFrom b.errp (restScript h ms o) = _ := hb ▸ faultFrom_rest hh
  simp only [bind, EStateM.bind]
  cases hassert : assertionFault ms o with
  | some f =>
    rw [hassert, Option.some_or] at hrest
    obtain ⟨s', hs'⟩ := hdoes.fault e hrest
    simp only [bind, EStateM.bind] at hs'
    rw [hs']
    exact ⟨s', rfl⟩
  | none =>
    rw [hassert, Option.none_or] at hrest
    by_cases htwice : (slotError h o).isSome ∧ (deviceError h o).isSome
    · rw [if_pos htwice] at hrest ⊢
      obtain ⟨s', hs'⟩ := hdoes.fault e hrest
      simp only [bind, EStateM.bind] at hs'
      rw [hs']
      exact ⟨s', rfl⟩
    · rw [if_neg htwice] at hrest ⊢
      have hok := hdoes.ok e hrest
      simp only [bind, EStateM.bind] at hok
      rw [hok]
      exact finishTables_eq hep e hcnt

/-- The tables of a pass, with the processors first. -/
theorem smbiosGetTablesEp_start (hep : ep ≠ .auto) (s : State) :
    smbiosGetTablesEp h ep ms s =
      (buildProcessors h ep ms >>= fun ok =>
        if ok then ((do
          buildCachesAndSlots h ep ms
          buildMemory h ep ms
          buildProbes h ep) >>= fun _ => finishTables ep ms)
        else errExit) (atState s.opts s.ep (Build.start s.opts)) := by
  have hep' : ep = .type32 ∨ ep = .type64 := by
    cases ep with
    | auto => exact absurd rfl hep
    | type32 => exact .inl rfl
    | type64 => exact .inr rfl
  unfold smbiosGetTablesEp
  rw [if_pos hep']
  simp only [bind_assoc]
  rfl

/-- The count of type 4 tables behind the plan. -/
theorem planned_count (hh : h.Contract) : (Build.planned h ep ms o).type4Count = 0 ∨
    (Build.planned h ep ms o).type4Count = ms.sockets.toNat := by
  have hcount := @planned_type4Count h ep ms o hh
  unfold Build.planned
  rw [ran_type4Count, hcount]
  unfold builtType4
  simp only [Build.start]
  split <;> omega

/-- No error is reported up to the processors. -/
theorem processors_errp (hsockets : ms.sockets.toNat ≠ 0)
    (hrej : type4Rejects ep ms o = false) :
    ((Build.start o).ran (h.fresh ep) (systemTables o ++ processorTables ep ms o)).errp = none := by
  have hnone := @firstReport_processors ep ms o hsockets
  rw [hrej, Bool.not_false, Option.isNone_iff_eq_none] at hnone
  rw [ran_errp, firstReport_complete_append systemTables_complete, hnone]
  rfl

/-- **The code follows the plan.** -/
theorem smbiosGetTablesEp_eq (hh : h.Contract) (hep : ep ≠ .auto) (s : State) :
    (epRun h ep ms s.opts).Describes ep s.ep (smbiosGetTablesEp h ep ms s) := by
  obtain ⟨o, b, e⟩ := s
  have hproc := @buildProcessors_eq h ep ms o hh e (Build.start o) rfl
  have hplanned : Build.planned h ep ms o = ((Build.start o).ran (h.fresh ep)
      (systemTables o ++ processorTables ep ms o)).ran (h.fresh ep)
        (if type4Rejects ep ms o then [] else (restScript h ms o).cmds) := by
    rw [← ran_append, List.append_assoc]
    rfl
  rw [smbiosGetTablesEp_start hep]
  unfold epRun
  split
  · rename_i hzero
    rw [if_pos hzero] at hproc
    obtain ⟨s', hs'⟩ := hproc
    exact ⟨s', by simp only [bind, EStateM.bind, hs']⟩
  · rename_i hsockets
    rw [if_neg hsockets] at hproc
    cases hrej : type4Rejects ep ms o with
    | true =>
      rw [hrej, if_pos rfl] at hplanned
      simp only [bind, EStateM.bind, hproc, hrej, Bool.not_true, Bool.false_eq_true, if_false,
        if_true, hplanned]
      rfl
    | false =>
      have hcount := @planned_count h ep ms o hh
      rw [hrej, if_neg Bool.false_ne_true] at hplanned
      rw [hplanned] at hcount
      have hrest := rest_eq hh hep e (processors_errp hsockets hrej) hcount
      simp only [Bool.false_eq_true, if_false, hplanned]
      simp only [bind, EStateM.bind, hproc, hrej, Bool.not_false, if_true] at hrest ⊢
      exact hrest

/-! ## Both passes -/

/-- What a caller sees of a run. -/
def observe {α : Type} : EStateM.Result Fault State α → Except Fault α
  | .ok a _ => .ok a
  | .error f _ => .error f

/-- The options and the build state a run leaves, unless it faults. -/
def leaves? {α : Type} : EStateM.Result Fault State α → Option (Options × Build)
  | .ok _ s => some (s.opts, s.bld)
  | .error _ _ => none

/-- One pass, seen by `smbios_get_tables`. -/
theorem pass_eq (hh : h.Contract) (hep : ep ≠ .auto) (s : State) :
    let m := smbiosGetTablesEp h ep ms >>= propagate
    observe (m s) = (epRun h ep ms s.opts).result ep ∧
      leaves? (m s) = (epRun h ep ms s.opts).state? := by
  have hrun := @smbiosGetTablesEp_eq h ep ms hh hep s
  simp only [bind, EStateM.bind]
  cases hend : epRun h ep ms s.opts with
  | faulted f =>
    rw [hend] at hrun
    obtain ⟨s', hs'⟩ := hrun
    rw [hs']
    exact ⟨rfl, rfl⟩
  | refused o b =>
    rw [hend] at hrun
    rw [show smbiosGetTablesEp h ep ms s = _ from hrun]
    exact ⟨rfl, rfl⟩
  | published o b =>
    rw [hend] at hrun
    rw [show smbiosGetTablesEp h ep ms s = _ from hrun]
    exact ⟨rfl, rfl⟩

/-- **`smbios_get_tables` follows the plan of its passes.** -/
theorem smbiosGetTables_eq (hh : h.Contract) (ep : SmbiosEntryPointType) (s : State) :
    observe (smbiosGetTables h ep ms s) =
        (getTablesRun h ep ms s.opts).2.result (getTablesRun h ep ms s.opts).1 ∧
      leaves? (smbiosGetTables h ep ms s) = (getTablesRun h ep ms s.opts).2.state? := by
  cases ep with
  | type32 => exact pass_eq hh (by decide) s
  | type64 => exact pass_eq hh (by decide) s
  | auto =>
    have hrun := @smbiosGetTablesEp_eq h .type32 ms hh (by decide) s
    unfold smbiosGetTables getTablesRun
    simp only [bind, EStateM.bind]
    cases hend : epRun h .type32 ms s.opts with
    | faulted f =>
      rw [hend] at hrun
      obtain ⟨s', hs'⟩ := hrun
      rw [hs']
      exact ⟨rfl, rfl⟩
    | refused o b =>
      rw [hend] at hrun
      rw [show smbiosGetTablesEp h .type32 ms s = _ from hrun]
      exact pass_eq hh (by decide) ⟨o, b, s.ep⟩
    | published o b =>
      rw [hend] at hrun
      rw [show smbiosGetTablesEp h .type32 ms s = _ from hrun]
      exact ⟨rfl, rfl⟩

end Smbios
