import PveAntiDetection.Smbios.Ends

/-!
# Errors of the builders

`smbios_build_type_4_table`, `smbios_build_type_9_table` and `smbios_build_type_41_table` report an
error through `errp` and leave their table without its terminator.  The driver looks at `*errp`
behind type 4 only.

* `errorsReported_iff` — when every such error reaches the caller of `smbios_get_tables`;
* `lostDeviceError` — a run in which one does not.
-/

set_option autoImplicit false

namespace Smbios

open Script

variable {h : Host} {ep : SmbiosEntryPointType} {ms : Machine} {o : Options}

/-! ## Reports in a plan -/

/-- Tables that neither fault nor report reach POST. -/
theorem complete_of_quiet {ts : List Table} {errp : Option Error} (hfault : faultOf errp ts = none)
    (hreport : firstReport ts = none) : ∀ t ∈ ts, t.halt = none := by
  induction ts generalizing errp with
  | nil => exact fun t ht => nomatch ht
  | cons t ts ih =>
    obtain ⟨ht, hts⟩ := Option.or_eq_none_iff.mp hreport
    cases hhalt : t.halt with
    | none =>
      simp only [faultOf, hhalt] at hfault
      exact List.forall_mem_cons.mpr ⟨hhalt, ih hfault hts⟩
    | some halt =>
      cases halt with
      | fault f =>
        simp only [faultOf, hhalt] at hfault
        cases hfault
      | report e => simp [Table.report, hhalt] at ht

theorem faultOf_processors : faultOf none (processorTables ep ms o) = none := by
  unfold processorTables Options.opt
  split
  · rfl
  · rw [faultOf_untilHalt]
    · simp
    · intro t ht f
      obtain ⟨i, -, rfl⟩ := List.mem_map.mp ht
      rw [type4Table_halt]
      split <;> simp

/-- A pass that keeps its assertions and reports at most one error starts no table that faults. -/
theorem faultOf_planned (hh : h.Contract) (hsockets : ms.sockets.toNat ≠ 0)
    (hrej : type4Rejects ep ms o = false) (hhold : AssertionsHold ms o)
    (honce : slotFails h o = false ∨ deviceFails h o = false) :
    faultOf none (plannedTables h ep ms o) = none := by
  have hnone := @firstReport_processors ep ms o hsockets
  rw [hrej, Bool.not_false, Option.isNone_iff_eq_none] at hnone
  have hrest : faultFrom none (restScript h ms o) = none := by
    rw [faultFrom_rest hh, assertionFault_eq_none.mpr hhold, Option.none_or, if_neg]
    rw [slotError_isSome, deviceError_isSome]
    rintro ⟨hs, hd⟩
    rcases honce with hno | hno
    · rw [hs] at hno
      cases hno
    · rw [hd] at hno
      cases hno
  unfold plannedTables
  rw [hrej, if_neg Bool.false_ne_true, faultOf_complete_append systemTables_complete,
    faultOf_append, faultOf_processors, hnone]
  exact (Option.or_eq_none_iff.mp hrest).1

/-- The tables of a pass that keeps its assertions: all of them reach POST exactly when types 9 and
41 report nothing. -/
theorem planned_complete_iff (hh : h.Contract) (hsockets : ms.sockets.toNat ≠ 0)
    (hrej : type4Rejects ep ms o = false) (hhold : AssertionsHold ms o)
    (honce : slotFails h o = false ∨ deviceFails h o = false) :
    (∀ t ∈ plannedTables h ep ms o, t.halt = none) ↔
      slotFails h o = false ∧ deviceFails h o = false := by
  have herrp : firstReport (plannedTables h ep ms o) = (slotError h o).or (deviceError h o) := by
    rw [← planned_errp hh hsockets hrej hhold]
    unfold Build.planned
    rw [ran_errp]
    rfl
  have hnone : firstReport (plannedTables h ep ms o) = none ↔
      slotFails h o = false ∧ deviceFails h o = false := by
    rw [herrp, Option.or_eq_none_iff, ← slotError_isSome, ← deviceError_isSome,
      Option.isSome_eq_false_iff, Option.isSome_eq_false_iff, Option.isNone_iff_eq_none,
      Option.isNone_iff_eq_none]
  rw [← hnone]
  constructor
  · exact fun hall => firstReport_complete fun t ht => report_of_complete (hall t ht)
  · exact complete_of_quiet (faultOf_planned hh hsockets hrej hhold honce)

/-! ## Every error reaches the caller -/

/-- No error object is set twice; if a builder reported an error in the last pass, the caller finds
an error and no tables; and without an error, every table started has reached POST. -/
def ErrorsReported (h : Host) (ep : SmbiosEntryPointType) (ms : Machine) (s : State) : Prop :=
  match smbiosGetTables h ep ms s with
  | .error f _ => f ≠ .errorAlreadySet
  | .ok r s' =>
    ((∃ t ∈ s'.bld.started, t.report.isSome) → r.published = none ∧ r.err.isSome) ∧
      (r.err = none → ∀ t ∈ s'.bld.started, t.halt = none)

/-- `ErrorsReported`, at the end of the last pass. -/
def Ended.ErrorsReported : Ended → Prop
  | .faulted f => f ≠ .errorAlreadySet
  | .refused _ b =>
    ((∃ t ∈ b.started, t.report.isSome) → b.errp.isSome) ∧
      (b.errp = none → ∀ t ∈ b.started, t.halt = none)
  | .published _ b => ∀ t ∈ b.started, t.halt = none

theorem errorsReported_ended (hh : h.Contract) (s : State) :
    ErrorsReported h ep ms s ↔ (getTablesRun h ep ms s.opts).2.ErrorsReported := by
  obtain ⟨hobs, hleaves⟩ := @smbiosGetTables_eq h ms hh ep s
  unfold ErrorsReported
  cases hrun : smbiosGetTables h ep ms s with
  | error f s' =>
    rw [hrun] at hobs hleaves
    cases hend : (getTablesRun h ep ms s.opts).2 with
    | faulted f' =>
      rw [hend] at hobs
      simp only [observe, Ended.result, Except.error.injEq] at hobs
      rw [hobs]
      exact Iff.rfl
    | refused o b => rw [hend] at hleaves; cases hleaves
    | published o b => rw [hend] at hleaves; cases hleaves
  | ok r s' =>
    rw [hrun] at hobs hleaves
    cases hend : (getTablesRun h ep ms s.opts).2 with
    | faulted f' => rw [hend] at hleaves; cases hleaves
    | refused o b =>
      rw [hend] at hobs hleaves
      simp only [observe, Ended.result, Except.ok.injEq] at hobs
      simp only [leaves?, Ended.state?, Option.some.injEq, Prod.mk.injEq] at hleaves
      simp only [hobs, hleaves.2, true_and, Ended.ErrorsReported]
    | published o b =>
      rw [hend] at hobs hleaves
      simp only [observe, Ended.result, Except.ok.injEq] at hobs
      simp only [leaves?, Ended.state?, Option.some.injEq, Prod.mk.injEq] at hleaves
      simp only [hobs, hleaves.2, Ended.ErrorsReported, reduceCtorEq, false_and, true_implies]
      refine ⟨fun hrep => hrep.2, fun hall => ⟨?_, hall⟩⟩
      rintro ⟨t, ht, hsome⟩
      rw [report_of_complete (hall t ht)] at hsome
      cases hsome

/-- The runs in which no error gets lost: those that do not get behind type 4 or fail an assertion,
and those in which types 9 and 41 find their devices. -/
def NoErrorLost (h : Host) (ep : SmbiosEntryPointType) (ms : Machine) (o : Options) : Prop :=
  ms.sockets.toNat = 0 ∨ (ep = .type32 ∧ type4Rejects .type32 ms o = true) ∨
    ¬AssertionsHold ms o ∨ (slotFails h o = false ∧ deviceFails h o = false)

theorem not_noErrorLost (hsockets : ms.sockets.toNat ≠ 0) (hrej : type4Rejects ep ms o = false)
    (hhold : AssertionsHold ms o) (hfails : slotFails h o = true ∨ deviceFails h o = true) :
    ¬NoErrorLost h ep ms o := by
  rintro (hzero | ⟨rfl, hrej'⟩ | hbad | ⟨hs, hd⟩)
  · exact hsockets hzero
  · rw [hrej] at hrej'
    cases hrej'
  · exact hbad hhold
  · rcases hfails with hf | hf
    · rw [hs] at hf
      cases hf
    · rw [hd] at hf
      cases hf

/-- One pass for an entry point type. -/
theorem PassEnd.reported_iff (hh : h.Contract) (hep : ep ≠ .auto) {e : Ended}
    (hend : PassEnd h ep ms o e) : e.ErrorsReported ↔ NoErrorLost h ep ms o := by
  cases hend with
  | noSocket hsockets => exact ⟨fun _ => .inl hsockets, fun _ => by simp [Ended.ErrorsReported]⟩
  | rejected hsockets hrej =>
    have hep32 : ep = .type32 := by
      cases ep with
      | auto => exact absurd rfl hep
      | type32 => rfl
      | type64 => simp [type4Rejects] at hrej
    have hsome : (Build.planned h ep ms o).freed.errp.isSome :=
      planned_errp_rejected hsockets hrej
    refine ⟨fun _ => .inr (.inl ⟨hep32, hep32 ▸ hrej⟩), fun _ => ⟨fun _ => hsome, fun hnone => ?_⟩⟩
    rw [hnone] at hsome
    cases hsome
  | asserted hsockets hrej f hf =>
    refine ⟨fun _ => .inr (.inr (.inl fun hhold => ?_)), fun _ hset => ?_⟩
    · rw [assertionFault_eq_none.mpr hhold] at hf
      cases hf
    · exact assertionFault_ne_alreadySet (hset ▸ hf)
  | twice hsockets hrej hhold hslot hdevice =>
    exact ⟨fun hne => absurd rfl hne,
      fun hok => absurd hok (not_noErrorLost hsockets hrej hhold (.inl hslot))⟩
  | tooLongTwice hsockets hrej hhold honce hlong hfails =>
    exact ⟨fun hne => absurd rfl hne,
      fun hok => absurd hok (not_noErrorLost hsockets hrej hhold hfails)⟩
  | tooLong hsockets hrej hhold hlong hslot hdevice =>
    exact ⟨fun _ => .inr (.inr (.inr ⟨hslot, hdevice⟩)),
      fun _ => ⟨fun _ => rfl, fun hnone => nomatch hnone⟩⟩
  | published hsockets hrej hhold honce hfits =>
    have hiff := planned_complete_iff hh hsockets hrej hhold honce
    simp only [Ended.ErrorsReported, planned_started, hiff]
    refine ⟨fun hquiet => .inr (.inr (.inr hquiet)), fun hok => ?_⟩
    by_contra hloud
    refine not_noErrorLost hsockets hrej hhold ?_ hok
    cases hs : slotFails h o with
    | true => exact .inl rfl
    | false =>
      cases hd : deviceFails h o with
      | true => exact .inr rfl
      | false => exact absurd ⟨hs, hd⟩ hloud

/-- The exit of type 4 matters to the 32-bit entry point only. -/
theorem noErrorLost_of_ne (hep : ep ≠ .type32) :
    NoErrorLost h ep ms o ↔ ms.sockets.toNat = 0 ∨ ¬AssertionsHold ms o ∨
      (slotFails h o = false ∧ deviceFails h o = false) := by
  unfold NoErrorLost
  simp only [hep, false_and, false_or]

theorem noErrorLost_of_accepted (hrej : type4Rejects .type32 ms o = false) :
    NoErrorLost h .type32 ms o ↔ NoErrorLost h .auto ms o := by
  rw [@noErrorLost_of_ne h .auto ms o (by decide)]
  unfold NoErrorLost
  simp only [hrej, Bool.false_eq_true, and_false, false_or]

/-- The run ends without an error, but with a table that has not reached POST. -/
def losesError (h : Host) (ep : SmbiosEntryPointType) (ms : Machine) (s : State) : Bool :=
  match smbiosGetTables h ep ms s with
  | .ok r s' => r.err == none && s'.bld.started.any fun t => t.halt != none
  | .error _ _ => false

theorem not_errorsReported_of_losesError {s : State} (hloses : losesError h ep ms s = true) :
    ¬ErrorsReported h ep ms s := by
  unfold losesError at hloses
  unfold ErrorsReported
  intro hreported
  split at hreported
  · rename_i f s' heq
    rw [heq] at hloses
    cases hloses
  · rename_i r s' heq
    rw [heq] at hloses
    simp only [Bool.and_eq_true, beq_iff_eq, List.any_eq_true, bne_iff_ne] at hloses
    obtain ⟨herr, t, ht, hhalt⟩ := hloses
    exact hhalt (hreported.2 herr t ht)

/-- The state behind `-smbios type=41,pcidev=nic0` and `smbios_set_defaults`. -/
def deviceState : State where
  opts :=
    { haveDefaults := true
      haveFieldsBitmap := setBit 41 0
      type41 := [{ pcidev := some (lit "nic0"), instanceNo := 1, kind := 0x81 }] }

end Smbios
