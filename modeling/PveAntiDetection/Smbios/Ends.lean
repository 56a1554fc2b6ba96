import PveAntiDetection.Smbios.Conditions

/-!
# How a pass ends

`PassEnd` lists the ends of a pass with the conditions on its inputs that lead there; `epRun_end`
says that the list is complete.  `planned_started`, `planned_errp` and `planned_length` describe
the build state behind the builder calls.
-/

set_option autoImplicit false

namespace Smbios

open Script

variable {h : Host} {ep : SmbiosEntryPointType} {ms : Machine} {o : Options}

/-! ## The build state behind the builder calls -/

/-- The length of the tables of a pass. -/
def plannedLength (h : Host) (ep : SmbiosEntryPointType) (ms : Machine) (o : Options) : Nat :=
  (o.usrBlobs.take o.usrBlobsLen).length + ((plannedTables h ep ms o).map Table.outLength).sum

/-- The tables of the pass are too long for the 32-bit entry point. -/
def TooLong (h : Host) (ep : SmbiosEntryPointType) (ms : Machine) (o : Options) : Prop :=
  ep = .type32 ∧ plannedLength h ep ms o > SMBIOS_21_MAX_TABLES_LEN

theorem type4Rejects_type64 : type4Rejects .type64 ms o = false := by
  unfold type4Rejects
  cases smbiosSkipTable o 4 true <;> rfl

theorem not_tooLong_type64 : ¬TooLong h .type64 ms o := fun hlong => nomatch hlong.1

theorem planned_started : (Build.planned h ep ms o).started = plannedTables h ep ms o := by
  unfold Build.planned
  rw [ran_started]
  rfl

theorem planned_bytes : (Build.planned h ep ms o).buf.bytes =
    o.usrBlobs.take o.usrBlobsLen ++
      blobOf (h.fresh ep) (o.usrBlobs.take o.usrBlobsLen).length (plannedTables h ep ms o) := by
  unfold Build.planned
  rw [ran_bytes]
  rfl

theorem planned_length : (Build.planned h ep ms o).buf.bytes.length = plannedLength h ep ms o := by
  rw [planned_bytes, List.length_append, length_blobOf]
  rfl

theorem planned_errp (hh : h.Contract) (hsockets : ms.sockets.toNat ≠ 0)
    (hrej : type4Rejects ep ms o = false) (hhold : AssertionsHold ms o) :
    (Build.planned h ep ms o).errp = (slotError h o).or (deviceError h o) := by
  have hnone := @firstReport_processors ep ms o hsockets
  rw [hrej, Bool.not_false, Option.isNone_iff_eq_none] at hnone
  unfold Build.planned plannedTables
  rw [ran_errp, firstReport_complete_append systemTables_complete, firstReport_append, hnone, hrej,
    if_neg (by decide), firstReport_rest hh (assertionFault_eq_none.mpr hhold), Option.none_or]
  rfl

/-- A pass that type 4 ends has an error to report. -/
theorem planned_errp_rejected (hsockets : ms.sockets.toNat ≠ 0)
    (hrej : type4Rejects ep ms o = true) : (Build.planned h ep ms o).errp.isSome := by
  have hsome := @firstReport_processors ep ms o hsockets
  rw [hrej, Bool.not_true] at hsome
  unfold Build.planned plannedTables
  rw [ran_errp, firstReport_complete_append systemTables_complete, hrej, if_pos rfl,
    List.append_nil]
  cases hf : firstReport (processorTables ep ms o) with
  | none => rw [hf] at hsome; cases hsome
  | some e => rfl

/-! ## The ends -/

/-- The ends of a pass. -/
inductive PassEnd (h : Host) (ep : SmbiosEntryPointType) (ms : Machine) (o : Options) : Ended → Prop
  /-- There is no socket. -/
  | noSocket (hsockets : ms.sockets.toNat = 0) : PassEnd h ep ms o (.faulted .socketsAssert)
  /-- Type 4 reports an error, which ends the pass. -/
  | rejected (hsockets : ms.sockets.toNat ≠ 0) (hrej : type4Rejects ep ms o = true) :
      PassEnd h ep ms o (.refused o (Build.planned h ep ms o).freed)
  /-- An assertion fails. -/
  | asserted (hsockets : ms.sockets.toNat ≠ 0) (hrej : type4Rejects ep ms o = false) (f : Fault)
      (hf : assertionFault ms o = some f) : PassEnd h ep ms o (.faulted f)
  /-- Type 9 and type 41 report an error each. -/
  | twice (hsockets : ms.sockets.toNat ≠ 0) (hrej : type4Rejects ep ms o = false)
      (hhold : AssertionsHold ms o) (hslot : slotFails h o = true)
      (hdevice : deviceFails h o = true) :
      PassEnd h ep ms o (.faulted .errorAlreadySet)
  /-- The tables are too long, and type 9 or type 41 has reported an error. -/
  | tooLongTwice (hsockets : ms.sockets.toNat ≠ 0) (hrej : type4Rejects ep ms o = false)
      (hhold : AssertionsHold ms o) (honce : slotFails h o = false ∨ deviceFails h o = false)
      (hlong : TooLong h ep ms o) (hfails : slotFails h o = true ∨ deviceFails h o = true) :
      PassEnd h ep ms o (.faulted .errorAlreadySet)
  /-- The tables are too long. -/
  | tooLong (hsockets : ms.sockets.toNat ≠ 0) (hrej : type4Rejects ep ms o = false)
      (hhold : AssertionsHold ms o) (hlong : TooLong h ep ms o) (hslot : slotFails h o = false)
      (hdevice : deviceFails h o = false) :
      PassEnd h ep ms o (.refused o.consumed (Build.freed { Build.planned h ep ms o with
        errp := some (.tablesTooLong (plannedLength h ep ms o)) }))
  /-- The tables are published. -/
  | published (hsockets : ms.sockets.toNat ≠ 0) (hrej : type4Rejects ep ms o = false)
      (hhold : AssertionsHold ms o) (honce : slotFails h o = false ∨ deviceFails h o = false)
      (hfits : ¬TooLong h ep ms o) :
      PassEnd h ep ms o (.published o.consumed (Build.planned h ep ms o))

/-- **Every pass has one of these ends.** -/
theorem epRun_end (hh : h.Contract) : PassEnd h ep ms o (epRun h ep ms o) := by
  unfold epRun
  split
  · rename_i hsockets
    exact .noSocket hsockets
  · rename_i hsockets
    cases hrej : type4Rejects ep ms o with
    | true => exact .rejected hsockets hrej
    | false =>
      simp only [Bool.false_eq_true, if_false]
      cases hf : assertionFault ms o with
      | some f => exact .asserted hsockets hrej f hf
      | none =>
        have hhold := assertionFault_eq_none.mp hf
        have herrp := planned_errp hh hsockets hrej hhold
        simp only [slotError_isSome, deviceError_isSome]
        by_cases htwice : slotFails h o = true ∧ deviceFails h o = true
        · rw [if_pos htwice]
          exact .twice hsockets hrej hhold htwice.1 htwice.2
        · rw [if_neg htwice]
          have honce : slotFails h o = false ∨ deviceFails h o = false := by
            cases hs : slotFails h o with
            | false => exact .inl rfl
            | true =>
              cases hd : deviceFails h o with
              | false => exact .inr rfl
              | true => exact absurd ⟨hs, hd⟩ htwice
          have hsome : (Build.planned h ep ms o).errp.isSome =
              (slotFails h o || deviceFails h o) := by
            rw [herrp, Option.isSome_or, slotError_isSome, deviceError_isSome]
          unfold finishRun
          rw [planned_length, hsome]
          split
          · rename_i hlong
            by_cases hfails : slotFails h o = true ∨ deviceFails h o = true
            · rw [if_pos (by simpa using hfails)]
              exact .tooLongTwice hsockets hrej hhold honce hlong hfails
            · rw [if_neg (by simpa using hfails)]
              simp only [not_or, Bool.not_eq_true] at hfails
              exact .tooLong hsockets hrej hhold hlong hfails.1 hfails.2
          · rename_i hfits
            exact .published hsockets hrej hhold honce hfits

/-- A pass whose conditions all hold publishes its tables. -/
theorem epRun_published (hh : h.Contract) (hsockets : ms.sockets.toNat ≠ 0)
    (hrej : type4Rejects ep ms o = false) (hhold : AssertionsHold ms o)
    (honce : slotFails h o = false ∨ deviceFails h o = false) (hfits : ¬TooLong h ep ms o) :
    epRun h ep ms o = .published o.consumed (Build.planned h ep ms o) := by
  have hend := @epRun_end h ep ms o hh
  generalize epRun h ep ms o = e at hend
  cases hend with
  | noSocket hzero => exact absurd hzero hsockets
  | rejected _ hrej' => rw [hrej] at hrej'; cases hrej'
  | asserted _ _ f hf => rw [assertionFault_eq_none.mpr hhold] at hf; cases hf
  | twice _ _ _ hslot hdevice =>
    rcases honce with hno | hno
    · rw [hslot] at hno
      cases hno
    · rw [hdevice] at hno
      cases hno
  | tooLongTwice _ _ _ _ hlong => exact absurd hlong hfits
  | tooLong _ _ _ hlong => exact absurd hlong hfits
  | published => rfl

/-- A pass that is refused for the length of its tables alone. -/
theorem epRun_tooLong (hh : h.Contract) (hsockets : ms.sockets.toNat ≠ 0)
    (hrej : type4Rejects ep ms o = false) (hhold : AssertionsHold ms o)
    (hlong : TooLong h ep ms o) (hslot : slotFails h o = false)
    (hdevice : deviceFails h o = false) :
    epRun h ep ms o = .refused o.consumed (Build.freed { Build.planned h ep ms o with
      errp := some (.tablesTooLong (plannedLength h ep ms o)) }) := by
  have herrp := planned_errp hh hsockets hrej hhold
  have hsome : (Build.planned h ep ms o).errp.isSome = false := by
    rw [herrp, Option.isSome_or, slotError_isSome, deviceError_isSome, hslot, hdevice]
    rfl
  unfold epRun finishRun
  rw [if_neg hsockets, hrej, if_neg Bool.false_ne_true, assertionFault_eq_none.mpr hhold]
  simp only [slotError_isSome, hslot, Bool.false_eq_true, false_and, if_false, planned_length,
    hsome]
  exact if_pos hlong

end Smbios
