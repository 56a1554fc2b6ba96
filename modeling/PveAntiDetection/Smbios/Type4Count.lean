import PveAntiDetection.Smbios.BlobAccount

/-!
# The type 4 count

`smbios_check_type4_count` compares `smbios_type4_count` with the number of sockets.  The counter
is incremented for files of type 4 and for built type 4 structures, but every pass resets it.

* `type4Checked_iff` — when a wrong number of type 4 structures is reported;
* `twoProcessorFiles` — two files of type 4 for one socket.
-/

set_option autoImplicit false

namespace Smbios

open Runs

variable {h : Host} {ep : SmbiosEntryPointType} {ms : Machine} {s s' : State}
  {Q : Type} {qo : QemuOption Q}

/-- The number of files of type 4. -/
def type4Files (bs : List (List UInt8)) : Nat := bs.countP fun b => headerType b = 4

/-- The number of type 4 structures in the tables: from files, and built. -/
def type4Total (bs : List (List UInt8)) (started : List Table) : Nat :=
  type4Files bs + started.countP Table.isType4

/-- A wrong number of type 4 structures is reported. -/
def Type4Checked (ms : Machine) (bs : List (List UInt8)) (r : GetTablesResult) (s' : State) :
    Prop :=
  type4Total bs s'.bld.started ≠ 0 → type4Total bs s'.bld.started ≠ ms.sockets.toNat →
    r = ⟨none, some (.type4Count ms.sockets.toNat (type4Total bs s'.bld.started))⟩

/-- A file of type 4 has set the binfile bit. -/
theorem type4Files_bit {bs : List (List UInt8)} (hv : Blobs s.opts.blobVars bs)
    (hfiles : type4Files bs ≠ 0) : testBit 4 s.opts.haveBinfileBitmap = true := by
  obtain ⟨b, hb, htype⟩ := List.countP_pos_iff.mp (Nat.pos_of_ne_zero hfiles)
  have htype : headerType b = 4 := of_decide_eq_true htype
  have hset := hv.typed b hb (by rw [htype]; decide)
  rw [htype] at hset
  exact hset

/-- Where the bit is set, no type 4 structure is built. -/
theorem type4Built_file (hset : testBit 4 s.opts.haveBinfileBitmap = true) (hh : h.Contract)
    {r : GetTablesResult} (hrun : smbiosGetTables h ep ms s = .ok r s') :
    s'.bld.started.countP Table.isType4 = 0 := by
  apply countP_isType4_of_ne
  intro t ht h4
  have hfree := started_free hh hrun t ht
  rw [h4] at hfree
  exact absurd (hfree.symm.trans hset) (by decide)

/-- Otherwise one is built for each socket, or none. -/
theorem type4Built_sockets (hh : h.Contract) {r : GetTablesResult}
    (hrun : smbiosGetTables h ep ms s = .ok r s') :
    s'.bld.started.countP Table.isType4 = 0 ∨
      s'.bld.started.countP Table.isType4 = ms.sockets.toNat := by
  obtain ⟨ep', o, -, -, hstate⟩ := getTables_lastPass hh hrun
  obtain ⟨-, hstarted, -⟩ := passEnd_started (@epRun_end h ep' ms o hh) hstate
  rw [hstarted, planned_type4Count hh]
  unfold builtType4
  split
  · exact .inl rfl
  · exact .inr rfl

/-- Where the bit is set, the type 4 count is not reported. -/
theorem no_type4Error (hset : testBit 4 s.opts.haveBinfileBitmap = true) (hh : h.Contract)
    {r : GetTablesResult} (hrun : smbiosGetTables h ep ms s = .ok r s') (n k : Nat) :
    r.err ≠ some (.type4Count n k) := by
  obtain ⟨ep', o, hopts, hresult, -⟩ := getTables_lastPass hh hrun
  have hskip : smbiosSkipTable o 4 true = true := by
    have hbitmap : o.haveBinfileBitmap = s.opts.haveBinfileBitmap := by
      rcases hopts with rfl | rfl <;> rfl
    unfold smbiosSkipTable
    rw [hbitmap, if_pos hset]
  have hend := @epRun_end h ep' ms o hh
  generalize epRun h ep' ms o = e at hend hresult
  cases hend with
  | noSocket => cases hresult
  | asserted => cases hresult
  | twice => cases hresult
  | tooLongTwice => cases hresult
  | rejected _ hrej =>
    -- type 4 is skipped, so that it rejects nothing
    unfold type4Rejects at hrej
    rw [hskip] at hrej
    cases hrej
  | tooLong =>
    cases hresult
    simp [Build.freed]
  | published =>
    cases hresult
    simp

/-- Where a file of type 4 is loaded, only its number decides. -/
theorem type4Checked_file {bs : List (List UInt8)} (hv : Blobs s.opts.blobVars bs)
    (hh : h.Contract) {r : GetTablesResult} (hrun : smbiosGetTables h ep ms s = .ok r s')
    (hfiles : type4Files bs ≠ 0) :
    Type4Checked ms bs r s' ↔ type4Files bs = ms.sockets.toNat := by
  have hset := type4Files_bit hv hfiles
  unfold Type4Checked type4Total
  rw [type4Built_file hset hh hrun]
  constructor
  · intro hchecked
    apply Classical.byContradiction
    intro hne
    have herr := hchecked hfiles hne
    exact no_type4Error hset hh hrun _ _ (congrArg GetTablesResult.err herr)
  · intro heq _ hne
    exact absurd heq hne

/-- **A wrong number of type 4 structures is reported exactly when** no file is of type 4, or one
for each socket. -/
theorem type4Checked_iff (qo : QemuOption Q) (cs : List (Call Q)) (hh : h.Contract)
    {r : GetTablesResult}
    (hrun : smbiosGetTables h ep ms (final (configure qo) {} cs) = .ok r s') :
    Type4Checked ms (userBlobs qo cs) r s' ↔
      type4Files (userBlobs qo cs) = 0 ∨ type4Files (userBlobs qo cs) = ms.sockets.toNat := by
  have hsockets := type4Built_sockets hh hrun
  by_cases hfiles : type4Files (userBlobs qo cs) = 0
  · unfold Type4Checked type4Total
    rw [hfiles]
    constructor
    · exact fun _ => .inl rfl
    · intro _ hpos hne
      omega
  · rw [type4Checked_file (blobs_of_run qo cs) hh hrun hfiles]
    constructor
    · exact .inr
    · exact fun hor => hor.resolve_left hfiles

/-- The 64-bit pass of `Machine.small` behind calls that set no type 11 value and no PCI device. -/
theorem getTables_small {s : State} (hnil : s.opts.type11 = [])
    (hslots : s.opts.type9 = []) : ∃ p s', smbiosGetTables .plain .type64 .small s =
      .ok ⟨some p, none⟩ s' := by
  have hterm : ValuesTerminated s.opts := by
    intro _ block hmem
    rw [hnil] at hmem
    cases hmem
  have hslot : slotFails .plain s.opts = false := by
    rw [← slotError_isSome]
    unfold slotError slotTables Options.opt
    rw [hslots]
    split <;> rfl
  have hrun := run_of_publishes Host.plain_contract
    (publishes_small (o := s.opts) hterm (.inl hslot))
  refine ⟨publishedOf .type64 (Build.planned .plain .type64 .small s.opts).buf,
    ⟨s.opts.consumed, Build.planned .plain .type64 .small s.opts,
      some (entryPointOf .type64 (Build.planned .plain .type64 .small s.opts).buf)⟩, ?_⟩
  unfold smbiosGetTables
  simp only [bind, EStateM.bind, hrun]
  rfl

theorem type4Checked_iff_defaults :
    ∃ r s', smbiosGetTables .plain .type64 .small
        (final (configure .reference) {} [.setDefaults none none none]) = .ok r s' ∧
      Type4Checked .small (userBlobs .reference [.setDefaults none none none]) r s' := by
  obtain ⟨p, s', hrun⟩ := getTables_small
    (s := final (configure .reference) {} [.setDefaults none none none]) rfl rfl
  exact ⟨_, s', hrun, (type4Checked_iff .reference _ Host.plain_contract hrun).mpr (.inl rfl)⟩

/-- Two files of type 4. -/
def processorFiles : List (Call OptionList) :=
  [fileEntry [4, 4, 0, 4, 0, 0], fileEntry [4, 4, 1, 4, 0, 0]]

/-- One socket and two files of type 4: the tables are published. -/
theorem twoProcessorFiles :
    ∃ r s', smbiosGetTables .plain .type64 .small (final (configure .reference) {} processorFiles) =
        .ok r s' ∧ ¬Type4Checked .small (userBlobs .reference processorFiles) r s' := by
  obtain ⟨p, s', hrun⟩ := getTables_small
    (s := final (configure .reference) {} processorFiles) rfl rfl
  have hfiles : type4Files (userBlobs .reference processorFiles) = 2 := by decide +kernel
  refine ⟨_, s', hrun, ?_⟩
  have hne : type4Files (userBlobs .reference processorFiles) ≠ 0 := by
    rw [hfiles]
    decide
  rw [type4Checked_file (blobs_of_run .reference _) Host.plain_contract hrun hne, hfiles]
  decide

end Smbios
