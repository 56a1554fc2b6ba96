import PveAntiDetection.Smbios.Memory
import PveAntiDetection.Smbios.Parse

/-!
# The ranges of types 19 and 20

`smbios_get_tables_ep` describes each chunk twice: in type 19, which has extended 64-bit addresses,
and in type 20, which stores KiB in 32 bits.

* `mappedKb`, `deviceKb` — the range that each structure is read as, in KiB;
* `rangesAgree_iff` — both are the range of the chunk exactly if it ends by 4 TiB;
  `rangeTruncated` is a chunk that crosses it.
-/

set_option autoImplicit false

namespace Smbios

open Bytes Records

variable {h : Host} {ep : SmbiosEntryPointType} {s : State} {i offset start size : Nat}

/-! ## Reading the structures -/

/-- The first and the last KiB of a type 19 structure. -/
def mappedKb (fmt : List UInt8) : Nat × Nat :=
  ((type19Range fmt).1 / KiB, (type19Range fmt).2 / KiB)

/-- The first and the last KiB of a type 20 structure. -/
def deviceKb (fmt : List UInt8) : Nat × Nat :=
  (memberValue fmt SmbiosType20.startingAddress, memberValue fmt SmbiosType20.endingAddress)

/-- The first and the last KiB of a chunk. -/
def chunkKb (start size : Nat) : Nat × Nat := (start / KiB, (start + size - 1) / KiB)

/-- The loop body for chunk `i`. -/
def buildMapped (h : Host) (ep : SmbiosEntryPointType) (i offset start size : Nat) :
    SmbiosM Unit := do
  smbiosBuildType19Table h ep i offset start size
  smbiosBuildType20Table h ep start size

/-- The loop body appends one structure of each type, and they are read as the range of the
chunk. -/
def RangesAgree (h : Host) (ep : SmbiosEntryPointType) (i offset start size : Nat) (s : State) :
    Prop :=
  ∃ s' x y, buildMapped h ep i offset start size s = .ok () s' ∧
    parseAll parseStructure (s'.bld.buf.bytes.drop s.bld.buf.bytes.length) = some [x, y] ∧
    (x.type = 19 ∧ y.type = 20) ∧ deviceKb y.formatted = mappedKb x.formatted ∧
      mappedKb x.formatted = chunkKb start size

/-! ## The two tables -/

/-- The end of a chunk that does not overflow. -/
theorem rangeEnd_of_le (hsize : 2 ≤ size) (hle : start + size ≤ 2 ^ 64) :
    rangeEnd start size = start + size - 1 := by
  unfold rangeEnd
  omega

/-- **A type 19 structure is read as its chunk**, in the short and in the extended form. -/
theorem mappedKb_type19Table (hsize : 2 ≤ size) (hle : start + size ≤ 2 ^ 64)
    (fresh : Nat → UInt8) (off : Nat) :
    mappedKb ((type19Table i offset start size).formatted fresh off) = chunkKb start size := by
  have hend := rangeEnd_of_le hsize hle
  unfold mappedKb chunkKb
  rw [type19Range_formatted (by omega) (by omega) (by omega), hend]
  split
  · have hlast : ((start + size - 1) / KiB * KiB + (KiB - 1)) / KiB = (start + size - 1) / KiB := by
      unfold KiB
      omega
    exact Prod.ext (Nat.mul_div_cancel _ (by decide)) hlast
  · rfl

/-- A type 20 structure keeps 32 bits of each KiB. -/
theorem deviceKb_type20Table (fresh : Nat → UInt8) (off : Nat) :
    deviceKb ((type20Table start size).formatted fresh off) =
      (start / KiB % 2 ^ 32, rangeEnd start size / KiB % 2 ^ 32) := by
  unfold type20Table deviceKb
  rw [memberValue_tableOf (f := SmbiosType20.startingAddress) (n := start / KiB) rfl,
    memberValue_tableOf (f := SmbiosType20.endingAddress) (n := rangeEnd start size / KiB) rfl]
  rfl

/-! ## The loop body -/

/-- A builder of a table that reaches POST appends it. -/
theorem buildOne_run (hh : h.Contract) {t : Table}
    (hskip : smbiosSkipTable s.opts t.type true = false) (hhalt : t.halt = none) :
    buildOne h ep true t s = .ok () { s with bld := s.bld.after (h.fresh ep) t } := by
  have hrun := @buildTable_eq h hh ep true t s.opts hskip s.bld s.ep
  rw [hhalt] at hrun
  simp only [buildOne, bind, EStateM.bind, hrun]
  rfl

theorem run_seq {m m' : SmbiosM Unit} {s s' s'' : State} (hm : m s = .ok () s')
    (hm' : m' s' = .ok () s'') : (do m; m' : SmbiosM Unit) s = .ok () s'' := by
  simp only [bind, EStateM.bind, hm]
  exact hm'

/-- What the loop body appends. -/
theorem buildMapped_run (hh : h.Contract) (h19 : smbiosSkipTable s.opts 19 true = false)
    (h20 : smbiosSkipTable s.opts 20 true = false) (hok : rangeEnd start size > start) :
    ∃ s' x y, buildMapped h ep i offset start size s = .ok () s' ∧
      parseAll parseStructure (s'.bld.buf.bytes.drop s.bld.buf.bytes.length) = some [x, y] ∧
      (x.type = 19 ∧ y.type = 20) ∧
      (∃ off, x.formatted = (type19Table i offset start size).formatted (h.fresh ep) off) ∧
      ∃ off, y.formatted = (type20Table start size).formatted (h.fresh ep) off := by
  have htype := type19Table_type i offset start size
  have hhalt : (type19Table i offset start size).halt = none := by
    rw [type19Table_halt, if_pos hok]
  have h20type : (type20Table start size).type = 20 := rfl
  have h20halt : (type20Table start size).halt = none := rfl
  unfold buildMapped smbiosBuildType19Table smbiosBuildType20Table
  rw [if_pos hok]
  generalize type19Table i offset start size = t at htype hhalt ⊢
  generalize type20Table start size = u at h20type h20halt ⊢
  have hfirst := @buildOne_run h ep s hh t (by rw [htype]; exact h19) hhalt
  have hsecond := @buildOne_run h ep { s with bld := s.bld.after (h.fresh ep) t } hh u
    (by rw [h20type]; exact h20) h20halt
  have hboth := parseAll_flatten (List.Forall₂.cons
    (parseStructure_encode (h.fresh ep) s.bld.buf.bytes.length t)
    (List.Forall₂.cons (parseStructure_encode (h.fresh ep)
      (s.bld.buf.bytes ++ t.encode (h.fresh ep) s.bld.buf.bytes.length).length u)
      List.Forall₂.nil))
  rw [List.flatten_cons, List.flatten_cons, List.flatten_nil, List.append_nil] at hboth
  refine ⟨_, t.parsed (h.fresh ep) s.bld.buf.bytes.length, u.parsed (h.fresh ep)
    (s.bld.buf.bytes ++ t.encode (h.fresh ep) s.bld.buf.bytes.length).length,
    run_seq hfirst hsecond, ?_, ?_, ⟨_, Table.parsed_formatted ..⟩, ⟨_, Table.parsed_formatted ..⟩⟩
  · rw [Build.after_bytes h20halt, Build.after_bytes hhalt, List.append_assoc, List.drop_left]
    exact hboth
  · rw [Table.parsed_type, Table.parsed_type]
    exact ⟨htype, h20type⟩

/-- **Types 19 and 20 describe the range of the chunk exactly if** it ends by 4 TiB. -/
theorem rangesAgree_iff (hh : h.Contract) (h19 : smbiosSkipTable s.opts 19 true = false)
    (h20 : smbiosSkipTable s.opts 20 true = false) (hsize : 2 ≤ size)
    (hle : start + size ≤ 2 ^ 64) :
    RangesAgree h ep i offset start size s ↔ start + size ≤ 2 ^ 42 := by
  have hend := rangeEnd_of_le hsize hle
  have hok : rangeEnd start size > start := by omega
  obtain ⟨s', x, y, hrun, hparse, htypes, ⟨off, hx⟩, ⟨off', hy⟩⟩ :=
    @buildMapped_run h ep s i offset start size hh h19 h20 hok
  have hmapped := @mappedKb_type19Table i offset start size hsize hle (h.fresh ep) off
  have hdevice := @deviceKb_type20Table start size (h.fresh ep) off'
  rw [← hx] at hmapped
  rw [hend, ← hy] at hdevice
  have hfits : (start / KiB % 2 ^ 32, (start + size - 1) / KiB % 2 ^ 32) = chunkKb start size ↔
      start + size ≤ 2 ^ 42 := by
    unfold chunkKb KiB
    rw [Prod.mk.injEq]
    omega
  rw [← hfits, ← hdevice]
  constructor
  · rintro ⟨t, x', y', hrun', hparse', -, hagree, htrue⟩
    rw [hrun, EStateM.Result.ok.injEq] at hrun'
    obtain ⟨-, rfl⟩ := hrun'
    rw [hparse] at hparse'
    simp only [Option.some.injEq, List.cons.injEq, and_true] at hparse'
    obtain ⟨rfl, rfl⟩ := hparse'
    exact hagree.trans htrue
  · intro hchunk
    exact ⟨s', x, y, hrun, hparse, htypes, hchunk.trans hmapped.symm, hmapped⟩

theorem rangesAgree_iff_below : RangesAgree .plain .type64 0 0 (2 ^ 41) (2 ^ 41) .bare ↔
    2 ^ 41 + 2 ^ 41 ≤ 2 ^ 42 :=
  rangesAgree_iff Host.plain_contract (by decide) (by decide) (by decide) (by decide)

/-- A chunk of 16 GiB from 4 TiB on: type 20 places it at address 0. -/
theorem rangeTruncated :
    deviceKb ((type20Table (2 ^ 42) (2 ^ 34)).formatted (fun _ => 0) 0) = (0, 2 ^ 24 - 1) ∧
      ¬RangesAgree .plain .type64 0 0 (2 ^ 42) (2 ^ 34) .bare := by
  refine ⟨?_, fun hagree => ?_⟩
  · rw [deviceKb_type20Table, rangeEnd_of_le (by decide) (by decide)]
    decide
  · have hle := (rangesAgree_iff Host.plain_contract (by decide) (by decide) (by decide)
      (by decide)).mp hagree
    exact absurd hle (by decide)

end Smbios
