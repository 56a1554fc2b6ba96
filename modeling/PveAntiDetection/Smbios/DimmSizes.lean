import PveAntiDetection.Smbios.Handles
import PveAntiDetection.Smbios.Memory

/-!
# The sizes of the DIMM chunks

`smbios_get_tables_ep` cuts the RAM into chunks of the memory device size, the last one smaller, and
types 16 and 17 encode sizes with an escape value each.

* `dimmBytes`, `arrayBytes` — the size of a type 17 and the capacity of a type 16 structure;
* `ChunksSum` — the chunks add up to the RAM; `DimmsDecode` — so do the structures;
* `dimmSizes_exact` — both hold of every RAM size, and the type 17 assertion never fails below
  2 PiB.
-/

set_option autoImplicit false

namespace Smbios

open Bytes

variable {h : Host} {ep : SmbiosEntryPointType} {ms : Machine} {o : Options} {s s' : State}

/-! ## Reading types 16 and 17 -/

/-- The size of a type 17 structure: in MiB, with 0x7FFF for an extended size. -/
def dimmBytes (fmt : List UInt8) : Nat :=
  if memberValue fmt SmbiosType17.size = 0x7FFF then
    memberValue fmt SmbiosType17.extendedSize * MiB
  else memberValue fmt SmbiosType17.size * MiB

/-- The capacity of a type 16 structure: in KiB, with 0x80000000 for an extended capacity in
bytes. -/
def arrayBytes (fmt : List UInt8) : Nat :=
  if memberValue fmt SmbiosType16.maximumCapacity = 0x80000000 then
    memberValue fmt SmbiosType16.extendedMaximumCapacity
  else memberValue fmt SmbiosType16.maximumCapacity * KiB

/-- The number of memory devices of a type 16 structure. -/
def arrayDevices (fmt : List UInt8) : Nat := memberValue fmt SmbiosType16.numberOfMemoryDevices

/-- The chunks are not longer than a memory device and add up to the RAM. -/
structure ChunksSum (ms : Machine) : Prop where
  bounds : ∀ i, i < dimmCnt ms →
    1 ≤ getDimmSz ms i ∧ getDimmSz ms i ≤ ms.smbiosMemoryDeviceSize.toNat
  total : ∑ i ∈ Finset.range (dimmCnt ms), getDimmSz ms i = ms.ramSize.toNat

/-- The type 17 structures add up to the RAM, and one type 16 structure has their number and the
RAM as its capacity. -/
structure DimmsDecode (ms : Machine) (arrays dimms : List (List UInt8)) : Prop where
  total : (dimms.map dimmBytes).sum = ms.ramSize.toNat
  counted : arrays.map arrayDevices = [dimms.length]
  capacity : arrays.map arrayBytes = [ms.ramSize.toNat]

/-- The sizes that the results are about: neither is 0, their sum does not overflow, and the chunks
can be counted in 16 bits. -/
structure SizesInRange (ms : Machine) : Prop where
  ram : 0 < ms.ramSize.toNat
  device : 0 < ms.smbiosMemoryDeviceSize.toNat
  sum_lt : ms.ramSize.toNat + ms.smbiosMemoryDeviceSize.toNat < 2 ^ 64
  count_lt : (ms.ramSize.toNat + ms.smbiosMemoryDeviceSize.toNat - 1) /
    ms.smbiosMemoryDeviceSize.toNat < 2 ^ 16

/-! ## The chunks -/

theorem SizesInRange.device_ne (hsizes : SizesInRange ms) : ms.smbiosMemoryDeviceSize ≠ 0 := by
  intro hzero
  have hpos := hsizes.device
  rw [hzero] at hpos
  exact absurd hpos (by decide)

theorem SizesInRange.few (hsizes : SizesInRange ms) :
    (ms.ramSize.toNat + ms.smbiosMemoryDeviceSize.toNat - 1) /
      ms.smbiosMemoryDeviceSize.toNat < 2 ^ 32 :=
  Nat.lt_trans hsizes.count_lt (by decide)

theorem SizesInRange.dimmCnt_lt (hsizes : SizesInRange ms) : dimmCnt ms < 2 ^ 16 := by
  rw [dimmCnt_eq hsizes.few hsizes.device_ne, if_pos (Nat.le_of_lt hsizes.sum_lt)]
  exact hsizes.count_lt

theorem getDimmSz_le (hsizes : SizesInRange ms) (i : Nat) :
    getDimmSz ms i ≤ ms.smbiosMemoryDeviceSize.toNat := by
  have hmod := Nat.mod_lt ((ms.ramSize.toNat + (2 ^ 64 - 1)) % 2 ^ 64) hsizes.device
  unfold getDimmSz
  split
  · exact Nat.le_refl _
  · omega

theorem chunksSum (hsizes : SizesInRange ms) : ChunksSum ms where
  bounds i _ := ⟨(getDimmSz_bounds hsizes.device_ne i).1, getDimmSz_le hsizes i⟩
  total := sum_getDimmSz hsizes.few hsizes.device_ne (.inr (Nat.le_of_lt hsizes.sum_lt))

/-- Chunks of a size that divides the RAM and the device are multiples of it. -/
theorem getDimmSz_dvd (hsizes : SizesInRange ms) {m : Nat} (hram : m ∣ ms.ramSize.toNat)
    (hdev : m ∣ ms.smbiosMemoryDeviceSize.toNat) (i : Nat) : m ∣ getDimmSz ms i := by
  have hpos := hsizes.ram
  have hlt := ms.ramSize.toNat_lt
  unfold getDimmSz
  split
  · exact hdev
  · have hwrap : (ms.ramSize.toNat + (2 ^ 64 - 1)) % 2 ^ 64 = ms.ramSize.toNat - 1 := by omega
    have hdiv := Nat.div_add_mod (ms.ramSize.toNat - 1) ms.smbiosMemoryDeviceSize.toNat
    have hsplit : ms.ramSize.toNat = ms.smbiosMemoryDeviceSize.toNat *
        ((ms.ramSize.toNat - 1) / ms.smbiosMemoryDeviceSize.toNat) +
          ((ms.ramSize.toNat - 1) % ms.smbiosMemoryDeviceSize.toNat + 1) := by omega
    rw [hwrap]
    rw [hsplit] at hram
    exact (Nat.dvd_add_right (Nat.dvd_mul_right_of_dvd hdev _)).mp hram

/-! ## One structure -/

/-- Rounding up changes no multiple that does not overflow. -/
theorem qemuAlignUp_eq {n m : Nat} (hm : 0 < m) (hdvd : m ∣ n) (hlt : n + m ≤ 2 ^ 64) :
    qemuAlignUp n m = n := by
  obtain ⟨k, rfl⟩ := hdvd
  unfold qemuAlignUp
  rw [Nat.mod_eq_of_lt (by omega), show m * k + m - 1 = (m - 1) + m * k by omega,
    Nat.add_mul_div_left _ _ hm, Nat.div_eq_of_lt (by omega), Nat.zero_add, Nat.mul_comm]

theorem sizeMb_mul {size : Nat} (hdvd : MiB ∣ size) (hlt : size + MiB ≤ 2 ^ 64) :
    sizeMb size * MiB = size := by
  unfold sizeMb
  rw [qemuAlignUp_eq (by decide) hdvd hlt]
  exact Nat.div_mul_cancel hdvd

/-- **A type 17 structure is read as the chunk it is built for.** -/
theorem dimmBytes_type17Table {i size : Nat} (hdvd : MiB ∣ size) (hlt : size + MiB ≤ 2 ^ 64)
    (hfit : sizeMb size < MAX_T17_EXT_SZ) (fresh : Nat → UInt8) (off : Nat) :
    dimmBytes ((type17Table o i size).formatted fresh off) = size := by
  have hmul := sizeMb_mul hdvd hlt
  unfold type17Table dimmBytes
  by_cases hstd : sizeMb size < MAX_T17_STD_SZ
  · have hsize : sizeMb size % 256 ^ 2 = sizeMb size := Nat.mod_eq_of_lt (by
      unfold MAX_T17_STD_SZ at hstd
      omega)
    have hne : sizeMb size % 256 ^ 2 ≠ 0x7FFF := by
      rw [hsize]
      exact Nat.ne_of_lt hstd
    rw [if_pos hstd, memberValue_tableOf (f := SmbiosType17.size) (n := sizeMb size) rfl]
    refine (if_neg hne).trans ?_
    exact (congrArg (· * MiB) hsize).trans hmul
  · have hext : sizeMb size % 256 ^ 4 = sizeMb size := Nat.mod_eq_of_lt (by
      unfold MAX_T17_EXT_SZ at hfit
      omega)
    rw [if_neg hstd, if_pos hfit,
      memberValue_tableOf (f := SmbiosType17.size) (n := MAX_T17_STD_SZ) rfl,
      memberValue_tableOf (f := SmbiosType17.extendedSize) (n := sizeMb size) rfl]
    refine (if_pos rfl).trans ?_
    exact (congrArg (· * MiB) hext).trans hmul

/-- **The type 16 structure is read as the RAM.** -/
theorem arrayBytes_type16Table {n : Nat} (hdvd : KiB ∣ ms.ramSize.toNat)
    (hlt : ms.ramSize.toNat + KiB ≤ 2 ^ 64) (fresh : Nat → UInt8) (off : Nat) :
    arrayBytes ((type16Table ms n).formatted fresh off) = ms.ramSize.toNat := by
  have hram := ms.ramSize.toNat_lt
  have halign := qemuAlignUp_eq (by decide) hdvd hlt
  have hmul : ms.ramSize.toNat / KiB * KiB = ms.ramSize.toNat := Nat.div_mul_cancel hdvd
  unfold type16Table arrayBytes
  simp only [halign]
  by_cases hstd : ms.ramSize.toNat / KiB < MAX_T16_STD_SZ
  · have hkb : ms.ramSize.toNat / KiB % 256 ^ 4 = ms.ramSize.toNat / KiB := Nat.mod_eq_of_lt (by
      unfold MAX_T16_STD_SZ at hstd
      omega)
    have hne : ms.ramSize.toNat / KiB % 256 ^ 4 ≠ 0x80000000 := by
      rw [hkb]
      exact Nat.ne_of_lt hstd
    rw [if_pos hstd, memberValue_tableOf (f := SmbiosType16.maximumCapacity)
      (n := ms.ramSize.toNat / KiB) rfl]
    refine (if_neg hne).trans ?_
    exact (congrArg (· * KiB) hkb).trans hmul
  · rw [if_neg hstd,
      memberValue_tableOf (f := SmbiosType16.maximumCapacity) (n := MAX_T16_STD_SZ) rfl,
      memberValue_tableOf (f := SmbiosType16.extendedMaximumCapacity)
        (n := ms.ramSize.toNat) rfl]
    refine (if_pos rfl).trans ?_
    exact Nat.mod_eq_of_lt hram

theorem arrayDevices_type16Table {n : Nat} (hlt : n < 2 ^ 16) (fresh : Nat → UInt8) (off : Nat) :
    arrayDevices ((type16Table ms n).formatted fresh off) = n := by
  have hmod : n % 256 ^ 2 = n := Nat.mod_eq_of_lt hlt
  unfold type16Table arrayDevices
  dsimp only
  split
  · rw [memberValue_tableOf (f := SmbiosType16.numberOfMemoryDevices) (n := n) rfl]
    exact hmod
  · rw [memberValue_tableOf (f := SmbiosType16.numberOfMemoryDevices) (n := n) rfl]
    exact hmod

/-! ## All structures of a pass -/

/-- The sizes read from the type 17 structures. -/
theorem dimmBytes_perm (hh : h.Contract) (hsizes : SizesInRange ms)
    (hram : MiB ∣ ms.ramSize.toNat) (hdev : MiB ∣ ms.smbiosMemoryDeviceSize.toNat)
    (h17 : smbiosSkipTable s.opts 17 true = false) {p : Published}
    (hrun : smbiosGetTablesEp h ep ms s = .ok (some p) s') :
    ((publishedAreas 17 s p s').map dimmBytes).Perm
      ((List.range' 0 (dimmCnt ms)).map (getDimmSz ms)) := by
  have hpub := publishes_of_run hh hrun
  have hof : tablesOf h ep ms s.opts 17 = (List.range' 0 (dimmCnt ms)).map fun i =>
      type17Table s.opts i (getDimmSz ms i) := by
    simp only [tablesOf, dimmTables, Options.opt, h17, Bool.false_eq_true, if_false]
  -- a chunk leaves room for rounding up, as the RAM and a device do
  have hroom : ms.smbiosMemoryDeviceSize.toNat + MiB ≤ 2 ^ 64 := by
    have hle := Nat.le_of_dvd hsizes.ram hram
    have hlt := hsizes.sum_lt
    omega
  have hvalue : ∀ i, i < dimmCnt ms → ∀ off,
      dimmBytes ((type17Table s.opts i (getDimmSz ms i)).formatted (h.fresh ep) off) =
        getDimmSz ms i := by
    intro i hi off
    have hle := getDimmSz_le hsizes i
    exact dimmBytes_type17Table (getDimmSz_dvd hsizes hram hdev i) (by omega)
      (hpub.hold.chunks h17 i hi) _ off
  have hdecoded := decoded_perm hh hrun (n := 17) (by decide) (f := dimmBytes)
    (g := fun t => dimmBytes (t.formatted (h.fresh ep) 0)) fun t ht off => by
      rw [hof] at ht
      obtain ⟨i, hi, rfl⟩ := List.mem_map.mp ht
      have hlt : i < dimmCnt ms := by simpa using (List.mem_range'_1.mp hi).2
      exact (hvalue i hlt off).trans (hvalue i hlt 0).symm
  rw [hof, List.map_map] at hdecoded
  refine hdecoded.trans (List.Perm.of_eq (List.map_congr_left fun i hi => ?_))
  rw [Function.comp_apply]
  exact hvalue i (by simpa using (List.mem_range'_1.mp hi).2) 0

/-- What is read from the one type 16 structure. -/
theorem arrays_eq (hh : h.Contract) (h16 : smbiosSkipTable s.opts 16 true = false) {p : Published}
    (hrun : smbiosGetTablesEp h ep ms s = .ok (some p) s') {f : List UInt8 → Nat} {n : Nat}
    (hvalue : ∀ off, f ((type16Table ms (dimmCnt ms)).formatted (h.fresh ep) off) = n) :
    (publishedAreas 16 s p s').map f = [n] := by
  have hof : tablesOf h ep ms s.opts 16 = [type16Table ms (dimmCnt ms)] := by
    simp only [tablesOf, arrayTables, Options.opt, h16, Bool.false_eq_true, if_false]
  have hdecoded := decoded_perm hh hrun (n := 16) (by decide) (f := f) (g := fun _ => n)
    fun t ht off => by
      rw [hof] at ht
      rw [List.mem_singleton.mp ht]
      exact hvalue off
  rw [hof, List.map_singleton] at hdecoded
  exact List.perm_singleton.mp hdecoded

/-- The chunks as a list. -/
theorem sum_chunks (hsum : ChunksSum ms) :
    ((List.range' 0 (dimmCnt ms)).map (getDimmSz ms)).sum = ms.ramSize.toNat := by
  rw [← hsum.total, List.range'_eq_map_range, List.map_map]
  simp only [Function.comp_def, Nat.zero_add, Finset.sum, Finset.range_val, Multiset.range,
    Multiset.map_coe, Multiset.sum_coe]

theorem dimmsDecode (hh : h.Contract) (hsizes : SizesInRange ms) (hram : MiB ∣ ms.ramSize.toNat)
    (hdev : MiB ∣ ms.smbiosMemoryDeviceSize.toNat) (h16 : smbiosSkipTable s.opts 16 true = false)
    (h17 : smbiosSkipTable s.opts 17 true = false) {p : Published}
    (hrun : smbiosGetTablesEp h ep ms s = .ok (some p) s') :
    DimmsDecode ms (publishedAreas 16 s p s') (publishedAreas 17 s p s') := by
  have hperm := dimmBytes_perm hh hsizes hram hdev h17 hrun
  have hkib : KiB ∣ ms.ramSize.toNat := Nat.dvd_trans (by decide) hram
  have hroom : ms.ramSize.toNat + KiB ≤ 2 ^ 64 := by
    have hle := Nat.le_of_dvd hsizes.device hdev
    have hlt := hsizes.sum_lt
    unfold MiB at hle
    unfold KiB
    omega
  have hlen : (publishedAreas 17 s p s').length = dimmCnt ms := by
    have hlength := hperm.length_eq
    rwa [List.length_map, List.length_map, List.length_range'] at hlength
  refine ⟨?_, ?_, ?_⟩
  · rw [hperm.sum_eq, sum_chunks (chunksSum hsizes)]
  · rw [hlen]
    exact arrays_eq hh h16 hrun fun off => arrayDevices_type16Table hsizes.dimmCnt_lt _ off
  · exact arrays_eq hh h16 hrun fun off => arrayBytes_type16Table hkib hroom _ off

/-! ## The type 17 assertion -/

theorem mappedFault_ne (n i : Nat) : mappedFault ms o n i ≠ some .type17SizeAssert := by
  induction n generalizing i with
  | zero => exact fun hf => nomatch hf
  | succ n ih =>
    unfold mappedFault
    split
    · exact fun hf => nomatch hf
    · split
      · exact ih (i + 1)
      · split <;> exact fun hf => nomatch hf

/-- The type 17 assertion fails only on a chunk that does not fit. -/
theorem not_chunksFit (hf : assertionFault ms o = some .type17SizeAssert) : ¬ChunksFit ms o := by
  rw [assertionFault_eq] at hf
  rcases @oem_fault o with ⟨hoem, -⟩ | ⟨hoem, -⟩
  · rw [hoem, Option.none_or] at hf
    by_cases hdev : ms.smbiosMemoryDeviceSize = 0
    · rw [if_pos hdev, Option.some_or] at hf
      cases hf
    · rw [if_neg hdev, Option.none_or] at hf
      rcases @dimm_fault ms o with ⟨hdimm, -⟩ | ⟨-, hbad⟩
      · rw [hdimm, Option.none_or] at hf
        cases hmapped : mappedFault ms o (dimmCnt ms) 0 with
        | some f =>
          rw [hmapped, Option.some_or] at hf
          exact absurd (hmapped.trans hf) (mappedFault_ne _ _)
        | none =>
          rw [hmapped, Option.none_or] at hf
          split at hf <;> cases hf
      · exact hbad
  · rw [hoem, Option.some_or] at hf
    cases hf

/-- A device below 2 PiB, of whole MiB, leaves no chunk that does not fit. -/
theorem chunksFit (hsizes : SizesInRange ms) (hdev : MiB ∣ ms.smbiosMemoryDeviceSize.toNat)
    (hsmall : ms.smbiosMemoryDeviceSize.toNat < 2 ^ 51) : ChunksFit ms o := by
  intro _ i _
  have hle := getDimmSz_le hsizes i
  unfold sizeMb qemuAlignUp MAX_T17_EXT_SZ
  unfold MiB at hdev ⊢
  omega

theorem type17_never_asserts (hh : h.Contract) (hsizes : SizesInRange ms)
    (hdev : MiB ∣ ms.smbiosMemoryDeviceSize.toNat)
    (hsmall : ms.smbiosMemoryDeviceSize.toNat < 2 ^ 51) (s : State) :
    observe (smbiosGetTablesEp h ep ms s) ≠ .error .type17SizeAssert := by
  by_cases hep : ep = .auto
  · subst hep
    exact fun hf => nomatch hf
  · rw [ne_eq, observe_faulted hh hep]
    intro hrun
    have hend := @epRun_end h ep ms s.opts hh
    rw [hrun] at hend
    cases hend with
    | asserted _ _ _ hf => exact not_chunksFit hf (chunksFit hsizes hdev hsmall)

/-- **The chunks add up to the RAM.**  With sizes in MiB, so do the published structures, and the
type 17 assertion never fails for a device below 2 PiB. -/
theorem dimmSizes_exact (hh : h.Contract) (hsizes : SizesInRange ms) : ChunksSum ms ∧
    (MiB ∣ ms.ramSize.toNat → MiB ∣ ms.smbiosMemoryDeviceSize.toNat →
      (ms.smbiosMemoryDeviceSize.toNat < 2 ^ 51 → ∀ s,
        observe (smbiosGetTablesEp h ep ms s) ≠ .error .type17SizeAssert) ∧
      ∀ s p s', smbiosGetTablesEp h ep ms s = .ok (some p) s' →
        smbiosSkipTable s.opts 16 true = false → smbiosSkipTable s.opts 17 true = false →
          DimmsDecode ms (publishedAreas 16 s p s') (publishedAreas 17 s p s')) := by
  refine ⟨chunksSum hsizes, fun hram hdev => ⟨?_, ?_⟩⟩
  · exact fun hsmall s => type17_never_asserts hh hsizes hdev hsmall s
  · exact fun s p s' hrun h16 h17 => dimmsDecode hh hsizes hram hdev h16 h17 hrun

theorem twoChunks_inRange : SizesInRange .twoChunks := by
  constructor <;> decide

theorem dimmSizes_exact_twoChunks : ChunksSum .twoChunks ∧ ∃ p s',
    smbiosGetTablesEp .plain .type64 .twoChunks .bare = .ok (some p) s' ∧
      DimmsDecode .twoChunks (publishedAreas 16 .bare p s') (publishedAreas 17 .bare p s') := by
  have hhold : AssertionsHold .twoChunks State.bare.opts :=
    assertionFault_eq_none.mp (by decide +kernel)
  have hrun := run_of_publishes (s := .bare) Host.plain_contract
    ⟨by decide, by decide, type4Rejects_type64, hhold, .inl rfl, not_tooLong_type64⟩
  obtain ⟨hsum, hdecode⟩ := dimmSizes_exact Host.plain_contract twoChunks_inRange
  have hmib := hdecode (by decide) (by decide)
  exact ⟨hsum, _, _, hrun, hmib.2 _ _ _ hrun (by decide) (by decide)⟩

end Smbios
