import Mathlib.Algebra.BigOperators.Fin
import Mathlib.Algebra.Order.BigOperators.Group.Finset
import PveAntiDetection.Lib.Intervals
import PveAntiDetection.Smbios.Decoded

/-!
# Memory areas and DIMM chunks

The loop over types 19 and 20 runs over the DIMM chunks, and takes the start of each range from the
area with the number of the chunk.

* `readsInBounds_iff` — when the loop stays inside `mem_array`; `areasOverrun` is a machine on which
  it does not;
* `mappedExactly_iff` — when the ranges of the type 19 tables are the areas; `holeMapped` is a
  machine on which they are not.
-/

set_option autoImplicit false

namespace Smbios

open Bytes Intervals

variable {h : Host} {ep : SmbiosEntryPointType} {ms : Machine} {o : Options} {s s' : State}

/-! ## Reads of `mem_array` -/

/-- No pass reads `mem_array` behind its end. -/
def ReadsInBounds (h : Host) (ep : SmbiosEntryPointType) (ms : Machine) (s : State) : Prop :=
  ∀ k, observe (smbiosGetTablesEp h ep ms s) ≠ .error (.memArrayOutOfBounds k)

/-- A pass gets to the memory calls, and there are more DIMM chunks than areas. -/
structure OverrunsAreas (ep : SmbiosEntryPointType) (ms : Machine) (o : Options) : Prop where
  notAuto : ep ≠ .auto
  sockets : ms.sockets.toNat ≠ 0
  accepted : type4Rejects ep ms o = false
  reads : ReadsBehindAreas ms o

theorem observe_faulted (hh : h.Contract) (hep : ep ≠ .auto) {f : Fault} :
    observe (smbiosGetTablesEp h ep ms s) = .error f ↔ epRun h ep ms s.opts = .faulted f := by
  have heq := @smbiosGetTablesEp_eq h ep ms hh hep s
  generalize epRun h ep ms s.opts = e at heq
  cases e with
  | faulted f' =>
    obtain ⟨s', hs'⟩ := heq
    rw [hs']
    simp only [observe, Except.error.injEq, Ended.faulted.injEq]
  | refused o b =>
    rw [show smbiosGetTablesEp h ep ms s = _ from heq]
    simp [observe]
  | published o b =>
    rw [show smbiosGetTablesEp h ep ms s = _ from heq]
    simp [observe]

/-- One socket with one core and 40 GiB of memory, 2 GiB of it below 4 GiB. -/
def Machine.large : Machine where
  sockets := 1
  coresPerSocket := 1
  threadsPerSocket := 1
  ramSize := 0xA00000000
  smbiosMemoryDeviceSize := 0x400000000
  memArray := [⟨0, 0x80000000⟩, ⟨0x100000000, 0x980000000⟩]
  memArray_lt := by decide

/-- The first and the last address of a formatted area of type 19: in KiB, or in bytes if the
starting address is 0xFFFFFFFF. -/
def type19Range (fmt : List UInt8) : Nat × Nat :=
  if memberValue fmt SmbiosType19.startingAddress = UINT32_MAX then
    (memberValue fmt SmbiosType19.extendedStartingAddress,
      memberValue fmt SmbiosType19.extendedEndingAddress)
  else
    (memberValue fmt SmbiosType19.startingAddress * KiB,
      memberValue fmt SmbiosType19.endingAddress * KiB + (KiB - 1))

theorem rangeEnd_eq {start size : Nat} (hsize : 0 < size ∧ size < 2 ^ 64)
    (hstart : start < 2 ^ 64) (hok : rangeEnd start size > start) :
    rangeEnd start size = start + size - 1 ∧ start + size - 1 < 2 ^ 64 := by
  unfold rangeEnd at hok ⊢
  omega

/-- The last address that is read back from a type 19 table. -/
def rangeLast (start size : Nat) : Nat :=
  if start / KiB < UINT32_MAX ∧ rangeEnd start size / KiB < UINT32_MAX then
    rangeEnd start size / KiB * KiB + (KiB - 1)
  else rangeEnd start size

/-- The range that is read back from a type 19 table: whole KiB, or the bytes themselves in the
extended form. -/
theorem type19Range_formatted {i offset start size : Nat} (hstart : start < 2 ^ 64)
    (hend : rangeEnd start size < 2 ^ 64) (hok : rangeEnd start size > start)
    (fresh : Nat → UInt8) (off : Nat) :
    type19Range ((type19Table i offset start size).formatted fresh off) =
      if start / KiB < UINT32_MAX ∧ rangeEnd start size / KiB < UINT32_MAX then
        (start / KiB * KiB, rangeEnd start size / KiB * KiB + (KiB - 1))
      else (start, rangeEnd start size) := by
  unfold type19Table type19Range
  rw [if_pos hok]
  by_cases hshort : start / KiB < UINT32_MAX ∧ rangeEnd start size / KiB < UINT32_MAX
  · have hfirst : start / KiB % 256 ^ 4 = start / KiB := Nat.mod_eq_of_lt (by
      unfold UINT32_MAX at hshort
      omega)
    have hlast : rangeEnd start size / KiB % 256 ^ 4 = rangeEnd start size / KiB :=
      Nat.mod_eq_of_lt (by
        unfold UINT32_MAX at hshort
        omega)
    have hne : start / KiB % 256 ^ 4 ≠ UINT32_MAX := by
      rw [hfirst]
      exact Nat.ne_of_lt hshort.1
    rw [if_pos hshort, if_pos hshort,
      memberValue_tableOf (f := SmbiosType19.startingAddress) (n := start / KiB) rfl,
      memberValue_tableOf (f := SmbiosType19.endingAddress) (n := rangeEnd start size / KiB) rfl]
    refine (if_neg hne).trans (Prod.ext ?_ ?_)
    · exact congrArg (· * KiB) hfirst
    · exact congrArg (fun e => e * KiB + (KiB - 1)) hlast
  · rw [if_neg hshort, if_neg hshort,
      memberValue_tableOf (f := SmbiosType19.startingAddress) (n := UINT32_MAX) rfl,
      memberValue_tableOf (f := SmbiosType19.extendedStartingAddress) (n := start) rfl,
      memberValue_tableOf (f := SmbiosType19.extendedEndingAddress) (n := rangeEnd start size) rfl]
    refine (if_pos rfl).trans (Prod.ext ?_ ?_)
    · exact Nat.mod_eq_of_lt hstart
    · exact Nat.mod_eq_of_lt hend

/-- **A type 19 table is read back as the range it was built from**, its end rounded up to KiB. -/
theorem type19Range_eq {i offset start size : Nat} (hsize : 0 < size ∧ size < 2 ^ 64)
    (hstart : start < 2 ^ 64) (hok : rangeEnd start size > start) (haligned : KiB ∣ start)
    (fresh : Nat → UInt8) (off : Nat) :
    type19Range ((type19Table i offset start size).formatted fresh off) =
      (start, rangeLast start size) := by
  obtain ⟨heq, hlt⟩ := rangeEnd_eq hsize hstart hok
  have hkib : start / KiB * KiB = start := Nat.div_mul_cancel haligned
  rw [type19Range_formatted hstart (by omega) hok, hkib]
  unfold rangeLast
  split <;> rfl

/-- The ranges of the type 19 structures of a blob, with its user structures in front of the tables
`ts`. -/
def mappedRanges (blob : List UInt8) (userLen : Nat) (ts : List Table) : List (Nat × Nat) :=
  ((placed userLen ts).filter fun q => q.2.type = 19).map fun q =>
    type19Range (load blob q.1 q.2.len)

/-! ## Areas and chunks -/

/-- The areas are disjoint and ascending, aligned to KiB, together as long as the RAM, and not fewer
than the chunks that the RAM fills. -/
structure AreasMatchRam (ms : Machine) : Prop where
  ascending : ms.memArray.Pairwise fun a b => a.address.toNat + a.length.toNat ≤ b.address.toNat
  aligned : ∀ a ∈ ms.memArray, KiB ∣ a.address.toNat ∧ KiB ∣ a.length.toNat
  total : (ms.memArray.map fun a => a.length.toNat).sum = ms.ramSize.toNat
  enough : (ms.ramSize.toNat + ms.smbiosMemoryDeviceSize.toNat - 1) /
    ms.smbiosMemoryDeviceSize.toNat ≤ ms.memArray.length

/-- The ranges are pairwise disjoint, and together they are the areas. -/
def MappedExactly (ms : Machine) (rs : List (Nat × Nat)) : Prop :=
  (rs.Pairwise fun r q => ∀ x, r.1 ≤ x ∧ x ≤ r.2 → ¬(q.1 ≤ x ∧ x ≤ q.2)) ∧
    ∀ x, (∃ r ∈ rs, r.1 ≤ x ∧ x ≤ r.2) ↔
      ∃ a ∈ ms.memArray, a.address.toNat ≤ x ∧ x < a.address.toNat + a.length.toNat

/-- Every area but the last ones is as long as a memory device, the areas from the last chunk on
end within it, and the number of chunks does not overflow. -/
structure ChunksAreAreas (ms : Machine) : Prop where
  counted : ms.ramSize.toNat = 0 ∨ ms.ramSize.toNat + ms.smbiosMemoryDeviceSize.toNat ≤ 2 ^ 64
  full : ∀ i a, i + 1 < dimmCnt ms → ms.memArray[i]? = some a →
    a.length = ms.smbiosMemoryDeviceSize
  last : ∀ j a b, dimmCnt ms - 1 ≤ j → ms.memArray[j]? = some a →
    ms.memArray[dimmCnt ms - 1]? = some b → a.length ≠ 0 →
    a.address.toNat + a.length.toNat ≤ b.address.toNat + getDimmSz ms (dimmCnt ms - 1)

/-- The length of area `i`. -/
def areaLength (ms : Machine) (i : Nat) : Nat :=
  match ms.memArray[i]? with
  | none => 0
  | some a => a.length.toNat

theorem chunkAddress_eq {i : Nat} {a : SmbiosPhysMemArea} (ha : ms.memArray[i]? = some a) :
    chunkAddress ms i = a.address.toNat := by
  unfold chunkAddress
  rw [ha]

theorem areaLength_eq {i : Nat} {a : SmbiosPhysMemArea} (ha : ms.memArray[i]? = some a) :
    areaLength ms i = a.length.toNat := by
  unfold areaLength
  rw [ha]

theorem areas_ascending (hareas : AreasMatchRam ms) :
    Ascending (chunkAddress ms) (areaLength ms) ms.memArray.length := by
  intro i j hij hj
  have hi := List.getElem?_eq_getElem (show i < ms.memArray.length by omega)
  have hj' := List.getElem?_eq_getElem hj
  rw [chunkAddress_eq hi, areaLength_eq hi, chunkAddress_eq hj']
  exact List.pairwise_iff_getElem.mp hareas.ascending i j _ hj hij

theorem areas_total (hareas : AreasMatchRam ms) :
    ∑ i ∈ Finset.range ms.memArray.length, areaLength ms i = ms.ramSize.toNat := by
  rw [← hareas.total, Finset.sum_range, ← List.sum_ofFn]
  congr 1
  apply List.ext_getElem
  · simp
  · intro i hi hi'
    have ha := List.getElem?_eq_getElem (show i < ms.memArray.length by simpa using hi)
    simp [areaLength_eq ha]

theorem mem_areas {x : Nat} : x ∈ points (chunkAddress ms) (areaLength ms) 0 ms.memArray.length ↔
    ∃ a ∈ ms.memArray, a.address.toNat ≤ x ∧ x < a.address.toNat + a.length.toNat := by
  rw [mem_points]
  constructor
  · rintro ⟨i, -, hi, hge, hlt⟩
    have ha := List.getElem?_eq_getElem hi
    rw [chunkAddress_eq ha] at hge hlt
    rw [areaLength_eq ha] at hlt
    exact ⟨_, List.getElem_mem hi, hge, hlt⟩
  · rintro ⟨a, hmem, hge, hlt⟩
    obtain ⟨i, hi, rfl⟩ := List.getElem_of_mem hmem
    have ha := List.getElem?_eq_getElem hi
    refine ⟨i, Nat.zero_le i, hi, ?_, ?_⟩
    · rw [chunkAddress_eq ha]
      exact hge
    · rw [chunkAddress_eq ha, areaLength_eq ha]
      exact hlt

theorem mappedExactly_perm {rs qs : List (Nat × Nat)} (hperm : rs.Perm qs) :
    MappedExactly ms rs ↔ MappedExactly ms qs := by
  unfold MappedExactly
  simp only [hperm.mem_iff]
  rw [hperm.pairwise_iff]
  intro r q hdis x hq hr
  exact hdis x hr hq

/-- The ranges of the chunks as tiles. -/
theorem mappedExactly_iff_tiles {last : Nat → Nat} {n : Nat}
    (hlast : ∀ i, i < n → chunkAddress ms i ≤ last i) :
    MappedExactly ms ((List.range' 0 n).map fun i => (chunkAddress ms i, last i)) ↔
      Tiles (chunkAddress ms) (areaLength ms) (fun i => last i + 1 - chunkAddress ms i)
        ms.memArray.length n := by
  unfold MappedExactly Tiles
  refine and_congr ?_ ?_
  · rw [List.pairwise_map, List.pairwise_iff_getElem]
    simp only [List.getElem_range', List.length_range', Nat.one_mul, Nat.zero_add]
    constructor
    · intro hdis i j hij hj
      have := hlast i (by omega)
      have := hlast j hj
      rw [Finset.disjoint_left]
      intro x hx hx'
      rw [Finset.mem_Ico] at hx hx'
      exact hdis i j (by omega) hj hij x ⟨hx.1, by omega⟩ ⟨hx'.1, by omega⟩
    · intro hdis i j hi hj hij x hx hx'
      have := hlast i hi
      have := hlast j hj
      exact Finset.disjoint_left.mp (hdis i j hij hj) (Finset.mem_Ico.mpr ⟨hx.1, by omega⟩)
        (Finset.mem_Ico.mpr ⟨hx'.1, by omega⟩)
  · rw [Finset.ext_iff]
    refine forall_congr' fun x => ?_
    rw [mem_areas, mem_points]
    refine iff_congr ?_ Iff.rfl
    constructor
    · rintro ⟨r, hr, hge, hle⟩
      obtain ⟨i, hi, rfl⟩ := List.mem_map.mp hr
      have hin := (List.mem_range'_1.mp hi).2
      exact ⟨i, Nat.zero_le i, by omega, hge, by simp only at hle hge; omega⟩
    · rintro ⟨i, -, hi, hge, hlt⟩
      have := hlast i hi
      exact ⟨_, List.mem_map.mpr ⟨i, List.mem_range'_1.mpr (by omega), rfl⟩, hge, by
        simp only
        omega⟩

/-! ## The sizes of the chunks -/

theorem getDimmSz_bounds (hdev : ms.smbiosMemoryDeviceSize ≠ 0) (i : Nat) :
    0 < getDimmSz ms i ∧ getDimmSz ms i < 2 ^ 64 := by
  have hlt := ms.smbiosMemoryDeviceSize.toNat_lt
  have hpos : 0 < ms.smbiosMemoryDeviceSize.toNat :=
    Nat.pos_of_ne_zero fun hzero => hdev (UInt64.toNat_inj.mp hzero)
  have hmod := Nat.mod_lt ((ms.ramSize.toNat + (2 ^ 64 - 1)) % 2 ^ 64) hpos
  unfold getDimmSz
  split
  · exact ⟨hpos, hlt⟩
  · omega

/-- The areas are not fewer than the chunks, and their number fits 32 bits. -/
theorem AreasMatchRam.few (hareas : AreasMatchRam ms) :
    (ms.ramSize.toNat + ms.smbiosMemoryDeviceSize.toNat - 1) /
      ms.smbiosMemoryDeviceSize.toNat < 2 ^ 32 :=
  Nat.lt_of_le_of_lt hareas.enough ms.memArray_lt

/-- The number of chunks, unless the rounded size overflows. -/
theorem dimmCnt_eq (hfew : (ms.ramSize.toNat + ms.smbiosMemoryDeviceSize.toNat - 1) /
      ms.smbiosMemoryDeviceSize.toNat < 2 ^ 32) (hdev : ms.smbiosMemoryDeviceSize ≠ 0) :
    dimmCnt ms = if ms.ramSize.toNat + ms.smbiosMemoryDeviceSize.toNat ≤ 2 ^ 64 then
      (ms.ramSize.toNat + ms.smbiosMemoryDeviceSize.toNat - 1) / ms.smbiosMemoryDeviceSize.toNat
    else 0 := by
  have hram := ms.ramSize.toNat_lt
  have hpos : 0 < ms.smbiosMemoryDeviceSize.toNat :=
    Nat.pos_of_ne_zero fun hzero => hdev (UInt64.toNat_inj.mp hzero)
  have hdevlt := ms.smbiosMemoryDeviceSize.toNat_lt
  unfold dimmCnt qemuAlignUp
  rw [Nat.mul_div_cancel _ hpos]
  generalize ms.smbiosMemoryDeviceSize.toNat = dev at *
  generalize ms.ramSize.toNat = ram at *
  split
  · rw [Nat.mod_eq_of_lt (show ram + dev - 1 < 2 ^ 64 by omega), Nat.mod_eq_of_lt hfew]
  · have hmod : (ram + dev - 1) % 2 ^ 64 = ram + dev - 1 - 2 ^ 64 := by omega
    rw [hmod, Nat.div_eq_of_lt (by omega), Nat.zero_mod]

/-- The chunks add up to the RAM. -/
theorem sum_getDimmSz (hfew : (ms.ramSize.toNat + ms.smbiosMemoryDeviceSize.toNat - 1) /
      ms.smbiosMemoryDeviceSize.toNat < 2 ^ 32) (hdev : ms.smbiosMemoryDeviceSize ≠ 0)
    (hcounted : ms.ramSize.toNat = 0 ∨
      ms.ramSize.toNat + ms.smbiosMemoryDeviceSize.toNat ≤ 2 ^ 64) :
    ∑ i ∈ Finset.range (dimmCnt ms), getDimmSz ms i = ms.ramSize.toNat := by
  have hcnt := dimmCnt_eq hfew hdev
  have hram := ms.ramSize.toNat_lt
  have hpos : 0 < ms.smbiosMemoryDeviceSize.toNat :=
    Nat.pos_of_ne_zero fun hzero => hdev (UInt64.toNat_inj.mp hzero)
  rcases Nat.eq_zero_or_pos ms.ramSize.toNat with hzero | hram'
  · have hnone : dimmCnt ms = 0 := by
      rw [hcnt, hzero, Nat.zero_add, Nat.div_eq_of_lt (by omega), ite_self]
    rw [hnone, hzero]
    rfl
  · have hle : ms.ramSize.toNat + ms.smbiosMemoryDeviceSize.toNat ≤ 2 ^ 64 :=
      hcounted.resolve_left (by omega)
    rw [if_pos hle, show ms.ramSize.toNat + ms.smbiosMemoryDeviceSize.toNat - 1 =
      (ms.ramSize.toNat - 1) + ms.smbiosMemoryDeviceSize.toNat by omega,
      Nat.add_div_right _ hpos] at hcnt
    have hfull : ∀ i ∈ Finset.range ((ms.ramSize.toNat - 1) / ms.smbiosMemoryDeviceSize.toNat),
        getDimmSz ms i = ms.smbiosMemoryDeviceSize.toNat := by
      intro i hi
      have hlt := Finset.mem_range.mp hi
      unfold getDimmSz
      rw [hcnt, if_pos (by omega)]
    have hlast : getDimmSz ms ((ms.ramSize.toNat - 1) / ms.smbiosMemoryDeviceSize.toNat) =
        (ms.ramSize.toNat - 1) % ms.smbiosMemoryDeviceSize.toNat + 1 := by
      have hwrap : (ms.ramSize.toNat + (2 ^ 64 - 1)) % 2 ^ 64 = ms.ramSize.toNat - 1 := by omega
      unfold getDimmSz
      rw [hcnt, Nat.add_sub_cancel, if_neg (Nat.lt_irrefl _), hwrap]
    have hdiv := Nat.div_add_mod' (ms.ramSize.toNat - 1) ms.smbiosMemoryDeviceSize.toNat
    rw [hcnt, Finset.sum_range_succ, hlast, Finset.sum_congr rfl hfull, Finset.sum_const,
      Finset.card_range, smul_eq_mul]
    omega

/-! ## The decoded ranges -/

theorem rangeEnd_le_rangeLast (start size : Nat) : rangeEnd start size ≤ rangeLast start size := by
  unfold rangeLast KiB
  split <;> omega

/-- The end of an aligned range is not rounded. -/
theorem rangeLast_eq {start size : Nat} (hsize : 0 < size ∧ size < 2 ^ 64) (hstart : start < 2 ^ 64)
    (hok : rangeEnd start size > start) (haligned : KiB ∣ start + size) :
    rangeLast start size = start + size - 1 := by
  have heq := (rangeEnd_eq hsize hstart hok).1
  have hround : (start + size - 1) / KiB * KiB + (KiB - 1) = start + size - 1 := by
    have hpos := hsize.1
    clear hsize hstart hok heq
    unfold KiB at haligned ⊢
    omega
  unfold rangeLast
  rw [heq]
  split
  · exact hround
  · rfl

/-- A chunk of a pass that runs through has an area, and ends behind its start. -/
theorem chunk_range (hareas : AreasMatchRam ms) (hhold : AssertionsHold ms o) {i : Nat}
    (hi : i < dimmCnt ms) : KiB ∣ chunkAddress ms i ∧ chunkAddress ms i < 2 ^ 64 ∧
      rangeEnd (chunkAddress ms i) (getDimmSz ms i) > chunkAddress ms i := by
  have hlt : i < ms.memArray.length := Nat.lt_of_lt_of_le hi hhold.areas
  have ha := List.getElem?_eq_getElem hlt
  have hok := hhold.ranges i _ hi ha
  unfold RangeOk at hok
  rw [chunkAddress_eq ha]
  exact ⟨(hareas.aligned _ (List.getElem_mem hlt)).1, UInt64.toNat_lt _, hok⟩

/-- **The ranges of a published pass**: chunk `i`, from the start of area `i` on. -/
theorem mappedRanges_perm (hh : h.Contract) (hareas : AreasMatchRam ms)
    (h19 : smbiosSkipTable s.opts 19 true = false) {p : Published}
    (hrun : smbiosGetTablesEp h ep ms s = .ok (some p) s') :
    (mappedRanges p.tables (s.opts.usrBlobs.take s.opts.usrBlobsLen).length s'.bld.started).Perm
      ((List.range' 0 (dimmCnt ms)).map fun i =>
        (chunkAddress ms i, rangeLast (chunkAddress ms i) (getDimmSz ms i))) := by
  have hpub := publishes_of_run hh hrun
  have hof : tablesOf h ep ms s.opts 19 = (List.range' 0 (dimmCnt ms)).map fun i =>
      type19Table i (handleOffset ms) (chunkAddress ms i) (getDimmSz ms i) := by
    simp only [tablesOf, Options.opt, h19, Bool.false_eq_true, if_false]
  -- the value that is read back does not depend on the position
  have hvalue : ∀ i, i < dimmCnt ms → ∀ off,
      type19Range ((type19Table i (handleOffset ms) (chunkAddress ms i)
        (getDimmSz ms i)).formatted (h.fresh ep) off) =
        (chunkAddress ms i, rangeLast (chunkAddress ms i) (getDimmSz ms i)) := by
    intro i hi off
    obtain ⟨haligned, hstart, hok⟩ := chunk_range hareas hpub.hold hi
    exact type19Range_eq (getDimmSz_bounds hpub.hold.device i) hstart hok haligned _ off
  have hdecoded := decoded_perm hh hrun (n := 19) (by decide) (f := type19Range)
    (g := fun t => type19Range (t.formatted (h.fresh ep) 0)) fun t ht off => by
      rw [hof] at ht
      obtain ⟨i, hi, rfl⟩ := List.mem_map.mp ht
      have hlt : i < dimmCnt ms := by simpa using (List.mem_range'_1.mp hi).2
      exact (hvalue i hlt off).trans (hvalue i hlt 0).symm
  unfold publishedAreas formattedOf at hdecoded
  rw [hof, List.map_map, List.map_map] at hdecoded
  unfold mappedRanges
  refine hdecoded.trans (List.Perm.of_eq (List.map_congr_left fun i hi => ?_))
  rw [Function.comp_apply]
  exact hvalue i (by simpa using (List.mem_range'_1.mp hi).2) 0

/-- The number of addresses in the range read back for chunk `i`. -/
def rangeSize (ms : Machine) (i : Nat) : Nat :=
  rangeLast (chunkAddress ms i) (getDimmSz ms i) + 1 - chunkAddress ms i

theorem rangeSize_bounds (hareas : AreasMatchRam ms) (hhold : AssertionsHold ms o) {i : Nat}
    (hi : i < dimmCnt ms) : getDimmSz ms i ≤ rangeSize ms i ∧
      chunkAddress ms i ≤ rangeLast (chunkAddress ms i) (getDimmSz ms i) := by
  obtain ⟨-, hstart, hok⟩ := chunk_range hareas hhold hi
  have heq := (rangeEnd_eq (getDimmSz_bounds hhold.device i) hstart hok).1
  have hle := rangeEnd_le_rangeLast (chunkAddress ms i) (getDimmSz ms i)
  unfold rangeSize
  omega

/-- A chunk that ends on a KiB boundary is read back with its size. -/
theorem rangeSize_eq (hareas : AreasMatchRam ms) (hhold : AssertionsHold ms o) {i : Nat}
    (hi : i < dimmCnt ms) (haligned : KiB ∣ getDimmSz ms i) : rangeSize ms i = getDimmSz ms i := by
  obtain ⟨hchunk, hstart, hok⟩ := chunk_range hareas hhold hi
  have hsize := getDimmSz_bounds hhold.device i
  have hlast := rangeLast_eq hsize hstart hok (Nat.dvd_add hchunk haligned)
  unfold rangeSize
  rw [hlast]
  omega

theorem getDimmSz_full {i : Nat} (hi : i + 1 < dimmCnt ms) :
    getDimmSz ms i = ms.smbiosMemoryDeviceSize.toNat := by
  unfold getDimmSz
  rw [if_pos (by omega)]

/-- The lengths of all areas but the last ones, by index. -/
theorem full_iff (hhold : AssertionsHold ms o) :
    (∀ i a, i + 1 < dimmCnt ms → ms.memArray[i]? = some a →
      a.length = ms.smbiosMemoryDeviceSize) ↔
      ∀ i, i + 1 < dimmCnt ms → getDimmSz ms i = areaLength ms i := by
  constructor
  · intro hfull i hi
    have hlt : i < ms.memArray.length := by
      have := hhold.areas
      omega
    have ha := List.getElem?_eq_getElem hlt
    rw [getDimmSz_full hi, areaLength_eq ha, hfull i _ hi ha]
  · intro hfull i a hi ha
    have heq := hfull i hi
    rw [getDimmSz_full hi, areaLength_eq ha] at heq
    exact UInt64.toNat_inj.mp heq.symm

/-- The ends of the areas from the last chunk on, by index. -/
theorem last_iff (hpos : 0 < dimmCnt ms) (hle : dimmCnt ms ≤ ms.memArray.length) :
    (∀ j a b, dimmCnt ms - 1 ≤ j → ms.memArray[j]? = some a →
      ms.memArray[dimmCnt ms - 1]? = some b → a.length ≠ 0 →
      a.address.toNat + a.length.toNat ≤ b.address.toNat + getDimmSz ms (dimmCnt ms - 1)) ↔
      ∀ j, dimmCnt ms - 1 ≤ j → j < ms.memArray.length → areaLength ms j ≠ 0 →
        chunkAddress ms j + areaLength ms j ≤
          chunkAddress ms (dimmCnt ms - 1) + getDimmSz ms (dimmCnt ms - 1) := by
  have hb := List.getElem?_eq_getElem (show dimmCnt ms - 1 < ms.memArray.length by omega)
  constructor
  · intro hends j hj hlt hne
    have ha := List.getElem?_eq_getElem hlt
    rw [areaLength_eq ha] at hne ⊢
    rw [chunkAddress_eq ha, chunkAddress_eq hb]
    exact hends j _ _ hj ha hb fun hzero => hne (by rw [hzero]; rfl)
  · intro hends j a b hj ha hb' hne
    have hlt := (List.getElem?_eq_some_iff.mp ha).1
    have hend := hends j hj hlt
    rw [areaLength_eq ha, chunkAddress_eq ha, chunkAddress_eq hb'] at hend
    exact hend fun hzero => hne (UInt64.toNat_inj.mp hzero)

/-- The chunks of areas that meet the condition end on KiB boundaries. -/
theorem getDimmSz_aligned (hareas : AreasMatchRam ms) (hhold : AssertionsHold ms o)
    (hcounted : ms.ramSize.toNat = 0 ∨
      ms.ramSize.toNat + ms.smbiosMemoryDeviceSize.toNat ≤ 2 ^ 64)
    (hfull : ∀ i, i + 1 < dimmCnt ms → getDimmSz ms i = areaLength ms i) :
    ∀ i, i < dimmCnt ms → KiB ∣ getDimmSz ms i := by
  have hlength : ∀ i, KiB ∣ areaLength ms i := by
    intro i
    cases ha : ms.memArray[i]? with
    | none =>
      unfold areaLength
      rw [ha]
      exact Nat.dvd_zero _
    | some a =>
      rw [areaLength_eq ha]
      exact (hareas.aligned a (List.mem_of_getElem? ha)).2
  have hram : KiB ∣ ms.ramSize.toNat := by
    rw [← areas_total hareas]
    exact Finset.dvd_sum fun i _ => hlength i
  have hall : ∀ i, i + 1 < dimmCnt ms → KiB ∣ getDimmSz ms i := fun i hi => by
    rw [hfull i hi]
    exact hlength i
  intro i hi
  by_cases hlast : i + 1 < dimmCnt ms
  · exact hall i hlast
  · -- the last chunk is what the others leave of the RAM
    have hsum := sum_getDimmSz hareas.few hhold.device hcounted
    rw [show dimmCnt ms = i + 1 by omega, Finset.sum_range_succ] at hsum
    have hhead : KiB ∣ ∑ j ∈ Finset.range i, getDimmSz ms j :=
      Finset.dvd_sum fun j hj => hall j (by have := Finset.mem_range.mp hj; omega)
    rw [← hsum] at hram
    exact (Nat.dvd_add_right hhead).mp hram

/-- The number of chunks does not wrap around where they fill the areas. -/
theorem counted_of_sum (hareas : AreasMatchRam ms) (hdev : ms.smbiosMemoryDeviceSize ≠ 0)
    (hsum : ∑ i ∈ Finset.range (dimmCnt ms), rangeSize ms i =
      ∑ j ∈ Finset.range ms.memArray.length, areaLength ms j) :
    ms.ramSize.toNat = 0 ∨ ms.ramSize.toNat + ms.smbiosMemoryDeviceSize.toNat ≤ 2 ^ 64 := by
  by_contra hover
  rw [not_or] at hover
  rw [dimmCnt_eq hareas.few hdev, if_neg hover.2, areas_total hareas] at hsum
  exact hover.1 hsum.symm

/-- A range is not shorter than its chunk, so the sums leave no room for rounding. -/
theorem rangeSize_eq_of_sum (hareas : AreasMatchRam ms) (hhold : AssertionsHold ms o)
    (hsum : ∑ i ∈ Finset.range (dimmCnt ms), rangeSize ms i =
      ∑ j ∈ Finset.range ms.memArray.length, areaLength ms j) :
    ∀ i < dimmCnt ms, getDimmSz ms i = rangeSize ms i := by
  have hcounted := counted_of_sum hareas hhold.device hsum
  have hall : ∀ i ∈ Finset.range (dimmCnt ms), getDimmSz ms i = rangeSize ms i := by
    rw [← Finset.sum_eq_sum_iff_of_le fun i hi =>
      (rangeSize_bounds hareas hhold (Finset.mem_range.mp hi)).1, hsum, areas_total hareas]
    exact sum_getDimmSz hareas.few hhold.device hcounted
  exact fun i hi => hall i (Finset.mem_range.mpr hi)

theorem rangeSize_pos (hareas : AreasMatchRam ms) (hhold : AssertionsHold ms o) :
    ∀ i, i < dimmCnt ms → 0 < rangeSize ms i := fun i hi =>
  Nat.lt_of_lt_of_le (getDimmSz_bounds hhold.device i).1 (rangeSize_bounds hareas hhold hi).1

theorem chunksAreAreas_of_tiles (hareas : AreasMatchRam ms) (hhold : AssertionsHold ms o)
    (htiles : Tiles (chunkAddress ms) (areaLength ms) (rangeSize ms) ms.memArray.length
      (dimmCnt ms)) : ChunksAreAreas ms := by
  have hasc := areas_ascending hareas
  have hsum := htiles.sum_eq hasc
  have hsize := rangeSize_eq_of_sum hareas hhold hsum
  obtain ⟨hsame, hlast⟩ := (tiles_iff hasc hhold.areas (rangeSize_pos hareas hhold)).mp htiles
  refine ⟨counted_of_sum hareas hhold.device hsum, (full_iff hhold).mpr fun i hi => ?_, ?_⟩
  · rw [hsize i (by omega), hsame i hi]
  rcases Nat.eq_zero_or_pos (dimmCnt ms) with hzero | hdimm
  · intro j a b _ ha _ hne
    rw [hzero, Finset.range_zero, Finset.sum_empty] at hsum
    have hnone := Finset.sum_eq_zero_iff.mp hsum.symm j
      (Finset.mem_range.mpr (List.getElem?_eq_some_iff.mp ha).1)
    rw [areaLength_eq ha] at hnone
    exact absurd (UInt64.toNat_inj.mp hnone) hne
  · have hlen := last_eq_of_sum hdimm hhold.areas hsame hsum
    rw [last_iff hdimm hhold.areas, hsize _ (by omega)]
    refine (last_covers_iff hasc hlen).mp ?_
    rw [Nat.sub_add_cancel hdimm]
    exact hlast

theorem tiles_of_chunksAreAreas (hareas : AreasMatchRam ms) (hhold : AssertionsHold ms o)
    (hchunks : ChunksAreAreas ms) :
    Tiles (chunkAddress ms) (areaLength ms) (rangeSize ms) ms.memArray.length (dimmCnt ms) := by
  have hasc := areas_ascending hareas
  have hfull := (full_iff hhold).mp hchunks.full
  have hsize : ∀ i, i < dimmCnt ms → rangeSize ms i = getDimmSz ms i := fun i hi =>
    rangeSize_eq hareas hhold hi (getDimmSz_aligned hareas hhold hchunks.counted hfull i hi)
  have hsame : ∀ i, i + 1 < dimmCnt ms → rangeSize ms i = areaLength ms i := fun i hi => by
    rw [hsize i (by omega), hfull i hi]
  have hsum : ∑ i ∈ Finset.range (dimmCnt ms), rangeSize ms i =
      ∑ j ∈ Finset.range ms.memArray.length, areaLength ms j := by
    rw [areas_total hareas, ← sum_getDimmSz hareas.few hhold.device hchunks.counted]
    exact Finset.sum_congr rfl fun i hi => hsize i (Finset.mem_range.mp hi)
  refine (tiles_iff hasc hhold.areas (rangeSize_pos hareas hhold)).mpr ⟨hsame, ?_⟩
  rcases Nat.eq_zero_or_pos (dimmCnt ms) with hzero | hdimm
  · -- no chunk: no RAM, and no area with an address
    rw [hzero, Finset.range_zero, Finset.sum_empty] at hsum
    refine (Finset.eq_empty_of_forall_notMem fun x hx => ?_).trans
      (Finset.eq_empty_of_forall_notMem fun x hx => ?_).symm
    · obtain ⟨j, -, hj, -⟩ := mem_points.mp hx
      omega
    · obtain ⟨j, -, hj, hge, hlt⟩ := mem_points.mp hx
      have := Finset.sum_eq_zero_iff.mp hsum.symm j (Finset.mem_range.mpr hj)
      omega
  · have hlen := last_eq_of_sum hdimm hhold.areas hsame hsum
    have hends := (last_iff hdimm hhold.areas).mp hchunks.last
    rw [← hsize _ (show dimmCnt ms - 1 < dimmCnt ms by omega)] at hends
    have hcover := (last_covers_iff hasc hlen).mpr hends
    rw [Nat.sub_add_cancel hdimm] at hcover
    exact hcover

/-- **The ranges of type 19 are the areas exactly when the chunks are.** -/
theorem mappedExactly_iff (hh : h.Contract) (hareas : AreasMatchRam ms)
    (h19 : smbiosSkipTable s.opts 19 true = false) {p : Published}
    (hrun : smbiosGetTablesEp h ep ms s = .ok (some p) s') :
    MappedExactly ms (mappedRanges p.tables (s.opts.usrBlobs.take s.opts.usrBlobsLen).length
      s'.bld.started) ↔ ChunksAreAreas ms := by
  have hhold := (publishes_of_run hh hrun).hold
  rw [mappedExactly_perm (mappedRanges_perm hh hareas h19 hrun),
    mappedExactly_iff_tiles fun i hi => (rangeSize_bounds hareas hhold hi).2]
  change Tiles _ _ (rangeSize ms) _ _ ↔ _
  constructor
  · exact chunksAreAreas_of_tiles hareas hhold
  · exact tiles_of_chunksAreAreas hareas hhold

theorem areasMatchRam_small : AreasMatchRam .small where
  ascending := by decide
  aligned := by decide
  total := by decide
  enough := by decide

theorem mappedExactly_iff_small : ∃ p s', smbiosGetTablesEp .plain .type64 .small .bare =
    .ok (some p) s' ∧ (MappedExactly .small (mappedRanges p.tables 0 s'.bld.started) ↔
      ChunksAreAreas .small) :=
  have hrun := run_of_publishes (s := .bare) Host.plain_contract
    (publishes_small bare_terminated (.inl rfl))
  ⟨_, _, hrun, mappedExactly_iff Host.plain_contract areasMatchRam_small rfl hrun⟩

/-- One socket with one core and 6 GiB of memory, 2 GiB of it below 4 GiB. -/
def Machine.holed : Machine where
  sockets := 1
  coresPerSocket := 1
  threadsPerSocket := 1
  ramSize := 0x180000000
  smbiosMemoryDeviceSize := 0x400000000
  memArray := [⟨0, 0x80000000⟩, ⟨0x100000000, 0x100000000⟩]
  memArray_lt := by decide

theorem areasMatchRam_holed : AreasMatchRam .holed where
  ascending := by decide
  aligned := by decide
  total := by decide
  enough := by decide

/-- One chunk of 6 GiB from address 0 on, and two areas around a hole from 2 GiB to 4 GiB. -/
theorem holeMapped : AreasMatchRam .holed ∧ ∃ p s',
    smbiosGetTablesEp .plain .type64 .holed .bare = .ok (some p) s' ∧
      ¬MappedExactly .holed (mappedRanges p.tables 0 s'.bld.started) := by
  have hhold : AssertionsHold .holed State.bare.opts :=
    assertionsHold_one bare_terminated (by decide) (by decide) (by decide) rfl
      (by unfold RangeOk; decide +kernel) (by decide)
  have hrun := run_of_publishes (s := .bare) Host.plain_contract
    ⟨by decide, by decide, type4Rejects_type64, hhold, .inl rfl, not_tooLong_type64⟩
  refine ⟨areasMatchRam_holed, _, _, hrun, fun hmapped => ?_⟩
  have hperm := mappedRanges_perm Host.plain_contract areasMatchRam_holed rfl hrun
  have hcover := ((mappedExactly_perm hperm).mp hmapped).2 0x80000000
  have hlast : 0x80000000 ≤ rangeLast (chunkAddress .holed 0) (getDimmSz .holed 0) := by
    decide +kernel
  obtain ⟨a, ha, hge, hlt⟩ :=
    hcover.mp ⟨_, List.mem_map.mpr ⟨0, by decide, rfl⟩, Nat.zero_le _, hlast⟩
  have hareas : ∀ b ∈ Machine.holed.memArray, ¬(b.address.toNat ≤ 0x80000000 ∧
      0x80000000 < b.address.toNat + b.length.toNat) := by decide
  exact hareas a ha ⟨hge, hlt⟩

end Smbios
