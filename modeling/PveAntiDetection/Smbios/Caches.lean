import PveAntiDetection.Smbios.Decoded

/-!
# The cache sizes of type 7

`smbios_get_tables_ep` passes the number of cores, multiplied by the size of one cache in KiB, into
a 16-bit field whose bit 15 selects 64 KiB units.

* `cacheInfo` — what a reader makes of a structure: the level and both sizes, in KiB;
* `cachesDecode_iff` — the sizes are right exactly up to 63 cores for each socket; `cachesWrapped`
  is a machine with 64.
-/

set_option autoImplicit false

namespace Smbios

open Bytes

variable {h : Host} {ep : SmbiosEntryPointType} {ms : Machine} {s s' : State}

/-! ## Reading a type 7 structure -/

/-- The size in KiB that a 16-bit cache size stands for: bit 15 selects units of 64 KiB. -/
def cacheSizeKb (field : Nat) : Nat :=
  if field / 2 ^ 15 % 2 = 1 then field % 2 ^ 15 * 64 else field % 2 ^ 15

/-- The cache level, which bits 2..0 of the configuration count from 0, and the maximum and the
installed size in KiB. -/
def cacheInfo (fmt : List UInt8) : Nat × Nat × Nat :=
  (memberValue fmt SmbiosType7.cacheConfiguration % 8 + 1,
    cacheSizeKb (memberValue fmt SmbiosType7.maxCacheSize),
    cacheSizeKb (memberValue fmt SmbiosType7.installedSize))

/-- The caches of a socket: 32 KiB of data and of instructions at level 1 and 512 KiB at level 2 for
each core, 16 MiB at level 3. -/
def socketCaches (cores : Nat) : List (Nat × Nat × Nat) :=
  [(1, 32 * cores, 32 * cores), (1, 32 * cores, 32 * cores), (2, 512 * cores, 512 * cores),
    (3, 16 * KiB, 16 * KiB)]

/-- The structures are read as the caches of a socket. -/
def CachesDecode (ms : Machine) (fmts : List (List UInt8)) : Prop :=
  (fmts.map cacheInfo).Perm (socketCaches ms.coresPerSocket.toNat)

/-! ## The four tables -/

/-- A type 7 table is read as the level and the size it is built with. -/
theorem cacheInfo_type7Table (i : Nat) (d : CharPtr) (c m : UInt16) (e t a : UInt8)
    (fresh : Nat → UInt8) (off : Nat) :
    cacheInfo ((type7Table i d c m e t a).formatted fresh off) =
      (c.toNat % 8 + 1, cacheSizeKb m.toNat, cacheSizeKb m.toNat) := by
  have hc : c.toNat % 256 ^ 2 = c.toNat := Nat.mod_eq_of_lt c.toNat_lt
  have hm : m.toNat % 256 ^ 2 = m.toNat := Nat.mod_eq_of_lt m.toNat_lt
  unfold cacheInfo type7Table
  rw [memberValue_tableOf (f := SmbiosType7.cacheConfiguration) (n := c.toNat) rfl,
    memberValue_tableOf (f := SmbiosType7.maxCacheSize) (n := m.toNat) rfl,
    memberValue_tableOf (f := SmbiosType7.installedSize) (n := m.toNat) rfl]
  exact Prod.ext (congrArg (· % 8 + 1) hc)
    (Prod.ext (congrArg cacheSizeKb hm) (congrArg cacheSizeKb hm))

/-- The size that is read for `cores` caches of `kb` KiB each. -/
def readCacheSize (cores : UInt32) (kb : UInt32) : Nat := cacheSizeKb (cores * kb).toUInt16.toNat

/-- The structures of a pass, as they are read. -/
def readCaches (cores : UInt32) : List (Nat × Nat × Nat) :=
  [(1, readCacheSize cores 0x20, readCacheSize cores 0x20),
    (1, readCacheSize cores 0x20, readCacheSize cores 0x20),
    (2, readCacheSize cores 0x200, readCacheSize cores 0x200), (3, 16 * KiB, 16 * KiB)]

theorem cacheInfos_perm (hh : h.Contract) (h7 : smbiosSkipTable s.opts 7 true = false)
    {p : Published} (hrun : smbiosGetTablesEp h ep ms s = .ok (some p) s') :
    ((publishedAreas 7 s p s').map cacheInfo).Perm (readCaches ms.coresPerSocket) := by
  have hof : tablesOf h ep ms s.opts 7 = [
      type7Table 0 (lit "L1 Cache") 0x180 (ms.coresPerSocket * 0x20).toUInt16 0x4 0x4 0x7,
      type7Table 1 (lit "L1 Cache") 0x180 (ms.coresPerSocket * 0x20).toUInt16 0x4 0x3 0x7,
      type7Table 2 (lit "L2 Cache") 0x181 (ms.coresPerSocket * 0x200).toUInt16 0x5 0x5 0x8,
      type7Table 3 (lit "L3 Cache") 0x182 0x4000 0x6 0x5 0x8] := by
    simp only [tablesOf, cacheTables, Options.opt, h7, Bool.false_eq_true, if_false]
  have hdecoded := decoded_perm hh hrun (n := 7) (by decide) (f := cacheInfo)
    (g := fun t => cacheInfo (t.formatted (h.fresh ep) 0)) fun t ht off => by
      rw [hof] at ht
      simp only [List.mem_cons, List.not_mem_nil, or_false] at ht
      rcases ht with rfl | rfl | rfl | rfl <;> rw [cacheInfo_type7Table, cacheInfo_type7Table]
  rw [hof] at hdecoded
  simp only [List.map_cons, List.map_nil, cacheInfo_type7Table] at hdecoded
  exact hdecoded

/-! ## When the sizes are right -/

theorem toNat_product (cores kb : UInt32) :
    (cores * kb).toUInt16.toNat = cores.toNat * kb.toNat % 2 ^ 16 := by
  rw [UInt32.toNat_toUInt16, UInt32.toNat_mul]
  exact Nat.mod_mod_of_dvd _ (by decide)

/-- Level 1: the size is read right below 1024 cores. -/
theorem readCacheSize_level1 (cores : UInt32) :
    readCacheSize cores 0x20 = 32 * cores.toNat ↔ cores.toNat < 1024 := by
  have hmul : (0x20 : UInt32).toNat = 32 := rfl
  unfold readCacheSize cacheSizeKb
  rw [toNat_product, hmul]
  split <;> omega

/-- Level 2: from 64 cores on, the granularity bit is set or the size wraps around, and neither can
come out right. -/
theorem readCacheSize_level2 (cores : UInt32) :
    readCacheSize cores 0x200 = 512 * cores.toNat ↔ cores.toNat < 64 := by
  have hmul : (0x200 : UInt32).toNat = 512 := rfl
  unfold readCacheSize cacheSizeKb
  rw [toNat_product, hmul]
  split <;> omega

/-- Level 2 has one structure only. -/
theorem socketCaches_iff (cores : UInt32) :
    (readCaches cores).Perm (socketCaches cores.toNat) ↔ cores.toNat < 64 := by
  constructor
  · intro hperm
    have hmem : (2, readCacheSize cores 0x200, readCacheSize cores 0x200) ∈
        socketCaches cores.toNat := hperm.mem_iff.mp (by simp [readCaches])
    refine (readCacheSize_level2 cores).mp ?_
    simpa [socketCaches] using hmem
  · intro hlt
    have h1 := (readCacheSize_level1 cores).mpr (by omega)
    have h2 := (readCacheSize_level2 cores).mpr hlt
    unfold readCaches socketCaches
    rw [h1, h2]

/-- **The type 7 structures of a published pass show the caches of a socket exactly if** it has
fewer than 64 cores. -/
theorem cachesDecode_iff (hh : h.Contract) (h7 : smbiosSkipTable s.opts 7 true = false)
    {p : Published} (hrun : smbiosGetTablesEp h ep ms s = .ok (some p) s') :
    CachesDecode ms (publishedAreas 7 s p s') ↔ ms.coresPerSocket.toNat < 64 := by
  have hperm := cacheInfos_perm hh h7 hrun
  have hiff := socketCaches_iff ms.coresPerSocket
  unfold CachesDecode
  rw [← hiff]
  exact ⟨fun hdecode => hperm.symm.trans hdecode, fun hcaches => hperm.trans hcaches⟩

/-! ## A machine with 64 cores -/

/-- `Machine.small` with `cores` cores. -/
def Machine.withCores (cores : UInt32) : Machine := { Machine.small with coresPerSocket := cores }

/-- The memory decides the assertions, and it is that of `Machine.small`. -/
theorem assertionsHold_withCores (cores : UInt32) :
    AssertionsHold (.withCores cores) State.bare.opts := by
  obtain ⟨hterm, hdev, hchunks, hareas, hranges, hhandles⟩ := assertionsHold_small bare_terminated
  exact ⟨hterm, hdev, hchunks, hareas, hranges, hhandles⟩

theorem publishes_withCores (cores : UInt32) :
    Publishes .plain .type64 (.withCores cores) State.bare.opts :=
  ⟨by decide, (by decide : Machine.small.sockets.toNat ≠ 0), type4Rejects_type64,
    assertionsHold_withCores cores, .inl rfl, not_tooLong_type64⟩

theorem cachesDecode_iff_four : ∃ p s',
    smbiosGetTablesEp .plain .type64 (.withCores 4) .bare = .ok (some p) s' ∧
      (CachesDecode (.withCores 4) (publishedAreas 7 .bare p s') ↔
        (Machine.withCores 4).coresPerSocket.toNat < 64) := by
  have hrun := run_of_publishes (s := .bare) Host.plain_contract (publishes_withCores 4)
  exact ⟨_, _, hrun, cachesDecode_iff Host.plain_contract (by decide) hrun⟩

/-- The level 2 cache of 64 cores, 32 MiB, has the granularity bit set and is read as 0. -/
theorem cachesWrapped : ∃ p s',
    smbiosGetTablesEp .plain .type64 (.withCores 64) .bare = .ok (some p) s' ∧
      (2, 0, 0) ∈ (publishedAreas 7 .bare p s').map cacheInfo ∧
      ¬CachesDecode (.withCores 64) (publishedAreas 7 .bare p s') := by
  have hrun := run_of_publishes (s := .bare) Host.plain_contract (publishes_withCores 64)
  have hperm := cacheInfos_perm Host.plain_contract (by decide) hrun
  refine ⟨_, _, hrun, hperm.mem_iff.mpr (by decide), fun hdecode => ?_⟩
  have hlt := (socketCaches_iff _).mp (hperm.symm.trans hdecode)
  exact absurd hlt (by decide)

end Smbios
