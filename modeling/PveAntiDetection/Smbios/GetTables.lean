import PveAntiDetection.Smbios.Tables

/-!
# `smbios_get_tables`

The driver of the builders: `smbios_get_tables_ep` for one entry point type, with its DIMM
arithmetic, its loops and its final checks, and `smbios_get_tables`, which tries the 32-bit entry
point and then the 64-bit one when the type is AUTO.
-/

set_option autoImplicit false

namespace Smbios

open Bytes

/-! ## DIMM chunks -/

/-- `dimm_cnt`, an `unsigned`. -/
def dimmCnt (ms : Machine) : Nat :=
  qemuAlignUp ms.ramSize.toNat ms.smbiosMemoryDeviceSize.toNat /
    ms.smbiosMemoryDeviceSize.toNat % 2 ^ 32

/-- `offset`: room for the handles of types 17 that would reach those of type 19. -/
def handleOffset (ms : Machine) : Nat :=
  if dimmCnt ms > T19_BASE - T17_BASE then dimmCnt ms - (T19_BASE - T17_BASE) else 0

/-- `GET_DIMM_SZ` for chunk `i`. -/
def getDimmSz (ms : Machine) (i : Nat) : Nat :=
  if i < dimmCnt ms - 1 then ms.smbiosMemoryDeviceSize.toNat
  else (ms.ramSize.toNat + (2 ^ 64 - 1)) % 2 ^ 64 % ms.smbiosMemoryDeviceSize.toNat + 1

/-- `mem_array[i].address`. -/
def memArrayAddress (ms : Machine) (i : Nat) : SmbiosM Nat :=
  match ms.memArray[i]? with
  | some a => return a.address.toNat
  | none => throw (.memArrayOutOfBounds i)

/-! ## Final checks and the entry point -/

/-- `smbios_check_type4_count`. -/
def smbiosCheckType4Count (expectedT4Count : Nat) : SmbiosM Bool := do
  let s ← get
  if s.bld.type4Count ≠ 0 ∧ s.bld.type4Count ≠ expectedT4Count then
    errorSetg (.type4Count expectedT4Count s.bld.type4Count)
    return false
  return true

def SMBIOS_21_MAX_TABLES_LEN : Nat := 0xffff

/-- `smbios_validate_table`. -/
def smbiosValidateTable (ep : SmbiosEntryPointType) : SmbiosM Bool := do
  let s ← get
  if ep = .type32 ∧ s.bld.buf.bytes.length > SMBIOS_21_MAX_TABLES_LEN then
    errorSetg (.tablesTooLong s.bld.buf.bytes.length)
    return false
  return true

/-- `ep.ep21` as `smbios_entry_point_setup` fills it. -/
def entryPoint21 (buf : TableBuf) : Smbios21EntryPoint where
  anchorString := (lit "_SM_").bytes
  checksum := 0
  length := sizeofSmbios21EntryPoint
  smbiosMajorVersion := 2
  smbiosMinorVersion := 8
  maxStructureSize := buf.tableMax % 2 ^ 16
  entryPointRevision := 0
  formattedArea := [0, 0, 0, 0, 0]
  intermediateAnchorString := (lit "_DMI_").bytes
  intermediateChecksum := 0
  structureTableLength := buf.bytes.length % 2 ^ 16
  structureTableAddress := 0
  numberOfStructures := buf.tableCnt % 2 ^ 16
  smbiosBcdRevision := 0x28

/-- `ep.ep30` as `smbios_entry_point_setup` fills it. -/
def entryPoint30 (buf : TableBuf) : Smbios30EntryPoint where
  anchorString := (lit "_SM3_").bytes
  checksum := 0
  length := sizeofSmbios30EntryPoint
  smbiosMajorVersion := 3
  smbiosMinorVersion := 0
  smbiosDocRev := 0
  entryPointRevision := 1
  reserved := 0
  structureTableMaxSize := buf.bytes.length % 2 ^ 32
  structureTableAddress := 0

/-- `smbios_entry_point_setup`. -/
def smbiosEntryPointSetup (ep : SmbiosEntryPointType) : SmbiosM SmbiosEntryPoint := do
  let s ← get
  match ep with
  | .type32 =>
    set { s with ep := some (.ep21 (entryPoint21 s.bld.buf)) }
    return .ep21 (entryPoint21 s.bld.buf)
  | .type64 =>
    set { s with ep := some (.ep30 (entryPoint30 s.bld.buf)) }
    return .ep30 (entryPoint30 s.bld.buf)
  | .auto => throw .abort

/-- `*anchor_len`, from the anchor string. -/
def anchorLength (e : SmbiosEntryPoint) : SmbiosM Nat :=
  if e.anchorString.take 4 = (lit "_SM_").bytes then return sizeofSmbios21EntryPoint
  else if e.anchorString.take 5 = (lit "_SM3_").bytes then return sizeofSmbios30EntryPoint
  else throw .abort

/-- `*tables`, `*tables_len`, `*anchor` and `*anchor_len`. -/
structure Published where
  tables : List UInt8
  tablesLen : Nat
  anchor : SmbiosEntryPoint
  anchorLen : Nat
  deriving DecidableEq

/-! ## The builder calls -/

section
variable (h : Host) (ep : SmbiosEntryPointType) (ms : Machine)

/-- The reset at the start of a pass.  `*errp` is the `local_err` of `ERRP_GUARD`. -/
def smbiosTablesReset : SmbiosM Unit :=
  modify fun s =>
    let o := s.opts
    let buf : TableBuf := ⟨o.usrBlobs.take o.usrBlobsLen, o.usrTableMax, o.usrTableCnt⟩
    { s with bld := { buf := buf, type4Count := 0, errp := none, started := [] } }

/-- The type 4 loop over `n` sockets from socket `i` on; `false` is `goto err_exit`. -/
def type4Loop : (n i : Nat) → SmbiosM Bool
  | 0, _ => return true
  | n + 1, i => do
    smbiosBuildType4Table h ep ms i
    if (← get).bld.errp.isSome then
      return false
    type4Loop n (i + 1)

/-- The calls up to the end of the type 4 loop. -/
def buildProcessors : SmbiosM Bool := do
  smbiosBuildType0Table h ep
  smbiosBuildType1Table h ep
  smbiosBuildType2Table h ep
  smbiosBuildType3Table h ep
  unless 1 ≤ ms.sockets.toNat do
    throw .socketsAssert
  type4Loop h ep ms ms.sockets.toNat 0

/-- The type 17 loop over `n` chunks from chunk `i` on. -/
def type17Loop : (n i : Nat) → SmbiosM Unit
  | 0, _ => return ()
  | n + 1, i => do
    smbiosBuildType17Table h ep i (getDimmSz ms i)
    type17Loop n (i + 1)

/-- The loop over types 19 and 20, `n` chunks from chunk `i` on. -/
def mappedAddressLoop : (n i : Nat) → SmbiosM Unit
  | 0, _ => return ()
  | n + 1, i => do
    smbiosBuildType19Table h ep i (handleOffset ms) (← memArrayAddress ms i) (getDimmSz ms i)
    smbiosBuildType20Table h ep (← memArrayAddress ms i) (getDimmSz ms i)
    mappedAddressLoop n (i + 1)

/-- The calls from type 7 to the type 11 table. -/
def buildCachesAndSlots : SmbiosM Unit := do
  let coresPerSocket := ms.coresPerSocket
  smbiosBuildType7Table h ep 0 (lit "L1 Cache") 0x180 (coresPerSocket * 0x20).toUInt16 0x4 0x4 0x7
  smbiosBuildType7Table h ep 1 (lit "L1 Cache") 0x180 (coresPerSocket * 0x20).toUInt16 0x4 0x3 0x7
  smbiosBuildType7Table h ep 2 (lit "L2 Cache") 0x181 (coresPerSocket * 0x200).toUInt16 0x5 0x5 0x8
  smbiosBuildType7Table h ep 3 (lit "L3 Cache") 0x182 0x4000 0x6 0x5 0x8
  smbiosBuildType8Table h ep
  smbiosBuildType9Table h ep
  smbiosBuildType11Table h ep

/-- The calls from the DIMM count to the handle assertion. -/
def buildMemory : SmbiosM Unit := do
  if ms.smbiosMemoryDeviceSize = 0 then
    throw .divisionByZero
  smbiosBuildType16Table h ep ms (dimmCnt ms)
  type17Loop h ep ms (dimmCnt ms) 0
  mappedAddressLoop h ep ms (dimmCnt ms) 0
  smbiosBuildType22Table h ep
  unless (ms.memArray.length + handleOffset ms) % 2 ^ 32 < T32_BASE - T19_BASE do
    throw .handleRangeAssert

/-- The calls behind the handle assertion. -/
def buildProbes : SmbiosM Unit := do
  smbiosBuildType26Table h ep 0 (lit "LM78A") 0x6A
  smbiosBuildType26Table h ep 1 (lit "LM78A-1") 0x67
  smbiosBuildType27Table h ep 0 (lit "CPU FAN") 0x67
  smbiosBuildType28Table h ep 0 (lit "LM78A") 0x63
  smbiosBuildType28Table h ep 1 (lit "LM78A-1") 0x67
  smbiosBuildType29Table h ep
  smbiosBuildType32Table h ep
  smbiosBuildType37Table h ep
  smbiosBuildType38Table h ep
  smbiosBuildType39Table h ep
  smbiosBuildType41Table h ep
  smbiosBuildType127Table h ep

/-- `err_exit`: the tables are freed. -/
def errExit : SmbiosM (Option Published) := do
  modify fun s => { s with bld := { s.bld with buf := { s.bld.buf with bytes := [] } } }
  return none

/-- The final checks, the entry point and the results. -/
def finishTables : SmbiosM (Option Published) := do
  unless ← smbiosCheckType4Count ms.sockets.toNat do
    return ← errExit
  unless ← smbiosValidateTable ep do
    return ← errExit
  let anchor ← smbiosEntryPointSetup ep
  let s ← get
  return some ⟨s.bld.buf.bytes, s.bld.buf.bytes.length, anchor, ← anchorLength anchor⟩

/-- `smbios_get_tables_ep`; `none` for the result `false`. -/
def smbiosGetTablesEp : SmbiosM (Option Published) := do
  unless ep = .type32 ∨ ep = .type64 do
    throw .entryPointAssert
  smbiosTablesReset
  if ← buildProcessors h ep ms then
    buildCachesAndSlots h ep ms
    buildMemory h ep ms
    buildProbes h ep
    finishTables ep ms
  else
    errExit

end

/-! ## Both passes -/

/-- What the caller of `smbios_get_tables` finds: the results, if they were written, and `*errp`. -/
structure GetTablesResult where
  published : Option Published
  err : Option Error
  deriving DecidableEq

/-- `if (!is_valid) error_propagate(errp, local_err)`. -/
def propagate (r : Option Published) : SmbiosM GetTablesResult := do
  match r with
  | some p => return ⟨some p, none⟩
  | none => return ⟨none, (← get).bld.errp⟩

/-- `smbios_get_tables`, called with an error pointer that is not set. -/
def smbiosGetTables (h : Host) (ep : SmbiosEntryPointType) (ms : Machine) :
    SmbiosM GetTablesResult := do
  match ep with
  | .type32 => propagate (← smbiosGetTablesEp h .type32 ms)
  | .auto =>
    match ← smbiosGetTablesEp h .type32 ms with
    | some p => propagate (some p)
    | none => propagate (← smbiosGetTablesEp h .type64 ms)
  | .type64 => propagate (← smbiosGetTablesEp h .type64 ms)

end Smbios
