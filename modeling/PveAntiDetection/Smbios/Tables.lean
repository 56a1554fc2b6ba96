import PveAntiDetection.Smbios.Monad

/-!
# The table builders of `smbios.c`

For each structure type `N`, `typeNTable` is what `smbios_build_type_N_table` assigns between PRE
and POST, in source order, and `smbiosBuildTypeNTable` is the function.  String arguments that
the source formats with `snprintf` and then does not use (`sock_str`, `count_str`, `loc_str`) are
left out, and so are the static copies `type7`, `type26`, `type27` and `type28`: each builder
reads back in the next statement what it has just stored there.
-/

set_option autoImplicit false

namespace Smbios

open Bytes

/-! ## Handle bases and limits -/

def T0_BASE : Nat := 0x000
def T1_BASE : Nat := 0x100
def T2_BASE : Nat := 0x200
def T3_BASE : Nat := 0x300
def T4_BASE : Nat := 0x400
def T7_BASE : Nat := 0x700
def T9_BASE : Nat := 0x900
def T11_BASE : Nat := 0xe00
def T16_BASE : Nat := 0x1000
def T17_BASE : Nat := 0x1100
def T19_BASE : Nat := 0x1300
def T20_BASE : Nat := 0x1400
def T22_BASE : Nat := 0x1600
def T26_BASE : Nat := 0x1A00
def T27_BASE : Nat := 0x1B00
def T28_BASE : Nat := 0x1C00
def T29_BASE : Nat := 0x1D00
def T32_BASE : Nat := 0x2000
def T37_BASE : Nat := 0x2500
def T39_BASE : Nat := 0x2700
def T41_BASE : Nat := 0x2900
def T127_BASE : Nat := 0x7F00

def KiB : Nat := 1024
def MiB : Nat := 1048576
def UINT32_MAX : Nat := 4294967295
def MAX_T16_STD_SZ : Nat := 0x80000000
def MAX_T17_STD_SZ : Nat := 0x7FFF
def MAX_T17_EXT_SZ : Nat := 0x80000000

/-- `QEMU_ALIGN_UP(n, m)` on `uint64_t`. -/
def qemuAlignUp (n m : Nat) : Nat := (n + m - 1) % 2 ^ 64 / m * m

/-- `end = start + size - 1` on `uint64_t`. -/
@[irreducible] def rangeEnd (start size : Nat) : Nat := (start + size + (2 ^ 64 - 1)) % 2 ^ 64

/-! ## Types 0 to 3 -/

def type0Table (o : Options) : Table :=
  tableOf 0 T0_BASE ([
    .str .vendorStr o.type0.vendor,
    .str .biosVersionStr o.type0.version,
    .set .biosStartingAddressSegment 0xE800,
    .str .biosReleaseDateStr o.type0.date,
    .set .biosRomSize 0,
    .set .biosCharacteristics 0x08,
    .set .biosCharacteristicsExtensionByte0 0xEF,
    .set .biosCharacteristicsExtensionByte1 0x0F] ++
    (if o.type0.uefi then [.set .biosCharacteristicsExtensionByte1 (0x0F ||| 0x08)] else []) ++
    (if o.type0.haveMajorMinor then
      [.set .systemBiosMajorRelease o.type0.major.toNat,
       .set .systemBiosMinorRelease o.type0.minor.toNat]
    else
      [.set .systemBiosMajorRelease 0, .set .systemBiosMinorRelease 0]) ++ [
    .set .embeddedControllerMajorRelease 0xFF,
    .set .embeddedControllerMinorRelease 0xFF] : List (Assign SmbiosType0))

/-- `smbios_encode_uuid`: the three `time` fields byte-swapped. -/
def smbiosEncodeUuid (u : QemuUUID) : List UInt8 :=
  (u.val.take 4).reverse ++ ((u.val.drop 4).take 2).reverse ++ ((u.val.drop 6).take 2).reverse ++
    u.val.drop 8

def type1Table (o : Options) : Table :=
  tableOf 1 T1_BASE ([
    .str .manufacturerStr o.type1.manufacturer,
    .str .productNameStr o.type1.product,
    .str .versionStr o.type1.version,
    .str .serialNumberStr o.type1.serial,
    (match o.qemuUuid with
      | some u => .set .uuid (ofLe (smbiosEncodeUuid u))
      | none => .set .uuid 0),
    .set .wakeUpType 0x06,
    .str .skuNumberStr o.type1.sku,
    .str .familyStr o.type1.family] : List (Assign SmbiosType1))

def type2Table (o : Options) : Table :=
  tableOf 2 T2_BASE ([
    .str .manufacturerStr o.type2.manufacturer,
    .str .productStr o.type2.product,
    .str .versionStr o.type2.version,
    .str .serialNumberStr o.type2.serial,
    .str .assetTagNumberStr o.type2.asset,
    .set .featureFlags 0x01,
    .str .locationStr o.type2.location,
    .set .chassisHandle 0x300,
    .set .boardType 0x0A,
    .set .containedElementCount 0] : List (Assign SmbiosType2))

def type3Table (o : Options) : Table :=
  tableOf 3 T3_BASE ([
    .str .manufacturerStr o.type3.manufacturer,
    .set .type 0x03,
    .str .versionStr o.type3.version,
    .str .serialNumberStr o.type3.serial,
    .str .assetTagNumberStr o.type3.asset,
    .set .bootUpState 0x03,
    .set .powerSupplyState 0x03,
    .set .thermalState 0x03,
    .set .securityStatus 0x02,
    .set .oemDefined 0,
    .set .height 0,
    .set .numberOfPowerCords 0,
    .set .containedElementCount 0,
    .set .containedElementRecordLength 0,
    .str .skuNumberStr o.type3.sku] : List (Assign SmbiosType3))

/-! ## Type 4 -/

/-- `(n > 255) ? 0xFF : n`. -/
def byteCount (n : Nat) : Nat := if n > 255 then 0xFF else n

/-- The assignments both entry point types share. -/
def type4Body (o : Options) (ms : Machine) : List (Assign SmbiosType4) := [
  .str .socketDesignationStr (lit "LGA1700"),
  .set .processorType 0x03,
  .set .processorFamily 0x01,
  .str .processorManufacturerStr o.type4.manufacturer,
  .set .processorId0
    (if o.type4.processorId = 0 then o.cpuidVersion.toNat else o.type4.processorId.toNat % 2 ^ 32),
  .set .processorId1
    (if o.type4.processorId = 0 then o.cpuidFeatures.toNat else o.type4.processorId.toNat / 2 ^ 32),
  .str .processorVersionStr o.type4.version,
  .set .voltage 0x8B,
  .set .externalClock 0x64,
  .set .maxSpeed 6500,
  .set .currentSpeed o.type4.currentSpeed.toNat,
  .set .status 0x41,
  .set .processorUpgrade 0x01,
  .set .l1CacheHandle 0xFF,
  .set .l2CacheHandle 0xFF,
  .set .l3CacheHandle 0xFF,
  .str .serialNumberStr (lit "To Be Filled By O.E.M."),
  .str .assetTagNumberStr (lit "To Be Filled By O.E.M."),
  .str .partNumberStr (lit "To Be Filled By O.E.M."),
  .set .coreCount (byteCount ms.coresPerSocket.toNat),
  .set .coreEnabled (byteCount ms.coresPerSocket.toNat),
  .set .threadCount (byteCount ms.threadsPerSocket.toNat),
  .set .processorCharacteristics 0xFC,
  .set .processorFamily2 0x01]

/-- `t->core_count == 0xFF || t->thread_count == 0xFF`. -/
def countsSaturated (ms : Machine) : Bool :=
  byteCount ms.coresPerSocket.toNat == 0xFF || byteCount ms.threadsPerSocket.toNat == 0xFF

theorem type4Body_inBounds (o : Options) (ms : Machine) :
    ∀ s ∈ (type4Body o ms).map Assign.lower, s.InBounds SMBIOS_TYPE_4_LEN_V28 := by
  have hrange : ((type4Body o ms).map Assign.lower).map Stmt.range =
      [(4, 5), (5, 6), (6, 7), (7, 8), (8, 12), (12, 16), (16, 17), (17, 18), (18, 20), (20, 22),
       (22, 24), (24, 25), (25, 26), (26, 28), (28, 30), (30, 32), (32, 33), (33, 34), (34, 35),
       (35, 36), (36, 37), (37, 38), (38, 40), (40, 42)] := rfl
  intro s hs
  have hmem := List.mem_map_of_mem (f := Stmt.range) hs
  rw [hrange] at hmem
  have hall : ∀ r ∈ [(4, 5), (5, 6), (6, 7), (7, 8), (8, 12), (12, 16), (16, 17), (17, 18),
      (18, 20), (20, 22), (22, 24), (24, 25), (25, 26), (26, 28), (28, 30), (30, 32), (32, 33),
      (33, 34), (34, 35), (35, 36), (36, 37), (37, 38), (38, 40), (40, 42)],
      headerSize ≤ r.1 ∧ r.2 ≤ SMBIOS_TYPE_4_LEN_V28 := by decide
  exact hall _ hmem

/-- The table of socket `instance` for a 64-bit entry point. -/
def type4TableV30 (o : Options) (ms : Machine) (i : Nat) : Table :=
  tableOf 4 (T4_BASE + i) (type4Body o ms ++ [
    .set .coreCount2 ms.coresPerSocket.toNat,
    .set .coreEnabled2 ms.coresPerSocket.toNat,
    .set .threadCount2 ms.threadsPerSocket.toNat])

/-- The table of socket `instance` for a 32-bit entry point; it has no 3.0 tail, and core or thread
counts of 0xFF stop it before POST. -/
def type4TableV28 (o : Options) (ms : Machine) (i : Nat) : Table where
  type := 4
  handle := T4_BASE + i
  len := SMBIOS_TYPE_4_LEN_V28
  stmts := (type4Body o ms).map Assign.lower
  halt := if countsSaturated ms then some (.report .type4Unrepresentable) else none
  type_lt := by decide
  header_le := by decide
  len_lt := by decide
  inBounds := type4Body_inBounds o ms

def type4Table (o : Options) (ms : Machine) (ep : SmbiosEntryPointType) (i : Nat) : Table :=
  if ep = .type64 then type4TableV30 o ms i else type4TableV28 o ms i

/-! ## Types 7 to 11 -/

/-- One cache, with the arguments of `smbios_build_type_7_table`. -/
def type7Table (i : Nat) (socketDesignation : CharPtr) (cacheConfiguration maxCacheSize : UInt16)
    (errorCorrection systemCacheType associativity : UInt8) : Table :=
  tableOf 7 (T7_BASE + i) ([
    .str .socketDesignation socketDesignation,
    .set .cacheConfiguration cacheConfiguration.toNat,
    .set .maxCacheSize maxCacheSize.toNat,
    .set .installedSize maxCacheSize.toNat,
    .set .supportedSramType 0x20,
    .set .currentSramType 0x20,
    .set .cacheSpeed 0x0,
    .set .errorCorrection errorCorrection.toNat,
    .set .systemCacheType systemCacheType.toNat,
    .set .associativity associativity.toNat] : List (Assign SmbiosType7))

/-- Every entry of the list gives the same strings and numbers; the handle base is `T0_BASE`. -/
def type8Table (i : Nat) (_t8 : Type8Instance) : Table :=
  tableOf 8 (T0_BASE + i) ([
    .str .internalReferenceStr (lit "FAN"),
    .str .externalReferenceStr (lit "CPU FAN"),
    .set .internalConnectorType 0x0,
    .set .externalConnectorType 0xFF,
    .set .portType 0xFF] : List (Assign SmbiosType8))

/-- The look-up of a PCI device for a type 9 or 41 entry: the device, or the error reported. -/
def findRootBusDevice (h : Host) (type : Nat) (pcidev : CString) (designation : CharPtr) :
    Except Error PCIDevice :=
  match h.pciQdevFindDevice pcidev with
  | none => .error (.noPciDevice type pcidev designation)
  | some pdev => if pdev.onRootBus then .ok pdev else .error (.notOnRootBus type pcidev)

def type9Head (t9 : Type9Instance) : List (Assign SmbiosType9) := [
  .str .slotDesignation t9.slotDesignation,
  .set .slotType t9.slotType.toNat,
  .set .slotDataBusWidth t9.slotDataBusWidth.toNat,
  .set .currentUsage t9.currentUsage.toNat,
  .set .slotLength t9.slotLength.toNat,
  .set .slotId t9.slotId.toNat,
  .set .slotCharacteristics1 t9.slotCharacteristics1.toNat,
  .set .slotCharacteristics2 t9.slotCharacteristics2.toNat]

def type9Table (h : Host) (i : Nat) (t9 : Type9Instance) : Table :=
  match t9.pcidev with
  | some pcidev =>
    match findRootBusDevice h 9 pcidev t9.slotDesignation with
    | .error e => tableOf 9 (T9_BASE + i) (type9Head t9) (some (.report e))
    | .ok pdev => tableOf 9 (T9_BASE + i) (type9Head t9 ++ [
        .set .segmentGroupNumber 0,
        .set .busNumber pdev.busNum,
        .set .deviceNumber pdev.devfn])
  | none => tableOf 9 (T9_BASE + i) (type9Head t9 ++ [
      .set .segmentGroupNumber 0xff,
      .set .busNumber 0xff,
      .set .deviceNumber 0xff])

/-- The loop over `type11.values`: the statements executed, and the fault that stops it if a block
holds no NUL. -/
def type11Values : List (Option (List UInt8)) → List (Assign SmbiosType11) × Option Halt
  | [] => ([], none)
  | none :: vs => (.strList none :: (type11Values vs).1, (type11Values vs).2)
  | some block :: vs =>
    match readCString block with
    | none => ([], some (.fault .unterminatedString))
    | some s => (.strList (some s) :: (type11Values vs).1, (type11Values vs).2)

def type11Table (o : Options) : Table :=
  tableOf 11 T11_BASE (.set .count o.type11.length :: (type11Values o.type11).1)
    (type11Values o.type11).2

/-! ## Memory: types 16 to 20 -/

def type16Table (ms : Machine) (dimmCnt : Nat) : Table :=
  let sizeKb := qemuAlignUp ms.ramSize.toNat KiB / KiB
  tableOf 16 T16_BASE ([
    .set .location 0x03,
    .set .use 0x03,
    .set .errorCorrection 0x03] ++
    (if sizeKb < MAX_T16_STD_SZ then
      [.set .maximumCapacity sizeKb, .set .extendedMaximumCapacity 0]
    else
      [.set .maximumCapacity MAX_T16_STD_SZ,
       .set .extendedMaximumCapacity ms.ramSize.toNat]) ++ [
    .set .memoryErrorInformationHandle 0xFFFE,
    .set .numberOfMemoryDevices dimmCnt] : List (Assign SmbiosType16))

/-- `QEMU_ALIGN_UP(size, MiB) / MiB`. -/
def sizeMb (size : Nat) : Nat := qemuAlignUp size MiB / MiB

def type17Head : List (Assign SmbiosType17) := [
  .set .physicalMemoryArrayHandle 0x1000,
  .set .memoryErrorInformationHandle 0xFFFE,
  .set .totalWidth 64,
  .set .dataWidth 64]

def type17Tail (o : Options) : List (Assign SmbiosType17) := [
  .set .formFactor 0x0D,
  .set .deviceSet 0,
  .str .deviceLocatorStr (lit "ChannelA-DIMM0"),
  .str .bankLocatorStr (lit "BANK 0"),
  .set .memoryType 0x18,
  .set .typeDetail 0x80,
  .set .speed 1600,
  .str .manufacturerStr (lit "Kingston"),
  .str .serialNumberStr o.type17.serial,
  .str .assetTagNumberStr o.type17.asset,
  .str .partNumberStr (lit "KHX1600C9S3L/32G"),
  .set .attributes 0x02,
  .set .configuredClockSpeed 1600,
  .set .minimumVoltage 1350,
  .set .maximumVoltage 1500,
  .set .configuredVoltage 1350]

def type17Table (o : Options) (i size : Nat) : Table :=
  if sizeMb size < MAX_T17_STD_SZ then
    tableOf 17 (T17_BASE + i) (type17Head ++
      [.set .size (sizeMb size), .set .extendedSize 0] ++ type17Tail o)
  else if sizeMb size < MAX_T17_EXT_SZ then
    tableOf 17 (T17_BASE + i) (type17Head ++
      [.set .size MAX_T17_STD_SZ, .set .extendedSize (sizeMb size)] ++ type17Tail o)
  else
    tableOf 17 (T17_BASE + i) type17Head (some (.fault .type17SizeAssert))

def type19Table (i offset start size : Nat) : Table :=
  if rangeEnd start size > start then
    tableOf 19 (T19_BASE + offset + i)
      ((if start / KiB < UINT32_MAX ∧ rangeEnd start size / KiB < UINT32_MAX then
        [.set .startingAddress (start / KiB),
         .set .endingAddress (rangeEnd start size / KiB),
         .set .extendedStartingAddress 0,
         .set .extendedEndingAddress 0]
      else
        [.set .startingAddress UINT32_MAX,
         .set .endingAddress UINT32_MAX,
         .set .extendedStartingAddress start,
         .set .extendedEndingAddress (rangeEnd start size)]) ++
      [.set .memoryArrayHandle 0x1000,
       .set .partitionWidth 1] : List (Assign SmbiosType19))
  else
    tableOf 19 (T19_BASE + offset + i) ([] : List (Assign SmbiosType19))
      (some (.fault .type19RangeAssert))

/-- The handle does not depend on the chunk. -/
def type20Table (start size : Nat) : Table :=
  tableOf 20 T20_BASE ([
    .set .startingAddress (start / KiB),
    .set .endingAddress (rangeEnd start size / KiB),
    .set .memoryDeviceHandle 0x003C,
    .set .memoryArrayMappedAddressHandle 0x0040,
    .set .partitionRowPosition 0x1,
    .set .interleavePosition 0x1,
    .set .interleaveDataDepth 0x2] : List (Assign SmbiosType20))

/-! ## Battery, probes and the rest -/

/-- `sbds_serial_number`, `sbds_manufacture_date` and `sbds_device_chemistry` are not assigned. -/
def type22Table : Table :=
  tableOf 22 T22_BASE ([
    .str .location (lit "in the back"),
    .str .manufacturer (lit "lixiaoliu"),
    .str .manufacturerDate (lit "02/02/2025"),
    .str .serialNumber (lit "lixiaoliu666"),
    .str .deviceName (lit "BAT0"),
    .set .deviceChemistry 0x6,
    .set .designCapacity 0xECF4,
    .set .designVoltage 0x2EE0,
    .set .sbdsVersionNumber 0x0,
    .set .maximumErrorInBatteryData 0x1,
    .set .designCapacityMultiplier 0x1,
    .set .oemSpecific 0x60666] : List (Assign SmbiosType22))

def type26Table (i : Nat) (description : CharPtr) (locationAndStatus : UInt8) : Table :=
  tableOf 26 (T26_BASE + i) ([
    .str .description description,
    .set .locationAndStatus locationAndStatus.toNat,
    .set .maxValue 0x5800,
    .set .minValue 0x100,
    .set .resolution 0x100,
    .set .tolerance 0x800,
    .set .accuracy 0x10,
    .set .oemDefined 0x00000000,
    .set .nominalValue 0x1000] : List (Assign SmbiosType26))

def type27Table (i : Nat) (description : CharPtr) (deviceTypeAndStatus : UInt8) : Table :=
  tableOf 27 (T27_BASE + i) ([
    .set .temperatureProbeHandle 0x0029,
    .set .deviceTypeAndStatus deviceTypeAndStatus.toNat,
    .set .coolingUnitGroup 0x1,
    .set .oemDefined 0x00000000,
    .set .nominalSpeed 0x5DC,
    .str .description description] : List (Assign SmbiosType27))

def type28Table (i : Nat) (description : CharPtr) (locationAndStatus : UInt8) : Table :=
  tableOf 28 (T28_BASE + i) ([
    .str .description description,
    .set .locationAndStatus locationAndStatus.toNat,
    .set .maximumValue 0x780,
    .set .minimumValue 0x100,
    .set .resolution 0x1000,
    .set .tolerance 0x800,
    .set .accuracy 0x10,
    .set .oemDefined 0x00000000,
    .set .nominalValue 0x100] : List (Assign SmbiosType28))

def type29Table : Table :=
  tableOf 29 T29_BASE ([.str .description (lit "Electrical")] : List (Assign SmbiosType29))

def type32Table : Table :=
  tableOf 32 T32_BASE ([.set .reserved 0, .set .bootStatus 0] : List (Assign SmbiosType32))

def type37Table : Table := tableOf 37 T37_BASE ([] : List (Assign SmbiosType37))

def type39Table : Table :=
  tableOf 39 T39_BASE
    ([.str .deviceName (lit "lixiaoliu PowerSupply")] : List (Assign SmbiosType39))

def type41Head (t41 : Type41Instance) : List (Assign SmbiosType41) := [
  .str .referenceDesignationStr t41.designation,
  .set .deviceType t41.kind.toNat,
  .set .deviceTypeInstance t41.instanceNo.toNat,
  .set .segmentGroupNumber 0,
  .set .busNumber 0,
  .set .deviceNumber 0]

def type41Table (h : Host) (i : Nat) (t41 : Type41Instance) : Table :=
  match t41.pcidev with
  | some pcidev =>
    match findRootBusDevice h 41 pcidev t41.designation with
    | .error e => tableOf 41 (T41_BASE + i) (type41Head t41) (some (.report e))
    | .ok pdev => tableOf 41 (T41_BASE + i) (type41Head t41 ++ [
        .set .segmentGroupNumber 0,
        .set .busNumber pdev.busNum,
        .set .deviceNumber pdev.devfn])
  | none => tableOf 41 (T41_BASE + i) (type41Head t41)

def type127Table : Table := tableOf 127 T127_BASE ([] : List (Assign SmbiosType127))

/-! ## The builder functions -/

section
variable (h : Host) (ep : SmbiosEntryPointType)

/-- A builder of a single table, as a statement. -/
def buildOne (required : Bool) (t : Table) : SmbiosM Unit := do
  let _ ← buildTable h ep required t

/-- Optional: left to the BIOS unless the user gave fields. -/
def smbiosBuildType0Table : SmbiosM Unit := do buildOne h ep false (type0Table (← get).opts)

def smbiosBuildType1Table : SmbiosM Unit := do buildOne h ep true (type1Table (← get).opts)

def smbiosBuildType2Table : SmbiosM Unit := do buildOne h ep true (type2Table (← get).opts)

def smbiosBuildType3Table : SmbiosM Unit := do buildOne h ep true (type3Table (← get).opts)

def smbiosBuildType4Table (ms : Machine) (i : Nat) : SmbiosM Unit := do
  match ← buildTable h ep true (type4Table (← get).opts ms ep i) with
  | .built => modify fun s => { s with bld := { s.bld with type4Count := s.bld.type4Count + 1 } }
  | .skipped => return ()
  | .reported => return ()

def smbiosBuildType7Table (i : Nat) (socketDesignation : CharPtr)
    (cacheConfiguration maxCacheSize : UInt16)
    (errorCorrection systemCacheType associativity : UInt8) : SmbiosM Unit :=
  buildOne h ep true (type7Table i socketDesignation cacheConfiguration maxCacheSize
    errorCorrection systemCacheType associativity)

def smbiosBuildType8Table : SmbiosM Unit := do
  buildEach h ep true ((← get).opts.type8.mapIdx type8Table)

def smbiosBuildType9Table : SmbiosM Unit := do
  buildEach h ep true ((← get).opts.type9.mapIdx (type9Table h))

/-- The strings are freed and set to `NULL` as they are copied into the table. -/
def smbiosBuildType11Table : SmbiosM Unit := do
  let o := (← get).opts
  if o.type11 = [] then
    return ()
  match ← buildTable h ep true (type11Table o) with
  | .skipped => return ()
  | _ => modify fun s => { s with opts := { s.opts with type11 := o.type11.map fun _ => none } }

def smbiosBuildType16Table (ms : Machine) (dimmCnt : Nat) : SmbiosM Unit :=
  buildOne h ep true (type16Table ms dimmCnt)

def smbiosBuildType17Table (i size : Nat) : SmbiosM Unit := do
  buildOne h ep true (type17Table (← get).opts i size)

def smbiosBuildType19Table (i offset start size : Nat) : SmbiosM Unit :=
  buildOne h ep true (type19Table i offset start size)

/-- The assertion comes before PRE, so that a skipped table checks it too. -/
def smbiosBuildType20Table (start size : Nat) : SmbiosM Unit := do
  unless rangeEnd start size > start do
    throw .type20RangeAssert
  buildOne h ep true (type20Table start size)

def smbiosBuildType22Table : SmbiosM Unit := buildOne h ep true type22Table

def smbiosBuildType26Table (i : Nat) (description : CharPtr) (locationAndStatus : UInt8) :
    SmbiosM Unit := buildOne h ep true (type26Table i description locationAndStatus)

def smbiosBuildType27Table (i : Nat) (description : CharPtr) (deviceTypeAndStatus : UInt8) :
    SmbiosM Unit := buildOne h ep true (type27Table i description deviceTypeAndStatus)

def smbiosBuildType28Table (i : Nat) (description : CharPtr) (locationAndStatus : UInt8) :
    SmbiosM Unit := buildOne h ep true (type28Table i description locationAndStatus)

def smbiosBuildType29Table : SmbiosM Unit := buildOne h ep true type29Table

def smbiosBuildType32Table : SmbiosM Unit := buildOne h ep true type32Table

def smbiosBuildType37Table : SmbiosM Unit := buildOne h ep true type37Table

/-- One table for each IPMI device. -/
def smbiosBuildType38Table : SmbiosM Unit := buildEach h ep true h.type38Tables

def smbiosBuildType39Table : SmbiosM Unit := buildOne h ep true type39Table

def smbiosBuildType41Table : SmbiosM Unit := do
  buildEach h ep true ((← get).opts.type41.mapIdx (type41Table h))

def smbiosBuildType127Table : SmbiosM Unit := buildOne h ep true type127Table

end

end Smbios
