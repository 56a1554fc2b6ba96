import Mathlib.Data.List.TakeWhile
import PveAntiDetection.Smbios.Types

/-!
# The state of `smbios.c`

* `Options` — the file-scope variables that `smbios_entry_add`, `smbios_set_defaults` and their
  siblings fill, and that the table builders read;
* `Machine` — what the builders read of the machine (`MachineState`, `MachineClass`, the memory
  areas).

A call can end in a `Fault`: a failed assertion, or a read outside an object.
-/

set_option autoImplicit false

namespace Smbios

/-! ## C strings -/

/-- A NUL-terminated string, without its terminator. -/
structure CString where
  bytes : List UInt8
  nulFree : 0 ∉ bytes
  deriving DecidableEq

/-- `const char *`: `none` is `NULL`. -/
abbrev CharPtr := Option CString

/-- A string literal of the source (all of them are ASCII). -/
def lit (s : String) : CString :=
  ⟨(s.toList.map fun c => UInt8.ofNat c.toNat).filter (· ≠ 0), by simp⟩

/-- The C string at the start of an allocated block; `none` if the block holds no NUL, so that
`strlen` runs past its end. -/
def readCString (block : List UInt8) : Option CString :=
  if 0 ∈ block then
    some ⟨block.takeWhile (· ≠ 0), fun h => by simpa using List.mem_takeWhile_imp h⟩
  else none

/-- A C string as text, for the error messages. -/
def CString.text (s : CString) : String :=
  String.ofList (s.bytes.map fun b => Char.ofNat b.toNat)

/-- `%s`. -/
def CharPtr.text : CharPtr → String
  | none => "(null)"
  | some s => s.text

/-! ## Errors and faults -/

/-- The errors of `smbios.c`, one constructor for each `error_setg`, and the ones its callees in
the option code report. -/
inductive Error where
  | type4Unrepresentable
  | noPciDevice (type : Nat) (pcidev : CString) (designation : CharPtr)
  | notOnRootBus (type : Nat) (pcidev : CString)
  | type4Count (expected got : Nat)
  | tablesTooLong (len : Nat)
  | cannotReadFile (path : CString)
  | failedToLoadFile (path : CString)
  | fieldsAlreadySpecified (type : Nat)
  | typeOutOfRange
  | binaryAlreadyLoaded
  | invalidRelease
  | invalidUuid
  | cpuSpeedTooLarge
  | cannotOpen (path : CString)
  | unableToRead (path : CString)
  | nulInOemString (path : CString)
  | unexpectedOption (name : String)
  | invalidKind (value : CString)
  | invalidParameter (name : String)
  | invalidValue (name : String)
  | unknownType (type : Nat)
  | mustSpecifyTypeOrFile
  deriving DecidableEq

/-- The text handed to `error_setg`. -/
def Error.message : Error → String
  | .type4Unrepresentable => "SMBIOS 2.0 doesn't support number of processor " ++
      "cores/threads more than 255, use -machine smbios-entry-point-type=64 option to enable " ++
      "SMBIOS 3.0 support"
  | .noPciDevice type pcidev designation => "No PCI device " ++ pcidev.text ++
      " for SMBIOS type " ++ toString type ++ " entry " ++ CharPtr.text designation
  | .notOnRootBus type pcidev => "Cannot create type " ++ toString type ++
      " entry for PCI device " ++ pcidev.text ++ ": not attached to the root bus"
  | .type4Count expected got => "Expected " ++ toString expected ++
      " SMBIOS Type 4 tables, got " ++ toString got ++ " instead"
  | .tablesTooLong len => "SMBIOS 2.1 table length " ++ toString len ++ " exceeds 65535"
  | .cannotReadFile path => "Cannot read SMBIOS file " ++ path.text
  | .failedToLoadFile path => "Failed to load SMBIOS file " ++ path.text
  | .fieldsAlreadySpecified type => "can't load type " ++ toString type ++
      " struct, fields already specified!"
  | .typeOutOfRange => "out of range!"
  | .binaryAlreadyLoaded => "can't add fields, binary file already loaded!"
  | .invalidRelease => "Invalid release"
  | .invalidUuid => "Invalid UUID"
  | .cpuSpeedTooLarge => "SMBIOS CPU speed is too large (> 65535)"
  | .cannotOpen path => "Could not open '" ++ path.text ++ "'"
  | .unableToRead path => "Unable to read from " ++ path.text
  | .nulInOemString path => "NUL in OEM strings value in " ++ path.text
  | .unexpectedOption name => "Unexpected option " ++ name
  | .invalidKind value => "invalid parameter value: " ++ value.text
  | .invalidParameter name => "Invalid parameter '" ++ name ++ "'"
  | .invalidValue name => "Parameter '" ++ name ++ "' expects a value of another type"
  | .unknownType type => "Don't know how to build fields for SMBIOS type " ++ toString type
  | .mustSpecifyTypeOrFile => "Must specify type= or file="

/-- Ways in which a call does not return. -/
inductive Fault where
  /-- `assert(ms->smp.sockets >= 1)`. -/
  | socketsAssert
  /-- `assert(size_mb < MAX_T17_EXT_SZ)`. -/
  | type17SizeAssert
  /-- `assert(end > start)` of type 19. -/
  | type19RangeAssert
  /-- `assert(end > start)` of type 20. -/
  | type20RangeAssert
  /-- `assert((mem_array_size + offset) < (T32_BASE - T19_BASE))`. -/
  | handleRangeAssert
  /-- `error_setg` on an error object that is already set. -/
  | errorAlreadySet
  /-- Division by a zero memory device size. -/
  | divisionByZero
  /-- A read of `mem_array[i]` behind the last element. -/
  | memArrayOutOfBounds (i : Nat)
  /-- `strlen` of a block without a NUL. -/
  | unterminatedString
  /-- A scan of an option descriptor table past its last entry. -/
  | descOutOfBounds
  /-- `assert(ep_type == SMBIOS_ENTRY_POINT_TYPE_32 || ep_type == SMBIOS_ENTRY_POINT_TYPE_64)`. -/
  | entryPointAssert
  /-- `default: abort()`. -/
  | abort
  deriving DecidableEq

/-! ## Options -/

/-- `smbios_type0_t`. -/
structure Type0 where
  vendor : CharPtr := none
  version : CharPtr := none
  date : CharPtr := none
  haveMajorMinor : Bool := false
  uefi : Bool := false
  major : UInt8 := 0
  minor : UInt8 := 0

/-- `smbios_type1_t`. -/
structure Type1 where
  manufacturer : CharPtr := none
  product : CharPtr := none
  version : CharPtr := none
  serial : CharPtr := none
  sku : CharPtr := none
  family : CharPtr := none

/-- `type2`. -/
structure Type2 where
  manufacturer : CharPtr := none
  product : CharPtr := none
  version : CharPtr := none
  serial : CharPtr := none
  asset : CharPtr := none
  location : CharPtr := none

/-- `type3`. -/
structure Type3 where
  manufacturer : CharPtr := none
  version : CharPtr := none
  serial : CharPtr := none
  asset : CharPtr := none
  sku : CharPtr := none

def DEFAULT_CPU_SPEED : UInt64 := 2000

/-- `type4`, with its static initialiser. -/
structure Type4 where
  processorFamily : UInt16 := 0x01
  sockPfx : CharPtr := none
  manufacturer : CharPtr := none
  version : CharPtr := none
  serial : CharPtr := none
  asset : CharPtr := none
  part : CharPtr := none
  maxSpeed : UInt64 := DEFAULT_CPU_SPEED
  currentSpeed : UInt64 := DEFAULT_CPU_SPEED
  processorId : UInt64 := 0

/-- `struct type8_instance`. -/
structure Type8Instance where
  internalReference : CharPtr := none
  externalReference : CharPtr := none
  connectorType : UInt8 := 0
  portType : UInt8 := 0

/-- `struct type9_instance`. -/
structure Type9Instance where
  slotDesignation : CharPtr := none
  pcidev : CharPtr := none
  slotType : UInt8 := 0
  slotDataBusWidth : UInt8 := 0
  currentUsage : UInt8 := 0
  slotLength : UInt8 := 0
  slotCharacteristics1 : UInt8 := 0
  slotCharacteristics2 : UInt8 := 0
  slotId : UInt16 := 0

/-- `type17`. -/
structure Type17 where
  locPfx : CharPtr := none
  bank : CharPtr := none
  manufacturer : CharPtr := none
  serial : CharPtr := none
  asset : CharPtr := none
  part : CharPtr := none
  speed : UInt16 := 0

/-- `struct type41_instance`. -/
structure Type41Instance where
  designation : CharPtr := none
  pcidev : CharPtr := none
  instanceNo : UInt8 := 0
  kind : UInt8 := 0

/-- `QemuUUID`: 16 bytes in the order of RFC 4122. -/
abbrev QemuUUID := { u : List UInt8 // u.length = 16 }

/-- The variables filled by the option code and read by the builders. -/
structure Options where
  /-- `usr_blobs`: the bytes stored so far, the first `usrBlobsLen` of them accepted. -/
  usrBlobs : List UInt8 := []
  usrBlobsLen : Nat := 0
  usrTableMax : Nat := 0
  usrTableCnt : Nat := 0
  haveDefaults : Bool := false
  cpuidVersion : UInt32 := 0
  cpuidFeatures : UInt32 := 0
  haveBinfileBitmap : BitVec 128 := 0
  haveFieldsBitmap : BitVec 128 := 0
  type0 : Type0 := {}
  type1 : Type1 := {}
  type2 : Type2 := {}
  type3 : Type3 := {}
  type4 : Type4 := {}
  type8 : List Type8Instance := []
  type9 : List Type9Instance := []
  /-- `type11.values`: allocated blocks, `NULL` once consumed; `nvalues` is their number. -/
  type11 : List (Option (List UInt8)) := []
  type17 : Type17 := {}
  type41 : List Type41Instance := []
  /-- `qemu_uuid`, if `qemu_uuid_set`. -/
  qemuUuid : Option QemuUUID := none

def SMBIOS_MAX_TYPE : Nat := 127

/-- `test_bit`. -/
def testBit (type : Nat) (bitmap : BitVec 128) : Bool := bitmap.getLsbD type

/-- `set_bit`. -/
def setBit (type : Nat) (bitmap : BitVec 128) : BitVec 128 := bitmap ||| BitVec.twoPow 128 type

theorem testBit_setBit {type : Nat} (h : type ≤ SMBIOS_MAX_TYPE) (k : Nat) (bm : BitVec 128) :
    testBit k (setBit type bm) = (testBit k bm || decide (k = type)) := by
  unfold SMBIOS_MAX_TYPE at h
  simp only [testBit, setBit, BitVec.getLsbD_or, BitVec.getLsbD_twoPow]
  congr 1
  by_cases hk : k = type
  · subst hk
    simp
    omega
  · simp only [hk, decide_false, Bool.and_eq_false_imp, decide_eq_true_eq, decide_eq_false_iff_not]
    exact fun _ e => hk e.symm

/-- `smbios_skip_table`. -/
def smbiosSkipTable (o : Options) (type : Nat) (requiredTable : Bool) : Bool :=
  if testBit type o.haveBinfileBitmap then true
  else if testBit type o.haveFieldsBitmap then false
  else if o.haveDefaults && requiredTable then false
  else true

/-! ## The machine -/

/-- `struct smbios_phys_mem_area`. -/
structure SmbiosPhysMemArea where
  address : UInt64
  length : UInt64
  deriving DecidableEq

/-- What the builders read of `MachineState` and `MachineClass`, and the `mem_array` argument of
`smbios_get_tables`, whose length is the `unsigned` argument `mem_array_size`. -/
structure Machine where
  /-- `ms->smp.sockets`. -/
  sockets : UInt32
  /-- `machine_topo_get_cores_per_socket(ms)`. -/
  coresPerSocket : UInt32
  /-- `machine_topo_get_threads_per_socket(ms)`. -/
  threadsPerSocket : UInt32
  /-- `current_machine->ram_size`. -/
  ramSize : UInt64
  /-- `mc->smbios_memory_device_size`. -/
  smbiosMemoryDeviceSize : UInt64
  memArray : List SmbiosPhysMemArea
  memArray_lt : memArray.length < 2 ^ 32

/-- One socket with one core and 1 GiB of memory in one area. -/
def Machine.small : Machine where
  sockets := 1
  coresPerSocket := 1
  threadsPerSocket := 1
  ramSize := 0x40000000
  smbiosMemoryDeviceSize := 0x400000000
  memArray := [⟨0, 0x40000000⟩]
  memArray_lt := by decide

/-- A PCI device, as far as the builders look at it. -/
structure PCIDevice where
  /-- `pci_bus_is_root(pci_get_bus(pdev))`. -/
  onRootBus : Bool
  /-- `pci_dev_bus_num(pdev)`. -/
  busNum : Nat
  devfn : Nat

inductive SmbiosEntryPointType where
  | type32
  | type64
  | auto
  deriving DecidableEq

end Smbios
