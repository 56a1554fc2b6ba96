import PveAntiDetection.Lib.Bytes
import PveAntiDetection.Lib.Runs
import PveAntiDetection.Smbios.Monad
import PveAntiDetection.Smbios.QemuOption

/-!
# `smbios_entry_add`

The option code of `smbios.c`: `smbios_entry_add` with its `file=` and `type=` entries, and the
defaults that the machine sets (`smbios_set_defaults`, `smbios_set_cpuid`,
`smbios_set_default_processor_family`).

`Call` is one call into that code and `configure` the machine of such calls: every state the
builders start from is the end of a run of it.
-/

set_option autoImplicit false

namespace Smbios

open Bytes

/-- `errp` behind a call, or the fault that ended it. -/
abbrev EntryResult := Except Fault (Option Error)

section
variable {Q : Type} (qo : QemuOption Q) (q : Q)

/-! ## Storing options -/

/-- `save_opt(&dest, opts, name)`: the value of `dest` behind it. -/
def saveOpt (dest : CharPtr) (name : String) : CharPtr := (qo.qemuOptGet q name).or dest

/-- The loop of `save_opt_one` over the chunks of a file. -/
def readOemString (path : CString) : List (List UInt8) × Bool → Except Error (List UInt8)
  | ([], failed) => if failed then .error (.unableToRead path) else .ok []
  | (chunk :: chunks, failed) =>
    if 0 ∈ chunk then .error (.nulInOemString path)
    else (readOemString path (chunks, failed)).map (chunk ++ ·)

/-- `save_opt_one`: what it appends to the values.  `g_byte_array_free` of an array without bytes
is `NULL`; the bytes of a file get no terminator. -/
def saveOptOne (files : Files) (name : String) (value : CString) :
    Except Error (List (Option (List UInt8))) :=
  if name = "path" then
    if files.qemuOpen value then
      (readOemString value (files.read value)).map fun data =>
        [if data = [] then none else some data]
    else .error (.cannotOpen value)
  else if name = "value" then .ok [some (value.bytes ++ [0])]
  else if name = "type" then .ok []
  else .error (.unexpectedOption name)

/-- `save_opt_list`: `qemu_opt_foreach` stops at the first error, and keeps what was appended
before it. -/
def saveOptList (files : Files) : List (String × CString) → List (Option (List UInt8)) →
    List (Option (List UInt8)) × Option Error
  | [], values => (values, none)
  | (name, value) :: opts, values =>
    match saveOptOne files name value with
    | .error e => (values, some e)
    | .ok blocks => saveOptList files opts (values ++ blocks)

/-! ## The fields of a type -/

/-- `case 0`.  `sscanf` stores the numbers it converts, also where it refuses the rest. -/
def saveType0 (o : Options) : Options × Option Error :=
  let t : Type0 := { o.type0 with
    vendor := saveOpt qo q o.type0.vendor "vendor"
    version := saveOpt qo q o.type0.version "version"
    date := saveOpt qo q o.type0.date "date"
    uefi := qo.qemuOptGetBool q "uefi" false }
  match qo.qemuOptGet q "release" with
  | none => ({ o with type0 := t }, none)
  | some val =>
    match sscanfRelease val with
    | (some major, some minor) =>
      ({ o with type0 := { t with major := major, minor := minor, haveMajorMinor := true } }, none)
    | (major, _) =>
      ({ o with type0 := { t with major := major.getD t.major } }, some .invalidRelease)

/-- `case 1`. -/
def saveType1 (o : Options) : Options × Option Error :=
  let o : Options := { o with type1 :=
    { manufacturer := saveOpt qo q o.type1.manufacturer "manufacturer"
      product := saveOpt qo q o.type1.product "product"
      version := saveOpt qo q o.type1.version "version"
      serial := saveOpt qo q o.type1.serial "serial"
      sku := saveOpt qo q o.type1.sku "sku"
      family := saveOpt qo q o.type1.family "family" } }
  match qo.qemuOptGet q "uuid" with
  | none => (o, none)
  | some val =>
    match qo.qemuUuidParse val with
    | none => (o, some .invalidUuid)
    | some uuid => ({ o with qemuUuid := some uuid }, none)

/-- `case 2`. -/
def saveType2 (o : Options) : Options × Option Error :=
  ({ o with type2 :=
    { manufacturer := saveOpt qo q o.type2.manufacturer "manufacturer"
      product := saveOpt qo q o.type2.product "product"
      version := saveOpt qo q o.type2.version "version"
      serial := saveOpt qo q o.type2.serial "serial"
      asset := saveOpt qo q o.type2.asset "asset"
      location := saveOpt qo q o.type2.location "location" } }, none)

/-- `case 3`. -/
def saveType3 (o : Options) : Options × Option Error :=
  ({ o with type3 :=
    { manufacturer := saveOpt qo q o.type3.manufacturer "manufacturer"
      version := saveOpt qo q o.type3.version "version"
      serial := saveOpt qo q o.type3.serial "serial"
      asset := saveOpt qo q o.type3.asset "asset"
      sku := saveOpt qo q o.type3.sku "sku" } }, none)

def UINT16_MAX : UInt64 := 0xffff

/-- `case 4`.  The speeds are checked behind the assignments. -/
def saveType4 (o : Options) : Options × Option Error :=
  let t : Type4 :=
    { sockPfx := saveOpt qo q o.type4.sockPfx "sock_pfx"
      processorFamily := (qo.qemuOptGetNumber q "processor-family" 0x01).toUInt16
      manufacturer := saveOpt qo q o.type4.manufacturer "manufacturer"
      version := saveOpt qo q o.type4.version "version"
      serial := saveOpt qo q o.type4.serial "serial"
      asset := saveOpt qo q o.type4.asset "asset"
      part := saveOpt qo q o.type4.part "part"
      processorId := qo.qemuOptGetNumber q "processor-id" 0
      maxSpeed := qo.qemuOptGetNumber q "max-speed" DEFAULT_CPU_SPEED
      currentSpeed := qo.qemuOptGetNumber q "current-speed" DEFAULT_CPU_SPEED }
  ({ o with type4 := t },
    if t.maxSpeed > UINT16_MAX ∨ t.currentSpeed > UINT16_MAX then some .cpuSpeedTooLarge else none)

/-- `case 8`. -/
def saveType8 (o : Options) : Options × Option Error :=
  let t : Type8Instance :=
    { internalReference := saveOpt qo q none "internal_reference"
      externalReference := saveOpt qo q none "external_reference"
      connectorType := (qo.qemuOptGetNumber q "connector_type" 0).toUInt8
      portType := (qo.qemuOptGetNumber q "port_type" 0).toUInt8 }
  ({ o with type8 := o.type8 ++ [t] }, none)

/-- `case 9`. -/
def saveType9 (o : Options) : Options × Option Error :=
  let t : Type9Instance :=
    { slotDesignation := saveOpt qo q none "slot_designation"
      slotType := (qo.qemuOptGetNumber q "slot_type" 0).toUInt8
      slotDataBusWidth := (qo.qemuOptGetNumber q "slot_data_bus_width" 0).toUInt8
      currentUsage := (qo.qemuOptGetNumber q "current_usage" 0).toUInt8
      slotLength := (qo.qemuOptGetNumber q "slot_length" 0).toUInt8
      slotId := (qo.qemuOptGetNumber q "slot_id" 0).toUInt16
      slotCharacteristics1 := (qo.qemuOptGetNumber q "slot_characteristics1" 0).toUInt8
      slotCharacteristics2 := (qo.qemuOptGetNumber q "slot_characteristics2" 0).toUInt8
      pcidev := saveOpt qo q none "pcidev" }
  ({ o with type9 := o.type9 ++ [t] }, none)

/-- `case 11`. -/
def saveType11 (files : Files) (o : Options) : Options × Option Error :=
  let (values, err) := saveOptList files (qo.qemuOptPairs q) o.type11
  ({ o with type11 := values }, err)

/-- `case 17`. -/
def saveType17 (o : Options) : Options × Option Error :=
  ({ o with type17 :=
    { locPfx := saveOpt qo q o.type17.locPfx "loc_pfx"
      bank := saveOpt qo q o.type17.bank "bank"
      manufacturer := saveOpt qo q o.type17.manufacturer "manufacturer"
      serial := saveOpt qo q o.type17.serial "serial"
      asset := saveOpt qo q o.type17.asset "asset"
      part := saveOpt qo q o.type17.part "part"
      speed := (qo.qemuOptGetNumber q "speed" 0).toUInt16 } }, none)

/-- `case 41`. -/
def saveType41 (o : Options) : Options × Option Error :=
  match qo.qapiEnumParse type41KindLookup (qo.qemuOptGet q "kind") 0 with
  | .error e => (o, some e)
  | .ok kind =>
    let t : Type41Instance :=
      { designation := saveOpt qo q none "designation"
        kind := UInt8.ofNat (kind + 1) ||| 0x80
        instanceNo := (qo.qemuOptGetNumber q "instance" 1).toUInt8
        pcidev := saveOpt qo q none "pcidev" }
    ({ o with type41 := o.type41 ++ [t] }, none)

/-! ## One entry -/

/-- `qemu_opts_validate`, and `save` if it finds nothing wrong. -/
def validated (descs : List QemuOptDesc) (save : Options → Options × Option Error) (o : Options) :
    EntryResult × Options :=
  match qo.qemuOptsValidate q descs with
  | .error f => (.error f, o)
  | .ok (some e) => (.ok (some e), o)
  | .ok none => (.ok (save o).2, (save o).1)

/-- The `switch` over the type. -/
def saveFields (files : Files) (o : Options) (type : Nat) : EntryResult × Options :=
  match type with
  | 0 => validated qo q qemuSmbiosType0Opts (saveType0 qo q) o
  | 1 => validated qo q qemuSmbiosType1Opts (saveType1 qo q) o
  | 2 => validated qo q qemuSmbiosType2Opts (saveType2 qo q) o
  | 3 => validated qo q qemuSmbiosType3Opts (saveType3 qo q) o
  | 4 => validated qo q qemuSmbiosType4Opts (saveType4 qo q) o
  | 8 => validated qo q qemuSmbiosType8Opts (saveType8 qo q) o
  | 9 => validated qo q qemuSmbiosType9Opts (saveType9 qo q) o
  | 11 => validated qo q qemuSmbiosType11Opts (saveType11 qo q files) o
  | 17 => validated qo q qemuSmbiosType17Opts (saveType17 qo q) o
  | 41 => validated qo q qemuSmbiosType41Opts (saveType41 qo q) o
  | _ => (.ok (some (.unknownType type)), o)

/-- The entry with `type=val`. -/
def addFields (files : Files) (val : CString) (o : Options) : EntryResult × Options :=
  let type := strtoul val
  if type > SMBIOS_MAX_TYPE then (.ok (some .typeOutOfRange), o)
  else if testBit type o.haveBinfileBitmap then (.ok (some .binaryAlreadyLoaded), o)
  else
    saveFields qo q files { o with haveFieldsBitmap := setBit type o.haveFieldsBitmap } type

/-- `g_realloc(blobs, n)`. -/
def growBlobs (fresh : Nat → UInt8) (blobs : List UInt8) (n : Nat) : List UInt8 :=
  blobs.take n ++ freshBytes fresh blobs.length (n - blobs.length)

/-- `header->type` of the structure at `bs`. -/
def headerType (bs : List UInt8) : Nat := (bs.headD 0).toNat

/-- The file is accepted: its structure is of the type `type`, and `size` bytes long. -/
def acceptFile (type size : Nat) (s : State) : State :=
  let o := s.opts
  let bitmap := if type ≤ SMBIOS_MAX_TYPE then setBit type o.haveBinfileBitmap
    else o.haveBinfileBitmap
  let count := if type = 4 then s.bld.type4Count + 1 else s.bld.type4Count
  -- `usr_table_max` and `usr_table_cnt` are `unsigned`, `size` is a `size_t`
  { s with
    opts := { o with
      haveBinfileBitmap := bitmap
      usrBlobsLen := o.usrBlobsLen + size
      usrTableMax := if size > o.usrTableMax then size % 2 ^ 32 else o.usrTableMax
      usrTableCnt := (o.usrTableCnt + 1) % 2 ^ 32 }
    bld := { s.bld with type4Count := count } }

/-- `usr_blobs` behind `g_realloc` and `load_image_size`. -/
def loadBlob (files : Files) (val : CString) (size : Nat) (o : Options) : List UInt8 :=
  store (growBlobs files.fresh o.usrBlobs (o.usrBlobsLen + size)) o.usrBlobsLen
    (files.loadImageSize val size).2

/-- The entry with `file=val`, behind the validation of the options. -/
def addFile (files : Files) (val : CString) (s : State) : EntryResult × State :=
  match files.getImageSize val with
  | none => (.ok (some (.cannotReadFile val)), s)
  | some size =>
    if size < headerSize then (.ok (some (.cannotReadFile val)), s)
    else
      let s := { s with opts := { s.opts with usrBlobs := loadBlob files val size s.opts } }
      if (files.loadImageSize val size).1 = some size then
        let type := headerType (s.opts.usrBlobs.drop s.opts.usrBlobsLen)
        if type ≤ SMBIOS_MAX_TYPE ∧ testBit type s.opts.haveFieldsBitmap = true then
          (.ok (some (.fieldsAlreadySpecified type)), s)
        else (.ok none, acceptFile type size s)
      else (.ok (some (.failedToLoadFile val)), s)

/-- `smbios_entry_add`, called with `*errp == NULL`. -/
def smbiosEntryAdd (files : Files) (s : State) : EntryResult × State :=
  match qo.qemuOptGet q "file" with
  | some val =>
    match qo.qemuOptsValidate q qemuSmbiosFileOpts with
    | .error f => (.error f, s)
    | .ok (some e) => (.ok (some e), s)
    | .ok none => addFile files val s
  | none =>
    match qo.qemuOptGet q "type" with
    | some val =>
      let r := addFields qo q files val s.opts
      (r.1, { s with opts := r.2 })
    | none => (.ok (some .mustSpecifyTypeOrFile), s)

end

/-! ## Defaults -/

/-- `smbios_set_cpuid`. -/
def smbiosSetCpuid (version features : UInt32) (o : Options) : Options :=
  { o with cpuidVersion := version, cpuidFeatures := features }

/-- `smbios_set_default_processor_family`. -/
def smbiosSetDefaultProcessorFamily (processorFamily : UInt16) (o : Options) : Options :=
  if o.type4.processorFamily ≤ 0x01 then
    { o with type4 := { o.type4 with processorFamily := processorFamily } }
  else o

/-- `SMBIOS_SET_DEFAULT(field, value)`. -/
def setDefault (field value : CharPtr) : CharPtr := field.or value

/-- `smbios_set_defaults`. -/
def smbiosSetDefaults (manufacturer product version : CharPtr) (o : Options) : Options :=
  { o with
    haveDefaults := true
    type1 := { o.type1 with
      manufacturer := setDefault o.type1.manufacturer manufacturer
      product := setDefault o.type1.product product
      version := setDefault o.type1.version version }
    type2 := { o.type2 with
      manufacturer := setDefault o.type2.manufacturer manufacturer
      product := setDefault o.type2.product product
      version := setDefault o.type2.version version }
    type3 := { o.type3 with
      manufacturer := setDefault o.type3.manufacturer manufacturer
      version := setDefault o.type3.version version }
    type4 := { o.type4 with
      sockPfx := setDefault o.type4.sockPfx (some (lit "CPU"))
      manufacturer := setDefault o.type4.manufacturer manufacturer
      version := setDefault o.type4.version version }
    type17 := { o.type17 with
      locPfx := setDefault o.type17.locPfx (some (lit "DIMM"))
      manufacturer := setDefault o.type17.manufacturer manufacturer } }

/-! ## Runs of calls -/

/-- One `-smbios` option, with the files that are there when it is parsed. -/
structure Entry (Q : Type) where
  opts : Q
  files : Files

/-- The calls that fill the options. -/
inductive Call (Q : Type) where
  | entryAdd (e : Entry Q)
  | setCpuid (version features : UInt32)
  | setDefaultProcessorFamily (processorFamily : UInt16)
  | setDefaults (manufacturer product version : CharPtr)

/-- `smbios_entry_add` for an entry. -/
def entryAdd {Q : Type} (qo : QemuOption Q) (s : State) (e : Entry Q) : EntryResult × State :=
  smbiosEntryAdd qo e.opts e.files s

/-- One call: what it reports, and the state behind it. -/
def configure {Q : Type} (qo : QemuOption Q) (s : State) : Call Q → EntryResult × State
  | .entryAdd e => entryAdd qo s e
  | .setCpuid version features =>
    (.ok none, { s with opts := smbiosSetCpuid version features s.opts })
  | .setDefaultProcessorFamily processorFamily =>
    (.ok none, { s with opts := smbiosSetDefaultProcessorFamily processorFamily s.opts })
  | .setDefaults manufacturer product version =>
    (.ok none, { s with opts := smbiosSetDefaults manufacturer product version s.opts })

end Smbios
