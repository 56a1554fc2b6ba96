import PveAntiDetection.Smbios.State

/-!
# Command line options

What `smbios_entry_add` works on.

* `strtoul`, `sscanfRelease` — the two conversions of the C library it uses;
* `qemuSmbiosType0Opts` and its siblings — the descriptor tables of `smbios.c`;
* `QemuOption` — the option functions of QEMU, which are not in the repository, on their
  `QemuOpts`; `QemuOption.Contract` collects what the results below rely on;
* `Files` — the files that one call sees.
-/

set_option autoImplicit false

namespace Smbios

/-! ## Numbers in C strings -/

/-- `isspace`. -/
def isSpace (b : UInt8) : Bool := b = 32 || (9 ≤ b && b ≤ 13)

/-- The value of a digit or a letter; 36 for any other byte. -/
def digitValue (b : UInt8) : Nat :=
  if 48 ≤ b && b ≤ 57 then b.toNat - 48
  else if 65 ≤ b && b ≤ 90 then b.toNat - 55
  else if 97 ≤ b && b ≤ 122 then b.toNat - 87
  else 36

/-- The digits in front, and what is behind them. -/
def spanDigits (base : Nat) (s : List UInt8) : List UInt8 × List UInt8 :=
  s.span fun b => digitValue b < base

def ofDigits (base : Nat) (ds : List UInt8) : Nat :=
  ds.foldl (fun n b => n * base + digitValue b) 0

/-- An optional sign: whether it is a minus. -/
def splitSign : List UInt8 → Bool × List UInt8
  | 45 :: s => (true, s)
  | 43 :: s => (false, s)
  | s => (false, s)

/-- The base that a prefix stands for. -/
def splitBase : List UInt8 → Nat × List UInt8
  | 48 :: 120 :: s => (16, s)
  | 48 :: 88 :: s => (16, s)
  | 48 :: s => (8, 48 :: s)
  | s => (10, s)

/-- The `unsigned long` of a sign and a number: `ULONG_MAX` if the number does not fit. -/
def toUnsignedLong (negative : Bool) (n : Nat) : Nat :=
  if n < 2 ^ 64 then if negative then (2 ^ 64 - n) % 2 ^ 64 else n
  else 2 ^ 64 - 1

/-- `strtoul(s, NULL, 0)`. -/
def strtoul (s : CString) : Nat :=
  let (negative, unsigned) := splitSign (s.bytes.dropWhile isSpace)
  let (base, digits) := splitBase unsigned
  toUnsignedLong negative (ofDigits base (spanDigits base digits).1)

/-- The conversion `%hhu` of `sscanf`. -/
def scanHhu (s : List UInt8) : Option (UInt8 × List UInt8) :=
  let (negative, unsigned) := splitSign (s.dropWhile isSpace)
  match spanDigits 10 unsigned with
  | ([], _) => none
  | (ds, rest) => some (UInt8.ofNat (toUnsignedLong negative (ofDigits 10 ds)), rest)

/-- `sscanf(s, "%hhu.%hhu", &major, &minor)`: the values that are assigned. -/
def sscanfRelease (s : CString) : Option UInt8 × Option UInt8 :=
  match scanHhu s.bytes with
  | none => (none, none)
  | some (major, 46 :: rest) => (some major, (scanHhu rest).map Prod.fst)
  | some (major, _) => (some major, none)

example : strtoul (lit "17") = 17 ∧ strtoul (lit " 0x1D") = 29 ∧
    strtoul (lit "-1") = 2 ^ 64 - 1 := by
  decide +kernel

/-! ## Descriptor tables -/

/-- `QEMU_OPT_*`. -/
inductive QemuOptType where
  | string
  | bool
  | number
  deriving DecidableEq

/-- `QemuOptDesc`; `{ /* end of list */ }` is the one without a name. -/
structure QemuOptDesc where
  name : Option String := none
  type : QemuOptType := .string
  defValueStr : Option String := none

def qemuSmbiosFileOpts : List QemuOptDesc := [⟨some "file", .string, none⟩, {}]

def qemuSmbiosType0Opts : List QemuOptDesc :=
  [⟨some "type", .number, none⟩, ⟨some "vendor", .string, none⟩, ⟨some "version", .string, none⟩,
    ⟨some "date", .string, none⟩, ⟨some "release", .string, none⟩, ⟨some "uefi", .bool, none⟩, {}]

def qemuSmbiosType1Opts : List QemuOptDesc :=
  [⟨some "type", .number, none⟩, ⟨some "manufacturer", .string, none⟩,
    ⟨some "product", .string, none⟩, ⟨some "version", .string, none⟩,
    ⟨some "serial", .string, none⟩, ⟨some "uuid", .string, none⟩, ⟨some "sku", .string, none⟩,
    ⟨some "family", .string, none⟩, {}]

def qemuSmbiosType2Opts : List QemuOptDesc :=
  [⟨some "type", .number, none⟩, ⟨some "manufacturer", .string, none⟩,
    ⟨some "product", .string, none⟩, ⟨some "version", .string, none⟩,
    ⟨some "serial", .string, none⟩, ⟨some "asset", .string, none⟩,
    ⟨some "location", .string, none⟩, {}]

def qemuSmbiosType3Opts : List QemuOptDesc :=
  [⟨some "type", .number, none⟩, ⟨some "manufacturer", .string, none⟩,
    ⟨some "version", .string, none⟩, ⟨some "serial", .string, none⟩, ⟨some "asset", .string, none⟩,
    ⟨some "sku", .string, none⟩, {}]

def qemuSmbiosType4Opts : List QemuOptDesc :=
  [⟨some "type", .number, none⟩, ⟨some "sock_pfx", .string, none⟩,
    ⟨some "manufacturer", .string, none⟩, ⟨some "version", .string, none⟩,
    ⟨some "max-speed", .number, none⟩, ⟨some "current-speed", .number, none⟩,
    ⟨some "serial", .string, none⟩, ⟨some "asset", .string, none⟩, ⟨some "part", .string, none⟩,
    ⟨some "processor-family", .number, none⟩, ⟨some "processor-id", .number, none⟩, {}]

def qemuSmbiosType8Opts : List QemuOptDesc :=
  [⟨some "type", .number, none⟩, ⟨some "internal_reference", .string, none⟩,
    ⟨some "external_reference", .string, none⟩, ⟨some "connector_type", .number, none⟩,
    ⟨some "port_type", .number, none⟩, {}]

/-- The table of the source: it has no end of list, and it names `pci_device`, not `pcidev`. -/
def qemuSmbiosType9Opts : List QemuOptDesc :=
  [⟨some "type", .number, none⟩, ⟨some "slot_designation", .string, none⟩,
    ⟨some "slot_type", .number, none⟩, ⟨some "slot_data_bus_width", .number, none⟩,
    ⟨some "current_usage", .number, none⟩, ⟨some "slot_length", .number, none⟩,
    ⟨some "slot_id", .number, none⟩, ⟨some "slot_characteristics1", .number, none⟩,
    ⟨some "slot_characteristics2", .number, none⟩, ⟨some "pci_device", .string, none⟩]

def qemuSmbiosType11Opts : List QemuOptDesc :=
  [⟨some "type", .number, none⟩, ⟨some "value", .string, none⟩, ⟨some "path", .string, none⟩, {}]

def qemuSmbiosType17Opts : List QemuOptDesc :=
  [⟨some "type", .number, none⟩, ⟨some "loc_pfx", .string, none⟩, ⟨some "bank", .string, none⟩,
    ⟨some "manufacturer", .string, none⟩, ⟨some "serial", .string, none⟩,
    ⟨some "asset", .string, none⟩, ⟨some "part", .string, none⟩, ⟨some "speed", .number, none⟩, {}]

def qemuSmbiosType41Opts : List QemuOptDesc :=
  [⟨some "type", .number, none⟩, ⟨some "designation", .string, none⟩,
    ⟨some "kind", .string, some "other"⟩, ⟨some "instance", .number, none⟩,
    ⟨some "pcidev", .string, none⟩, {}]

/-- `type41_kind_lookup`. -/
def type41KindLookup : List String :=
  ["other", "unknown", "video", "scsi", "ethernet", "tokenring", "sound", "pata", "sata", "sas"]

/-! ## The option functions of QEMU -/

/-- The functions of `qemu/option.h` and of the QAPI and UUID helpers, on the options `Q` of one
`-smbios`. -/
structure QemuOption (Q : Type) where
  /-- The options in the order in which `qemu_opt_foreach` visits them. -/
  qemuOptPairs : Q → List (String × CString)
  qemuOptGet : Q → String → CharPtr
  qemuOptGetNumber : Q → String → UInt64 → UInt64
  qemuOptGetBool : Q → String → Bool → Bool
  /-- `qemu_opts_validate`: the error it sets; a fault if it runs off the table. -/
  qemuOptsValidate : Q → List QemuOptDesc → Except Fault (Option Error)
  /-- `qemu_uuid_parse`; `none` for a non-zero return code. -/
  qemuUuidParse : CString → Option QemuUUID
  /-- `qapi_enum_parse` with a lookup table and a default. -/
  qapiEnumParse : List String → CharPtr → Nat → Except Error Nat

/-- The documented effect of the getters on an option that is not given. -/
structure QemuOption.Contract {Q : Type} (qo : QemuOption Q) : Prop where
  number_absent : ∀ q name d, qo.qemuOptGet q name = none → qo.qemuOptGetNumber q name d = d
  bool_absent : ∀ q name d, qo.qemuOptGet q name = none → qo.qemuOptGetBool q name d = d

/-- The options as the user wrote them. -/
abbrev OptionList := List (String × CString)

/-- The value given last. -/
def OptionList.last (q : OptionList) (name : String) : CharPtr :=
  (q.reverse.find? fun p => p.1 = name).map Prod.snd

/-- `qemu_strtou64(s, NULL, 0, …)`: a number and nothing behind it. -/
def qemuStrtou64 (s : CString) : Option UInt64 :=
  let (negative, unsigned) := splitSign (s.bytes.dropWhile isSpace)
  let (base, digits) := splitBase unsigned
  match spanDigits base digits with
  | (d :: ds, []) =>
    if ofDigits base (d :: ds) < 2 ^ 64 then
      some (UInt64.ofNat (toUnsignedLong negative (ofDigits base (d :: ds))))
    else none
  | _ => none

/-- `qapi_bool_parse`. -/
def qapiBoolParse (s : CString) : Option Bool :=
  if s ∈ [lit "on", lit "yes", lit "true", lit "y"] then some true
  else if s ∈ [lit "off", lit "no", lit "false", lit "n"] then some false
  else none

/-- `qemu_opt_parse` for a value of the type `type`. -/
def qemuOptParse (type : QemuOptType) (name : String) (value : CString) : Option Error :=
  match type with
  | .string => none
  | .bool => if (qapiBoolParse value).isSome then none else some (.invalidValue name)
  | .number => if (qemuStrtou64 value).isSome then none else some (.invalidValue name)

/-- `find_desc_by_name`: an entry, the end of the list, or a scan past the last entry. -/
def findDescByName : List QemuOptDesc → String → Except Fault (Option QemuOptDesc)
  | [], _ => .error .descOutOfBounds
  | d :: ds, name =>
    match d.name with
    | none => .ok none
    | some n => if n = name then .ok (some d) else findDescByName ds name

/-- `qemu_opts_validate` on a list of options. -/
def validateList : OptionList → List QemuOptDesc → Except Fault (Option Error)
  | [], _ => .ok none
  | (name, value) :: q, descs =>
    match findDescByName descs name with
    | .error f => .error f
    | .ok none => .ok (some (.invalidParameter name))
    | .ok (some d) =>
      match qemuOptParse d.type name value with
      | some e => .ok (some e)
      | none => validateList q descs

/-- The option functions as documented, computably; no UUID is read. -/
def QemuOption.reference : QemuOption OptionList where
  qemuOptPairs q := q
  qemuOptGet q name := q.last name
  qemuOptGetNumber q name d := ((q.last name).map fun v => (qemuStrtou64 v).getD 0).getD d
  qemuOptGetBool q name d := ((q.last name).map fun v => (qapiBoolParse v).getD false).getD d
  qemuOptsValidate := validateList
  qemuUuidParse _ := none
  qapiEnumParse lookup buf d :=
    match buf with
    | none => .ok d
    | some v =>
      match lookup.findIdx? fun name => lit name = v with
      | some i => .ok i
      | none => .error (.invalidKind v)

theorem QemuOption.reference_contract : QemuOption.reference.Contract where
  number_absent q name d h := by
    show ((q.last name).map _).getD d = d
    rw [show q.last name = none from h]
    rfl
  bool_absent q name d h := by
    show ((q.last name).map _).getD d = d
    rw [show q.last name = none from h]
    rfl

/-! ## Files -/

/-- The files and the fresh memory that one call sees. -/
structure Files where
  /-- `get_image_size`; `none` for -1. -/
  getImageSize : CString → Option Nat
  /-- The bytes `g_realloc` hands out, by position. -/
  fresh : Nat → UInt8
  /-- `load_image_size`: its result (`none` for -1), and the bytes it stored. -/
  loadImageSize : CString → Nat → Option Nat × List UInt8
  load_le : ∀ path size, (loadImageSize path size).2.length ≤ size
  load_count : ∀ path size n, (loadImageSize path size).1 = some n →
    (loadImageSize path size).2.length = n
  /-- Whether `qemu_open(path, O_RDONLY)` succeeds. -/
  qemuOpen : CString → Bool
  /-- The chunks that `read` returns, and whether it fails behind them. -/
  read : CString → List (List UInt8) × Bool

/-- A file system in which every path names a file with the contents `bs`. -/
def Files.holding (bs : List UInt8) : Files where
  getImageSize _ := some bs.length
  fresh _ := 0
  loadImageSize _ size := (some (bs.take size).length, bs.take size)
  load_le _ size := List.length_take_le size bs
  load_count _ _ _ h := Option.some.inj h
  qemuOpen _ := true
  read _ := (if bs = [] then [] else [bs], false)

end Smbios
