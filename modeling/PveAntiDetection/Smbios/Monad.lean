import PveAntiDetection.Smbios.Build

/-!
# Running the builders

The state of a run (`State`), the monad of the functions of `smbios.c` (`SmbiosM`), and
`buildTable`, the part all table builders share: skip test, PRE, assignments, POST.

`Host` is what `smbios.c` takes from elsewhere: the macros of `smbios_build.h`, the contents of
fresh heap memory, the PCI devices, and the structures that `smbios_build_type_38_table` builds
(`hw/smbios/smbios_type_38.c` is not in the repository: one structure for each IPMI device,
through the same macros).  `Host.Contract` collects what the results below rely on.

`Build.started` is a history variable: every table that PRE was run for, in order.  No definition
reads it.
-/

set_option autoImplicit false

namespace Smbios

/-! ## The host -/

structure Host where
  macros : SmbiosBuild
  /-- The bytes `g_realloc` hands out in the pass for an entry point type, by buffer position. -/
  fresh : SmbiosEntryPointType → Nat → UInt8
  /-- `pci_qdev_find_device`; `none` for a non-zero return code. -/
  pciQdevFindDevice : CString → Option PCIDevice
  /-- The structures of `smbios_build_type_38_table`. -/
  type38Tables : List Table

structure Host.Contract (h : Host) : Prop where
  macros : h.macros.Contract
  type38_type : ∀ t ∈ h.type38Tables, t.type = 38
  type38_complete : ∀ t ∈ h.type38Tables, t.halt = none

/-- A host with the documented macros, no PCI device and no IPMI device. -/
def Host.plain : Host where
  macros := .reference
  fresh _ _ := 0
  pciQdevFindDevice _ := none
  type38Tables := []

theorem Host.plain_contract : Host.plain.Contract where
  macros := SmbiosBuild.reference_contract
  type38_type _ ht := nomatch ht
  type38_complete _ ht := nomatch ht

/-! ## The state -/

/-- The variables one run of the builders writes. -/
structure Build where
  buf : TableBuf := {}
  /-- `smbios_type4_count`. -/
  type4Count : Nat := 0
  /-- `*errp` of the running `smbios_get_tables_ep`. -/
  errp : Option Error := none
  /-- History: the tables started so far. -/
  started : List Table := []

/-- A table started, and the buffer it left. -/
def Build.push (b : Build) (buf : TableBuf) (t : Table) : Build :=
  { b with buf := buf, started := b.started ++ [t] }

/-- `sizeof (struct smbios_21_entry_point)`. -/
def sizeofSmbios21EntryPoint : Nat := 4 + 1 + 1 + 1 + 1 + 2 + 1 + 5 + 5 + 1 + 2 + 4 + 2 + 1

/-- `sizeof (struct smbios_30_entry_point)`. -/
def sizeofSmbios30EntryPoint : Nat := 5 + 1 + 1 + 1 + 1 + 1 + 1 + 1 + 4 + 8

/-- `struct smbios_21_entry_point`. -/
structure Smbios21EntryPoint where
  anchorString : List UInt8
  checksum : Nat
  length : Nat
  smbiosMajorVersion : Nat
  smbiosMinorVersion : Nat
  maxStructureSize : Nat
  entryPointRevision : Nat
  formattedArea : List UInt8
  intermediateAnchorString : List UInt8
  intermediateChecksum : Nat
  structureTableLength : Nat
  structureTableAddress : Nat
  numberOfStructures : Nat
  smbiosBcdRevision : Nat
  deriving DecidableEq

/-- `struct smbios_30_entry_point`. -/
structure Smbios30EntryPoint where
  anchorString : List UInt8
  checksum : Nat
  length : Nat
  smbiosMajorVersion : Nat
  smbiosMinorVersion : Nat
  smbiosDocRev : Nat
  entryPointRevision : Nat
  reserved : Nat
  structureTableMaxSize : Nat
  structureTableAddress : Nat
  deriving DecidableEq

/-- `SmbiosEntryPoint`: the member of the union that was written last. -/
inductive SmbiosEntryPoint where
  | ep21 (e : Smbios21EntryPoint)
  | ep30 (e : Smbios30EntryPoint)
  deriving DecidableEq

def SmbiosEntryPoint.anchorString : SmbiosEntryPoint → List UInt8
  | .ep21 e => e.anchorString
  | .ep30 e => e.anchorString

/-- The variables of `smbios.c`; `ep` is `none` before the first successful build. -/
structure State where
  opts : Options := {}
  bld : Build := {}
  ep : Option SmbiosEntryPoint := none

/-- A function of `smbios.c`; a fault leaves the state it was reached in. -/
abbrev SmbiosM := EStateM Fault State

theorem get_run (s : State) : (get : SmbiosM State) s = .ok s s := rfl

theorem set_run (s t : State) : (set t : SmbiosM PUnit) s = .ok ⟨⟩ t := rfl

/-- `error_setg(errp, …)`, which asserts `*errp == NULL`. -/
def errorSetg (e : Error) : SmbiosM Unit := fun s =>
  match s.bld.errp with
  | some _ => .error .errorAlreadySet s
  | none => .ok () { s with bld := { s.bld with errp := some e } }

/-! ## The shared part of the builders -/

/-- How a builder left its table. -/
inductive Outcome where
  /-- `smbios_skip_table` returned true. -/
  | skipped
  /-- It returned after `error_setg`, before POST. -/
  | reported
  /-- POST was reached. -/
  | built
  deriving DecidableEq

/-- Skip test, PRE, assignments, and POST or what stopped the builder before it. -/
def buildTable (h : Host) (ep : SmbiosEntryPointType) (required : Bool) (t : Table) :
    SmbiosM Outcome := do
  let s ← get
  if smbiosSkipTable s.opts t.type required then
    return .skipped
  let run := t.start h.macros (h.fresh ep) s.bld.buf
  match t.halt with
  | none =>
    set { s with bld := s.bld.push (h.macros.post run) t }
    return .built
  | some (.report e) =>
    set { s with bld := s.bld.push run.1 t }
    errorSetg e
    return .reported
  | some (.fault f) =>
    set { s with bld := s.bld.push run.1 t }
    throw f

/-- A loop of builders over a list of instances: the `return` of a skipped table, or of one that
reported an error, leaves the loop. -/
def buildEach (h : Host) (ep : SmbiosEntryPointType) (required : Bool) : List Table → SmbiosM Unit
  | [] => pure ()
  | t :: ts => do
    match ← buildTable h ep required t with
    | .built => buildEach h ep required ts
    | .skipped => return ()
    | .reported => return ()

end Smbios
