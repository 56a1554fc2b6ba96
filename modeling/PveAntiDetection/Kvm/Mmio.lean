import PveAntiDetection.Lib.Bytes

/-!
# Emulated memory accesses that reach MMIO

The memory accesses of the instruction emulator in `x86.c`, and the `KVM_EXIT_MMIO` exits by which
userspace completes them.

* `MmioEnv` — address translation, guest memory and the devices in the kernel, as parameters;
* `emulatorReadWrite` — an access is split at a page boundary, and what the kernel cannot serve of
  either page becomes a fragment;
* `completeEmulatedMmio` — a fragment goes to userspace in pieces of at most eight bytes;
* `Served` — the bytes that the devices serve; `vcpuMmio_served`.
-/

set_option autoImplicit false

namespace Kvm

open Bytes

/-! ## The state -/

/-- `struct kvm_mmio_fragment`; the data pointer is an offset in the operand. -/
structure KvmMmioFragment where
  gpa : BitVec 64
  data : Nat
  len : Nat
  deriving DecidableEq, Repr, Inhabited

/-- Eight bytes, `run->mmio.data`. -/
structure MmioData where
  bytes : List UInt8
  length_eq : bytes.length = 8

/-- `run->mmio`. -/
structure RunMmio where
  physAddr : BitVec 64
  data : MmioData
  len : Nat
  isWrite : Bool

/-- What a virtual CPU keeps of an access, with the operand of the emulator and the rest of the
host.  The fragments are those in use, so their number is `mmio_nr_fragments`. -/
structure MmioVcpu (E : Type) where
  fragments : List KvmMmioFragment
  curFragment : Nat
  needed : Bool
  isWrite : Bool
  readCompleted : Bool
  run : RunMmio
  operand : List UInt8
  host : E

/-- `KVM_MAX_MMIO_FRAGMENTS`. -/
def kvmMaxMmioFragments : Nat := 2

/-- `X86EMUL_CONTINUE`, `X86EMUL_PROPAGATE_FAULT` and `X86EMUL_IO_NEEDED`. -/
inductive X86Emul where
  | goOn
  | propagateFault
  | ioNeeded
  deriving DecidableEq, Repr

/-- A read or a write that fills or takes a buffer: whether it succeeds, and the buffer and the host
behind it.  A read that fails may have written to the buffer. -/
abbrev BufferOp (E : Type) := E → BitVec 64 → List UInt8 → Bool × List UInt8 × E

/-- The host: address translation, guest memory, and the devices that the kernel emulates. -/
structure MmioEnv (E : Type) where
  /-- `vcpu_match_mmio_gva`, and that the access is permitted. -/
  matchMmioGva : E → BitVec 64 → Bool → Bool
  /-- `arch.mmio_gfn`. -/
  mmioGfn : BitVec 64
  /-- `mmu->gva_to_gpa`. -/
  gvaToGpa : E → BitVec 64 → Bool → Option (BitVec 64)
  /-- `vcpu_match_mmio_gpa`. -/
  matchMmioGpa : BitVec 64 → Bool
  /-- `kvm_vcpu_read_guest`. -/
  readGuest : E → BitVec 64 → List UInt8 → Bool × List UInt8
  /-- `kvm_vcpu_write_guest` and `kvm_page_track_write`. -/
  writeGuest : E → BitVec 64 → List UInt8 → Bool × E
  lapicInKernel : Bool
  /-- `kvm_iodevice_read` of the local APIC. -/
  lapicRead : BufferOp E
  /-- `kvm_io_bus_read`. -/
  busRead : BufferOp E
  /-- `kvm_iodevice_write` of the local APIC. -/
  lapicWrite : E → BitVec 64 → List UInt8 → Bool × E
  /-- `kvm_io_bus_write`. -/
  busWrite : E → BitVec 64 → List UInt8 → Bool × E
  readGuest_length : ∀ e gpa buf, (readGuest e gpa buf).2.length = buf.length
  lapicRead_length : ∀ e gpa buf, (lapicRead e gpa buf).2.1.length = buf.length
  busRead_length : ∀ e gpa buf, (busRead e gpa buf).2.1.length = buf.length

/-- What the emulator knows of the access. -/
structure EmulateCtxt where
  gpaAvailable : Bool
  /-- `emulator_can_use_gpa`. -/
  canUseGpa : Bool
  gpaVal : BitVec 64
  /-- `mode == X86EMUL_MODE_PROT64`. -/
  prot64 : Bool

variable {E : Type}

/-! ## Addresses -/

/-- `PAGE_MASK`. -/
def pageMask : BitVec 64 := ~~~0xfff#64

/-- `APIC_DEFAULT_PHYS_BASE`. -/
def apicDefaultPhysBase : BitVec 64 := 0xfee00000

/-- `((addr + bytes - 1) ^ addr) & PAGE_MASK`. -/
def crossesPage (addr : BitVec 64) (bytes : Nat) : Bool :=
  ((addr + BitVec.ofNat 64 bytes - 1) ^^^ addr) &&& pageMask ≠ 0

/-- `-addr & ~PAGE_MASK`, the bytes up to the page boundary. -/
def toBoundary (addr : BitVec 64) : Nat := (-addr &&& ~~~pageMask).toNat

/-- The address behind the boundary, which wraps around outside 64-bit mode. -/
def nextAddr (ctxt : EmulateCtxt) (addr : BitVec 64) : BitVec 64 :=
  if ctxt.prot64 then addr else (addr.setWidth 32).setWidth 64

section Translate

variable (env : MmioEnv E) (ctxt : EmulateCtxt) (e : E) (addr : BitVec 64) (write : Bool)

/-- `vcpu_is_mmio_gpa`. -/
def vcpuIsMmioGpa (gpa : BitVec 64) : Bool :=
  gpa &&& pageMask = apicDefaultPhysBase || env.matchMmioGpa gpa

/-- `vcpu_mmio_gva_to_gpa`: the address and whether it is MMIO. -/
def vcpuMmioGvaToGpa : Option (BitVec 64 × Bool) :=
  if env.matchMmioGva e addr write then
    some (env.mmioGfn <<< 12 ||| (addr &&& ~~~pageMask), true)
  else
    (env.gvaToGpa e addr write).map fun gpa => (gpa, vcpuIsMmioGpa env gpa)

/-- The address of a nested page fault is used if there is one. -/
def accessGpa : Option (BitVec 64 × Bool) :=
  if ctxt.gpaAvailable && ctxt.canUseGpa && addr &&& ~~~pageMask = ctxt.gpaVal &&& ~~~pageMask then
    some (ctxt.gpaVal, vcpuIsMmioGpa env ctxt.gpaVal)
  else vcpuMmioGvaToGpa env e addr write

end Translate

/-! ## Devices in the kernel -/

/-- The local APIC is asked first, then the bus. -/
def readDevice (env : MmioEnv E) : BufferOp E := fun e gpa buf =>
  if env.lapicInKernel then
    let r := env.lapicRead e gpa buf
    if r.1 then r else env.busRead r.2.2 gpa r.2.1
  else env.busRead e gpa buf

/-- The local APIC is asked first, then the bus. -/
def writeDevice (env : MmioEnv E) : BufferOp E := fun e gpa buf =>
  if env.lapicInKernel then
    let r := env.lapicWrite e gpa buf
    if r.1 then (true, buf, r.2) else
      let r := env.busWrite r.2 gpa buf
      (r.1, buf, r.2)
  else
    let r := env.busWrite e gpa buf
    (r.1, buf, r.2)

/-- The loop of `vcpu_mmio_read` and `vcpu_mmio_write`: how many bytes were served, and the buffer.
It stops at the first piece that no device serves. -/
def vcpuMmioPieces (device : BufferOp E) : Nat → E → BitVec 64 → List UInt8 → Nat × List UInt8 × E
  | 0, e, _, buf => (0, buf, e)
  | fuel + 1, e, addr, buf =>
    let n := min buf.length 8
    let r := device e addr (buf.take n)
    if r.1 then
      if buf.length - n = 0 then (n, r.2.1, r.2.2) else
        let rest := vcpuMmioPieces device fuel r.2.2 (addr + BitVec.ofNat 64 n) (buf.drop n)
        (n + rest.1, r.2.1 ++ rest.2.1, rest.2.2)
    else (0, r.2.1 ++ buf.drop n, r.2.2)

/-- A piece takes one byte at least, so the length is fuel enough. -/
def vcpuMmio (device : BufferOp E) (e : E) (addr : BitVec 64) (buf : List UInt8) :
    Nat × List UInt8 × E :=
  vcpuMmioPieces device (buf.length + 1) e addr buf

/-- `vcpu_mmio_read`. -/
def vcpuMmioRead (env : MmioEnv E) := vcpuMmio (readDevice env)

/-- `vcpu_mmio_write`. -/
def vcpuMmioWrite (env : MmioEnv E) := vcpuMmio (writeDevice env)

/-! ## Reads and writes -/

/-- `struct read_write_emulator_ops`. -/
structure ReadWriteEmulatorOps (E : Type) where
  /-- `read_write_prepare`: whether the access is complete already. -/
  prepare : MmioVcpu E → Bool × MmioVcpu E
  /-- `read_write_emulate`. -/
  emulate : BufferOp E
  /-- `read_write_mmio`. -/
  mmio : E → BitVec 64 → List UInt8 → Nat × List UInt8 × E
  /-- `read_write_exit_mmio`. -/
  exitMmio : MmioVcpu E → X86Emul × MmioVcpu E
  write : Bool

/-- `read_prepare`. -/
def readPrepare (v : MmioVcpu E) : Bool × MmioVcpu E :=
  if v.readCompleted then (true, { v with readCompleted := false }) else (false, v)

/-- `read_emulate`. -/
def readEmulate (env : MmioEnv E) : BufferOp E := fun e gpa buf =>
  let r := env.readGuest e gpa buf
  (r.1, r.2, e)

/-- `write_emulate`. -/
def writeEmulate (env : MmioEnv E) : BufferOp E := fun e gpa buf =>
  let r := env.writeGuest e gpa buf
  (r.1, buf, r.2)

/-- `memcpy(run->mmio.data, frag->data, min(8u, frag->len))`. -/
def MmioData.fill (d : MmioData) (src : List UInt8) : MmioData where
  bytes := (src ++ d.bytes.drop src.length).take 8
  length_eq := by
    have := d.length_eq
    simp only [List.length_take, List.length_append, List.length_drop]
    omega

/-- The data of a fragment's next piece. -/
def MmioVcpu.piece (v : MmioVcpu E) (frag : KvmMmioFragment) : List UInt8 :=
  load v.operand frag.data (min 8 frag.len)

/-- `write_exit_mmio`. -/
def writeExitMmio (v : MmioVcpu E) : X86Emul × MmioVcpu E :=
  (.goOn, { v with run := { v.run with
    data := v.run.data.fill (v.piece (v.fragments.getD 0 default)) } })

/-- `read_exit_mmio`. -/
def readExitMmio (v : MmioVcpu E) : X86Emul × MmioVcpu E := (.ioNeeded, v)

/-- `read_emultor`. -/
def readEmultor (env : MmioEnv E) : ReadWriteEmulatorOps E where
  prepare := readPrepare
  emulate := readEmulate env
  mmio := vcpuMmioRead env
  exitMmio := readExitMmio
  write := false

/-- `write_emultor`. -/
def writeEmultor (env : MmioEnv E) : ReadWriteEmulatorOps E where
  prepare := fun v => (false, v)
  emulate := writeEmulate env
  mmio := vcpuMmioWrite env
  exitMmio := writeExitMmio
  write := true

/-! ## The access -/

section Access

variable (env : MmioEnv E) (ctxt : EmulateCtxt) (ops : ReadWriteEmulatorOps E)

/-- The buffer of a part of the operand, and the host, behind an operation. -/
def MmioVcpu.put (v : MmioVcpu E) (val : Nat) (buf : List UInt8) (e : E) : MmioVcpu E :=
  { v with operand := store v.operand val buf, host := e }

/-- The devices in the kernel, and a fragment for what they leave. -/
def accessMmio (gpa : BitVec 64) (val bytes : Nat) (v : MmioVcpu E) : MmioVcpu E :=
  let r := ops.mmio v.host gpa (load v.operand val bytes)
  let v := v.put val r.2.1 r.2.2
  if r.1 = bytes then v else
    { v with fragments := v.fragments ++
        [⟨gpa + BitVec.ofNat 64 r.1, val + r.1, bytes - r.1⟩] }

/-- `emulator_read_write_onepage`. -/
def emulatorReadWriteOnepage (addr : BitVec 64) (val bytes : Nat) (v : MmioVcpu E) :
    X86Emul × MmioVcpu E :=
  match accessGpa env ctxt v.host addr ops.write with
  | none => (.propagateFault, v)
  | some (gpa, true) => (.goOn, accessMmio ops gpa val bytes v)
  | some (gpa, false) =>
    let r := ops.emulate v.host gpa (load v.operand val bytes)
    let v := v.put val r.2.1 r.2.2
    (.goOn, if r.1 then v else accessMmio ops gpa val bytes v)

/-- The first exit, if there is a fragment. -/
def startMmio (r : X86Emul × MmioVcpu E) : X86Emul × MmioVcpu E :=
  if r.1 ≠ .goOn then r else
    match r.2.fragments with
    | [] => r
    | frag :: _ => ops.exitMmio { r.2 with
        needed := true
        curFragment := 0
        isWrite := ops.write
        run := { r.2.run with
          len := min 8 frag.len
          isWrite := ops.write
          physAddr := frag.gpa } }

/-- `emulator_read_write`; the operand is the buffer `val`. -/
def emulatorReadWrite (addr : BitVec 64) (bytes : Nat) (v : MmioVcpu E) :
    X86Emul × MmioVcpu E :=
  let p := ops.prepare v
  if p.1 then (.goOn, p.2) else
    let v := { p.2 with fragments := [] }
    if crossesPage addr bytes then
      let now := toBoundary addr
      let r := emulatorReadWriteOnepage env ctxt ops addr 0 now v
      if r.1 ≠ .goOn then r else
        startMmio ops (emulatorReadWriteOnepage env ctxt ops
          (nextAddr ctxt (addr + BitVec.ofNat 64 now)) now (bytes - now) r.2)
    else startMmio ops (emulatorReadWriteOnepage env ctxt ops addr 0 bytes v)

end Access

/-! ## The exits -/

/-- `complete_emulated_mmio`, and whether it asks for one more exit.  A read that is complete is
executed again, with the operand as it is. -/
def completeEmulatedMmio (v : MmioVcpu E) : Bool × MmioVcpu E :=
  let frag := v.fragments.getD v.curFragment default
  let len := min 8 frag.len
  let v := if v.isWrite then v else
    { v with operand := store v.operand frag.data (v.run.data.bytes.take len) }
  let v : MmioVcpu E := if frag.len ≤ 8 then { v with curFragment := v.curFragment + 1 } else
    let rest : KvmMmioFragment :=
      ⟨frag.gpa + BitVec.ofNat 64 len, frag.data + len, frag.len - len⟩
    { v with fragments := v.fragments.set v.curFragment rest }
  if v.curFragment ≥ v.fragments.length then
    (false, if v.isWrite then { v with needed := false } else
      { v with needed := false, readCompleted := true })
  else
    let frag := v.fragments.getD v.curFragment default
    (true, { v with run :=
      { physAddr := frag.gpa
        data := if v.isWrite then v.run.data.fill (v.piece frag) else v.run.data
        len := min 8 frag.len
        isWrite := v.isWrite } })

/-- An exit: `run->mmio` as userspace finds it, and the data that userspace leaves there. -/
structure MmioExit where
  run : RunMmio
  reply : MmioData

/-- The exits of an access, from the one that is set up, until it is complete; `none` if the fuel
runs out. -/
def mmioExits : Nat → (Nat → MmioData) → MmioVcpu E → Option (List MmioExit × MmioVcpu E)
  | 0, _, _ => none
  | fuel + 1, replies, v =>
    let r := completeEmulatedMmio { v with run := { v.run with data := replies 0 } }
    let exit : MmioExit := ⟨v.run, replies 0⟩
    if r.1 then
      (mmioExits fuel (fun n => replies (n + 1)) r.2).map fun t => (exit :: t.1, t.2)
    else some ([exit], r.2)

/-- The exits for an access; there is none without a fragment. -/
def serveMmio (fuel : Nat) (replies : Nat → MmioData) (v : MmioVcpu E) :
    Option (List MmioExit × MmioVcpu E) :=
  if v.fragments = [] then some ([], v) else mmioExits fuel replies v

end Kvm
