import PveAntiDetection.Kvm.ControlRegs
import PveAntiDetection.Kvm.Segments

/-!
# Real mode through VM86 on VMX

Without unrestricted guest, `vmx.c` runs a guest in real mode as a VM86 task: while `vm86_active`,
the segment registers and the flags that the guest should see are in `rmode`, and the VMCS has what
VM86 needs.  The control registers in the VMCS are left out: nothing here reads them.

* `VmxRegs` — the registers, with the VMCS, the caches and `rmode`;
* `vmxGetSegment`, `vmxSetSegment`, `vmxGetRflags`, `vmxSetRflags`, `vmxSetCr0` — the callbacks;
* `enterPmode`, `enterRmode` — the two switches;
* `registerStep` — the callbacks as a machine;
* `RegisterFile` — the registers of a CPU, without any of this;
* `VmxRegs.registers` — what the guest has of them; `VmxRegs.Coherent` — with what is cached.
-/

set_option autoImplicit false

namespace Kvm

/-! ## State -/

/-- The registers of a virtual CPU: the VMCS, the caches and `rmode`. -/
structure VmxRegs where
  vmcs : Sreg → VmcsSegment
  guestRflags : BitVec 64
  segmentCache : SegmentCache
  vm86Active : Bool
  saveRflags : BitVec 64
  segs : Sreg → KvmSegment
  /-- `VCPU_EXREG_RFLAGS`. -/
  rflagsAvailable : Bool
  rflags : BitVec 64
  cr0 : BitVec 64
  efer : BitVec 64

/-- What the functions read of the host and of the virtual machine. -/
structure VmxConfig where
  emulateInvalidGuestState : Bool
  unrestrictedGuest : Bool
  tssAddr : BitVec 32 := 0
  /-- `vmx_find_uret_msr` of EFER. -/
  hasEferMsr : Bool := true

/-- `X86_EFLAGS_IOPL | X86_EFLAGS_VM`. -/
def rmodeEflags : BitVec 64 := 0x23000

/-- `RMODE_GUEST_OWNED_EFLAGS_BITS`. -/
def rmodeGuestOwnedEflagsBits : BitVec 64 := ~~~rmodeEflags

/-- `RMODE_TSS_SIZE`. -/
def rmodeTssSize : BitVec 32 := 8329

/-! ## Reads -/

/-- `vmx_segment_cache_clear`. -/
def vmxSegmentCacheClear (s : VmxRegs) : VmxRegs :=
  { s with segmentCache := { s.segmentCache with bitmask := 0 } }

/-- `vmx_read_guest_seg_selector`. -/
def vmxReadGuestSegSelector (s : VmxRegs) (seg : Sreg) : BitVec 16 × VmxRegs :=
  let c := vmxReadGuestSeg s.vmcs s.segmentCache seg .sel
  ((c.seg seg).selector, { s with segmentCache := c })

/-- `vmx_read_guest_seg_base`. -/
def vmxReadGuestSegBase (s : VmxRegs) (seg : Sreg) : BitVec 64 × VmxRegs :=
  let c := vmxReadGuestSeg s.vmcs s.segmentCache seg .base
  ((c.seg seg).base, { s with segmentCache := c })

/-- `vmx_read_guest_seg_limit`. -/
def vmxReadGuestSegLimit (s : VmxRegs) (seg : Sreg) : BitVec 32 × VmxRegs :=
  let c := vmxReadGuestSeg s.vmcs s.segmentCache seg .limit
  ((c.seg seg).limit, { s with segmentCache := c })

/-- `vmx_read_guest_seg_ar`. -/
def vmxReadGuestSegAr (s : VmxRegs) (seg : Sreg) : BitVec 32 × VmxRegs :=
  let c := vmxReadGuestSeg s.vmcs s.segmentCache seg .ar
  ((c.seg seg).ar, { s with segmentCache := c })

/-- `vmx_get_segment`. -/
def vmxGetSegment (s : VmxRegs) (seg : Sreg) : KvmSegment × VmxRegs :=
  if s.vm86Active ∧ seg ≠ .ldtr then
    let var := s.segs seg
    if seg = .tr then (var, s)
    else
      let (selector, s) := vmxReadGuestSegSelector s seg
      if var.selector = selector then (var, s)
      else
        let (base, s) := vmxReadGuestSegBase s seg
        let (selector, s) := vmxReadGuestSegSelector s seg
        ({ var with base := base, selector := selector }, s)
  else
    let (base, s) := vmxReadGuestSegBase s seg
    let (limit, s) := vmxReadGuestSegLimit s seg
    let (selector, s) := vmxReadGuestSegSelector s seg
    let (ar, s) := vmxReadGuestSegAr s seg
    (VmcsSegment.toSegment ⟨selector, base, limit, ar⟩, s)

/-- `vmx_get_rflags`. -/
def vmxGetRflags (s : VmxRegs) : BitVec 64 × VmxRegs :=
  if s.rflagsAvailable then (s.rflags, s)
  else
    let rflags := s.guestRflags
    let rflags :=
      if s.vm86Active then
        (rflags &&& rmodeGuestOwnedEflagsBits) ||| (s.saveRflags &&& ~~~rmodeGuestOwnedEflagsBits)
      else rflags
    (rflags, { s with rflagsAvailable := true, rflags := rflags })

/-! ## Writes -/

/-- `fix_rmode_seg`. -/
def fixRmodeSeg (cfg : VmxConfig) (s : VmxRegs) (seg : Sreg) : VmxRegs :=
  let var := s.segs seg
  let var := { var with dpl := 3 }
  let var := if seg = .cs then { var with type := 3 } else var
  let var :=
    if cfg.emulateInvalidGuestState then var
    else
      { var with
        selector := (var.base >>> 4).setWidth 16
        base := var.base &&& 0xffff0
        limit := 0xffff
        g := 0
        db := 0
        present := 1
        s := 1
        l := 0
        unusable := 0
        type := 3
        avl := 0 }
  { s with vmcs := Function.update s.vmcs seg (.ofSegment var) }

/-- `__vmx_set_segment`. -/
def vmxSetSegmentRaw (cfg : VmxConfig) (s : VmxRegs) (var : KvmSegment) (seg : Sreg) : VmxRegs :=
  let s := vmxSegmentCacheClear s
  if s.vm86Active ∧ seg ≠ .ldtr then
    let s := { s with segs := Function.update s.segs seg var }
    if seg = .tr then
      { s with
        vmcs := Function.update s.vmcs seg { s.vmcs seg with selector := var.selector } }
    else if var.s ≠ 0 then fixRmodeSeg cfg s seg
    else s
  else
    let var :=
      if cfg.unrestrictedGuest ∧ seg ≠ .ldtr then { var with type := var.type ||| 1 } else var
    { s with vmcs := Function.update s.vmcs seg (.ofSegment var) }

/-- `vmx_set_segment`, in front of `vmx_emulation_required`, which reads registers. -/
def vmxSetSegment (cfg : VmxConfig) (s : VmxRegs) (var : KvmSegment) (seg : Sreg) : VmxRegs :=
  vmxSetSegmentRaw cfg s var seg

/-- `vmx_set_rflags`, in front of `vmx_emulation_required`. -/
def vmxSetRflags (cfg : VmxConfig) (s : VmxRegs) (rflags : BitVec 64) : VmxRegs :=
  if cfg.unrestrictedGuest then
    { s with rflagsAvailable := true, rflags := rflags, guestRflags := rflags }
  else
    let (_, s) := vmxGetRflags s
    let s := { s with rflags := rflags }
    if s.vm86Active then
      { s with saveRflags := rflags, guestRflags := rflags ||| rmodeEflags }
    else { s with guestRflags := rflags }

/-! ## Mode switches -/

/-- `vmx_get_segment` into `rmode.segs`. -/
def saveSegment (s : VmxRegs) (seg : Sreg) : VmxRegs :=
  let (var, s) := vmxGetSegment s seg
  { s with segs := Function.update s.segs seg var }

/-- `fix_pmode_seg` of a register in `rmode.segs`. -/
def fixPmodeSeg (cfg : VmxConfig) (s : VmxRegs) (seg : Sreg) : VmxRegs :=
  let save := s.segs seg
  let save :=
    if cfg.emulateInvalidGuestState then save
    else
      let save :=
        if seg = .cs ∨ seg = .ss then { save with selector := save.selector &&& ~~~3 } else save
      { save with dpl := (save.selector &&& 3).setWidth 8, s := 1 }
  vmxSetSegmentRaw cfg { s with segs := Function.update s.segs seg save } save seg

/-- `enter_pmode`. -/
def enterPmode (cfg : VmxConfig) (s : VmxRegs) : VmxRegs :=
  let s := [.es, .ds, .fs, .gs, .ss, .cs].foldl saveSegment s
  let s := { s with vm86Active := false }
  let s := vmxSetSegmentRaw cfg s (s.segs .tr) .tr
  let flags := s.guestRflags &&& rmodeGuestOwnedEflagsBits
  let flags := flags ||| (s.saveRflags &&& ~~~rmodeGuestOwnedEflagsBits)
  let s := { s with guestRflags := flags }
  [.cs, .ss, .es, .ds, .fs, .gs].foldl (fixPmodeSeg cfg) s

/-- `enter_rmode`. -/
def enterRmode (cfg : VmxConfig) (s : VmxRegs) : VmxRegs :=
  let s := [.tr, .es, .ds, .fs, .gs, .ss, .cs].foldl saveSegment s
  let s := { s with vm86Active := true }
  let s := vmxSegmentCacheClear s
  let tr := { s.vmcs .tr with
    base := cfg.tssAddr.setWidth 64
    limit := rmodeTssSize - 1
    ar := 0x8b }
  let s := { s with vmcs := Function.update s.vmcs .tr tr }
  let s := { s with saveRflags := s.guestRflags, guestRflags := s.guestRflags ||| rmodeEflags }
  [.ss, .cs, .es, .ds, .gs, .fs].foldl (fixRmodeSeg cfg) s

/-- `vmx_set_efer`. -/
def vmxSetEfer (cfg : VmxConfig) (s : VmxRegs) (efer : BitVec 64) : VmxRegs :=
  if cfg.hasEferMsr then { s with efer := efer } else s

/-- `enter_lmode`. -/
def enterLmode (cfg : VmxConfig) (s : VmxRegs) : VmxRegs :=
  let s := vmxSegmentCacheClear s
  let guestTrAr := (s.vmcs .tr).ar
  let s :=
    if guestTrAr &&& 15 ≠ 11 then
      { s with
        vmcs := Function.update s.vmcs .tr
          { s.vmcs .tr with ar := (guestTrAr &&& ~~~15) ||| 11 } }
    else s
  vmxSetEfer cfg s (s.efer ||| BitVec.twoPow 64 eferLma)

/-- `exit_lmode`. -/
def exitLmode (cfg : VmxConfig) (s : VmxRegs) : VmxRegs :=
  vmxSetEfer cfg s (s.efer &&& ~~~BitVec.twoPow 64 eferLma)

/-- `vmx_set_cr0`, in front of what it does for CR3 and CR4. -/
def vmxSetCr0 (cfg : VmxConfig) (s : VmxRegs) (cr0 : BitVec 64) : VmxRegs :=
  let oldCr0Pg := s.cr0.getLsbD cr0Pg
  let s :=
    if cfg.unrestrictedGuest then s
    else
      let s := if s.vm86Active ∧ cr0.getLsbD cr0Pe then enterPmode cfg s else s
      if ¬ s.vm86Active ∧ ¬ cr0.getLsbD cr0Pe then enterRmode cfg s else s
  let s := { s with cr0 := cr0 }
  if s.efer.getLsbD eferLme then
    if ¬ oldCr0Pg ∧ cr0.getLsbD cr0Pg then enterLmode cfg s
    else if oldCr0Pg ∧ ¬ cr0.getLsbD cr0Pg then exitLmode cfg s
    else s
  else s

/-! ## The machine -/

/-- A call of a callback. -/
inductive RegisterCall where
  | getSegment (seg : Sreg)
  | setSegment (var : KvmSegment) (seg : Sreg)
  | getRflags
  | setRflags (rflags : BitVec 64)
  | setCr0 (cr0 : BitVec 64)
  deriving DecidableEq

/-- One call. -/
def registerStep (cfg : VmxConfig) (s : VmxRegs) : RegisterCall → Unit × VmxRegs
  | .getSegment seg => ((), (vmxGetSegment s seg).2)
  | .setSegment var seg => ((), vmxSetSegment cfg s var seg)
  | .getRflags => ((), (vmxGetRflags s).2)
  | .setRflags rflags => ((), vmxSetRflags cfg s rflags)
  | .setCr0 cr0 => ((), vmxSetCr0 cfg s cr0)

/-! ## Registers -/

/-- The registers of a CPU. -/
structure RegisterFile where
  segs : Sreg → KvmSegment
  rflags : BitVec 64
  cr0 : BitVec 64
  /-- `EFER.LME`. -/
  lme : Bool

/-- What a call does to the registers: a write writes what it says, and no more than that.
Paging with `EFER.LME` activates long mode, whose task register is a busy 64-bit TSS. -/
def RegisterFile.step (f : RegisterFile) : RegisterCall → Unit × RegisterFile
  | .getSegment _ => ((), f)
  | .setSegment var seg => ((), { f with segs := Function.update f.segs seg var })
  | .getRflags => ((), f)
  | .setRflags rflags => ((), { f with rflags := rflags })
  | .setCr0 cr0 =>
    let activates := f.lme ∧ ¬ f.cr0.getLsbD cr0Pg ∧ cr0.getLsbD cr0Pg ∧ cr0.getLsbD cr0Pe
    let segs :=
      if activates then Function.update f.segs .tr { f.segs .tr with type := 11 } else f.segs
    ((), { f with segs := segs, cr0 := cr0 })

/-! ## What the registers are -/

namespace VmxRegs

/-- A segment register as the guest has it. -/
def segment (s : VmxRegs) (seg : Sreg) : KvmSegment :=
  if s.vm86Active ∧ seg ≠ .ldtr then
    if seg = .tr ∨ (s.segs seg).selector = (s.vmcs seg).selector then s.segs seg
    else { s.segs seg with base := (s.vmcs seg).base, selector := (s.vmcs seg).selector }
  else (s.vmcs seg).toSegment

/-- The flags as the guest has them. -/
def flags (s : VmxRegs) : BitVec 64 :=
  if s.vm86Active then
    (s.guestRflags &&& rmodeGuestOwnedEflagsBits) |||
      (s.saveRflags &&& ~~~rmodeGuestOwnedEflagsBits)
  else s.guestRflags

/-- The registers as the guest has them. -/
def registers (s : VmxRegs) : RegisterFile :=
  ⟨s.segment, s.flags, s.cr0, s.efer.getLsbD eferLme⟩

/-- The caches have what is cached. -/
structure Coherent (s : VmxRegs) : Prop where
  segments : s.segmentCache.Coherent s.vmcs
  rflags : s.rflagsAvailable → s.rflags = s.flags

end VmxRegs

end Kvm
