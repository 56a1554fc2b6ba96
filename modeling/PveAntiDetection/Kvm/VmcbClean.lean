import PveAntiDetection.Kvm.Asid
import PveAntiDetection.Kvm.SvmSegments

/-!
# The clean bits of the VMCB

A processor may keep parts of the VMCB from one VMRUN to the next, and load a part from memory only
where its clean bit is clear.  `svm.c` clears the bit of each part that it writes, and all bits when
the VMCB has last run on another processor.

* `CleanBit`, `VmcbParts` — the parts of the VMCB;
* `SvmHeader`, `SvmHeader.Contract` — what `svm.h` and `nested.c` do with the clean bits;
* `CleanVcpu`, `cleanStep` — a virtual CPU, its VMCB, and what every processor has kept of it;
* `Marks` — an operation clears the bits of what it changes; one lemma for each;
* `CleanInv` — a part that is clean is the one that the processor has kept;
* `vmrun_loads_vmcb` — the guest runs with the VMCB, its debug control apart;
* `dbgctl_not_loaded` — the debug control that MSR_IA32_DEBUGCTLMSR has written is not marked.
-/

set_option autoImplicit false

namespace Kvm

/-! ## The parts of a VMCB -/

/-- The clean bits, without that of the AVIC. -/
inductive CleanBit where
  | intercepts | permMap | asid | intr | npt | cr | dr | dt | seg | cr2 | lbr
  deriving DecidableEq

structure InterceptPart where
  intercepts : BitVec 192 := 0
  tscOffset : BitVec 64 := 0
  pauseFilterCount : BitVec 16 := 0
  pauseFilterThresh : BitVec 16 := 0
  deriving DecidableEq

structure PermMapPart where
  iopmBasePa : BitVec 64 := 0
  msrpmBasePa : BitVec 64 := 0
  deriving DecidableEq

structure IntrPart where
  intCtl : BitVec 32 := 0
  intVector : BitVec 32 := 0
  deriving DecidableEq

structure NptPart where
  nestedCtl : BitVec 64 := 0
  nestedCr3 : BitVec 64 := 0
  gPat : BitVec 64 := 0
  deriving DecidableEq

structure CrPart where
  cr0 : BitVec 64 := 0
  cr3 : BitVec 64 := 0
  cr4 : BitVec 64 := 0
  efer : BitVec 64 := 0
  deriving DecidableEq

structure DrPart where
  dr6 : BitVec 64 := 0
  dr7 : BitVec 64 := 0
  deriving DecidableEq

/-- `struct desc_ptr`. -/
structure DescPtr where
  size : BitVec 16 := 0
  address : BitVec 64 := 0
  deriving DecidableEq

structure DtPart where
  gdtr : DescPtr := {}
  idtr : DescPtr := {}
  deriving DecidableEq

structure SegPart where
  es : VmcbSeg := {}
  cs : VmcbSeg := {}
  ss : VmcbSeg := {}
  ds : VmcbSeg := {}
  cpl : BitVec 8 := 0
  deriving DecidableEq

structure LbrPart where
  dbgctl : BitVec 64 := 0
  brFrom : BitVec 64 := 0
  brTo : BitVec 64 := 0
  lastExcpFrom : BitVec 64 := 0
  lastExcpTo : BitVec 64 := 0
  deriving DecidableEq

/-- The fields of a VMCB that have a clean bit. -/
structure VmcbParts where
  interception : InterceptPart := {}
  permMap : PermMapPart := {}
  asid : Nat := 0
  intr : IntrPart := {}
  npt : NptPart := {}
  cr : CrPart := {}
  dr : DrPart := {}
  dt : DtPart := {}
  seg : SegPart := {}
  cr2 : BitVec 64 := 0
  lbr : LbrPart := {}
  deriving DecidableEq

/-- The two agree on the part of a bit. -/
def VmcbParts.SameAt (x y : VmcbParts) : CleanBit → Prop
  | .intercepts => x.interception = y.interception
  | .permMap => x.permMap = y.permMap
  | .asid => x.asid = y.asid
  | .intr => x.intr = y.intr
  | .npt => x.npt = y.npt
  | .cr => x.cr = y.cr
  | .dr => x.dr = y.dr
  | .dt => x.dt = y.dt
  | .seg => x.seg = y.seg
  | .cr2 => x.cr2 = y.cr2
  | .lbr => x.lbr = y.lbr

/-- What a processor loads: the parts that `use` selects from what it has kept, the others from
memory. -/
def VmcbParts.load (use : CleanBit → Bool) (kept mem : VmcbParts) : VmcbParts where
  interception := if use .intercepts then kept.interception else mem.interception
  permMap := if use .permMap then kept.permMap else mem.permMap
  asid := if use .asid then kept.asid else mem.asid
  intr := if use .intr then kept.intr else mem.intr
  npt := if use .npt then kept.npt else mem.npt
  cr := if use .cr then kept.cr else mem.cr
  dr := if use .dr then kept.dr else mem.dr
  dt := if use .dt then kept.dt else mem.dt
  seg := if use .seg then kept.seg else mem.seg
  cr2 := if use .cr2 then kept.cr2 else mem.cr2
  lbr := if use .lbr then kept.lbr else mem.lbr

/-- #VMEXIT stores the state of the guest, and none of the controls but V_TPR and V_IRQ. -/
def VmcbParts.exit (mem guest : VmcbParts) : VmcbParts :=
  { mem with
    intr := guest.intr
    npt := { mem.npt with gPat := guest.npt.gPat }
    cr := guest.cr
    dr := guest.dr
    dt := guest.dt
    seg := guest.seg
    cr2 := guest.cr2
    lbr := guest.lbr }

/-! ## The virtual CPU -/

/-- The inline functions of `svm.h` and `recalc_intercepts` of `nested.c`, on `control.clean`. -/
structure SvmHeader where
  vmcbMarkDirty : (CleanBit → Bool) → CleanBit → CleanBit → Bool
  vmcbMarkAllDirty : (CleanBit → Bool) → CleanBit → Bool
  vmcbMarkAllClean : (CleanBit → Bool) → CleanBit → Bool
  recalcIntercepts : (CleanBit → Bool) → CleanBit → Bool

/-- Marking a part dirty clears its bit and sets none; the interrupts and CR2 are always dirty; the
intercepts are marked when they change. -/
structure SvmHeader.Contract (hdr : SvmHeader) : Prop where
  dirty : ∀ c b, hdr.vmcbMarkDirty c b b = false
  dirtyOthers : ∀ c b b', hdr.vmcbMarkDirty c b b' = true → c b' = true
  allDirty : ∀ c b, hdr.vmcbMarkAllDirty c b = false
  alwaysDirty : ∀ c b, hdr.vmcbMarkAllClean c b = true → b ≠ .intr ∧ b ≠ .cr2
  intercepts : ∀ c, hdr.recalcIntercepts c .intercepts = false
  interceptsOthers : ∀ c b, hdr.recalcIntercepts c b = true → c b = true

/-- The module and the host. -/
structure SvmPlatform where
  nptEnabled : Bool := true
  hasFlushByAsid : Bool := true
  /-- `cr4_read_shadow() & X86_CR4_MCE`. -/
  hostCr4Mce : BitVec 64 := 0
  quirkCdNwCleared : Bool := false
  lbrv : Bool := true
  vnmi : Bool := false
  vgif : Bool := false

/-- The virtual CPU outside nested virtualization, and `kept`, what the processors have of its
VMCB. -/
structure CleanVcpu where
  svm : VcpuSvm := {}
  vmcb : VmcbParts := {}
  clean : CleanBit → Bool := fun _ => false
  /-- `LBR_CTL_ENABLE_MASK` in `control.virt_ext`. -/
  lbrCtlEnable : Bool := false
  kept : Nat → VmcbParts
  cr0 : BitVec 64 := 0
  cr3 : BitVec 64 := 0
  cr4 : BitVec 64 := 0
  efer : BitVec 64 := 0
  cr2 : BitVec 64 := 0
  dr6 : BitVec 64 := 0
  pat : BitVec 64 := 0
  /-- `KVM_DEBUGREG_WONT_EXIT`. -/
  wontExit : Bool := false

namespace CleanVcpu

def isPaging (v : CleanVcpu) : Bool := v.cr0.getLsbD 31

section Operations

variable (hdr : SvmHeader) (p : SvmPlatform)

/-- `vmcb_mark_dirty`. -/
def markDirty (b : CleanBit) (v : CleanVcpu) : CleanVcpu :=
  { v with clean := hdr.vmcbMarkDirty v.clean b }

/-- `svm_set_intercept`, `svm_clr_intercept` and those of the exceptions: the words that
`recalc_intercepts` leaves. -/
def setIntercepts (words : BitVec 192) (v : CleanVcpu) : CleanVcpu :=
  { v with
    vmcb.interception.intercepts := words
    clean := hdr.recalcIntercepts v.clean }

/-- `svm_flush_tlb_asid`. -/
def svmFlushTlbAsid (v : CleanVcpu) : CleanVcpu :=
  if p.hasFlushByAsid then v
  else
    let b := v.svm.currentVmcb
    { v with svm := v.svm.setCurrentVmcb { b with asidGeneration := b.asidGeneration - 1 } }

/-- `svm_set_efer` of a guest that does not change EFER.SVME. -/
def svmSetEfer (efer : BitVec 64) (v : CleanVcpu) : CleanVcpu :=
  let v := { v with efer := efer }
  let efer :=
    if p.nptEnabled then efer
    else
      -- `EFER_NX`, and without `EFER_LMA` no `EFER_LME`
      let efer := efer ||| 0x800
      if efer.getLsbD 10 then efer else efer &&& ~~~0x100
  -- `EFER_SVME`
  markDirty hdr .cr { v with vmcb.cr.efer := efer ||| 0x1000 }

/-- `svm_set_cr4`. -/
def svmSetCr4 (cr4 : BitVec 64) (v : CleanVcpu) : CleanVcpu :=
  -- `X86_CR4_PGE`
  let v := if p.nptEnabled && (v.cr4 ^^^ cr4).getLsbD 7 then svmFlushTlbAsid p v else v
  let v := { v with cr4 := cr4 }
  let cr4 :=
    if p.nptEnabled then cr4
    else
      -- `X86_CR4_PAE`; `X86_CR4_SMEP`, `X86_CR4_SMAP` and `X86_CR4_PKE`
      let cr4 := cr4 ||| 0x20
      if v.isPaging then cr4 else cr4 &&& ~~~0x700000
  markDirty hdr .cr { v with vmcb.cr.cr4 := cr4 ||| p.hostCr4Mce }

/-- The part of `svm_set_cr0` about EFER.LMA. -/
def trackLma (cr0 : BitVec 64) (v : CleanVcpu) : CleanVcpu :=
  if v.efer.getLsbD 8 then
    let v :=
      if !v.isPaging && cr0.getLsbD 31 then
        { v with
          efer := v.efer ||| 0x400
          vmcb.cr.efer := v.vmcb.cr.efer ||| 0x500 }
      else v
    if v.isPaging && !cr0.getLsbD 31 then
      { v with
        efer := v.efer &&& ~~~0x400
        vmcb.cr.efer := v.vmcb.cr.efer &&& ~~~0x500 }
    else v
  else v

/-- `svm_set_cr0`; `words` has the intercepts of CR0 where the VMCB does not have `cr0`, and not
otherwise. -/
def svmSetCr0 (cr0 : BitVec 64) (words : BitVec 192) (v : CleanVcpu) : CleanVcpu :=
  let oldPaging := v.isPaging
  let v := { trackLma cr0 v with cr0 := cr0 }
  let v := if !p.nptEnabled && oldPaging != v.isPaging then svmSetCr4 hdr p v.cr4 v else v
  -- `X86_CR0_PG | X86_CR0_WP`; `X86_CR0_CD | X86_CR0_NW`
  let hcr0 := if p.nptEnabled then cr0 else cr0 ||| 0x80010000
  let hcr0 := if p.quirkCdNwCleared then hcr0 &&& ~~~0x60000000 else hcr0
  let v := markDirty hdr .cr { v with vmcb.cr.cr0 := hcr0 }
  setIntercepts hdr words v

/-- `svm_load_mmu_pgd`; `root` carries the encryption bit and the PCID. -/
def svmLoadMmuPgd (root : BitVec 64) (v : CleanVcpu) : CleanVcpu :=
  if p.nptEnabled then
    let v := markDirty hdr .npt { v with vmcb.npt.nestedCr3 := root }
    markDirty hdr .cr { v with vmcb.cr.cr3 := v.cr3 }
  else markDirty hdr .cr { v with vmcb.cr.cr3 := root }

/-- `svm_set_idt`. -/
def svmSetIdt (dt : DescPtr) (v : CleanVcpu) : CleanVcpu :=
  markDirty hdr .dt { v with vmcb.dt.idtr := dt }

/-- `svm_set_gdt`. -/
def svmSetGdt (dt : DescPtr) (v : CleanVcpu) : CleanVcpu :=
  markDirty hdr .dt { v with vmcb.dt.gdtr := dt }

/-- `svm_set_segment`; FS, GS, TR and LDTR have no clean bit. -/
def svmSetSegment (var : KvmSegment) (seg : Sreg) (v : CleanVcpu) : CleanVcpu :=
  let s : VmcbSeg := ⟨var.selector, svmAttrib var, var.limit, var.base⟩
  markDirty hdr .seg <|
    match seg with
    | .es => { v with vmcb.seg.es := s }
    | .cs => { v with vmcb.seg.cs := s }
    | .ss => { v with vmcb.seg := { v.vmcb.seg with ss := s, cpl := var.dpl &&& 3 } }
    | .ds => { v with vmcb.seg.ds := s }
    | .fs | .gs | .tr | .ldtr => v

/-- `svm_set_dr6`. -/
def svmSetDr6 (value : BitVec 64) (v : CleanVcpu) : CleanVcpu :=
  if value ≠ v.vmcb.dr.dr6 then markDirty hdr .dr { v with vmcb.dr.dr6 := value } else v

/-- `svm_set_dr7`. -/
def svmSetDr7 (value : BitVec 64) (v : CleanVcpu) : CleanVcpu :=
  markDirty hdr .dr { v with vmcb.dr.dr7 := value }

/-- `svm_set_vintr`; `words` are the intercepts with `INTERCEPT_VINTR`. -/
def svmSetVintr (words : BitVec 192) (v : CleanVcpu) : CleanVcpu :=
  let v := setIntercepts hdr words v
  -- `V_INTR_PRIO_MASK`; `V_IRQ_MASK` and the highest priority
  let intCtl := (v.vmcb.intr.intCtl &&& ~~~0xf0000) ||| 0xf0100
  markDirty hdr .intr { v with vmcb.intr := ⟨intCtl, 0⟩ }

/-- `svm_clear_vintr`; `words` are the intercepts without `INTERCEPT_VINTR`. -/
def svmClearVintr (words : BitVec 192) (v : CleanVcpu) : CleanVcpu :=
  let v := setIntercepts hdr words v
  -- `V_IRQ_INJECTION_BITS_MASK`
  markDirty hdr .intr
    { v with vmcb.intr.intCtl := v.vmcb.intr.intCtl &&& ~~~0x1f0100 }

/-- `grow_ple_window` and `shrink_ple_window`, with the window that `__grow_ple_window` or
`__shrink_ple_window` returns. -/
def updatePleWindow (count : BitVec 16) (v : CleanVcpu) : CleanVcpu :=
  let old := v.vmcb.interception.pauseFilterCount
  let v := { v with vmcb.interception.pauseFilterCount := count }
  if count ≠ old then markDirty hdr .intercepts v else v

/-- `svm_write_tsc_offset`. -/
def svmWriteTscOffset (offset : BitVec 64) (v : CleanVcpu) : CleanVcpu :=
  markDirty hdr .intercepts { v with vmcb.interception.tscOffset := offset }

/-- MSR_IA32_CR_PAT in `svm_set_msr`. -/
def svmSetPat (data : BitVec 64) (v : CleanVcpu) : CleanVcpu :=
  markDirty hdr .npt { v with pat := data, vmcb.npt.gPat := data }

/-- `svm_set_vnmi_pending`. -/
def svmSetVnmiPending (v : CleanVcpu) : CleanVcpu :=
  -- `V_NMI_PENDING_MASK`
  if p.vnmi = false ∨ v.vmcb.intr.intCtl.getLsbD 11 then v
  else markDirty hdr .intr { v with vmcb.intr.intCtl := v.vmcb.intr.intCtl ||| 0x800 }

/-- `svm_set_nmi_mask`; `words` are the intercepts with or without `INTERCEPT_IRET`. -/
def svmSetNmiMask (masked : Bool) (words : BitVec 192) (v : CleanVcpu) : CleanVcpu :=
  if p.vnmi then
    -- `V_NMI_BLOCKING_MASK`
    let intCtl := v.vmcb.intr.intCtl
    { v with vmcb.intr.intCtl := if masked then intCtl ||| 0x1000 else intCtl &&& ~~~0x1000 }
  else setIntercepts hdr words v

/-- MSR_IA32_DEBUGCTLMSR in `svm_set_msr`, with `svm_update_lbrv`: `DEBUGCTLMSR_LBR` decides. -/
def svmSetDebugctl (data : BitVec 64) (v : CleanVcpu) : CleanVcpu :=
  if p.lbrv = false ∨ data &&& ~~~0x3f ≠ 0 then v
  else
    let v := { v with vmcb.lbr.dbgctl := data }
    { v with lbrCtlEnable := v.vmcb.lbr.dbgctl.getLsbD 0 }

/-- `sync_lapic_to_cr8`. -/
def syncLapicToCr8 (cr8 : BitVec 32) (v : CleanVcpu) : CleanVcpu :=
  -- `V_TPR_MASK`
  { v with vmcb.intr.intCtl := (v.vmcb.intr.intCtl &&& ~~~0xf) ||| (cr8 &&& 0xf) }

/-- What `init_vmcb` writes where the modules and the virtual machine differ. -/
structure InitValues where
  words : BitVec 192
  iopmBasePa : BitVec 64
  msrpmBasePa : BitVec 64
  pauseInGuest : Bool
  pauseFilterCount : BitVec 16
  pauseFilterThresh : BitVec 16

/-- `init_vmcb` of a guest without AVIC, SEV and enlightenments. -/
def initVmcb (i : InitValues) (v : CleanVcpu) : CleanVcpu :=
  let flat : VmcbSeg := ⟨0, 0x92, 0xffff, 0⟩
  let m := v.vmcb
  let interception :=
    if i.pauseInGuest then m.interception
    else
      { m.interception with
        pauseFilterCount := i.pauseFilterCount
        pauseFilterThresh :=
          if i.pauseFilterThresh ≠ 0 then i.pauseFilterThresh
          else m.interception.pauseFilterThresh }
  -- `V_INTR_MASKING_MASK`, `V_NMI_ENABLE_MASK`, `V_GIF_ENABLE_MASK`, and `V_GIF_MASK` by
  -- `enable_gif`
  let intCtl : BitVec 32 := 0x1000000 ||| (if p.vnmi then 0x4000000 else 0) |||
    (if p.vgif then 0x2000200 else 0)
  let v := { v with
    vmcb := { m with
      interception := { interception with intercepts := i.words }
      permMap := ⟨i.iopmBasePa, i.msrpmBasePa⟩
      intr := { m.intr with intCtl := intCtl }
      npt :=
        if p.nptEnabled then { m.npt with nestedCtl := m.npt.nestedCtl ||| 1, gPat := v.pat }
        else m.npt
      cr := if p.nptEnabled then { m.cr with cr3 := 0 } else m.cr
      dt := ⟨⟨0xffff, 0⟩, ⟨0xffff, 0⟩⟩
      seg := { m.seg with
        es := flat
        cs := ⟨0xf000, 0x9a, 0xffff, 0xffff0000⟩
        ss := flat
        ds := flat } }
    svm := { v.svm.setCurrentVmcb { v.svm.currentVmcb with asidGeneration := 0 } with asid := 0 } }
  { v with clean := hdr.vmcbMarkAllDirty v.clean }

/-! ## VMRUN -/

/-- `pre_svm_run`, in front of a VMRUN on the data of the physical CPU. -/
def preRun (sd : SvmCpuData) (v : CleanVcpu) : CleanVcpu :=
  let v :=
    if v.svm.currentVmcb.cpu ≠ v.svm.cpu then { v with clean := hdr.vmcbMarkAllDirty v.clean }
    else v
  -- `new_asid`
  let b := v.svm.currentVmcb
  let generation := if b.cpu ≠ v.svm.cpu then 0 else b.asidGeneration
  let wraps := generation ≠ sd.asidGeneration ∧ sd.nextAsid > sd.maxAsid
  let v := if wraps then markDirty hdr .asid v else v
  { v with svm := (preSvmRun v.svm sd).1 }

/-- The ASID in the control area. -/
def writeAsid (v : CleanVcpu) : CleanVcpu :=
  if v.svm.asid ≠ v.vmcb.asid then markDirty hdr .asid { v with vmcb.asid := v.svm.asid } else v

/-- The DR6 to run with: `DR6_ACTIVE_LOW` unless it is needed. -/
def runDr6 (v : CleanVcpu) : CleanVcpu :=
  if v.wontExit then svmSetDr6 hdr v.dr6 v else svmSetDr6 hdr 0xffff0ff0 v

/-- The part of `svm_vcpu_run` in front of the VMRUN. -/
def prepareRun (sd : SvmCpuData) (cr8 : BitVec 32) (v : CleanVcpu) : CleanVcpu :=
  let v := preRun hdr sd v
  let v := syncLapicToCr8 cr8 v
  let v := writeAsid hdr v
  runDr6 hdr { v with vmcb.cr2 := v.cr2 }

/-- What a VMRUN starts from: the VMCB in memory, and what the processor has loaded. -/
structure VmrunLoad where
  mem : VmcbParts
  loaded : VmcbParts
  deriving DecidableEq

/-- The VMRUN and the rest of `svm_vcpu_run`.  The processor takes any parts that are clean from
what it has kept, the guest changes the state that it has, and #VMEXIT stores it. -/
def vmrun (use : CleanBit → Bool) (guest : VmcbParts → VmcbParts) (v : CleanVcpu) :
    VmrunLoad × CleanVcpu :=
  let c := v.svm.cpu
  let loaded := VmcbParts.load (fun b => v.clean b && use b) (v.kept c) v.vmcb
  let left := guest loaded
  (⟨v.vmcb, loaded⟩,
    { v with
      vmcb := v.vmcb.exit left
      kept := Function.update v.kept c (loaded.exit left)
      cr2 := left.cr2
      clean := hdr.vmcbMarkAllClean v.clean
      svm := v.svm.setCurrentVmcb { v.svm.currentVmcb with flushAllAsid := false } })

/-- The start of `svm_handle_exit`, with the bit of `INTERCEPT_CR0_WRITE`. -/
def svmHandleExit (v : CleanVcpu) : CleanVcpu :=
  let v :=
    if v.vmcb.interception.intercepts.getLsbD 16 then v else { v with cr0 := v.vmcb.cr.cr0 }
  if p.nptEnabled then { v with cr3 := v.vmcb.cr.cr3 } else v

end Operations

end CleanVcpu

/-! ## The machine -/

/-- A call that reaches the VMCB, a change of what KVM keeps of the guest, or an entry. -/
inductive CleanEvent where
  /-- `svm_vcpu_load`. -/
  | load (cpu : Nat)
  /-- `svm_vcpu_reset`. -/
  | reset (i : CleanVcpu.InitValues)
  | setEfer (efer : BitVec 64)
  | setCr0 (cr0 : BitVec 64) (words : BitVec 192)
  | setCr2 (cr2 : BitVec 64)
  | setCr3 (cr3 : BitVec 64)
  | setCr4 (cr4 : BitVec 64)
  | loadMmuPgd (root : BitVec 64)
  | setIdt (dt : DescPtr)
  | setGdt (dt : DescPtr)
  | setSegment (var : KvmSegment) (seg : Sreg)
  /-- `kvm_set_dr` of DR6, and `switch_db_regs`. -/
  | setDr6 (dr6 : BitVec 64) (wontExit : Bool)
  | setDr7 (dr7 : BitVec 64)
  | setIntercepts (words : BitVec 192)
  | setVintr (words : BitVec 192)
  | clearVintr (words : BitVec 192)
  | updatePleWindow (count : BitVec 16)
  | writeTscOffset (offset : BitVec 64)
  | setPat (data : BitVec 64)
  | setVnmiPending
  | setNmiMask (masked : Bool) (words : BitVec 192)
  | setDebugctl (data : BitVec 64)
  | flushTlbAsid
  | run (sd : SvmCpuData) (cr8 : BitVec 32) (use : CleanBit → Bool)
      (guest : VmcbParts → VmcbParts)
  | handleExit

section Machine

variable (hdr : SvmHeader) (p : SvmPlatform)

/-- What an event does outside the guest. -/
def CleanEvent.apply (v : CleanVcpu) : CleanEvent → CleanVcpu
  | .load cpu => { v with svm.cpu := cpu }
  | .reset i => v.initVmcb hdr p i
  | .setEfer efer => v.svmSetEfer hdr p efer
  | .setCr0 cr0 words => v.svmSetCr0 hdr p cr0 words
  | .setCr2 cr2 => { v with cr2 := cr2 }
  | .setCr3 cr3 => { v with cr3 := cr3 }
  | .setCr4 cr4 => v.svmSetCr4 hdr p cr4
  | .loadMmuPgd root => v.svmLoadMmuPgd hdr p root
  | .setIdt dt => v.svmSetIdt hdr dt
  | .setGdt dt => v.svmSetGdt hdr dt
  | .setSegment var seg => v.svmSetSegment hdr var seg
  | .setDr6 dr6 wontExit => { v with dr6 := dr6, wontExit := wontExit }
  | .setDr7 dr7 => v.svmSetDr7 hdr dr7
  | .setIntercepts words => v.setIntercepts hdr words
  | .setVintr words => v.svmSetVintr hdr words
  | .clearVintr words => v.svmClearVintr hdr words
  | .updatePleWindow count => v.updatePleWindow hdr count
  | .writeTscOffset offset => v.svmWriteTscOffset hdr offset
  | .setPat data => v.svmSetPat hdr data
  | .setVnmiPending => v.svmSetVnmiPending hdr p
  | .setNmiMask masked words => v.svmSetNmiMask hdr p masked words
  | .setDebugctl data => v.svmSetDebugctl p data
  | .flushTlbAsid => v.svmFlushTlbAsid p
  | .run sd cr8 _ _ => v.prepareRun hdr sd cr8
  | .handleExit => v.svmHandleExit p

/-- One event; an entry says what it has loaded. -/
def cleanStep (v : CleanVcpu) (e : CleanEvent) : Option CleanVcpu.VmrunLoad × CleanVcpu :=
  match e with
  | .run _ _ use guest =>
    let r := (e.apply hdr p v).vmrun hdr use guest
    (some r.1, r.2)
  | _ => (none, e.apply hdr p v)

/-- `svm_vcpu_create`: a page of zeroes, and processors that may have kept anything of the VMCB that
was there before. -/
def cleanStart (kept : Nat → VmcbParts) : CleanVcpu := { kept := kept }

end Machine

/-! ## What is marked -/

namespace VmcbParts

@[simp] theorem SameAt.refl (x : VmcbParts) (b : CleanBit) : x.SameAt x b := by cases b <;> rfl

theorem SameAt.trans {x y z : VmcbParts} {b : CleanBit} (h : x.SameAt y b) (h' : y.SameAt z b) :
    x.SameAt z b := by
  cases b <;> exact Eq.trans h h'

theorem SameAt.symm {x y : VmcbParts} {b : CleanBit} (h : x.SameAt y b) : y.SameAt x b := by
  cases b <;> exact Eq.symm h

/-- `y` is `x` with another part at most. -/
def Touches (b : CleanBit) (x y : VmcbParts) : Prop := ∀ b', b' ≠ b → y.SameAt x b'

theorem touches_interception (x : VmcbParts) (i : InterceptPart) :
    x.Touches .intercepts { x with interception := i } := by
  intro b hb
  cases b <;> first | rfl | exact absurd rfl hb

theorem touches_asid (x : VmcbParts) (asid : Nat) : x.Touches .asid { x with asid := asid } := by
  intro b hb
  cases b <;> first | rfl | exact absurd rfl hb

theorem touches_intr (x : VmcbParts) (i : IntrPart) : x.Touches .intr { x with intr := i } := by
  intro b hb
  cases b <;> first | rfl | exact absurd rfl hb

theorem touches_npt (x : VmcbParts) (n : NptPart) : x.Touches .npt { x with npt := n } := by
  intro b hb
  cases b <;> first | rfl | exact absurd rfl hb

theorem touches_cr (x : VmcbParts) (c : CrPart) : x.Touches .cr { x with cr := c } := by
  intro b hb
  cases b <;> first | rfl | exact absurd rfl hb

theorem touches_dr (x : VmcbParts) (d : DrPart) : x.Touches .dr { x with dr := d } := by
  intro b hb
  cases b <;> first | rfl | exact absurd rfl hb

theorem touches_dt (x : VmcbParts) (d : DtPart) : x.Touches .dt { x with dt := d } := by
  intro b hb
  cases b <;> first | rfl | exact absurd rfl hb

theorem touches_seg (x : VmcbParts) (g : SegPart) : x.Touches .seg { x with seg := g } := by
  intro b hb
  cases b <;> first | rfl | exact absurd rfl hb

theorem touches_cr2 (x : VmcbParts) (cr2 : BitVec 64) : x.Touches .cr2 { x with cr2 := cr2 } := by
  intro b hb
  cases b <;> first | rfl | exact absurd rfl hb

theorem touches_lbr (x : VmcbParts) (l : LbrPart) : x.Touches .lbr { x with lbr := l } := by
  intro b hb
  cases b <;> first | rfl | exact absurd rfl hb

/-- Where what is taken is the same, it does not matter what is taken: only the debug control may
be another one. -/
theorem load_eq (use : CleanBit → Bool) (kept mem : VmcbParts)
    (h : ∀ b, b ≠ .lbr → use b = true → kept.SameAt mem b) :
    load use kept mem = { mem with lbr := (load use kept mem).lbr } := by
  have hpart : ∀ {α : Type} {b : CleanBit} {x y : α}, (use b = true → x = y) →
      (if use b then x else y) = y := by
    intro α b x y hxy
    split
    · exact hxy ‹_›
    · rfl
  simp only [load, mk.injEq, and_true]
  exact ⟨hpart (h .intercepts (by simp)), hpart (h .permMap (by simp)), hpart (h .asid (by simp)),
    hpart (h .intr (by simp)), hpart (h .npt (by simp)), hpart (h .cr (by simp)),
    hpart (h .dr (by simp)), hpart (h .dt (by simp)), hpart (h .seg (by simp)),
    hpart (h .cr2 (by simp))⟩

end VmcbParts

/-- The operation cleans no part, and marks every part that it changes.  The interrupts and CR2 are
always dirty; the debug control is not marked, and `pending` not yet. -/
structure Marks (pending : Option CleanBit) (v v' : CleanVcpu) : Prop where
  kept : v'.kept = v.kept
  cpu : v'.svm.currentVmcb.cpu = v.svm.currentVmcb.cpu
  clean : ∀ b, v'.clean b = true → v.clean b = true
  same : ∀ b, b ≠ .intr → b ≠ .cr2 → b ≠ .lbr → some b ≠ pending → v'.clean b = true →
    v'.vmcb.SameAt v.vmcb b

namespace Marks

variable {pending : Option CleanBit} {v v' w : CleanVcpu}

theorem refl (v : CleanVcpu) : Marks pending v v :=
  ⟨rfl, rfl, fun _ h => h, fun _ _ _ _ _ _ => .refl _ _⟩

theorem trans (h : Marks pending v v') (h' : Marks pending v' w) : Marks pending v w where
  kept := h'.kept.trans h.kept
  cpu := h'.cpu.trans h.cpu
  clean b hb := h.clean b (h'.clean b hb)
  same b h1 h2 h3 h4 hb :=
    (h'.same b h1 h2 h3 h4 hb).trans (h.same b h1 h2 h3 h4 (h'.clean b hb))

theorem weaken (h : Marks none v w) : Marks pending v w :=
  { h with same := fun b h1 h2 h3 _ hb => h.same b h1 h2 h3 (by simp) hb }

/-- A change in front of its mark. -/
theorem change {b : CleanBit} (hkept : w.kept = v.kept)
    (hcpu : w.svm.currentVmcb.cpu = v.svm.currentVmcb.cpu) (hclean : w.clean = v.clean)
    (htouch : v.vmcb.Touches b w.vmcb) : Marks (some b) v w where
  kept := hkept
  cpu := hcpu
  clean b' hb := by rw [← hclean]; exact hb
  same b' _ _ _ hne _ := htouch b' fun heq => hne (congrArg some heq)

/-- A change of a part that needs no mark. -/
theorem unmarked {b : CleanBit} (hb : b = .intr ∨ b = .cr2 ∨ b = .lbr) (hw : Marks (some b) v w) :
    Marks none v w :=
  { hw with
    same := fun b' h1 h2 h3 _ hclean =>
      hw.same b' h1 h2 h3
        (fun heq => by
          rw [Option.some.inj heq] at h1 h2 h3
          exact hb.elim h1 fun hb => hb.elim h2 h3)
        hclean }

/-- No part changes. -/
theorem elsewhere (hkept : w.kept = v.kept)
    (hcpu : w.svm.currentVmcb.cpu = v.svm.currentVmcb.cpu) (hclean : w.clean = v.clean)
    (hvmcb : w.vmcb = v.vmcb) : Marks none v w where
  kept := hkept
  cpu := hcpu
  clean b' hb := by rw [← hclean]; exact hb
  same b _ _ _ _ _ := by rw [hvmcb]; exact .refl _ _

section Header

variable {hdr : SvmHeader} (h : hdr.Contract)

include h in
/-- The mark settles what is pending. -/
theorem mark {b : CleanBit} (hw : Marks (some b) v w) : Marks none v (w.markDirty hdr b) where
  kept := hw.kept
  cpu := hw.cpu
  clean b' hb := hw.clean b' (h.dirtyOthers w.clean b b' hb)
  same b' h1 h2 h3 _ hb := by
    refine hw.same b' h1 h2 h3 (fun heq => ?_) (h.dirtyOthers w.clean b b' hb)
    rw [Option.some.inj heq] at hb
    exact absurd hb (by simp [CleanVcpu.markDirty, h.dirty])

include h in
/-- A write of one part, and its mark. -/
theorem write {b : CleanBit} (hkept : w.kept = v.kept)
    (hcpu : w.svm.currentVmcb.cpu = v.svm.currentVmcb.cpu) (hclean : w.clean = v.clean)
    (htouch : v.vmcb.Touches b w.vmcb) : Marks none v (w.markDirty hdr b) :=
  mark h (change hkept hcpu hclean htouch)

include h in
theorem markDirty (hw : Marks none v w) (b : CleanBit) : Marks none v (w.markDirty hdr b) :=
  mark h hw.weaken

include h in
theorem setIntercepts (words : BitVec 192) (v : CleanVcpu) :
    Marks none v (v.setIntercepts hdr words) where
  kept := rfl
  cpu := rfl
  clean b hb := h.interceptsOthers v.clean b hb
  same b _ _ _ _ hb := by
    cases b with
    | intercepts => exact absurd hb (by simp [CleanVcpu.setIntercepts, h.intercepts])
    | _ => rfl

variable (p : SvmPlatform) (v : CleanVcpu)

theorem svmFlushTlbAsid : Marks none v (v.svmFlushTlbAsid p) := by
  unfold CleanVcpu.svmFlushTlbAsid
  split
  · exact refl v
  · exact elsewhere rfl (by simp) rfl rfl

include h in
theorem svmSetEfer (efer : BitVec 64) : Marks none v (v.svmSetEfer hdr p efer) :=
  write h rfl rfl rfl (VmcbParts.touches_cr _ _)

include h in
theorem svmSetCr4 (cr4 : BitVec 64) : Marks none v (v.svmSetCr4 hdr p cr4) := by
  have hflush : Marks (some .cr) v
      (if p.nptEnabled && (v.cr4 ^^^ cr4).getLsbD 7 then v.svmFlushTlbAsid p else v) := by
    split
    · exact (svmFlushTlbAsid p v).weaken
    · exact refl v
  exact mark h (hflush.trans (change rfl rfl rfl (VmcbParts.touches_cr _ _)))

theorem trackLma (cr0 : BitVec 64) : Marks (some .cr) v (v.trackLma cr0) := by
  have hefer : ∀ (w : CleanVcpu) (efer vmcbEfer : BitVec 64),
      Marks (some .cr) w { w with efer := efer, vmcb.cr.efer := vmcbEfer } := fun w _ _ =>
    change rfl rfl rfl (VmcbParts.touches_cr _ _)
  unfold CleanVcpu.trackLma
  split
  · dsimp only
    split
    · split
      · exact (hefer v _ _).trans (hefer _ _ _)
      · exact hefer v _ _
    · split
      · exact hefer v _ _
      · exact refl v
  · exact refl v

include h in
theorem svmSetCr0 (cr0 : BitVec 64) (words : BitVec 192) :
    Marks none v (v.svmSetCr0 hdr p cr0 words) := by
  unfold CleanVcpu.svmSetCr0
  refine trans (mark h ?_) (setIntercepts h words _)
  have hregs : Marks none (v.trackLma cr0) { v.trackLma cr0 with cr0 := cr0 } :=
    elsewhere rfl rfl rfl rfl
  have hcr0 : Marks (some .cr) v { v.trackLma cr0 with cr0 := cr0 } :=
    (trackLma v cr0).trans hregs.weaken
  have hcr4 : ∀ w, Marks (some .cr) v w →
      Marks (some .cr) v (if !p.nptEnabled && v.isPaging != w.isPaging then
        w.svmSetCr4 hdr p w.cr4 else w) := by
    intro w hw
    split
    · exact hw.trans (svmSetCr4 h p _ _).weaken
    · exact hw
  exact (hcr4 _ hcr0).trans (change rfl rfl rfl (VmcbParts.touches_cr _ _))

include h in
theorem svmLoadMmuPgd (root : BitVec 64) : Marks none v (v.svmLoadMmuPgd hdr p root) := by
  unfold CleanVcpu.svmLoadMmuPgd
  split
  · have hnpt : Marks none v ({ v with vmcb.npt.nestedCr3 := root }.markDirty hdr .npt) :=
      write h rfl rfl rfl (VmcbParts.touches_npt _ _)
    exact hnpt.trans (write h rfl rfl rfl (VmcbParts.touches_cr _ _))
  · exact write h rfl rfl rfl (VmcbParts.touches_cr _ _)

include h in
theorem svmSetSegment (var : KvmSegment) (seg : Sreg) :
    Marks none v (CleanVcpu.svmSetSegment hdr var seg v) := by
  refine mark h ?_
  cases seg with
  | fs | gs | tr | ldtr => exact refl v
  | es | cs | ss | ds => exact change rfl rfl rfl (VmcbParts.touches_seg _ _)

include h in
theorem svmSetDr6 (value : BitVec 64) : Marks none v (v.svmSetDr6 hdr value) := by
  unfold CleanVcpu.svmSetDr6
  split
  · exact write h rfl rfl rfl (VmcbParts.touches_dr _ _)
  · exact refl v

include h in
theorem svmSetVintr (words : BitVec 192) : Marks none v (v.svmSetVintr hdr words) :=
  (setIntercepts h words v).trans (write h rfl rfl rfl (VmcbParts.touches_intr _ _))

include h in
theorem svmClearVintr (words : BitVec 192) : Marks none v (v.svmClearVintr hdr words) :=
  (setIntercepts h words v).trans (write h rfl rfl rfl (VmcbParts.touches_intr _ _))

include h in
/-- A window that has not changed needs no mark. -/
theorem updatePleWindow (count : BitVec 16) : Marks none v (v.updatePleWindow hdr count) := by
  unfold CleanVcpu.updatePleWindow
  dsimp only
  split
  · exact write h rfl rfl rfl (VmcbParts.touches_interception _ _)
  · rename_i hsame
    rw [not_not] at hsame
    rw [hsame]
    exact refl v

include h in
theorem svmSetVnmiPending : Marks none v (v.svmSetVnmiPending hdr p) := by
  unfold CleanVcpu.svmSetVnmiPending
  split
  · exact refl v
  · exact write h rfl rfl rfl (VmcbParts.touches_intr _ _)

include h in
theorem svmSetNmiMask (masked : Bool) (words : BitVec 192) :
    Marks none v (v.svmSetNmiMask hdr p masked words) := by
  unfold CleanVcpu.svmSetNmiMask
  split
  · exact unmarked (.inl rfl) (change rfl rfl rfl (VmcbParts.touches_intr _ _))
  · exact setIntercepts h words v

theorem svmSetDebugctl (data : BitVec 64) : Marks none v (v.svmSetDebugctl p data) := by
  unfold CleanVcpu.svmSetDebugctl
  split
  · exact refl v
  · exact unmarked (.inr (.inr rfl)) (change rfl rfl rfl (VmcbParts.touches_lbr _ _))

theorem svmHandleExit : Marks none v (v.svmHandleExit p) := by
  unfold CleanVcpu.svmHandleExit
  dsimp only
  split <;> split <;> exact elsewhere rfl rfl rfl rfl

end Header

end Marks

/-! ## The invariant -/

/-- A part that is clean is the one that the processor has kept, the debug control apart; the
interrupts and CR2 are never clean. -/
structure CleanInv (v : CleanVcpu) : Prop where
  same : ∀ b, b ≠ .lbr → v.clean b = true →
    (v.kept v.svm.currentVmcb.cpu).SameAt v.vmcb b
  intr : v.clean .intr = false
  cr2 : v.clean .cr2 = false

theorem Marks.inv {v w : CleanVcpu} (hm : Marks none v w) (hv : CleanInv v) : CleanInv w := by
  have hdirty : ∀ b, v.clean b = false → w.clean b = false := by
    intro b hb
    by_contra hw
    rw [hm.clean b (by simpa using hw)] at hb
    cases hb
  refine ⟨fun b hlbr hb => ?_, hdirty _ hv.intr, hdirty _ hv.cr2⟩
  have hv' := hv.same b hlbr (hm.clean b hb)
  have hne : ∀ b', v.clean b' = false → b ≠ b' := by
    rintro b' hb' rfl
    rw [hdirty b hb'] at hb
    cases hb
  have hsame := hm.same b (hne _ hv.intr) (hne _ hv.cr2) hlbr (by simp) hb
  rw [hm.kept, hm.cpu]
  exact hv'.trans hsame.symm

/-- Nothing is clean. -/
theorem CleanInv.allDirty {v : CleanVcpu} (h : ∀ b, v.clean b = false) : CleanInv v where
  same b _ hb := by
    rw [h b] at hb
    cases hb
  intr := h .intr
  cr2 := h .cr2

section Steps

variable {hdr : SvmHeader} (h : hdr.Contract) (p : SvmPlatform) {v : CleanVcpu}

/-- Behind `pre_svm_run` the VMCB belongs to the physical CPU. -/
theorem preSvmRun_cpu (svm : VcpuSvm) (sd : SvmCpuData) :
    (preSvmRun svm sd).1.currentVmcb.cpu = svm.cpu ∧ (preSvmRun svm sd).1.cpu = svm.cpu := by
  have hnew : ∀ w : VcpuSvm, (newAsid w sd).1.currentVmcb.cpu = w.currentVmcb.cpu ∧
      (newAsid w sd).1.cpu = w.cpu :=
    fun w => ⟨(newAsid_spec w sd).cpu, by simp [newAsid]⟩
  unfold preSvmRun
  by_cases hcpu : svm.currentVmcb.cpu = svm.cpu
  · simp only [hcpu, ne_eq, not_true, if_false]
    split
    · exact ⟨(hnew svm).1.trans hcpu, (hnew svm).2⟩
    · exact ⟨hcpu, rfl⟩
  · simp only [hcpu, ne_eq, not_false_eq_true, if_true]
    split
    · obtain ⟨h1, h2⟩ := hnew (svm.setCurrentVmcb
        { svm.currentVmcb with asidGeneration := 0, cpu := svm.cpu })
      exact ⟨h1.trans (by simp), h2.trans (by simp)⟩
    · simp

theorem preRun_svm (hdr : SvmHeader) (v : CleanVcpu) (sd : SvmCpuData) :
    (v.preRun hdr sd).svm = (preSvmRun v.svm sd).1 := by
  unfold CleanVcpu.preRun
  dsimp only
  split <;> split <;> rfl

include h in
/-- **A VMCB that comes from another processor is dirty.** -/
theorem preRun_inv (hv : CleanInv v) (sd : SvmCpuData) :
    CleanInv (v.preRun hdr sd) ∧ (v.preRun hdr sd).svm.currentVmcb.cpu = v.svm.cpu ∧
      (v.preRun hdr sd).svm.cpu = v.svm.cpu := by
  refine ⟨?_, by rw [preRun_svm]; exact preSvmRun_cpu v.svm sd⟩
  have hmark : ∀ w : CleanVcpu, (∀ b, w.clean b = false) → ∀ b, (w.markDirty hdr .asid).clean b =
      false := by
    intro w hw b
    by_contra hb
    have := h.dirtyOthers w.clean .asid b (by simpa [CleanVcpu.markDirty] using hb)
    rw [hw b] at this
    cases this
  by_cases hcpu : v.svm.currentVmcb.cpu = v.svm.cpu
  · have hw : ∀ w : CleanVcpu, Marks none v w → w.svm.currentVmcb.cpu = v.svm.cpu →
        Marks none v { w with svm := (preSvmRun v.svm sd).1 } := fun w hw hwcpu =>
      hw.trans (.elsewhere rfl ((preSvmRun_cpu v.svm sd).1.trans hwcpu.symm) rfl rfl)
    refine Marks.inv ?_ hv
    unfold CleanVcpu.preRun
    simp only [hcpu, ne_eq, not_true, if_false]
    split
    · exact hw _ ((Marks.refl v).markDirty h .asid) hcpu
    · exact hw v (.refl v) hcpu
  · refine .allDirty ?_
    unfold CleanVcpu.preRun
    simp only [hcpu, ne_eq, not_false_eq_true, if_true]
    split
    · exact hmark _ (h.allDirty v.clean)
    · exact h.allDirty v.clean

theorem prepareRun_svm (hdr : SvmHeader) (v : CleanVcpu) (sd : SvmCpuData) (cr8 : BitVec 32) :
    (v.prepareRun hdr sd cr8).svm = (preSvmRun v.svm sd).1 := by
  rw [← preRun_svm hdr]
  have hdr6 : ∀ w : CleanVcpu, (w.runDr6 hdr).svm = w.svm := by
    intro w
    unfold CleanVcpu.runDr6 CleanVcpu.svmSetDr6
    split <;> split <;> rfl
  have hasid : ∀ w : CleanVcpu, (w.writeAsid hdr).svm = w.svm := by
    intro w
    unfold CleanVcpu.writeAsid
    split <;> rfl
  have hcr8 : ∀ w : CleanVcpu, (w.syncLapicToCr8 cr8).svm = w.svm := fun w => rfl
  unfold CleanVcpu.prepareRun
  dsimp only
  rw [hdr6, hasid, hcr8]

include h in
theorem prepareRun_inv (hv : CleanInv v) (sd : SvmCpuData) (cr8 : BitVec 32) :
    CleanInv (v.prepareRun hdr sd cr8) ∧
      (v.prepareRun hdr sd cr8).svm.currentVmcb.cpu = (v.prepareRun hdr sd cr8).svm.cpu := by
  have hcpu := preSvmRun_cpu v.svm sd
  refine ⟨?_, by rw [prepareRun_svm, hcpu.1, hcpu.2]⟩
  obtain ⟨hpre, -⟩ := preRun_inv h hv sd
  have hcr8 : ∀ w : CleanVcpu, Marks none w (w.syncLapicToCr8 cr8) := fun w =>
    .unmarked (.inl rfl) (.change rfl rfl rfl (VmcbParts.touches_intr _ _))
  have hasid : ∀ w : CleanVcpu, Marks none w (w.writeAsid hdr) := by
    intro w
    unfold CleanVcpu.writeAsid
    split
    · exact .write h rfl rfl rfl (VmcbParts.touches_asid _ _)
    · exact .refl w
  have hcr2 : ∀ w : CleanVcpu, Marks none w { w with vmcb.cr2 := w.cr2 } := fun w =>
    .unmarked (.inr (.inl rfl)) (.change rfl rfl rfl (VmcbParts.touches_cr2 _ _))
  have hdr6 : ∀ w : CleanVcpu, Marks none w (w.runDr6 hdr) := by
    intro w
    unfold CleanVcpu.runDr6
    split
    · exact .svmSetDr6 h w _
    · exact .svmSetDr6 h w _
  have hfirst := (hcr8 (v.preRun hdr sd)).trans (hasid ((v.preRun hdr sd).syncLapicToCr8 cr8))
  have hlast := hfirst.trans (hcr2 (((v.preRun hdr sd).syncLapicToCr8 cr8).writeAsid hdr))
  exact Marks.inv (hlast.trans (hdr6 _)) hpre

include h in
/-- **A VMRUN loads the VMCB**, and leaves what the processor has kept in agreement with it. -/
theorem vmrun_inv (hv : CleanInv v) (hcpu : v.svm.currentVmcb.cpu = v.svm.cpu)
    (use : CleanBit → Bool) (guest : VmcbParts → VmcbParts) :
    CleanInv (v.vmrun hdr use guest).2 ∧
      (v.vmrun hdr use guest).1.loaded =
        { (v.vmrun hdr use guest).1.mem with lbr := (v.vmrun hdr use guest).1.loaded.lbr } := by
  have hload := VmcbParts.load_eq (fun b => v.clean b && use b) (v.kept v.svm.cpu) v.vmcb
    (fun b hlbr hb => by
      rw [← hcpu]
      exact hv.same b hlbr (Bool.and_eq_true_iff.mp hb).1)
  refine ⟨⟨fun b hlbr _ => ?_, ?_, ?_⟩, hload⟩
  · have hcur : (v.vmrun hdr use guest).2.svm.currentVmcb.cpu = v.svm.cpu := by
      rw [← hcpu]
      simp [CleanVcpu.vmrun]
    rw [hcur]
    simp only [CleanVcpu.vmrun, Function.update_self]
    rw [hload]
    cases b <;> rfl
  · by_contra hb
    exact (h.alwaysDirty v.clean .intr (by simpa [CleanVcpu.vmrun] using hb)).1 rfl
  · by_contra hb
    exact (h.alwaysDirty v.clean .cr2 (by simpa [CleanVcpu.vmrun] using hb)).2 rfl

include h in
/-- What an event does outside the guest keeps the invariant. -/
theorem apply_inv (hv : CleanInv v) (e : CleanEvent) : CleanInv (e.apply hdr p v) := by
  cases e with
  | load cpu =>
    have hsvm : ({ v.svm with cpu := cpu } : VcpuSvm).currentVmcb = v.svm.currentVmcb := rfl
    exact Marks.inv (v := v) (.elsewhere rfl (congrArg VmcbInfo.cpu hsvm) rfl rfl) hv
  | reset i => exact .allDirty (h.allDirty v.clean)
  | setEfer efer => exact Marks.inv (.svmSetEfer h p v efer) hv
  | setCr0 cr0 words => exact Marks.inv (.svmSetCr0 h p v cr0 words) hv
  | setCr2 cr2 => exact Marks.inv (v := v) (.elsewhere rfl rfl rfl rfl) hv
  | setCr3 cr3 => exact Marks.inv (v := v) (.elsewhere rfl rfl rfl rfl) hv
  | setCr4 cr4 => exact Marks.inv (.svmSetCr4 h p v cr4) hv
  | loadMmuPgd root => exact Marks.inv (.svmLoadMmuPgd h p v root) hv
  | setIdt dt => exact Marks.inv (v := v) (.write h rfl rfl rfl (VmcbParts.touches_dt _ _)) hv
  | setGdt dt => exact Marks.inv (v := v) (.write h rfl rfl rfl (VmcbParts.touches_dt _ _)) hv
  | setSegment var seg => exact Marks.inv (.svmSetSegment h v var seg) hv
  | setDr6 dr6 wontExit => exact Marks.inv (v := v) (.elsewhere rfl rfl rfl rfl) hv
  | setDr7 dr7 => exact Marks.inv (v := v) (.write h rfl rfl rfl (VmcbParts.touches_dr _ _)) hv
  | setIntercepts words => exact Marks.inv (.setIntercepts h words v) hv
  | setVintr words => exact Marks.inv (.svmSetVintr h v words) hv
  | clearVintr words => exact Marks.inv (.svmClearVintr h v words) hv
  | updatePleWindow count => exact Marks.inv (.updatePleWindow h v count) hv
  | writeTscOffset offset =>
    exact Marks.inv (v := v) (.write h rfl rfl rfl (VmcbParts.touches_interception _ _)) hv
  | setPat data => exact Marks.inv (v := v) (.write h rfl rfl rfl (VmcbParts.touches_npt _ _)) hv
  | setVnmiPending => exact Marks.inv (.svmSetVnmiPending h p v) hv
  | setNmiMask masked words => exact Marks.inv (.svmSetNmiMask h p v masked words) hv
  | setDebugctl data => exact Marks.inv (.svmSetDebugctl p v data) hv
  | flushTlbAsid => exact Marks.inv (.svmFlushTlbAsid p v) hv
  | run sd cr8 use guest => exact (prepareRun_inv h hv sd cr8).1
  | handleExit => exact Marks.inv (.svmHandleExit p v) hv

theorem cleanStep_run (hdr : SvmHeader) (sd : SvmCpuData) (cr8 : BitVec 32)
    (use : CleanBit → Bool) (guest : VmcbParts → VmcbParts) :
    cleanStep hdr p v (.run sd cr8 use guest) =
      (some ((v.prepareRun hdr sd cr8).vmrun hdr use guest).1,
        ((v.prepareRun hdr sd cr8).vmrun hdr use guest).2) := rfl

include h in
theorem cleanStep_inv (hv : CleanInv v) (e : CleanEvent) : CleanInv (cleanStep hdr p v e).2 := by
  have happly := apply_inv h p hv e
  cases e with
  | run sd cr8 use guest =>
    obtain ⟨hpre, hcpu⟩ := prepareRun_inv h hv sd cr8
    rw [cleanStep_run]
    exact (vmrun_inv h hpre hcpu use guest).1
  | _ => exact happly

include h in
theorem cleanStep_loads (hv : CleanInv v) (e : CleanEvent) :
    ∀ r, (cleanStep hdr p v e).1 = some r → r.loaded = { r.mem with lbr := r.loaded.lbr } := by
  cases e with
  | run sd cr8 use guest =>
    obtain ⟨hpre, hcpu⟩ := prepareRun_inv h hv sd cr8
    have hloads := (vmrun_inv h hpre hcpu use guest).2
    intro r hr
    rw [cleanStep_run] at hr
    generalize ((v.prepareRun hdr sd cr8).vmrun hdr use guest).1 = load at hloads hr
    rw [← Option.some.inj hr]
    exact hloads
  | _ => simp [cleanStep]

end Steps

/-! ## The main result -/

/-- **The guest runs with the VMCB**: in every run of KVM's operations, on any processors, whatever
they keep of the VMCB and whichever clean parts they take from there, each VMRUN starts from the
VMCB that is in memory; only the debug control may be another one. -/
theorem vmrun_loads_vmcb {hdr : SvmHeader} (h : hdr.Contract) (p : SvmPlatform)
    (kept : Nat → VmcbParts) (es : List CleanEvent) :
    ∀ o ∈ Runs.outputs (cleanStep hdr p) (fun _ => true) (cleanStart kept) es, ∀ r, o = some r →
      r.loaded = { r.mem with lbr := r.loaded.lbr } :=
  Runs.outputs_forall (I := CleanInv) (P := fun _ _ => True)
    (fun _ e _ hv => cleanStep_inv h p hv e) (fun _ e _ hv => cleanStep_loads h p hv e)
    es (Runs.each_of_forall (fun _ _ => trivial) es _) (.allDirty fun _ => rfl)

/-- The clean bits as Linux keeps them. -/
def linuxHeader : SvmHeader where
  vmcbMarkDirty c b b' := b' ≠ b && c b'
  vmcbMarkAllDirty _ _ := false
  vmcbMarkAllClean _ b := b ≠ .intr && b ≠ .cr2
  recalcIntercepts c b := b ≠ .intercepts && c b

theorem linuxHeader_contract : linuxHeader.Contract where
  dirty _ _ := by simp [linuxHeader]
  dirtyOthers _ _ _ := by simp [linuxHeader]
  allDirty _ _ := rfl
  alwaysDirty _ _ := by simp [linuxHeader]
  intercepts _ := rfl
  interceptsOthers _ _ := by simp [linuxHeader]

/-- An entry on a processor that takes all that is clean from what it has kept. -/
def keenRun : CleanEvent := .run (svmHardwareEnable 16 0) 0 (fun _ => true) id

/-- A virtual CPU that moves to another processor, changes there, and moves back. -/
def movedVcpu : List CleanEvent :=
  [.load 0, .setCr4 0x20, keenRun, .load 1, .setPat 6, keenRun, .load 0, keenRun]

theorem vmrun_loads_vmcb_moved :
    ∃ r : CleanVcpu.VmrunLoad,
      some r ∈ Runs.outputs (cleanStep linuxHeader {}) (fun _ => true) (cleanStart fun _ => {})
        movedVcpu ∧
      r.mem.npt.gPat = 6 ∧ r.loaded = { r.mem with lbr := r.loaded.lbr } := by
  have hlast : ∃ r, (Runs.outputs (cleanStep linuxHeader {}) (fun _ => true)
      (cleanStart fun _ => {}) movedVcpu)[7]? = some (some r) ∧ r.mem.npt.gPat = 6 :=
    ⟨_, rfl, by decide⟩
  obtain ⟨r, hr, hpat⟩ := hlast
  have hmem := List.mem_of_getElem? hr
  exact ⟨r, hmem, hpat,
    vmrun_loads_vmcb linuxHeader_contract {} (fun _ => {}) movedVcpu _ hmem r rfl⟩

/-- **Limitation**: a write of MSR_IA32_DEBUGCTLMSR does not clear the clean bit of the debug
control, and the guest runs with the value that it had before. -/
theorem dbgctl_not_loaded :
    (Runs.outputs (cleanStep linuxHeader {}) (fun _ => true) (cleanStart fun _ => {})
        [.load 0, .setDebugctl 1, keenRun, .setDebugctl 3, keenRun]).filterMap
      (fun o => o.map fun r => (r.mem.lbr.dbgctl, r.loaded.lbr.dbgctl)) = [(1, 1), (3, 1)] := by
  decide

end Kvm
