import Mathlib.Data.BitVec
import PveAntiDetection.Lib.Runs

/-!
# The registers of the host around the guest

An exit leaves selectors, bases and MSR_KERNEL_GS_BASE that are not those of the thread that runs
the virtual CPU.  `vmx_prepare_switch_to_guest` saves what the exit will not restore,
`vmx_prepare_switch_to_host` restores it before the thread is preempted or returns to userspace,
and in between the guest's MSR_KERNEL_GS_BASE stays on the processor.

* `HostRegs`, `HostSwitch` — the processor, the VMCS, and what is saved;
* `vmxPrepareSwitchToGuest`, `vmxPrepareSwitchToHost` — the two directions;
* `hostSwitchStep` — threads, CPUs, entries and exits;
* `HostInv` — where the registers of the host and of the guest are;
* `host_registers_restored` — the host finds its registers, and the guest its MSR.
-/

set_option autoImplicit false

namespace Kvm

/-! ## The registers -/

@[ext] structure HostRegs where
  ds : BitVec 16 := 0
  es : BitVec 16 := 0
  fsSel : BitVec 16 := 0
  gsSel : BitVec 16 := 0
  ldt : BitVec 16 := 0
  fsBase : BitVec 64 := 0
  gsBase : BitVec 64 := 0
  /-- `MSR_KERNEL_GS_BASE`. -/
  kernelGsBase : BitVec 64 := 0
  cr3 : BitVec 64 := 0
  cr4 : BitVec 64 := 0
  deriving DecidableEq

/-- The host fields of a VMCS. -/
structure VmcsHostFields where
  fsSel : BitVec 16 := 0
  gsSel : BitVec 16 := 0
  fsBase : BitVec 64 := 0
  gsBase : BitVec 64 := 0
  cr3 : BitVec 64 := 0
  cr4 : BitVec 64 := 0

/-- `struct vmcs_host_state`. -/
structure VmcsHostState extends VmcsHostFields where
  ldtSel : BitVec 16 := 0
  dsSel : BitVec 16 := 0
  esSel : BitVec 16 := 0

/-- What a selector selects in the GDT or in an LDT. -/
abbrev DescriptorBase := BitVec 16 → BitVec 16 → BitVec 64

variable {C : Type}

structure HostSwitch (C : Type) where
  cpu : C
  hw : HostRegs
  vmcs : VmcsHostFields := {}
  hostState : VmcsHostState := {}
  msrHostKernelGsBase : BitVec 64 := 0
  msrGuestKernelGsBase : BitVec 64 := 0
  guestStateLoaded : Bool := false
  inGuest : Bool := false

/-! ## The two directions -/

/-- An exit loads no selector with an RPL or TI. -/
def vmcsSel (sel : BitVec 16) : BitVec 16 := if sel &&& 7 = 0 then sel else 0

def vmxSetHostFsGs (s : HostSwitch C) (fsSel gsSel : BitVec 16) (fsBase gsBase : BitVec 64) :
    HostSwitch C :=
  let s := if fsSel ≠ s.hostState.fsSel then
      { s with vmcs.fsSel := vmcsSel fsSel, hostState.fsSel := fsSel } else s
  let s := if gsSel ≠ s.hostState.gsSel then
      { s with vmcs.gsSel := vmcsSel gsSel, hostState.gsSel := gsSel } else s
  let s := if fsBase ≠ s.hostState.fsBase then
      { s with vmcs.fsBase := fsBase, hostState.fsBase := fsBase } else s
  if gsBase ≠ s.hostState.gsBase then
    { s with vmcs.gsBase := gsBase, hostState.gsBase := gsBase } else s

/-- What `current_save_fsgs` puts into the thread. -/
structure ThreadFsgs where
  fsindex : BitVec 16
  gsindex : BitVec 16
  fsbase : BitVec 64
  gsbase : BitVec 64

def currentSaveFsgs (r : HostRegs) : ThreadFsgs := ⟨r.fsSel, r.gsSel, r.fsBase, r.kernelGsBase⟩

/-- The thread as it is read: from what is saved of a 64-bit one, from the registers of another. -/
def readFsgs (is64bitMm : Bool) (r : HostRegs) : ThreadFsgs :=
  if is64bitMm then currentSaveFsgs r else ⟨r.fsSel, r.gsSel, r.fsBase, r.kernelGsBase⟩

/-- What the entry and the exit do not keep, and MSR_KERNEL_GS_BASE. -/
def saveThread (t : ThreadFsgs) (s : HostSwitch C) : HostSwitch C :=
  { s with
    hostState := { s.hostState with ldtSel := s.hw.ldt, dsSel := s.hw.ds, esSel := s.hw.es }
    msrHostKernelGsBase := t.gsbase
    hw := { s.hw with kernelGsBase := s.msrGuestKernelGsBase } }

def vmxPrepareSwitchToGuest (cpuKernelmodeGsBase : C → BitVec 64) (is64bitMm : Bool)
    (s : HostSwitch C) : HostSwitch C :=
  if s.guestStateLoaded then s
  else
    let t := readFsgs is64bitMm s.hw
    { vmxSetHostFsGs (saveThread t s) t.fsindex t.gsindex t.fsbase (cpuKernelmodeGsBase s.cpu) with
      guestStateLoaded := true }

/-- `load_gs_index`: the base that the selector selects is not the active one. -/
def loadGsIndex (desc : DescriptorBase) (r : HostRegs) (sel : BitVec 16) : HostRegs :=
  { r with gsSel := sel, kernelGsBase := desc r.ldt sel }

/-- `loadsegment(fs, sel)`. -/
def loadFs (desc : DescriptorBase) (r : HostRegs) (sel : BitVec 16) : HostRegs :=
  { r with fsSel := sel, fsBase := desc r.ldt sel }

/-- The LDT and GS, which an exit has made null together. -/
def restoreLdtGs (desc : DescriptorBase) (host : VmcsHostState) (r : HostRegs) : HostRegs :=
  if host.ldtSel ≠ 0 ∨ host.gsSel &&& 7 ≠ 0 then
    loadGsIndex desc { r with ldt := host.ldtSel } host.gsSel
  else r

def restoreFs (desc : DescriptorBase) (host : VmcsHostState) (r : HostRegs) : HostRegs :=
  if host.fsSel &&& 7 ≠ 0 then loadFs desc r host.fsSel else r

def restoreDsEs (host : VmcsHostState) (r : HostRegs) : HostRegs :=
  if host.dsSel ||| host.esSel ≠ 0 then { r with ds := host.dsSel, es := host.esSel } else r

def vmxPrepareSwitchToHost (desc : DescriptorBase) (s : HostSwitch C) : HostSwitch C :=
  if !s.guestStateLoaded then s
  else
    let r := restoreDsEs s.hostState (restoreFs desc s.hostState
      (restoreLdtGs desc s.hostState s.hw))
    { s with
      msrGuestKernelGsBase := s.hw.kernelGsBase
      hw := { r with kernelGsBase := s.msrHostKernelGsBase }
      guestStateLoaded := false }

def vmxReadGuestKernelGsBase (s : HostSwitch C) : BitVec 64 × HostSwitch C :=
  let s := if s.guestStateLoaded then { s with msrGuestKernelGsBase := s.hw.kernelGsBase } else s
  (s.msrGuestKernelGsBase, s)

def vmxWriteGuestKernelGsBase (s : HostSwitch C) (data : BitVec 64) : HostSwitch C :=
  let s := if s.guestStateLoaded then { s with hw.kernelGsBase := data } else s
  { s with msrGuestKernelGsBase := data }

/-- HOST_CR3 and HOST_CR4 in `vmx_vcpu_run`. -/
def refreshHostCrs (s : HostSwitch C) : HostSwitch C :=
  let s := if s.hw.cr3 ≠ s.hostState.cr3 then
      { s with vmcs.cr3 := s.hw.cr3, hostState.cr3 := s.hw.cr3 } else s
  if s.hw.cr4 ≠ s.hostState.cr4 then
    { s with vmcs.cr4 := s.hw.cr4, hostState.cr4 := s.hw.cr4 } else s

/-- What an exit leaves: the fields of the VMCS, null selectors, and the MSR of the guest. -/
def vmExitRegs (vmcs : VmcsHostFields) (r : HostRegs) : HostRegs where
  fsSel := vmcs.fsSel
  gsSel := vmcs.gsSel
  fsBase := vmcs.fsBase
  gsBase := vmcs.gsBase
  kernelGsBase := r.kernelGsBase
  cr3 := vmcs.cr3
  cr4 := vmcs.cr4

/-! ## The runs -/

inductive SwitchEvent (C : Type) where
  /-- The thread runs in userspace, and leaves these registers. -/
  | user (r : HostRegs)
  | migrate (cpu : C)
  | switchMm (cr3 cr4 : BitVec 64)
  | prepare (is64bitMm : Bool)
  | enter
  | guest (r : HostRegs)
  | exit
  | put
  | read
  | write (data : BitVec 64)

/-- What the thread and the guest give their registers, and what is read. -/
inductive SwitchNote where
  | host (r : HostRegs)
  | mm (cr3 cr4 : BitVec 64)
  | guest (data : BitVec 64)
  | read (data : BitVec 64)

/-- One event; where it cannot happen, nothing happens. -/
def hostSwitchStep (desc : DescriptorBase) (cpuGs : C → BitVec 64) (s : HostSwitch C) :
    SwitchEvent C → Option SwitchNote × HostSwitch C
  | .user r =>
    if s.guestStateLoaded then (none, s)
    else
      let r := { r with gsBase := s.hw.gsBase }
      (some (.host r), { s with hw := r })
  | .migrate cpu =>
    if s.guestStateLoaded then (none, s)
    else
      let r := { s.hw with gsBase := cpuGs cpu }
      (some (.host r), { s with cpu := cpu, hw := r })
  | .switchMm cr3 cr4 =>
    if s.inGuest then (none, s)
    else (some (.mm cr3 cr4), { s with hw.cr3 := cr3, hw.cr4 := cr4 })
  | .prepare is64bitMm =>
    (none, if s.inGuest then s else vmxPrepareSwitchToGuest cpuGs is64bitMm s)
  | .enter =>
    (none, if s.inGuest ∨ !s.guestStateLoaded then s
      else { refreshHostCrs s with inGuest := true })
  | .guest r =>
    if s.inGuest then (some (.guest r.kernelGsBase), { s with hw := r }) else (none, s)
  | .exit =>
    (none, if s.inGuest then { s with hw := vmExitRegs s.vmcs s.hw, inGuest := false } else s)
  | .put => (none, if s.inGuest then s else vmxPrepareSwitchToHost desc s)
  | .read =>
    if s.inGuest then (none, s)
    else
      let r := vmxReadGuestKernelGsBase s
      (some (.read r.1), r.2)
  | .write data =>
    if s.inGuest then (none, s)
    else (some (.guest data), vmxWriteGuestKernelGsBase s data)

def hostSwitchNotes (desc : DescriptorBase) (cpuGs : C → BitVec 64) (s : HostSwitch C)
    (es : List (SwitchEvent C)) : List SwitchNote :=
  Runs.history (hostSwitchStep desc cpuGs)
    (fun s e => (hostSwitchStep desc cpuGs s e).1.toList) s es

/-- What the host and the guest have. -/
structure SwitchSpec where
  host : HostRegs
  kernelGsBase : BitVec 64 := 0

def explainSwitch (a : SwitchSpec) : SwitchNote → Option SwitchSpec
  | .host r => some { a with host := r }
  | .mm cr3 cr4 => some { a with host.cr3 := cr3, host.cr4 := cr4 }
  | .guest data => some { a with kernelGsBase := data }
  | .read data => if data = a.kernelGsBase then some a else none

/-! ## Where the registers are -/

/-- The VMCS has what its cache says. -/
structure Coherent (s : HostSwitch C) : Prop where
  fsSel : s.vmcs.fsSel = vmcsSel s.hostState.fsSel
  gsSel : s.vmcs.gsSel = vmcsSel s.hostState.gsSel
  fsBase : s.vmcs.fsBase = s.hostState.fsBase
  gsBase : s.vmcs.gsBase = s.hostState.gsBase
  cr3 : s.vmcs.cr3 = s.hostState.cr3
  cr4 : s.vmcs.cr4 = s.hostState.cr4

/-- What is saved while the state of the guest is loaded. -/
structure HostSaved (s : HostSwitch C) (a : SwitchSpec) : Prop where
  fsSel : s.hostState.fsSel = a.host.fsSel
  gsSel : s.hostState.gsSel = a.host.gsSel
  fsBase : s.hostState.fsBase = a.host.fsBase
  gsBase : s.hostState.gsBase = a.host.gsBase
  ldtSel : s.hostState.ldtSel = a.host.ldt
  dsSel : s.hostState.dsSel = a.host.ds
  esSel : s.hostState.esSel = a.host.es
  hostGs : s.msrHostKernelGsBase = a.host.kernelGsBase
  guestGs : s.hw.kernelGsBase = a.kernelGsBase

/-- What the processor has before an entry, or behind an exit. -/
structure HostLeft (r host : HostRegs) : Prop where
  fsSel : r.fsSel = host.fsSel ∨ r.fsSel = vmcsSel host.fsSel
  gsSel : r.gsSel = host.gsSel ∨ r.gsSel = vmcsSel host.gsSel
  ldt : r.ldt = host.ldt ∨ r.ldt = 0
  ds : r.ds = host.ds ∨ r.ds = 0
  es : r.es = host.es ∨ r.es = 0
  fsBase : r.fsBase = host.fsBase
  gsBase : r.gsBase = host.gsBase
  cr3 : r.cr3 = host.cr3
  cr4 : r.cr4 = host.cr4

/-- A selector with an RPL or TI selects the base of FS. -/
def FsSelected (desc : DescriptorBase) (r : HostRegs) : Prop :=
  r.fsSel &&& 7 ≠ 0 → r.fsBase = desc r.ldt r.fsSel

structure HostInv (desc : DescriptorBase) (cpuGs : C → BitVec 64) (s : HostSwitch C)
    (a : SwitchSpec) : Prop where
  coherent : Coherent s
  perCpu : a.host.gsBase = cpuGs s.cpu
  fs : FsSelected desc a.host
  unloaded : s.guestStateLoaded = false →
    s.inGuest = false ∧ s.hw = a.host ∧ s.msrGuestKernelGsBase = a.kernelGsBase
  saved : s.guestStateLoaded = true → HostSaved s a
  left : s.guestStateLoaded = true → s.inGuest = false → HostLeft s.hw a.host
  crs : s.inGuest = true → s.hostState.cr3 = a.host.cr3 ∧ s.hostState.cr4 = a.host.cr4

variable {desc : DescriptorBase} {cpuGs : C → BitVec 64} {s : HostSwitch C} {a : SwitchSpec}

theorem vmcsSel_of_plain {sel : BitVec 16} (h : sel &&& 7 = 0) : vmcsSel sel = sel := if_pos h

/-- A field is written, or it has the value. -/
theorem vmxSetHostFsGs_eq (hs : Coherent s) (fsSel gsSel : BitVec 16) (fsBase gsBase : BitVec 64) :
    vmxSetHostFsGs s fsSel gsSel fsBase gsBase = { s with
      vmcs := { s.vmcs with
        fsSel := vmcsSel fsSel, gsSel := vmcsSel gsSel, fsBase := fsBase, gsBase := gsBase }
      hostState := { s.hostState with
        fsSel := fsSel, gsSel := gsSel, fsBase := fsBase, gsBase := gsBase } } := by
  obtain ⟨h1, h2, h3, h4, -, -⟩ := hs
  obtain ⟨cpu, hw, ⟨vfs, vgs, vfb, vgb, v3, v4⟩, ⟨⟨cfs, cgs, cfb, cgb, c3, c4⟩, cl, cd, ce⟩, k, g,
    l, i⟩ := s
  dsimp only at h1 h2 h3 h4
  subst h1 h2 h3 h4
  unfold vmxSetHostFsGs
  by_cases e1 : fsSel = cfs <;> by_cases e2 : gsSel = cgs <;> by_cases e3 : fsBase = vfb <;>
    by_cases e4 : gsBase = vgb <;> simp [e1, e2, e3, e4]

theorem refreshHostCrs_eq (hs : Coherent s) :
    refreshHostCrs s = { s with
      vmcs := { s.vmcs with cr3 := s.hw.cr3, cr4 := s.hw.cr4 }
      hostState := { s.hostState with cr3 := s.hw.cr3, cr4 := s.hw.cr4 } } := by
  obtain ⟨-, -, -, -, h3, h4⟩ := hs
  obtain ⟨cpu, hw, ⟨vfs, vgs, vfb, vgb, v3, v4⟩, ⟨⟨cfs, cgs, cfb, cgb, c3, c4⟩, cl, cd, ce⟩, k, g,
    l, i⟩ := s
  dsimp only at h3 h4
  subst h3 h4
  unfold refreshHostCrs
  by_cases e3 : hw.cr3 = v3 <;> by_cases e4 : hw.cr4 = v4 <;> simp [e3, e4]

/-! ## The two directions keep them -/

theorem prepareToGuest_inv (is64bitMm : Bool) (hs : HostInv desc cpuGs s a)
    (hout : s.inGuest = false) :
    HostInv desc cpuGs (vmxPrepareSwitchToGuest cpuGs is64bitMm s) a := by
  unfold vmxPrepareSwitchToGuest
  split
  · exact hs
  · rename_i hl
    obtain ⟨-, hhw, hgs⟩ := hs.unloaded (Bool.eq_false_iff.mpr hl)
    have hread : readFsgs is64bitMm s.hw = currentSaveFsgs s.hw := by cases is64bitMm <;> rfl
    have hc := hs.coherent
    have hthread : Coherent (saveThread (currentSaveFsgs s.hw) s) := { hc with }
    rw [hread]
    dsimp only
    rw [vmxSetHostFsGs_eq hthread]
    exact {
      coherent := ⟨rfl, rfl, rfl, rfl, hc.cr3, hc.cr4⟩
      perCpu := hs.perCpu
      fs := hs.fs
      unloaded := nofun
      saved := fun _ => by
        simp only [currentSaveFsgs, saveThread, hhw]
        exact ⟨rfl, rfl, rfl, hs.perCpu.symm, rfl, rfl, rfl, rfl, hgs⟩
      left := fun _ _ => by
        simp only [saveThread, hhw]
        exact ⟨.inl rfl, .inl rfl, .inl rfl, .inl rfl, .inl rfl, rfl, rfl, rfl, rfl⟩
      crs := fun hin => by cases hout.symm.trans hin }

section Restored

variable {host : VmcsHostState} {r t : HostRegs}

/-- The same selector, where it was given to the VMCS. -/
theorem eq_of_plain {sel left : BitVec 16} (hleft : left = sel ∨ left = vmcsSel sel)
    (h : sel &&& 7 = 0) : left = sel :=
  hleft.elim id fun hv => hv.trans (vmcsSel_of_plain h)

theorem restoreLdtGs_left (desc : DescriptorBase) (hldt : host.ldtSel = t.ldt)
    (hgs : host.gsSel = t.gsSel) (h : HostLeft r t) :
    (restoreLdtGs desc host r).ldt = t.ldt ∧ (restoreLdtGs desc host r).gsSel = t.gsSel ∧
      HostLeft (restoreLdtGs desc host r) t := by
  unfold restoreLdtGs
  split
  · exact ⟨hldt, hgs, { h with gsSel := .inl hgs, ldt := .inl hldt }⟩
  · rename_i hnull
    rw [not_or, not_not, not_not, hldt, hgs] at hnull
    exact ⟨h.ldt.elim id fun hr => hr.trans hnull.1.symm, eq_of_plain h.gsSel hnull.2, h⟩

theorem restoreFs_left (hfs : host.fsSel = t.fsSel) (hselected : FsSelected desc t)
    (hldt : r.ldt = t.ldt) (h : HostLeft r t) :
    (restoreFs desc host r).fsSel = t.fsSel ∧ HostLeft (restoreFs desc host r) t := by
  unfold restoreFs
  split
  · rename_i hsel
    rw [hfs] at hsel
    have hbase : desc r.ldt host.fsSel = t.fsBase := by rw [hldt, hfs, hselected hsel]
    exact ⟨hfs, { h with fsSel := .inl hfs, fsBase := hbase }⟩
  · rename_i hplain
    rw [not_not, hfs] at hplain
    exact ⟨eq_of_plain h.fsSel hplain, h⟩

theorem restoreDsEs_left (hds : host.dsSel = t.ds) (hes : host.esSel = t.es)
    (h : HostLeft r t) :
    (restoreDsEs host r).ds = t.ds ∧ (restoreDsEs host r).es = t.es ∧
      HostLeft (restoreDsEs host r) t := by
  unfold restoreDsEs
  split
  · exact ⟨hds, hes, { h with ds := .inl hds, es := .inl hes }⟩
  · rename_i hnull
    rw [not_not, hds, hes] at hnull
    obtain ⟨hd, he⟩ := BitVec.or_eq_zero_iff.mp hnull
    exact ⟨h.ds.elim id fun hr => hr.trans hd.symm, h.es.elim id fun hr => hr.trans he.symm, h⟩

theorem restoreFs_frame (desc : DescriptorBase) (host : VmcsHostState) (r : HostRegs) :
    (restoreFs desc host r).ldt = r.ldt ∧ (restoreFs desc host r).gsSel = r.gsSel := by
  unfold restoreFs
  split <;> exact ⟨rfl, rfl⟩

theorem restoreDsEs_frame (host : VmcsHostState) (r : HostRegs) :
    (restoreDsEs host r).ldt = r.ldt ∧
    (restoreDsEs host r).gsSel = r.gsSel ∧ (restoreDsEs host r).fsSel = r.fsSel := by
  unfold restoreDsEs
  split <;> exact ⟨rfl, rfl, rfl⟩

end Restored

/-- **What is restored is what was there.** -/
theorem prepareToHost_inv (hs : HostInv desc cpuGs s a) (hout : s.inGuest = false) :
    HostInv desc cpuGs (vmxPrepareSwitchToHost desc s) a := by
  unfold vmxPrepareSwitchToHost
  split
  · exact hs
  · rename_i hl
    have hl : s.guestStateLoaded = true := by simpa using hl
    have hsaved := hs.saved hl
    obtain ⟨hldt, hgs, h1⟩ :=
      restoreLdtGs_left desc hsaved.ldtSel hsaved.gsSel (hs.left hl hout)
    obtain ⟨hfs, h2⟩ := restoreFs_left hsaved.fsSel hs.fs hldt h1
    obtain ⟨hds, hes, h3⟩ := restoreDsEs_left hsaved.dsSel hsaved.esSel h2
    obtain ⟨hldt2, hgs2⟩ :=
      restoreFs_frame desc s.hostState (restoreLdtGs desc s.hostState s.hw)
    obtain ⟨hldt3, hgs3, hfs3⟩ := restoreDsEs_frame s.hostState
      (restoreFs desc s.hostState (restoreLdtGs desc s.hostState s.hw))
    have hc := hs.coherent
    exact {
      coherent := { hc with }
      perCpu := hs.perCpu
      fs := hs.fs
      unloaded := fun _ => by
        refine ⟨hout, ?_, hsaved.guestGs⟩
        ext1
        · exact hds
        · exact hes
        · exact hfs3.trans hfs
        · exact hgs3.trans (hgs2.trans hgs)
        · exact hldt3.trans (hldt2.trans hldt)
        · exact h3.fsBase
        · exact h3.gsBase
        · exact hsaved.hostGs
        · exact h3.cr3
        · exact h3.cr4
      saved := nofun
      left := nofun
      crs := fun hin => by cases hout.symm.trans hin }

/-! ## Every event -/

theorem HostInv.loaded_of_inGuest (hs : HostInv desc cpuGs s a) (hin : s.inGuest = true) :
    s.guestStateLoaded = true := by
  by_contra h
  cases hin.symm.trans (hs.unloaded (Bool.eq_false_iff.mpr h)).1

/-- A selector of userspace says where its FS is. -/
def FsPlain (desc : DescriptorBase) (_ : HostSwitch C) : SwitchEvent C → Prop
  | .user r => FsSelected desc r
  | _ => True

/-- **Every event keeps the registers where they are looked for.** -/
theorem hostSwitchStep_inv (hs : HostInv desc cpuGs s a) (e : SwitchEvent C)
    (he : FsPlain desc s e) :
    ∃ a', (hostSwitchStep desc cpuGs s e).1.toList.foldlM explainSwitch a = some a' ∧
      HostInv desc cpuGs (hostSwitchStep desc cpuGs s e).2 a' := by
  have hc := hs.coherent
  cases e with
  | user r =>
    simp only [hostSwitchStep]
    split
    · exact ⟨a, rfl, hs⟩
    · rename_i hl
      obtain ⟨hout, hhw, hgs⟩ := hs.unloaded (Bool.eq_false_iff.mpr hl)
      refine ⟨_, rfl, {
        coherent := { hc with }
        perCpu := (congrArg HostRegs.gsBase hhw).trans hs.perCpu
        fs := he
        unloaded := fun _ => ⟨hout, rfl, hgs⟩
        saved := fun h => absurd h hl
        left := fun h => absurd h hl
        crs := fun hin => by cases hout.symm.trans hin }⟩
  | migrate cpu =>
    simp only [hostSwitchStep]
    split
    · exact ⟨a, rfl, hs⟩
    · rename_i hl
      obtain ⟨hout, hhw, hgs⟩ := hs.unloaded (Bool.eq_false_iff.mpr hl)
      refine ⟨_, rfl, {
        coherent := { hc with }
        perCpu := rfl
        fs := ?_
        unloaded := fun _ => ⟨hout, rfl, hgs⟩
        saved := fun h => absurd h hl
        left := fun h => absurd h hl
        crs := fun hin => by cases hout.symm.trans hin }⟩
      simp only [hhw]
      exact hs.fs
  | switchMm cr3 cr4 =>
    simp only [hostSwitchStep]
    split
    · exact ⟨a, rfl, hs⟩
    · rename_i hin
      have hout : s.inGuest = false := Bool.eq_false_iff.mpr hin
      exact ⟨_, rfl, {
        coherent := { hc with }
        perCpu := hs.perCpu
        fs := hs.fs
        unloaded := fun hl => by
          obtain ⟨-, hhw, hgs⟩ := hs.unloaded hl
          exact ⟨hout, by rw [hhw], hgs⟩
        saved := fun hl => { hs.saved hl with }
        left := fun hl _ => { hs.left hl hout with cr3 := rfl, cr4 := rfl }
        crs := fun hin => by cases hout.symm.trans hin }⟩
  | prepare is64bitMm =>
    refine ⟨a, rfl, ?_⟩
    dsimp only [hostSwitchStep]
    split
    · exact hs
    · exact prepareToGuest_inv is64bitMm hs (by simp_all)
  | enter =>
    refine ⟨a, rfl, ?_⟩
    dsimp only [hostSwitchStep]
    split
    · exact hs
    · rename_i hgo
      rw [not_or] at hgo
      have hl : s.guestStateLoaded = true := by simpa using hgo.2
      have hleft := hs.left hl (Bool.eq_false_iff.mpr hgo.1)
      rw [refreshHostCrs_eq hc]
      exact {
        coherent := { hc with cr3 := rfl, cr4 := rfl }
        perCpu := hs.perCpu
        fs := hs.fs
        unloaded := fun h => by cases hl.symm.trans h
        saved := fun _ => { hs.saved hl with }
        left := nofun
        crs := fun _ => ⟨hleft.cr3, hleft.cr4⟩ }
  | guest r =>
    simp only [hostSwitchStep]
    split
    · rename_i hin
      have hl := hs.loaded_of_inGuest hin
      exact ⟨_, rfl, {
        coherent := { hc with }
        perCpu := hs.perCpu
        fs := hs.fs
        unloaded := fun h => by cases hl.symm.trans h
        saved := fun _ => { hs.saved hl with guestGs := rfl }
        left := fun _ h => by cases hin.symm.trans h
        crs := hs.crs }⟩
    · exact ⟨a, rfl, hs⟩
  | exit =>
    refine ⟨a, rfl, ?_⟩
    dsimp only [hostSwitchStep]
    split
    · rename_i hin
      have hl := hs.loaded_of_inGuest hin
      have hsaved := hs.saved hl
      exact {
        coherent := { hc with }
        perCpu := hs.perCpu
        fs := hs.fs
        unloaded := fun h => by cases hl.symm.trans h
        saved := fun _ => { hsaved with }
        left := fun _ _ => {
          fsSel := .inr (hc.fsSel.trans (congrArg vmcsSel hsaved.fsSel))
          gsSel := .inr (hc.gsSel.trans (congrArg vmcsSel hsaved.gsSel))
          ldt := .inr rfl
          ds := .inr rfl
          es := .inr rfl
          fsBase := hc.fsBase.trans hsaved.fsBase
          gsBase := hc.gsBase.trans hsaved.gsBase
          cr3 := hc.cr3.trans (hs.crs hin).1
          cr4 := hc.cr4.trans (hs.crs hin).2 }
        crs := nofun }
    · exact hs
  | put =>
    refine ⟨a, rfl, ?_⟩
    dsimp only [hostSwitchStep]
    split
    · exact hs
    · exact prepareToHost_inv hs (by simp_all)
  | read =>
    simp only [hostSwitchStep]
    split
    · exact ⟨a, rfl, hs⟩
    · have hread : (vmxReadGuestKernelGsBase s).1 = a.kernelGsBase := by
        unfold vmxReadGuestKernelGsBase
        split
        · exact (hs.saved ‹_›).guestGs
        · rename_i hl
          exact (hs.unloaded (Bool.eq_false_iff.mpr hl)).2.2
      refine ⟨a, by simp [explainSwitch, hread], ?_⟩
      unfold vmxReadGuestKernelGsBase
      split
      · rename_i hl
        exact {
          coherent := { hc with }
          perCpu := hs.perCpu
          fs := hs.fs
          unloaded := fun h => by cases hl.symm.trans h
          saved := fun _ => { hs.saved hl with }
          left := hs.left
          crs := hs.crs }
      · exact hs
  | write data =>
    simp only [hostSwitchStep]
    split
    · exact ⟨a, rfl, hs⟩
    · rename_i hin
      have hout : s.inGuest = false := Bool.eq_false_iff.mpr hin
      refine ⟨_, rfl, ?_⟩
      unfold vmxWriteGuestKernelGsBase
      split
      · rename_i hl
        exact {
          coherent := { hc with }
          perCpu := hs.perCpu
          fs := hs.fs
          unloaded := fun h => by cases hl.symm.trans h
          saved := fun _ => { hs.saved hl with guestGs := rfl }
          left := fun _ _ => { hs.left hl hout with }
          crs := fun hin => by cases hout.symm.trans hin }
      · rename_i hl
        obtain ⟨-, hhw, -⟩ := hs.unloaded (Bool.eq_false_iff.mpr hl)
        exact {
          coherent := { hc with }
          perCpu := hs.perCpu
          fs := hs.fs
          unloaded := fun _ => ⟨hout, hhw, rfl⟩
          saved := fun h => absurd h hl
          left := fun h => absurd h hl
          crs := fun hin => by cases hout.symm.trans hin }

/-! ## Every run -/

/-- A thread on a CPU, with the VMCS as `init_vmcs` leaves it. -/
def hostStart (cpuGs : C → BitVec 64) (cpu : C) (r : HostRegs) : HostSwitch C where
  cpu := cpu
  hw := { r with gsBase := cpuGs cpu }
  vmcs := { cr3 := r.cr3, cr4 := r.cr4 }
  hostState := { cr3 := r.cr3, cr4 := r.cr4 }

variable {cpu : C} {r : HostRegs}

theorem hostStart_inv (hr : FsSelected desc r) :
    HostInv desc cpuGs (hostStart cpuGs cpu r) ⟨{ r with gsBase := cpuGs cpu }, 0⟩ where
  coherent := by
    have hnull : (0 : BitVec 16) = vmcsSel 0 := by decide
    exact ⟨hnull, hnull, rfl, rfl, rfl, rfl⟩
  perCpu := rfl
  fs := hr
  unloaded _ := ⟨rfl, rfl, rfl⟩
  saved := nofun
  left := nofun
  crs := nofun

/-- A thread with an LDT and a GS of it enters on one CPU, and on the other behind a preemption. -/
def preemptedThread : List (SwitchEvent Bool) :=
  [.user { ds := 0x2b, gsSel := 0x7, ldt := 0x60, fsBase := 0x7000, kernelGsBase := 0x8000 },
    .prepare true, .enter, .guest { kernelGsBase := 0x5000 }, .exit, .read, .enter, .exit, .put,
    .migrate true, .prepare false, .enter, .exit, .put]

/-- **A base of FS that the selector does not select is lost.** -/
theorem fs_base_lost :
    let s := Runs.final (hostSwitchStep (fun _ _ => 0) fun _ : Unit => 0)
      (hostStart (fun _ => 0) () {})
      [.user { fsSel := 0x2b, fsBase := 0x7000 }, .prepare true, .enter, .exit, .put]
    s.guestStateLoaded = false ∧ s.hw.fsSel = 0x2b ∧ s.hw.fsBase ≠ 0x7000 := by
  decide

end Kvm
