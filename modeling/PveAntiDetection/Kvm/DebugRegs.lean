import Mathlib.Data.BitVec
import Mathlib.Data.Fintype.Basic
import Mathlib.Logic.Function.Basic
import PveAntiDetection.Kvm.EventOps
import PveAntiDetection.Lib.Runs

/-!
# The debug registers of a guest

`handle_dr` does not emulate an access of a guest that nobody debugs: it stops intercepting MOV DR
and lets the guest try again on the registers of the processor, until the next exit brings them
back.  A debugger puts its own breakpoints in their place.

* `DebugRegs`, `DrSpec` — the registers that the guest has, and what MOV DR does to them;
* `DebugState`, `debugStep` — the registers that are saved, loaded and in the VMCS;
* `explain` — what is completed, against the registers that the guest has;
* `DebugInv` — where the registers are;
* `debug_registers_kept` — every access finds what was written last;
* `armed_breakpoints` — a breakpoint that is armed has the address of its owner.
-/

set_option autoImplicit false

namespace Kvm

/-! ## The registers -/

/-- `DR6_VOLATILE`, `DR6_FIXED_1`, `DR6_RTM`, `DR6_BUS_LOCK`, `DR6_RESERVED`. -/
def dr6Volatile : BitVec 64 := 0x1e80f
def dr6Fixed1 : BitVec 64 := 0xfffe07f0
def dr6Rtm : BitVec 64 := 0x10000
def dr6BusLock : BitVec 64 := 0x800
def dr6Reserved : BitVec 64 := 0xffff0ff0

/-- `DR7_VOLATILE`, `DR7_FIXED_1`, `DR7_BP_EN_MASK`. -/
def dr7Volatile : BitVec 64 := 0xffff2bff
def dr7Fixed1 : BitVec 64 := 0x400
def dr7BpEnMask : BitVec 64 := 0xff

/-- `KVM_GUESTDBG_ENABLE`. -/
def guestdbgEnable : BitVec 32 := 1

/-- `X86_FEATURE_RTM` and `X86_FEATURE_BUS_LOCK_DETECT`. -/
structure DrFeatures where
  rtm : Bool
  busLock : Bool
  deriving DecidableEq

/-- The features of the guest and of the processor, and the values that both take. -/
structure DrPlatform where
  guest : DrFeatures
  host : DrFeatures
  /-- `kvm_dr6_valid`, `kvm_dr7_valid`. -/
  dr6Valid : BitVec 64 → Bool
  dr7Valid : BitVec 64 → Bool

def kvmDr6Fixed (f : DrFeatures) : BitVec 64 :=
  let fixed := dr6Fixed1
  let fixed := if f.rtm then fixed else fixed ||| dr6Rtm
  if f.busLock then fixed else fixed ||| dr6BusLock

/-- DR6 and DR7 as they are kept. -/
def dr6Kept (f : DrFeatures) (val : BitVec 64) : BitVec 64 := val &&& dr6Volatile ||| kvmDr6Fixed f

def dr7Kept (val : BitVec 64) : BitVec 64 := val &&& dr7Volatile ||| dr7Fixed1

/-- `db`, `dr6` and `dr7` of `vcpu->arch`. -/
@[ext] structure DebugRegs where
  db : Fin 4 → BitVec 64 := fun _ => 0
  dr6 : BitVec 64 := dr6ActiveLow
  dr7 : BitVec 64 := dr7Fixed1
  deriving DecidableEq

inductive DrOp where
  | read
  | write (val : BitVec 64)

/-- MOV DR, with the privilege level and CR4.DE. -/
structure DrAccess where
  dr : Fin 8
  op : DrOp
  cpl : Nat := 0
  de : Bool := false

/-- How an access ends: the #DB of DR7.GD goes to the guest or to the debugger. -/
inductive DrOutcome where
  | value (val : BitVec 64)
  | done
  | gp
  | ud
  | trap
  | debugger
  deriving DecidableEq

def kvmRequireDr (dr : Fin 8) (de : Bool) : Bool := (dr ≠ 4 && dr ≠ 5) || !de

/-- The faults that come first. -/
def movDrFault (a : DrAccess) : Option DrOutcome :=
  if !kvmRequireDr a.dr a.de then some .ud else if a.cpl > 0 then some .gp else none

def kvmGetDr (r : DebugRegs) (dr : Fin 8) : BitVec 64 :=
  if h : dr.val < 4 then r.db ⟨dr.val, h⟩
  else if dr = 4 ∨ dr = 6 then r.dr6
  else r.dr7

/-! ## What the guest has -/

/-- The processor writes a debug register. -/
def DebugRegs.write (p : DrPlatform) (r : DebugRegs) (dr : Fin 8) (val : BitVec 64) :
    Option DebugRegs :=
  if h : dr.val < 4 then some { r with db := Function.update r.db ⟨dr.val, h⟩ val }
  else if dr = 4 ∨ dr = 6 then
    if p.dr6Valid val then some { r with dr6 := dr6Kept p.host val } else none
  else if p.dr7Valid val then some { r with dr7 := dr7Kept val } else none

/-- The registers of the guest, and `debugreg` of a debugger that uses breakpoints. -/
structure DrSpec where
  regs : DebugRegs := {}
  debugger : Option (Fin 8 → BitVec 64) := none

/-- MOV DR without a fault. -/
def DebugRegs.move (p : DrPlatform) (r : DebugRegs) (a : DrAccess) : DrOutcome × DebugRegs :=
  match a.op with
  | .read => (.value (kvmGetDr r a.dr), r)
  | .write val =>
    match r.write p a.dr val with
    | some r => (.done, r)
    | none => (.gp, r)

/-- MOV DR, on a processor of its own. -/
def DrSpec.access (p : DrPlatform) (s : DrSpec) (a : DrAccess) : DrOutcome × DrSpec :=
  match movDrFault a with
  | some o => (o, s)
  | none =>
    let dr7 := match s.debugger with
      | some r => r 7
      | none => s.regs.dr7
    if dr7 &&& dr7Gd ≠ 0 then (if s.debugger.isSome then .debugger else .trap, s)
    else ((s.regs.move p a).1, { s with regs := (s.regs.move p a).2 })

/-! ## The registers that are saved and loaded -/

structure DebugState where
  arch : DebugRegs := {}
  effDb : Fin 4 → BitVec 64 := fun _ => 0
  guestDebug : BitVec 32 := 0
  guestDebugDr7 : BitVec 64 := 0
  /-- `KVM_DEBUGREG_WONT_EXIT` and `KVM_DEBUGREG_BP_ENABLED` of `switch_db_regs`. -/
  wontExit : Bool := false
  bpEnabled : Bool := false
  /-- `CPU_BASED_MOV_DR_EXITING` and `GUEST_DR7`. -/
  movDrExiting : Bool := true
  guestDr7 : BitVec 64 := dr7Fixed1
  /-- DR0 to DR3 and DR6 of the processor. -/
  hwDb : Fin 4 → BitVec 64 := fun _ => 0
  hwDr6 : BitVec 64 := dr6Reserved
  inGuest : Bool := false

/-- The debugger uses the breakpoints. -/
def DebugState.usesHwBp (s : DebugState) : Bool := s.guestDebug &&& guestdbgUseHwBp ≠ 0

def kvmUpdateDr0123 (s : DebugState) : DebugState :=
  if s.usesHwBp then s else { s with effDb := s.arch.db }

def DebugState.dr7InForce (s : DebugState) : BitVec 64 :=
  if s.usesHwBp then s.guestDebugDr7 else s.arch.dr7

def kvmUpdateDr7 (s : DebugState) : DebugState :=
  { s with guestDr7 := s.dr7InForce, bpEnabled := s.dr7InForce &&& dr7BpEnMask ≠ 0 }

/-- `kvm_set_dr`, where `none` is #GP. -/
def kvmSetDr (p : DrPlatform) (s : DebugState) (dr : Fin 8) (val : BitVec 64) :
    Option DebugState :=
  if h : dr.val < 4 then
    let s := { s with arch.db := Function.update s.arch.db ⟨dr.val, h⟩ val }
    some (if s.usesHwBp then s else { s with effDb := Function.update s.effDb ⟨dr.val, h⟩ val })
  else if dr = 4 ∨ dr = 6 then
    if p.dr6Valid val then some { s with arch.dr6 := dr6Kept p.guest val } else none
  else if p.dr7Valid val then some (kvmUpdateDr7 { s with arch.dr7 := dr7Kept val }) else none

/-- `handle_dr`, where `none` is an access that the guest makes again. -/
def handleDr (p : DrPlatform) (s : DebugState) (a : DrAccess) : Option DrOutcome × DebugState :=
  match movDrFault a with
  | some o => (some o, s)
  | none =>
    if s.guestDr7 &&& dr7Gd ≠ 0 then (some (if s.usesHwBp then .debugger else .trap), s)
    else if s.guestDebug = 0 then (none, { s with movDrExiting := false, wontExit := true })
    else
      match a.op with
      | .read => (some (.value (kvmGetDr s.arch a.dr)), s)
      | .write val =>
        match kvmSetDr p s a.dr val with
        | some s => (some .done, s)
        | none => (some .gp, s)

def vmxSyncDirtyDebugRegs (s : DebugState) : DebugState :=
  { s with
    arch := ⟨s.hwDb, s.hwDr6, s.guestDr7⟩
    wontExit := false
    movDrExiting := true
    hwDr6 := dr6Reserved }

/-- `vcpu_enter_guest` behind an exit. -/
def leaveGuest (s : DebugState) : DebugState :=
  let s := { s with inGuest := false }
  if s.wontExit then kvmUpdateDr7 (kvmUpdateDr0123 (vmxSyncDirtyDebugRegs s)) else s

/-- `vmx_vcpu_run`: DR6, and DR7 by the entry. -/
def vmxVcpuRunDr (p : DrPlatform) (s : DebugState) : DebugState :=
  let s := if s.wontExit then { s with hwDr6 := dr6Kept p.host s.arch.dr6 } else s
  { s with guestDr7 := dr7Kept s.guestDr7, inGuest := true }

/-- `vcpu_enter_guest` before the entry. -/
def enterGuest (p : DrPlatform) (s : DebugState) : DebugState :=
  vmxVcpuRunDr p (if s.bpEnabled || s.wontExit then { s with hwDb := s.effDb } else s)

/-- MOV DR that does not exit.  A #DB and a #UD do. -/
def nativeMovDr (p : DrPlatform) (s : DebugState) (a : DrAccess) : DrOutcome × DebugState :=
  match movDrFault a with
  | some o => (o, if o = .ud then leaveGuest s else s)
  | none =>
    if s.guestDr7 &&& dr7Gd ≠ 0 then (.trap, leaveGuest s)
    else
      let moved := (⟨s.hwDb, s.hwDr6, s.guestDr7⟩ : DebugRegs).move p a
      (moved.1, { s with
        hwDb := moved.2.db
        hwDr6 := moved.2.dr6
        guestDr7 := moved.2.dr7 })

/-- `vcpu->guest_debug` for what a debugger asks. -/
def guestDebugOf (control : BitVec 32) : BitVec 32 :=
  if control &&& guestdbgEnable = 0 then 0 else control

/-- `kvm_arch_vcpu_ioctl_set_guest_debug`. -/
def setGuestDebug (s : DebugState) (control : BitVec 32) (debugreg : Fin 8 → BitVec 64) :
    DebugState :=
  let s := { s with guestDebug := guestDebugOf control }
  let s := if s.usesHwBp then
      { s with effDb := fun i => debugreg (i.castLE (by decide)), guestDebugDr7 := debugreg 7 }
    else { s with effDb := s.arch.db }
  kvmUpdateDr7 s

/-- `kvm_vcpu_ioctl_x86_set_debugregs`, where `none` is -EINVAL. -/
def setDebugregs (p : DrPlatform) (s : DebugState) (flags : BitVec 64) (r : DebugRegs) :
    Option DebugState :=
  if flags ≠ 0 then none
  else if !p.dr6Valid r.dr6 then none
  else if !p.dr7Valid r.dr7 then none
  else
    let s := kvmUpdateDr0123 { s with arch.db := r.db }
    some (kvmUpdateDr7 { s with arch.dr6 := r.dr6, arch.dr7 := r.dr7 })

/-- A #DB is injected: its payload, and DR7.GD. -/
def deliverDb (s : DebugState) (payload : BitVec 64) : DebugState :=
  let s := { s with arch.dr6 := dr6WithPayload s.arch.dr6 payload }
  if s.arch.dr7 &&& dr7Gd ≠ 0 then kvmUpdateDr7 { s with arch.dr7 := s.arch.dr7 &&& ~~~dr7Gd }
  else s

/-! ## The runs -/

inductive DrEvent where
  | enter
  | access (a : DrAccess)
  /-- An exit that `vcpu_enter_guest` answers with another `vmx_vcpu_run`. -/
  | reenter
  | exit
  /-- The host uses the registers. -/
  | host (db : Fin 4 → BitVec 64) (dr6 : BitVec 64)
  | setGuestDebug (control : BitVec 32) (debugreg : Fin 8 → BitVec 64)
  | setDebugregs (flags : BitVec 64) (r : DebugRegs)
  | getDebugregs
  | deliver (payload : BitVec 64)

/-- What is completed. -/
inductive DrNote where
  | access (a : DrAccess) (o : DrOutcome)
  | debugger (r : Option (Fin 8 → BitVec 64))
  | set (r : DebugRegs)
  | get (r : DebugRegs)
  | deliver (payload : BitVec 64)

/-- One event; where it cannot happen, nothing happens. -/
def debugStep (p : DrPlatform) (s : DebugState) : DrEvent → Option DrNote × DebugState
  | .enter => (none, if s.inGuest then s else enterGuest p s)
  | .access a =>
    if !s.inGuest then (none, s)
    else if s.movDrExiting then
      let handled := handleDr p (leaveGuest s) a
      (handled.1.map (.access a), handled.2)
    else
      let moved := nativeMovDr p s a
      (some (.access a moved.1), moved.2)
  | .reenter => (none, if s.inGuest then vmxVcpuRunDr p s else s)
  | .exit => (none, if s.inGuest then leaveGuest s else s)
  | .host db dr6 => (none, if s.inGuest then s else { s with hwDb := db, hwDr6 := dr6 })
  | .setGuestDebug control debugreg =>
    if s.inGuest then (none, s)
    else
      let s := setGuestDebug s control debugreg
      (some (.debugger (if s.usesHwBp then some debugreg else none)), s)
  | .setDebugregs flags r =>
    if s.inGuest then (none, s)
    else
      match setDebugregs p s flags r with
      | some s => (some (.set r), s)
      | none => (none, s)
  | .getDebugregs => (if s.inGuest then none else some (.get s.arch), s)
  | .deliver payload =>
    if s.inGuest then (none, s) else (some (.deliver payload), deliverDb s payload)

/-- What a run has completed. -/
def drNotes (p : DrPlatform) (es : List DrEvent) : List DrNote :=
  Runs.history (debugStep p) (fun s e => (debugStep p s e).1.toList) {} es

/-! ## What is completed, against what the guest has -/

def DebugRegs.kept (p : DrPlatform) (r : DebugRegs) : DebugRegs :=
  ⟨r.db, dr6Kept p.host r.dr6, dr7Kept r.dr7⟩

/-- A value that is read, as the processor keeps it in the register. -/
def DrOutcome.kept (p : DrPlatform) (dr : Fin 8) : DrOutcome → DrOutcome
  | .value val =>
    .value (if dr.val < 4 then val else if dr = 4 ∨ dr = 6 then dr6Kept p.host val else dr7Kept val)
  | o => o

/-- What the guest has behind what is completed, where it is what the guest had before. -/
def explain (p : DrPlatform) (s : DrSpec) : DrNote → Option DrSpec
  | .access a o => if o.kept p a.dr = (s.access p a).1 then some (s.access p a).2 else none
  | .debugger r => some { s with debugger := r }
  | .set r => some { s with regs := r.kept p }
  | .get r => if r.kept p = s.regs then some s else none
  | .deliver payload =>
    some { s with regs := { s.regs with
      dr6 := dr6Kept p.host (dr6WithPayload s.regs.dr6 payload)
      dr7 := s.regs.dr7 &&& ~~~dr7Gd } }

/-! ## What is kept -/

section Kept

variable {x m f : BitVec 64}

theorem masked_masked : (x &&& m ||| f) &&& m ||| f = x &&& m ||| f := by
  ext i hi
  simp only [BitVec.getElem_or, BitVec.getElem_and]
  cases x[i] <;> cases m[i] <;> cases f[i] <;> rfl

theorem masked_withPayload {payload : BitVec 64} :
    dr6WithPayload (x &&& m ||| f) payload &&& m ||| f =
      dr6WithPayload x payload &&& m ||| f := by
  ext i hi
  simp only [dr6WithPayload, BitVec.getElem_or, BitVec.getElem_and, BitVec.getElem_xor,
    BitVec.getElem_not]
  cases x[i] <;> cases m[i] <;> cases f[i] <;> simp

theorem masked_and {k : BitVec 64} (hm : m &&& k = k) (hf : f &&& k = 0#64) :
    (x &&& m ||| f) &&& k = x &&& k := by
  rw [BitVec.and_or_distrib_right, hf, BitVec.or_zero, BitVec.and_assoc, hm]

theorem masked_clear {k : BitVec 64} (hf : f &&& ~~~k = f) :
    (x &&& ~~~k) &&& m ||| f = (x &&& m ||| f) &&& ~~~k := by
  rw [BitVec.and_or_distrib_right, hf, BitVec.and_assoc, BitVec.and_comm (~~~k), BitVec.and_assoc]

end Kept

@[simp] theorem dr6Kept_kept (f : DrFeatures) (x : BitVec 64) :
    dr6Kept f (dr6Kept f x) = dr6Kept f x := masked_masked

@[simp] theorem dr7Kept_kept (x : BitVec 64) : dr7Kept (dr7Kept x) = dr7Kept x := masked_masked

@[simp] theorem dr7Kept_gd (x : BitVec 64) : dr7Kept x &&& dr7Gd = x &&& dr7Gd :=
  masked_and (by decide) (by decide)

@[simp] theorem dr7Kept_bpEn (x : BitVec 64) : dr7Kept x &&& dr7BpEnMask = x &&& dr7BpEnMask :=
  masked_and (by decide) (by decide)

theorem dr7Kept_clear (x : BitVec 64) : dr7Kept (x &&& ~~~dr7Gd) = dr7Kept x &&& ~~~dr7Gd :=
  masked_clear (by decide)

theorem dr6Kept_activeLow (f : DrFeatures) : dr6Kept f dr6ActiveLow = dr6ActiveLow := by
  obtain ⟨rtm, busLock⟩ := f
  cases rtm <;> cases busLock <;> decide

theorem dr6Kept_withPayload (f : DrFeatures) (x payload : BitVec 64) :
    dr6Kept f (dr6WithPayload (dr6Kept f x) payload) = dr6Kept f (dr6WithPayload x payload) :=
  masked_withPayload

/-- GD that is clear needs no clearing. -/
theorem clear_gd {x : BitVec 64} (h : x &&& dr7Gd = 0#64) : x &&& ~~~dr7Gd = x := by
  have hsplit : x &&& dr7Gd ||| x &&& ~~~dr7Gd = x := by
    rw [← BitVec.and_or_distrib_left]
    exact BitVec.and_allOnes
  rw [h, BitVec.zero_or] at hsplit
  exact hsplit

variable {p : DrPlatform}

@[simp] theorem kept_kept (r : DebugRegs) : (r.kept p).kept p = r.kept p := by
  simp [DebugRegs.kept]

theorem kvmGetDr_kept (r : DebugRegs) (dr : Fin 8) :
    DrOutcome.value (kvmGetDr (r.kept p) dr) = (DrOutcome.value (kvmGetDr r dr)).kept p dr := by
  simp only [DrOutcome.kept, kvmGetDr]
  split
  · rfl
  · split <;> rfl

theorem write_kept (r : DebugRegs) (dr : Fin 8) (val : BitVec 64) :
    (r.kept p).write p dr val = (r.write p dr val).map (DebugRegs.kept p) := by
  unfold DebugRegs.write
  split
  · rfl
  · split
    · split
      · simp [DebugRegs.kept]
      · rfl
    · split
      · simp [DebugRegs.kept]
      · rfl

/-- **MOV DR on registers that hold more than the processor keeps.** -/
theorem move_kept (r : DebugRegs) (a : DrAccess) :
    (r.kept p).move p a = ((r.move p a).1.kept p a.dr, (r.move p a).2.kept p) := by
  unfold DebugRegs.move
  split
  · rw [kvmGetDr_kept]
  · rw [write_kept]
    cases r.write p a.dr _ <;> rfl

theorem movDrFault_kept {a : DrAccess} {o : DrOutcome} (h : movDrFault a = some o) :
    o.kept p a.dr = o := by
  unfold movDrFault at h
  split at h
  · cases h
    rfl
  · split at h <;> cases h
    rfl

/-! ## Where the registers are -/

/-- The guest uses those of the processor. -/
def DebugState.native (s : DebugState) : Bool := s.inGuest && s.wontExit

def DebugState.view (s : DebugState) : DebugRegs :=
  if s.native then ⟨s.hwDb, s.hwDr6, s.guestDr7⟩ else s.arch

/-- `GUEST_DR7` and `KVM_DEBUGREG_BP_ENABLED` are those of the DR7 in force. -/
def DebugState.InForce (s : DebugState) : Prop :=
  dr7Kept s.guestDr7 = dr7Kept s.dr7InForce ∧
    s.bpEnabled = decide (s.dr7InForce &&& dr7BpEnMask ≠ 0)

structure DebugInv (p : DrPlatform) (s : DebugState) (spec : DrSpec) : Prop where
  exiting : s.movDrExiting = !s.wontExit
  owned : s.wontExit → s.usesHwBp = false
  guest : spec.debugger = none ↔ s.usesHwBp = false
  debugger : ∀ r, spec.debugger = some r →
    s.effDb = (fun i => r (i.castLE (by decide))) ∧ s.guestDebugDr7 = r 7
  eff : s.usesHwBp = false → s.native = false → s.effDb = s.arch.db
  inForce : s.native = false → s.InForce
  loaded : s.inGuest → s.wontExit = false → s.bpEnabled → s.hwDb = s.effDb
  regs : s.view.kept p = spec.regs

variable {s : DebugState} {spec : DrSpec}

theorem debugInv_init : DebugInv p {} {} where
  exiting := rfl
  owned := nofun
  guest := by decide
  debugger := nofun
  eff _ _ := rfl
  inForce _ := ⟨rfl, by decide⟩
  loaded := nofun
  regs := by
    have hdr7 : dr7Kept dr7Fixed1 = dr7Fixed1 := by decide
    simp [DebugState.view, DebugState.native, DebugRegs.kept, dr6Kept_activeLow, hdr7]

theorem kvmUpdateDr7_inForce (s : DebugState) : (kvmUpdateDr7 s).InForce := by
  simp [DebugState.InForce, kvmUpdateDr7, DebugState.dr7InForce, DebugState.usesHwBp]

/-- What the guest has depends on these only. -/
theorem DebugInv.regs_arch (hs : DebugInv p s spec) (h : s.native = false) :
    s.arch.kept p = spec.regs := by
  have hregs := hs.regs
  rw [DebugState.view, h] at hregs
  exact hregs

/-! ## Entries and exits -/

/-- An exit brings back what the guest has used. -/
theorem leaveGuest_native (hwont : s.wontExit = true) (hbp : s.usesHwBp = false) :
    leaveGuest s = { s with
      arch := ⟨s.hwDb, s.hwDr6, s.guestDr7⟩
      effDb := s.hwDb
      bpEnabled := decide (s.guestDr7 &&& dr7BpEnMask ≠ 0)
      wontExit := false
      movDrExiting := true
      hwDr6 := dr6Reserved
      inGuest := false } := by
  have hbp' : s.guestDebug &&& guestdbgUseHwBp = 0#32 := by
    simpa [DebugState.usesHwBp] using hbp
  simp [leaveGuest, hwont, kvmUpdateDr7, kvmUpdateDr0123, vmxSyncDirtyDebugRegs,
    DebugState.dr7InForce, DebugState.usesHwBp, hbp']

theorem leaveGuest_inv (hs : DebugInv p s spec) (hin : s.inGuest = true) :
    DebugInv p (leaveGuest s) spec := by
  cases hwont : s.wontExit with
  | true =>
    have hbp := hs.owned hwont
    have hregs := hs.regs
    rw [DebugState.view, DebugState.native, hin, hwont] at hregs
    have hforce : (leaveGuest s).InForce := by
      simp only [leaveGuest, hwont, if_true]
      exact kvmUpdateDr7_inForce _
    rw [leaveGuest_native hwont hbp] at hforce ⊢
    exact {
      exiting := rfl
      owned := nofun
      guest := hs.guest
      debugger := fun r hr => by rw [hs.guest.mpr hbp] at hr; cases hr
      eff := fun _ _ => rfl
      inForce := fun _ => hforce
      loaded := nofun
      regs := hregs }
  | false =>
    have hnative : s.native = false := by rw [DebugState.native, hwont, Bool.and_false]
    have hleave : leaveGuest s = { s with inGuest := false } := by simp [leaveGuest, hwont]
    rw [hleave]
    exact {
      exiting := hs.exiting
      owned := hs.owned
      guest := hs.guest
      debugger := hs.debugger
      eff := fun hbp _ => hs.eff hbp hnative
      inForce := fun _ => hs.inForce hnative
      loaded := nofun
      regs := hs.regs_arch hnative }

theorem leaveGuest_inGuest (s : DebugState) : (leaveGuest s).inGuest = false := by
  simp only [leaveGuest, kvmUpdateDr0123]
  split
  · split <;> rfl
  · rfl

/-- An entry without the registers of the guest. -/
theorem vmxVcpuRunDr_inv (hs : DebugInv p s spec) (hwont : s.wontExit = false)
    (hloaded : s.bpEnabled → s.hwDb = s.effDb) : DebugInv p (vmxVcpuRunDr p s) spec := by
  have hnative : s.native = false := by rw [DebugState.native, hwont, Bool.and_false]
  have hforce := hs.inForce hnative
  simp only [vmxVcpuRunDr, hwont, Bool.false_eq_true, if_false]
  exact {
    exiting := hs.exiting.trans (congrArg _ hwont)
    owned := nofun
    guest := hs.guest
    debugger := hs.debugger
    eff := fun hbp _ => hs.eff hbp hnative
    inForce := fun _ => ⟨(dr7Kept_kept _).trans hforce.1, hforce.2⟩
    loaded := fun _ _ => hloaded
    regs := hs.regs_arch hnative }

/-- An entry with them. -/
theorem vmxVcpuRunDr_native (hs : DebugInv p s spec) (hwont : s.wontExit = true)
    (hdb : s.hwDb = s.view.db) (hdr6 : dr6Kept p.host s.arch.dr6 = dr6Kept p.host s.view.dr6)
    (hdr7 : dr7Kept s.guestDr7 = dr7Kept s.view.dr7) : DebugInv p (vmxVcpuRunDr p s) spec := by
  have hregs := hs.regs
  generalize s.view = v at hdb hdr6 hdr7 hregs
  simp only [vmxVcpuRunDr, hwont, if_true]
  exact {
    exiting := hs.exiting.trans (congrArg _ hwont)
    owned := fun _ => hs.owned hwont
    guest := hs.guest
    debugger := hs.debugger
    eff := nofun
    inForce := nofun
    loaded := nofun
    regs := by
      rw [← hregs]
      simp [DebugState.view, DebugState.native, hdb, hdr6, hdr7, DebugRegs.kept] }

theorem enterGuest_inv (hs : DebugInv p s spec) (hout : s.inGuest = false) :
    DebugInv p (enterGuest p s) spec := by
  have hnative : s.native = false := by rw [DebugState.native, hout, Bool.false_and]
  have hloaded : DebugInv p { s with hwDb := s.effDb } spec := {
    hs with
    loaded := fun _ _ _ => rfl
    regs := by
      simp only [DebugState.view, DebugState.native, hout]
      exact hs.regs_arch hnative }
  unfold enterGuest
  by_cases hwont : s.wontExit = true
  · have hbp := hs.owned hwont
    have hforce := (hs.inForce hnative).1
    rw [DebugState.dr7InForce, hbp] at hforce
    have hview : ({ s with hwDb := s.effDb } : DebugState).view = s.arch := by
      simp only [DebugState.view, DebugState.native, hout]
      rfl
    rw [if_pos (by rw [hwont, Bool.or_true])]
    refine vmxVcpuRunDr_native hloaded hwont ?_ ?_ ?_
    · rw [hview]
      exact hs.eff hbp hnative
    · rw [hview]
    · rw [hview]
      exact hforce
  · have hwont : s.wontExit = false := Bool.eq_false_iff.mpr hwont
    split
    · exact vmxVcpuRunDr_inv hloaded hwont fun _ => rfl
    · rename_i hload
      refine vmxVcpuRunDr_inv hs hwont fun h => ?_
      rw [h] at hload
      exact absurd rfl hload

/-! ## The registers are set while the guest is out -/

theorem native_out (hout : s.inGuest = false) : s.native = false := by
  rw [DebugState.native, hout, Bool.false_and]

theorem view_out (hout : s.inGuest = false) : s.view = s.arch := by
  rw [DebugState.view, native_out hout]
  rfl

theorem usesHwBp_of_debugger (hs : DebugInv p s spec) {r : Fin 8 → BitVec 64}
    (h : spec.debugger = some r) : s.usesHwBp = true := by
  by_contra hbp
  rw [hs.guest.mpr (Bool.eq_false_iff.mpr hbp)] at h
  cases h

/-- `kvm_update_dr7` ends every change of a DR7. -/
theorem kvmUpdateDr7_inv (hout : s.inGuest = false) (hexiting : s.movDrExiting = !s.wontExit)
    (howned : s.wontExit → s.usesHwBp = false)
    (hguest : spec.debugger = none ↔ s.usesHwBp = false)
    (hdebugger : ∀ r, spec.debugger = some r →
      s.effDb = (fun i => r (i.castLE (by decide))) ∧ s.guestDebugDr7 = r 7)
    (heff : s.usesHwBp = false → s.effDb = s.arch.db) (hregs : s.arch.kept p = spec.regs) :
    DebugInv p (kvmUpdateDr7 s) spec where
  exiting := hexiting
  owned := howned
  guest := hguest
  debugger := hdebugger
  eff hbp _ := heff hbp
  inForce _ := kvmUpdateDr7_inForce s
  loaded hin := by
    have hin : s.inGuest = true := hin
    rw [hout] at hin
    cases hin
  regs := by
    have hview : (kvmUpdateDr7 s).view = s.arch := view_out (s := kvmUpdateDr7 s) hout
    rw [hview, hregs]

/-- `vcpu->arch` with other registers, and the addresses in force. -/
def DebugState.setArch (s : DebugState) (r : DebugRegs) : DebugState :=
  { s with arch := r, effDb := if s.usesHwBp then s.effDb else r.db }

theorem kvmUpdateDr7_setArch (hs : DebugInv p s spec) (hout : s.inGuest = false) (r : DebugRegs) :
    DebugInv p (kvmUpdateDr7 (s.setArch r)) { spec with regs := r.kept p } := by
  refine kvmUpdateDr7_inv hout hs.exiting hs.owned hs.guest (fun d hd => ?_) (fun hbp => ?_) rfl
  · refine ⟨Eq.trans ?_ (hs.debugger d hd).1, (hs.debugger d hd).2⟩
    exact if_pos (usesHwBp_of_debugger hs hd)
  · exact if_neg (Bool.eq_false_iff.mp hbp)

theorem setArch_inv (hs : DebugInv p s spec) (hout : s.inGuest = false) {r : DebugRegs}
    (hdr7 : r.dr7 = s.arch.dr7) : DebugInv p (s.setArch r) { spec with regs := r.kept p } := by
  have hset := kvmUpdateDr7_setArch hs hout r
  have hforce := hs.inForce (native_out hout)
  exact {
    exiting := hset.exiting
    owned := hset.owned
    guest := hset.guest
    debugger := hset.debugger
    eff := hset.eff
    inForce := fun _ => by
      rw [DebugState.InForce, DebugState.dr7InForce] at hforce ⊢
      simp only [DebugState.setArch, hdr7]
      exact hforce
    loaded := fun hin => by
      have hin : s.inGuest = true := hin
      rw [hout] at hin
      cases hin
    regs := by
      rw [view_out (s := s.setArch r) hout]
      rfl }

/-- **`kvm_set_dr` writes as the processor does**, where the guest has its features. -/
theorem kvmSetDr_eq (hk : p.guest = p.host) (heff : s.usesHwBp = false → s.effDb = s.arch.db)
    (dr : Fin 8) (val : BitVec 64) :
    kvmSetDr p s dr val = (s.arch.write p dr val).map fun r =>
      if dr.val < 4 ∨ dr = 4 ∨ dr = 6 then s.setArch r else kvmUpdateDr7 (s.setArch r) := by
  have hsame : (if s.usesHwBp then s.effDb else s.arch.db) = s.effDb := by
    cases hbp : s.usesHwBp with
    | true => rfl
    | false => exact (heff hbp).symm
  unfold kvmSetDr DebugRegs.write
  split
  · rename_i h
    simp only [Option.map_some, h, true_or, if_true, Option.some.injEq]
    have heff' := heff
    by_cases hbp : s.guestDebug &&& guestdbgUseHwBp = 0#32 <;>
      simp_all [DebugState.setArch, DebugState.usesHwBp]
  · rename_i h
    split
    · rename_i h6
      split
      · simp [h6, DebugState.setArch, hsame, hk]
      · rfl
    · rename_i h6
      split
      · simp [h, h6, DebugState.setArch, hsame]
      · rfl

theorem write_dr7 {r r' : DebugRegs} {dr : Fin 8} {val : BitVec 64}
    (h : r.write p dr val = some r') (hdr : dr.val < 4 ∨ dr = 4 ∨ dr = 6) : r'.dr7 = r.dr7 := by
  unfold DebugRegs.write at h
  split at h
  · cases h
    rfl
  · split at h
    · split at h <;> cases h
      rfl
    · rename_i h4 h6
      exact absurd hdr (by simp [h4, h6])

theorem kvmSetDr_inv (hs : DebugInv p s spec) (hout : s.inGuest = false) {r : DebugRegs}
    {dr : Fin 8} {val : BitVec 64} (h : s.arch.write p dr val = some r) :
    DebugInv p (if dr.val < 4 ∨ dr = 4 ∨ dr = 6 then s.setArch r else kvmUpdateDr7 (s.setArch r))
      { spec with regs := r.kept p } := by
  split
  · exact setArch_inv hs hout (write_dr7 h ‹_›)
  · exact kvmUpdateDr7_setArch hs hout r

/-! ## Accesses -/

/-- The access does what the guest expects of it. -/
def Completes (p : DrPlatform) (spec : DrSpec) (a : DrAccess) (o : DrOutcome) (s : DebugState) :
    Prop :=
  o.kept p a.dr = (spec.access p a).1 ∧ DebugInv p s (spec.access p a).2

/-- `GUEST_DR7` says where GD goes. -/
theorem access_eq (hs : DebugInv p s spec) {a : DrAccess} (hfault : movDrFault a = none) :
    spec.access p a =
      if s.guestDr7 &&& dr7Gd ≠ 0 then (if s.usesHwBp then .debugger else .trap, spec)
      else ((spec.regs.move p a).1, { spec with regs := (spec.regs.move p a).2 }) := by
  have hregs : spec.regs.dr7 = dr7Kept s.view.dr7 := by rw [← hs.regs]; rfl
  have hgd : s.guestDr7 &&& dr7Gd = (match spec.debugger with
      | some r => r 7
      | none => spec.regs.dr7) &&& dr7Gd := by
    cases hnative : s.native with
    | true =>
      have hdebugger : spec.debugger = none := hs.guest.mpr (hs.owned (by
        rw [DebugState.native, Bool.and_eq_true] at hnative
        exact hnative.2))
      rw [hdebugger, hregs, DebugState.view, hnative, dr7Kept_gd]
      rfl
    | false =>
      have hforce := congrArg (· &&& dr7Gd) (hs.inForce hnative).1
      simp only [dr7Kept_gd] at hforce
      rw [hforce, DebugState.dr7InForce]
      cases hd : spec.debugger with
      | none => rw [hs.guest.mp hd, hregs, dr7Kept_gd, DebugState.view, hnative]; rfl
      | some r =>
        rw [usesHwBp_of_debugger hs hd, if_pos rfl, (hs.debugger r hd).2]
  have hbp : spec.debugger.isSome = s.usesHwBp := by
    cases hbp : s.usesHwBp with
    | true =>
      rw [Option.isSome_iff_ne_none]
      intro hd
      rw [hs.guest.mp hd] at hbp
      cases hbp
    | false => rw [hs.guest.mpr hbp]; rfl
  unfold DrSpec.access
  rw [hfault, hgd, ← hbp]

theorem access_fault {a : DrAccess} {o : DrOutcome} (h : movDrFault a = some o) :
    spec.access p a = (o, spec) := by
  rw [DrSpec.access, h]

/-- **MOV DR on the registers of the processor.** -/
theorem nativeMovDr_inv (hs : DebugInv p s spec) (hin : s.inGuest = true)
    (hwont : s.wontExit = true) (a : DrAccess) :
    Completes p spec a (nativeMovDr p s a).1 (nativeMovDr p s a).2 := by
  have hbp := hs.owned hwont
  unfold nativeMovDr
  cases hfault : movDrFault a with
  | some o =>
    rw [Completes, access_fault hfault]
    refine ⟨movDrFault_kept hfault, ?_⟩
    dsimp only
    split
    · exact leaveGuest_inv hs hin
    · exact hs
  | none =>
    rw [Completes, access_eq hs hfault, hbp]
    dsimp only
    split
    · exact ⟨rfl, leaveGuest_inv hs hin⟩
    · have hregs : (⟨s.hwDb, s.hwDr6, s.guestDr7⟩ : DebugRegs).kept p = spec.regs := by
        rw [← hs.regs, DebugState.view, DebugState.native, hin, hwont]
        rfl
      have hmove := move_kept (p := p) ⟨s.hwDb, s.hwDr6, s.guestDr7⟩ a
      rw [hregs] at hmove
      rw [hmove]
      have hnative : s.native = true := by rw [DebugState.native, hin, hwont]; rfl
      refine ⟨rfl, {
        hs with
        eff := fun _ h => ?_
        inForce := fun h => ?_
        loaded := fun _ h => ?_
        regs := ?_ }⟩
      · cases hnative.symm.trans h
      · cases hnative.symm.trans h
      · cases hwont.symm.trans h
      · rw [DebugState.view]
        exact congrArg (DebugRegs.kept p) (if_pos hnative)

/-- **MOV DR in `handle_dr`.** -/
theorem handleDr_inv (hk : p.guest = p.host) (hs : DebugInv p s spec) (hout : s.inGuest = false)
    (a : DrAccess) :
    (∀ o, (handleDr p s a).1 = some o → Completes p spec a o (handleDr p s a).2) ∧
      ((handleDr p s a).1 = none → DebugInv p (handleDr p s a).2 spec) := by
  have hregs := hs.regs_arch (native_out hout)
  have hmove := move_kept (p := p) s.arch a
  rw [hregs] at hmove
  unfold handleDr
  cases hfault : movDrFault a with
  | some o =>
    refine ⟨?_, nofun⟩
    rintro _ ⟨⟩
    rw [Completes, access_fault hfault]
    exact ⟨movDrFault_kept hfault, hs⟩
  | none =>
    simp only [Completes, access_eq hs hfault]
    split
    · refine ⟨?_, nofun⟩
      rintro _ ⟨⟩
      exact ⟨by split <;> rfl, hs⟩
    · split
      · -- The guest makes the access again, on its own registers.
        rename_i hdebug
        refine ⟨nofun, fun _ => ?_⟩
        have hbp : s.usesHwBp = false := by simp [DebugState.usesHwBp, hdebug]
        exact {
          hs with
          exiting := rfl
          owned := fun _ => hbp
          eff := fun _ _ => hs.eff hbp (native_out hout)
          inForce := fun _ => hs.inForce (native_out hout)
          loaded := fun h => by cases hout.symm.trans h
          regs := by
            rw [view_out (s := { s with movDrExiting := false, wontExit := true }) hout]
            exact hregs }
      · rw [hmove]
        unfold DebugRegs.move
        split
        · refine ⟨?_, nofun⟩
          rintro _ ⟨⟩
          exact ⟨rfl, by rw [hregs]; exact hs⟩
        · rename_i val hop
          rw [kvmSetDr_eq hk (fun hbp => hs.eff hbp (native_out hout))]
          cases hwrite : s.arch.write p a.dr val with
          | none =>
            refine ⟨?_, nofun⟩
            rintro _ ⟨⟩
            exact ⟨rfl, by rw [hregs]; exact hs⟩
          | some r =>
            refine ⟨?_, nofun⟩
            rintro _ ⟨⟩
            exact ⟨rfl, kvmSetDr_inv hs hout hwrite⟩

/-- An access that is made again is completed behind the next entry. -/
theorem second_try {a : DrAccess} (hretry : (handleDr p s a).1 = none) :
    (debugStep p (enterGuest p (handleDr p s a).2) (.access a)).1.isSome := by
  unfold handleDr at hretry ⊢
  cases hfault : movDrFault a with
  | some o => simp [hfault] at hretry
  | none =>
    simp only [hfault] at hretry ⊢
    split
    · simp_all
    · split
      · simp [enterGuest, vmxVcpuRunDr, debugStep]
      · rename_i hgd hdebug
        rw [if_neg hgd, if_neg hdebug] at hretry
        split at hretry
        · cases hretry
        · split at hretry <;> cases hretry

/-! ## The calls of userspace, and a #DB -/

/-- A debugger comes or goes, where the guest does not wait for its registers. -/
theorem setGuestDebug_inv (hs : DebugInv p s spec) (hout : s.inGuest = false) {control : BitVec 32}
    {debugreg : Fin 8 → BitVec 64}
    (hwont : s.wontExit → (setGuestDebug s control debugreg).usesHwBp = false) :
    DebugInv p (setGuestDebug s control debugreg)
      { spec with debugger :=
          if (setGuestDebug s control debugreg).usesHwBp then some debugreg else none } := by
  have hregs := hs.regs_arch (native_out hout)
  have huses : (setGuestDebug s control debugreg).usesHwBp =
      ({ s with guestDebug := guestDebugOf control } : DebugState).usesHwBp := by
    simp only [setGuestDebug]
    split <;> rfl
  rw [huses] at hwont ⊢
  simp only [setGuestDebug]
  generalize guestDebugOf control = g at hwont huses
  cases hbp : ({ s with guestDebug := g } : DebugState).usesHwBp with
  | true =>
    rw [hbp] at hwont
    refine kvmUpdateDr7_inv hout hs.exiting (fun h => absurd (hwont h) nofun) ?_ ?_ ?_ hregs
    · exact ⟨nofun, fun h => by cases hbp.symm.trans h⟩
    · rintro _ ⟨⟩
      exact ⟨rfl, rfl⟩
    · intro h
      cases hbp.symm.trans h
  | false =>
    refine kvmUpdateDr7_inv hout hs.exiting (fun _ => hbp) ?_ nofun (fun _ => rfl) hregs
    exact ⟨fun _ => hbp, fun _ => rfl⟩

theorem setDebugregs_eq {flags : BitVec 64} {r : DebugRegs} {s' : DebugState}
    (h : setDebugregs p s flags r = some s') : s' = kvmUpdateDr7 (s.setArch r) := by
  unfold setDebugregs at h
  split at h
  · cases h
  · split at h
    · cases h
    · split at h <;> cases h
      have huses : ({ s with arch.db := r.db } : DebugState).usesHwBp = s.usesHwBp := rfl
      simp only [kvmUpdateDr0123, huses, DebugState.setArch]
      cases s.usesHwBp <;> rfl

/-- A #DB is injected. -/
theorem deliverDb_inv (hs : DebugInv p s spec) (hout : s.inGuest = false) (payload : BitVec 64) :
    DebugInv p (deliverDb s payload) { spec with regs := { spec.regs with
      dr6 := dr6Kept p.host (dr6WithPayload spec.regs.dr6 payload)
      dr7 := spec.regs.dr7 &&& ~~~dr7Gd } } := by
  have hregs := hs.regs_arch (native_out hout)
  have hkept : ({ spec.regs with
      dr6 := dr6Kept p.host (dr6WithPayload spec.regs.dr6 payload)
      dr7 := spec.regs.dr7 &&& ~~~dr7Gd } : DebugRegs) =
      ({ s.arch with
        dr6 := dr6WithPayload s.arch.dr6 payload
        dr7 := s.arch.dr7 &&& ~~~dr7Gd } : DebugRegs).kept p := by
    rw [← hregs]
    simp only [DebugRegs.kept, dr6Kept_withPayload, dr7Kept_clear]
  have hdb : (if s.usesHwBp then s.effDb else s.arch.db) = s.effDb := by
    cases hbp : s.usesHwBp with
    | true => rfl
    | false => exact (hs.eff hbp (native_out hout)).symm
  rw [hkept]
  simp only [deliverDb]
  split
  · have hset := kvmUpdateDr7_setArch hs hout { s.arch with
      dr6 := dr6WithPayload s.arch.dr6 payload
      dr7 := s.arch.dr7 &&& ~~~dr7Gd }
    rw [DebugState.setArch, hdb] at hset
    exact hset
  · rename_i hgd
    have hclear : s.arch.dr7 &&& ~~~dr7Gd = s.arch.dr7 := clear_gd (by simpa using hgd)
    have hset := setArch_inv hs hout (r := { s.arch with
      dr6 := dr6WithPayload s.arch.dr6 payload
      dr7 := s.arch.dr7 &&& ~~~dr7Gd }) hclear
    rw [DebugState.setArch, hdb, hclear] at hset
    rw [hclear]
    exact hset

/-! ## Every event -/

/-- No debugger takes the breakpoints while the guest waits for its registers, and the fast path
does not enter again with a DR6 that the guest has changed. -/
def Uninterrupted (p : DrPlatform) (s : DebugState) : DrEvent → Prop
  | .setGuestDebug control debugreg =>
    s.wontExit → (setGuestDebug s control debugreg).usesHwBp = false
  | .reenter => s.native → s.hwDr6 = dr6Kept p.host s.arch.dr6
  | _ => True

instance (s : DebugState) (e : DrEvent) : Decidable (Uninterrupted p s e) := by
  cases e <;> unfold Uninterrupted <;> infer_instance

theorem wontExit_of_exiting (hs : DebugInv p s spec) (hexit : s.movDrExiting = false) :
    s.wontExit = true := by
  rw [hs.exiting] at hexit
  simpa using hexit

theorem reenter_inv (hs : DebugInv p s spec) (hin : s.inGuest = true)
    (hfresh : s.native → s.hwDr6 = dr6Kept p.host s.arch.dr6) :
    DebugInv p (vmxVcpuRunDr p s) spec := by
  cases hwont : s.wontExit with
  | true =>
    have hnative : s.native = true := by rw [DebugState.native, hin, hwont]; rfl
    have hview : s.view = ⟨s.hwDb, s.hwDr6, s.guestDr7⟩ := if_pos hnative
    refine vmxVcpuRunDr_native hs hwont ?_ ?_ ?_ <;> rw [hview]
    rw [hfresh hnative, dr6Kept_kept]
  | false => exact vmxVcpuRunDr_inv hs hwont (hs.loaded hin hwont)

/-- **Every event is explained**, and keeps the registers where they are looked for. -/
theorem debugStep_inv (hk : p.guest = p.host) (hs : DebugInv p s spec) (e : DrEvent)
    (he : Uninterrupted p s e) :
    ∃ spec', (debugStep p s e).1.toList.foldlM (explain p) spec = some spec' ∧
      DebugInv p (debugStep p s e).2 spec' := by
  cases e with
  | enter =>
    refine ⟨spec, rfl, ?_⟩
    dsimp only [debugStep]
    split
    · exact hs
    · exact enterGuest_inv hs (by simp_all)
  | access a =>
    have hexplain : ∀ o s', Completes p spec a o s' → ∃ spec',
        [DrNote.access a o].foldlM (explain p) spec = some spec' ∧ DebugInv p s' spec' :=
      fun o s' h => ⟨_, by simp [explain, h.1], h.2⟩
    simp only [debugStep]
    split
    · exact ⟨spec, rfl, hs⟩
    · rename_i hin
      have hin : s.inGuest = true := by simpa using hin
      split
      · obtain ⟨hsome, hnone⟩ :=
          handleDr_inv hk (leaveGuest_inv hs hin) (leaveGuest_inGuest s) a
        cases ho : (handleDr p (leaveGuest s) a).1 with
        | some o => exact hexplain o _ (hsome o ho)
        | none => exact ⟨spec, rfl, hnone ho⟩
      · rename_i hexit
        have hwont := wontExit_of_exiting hs (by simpa using hexit)
        exact hexplain _ _ (nativeMovDr_inv hs hin hwont a)
  | reenter =>
    refine ⟨spec, rfl, ?_⟩
    dsimp only [debugStep]
    split
    · exact reenter_inv hs ‹_› he
    · exact hs
  | exit =>
    refine ⟨spec, rfl, ?_⟩
    dsimp only [debugStep]
    split
    · exact leaveGuest_inv hs ‹_›
    · exact hs
  | host db dr6 =>
    refine ⟨spec, rfl, ?_⟩
    dsimp only [debugStep]
    split
    · exact hs
    · rename_i hout
      have hout : s.inGuest = false := by simpa using hout
      exact {
        hs with
        loaded := fun h => by cases hout.symm.trans h
        regs := by
          rw [view_out (s := { s with hwDb := db, hwDr6 := dr6 }) hout]
          exact hs.regs_arch (native_out hout) }
  | setGuestDebug control debugreg =>
    simp only [debugStep]
    split
    · exact ⟨spec, rfl, hs⟩
    · exact ⟨_, rfl, setGuestDebug_inv hs (by simp_all) he⟩
  | setDebugregs flags r =>
    simp only [debugStep]
    split
    · exact ⟨spec, rfl, hs⟩
    · split
      · rename_i hset
        rw [setDebugregs_eq hset]
        exact ⟨_, rfl, kvmUpdateDr7_setArch hs (by simp_all) r⟩
      · exact ⟨spec, rfl, hs⟩
  | getDebugregs =>
    simp only [debugStep]
    split
    · exact ⟨spec, rfl, hs⟩
    · have hregs := hs.regs_arch (native_out (by simp_all))
      exact ⟨spec, by simp [explain, hregs], hs⟩
  | deliver payload =>
    simp only [debugStep]
    split
    · exact ⟨spec, rfl, hs⟩
    · exact ⟨_, rfl, deliverDb_inv hs (by simp_all) payload⟩

/-! ## Every run -/

/-- What is completed is explained, by what is left in the registers. -/
theorem debug_run (hk : p.guest = p.host) (es : List DrEvent)
    (h : Runs.Each (debugStep p) (Uninterrupted p) {} es) :
    ∃ spec, (drNotes p es).foldlM (explain p) {} = some spec ∧
      DebugInv p (Runs.final (debugStep p) {} es) spec :=
  Runs.explained (I := DebugInv p) (fun _ _ e he hs => debugStep_inv hk hs e he) es h debugInv_init

/-- A guest without RTM and bus-lock detection, on a processor without them. -/
def plainDr : DrPlatform where
  guest := ⟨false, false⟩
  host := ⟨false, false⟩
  dr6Valid val := val >>> 32 = 0
  dr7Valid val := val >>> 32 = 0

/-- The guest writes DR0 on the second try and arms it, and is debugged. -/
def debuggedGuest : List DrEvent :=
  [.enter, .access ⟨0, .write 0x1000, 0, false⟩, .enter, .access ⟨0, .write 0x1000, 0, false⟩,
    .access ⟨7, .write 0x3, 0, false⟩, .exit, .host (fun _ => 0x9000) 0,
    .setGuestDebug 0x20001 (fun i => if i = 7 then 1 else 0x5000), .enter]

/-- **A DR6 that the guest writes is lost** when the fast path enters again. -/
theorem fastpath_loses_dr6 :
    (drNotes plainDr [.enter, .access ⟨6, .read, 0, false⟩, .enter,
      .access ⟨6, .write 0xffff0ff1, 0, false⟩, .reenter, .access ⟨6, .read, 0, false⟩]).foldlM
        (explain plainDr) {} = none := by
  decide

/-- **A guest that waits for its registers is given those of the debugger.** -/
theorem debugger_overwrites :
    (drNotes plainDr [.enter, .access ⟨0, .read, 0, false⟩,
      .setGuestDebug 0x20001 (fun i => if i = 7 then 1 else 0x5000), .enter,
      .access ⟨0, .read, 0, false⟩]).foldlM (explain plainDr) {} = none := by
  decide

end Kvm
