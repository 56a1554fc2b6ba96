import Mathlib.Logic.Function.Basic
import PveAntiDetection.Lib.Runs
import PveAntiDetection.Kvm.Vcpu

/-!
# The MSR bitmap of VMX

The MSRs that a guest may access on VMX without an exit.

* `vmxPossiblePassthroughMsrs`, `isValidPassthroughMsr` — the MSRs with a slot, and all that may be
  passed through;
* `VmxMsrBitmap`, `vmxMsrBitmapStep` — the bitmap, the shadow of the requests, and the calls that
  write them;
* `passes_vmxDisableInterceptForMsr`, `passes_vmxEnableInterceptForMsr` — one call;
* `passes_vmxMsrFilterChanged` — the refresh, which does not revisit the LBR MSRs;
* `lbrPassesDenied` — a denied LBR MSR that still passes;
* `vmxMsrBitmap_enforces` — what passes is allowed after every run in which no refresh finds a
  denied MSR that it does not revisit.
-/

set_option autoImplicit false

namespace Kvm

/-! ## Tables -/

/-- `vmx_possible_passthrough_msrs`, with `CONFIG_X86_64`. -/
def vmxPossiblePassthroughMsrs : List (BitVec 32) :=
  [0x48, -- IA32_SPEC_CTRL
   0x49, -- IA32_PRED_CMD
   0x10b, -- IA32_FLUSH_CMD
   0x10, -- IA32_TSC
   msrFsBase,
   msrGsBase,
   msrKernelGsBase,
   0x1c4, -- IA32_XFD
   0x1c5, -- IA32_XFD_ERR
   0x174, -- IA32_SYSENTER_CS
   msrIa32SysenterEsp,
   msrIa32SysenterEip,
   0x660, -- CORE_C1_RES
   0x3fc, -- CORE_C3_RESIDENCY
   0x3fd, -- CORE_C6_RESIDENCY
   0x3fe] -- CORE_C7_RESIDENCY

/-- `possible_passthrough_msr_slot`; `none` is `-ENOENT`. -/
def possiblePassthroughMsrSlot (msr : BitVec 32) : Option Nat :=
  vmxPossiblePassthroughMsrs.findIdx? fun m => m = msr

def msrIa32RtitStatus : BitVec 32 := 0x571
def msrIa32RtitOutputBase : BitVec 32 := 0x560
def msrIa32RtitOutputMask : BitVec 32 := 0x561
def msrIa32RtitCr3Match : BitVec 32 := 0x572
def msrIa32RtitAddr0A : BitVec 32 := 0x580
def msrIa32RtitAddr0B : BitVec 32 := 0x581
def msrIa32RtitAddr3B : BitVec 32 := 0x587
def msrLbrSelect : BitVec 32 := 0x1c8
def msrLbrTos : BitVec 32 := 0x1c9
def msrLbrInfo0 : BitVec 32 := 0xdc0
def msrLbrNhmFrom : BitVec 32 := 0x680
def msrLbrNhmTo : BitVec 32 := 0x6c0
def msrLbrCoreFrom : BitVec 32 := 0x40
def msrLbrCoreTo : BitVec 32 := 0x60

/-- The ranges of `case` labels in `is_valid_passthrough_msr`. -/
def passthroughRanges : List (BitVec 32 × BitVec 32) :=
  [(0x800, 0x8ff), -- x2APIC
   (msrIa32RtitStatus, msrIa32RtitStatus),
   (msrIa32RtitOutputBase, msrIa32RtitOutputBase),
   (msrIa32RtitOutputMask, msrIa32RtitOutputMask),
   (msrIa32RtitCr3Match, msrIa32RtitCr3Match),
   (msrIa32RtitAddr0A, msrIa32RtitAddr3B),
   (msrLbrSelect, msrLbrSelect),
   (msrLbrTos, msrLbrTos),
   (msrLbrInfo0, msrLbrInfo0 + 31),
   (msrLbrNhmFrom, msrLbrNhmFrom + 31),
   (msrLbrNhmTo, msrLbrNhmTo + 31),
   (msrLbrCoreFrom, msrLbrCoreFrom + 8),
   (msrLbrCoreTo, msrLbrCoreTo + 8)]

/-- `is_valid_passthrough_msr`. -/
def isValidPassthroughMsr (msr : BitVec 32) : Bool :=
  passthroughRanges.any (fun r => r.1 ≤ msr ∧ msr ≤ r.2) ||
    (possiblePassthroughMsrSlot msr).isSome

/-- The MSRs that have bits in the bitmap: 8192 from 0, and 8192 from `0xc0000000`. -/
def inMsrBitmap (msr : BitVec 32) : Bool :=
  msr ≤ 0x1fff ∨ 0xc0000000 ≤ msr ∧ msr ≤ 0xc0001fff

/-! ## The bitmap -/

/-- `MSR_TYPE_R` and `MSR_TYPE_W` in a `type` argument. -/
structure MsrType where
  read : Bool
  write : Bool
  deriving DecidableEq

def msrTypeR : MsrType := ⟨true, false⟩
def msrTypeW : MsrType := ⟨false, true⟩
def msrTypeRw : MsrType := ⟨true, true⟩

def MsrType.has (type : MsrType) : MsrAccess → Bool
  | .read => type.read
  | .write => type.write

/-- What the host offers. -/
structure VmxMsrHost where
  /-- `cpu_has_vmx_msr_bitmap`. -/
  hasMsrBitmap : Bool := true
  /-- `vmx_pt_mode_is_host_guest`. -/
  ptHostGuest : Bool := false
  deriving DecidableEq

/-- The bitmap of `vmcs01`, the requests by slot, and what the calls read.  A bit that is set
intercepts. -/
structure VmxMsrBitmap where
  /-- `shadow_msr_intercept.read` and `shadow_msr_intercept.write`; `vmx_vcpu_create` fills them. -/
  shadowRead : Nat → Bool := fun _ => true
  shadowWrite : Nat → Bool := fun _ => true
  /-- `alloc_loaded_vmcs` sets every bit. -/
  msrBitmap : BitVec 32 × MsrAccess → Bool := fun _ => true
  /-- `nested.force_msr_bitmap_recalc`. -/
  forceMsrBitmapRecalc : Bool := false
  vm : Vm := {}
  /-- `pt_desc.guest.ctl`. -/
  ptGuestCtl : BitVec 64 := 0
  /-- `pt_desc.num_address_ranges`, a field of three bits of CPUID. -/
  numAddressRanges : BitVec 3 := 0

/-- `vmx_msr_bitmap_l01_changed`, of which the clean field of an enlightened VMCS is left out. -/
def vmxMsrBitmapL01Changed (s : VmxMsrBitmap) : VmxMsrBitmap :=
  { s with forceMsrBitmapRecalc := true }

/-- `vmx_set_msr_bitmap_read` and its three siblings. -/
def putMsrBitmap (s : VmxMsrBitmap) (key : BitVec 32 × MsrAccess) (bit : Bool) : VmxMsrBitmap :=
  if inMsrBitmap key.1 then { s with msrBitmap := Function.update s.msrBitmap key bit } else s

/-- `set_bit` and `clear_bit` on `shadow_msr_intercept`. -/
def putShadow (s : VmxMsrBitmap) (slot : Nat) (access : MsrAccess) (bit : Bool) : VmxMsrBitmap :=
  match access with
  | .read => { s with shadowRead := Function.update s.shadowRead slot bit }
  | .write => { s with shadowWrite := Function.update s.shadowWrite slot bit }

/-- Do `f` for `MSR_TYPE_R`, and then for `MSR_TYPE_W`, where `type` has them. -/
def forType (type : MsrType) (f : VmxMsrBitmap → MsrAccess → VmxMsrBitmap) (s : VmxMsrBitmap) :
    VmxMsrBitmap :=
  let s := if type.read then f s .read else s
  if type.write then f s .write else s

/-- The desired state, which `vmx_disable_intercept_for_msr` and `vmx_enable_intercept_for_msr` mark
in the shadow. -/
def markShadow (s : VmxMsrBitmap) (msr : BitVec 32) (type : MsrType) (bit : Bool) :
    VmxMsrBitmap :=
  if isValidPassthroughMsr msr then
    match possiblePassthroughMsrSlot msr with
    | none => s
    | some idx => forType type (fun s access => putShadow s idx access bit) s
  else s

/-- `vmx_disable_intercept_for_msr`. -/
def vmxDisableInterceptForMsr (h : VmxMsrHost) (s : VmxMsrBitmap) (msr : BitVec 32)
    (type : MsrType) : VmxMsrBitmap :=
  if !h.hasMsrBitmap then s
  else
    let s := vmxMsrBitmapL01Changed s
    let s := markShadow s msr type false
    let readAllowed := kvmMsrAllowed s.vm msr msrFilterRead
    let writeAllowed := kvmMsrAllowed s.vm msr msrFilterWrite
    let denied : MsrType := ⟨type.read && !readAllowed, type.write && !writeAllowed⟩
    let s := forType denied (fun s access => putMsrBitmap s (msr, access) true) s
    -- what is denied has been taken out of `type`
    let type : MsrType := ⟨type.read && readAllowed, type.write && writeAllowed⟩
    forType type (fun s access => putMsrBitmap s (msr, access) false) s

/-- `vmx_enable_intercept_for_msr`. -/
def vmxEnableInterceptForMsr (h : VmxMsrHost) (s : VmxMsrBitmap) (msr : BitVec 32)
    (type : MsrType) : VmxMsrBitmap :=
  if !h.hasMsrBitmap then s
  else
    let s := vmxMsrBitmapL01Changed s
    let s := markShadow s msr type true
    forType type (fun s access => putMsrBitmap s (msr, access) true) s

/-- `vmx_set_intercept_for_msr`. -/
def vmxSetInterceptForMsr (h : VmxMsrHost) (s : VmxMsrBitmap) (msr : BitVec 32) (type : MsrType)
    (value : Bool) : VmxMsrBitmap :=
  if value then vmxEnableInterceptForMsr h s msr type else vmxDisableInterceptForMsr h s msr type

/-- The MSRs of `pt_update_intercept_for_msr`, in its order. -/
def ptMsrs (numAddressRanges : BitVec 3) : List (BitVec 32) :=
  [msrIa32RtitStatus, msrIa32RtitOutputBase, msrIa32RtitOutputMask, msrIa32RtitCr3Match] ++
    (List.range numAddressRanges.toNat).flatMap fun i =>
      [msrIa32RtitAddr0A + BitVec.ofNat 32 i * 2, msrIa32RtitAddr0B + BitVec.ofNat 32 i * 2]

/-- `pt_update_intercept_for_msr`. -/
def ptUpdateInterceptForMsr (h : VmxMsrHost) (s : VmxMsrBitmap) : VmxMsrBitmap :=
  -- RTIT_CTL_TRACEEN is bit 0
  let flag := !s.ptGuestCtl.getLsbD 0
  (ptMsrs s.numAddressRanges).foldl (fun s msr => vmxSetInterceptForMsr h s msr msrTypeRw flag) s

/-- One round of the loop of `vmx_msr_filter_changed`. -/
def refreshSlot (h : VmxMsrHost) (s : VmxMsrBitmap) (m : BitVec 32 × Nat) : VmxMsrBitmap :=
  let s := if !s.shadowRead m.2 then vmxDisableInterceptForMsr h s m.1 msrTypeR else s
  if !s.shadowWrite m.2 then vmxDisableInterceptForMsr h s m.1 msrTypeW else s

/-- `vmx_msr_filter_changed`. -/
def vmxMsrFilterChanged (h : VmxMsrHost) (s : VmxMsrBitmap) : VmxMsrBitmap :=
  let s := vmxPossiblePassthroughMsrs.zipIdx.foldl (refreshSlot h) s
  if h.ptHostGuest then ptUpdateInterceptForMsr h s else s

/-- The calls that write to the bitmap, the ioctl that replaces the filter, and the writes to what
`pt_update_intercept_for_msr` reads. -/
inductive VmxMsrEvent where
  | vmxDisableInterceptForMsr (msr : BitVec 32) (type : MsrType)
  | vmxEnableInterceptForMsr (msr : BitVec 32) (type : MsrType)
  | replaceFilter (filter : Option MsrFilter)
  | msrFilterChanged
  | ptDesc (guestCtl : BitVec 64) (numAddressRanges : BitVec 3)

/-- One call. -/
def vmxMsrBitmapStep (h : VmxMsrHost) (s : VmxMsrBitmap) : VmxMsrEvent → Unit × VmxMsrBitmap
  | .vmxDisableInterceptForMsr msr type => ((), vmxDisableInterceptForMsr h s msr type)
  | .vmxEnableInterceptForMsr msr type => ((), vmxEnableInterceptForMsr h s msr type)
  | .replaceFilter filter => ((), { s with vm := { s.vm with msrFilter := filter } })
  | .msrFilterChanged => ((), vmxMsrFilterChanged h s)
  | .ptDesc guestCtl numAddressRanges =>
    ((), { s with ptGuestCtl := guestCtl, numAddressRanges := numAddressRanges })

/-! ## One call -/

/-- Whether the guest may access an MSR without an exit. -/
def VmxMsrBitmap.passes (s : VmxMsrBitmap) (key : BitVec 32 × MsrAccess) : Bool :=
  !s.msrBitmap key

/-- The shadow bitmap of an access. -/
def VmxMsrBitmap.shadow (s : VmxMsrBitmap) : MsrAccess → Nat → Bool
  | .read => s.shadowRead
  | .write => s.shadowWrite

/-- Whether pass-through was requested of an MSR with a slot. -/
def VmxMsrBitmap.asked (s : VmxMsrBitmap) (key : BitVec 32 × MsrAccess) : Bool :=
  match possiblePassthroughMsrSlot key.1 with
  | none => false
  | some slot => !s.shadow key.2 slot

/-- What the calls read and do not write. -/
def VmxMsrBitmap.config (s : VmxMsrBitmap) : Vm × BitVec 64 × BitVec 3 :=
  (s.vm, s.ptGuestCtl, s.numAddressRanges)

@[simp] theorem putMsrBitmap_keeps (s : VmxMsrBitmap) (key : BitVec 32 × MsrAccess) (bit : Bool) :
    (putMsrBitmap s key bit).config = s.config ∧ (putMsrBitmap s key bit).asked = s.asked := by
  unfold putMsrBitmap
  split <;> exact ⟨rfl, rfl⟩

@[simp] theorem putShadow_keeps (s : VmxMsrBitmap) (slot : Nat) (access : MsrAccess) (bit : Bool) :
    (putShadow s slot access bit).config = s.config ∧
      (putShadow s slot access bit).passes = s.passes := by
  cases access <;> exact ⟨rfl, rfl⟩

theorem passes_putMsrBitmap (s : VmxMsrBitmap) (key key' : BitVec 32 × MsrAccess) (bit : Bool) :
    (putMsrBitmap s key bit).passes key' =
      if inMsrBitmap key.1 ∧ key' = key then !bit else s.passes key' := by
  unfold putMsrBitmap
  by_cases hin : inMsrBitmap key.1 = true
  · simp only [hin, if_true, true_and, VmxMsrBitmap.passes, Function.update_apply]
    split <;> rfl
  · simp [hin]

/-- What `f` keeps for each access is kept for a type. -/
theorem forType_keeps {α : Type} (get : VmxMsrBitmap → α)
    {f : VmxMsrBitmap → MsrAccess → VmxMsrBitmap} (hf : ∀ s access, get (f s access) = get s)
    (type : MsrType) (s : VmxMsrBitmap) : get (forType type f s) = get s := by
  obtain ⟨read, write⟩ := type
  cases read <;> cases write <;> simp [forType, hf]

theorem passes_forType_putMsrBitmap (s : VmxMsrBitmap) (msr : BitVec 32) (type : MsrType)
    (bit : Bool) (key : BitVec 32 × MsrAccess) :
    (forType type (fun s access => putMsrBitmap s (msr, access) bit) s).passes key =
      if inMsrBitmap msr ∧ key.1 = msr ∧ type.has key.2 then !bit else s.passes key := by
  obtain ⟨read, write⟩ := type
  obtain ⟨msr', access⟩ := key
  cases read <;> cases write <;> cases access <;>
    simp [forType, passes_putMsrBitmap, MsrType.has]

theorem shadow_putShadow (s : VmxMsrBitmap) (slot slot' : Nat) (access access' : MsrAccess)
    (bit : Bool) : (putShadow s slot access bit).shadow access' slot' =
      if access' = access ∧ slot' = slot then bit else s.shadow access' slot' := by
  cases access <;> cases access' <;>
    simp [putShadow, VmxMsrBitmap.shadow, Function.update_apply]

theorem shadow_forType_putShadow (s : VmxMsrBitmap) (slot slot' : Nat) (type : MsrType)
    (access' : MsrAccess) (bit : Bool) :
    (forType type (fun s access => putShadow s slot access bit) s).shadow access' slot' =
      if slot' = slot ∧ type.has access' then bit else s.shadow access' slot' := by
  obtain ⟨read, write⟩ := type
  cases read <;> cases write <;> cases access' <;>
    simp [forType, shadow_putShadow, MsrType.has]

/-- Two MSRs do not share a slot. -/
theorem possiblePassthroughMsrSlot_injective {msr msr' : BitVec 32} {slot : Nat}
    (h : possiblePassthroughMsrSlot msr = some slot)
    (h' : possiblePassthroughMsrSlot msr' = some slot) : msr = msr' := by
  obtain ⟨hlt, hmsr, -⟩ := List.findIdx?_eq_some_iff_getElem.mp h
  obtain ⟨hlt', hmsr', -⟩ := List.findIdx?_eq_some_iff_getElem.mp h'
  exact (of_decide_eq_true hmsr).symm.trans (of_decide_eq_true hmsr')

theorem markShadow_keeps (s : VmxMsrBitmap) (msr : BitVec 32) (type : MsrType) (bit : Bool) :
    (markShadow s msr type bit).config = s.config ∧
      (markShadow s msr type bit).passes = s.passes := by
  unfold markShadow
  split
  · split
    · exact ⟨rfl, rfl⟩
    · exact ⟨forType_keeps _ (fun s access => (putShadow_keeps s _ access bit).1) type s,
        forType_keeps _ (fun s access => (putShadow_keeps s _ access bit).2) type s⟩
  · exact ⟨rfl, rfl⟩

/-- **The shadow** keeps what was asked for, where the MSR has a slot. -/
theorem asked_markShadow (s : VmxMsrBitmap) (msr : BitVec 32) (type : MsrType) (bit : Bool)
    (key : BitVec 32 × MsrAccess) :
    (markShadow s msr type bit).asked key =
      if (possiblePassthroughMsrSlot key.1).isSome ∧ key.1 = msr ∧ type.has key.2 then !bit
      else s.asked key := by
  obtain ⟨msr', access⟩ := key
  unfold markShadow
  cases hslot : possiblePassthroughMsrSlot msr with
  | none =>
    rw [ite_self, if_neg]
    rintro ⟨hsome, heq, -⟩
    rw [heq, hslot] at hsome
    cases hsome
  | some slot =>
    have hvalid : isValidPassthroughMsr msr = true := by
      rw [isValidPassthroughMsr, hslot, Option.isSome_some, Bool.or_true]
    rw [if_pos hvalid]
    unfold VmxMsrBitmap.asked
    dsimp only
    cases hkey : possiblePassthroughMsrSlot msr' with
    | none => simp
    | some slot' =>
      have hiff : slot' = slot ↔ msr' = msr := by
        constructor
        · rintro rfl
          exact possiblePassthroughMsrSlot_injective hkey hslot
        · rintro rfl
          exact Option.some.inj (hkey.symm.trans hslot)
      simp only [shadow_forType_putShadow, hiff, Option.isSome_some, true_and]
      split <;> rfl

/-- What a call does to the access `key`, when it is for that one. -/
def touches (h : VmxMsrHost) (msr : BitVec 32) (type : MsrType) (key : BitVec 32 × MsrAccess) :
    Bool :=
  h.hasMsrBitmap && decide (key.1 = msr) && type.has key.2

theorem touches_eq_true {h : VmxMsrHost} {msr : BitVec 32} {type : MsrType}
    {key : BitVec 32 × MsrAccess} :
    touches h msr type key = true ↔
      h.hasMsrBitmap = true ∧ key.1 = msr ∧ type.has key.2 = true := by
  simp only [touches, Bool.and_eq_true, decide_eq_true_eq, and_assoc]

theorem touches_off {h : VmxMsrHost} (hoff : (!h.hasMsrBitmap) = true) (msr : BitVec 32)
    (type : MsrType) (key : BitVec 32 × MsrAccess) : touches h msr type key = false := by
  simp only [Bool.not_eq_true'] at hoff
  rw [touches, hoff, Bool.false_and, Bool.false_and]

theorem vmxDisableInterceptForMsr_config (h : VmxMsrHost) (s : VmxMsrBitmap) (msr : BitVec 32)
    (type : MsrType) : (vmxDisableInterceptForMsr h s msr type).config = s.config := by
  unfold vmxDisableInterceptForMsr
  split
  · rfl
  · dsimp only
    rw [forType_keeps _ fun s access => (putMsrBitmap_keeps s _ _).1,
      forType_keeps _ fun s access => (putMsrBitmap_keeps s _ _).1, (markShadow_keeps ..).1]
    rfl

theorem vm_vmxDisableInterceptForMsr (h : VmxMsrHost) (s : VmxMsrBitmap) (msr : BitVec 32)
    (type : MsrType) : (vmxDisableInterceptForMsr h s msr type).vm = s.vm :=
  congrArg Prod.fst (vmxDisableInterceptForMsr_config h s msr type)

theorem asked_vmxDisableInterceptForMsr (h : VmxMsrHost) (s : VmxMsrBitmap) (msr : BitVec 32)
    (type : MsrType) (key : BitVec 32 × MsrAccess) :
    (vmxDisableInterceptForMsr h s msr type).asked key =
      if (possiblePassthroughMsrSlot key.1).isSome ∧ touches h msr type key then true
      else s.asked key := by
  unfold vmxDisableInterceptForMsr
  split
  · rename_i hoff
    simp [touches_off hoff]
  · rename_i hon
    dsimp only
    rw [forType_keeps _ fun s access => (putMsrBitmap_keeps s _ _).2,
      forType_keeps _ fun s access => (putMsrBitmap_keeps s _ _).2, asked_markShadow]
    simp only [touches_eq_true, Bool.not_eq_true', Bool.not_eq_false] at hon ⊢
    simp only [hon, true_and]
    rfl

/-- **A disabled intercept** passes what the filter allows. -/
theorem passes_vmxDisableInterceptForMsr (h : VmxMsrHost) (s : VmxMsrBitmap) (msr : BitVec 32)
    (type : MsrType) (key : BitVec 32 × MsrAccess) :
    (vmxDisableInterceptForMsr h s msr type).passes key =
      if inMsrBitmap msr ∧ touches h msr type key then msrAllowed s.vm.msrFilter key
      else s.passes key := by
  unfold vmxDisableInterceptForMsr
  split
  · rename_i hoff
    simp [touches_off hoff]
  · rename_i hon
    have hvm : (markShadow (vmxMsrBitmapL01Changed s) msr type false).vm = s.vm :=
      congrArg Prod.fst (markShadow_keeps (vmxMsrBitmapL01Changed s) msr type false).1
    have hpasses : (markShadow (vmxMsrBitmapL01Changed s) msr type false).passes = s.passes :=
      (markShadow_keeps _ _ _ _).2
    dsimp only
    rw [passes_forType_putMsrBitmap, passes_forType_putMsrBitmap, hpasses, hvm]
    simp only [Bool.not_eq_true', Bool.not_eq_false] at hon
    simp only [touches_eq_true, hon, true_and, Bool.not_false, Bool.not_true]
    obtain ⟨msr', access⟩ := key
    by_cases hmsr : msr' = msr
    · subst hmsr
      cases access with
      | read =>
        simp only [MsrType.has, true_and, Bool.and_eq_true]
        rw [← kvmMsrAllowed_eq, show MsrAccess.read.filter = msrFilterRead from rfl]
        cases kvmMsrAllowed s.vm msr' msrFilterRead <;> simp
      | write =>
        simp only [MsrType.has, true_and, Bool.and_eq_true]
        rw [← kvmMsrAllowed_eq, show MsrAccess.write.filter = msrFilterWrite from rfl]
        cases kvmMsrAllowed s.vm msr' msrFilterWrite <;> simp
    · simp only [hmsr, false_and, and_false, if_false]

theorem vmxEnableInterceptForMsr_config (h : VmxMsrHost) (s : VmxMsrBitmap) (msr : BitVec 32)
    (type : MsrType) : (vmxEnableInterceptForMsr h s msr type).config = s.config := by
  unfold vmxEnableInterceptForMsr
  split
  · rfl
  · dsimp only
    rw [forType_keeps _ fun s access => (putMsrBitmap_keeps s _ _).1, (markShadow_keeps ..).1]
    rfl

theorem vm_vmxEnableInterceptForMsr (h : VmxMsrHost) (s : VmxMsrBitmap) (msr : BitVec 32)
    (type : MsrType) : (vmxEnableInterceptForMsr h s msr type).vm = s.vm :=
  congrArg Prod.fst (vmxEnableInterceptForMsr_config h s msr type)

theorem asked_vmxEnableInterceptForMsr (h : VmxMsrHost) (s : VmxMsrBitmap) (msr : BitVec 32)
    (type : MsrType) (key : BitVec 32 × MsrAccess) :
    (vmxEnableInterceptForMsr h s msr type).asked key =
      if touches h msr type key then false else s.asked key := by
  unfold vmxEnableInterceptForMsr
  split
  · rename_i hoff
    simp [touches_off hoff]
  · rename_i hon
    dsimp only
    rw [forType_keeps _ fun s access => (putMsrBitmap_keeps s _ _).2, asked_markShadow]
    simp only [touches_eq_true, Bool.not_eq_true', Bool.not_eq_false] at hon ⊢
    simp only [hon, true_and, Bool.not_true]
    -- without a slot nothing is asked for
    cases hslot : possiblePassthroughMsrSlot key.1 with
    | none =>
      have hasked : s.asked key = false := by rw [VmxMsrBitmap.asked, hslot]
      have hasked' : (vmxMsrBitmapL01Changed s).asked key = false := hasked
      simp [hasked, hasked']
    | some slot =>
      simp only [Option.isSome_some, true_and]
      rfl

/-- **An enabled intercept** passes nothing. -/
theorem passes_vmxEnableInterceptForMsr (h : VmxMsrHost) (s : VmxMsrBitmap) (msr : BitVec 32)
    (type : MsrType) (key : BitVec 32 × MsrAccess) :
    (vmxEnableInterceptForMsr h s msr type).passes key =
      if inMsrBitmap msr ∧ touches h msr type key then false else s.passes key := by
  unfold vmxEnableInterceptForMsr
  split
  · rename_i hoff
    simp [touches_off hoff]
  · rename_i hon
    have hpasses : (markShadow (vmxMsrBitmapL01Changed s) msr type true).passes = s.passes :=
      (markShadow_keeps _ _ _ _).2
    dsimp only
    rw [passes_forType_putMsrBitmap, hpasses]
    simp only [touches_eq_true, Bool.not_eq_true', Bool.not_eq_false] at hon ⊢
    simp only [hon, true_and, Bool.not_true]

/-! ## The refresh -/

/-- The `type` of one access. -/
def MsrType.only : MsrAccess → MsrType
  | .read => msrTypeR
  | .write => msrTypeW

/-- The refresh of one access. -/
def refreshAccess (h : VmxMsrHost) (msr : BitVec 32) (slot : Nat) (s : VmxMsrBitmap)
    (access : MsrAccess) : VmxMsrBitmap :=
  if !s.shadow access slot then vmxDisableInterceptForMsr h s msr (.only access) else s

theorem refreshSlot_eq (h : VmxMsrHost) (s : VmxMsrBitmap) (m : BitVec 32 × Nat) :
    refreshSlot h s m = forType msrTypeRw (refreshAccess h m.1 m.2) s := rfl

/-- Every MSR of the table is found at its own slot, and has bits in the bitmap. -/
theorem vmxPossiblePassthroughMsrs_zipIdx : ∀ m ∈ vmxPossiblePassthroughMsrs.zipIdx,
    possiblePassthroughMsrSlot m.1 = some m.2 ∧ inMsrBitmap m.1 = true := by
  decide

theorem inMsrBitmap_of_slot {msr : BitVec 32}
    (hslot : (possiblePassthroughMsrSlot msr).isSome = true) : inMsrBitmap msr = true := by
  have hall : vmxPossiblePassthroughMsrs.all inMsrBitmap = true := by decide
  rw [possiblePassthroughMsrSlot, List.findIdx?_isSome] at hslot
  obtain ⟨m, hm, heq⟩ := List.any_eq_true.mp hslot
  rw [← of_decide_eq_true heq]
  exact List.all_eq_true.mp hall m hm

section Refresh

variable {h : VmxMsrHost}

/-- `t` is `s` with the requests for the MSRs of `covered` decided again. -/
structure Refreshed (h : VmxMsrHost) (covered : BitVec 32 × MsrAccess → Prop)
    (s t : VmxMsrBitmap) : Prop where
  config : t.config = s.config
  asked : t.asked = s.asked
  covers : ∀ key, h.hasMsrBitmap = true → covered key → s.asked key = true →
    t.passes key = msrAllowed s.vm.msrFilter key
  frame : ∀ key, ¬ covered key ∨ s.asked key = false → t.passes key = s.passes key

theorem Refreshed.vm {covered : BitVec 32 × MsrAccess → Prop} {s t : VmxMsrBitmap}
    (hr : Refreshed h covered s t) : t.vm = s.vm := congrArg Prod.fst hr.config

theorem Refreshed.trans {covered covered' : BitVec 32 × MsrAccess → Prop} {s t u : VmxMsrBitmap}
    (hr : Refreshed h covered s t) (hr' : Refreshed h covered' t u) :
    Refreshed h (fun key => covered key ∨ covered' key) s u where
  config := hr'.config.trans hr.config
  asked := hr'.asked.trans hr.asked
  covers key hon hcovered hasked := by
    by_cases hlater : covered' key
    · rw [hr'.covers key hon hlater (by rw [hr.asked, hasked]), hr.vm]
    · rw [hr'.frame key (.inl hlater)]
      exact hr.covers key hon (hcovered.resolve_right hlater) hasked
  frame key hframe := by
    have hframe' : ¬ covered' key ∨ t.asked key = false := by
      rw [hr.asked]
      exact hframe.imp (fun hnot hin => hnot (.inr hin)) id
    rw [hr'.frame key hframe']
    exact hr.frame key (hframe.imp (fun hnot hin => hnot (.inl hin)) id)

theorem Refreshed.mono {covered covered' : BitVec 32 × MsrAccess → Prop} {s t : VmxMsrBitmap}
    (hr : Refreshed h covered s t) (hiff : ∀ key, covered key ↔ covered' key) :
    Refreshed h covered' s t where
  config := hr.config
  asked := hr.asked
  covers key hon hcovered := hr.covers key hon ((hiff key).mpr hcovered)
  frame key hframe := hr.frame key (by rwa [hiff key])

theorem refreshed_refreshAccess {msr : BitVec 32} {slot : Nat}
    (hslot : possiblePassthroughMsrSlot msr = some slot) (hin : inMsrBitmap msr = true)
    (s : VmxMsrBitmap) (access : MsrAccess) :
    Refreshed h (fun key => key = (msr, access)) s (refreshAccess h msr slot s access) := by
  have hasked : s.asked (msr, access) = !s.shadow access slot := by
    rw [VmxMsrBitmap.asked, hslot]
  unfold refreshAccess
  rw [← hasked]
  have honly : ∀ access', (MsrType.only access).has access' = decide (access' = access) := by
    intro access'
    cases access <;> cases access' <;> rfl
  split
  · rename_i hyes
    refine ⟨vmxDisableInterceptForMsr_config .., ?_, ?_, ?_⟩
    · funext key
      rw [asked_vmxDisableInterceptForMsr]
      split
      · rename_i htouch
        obtain ⟨-, hmsr, haccess⟩ := touches_eq_true.mp htouch.2
        rw [honly, decide_eq_true_eq] at haccess
        rw [← hyes, ← hmsr, ← haccess]
      · rfl
    · rintro key hon rfl -
      rw [passes_vmxDisableInterceptForMsr, if_pos]
      exact ⟨hin, touches_eq_true.mpr ⟨hon, rfl, by rw [honly, decide_eq_true rfl]⟩⟩
    · intro key hframe
      rw [passes_vmxDisableInterceptForMsr, if_neg]
      rintro ⟨-, htouch⟩
      obtain ⟨-, hmsr, haccess⟩ := touches_eq_true.mp htouch
      rw [honly, decide_eq_true_eq] at haccess
      have hkey : key = (msr, access) := Prod.ext hmsr haccess
      rcases hframe with hne | hno
      · exact hne hkey
      · rw [hkey, hyes] at hno
        cases hno
  · rename_i hno
    refine ⟨rfl, rfl, ?_, fun key _ => rfl⟩
    rintro key - rfl hyes
    exact absurd hyes hno

theorem refreshed_refreshSlot {m : BitVec 32 × Nat}
    (hslot : possiblePassthroughMsrSlot m.1 = some m.2) (hin : inMsrBitmap m.1 = true)
    (s : VmxMsrBitmap) : Refreshed h (fun key => key.1 = m.1) s (refreshSlot h s m) := by
  rw [refreshSlot_eq]
  refine ((refreshed_refreshAccess hslot hin s .read).trans
    (refreshed_refreshAccess hslot hin _ .write)).mono fun key => ?_
  obtain ⟨msr, access⟩ := key
  cases access <;> simp

/-- The loop of `vmx_msr_filter_changed` over a part of the table. -/
theorem refreshed_foldl : ∀ {ms : List (BitVec 32 × Nat)} {s : VmxMsrBitmap},
    (∀ m ∈ ms, possiblePassthroughMsrSlot m.1 = some m.2 ∧ inMsrBitmap m.1 = true) →
    Refreshed h (fun key => key.1 ∈ ms.map Prod.fst) s (ms.foldl (refreshSlot h) s)
  | [], s, _ => ⟨rfl, rfl, fun key _ hin => absurd hin (List.not_mem_nil), fun key _ => rfl⟩
  | m :: ms, s, hms => by
    have hm := hms m (List.mem_cons_self ..)
    have ih := refreshed_foldl (s := refreshSlot h s m) fun m' hm' =>
      hms m' (List.mem_cons_of_mem _ hm')
    refine ((refreshed_refreshSlot hm.1 hm.2 s).trans ih).mono fun key => ?_
    rw [List.map_cons, List.mem_cons]

theorem foldl_refreshSlot_off (hoff : h.hasMsrBitmap = false) (s : VmxMsrBitmap) :
    ∀ ms : List (BitVec 32 × Nat), ms.foldl (refreshSlot h) s = s := by
  have hdisable : ∀ (s : VmxMsrBitmap) (msr : BitVec 32) (type : MsrType),
      vmxDisableInterceptForMsr h s msr type = s := by
    intro s msr type
    rw [vmxDisableInterceptForMsr, hoff]
    rfl
  intro ms
  induction ms with
  | nil => rfl
  | cons m ms ih =>
    rw [List.foldl_cons, refreshSlot]
    simp only [hdisable, ite_self]
    exact ih

/-- **The loop over the slots** decides every request again. -/
theorem refreshed_slots (s : VmxMsrBitmap) :
    Refreshed h (fun key => (possiblePassthroughMsrSlot key.1).isSome = true) s
      (vmxPossiblePassthroughMsrs.zipIdx.foldl (refreshSlot h) s) := by
  refine (refreshed_foldl vmxPossiblePassthroughMsrs_zipIdx).mono fun key => ?_
  rw [List.zipIdx_map_fst, possiblePassthroughMsrSlot, List.findIdx?_isSome, List.any_eq_true]
  simp [eq_comm]

/-- The MSRs of processor trace have bits in the bitmap, and no slots. -/
theorem ptMsrs_spec (numAddressRanges : BitVec 3) : ∀ msr ∈ ptMsrs numAddressRanges,
    inMsrBitmap msr = true ∧ possiblePassthroughMsrSlot msr = none := by
  have hfixed : [msrIa32RtitStatus, msrIa32RtitOutputBase, msrIa32RtitOutputMask,
      msrIa32RtitCr3Match].all (fun msr =>
        inMsrBitmap msr && (possiblePassthroughMsrSlot msr).isNone) = true := by
    decide +kernel
  have hranges : (List.range 8).all (fun i => [msrIa32RtitAddr0A, msrIa32RtitAddr0B].all fun base =>
      inMsrBitmap (base + BitVec.ofNat 32 i * 2) &&
        (possiblePassthroughMsrSlot (base + BitVec.ofNat 32 i * 2)).isNone) = true := by
    decide +kernel
  intro msr hmsr
  rw [← Option.isNone_iff_eq_none, ← Bool.and_eq_true]
  rcases List.mem_append.mp hmsr with hmsr | hmsr
  · exact List.all_eq_true.mp hfixed msr hmsr
  · obtain ⟨i, hi, hmsr⟩ := List.mem_flatMap.mp hmsr
    have hlt : i < 8 := Nat.lt_trans (List.mem_range.mp hi) numAddressRanges.isLt
    have hpair := List.all_eq_true.mp hranges i (List.mem_range.mpr hlt)
    rcases List.mem_pair.mp hmsr with rfl | rfl
    · exact List.all_eq_true.mp hpair _ (List.mem_cons_self ..)
    · exact List.all_eq_true.mp hpair _ (List.mem_cons_of_mem _ (List.mem_cons_self ..))

theorem vmxSetInterceptForMsr_config (s : VmxMsrBitmap) (msr : BitVec 32) (type : MsrType)
    (value : Bool) : (vmxSetInterceptForMsr h s msr type value).config = s.config := by
  unfold vmxSetInterceptForMsr
  split
  · exact vmxEnableInterceptForMsr_config h s msr type
  · exact vmxDisableInterceptForMsr_config h s msr type

/-- One intercept of an MSR without a slot. -/
theorem vmxSetInterceptForMsr_spec {msr : BitVec 32} (hin : inMsrBitmap msr = true)
    (hslot : possiblePassthroughMsrSlot msr = none) (s : VmxMsrBitmap) (value : Bool) :
    (vmxSetInterceptForMsr h s msr msrTypeRw value).asked = s.asked ∧
      ∀ key, (vmxSetInterceptForMsr h s msr msrTypeRw value).passes key =
        if h.hasMsrBitmap = true ∧ key.1 = msr then !value && msrAllowed s.vm.msrFilter key
        else s.passes key := by
  have hrw : ∀ access, msrTypeRw.has access = true := by
    intro access
    cases access <;> rfl
  have hnone : ∀ key : BitVec 32 × MsrAccess, key.1 = msr → s.asked key = false := by
    intro key hkey
    rw [VmxMsrBitmap.asked, hkey, hslot]
  unfold vmxSetInterceptForMsr
  cases value with
  | true =>
    refine ⟨funext fun key => ?_, fun key => ?_⟩
    · rw [if_pos rfl, asked_vmxEnableInterceptForMsr]
      split
      · rename_i htouch
        exact (hnone key (touches_eq_true.mp htouch).2.1).symm
      · rfl
    · rw [if_pos rfl, passes_vmxEnableInterceptForMsr]
      simp only [hin, touches_eq_true, hrw, true_and, and_true, Bool.not_true, Bool.false_and]
  | false =>
    refine ⟨funext fun key => ?_, fun key => ?_⟩
    · rw [if_neg Bool.false_ne_true, asked_vmxDisableInterceptForMsr]
      split
      · rename_i htouch
        rw [(touches_eq_true.mp htouch.2).2.1, hslot] at htouch
        cases htouch.1
      · rfl
    · rw [if_neg Bool.false_ne_true, passes_vmxDisableInterceptForMsr]
      simp only [hin, touches_eq_true, hrw, true_and, and_true, Bool.not_false, Bool.true_and]

/-- The calls of `pt_update_intercept_for_msr` for a part of its MSRs. -/
theorem ptUpdate_foldl (value : Bool) : ∀ {ms : List (BitVec 32)} {s : VmxMsrBitmap},
    (∀ msr ∈ ms, inMsrBitmap msr = true ∧ possiblePassthroughMsrSlot msr = none) →
    let t := ms.foldl (fun s msr => vmxSetInterceptForMsr h s msr msrTypeRw value) s
    t.config = s.config ∧ t.asked = s.asked ∧ ∀ key, t.passes key =
      if h.hasMsrBitmap = true ∧ key.1 ∈ ms then !value && msrAllowed s.vm.msrFilter key
      else s.passes key
  | [], s, _ => ⟨rfl, rfl, fun key => by simp⟩
  | msr :: ms, s, hms => by
    obtain ⟨hin, hslot⟩ := hms msr (List.mem_cons_self ..)
    obtain ⟨hasked, hpasses⟩ := vmxSetInterceptForMsr_spec (h := h) hin hslot s value
    have hconfig := vmxSetInterceptForMsr_config (h := h) s msr msrTypeRw value
    have hvm : (vmxSetInterceptForMsr h s msr msrTypeRw value).vm = s.vm :=
      congrArg Prod.fst hconfig
    obtain ⟨ihconfig, ihasked, ihpasses⟩ := ptUpdate_foldl value
      (s := vmxSetInterceptForMsr h s msr msrTypeRw value) fun m hm =>
      hms m (List.mem_cons_of_mem _ hm)
    refine ⟨ihconfig.trans hconfig, ihasked.trans hasked, fun key => ?_⟩
    rw [List.foldl_cons, ihpasses, hpasses, hvm]
    by_cases hon : h.hasMsrBitmap = true
    · by_cases hkey : key.1 = msr
      · simp [hon, hkey]
      · simp [hkey]
    · simp [hon]

/-- **The refresh** decides the requests for the MSRs with a slot, and those of processor trace. -/
theorem passes_vmxMsrFilterChanged (s : VmxMsrBitmap) :
    (vmxMsrFilterChanged h s).config = s.config ∧ (vmxMsrFilterChanged h s).asked = s.asked ∧
      ∀ key, (vmxMsrFilterChanged h s).passes key =
        if h.hasMsrBitmap = true ∧ s.asked key = true then msrAllowed s.vm.msrFilter key
        else if h.hasMsrBitmap = true ∧ h.ptHostGuest = true ∧
          key.1 ∈ ptMsrs s.numAddressRanges then
          s.ptGuestCtl.getLsbD 0 && msrAllowed s.vm.msrFilter key
        else s.passes key := by
  have hslots := refreshed_slots (h := h) s
  have hpasses : ∀ key, (vmxPossiblePassthroughMsrs.zipIdx.foldl (refreshSlot h) s).passes key =
      if h.hasMsrBitmap = true ∧ s.asked key = true then msrAllowed s.vm.msrFilter key
      else s.passes key := by
    intro key
    split
    · rename_i hyes
      refine hslots.covers key hyes.1 ?_ hyes.2
      cases hslot : possiblePassthroughMsrSlot key.1 with
      | none =>
        have hno := hyes.2
        rw [VmxMsrBitmap.asked, hslot] at hno
        cases hno
      | some slot => rfl
    · rename_i hno
      by_cases hasked : s.asked key = true
      · -- without a bitmap no call does anything
        have hoff : h.hasMsrBitmap = false := by
          simpa [hasked] using hno
        rw [foldl_refreshSlot_off hoff]
      · exact hslots.frame key (.inr (Bool.eq_false_iff.mpr hasked))
  unfold vmxMsrFilterChanged
  dsimp only
  generalize vmxPossiblePassthroughMsrs.zipIdx.foldl (refreshSlot h) s = t at hslots hpasses
  split
  · rename_i hpt
    have hctl : t.ptGuestCtl = s.ptGuestCtl := congrArg (·.2.1) hslots.config
    have hnum : t.numAddressRanges = s.numAddressRanges := congrArg (·.2.2) hslots.config
    obtain ⟨hconfig, hasked, hpt'⟩ := ptUpdate_foldl (h := h) (!t.ptGuestCtl.getLsbD 0) (s := t)
      (ptMsrs_spec t.numAddressRanges)
    refine ⟨hconfig.trans hslots.config, hasked.trans hslots.asked, fun key => ?_⟩
    rw [ptUpdateInterceptForMsr, hpt', hpasses, hctl, hnum, hslots.vm, Bool.not_not]
    by_cases hyes : s.asked key = true
    · -- what has a slot is no MSR of processor trace
      have hnot : key.1 ∉ ptMsrs s.numAddressRanges := by
        intro hin
        rw [VmxMsrBitmap.asked, (ptMsrs_spec _ _ hin).2] at hyes
        cases hyes
      simp only [hnot, and_false, if_false]
    · simp only [hyes, hpt, and_false, if_false, true_and, Bool.false_eq_true]
  · rename_i hpt
    refine ⟨hslots.config, hslots.asked, fun key => ?_⟩
    rw [hpasses]
    simp [hpt]

end Refresh

/-! ## Runs -/

/-- What is not asked for does not pass, if it has a slot; without a bitmap nothing passes. -/
structure VmxMsrBitmap.Silent (h : VmxMsrHost) (s : VmxMsrBitmap) : Prop where
  unasked : ∀ key, (possiblePassthroughMsrSlot key.1).isSome = true → s.asked key = false →
    s.passes key = false
  off : h.hasMsrBitmap = false → ∀ key, s.passes key = false

/-- One call keeps silent what nobody asked for. -/
theorem silent_vmxMsrBitmapStep {h : VmxMsrHost} {s : VmxMsrBitmap} (e : VmxMsrEvent)
    (hs : s.Silent h) : (vmxMsrBitmapStep h s e).2.Silent h := by
  cases e with
  | vmxDisableInterceptForMsr msr type =>
    simp only [vmxMsrBitmapStep]
    refine ⟨fun key hslot hno => ?_, fun hoff key => ?_⟩
    · rw [asked_vmxDisableInterceptForMsr] at hno
      rw [passes_vmxDisableInterceptForMsr]
      by_cases htouch : touches h msr type key = true
      · rw [if_pos ⟨hslot, htouch⟩] at hno
        cases hno
      · rw [if_neg (fun hand => htouch hand.2)] at hno ⊢
        exact hs.unasked key hslot hno
    · rw [passes_vmxDisableInterceptForMsr, if_neg]
      · exact hs.off hoff key
      · rw [touches_eq_true, hoff]
        simp
  | vmxEnableInterceptForMsr msr type =>
    simp only [vmxMsrBitmapStep]
    refine ⟨fun key hslot hno => ?_, fun hoff key => ?_⟩
    · rw [asked_vmxEnableInterceptForMsr] at hno
      rw [passes_vmxEnableInterceptForMsr]
      split
      · rfl
      · rename_i hnot
        by_cases htouch : touches h msr type key = true
        · -- an MSR with a slot has bits in the bitmap
          have hin : inMsrBitmap msr = true := by
            rw [← (touches_eq_true.mp htouch).2.1]
            exact inMsrBitmap_of_slot hslot
          exact absurd ⟨hin, htouch⟩ hnot
        · rw [if_neg htouch] at hno
          exact hs.unasked key hslot hno
    · rw [passes_vmxEnableInterceptForMsr]
      split
      · rfl
      · exact hs.off hoff key
  | replaceFilter filter => exact ⟨hs.unasked, hs.off⟩
  | msrFilterChanged =>
    obtain ⟨-, hasked, hpasses⟩ := passes_vmxMsrFilterChanged (h := h) s
    simp only [vmxMsrBitmapStep]
    refine ⟨fun key hslot hno => ?_, fun hoff key => ?_⟩
    · rw [hasked] at hno
      rw [hpasses, hno, if_neg (by simp), if_neg]
      · exact hs.unasked key hslot hno
      · rintro ⟨-, -, hin⟩
        rw [(ptMsrs_spec _ _ hin).2] at hslot
        cases hslot
    · rw [hpasses, hoff]
      simpa using hs.off hoff key
  | ptDesc guestCtl numAddressRanges => exact ⟨hs.unasked, hs.off⟩

/-- Whether a call leaves the bitmap up to date, if it decides that. -/
def VmxMsrEvent.refreshed : VmxMsrEvent → Option Bool
  | .replaceFilter _ => some false
  | .msrFilterChanged => some true
  | _ => none

/-- What a call requests. -/
def VmxMsrEvent.request (key : BitVec 32 × MsrAccess) : VmxMsrEvent → Option Bool
  | .vmxDisableInterceptForMsr msr type =>
    if key.1 = msr ∧ type.has key.2 then some true else none
  | .vmxEnableInterceptForMsr msr type =>
    if key.1 = msr ∧ type.has key.2 then some false else none
  | _ => none

/-- Whether `vmx_msr_filter_changed` revisits an MSR: it has a slot, or processor trace is exposed
and the MSR is one of its own. -/
def revisits (h : VmxMsrHost) (s : VmxMsrBitmap) (msr : BitVec 32) : Bool :=
  (possiblePassthroughMsrSlot msr).isSome ||
    (h.ptHostGuest && (ptMsrs s.numAddressRanges).contains msr)

/-- No refresh finds an MSR that it does not revisit passed through and denied. -/
def NoneLeftBehind (h : VmxMsrHost) (s : VmxMsrBitmap) : VmxMsrEvent → Prop
  | .msrFilterChanged => ∀ key, revisits h s key.1 = false → s.passes key = true →
      kvmMsrAllowed s.vm key.1 key.2.filter = true
  | _ => True

/-- What passes is allowed. -/
def VmxMsrBitmap.Enforces (s : VmxMsrBitmap) : Prop :=
  ∀ key, s.passes key = true → kvmMsrAllowed s.vm key.1 key.2.filter = true

/-- What a refresh enforces. -/
theorem enforces_vmxMsrFilterChanged_iff {h : VmxMsrHost} {s : VmxMsrBitmap} (hs : s.Silent h) :
    (vmxMsrFilterChanged h s).Enforces ↔ NoneLeftBehind h s .msrFilterChanged := by
  obtain ⟨hconfig, -, hpasses⟩ := passes_vmxMsrFilterChanged (h := h) s
  have hvm : (vmxMsrFilterChanged h s).vm = s.vm := congrArg Prod.fst hconfig
  unfold VmxMsrBitmap.Enforces NoneLeftBehind
  rw [hvm]
  constructor
  · intro henforces key hleft hpass
    refine henforces key ?_
    simp only [revisits, Bool.or_eq_false_iff, Bool.and_eq_false_iff, List.contains_eq_mem,
      decide_eq_false_iff_not] at hleft
    have hasked : s.asked key = false := by
      rw [VmxMsrBitmap.asked, Option.isNone_iff_eq_none.mp (Option.isSome_eq_false_iff.mp hleft.1)]
    rw [hpasses, hasked, if_neg (by simp), if_neg]
    · exact hpass
    · rintro ⟨-, hpt, hin⟩
      rcases hleft.2 with hoff | hout
      · rw [hpt] at hoff
        cases hoff
      · exact hout hin
  · intro hnone key hpass
    rw [hpasses] at hpass
    split at hpass
    · exact hpass
    · rename_i hasked
      split at hpass
      · exact (Bool.and_eq_true_iff.mp hpass).2
      · rename_i hpt
        have hon : h.hasMsrBitmap = true := by
          by_contra hoff
          rw [hs.off (Bool.eq_false_iff.mpr hoff) key] at hpass
          cases hpass
        refine hnone key ?_ hpass
        simp only [hon, true_and] at hasked hpt
        simp only [revisits, Bool.or_eq_false_iff, Bool.and_eq_false_iff, List.contains_eq_mem,
          decide_eq_false_iff_not]
        constructor
        · by_contra hslot
          have hsome := (Bool.not_eq_false _).mp hslot
          rw [hs.unasked key hsome (Bool.eq_false_iff.mpr hasked)] at hpass
          cases hpass
        · by_cases hptHost : h.ptHostGuest = true
          · exact .inr fun hin => hpt ⟨hptHost, hin⟩
          · exact .inl (Bool.eq_false_iff.mpr hptHost)

/-- The calls that change neither the filter nor the map of the others keep it enforced. -/
theorem enforces_vmxMsrBitmapStep {h : VmxMsrHost} {s : VmxMsrBitmap} {e : VmxMsrEvent}
    (he : e.refreshed = none) (hs : s.Enforces) : (vmxMsrBitmapStep h s e).2.Enforces := by
  cases e with
  | vmxDisableInterceptForMsr msr type =>
    intro key hpass
    simp only [vmxMsrBitmapStep] at hpass ⊢
    rw [passes_vmxDisableInterceptForMsr] at hpass
    rw [vm_vmxDisableInterceptForMsr]
    split at hpass
    · exact hpass
    · exact hs key hpass
  | vmxEnableInterceptForMsr msr type =>
    intro key hpass
    simp only [vmxMsrBitmapStep] at hpass ⊢
    rw [passes_vmxEnableInterceptForMsr] at hpass
    rw [vm_vmxEnableInterceptForMsr]
    split at hpass
    · cases hpass
    · exact hs key hpass
  | replaceFilter filter => cases he
  | msrFilterChanged => cases he
  | ptDesc guestCtl numAddressRanges => exact hs

/-- The first state: nothing is requested, and nothing passes. -/
theorem silent_initial (h : VmxMsrHost) (vm : Vm) : ({ vm := vm } : VmxMsrBitmap).Silent h :=
  ⟨fun _ _ _ => rfl, fun _ _ => rfl⟩

theorem asked_initial (vm : Vm) (key : BitVec 32 × MsrAccess) :
    ({ vm := vm } : VmxMsrBitmap).asked key = false := by
  unfold VmxMsrBitmap.asked
  split
  · rfl
  · cases key.2 <;> rfl

/-- A request for an MSR with a slot is what the shadow keeps. -/
theorem asked_vmxMsrBitmapStep {h : VmxMsrHost} (hon : h.hasMsrBitmap = true)
    {key : BitVec 32 × MsrAccess} (hslot : (possiblePassthroughMsrSlot key.1).isSome = true)
    (s : VmxMsrBitmap) (e : VmxMsrEvent) :
    (vmxMsrBitmapStep h s e).2.asked key = (e.request key).getD (s.asked key) := by
  cases e with
  | vmxDisableInterceptForMsr msr type =>
    simp only [vmxMsrBitmapStep, VmxMsrEvent.request, asked_vmxDisableInterceptForMsr, hslot,
      true_and, touches_eq_true, hon]
    split <;> rfl
  | vmxEnableInterceptForMsr msr type =>
    simp only [vmxMsrBitmapStep, VmxMsrEvent.request, asked_vmxEnableInterceptForMsr,
      touches_eq_true, hon, true_and]
    split <;> rfl
  | replaceFilter filter => rfl
  | msrFilterChanged => exact congrFun (passes_vmxMsrFilterChanged s).2.1 key
  | ptDesc guestCtl numAddressRanges => rfl

/-- What is asked for and allowed passes. -/
def VmxMsrBitmap.Serves (s : VmxMsrBitmap) (key : BitVec 32 × MsrAccess) : Prop :=
  s.asked key = true → kvmMsrAllowed s.vm key.1 key.2.filter = true → s.passes key = true

theorem serves_vmxMsrFilterChanged {h : VmxMsrHost} (hon : h.hasMsrBitmap = true)
    (s : VmxMsrBitmap) (key : BitVec 32 × MsrAccess) : (vmxMsrFilterChanged h s).Serves key := by
  obtain ⟨hconfig, hasked, hpasses⟩ := passes_vmxMsrFilterChanged (h := h) s
  have hvm : (vmxMsrFilterChanged h s).vm = s.vm := congrArg Prod.fst hconfig
  intro hyes hallowed
  rw [hasked] at hyes
  rw [hvm] at hallowed
  rw [hpasses, if_pos ⟨hon, hyes⟩]
  exact hallowed

theorem serves_vmxMsrBitmapStep {h : VmxMsrHost} {key : BitVec 32 × MsrAccess}
    (hslot : (possiblePassthroughMsrSlot key.1).isSome = true) {s : VmxMsrBitmap}
    {e : VmxMsrEvent} (he : e.refreshed = none) (hs : s.Serves key) :
    (vmxMsrBitmapStep h s e).2.Serves key := by
  have hin := inMsrBitmap_of_slot hslot
  cases e with
  | vmxDisableInterceptForMsr msr type =>
    intro hasked hallowed
    simp only [vmxMsrBitmapStep] at hasked hallowed ⊢
    rw [vm_vmxDisableInterceptForMsr] at hallowed
    rw [asked_vmxDisableInterceptForMsr] at hasked
    rw [passes_vmxDisableInterceptForMsr]
    by_cases htouch : touches h msr type key = true
    · rw [if_pos ⟨(touches_eq_true.mp htouch).2.1 ▸ hin, htouch⟩]
      exact hallowed
    · rw [if_neg (fun hand => htouch hand.2)] at hasked ⊢
      exact hs hasked hallowed
  | vmxEnableInterceptForMsr msr type =>
    intro hasked hallowed
    simp only [vmxMsrBitmapStep] at hasked hallowed ⊢
    rw [vm_vmxEnableInterceptForMsr] at hallowed
    rw [asked_vmxEnableInterceptForMsr] at hasked
    rw [passes_vmxEnableInterceptForMsr]
    split at hasked
    · cases hasked
    · rename_i htouch
      rw [if_neg (fun hand => htouch hand.2)]
      exact hs hasked hallowed
  | replaceFilter filter => cases he
  | msrFilterChanged => cases he
  | ptDesc guestCtl numAddressRanges => exact hs

/-- A guest that keeps LBR_SELECT after the filter has taken it away. -/
def lbrEvents : List VmxMsrEvent :=
  [.vmxDisableInterceptForMsr msrLbrSelect msrTypeRw,
   .replaceFilter (some { defaultAllow := false, ranges := [] }),
   .msrFilterChanged]

/-- The refresh leaves a denied LBR MSR passed through. -/
theorem lbrPassesDenied :
    let s := Runs.final (vmxMsrBitmapStep {}) {} lbrEvents
    isValidPassthroughMsr msrLbrSelect = true ∧
      Runs.last VmxMsrEvent.refreshed lbrEvents = some true ∧
      s.passes (msrLbrSelect, .write) = true ∧
      kvmMsrAllowed s.vm msrLbrSelect MsrAccess.write.filter = false := by
  decide +kernel

/-- **The bitmap enforces the MSR filter** after any calls of which the last to replace the filter
is followed by `vmx_msr_filter_changed`, if no refresh leaves a denied MSR behind that it does not
revisit; a refresh enforces the filter exactly then.  In any case the MSRs with a slot pass where
they were requested last and the filter allows them. -/
theorem vmxMsrBitmap_enforces (h : VmxMsrHost) (vm : Vm) (es : List VmxMsrEvent)
    (hrefreshed : Runs.last VmxMsrEvent.refreshed es ≠ some false) :
    let s := Runs.final (vmxMsrBitmapStep h) { vm := vm } es
    (Runs.Each (vmxMsrBitmapStep h) (NoneLeftBehind h) { vm := vm } es →
      ∀ key, s.passes key = true → kvmMsrAllowed s.vm key.1 key.2.filter = true) ∧
    ((∀ key, (vmxMsrFilterChanged h s).passes key = true →
        kvmMsrAllowed (vmxMsrFilterChanged h s).vm key.1 key.2.filter = true) ↔
      NoneLeftBehind h s .msrFilterChanged) ∧
    (h.hasMsrBitmap = true → ∀ key, key.1 ∈ vmxPossiblePassthroughMsrs →
      Runs.last (VmxMsrEvent.request key) es = some true →
      kvmMsrAllowed s.vm key.1 key.2.filter = true → s.passes key = true) := by
  intro s
  have hupToDate := Runs.last_getD_true hrefreshed
  refine ⟨fun heach => ?_, ?_, ?_⟩
  · have heach' := Runs.each_and_of_induct (fun s e _ => silent_vmxMsrBitmapStep e) es heach
      (silent_initial h vm)
    have henforces : s.Enforces := by
      refine Runs.final_of_last (fun s e hP he => ?_) (fun s e _ => enforces_vmxMsrBitmapStep) es
        (b := true) heach' (fun _ _ hpass => ?_) hupToDate
      · cases e with
        | msrFilterChanged => exact (enforces_vmxMsrFilterChanged_iff hP.2).mpr hP.1
        | _ => cases he
      · cases hpass
    exact henforces
  · exact enforces_vmxMsrFilterChanged_iff
      (Runs.final_induct (fun s e => silent_vmxMsrBitmapStep e) es (silent_initial h vm))
  · intro hon key hmem hrequest
    have hslot : (possiblePassthroughMsrSlot key.1).isSome = true := by
      rw [possiblePassthroughMsrSlot, List.findIdx?_isSome, List.any_eq_true]
      exact ⟨key.1, hmem, decide_eq_true rfl⟩
    have htrivial : Runs.Each (vmxMsrBitmapStep h) (fun _ _ => True) { vm := vm } es :=
      Runs.each_of_forall (fun _ _ => trivial) es _
    have hasked : s.asked key = true := by
      have hlast := Runs.final_last (fun s : VmxMsrBitmap => s.asked key)
        (fun s e _ => asked_vmxMsrBitmapStep hon hslot s e) es htrivial
      rw [hrequest] at hlast
      exact hlast
    have hserves : s.Serves key := by
      refine Runs.final_of_last (U := fun s => s.Serves key) (fun s e _ he => ?_)
        (fun s e _ => serves_vmxMsrBitmapStep hslot) es (b := true) htrivial
        (fun _ hno => ?_) hupToDate
      · cases e with
        | msrFilterChanged => exact serves_vmxMsrFilterChanged hon s key
        | _ => cases he
      · rw [asked_initial] at hno
        cases hno
    exact hserves hasked

/-- A guest that is given FS_BASE under a filter that allows every MSR. -/
def fsBaseEvents : List VmxMsrEvent :=
  [.vmxDisableInterceptForMsr msrFsBase msrTypeRw,
   .replaceFilter (some { defaultAllow := true, ranges := [] }),
   .msrFilterChanged]

theorem vmxMsrBitmap_enforces_fsBase :
    let s := Runs.final (vmxMsrBitmapStep {}) {} fsBaseEvents
    (∀ key, s.passes key = true → kvmMsrAllowed s.vm key.1 key.2.filter = true) ∧
      s.passes (msrFsBase, .read) = true := by
  obtain ⟨henforces, -, hserves⟩ := vmxMsrBitmap_enforces {} {} fsBaseEvents (by decide)
  refine ⟨henforces ⟨trivial, trivial, fun key _ _ => ?_, trivial⟩, ?_⟩
  · exact ite_self (c := 0x800 ≤ key.1 ∧ key.1 ≤ 0x8ff) true
  · exact hserves rfl (msrFsBase, .read) (by decide) (by decide) (by decide)

end Kvm
