import Mathlib.Logic.Function.Basic
import PveAntiDetection.Lib.Bits
import PveAntiDetection.Lib.Grants
import PveAntiDetection.Kvm.Vcpu

/-!
# The MSR permission map of SVM

The MSRs that a guest may access on SVM without an exit.

* `svmMsrpmOffset` — the word of the permission map; `svmMsrpmOffset_injective` — with the bit in
  the word, it belongs to one MSR;
* `SvmMsrpm`, `svmMsrpmStep` — the map, the shadow of the requests, and the calls that write them;
* `grants_svmMsrpmStep` — the map keeps what the filter grants of the requests;
* `svmMsrpm_enforces` — it does after every run that ends with the map refreshed.
-/

set_option autoImplicit false

namespace Kvm

open Bits

/-! ## Tables -/

/-- `X2APIC_MSR`. -/
def x2apicMsr (x : BitVec 32) : BitVec 32 := 0x800 + (x >>> 4)

/-- `direct_access_msrs` up to `MSR_INVALID`: the MSR, and whether it is passed through at once. -/
def directAccessMsrs : List (BitVec 32 × Bool) :=
  [(0xc0000081, true), -- STAR
   (0x174, true), -- IA32_SYSENTER_CS
   (msrIa32SysenterEip, false),
   (msrIa32SysenterEsp, false),
   (msrGsBase, true),
   (msrFsBase, true),
   (msrKernelGsBase, true),
   (msrLstar, true),
   (msrCstar, true),
   (0xc0000084, true), -- SYSCALL_MASK
   (0x48, false), -- IA32_SPEC_CTRL
   (0x49, false), -- IA32_PRED_CMD
   (0x10b, false), -- IA32_FLUSH_CMD
   (msrIa32Debugctl, false),
   (0x1db, false), -- IA32_LASTBRANCHFROMIP
   (0x1dc, false), -- IA32_LASTBRANCHTOIP
   (0x1dd, false), -- IA32_LASTINTFROMIP
   (0x1de, false), -- IA32_LASTINTTOIP
   (0xda0, false), -- IA32_XSS
   (0xc0000080, false), -- EFER
   (0x277, false), -- IA32_CR_PAT
   (0xc0010130, true), -- AMD64_SEV_ES_GHCB
   (msrTscAux, false),
   (x2apicMsr 0x20, false), -- ID
   (x2apicMsr 0x30, false), -- LVR
   (x2apicMsr 0x80, false), -- TASKPRI
   (x2apicMsr 0x90, false), -- ARBPRI
   (x2apicMsr 0xa0, false), -- PROCPRI
   (x2apicMsr 0xb0, false), -- EOI
   (x2apicMsr 0xc0, false), -- RRR
   (x2apicMsr 0xd0, false), -- LDR
   (x2apicMsr 0xe0, false), -- DFR
   (x2apicMsr 0xf0, false), -- SPIV
   (x2apicMsr 0x100, false), -- ISR
   (x2apicMsr 0x180, false), -- TMR
   (x2apicMsr 0x200, false), -- IRR
   (x2apicMsr 0x280, false), -- ESR
   (x2apicMsr 0x300, false), -- ICR
   (x2apicMsr 0x310, false), -- ICR2
   -- LVTT is always intercepted
   (x2apicMsr 0x330, false), -- LVTTHMR
   (x2apicMsr 0x340, false), -- LVTPC
   (x2apicMsr 0x350, false), -- LVT0
   (x2apicMsr 0x360, false), -- LVT1
   (x2apicMsr 0x370, false), -- LVTERR
   (x2apicMsr 0x380, false), -- TMICT
   (x2apicMsr 0x390, false), -- TMCCT
   (x2apicMsr 0x3e0, false)] -- TDCR

/-- `direct_access_msr_slot`. -/
def directAccessMsrSlot (msr : BitVec 32) : Option Nat :=
  directAccessMsrs.findIdx? fun m => m.1 = msr

/-- `valid_msr_intercept`. -/
def validMsrIntercept (msr : BitVec 32) : Bool := (directAccessMsrSlot msr).isSome

/-- `msrpm_ranges`. -/
def msrpmRanges : List (BitVec 32) := [0, 0xc0000000, 0xc0010000]

/-- `MSRS_RANGE_SIZE`. -/
def msrsRangeSize : Nat := 2048

/-- `MSRS_IN_RANGE`. -/
def msrsInRange : BitVec 32 := 8192

/-- The loop over the ranges, from the `i`-th on. -/
def msrpmOffsetFrom (msr : BitVec 32) : Nat → List (BitVec 32) → Option Nat
  | _, [] => none
  | i, base :: bases =>
    if msr < base ∨ base + msrsInRange ≤ msr then msrpmOffsetFrom msr (i + 1) bases
    else
      -- four MSRs in a byte, and four bytes in a word
      some (((msr - base).toNat / 4 + i * msrsRangeSize) / 4)

/-- `svm_msrpm_offset`; `none` is `MSR_INVALID`. -/
def svmMsrpmOffset (msr : BitVec 32) : Option Nat := msrpmOffsetFrom msr 0 msrpmRanges

/-- The bit of an access in its word. -/
def msrpmBit : BitVec 32 × MsrAccess → Nat
  | (msr, .read) => 2 * (msr &&& 0x0f).toNat
  | (msr, .write) => 2 * (msr &&& 0x0f).toNat + 1

/-! ## The map -/

/-- The permission map, the requests by slot, and the filter of the VM.  A bit of the map that is
set intercepts. -/
structure SvmMsrpm where
  /-- `shadow_msr_intercept.read` and `shadow_msr_intercept.write`. -/
  shadowRead : Nat → Bool := fun _ => false
  shadowWrite : Nat → Bool := fun _ => false
  /-- `svm_vcpu_alloc_msrpm` sets every bit. -/
  msrpm : Nat → BitVec 32 := fun _ => BitVec.allOnes 32
  vm : Vm := {}

/-- `set_shadow_msr_intercept`. -/
def setShadowMsrIntercept (s : SvmMsrpm) (msr : BitVec 32) (read write : Bool) : SvmMsrpm :=
  match directAccessMsrSlot msr with
  | none => s
  | some slot =>
    { s with
      shadowRead := Function.update s.shadowRead slot read
      shadowWrite := Function.update s.shadowWrite slot write }

/-- `set_msr_interception_bitmap`. -/
def setMsrInterceptionBitmap (s : SvmMsrpm) (msr : BitVec 32) (read write : Bool) : SvmMsrpm :=
  -- MSRs that are not allowed are forced to trap
  let read := read && kvmMsrAllowed s.vm msr msrFilterRead
  let write := write && kvmMsrAllowed s.vm msr msrFilterWrite
  match svmMsrpmOffset msr with
  | none => s
  | some offset =>
    let tmp := s.msrpm offset
    let tmp := putBit tmp (msrpmBit (msr, .read)) (!read)
    let tmp := putBit tmp (msrpmBit (msr, .write)) (!write)
    { s with msrpm := Function.update s.msrpm offset tmp }

/-- `set_msr_interception`. -/
def setMsrInterception (s : SvmMsrpm) (msr : BitVec 32) (read write : Bool) : SvmMsrpm :=
  setMsrInterceptionBitmap (setShadowMsrIntercept s msr read write) msr read write

/-- `svm_msr_filter_changed`. -/
def svmMsrFilterChanged (s : SvmMsrpm) : SvmMsrpm :=
  directAccessMsrs.zipIdx.foldl
    (fun s m => setMsrInterceptionBitmap s m.1.1 (s.shadowRead m.2) (s.shadowWrite m.2)) s

/-- The calls that write to the map, and the ioctl that replaces the filter. -/
inductive MsrpmEvent where
  | setMsrInterception (msr : BitVec 32) (read write : Bool)
  | replaceFilter (filter : Option MsrFilter)
  | msrFilterChanged

/-- One call. -/
def svmMsrpmStep (s : SvmMsrpm) : MsrpmEvent → Unit × SvmMsrpm
  | .setMsrInterception msr read write => ((), setMsrInterception s msr read write)
  | .replaceFilter filter => ((), { s with vm := { s.vm with msrFilter := filter } })
  | .msrFilterChanged => ((), svmMsrFilterChanged s)

/-! ## Positions -/

theorem msr_and_15 (msr : BitVec 32) : (msr &&& 0x0f).toNat = msr.toNat % 16 := by
  rw [BitVec.toNat_and]
  exact Nat.and_two_pow_sub_one_eq_mod _ 4

/-- One round of the loop, for a range that does not wrap. -/
theorem msrpmOffsetFrom_cons {msr base : BitVec 32} {i : Nat} {bases : List (BitVec 32)}
    (hbase : base.toNat + 8192 < 2 ^ 32) :
    msrpmOffsetFrom msr i (base :: bases) =
      if base.toNat ≤ msr.toNat ∧ msr.toNat < base.toNat + 8192 then
        some ((msr.toNat - base.toNat) / 16 + i * 512)
      else msrpmOffsetFrom msr (i + 1) bases := by
  have hend : (base + msrsInRange).toNat = base.toNat + 8192 := by
    rw [BitVec.toNat_add, show msrsInRange.toNat = 8192 from rfl, Nat.mod_eq_of_lt hbase]
  have hmsr := msr.isLt
  simp only [msrpmOffsetFrom, BitVec.lt_def, BitVec.le_def, hend]
  split
  · rename_i hout
    rw [if_neg (by omega)]
  · rename_i hin
    rw [if_pos (by omega), BitVec.toNat_sub, msrsRangeSize]
    exact congrArg some (by omega)

/-- The ranges are aligned, and each has its own words. -/
theorem svmMsrpmOffset_eq {msr : BitVec 32} {offset : Nat} (h : svmMsrpmOffset msr = some offset) :
    ∃ base, (base, offset / 512) ∈ [(0, 0), (0xc0000000, 1), (0xc0010000, 2)] ∧
      msr.toNat = base + (offset % 512) * 16 + msr.toNat % 16 := by
  unfold svmMsrpmOffset msrpmRanges at h
  rw [msrpmOffsetFrom_cons (by decide), msrpmOffsetFrom_cons (by decide),
    msrpmOffsetFrom_cons (by decide), show (0 : BitVec 32).toNat = 0 from rfl,
    show (0xc0000000 : BitVec 32).toNat = 0xc0000000 from rfl,
    show (0xc0010000 : BitVec 32).toNat = 0xc0010000 from rfl] at h
  simp only [List.mem_cons, Prod.mk.injEq, List.not_mem_nil, or_false]
  split at h
  · cases h
    exact ⟨0, by omega, by omega⟩
  · split at h
    · cases h
      exact ⟨0xc0000000, by omega, by omega⟩
    · split at h
      · cases h
        exact ⟨0xc0010000, by omega, by omega⟩
      · cases h

/-- **A word and a bit of the map** belong to one access to one MSR. -/
theorem svmMsrpmOffset_injective {key key' : BitVec 32 × MsrAccess} {offset : Nat}
    (h : svmMsrpmOffset key.1 = some offset) (h' : svmMsrpmOffset key'.1 = some offset)
    (hbit : msrpmBit key = msrpmBit key') : key = key' := by
  obtain ⟨msr, access⟩ := key
  obtain ⟨msr', access'⟩ := key'
  obtain ⟨base, hbase, heq⟩ := svmMsrpmOffset_eq h
  obtain ⟨base', hbase', heq'⟩ := svmMsrpmOffset_eq h'
  simp only [List.mem_cons, Prod.mk.injEq, List.not_mem_nil, or_false] at hbase hbase' heq heq'
  cases access <;> cases access' <;> simp only [msrpmBit, msr_and_15] at hbit
  · have : msr = msr' := BitVec.eq_of_toNat_eq (by omega)
    rw [this]
  · omega
  · omega
  · have : msr = msr' := BitVec.eq_of_toNat_eq (by omega)
    rw [this]

/-! ## What the filter grants -/

/-- Whether the guest may access an MSR without an exit. -/
def SvmMsrpm.passes (s : SvmMsrpm) (key : BitVec 32 × MsrAccess) : Bool :=
  match svmMsrpmOffset key.1 with
  | none => false
  | some offset => !(s.msrpm offset).getLsbD (msrpmBit key)

/-- The shadow bitmap of an access. -/
def SvmMsrpm.shadow (s : SvmMsrpm) : MsrAccess → Nat → Bool
  | .read => s.shadowRead
  | .write => s.shadowWrite

/-- Whether pass-through was requested. -/
def SvmMsrpm.asked (s : SvmMsrpm) (key : BitVec 32 × MsrAccess) : Bool :=
  match directAccessMsrSlot key.1 with
  | none => false
  | some slot => s.shadow key.2 slot

/-- The map as what the filter grants of the requests. -/
def SvmMsrpm.grants (s : SvmMsrpm) : Grants.State (BitVec 32 × MsrAccess) (Option MsrFilter) where
  policy := s.vm.msrFilter
  asked := s.asked
  granted := s.passes

/-- `read` or `write`. -/
def accessOf (read write : Bool) : MsrAccess → Bool
  | .read => read
  | .write => write

/-- What a call requests. -/
def MsrpmEvent.request (key : BitVec 32 × MsrAccess) : MsrpmEvent → Option Bool
  | .setMsrInterception msr read write =>
    if key.1 = msr then some (accessOf read write key.2) else none
  | _ => none

/-- What a call changes. -/
def MsrpmEvent.change :
    MsrpmEvent → Grants.Change (BitVec 32 × MsrAccess) (Option MsrFilter)
  | .setMsrInterception msr read write =>
    .ask fun key => MsrpmEvent.request key (.setMsrInterception msr read write)
  | .replaceFilter filter => .replace filter
  | .msrFilterChanged => .refresh fun key => validMsrIntercept key.1

/-- `WARN_ON(!valid_msr_intercept(msr))`: requests are for MSRs of the table. -/
def MsrpmEvent.Valid : MsrpmEvent → Prop
  | .setMsrInterception msr _ _ => validMsrIntercept msr = true
  | _ => True

/-- The MSRs of the table have a word. -/
theorem svmMsrpmOffset_valid {msr : BitVec 32} (h : validMsrIntercept msr = true) :
    ∃ offset, svmMsrpmOffset msr = some offset := by
  have hall : directAccessMsrs.all (fun m => (svmMsrpmOffset m.1).isSome) = true := by
    decide +kernel
  obtain ⟨slot, hslot⟩ := Option.isSome_iff_exists.mp h
  obtain ⟨hlt, hmsr, -⟩ := List.findIdx?_eq_some_iff_getElem.mp hslot
  have hsome := List.all_eq_true.mp hall _ (List.getElem_mem hlt)
  rw [of_decide_eq_true hmsr] at hsome
  exact Option.isSome_iff_exists.mp hsome

/-- Every MSR of the table is found at its own slot. -/
theorem directAccessMsrSlot_zipIdx :
    ∀ m ∈ directAccessMsrs.zipIdx, directAccessMsrSlot m.1.1 = some m.2 := by
  decide +kernel

@[simp] theorem setMsrInterceptionBitmap_keeps (s : SvmMsrpm) (msr : BitVec 32)
    (read write : Bool) :
    (setMsrInterceptionBitmap s msr read write).vm = s.vm ∧
      (setMsrInterceptionBitmap s msr read write).asked = s.asked := by
  unfold setMsrInterceptionBitmap
  dsimp only
  split <;> exact ⟨rfl, rfl⟩

/-- **One word of the map** is written, and in it the two bits of the MSR. -/
theorem passes_setMsrInterceptionBitmap {s : SvmMsrpm} {msr : BitVec 32}
    (hmsr : validMsrIntercept msr = true) (read write : Bool) (key : BitVec 32 × MsrAccess) :
    (setMsrInterceptionBitmap s msr read write).passes key =
      if key.1 = msr then accessOf read write key.2 && msrAllowed s.vm.msrFilter key
      else s.passes key := by
  obtain ⟨offset, hoffset⟩ := svmMsrpmOffset_valid hmsr
  have hlt : ∀ access, msrpmBit (msr, access) < 32 := by
    intro access
    cases access <;> simp only [msrpmBit, msr_and_15] <;> omega
  unfold setMsrInterceptionBitmap SvmMsrpm.passes
  simp only [hoffset]
  cases hkey : svmMsrpmOffset key.1 with
  | none =>
    rw [if_neg]
    rintro rfl
    rw [hoffset] at hkey
    cases hkey
  | some offset' =>
    by_cases hword : offset' = offset
    · subst hword
      simp only [Function.update_self, getLsbD_putBit (hlt _)]
      obtain ⟨msr', access⟩ := key
      by_cases hsame : msr' = msr
      · subst hsame
        cases access with
        | read =>
          have hne : msrpmBit (msr', .read) ≠ msrpmBit (msr', .write) :=
            Nat.ne_of_lt (Nat.lt_succ_self _)
          rw [if_neg hne, if_pos rfl, if_pos rfl, Bool.not_not]
          rfl
        | write =>
          rw [if_pos rfl, if_pos rfl, Bool.not_not]
          rfl
      · have hbit : ∀ access', msrpmBit (msr', access) ≠ msrpmBit (msr, access') := by
          intro access' hbit
          have hkeys : (msr', access) = (msr, access') :=
            svmMsrpmOffset_injective hkey hoffset hbit
          exact hsame (congrArg Prod.fst hkeys)
        rw [if_neg (hbit _), if_neg (hbit _), if_neg hsame]
    · rw [if_neg]
      · simp only [Function.update_of_ne hword]
      · rintro rfl
        rw [hoffset] at hkey
        exact hword (Option.some.inj hkey).symm

/-- The shadow keeps the request. -/
theorem asked_setShadowMsrIntercept {s : SvmMsrpm} {msr : BitVec 32}
    (hmsr : validMsrIntercept msr = true) (read write : Bool) (key : BitVec 32 × MsrAccess) :
    (setShadowMsrIntercept s msr read write).asked key =
      if key.1 = msr then accessOf read write key.2 else s.asked key := by
  obtain ⟨slot, hslot⟩ := Option.isSome_iff_exists.mp hmsr
  obtain ⟨msr', access⟩ := key
  unfold setShadowMsrIntercept SvmMsrpm.asked
  simp only [hslot]
  by_cases hsame : msr' = msr
  · subst hsame
    simp only [hslot, if_true]
    cases access <;> exact Function.update_self ..
  · rw [if_neg hsame]
    cases hkey : directAccessMsrSlot msr' with
    | none => rfl
    | some slot' =>
      -- two MSRs do not share a slot
      have hne : slot' ≠ slot := by
        rintro rfl
        obtain ⟨hlt, hfst, -⟩ := List.findIdx?_eq_some_iff_getElem.mp hslot
        obtain ⟨hlt', hfst', -⟩ := List.findIdx?_eq_some_iff_getElem.mp hkey
        exact hsame ((of_decide_eq_true hfst').symm.trans (of_decide_eq_true hfst))
      cases access <;> exact Function.update_of_ne hne ..

/-- The loop of `svm_msr_filter_changed` over a part of the table. -/
theorem passes_foldl {ms : List ((BitVec 32 × Bool) × Nat)} : ∀ {s : SvmMsrpm},
    (∀ m ∈ ms, directAccessMsrSlot m.1.1 = some m.2) →
    let t := ms.foldl (fun s m => setMsrInterceptionBitmap s m.1.1 (s.shadowRead m.2)
      (s.shadowWrite m.2)) s
    t.vm = s.vm ∧ t.asked = s.asked ∧ ∀ key, t.passes key =
      if key.1 ∈ ms.map (fun m => m.1.1) then s.asked key && msrAllowed s.vm.msrFilter key
      else s.passes key := by
  induction ms with
  | nil => exact fun _ => ⟨rfl, rfl, fun key => by simp⟩
  | cons m ms ih =>
    intro s hms
    have hm := hms m (List.mem_cons_self ..)
    have hkeep := setMsrInterceptionBitmap_keeps s m.1.1 (s.shadowRead m.2) (s.shadowWrite m.2)
    have hvalid : validMsrIntercept m.1.1 = true := by
      rw [validMsrIntercept, hm]
      rfl
    have hpass := passes_setMsrInterceptionBitmap (s := s) hvalid (s.shadowRead m.2)
      (s.shadowWrite m.2)
    obtain ⟨hvm, hasked, hpasses⟩ := ih (s := setMsrInterceptionBitmap s m.1.1 (s.shadowRead m.2)
      (s.shadowWrite m.2)) fun m' hm' => hms m' (List.mem_cons_of_mem _ hm')
    refine ⟨hvm.trans hkeep.1, hasked.trans hkeep.2, fun key => ?_⟩
    rw [List.foldl_cons, hpasses, hkeep.1, hkeep.2, hpass]
    by_cases hkey : key.1 = m.1.1
    · have hshadow : accessOf (s.shadowRead m.2) (s.shadowWrite m.2) key.2 = s.asked key := by
        unfold SvmMsrpm.asked
        rw [hkey, hm]
        cases key.2 <;> rfl
      simp [hkey, hshadow]
    · have hmem : key.1 ∈ (m :: ms).map (fun m => m.1.1) ↔ key.1 ∈ ms.map (fun m => m.1.1) := by
        rw [List.map_cons, List.mem_cons, or_iff_right hkey]
      rw [if_neg hkey]
      by_cases hin : key.1 ∈ ms.map (fun m => m.1.1)
      · rw [if_pos hin, if_pos (hmem.mpr hin)]
      · rw [if_neg hin, if_neg (mt hmem.mp hin)]

/-- **A call is a change of what the filter grants.** -/
theorem grants_svmMsrpmStep {s : SvmMsrpm} {e : MsrpmEvent} (he : e.Valid) :
    (svmMsrpmStep s e).2.grants =
      (Grants.step msrAllowed s.grants e.change).2 := by
  cases e with
  | setMsrInterception msr read write =>
    have hkeep := setMsrInterceptionBitmap_keeps (setShadowMsrIntercept s msr read write) msr
      read write
    have hvm : (setShadowMsrIntercept s msr read write).vm = s.vm := by
      unfold setShadowMsrIntercept
      split <;> rfl
    have hpasses : (setShadowMsrIntercept s msr read write).passes = s.passes := by
      unfold setShadowMsrIntercept
      split <;> rfl
    have hasked : (setMsrInterception s msr read write).asked = fun key =>
        (MsrpmEvent.request key (.setMsrInterception msr read write)).getD (s.asked key) := by
      funext key
      rw [setMsrInterception, hkeep.2, asked_setShadowMsrIntercept he]
      simp only [MsrpmEvent.request]
      split <;> rfl
    have hgranted : (setMsrInterception s msr read write).passes = fun key =>
        ((MsrpmEvent.request key (.setMsrInterception msr read write)).map fun v =>
          v && msrAllowed s.vm.msrFilter key).getD (s.passes key) := by
      funext key
      rw [setMsrInterception, passes_setMsrInterceptionBitmap he, hvm, hpasses]
      simp only [MsrpmEvent.request]
      split <;> rfl
    have hfilter : (setMsrInterception s msr read write).vm = s.vm := hkeep.1.trans hvm
    simp only [svmMsrpmStep, SvmMsrpm.grants, MsrpmEvent.change, Grants.step, hasked, hgranted,
      hfilter]
  | replaceFilter filter => rfl
  | msrFilterChanged =>
    obtain ⟨hvm, hasked, hpasses⟩ := passes_foldl (s := s) directAccessMsrSlot_zipIdx
    have hgranted : (svmMsrFilterChanged s).passes = fun key =>
        if validMsrIntercept key.1 then s.asked key && msrAllowed s.vm.msrFilter key
        else s.passes key := by
      funext key
      have hmem : key.1 ∈ directAccessMsrs.zipIdx.map (fun m => m.1.1) ↔
          validMsrIntercept key.1 = true := by
        have hmap : directAccessMsrs.zipIdx.map (fun m => m.1.1) =
            directAccessMsrs.map Prod.fst := by
          show directAccessMsrs.zipIdx.map (Prod.fst ∘ Prod.fst) = _
          rw [← List.map_map, List.zipIdx_map_fst]
        rw [hmap, validMsrIntercept, directAccessMsrSlot, List.findIdx?_isSome, List.any_eq_true]
        simp [eq_comm]
      rw [svmMsrFilterChanged, hpasses]
      simp only [hmem]
    simp only [svmMsrpmStep, SvmMsrpm.grants, MsrpmEvent.change, Grants.step, hgranted]
    rw [svmMsrFilterChanged, hvm, hasked]
    rfl

/-! ## Runs -/

/-- Whether a call leaves the map up to date, if it decides that. -/
def MsrpmEvent.refreshed : MsrpmEvent → Option Bool
  | .setMsrInterception .. => none
  | .replaceFilter _ => some false
  | .msrFilterChanged => some true

theorem grants_final : ∀ {es : List MsrpmEvent} {s : SvmMsrpm}, (∀ e ∈ es, e.Valid) →
    (Runs.final svmMsrpmStep s es).grants =
      Runs.final (Grants.step msrAllowed) s.grants (es.map MsrpmEvent.change)
  | [], _, _ => rfl
  | e :: es, s, h => by
    rw [Runs.final_cons, List.map_cons, Runs.final_cons,
      grants_final fun e he => h e (List.mem_cons_of_mem _ he),
      grants_svmMsrpmStep (h e (List.mem_cons_self ..))]

theorem request_change (key : BitVec 32 × MsrAccess) (e : MsrpmEvent) :
    e.change.request key = e.request key := by
  cases e <;> rfl

/-- What refreshes the map brings every MSR of the table up to date. -/
theorem last_fresh_change {es : List MsrpmEvent} {key : BitVec 32 × MsrAccess}
    (hkey : validMsrIntercept key.1 = true)
    (hrefreshed : Runs.last MsrpmEvent.refreshed es ≠ some false) :
    Runs.last (Grants.Change.fresh key) (es.map MsrpmEvent.change) ≠ some false := by
  rw [Runs.last_comp]
  refine Runs.last_ne_false (fun e he => ?_) (fun e he => ?_) hrefreshed
  · cases e with
    | setMsrInterception msr read write =>
      simp [MsrpmEvent.change, Grants.Change.fresh] at he
    | replaceFilter filter => rfl
    | msrFilterChanged => simp [MsrpmEvent.change, Grants.Change.fresh, hkey] at he
  · cases e with
    | setMsrInterception msr read write => rfl
    | replaceFilter filter => cases he
    | msrFilterChanged => simp [MsrpmEvent.change, Grants.Change.fresh, hkey] at he

/-- Nothing is requested for an MSR that is not in the table. -/
theorem last_request_change {es : List MsrpmEvent} (hvalid : ∀ e ∈ es, e.Valid)
    {key : BitVec 32 × MsrAccess} (hkey : validMsrIntercept key.1 = false) :
    Runs.last (Grants.Change.request key) (es.map MsrpmEvent.change) = none := by
  rw [Runs.last_comp]
  refine Runs.last_eq_none_iff.mpr fun e he => ?_
  cases e with
  | setMsrInterception msr read write =>
    refine if_neg ?_
    rintro rfl
    rw [show validMsrIntercept key.1 = true from hvalid _ he] at hkey
    cases hkey
  | replaceFilter filter => rfl
  | msrFilterChanged => rfl

/-- The first state: nothing is requested, and nothing passes. -/
theorem grants_initial (vm : Vm) (key : BitVec 32 × MsrAccess) :
    ({ vm := vm } : SvmMsrpm).asked key = false ∧
      ({ vm := vm } : SvmMsrpm).passes key = false := by
  constructor
  · unfold SvmMsrpm.asked
    split
    · rfl
    · cases key.2 <;> rfl
  · unfold SvmMsrpm.passes
    split
    · rfl
    · obtain ⟨msr, access⟩ := key
      have hlt : msrpmBit (msr, access) < 32 := by
        cases access <;> simp only [msrpmBit, msr_and_15] <;> omega
      show (!(BitVec.allOnes 32).getLsbD (msrpmBit (msr, access))) = false
      rw [BitVec.getLsbD_allOnes, decide_eq_true hlt]
      rfl

/-- **The permission map enforces the MSR filter**: an access has its own bit, and after any calls
of which the last to replace the filter is followed by `svm_msr_filter_changed`, the bits that are
clear are those of the MSRs of the table whose last request the filter allows. -/
theorem svmMsrpm_enforces (vm : Vm) (es : List MsrpmEvent) (hvalid : ∀ e ∈ es, e.Valid)
    (hrefreshed : Runs.last MsrpmEvent.refreshed es ≠ some false) :
    let s := Runs.final svmMsrpmStep { vm := vm } es
    (∀ key key' offset, svmMsrpmOffset key.1 = some offset → svmMsrpmOffset key'.1 = some offset →
      msrpmBit key = msrpmBit key' → key = key') ∧
    (∀ key, validMsrIntercept key.1 = true →
      (s.passes key = true ↔ Runs.last (MsrpmEvent.request key) es = some true ∧
        kvmMsrAllowed s.vm key.1 key.2.filter = true)) ∧
    ∀ key, validMsrIntercept key.1 = false → s.passes key = false := by
  intro s
  have hs : s.grants = _ := grants_final hvalid
  refine ⟨fun key key' offset => svmMsrpmOffset_injective, fun key hkey => ?_, fun key hkey => ?_⟩
  · have hup : Grants.UpToDate msrAllowed s.grants key := by
      rw [hs]
      refine Grants.final_upToDate _ ?_ (last_fresh_change hkey hrefreshed)
      simp only [Grants.UpToDate, Grants.decided, SvmMsrpm.grants, grants_initial,
        Bool.false_and]
    have hasked : s.grants.asked key =
        (Runs.last (MsrpmEvent.request key) es).getD false := by
      rw [hs, Grants.final_asked, Runs.last_comp]
      simp only [request_change, SvmMsrpm.grants, grants_initial]
    have hpasses : s.passes key = (s.grants.asked key && msrAllowed s.vm.msrFilter key) := hup
    rw [hpasses, hasked, Bool.and_eq_true, kvmMsrAllowed_eq]
    cases Runs.last (MsrpmEvent.request key) es <;> simp
  · have hgranted : s.grants.granted key = false := by
      rw [hs]
      exact Grants.final_not_granted _ (last_request_change hvalid hkey) (grants_initial vm key).1
        (grants_initial vm key).2
    exact hgranted

/-- A filter that denies writes to `FS_BASE`. -/
def denyFsBase : MsrFilter := ⟨true, [⟨msrFsBase, 1, msrFilterWrite, [false]⟩]⟩

/-- The filter comes after the request. -/
def fsBaseCalls : List MsrpmEvent :=
  [.setMsrInterception msrFsBase true true, .replaceFilter (some denyFsBase), .msrFilterChanged]

/-- Reads pass, and writes do not. -/
theorem svmMsrpm_enforces_fsBase :
    let s := Runs.final svmMsrpmStep { vm := {} } fsBaseCalls
    (∀ key key' offset, svmMsrpmOffset key.1 = some offset → svmMsrpmOffset key'.1 = some offset →
      msrpmBit key = msrpmBit key' → key = key') ∧
    (∀ key, validMsrIntercept key.1 = true →
      (s.passes key = true ↔ Runs.last (MsrpmEvent.request key) fsBaseCalls = some true ∧
        kvmMsrAllowed s.vm key.1 key.2.filter = true)) ∧
    ∀ key, validMsrIntercept key.1 = false → s.passes key = false :=
  svmMsrpm_enforces {} fsBaseCalls
    (by simp [fsBaseCalls, MsrpmEvent.Valid]; decide) (by decide)

end Kvm
