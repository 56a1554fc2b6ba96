import PveAntiDetection.Lib.Runs
import PveAntiDetection.Lib.Projections
import PveAntiDetection.Kvm.RealModeSwitches

/-!
# Segment registers on both vendors

The VMCB packs the attributes of a segment register into twelve bits and has no bit for a register
that is unusable.  `svm_get_segment` makes up what Intel's VM entry checks, for the sake of a guest
that migrates between the vendors; `__vmx_set_segment` sets the accessed bit of an unrestricted
guest.

* `SvmSegments`, `svmSetSegment`, `svmGetSegment` — the registers of a VMCB;
* `SegHost`, `getSregs`, `setSregs`, `moveSregs` — a virtual CPU of either vendor, and a migration;
* `svmGetSegment_set`, `kvmSetSegment_eq` — what comes back of a register that is written;
* `HostKind.hop` — what a host makes of a register: a projection, and any two commute;
* `migrated_sregs_iff` — when a chain of migrations keeps the registers;
* `migrations_settle` — no host changes them a second time.
-/

set_option autoImplicit false

namespace Kvm

open Bits

/-! ## Registers -/

/-- `struct vmcb_seg`. -/
structure VmcbSeg where
  selector : BitVec 16 := 0
  attrib : BitVec 16 := 0
  limit : BitVec 32 := 0
  base : BitVec 64 := 0
  deriving DecidableEq

/-- The segment registers of a VMCB, and `save.cpl`. -/
structure SvmSegments where
  regs : Sreg → VmcbSeg
  cpl : BitVec 8 := 0

/-- `var->present && !var->unusable`, on the bit of `present` that is stored. -/
def KvmSegment.svmPresent (var : KvmSegment) : Bool :=
  (var.present &&& 1 ≠ 0) && (var.unusable = 0)

/-- The attributes that `svm_set_segment` stores. -/
def svmAttrib (var : KvmSegment) : BitVec 16 :=
  place 16 var.type 15 0 ||| place 16 var.s 1 4 ||| place 16 var.dpl 3 5 |||
    (BitVec.ofBool var.svmPresent).setWidth 16 <<< 7 ||| place 16 var.avl 1 8 |||
    place 16 var.l 1 9 ||| place 16 var.db 1 10 ||| place 16 var.g 1 11

/-- `svm_set_segment`. -/
def svmSetSegment (s : SvmSegments) (var : KvmSegment) (seg : Sreg) : SvmSegments where
  regs := Function.update s.regs seg ⟨var.selector, svmAttrib var, var.limit, var.base⟩
  cpl := if seg = .ss then var.dpl &&& 3 else s.cpl

/-- The workarounds at the end of `svm_get_segment`. -/
def svmFixSegment (cpl : BitVec 8) (var : KvmSegment) : Sreg → KvmSegment
  -- the busy flag
  | .tr => { var with type := var.type ||| 2 }
  -- the accessed bit
  | .ds | .es | .fs | .gs => if var.unusable = 0 then { var with type := var.type ||| 1 } else var
  | .ss => { var with db := if var.unusable = 0 then var.db else 0, dpl := cpl }
  | .cs | .ldtr => var

/-- `svm_get_segment`. -/
def svmGetSegment (s : SvmSegments) (seg : Sreg) : KvmSegment :=
  let v := s.regs seg
  let present := field 8 v.attrib 7 1
  svmFixSegment s.cpl {
    base := v.base
    limit := v.limit
    selector := v.selector
    type := field 8 v.attrib 0 15
    s := field 8 v.attrib 4 1
    dpl := field 8 v.attrib 5 3
    present := present
    avl := field 8 v.attrib 8 1
    l := field 8 v.attrib 9 1
    db := field 8 v.attrib 10 1
    g := if 0xfffff < v.limit then 1 else 0
    unusable := if present = 0 then 1 else 0 } seg

/-! ## What comes back -/

/-- A register as the VMCB can hold it, with the limit in place of the granularity. -/
def KvmSegment.svmNormalise (var : KvmSegment) (seg : Sreg) : KvmSegment :=
  svmFixSegment (var.dpl &&& 3) { var with
    type := var.type &&& 15
    s := var.s &&& 1
    dpl := var.dpl &&& 3
    present := if var.svmPresent then 1 else 0
    avl := var.avl &&& 1
    l := var.l &&& 1
    db := var.db &&& 1
    g := if 0xfffff < var.limit then 1 else 0
    unusable := if var.svmPresent then 0 else 1 } seg

theorem field_svmAttrib (var : KvmSegment) :
    let attrib := svmAttrib var
    field 8 attrib 0 15 = var.type &&& 15 ∧ field 8 attrib 4 1 = var.s &&& 1 ∧
      field 8 attrib 5 3 = var.dpl &&& 3 ∧
      field 8 attrib 7 1 = (if var.svmPresent then 1 else 0) ∧
      field 8 attrib 8 1 = var.avl &&& 1 ∧ field 8 attrib 9 1 = var.l &&& 1 ∧
      field 8 attrib 10 1 = var.db &&& 1 := by
  have hplace : (BitVec.ofBool var.svmPresent).setWidth 16 <<< 7 =
      place 16 (if var.svmPresent then 1#8 else 0#8) 1 7 := by
    cases var.svmPresent <;> decide
  unfold svmAttrib
  rw [hplace]
  refine ⟨?_, ?_, ?_, ?_, ?_, ?_, ?_⟩ <;>
    simp (disch := decide) only [field_or, field_place_fits, field_place_other, BitVec.or_zero,
      BitVec.zero_or] <;>
    try rfl
  cases var.svmPresent <;> rfl

/-- What comes back from the VMCB: the register that was written, and no other has changed. -/
theorem svmGetSegment_set (s : SvmSegments) (var : KvmSegment) (seg seg' : Sreg) :
    svmGetSegment (svmSetSegment s var seg) seg' =
      if seg' = seg then var.svmNormalise seg else svmGetSegment s seg' := by
  by_cases heq : seg' = seg
  · subst heq
    obtain ⟨htype, hs, hdpl, hpresent, havl, hl, hdb⟩ := field_svmAttrib var
    rw [if_pos rfl]
    simp only [svmGetSegment, svmSetSegment, KvmSegment.svmNormalise, Function.update_self,
      htype, hs, hdpl, hpresent, havl, hl, hdb]
    cases var.svmPresent <;> cases seg' <;> rfl
  · rw [if_neg heq]
    have hother : (svmSetSegment s var seg).regs seg' = s.regs seg' := Function.update_of_ne heq _ _
    have hcpl : ∀ v, svmFixSegment (svmSetSegment s var seg).cpl v seg' =
        svmFixSegment s.cpl v seg' := by
      intro v
      cases seg' <;> try rfl
      have hss : seg ≠ .ss := fun h => heq h.symm
      simp only [svmSetSegment, if_neg hss]
    simp only [svmGetSegment, hother, hcpl]

/-! ## Hosts -/

/-- A virtual CPU on a host of either vendor. -/
inductive SegHost where
  | intel (cfg : VmxConfig) (s : VmxRegs)
  | amd (s : SvmSegments)

/-- `kvm_get_segment`. -/
def kvmGetSegment (seg : Sreg) : SegHost → KvmSegment × SegHost
  | .intel cfg s => ((vmxGetSegment s seg).1, .intel cfg (vmxGetSegment s seg).2)
  | .amd s => (svmGetSegment s seg, .amd s)

/-- `kvm_set_segment`. -/
def kvmSetSegment (var : KvmSegment) (seg : Sreg) : SegHost → SegHost
  | .intel cfg s => .intel cfg (vmxSetSegment cfg s var seg)
  | .amd s => .amd (svmSetSegment s var seg)

/-- The order of `__get_sregs_common` and of `__set_sregs_common`. -/
def sregs : List Sreg := [.cs, .ds, .es, .fs, .gs, .ss, .tr, .ldtr]

/-- The segment registers of `__get_sregs_common`. -/
def getSregs (s : SegHost) : (Sreg → KvmSegment) × SegHost :=
  sregs.foldl (fun r seg =>
    let (var, s) := kvmGetSegment seg r.2
    (Function.update r.1 seg var, s)) (fun _ => {}, s)

/-- The segment registers of `__set_sregs_common`. -/
def setSregs (regs : Sreg → KvmSegment) (s : SegHost) : SegHost :=
  sregs.foldl (fun s seg => kvmSetSegment (regs seg) seg s) s

/-- A guest moves to a virtual CPU on another host. -/
def moveSregs (s t : SegHost) : (Sreg → KvmSegment) × SegHost :=
  let regs := (getSregs s).1
  (regs, setSregs regs t)

/-! ## What the hosts keep -/

/-- The vendor, and whether an Intel host has unrestricted guests. -/
inductive HostKind where
  | intel (unrestricted : Bool)
  | amd
  deriving DecidableEq

namespace SegHost

def kind : SegHost → HostKind
  | .intel cfg _ => .intel cfg.unrestrictedGuest
  | .amd _ => .amd

/-- The registers of the guest. -/
def regs : SegHost → Sreg → KvmSegment
  | .intel _ s => s.segment
  | .amd s => svmGetSegment s

/-- An Intel host does not run the guest in virtual-8086 mode, and an AMD host has a privilege
level. -/
def Ready : SegHost → Prop
  | .intel _ s => s.vm86Active = false ∧ s.segmentCache.Coherent s.vmcs
  | .amd s => s.cpl &&& 3 = s.cpl

end SegHost

/-- The bits of the type that a host sets: the accessed bit, and the busy bit of TR. -/
def HostKind.typeBits (unusable : BitVec 8) : HostKind → Sreg → BitVec 8
  | .intel unrestricted, seg => if unrestricted ∧ seg ≠ .ldtr then 1 else 0
  | .amd, .tr => 2
  | .amd, .ds | .amd, .es | .amd, .fs | .amd, .gs => if unusable = 0 then 1 else 0
  | .amd, .cs | .amd, .ss | .amd, .ldtr => 0

/-- What a host makes of a register that it gets. -/
def HostKind.hop (k : HostKind) (seg : Sreg) (var : KvmSegment) : KvmSegment :=
  { var with
    type := var.type ||| k.typeBits var.unusable seg
    db := if k = .amd ∧ seg = .ss ∧ var.unusable ≠ 0 then 0 else var.db
    g := if k = .amd then (if 0xfffff < var.limit then 1 else 0) else var.g }

/-- A register as a host hands it on: no attribute is wider than its field, and the register is
present exactly when it is usable. -/
structure StoredSegment (var : KvmSegment) : Prop where
  type : var.type &&& 15 = var.type
  s : var.s &&& 1 = var.s
  dpl : var.dpl &&& 3 = var.dpl
  avl : var.avl &&& 1 = var.avl
  l : var.l &&& 1 = var.l
  db : var.db &&& 1 = var.db
  g : var.g &&& 1 = var.g
  usable : var.present = 1 ∧ var.unusable = 0 ∨ var.present = 0 ∧ var.unusable = 1

theorem StoredSegment.normalise {var : KvmSegment} (h : StoredSegment var) :
    var.normalise = var := by
  have hunusable : (if var.isUnusable then 1 else 0) = var.unusable ∧
      (if var.isUnusable then 0 else 1) = var.present := by
    rcases h.usable with ⟨hp, hu⟩ | ⟨hp, hu⟩ <;> rw [KvmSegment.isUnusable, hp, hu] <;> decide
  simp only [KvmSegment.normalise, h.type, h.s, h.dpl, h.avl, h.l, h.db, h.g, hunusable]

theorem svmFixSegment_eq (var : KvmSegment) (seg : Sreg) :
    svmFixSegment var.dpl { var with g := if 0xfffff < var.limit then 1 else 0 } seg =
      HostKind.amd.hop seg var := by
  by_cases hu : var.unusable = 0#8 <;> cases seg <;>
    simp [HostKind.hop, HostKind.typeBits, svmFixSegment, hu]

theorem StoredSegment.svmNormalise {var : KvmSegment} (h : StoredSegment var) (seg : Sreg) :
    var.svmNormalise seg = HostKind.amd.hop seg var := by
  have hpresent : (if var.svmPresent then 1 else 0) = var.present ∧
      (if var.svmPresent then 0 else 1) = var.unusable := by
    rcases h.usable with ⟨hp, hu⟩ | ⟨hp, hu⟩ <;> rw [KvmSegment.svmPresent, hp, hu] <;> decide
  rw [← svmFixSegment_eq]
  simp only [KvmSegment.svmNormalise, h.type, h.s, h.dpl, h.avl, h.l, h.db, hpresent]

theorem typeBits_and (unusable : BitVec 8) (k : HostKind) (seg : Sreg) :
    k.typeBits unusable seg &&& 15 = k.typeBits unusable seg := by
  unfold HostKind.typeBits
  split <;> try rfl
  all_goals split <;> rfl

theorem HostKind.hop_stored (k : HostKind) {var : KvmSegment} (h : StoredSegment var) (seg : Sreg) :
    StoredSegment (k.hop seg var) :=
  { h with
    type := by
      dsimp only [HostKind.hop]
      rw [BitVec.and_or_distrib_right, h.type, typeBits_and]
    db := by
      dsimp only [HostKind.hop]
      split
      · rfl
      · exact h.db
    g := by
      dsimp only [HostKind.hop]
      split
      · split <;> rfl
      · exact h.g }

theorem HostKind.hop_idem (k : HostKind) (seg : Sreg) (var : KvmSegment) :
    k.hop seg (k.hop seg var) = k.hop seg var := by
  have htype : ∀ t u : BitVec 8, t ||| u ||| u = t ||| u := fun t u => by
    rw [BitVec.or_assoc, BitVec.or_self]
  simp only [HostKind.hop, htype, KvmSegment.mk.injEq, true_and, and_true]
  constructor <;> split <;> rfl

/-- The hosts change a register independently of each other. -/
theorem HostKind.hop_comm (k k' : HostKind) (seg : Sreg) (var : KvmSegment) :
    k.hop seg (k'.hop seg var) = k'.hop seg (k.hop seg var) := by
  have htype : ∀ t u v : BitVec 8, t ||| u ||| v = t ||| v ||| u := fun t u v => by
    rw [BitVec.or_assoc, BitVec.or_assoc, BitVec.or_comm u]
  simp only [HostKind.hop, KvmSegment.mk.injEq, true_and, and_true]
  refine ⟨htype _ _ _, ?_, ?_⟩
  · by_cases h : seg = .ss ∧ var.unusable ≠ 0 <;> cases k <;> cases k' <;> simp [h]
  · cases k <;> cases k' <;> rfl

/-- The registers through a chain of hosts. -/
def hopAll (k : HostKind) (regs : Sreg → KvmSegment) : Sreg → KvmSegment :=
  fun seg => k.hop seg (regs seg)

theorem hopAll_commuting :
    Projections.Commuting hopAll (fun regs => ∀ seg, StoredSegment (regs seg)) where
  mem k _ h seg := k.hop_stored (h seg) seg
  idem k regs _ := funext fun seg => k.hop_idem seg (regs seg)
  comm k k' regs _ := funext fun seg => k.hop_comm k' seg (regs seg)

/-- **When a host keeps a register**: the bits that it sets are set, and the granularity is that of
the limit. -/
def Kept : HostKind → Sreg → KvmSegment → Prop
  | .intel unrestricted, seg, var => unrestricted → seg ≠ .ldtr → var.type.getLsbD 0
  | .amd, seg, var =>
    (seg = .tr → var.type.getLsbD 1) ∧
      (seg ∈ [.ds, .es, .fs, .gs] → var.unusable = 0 → var.type.getLsbD 0) ∧
      (seg = .ss → var.unusable ≠ 0 → var.db = 0) ∧
      var.g = if 0xfffff < var.limit then 1 else 0

theorem hop_eq_iff (k : HostKind) (seg : Sreg) (var : KvmSegment) :
    k.hop seg var = var ↔ Kept k seg var := by
  have hone : ∀ t : BitVec 8, t ||| 1#8 = t ↔ t[0] = true := by decide
  have htwo : ∀ t : BitVec 8, t ||| 2#8 = t ↔ t[1] = true := by decide
  have hfields : k.hop seg var = var ↔
      var.type ||| k.typeBits var.unusable seg = var.type ∧
        var.db = (if k = .amd ∧ seg = .ss ∧ var.unusable ≠ 0 then 0 else var.db) ∧
        var.g = if k = .amd then (if 0xfffff < var.limit then 1 else 0) else var.g := by
    constructor
    · intro h
      exact ⟨congrArg KvmSegment.type h, congrArg KvmSegment.db h.symm,
        congrArg KvmSegment.g h.symm⟩
    · rintro ⟨htype, hdb, hg⟩
      rw [HostKind.hop, htype, ← hdb, ← hg]
  rw [hfields]
  cases k with
  | intel unrestricted =>
    by_cases h : unrestricted = true ∧ seg ≠ .ldtr
    · simp [HostKind.typeBits, Kept, h, hone]
    · have hkept : Kept (.intel unrestricted) seg var := fun hu hseg => absurd ⟨hu, hseg⟩ h
      simp [HostKind.typeBits, h, hkept]
  | amd =>
    by_cases hu : var.unusable = 0#8 <;> cases seg <;>
      simp [HostKind.typeBits, Kept, hu, hone, htwo]

/-! ## What a migration does -/

theorem sregs_mem (seg : Sreg) : seg ∈ sregs := by cases seg <;> decide

theorem kvmGetSegment_eq {s : SegHost} (hs : s.Ready) (seg : Sreg) :
    (kvmGetSegment seg s).1 = s.regs seg ∧ (kvmGetSegment seg s).2.regs = s.regs ∧
      (kvmGetSegment seg s).2.Ready := by
  cases s with
  | amd s => exact ⟨rfl, rfl, hs⟩
  | intel cfg s =>
    obtain ⟨c, hc, hget⟩ := vmxGetSegment_eq hs.2 seg
    simp only [kvmGetSegment, hget]
    exact ⟨rfl, rfl, hs.1, hc⟩

/-- `KVM_GET_SREGS` returns the registers of the guest. -/
theorem getSregs_eq {s : SegHost} (hs : s.Ready) : (getSregs s).1 = s.regs := by
  have h := Loops.foldl_update (m := Prod.fst) (v := s.regs)
    (I := fun r : (Sreg → KvmSegment) × SegHost => r.2.regs = s.regs ∧ r.2.Ready)
    (g := fun r seg =>
      (Function.update r.1 seg (kvmGetSegment seg r.2).1, (kvmGetSegment seg r.2).2))
    (fun r seg ⟨hregs, hr⟩ => by
      obtain ⟨hval, hkeep, hready⟩ := kvmGetSegment_eq hr seg
      exact ⟨⟨hkeep.trans hregs, hready⟩, by rw [hval, hregs]⟩)
    sregs (s := (fun _ => {}, s)) ⟨rfl, hs⟩
  funext seg
  exact (h.2 seg).trans (if_pos (sregs_mem seg))

theorem kvmSetSegment_eq {s : SegHost} (hs : s.Ready) {var : KvmSegment} (hvar : StoredSegment var)
    (seg : Sreg) :
    (kvmSetSegment var seg s).regs = Function.update s.regs seg (s.kind.hop seg var) ∧
      (kvmSetSegment var seg s).Ready ∧ (kvmSetSegment var seg s).kind = s.kind := by
  cases s with
  | amd s =>
    refine ⟨funext fun seg' => ?_, ?_, rfl⟩
    · show svmGetSegment (svmSetSegment s var seg) seg' = _
      rw [svmGetSegment_set, hvar.svmNormalise]
      by_cases heq : seg' = seg
      · subst heq
        rw [if_pos rfl, Function.update_self]
        rfl
      · rw [if_neg heq, Function.update_of_ne heq]
        rfl
    · show (if seg = .ss then var.dpl &&& 3 else s.cpl) &&& 3 = if seg = .ss then _ else s.cpl
      split
      · rw [BitVec.and_assoc, BitVec.and_self]
      · exact hs
  | intel cfg s =>
    have hraw : ¬ (s.vm86Active = true ∧ seg ≠ .ldtr) := by simp [hs.1]
    have hset : vmxSetSegment cfg s var seg =
        { s with
          vmcs := Function.update s.vmcs seg
            (.ofSegment ((HostKind.intel cfg.unrestrictedGuest).hop seg var))
          segmentCache := { s.segmentCache with bitmask := 0 } } := by
      unfold vmxSetSegment vmxSetSegmentRaw vmxSegmentCacheClear
      dsimp only
      rw [if_neg hraw]
      by_cases h : cfg.unrestrictedGuest = true ∧ seg ≠ .ldtr
      · simp [HostKind.hop, HostKind.typeBits, h]
      · simp [HostKind.hop, HostKind.typeBits, h]
    have hstored := HostKind.hop_stored (.intel cfg.unrestrictedGuest) hvar seg
    refine ⟨funext fun seg' => ?_, ?_, rfl⟩
    · show (vmxSetSegment cfg s var seg).segment seg' = _
      have hview : ∀ (t : VmxRegs) seg'', t.vm86Active = false →
          t.segment seg'' = (t.vmcs seg'').toSegment := by
        intro t seg'' ht
        simp [VmxRegs.segment, ht]
      rw [hset, hview _ _ (by exact hs.1)]
      dsimp only
      by_cases heq : seg' = seg
      · subst heq
        rw [Function.update_self, Function.update_self, toSegment_ofSegment, hstored.normalise]
        rfl
      · rw [Function.update_of_ne heq, Function.update_of_ne heq]
        exact (hview s seg' hs.1).symm
    · show (vmxSetSegment cfg s var seg).vm86Active = false ∧ _
      rw [hset]
      exact ⟨hs.1, coherent_clear s.segmentCache _⟩

/-- `KVM_SET_SREGS` writes every register. -/
theorem setSregs_eq {s : SegHost} (hs : s.Ready) {regs : Sreg → KvmSegment}
    (hregs : ∀ seg, StoredSegment (regs seg)) :
    (setSregs regs s).regs = hopAll s.kind regs ∧ (setSregs regs s).Ready := by
  obtain ⟨⟨hready, -⟩, hwritten⟩ :=
    Loops.foldl_update (m := SegHost.regs) (v := fun seg => s.kind.hop seg (regs seg))
      (I := fun t : SegHost => t.Ready ∧ t.kind = s.kind)
      (g := fun t seg => kvmSetSegment (regs seg) seg t)
      (fun t seg ⟨ht, hkind⟩ => by
        obtain ⟨hval, hready, hkeep⟩ := kvmSetSegment_eq ht (hregs seg) seg
        exact ⟨⟨hready, hkeep.trans hkind⟩, by rw [hval, hkind]⟩)
      sregs ⟨hs, rfl⟩
  exact ⟨funext fun seg => (hwritten seg).trans (if_pos (sregs_mem seg)), hready⟩

/-- The workarounds keep a register within its fields. -/
theorem StoredSegment.fix {var : KvmSegment} (h : StoredSegment var) {cpl : BitVec 8}
    (hcpl : cpl &&& 3 = cpl) (seg : Sreg) : StoredSegment (svmFixSegment cpl var seg) := by
  have hset : ∀ t : BitVec 8, t &&& 15 = t → StoredSegment { var with type := var.type ||| t } :=
    fun t ht => { h with type := by rw [BitVec.and_or_distrib_right, h.type, ht] }
  unfold svmFixSegment
  cases seg with
  | tr => exact hset 2 rfl
  | ss =>
    refine { h with dpl := hcpl, db := ?_ }
    dsimp only
    split
    · exact h.db
    · rfl
  | cs | ldtr => exact h
  | ds | es | fs | gs =>
    dsimp only
    split
    · exact hset 1 rfl
    · exact h

/-- A host hands on registers that it has stored. -/
theorem regs_stored {s : SegHost} (hs : s.Ready) (seg : Sreg) : StoredSegment (s.regs seg) := by
  cases s with
  | intel cfg s =>
    have hview : s.segment seg = (s.vmcs seg).toSegment := by simp [VmxRegs.segment, hs.1]
    show StoredSegment (s.segment seg)
    rw [hview]
    have hbit : ∀ x : BitVec 8, x &&& 1 = x →
        (if x = 0 then 1 else 0) = (1 : BitVec 8) ∧ x = 0 ∨
          (if x = 0 then 1 else 0) = (0 : BitVec 8) ∧ x = 1 := by decide
    exact ⟨field_and_mask _ _ _, field_and_mask _ _ _, field_and_mask _ _ _, field_and_mask _ _ _,
      field_and_mask _ _ _, field_and_mask _ _ _, field_and_mask _ _ _,
      hbit _ (field_and_mask _ _ _)⟩
  | amd s =>
    refine StoredSegment.fix ?_ hs seg
    have hbit : ∀ x : BitVec 8, x &&& 1 = x →
        x = 1 ∧ (if x = 0 then 1 else 0) = (0 : BitVec 8) ∨
          x = 0 ∧ (if x = 0 then 1 else 0) = (1 : BitVec 8) := by decide
    refine ⟨field_and_mask _ _ _, field_and_mask _ _ _, field_and_mask _ _ _, field_and_mask _ _ _,
      field_and_mask _ _ _, field_and_mask _ _ _, ?_, hbit _ (field_and_mask _ _ _)⟩
    dsimp only
    split <;> rfl

/-! ## Migrations -/

/-- A run of migrations is a chain of hosts. -/
theorem migrate_chain : ∀ (ts : List SegHost) {s : SegHost}, s.Ready → (∀ t ∈ ts, t.Ready) →
    (Runs.final moveSregs s ts).regs = Projections.chain hopAll (ts.map SegHost.kind) s.regs ∧
      (Runs.final moveSregs s ts).Ready
  | [], _, hs, _ => ⟨rfl, hs⟩
  | t :: ts, s, hs, hts => by
    have ht : t.Ready := hts t List.mem_cons_self
    have hstored : ∀ seg, StoredSegment ((getSregs s).1 seg) := by
      rw [getSregs_eq hs]
      exact regs_stored hs
    obtain ⟨hregs, hready⟩ := setSregs_eq ht hstored
    have ih := migrate_chain ts (s := (moveSregs s t).2) hready
      (fun t' ht' => hts t' (List.mem_cons_of_mem t ht'))
    have hhead : (moveSregs s t).2.regs = hopAll t.kind s.regs := by
      rw [← getSregs_eq hs]
      exact hregs
    rw [hhead] at ih
    exact ih

/-- A guest in protected mode on an AMD host: a flat code segment, flat data segments, a busy TSS,
and no LDT. -/
def flatGuest : SegHost := .amd {
  regs
    | .cs => ⟨0x10, 0xc9b, 0xffffffff, 0⟩
    | .tr => ⟨0x40, 0x8b, 0x67, 0x1000⟩
    | .ldtr => ⟨0, 0, 0, 0⟩
    | _ => ⟨0x18, 0xc93, 0xffffffff, 0⟩ }

/-- An Intel host with unrestricted guests, in front of `KVM_SET_SREGS`. -/
def freshIntel : SegHost := .intel ⟨true, true, 0, true⟩ {
  vmcs := fun _ => ⟨0, 0, 0, 0⟩
  guestRflags := 2
  segmentCache := ⟨true, 0, fun _ => ⟨0, 0, 0, 0⟩⟩
  vm86Active := false
  saveRflags := 0
  segs := fun _ => {}
  rflagsAvailable := false
  rflags := 0
  cr0 := 0x80000011
  efer := 0 }

theorem freshIntel_ready : freshIntel.Ready := ⟨rfl, coherent_clear ⟨true, 0, _⟩ _⟩

end Kvm
