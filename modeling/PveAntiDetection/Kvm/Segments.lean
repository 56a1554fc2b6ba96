import Mathlib.Logic.Function.Basic
import PveAntiDetection.Lib.Bits

/-!
# Segment registers on VMX

A guest segment register is four fields of the VMCS, which `vmx.c` reads through a cache.

* `KvmSegment`, `VmcsSegment` — the register for the callers, and in the VMCS;
* `VmcsSegment.ofSegment`, `VmcsSegment.toSegment` — to the VMCS and back;
* `toSegment_ofSegment` — what comes back is the register, with its attributes cut to their widths;
* `SegmentCache` — `segment_cache`; `SegmentCache.Coherent` — what is cached is in the VMCS;
* `vmxReadGuestSeg_eq` — a coherent cache stays so, and has the field that was read.
-/

set_option autoImplicit false

namespace Kvm

open Bits

/-! ## Registers -/

/-- `VCPU_SREG_*`. -/
inductive Sreg where
  | es | cs | ss | ds | fs | gs | tr | ldtr
  deriving DecidableEq

def Sreg.index : Sreg → Nat
  | es => 0
  | cs => 1
  | ss => 2
  | ds => 3
  | fs => 4
  | gs => 5
  | tr => 6
  | ldtr => 7

/-- `SEG_FIELD_*`. -/
inductive SegField where
  | sel | base | limit | ar
  deriving DecidableEq

def SegField.index : SegField → Nat
  | sel => 0
  | base => 1
  | limit => 2
  | ar => 3

/-- `struct kvm_segment`. -/
structure KvmSegment where
  base : BitVec 64 := 0
  limit : BitVec 32 := 0
  selector : BitVec 16 := 0
  type : BitVec 8 := 0
  present : BitVec 8 := 0
  dpl : BitVec 8 := 0
  db : BitVec 8 := 0
  s : BitVec 8 := 0
  l : BitVec 8 := 0
  g : BitVec 8 := 0
  avl : BitVec 8 := 0
  unusable : BitVec 8 := 0
  deriving DecidableEq

/-- The fields of `kvm_vmx_segment_fields` for one register. -/
structure VmcsSegment where
  selector : BitVec 16
  base : BitVec 64
  limit : BitVec 32
  ar : BitVec 32
  deriving DecidableEq

/-- `unusable || !present`. -/
def KvmSegment.isUnusable (var : KvmSegment) : Bool := var.unusable ≠ 0 || var.present = 0

/-- `vmx_segment_access_rights`. -/
def vmxSegmentAccessRights (var : KvmSegment) : BitVec 32 :=
  place 32 var.type 15 0 ||| place 32 var.s 1 4 ||| place 32 var.dpl 3 5 |||
    place 32 var.present 1 7 ||| place 32 var.avl 1 12 ||| place 32 var.l 1 13 |||
    place 32 var.db 1 14 ||| place 32 var.g 1 15 |||
    (BitVec.ofBool var.isUnusable).setWidth 32 <<< 16

/-- The four writes of `__vmx_set_segment`. -/
def VmcsSegment.ofSegment (var : KvmSegment) : VmcsSegment :=
  ⟨var.selector, var.base, var.limit, vmxSegmentAccessRights var⟩

/-- The second half of `vmx_get_segment`. -/
def VmcsSegment.toSegment (v : VmcsSegment) : KvmSegment :=
  let unusable := field 8 v.ar 16 1
  { base := v.base
    limit := v.limit
    selector := v.selector
    unusable := unusable
    type := field 8 v.ar 0 15
    s := field 8 v.ar 4 1
    dpl := field 8 v.ar 5 3
    present := if unusable = 0 then 1 else 0
    avl := field 8 v.ar 12 1
    l := field 8 v.ar 13 1
    db := field 8 v.ar 14 1
    g := field 8 v.ar 15 1 }

/-- A register as the VMCS can hold it: the attributes have the widths of the access rights, and a
register is present when it is usable. -/
def KvmSegment.normalise (var : KvmSegment) : KvmSegment :=
  { var with
    type := var.type &&& 15
    s := var.s &&& 1
    dpl := var.dpl &&& 3
    avl := var.avl &&& 1
    l := var.l &&& 1
    db := var.db &&& 1
    g := var.g &&& 1
    unusable := if var.isUnusable then 1 else 0
    present := if var.isUnusable then 0 else 1 }

theorem field_vmxSegmentAccessRights (var : KvmSegment) :
    let ar := vmxSegmentAccessRights var
    field 8 ar 0 15 = var.type &&& 15 ∧ field 8 ar 4 1 = var.s &&& 1 ∧
      field 8 ar 5 3 = var.dpl &&& 3 ∧ field 8 ar 12 1 = var.avl &&& 1 ∧
      field 8 ar 13 1 = var.l &&& 1 ∧ field 8 ar 14 1 = var.db &&& 1 ∧
      field 8 ar 15 1 = var.g &&& 1 ∧ field 8 ar 16 1 = if var.isUnusable then 1 else 0 := by
  have hplace : (BitVec.ofBool var.isUnusable).setWidth 32 <<< 16 =
      place 32 (if var.isUnusable then 1#8 else 0#8) 1 16 := by
    cases var.isUnusable <;> decide
  unfold vmxSegmentAccessRights
  rw [hplace]
  refine ⟨?_, ?_, ?_, ?_, ?_, ?_, ?_, ?_⟩ <;>
    simp (disch := decide) only [field_or, field_place_self, field_place_other, BitVec.or_zero,
      BitVec.zero_or] <;>
    try rfl
  cases var.isUnusable <;> rfl

/-- What comes back from the VMCS. -/
theorem toSegment_ofSegment (var : KvmSegment) :
    (VmcsSegment.ofSegment var).toSegment = var.normalise := by
  obtain ⟨htype, hs, hdpl, havl, hl, hdb, hg, hunusable⟩ := field_vmxSegmentAccessRights var
  simp only [VmcsSegment.toSegment, VmcsSegment.ofSegment, KvmSegment.normalise,
    htype, hs, hdpl, havl, hl, hdb, hg, hunusable]
  cases var.isUnusable <;> rfl

theorem normalise_normalise (var : KvmSegment) : var.normalise.normalise = var.normalise := by
  have h : var.normalise.isUnusable = var.isUnusable := by
    simp only [KvmSegment.normalise]
    rw [KvmSegment.isUnusable]
    cases var.isUnusable <;> rfl
  simp only [KvmSegment.normalise] at h ⊢
  simp only [h, BitVec.and_assoc, BitVec.and_self]

/-- A register whose type is written in the VMCS. -/
theorem toSegment_setType (v : VmcsSegment) :
    { v with ar := (v.ar &&& ~~~15) ||| 11 }.toSegment = { v.toSegment with type := 11 } := by
  have hcleared : field 8 (v.ar &&& ~~~15) 0 15 = 0#8 := by
    apply field_eq_zero
    rw [BitVec.and_assoc]
    exact BitVec.and_zero
  have hplaced : field 8 (11 : BitVec 32) 0 15 = 11 := by decide
  simp (disch := decide) only [VmcsSegment.toSegment, field_or, field_and_not, field_eq_zero,
    BitVec.or_zero]
  rw [hcleared, hplaced, BitVec.zero_or]

/-! ## The cache -/

/-- `segment_cache`, and whether `VCPU_EXREG_SEGMENTS` is available. -/
structure SegmentCache where
  available : Bool
  bitmask : BitVec 32
  seg : Sreg → VmcsSegment

/-- `seg * SEG_FIELD_NR + field`. -/
def segBit (seg : Sreg) (field : SegField) : Nat := seg.index * 4 + field.index

/-- A read of one field from the VMCS into the cache. -/
def SegField.copy : SegField → VmcsSegment → VmcsSegment → VmcsSegment
  | sel, src, dst => { dst with selector := src.selector }
  | base, src, dst => { dst with base := src.base }
  | limit, src, dst => { dst with limit := src.limit }
  | ar, src, dst => { dst with ar := src.ar }

/-- `vmx_segment_cache_test_set`. -/
def vmxSegmentCacheTestSet (c : SegmentCache) (seg : Sreg) (field : SegField) :
    Bool × SegmentCache :=
  let c := if c.available then c else { c with available := true, bitmask := 0 }
  let ret := c.bitmask.getLsbD (segBit seg field)
  (ret, { c with bitmask := setBit c.bitmask (segBit seg field) })

/-- The body of `vmx_read_guest_seg_*`, for the field that each of them reads. -/
def vmxReadGuestSeg (vmcs : Sreg → VmcsSegment) (c : SegmentCache) (seg : Sreg)
    (field : SegField) : SegmentCache :=
  let (cached, c) := vmxSegmentCacheTestSet c seg field
  if cached then c
  else { c with seg := Function.update c.seg seg (field.copy (vmcs seg) (c.seg seg)) }

/-- Two registers that agree on a field. -/
def SegField.Agrees : SegField → VmcsSegment → VmcsSegment → Prop
  | sel, v, w => v.selector = w.selector
  | base, v, w => v.base = w.base
  | limit, v, w => v.limit = w.limit
  | ar, v, w => v.ar = w.ar

/-- What is cached is in the VMCS. -/
def SegmentCache.Coherent (c : SegmentCache) (vmcs : Sreg → VmcsSegment) : Prop :=
  c.available → ∀ seg field, c.bitmask.getLsbD (segBit seg field) →
    field.Agrees (c.seg seg) (vmcs seg)

theorem segBit_lt (seg : Sreg) (field : SegField) : segBit seg field < 32 := by
  cases seg <;> cases field <;> decide

theorem segBit_inj {seg seg' : Sreg} {field field' : SegField}
    (h : segBit seg field = segBit seg' field') : seg = seg' ∧ field = field' := by
  have hfield : ∀ f : SegField, f.index < 4 := fun f => by cases f <;> decide
  have h1 := hfield field
  have h2 := hfield field'
  have hseg : seg.index = seg'.index := by
    unfold segBit at h
    omega
  have hidx : field.index = field'.index := by
    unfold segBit at h
    omega
  constructor
  · cases seg <;> cases seg' <;> first | rfl | exact absurd hseg (by decide)
  · cases field <;> cases field' <;> first | rfl | exact absurd hidx (by decide)

theorem SegField.agrees_copy (field : SegField) (src dst : VmcsSegment) :
    field.Agrees (field.copy src dst) src := by
  cases field <;> rfl

/-- A copy does not spoil what agrees. -/
theorem SegField.Agrees.copy {f : SegField} {src dst : VmcsSegment} (h : f.Agrees dst src)
    (field : SegField) : f.Agrees (field.copy src dst) src := by
  cases f <;> cases field <;> first | rfl | exact h

theorem vmxSegmentCacheTestSet_spec {vmcs : Sreg → VmcsSegment} {c : SegmentCache}
    (hc : c.Coherent vmcs) (seg : Sreg) (field : SegField) :
    ((vmxSegmentCacheTestSet c seg field).1 = true →
      field.Agrees ((vmxSegmentCacheTestSet c seg field).2.seg seg) (vmcs seg)) ∧
    ∀ seg' field', (vmxSegmentCacheTestSet c seg field).2.bitmask.getLsbD (segBit seg' field') →
      seg' = seg ∧ field' = field ∨
        field'.Agrees ((vmxSegmentCacheTestSet c seg field).2.seg seg') (vmcs seg') := by
  have hbit : ∀ (w : BitVec 32) seg' field',
      (setBit w (segBit seg field)).getLsbD (segBit seg' field') = true →
        seg' = seg ∧ field' = field ∨ w.getLsbD (segBit seg' field') = true := by
    intro w seg' field' h
    rw [getLsbD_setBit (segBit_lt seg field)] at h
    split at h
    · rename_i heq
      exact Or.inl (segBit_inj heq)
    · exact Or.inr h
  unfold vmxSegmentCacheTestSet
  by_cases ha : c.available = true
  · simp only [ha, if_true]
    refine ⟨hc ha seg field, fun seg' field' h => ?_⟩
    exact (hbit _ _ _ h).imp_right (hc ha seg' field')
  · -- nothing is cached yet
    simp only [ha, Bool.false_eq_true, if_false]
    refine ⟨fun h => absurd h (by simp), fun seg' field' h => ?_⟩
    exact (hbit _ _ _ h).imp_right fun h => absurd h (by simp)

/-- **The cache stays coherent, and has the field that was read.** -/
theorem vmxReadGuestSeg_coherent {vmcs : Sreg → VmcsSegment} {c : SegmentCache}
    (hc : c.Coherent vmcs) (seg : Sreg) (field : SegField) :
    (vmxReadGuestSeg vmcs c seg field).Coherent vmcs ∧
      field.Agrees ((vmxReadGuestSeg vmcs c seg field).seg seg) (vmcs seg) := by
  obtain ⟨hcached, hold⟩ := vmxSegmentCacheTestSet_spec hc seg field
  unfold vmxReadGuestSeg
  split
  rename_i cached c' heq
  rw [heq] at hcached hold
  split
  · rename_i h
    refine ⟨fun _ seg' field' hset => ?_, hcached h⟩
    rcases hold seg' field' hset with ⟨rfl, rfl⟩ | hagrees
    · exact hcached h
    · exact hagrees
  · refine ⟨fun _ seg' field' hset => ?_, ?_⟩
    · by_cases hseg : seg' = seg
      · subst hseg
        simp only [Function.update_self]
        rcases hold seg' field' hset with ⟨-, rfl⟩ | hagrees
        · exact field'.agrees_copy _ _
        · exact hagrees.copy field
      · simp only [Function.update_of_ne hseg]
        exact (hold seg' field' hset).resolve_left fun h => hseg h.1
    · simp only [Function.update_self]
      exact field.agrees_copy _ _

end Kvm
