import PveAntiDetection.Kvm.Vcpu

/-!
# The ioctl `KVM_X86_SET_MSR_FILTER`

Userspace gives ranges of MSRs with a bitmap each; `x86.c` copies them into a filter of its own.

* `UserSpace`, `memdupUser` — the memory of userspace, and a copy of it;
* `kvmAddMsrFilter`, `kvmVmIoctlSetMsrFilter` — the ioctl;
* `userAllows` — what the ranges say, with their ends as integers;
* `rangesAllow_copied` — the filter decides by the ranges that end below 2^32;
* `topRangeIgnored` — a range that ends there is not looked at;
* `msrFilter_right_iff` — when the filter means what its ranges say.
-/

set_option autoImplicit false

namespace Kvm

/-! ## The ioctl -/

/-- The memory of userspace: the bits from an address on, whether as many bytes can be read from
there, and whether the kernel has memory for a copy of so many bytes. -/
structure UserSpace where
  bit : BitVec 64 → ℕ → Bool
  readable : BitVec 64 → ℕ → Bool
  hasMemory : ℕ → Bool

/-- `memdup_user`; it fails with `-ENOMEM` or `-EFAULT`. -/
def memdupUser (u : UserSpace) (src : BitVec 64) (len : ℕ) : Except Int (List Bool) :=
  if ¬ u.hasMemory len then .error (-12)
  else if ¬ u.readable src len then .error (-14)
  else .ok ((List.range (8 * len)).map (u.bit src))

/-- `struct kvm_msr_filter_range`. -/
structure KvmMsrFilterRange where
  flags : BitVec 32
  nmsrs : BitVec 32
  base : BitVec 32
  bitmap : BitVec 64
  deriving DecidableEq

/-- `struct kvm_msr_filter`. -/
structure KvmMsrFilter where
  flags : BitVec 32
  ranges : List KvmMsrFilterRange
  deriving DecidableEq

/-- `BITS_TO_LONGS(nr) * sizeof(long)`. -/
def bitmapSize (nmsrs : BitVec 32) : ℕ := (nmsrs.toNat + 63) / 64 * 8

section Ioctl

variable (u : UserSpace)

/-- `kvm_add_msr_filter`. -/
def kvmAddMsrFilter (msrFilter : MsrFilter) (userRange : KvmMsrFilterRange) :
    Except Int MsrFilter :=
  if userRange.nmsrs = 0 then .ok msrFilter
  -- `KVM_MSR_FILTER_RANGE_VALID_MASK`
  else if userRange.flags &&& ~~~3 ≠ 0 then .error (-22)
  else if userRange.flags = 0 then .error (-22)
  -- `KVM_MSR_FILTER_MAX_BITMAP_SIZE`
  else if bitmapSize userRange.nmsrs = 0 ∨ bitmapSize userRange.nmsrs > 0x600 then .error (-22)
  else do
    let bitmap ← memdupUser u userRange.bitmap (bitmapSize userRange.nmsrs)
    return { msrFilter with
      ranges := msrFilter.ranges ++ [⟨userRange.base, userRange.nmsrs, userRange.flags, bitmap⟩] }

/-- `!(filter->flags & KVM_MSR_FILTER_DEFAULT_DENY)`. -/
def KvmMsrFilter.defaultAllow (filter : KvmMsrFilter) : Bool := filter.flags &&& 1 = 0

/-- `kvm_vm_ioctl_set_msr_filter`: the result, the VM, and whether the virtual CPUs are requested to
look at the filter; `allocated` says whether there is memory for the filter. -/
def kvmVmIoctlSetMsrFilter (allocated : Bool) (vm : Vm) (filter : KvmMsrFilter) :
    Int × Vm × Bool :=
  -- `KVM_MSR_FILTER_VALID_MASK`
  if filter.flags &&& ~~~1 ≠ 0 then (-22, vm, false)
  else if filter.ranges.all (fun r => r.nmsrs = 0) ∧ ¬ filter.defaultAllow then (-22, vm, false)
  else if ¬ allocated then (-12, vm, false)
  else
    match filter.ranges.foldlM (kvmAddMsrFilter u) ⟨filter.defaultAllow, []⟩ with
    | .error r => (r, vm, false)
    | .ok newFilter => (0, { vm with msrFilter := some newFilter }, true)

/-! ## What the ranges say -/

variable (index type : BitVec 32)

/-- The index is in the range as integers, and the range is about this kind of access. -/
def KvmMsrFilterRange.holds (r : KvmMsrFilterRange) : Prop :=
  r.base.toNat ≤ index.toNat ∧ index.toNat < r.base.toNat + r.nmsrs.toNat ∧ r.flags &&& type ≠ 0

instance (r : KvmMsrFilterRange) : Decidable (r.holds index type) :=
  inferInstanceAs (Decidable (_ ∧ _ ∧ _))

/-- The bit of the index in the bitmap of userspace. -/
def KvmMsrFilterRange.userBit (r : KvmMsrFilterRange) : Bool :=
  u.bit r.bitmap (index.toNat - r.base.toNat)

/-- The range ends below 2^32. -/
def KvmMsrFilterRange.endsBelow (r : KvmMsrFilterRange) : Bool :=
  r.base.toNat + r.nmsrs.toNat < 2 ^ 32

/-- The first range that holds the index decides by its bit, or else the default. -/
def userAllows (defaultAllow : Bool) : List KvmMsrFilterRange → Bool
  | [] => defaultAllow
  | r :: rs => if r.holds index type then r.userBit u index else userAllows defaultAllow rs

/-- The first range that holds the index ends below 2^32, or its bit is what the ranges behind it
say that do. -/
def FirstEndsBelow (defaultAllow : Bool) : List KvmMsrFilterRange → Prop
  | [] => True
  | r :: rs =>
    if r.holds index type then
      r.endsBelow = true ∨
        r.userBit u index = userAllows u index type defaultAllow (rs.filter (·.endsBelow))
    else FirstEndsBelow defaultAllow rs

instance decidableFirstEndsBelow (defaultAllow : Bool) :
    ∀ ranges, Decidable (FirstEndsBelow u index type defaultAllow ranges)
  | [] => inferInstanceAs (Decidable True)
  | r :: rs =>
    have := decidableFirstEndsBelow defaultAllow rs
    inferInstanceAs (Decidable (if r.holds index type then _ else _))

end Ioctl

/-! ## The copies -/

section Copies

variable {u : UserSpace}

/-- The copy of a range. -/
def KvmMsrFilterRange.copied (u : UserSpace) (r : KvmMsrFilterRange) : MsrBitmapRange :=
  ⟨r.base, r.nmsrs, r.flags, (List.range (8 * bitmapSize r.nmsrs)).map (u.bit r.bitmap)⟩

theorem le_bitmapSize (nmsrs : BitVec 32) : nmsrs.toNat ≤ 8 * bitmapSize nmsrs := by
  unfold bitmapSize
  omega

theorem memdupUser_error {src : BitVec 64} {len : ℕ} {r : Int}
    (h : memdupUser u src len = .error r) : r ≠ 0 := by
  unfold memdupUser at h
  split at h
  · cases h
    omega
  · split at h
    · cases h
      omega
    · cases h

theorem memdupUser_ok {src : BitVec 64} {len : ℕ} {bitmap : List Bool}
    (h : memdupUser u src len = .ok bitmap) :
    bitmap = (List.range (8 * len)).map (u.bit src) := by
  unfold memdupUser at h
  split at h
  · cases h
  · split at h
    · cases h
    · cases h
      rfl

/-- One range is refused with an error, skipped because it is empty, or copied. -/
theorem kvmAddMsrFilter_spec (f : MsrFilter) (r : KvmMsrFilterRange) :
    (∃ e, kvmAddMsrFilter u f r = .error e ∧ e ≠ 0) ∨
      kvmAddMsrFilter u f r =
        .ok { f with ranges := f.ranges ++ if r.nmsrs = 0 then [] else [r.copied u] } := by
  unfold kvmAddMsrFilter
  split
  · right
    rw [List.append_nil]
  · split
    · exact .inl ⟨_, rfl, by omega⟩
    · split
      · exact .inl ⟨_, rfl, by omega⟩
      · split
        · exact .inl ⟨_, rfl, by omega⟩
        · cases hcopy : memdupUser u r.bitmap (bitmapSize r.nmsrs) with
          | error e => exact .inl ⟨e, rfl, memdupUser_error hcopy⟩
          | ok bitmap =>
            right
            rw [memdupUser_ok hcopy]
            rfl

/-- The ranges are refused with an error, or all of them that are not empty are copied in order. -/
theorem kvmAddMsrFilter_foldlM : ∀ (ranges : List KvmMsrFilterRange) (f : MsrFilter),
    (∃ e, ranges.foldlM (kvmAddMsrFilter u) f = .error e ∧ e ≠ 0) ∨
      ranges.foldlM (kvmAddMsrFilter u) f = .ok { f with
        ranges := f.ranges ++ (ranges.filter (·.nmsrs ≠ 0)).map (·.copied u) }
  | [], f => by
    right
    simp [List.foldlM_nil, pure, Except.pure]
  | r :: rs, f => by
    rw [List.foldlM_cons]
    rcases kvmAddMsrFilter_spec (u := u) f r with ⟨e, he, hne⟩ | hok
    · rw [he]
      exact .inl ⟨e, rfl, hne⟩
    · rw [hok]
      rcases kvmAddMsrFilter_foldlM rs
        { f with ranges := f.ranges ++ if r.nmsrs = 0 then [] else [r.copied u] } with
        ⟨e, he, hne⟩ | hrest
      · exact .inl ⟨e, he, hne⟩
      · right
        refine hrest.trans ?_
        by_cases hempty : r.nmsrs = 0
        · rw [if_pos hempty, List.filter_cons_of_neg (by simpa using hempty), List.append_nil]
        · rw [if_neg hempty, List.filter_cons_of_pos (by simpa using hempty), List.map_cons,
            List.append_assoc, List.singleton_append]

variable {index type : BitVec 32}

/-- The end of a range is computed in 32 bits: a range that reaches 2^32 holds nothing. -/
theorem inRange_iff (r : KvmMsrFilterRange) :
    (r.base ≤ index ∧ index < r.base + r.nmsrs ∧ r.flags &&& type ≠ 0) ↔
      r.holds index type ∧ r.endsBelow = true := by
  have hindex := index.isLt
  have hbase := r.base.isLt
  have hnmsrs := r.nmsrs.isLt
  have hrange : (r.base ≤ index ∧ index < r.base + r.nmsrs) ↔
      (r.base.toNat ≤ index.toNat ∧ index.toNat < r.base.toNat + r.nmsrs.toNat) ∧
        r.base.toNat + r.nmsrs.toNat < 2 ^ 32 := by
    rw [BitVec.le_def, BitVec.lt_def, BitVec.toNat_add]
    omega
  unfold KvmMsrFilterRange.holds KvmMsrFilterRange.endsBelow
  rw [← and_assoc, hrange, decide_eq_true_eq]
  constructor
  · rintro ⟨⟨⟨hle, hlt⟩, hbelow⟩, htype⟩
    exact ⟨⟨hle, hlt, htype⟩, hbelow⟩
  · rintro ⟨⟨hle, hlt, htype⟩, hbelow⟩
    exact ⟨⟨⟨hle, hlt⟩, hbelow⟩, htype⟩

/-- The bit that is tested is in the copy, where it is the bit of userspace. -/
theorem testBit_copied {r : KvmMsrFilterRange} (hholds : r.holds index type) :
    (index - r.base).toNat < (r.copied u).bitmap.length ∧
      (r.copied u).testBit (index - r.base) = r.userBit u index := by
  obtain ⟨hle, hlt, -⟩ := hholds
  have hsize := le_bitmapSize r.nmsrs
  have hsub : (index - r.base).toNat = index.toNat - r.base.toNat :=
    BitVec.toNat_sub_of_le hle
  have hin : index.toNat - r.base.toNat < 8 * bitmapSize r.nmsrs := by omega
  constructor
  · rw [hsub, KvmMsrFilterRange.copied, List.length_map, List.length_range]
    exact hin
  · simp [MsrBitmapRange.testBit, KvmMsrFilterRange.copied, hsub, hin, KvmMsrFilterRange.userBit]

/-- **The copies decide by the ranges that end below 2^32.** -/
theorem rangesAllow_copied (defaultAllow : Bool) : ∀ ranges : List KvmMsrFilterRange,
    rangesAllow index type defaultAllow ((ranges.filter (·.nmsrs ≠ 0)).map (·.copied u)) =
      userAllows u index type defaultAllow (ranges.filter (·.endsBelow))
  | [] => rfl
  | r :: rs => by
    have ih := rangesAllow_copied defaultAllow rs
    by_cases hempty : r.nmsrs = 0
    · -- an empty range holds nothing
      have hno : ¬ r.holds index type := by
        rintro ⟨hle, hlt, -⟩
        rw [hempty] at hlt
        simp at hlt
        omega
      rw [List.filter_cons_of_neg (by simpa using hempty), ih, List.filter_cons]
      split
      · rw [userAllows, if_neg hno]
      · rfl
    · rw [List.filter_cons_of_pos (by simpa using hempty), List.map_cons, rangesAllow]
      have hcond := @inRange_iff index type r
      by_cases hbelow : r.endsBelow = true
      · rw [List.filter_cons_of_pos hbelow, userAllows]
        by_cases hholds : r.holds index type
        · rw [if_pos hholds, ← (testBit_copied (u := u) hholds).2]
          exact if_pos (hcond.mpr ⟨hholds, hbelow⟩)
        · rw [if_neg hholds, ← ih]
          exact if_neg fun h => hholds (hcond.mp h).1
      · rw [List.filter_cons_of_neg hbelow, ← ih]
        exact if_neg fun h => hbelow (hcond.mp h).2

/-- The ranges that end below 2^32 say the same as all of them. -/
theorem userAllows_filter_iff (defaultAllow : Bool) : ∀ ranges : List KvmMsrFilterRange,
    userAllows u index type defaultAllow (ranges.filter (·.endsBelow)) =
        userAllows u index type defaultAllow ranges ↔
      FirstEndsBelow u index type defaultAllow ranges
  | [] => by simp [FirstEndsBelow]
  | r :: rs => by
    have ih := userAllows_filter_iff defaultAllow rs
    unfold FirstEndsBelow
    by_cases hholds : r.holds index type <;> by_cases hbelow : r.endsBelow = true
    · simp [List.filter_cons_of_pos, hbelow, userAllows, hholds]
    · simp only [List.filter_cons_of_neg hbelow, userAllows, if_pos hholds, hbelow]
      simp [eq_comm]
    · simp only [List.filter_cons_of_pos hbelow, userAllows, if_neg hholds]
      exact ih
    · simp only [List.filter_cons_of_neg hbelow, userAllows, if_neg hholds]
      exact ih

end Copies

/-! ## The filter -/

section Filter

variable (u : UserSpace) (allocated : Bool) (vm : Vm) (filter : KvmMsrFilter)

/-- The ioctl fails and leaves the filter, or installs the copies of the ranges. -/
theorem kvmVmIoctlSetMsrFilter_spec :
    (∃ e, kvmVmIoctlSetMsrFilter u allocated vm filter = (e, vm, false) ∧ e ≠ 0) ∨
      kvmVmIoctlSetMsrFilter u allocated vm filter = (0, { vm with
        msrFilter := some ⟨filter.defaultAllow,
          (filter.ranges.filter (·.nmsrs ≠ 0)).map (·.copied u)⟩ }, true) := by
  unfold kvmVmIoctlSetMsrFilter
  split
  · exact .inl ⟨_, rfl, by omega⟩
  · split
    · exact .inl ⟨_, rfl, by omega⟩
    · split
      · exact .inl ⟨_, rfl, by omega⟩
      · rcases kvmAddMsrFilter_foldlM (u := u) filter.ranges ⟨filter.defaultAllow, []⟩ with
          ⟨e, he, hne⟩ | hok
        · rw [he]
          exact .inl ⟨e, rfl, hne⟩
        · rw [hok]
          exact .inr rfl

/-- A range at the end of the indices, that denies the last one. -/
def denyLast : KvmMsrFilter := ⟨0, [⟨3, 1, 0xffffffff, 0⟩]⟩

/-- All of the memory is 0. -/
def zeroMemory : UserSpace := ⟨fun _ _ => false, fun _ _ => true, fun _ => true⟩

/-- The last index is allowed, though the range that holds it denies it. -/
theorem topRangeIgnored :
    (kvmVmIoctlSetMsrFilter zeroMemory true {} denyLast).1 = 0 ∧
      userAllows zeroMemory 0xffffffff msrFilterRead denyLast.defaultAllow denyLast.ranges = false ∧
        kvmMsrAllowed (kvmVmIoctlSetMsrFilter zeroMemory true {} denyLast).2.1 0xffffffff
          msrFilterRead = true := by
  decide +kernel

/-- **When the filter means what its ranges say**: an accepted filter decides as they do exactly if
the first range that holds the index ends below 2^32, or its bit is what the ranges behind it say
that do.  The bit that is tested is always in the copy, and a filter that is not accepted leaves
every decision. -/
theorem msrFilter_right_iff (index : BitVec 32) (access : MsrAccess)
    (hindex : ¬ (0x800 ≤ index ∧ index ≤ 0x8ff)) :
    ((kvmVmIoctlSetMsrFilter u allocated vm filter).1 = 0 →
      (kvmMsrAllowed (kvmVmIoctlSetMsrFilter u allocated vm filter).2.1 index access.filter =
          userAllows u index access.filter filter.defaultAllow filter.ranges ↔
        FirstEndsBelow u index access.filter filter.defaultAllow filter.ranges) ∧
      ∀ f, (kvmVmIoctlSetMsrFilter u allocated vm filter).2.1.msrFilter = some f →
        ∀ r ∈ f.ranges, r.base ≤ index ∧ index < r.base + r.nmsrs ∧ r.flags &&& access.filter ≠ 0 →
          (index - r.base).toNat < r.bitmap.length) ∧
      ((kvmVmIoctlSetMsrFilter u allocated vm filter).1 ≠ 0 → ∀ index type,
        kvmMsrAllowed (kvmVmIoctlSetMsrFilter u allocated vm filter).2.1 index type =
          kvmMsrAllowed vm index type) := by
  rcases kvmVmIoctlSetMsrFilter_spec u allocated vm filter with ⟨e, he, hne⟩ | hok
  · rw [he]
    exact ⟨fun hzero => absurd hzero hne, fun _ _ _ => rfl⟩
  · rw [hok]
    refine ⟨fun _ => ⟨?_, ?_⟩, fun hne => absurd rfl hne⟩
    · have hallowed : kvmMsrAllowed { vm with
          msrFilter := some ⟨filter.defaultAllow,
            (filter.ranges.filter (·.nmsrs ≠ 0)).map (·.copied u)⟩ } index access.filter =
          userAllows u index access.filter filter.defaultAllow
            (filter.ranges.filter (·.endsBelow)) := by
        rw [← rangesAllow_copied, kvmMsrAllowed, if_neg hindex]
      rw [hallowed]
      exact userAllows_filter_iff filter.defaultAllow filter.ranges
    · rintro f hf r hr hmatch
      cases hf
      obtain ⟨userRange, -, rfl⟩ := List.mem_map.mp hr
      exact (testBit_copied ((inRange_iff userRange).mp hmatch).1).1

theorem msrFilter_right_iff_tsc :
    ((kvmVmIoctlSetMsrFilter zeroMemory true {} ⟨0, [⟨3, 64, 0, 0⟩]⟩).1 = 0 →
      (kvmMsrAllowed (kvmVmIoctlSetMsrFilter zeroMemory true {} ⟨0, [⟨3, 64, 0, 0⟩]⟩).2.1 0x10
            MsrAccess.read.filter =
          userAllows zeroMemory 0x10 MsrAccess.read.filter
            (KvmMsrFilter.mk 0 [⟨3, 64, 0, 0⟩]).defaultAllow [⟨3, 64, 0, 0⟩] ↔
        FirstEndsBelow zeroMemory 0x10 MsrAccess.read.filter
          (KvmMsrFilter.mk 0 [⟨3, 64, 0, 0⟩]).defaultAllow [⟨3, 64, 0, 0⟩]) ∧
      ∀ f, (kvmVmIoctlSetMsrFilter zeroMemory true {} ⟨0, [⟨3, 64, 0, 0⟩]⟩).2.1.msrFilter = some f →
        ∀ r ∈ f.ranges, r.base ≤ 0x10 ∧ 0x10 < r.base + r.nmsrs ∧
            r.flags &&& MsrAccess.read.filter ≠ 0 →
          (0x10 - r.base).toNat < r.bitmap.length) ∧
      ((kvmVmIoctlSetMsrFilter zeroMemory true {} ⟨0, [⟨3, 64, 0, 0⟩]⟩).1 ≠ 0 → ∀ index type,
        kvmMsrAllowed (kvmVmIoctlSetMsrFilter zeroMemory true {} ⟨0, [⟨3, 64, 0, 0⟩]⟩).2.1 index
            type = kvmMsrAllowed {} index type) :=
  msrFilter_right_iff zeroMemory true {} ⟨0, [⟨3, 64, 0, 0⟩]⟩ 0x10 .read (by decide)

end Filter

end Kvm
