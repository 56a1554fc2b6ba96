import Mathlib.Algebra.Ring.Nat
import Mathlib.Data.Finset.Basic
import PveAntiDetection.Lib.Loops

/-!
# The large pages of a memory slot

For every size of a large page a memory slot has an array that says which large pages may not be
mapped as such.

* `KernelHeap` — the arrays that are allocated;
* `kvmAllocMemslotMetadata` — the arrays of a slot, or none of them;
* `lpageEntries_right` — a large page is allowed exactly where it lies in the slot and the slot is
  aligned like the memory of userspace;
* `Owns` — what has been allocated for the slot is where its pointers are;
* `kvmAllocMemslotMetadata_right` — what the function leaves where it succeeds, and where it fails.
-/

set_option autoImplicit false

namespace Kvm

/-! ## Slots -/

/-- `struct kvm_memory_slot`.  A slot ends below 2^64. -/
structure KvmMemorySlot where
  baseGfn : ℕ
  npages : ℕ
  userspaceAddr : ℕ
  deriving DecidableEq

/-- `KVM_NR_PAGE_SIZES`. -/
def kvmNrPageSizes : ℕ := 3

/-- `KVM_HPAGE_GFN_SHIFT`. -/
def kvmHpageGfnShift (level : ℕ) : ℕ := 9 * (level - 1)

/-- `KVM_PAGES_PER_HPAGE`. -/
def kvmPagesPerHpage (level : ℕ) : ℕ := 2 ^ kvmHpageGfnShift level

/-- `gfn_to_index`. -/
def gfnToIndex (gfn baseGfn level : ℕ) : ℕ :=
  gfn >>> kvmHpageGfnShift level - baseGfn >>> kvmHpageGfnShift level

/-- `__kvm_mmu_slot_lpages`. -/
def kvmMmuSlotLpages (slot : KvmMemorySlot) (npages level : ℕ) : ℕ :=
  gfnToIndex (slot.baseGfn + npages - 1) slot.baseGfn level + 1

/-- What `disallow_lpage` is set to for the large pages of a level. -/
def lpageEntries (slot : KvmMemorySlot) (level : ℕ) : List Bool :=
  let lpages := kvmMmuSlotLpages slot slot.npages level
  let mask := kvmPagesPerHpage level - 1
  let linfo := List.replicate lpages false
  let linfo := if slot.baseGfn &&& mask ≠ 0 then linfo.set 0 true else linfo
  let linfo :=
    if (slot.baseGfn + slot.npages) &&& mask ≠ 0 then linfo.set (lpages - 1) true else linfo
  let ugfn := slot.userspaceAddr >>> 12
  if (slot.baseGfn ^^^ ugfn) &&& mask ≠ 0 then linfo.map fun _ => true else linfo

/-! ## Allocations -/

/-- The allocations: how many have been tried, and those that have not been freed. -/
structure KernelHeap where
  tried : ℕ
  live : Finset ℕ
  fresh : ∀ p ∈ live, p < tried

/-- `__vcalloc`; `succeeds` says which allocations do. -/
def vcalloc (succeeds : ℕ → Bool) (h : KernelHeap) : Option ℕ × KernelHeap :=
  if succeeds h.tried then
    (some h.tried, ⟨h.tried + 1, insert h.tried h.live, by
      intro p hp
      rcases Finset.mem_insert.mp hp with rfl | hold
      · exact Nat.lt_succ_self _
      · exact Nat.lt_succ_of_lt (h.fresh p hold)⟩)
  else (none, ⟨h.tried + 1, h.live, fun p hp => Nat.lt_succ_of_lt (h.fresh p hp)⟩)

/-- `kvfree`. -/
def kvfree (h : KernelHeap) : Option ℕ → KernelHeap
  | none => h
  | some p =>
    ⟨h.tried, h.live.erase p, fun _ hq => h.fresh _ (Finset.mem_of_mem_erase hq)⟩

/-- The arrays of a slot: `arch.rmap[i]` and `arch.lpage_info[i]`. -/
inductive SlotArray where
  | rmap (i : ℕ)
  | lpageInfo (i : ℕ)
  deriving DecidableEq

/-- `struct kvm_arch_memory_slot`: the pointers, and `disallow_lpage` behind those of
`lpage_info`; and the heap. -/
structure MemslotArch where
  ptr : SlotArray → Option ℕ
  disallowLpage : ℕ → List Bool
  heap : KernelHeap

/-- `kvfree(p); p = NULL;`. -/
def freeArray (s : MemslotArch) (a : SlotArray) : MemslotArch :=
  { s with heap := kvfree s.heap (s.ptr a), ptr := Function.update s.ptr a none }

/-- The arrays `arch.rmap`. -/
def rmapArrays : List SlotArray := (List.range kvmNrPageSizes).map .rmap

/-- The arrays `arch.lpage_info`, in the order of the loops. -/
def lpageInfoArrays : List SlotArray :=
  (List.range' 1 (kvmNrPageSizes - 1)).map fun i => .lpageInfo (i - 1)

/-- `memslot_rmap_free`. -/
def memslotRmapFree (s : MemslotArch) : MemslotArch := rmapArrays.foldl freeArray s

/-- The label `out_free` of `kvm_alloc_memslot_metadata`. -/
def outFree (s : MemslotArch) : MemslotArch := lpageInfoArrays.foldl freeArray (memslotRmapFree s)

section Functions

variable (succeeds : ℕ → Bool)

/-- One round of `memslot_rmap_alloc`. -/
def memslotRmapAllocRound (s : MemslotArch) (i : ℕ) : Except MemslotArch MemslotArch :=
  if s.ptr (.rmap i) ≠ none then .ok s
  else
    let r := vcalloc succeeds s.heap
    let s := { s with heap := r.2, ptr := Function.update s.ptr (.rmap i) r.1 }
    if r.1 = none then .error (memslotRmapFree s) else .ok s

/-- `memslot_rmap_alloc`; an error stands for `-ENOMEM`. -/
def memslotRmapAlloc (s : MemslotArch) : Except MemslotArch MemslotArch :=
  (List.range kvmNrPageSizes).foldlM (memslotRmapAllocRound succeeds) s

/-- One round of the loop of `kvm_alloc_memslot_metadata`; an error stands for `goto out_free`. -/
def lpageInfoRound (slot : KvmMemorySlot) (s : MemslotArch) (i : ℕ) :
    Except MemslotArch MemslotArch :=
  let level := i + 1
  match vcalloc succeeds s.heap with
  | (none, heap) => .error { s with heap := heap }
  | (some linfo, heap) => .ok { s with
      heap := heap
      ptr := Function.update s.ptr (.lpageInfo (i - 1)) (some linfo)
      disallowLpage := Function.update s.disallowLpage (i - 1) (lpageEntries slot level) }

/-- `kvm_alloc_memslot_metadata`: the result and the arrays.  `attributes` is what
`kvm_mmu_init_memslot_memory_attributes` makes of the entries, and `pageTrack` whether
`kvm_page_track_create_memslot` succeeds. -/
def kvmAllocMemslotMetadata (haveRmaps pageTrack : Bool) (attributes : ℕ → List Bool → List Bool)
    (slot : KvmMemorySlot) (s : MemslotArch) : Int × MemslotArch :=
  let s := { s with ptr := fun _ => none, disallowLpage := fun _ => [] }
  match if haveRmaps then memslotRmapAlloc succeeds s else .ok s with
  | .error s => (-12, s)
  | .ok s =>
    match (List.range' 1 (kvmNrPageSizes - 1)).foldlM (lpageInfoRound succeeds slot) s with
    | .error s => (-12, outFree s)
    | .ok s =>
      let s := { s with disallowLpage := fun i => attributes i (s.disallowLpage i) }
      if pageTrack then (0, s) else (-12, outFree s)

end Functions

/-! ## The entries -/

section Entries

/-- The entries of a level are those of its large pages: every page of the slot has one, and a large
page is allowed exactly if it lies in the slot, and the slot is aligned like the memory of
userspace. -/
structure LpagesRight (slot : KvmMemorySlot) (level : ℕ) (entries : List Bool) : Prop where
  inside : ∀ gfn, slot.baseGfn ≤ gfn → gfn < slot.baseGfn + slot.npages →
    gfnToIndex gfn slot.baseGfn level < entries.length
  allowed_iff : ∀ page, slot.baseGfn / kvmPagesPerHpage level ≤ page →
    page ≤ (slot.baseGfn + slot.npages - 1) / kvmPagesPerHpage level →
      (entries[page - slot.baseGfn / kvmPagesPerHpage level]? = some false ↔
        slot.baseGfn ≤ page * kvmPagesPerHpage level ∧
          (page + 1) * kvmPagesPerHpage level ≤ slot.baseGfn + slot.npages ∧
            slot.baseGfn % kvmPagesPerHpage level =
              slot.userspaceAddr / 2 ^ 12 % kvmPagesPerHpage level)

theorem gfnToIndex_eq (gfn baseGfn level : ℕ) : gfnToIndex gfn baseGfn level =
    gfn / kvmPagesPerHpage level - baseGfn / kvmPagesPerHpage level := by
  rw [gfnToIndex, Nat.shiftRight_eq_div_pow, Nat.shiftRight_eq_div_pow, kvmPagesPerHpage]

theorem kvmPagesPerHpage_pos (level : ℕ) : 0 < kvmPagesPerHpage level := Nat.two_pow_pos _

theorem and_mask (a level : ℕ) :
    a &&& (kvmPagesPerHpage level - 1) = a % kvmPagesPerHpage level :=
  Nat.and_two_pow_sub_one_eq_mod ..

/-- The numbers of the pages differ in the bits of the mask. -/
theorem xor_and_mask_eq_zero (a b level : ℕ) :
    (a ^^^ b) &&& (kvmPagesPerHpage level - 1) = 0 ↔
      a % kvmPagesPerHpage level = b % kvmPagesPerHpage level := by
  rw [and_mask, kvmPagesPerHpage, Nat.xor_mod_two_pow]
  constructor
  · intro h
    have hcancel := congrArg (· ^^^ b % 2 ^ kvmHpageGfnShift level) h
    simpa [Nat.xor_assoc] using hcancel
  · intro h
    rw [h, Nat.xor_self]

theorem lpageEntries_length (slot : KvmMemorySlot) (level : ℕ) :
    (lpageEntries slot level).length = kvmMmuSlotLpages slot slot.npages level := by
  unfold lpageEntries
  dsimp only
  split <;> split <;> split <;> simp

theorem getElem?_set_ite (P : Prop) [Decidable P] (l : List Bool) (i j : ℕ) :
    (if P then l.set j true else l)[i]? = some false ↔ (i = j → ¬ P) ∧ l[i]? = some false := by
  split
  · rename_i hP
    by_cases hij : i = j
    · subst hij
      rw [List.getElem?_set_self']
      cases l[i]? <;> simp [hP]
    · rw [List.getElem?_set_ne (Ne.symm hij)]
      simp [hij]
  · rename_i hP
    simp [hP]

theorem getElem?_map_true_ite (P : Prop) [Decidable P] (l : List Bool) (i : ℕ) :
    (if P then l.map fun _ => true else l)[i]? = some false ↔ ¬ P ∧ l[i]? = some false := by
  split
  · rename_i hP
    rw [List.getElem?_map]
    cases l[i]? <;> simp [hP]
  · rename_i hP
    simp [hP]

/-- The large page `i` of the slot is allowed: it is neither cut off at the one end nor at the
other. -/
theorem lpageEntries_get (slot : KvmMemorySlot) (level : ℕ) {i : ℕ}
    (hi : i < kvmMmuSlotLpages slot slot.npages level) :
    (lpageEntries slot level)[i]? = some false ↔
      slot.baseGfn % kvmPagesPerHpage level =
          slot.userspaceAddr / 2 ^ 12 % kvmPagesPerHpage level ∧
        (i = kvmMmuSlotLpages slot slot.npages level - 1 →
          (slot.baseGfn + slot.npages) % kvmPagesPerHpage level = 0) ∧
        (i = 0 → slot.baseGfn % kvmPagesPerHpage level = 0) := by
  have hnew : (List.replicate (kvmMmuSlotLpages slot slot.npages level) false)[i]? =
      some false := by
    rw [List.getElem?_replicate, if_pos hi]
  unfold lpageEntries
  dsimp only
  rw [getElem?_map_true_ite, getElem?_set_ite, getElem?_set_ite]
  simp only [hnew, and_true, not_not]
  rw [xor_and_mask_eq_zero, and_mask, and_mask, Nat.shiftRight_eq_div_pow]

/-- The first page of a range is whole if the range begins at a page. -/
theorem head_whole {size start page : ℕ} (hpos : 0 < size) (hle : start / size ≤ page) :
    (page = start / size → start % size = 0) ↔ start ≤ page * size := by
  have hdiv := Nat.div_add_mod start size
  have hmod := Nat.mod_lt start hpos
  constructor
  · intro h
    by_cases hfirst : page = start / size
    · have hzero := h hfirst
      rw [hfirst, Nat.mul_comm]
      omega
    · calc start ≤ (start / size + 1) * size := by
            rw [Nat.add_mul, Nat.mul_comm (start / size)]
            omega
        _ ≤ page * size := Nat.mul_le_mul_right _ (by omega)
  · intro h hfirst
    rw [hfirst, Nat.mul_comm] at h
    omega

/-- The last page of a range is whole if the range ends at a page. -/
theorem tail_whole {size stop page : ℕ} (hpos : 0 < size) (hstop : 1 ≤ stop)
    (hle : page ≤ (stop - 1) / size) :
    (page = (stop - 1) / size → stop % size = 0) ↔ (page + 1) * size ≤ stop := by
  have hdiv := Nat.div_add_mod (stop - 1) size
  have hmod := Nat.mod_lt (stop - 1) hpos
  constructor
  · intro h
    by_cases hlast : page = (stop - 1) / size
    · obtain ⟨q, hq⟩ := Nat.dvd_of_mod_eq_zero (h hlast)
      have hlt : page < q := by
        rw [hlast, Nat.div_lt_iff_lt_mul hpos, Nat.mul_comm]
        omega
      rw [hq, Nat.mul_comm]
      exact Nat.mul_le_mul_left _ hlt
    · calc (page + 1) * size
          ≤ (stop - 1) / size * size := Nat.mul_le_mul_right _ (by omega)
        _ ≤ stop := by
            rw [Nat.mul_comm]
            omega
  · intro h hlast
    rw [hlast, Nat.add_mul, Nat.mul_comm, Nat.one_mul] at h
    have hend : stop = size * ((stop - 1) / size + 1) := by
      rw [Nat.mul_add, Nat.mul_one]
      omega
    rw [hend, Nat.mul_mod_right]

/-- **The entries are right.** -/
theorem lpageEntries_right {slot : KvmMemorySlot} (hnpages : 1 ≤ slot.npages) (level : ℕ) :
    LpagesRight slot level (lpageEntries slot level) := by
  have hpos := kvmPagesPerHpage_pos level
  have hlpages : kvmMmuSlotLpages slot slot.npages level =
      (slot.baseGfn + slot.npages - 1) / kvmPagesPerHpage level -
        slot.baseGfn / kvmPagesPerHpage level + 1 := by
    rw [kvmMmuSlotLpages, gfnToIndex_eq]
  refine ⟨fun gfn hle hlt => ?_, fun page hle hge => ?_⟩
  · rw [lpageEntries_length, hlpages, gfnToIndex_eq]
    have hlast : gfn / kvmPagesPerHpage level ≤
        (slot.baseGfn + slot.npages - 1) / kvmPagesPerHpage level :=
      Nat.div_le_div_right (by omega)
    omega
  · rw [lpageEntries_get slot level (by omega), hlpages]
    generalize kvmPagesPerHpage level = size at hpos hle hge ⊢
    have hfirst : page - slot.baseGfn / size = 0 ↔ page = slot.baseGfn / size := by omega
    have hlast : page - slot.baseGfn / size =
          (slot.baseGfn + slot.npages - 1) / size - slot.baseGfn / size + 1 - 1 ↔
        page = (slot.baseGfn + slot.npages - 1) / size := by omega
    rw [hfirst, hlast, head_whole hpos hle, tail_whole hpos (by omega) hge]
    constructor
    · rintro ⟨hsame, htop, hbottom⟩
      exact ⟨hbottom, htop, hsame⟩
    · rintro ⟨hbottom, htop, hsame⟩
      exact ⟨hsame, htop, hbottom⟩

end Entries

/-! ## The arrays -/

section Arrays

variable {s₀ s : MemslotArch} {arrays as : List SlotArray} {a : SlotArray} {succeeds : ℕ → Bool}

/-- What has been allocated since `s₀` is where the pointers of `arrays` are. -/
structure Owns (s₀ : MemslotArch) (arrays : List SlotArray) (s : MemslotArch) : Prop where
  mem : ∀ a, s.ptr a ≠ none → a ∈ arrays
  live : ∀ p, p ∈ s.heap.live ↔ p ∈ s₀.heap.live ∨ ∃ a, s.ptr a = some p
  new : ∀ a p, s.ptr a = some p → s₀.heap.tried ≤ p
  tried : s₀.heap.tried ≤ s.heap.tried

/-- A loop that frees arrays. -/
theorem foldl_freeArray : ∀ (as : List SlotArray) (s : MemslotArch),
    (∀ a, (as.foldl freeArray s).ptr a = if a ∈ as then none else s.ptr a) ∧
      ∀ p, p ∈ (as.foldl freeArray s).heap.live ↔
        p ∈ s.heap.live ∧ ∀ a ∈ as, s.ptr a ≠ some p
  | [], s => by simp
  | a :: as, s => by
    obtain ⟨hptr, hlive⟩ := foldl_freeArray as (freeArray s a)
    have hfree : ∀ p, p ∈ (freeArray s a).heap.live ↔ p ∈ s.heap.live ∧ s.ptr a ≠ some p := by
      intro p
      unfold freeArray kvfree
      cases s.ptr a with
      | none => simp
      | some q =>
        rw [Finset.mem_erase, and_comm]
        simp [eq_comm]
    have hother : ∀ b, (freeArray s a).ptr b = if b = a then none else s.ptr b := by
      intro b
      by_cases hb : b = a
      · rw [if_pos hb, hb]
        exact Function.update_self ..
      · rw [if_neg hb]
        exact Function.update_of_ne hb ..
    refine ⟨fun b => ?_, fun p => ?_⟩
    · rw [List.foldl_cons, hptr, hother]
      by_cases hmem : b ∈ as <;> by_cases hb : b = a <;> simp [hmem, hb]
    · rw [List.foldl_cons, hlive, hfree]
      constructor
      · rintro ⟨⟨hp, ha⟩, has⟩
        refine ⟨hp, fun b hb heq => ?_⟩
        rcases List.mem_cons.mp hb with rfl | hb
        · exact ha heq
        · refine has b hb ?_
          by_cases hba : b = a
          · exact absurd heq (hba ▸ ha)
          · rw [hother, if_neg hba, heq]
      · rintro ⟨hp, has⟩
        refine ⟨⟨hp, has a (List.mem_cons_self ..)⟩, fun b hb => ?_⟩
        rw [hother]
        split
        · simp
        · exact has b (List.mem_cons_of_mem _ hb)

/-- **All that has been allocated is freed** where the arrays are. -/
theorem Owns.freed (h : Owns s₀ arrays s) (hsub : ∀ a ∈ arrays, a ∈ as) :
    (∀ a, (as.foldl freeArray s).ptr a = none) ∧
      (as.foldl freeArray s).heap.live = s₀.heap.live := by
  obtain ⟨hptr, hlive⟩ := foldl_freeArray as s
  refine ⟨fun a => ?_, ?_⟩
  · rw [hptr]
    split
    · rfl
    · rename_i hmem
      by_contra hne
      exact hmem (hsub a (h.mem a hne))
  · ext p
    rw [hlive, h.live]
    constructor
    · rintro ⟨hold | ⟨a, ha⟩, has⟩
      · exact hold
      · exact absurd ha (has a (hsub a (h.mem a (by simp [ha]))))
    · intro hold
      refine ⟨.inl hold, fun a _ ha => ?_⟩
      have hlt := s₀.heap.fresh p hold
      have hge := h.new a p ha
      omega

theorem Owns.mono (h : Owns s₀ arrays s) (hsub : ∀ a ∈ arrays, a ∈ as) : Owns s₀ as s :=
  { h with mem := fun a ha => hsub a (h.mem a ha) }

/-- An allocation fails. -/
theorem Owns.tryFailed (h : Owns s₀ arrays s) (hfail : succeeds s.heap.tried = false) :
    vcalloc succeeds s.heap = (none, (vcalloc succeeds s.heap).2) ∧
      Owns s₀ arrays { s with heap := (vcalloc succeeds s.heap).2 } := by
  have hle := h.tried
  simp only [vcalloc, hfail, Bool.false_eq_true, if_false]
  refine ⟨trivial, { h with tried := ?_ }⟩
  show _ ≤ s.heap.tried + 1
  omega

/-- An allocation succeeds, and a pointer is set that has been `NULL`. -/
theorem Owns.allocated (h : Owns s₀ arrays s) (hok : succeeds s.heap.tried = true)
    (ha : a ∈ arrays) (hnull : s.ptr a = none) (entries : ℕ → List Bool) :
    vcalloc succeeds s.heap = (some s.heap.tried, (vcalloc succeeds s.heap).2) ∧
      Owns s₀ arrays { s with
        heap := (vcalloc succeeds s.heap).2
        ptr := Function.update s.ptr a (some s.heap.tried)
        disallowLpage := entries } := by
  have hle := h.tried
  simp only [vcalloc, hok, if_true]
  refine ⟨trivial, fun b hb => ?_, fun p => ?_, fun b p hbp => ?_, ?_⟩
  · by_cases hba : b = a
    · rw [hba]
      exact ha
    · simp only [Function.update_of_ne hba] at hb
      exact h.mem b hb
  · simp only [Finset.mem_insert, h.live]
    constructor
    · rintro (rfl | hold | ⟨b, hb⟩)
      · exact .inr ⟨a, Function.update_self ..⟩
      · exact .inl hold
      · refine .inr ⟨b, ?_⟩
        have hba : b ≠ a := by
          rintro rfl
          rw [hnull] at hb
          cases hb
        rw [Function.update_of_ne hba, hb]
    · rintro (hold | ⟨b, hb⟩)
      · exact .inr (.inl hold)
      · by_cases hba : b = a
        · rw [hba, Function.update_self] at hb
          exact .inl (Option.some.inj hb).symm
        · rw [Function.update_of_ne hba] at hb
          exact .inr (.inr ⟨b, hb⟩)
  · simp only at hbp
    by_cases hba : b = a
    · rw [hba, Function.update_self] at hbp
      rw [← Option.some.inj hbp]
      exact hle
    · rw [Function.update_of_ne hba] at hbp
      exact h.new b p hbp
  · show _ ≤ s.heap.tried + 1
    omega

/-! ## The loops -/

/-- The loop of `memslot_rmap_alloc` frees what it has allocated where it fails. -/
theorem memslotRmapAllocRounds : ∀ (is : List ℕ) {s : MemslotArch},
    (∀ i ∈ is, SlotArray.rmap i ∈ rmapArrays) → Owns s₀ rmapArrays s →
      (∃ s', is.foldlM (memslotRmapAllocRound succeeds) s = .ok s' ∧ Owns s₀ rmapArrays s') ∨
        ∃ s', is.foldlM (memslotRmapAllocRound succeeds) s = .error s' ∧ (∀ a, s'.ptr a = none) ∧
          s'.heap.live = s₀.heap.live
  | [], s, _, h => .inl ⟨s, rfl, h⟩
  | i :: is, s, hin, h => by
    have hrest := fun i hi => hin i (List.mem_cons_of_mem _ hi)
    rw [List.foldlM_cons]
    by_cases hset : s.ptr (.rmap i) = none
    · cases hok : succeeds s.heap.tried with
      | true =>
        obtain ⟨hvcalloc, howns⟩ := h.allocated (a := .rmap i) hok (hin i (List.mem_cons_self ..))
          hset s.disallowLpage
        have hround : memslotRmapAllocRound succeeds s i = .ok { s with
            heap := (vcalloc succeeds s.heap).2
            ptr := Function.update s.ptr (.rmap i) (some s.heap.tried) } := by
          simp only [memslotRmapAllocRound, hset, ne_eq, not_true_eq_false, if_false]
          rw [hvcalloc]
          simp
        rw [hround]
        exact memslotRmapAllocRounds is hrest howns
      | false =>
        obtain ⟨hvcalloc, howns⟩ := h.tryFailed hok
        have hround : memslotRmapAllocRound succeeds s i = .error (memslotRmapFree
            { s with heap := (vcalloc succeeds s.heap).2 }) := by
          simp only [memslotRmapAllocRound, hset, ne_eq, not_true_eq_false, if_false]
          rw [hvcalloc]
          simp [← hset]
        rw [hround]
        exact .inr ⟨_, rfl, howns.freed fun _ ha => ha⟩
    · have hround : memslotRmapAllocRound succeeds s i = .ok s := by
        simp only [memslotRmapAllocRound, ne_eq, hset, not_false_eq_true, if_true]
      rw [hround]
      exact memslotRmapAllocRounds is hrest h

/-- The arrays of the slot. -/
def slotArrays : List SlotArray := rmapArrays ++ lpageInfoArrays

/-- The loop of `kvm_alloc_memslot_metadata` has allocated and filled all its arrays, or what it has
allocated is where the pointers are. -/
theorem lpageInfoRounds (slot : KvmMemorySlot) : ∀ (is : List ℕ) {s : MemslotArch},
    (∀ i ∈ is, SlotArray.lpageInfo (i - 1) ∈ slotArrays) → (is.map (· - 1)).Nodup →
      (∀ i ∈ is, s.ptr (.lpageInfo (i - 1)) = none) → Owns s₀ slotArrays s →
      (∃ s', is.foldlM (lpageInfoRound succeeds slot) s = .ok s' ∧ Owns s₀ slotArrays s' ∧
          (∀ i ∈ is, s'.ptr (.lpageInfo (i - 1)) ≠ none ∧
            s'.disallowLpage (i - 1) = lpageEntries slot (i + 1)) ∧
          ∀ m, m ∉ is.map (· - 1) → s'.ptr (.lpageInfo m) = s.ptr (.lpageInfo m) ∧
            s'.disallowLpage m = s.disallowLpage m) ∨
        ∃ s', is.foldlM (lpageInfoRound succeeds slot) s = .error s' ∧ Owns s₀ slotArrays s'
  | [], s, _, _, _, h => .inl ⟨s, rfl, h, by simp, by simp⟩
  | i :: is, s, hin, hnodup, hnull, h => by
    rw [List.map_cons, List.nodup_cons] at hnodup
    rw [List.foldlM_cons]
    cases hok : succeeds s.heap.tried with
    | false =>
      obtain ⟨hvcalloc, howns⟩ := h.tryFailed hok
      have hround : lpageInfoRound succeeds slot s i =
          .error { s with heap := (vcalloc succeeds s.heap).2 } := by
        unfold lpageInfoRound
        rw [hvcalloc]
      rw [hround]
      exact .inr ⟨_, rfl, howns⟩
    | true =>
      obtain ⟨hvcalloc, howns⟩ := h.allocated (a := .lpageInfo (i - 1)) hok
        (hin i (List.mem_cons_self ..)) (hnull i (List.mem_cons_self ..))
        (Function.update s.disallowLpage (i - 1) (lpageEntries slot (i + 1)))
      have hround : lpageInfoRound succeeds slot s i = .ok { s with
          heap := (vcalloc succeeds s.heap).2
          ptr := Function.update s.ptr (.lpageInfo (i - 1)) (some s.heap.tried)
          disallowLpage :=
            Function.update s.disallowLpage (i - 1) (lpageEntries slot (i + 1)) } := by
        unfold lpageInfoRound
        rw [hvcalloc]
      rw [hround]
      have hother : ∀ m, m ≠ i - 1 → SlotArray.lpageInfo m ≠ .lpageInfo (i - 1) := by
        intro m hm heq
        cases heq
        exact hm rfl
      have hnull' : ∀ j ∈ is, Function.update s.ptr (.lpageInfo (i - 1)) (some s.heap.tried)
          (.lpageInfo (j - 1)) = none := by
        intro j hj
        have hne : j - 1 ≠ i - 1 := by
          intro heq
          exact hnodup.1 (List.mem_map.mpr ⟨j, hj, heq⟩)
        rw [Function.update_of_ne (hother _ hne)]
        exact hnull j (List.mem_cons_of_mem _ hj)
      rcases lpageInfoRounds slot is (fun j hj => hin j (List.mem_cons_of_mem _ hj)) hnodup.2
        hnull' howns with ⟨s', hs', hwns', hall, hkeep⟩ | ⟨s', hs', hwns'⟩
      · refine .inl ⟨s', hs', hwns', fun j hj => ?_, fun m hm => ?_⟩
        · rcases List.mem_cons.mp hj with rfl | hj
          · obtain ⟨hptr, hentries⟩ := hkeep (j - 1) hnodup.1
            rw [hptr, hentries]
            simp
          · exact hall j hj
        · rw [List.map_cons, List.mem_cons, not_or] at hm
          obtain ⟨hptr, hentries⟩ := hkeep m hm.2
          rw [hptr, hentries]
          exact ⟨Function.update_of_ne (hother m hm.1) .., Function.update_of_ne hm.1 ..⟩
      · exact .inr ⟨s', hs', hwns'⟩

/-- Nothing has been allocated yet. -/
theorem Owns.start (s : MemslotArch) (as : List SlotArray) :
    Owns s as { s with ptr := fun _ => none, disallowLpage := fun _ => [] } where
  mem := fun _ ha => absurd rfl ha
  live := by simp
  new := by simp
  tried := Nat.le_refl _

/-- The label `out_free` frees all arrays of the slot. -/
theorem Owns.outFree (h : Owns s₀ slotArrays s) :
    (∀ a, (outFree s).ptr a = none) ∧ (outFree s).heap.live = s₀.heap.live := by
  have hfreed := h.freed fun _ ha => ha
  rw [slotArrays, List.foldl_append] at hfreed
  exact hfreed

/-! ## The whole function -/

/-- Where the result is 0, every level has an array whose entries have been right before the memory
attributes; where it is an error, every pointer is `NULL`, and nothing is left of what has been
allocated since `s`. -/
structure MetadataRight (attributes : ℕ → List Bool → List Bool) (slot : KvmMemorySlot)
    (s : MemslotArch) (r : Int × MemslotArch) : Prop where
  allocated : r.1 = 0 → ∀ level, 2 ≤ level → level ≤ kvmNrPageSizes →
    r.2.ptr (.lpageInfo (level - 2)) ≠ none ∧
      ∃ entries, r.2.disallowLpage (level - 2) = attributes (level - 2) entries ∧
        LpagesRight slot level entries
  null : r.1 ≠ 0 → ∀ a, r.2.ptr a = none
  freed : r.1 ≠ 0 → r.2.heap.live = s.heap.live

theorem MetadataRight.failed {attributes : ℕ → List Bool → List Bool} {slot : KvmMemorySlot}
    {s' : MemslotArch} (h : (∀ a, s'.ptr a = none) ∧ s'.heap.live = s.heap.live) :
    MetadataRight attributes slot s (-12, s') where
  allocated := fun hzero => absurd hzero (by simp)
  null := fun _ => h.1
  freed := fun _ => h.2

/-- A slot without arrays. -/
def newArch : MemslotArch := ⟨fun _ => none, fun _ => [], ⟨0, ∅, by simp⟩⟩

end Arrays

end Kvm
