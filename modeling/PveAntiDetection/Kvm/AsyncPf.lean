import PveAntiDetection.Lib.LinearProbing
import PveAntiDetection.Lib.Loops
import PveAntiDetection.Lib.Runs

/-!
# The pages an asynchronous page fault waits for

A virtual CPU keeps the frame numbers of these pages in a hash table with linear probing; a deletion
moves the frame numbers behind the freed slot back to their hashes.

* `kvmAddAsyncPfGfn`, `kvmAsyncPfGfnSlot`, `kvmFindAsyncPfGfn`, `kvmDelAsyncPfGfn` — the operations;
* `ApfTable` — the frame numbers in the table, all of them reachable;
* `kvmAddAsyncPfGfn_spec`, `kvmFindAsyncPfGfn_iff`, `kvmDelAsyncPfGfn_spec` — what each does;
* `emptySlotFound` — the mark of an empty slot is found too;
* `apfRun_right` — every run ends, and finds what has been added and not deleted.
-/

set_option autoImplicit false

namespace Kvm

open LinearProbing

/-! ## The operations -/

/-- The mark `~0` of an empty slot. -/
def noGfn : BitVec 64 := BitVec.allOnes 64

/-- `vcpu->arch.apf.gfns`, of `ASYNC_PF_PER_VCPU = 2 ^ order` slots. -/
abbrev ApfGfns (order : ℕ) : Type := Fin (2 ^ order) → BitVec 64

section Operations

variable {order : ℕ} (hash32 : BitVec 32 → Fin (2 ^ order))

/-- `kvm_async_pf_hash_fn`; `hash_32` gives a number of `order` bits. -/
def kvmAsyncPfHashFn (gfn : BitVec 64) : Fin (2 ^ order) :=
  hash32 ((gfn &&& 0xffffffff).setWidth 32)

/-- `kvm_async_pf_next_probe`. -/
def kvmAsyncPfNextProbe (key : Fin (2 ^ order)) : Fin (2 ^ order) :=
  ⟨(key.val + 1) &&& (2 ^ order - 1),
    Nat.and_lt_two_pow _ (Nat.sub_lt (Nat.two_pow_pos _) Nat.one_pos)⟩

/-- `kvm_add_async_pf_gfn`. -/
def kvmAddAsyncPfGfn (fuel : ℕ) (gfns : ApfGfns order) (gfn : BitVec 64) :
    Option (ApfGfns order) := do
  let key ← Loops.loop (fun key => gfns key ≠ noGfn) kvmAsyncPfNextProbe fuel
    (kvmAsyncPfHashFn hash32 gfn)
  return Function.update gfns key gfn

/-- The loop of `kvm_async_pf_gfn_slot`, with `rounds` rounds left. -/
def kvmAsyncPfGfnSlotLoop (gfns : ApfGfns order) (gfn : BitVec 64) :
    ℕ → Fin (2 ^ order) → Fin (2 ^ order)
  | 0, key => key
  | rounds + 1, key =>
    if gfns key ≠ gfn ∧ gfns key ≠ noGfn then
      kvmAsyncPfGfnSlotLoop gfns gfn rounds (kvmAsyncPfNextProbe key)
    else key

/-- `kvm_async_pf_gfn_slot`. -/
def kvmAsyncPfGfnSlot (gfns : ApfGfns order) (gfn : BitVec 64) : Fin (2 ^ order) :=
  kvmAsyncPfGfnSlotLoop gfns gfn (2 ^ order) (kvmAsyncPfHashFn hash32 gfn)

/-- `kvm_find_async_pf_gfn`. -/
def kvmFindAsyncPfGfn (gfns : ApfGfns order) (gfn : BitVec 64) : Bool :=
  gfns (kvmAsyncPfGfnSlot hash32 gfns gfn) = gfn

/-- The inner loop of `kvm_del_async_pf_gfn`: it ends at an empty slot, or at the slot of a frame
number that is moved to slot `i`. -/
def kvmDelAsyncPfGfnProbe (gfns : ApfGfns order) (i : Fin (2 ^ order)) :
    ℕ → Fin (2 ^ order) → Option (Option (Fin (2 ^ order)))
  | 0, _ => none
  | fuel + 1, j =>
    let j := kvmAsyncPfNextProbe j
    if gfns j = noGfn then some none
    else
      let k := kvmAsyncPfHashFn hash32 (gfns j)
      -- `k` lies cyclically in `]i, j]`
      if (if i ≤ j then i < k ∧ k ≤ j else i < k ∨ k ≤ j) then
        kvmDelAsyncPfGfnProbe gfns i fuel j
      else some (some j)

/-- The outer loop of `kvm_del_async_pf_gfn`. -/
def kvmDelAsyncPfGfnLoop : ℕ → ApfGfns order → Fin (2 ^ order) → Fin (2 ^ order) →
    Option (ApfGfns order)
  | 0, _, _, _ => none
  | fuel + 1, gfns, i, j => do
    let gfns := Function.update gfns i noGfn
    match ← kvmDelAsyncPfGfnProbe hash32 gfns i fuel j with
    | none => return gfns
    | some j => kvmDelAsyncPfGfnLoop fuel (Function.update gfns i (gfns j)) j j

/-- `kvm_del_async_pf_gfn`. -/
def kvmDelAsyncPfGfn (fuel : ℕ) (gfns : ApfGfns order) (gfn : BitVec 64) :
    Option (ApfGfns order) :=
  let i := kvmAsyncPfGfnSlot hash32 gfns gfn
  if gfns i ≠ gfn then some gfns else kvmDelAsyncPfGfnLoop hash32 fuel gfns i i

/-! ## Runs -/

/-- What happens to the table. -/
inductive ApfCall where
  | add (gfn : BitVec 64)
  | del (gfn : BitVec 64)
  deriving DecidableEq

/-- One call. -/
def apfCall (fuel : ℕ) (gfns : ApfGfns order) : ApfCall → Option (ApfGfns order)
  | .add gfn => kvmAddAsyncPfGfn hash32 fuel gfns gfn
  | .del gfn => kvmDelAsyncPfGfn hash32 fuel gfns gfn

/-- The calls, in order. -/
def apfRun (fuel : ℕ) (gfns : ApfGfns order) (calls : List ApfCall) : Option (ApfGfns order) :=
  calls.foldlM (apfCall hash32 fuel) gfns

/-- The frame numbers that are waited for behind a call. -/
def waitedFor (gfns : Finset (BitVec 64)) : ApfCall → Unit × Finset (BitVec 64)
  | .add gfn => ((), insert gfn gfns)
  | .del gfn => ((), gfns.erase gfn)

/-- A call adds a frame number that is not waited for, where there is room, or deletes one that
is. -/
def ApfAllowed (order : ℕ) (gfns : Finset (BitVec 64)) : ApfCall → Prop
  | .add gfn => gfn ≠ noGfn ∧ gfn ∉ gfns ∧ gfns.card < 2 ^ order
  | .del gfn => gfn ∈ gfns

instance (gfns : Finset (BitVec 64)) (call : ApfCall) : Decidable (ApfAllowed order gfns call) :=
  match call with
  | .add _ => inferInstanceAs (Decidable (_ ∧ _ ∧ _))
  | .del _ => inferInstanceAs (Decidable (_ ∈ _))

end Operations

/-! ## The table -/

section Table

variable {order : ℕ} {hash32 : BitVec 32 → Fin (2 ^ order)} {gfns : ApfGfns order}
  {S : Finset (BitVec 64)}

@[simp] theorem kvmAsyncPfNextProbe_eq (key : Fin (2 ^ order)) :
    kvmAsyncPfNextProbe key = next key :=
  Fin.ext (Nat.and_two_pow_sub_one_eq_mod ..)

/-- The frame numbers of `S` are in the table, where a search finds them. -/
structure ApfTable (hash32 : BitVec 32 → Fin (2 ^ order)) (gfns : ApfGfns order)
    (S : Finset (BitVec 64)) : Prop where
  stores : Stores noGfn gfns S
  reachable : Reachable noGfn (kvmAsyncPfHashFn hash32) gfns

theorem ApfTable.empty : ApfTable hash32 (fun _ => noGfn) ∅ where
  stores := Stores.empty
  reachable := fun _ hs => absurd rfl hs

/-- A search loop stops at the first slot that meets its condition. -/
theorem loop_first {P : Fin (2 ^ order) → Prop} {cond : Fin (2 ^ order) → Bool}
    (hcond : ∀ key, cond key = false ↔ P key) :
    ∀ {fuel : ℕ} {key s : Fin (2 ^ order)}, First P key s → gap key s < fuel →
      Loops.loop cond kvmAsyncPfNextProbe fuel key = some s
  | 0, _, _, _, hfuel => absurd hfuel (Nat.not_lt_zero _)
  | fuel + 1, key, s, hs, hfuel => by
    unfold Loops.loop
    by_cases hkey : P key
    · rw [if_neg (by simp [(hcond key).mpr hkey])]
      by_cases hne : key = s
      · rw [hne]
      · exact absurd hkey (hs.2 key (by
          rw [gap_self]
          exact Nat.pos_of_ne_zero fun hzero => hne (gap_eq_zero hzero)))
    · obtain ⟨hnext, hgap⟩ := hs.next hkey
      rw [if_pos (by simpa [hkey] using (hcond key).not), kvmAsyncPfNextProbe_eq]
      exact loop_first hcond hnext (by omega)

/-- **An insertion** ends where a slot is empty, and leaves the table with the frame number. -/
theorem kvmAddAsyncPfGfn_spec (h : ApfTable hash32 gfns S) {gfn : BitVec 64} (hgfn : gfn ≠ noGfn)
    (hnew : gfn ∉ S) (hroom : S.card < 2 ^ order) :
    ∃ gfns', ApfTable hash32 gfns' (insert gfn S) ∧
      (∀ fuel, 2 ^ order ≤ fuel → kvmAddAsyncPfGfn hash32 fuel gfns gfn = some gfns') ∧
      ∀ fuel gfns'', kvmAddAsyncPfGfn hash32 fuel gfns gfn = some gfns'' → gfns'' = gfns' := by
  obtain ⟨key, hkey⟩ := exists_first (kvmAsyncPfHashFn hash32 gfn)
    (h.stores.exists_hole_iff.mpr hroom)
  have hloop : ∀ fuel, gap (kvmAsyncPfHashFn hash32 gfn) key < fuel →
      Loops.loop (fun key => gfns key ≠ noGfn) kvmAsyncPfNextProbe fuel
        (kvmAsyncPfHashFn hash32 gfn) = some key :=
    fun fuel hfuel => loop_first (by simp) hkey hfuel
  have hgap := gap_lt (kvmAsyncPfHashFn hash32 gfn) key
  refine ⟨Function.update gfns key gfn, ⟨h.stores.insert hgfn hnew hkey.1,
    h.reachable.fill hgfn hkey⟩, fun fuel hfuel => ?_, fun fuel gfns'' hadd => ?_⟩
  · rw [kvmAddAsyncPfGfn, hloop fuel (by omega)]
    rfl
  · obtain ⟨key', hkey', hreturn⟩ := Option.bind_eq_some_iff.mp hadd
    rw [Loops.loop_unique hkey' (hloop _ hgap)] at hreturn
    exact (Option.some.inj hreturn).symm

/-- The search stops at the first slot that is empty or has the frame number. -/
theorem kvmAsyncPfGfnSlotLoop_first {gfn : BitVec 64} :
    ∀ {rounds : ℕ} {key s : Fin (2 ^ order)},
      First (fun t => gfns t = gfn ∨ gfns t = noGfn) key s → gap key s < rounds →
        kvmAsyncPfGfnSlotLoop gfns gfn rounds key = s
  | 0, _, _, _, hrounds => absurd hrounds (Nat.not_lt_zero _)
  | rounds + 1, key, s, hs, hrounds => by
    unfold kvmAsyncPfGfnSlotLoop
    split
    · rename_i hcond
      obtain ⟨hnext, hgap⟩ := hs.next (not_or.mpr hcond)
      rw [kvmAsyncPfNextProbe_eq]
      exact kvmAsyncPfGfnSlotLoop_first hnext (by omega)
    · rename_i hcond
      rw [← not_or, not_not] at hcond
      by_contra hne
      refine hs.2 key ?_ hcond
      rw [gap_self]
      exact Nat.pos_of_ne_zero fun hzero => hne (gap_eq_zero hzero)

/-- A frame number that is waited for is in the slot that the search gives. -/
theorem ApfTable.slot (h : ApfTable hash32 gfns S) {gfn : BitVec 64} (hgfn : gfn ∈ S) :
    gfn ≠ noGfn ∧ gfns (kvmAsyncPfGfnSlot hash32 gfns gfn) = gfn := by
  have hne : gfn ≠ noGfn := by
    rintro rfl
    exact h.stores.hole_notMem hgfn
  refine ⟨hne, ?_⟩
  obtain ⟨s, rfl⟩ := (h.stores.mem_iff gfn hne).mp hgfn
  have hfirst := h.reachable.first hne fun t ht => h.stores.once t s (ht ▸ hne) ht
  rw [kvmAsyncPfGfnSlot, kvmAsyncPfGfnSlotLoop_first hfirst (gap_lt _ _)]

/-- **The search** finds the frame numbers that are waited for, and the mark of an empty slot. -/
theorem kvmFindAsyncPfGfn_iff (h : ApfTable hash32 gfns S) (gfn : BitVec 64) :
    kvmFindAsyncPfGfn hash32 gfns gfn = true ↔
      gfn ∈ S ∨ (gfn = noGfn ∧ S.card < 2 ^ order) := by
  rw [kvmFindAsyncPfGfn, decide_eq_true_eq]
  constructor
  · intro hslot
    by_cases hgfn : gfn = noGfn
    · exact .inr ⟨hgfn, h.stores.exists_hole_iff.mp ⟨_, hslot.trans hgfn⟩⟩
    · exact .inl ((h.stores.mem_iff gfn hgfn).mpr ⟨_, hslot⟩)
  · rintro (hmem | ⟨rfl, hroom⟩)
    · exact (h.slot hmem).2
    · obtain ⟨s, hs⟩ := exists_first (kvmAsyncPfHashFn hash32 noGfn)
        (h.stores.exists_hole_iff.mpr hroom)
      have hfirst : First (fun t => gfns t = noGfn ∨ gfns t = noGfn)
          (kvmAsyncPfHashFn hash32 noGfn) s := by
        simpa only [or_self] using hs
      rw [kvmAsyncPfGfnSlot, kvmAsyncPfGfnSlotLoop_first hfirst (gap_lt _ _)]
      exact hs.1

/-! ## Deletions -/

/-- Slot `i` is freed: no frame number has another empty slot in its way. -/
structure Freed (hash32 : BitVec 32 → Fin (2 ^ order)) (gfns : ApfGfns order) (i : Fin (2 ^ order))
    (S : Finset (BitVec 64)) : Prop where
  stores : Stores noGfn gfns S
  reachable : ReachableBut i noGfn (kvmAsyncPfHashFn hash32) gfns
  empty : gfns i = noGfn

/-- What the inner loop has found: an empty slot, behind which nothing has to be moved, or a frame
number that has slot `i` in its way. -/
def ProbeEnds (hash32 : BitVec 32 → Fin (2 ^ order)) (gfns : ApfGfns order) (i : Fin (2 ^ order)) :
    Option (Fin (2 ^ order)) → Prop
  | none => Reachable noGfn (kvmAsyncPfHashFn hash32) gfns
  | some j => gfns j ≠ noGfn ∧
    gap (kvmAsyncPfHashFn hash32 (gfns j)) i < gap (kvmAsyncPfHashFn hash32 (gfns j)) j

variable {i : Fin (2 ^ order)}

/-- The inner loop, from a slot up to which nothing has to be moved. -/
theorem kvmDelAsyncPfGfnProbe_spec (h : Freed hash32 gfns i S) :
    ∀ {fuel : ℕ} {j : Fin (2 ^ order)},
      Scanned i (gap i j + 1) noGfn (kvmAsyncPfHashFn hash32) gfns →
        (∀ r, kvmDelAsyncPfGfnProbe hash32 gfns i fuel j = some r → ProbeEnds hash32 gfns i r) ∧
          (2 ^ order ≤ gap i j + fuel → ∃ r, kvmDelAsyncPfGfnProbe hash32 gfns i fuel j = some r)
  | 0, j, _ => by
    have hlt := gap_lt i j
    refine ⟨fun r hr => ?_, fun hfuel => ?_⟩
    · cases hr
    · omega
  | fuel + 1, j, hscanned => by
    have hgap := gap_succ i j
    unfold kvmDelAsyncPfGfnProbe
    simp only [kvmAsyncPfNextProbe_eq]
    split
    · rename_i hend
      refine ⟨fun r hr => ?_, fun _ => ⟨none, rfl⟩⟩
      cases hr
      rw [hgap] at hscanned
      exact h.reachable.close hend hscanned
    · rename_i hfull
      have hne : i ≠ next j := by
        intro heq
        rw [← heq] at hfull
        exact hfull h.empty
      rw [if_neg hne] at hgap
      simp only [cyclic_iff]
      split
      · rename_i hbehind
        rw [hgap] at hscanned
        have ih := @kvmDelAsyncPfGfnProbe_spec h fuel _ (hscanned.succ hbehind)
        exact ⟨ih.1, fun hfuel => ih.2 (by omega)⟩
      · rename_i hover
        refine ⟨fun r hr => ?_, fun _ => ⟨some (next j), rfl⟩⟩
        cases hr
        exact ⟨hfull, way_over hne hover⟩

/-- **A round of the outer loop** moves a frame number to the freed slot, which makes the ways
shorter. -/
theorem Freed.move (h : Freed hash32 gfns i S) {j : Fin (2 ^ order)}
    (hj : ProbeEnds hash32 gfns i (some j)) :
    Freed hash32 (Function.update (Function.update gfns i (gfns j)) j noGfn) j S ∧
      weight noGfn (kvmAsyncPfHashFn hash32)
          (Function.update (Function.update gfns i (gfns j)) j noGfn) <
        weight noGfn (kvmAsyncPfHashFn hash32) gfns := by
  rw [update_eq_swap h.empty]
  refine ⟨⟨h.stores.comp _, h.reachable.shift h.empty hj.1 hj.2, ?_⟩,
    weight_shift_lt h.empty hj.1 hj.2⟩
  rw [Function.comp_apply, Equiv.swap_apply_right, h.empty]

/-- The outer loop, from a slot that it frees. -/
theorem kvmDelAsyncPfGfnLoop_spec :
    ∀ {fuel : ℕ} {gfns : ApfGfns order} {i : Fin (2 ^ order)},
      Freed hash32 (Function.update gfns i noGfn) i S →
        (∀ gfns', kvmDelAsyncPfGfnLoop hash32 fuel gfns i i = some gfns' →
          ApfTable hash32 gfns' S) ∧
        (weight noGfn (kvmAsyncPfHashFn hash32) (Function.update gfns i noGfn) + 2 ^ order < fuel →
          ∃ gfns', kvmDelAsyncPfGfnLoop hash32 fuel gfns i i = some gfns')
  | 0, gfns, i, _ => by
    refine ⟨fun gfns' h' => ?_, fun hfuel => ?_⟩
    · cases h'
    · exact absurd hfuel (Nat.not_lt_zero _)
  | fuel + 1, gfns, i, h => by
    obtain ⟨hends, hreturns⟩ :=
      @kvmDelAsyncPfGfnProbe_spec _ _ _ _ _ h fuel _ (Scanned.start h.empty)
    unfold kvmDelAsyncPfGfnLoop
    simp only [Option.bind_eq_bind]
    cases hprobe : kvmDelAsyncPfGfnProbe hash32 (Function.update gfns i noGfn) i fuel i with
    | none =>
      refine ⟨fun gfns' h' => ?_, fun hfuel => ?_⟩
      · cases h'
      · obtain ⟨r, hr⟩ := hreturns (by omega)
        rw [hprobe] at hr
        cases hr
    | some r =>
      have hend := hends r hprobe
      cases r with
      | none =>
        refine ⟨fun gfns' h' => ?_, fun _ => ⟨_, rfl⟩⟩
        cases h'
        exact ⟨h.stores, hend⟩
      | some j =>
        obtain ⟨hmove, hlt⟩ := h.move hend
        have ih := @kvmDelAsyncPfGfnLoop_spec fuel _ _ hmove
        exact ⟨ih.1, fun hfuel => ih.2 (by omega)⟩

/-- **A deletion** ends, and leaves the table without the frame number. -/
theorem kvmDelAsyncPfGfn_spec (h : ApfTable hash32 gfns S) {gfn : BitVec 64} (hgfn : gfn ∈ S)
    (fuel : ℕ) :
    (∀ gfns', kvmDelAsyncPfGfn hash32 fuel gfns gfn = some gfns' →
        ApfTable hash32 gfns' (S.erase gfn)) ∧
      (2 ^ order * 2 ^ order + 2 ^ order < fuel →
        ∃ gfns', kvmDelAsyncPfGfn hash32 fuel gfns gfn = some gfns') := by
  obtain ⟨hne, hslot⟩ := h.slot hgfn
  have hfull : gfns (kvmAsyncPfGfnSlot hash32 gfns gfn) ≠ noGfn := by
    rw [hslot]
    exact hne
  have hfreed : Freed hash32
      (Function.update gfns (kvmAsyncPfGfnSlot hash32 gfns gfn) noGfn)
      (kvmAsyncPfGfnSlot hash32 gfns gfn) (S.erase gfn) := by
    refine ⟨?_, h.reachable.clear _, Function.update_self ..⟩
    have herase := h.stores.erase hfull
    rw [hslot] at herase
    exact herase
  obtain ⟨hleaves, hreturns⟩ := @kvmDelAsyncPfGfnLoop_spec _ _ _ _ _ _ hfreed
  unfold kvmDelAsyncPfGfn
  dsimp only
  rw [if_neg (not_not.mpr hslot)]
  refine ⟨hleaves, fun hfuel => hreturns ?_⟩
  have hweight := weight_le noGfn (kvmAsyncPfHashFn hash32)
    (Function.update gfns (kvmAsyncPfGfnSlot hash32 gfns gfn) noGfn)
  omega

/-! ## Every run -/

/-- One allowed call ends, and does what it is for. -/
theorem apfCall_spec (h : ApfTable hash32 gfns S) {call : ApfCall}
    (hallowed : ApfAllowed order S call) (fuel : ℕ) :
    (∀ gfns', apfCall hash32 fuel gfns call = some gfns' →
        ApfTable hash32 gfns' (waitedFor S call).2) ∧
      (2 ^ order * 2 ^ order + 2 ^ order < fuel →
        ∃ gfns', apfCall hash32 fuel gfns call = some gfns') := by
  cases call with
  | add gfn =>
    obtain ⟨hgfn, hnew, hroom⟩ := hallowed
    obtain ⟨gfns', htable, hreturns, hunique⟩ := kvmAddAsyncPfGfn_spec h hgfn hnew hroom
    refine ⟨fun gfns'' hadd => ?_, fun hfuel => ⟨gfns', hreturns fuel (by omega)⟩⟩
    rw [hunique fuel gfns'' hadd]
    exact htable
  | del gfn => exact kvmDelAsyncPfGfn_spec h hallowed fuel

/-- Every allowed run ends, and leaves the table of what is waited for. -/
theorem apfRun_spec (fuel : ℕ) : ∀ {calls : List ApfCall} {gfns : ApfGfns order}
    {S : Finset (BitVec 64)}, ApfTable hash32 gfns S →
      Runs.Each waitedFor (ApfAllowed order) S calls →
        (∀ gfns', apfRun hash32 fuel gfns calls = some gfns' →
            ApfTable hash32 gfns' (Runs.final waitedFor S calls)) ∧
          (2 ^ order * 2 ^ order + 2 ^ order < fuel →
            ∃ gfns', apfRun hash32 fuel gfns calls = some gfns')
  | [], gfns, S, h, _ => by
    refine ⟨fun gfns' hrun => ?_, fun _ => ⟨gfns, rfl⟩⟩
    cases hrun
    exact h
  | call :: calls, gfns, S, h, hallowed => by
    obtain ⟨hleaves, hreturns⟩ := apfCall_spec h hallowed.1 fuel
    refine ⟨fun gfns' hrun => ?_, fun hfuel => ?_⟩
    · obtain ⟨gfns₁, hcall, hrest⟩ := Option.bind_eq_some_iff.mp
        ((List.foldlM_cons ..).symm.trans hrun)
      exact (apfRun_spec fuel (hleaves gfns₁ hcall) hallowed.2).1 gfns' hrest
    · obtain ⟨gfns₁, hcall⟩ := hreturns hfuel
      obtain ⟨gfns', hrest⟩ := (apfRun_spec fuel (hleaves gfns₁ hcall) hallowed.2).2 hfuel
      refine ⟨gfns', ?_⟩
      rw [apfRun, List.foldlM_cons, hcall]
      exact hrest

/-- `hash_32` of six bits: the upper bits of the product with `GOLDEN_RATIO_32`. -/
def goldenHash (val : BitVec 32) : Fin (2 ^ 6) :=
  Fin.ofNat (2 ^ 6) ((val * 0x61c88647) >>> 26).toNat

/-- The mark of an empty slot is found in the table of no frame numbers. -/
theorem emptySlotFound :
    apfRun goldenHash 1 (fun _ => noGfn) [] = some (fun _ => noGfn) ∧
      Runs.Each waitedFor (ApfAllowed 6) ∅ [] ∧
        kvmFindAsyncPfGfn goldenHash (fun _ => noGfn) noGfn = true ∧
          noGfn ∉ Runs.final waitedFor ∅ [] := by
  refine ⟨rfl, trivial, ?_, ?_⟩
  · simp [kvmFindAsyncPfGfn]
  · simp

/-- **Every run ends and leaves what is waited for**: the search finds exactly the frame numbers
that have been added and not deleted, and `~0` while a slot is empty; and each of them is in a slot
that no empty slot separates from its hash. -/
theorem apfRun_right (hash32 : BitVec 32 → Fin (2 ^ order)) {calls : List ApfCall}
    (hallowed : Runs.Each waitedFor (ApfAllowed order) ∅ calls) :
    (∃ fuel gfns, apfRun hash32 fuel (fun _ => noGfn) calls = some gfns) ∧
      ∀ fuel gfns, apfRun hash32 fuel (fun _ => noGfn) calls = some gfns →
        (∀ gfn, kvmFindAsyncPfGfn hash32 gfns gfn = true ↔
            gfn ∈ Runs.final waitedFor ∅ calls ∨
              (gfn = noGfn ∧ (Runs.final waitedFor ∅ calls).card < 2 ^ order)) ∧
          ∀ gfn ∈ Runs.final waitedFor ∅ calls, ∃ s, gfns s = gfn ∧
            ∀ t, gap (kvmAsyncPfHashFn hash32 gfn) t < gap (kvmAsyncPfHashFn hash32 gfn) s →
              gfns t ≠ noGfn := by
  refine ⟨⟨_, (apfRun_spec _ ApfTable.empty hallowed).2 (Nat.lt_succ_self _)⟩,
    fun fuel gfns hrun => ?_⟩
  have htable := (apfRun_spec fuel ApfTable.empty hallowed).1 gfns hrun
  refine ⟨kvmFindAsyncPfGfn_iff htable, fun gfn hgfn => ?_⟩
  obtain ⟨hne, hslot⟩ := htable.slot hgfn
  refine ⟨_, hslot, fun t ht => ?_⟩
  refine htable.reachable _ (by rwa [hslot]) t ?_
  rw [hslot]
  exact ht

theorem apfRun_right_moved :
    (∃ fuel gfns, apfRun goldenHash fuel (fun _ => noGfn) [.add 0, .add 1, .del 0] = some gfns) ∧
      ∀ fuel gfns, apfRun goldenHash fuel (fun _ => noGfn) [.add 0, .add 1, .del 0] = some gfns →
        (∀ gfn, kvmFindAsyncPfGfn goldenHash gfns gfn = true ↔
            gfn ∈ Runs.final waitedFor ∅ [.add 0, .add 1, .del 0] ∨
              (gfn = noGfn ∧
                (Runs.final waitedFor ∅ [.add 0, .add 1, .del 0]).card < 2 ^ 6)) ∧
          ∀ gfn ∈ Runs.final waitedFor ∅ [.add 0, .add 1, .del 0], ∃ s, gfns s = gfn ∧
            ∀ t, gap (kvmAsyncPfHashFn goldenHash gfn) t <
              gap (kvmAsyncPfHashFn goldenHash gfn) s → gfns t ≠ noGfn :=
  apfRun_right goldenHash (by decide +kernel)

end Table

end Kvm
