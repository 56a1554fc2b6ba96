import Mathlib.Data.BitVec
import Mathlib.Data.List.Basic
import Mathlib.Data.List.Perm.Basic
import PveAntiDetection.Lib.Runs

/-!
# The page-modification log

The processor logs every page that the guest dirties, from the last entry of a page down to the
first, and its 16-bit index wraps below zero when all 512 are used.  `vmx_flush_pml_buffer` marks
what is logged at every exit.

* `PmlState`, `logPage` — the buffer, and the processor;
* `vmxFlushPmlBuffer` — the flush, with its loop `flushFrom`;
* `Logged` — what the buffer holds, the latest entry first;
* `pml_marks_logged` — every page that is logged is marked once, and no other.
-/

set_option autoImplicit false

namespace Kvm

/-- `PML_ENTITY_NUM`. -/
def pmlEntityNum : Nat := 512

/-- `PAGE_SIZE - 1`. -/
def pageOffsetMask : BitVec 64 := 0xfff

/-- A guest page is `gpa >> PAGE_SHIFT`. -/
def gpaToGfn (gpa : BitVec 64) : BitVec 64 := gpa >>> 12

structure PmlState where
  /-- `GUEST_PML_INDEX`. -/
  index : BitVec 16 := 511
  buf : Nat → BitVec 64 := fun _ => 0
  /-- The calls of `kvm_vcpu_mark_page_dirty`, in order. -/
  marked : List (BitVec 64) := []
  /-- The warning of the flush has been given. -/
  warned : Bool := false

inductive PmlEvent where
  /-- The guest dirties a page whose mapping is clean. -/
  | dirty (gpa : BitVec 64)
  /-- An exit, and its handler. -/
  | exit

/-- What the processor does when a page is dirtied, where the log is enabled.  Where it is full, the
processor exits instead, and the access is made again. -/
def logPage (s : PmlState) (gpa : BitVec 64) : PmlState :=
  if s.index.toNat < pmlEntityNum then
    { s with
      buf := Function.update s.buf s.index.toNat (gpa &&& ~~~pageOffsetMask)
      index := s.index - 1 }
  else s

/-- The loop of `vmx_flush_pml_buffer`. -/
def flushFrom (s : PmlState) (idx : Nat) : PmlState :=
  if idx < pmlEntityNum then
    let gpa := s.buf idx
    flushFrom { s with
      warned := s.warned || gpa &&& pageOffsetMask != 0
      marked := s.marked ++ [gpaToGfn gpa] } (idx + 1)
  else s
termination_by pmlEntityNum - idx

/-- `vmx_flush_pml_buffer`. -/
def vmxFlushPmlBuffer (s : PmlState) : PmlState :=
  let idx := s.index
  if idx.toNat = pmlEntityNum - 1 then s
  else
    let idx := if pmlEntityNum ≤ idx.toNat then 0 else idx + 1
    { flushFrom s idx.toNat with index := BitVec.ofNat 16 (pmlEntityNum - 1) }

/-- One event. -/
def pmlStep (s : PmlState) : PmlEvent → Unit × PmlState
  | .dirty gpa => ((), logPage s gpa)
  | .exit => ((), vmxFlushPmlBuffer s)

/-- The page that an event logs. -/
def pmlNote (s : PmlState) : PmlEvent → List (BitVec 64)
  | .dirty gpa => if s.index.toNat < pmlEntityNum then [gpaToGfn gpa] else []
  | .exit => []

/-! ## The buffer -/

/-- The buffer holds the addresses, the latest one in the entry above the index. -/
structure Logged (s : PmlState) (gpas : List (BitVec 64)) : Prop where
  length_le : gpas.length ≤ pmlEntityNum
  index : s.index = BitVec.ofNat 16 (pmlEntityNum - 1) - BitVec.ofNat 16 gpas.length
  buf : ∀ j gpa, gpas[j]? = some gpa →
    s.buf (pmlEntityNum - gpas.length + j) = gpa &&& ~~~pageOffsetMask

/-- The index, as a number. -/
theorem Logged.index_toNat {s : PmlState} {gpas : List (BitVec 64)} (h : Logged s gpas) :
    s.index.toNat = if gpas.length = pmlEntityNum then 65535
      else pmlEntityNum - 1 - gpas.length := by
  have hle := h.length_le
  rw [h.index]
  unfold pmlEntityNum at *
  split <;> bv_omega

theorem gpaToGfn_page (gpa : BitVec 64) : gpaToGfn (gpa &&& ~~~pageOffsetMask) = gpaToGfn gpa := by
  unfold gpaToGfn
  ext i hi
  have hmask : pageOffsetMask.getLsbD (12 + i) = false := by
    refine Nat.testBit_lt_two_pow (lt_of_lt_of_le (b := 2 ^ 12) (by decide) ?_)
    exact Nat.pow_le_pow_right (by decide) (Nat.le_add_right ..)
  by_cases h : 12 + i < 64
  · simp only [BitVec.getElem_ushiftRight, BitVec.getLsbD_and, BitVec.getLsbD_not, hmask, h,
      decide_true, Bool.not_false, Bool.and_self, Bool.and_true]
  · simp only [BitVec.getElem_ushiftRight, BitVec.getLsbD_of_ge _ _ (Nat.not_lt.mp h)]

theorem page_aligned (gpa : BitVec 64) : gpa &&& ~~~pageOffsetMask &&& pageOffsetMask = 0 := by
  ext i hi
  simp [BitVec.getElem_and]

/-- The processor adds an address. -/
theorem Logged.log {s : PmlState} {gpas : List (BitVec 64)} (h : Logged s gpas)
    (gpa : BitVec 64) (hroom : s.index.toNat < pmlEntityNum) :
    Logged (logPage s gpa) (gpa :: gpas) := by
  have hindex := h.index_toNat
  have hle := h.length_le
  have hlt : gpas.length < pmlEntityNum := by
    refine lt_of_le_of_ne hle fun hfull => ?_
    rw [hindex, if_pos hfull] at hroom
    exact absurd hroom (by decide)
  rw [if_neg hlt.ne] at hindex
  rw [logPage, if_pos hroom]
  refine ⟨hlt, ?_, fun j gpa' hj => ?_⟩
  · rw [h.index, List.length_cons]
    unfold pmlEntityNum at *
    bv_omega
  · dsimp only
    rw [hindex]
    cases j with
    | zero =>
      obtain rfl : gpa = gpa' := Option.some.inj hj
      have hsame : pmlEntityNum - (gpa :: gpas).length + 0 = pmlEntityNum - 1 - gpas.length := by
        rw [List.length_cons]
        omega
      rw [hsame, Function.update_self]
    | succ j =>
      rw [List.getElem?_cons_succ] at hj
      have hj' : j < gpas.length := (List.getElem?_eq_some_iff.mp hj).1
      rw [List.length_cons, Function.update_of_ne (by omega), ← h.buf j gpa' hj]
      congr 1
      omega
/-- The loop marks what the entries hold, and warns about none. -/
theorem flushFrom_eq : ∀ (gpas : List (BitVec 64)) (s : PmlState) (idx : Nat),
    idx + gpas.length = pmlEntityNum →
    (∀ j gpa, gpas[j]? = some gpa → s.buf (idx + j) = gpa &&& ~~~pageOffsetMask) →
    flushFrom s idx = { s with marked := s.marked ++ gpas.map gpaToGfn }
  | [], s, idx, hlen, _ => by
    rw [flushFrom, if_neg (by simp at hlen; omega), List.map_nil, List.append_nil]
  | gpa :: gpas, s, idx, hlen, hbuf => by
    have hhead : s.buf idx = gpa &&& ~~~pageOffsetMask := hbuf 0 gpa rfl
    rw [List.length_cons] at hlen
    rw [flushFrom, if_pos (by omega)]
    dsimp only
    rw [hhead, page_aligned, gpaToGfn_page, flushFrom_eq gpas _ (idx + 1) (by omega)]
    · simp
    · intro j gpa' hj
      have hnext := hbuf (j + 1) gpa' hj
      rw [← hnext]
      dsimp only
      congr 1
      omega

/-- **A flush marks what is logged, and leaves an empty buffer.** -/
theorem vmxFlushPmlBuffer_marks {s : PmlState} {gpas : List (BitVec 64)} (h : Logged s gpas) :
    (vmxFlushPmlBuffer s).marked = s.marked ++ gpas.map gpaToGfn ∧
      (vmxFlushPmlBuffer s).warned = s.warned ∧ Logged (vmxFlushPmlBuffer s) [] := by
  have hindex := h.index_toNat
  have hle := h.length_le
  unfold vmxFlushPmlBuffer
  dsimp only
  split
  · rename_i hempty
    obtain rfl : gpas = [] := by
      rw [hindex] at hempty
      refine List.length_eq_zero_iff.mp ?_
      unfold pmlEntityNum at *
      split at hempty <;> omega
    simp [h]
  · rename_i hsome
    have hstart : (if pmlEntityNum ≤ s.index.toNat then (0 : BitVec 16) else s.index + 1).toNat
        = pmlEntityNum - gpas.length := by
      unfold pmlEntityNum at *
      split at hindex <;> split <;> bv_omega
    rw [hstart, flushFrom_eq gpas s _ (by omega) h.buf]
    exact ⟨rfl, rfl, ⟨Nat.zero_le _, rfl, nofun⟩⟩

/-! ## Runs -/

/-- What is logged so far is marked, or still in the buffer. -/
def PmlInv (s : PmlState) (gfns : List (BitVec 64)) : Prop :=
  s.warned = false ∧
    ∃ gpas, Logged s gpas ∧ gfns.Perm (s.marked ++ gpas.map gpaToGfn)

theorem pmlInv_step {s : PmlState} {gfns : List (BitVec 64)} (e : PmlEvent)
    (hs : PmlInv s gfns) : PmlInv (pmlStep s e).2 (gfns ++ pmlNote s e) := by
  obtain ⟨hwarned, gpas, hlogged, hperm⟩ := hs
  cases e with
  | dirty gpa =>
    by_cases hroom : s.index.toNat < pmlEntityNum
    · refine ⟨?_, gpa :: gpas, hlogged.log gpa hroom, ?_⟩
      · rw [pmlStep, logPage, if_pos hroom]
        exact hwarned
      · rw [pmlNote, if_pos hroom, pmlStep, logPage, if_pos hroom, List.map_cons]
        exact (List.perm_append_singleton _ _).trans ((hperm.cons _).trans List.perm_middle.symm)
    · rw [pmlNote, if_neg hroom, pmlStep, logPage, if_neg hroom, List.append_nil]
      exact ⟨hwarned, gpas, hlogged, hperm⟩
  | exit =>
    obtain ⟨hmarked, hsame, hempty⟩ := vmxFlushPmlBuffer_marks hlogged
    refine ⟨hsame.trans hwarned, [], hempty, ?_⟩
    rw [pmlNote, pmlStep, hmarked, List.append_nil, List.map_nil, List.append_nil]
    exact hperm

/-- **Every page that is logged is marked once, and no other**: behind the last exit of a run, what
has been marked is what the processor has logged, however often the index has wrapped, and the
warning about an address inside a page is never given. -/
theorem pml_marks_logged (es : List PmlEvent) :
    (Runs.history pmlStep pmlNote {} (es ++ [.exit])).Perm
        (Runs.final pmlStep {} (es ++ [.exit])).marked ∧
      (Runs.final pmlStep {} (es ++ [.exit])).warned = false := by
  have hinit : PmlInv {} [] := ⟨rfl, [], ⟨Nat.zero_le _, rfl, nofun⟩, List.Perm.refl _⟩
  have hrun : PmlInv (Runs.final pmlStep {} es) ([] ++ Runs.history pmlStep pmlNote {} es) :=
    Runs.final_history_induct (fun _ _ e hs => pmlInv_step e hs) es hinit
  obtain ⟨hwarned, gpas, hlogged, hperm⟩ := hrun
  obtain ⟨hmarked, hsame, -⟩ := vmxFlushPmlBuffer_marks hlogged
  rw [Runs.history_append, Runs.final_append]
  refine ⟨?_, hsame.trans hwarned⟩
  show (Runs.history pmlStep pmlNote {} es ++ []).Perm (vmxFlushPmlBuffer _).marked
  rw [List.append_nil, hmarked]
  exact hperm

end Kvm
