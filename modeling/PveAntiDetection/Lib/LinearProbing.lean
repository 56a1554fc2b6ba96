import Mathlib.Algebra.BigOperators.Group.Finset.Basic
import Mathlib.Algebra.Order.BigOperators.Ring.Finset
import Mathlib.Data.Fintype.BigOperators
import Mathlib.Logic.Equiv.Fin.Basic
import Mathlib.Order.Interval.Finset.Nat

/-!
# Linear probing

A table of `n` slots that is searched slot after slot, around its end, from the slot a hash gives.
Nothing here depends on what is stored; `hole` marks a slot that is empty.

* `next`, `gap` — the slot behind a slot, and how many steps it takes from one to another;
* `Reachable` — no hole lies between the hash of an element and its slot;
* `ReachableBut` — none but one, while an element is deleted;
* `Scanned` — the elements that a deletion has left where they are;
* `Reachable.fill`, `Reachable.clear`, `ReachableBut.shift`, `ReachableBut.close` — what an
  insertion and the rounds of a deletion keep;
* `weight_shift_lt` — every round of a deletion brings an element closer to its hash;
* `Stores` — the table holds the elements of a set, each in one slot.
-/

set_option autoImplicit false

namespace LinearProbing

variable {n : ℕ}

/-! ## Around the table -/

/-- The slot behind `s`. -/
def next (s : Fin n) : Fin n :=
  ⟨(s + 1) % n, Nat.mod_lt _ (Nat.lt_of_le_of_lt (Nat.zero_le _) s.isLt)⟩

theorem next_val (s : Fin n) : (next s).val = if s.val + 1 = n then 0 else s.val + 1 := by
  have hlt := s.isLt
  show (s.val + 1) % n = _
  split
  · rename_i heq
    rw [heq, Nat.mod_self]
  · exact Nat.mod_eq_of_lt (by omega)

/-- The steps from `k` to `s`. -/
def gap (k s : Fin n) : ℕ := if k ≤ s then (s : ℕ) - k else n + s - k

theorem gap_def (k s : Fin n) : gap k s = if (k : ℕ) ≤ s then (s : ℕ) - k else n + s - k := rfl

theorem gap_lt (k s : Fin n) : gap k s < n := by
  have hk := k.isLt
  have hs := s.isLt
  rw [gap_def]
  split <;> omega

@[simp] theorem gap_self (k : Fin n) : gap k k = 0 := by
  simp [gap]

theorem gap_eq_zero {k s : Fin n} (h : gap k s = 0) : k = s := by
  have hk := k.isLt
  have hs := s.isLt
  rw [gap_def] at h
  refine Fin.ext ?_
  split at h <;> omega

theorem gap_inj {k s t : Fin n} (h : gap k s = gap k t) : s = t := by
  have hk := k.isLt
  have hs := s.isLt
  have ht := t.isLt
  rw [gap_def, gap_def] at h
  refine Fin.ext ?_
  split at h <;> split at h <;> omega

/-- On the way from `k` to `s`, or once more around. -/
theorem gap_add (k t s : Fin n) :
    gap k t + gap t s = gap k s ∨ gap k t + gap t s = gap k s + n := by
  have hk := k.isLt
  have hs := s.isLt
  have ht := t.isLt
  rw [gap_def, gap_def, gap_def]
  split <;> split <;> split <;> omega

theorem gap_next_left {k s : Fin n} (h : k ≠ s) : gap (next k) s + 1 = gap k s := by
  have hk := k.isLt
  have hs := s.isLt
  have hne : k.val ≠ s.val := fun heq => h (Fin.ext heq)
  rw [gap_def, gap_def, next_val]
  split <;> split <;> split <;> omega

theorem gap_next_right {k s : Fin n} (h : k ≠ next s) : gap k (next s) = gap k s + 1 := by
  have hk := k.isLt
  have hs := s.isLt
  have hne : k.val ≠ (next s).val := fun heq => h (Fin.ext heq)
  simp only [next_val] at hne
  rw [gap_def, gap_def, next_val]
  split <;> split <;> split <;> split at hne <;> omega

/-- `t` lies cyclically in `]i, j]`. -/
theorem cyclic_iff (i j t : Fin n) :
    (if i ≤ j then i < t ∧ t ≤ j else i < t ∨ t ≤ j) ↔ 0 < gap i t ∧ gap i t ≤ gap i j := by
  have hi := i.isLt
  have hj := j.isLt
  have ht := t.isLt
  simp only [gap_def, Fin.le_def, Fin.lt_def]
  split <;> split <;> omega

/-! ## Tables -/

section Table

variable {α : Type} {hole : α} {hash : α → Fin n} {T : Fin n → α}

/-- No hole lies between the hash of an element and its slot. -/
def Reachable (hole : α) (hash : α → Fin n) (T : Fin n → α) : Prop :=
  ∀ s, T s ≠ hole → ∀ t, gap (hash (T s)) t < gap (hash (T s)) s → T t ≠ hole

/-- No hole but `i` lies between the hash of an element and its slot. -/
def ReachableBut (i : Fin n) (hole : α) (hash : α → Fin n) (T : Fin n → α) : Prop :=
  ∀ s, T s ≠ hole → ∀ t, gap (hash (T s)) t < gap (hash (T s)) s → t ≠ i → T t ≠ hole

/-- The first slot from `k` on that meets `P`. -/
def First (P : Fin n → Prop) (k s : Fin n) : Prop := P s ∧ ∀ t, gap k t < gap k s → ¬ P t

theorem exists_first {P : Fin n → Prop} (k : Fin n) (h : ∃ s, P s) : ∃ s, First P k s := by
  classical
  have hgap : ∃ d s, P s ∧ gap k s = d := by
    obtain ⟨s, hs⟩ := h
    exact ⟨_, s, hs, rfl⟩
  obtain ⟨s, hs, hd⟩ := Nat.find_spec hgap
  refine ⟨s, hs, fun t ht hPt => ?_⟩
  rw [hd] at ht
  exact Nat.find_min hgap ht ⟨t, hPt, rfl⟩

/-- One step of the search. -/
theorem First.next {P : Fin n → Prop} {k s : Fin n} (h : First P k s) (hk : ¬ P k) :
    First P (next k) s ∧ gap (LinearProbing.next k) s + 1 = gap k s := by
  have hne : k ≠ s := by
    rintro rfl
    exact hk h.1
  have hgap := gap_next_left hne
  refine ⟨⟨h.1, fun t ht => ?_⟩, hgap⟩
  by_cases hkt : k = t
  · rw [← hkt]
    exact hk
  · have ht' := gap_next_left hkt
    exact h.2 t (by omega)

/-- The slot of an element is the first one from its hash on that is a hole or has this element. -/
theorem Reachable.first (h : Reachable hole hash T) {s : Fin n} (hs : T s ≠ hole)
    (honce : ∀ t, T t = T s → t = s) : First (fun t => T t = T s ∨ T t = hole) (hash (T s)) s := by
  refine ⟨.inl rfl, fun t ht => ?_⟩
  rintro (hsame | hhole)
  · rw [honce t hsame] at ht
    exact absurd ht (Nat.lt_irrefl _)
  · exact h s hs t ht hhole

/-- An element fills the first hole behind its hash. -/
theorem Reachable.fill (h : Reachable hole hash T) {g : α} {k : Fin n} (hg : g ≠ hole)
    (hk : First (fun t => T t = hole) (hash g) k) :
    Reachable hole hash (Function.update T k g) := by
  intro s hs t ht
  by_cases htk : t = k
  · rw [htk, Function.update_self]
    exact hg
  · rw [Function.update_of_ne htk]
    by_cases hsk : s = k
    · rw [hsk, Function.update_self] at ht
      exact hk.2 t ht
    · rw [Function.update_of_ne hsk] at hs ht
      exact h s hs t ht

/-- A slot is cleared. -/
theorem Reachable.clear (h : Reachable hole hash T) (i : Fin n) :
    ReachableBut i hole hash (Function.update T i hole) := by
  intro s hs t ht hti
  have hsi : s ≠ i := by
    rintro rfl
    exact hs (Function.update_self ..)
  rw [Function.update_of_ne hsi] at hs ht
  rw [Function.update_of_ne hti]
  exact h s hs t ht

/-- An element whose way leads over the hole is moved there, and leaves another hole. -/
theorem ReachableBut.shift {i j : Fin n} (h : ReachableBut i hole hash T) (hi : T i = hole)
    (hj : T j ≠ hole) (hway : gap (hash (T j)) i < gap (hash (T j)) j) :
    ReachableBut j hole hash (T ∘ Equiv.swap i j) := by
  have hij : i ≠ j := by
    rintro rfl
    exact hj hi
  intro s hs t ht htj
  simp only [Function.comp_apply] at hs ht ⊢
  have hsj : s ≠ j := by
    rintro rfl
    rw [Equiv.swap_apply_right] at hs
    exact hs hi
  by_cases hti : t = i
  · rw [hti, Equiv.swap_apply_left]
    exact hj
  · rw [Equiv.swap_apply_of_ne_of_ne hti htj]
    by_cases hsi : s = i
    · rw [hsi, Equiv.swap_apply_left] at ht
      exact h j hj t (by omega) hti
    · rw [Equiv.swap_apply_of_ne_of_ne hsi hsj] at hs ht
      exact h s hs t ht hti

/-- The elements in the `m` slots from the hole `i` on have their ways behind it. -/
def Scanned (i : Fin n) (m : ℕ) (hole : α) (hash : α → Fin n) (T : Fin n → α) : Prop :=
  ∀ s, T s ≠ hole → gap i s < m → 0 < gap i (hash (T s)) ∧ gap i (hash (T s)) ≤ gap i s

theorem Scanned.start {i : Fin n} (hi : T i = hole) :
    Scanned i (gap i i + 1) hole hash T := by
  intro s hs hlt
  rw [gap_self] at hlt
  rw [← gap_eq_zero (show gap i s = 0 by omega)] at hs
  exact absurd hi hs

theorem Scanned.succ {i j : Fin n} (h : Scanned i (gap i j) hole hash T)
    (hj : 0 < gap i (hash (T j)) ∧ gap i (hash (T j)) ≤ gap i j) :
    Scanned i (gap i j + 1) hole hash T := by
  intro s hs hlt
  by_cases heq : gap i s = gap i j
  · rw [gap_inj heq]
    exact hj
  · exact h s hs (by omega)

/-- The next slot, or the end of the round. -/
theorem gap_succ (i j : Fin n) : gap i j + 1 = if i = next j then n else gap i (next j) := by
  split
  · rename_i heq
    have hval := congrArg Fin.val heq
    have hi := i.isLt
    have hj := j.isLt
    rw [next_val] at hval
    rw [gap_def]
    split <;> split at hval <;> omega
  · rename_i hne
    exact (gap_next_right hne).symm

/-- An element whose way is not behind the hole has it in its way. -/
theorem way_over {i j k : Fin n} (hij : i ≠ j) (h : ¬ (0 < gap i k ∧ gap i k ≤ gap i j)) :
    gap k i < gap k j := by
  have hpos : gap i j ≠ 0 := fun hzero => hij (gap_eq_zero hzero)
  have hround := gap_add i k i
  have hway := gap_add k i j
  have hki := gap_lt k i
  have hij' := gap_lt i j
  rw [gap_self] at hround
  omega

/-- **The deletion ends at a hole `j`**: every element up to there has its way behind the hole `i`,
and no way from further on leads over `j`. -/
theorem ReachableBut.close {i j : Fin n} (h : ReachableBut i hole hash T) (hj : T j = hole)
    (hscanned : Scanned i (if i = j then n else gap i j) hole hash T) :
    Reachable hole hash T := by
  intro s hs t ht
  by_cases hti : t = i
  · exfalso
    rw [hti] at ht
    -- the way leads over `i`, so the element has not been scanned, and the way leads over `j` too
    have hway := gap_add (hash (T s)) i s
    have hlt := gap_lt (hash (T s)) s
    have his := gap_lt i s
    have hround := gap_add (hash (T s)) i (hash (T s))
    rw [gap_self] at hround
    have hfar : ¬ gap i s < if i = j then n else gap i j := by
      intro hnear
      have hdone := hscanned s hs hnear
      omega
    by_cases hij : i = j
    · rw [if_pos hij] at hfar
      omega
    · rw [if_neg hij] at hfar
      have hpos : gap j s ≠ 0 := by
        intro hzero
        rw [gap_eq_zero hzero] at hj
        exact hs hj
      have hjs := gap_add i j s
      have hjlt := gap_lt j s
      have hij' := gap_add (hash (T s)) i j
      have hjs' := gap_add (hash (T s)) j s
      exact h s hs j (by omega) (Ne.symm hij) hj
  · exact h s hs t ht hti

theorem update_eq_swap {i j : Fin n} (hi : T i = hole) :
    Function.update (Function.update T i (T j)) j hole = T ∘ Equiv.swap i j := by
  funext s
  rw [Function.comp_apply]
  by_cases hsj : s = j
  · rw [hsj, Function.update_self, Equiv.swap_apply_right, hi]
  · rw [Function.update_of_ne hsj]
    by_cases hsi : s = i
    · rw [hsi, Function.update_self, Equiv.swap_apply_left]
    · rw [Function.update_of_ne hsi, Equiv.swap_apply_of_ne_of_ne hsi hsj]

end Table

/-! ## The way of the elements -/

section Weight

variable {α : Type} [DecidableEq α] {hole : α} {hash : α → Fin n} {T : Fin n → α}

/-- The steps from the hash of the element in slot `s`, if there is one. -/
def way (hole : α) (hash : α → Fin n) (g : α) (s : Fin n) : ℕ :=
  if g = hole then 0 else gap (hash g) s

/-- All steps from the hashes of the elements to their slots. -/
def weight (hole : α) (hash : α → Fin n) (T : Fin n → α) : ℕ := ∑ s, way hole hash (T s) s

theorem weight_le (hole : α) (hash : α → Fin n) (T : Fin n → α) :
    weight hole hash T ≤ n * n := by
  have hway : ∀ s ∈ (Finset.univ : Finset (Fin n)), way hole hash (T s) s ≤ n := by
    intro s _
    unfold way
    split
    · exact Nat.zero_le _
    · exact (gap_lt _ _).le
  calc weight hole hash T ≤ ∑ _s : Fin n, n := Finset.sum_le_sum hway
    _ = n * n := by rw [Finset.sum_const, Finset.card_univ, Fintype.card_fin, Nat.nsmul_eq_mul]

/-- **Every round of a deletion makes the ways shorter.** -/
theorem weight_shift_lt {i j : Fin n} (hi : T i = hole) (hj : T j ≠ hole)
    (hway : gap (hash (T j)) i < gap (hash (T j)) j) :
    weight hole hash (T ∘ Equiv.swap i j) < weight hole hash T := by
  have hsum : weight hole hash (T ∘ Equiv.swap i j) =
      ∑ s, way hole hash (T s) (Equiv.swap i j s) := by
    rw [weight, ← Equiv.sum_comp (Equiv.swap i j)]
    simp only [Function.comp_apply, Equiv.swap_apply_self]
  rw [hsum, weight]
  refine Finset.sum_lt_sum (fun s _ => ?_) ⟨j, Finset.mem_univ j, ?_⟩
  · by_cases hsi : s = i
    · simp [way, hsi, hi]
    · by_cases hsj : s = j
      · rw [hsj, Equiv.swap_apply_right, way, way, if_neg hj, if_neg hj]
        exact hway.le
      · rw [Equiv.swap_apply_of_ne_of_ne hsi hsj]
  · rw [Equiv.swap_apply_right, way, way, if_neg hj, if_neg hj]
    exact hway

end Weight

/-! ## What a table stores -/

section Stores

variable {α : Type} [DecidableEq α] {hole : α} {T : Fin n → α} {S : Finset α}

/-- The slots hold the elements of `S`, each of them once. -/
structure Stores (hole : α) (T : Fin n → α) (S : Finset α) : Prop where
  hole_notMem : hole ∉ S
  mem_iff : ∀ g, g ≠ hole → (g ∈ S ↔ ∃ s, T s = g)
  once : ∀ s t, T s ≠ hole → T s = T t → s = t

namespace Stores

omit [DecidableEq α] in
theorem empty : Stores hole (fun _ : Fin n => hole) ∅ where
  hole_notMem := Finset.notMem_empty _
  mem_iff := by
    intro g hg
    simp [Ne.symm hg]
  once := fun _ _ hs => absurd rfl hs

omit [DecidableEq α] in
theorem mem (h : Stores hole T S) {s : Fin n} (hs : T s ≠ hole) : T s ∈ S :=
  (h.mem_iff _ hs).mpr ⟨s, rfl⟩

theorem insert (h : Stores hole T S) {g : α} {k : Fin n} (hg : g ≠ hole) (hnew : g ∉ S)
    (hk : T k = hole) : Stores hole (Function.update T k g) (Insert.insert g S) := by
  have hno : ∀ s, T s ≠ g := fun s hs => hnew ((h.mem_iff g hg).mpr ⟨s, hs⟩)
  refine ⟨?_, fun g' hg' => ?_, fun s t hs hst => ?_⟩
  · rw [Finset.mem_insert, not_or]
    exact ⟨Ne.symm hg, h.hole_notMem⟩
  · rw [Finset.mem_insert, h.mem_iff g' hg']
    constructor
    · rintro (rfl | ⟨s, hs⟩)
      · exact ⟨k, Function.update_self ..⟩
      · have hsk : s ≠ k := by
          rintro rfl
          exact hg' (hs.symm.trans hk)
        exact ⟨s, by rw [Function.update_of_ne hsk, hs]⟩
    · rintro ⟨s, hs⟩
      by_cases hsk : s = k
      · rw [hsk, Function.update_self] at hs
        exact .inl hs.symm
      · rw [Function.update_of_ne hsk] at hs
        exact .inr ⟨s, hs⟩
  · by_cases hsk : s = k <;> by_cases htk : t = k
    · rw [hsk, htk]
    · rw [hsk, Function.update_self, Function.update_of_ne htk] at hst
      exact absurd hst.symm (hno t)
    · rw [htk, Function.update_self, Function.update_of_ne hsk] at hst
      exact absurd hst (hno s)
    · rw [Function.update_of_ne hsk] at hs hst
      rw [Function.update_of_ne htk] at hst
      exact h.once s t hs hst

theorem erase (h : Stores hole T S) {i : Fin n} (hi : T i ≠ hole) :
    Stores hole (Function.update T i hole) (S.erase (T i)) := by
  refine ⟨fun hmem => h.hole_notMem (Finset.mem_of_mem_erase hmem), fun g hg => ?_,
    fun s t hs hst => ?_⟩
  · rw [Finset.mem_erase, h.mem_iff g hg]
    constructor
    · rintro ⟨hne, s, hs⟩
      have hsi : s ≠ i := by
        rintro rfl
        exact hne hs.symm
      exact ⟨s, by rw [Function.update_of_ne hsi, hs]⟩
    · rintro ⟨s, hs⟩
      have hsi : s ≠ i := by
        rintro rfl
        rw [Function.update_self] at hs
        exact hg hs.symm
      rw [Function.update_of_ne hsi] at hs
      refine ⟨fun heq => ?_, s, hs⟩
      exact hsi (h.once s i (by rwa [hs]) (hs.trans heq))
  · have hsi : s ≠ i := by
      rintro rfl
      exact hs (Function.update_self ..)
    by_cases hti : t = i
    · rw [hti, Function.update_self] at hst
      exact absurd hst hs
    · rw [Function.update_of_ne hsi] at hs hst
      rw [Function.update_of_ne hti] at hst
      exact h.once s t hs hst

omit [DecidableEq α] in
/-- The order of the slots does not matter. -/
theorem comp (h : Stores hole T S) (e : Equiv.Perm (Fin n)) : Stores hole (T ∘ e) S where
  hole_notMem := h.hole_notMem
  mem_iff := by
    intro g hg
    rw [h.mem_iff g hg]
    constructor
    · rintro ⟨s, hs⟩
      exact ⟨e.symm s, by rw [Function.comp_apply, Equiv.apply_symm_apply, hs]⟩
    · rintro ⟨s, hs⟩
      exact ⟨e s, hs⟩
  once := fun s t hs hst => e.injective (h.once (e s) (e t) hs hst)

/-- A hole is left as long as there are fewer elements than slots. -/
theorem exists_hole_iff (h : Stores hole T S) : (∃ s, T s = hole) ↔ S.card < n := by
  have hcard : S.card = (Finset.univ.filter fun s => T s ≠ hole).card := by
    have himage : S = (Finset.univ.filter fun s => T s ≠ hole).image T := by
      ext g
      rw [Finset.mem_image]
      constructor
      · intro hg
        have hne : g ≠ hole := by
          rintro rfl
          exact h.hole_notMem hg
        obtain ⟨s, hs⟩ := (h.mem_iff g hne).mp hg
        exact ⟨s, by simp [hs, hne], hs⟩
      · rintro ⟨s, hs, rfl⟩
        exact h.mem (Finset.mem_filter.mp hs).2
    conv_lhs => rw [himage]
    refine Finset.card_image_of_injOn fun s hs t _ hst => h.once s t ?_ hst
    exact (Finset.mem_filter.mp hs).2
  have huniv : (Finset.univ : Finset (Fin n)).card = n := by simp
  constructor
  · rintro ⟨s, hs⟩
    rw [hcard]
    refine lt_of_lt_of_eq (Finset.card_lt_card ?_) huniv
    rw [Finset.filter_ssubset]
    exact ⟨s, Finset.mem_univ s, not_not.mpr hs⟩
  · intro hlt
    by_contra hno
    rw [hcard, Finset.filter_true_of_mem, huniv] at hlt
    · exact absurd hlt (Nat.lt_irrefl _)
    · intro s _ hs
      exact hno ⟨s, hs⟩

end Stores

end Stores

end LinearProbing
