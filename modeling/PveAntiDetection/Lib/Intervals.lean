import Mathlib.Algebra.BigOperators.Group.Finset.Basic
import Mathlib.Algebra.BigOperators.Intervals
import Mathlib.Order.Interval.Finset.Nat

/-!
# Ascending intervals

Finite families of intervals `[a i, a i + l i)` of natural numbers, given by their starts and
lengths.

* `Ascending` — each interval ends before the later ones start;
* `Tiles` — intervals with the same starts but other lengths are disjoint and cover the same points;
* `tiles_iff` — for ascending intervals: all lengths but the last are the same, and the last one
  covers what is left; `Tiles.sum_eq` and `last_covers_iff` count the points.
-/

set_option autoImplicit false

namespace Intervals

open Finset

variable {a l r : Nat → Nat} {i j k m n x : Nat}

/-- The first `m` intervals are in ascending order and disjoint. -/
def Ascending (a l : Nat → Nat) (m : Nat) : Prop := ∀ i j, i < j → j < m → a i + l i ≤ a j

/-- The points of the intervals `i, …, m - 1`. -/
def points (a l : Nat → Nat) (i m : Nat) : Finset Nat :=
  (Ico i m).biUnion fun j => Ico (a j) (a j + l j)

theorem mem_points : x ∈ points a l i m ↔ ∃ j, i ≤ j ∧ j < m ∧ a j ≤ x ∧ x < a j + l j := by
  simp only [points, mem_biUnion, mem_Ico, and_assoc]

theorem points_single (a r : Nat → Nat) (k : Nat) :
    points a r k (k + 1) = Ico (a k) (a k + r k) := by
  simp [points]

theorem Ascending.le (h : Ascending a l m) (hij : i ≤ j) (hj : j < m) : a i ≤ a j := by
  rcases Nat.lt_or_eq_of_le hij with hlt | rfl
  · have := h i j hlt hj
    omega
  · exact Nat.le_refl _

/-! ## Counting points -/

/-- The points of disjoint intervals add up. -/
theorem card_points
    (h : ∀ i j, i < j → j < m → Disjoint (Ico (a i) (a i + l i)) (Ico (a j) (a j + l j)))
    (k : Nat) : (points a l k m).card = ∑ j ∈ Ico k m, l j := by
  unfold points
  rw [card_biUnion]
  · exact sum_congr rfl fun j _ => by rw [Nat.card_Ico, Nat.add_sub_cancel_left]
  · intro i hi j hj hne
    have him := (mem_Ico.mp hi).2
    have hjm := (mem_Ico.mp hj).2
    rcases Nat.lt_or_gt_of_ne hne with hlt | hgt
    · exact h i j hlt hjm
    · exact (h j i hgt him).symm

theorem Ascending.disjoint (h : Ascending a l m) (i j : Nat) (hij : i < j) (hj : j < m) :
    Disjoint (Ico (a i) (a i + l i)) (Ico (a j) (a j + l j)) := by
  have := h i j hij hj
  rw [Finset.disjoint_left]
  intro x hx hx'
  have hlt := (mem_Ico.mp hx).2
  have hge := (mem_Ico.mp hx').1
  omega

/-! ## Tilings -/

/-- The intervals `[a i, a i + r i)`, `i < n`, are disjoint and cover the points of the intervals
`[a j, a j + l j)`, `j < m`. -/
def Tiles (a l r : Nat → Nat) (m n : Nat) : Prop :=
  (∀ i j, i < j → j < n → Disjoint (Ico (a i) (a i + r i)) (Ico (a j) (a j + r j))) ∧
    points a r 0 n = points a l 0 m

theorem Tiles.sum_eq (htiles : Tiles a l r m n) (hasc : Ascending a l m) :
    ∑ i ∈ range n, r i = ∑ j ∈ range m, l j := by
  rw [range_eq_Ico, range_eq_Ico, ← card_points htiles.1, ← card_points hasc.disjoint, htiles.2]

/-- A tile ends where the next one starts, or before. -/
theorem Tiles.ascending (htiles : Tiles a l r m n) (hasc : Ascending a l m) (hnm : n ≤ m)
    (hpos : ∀ i, i < n → 0 < r i) (hij : i < j) (hj : j < n) : a i + r i ≤ a j := by
  have hle := hasc.le (Nat.le_of_lt hij) (by omega)
  have hdis := Finset.disjoint_left.mp (htiles.1 i j hij hj)
  have hstart : a j ∈ Ico (a j) (a j + r j) := by
    have := hpos j hj
    rw [mem_Ico]
    omega
  by_contra hlt
  exact hdis (mem_Ico.mpr ⟨hle, by omega⟩) hstart

/-- Every tile but the last is as long as its interval. -/
theorem Tiles.length_eq (htiles : Tiles a l r m n) (hasc : Ascending a l m) (hnm : n ≤ m)
    (hpos : ∀ i, i < n → 0 < r i) (hi : i + 1 < n) : r i = l i := by
  have hup : ∀ {j k}, j < k → k < n → a j + r j ≤ a k := fun hjk hk =>
    htiles.ascending hasc hnm hpos hjk hk
  rcases Nat.lt_trichotomy (r i) (l i) with hlt | heq | hgt
  · -- the first point of the interval behind its tile
    have hx : a i + r i ∈ points a l 0 m :=
      mem_points.mpr ⟨i, by omega, by omega, by omega, by omega⟩
    rw [← htiles.2] at hx
    obtain ⟨j, -, hj, hlo, hhi⟩ := mem_points.mp hx
    rcases Nat.lt_trichotomy j i with hji | rfl | hij
    · have := hup hji (by omega)
      omega
    · omega
    · have := hasc i j hij (by omega)
      omega
  · exact heq
  · -- the first point of the tile behind its interval
    have hx : a i + l i ∈ points a r 0 n :=
      mem_points.mpr ⟨i, by omega, by omega, by omega, by omega⟩
    rw [htiles.2] at hx
    obtain ⟨j, -, hj, hlo, hhi⟩ := mem_points.mp hx
    rcases Nat.lt_trichotomy j i with hji | rfl | hij
    · have := hasc j i hji (by omega)
      omega
    · omega
    · have hnext := hasc.le (show i + 1 ≤ j by omega) hj
      have hend : a i + r i ≤ a (i + 1) := hup (by omega) hi
      omega

/-- **Tilings of ascending intervals.** -/
theorem tiles_iff (hasc : Ascending a l m) (hnm : n ≤ m) (hpos : ∀ i, i < n → 0 < r i) :
    Tiles a l r m n ↔
      (∀ i, i + 1 < n → r i = l i) ∧ points a r (n - 1) n = points a l (n - 1) m := by
  constructor
  · intro htiles
    have hsame : ∀ i, i + 1 < n → r i = l i := fun i hi => htiles.length_eq hasc hnm hpos hi
    refine ⟨hsame, ?_⟩
    ext x
    constructor
    · intro hx
      obtain ⟨i, hlo, hi, hge, hlt⟩ := mem_points.mp hx
      have hx' : x ∈ points a l 0 m := by
        rw [← htiles.2]
        exact mem_points.mpr ⟨i, by omega, hi, hge, hlt⟩
      obtain ⟨j, -, hj, hge', hlt'⟩ := mem_points.mp hx'
      rcases Nat.lt_or_ge j (n - 1) with hjn | hjn
      · have := hasc j i (by omega) (by omega)
        omega
      · exact mem_points.mpr ⟨j, hjn, hj, hge', hlt'⟩
    · intro hx
      obtain ⟨j, hlo, hj, hge, hlt⟩ := mem_points.mp hx
      have hx' : x ∈ points a r 0 n := by
        rw [htiles.2]
        exact mem_points.mpr ⟨j, by omega, hj, hge, hlt⟩
      obtain ⟨i, -, hi, hge', hlt'⟩ := mem_points.mp hx'
      rcases Nat.lt_or_ge i (n - 1) with hin | hin
      · have hlen := hsame i (by omega)
        have := hasc i j (by omega) hj
        omega
      · exact mem_points.mpr ⟨i, hin, hi, hge', hlt'⟩
  · rintro ⟨hsame, hlast⟩
    refine ⟨fun i j hij hj => ?_, ?_⟩
    · have hlen := hsame i (by omega)
      have hle := hasc i j hij (by omega)
      rw [Finset.disjoint_left]
      intro x hx hx'
      have hlt := (mem_Ico.mp hx).2
      have hge := (mem_Ico.mp hx').1
      omega
    · have hmem : ∀ x, x ∈ points a r (n - 1) n ↔ x ∈ points a l (n - 1) m := fun x => by rw [hlast]
      ext x
      constructor
      · intro hx
        obtain ⟨i, -, hi, hge, hlt⟩ := mem_points.mp hx
        rcases Nat.lt_or_ge i (n - 1) with hin | hin
        · have hlen := hsame i (by omega)
          exact mem_points.mpr ⟨i, by omega, by omega, hge, by omega⟩
        · obtain ⟨j, -, hj, hge', hlt'⟩ :=
            mem_points.mp ((hmem x).mp (mem_points.mpr ⟨i, hin, hi, hge, hlt⟩))
          exact mem_points.mpr ⟨j, by omega, hj, hge', hlt'⟩
      · intro hx
        obtain ⟨j, -, hj, hge, hlt⟩ := mem_points.mp hx
        rcases Nat.lt_or_ge j (n - 1) with hjn | hjn
        · have hlen := hsame j (by omega)
          exact mem_points.mpr ⟨j, by omega, by omega, hge, by omega⟩
        · obtain ⟨i, -, hi, hge', hlt'⟩ :=
            mem_points.mp ((hmem x).mpr (mem_points.mpr ⟨j, hjn, hj, hge, hlt⟩))
          exact mem_points.mpr ⟨i, by omega, hi, hge', hlt'⟩

/-- What the other tiles leave is the length of the last one. -/
theorem last_eq_of_sum (hn : 0 < n) (hnm : n ≤ m) (hsame : ∀ i, i + 1 < n → r i = l i)
    (hsum : ∑ i ∈ range n, r i = ∑ j ∈ range m, l j) : r (n - 1) = ∑ j ∈ Ico (n - 1) m, l j := by
  have hsplit := sum_range_add_sum_Ico l (show n - 1 ≤ m by omega)
  have hhead : ∑ i ∈ range (n - 1), r i = ∑ i ∈ range (n - 1), l i :=
    sum_congr rfl fun i hi => hsame i (by have := mem_range.mp hi; omega)
  obtain ⟨k, rfl⟩ : ∃ k, n = k + 1 := ⟨n - 1, by omega⟩
  rw [sum_range_succ] at hsum
  simp only [Nat.add_sub_cancel] at hhead hsplit ⊢
  omega

/-- A last tile with as many points as the intervals left covers them exactly if none of these
reaches behind it. -/
theorem last_covers_iff (hasc : Ascending a l m) (hlen : r k = ∑ j ∈ Ico k m, l j) :
    points a r k (k + 1) = points a l k m ↔
      ∀ j, k ≤ j → j < m → l j ≠ 0 → a j + l j ≤ a k + r k := by
  rw [points_single]
  constructor
  · intro hsame j hkj hj hne
    have hx : a j + l j - 1 ∈ Ico (a k) (a k + r k) := by
      rw [hsame]
      exact mem_points.mpr ⟨j, hkj, hj, by omega, by omega⟩
    have := (mem_Ico.mp hx).2
    omega
  · intro hends
    refine (eq_of_subset_of_card_le ?_ ?_).symm
    · intro x hx
      obtain ⟨j, hkj, hj, hge, hlt⟩ := mem_points.mp hx
      have hle := hasc.le hkj hj
      have := hends j hkj hj (by omega)
      exact mem_Ico.mpr ⟨by omega, by omega⟩
    · rw [card_points hasc.disjoint, Nat.card_Ico, Nat.add_sub_cancel_left, hlen]

end Intervals
