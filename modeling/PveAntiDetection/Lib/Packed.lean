import Mathlib.Algebra.Ring.Nat
import Mathlib.Data.List.Nodup

/-!
# Packed structures

The memory layout of a C structure without padding: its members with their sizes, in declaration
order.  `PackedStruct F` gives the layout of a structure whose members are the values of the
enumeration `F`, together with the two facts that make it a layout: every member is listed, and
none is listed twice.

* `offsetof_add_sizeOf_le` — a member ends inside the structure;
* `members_disjoint` — two different members do not overlap;
* `exists_member_at` — every byte of the structure belongs to a member.
-/

set_option autoImplicit false

/-- The members of a packed structure, in declaration order, with their sizes in bytes. -/
class PackedStruct (F : Type) where
  layout : List (F × Nat)
  complete : ∀ f, f ∈ layout.map Prod.fst
  nodup : (layout.map Prod.fst).Nodup

namespace PackedStruct

variable {F : Type} [DecidableEq F]

/-! ## Layouts as lists -/

/-- Bytes in front of member `f`. -/
def offsetIn : List (F × Nat) → F → Nat
  | [], _ => 0
  | (g, n) :: l, f => if g = f then 0 else n + offsetIn l f

/-- Bytes of member `f`. -/
def sizeIn : List (F × Nat) → F → Nat
  | [], _ => 0
  | (g, n) :: l, f => if g = f then n else sizeIn l f

/-- Bytes of all members. -/
def total (l : List (F × Nat)) : Nat := (l.map Prod.snd).sum

theorem offsetIn_add_sizeIn_le (l : List (F × Nat)) (f : F) (h : f ∈ l.map Prod.fst) :
    offsetIn l f + sizeIn l f ≤ total l := by
  induction l with
  | nil => simp at h
  | cons m l ih =>
    obtain ⟨g, n⟩ := m
    simp only [offsetIn, sizeIn, total, List.map_cons, List.sum_cons]
    split
    · omega
    · rename_i hne
      have hmem : f ∈ l.map Prod.fst := by
        rcases List.mem_cons.mp h with heq | hmem
        · exact absurd heq.symm hne
        · exact hmem
      have := ih hmem
      simp only [total] at this
      omega

theorem disjointIn (l : List (F × Nat)) (f g : F) (hf : f ∈ l.map Prod.fst)
    (hg : g ∈ l.map Prod.fst) (hne : f ≠ g) :
    offsetIn l f + sizeIn l f ≤ offsetIn l g ∨ offsetIn l g + sizeIn l g ≤ offsetIn l f := by
  induction l with
  | nil => simp at hf
  | cons m l ih =>
    obtain ⟨k, n⟩ := m
    simp only [List.map_cons, List.mem_cons] at hf hg
    simp only [offsetIn, sizeIn]
    by_cases hkf : k = f <;> by_cases hkg : k = g
    · exact absurd (hkf.symm.trans hkg) hne
    · simp only [if_pos hkf, if_neg hkg]
      omega
    · simp only [if_neg hkf, if_pos hkg]
      omega
    · simp only [if_neg hkf, if_neg hkg]
      have hf' : f ∈ l.map Prod.fst := hf.resolve_left (fun e => hkf e.symm)
      have hg' : g ∈ l.map Prod.fst := hg.resolve_left (fun e => hkg e.symm)
      have := ih hf' hg'
      omega

theorem exists_memberIn (l : List (F × Nat)) (hnd : (l.map Prod.fst).Nodup) (p : Nat)
    (hp : p < total l) :
    ∃ f ∈ l.map Prod.fst, offsetIn l f ≤ p ∧ p < offsetIn l f + sizeIn l f := by
  induction l generalizing p with
  | nil => simp [total] at hp
  | cons m l ih =>
    obtain ⟨g, n⟩ := m
    simp only [List.map_cons, List.nodup_cons] at hnd
    rcases Nat.lt_or_ge p n with hlt | hge
    · exact ⟨g, by simp, by simp [offsetIn], by simpa [offsetIn, sizeIn] using hlt⟩
    · have hp' : p - n < total l := by
        simp only [total, List.map_cons, List.sum_cons] at hp ⊢
        omega
      obtain ⟨f, hf, hlo, hhi⟩ := ih hnd.2 (p - n) hp'
      have hne : g ≠ f := fun e => hnd.1 (e ▸ hf)
      refine ⟨f, List.mem_cons_of_mem _ hf, ?_, ?_⟩
      · simp only [offsetIn, if_neg hne]
        omega
      · simp only [offsetIn, sizeIn, if_neg hne]
        omega

/-! ## The layout of a structure -/

variable [PackedStruct F]

/-- `offsetof`, counted from the first listed member. -/
def offsetof (f : F) : Nat := offsetIn (layout (F := F)) f

/-- `sizeof` of a member. -/
def sizeofField (f : F) : Nat := sizeIn (layout (F := F)) f

/-- Bytes of all listed members. -/
def sizeofAll (F : Type) [PackedStruct F] : Nat := ((layout (F := F)).map Prod.snd).sum

/-- A member ends inside the structure. -/
theorem offsetof_add_sizeof_le (f : F) : offsetof f + sizeofField f ≤ sizeofAll F :=
  offsetIn_add_sizeIn_le _ f (complete f)

/-- Different members do not overlap. -/
theorem members_disjoint {f g : F} (hne : f ≠ g) :
    offsetof f + sizeofField f ≤ offsetof g ∨ offsetof g + sizeofField g ≤ offsetof f :=
  disjointIn _ f g (complete f) (complete g) hne

/-- Every byte of the structure belongs to a member. -/
theorem exists_member_at {p : Nat} (hp : p < sizeofAll F) :
    ∃ f : F, offsetof f ≤ p ∧ p < offsetof f + sizeofField f := by
  obtain ⟨f, -, hlo, hhi⟩ := exists_memberIn (layout (F := F)) nodup p hp
  exact ⟨f, hlo, hhi⟩

end PackedStruct
