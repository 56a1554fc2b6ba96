import Mathlib.Data.List.Basic

/-!
# Memory as a function of addresses

Memory that is read and copied in runs of cells.  Nothing here depends on what a cell holds.

* `read` — the cells of a run;
* `copy` — `memcpy` from any source, and `memset` where the source is constant;
* `read_copy` — a run inside what was copied has the source's cells;
* `read_congr` — a run depends on its own cells only.
-/

set_option autoImplicit false

namespace ByteMemory

variable {β : Type}

/-- The cells from `addr` on. -/
def read (mem : ℕ → β) (addr size : ℕ) : List β := (List.range size).map fun k => mem (addr + k)

/-- `n` cells of `src` to `dst`. -/
def copy (mem : ℕ → β) (dst : ℕ) (src : ℕ → β) (n : ℕ) : ℕ → β := fun a =>
  if dst ≤ a ∧ a < dst + n then src (a - dst) else mem a

variable {mem mem' : ℕ → β} {dst addr size n : ℕ} {src : ℕ → β}

@[simp] theorem length_read : (read mem addr size).length = size := by simp [read]

theorem read_congr (h : ∀ a, addr ≤ a → a < addr + size → mem a = mem' a) :
    read mem addr size = read mem' addr size := by
  refine List.map_congr_left fun k hk => ?_
  have hlt := List.mem_range.mp hk
  exact h (addr + k) (by omega) (by omega)

/-- Outside the run nothing is written. -/
theorem copy_of_outside {a : ℕ} (h : a < dst ∨ dst + n ≤ a) : copy mem dst src n a = mem a :=
  if_neg (by omega)

theorem copy_of_inside {a : ℕ} (h : dst ≤ a) (h' : a < dst + n) :
    copy mem dst src n a = src (a - dst) :=
  if_pos ⟨h, h'⟩

/-- A run inside the copy. -/
theorem read_copy {k : ℕ} (h : k + size ≤ n) :
    read (copy mem dst src n) (dst + k) size = read src k size := by
  refine List.map_congr_left fun i hi => ?_
  have hlt := List.mem_range.mp hi
  rw [copy_of_inside (by omega) (by omega)]
  congr 1
  omega

theorem read_const (b : β) : read (fun _ => b) addr size = List.replicate size b := by
  simp [read, List.map_const']

end ByteMemory
