import Mathlib.Data.List.Basic

/-!
# Pools of tags

A pool hands out tags from a range in order, and forgets all holders when the range is used up.
Nothing here depends on who the owners are.

* `Pool.take`, `Pool.reuse` — a new tag for an owner, and the use of a tag it holds already;
* `Sound` — tags of different owners differ, and lie in the range;
* `take_sound`, `reuse_sound` — both operations keep it.
-/

set_option autoImplicit false

namespace Pools

/-- The range of the tags, the next one, and who holds which since the pool last forgot. -/
structure Pool (O : Type) where
  lo : Nat
  hi : Nat
  next : Nat
  holders : List (O × Nat)

variable {O : Type}

/-- The range is used up. -/
def Pool.Full (p : Pool O) : Prop := p.hi < p.next

instance (p : Pool O) : Decidable p.Full := inferInstanceAs (Decidable (_ < _))

/-- All holders are forgotten. -/
def Pool.forget (p : Pool O) : Pool O := { p with next := p.lo, holders := [] }

/-- The owner gets the next tag. -/
def Pool.give (p : Pool O) (o : O) : Pool O :=
  { p with next := p.next + 1, holders := (o, p.next) :: p.holders }

/-- The owner gets a new tag. -/
def Pool.take (p : Pool O) (o : O) : Pool O :=
  if p.Full then p.forget.give o else p.give o

/-- The owner uses a tag once more. -/
def Pool.reuse (p : Pool O) (o : O) (t : Nat) : Pool O :=
  { p with holders := (o, t) :: p.holders }

/-- Tags of different owners differ, and those handed out lie below the next one. -/
structure Sound (p : Pool O) : Prop where
  lo_le : p.lo ≤ p.hi → p.lo ≤ p.next
  le_hi : p.lo ≤ p.hi → p.next ≤ p.hi + 1
  range : ∀ h ∈ p.holders, p.lo ≤ h.2 ∧ h.2 < p.next ∧ h.2 ≤ p.hi
  distinct : ∀ h ∈ p.holders, ∀ h' ∈ p.holders, h.1 ≠ h'.1 → h.2 ≠ h'.2

variable {p : Pool O}

theorem forget_sound (hlo : p.lo ≤ p.hi) : Sound p.forget where
  lo_le := fun _ => Nat.le_refl _
  le_hi := fun _ => Nat.le_succ_of_le hlo
  range := fun _ hmem => absurd hmem List.not_mem_nil
  distinct := fun _ hmem => absurd hmem List.not_mem_nil

theorem give_sound (hp : Sound p) (hlo : p.lo ≤ p.hi) (hnext : ¬ p.Full) (o : O) :
    Sound (p.give o) where
  lo_le := fun _ => Nat.le_succ_of_le (hp.lo_le hlo)
  le_hi := fun _ => Nat.succ_le_succ (Nat.le_of_not_lt hnext)
  range := by
    intro h hmem
    rcases List.mem_cons.mp hmem with rfl | hmem
    · exact ⟨hp.lo_le hlo, Nat.lt_succ_self _, Nat.le_of_not_lt hnext⟩
    · obtain ⟨hge, hlt, hle⟩ := hp.range h hmem
      exact ⟨hge, Nat.lt_succ_of_lt hlt, hle⟩
  distinct := by
    intro h hmem h' hmem' hne
    rcases List.mem_cons.mp hmem with rfl | hmem
    · rcases List.mem_cons.mp hmem' with rfl | hmem'
      · exact absurd rfl hne
      · exact Nat.ne_of_gt (hp.range h' hmem').2.1
    · rcases List.mem_cons.mp hmem' with rfl | hmem'
      · exact Nat.ne_of_lt (hp.range h hmem).2.1
      · exact hp.distinct h hmem h' hmem' hne

/-- **A new tag keeps the pool sound**, where the range is not empty. -/
theorem take_sound (hp : Sound p) (hlo : p.lo ≤ p.hi) (o : O) : Sound (p.take o) := by
  unfold Pool.take
  split
  · exact give_sound (forget_sound hlo) hlo (Nat.not_lt.mpr hlo) o
  · rename_i hnext
    exact give_sound hp hlo hnext o

/-- **A tag used once more keeps the pool sound**, where its user holds it. -/
theorem reuse_sound (hp : Sound p) {o : O} {t : Nat} (hheld : (o, t) ∈ p.holders) :
    Sound (p.reuse o t) := by
  have hsub : ∀ h ∈ (p.reuse o t).holders, h ∈ p.holders := by
    intro h hmem
    rcases List.mem_cons.mp hmem with rfl | hmem
    · exact hheld
    · exact hmem
  exact ⟨hp.lo_le, hp.le_hi, fun h hmem => hp.range h (hsub h hmem),
    fun h hmem h' hmem' => hp.distinct h (hsub h hmem) h' (hsub h' hmem')⟩

end Pools
