import Mathlib.Logic.Function.Basic

/-!
# Loops

A `while` loop with fuel, which fails when the fuel runs out, and a loop over a list.  Nothing here
depends on what the states are.

* `loop` — the loop; `loop_unique`, `loop_mono`: what it returns does not depend on the
  fuel;
* `loop_some` — the invariant rule; `loop_returns` — with a measure that decreases, it returns;
* `loop_stuck` — where the condition can never fail, it returns for no fuel;
* `foldl_update` — a loop over a list whose rounds each write a place of their own;
* `Completes`, `EachReturns` — runs of steps that may not return; `completes_iff` is the rule for
  them.
-/

set_option autoImplicit false

namespace Loops

section Loop

variable {S : Type}

/-- `while (cond s) s = body s`. -/
def loop (cond : S → Bool) (body : S → S) : Nat → S → Option S
  | 0, _ => none
  | fuel + 1, s => if cond s then loop cond body fuel (body s) else some s

variable {cond : S → Bool} {body : S → S} {I : S → Prop}

theorem loop_unique : ∀ {fuel fuel' : Nat} {s t t' : S}, loop cond body fuel s = some t →
    loop cond body fuel' s = some t' → t = t'
  | 0, _, _, _, _, h, _ => nomatch h
  | _ + 1, 0, _, _, _, _, h' => nomatch h'
  | fuel + 1, fuel' + 1, s, t, t', h, h' => by
    unfold loop at h h'
    split at h
    · rename_i hcond
      rw [if_pos hcond] at h'
      exact loop_unique h h'
    · rename_i hcond
      rw [if_neg hcond] at h'
      exact Option.some.inj (h.symm.trans h')

/-- More fuel gives the same. -/
theorem loop_mono : ∀ {fuel fuel' : Nat} {s t : S}, fuel ≤ fuel' →
    loop cond body fuel s = some t → loop cond body fuel' s = some t
  | 0, _, _, _, _, h => nomatch h
  | _ + 1, 0, _, _, hle, _ => absurd hle (Nat.not_succ_le_zero _)
  | fuel + 1, fuel' + 1, s, t, hle, h => by
    unfold loop at h ⊢
    split at h
    · rename_i hcond
      rw [if_pos hcond]
      exact loop_mono (Nat.le_of_succ_le_succ hle) h
    · rename_i hcond
      rw [if_neg hcond]
      exact h

/-- The invariant holds where the loop ends, and the condition does not. -/
theorem loop_some (hbody : ∀ s, I s → cond s = true → I (body s)) :
    ∀ {fuel : Nat} {s t : S}, I s → loop cond body fuel s = some t → I t ∧ cond t = false
  | 0, _, _, _, h => nomatch h
  | fuel + 1, s, t, hs, h => by
    unfold loop at h
    split at h
    · rename_i hcond
      exact loop_some hbody (hbody s hs hcond) h
    · rename_i hcond
      cases h
      exact ⟨hs, Bool.eq_false_iff.mpr hcond⟩

/-- A measure that every round decreases is fuel enough. -/
theorem loop_returns {m : S → Nat}
    (hbody : ∀ s, I s → cond s = true → I (body s) ∧ m (body s) < m s) :
    ∀ {fuel : Nat} {s : S}, I s → m s < fuel → ∃ t, loop cond body fuel s = some t
  | 0, _, _, hm => absurd hm (Nat.not_lt_zero _)
  | fuel + 1, s, hs, hm => by
    unfold loop
    split
    · rename_i hcond
      obtain ⟨hI, hlt⟩ := hbody s hs hcond
      exact loop_returns hbody hI (by omega)
    · exact ⟨s, rfl⟩

/-- **A loop that never ends**: the invariant keeps the condition. -/
theorem loop_stuck (hbody : ∀ s, I s → cond s = true ∧ I (body s)) :
    ∀ (fuel : Nat) {s : S}, I s → loop cond body fuel s = none
  | 0, _, _ => rfl
  | fuel + 1, s, hs => by
    unfold loop
    rw [if_pos (hbody s hs).1]
    exact loop_stuck hbody fuel (hbody s hs).2

end Loop

/-! ## Loops over lists -/

section Passes

variable {S K V : Type} [DecidableEq K] {g : S → K → S} {I : S → Prop} {m : S → K → V}
  {v : K → V}

/-- **Every round writes the value of its place**: behind the loop the places of the list have their
values, and the others are as they were. -/
theorem foldl_update (hstep : ∀ s k, I s → I (g s k) ∧
      m (g s k) = Function.update (m s) k (v k)) :
    ∀ (ks : List K) {s : S}, I s → I (ks.foldl g s) ∧
      ∀ k, m (ks.foldl g s) k = if k ∈ ks then v k else m s k
  | [], _, hs => ⟨hs, fun _ => rfl⟩
  | k :: ks, s, hs => by
    obtain ⟨hI, hm⟩ := hstep s k hs
    obtain ⟨hI', hks⟩ := foldl_update hstep ks hI
    refine ⟨hI', fun k' => ?_⟩
    rw [List.foldl_cons, hks, hm]
    by_cases hmem : k' ∈ ks
    · rw [if_pos hmem, if_pos (List.mem_cons_of_mem _ hmem)]
    · rw [if_neg hmem]
      by_cases heq : k' = k
      · rw [heq, Function.update_self, if_pos (List.mem_cons_self ..)]
      · rw [Function.update_of_ne heq, if_neg]
        simp [heq, hmem]

end Passes

/-! ## Runs of steps that may not return -/

section Runs

variable {S E : Type}

/-- Every step of the run returns. -/
def Completes (returns : S → E → S → Prop) : S → List E → Prop
  | _, [] => True
  | s, e :: es => ∃ s', returns s e s' ∧ Completes returns s' es

/-- Every step of the run meets `P` in the state it starts from, as far as the run gets. -/
def EachReturns (returns : S → E → S → Prop) (P : S → E → Prop) : S → List E → Prop
  | _, [] => True
  | s, e :: es => P s e ∧ ∀ s', returns s e s' → EachReturns returns P s' es

variable {returns : S → E → S → Prop} {P : S → E → Prop}

/-- **When a run completes**: every step meets the condition on which it returns. -/
theorem completes_iff (hunique : ∀ s e s' s'', returns s e s' → returns s e s'' → s' = s'')
    (hreturns : ∀ s e, (∃ s', returns s e s') ↔ P s e) :
    ∀ (es : List E) (s : S), Completes returns s es ↔ EachReturns returns P s es
  | [], _ => Iff.rfl
  | e :: es, s => by
    constructor
    · rintro ⟨s', hs', hes⟩
      refine ⟨(hreturns s e).mp ⟨s', hs'⟩, fun s'' hs'' => ?_⟩
      rw [hunique s e s'' s' hs'' hs']
      exact (completes_iff hunique hreturns es s').mp hes
    · rintro ⟨hP, hes⟩
      obtain ⟨s', hs'⟩ := (hreturns s e).mpr hP
      exact ⟨s', hs', (completes_iff hunique hreturns es s').mpr (hes s' hs')⟩

end Runs

end Loops
