import Mathlib.Data.List.Basic

/-!
# Chains of commuting projections

Every host that a value passes through may lose some of it.  Where what one host loses does not
depend on the hosts before it, a chain of hosts loses what each of them loses, and no host does so
a second time.

* `Projections` — idempotent maps that commute, on the values that the hosts hand on;
* `chain` — a value through a list of hosts;
* `chain_eq_iff` — a chain keeps a value exactly if each of its hosts does;
* `chain_settles` — hosts of kinds that were met before keep what comes out of a chain.
-/

set_option autoImplicit false

namespace Projections

variable {H X : Type}

/-- Each host is a projection of `S`, and any two of them commute. -/
structure Commuting (f : H → X → X) (S : X → Prop) : Prop where
  mem : ∀ h x, S x → S (f h x)
  idem : ∀ h x, S x → f h (f h x) = f h x
  comm : ∀ g h x, S x → f g (f h x) = f h (f g x)

/-- A value through a list of hosts. -/
def chain (f : H → X → X) (hs : List H) (x : X) : X := hs.foldl (fun x h => f h x) x

section Chain

variable {f : H → X → X} {S : X → Prop}

theorem chain_append (hs hs' : List H) (x : X) :
    chain f (hs ++ hs') x = chain f hs' (chain f hs x) :=
  List.foldl_append

theorem chain_mem (hf : Commuting f S) :
    ∀ (hs : List H) {x : X}, S x → S (chain f hs x)
  | [], _, hx => hx
  | h :: hs, _, hx => chain_mem hf hs (hf.mem h _ hx)

/-- A host may as well come before the chain. -/
theorem chain_comm (hf : Commuting f S) (g : H) :
    ∀ (hs : List H) {x : X}, S x → f g (chain f hs x) = chain f hs (f g x)
  | [], _, _ => rfl
  | h :: hs, x, hx => by
    have ih := chain_comm hf g hs (hf.mem h x hx)
    have hswap := hf.comm g h x hx
    calc f g (chain f (h :: hs) x) = chain f hs (f g (f h x)) := ih
      _ = chain f hs (f h (f g x)) := by rw [hswap]

/-- What comes out of a chain is kept by each of its hosts. -/
theorem chain_fixed (hf : Commuting f S) :
    ∀ (hs : List H) {x : X}, S x → ∀ h ∈ hs, f h (chain f hs x) = chain f hs x
  | [], _, _ => by simp
  | g :: hs, x, hx => by
    intro h hmem
    rcases List.mem_cons.mp hmem with rfl | hmem
    · have hcomm := chain_comm hf h hs (hf.mem h x hx)
      rw [hf.idem h x hx] at hcomm
      exact hcomm
    · exact chain_fixed hf hs (hf.mem g x hx) h hmem

theorem chain_of_fixed :
    ∀ (hs : List H) {x : X}, (∀ h ∈ hs, f h x = x) → chain f hs x = x
  | [], _, _ => rfl
  | h :: hs, x, hfix => by
    have hhead : f h x = x := hfix h List.mem_cons_self
    have htail : ∀ g ∈ hs, f g x = x := fun g hg => hfix g (List.mem_cons_of_mem h hg)
    show chain f hs (f h x) = x
    rw [hhead]
    exact chain_of_fixed hs htail

/-- **A chain keeps a value exactly if each of its hosts does.** -/
theorem chain_eq_iff (hf : Commuting f S) (hs : List H) {x : X} (hx : S x) :
    chain f hs x = x ↔ ∀ h ∈ hs, f h x = x := by
  constructor
  · intro heq h hmem
    have hfix := chain_fixed hf hs hx h hmem
    rw [heq] at hfix
    exact hfix
  · exact chain_of_fixed hs

/-- **Nothing is lost twice**: a host that acts as one of the hosts before it keeps what comes. -/
theorem chain_settles (hf : Commuting f S) (hs hs' : List H) {x : X} (hx : S x)
    (hmet : ∀ h' ∈ hs', ∃ h ∈ hs, f h' = f h) :
    chain f (hs ++ hs') x = chain f hs x := by
  rw [chain_append]
  refine chain_of_fixed hs' fun h' hmem => ?_
  obtain ⟨h, hh, heq⟩ := hmet h' hmem
  rw [heq]
  exact chain_fixed hf hs hx h hh

end Chain

end Projections
