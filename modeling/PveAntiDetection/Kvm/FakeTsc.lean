import Mathlib.Logic.Function.Basic
import PveAntiDetection.Lib.Runs
import PveAntiDetection.Kvm.Vcpu

/-!
# The fake time-stamp counter

The RDTSC handlers of `vmx.c` and `svm.c`, which return a counter of their own.

* `rdtscAdvance`, `rdtscFakeStep` — the body the two handlers share, on their static variables;
* `handleRdtsc`, `handleRdtscInterception` — the handlers;
* `rdtscStep` — one RDTSC exit of any virtual CPU, at a reading of the host counter;
* `TscStatics.Below` — the fake counter never passes the last reading;
* `fakeTscMonotone_iff` — when the returned values never decrease.
-/

set_option autoImplicit false

namespace Kvm

/-! ## The handlers -/

/-- The static variables of a handler. -/
structure TscStatics where
  printOnce : Bool := true
  rdtscFake : BitVec 64 := 0
  rdtscPrev : BitVec 64 := 0
  deriving DecidableEq

/-- The fake counter behind the first three branches of a handler: it starts at the host reading,
and advances by a sixteenth of what the host counter gained. -/
def rdtscAdvance (t : TscStatics) (rdtscReal : BitVec 64) : BitVec 64 :=
  let fake := if t.printOnce then rdtscReal else t.rdtscFake
  if t.rdtscPrev ≠ 0 then
    if rdtscReal > t.rdtscPrev then fake + (rdtscReal - t.rdtscPrev) / 16 else fake
  else fake

/-- The arithmetic of a handler at the host reading `rdtscReal`: the last branch keeps the fake
counter from running ahead of it. -/
def rdtscFakeStep (t : TscStatics) (rdtscReal : BitVec 64) : TscStatics :=
  let fake := rdtscAdvance t rdtscReal
  ⟨false, if fake > rdtscReal then rdtscReal else fake, rdtscReal⟩

/-- `skip_emulated_instruction` of a vendor module, which leaves RAX and RDX alone. -/
structure SkipInstruction (M : Type) where
  skip : Vcpu M → Int × Vcpu M
  keeps : ∀ v, (skip v).2.edxEax = v.edxEax

variable {M ι : Type}

/-- What the two handlers do. -/
def rdtscHandler (S : SkipInstruction M) (t : TscStatics) (v : Vcpu M) (rdtscReal : BitVec 64) :
    TscStatics × Int × Vcpu M :=
  let t := rdtscFakeStep t rdtscReal
  (t, S.skip (v.writeEdxEax t.rdtscFake))

/-- `handle_rdtsc` of `vmx.c`. -/
def handleRdtsc (S : SkipInstruction M) (t : TscStatics) (v : Vcpu M) (rdtscReal : BitVec 64) :
    TscStatics × Int × Vcpu M :=
  rdtscHandler S t v rdtscReal

/-- `handle_rdtsc_interception` of `svm.c`. -/
def handleRdtscInterception (S : SkipInstruction M) (t : TscStatics) (v : Vcpu M)
    (rdtscReal : BitVec 64) : TscStatics × Int × Vcpu M :=
  rdtscHandler S t v rdtscReal

/-! ## Exits -/

/-- The virtual CPUs of all guests, and the statics of the handler. -/
structure TscHost (ι M : Type) where
  statics : TscStatics := {}
  vcpus : ι → Vcpu M

/-- An RDTSC exit: of which virtual CPU, and what the host counter reads. -/
structure RdtscExit (ι : Type) where
  vcpu : ι
  rdtscReal : BitVec 64
  deriving DecidableEq

/-- One exit: the value the guest finds in EDX:EAX, and the next state. -/
def rdtscStep [DecidableEq ι]
    (handler : TscStatics → Vcpu M → BitVec 64 → TscStatics × Int × Vcpu M)
    (s : TscHost ι M) (e : RdtscExit ι) : BitVec 64 × TscHost ι M :=
  let r := handler s.statics (s.vcpus e.vcpu) e.rdtscReal
  (r.2.2.edxEax, ⟨r.1, Function.update s.vcpus e.vcpu r.2.2⟩)

/-- The values the guests read in a run of exits. -/
def rdtscValues [DecidableEq ι]
    (handler : TscStatics → Vcpu M → BitVec 64 → TscStatics × Int × Vcpu M)
    (vcpus : ι → Vcpu M) (es : List (RdtscExit ι)) : List (BitVec 64) :=
  Runs.outputs (rdtscStep handler) (fun _ => true) ⟨{}, vcpus⟩ es

section Steps

variable [DecidableEq ι] (S : SkipInstruction M)

@[simp] theorem rdtscStep_value (s : TscHost ι M) (e : RdtscExit ι) :
    (rdtscStep (rdtscHandler S) s e).1 = (rdtscFakeStep s.statics e.rdtscReal).rdtscFake := by
  simp [rdtscStep, rdtscHandler, S.keeps]

@[simp] theorem rdtscStep_statics (s : TscHost ι M) (e : RdtscExit ι) :
    (rdtscStep (rdtscHandler S) s e).2.statics = rdtscFakeStep s.statics e.rdtscReal := rfl

end Steps

/-! ## The invariant of the statics -/

/-- The fake counter is at most the last reading, and both are 0 before the first exit. -/
structure TscStatics.Below (t : TscStatics) : Prop where
  le : t.rdtscFake ≤ t.rdtscPrev
  start : t.printOnce = true → t.rdtscPrev = 0

/-- A sixteenth of the way from the last reading to the next one does not pass the next one. -/
theorem advance_bounds {fake prev real : BitVec 64} (hfake : fake ≤ prev) (hprev : prev < real) :
    fake ≤ fake + (real - prev) / 16 ∧ fake + (real - prev) / 16 ≤ real := by
  have hsub : (real - prev).toNat = real.toNat - prev.toNat :=
    BitVec.toNat_sub_of_le (BitVec.le_of_lt hprev)
  have hdiv : ((real - prev) / 16).toNat = (real.toNat - prev.toNat) / 16 := by
    rw [BitVec.toNat_udiv, hsub]
    rfl
  have hreal := real.isLt
  rw [BitVec.le_def] at hfake
  rw [BitVec.lt_def] at hprev
  have hadd : (fake + (real - prev) / 16).toNat =
      fake.toNat + (real.toNat - prev.toNat) / 16 := by
    rw [BitVec.toNat_add, hdiv]
    exact Nat.mod_eq_of_lt (by omega)
  rw [BitVec.le_def, BitVec.le_def, hadd]
  omega

theorem rdtscFakeStep_le (t : TscStatics) (real : BitVec 64) :
    (rdtscFakeStep t real).rdtscFake ≤ real := by
  show (if rdtscAdvance t real > real then real else rdtscAdvance t real) ≤ real
  split
  · exact BitVec.le_refl real
  · rename_i h
    exact BitVec.not_lt.mp h

theorem rdtscFakeStep_below (t : TscStatics) (real : BitVec 64) :
    (rdtscFakeStep t real).Below where
  le := rdtscFakeStep_le t real
  start := by
    intro h
    cases h

theorem zero_le_bitVec (x : BitVec 64) : 0 ≤ x := by
  rw [BitVec.le_def]
  exact Nat.zero_le _

/-- In front of the clamp the fake counter only advances. -/
theorem le_rdtscAdvance {t : TscStatics} (ht : t.Below) (real : BitVec 64) :
    t.rdtscFake ≤ rdtscAdvance t real := by
  have hle := ht.le
  unfold rdtscAdvance
  cases hprint : t.printOnce with
  | true =>
    rw [ht.start hprint] at hle
    have hzero : t.rdtscFake = 0 := BitVec.le_antisymm hle (zero_le_bitVec _)
    rw [hzero]
    exact zero_le_bitVec _
  | false =>
    simp only [Bool.false_eq_true, if_false]
    split
    · split
      · rename_i hgt
        exact (advance_bounds hle hgt).1
      · exact BitVec.le_refl _
    · exact BitVec.le_refl _

/-- The handler goes below its last value exactly when the host counter does. -/
theorem le_rdtscFakeStep_iff {t : TscStatics} (ht : t.Below) (real : BitVec 64) :
    t.rdtscFake ≤ (rdtscFakeStep t real).rdtscFake ↔ t.rdtscFake ≤ real := by
  constructor
  · intro h
    exact BitVec.le_trans h (rdtscFakeStep_le t real)
  · intro hreal
    show t.rdtscFake ≤ if rdtscAdvance t real > real then real else rdtscAdvance t real
    split
    · exact hreal
    · exact le_rdtscAdvance ht real

/-! ## Time that never goes back -/

theorem rdtscValues_iff [DecidableEq ι] (S : SkipInstruction M) (vcpus : ι → Vcpu M)
    (es : List (RdtscExit ι)) :
    (rdtscValues (rdtscHandler S) vcpus es).Pairwise (· ≤ ·) ↔
      Runs.Each (rdtscStep (rdtscHandler S)) (fun s e => s.statics.rdtscFake ≤ e.rdtscReal)
        ⟨{}, vcpus⟩ es := by
  have hinv : ∀ (s : TscHost ι M) (e : RdtscExit ι), s.statics.Below →
      (rdtscStep (rdtscHandler S) s e).2.statics.Below := by
    intro s e _
    rw [rdtscStep_statics]
    exact rdtscFakeStep_below s.statics e.rdtscReal
  have hstart : ({} : TscStatics).Below := ⟨BitVec.le_refl 0, fun _ => rfl⟩
  have hlast : ∀ (s : TscHost ι M) (e : RdtscExit ι),
      (rdtscStep (rdtscHandler S) s e).2.statics.rdtscFake =
        (rdtscStep (rdtscHandler S) s e).1 := by
    intro s e
    rw [rdtscStep_value, rdtscStep_statics]
  have htrans : ∀ a b c : BitVec 64, a ≤ b → b ≤ c → a ≤ c := fun _ _ _ => BitVec.le_trans
  have hchain := Runs.outputs_pairwise_iff (rdtscStep (rdtscHandler S))
    (fun s : TscHost ι M => s.statics.rdtscFake) htrans hlast es ⟨{}, vcpus⟩
  rw [List.pairwise_cons] at hchain
  have hiff : ∀ (s : TscHost ι M) (e : RdtscExit ι), s.statics.Below →
      (s.statics.rdtscFake ≤ (rdtscStep (rdtscHandler S) s e).1 ↔
        s.statics.rdtscFake ≤ e.rdtscReal) := by
    intro s e hs
    rw [rdtscStep_value]
    exact le_rdtscFakeStep_iff hs e.rdtscReal
  rw [← Runs.each_congr hinv hiff es hstart, ← hchain, rdtscValues]
  exact ⟨fun h => ⟨fun x _ => zero_le_bitVec x, h⟩, fun h => h.2⟩

/-- **The returned values never decrease exactly when** no host reading is below the value the
handler returned last, for both handlers. -/
theorem fakeTscMonotone_iff [DecidableEq ι] (S : SkipInstruction M) (vcpus : ι → Vcpu M)
    (es : List (RdtscExit ι)) :
    ((rdtscValues (handleRdtsc S) vcpus es).Pairwise (· ≤ ·) ↔
      Runs.Each (rdtscStep (handleRdtsc S)) (fun s e => s.statics.rdtscFake ≤ e.rdtscReal)
        ⟨{}, vcpus⟩ es) ∧
    ((rdtscValues (handleRdtscInterception S) vcpus es).Pairwise (· ≤ ·) ↔
      Runs.Each (rdtscStep (handleRdtscInterception S))
        (fun s e => s.statics.rdtscFake ≤ e.rdtscReal) ⟨{}, vcpus⟩ es) :=
  ⟨rdtscValues_iff S vcpus es, rdtscValues_iff S vcpus es⟩

/-- A skip that moves RIP. -/
def skipRip : SkipInstruction Unit where
  skip := fun v => (1, { v with rip := v.rip + v.instructionLen })
  keeps := by
    intro v
    rfl

/-- The host counter steps back from 100 to 50 between two exits of one virtual CPU. -/
theorem fakeTscStepsBack :
    ¬ (rdtscValues (handleRdtsc skipRip) (fun _ : Unit => { msrs := () })
      [⟨(), 100⟩, ⟨(), 50⟩]).Pairwise (· ≤ ·) := by
  decide

end Kvm
