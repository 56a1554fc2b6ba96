import PveAntiDetection.Kvm.FakeTscRate
import PveAntiDetection.Kvm.Tsc

/-!
# One clock or two

A guest reads its counter with RDTSC, which the handlers answer from their own variables, and with
RDMSR of `IA32_TSC`, which `x86.c` answers from the offset and the ratio of the virtual CPU.

* `ClockRun`, `accessStep` — one virtual CPU, what its guest has seen of the two, and one access;
* `Agrees` — the value read is not below what the guest has seen on the other clock;
* `ClocksMeet` — the same in terms of the variables in front of the access;
* `oneClock_iff` — the two are equivalent along every run.
-/

set_option autoImplicit false

namespace Kvm

/-! ## Accesses -/

/-- An access of the guest to its counter. -/
inductive TscAccess where
  | rdtsc
  | rdmsr
  | wrmsrTsc (data : BitVec 64)
  | wrmsrTscAdjust (data : BitVec 64)
  deriving DecidableEq

/-- An access, and what the host counter reads then. -/
structure TimedAccess where
  host : BitVec 64
  access : TscAccess
  deriving DecidableEq

/-- The statics of the handler and one virtual CPU; and, for both clocks, the values that the guest
knows its counter has reached since it last wrote to it. -/
structure ClockRun where
  statics : TscStatics := {}
  vcpu : Vcpu VcpuTsc
  msrSeen : List (BitVec 64) := []
  rdtscSeen : List (BitVec 64) := []

section Steps

variable (handler : TscStatics → Vcpu VcpuTsc → BitVec 64 → TscStatics × Int × Vcpu VcpuTsc)
  (caps : TscCaps) (hasTscAdjust : Bool)

/-- One access: the value that the guest reads, if it reads one, and the next state. -/
def accessStep (s : ClockRun) (e : TimedAccess) : BitVec 64 × ClockRun :=
  match e.access with
  | .rdtsc =>
    let r := handler s.statics s.vcpu e.host
    (r.2.2.edxEax,
      { s with statics := r.1, vcpu := r.2.2, rdtscSeen := r.2.2.edxEax :: s.rdtscSeen })
  | .rdmsr =>
    let data := getMsrIa32Tsc caps s.vcpu.msrs e.host
    (data, { s with vcpu := s.vcpu.writeEdxEax data, msrSeen := data :: s.msrSeen })
  | .wrmsrTsc data =>
    (0, { s with
      vcpu := { s.vcpu with msrs := setMsrIa32Tsc caps s.vcpu.msrs e.host data }
      msrSeen := [data]
      rdtscSeen := [] })
  | .wrmsrTscAdjust data =>
    (0, { s with
      vcpu := { s.vcpu with msrs := setMsrIa32TscAdjust s.vcpu.msrs hasTscAdjust data }
      msrSeen := []
      rdtscSeen := [] })

/-- The value that the access reads is not below what the guest has seen on the other clock. -/
def Agrees (s : ClockRun) (e : TimedAccess) : Prop :=
  match e.access with
  | .rdtsc => ∀ t ∈ s.msrSeen, t ≤ (accessStep handler caps hasTscAdjust s e).1
  | .rdmsr => ∀ t ∈ s.rdtscSeen, t ≤ (accessStep handler caps hasTscAdjust s e).1
  | _ => True

/-- The fake counter, moved on by a sixteenth of what the host counter gains, reaches the values of
the MSR; and the MSR, scaled and offset, has reached the fake counter, if the guest has read it. -/
def ClocksMeet (s : ClockRun) (e : TimedAccess) : Prop :=
  match e.access with
  | .rdtsc => ∀ t ∈ s.msrSeen, t.toNat ≤
      (if s.statics.printOnce then e.host.toNat else s.statics.rdtscFake.toNat) +
        gain s.statics.rdtscPrev.toNat e.host.toNat
  | .rdmsr => s.rdtscSeen ≠ [] → s.statics.rdtscFake ≤
      kvmScaleTsc caps e.host s.vcpu.msrs.tscScalingRatio + s.vcpu.msrs.tscOffset
  | _ => True

end Steps

/-! ## What the guest has seen of the fake counter -/

/-- The fake counter is the largest value that RDTSC has returned. -/
structure ClockRun.Sound (s : ClockRun) : Prop where
  below : s.statics.Below
  le_fake : ∀ t ∈ s.rdtscSeen, t ≤ s.statics.rdtscFake
  fake_seen : s.rdtscSeen ≠ [] → s.statics.rdtscFake ∈ s.rdtscSeen

section Runs

variable (S : SkipInstruction VcpuTsc) (caps : TscCaps) (hasTscAdjust : Bool)

theorem rdtscHandler_edxEax (t : TscStatics) (v : Vcpu VcpuTsc) (host : BitVec 64) :
    (rdtscHandler S t v host).2.2.edxEax = (rdtscFakeStep t host).rdtscFake := by
  rw [rdtscHandler, S.keeps, Vcpu.edxEax_writeEdxEax]

theorem accessStep_sound (s : ClockRun) (e : TimedAccess) (hle : s.statics.rdtscPrev ≤ e.host)
    (hs : s.Sound) : (accessStep (rdtscHandler S) caps hasTscAdjust s e).2.Sound := by
  obtain ⟨host, access⟩ := e
  cases access with
  | rdtsc =>
    have hgrow : s.statics.rdtscFake ≤ (rdtscFakeStep s.statics host).rdtscFake :=
      (le_rdtscFakeStep_iff hs.below host).mpr (BitVec.le_trans hs.below.le hle)
    refine ⟨rdtscFakeStep_below s.statics host, ?_, fun _ => ?_⟩
    · show ∀ t ∈ _ :: s.rdtscSeen, t ≤ (rdtscFakeStep s.statics host).rdtscFake
      intro t ht
      rcases List.mem_cons.mp ht with rfl | ht
      · rw [rdtscHandler_edxEax]
        exact BitVec.le_refl _
      · exact BitVec.le_trans (hs.le_fake t ht) hgrow
    · show (rdtscFakeStep s.statics host).rdtscFake ∈ _ :: s.rdtscSeen
      rw [rdtscHandler_edxEax]
      exact List.mem_cons_self ..
  | rdmsr => exact ⟨hs.below, hs.le_fake, hs.fake_seen⟩
  | wrmsrTsc data =>
    exact ⟨hs.below, fun _ h => absurd h List.not_mem_nil, fun h => absurd rfl h⟩
  | wrmsrTscAdjust data =>
    exact ⟨hs.below, fun _ h => absurd h List.not_mem_nil, fun h => absurd rfl h⟩

/-- One access agrees exactly when the clocks meet. -/
theorem agrees_iff (s : ClockRun) (e : TimedAccess) (hle : s.statics.rdtscPrev ≤ e.host)
    (hs : s.Sound) :
    Agrees (rdtscHandler S) caps hasTscAdjust s e ↔ ClocksMeet caps s e := by
  obtain ⟨host, access⟩ := e
  cases access with
  | rdtsc =>
    refine forall₂_congr fun t _ => ?_
    show t ≤ (rdtscHandler S s.statics s.vcpu host).2.2.edxEax ↔ _
    rw [rdtscHandler_edxEax, BitVec.le_def, rdtscFakeStep_fake hs.below hle]
  | rdmsr =>
    show (∀ t ∈ s.rdtscSeen, t ≤ getMsrIa32Tsc caps s.vcpu.msrs host) ↔ (_ → _ ≤ _)
    constructor
    · intro hall hseen
      exact hall _ (hs.fake_seen hseen)
    · intro hmeet t ht
      exact BitVec.le_trans (hs.le_fake t ht) (hmeet (List.ne_nil_of_mem ht))
  | wrmsrTsc data => exact Iff.rfl
  | wrmsrTscAdjust data => exact Iff.rfl

/-- A host counter that does not go back is never behind the reading of the last RDTSC. -/
theorem each_host (es : List TimedAccess) {s : ClockRun}
    (hle : ∀ e ∈ es, s.statics.rdtscPrev ≤ e.host)
    (hmono : (es.map TimedAccess.host).Pairwise (· ≤ ·)) :
    Runs.Each (accessStep (rdtscHandler S) caps hasTscAdjust)
      (fun s e => s.statics.rdtscPrev ≤ e.host) s es := by
  induction es generalizing s with
  | nil => trivial
  | cons e es ih =>
    rw [List.map_cons, List.pairwise_cons] at hmono
    refine ⟨hle e (List.mem_cons_self ..), ih ?_ hmono.2⟩
    intro e' he'
    have hhost : e.host ≤ e'.host := hmono.1 _ (List.mem_map_of_mem he')
    have hkeep : s.statics.rdtscPrev ≤ e'.host := hle e' (List.mem_cons_of_mem _ he')
    obtain ⟨host, access⟩ := e
    cases access with
    | rdtsc => exact hhost
    | rdmsr => exact hkeep
    | wrmsrTsc data => exact hkeep
    | wrmsrTscAdjust data => exact hkeep

theorem rdtscHandler_oneClock_iff (vcpu : Vcpu VcpuTsc) (es : List TimedAccess)
    (hmono : (es.map TimedAccess.host).Pairwise (· ≤ ·)) :
    Runs.Each (accessStep (rdtscHandler S) caps hasTscAdjust)
        (Agrees (rdtscHandler S) caps hasTscAdjust) { vcpu := vcpu } es ↔
      Runs.Each (accessStep (rdtscHandler S) caps hasTscAdjust) (ClocksMeet caps)
        { vcpu := vcpu } es := by
  have hstart : ({ vcpu := vcpu } : ClockRun).Sound :=
    ⟨⟨BitVec.le_refl 0, fun _ => rfl⟩, fun _ h => absurd h List.not_mem_nil, fun h => absurd rfl h⟩
  have hforward := each_host S caps hasTscAdjust es (s := { vcpu := vcpu })
    (fun e _ => zero_le_bitVec e.host) hmono
  exact Runs.each_congr_each (accessStep_sound S caps hasTscAdjust)
    (agrees_iff S caps hasTscAdjust) es hforward hstart

end Runs

/-- A skip that moves RIP. -/
def skipTsc : SkipInstruction VcpuTsc where
  skip := fun v => (1, { v with rip := v.rip + v.instructionLen })
  keeps := by
    intro v
    rfl

/-- A host whose ratio is 1 with 48 fraction bits. -/
def nativeCaps : TscCaps := { tscKhz := 3000000 }

/-- A virtual CPU whose counter was set to 0 when the host counter read 1000000. -/
def bootedVcpu : Vcpu VcpuTsc where
  msrs := {
    l1TscOffset := -1000000
    tscOffset := -1000000
    l1TscScalingRatio := nativeCaps.defaultTscScalingRatio
    tscScalingRatio := nativeCaps.defaultTscScalingRatio }

end Kvm
