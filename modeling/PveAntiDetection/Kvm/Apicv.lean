import Mathlib.Data.BitVec
import PveAntiDetection.Lib.Kicks

/-!
# Inhibiting APICv while the virtual CPUs run

The VM keeps the reasons that inhibit APICv, and every virtual CPU caches in `apicv_active` whether
it may use APICv.  `__kvm_set_or_clear_apicv_inhibit` kicks all virtual CPUs before it stores
reasons that switch APICv on or off, and `vcpu_enter_guest` warns if it enters a guest with a cached
value that does not fit.

* `kvmVcpuApicvActivated`, `activateApicv` — what the reasons say, and what is cached;
* `setOrClearApicvInhibit` — the reasons behind a change;
* `apicvProtocol` — the kicks, as an instance of `Kicks.Protocol`;
* `apicvStep` — the virtual CPUs and the writers of the reasons, interleaved;
* `apicv_warning_never` — the warning is never given.
-/

set_option autoImplicit false

namespace Kvm

/-! ## The reasons -/

/-- `enum lapic_mode`. -/
inductive LapicMode where
  | disabled
  | invalid
  | xapic
  | x2apic
  deriving DecidableEq

/-- What a virtual CPU has of its own: `vcpu_get_apicv_inhibit_reasons` of the vendor module, and
the mode of its APIC. -/
structure ApicOwn where
  vcpuReasons : BitVec 64 := 0
  mode : LapicMode
  deriving DecidableEq

/-- `APICV_INHIBIT_REASON_ABSENT`. -/
def apicvInhibitReasonAbsent : Nat := 2

/-- `kvm_vcpu_apicv_activated`. -/
def kvmVcpuApicvActivated (vmReasons : BitVec 64) (own : ApicOwn) : Bool :=
  vmReasons ||| own.vcpuReasons == 0

/-- `activate` of `__kvm_vcpu_update_apicv`. -/
def activateApicv (vmReasons : BitVec 64) (own : ApicOwn) : Bool :=
  kvmVcpuApicvActivated vmReasons own && own.mode != .disabled

/-- `set_or_clear_apicv_inhibit`. -/
def setOrClearApicvInhibit (inhibits : BitVec 64) (reason : Nat) (set : Bool) : BitVec 64 :=
  if set then inhibits ||| BitVec.twoPow 64 reason else inhibits &&& ~~~ BitVec.twoPow 64 reason

/-- `WARN_ON_ONCE` of `vcpu_enter_guest`. -/
def warnApicv (vmReasons : BitVec 64) (own : ApicOwn) (active : Bool) : Bool :=
  kvmVcpuApicvActivated vmReasons own != active && own.mode != .disabled

/-- `!!old != !!new` is false. -/
def apicvQuiet (old new : BitVec 64) : Bool := (old != 0) == (new != 0)

/-- Reasons that are all gone, or all there, inhibit alike. -/
theorem activateApicv_of_quiet {old new : BitVec 64} (own : ApicOwn)
    (h : apicvQuiet old new = true) : activateApicv old own = activateApicv new own := by
  have hzero : old = 0 ↔ new = 0 := by
    simp only [apicvQuiet, beq_iff_eq] at h
    by_cases ho : old = 0 <;> by_cases hn : new = 0 <;> simp_all
  have hor : ∀ r : BitVec 64, r ||| own.vcpuReasons = 0 ↔ r = 0 ∧ own.vcpuReasons = 0 :=
    fun r => BitVec.or_eq_zero_iff
  have hactivated : kvmVcpuApicvActivated old own = kvmVcpuApicvActivated new own := by
    rw [Bool.eq_iff_iff]
    simp only [kvmVcpuApicvActivated, beq_iff_eq, hor, hzero]
  rw [activateApicv, activateApicv, hactivated]

/-- A virtual CPU whose cache is current does not warn. -/
theorem warnApicv_activateApicv (vmReasons : BitVec 64) (own : ApicOwn) :
    warnApicv vmReasons own (activateApicv vmReasons own) = false := by
  unfold warnApicv activateApicv
  cases hmode : own.mode != .disabled <;> simp

/-! ## The kicks -/

/-- The kicks of `__kvm_set_or_clear_apicv_inhibit`. -/
def apicvProtocol : Kicks.Protocol (BitVec 64) ApicOwn Bool where
  want := activateApicv
  quiet := apicvQuiet
  quiet_want _ _ own h := activateApicv_of_quiet own h

variable {V : Type}

/-- `apicv_inhibit_reasons`, `apicv_update_lock`, and the virtual CPUs with their cached
`apicv_active` and `KVM_REQ_APICV_UPDATE`. -/
abbrev ApicvState (V : Type) := Kicks.State V (BitVec 64) ApicOwn Bool

/-- What `kvm_apicv_init` and `kvm_arch_vcpu_create` leave where APICv is enabled: the cached value
is set, whatever the reasons are, and a request is made. -/
def ApicvState.init (own : V → ApicOwn) : ApicvState V where
  shared := setOrClearApicvInhibit 0 apicvInhibitReasonAbsent true
  members := fun v => { own := own v, cached := true }

inductive ApicvEvent (V : Type) where
  /-- Of `vcpu_enter_guest`, `kvm_vcpu_update_apicv` and `kvm_make_all_cpus_request`. -/
  | kick (e : Kicks.Event V Empty ApicOwn)
  /-- `__kvm_set_or_clear_apicv_inhibit`, up to its kicks. -/
  | inhibit (reason : Nat) (set : Bool)

/-- An event that stores no reasons. -/
def embed : Kicks.Event V Empty ApicOwn → Kicks.Event V (BitVec 64) ApicOwn
  | .set g => nomatch g
  | .join v => .join v
  | .change v own => .change v own
  | .take v => .take v
  | .refresh v => .refresh v
  | .readLock v => .readLock v
  | .store v => .store v
  | .announce v => .announce v
  | .check v => .check v
  | .look v => .look v
  | .leave v => .leave v
  | .unmask v => .unmask v
  | .writeLock => .writeLock
  | .ask => .ask
  | .notice => .notice
  | .ack v => .ack v
  | .write => .write
  | .unlock => .unlock

variable [DecidableEq V]

/-- One event.  `required` is `required_apicv_inhibits` of the vendor module. -/
def apicvStep (required : BitVec 64) (s : ApicvState V) :
    ApicvEvent V → Option (BitVec 64 × ApicOwn × Bool) × ApicvState V
  | .kick e => Kicks.step apicvProtocol s (embed e)
  | .inhibit reason set =>
    if required.getLsbD reason then
      Kicks.step apicvProtocol s (.set (setOrClearApicvInhibit s.shared reason set))
    else (none, s)

/-- Every event is one of the protocol, or does nothing. -/
theorem apicvStep_kicks (required : BitVec 64) (s : ApicvState V) (e : ApicvEvent V) :
    (∃ e', apicvStep required s e = Kicks.step apicvProtocol s e') ∨
      apicvStep required s e = (none, s) := by
  cases e with
  | kick e => exact .inl ⟨embed e, rfl⟩
  | inhibit reason set =>
    simp only [apicvStep]
    split
    · exact .inl ⟨_, rfl⟩
    · exact .inr rfl

/-- **No guest is entered with an `apicv_active` that the reasons do not bear out**: over every
interleaving of virtual CPUs that enter, update and are created, and of threads that set and clear
reasons, the warning of `vcpu_enter_guest` is not given, and an inhibited guest runs without
APICv. -/
theorem apicv_warning_never (required : BitVec 64) (own : V → ApicOwn) (es : List (ApicvEvent V)) :
    ∀ o ∈ Runs.outputs (apicvStep required) (fun _ => true) (ApicvState.init own) es, ∀ r ∈ o,
      warnApicv r.1 r.2.1 r.2.2 = false ∧ (r.1 ≠ 0 → r.2.2 = false) := by
  have hout : ∀ o ∈ Runs.outputs (apicvStep required) (fun _ => true) (ApicvState.init own) es,
      ∀ r ∈ o, r.2.2 = activateApicv r.1 r.2.1 := by
    refine Runs.outputs_forall (I := Kicks.Inv apicvProtocol) (P := fun _ _ => True)
      (fun s e _ hs => ?_) (fun s e _ hs => ?_) es (Runs.each_of_forall (fun _ _ => trivial) es _)
      (Kicks.inv_init _ _ _)
    · rcases apicvStep_kicks required s e with ⟨e', he⟩ | he
      · rw [he]
        exact Kicks.inv_step hs e'
      · rw [he]
        exact hs
    · rcases apicvStep_kicks required s e with ⟨e', he⟩ | he
      · rw [he]
        exact Kicks.step_output hs e'
      · rw [he]
        nofun
  intro o ho r hr
  have hactive := hout o ho r hr
  rw [hactive]
  refine ⟨warnApicv_activateApicv r.1 r.2.1, fun hinhibited => ?_⟩
  have hnot : kvmVcpuApicvActivated r.1 r.2.1 = false := by
    refine Bool.eq_false_iff.mpr fun h => hinhibited ?_
    exact (BitVec.or_eq_zero_iff.mp (beq_iff_eq.mp h)).1
  rw [activateApicv, hnot, Bool.false_and]

/-- A virtual CPU is created while APICv is inhibited, and enters the guest. -/
def firstEntry : List (ApicvEvent Unit) :=
  [.kick (.join ()), .kick (.take ()), .kick (.readLock ()), .kick (.store ()),
    .kick (.announce ()), .kick (.check ()), .kick (.look ())]

theorem apicv_warning_never_first :
    ∃ r : BitVec 64 × ApicOwn × Bool,
      some r ∈ Runs.outputs (apicvStep (BitVec.allOnes 64)) (fun _ => true)
        (ApicvState.init fun _ => { mode := .xapic }) firstEntry ∧
      r.1 ≠ 0 ∧ warnApicv r.1 r.2.1 r.2.2 = false ∧ (r.1 ≠ 0 → r.2.2 = false) := by
  have hmem : some (0x4#64, { mode := .xapic }, false) ∈
      Runs.outputs (apicvStep (BitVec.allOnes 64)) (fun _ => true)
        (ApicvState.init fun _ => { mode := .xapic }) firstEntry := by
    decide
  exact ⟨_, hmem, by decide,
    apicv_warning_never (BitVec.allOnes 64) (fun _ => { mode := .xapic }) firstEntry _ hmem _ rfl⟩

end Kvm
