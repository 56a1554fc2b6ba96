import Mathlib.Logic.Function.Basic
import Mathlib.Algebra.Order.Group.Nat
import Mathlib.Data.Fintype.Basic
import PveAntiDetection.Lib.Runs
import PveAntiDetection.Kvm.TscMatching

/-!
# The counters of the guests across suspends of the host

A host that is suspended may come up with a smaller counter.  `kvm_arch_hardware_enable` notes the
step backwards with every virtual CPU, and `kvm_arch_vcpu_load` adds it to the offset later on.

* `SuspendVcpu`, `SuspendHost` — the virtual CPUs of all VMs, and the counter of the host;
* `kvmArchHardwareEnable`, `kvmArchVcpuLoad`, `kvmArchVcpuPut` — the three writers;
* `floor` — a value that the counter of a virtual CPU does not go below again;
* `settledOffset` — the offset that a virtual CPU will have once it is loaded;
* `suspendSurvived` — both are kept as long as no pending adjustment is rounded.
-/

set_option autoImplicit false

namespace Kvm

/-! ## The state -/

/-- The part of `struct kvm_vcpu_arch` about suspends.  The counters are not bounded by 64 bits. -/
structure SuspendVcpu (m : Nat) where
  vm : Fin m
  l1TscOffset : Int := 0
  l1TscScalingRatio : BitVec 64
  tscOffsetAdjustment : Nat := 0
  lastHostTsc : Nat := 0
  lastGuestTsc : Int := 0
  tscCatchup : Bool := false
  /-- `vcpu->cpu`; `none` is −1. -/
  cpu : Option Nat := none
  loaded : Bool := false
  /-- `KVM_REQ_CLOCK_UPDATE`, `KVM_REQ_GLOBAL_CLOCK_UPDATE`, `KVM_REQ_MASTERCLOCK_UPDATE`. -/
  clockUpdate : Bool := false
  globalClockUpdate : Bool := false
  masterclockUpdate : Bool := false

/-- The counter of the host, `kvm_check_tsc_unstable`, the VMs and their virtual CPUs. -/
structure SuspendHost (m n : Nat) where
  tsc : Nat
  tscUnstable : Bool := false
  vms : Fin m → KvmTsc := fun _ => {}
  vcpus : Fin n → SuspendVcpu m

variable {m n : Nat}

section Functions

variable (caps : TscCaps)

/-- `kvm_read_l1_tsc`. -/
def SuspendVcpu.readL1Tsc (v : SuspendVcpu m) (hostTsc : Nat) : Int :=
  v.l1TscOffset + scaleCycles caps v.l1TscScalingRatio hostTsc

/-- `adjust_tsc_offset_host`. -/
def adjustTscOffsetHost (v : SuspendVcpu m) (adjustment : Nat) : SuspendVcpu m :=
  { v with l1TscOffset := v.l1TscOffset + scaleCycles caps v.l1TscScalingRatio adjustment }

/-- `kvm_arch_vcpu_load`: the adjustments of suspends. -/
def applyTscAdjustment (v : SuspendVcpu m) : SuspendVcpu m :=
  if v.tscOffsetAdjustment ≠ 0 then
    { adjustTscOffsetHost caps v v.tscOffsetAdjustment with
      tscOffsetAdjustment := 0
      clockUpdate := true }
  else v

/-- `kvm_arch_vcpu_load`: the offset behind a counter that is not stable. -/
def catchUpTsc (v : SuspendVcpu m) (rdtsc : Nat) : SuspendVcpu m :=
  { v with
    l1TscOffset := v.lastGuestTsc - scaleCycles caps v.l1TscScalingRatio rdtsc
    tscCatchup := true }

/-- `kvm_arch_vcpu_load`: the block for another `cpu` or a counter that is not stable. -/
def moveVcpu (s : SuspendHost m n) (v : SuspendVcpu m) (cpu : Nat) : Bool × SuspendVcpu m :=
  let backwards := v.lastHostTsc ≠ 0 ∧ s.tsc < v.lastHostTsc
  let tscUnstable := s.tscUnstable || decide backwards
  let v := if tscUnstable then catchUpTsc caps v s.tsc else v
  let v :=
    if ¬ (s.vms v.vm).useMasterClock ∨ v.cpu = none then { v with globalClockUpdate := true }
    else v
  (tscUnstable, { v with cpu := some cpu })

/-- `kvm_arch_vcpu_load` of a virtual CPU on `cpu`. -/
def kvmArchVcpuLoad (s : SuspendHost m n) (i : Fin n) (cpu : Nat) : SuspendHost m n :=
  let v := applyTscAdjustment caps (s.vcpus i)
  let moved :=
    if v.cpu ≠ some cpu ∨ s.tscUnstable then moveVcpu caps s v cpu else (s.tscUnstable, v)
  { s with
    tscUnstable := moved.1
    vcpus := Function.update s.vcpus i { moved.2 with loaded := true } }

/-- `kvm_arch_vcpu_put`. -/
def kvmArchVcpuPut (s : SuspendHost m n) (i : Fin n) : SuspendHost m n :=
  let v := s.vcpus i
  { s with vcpus := Function.update s.vcpus i { v with lastHostTsc := s.tsc, loaded := false } }

/-- `kvm_arch_hardware_enable`: the first loop over one virtual CPU, with `backwards_tsc` and
`max_tsc`. -/
def observeLastHostTsc (localTsc : Nat) (seen : Bool × Nat) (v : SuspendVcpu m) : Bool × Nat :=
  if localTsc < v.lastHostTsc then (true, max seen.2 v.lastHostTsc) else seen

/-- `kvm_arch_hardware_enable`: the first loop over all of them. -/
def observeAll (s : SuspendHost m n) (localTsc : Nat) : Bool × Nat :=
  ((List.finRange n).map s.vcpus).foldl (observeLastHostTsc localTsc) (false, 0)

/-- `delta_cyc`, or 0 for a counter that has not gone backwards. -/
def deltaCyc (s : SuspendHost m n) (localTsc : Nat) : Nat := (observeAll s localTsc).2 - localTsc

/-- `kvm_arch_hardware_enable` on `cpu`; `ret` is what the checks of the CPU and the vendor's
`hardware_enable` return. -/
def kvmArchHardwareEnable (s : SuspendHost m n) (cpu : Nat) (ret : Int) : Int × SuspendHost m n :=
  if ret ≠ 0 then (ret, s)
  else if s.tscUnstable then
    (0, { s with vcpus := fun i =>
      let v := s.vcpus i
      if v.cpu = some cpu then { v with clockUpdate := true } else v })
  else if (observeAll s s.tsc).1 then
    (0, { s with
      vms := fun k =>
        { s.vms k with backwardsTscObserved := true, lastTscNsec := 0, lastTscWrite := 0 }
      vcpus := fun i =>
        let v := s.vcpus i
        { v with
          tscOffsetAdjustment := v.tscOffsetAdjustment + deltaCyc s s.tsc
          lastHostTsc := s.tsc
          masterclockUpdate := true } })
  else (0, s)

/-- `vcpu_enter_guest`: the counter as the virtual CPU reads it. -/
def vcpuReadTsc (s : SuspendHost m n) (i : Fin n) : SuspendHost m n :=
  let v := s.vcpus i
  { s with vcpus := Function.update s.vcpus i { v with lastGuestTsc := v.readL1Tsc caps s.tsc } }

end Functions

/-! ## Runs -/

/-- What happens on the host. -/
inductive SuspendEvent (n : Nat) where
  | tick (cycles : Nat)
  | load (i : Fin n) (cpu : Nat)
  | put (i : Fin n)
  | read (i : Fin n)
  /-- A suspend: the first CPU to come up enables the hardware with this counter. -/
  | suspend (cpu localTsc : Nat)
  /-- Another CPU comes up, or fails to. -/
  | enable (cpu : Nat) (ret : Int)
  deriving DecidableEq

section Runs

variable (caps : TscCaps)

/-- One event. -/
def suspendStep (s : SuspendHost m n) : SuspendEvent n → Unit × SuspendHost m n
  | .tick cycles => ((), { s with tsc := s.tsc + cycles })
  | .load i cpu => ((), kvmArchVcpuLoad caps s i cpu)
  | .put i => ((), kvmArchVcpuPut s i)
  | .read i => ((), vcpuReadTsc caps s i)
  | .suspend cpu localTsc => ((), (kvmArchHardwareEnable { s with tsc := localTsc } cpu 0).2)
  | .enable cpu ret => ((), (kvmArchHardwareEnable s cpu ret).2)

/-- The events that the callers allow: a virtual CPU is loaded, runs and is put, and none is loaded
while the host is suspended. -/
def SuspendPossible (s : SuspendHost m n) : SuspendEvent n → Prop
  | .load i _ => (s.vcpus i).loaded = false
  | .put i => (s.vcpus i).loaded = true
  | .read i => (s.vcpus i).loaded = true
  | .suspend _ _ => ∀ i, (s.vcpus i).loaded = false
  | _ => True

instance (s : SuspendHost m n) (e : SuspendEvent n) : Decidable (SuspendPossible s e) := by
  cases e <;> simp only [SuspendPossible] <;> infer_instance

/-- What a virtual CPU reads in an event. -/
def readOf (i : Fin n) (s : SuspendHost m n) (e : SuspendEvent n) : List Int :=
  if e = .read i then [(s.vcpus i).readL1Tsc caps s.tsc] else []

/-- Whether an event leaves a virtual CPU loaded since the last suspend. -/
def loadOrSuspend (i : Fin n) : SuspendEvent n → Option Bool
  | .load j _ => if j = i then some true else none
  | .suspend _ _ => some false
  | _ => none

/-- A virtual CPU has been loaded, and behind the last suspend. -/
def LoadedSince (i : Fin n) (es : List (SuspendEvent n)) : Prop :=
  Runs.last (loadOrSuspend i) es = some true

/-- **What suspends should not change**: no virtual CPU reads a smaller value than before, and two
of one VM with the same offset and ratio have the same offset once they are loaded again. -/
structure SurvivesSuspend (s : SuspendHost m n) (es : List (SuspendEvent n)) : Prop where
  monotone : ∀ i, (Runs.history (suspendStep caps) (readOf caps i) s es).Pairwise (· ≤ ·)
  together : ∀ i j, (s.vcpus i).vm = (s.vcpus j).vm →
    (s.vcpus i).l1TscOffset = (s.vcpus j).l1TscOffset →
    (s.vcpus i).l1TscScalingRatio = (s.vcpus j).l1TscScalingRatio →
    LoadedSince i es → LoadedSince j es →
    ((Runs.final (suspendStep caps) s es).vcpus i).l1TscOffset =
      ((Runs.final (suspendStep caps) s es).vcpus j).l1TscOffset

/-- A stable counter; it is not behind what has been seen of it. -/
structure SteadyHost (s : SuspendHost m n) : Prop where
  stable : s.tscUnstable = false
  last_le : ∀ i, (s.vcpus i).lastHostTsc ≤ s.tsc

/-- A stable counter and nothing pending. -/
structure BeforeSuspend (s : SuspendHost m n) : Prop extends SteadyHost s where
  nothing_pending : ∀ i, (s.vcpus i).tscOffsetAdjustment = 0

/-- **No adjustment is rounded**: a suspend adds to what is pending as many guest cycles as it adds
to nothing, and a load does not lose a cycle against the last put. -/
def ScalesExactly (s : SuspendHost m n) : SuspendEvent n → Prop
  | .load i _ =>
    let v := s.vcpus i
    scaleCycles caps v.l1TscScalingRatio (v.lastHostTsc + v.tscOffsetAdjustment) ≤
      scaleCycles caps v.l1TscScalingRatio s.tsc +
        scaleCycles caps v.l1TscScalingRatio v.tscOffsetAdjustment
  | .suspend _ localTsc => ∀ i,
    let v := s.vcpus i
    scaleCycles caps v.l1TscScalingRatio (v.tscOffsetAdjustment + deltaCyc s localTsc) =
      scaleCycles caps v.l1TscScalingRatio v.tscOffsetAdjustment +
        scaleCycles caps v.l1TscScalingRatio (deltaCyc s localTsc)
  | _ => True

instance (s : SuspendHost m n) (e : SuspendEvent n) : Decidable (ScalesExactly caps s e) := by
  cases e <;> simp only [ScalesExactly] <;> infer_instance

end Runs

/-! ## Scaled cycles -/

section Scaling

variable {caps : TscCaps} {ratio : BitVec 64}

/-- A ratio without a fraction. -/
def WholeRatio (caps : TscCaps) (ratio : BitVec 64) : Prop :=
  ratio = caps.defaultTscScalingRatio ∨ 2 ^ caps.tscScalingRatioFracBits ∣ ratio.toNat

theorem scaleCycles_add (h : WholeRatio caps ratio) (a b : Nat) :
    scaleCycles caps ratio (a + b) = scaleCycles caps ratio a + scaleCycles caps ratio b := by
  unfold scaleCycles
  split
  · rename_i hne
    obtain ⟨k, hk⟩ := h.resolve_left hne
    have hquot : ∀ c, c * ratio.toNat / 2 ^ caps.tscScalingRatioFracBits = c * k := fun c => by
      rw [hk, Nat.mul_left_comm, Nat.mul_div_cancel_left _ (Nat.two_pow_pos _)]
    rw [hquot, hquot, hquot, Nat.add_mul]
  · rfl

/-- The counter that is read is, in 64 bits, that of the code, -/
theorem kvmReadL1Tsc_ofInt {v : SuspendVcpu m} {w : VcpuTsc} {tsc : Nat} (htsc : tsc < 2 ^ 64)
    (hoffset : w.l1TscOffset = BitVec.ofInt 64 v.l1TscOffset)
    (hratio : w.l1TscScalingRatio = v.l1TscScalingRatio) :
    kvmReadL1Tsc caps w (BitVec.ofNat 64 tsc) = BitVec.ofInt 64 (v.readL1Tsc caps tsc) := by
  rw [kvmReadL1Tsc, hratio, kvmScaleTsc_ofNat htsc, hoffset, SuspendVcpu.readL1Tsc,
    BitVec.ofInt_add, BitVec.ofInt_natCast]

/-- and so is the offset behind an adjustment. -/
theorem adjustTscOffsetHost_ofInt {v : SuspendVcpu m} {w : VcpuTsc} {adjustment : Nat}
    (hlt : adjustment < 2 ^ 64) (hoffset : w.l1TscOffset = BitVec.ofInt 64 v.l1TscOffset)
    (hratio : w.l1TscScalingRatio = v.l1TscScalingRatio) :
    (adjustTscOffsetGuest w
        (kvmScaleTsc caps (BitVec.ofNat 64 adjustment) w.l1TscScalingRatio)).l1TscOffset =
      BitVec.ofInt 64 (adjustTscOffsetHost caps v adjustment).l1TscOffset := by
  rw [hratio, kvmScaleTsc_ofNat hlt]
  simp only [adjustTscOffsetGuest, kvmVcpuWriteTscOffset, adjustTscOffsetHost, hoffset]
  rw [BitVec.ofInt_add, BitVec.ofInt_natCast]

end Scaling

/-! ## The first loop of `kvm_arch_hardware_enable` -/

section Observing

variable {s : SuspendHost m n} {localTsc : Nat}

theorem observeLastHostTsc_foldl (localTsc : Nat) (vs : List (SuspendVcpu m))
    (seen : Bool × Nat) :
    let seen' := vs.foldl (observeLastHostTsc localTsc) seen
    seen.2 ≤ seen'.2 ∧ (seen.1 = true → seen'.1 = true) ∧
      (∀ v ∈ vs, localTsc < v.lastHostTsc → seen'.1 = true ∧ v.lastHostTsc ≤ seen'.2) ∧
      ((∀ v ∈ vs, v.lastHostTsc ≤ localTsc) → seen' = seen) := by
  induction vs generalizing seen with
  | nil => simp
  | cons v vs ih =>
    have hrest := ih (observeLastHostTsc localTsc seen v)
    dsimp only at hrest ⊢
    rw [List.foldl_cons]
    obtain ⟨hle, hkeep, hseen, hnone⟩ := hrest
    by_cases hv : localTsc < v.lastHostTsc
    · have hstep : observeLastHostTsc localTsc seen v = (true, max seen.2 v.lastHostTsc) :=
        if_pos hv
      rw [hstep] at hle hkeep hseen hnone ⊢
      refine ⟨le_trans (Nat.le_max_left ..) hle, fun _ => hkeep rfl, ?_, fun h => ?_⟩
      · intro w hw hlt
        rcases List.mem_cons.mp hw with rfl | hw
        · exact ⟨hkeep rfl, le_trans (Nat.le_max_right ..) hle⟩
        · exact hseen w hw hlt
      · exact absurd hv (Nat.not_lt.mpr (h v (List.mem_cons_self ..)))
    · have hstep : observeLastHostTsc localTsc seen v = seen := if_neg hv
      rw [hstep] at hle hkeep hseen hnone ⊢
      refine ⟨hle, hkeep, ?_, fun h => hnone fun w hw => h w (List.mem_cons_of_mem _ hw)⟩
      intro w hw hlt
      rcases List.mem_cons.mp hw with rfl | hw
      · exact absurd hlt hv
      · exact hseen w hw hlt

/-- The loop over all virtual CPUs. -/
theorem observeAll_spec (s : SuspendHost m n) (localTsc : Nat) :
    (∀ i, localTsc < (s.vcpus i).lastHostTsc →
      (observeAll s localTsc).1 = true ∧
        (s.vcpus i).lastHostTsc ≤ (observeAll s localTsc).2) ∧
      ((∀ i, (s.vcpus i).lastHostTsc ≤ localTsc) → observeAll s localTsc = (false, 0)) := by
  obtain ⟨-, -, hseen, hnone⟩ :=
    observeLastHostTsc_foldl localTsc ((List.finRange n).map s.vcpus) (false, 0)
  refine ⟨fun i => hseen _ (List.mem_map_of_mem (List.mem_finRange i)), fun hle => ?_⟩
  refine hnone fun v hv => ?_
  obtain ⟨i, -, rfl⟩ := List.mem_map.mp hv
  exact hle i

/-- The step backwards makes up for the counter of every virtual CPU. -/
theorem lastHostTsc_le_deltaCyc (i : Fin n) :
    (s.vcpus i).lastHostTsc ≤ localTsc + deltaCyc s localTsc := by
  unfold deltaCyc
  by_cases hlt : localTsc < (s.vcpus i).lastHostTsc
  · have hle := ((observeAll_spec s localTsc).1 i hlt).2
    omega
  · omega

/-- No step backwards is seen exactly if there is none. -/
theorem observeAll_eq_false : (observeAll s localTsc).1 = false ↔
    ∀ i, (s.vcpus i).lastHostTsc ≤ localTsc := by
  constructor
  · intro hfalse i
    by_contra hlt
    have htrue := ((observeAll_spec s localTsc).1 i (Nat.not_le.mp hlt)).1
    exact Bool.false_ne_true (hfalse.symm.trans htrue)
  · intro hle
    rw [(observeAll_spec s localTsc).2 hle]

end Observing

/-! ## What the three writers do on a stable counter -/

section Writers

variable {caps : TscCaps} {s : SuspendHost m n}

theorem applyTscAdjustment_eq (v : SuspendVcpu m) :
    (applyTscAdjustment caps v).l1TscOffset =
        v.l1TscOffset + scaleCycles caps v.l1TscScalingRatio v.tscOffsetAdjustment ∧
      (applyTscAdjustment caps v).tscOffsetAdjustment = 0 ∧
      (applyTscAdjustment caps v).l1TscScalingRatio = v.l1TscScalingRatio ∧
      (applyTscAdjustment caps v).lastHostTsc = v.lastHostTsc := by
  unfold applyTscAdjustment
  split
  · exact ⟨rfl, rfl, rfl, rfl⟩
  · rename_i h
    have hzero : v.tscOffsetAdjustment = 0 := Decidable.not_not.mp h
    refine ⟨?_, hzero, rfl, rfl⟩
    rw [hzero, scaleCycles_zero]
    exact (Int.add_zero _).symm

theorem moveVcpu_stable (hstable : s.tscUnstable = false) {v : SuspendVcpu m}
    (hle : v.lastHostTsc ≤ s.tsc) (cpu : Nat) :
    (moveVcpu caps s v cpu).1 = false ∧
      (moveVcpu caps s v cpu).2.l1TscOffset = v.l1TscOffset ∧
      (moveVcpu caps s v cpu).2.tscOffsetAdjustment = v.tscOffsetAdjustment ∧
      (moveVcpu caps s v cpu).2.l1TscScalingRatio = v.l1TscScalingRatio ∧
      (moveVcpu caps s v cpu).2.lastHostTsc = v.lastHostTsc := by
  have hnot : ¬ (v.lastHostTsc ≠ 0 ∧ s.tsc < v.lastHostTsc) := fun h => Nat.not_lt.mpr hle h.2
  unfold moveVcpu
  simp only [hstable, decide_eq_false hnot, Bool.or_false, Bool.false_eq_true, if_false, true_and]
  split <;> exact ⟨rfl, rfl, rfl, rfl⟩

/-- The virtual CPU behind a load. -/
structure LoadsVcpu (caps : TscCaps) (v v' : SuspendVcpu m) : Prop where
  offset : v'.l1TscOffset =
    v.l1TscOffset + scaleCycles caps v.l1TscScalingRatio v.tscOffsetAdjustment
  adjustment : v'.tscOffsetAdjustment = 0
  ratio : v'.l1TscScalingRatio = v.l1TscScalingRatio
  last : v'.lastHostTsc = v.lastHostTsc
  loaded : v'.loaded = true

variable (caps) in
/-- On a stable counter a load applies the adjustment, and finds no step backwards. -/
theorem kvmArchVcpuLoad_steady (hs : SteadyHost s) (i : Fin n) (cpu : Nat) :
    ∃ v', LoadsVcpu caps (s.vcpus i) v' ∧
      kvmArchVcpuLoad caps s i cpu = { s with vcpus := Function.update s.vcpus i v' } := by
  obtain ⟨hoffset, hadjustment, hratio, hlast⟩ := applyTscAdjustment_eq (s.vcpus i)
  unfold kvmArchVcpuLoad
  dsimp only
  split
  · have hle := hlast.trans_le (hs.last_le i)
    obtain ⟨hunstable, hoffset', hadjustment', hratio', hlast'⟩ :=
      moveVcpu_stable hs.stable hle cpu
    rw [hunstable, ← hs.stable]
    exact ⟨{ (moveVcpu caps s (applyTscAdjustment caps (s.vcpus i)) cpu).2 with loaded := true },
      ⟨hoffset'.trans hoffset, hadjustment'.trans hadjustment, hratio'.trans hratio,
        hlast'.trans hlast, rfl⟩, rfl⟩
  · exact ⟨{ applyTscAdjustment caps (s.vcpus i) with loaded := true },
      ⟨hoffset, hadjustment, hratio, hlast, rfl⟩, rfl⟩

/-- The virtual CPUs behind the first CPU that comes up. -/
structure ResumesVcpu (tsc delta : Nat) (v v' : SuspendVcpu m) : Prop where
  offset : v'.l1TscOffset = v.l1TscOffset
  ratio : v'.l1TscScalingRatio = v.l1TscScalingRatio
  adjustment : v'.tscOffsetAdjustment = v.tscOffsetAdjustment + delta
  last_le : v'.lastHostTsc ≤ tsc
  reaches : v.lastHostTsc ≤ v'.lastHostTsc + delta
  loaded : v'.loaded = v.loaded

/-- On a stable counter every virtual CPU gets the same adjustment. -/
theorem kvmArchHardwareEnable_stable (hstable : s.tscUnstable = false) (cpu : Nat) :
    (kvmArchHardwareEnable s cpu 0).2.tsc = s.tsc ∧
      (kvmArchHardwareEnable s cpu 0).2.tscUnstable = false ∧
      ∀ i, ResumesVcpu s.tsc (deltaCyc s s.tsc) (s.vcpus i)
        ((kvmArchHardwareEnable s cpu 0).2.vcpus i) := by
  unfold kvmArchHardwareEnable
  simp only [ne_eq, not_true_eq_false, if_false, hstable, Bool.false_eq_true]
  split
  · exact ⟨rfl, rfl, fun i =>
      ⟨rfl, rfl, rfl, Nat.le_refl _, lastHostTsc_le_deltaCyc i, rfl⟩⟩
  · rename_i hbackwards
    rw [Bool.not_eq_true] at hbackwards
    have hle := observeAll_eq_false.mp hbackwards
    have hdelta : deltaCyc s s.tsc = 0 := by
      rw [deltaCyc, (observeAll_spec s s.tsc).2 hle]
      exact Nat.zero_sub _
    refine ⟨rfl, hstable, fun i => ⟨rfl, rfl, ?_, hle i, Nat.le_add_right _ _, rfl⟩⟩
    rw [hdelta, Nat.add_zero]

/-- The CPUs that come up behind the first one change nothing. -/
theorem kvmArchHardwareEnable_steady (hs : SteadyHost s) (cpu : Nat) (ret : Int) :
    (kvmArchHardwareEnable s cpu ret).2 = s := by
  unfold kvmArchHardwareEnable
  split
  · rfl
  · simp only [hs.stable, observeAll_eq_false.mpr hs.last_le, Bool.false_eq_true, if_false]

end Writers

/-! ## One event -/

section Step

variable {caps : TscCaps} {s : SuspendHost m n} {e : SuspendEvent n}

theorem SteadyHost.update (hs : SteadyHost s) {i : Fin n} {v : SuspendVcpu m}
    (hv : v.lastHostTsc ≤ s.tsc) :
    SteadyHost { s with vcpus := Function.update s.vcpus i v } := by
  refine ⟨hs.stable, fun j => ?_⟩
  by_cases hj : j = i
  · subst hj
    simp only [Function.update_self]
    exact hv
  · simp only [Function.update_of_ne hj]
    exact hs.last_le j

/-- The counter stays stable, and is never behind what has been seen of it. -/
theorem suspendStep_steady (hs : SteadyHost s) : SteadyHost (suspendStep caps s e).2 := by
  cases e with
  | tick cycles => exact ⟨hs.stable, fun i => Nat.le_add_right_of_le (hs.last_le i)⟩
  | load i cpu =>
    obtain ⟨v', hv', heq⟩ := kvmArchVcpuLoad_steady caps hs i cpu
    rw [suspendStep, heq]
    exact hs.update (hv'.last.trans_le (hs.last_le i))
  | put i => exact hs.update (Nat.le_refl s.tsc)
  | read i => exact hs.update (hs.last_le i)
  | suspend cpu localTsc =>
    obtain ⟨htsc, hstable, hvcpus⟩ :=
      kvmArchHardwareEnable_stable (s := { s with tsc := localTsc }) hs.stable cpu
    refine ⟨hstable, fun i => ?_⟩
    rw [suspendStep, htsc]
    exact (hvcpus i).last_le
  | enable cpu ret =>
    rw [suspendStep, kvmArchHardwareEnable_steady hs]
    exact hs

/-! ### The floor of a virtual CPU -/

variable (caps s) in
/-- The counter of a virtual CPU does not go below this value again. -/
def tscFloor (i : Fin n) : Int :=
  let v := s.vcpus i
  if v.loaded then v.readL1Tsc caps s.tsc
  else v.readL1Tsc caps (v.lastHostTsc + v.tscOffsetAdjustment)

theorem readL1Tsc_le {v : SuspendVcpu m} {a b : Nat} (h : a ≤ b) :
    v.readL1Tsc caps a ≤ v.readL1Tsc caps b :=
  Int.add_le_add_left (Int.ofNat_le.mpr (scaleCycles_le h)) _

theorem tscFloor_update {i j : Fin n} {v : SuspendVcpu m}
    (hij : i = j → tscFloor caps s i ≤
      if v.loaded then v.readL1Tsc caps s.tsc
      else v.readL1Tsc caps (v.lastHostTsc + v.tscOffsetAdjustment)) :
    tscFloor caps s i ≤ tscFloor caps { s with vcpus := Function.update s.vcpus j v } i := by
  by_cases h : i = j
  · subst h
    simpa [tscFloor] using hij rfl
  · simp [tscFloor, Function.update_of_ne h]

/-- **No event lowers the floor** of a virtual CPU, if its adjustment is not rounded. -/
theorem tscFloor_le_step (hs : SteadyHost s) (hposs : SuspendPossible s e)
    (hexact : ScalesExactly caps s e) (i : Fin n) :
    tscFloor caps s i ≤ tscFloor caps (suspendStep caps s e).2 i := by
  cases e with
  | tick cycles =>
    cases hloaded : (s.vcpus i).loaded with
    | true =>
      simp only [tscFloor, suspendStep, hloaded, if_true]
      exact readL1Tsc_le (Nat.le_add_right _ _)
    | false => simp [tscFloor, suspendStep, hloaded]
  | load j cpu =>
    obtain ⟨v', hv', heq⟩ := kvmArchVcpuLoad_steady caps hs j cpu
    rw [suspendStep, heq]
    refine tscFloor_update fun hij => ?_
    subst hij
    have hput : (s.vcpus i).loaded = false := hposs
    rw [if_pos hv'.loaded, tscFloor, hput]
    simp only [Bool.false_eq_true, if_false, SuspendVcpu.readL1Tsc, hv'.offset, hv'.ratio]
    have hle := Int.ofNat_le.mpr hexact
    push_cast at hle ⊢
    omega
  | put j =>
    refine tscFloor_update fun hij => ?_
    subst hij
    have hloaded : (s.vcpus i).loaded = true := hposs
    rw [if_neg Bool.false_ne_true, tscFloor, hloaded]
    exact readL1Tsc_le (v := s.vcpus i) (Nat.le_add_right _ _)
  | read j =>
    refine tscFloor_update fun hij => ?_
    subst hij
    exact Int.le_refl _
  | suspend cpu localTsc =>
    obtain ⟨htsc, -, hvcpus⟩ :=
      kvmArchHardwareEnable_stable (s := { s with tsc := localTsc }) hs.stable cpu
    have hv := hvcpus i
    have hput : (s.vcpus i).loaded = false := hposs i
    simp only [tscFloor, suspendStep, hv.loaded, hput, Bool.false_eq_true, if_false,
      SuspendVcpu.readL1Tsc, hv.offset, hv.ratio, hv.adjustment]
    refine Int.add_le_add_left (Int.ofNat_le.mpr (scaleCycles_le ?_)) _
    have hreach := hv.reaches
    simp only at hreach
    omega
  | enable cpu ret =>
    rw [suspendStep, kvmArchHardwareEnable_steady hs]

/-! ### The offset behind the next load -/

variable (caps s) in
/-- The offset that a virtual CPU will have once it is loaded. -/
def settledOffset (i : Fin n) : Int :=
  let v := s.vcpus i
  v.readL1Tsc caps v.tscOffsetAdjustment

variable (caps s) in
/-- Two virtual CPUs that will have the same offset, and count at the same rate. -/
structure SettlesTogether (i j : Fin n) : Prop where
  ratio : (s.vcpus i).l1TscScalingRatio = (s.vcpus j).l1TscScalingRatio
  settled : settledOffset caps s i = settledOffset caps s j

theorem settlesTogether_of_eq {s' : SuspendHost m n} {i j : Fin n}
    (heq : ∀ k, (s'.vcpus k).l1TscScalingRatio = (s.vcpus k).l1TscScalingRatio ∧
      settledOffset caps s' k = settledOffset caps s k) (h : SettlesTogether caps s i j) :
    SettlesTogether caps s' i j :=
  ⟨by rw [(heq i).1, (heq j).1, h.ratio], by rw [(heq i).2, (heq j).2, h.settled]⟩

theorem ratio_update {j : Fin n} {v : SuspendVcpu m}
    (hratio : v.l1TscScalingRatio = (s.vcpus j).l1TscScalingRatio) (k : Fin n) :
    (Function.update s.vcpus j v k).l1TscScalingRatio = (s.vcpus k).l1TscScalingRatio := by
  by_cases h : k = j
  · subst h
    rw [Function.update_self, hratio]
  · rw [Function.update_of_ne h]

theorem settledOffset_update {j : Fin n} {v : SuspendVcpu m}
    (hratio : v.l1TscScalingRatio = (s.vcpus j).l1TscScalingRatio)
    (hsettled : v.readL1Tsc caps v.tscOffsetAdjustment = settledOffset caps s j) (k : Fin n) :
    (Function.update s.vcpus j v k).l1TscScalingRatio = (s.vcpus k).l1TscScalingRatio ∧
      settledOffset caps { s with vcpus := Function.update s.vcpus j v } k =
        settledOffset caps s k := by
  refine ⟨ratio_update hratio k, ?_⟩
  by_cases h : k = j
  · subst h
    simpa [settledOffset] using hsettled
  · simp [settledOffset, Function.update_of_ne h]

/-- **Every event keeps two virtual CPUs in step**, if no adjustment is rounded. -/
theorem settlesTogether_step (hs : SteadyHost s) (hexact : ScalesExactly caps s e) {i j : Fin n}
    (h : SettlesTogether caps s i j) : SettlesTogether caps (suspendStep caps s e).2 i j := by
  cases e with
  | tick cycles => exact ⟨h.ratio, h.settled⟩
  | load k cpu =>
    obtain ⟨v', hv', heq⟩ := kvmArchVcpuLoad_steady caps hs k cpu
    rw [suspendStep, heq]
    refine settlesTogether_of_eq (settledOffset_update hv'.ratio ?_) h
    simp [settledOffset, SuspendVcpu.readL1Tsc, hv'.offset, hv'.adjustment]
  | put k => exact settlesTogether_of_eq (settledOffset_update rfl rfl) h
  | read k => exact settlesTogether_of_eq (settledOffset_update rfl rfl) h
  | suspend cpu localTsc =>
    obtain ⟨-, -, hvcpus⟩ :=
      kvmArchHardwareEnable_stable (s := { s with tsc := localTsc }) hs.stable cpu
    -- every settled offset grows by the same number of guest cycles
    have hgrow : ∀ k, settledOffset caps (suspendStep caps s (.suspend cpu localTsc)).2 k =
        settledOffset caps s k +
          scaleCycles caps (s.vcpus k).l1TscScalingRatio (deltaCyc s localTsc) := by
      intro k
      have hk := hexact k
      have hdelta : deltaCyc { s with tsc := localTsc } localTsc = deltaCyc s localTsc := rfl
      simp only at hk
      simp only [settledOffset, suspendStep, SuspendVcpu.readL1Tsc, (hvcpus k).offset,
        (hvcpus k).ratio, (hvcpus k).adjustment, hdelta, hk]
      push_cast
      exact (Int.add_assoc _ _ _).symm
    refine ⟨?_, ?_⟩
    · rw [suspendStep, (hvcpus i).ratio, (hvcpus j).ratio]
      exact h.ratio
    · rw [hgrow, hgrow, h.settled, h.ratio]
  | enable cpu ret =>
    rw [suspendStep, kvmArchHardwareEnable_steady hs]
    exact h

theorem suspendStep_ratio (hs : SteadyHost s) (i : Fin n) :
    ((suspendStep caps s e).2.vcpus i).l1TscScalingRatio = (s.vcpus i).l1TscScalingRatio := by
  cases e with
  | tick cycles => rfl
  | load j cpu =>
    obtain ⟨v', hv', heq⟩ := kvmArchVcpuLoad_steady caps hs j cpu
    rw [suspendStep, heq]
    exact ratio_update hv'.ratio i
  | put j =>
    exact ratio_update (v := { s.vcpus j with lastHostTsc := s.tsc, loaded := false }) rfl i
  | read j =>
    exact ratio_update
      (v := { s.vcpus j with lastGuestTsc := (s.vcpus j).readL1Tsc caps s.tsc }) rfl i
  | suspend cpu localTsc =>
    obtain ⟨-, -, hvcpus⟩ :=
      kvmArchHardwareEnable_stable (s := { s with tsc := localTsc }) hs.stable cpu
    exact (hvcpus i).ratio
  | enable cpu ret => rw [suspendStep, kvmArchHardwareEnable_steady hs]

/-- Without fractions nothing is rounded. -/
theorem scalesExactly_of_whole (hs : SteadyHost s)
    (hwhole : ∀ i, WholeRatio caps (s.vcpus i).l1TscScalingRatio) : ScalesExactly caps s e := by
  cases e with
  | load i cpu =>
    have hle : scaleCycles caps (s.vcpus i).l1TscScalingRatio (s.vcpus i).lastHostTsc ≤
        scaleCycles caps (s.vcpus i).l1TscScalingRatio s.tsc := scaleCycles_le (hs.last_le i)
    simp only [ScalesExactly, scaleCycles_add (hwhole i)]
    omega
  | suspend cpu localTsc => exact fun i => scaleCycles_add (hwhole i) _ _
  | tick cycles => trivial
  | put i => trivial
  | read i => trivial
  | enable cpu ret => trivial

theorem loadOrSuspend_step (hs : SteadyHost s) {i : Fin n} :
    (loadOrSuspend i e = some true →
      ((suspendStep caps s e).2.vcpus i).tscOffsetAdjustment = 0) ∧
    (loadOrSuspend i e = none → (s.vcpus i).tscOffsetAdjustment = 0 →
      ((suspendStep caps s e).2.vcpus i).tscOffsetAdjustment = 0) := by
  cases e with
  | tick cycles => exact ⟨nofun, fun _ hzero => hzero⟩
  | load j cpu =>
    obtain ⟨v', hv', heq⟩ := kvmArchVcpuLoad_steady caps hs j cpu
    rw [suspendStep, heq]
    by_cases hj : j = i
    · subst hj
      simp [loadOrSuspend, hv'.adjustment]
    · simp [loadOrSuspend, hj, Function.update_of_ne (Ne.symm hj)]
  | put j =>
    refine ⟨nofun, fun _ hzero => ?_⟩
    by_cases hj : i = j
    · subst hj
      simpa [suspendStep, kvmArchVcpuPut] using hzero
    · simpa [suspendStep, kvmArchVcpuPut, Function.update_of_ne hj] using hzero
  | read j =>
    refine ⟨nofun, fun _ hzero => ?_⟩
    by_cases hj : i = j
    · subst hj
      simpa [suspendStep, vcpuReadTsc] using hzero
    · simpa [suspendStep, vcpuReadTsc, Function.update_of_ne hj] using hzero
  | suspend cpu localTsc => exact ⟨nofun, nofun⟩
  | enable cpu ret =>
    rw [suspendStep, kvmArchHardwareEnable_steady hs]
    exact ⟨nofun, fun _ hzero => hzero⟩

/-- What a virtual CPU reads is its floor. -/
theorem readOf_pairwise (hs : SteadyHost s) (hposs : SuspendPossible s e)
    (hexact : ScalesExactly caps s e) (i : Fin n) :
    (tscFloor caps s i :: (readOf caps i s e ++
      [tscFloor caps (suspendStep caps s e).2 i])).Pairwise (· ≤ ·) := by
  have hle := tscFloor_le_step hs hposs hexact i
  unfold readOf
  split
  · rename_i he
    subst he
    have hloaded : (s.vcpus i).loaded = true := hposs
    have hread : tscFloor caps s i = (s.vcpus i).readL1Tsc caps s.tsc := by
      simp [tscFloor, hloaded]
    rw [← hread]
    simpa using hle
  · simpa using hle

end Step

/-! ## Whole runs -/

section Suspends

variable {caps : TscCaps} {s : SuspendHost m n} {es : List (SuspendEvent n)}

theorem survivesSuspend_of_each (hstart : BeforeSuspend s)
    (hrun : Runs.Each (suspendStep caps)
      (fun s e => (SuspendPossible s e ∧ ScalesExactly caps s e) ∧ SteadyHost s) s es) :
    SurvivesSuspend caps s es := by
  refine ⟨fun i => ?_, fun i j _ hoffset hratio hi hj => ?_⟩
  · have hchain := Runs.history_pairwise (r := (· ≤ ·)) (fun _ _ _ => Int.le_trans)
      (tscFloor caps · i) (fun s e h => readOf_pairwise h.2 h.1.1 h.1.2 i) es hrun
    exact (List.pairwise_cons.mp hchain).2
  · have hbefore : SettlesTogether caps s i j := by
      refine ⟨hratio, ?_⟩
      simp [settledOffset, SuspendVcpu.readL1Tsc, hstart.nothing_pending, hoffset]
    have hbehind := Runs.final_induct_each (I := fun s => SettlesTogether caps s i j)
      (fun s e h => settlesTogether_step h.2 h.1.2) es hrun hbefore
    have hzero : ∀ k, LoadedSince k es →
        ((Runs.final (suspendStep caps) s es).vcpus k).tscOffsetAdjustment = 0 := fun k hk =>
      Runs.final_of_last (U := fun s => (s.vcpus k).tscOffsetAdjustment = 0)
        (fun s e h => (loadOrSuspend_step h.2).1) (fun s e h => (loadOrSuspend_step h.2).2)
        es (b := false) hrun nofun (by rw [hk]; rfl)
    have hsettled := hbehind.settled
    simpa [settledOffset, SuspendVcpu.readL1Tsc, hzero i hi, hzero j hj] using hsettled

/-- With ratios that are whole numbers every run rounds nothing. -/
theorem survivesSuspend_of_whole (hstart : BeforeSuspend s)
    (hposs : Runs.Each (suspendStep caps) SuspendPossible s es)
    (hwhole : ∀ i, WholeRatio caps (s.vcpus i).l1TscScalingRatio) : SurvivesSuspend caps s es := by
  have hrun := Runs.each_and_of_induct
    (I := fun s => SteadyHost s ∧ ∀ i, WholeRatio caps (s.vcpus i).l1TscScalingRatio)
    (fun s e _ hs => ⟨suspendStep_steady hs.1, fun i => suspendStep_ratio hs.1 i ▸ hs.2 i⟩)
    es hposs ⟨hstart.toSteadyHost, hwhole⟩
  refine survivesSuspend_of_each hstart ?_
  exact Runs.each_mono (fun s e h => ⟨⟨h.1, scalesExactly_of_whole h.2.1 h.2.2⟩, h.2.1⟩) hrun

/-- Two virtual CPUs that have never run, at one and a half times the frequency of the host. -/
def fasterGuests : SuspendHost 1 2 where
  tsc := 100
  vcpus := fun _ => { vm := 0, l1TscScalingRatio := 0x1800000000000 }

/-- Both run, the host comes up a cycle behind, one of them runs, and the host comes up another
cycle behind. -/
def suspendedTwice : List (SuspendEvent 2) :=
  [.load 0 0, .read 0, .put 0, .load 1 0, .put 1, .suspend 0 99, .load 0 0, .read 0, .put 0,
    .suspend 0 98, .load 0 0, .load 1 0]

end Suspends

end Kvm
