import Mathlib.Logic.Function.Basic
import PveAntiDetection.Lib.Pool
import PveAntiDetection.Lib.Runs

/-!
# Address space identifiers

`svm.c` tags the TLB entries of a virtual CPU with an ASID.  The ASID is kept per virtual CPU, the
generation that validates it per VMCB, and the allocator per physical CPU.

* `newAsid`, `preSvmRun`, `svmVcpuRun` — the allocator, and an entry into the guest;
* `AsidState`, `asidStep` — any virtual CPUs on any physical CPUs, and one step;
* `AsidState.pool` — the abstract view of one physical CPU: a pool of tags;
* `TagsDistinct` — no two virtual CPUs share a tag; `tagsDistinct_of_owned` — where every run that
  keeps its ASID is behind one on the same physical CPU.
-/

set_option autoImplicit false

namespace Kvm

/-! ## State -/

/-- The part of `struct svm_cpu_data` about ASIDs. -/
structure SvmCpuData where
  asidGeneration : BitVec 64
  maxAsid : Nat
  nextAsid : Nat
  minAsid : Nat
  deriving DecidableEq

/-- `struct kvm_vmcb_info`, with the ASID and the flush in the control area of its VMCB. -/
structure VmcbInfo where
  cpu : Nat := 0
  asidGeneration : BitVec 64 := 0
  controlAsid : Nat := 0
  /-- `TLB_CONTROL_FLUSH_ALL_ASID`. -/
  flushAllAsid : Bool := false
  deriving DecidableEq

/-- The part of `struct vcpu_svm` about ASIDs. -/
structure VcpuSvm where
  cpu : Nat := 0
  lastVmentryCpu : Option Nat := none
  asid : Nat := 0
  vmcb01 : VmcbInfo := {}
  vmcb02 : VmcbInfo := {}
  /-- `current_vmcb` is `vmcb02`. -/
  onVmcb02 : Bool := false
  deriving DecidableEq

/-- `current_vmcb`. -/
def VcpuSvm.currentVmcb (v : VcpuSvm) : VmcbInfo := if v.onVmcb02 then v.vmcb02 else v.vmcb01

def VcpuSvm.setCurrentVmcb (v : VcpuSvm) (b : VmcbInfo) : VcpuSvm :=
  if v.onVmcb02 then { v with vmcb02 := b } else { v with vmcb01 := b }

/-- `svm_hardware_enable`, with the number of ASIDs that CPUID reports. -/
def svmHardwareEnable (nasids maxSevAsid : Nat) : SvmCpuData where
  asidGeneration := 1
  maxAsid := nasids - 1
  nextAsid := nasids - 1 + 1
  minAsid := maxSevAsid + 1

/-! ## Entries into the guest -/

/-- The first branch of `new_asid`: the ASIDs are used up, and a new generation begins. -/
def SvmCpuData.wrapAround (sd : SvmCpuData) : SvmCpuData :=
  if sd.nextAsid > sd.maxAsid then
    { sd with asidGeneration := sd.asidGeneration + 1, nextAsid := sd.minAsid }
  else sd

/-- `new_asid`. -/
def newAsid (v : VcpuSvm) (sd : SvmCpuData) : VcpuSvm × SvmCpuData :=
  let flush := if sd.nextAsid > sd.maxAsid then true else v.currentVmcb.flushAllAsid
  let sd := sd.wrapAround
  let v := v.setCurrentVmcb { v.currentVmcb with
    asidGeneration := sd.asidGeneration
    flushAllAsid := flush }
  ({ v with asid := sd.nextAsid }, { sd with nextAsid := sd.nextAsid + 1 })

/-- `pre_svm_run` of a guest without SEV, on the data of its physical CPU. -/
def preSvmRun (v : VcpuSvm) (sd : SvmCpuData) : VcpuSvm × SvmCpuData :=
  let v :=
    if v.currentVmcb.cpu ≠ v.cpu then
      v.setCurrentVmcb { v.currentVmcb with asidGeneration := 0, cpu := v.cpu }
    else v
  -- FIXME of the source: the generation may wrap around
  if v.currentVmcb.asidGeneration ≠ sd.asidGeneration then newAsid v sd else (v, sd)

/-- An entry into the guest: who, where, in which generation, with which ASID, and whether it has
flushed all ASIDs. -/
structure AsidRun (ι : Type) where
  vcpu : ι
  cpu : Nat
  generation : BitVec 64
  asid : Nat
  flushed : Bool
  deriving DecidableEq

/-- All physical and virtual CPUs, and the entries so far. -/
structure AsidState (ι : Type) where
  cpus : Nat → SvmCpuData
  vcpus : ι → VcpuSvm
  log : List (AsidRun ι) := []

variable {ι : Type} [DecidableEq ι]

/-- `svm_vcpu_run`: the ASID goes into the VMCB, and the flush is done with. -/
def svmVcpuRun (s : AsidState ι) (i : ι) : AsidState ι :=
  let c := (s.vcpus i).cpu
  let r := preSvmRun (s.vcpus i) (s.cpus c)
  let b := r.1.currentVmcb
  let v := r.1.setCurrentVmcb { b with controlAsid := r.1.asid, flushAllAsid := false }
  { cpus := Function.update s.cpus c r.2
    vcpus := Function.update s.vcpus i { v with lastVmentryCpu := some c }
    log := ⟨i, c, r.2.asidGeneration, r.1.asid, b.flushAllAsid⟩ :: s.log }

/-- What happens to a virtual CPU. -/
inductive AsidEvent (ι : Type) where
  /-- It is loaded on a physical CPU. -/
  | migrate (i : ι) (cpu : Nat)
  /-- `svm_switch_vmcb`. -/
  | switchVmcb (i : ι) (onVmcb02 : Bool)
  | run (i : ι)
  deriving DecidableEq

/-- One event. -/
def asidStep (s : AsidState ι) : AsidEvent ι → Unit × AsidState ι
  | .migrate i cpu =>
    ((), { s with vcpus := Function.update s.vcpus i { s.vcpus i with cpu := cpu } })
  | .switchVmcb i onVmcb02 =>
    ((), { s with vcpus := Function.update s.vcpus i { s.vcpus i with onVmcb02 := onVmcb02 } })
  | .run i => ((), svmVcpuRun s i)

/-! ## What is claimed, and when -/

/-- Two virtual CPUs that have entered their guests on one physical CPU in its current generation
did so with different ASIDs, from its range. -/
structure TagsDistinct (s : AsidState ι) : Prop where
  distinct : ∀ e ∈ s.log, ∀ e' ∈ s.log, e.cpu = e'.cpu →
    e.generation = (s.cpus e.cpu).asidGeneration → e'.generation = (s.cpus e.cpu).asidGeneration →
      e.vcpu ≠ e'.vcpu → e.asid ≠ e'.asid
  range : ∀ e ∈ s.log, e.generation = (s.cpus e.cpu).asidGeneration →
    (s.cpus e.cpu).minAsid ≤ e.asid ∧ e.asid ≤ (s.cpus e.cpu).maxAsid

/-- The VMCB is valid on the physical CPU, so that the virtual CPU keeps its ASID. -/
def VcpuSvm.KeepsAsid (v : VcpuSvm) (sd : SvmCpuData) : Prop :=
  v.currentVmcb.cpu = v.cpu ∧ v.currentVmcb.asidGeneration = sd.asidGeneration

instance (v : VcpuSvm) (sd : SvmCpuData) : Decidable (v.KeepsAsid sd) :=
  inferInstanceAs (Decidable (_ ∧ _))

/-- A virtual CPU that keeps its ASID has last run on the same physical CPU; one that takes a new
ASID finds a range that is not empty, and a generation that does not wrap around. -/
def OwnsAsid (s : AsidState ι) : AsidEvent ι → Prop
  | .run i =>
    let v := s.vcpus i
    let sd := s.cpus v.cpu
    if v.KeepsAsid sd then v.lastVmentryCpu = some v.cpu
    else sd.minAsid ≤ sd.maxAsid ∧
      (sd.nextAsid > sd.maxAsid → sd.asidGeneration ≠ BitVec.allOnes 64)
  | _ => True

instance (s : AsidState ι) : (e : AsidEvent ι) → Decidable (OwnsAsid s e)
  | .run i => inferInstanceAs (Decidable
      (if (s.vcpus i).KeepsAsid (s.cpus (s.vcpus i).cpu) then _ else _))
  | .migrate _ _ => inferInstanceAs (Decidable True)
  | .switchVmcb _ _ => inferInstanceAs (Decidable True)

/-- The pool of a physical CPU: the ASIDs used in its current generation. -/
def AsidState.pool (s : AsidState ι) (c : Nat) : Pools.Pool ι where
  lo := (s.cpus c).minAsid
  hi := (s.cpus c).maxAsid
  next := (s.cpus c).nextAsid
  holders := (s.log.filter fun e =>
    e.cpu = c ∧ e.generation = (s.cpus c).asidGeneration).map fun e => (e.vcpu, e.asid)

/-! ## One entry -/

section Vmcbs

variable (v : VcpuSvm) (b : VmcbInfo)

/-- The VMCB that is not current. -/
def VcpuSvm.otherVmcb : VmcbInfo := if v.onVmcb02 then v.vmcb01 else v.vmcb02

@[simp] theorem currentVmcb_set : (v.setCurrentVmcb b).currentVmcb = b := by
  unfold VcpuSvm.setCurrentVmcb VcpuSvm.currentVmcb
  split <;> simp_all

@[simp] theorem otherVmcb_set : (v.setCurrentVmcb b).otherVmcb = v.otherVmcb := by
  unfold VcpuSvm.setCurrentVmcb VcpuSvm.otherVmcb
  split <;> simp_all

@[simp] theorem setCurrentVmcb_cpu : (v.setCurrentVmcb b).cpu = v.cpu := by
  unfold VcpuSvm.setCurrentVmcb
  split <;> rfl

@[simp] theorem setCurrentVmcb_asid : (v.setCurrentVmcb b).asid = v.asid := by
  unfold VcpuSvm.setCurrentVmcb
  split <;> rfl

end Vmcbs

section Entry

variable {v : VcpuSvm} {sd : SvmCpuData}

/-- What `new_asid` leaves. -/
structure NewAsid (v v' : VcpuSvm) (sd sd' : SvmCpuData) : Prop where
  data : sd' = { sd.wrapAround with nextAsid := sd.wrapAround.nextAsid + 1 }
  asid : v'.asid = sd.wrapAround.nextAsid
  cpu : v'.currentVmcb.cpu = v.currentVmcb.cpu
  generation : v'.currentVmcb.asidGeneration = sd.wrapAround.asidGeneration
  other : v'.otherVmcb = v.otherVmcb

theorem newAsid_spec (v : VcpuSvm) (sd : SvmCpuData) :
    NewAsid v (newAsid v sd).1 sd (newAsid v sd).2 where
  data := rfl
  asid := rfl
  cpu := by
    show (v.setCurrentVmcb _).currentVmcb.cpu = v.currentVmcb.cpu
    rw [currentVmcb_set]
  generation := congrArg VmcbInfo.asidGeneration (currentVmcb_set v _)
  other := otherVmcb_set v _

/-- A valid VMCB runs with the ASID of the virtual CPU. -/
theorem preSvmRun_keeps (h : v.KeepsAsid sd) : preSvmRun v sd = (v, sd) := by
  unfold preSvmRun
  dsimp only
  rw [if_neg (not_not_intro h.1), if_neg (not_not_intro h.2)]

/-- Any other VMCB gets a new ASID on the physical CPU. -/
theorem preSvmRun_new (h : ¬ v.KeepsAsid sd) (hgen : sd.asidGeneration ≠ 0) :
    ∃ w, NewAsid w (preSvmRun v sd).1 sd (preSvmRun v sd).2 ∧ w.currentVmcb.cpu = v.cpu ∧
      w.otherVmcb = v.otherVmcb := by
  unfold preSvmRun
  by_cases hcpu : v.currentVmcb.cpu = v.cpu
  · have hstale : v.currentVmcb.asidGeneration ≠ sd.asidGeneration := fun hsame => h ⟨hcpu, hsame⟩
    dsimp only
    rw [if_neg (not_not_intro hcpu), if_pos hstale]
    exact ⟨v, newAsid_spec v sd, hcpu, rfl⟩
  · dsimp only
    rw [if_pos hcpu, currentVmcb_set, if_pos hgen.symm]
    exact ⟨_, newAsid_spec _ sd, by rw [currentVmcb_set], otherVmcb_set v _⟩

/-- A generation that does not wrap around only grows. -/
theorem wrapAround_generation
    (h : sd.nextAsid > sd.maxAsid → sd.asidGeneration ≠ BitVec.allOnes 64) :
    sd.wrapAround.asidGeneration.toNat =
      sd.asidGeneration.toNat + if sd.nextAsid > sd.maxAsid then 1 else 0 := by
  unfold SvmCpuData.wrapAround
  split
  · rename_i hfull
    have hlt := sd.asidGeneration.isLt
    have hne : sd.asidGeneration.toNat ≠ 2 ^ 64 - 1 := by
      intro hnat
      exact h hfull (BitVec.eq_of_toNat_eq (by rw [hnat, BitVec.toNat_allOnes]))
    show (sd.asidGeneration + 1#64).toNat = _
    rw [BitVec.toNat_add, BitVec.toNat_ofNat]
    omega
  · rfl

/-- Behind `pre_svm_run` the current VMCB is valid on the physical CPU. -/
theorem preSvmRun_current (hgen : sd.asidGeneration ≠ 0) :
    (preSvmRun v sd).1.currentVmcb.cpu = v.cpu ∧
      (preSvmRun v sd).1.currentVmcb.asidGeneration = (preSvmRun v sd).2.asidGeneration ∧
      (preSvmRun v sd).1.otherVmcb = v.otherVmcb := by
  by_cases h : v.KeepsAsid sd
  · rw [preSvmRun_keeps h]
    exact ⟨h.1, h.2, rfl⟩
  · obtain ⟨w, hw, hcpu, hother⟩ := preSvmRun_new h hgen
    refine ⟨hw.cpu.trans hcpu, ?_, hw.other.trans hother⟩
    rw [hw.generation, hw.data]

theorem preSvmRun_generation_le (hgen : sd.asidGeneration ≠ 0)
    (hwrap : ¬ v.KeepsAsid sd → sd.nextAsid > sd.maxAsid →
      sd.asidGeneration ≠ BitVec.allOnes 64) :
    sd.asidGeneration ≤ (preSvmRun v sd).2.asidGeneration := by
  by_cases h : v.KeepsAsid sd
  · rw [preSvmRun_keeps h]
    exact BitVec.le_refl _
  · obtain ⟨w, hw, -⟩ := preSvmRun_new h hgen
    have hgrow := wrapAround_generation (hwrap h)
    rw [hw.data, BitVec.le_def]
    show sd.asidGeneration.toNat ≤ sd.wrapAround.asidGeneration.toNat
    omega

end Entry

/-! ## The invariant -/

/-- The VMCBs of a virtual CPU. -/
def VcpuSvm.Has (v : VcpuSvm) (b : VmcbInfo) : Prop := b = v.currentVmcb ∨ b = v.otherVmcb

theorem has_iff {v : VcpuSvm} {b : VmcbInfo} : v.Has b ↔ b = v.vmcb01 ∨ b = v.vmcb02 := by
  unfold VcpuSvm.Has VcpuSvm.currentVmcb VcpuSvm.otherVmcb
  cases v.onVmcb02 with
  | true => exact or_comm
  | false => exact Iff.rfl

/-- The pools are sound, generations are not from the future, and a virtual CPU with a valid VMCB
for the physical CPU it last ran on holds its ASID there. -/
structure AsidInv (s : AsidState ι) : Prop where
  pool : ∀ c, Pools.Sound (s.pool c)
  generation_ne : ∀ c, (s.cpus c).asidGeneration ≠ 0
  log_le : ∀ e ∈ s.log, e.generation ≤ (s.cpus e.cpu).asidGeneration
  vmcb_le : ∀ i b, (s.vcpus i).Has b → b.asidGeneration ≤ (s.cpus b.cpu).asidGeneration
  held : ∀ i c, (s.vcpus i).lastVmentryCpu = some c → ∀ b, (s.vcpus i).Has b → b.cpu = c →
    b.asidGeneration = (s.cpus c).asidGeneration → (i, (s.vcpus i).asid) ∈ (s.pool c).holders

section Steps

variable {s : AsidState ι} {i : ι}

omit [DecidableEq ι] in
/-- The invariant says that tags are distinct. -/
theorem AsidInv.tagsDistinct (hs : AsidInv s) : TagsDistinct s := by
  have hheld : ∀ c, ∀ e ∈ s.log, e.cpu = c → e.generation = (s.cpus c).asidGeneration →
      (e.vcpu, e.asid) ∈ (s.pool c).holders := by
    intro c e he hcpu hgen
    refine List.mem_map.mpr ⟨e, List.mem_filter.mpr ⟨he, ?_⟩, rfl⟩
    exact decide_eq_true ⟨hcpu, hgen⟩
  refine ⟨?_, ?_⟩
  · intro e he e' he' hcpu hgen hgen' hne
    exact (hs.pool e.cpu).distinct _ (hheld e.cpu e he rfl hgen) _
      (hheld e.cpu e' he' hcpu.symm hgen') hne
  · intro e he hgen
    obtain ⟨hge, -, hle⟩ := (hs.pool e.cpu).range _ (hheld e.cpu e he rfl hgen)
    exact ⟨hge, hle⟩

/-- Loading and switching touch neither the VMCBs nor the ASID. -/
theorem AsidInv.withVcpu (hs : AsidInv s) {v : VcpuSvm} (h01 : v.vmcb01 = (s.vcpus i).vmcb01)
    (h02 : v.vmcb02 = (s.vcpus i).vmcb02) (hlast : v.lastVmentryCpu = (s.vcpus i).lastVmentryCpu)
    (hasid : v.asid = (s.vcpus i).asid) :
    AsidInv { s with vcpus := Function.update s.vcpus i v } := by
  have hhas : ∀ j b, (Function.update s.vcpus i v j).Has b ↔ (s.vcpus j).Has b := by
    intro j b
    rw [has_iff, has_iff]
    by_cases hj : j = i
    · subst hj
      rw [Function.update_self, h01, h02]
    · rw [Function.update_of_ne hj]
  have hsame : ∀ j, (Function.update s.vcpus i v j).lastVmentryCpu = (s.vcpus j).lastVmentryCpu ∧
      (Function.update s.vcpus i v j).asid = (s.vcpus j).asid := by
    intro j
    by_cases hj : j = i
    · subst hj
      rw [Function.update_self]
      exact ⟨hlast, hasid⟩
    · rw [Function.update_of_ne hj]
      exact ⟨rfl, rfl⟩
  refine ⟨hs.pool, hs.generation_ne, hs.log_le, ?_, ?_⟩
  · intro j b hb
    exact hs.vmcb_le j b ((hhas j b).mp hb)
  · intro j c hj b hb hcpu hgen
    show (j, (Function.update s.vcpus i v j).asid) ∈ (s.pool c).holders
    rw [(hsame j).2]
    exact hs.held j c ((hsame j).1.symm.trans hj) b ((hhas j b).mp hb) hcpu hgen

/-- Behind an entry the physical CPU has the data of `pre_svm_run`. -/
theorem run_cpus : (svmVcpuRun s i).cpus (s.vcpus i).cpu =
    (preSvmRun (s.vcpus i) (s.cpus (s.vcpus i).cpu)).2 :=
  Function.update_self ..

/-- An entry on another physical CPU does not touch the pool. -/
theorem pool_other {c : Nat} (hc : c ≠ (s.vcpus i).cpu) : (svmVcpuRun s i).pool c = s.pool c := by
  have hsd : (svmVcpuRun s i).cpus c = s.cpus c := Function.update_of_ne hc ..
  have hentry : ¬ ((s.vcpus i).cpu = c ∧ (preSvmRun (s.vcpus i)
      (s.cpus (s.vcpus i).cpu)).2.asidGeneration = (s.cpus c).asidGeneration) :=
    fun h => hc h.1.symm
  unfold AsidState.pool
  rw [hsd]
  simp [svmVcpuRun, hentry]

/-- An entry that keeps its ASID uses it once more. -/
theorem pool_keeps (h : (s.vcpus i).KeepsAsid (s.cpus (s.vcpus i).cpu)) :
    (svmVcpuRun s i).pool (s.vcpus i).cpu =
      (s.pool (s.vcpus i).cpu).reuse i (s.vcpus i).asid := by
  have hsd : (svmVcpuRun s i).cpus (s.vcpus i).cpu = s.cpus (s.vcpus i).cpu := by
    rw [run_cpus, preSvmRun_keeps h]
  unfold AsidState.pool
  rw [hsd]
  simp [svmVcpuRun, preSvmRun_keeps h, Pools.Pool.reuse]

/-- **An entry with a new ASID takes a tag**; the pool forgets where the generation changes. -/
theorem pool_new (hs : AsidInv s) (h : ¬ (s.vcpus i).KeepsAsid (s.cpus (s.vcpus i).cpu))
    (hwrap : (s.cpus (s.vcpus i).cpu).nextAsid > (s.cpus (s.vcpus i).cpu).maxAsid →
      (s.cpus (s.vcpus i).cpu).asidGeneration ≠ BitVec.allOnes 64) :
    (svmVcpuRun s i).pool (s.vcpus i).cpu = (s.pool (s.vcpus i).cpu).take i := by
  obtain ⟨w, hw, -⟩ := preSvmRun_new h (hs.generation_ne _)
  by_cases hfull : (s.cpus (s.vcpus i).cpu).nextAsid > (s.cpus (s.vcpus i).cpu).maxAsid
  · have hwrapped : (s.cpus (s.vcpus i).cpu).wrapAround = { s.cpus (s.vcpus i).cpu with
        asidGeneration := (s.cpus (s.vcpus i).cpu).asidGeneration + 1
        nextAsid := (s.cpus (s.vcpus i).cpu).minAsid } := if_pos hfull
    have hgen := wrapAround_generation hwrap
    rw [hwrapped, if_pos hfull] at hgen
    have hempty : s.log.filter (fun e => e.cpu = (s.vcpus i).cpu ∧
        e.generation = (s.cpus (s.vcpus i).cpu).asidGeneration + 1) = [] := by
      refine List.filter_eq_nil_iff.mpr ?_
      intro e he hcond
      obtain ⟨hcpu, hnew⟩ := of_decide_eq_true hcond
      have hle := hs.log_le e he
      rw [hcpu, BitVec.le_def, hnew, hgen] at hle
      omega
    have htake : (s.pool (s.vcpus i).cpu).take i = (s.pool (s.vcpus i).cpu).forget.give i :=
      if_pos hfull
    rw [htake, AsidState.pool, run_cpus]
    simp only [svmVcpuRun, hw.data, hw.asid, hwrapped, List.filter_cons, hempty]
    simp [AsidState.pool, Pools.Pool.forget, Pools.Pool.give]
  · have hwrapped : (s.cpus (s.vcpus i).cpu).wrapAround = s.cpus (s.vcpus i).cpu := if_neg hfull
    have htake : (s.pool (s.vcpus i).cpu).take i = (s.pool (s.vcpus i).cpu).give i := if_neg hfull
    rw [htake, AsidState.pool, run_cpus]
    simp [svmVcpuRun, hw.data, hw.asid, hwrapped, AsidState.pool, Pools.Pool.give]

/-- Behind an entry the virtual CPU has the VMCB of `pre_svm_run`, and the other one. -/
theorem run_has (b : VmcbInfo) : ((svmVcpuRun s i).vcpus i).Has b ↔
    b = { (preSvmRun (s.vcpus i) (s.cpus (s.vcpus i).cpu)).1.currentVmcb with
        controlAsid := (preSvmRun (s.vcpus i) (s.cpus (s.vcpus i).cpu)).1.asid
        flushAllAsid := false } ∨
      b = (preSvmRun (s.vcpus i) (s.cpus (s.vcpus i).cpu)).1.otherVmcb := by
  have hvcpu : (svmVcpuRun s i).vcpus i = { VcpuSvm.setCurrentVmcb _ _ with
      lastVmentryCpu := some (s.vcpus i).cpu } := Function.update_self ..
  rw [hvcpu]
  show b = (VcpuSvm.setCurrentVmcb _ _).currentVmcb ∨ b = (VcpuSvm.setCurrentVmcb _ _).otherVmcb ↔ _
  rw [currentVmcb_set, otherVmcb_set]

theorem run_other {j : ι} (hj : j ≠ i) : (svmVcpuRun s i).vcpus j = s.vcpus j :=
  Function.update_of_ne hj ..

theorem run_lastVmentryCpu :
    ((svmVcpuRun s i).vcpus i).lastVmentryCpu = some (s.vcpus i).cpu := by
  show (Function.update s.vcpus i _ i).lastVmentryCpu = _
  rw [Function.update_self]

/-- A virtual CPU holds the ASID it has just entered with. -/
theorem run_held : (i, ((svmVcpuRun s i).vcpus i).asid) ∈
    ((svmVcpuRun s i).pool (s.vcpus i).cpu).holders := by
  have hasid : ((svmVcpuRun s i).vcpus i).asid =
      (preSvmRun (s.vcpus i) (s.cpus (s.vcpus i).cpu)).1.asid := by
    show (Function.update s.vcpus i _ i).asid = _
    rw [Function.update_self]
    exact setCurrentVmcb_asid _ _
  rw [hasid]
  refine List.mem_map.mpr ⟨_, List.mem_filter.mpr ⟨List.mem_cons_self .., ?_⟩, rfl⟩
  refine decide_eq_true ⟨rfl, ?_⟩
  rw [run_cpus]

/-- An entry takes nobody's ASID away while the generation stays. -/
theorem run_holders {c : Nat} {h : ι × Nat}
    (hgen : (s.cpus c).asidGeneration = ((svmVcpuRun s i).cpus c).asidGeneration)
    (hmem : h ∈ (s.pool c).holders) : h ∈ ((svmVcpuRun s i).pool c).holders := by
  obtain ⟨e, he, rfl⟩ := List.mem_map.mp hmem
  obtain ⟨helog, hcond⟩ := List.mem_filter.mp he
  refine List.mem_map.mpr ⟨e, List.mem_filter.mpr ⟨List.mem_cons_of_mem _ helog, ?_⟩, rfl⟩
  rw [← hgen]
  exact hcond

omit [DecidableEq ι] in
/-- An entry that keeps its ASID comes behind one on the same physical CPU. -/
theorem OwnsAsid.lastVmentryCpu (hown : OwnsAsid s (.run i))
    (hkeep : (s.vcpus i).KeepsAsid (s.cpus (s.vcpus i).cpu)) :
    (s.vcpus i).lastVmentryCpu = some (s.vcpus i).cpu := by
  have hif : if _ then _ else _ := hown
  rwa [if_pos hkeep] at hif

omit [DecidableEq ι] in
/-- An entry with a new ASID finds one, in a generation that can be told from the old ones. -/
theorem OwnsAsid.fresh (hown : OwnsAsid s (.run i))
    (hnew : ¬ (s.vcpus i).KeepsAsid (s.cpus (s.vcpus i).cpu)) :
    (s.cpus (s.vcpus i).cpu).minAsid ≤ (s.cpus (s.vcpus i).cpu).maxAsid ∧
      ((s.cpus (s.vcpus i).cpu).nextAsid > (s.cpus (s.vcpus i).cpu).maxAsid →
        (s.cpus (s.vcpus i).cpu).asidGeneration ≠ BitVec.allOnes 64) := by
  have hif : if _ then _ else _ := hown
  rwa [if_neg hnew] at hif

/-- No generation ends twice. -/
theorem run_generation_le (hs : AsidInv s) (hown : OwnsAsid s (.run i)) (c : Nat) :
    (s.cpus c).asidGeneration ≤ ((svmVcpuRun s i).cpus c).asidGeneration := by
  by_cases hc : c = (s.vcpus i).cpu
  · subst hc
    rw [run_cpus]
    exact preSvmRun_generation_le (hs.generation_ne _) fun hnew => (hown.fresh hnew).2
  · rw [show (svmVcpuRun s i).cpus c = s.cpus c from Function.update_of_ne hc ..]
    exact BitVec.le_refl _

theorem run_pool_sound (hs : AsidInv s) (hown : OwnsAsid s (.run i)) (c : Nat) :
    Pools.Sound ((svmVcpuRun s i).pool c) := by
  by_cases hc : c = (s.vcpus i).cpu
  · subst hc
    by_cases hkeep : (s.vcpus i).KeepsAsid (s.cpus (s.vcpus i).cpu)
    · rw [pool_keeps hkeep]
      refine Pools.reuse_sound (hs.pool _) ?_
      exact hs.held i _ (hown.lastVmentryCpu hkeep) _ (.inl rfl) hkeep.1 hkeep.2
    · obtain ⟨hsome, hwrap⟩ := hown.fresh hkeep
      rw [pool_new hs hkeep hwrap]
      exact Pools.take_sound (hs.pool _) hsome i
  · rw [pool_other hc]
    exact hs.pool c

theorem run_log_le (hs : AsidInv s) (hown : OwnsAsid s (.run i)) {e : AsidRun ι}
    (he : e ∈ (svmVcpuRun s i).log) :
    e.generation ≤ ((svmVcpuRun s i).cpus e.cpu).asidGeneration := by
  rcases List.mem_cons.mp he with rfl | he
  · rw [run_cpus]
    exact BitVec.le_refl _
  · exact BitVec.le_trans (hs.log_le e he) (run_generation_le hs hown e.cpu)

theorem run_vmcb_le (hs : AsidInv s) (hown : OwnsAsid s (.run i)) {j : ι} {b : VmcbInfo}
    (hb : ((svmVcpuRun s i).vcpus j).Has b) :
    b.asidGeneration ≤ ((svmVcpuRun s i).cpus b.cpu).asidGeneration := by
  obtain ⟨hcpu, hgen, hother⟩ :=
    preSvmRun_current (v := s.vcpus i) (hs.generation_ne (s.vcpus i).cpu)
  by_cases hj : j = i
  · subst hj
    rcases (run_has b).mp hb with rfl | rfl
    · show (preSvmRun _ _).1.currentVmcb.asidGeneration ≤ ((svmVcpuRun s j).cpus
        (preSvmRun _ _).1.currentVmcb.cpu).asidGeneration
      rw [hcpu, run_cpus, hgen]
      exact BitVec.le_refl _
    · rw [hother]
      exact BitVec.le_trans (hs.vmcb_le j _ (.inr rfl)) (run_generation_le hs hown _)
  · rw [run_other hj] at hb
    exact BitVec.le_trans (hs.vmcb_le j b hb) (run_generation_le hs hown b.cpu)

/-- A VMCB that is valid behind the entry belongs to the entry, or was valid before it. -/
theorem run_holds (hs : AsidInv s) (hown : OwnsAsid s (.run i)) {j : ι} {c : Nat} {b : VmcbInfo}
    (hlast : ((svmVcpuRun s i).vcpus j).lastVmentryCpu = some c)
    (hb : ((svmVcpuRun s i).vcpus j).Has b) (hcpu : b.cpu = c)
    (hgen : b.asidGeneration = ((svmVcpuRun s i).cpus c).asidGeneration) :
    (j, ((svmVcpuRun s i).vcpus j).asid) ∈ ((svmVcpuRun s i).pool c).holders := by
  by_cases hj : j = i
  · subst hj
    rw [run_lastVmentryCpu, Option.some.injEq] at hlast
    subst hlast
    exact run_held
  · rw [run_other hj] at hlast hb ⊢
    have hold : b.asidGeneration = (s.cpus c).asidGeneration := by
      refine BitVec.le_antisymm (hcpu ▸ hs.vmcb_le j b hb) ?_
      rw [hgen]
      exact run_generation_le hs hown c
    refine run_holders (hold.symm.trans hgen) ?_
    exact hs.held j c hlast b hb hcpu hold

/-- **An entry that owns its ASID keeps the invariant.** -/
theorem run_inv (hs : AsidInv s) (hown : OwnsAsid s (.run i)) : AsidInv (svmVcpuRun s i) where
  pool := run_pool_sound hs hown
  generation_ne := by
    intro c hzero
    have hle := run_generation_le hs hown c
    rw [hzero, BitVec.le_def] at hle
    exact hs.generation_ne c (BitVec.eq_of_toNat_eq (Nat.le_zero.mp hle))
  log_le := fun _ he => run_log_le hs hown he
  vmcb_le := fun _ _ hb => run_vmcb_le hs hown hb
  held := fun _ _ hlast _ hb hcpu hgen => run_holds hs hown hlast hb hcpu hgen

theorem asidStep_inv (e : AsidEvent ι) (hown : OwnsAsid s e) (hs : AsidInv s) :
    AsidInv (asidStep s e).2 := by
  cases e with
  | migrate i cpu => exact hs.withVcpu rfl rfl rfl rfl
  | switchVmcb i onVmcb02 => exact hs.withVcpu rfl rfl rfl rfl
  | run i => exact run_inv hs hown

end Steps

/-! ## Runs -/

section Runs

variable (nasids maxSevAsid : Nat → Nat)

/-- No virtual CPU has run yet. -/
def asidStart : AsidState ι where
  cpus := fun c => svmHardwareEnable (nasids c) (maxSevAsid c)
  vcpus := fun _ => {}

omit [DecidableEq ι] in
theorem asidStart_inv : AsidInv (asidStart nasids maxSevAsid : AsidState ι) where
  pool := fun c => by
    refine ⟨fun h => Nat.le_succ_of_le h, fun _ => Nat.le_refl _, ?_, ?_⟩
    · intro h hmem
      exact absurd hmem List.not_mem_nil
    · intro h hmem
      exact absurd hmem List.not_mem_nil
  generation_ne := fun c => by
    show (1 : BitVec 64) ≠ 0
    decide
  log_le := fun e he => absurd he List.not_mem_nil
  vmcb_le := by
    intro i b hb
    have hzero : b.asidGeneration = 0 := by
      rcases hb with rfl | rfl <;> rfl
    rw [hzero, BitVec.le_def]
    exact Nat.zero_le _
  held := by
    intro i c hlast
    cases hlast

/-- **Tags are distinct in every run that keeps an ASID only behind an entry on the same physical
CPU.**  The ASID is kept per virtual CPU, but handed out per physical CPU. -/
theorem tagsDistinct_of_owned (es : List (AsidEvent ι))
    (hown : Runs.Each asidStep OwnsAsid (asidStart nasids maxSevAsid) es) :
    TagsDistinct (Runs.final asidStep (asidStart nasids maxSevAsid) es) := by
  have hinv : AsidInv (Runs.final asidStep (asidStart nasids maxSevAsid) es) :=
    Runs.final_induct_each (fun s e => asidStep_inv e) es hown (asidStart_inv nasids maxSevAsid)
  exact hinv.tagsDistinct

end Runs

/-- Three ASIDs for two virtual CPUs, one of them nested: the fourth one starts a new generation. -/
theorem tagsDistinct_of_owned_nested :
    Runs.Each asidStep OwnsAsid (asidStart (fun _ => 4) (fun _ => 0))
        [.run false, .run true, .switchVmcb false true, .run false, .migrate true 1, .run true,
          .migrate true 0, .run true, .run false] ∧
      TagsDistinct (Runs.final asidStep (asidStart (fun _ => 4) (fun _ => 0))
        [.run false, .run true, .switchVmcb false true, .run false, .migrate true 1, .run true,
          .migrate true 0, .run true, .run false]) := by
  have hown : Runs.Each asidStep OwnsAsid (asidStart (fun _ => 4) (fun _ => 0))
      [.run false, .run true, .switchVmcb false true, .run false, .migrate true 1, .run true,
        .migrate true 0, .run true, .run false] := by
    refine ⟨?_, ?_, ?_, ?_, ?_, ?_, ?_, ?_, ?_, trivial⟩ <;> decide
  exact ⟨hown, tagsDistinct_of_owned _ _ _ hown⟩

/-- The nested VMCB takes an ASID on another physical CPU; back on the first one, the VMCB of the
host is still valid, and runs with that ASID, which belongs to somebody else there. -/
theorem migratedAsidShared :
    ¬ TagsDistinct (Runs.final asidStep (asidStart (fun _ => 16) (fun _ => 0))
      [.run false, .run true, .migrate true 1, .run true, .switchVmcb false true,
        .migrate false 1, .run false, .switchVmcb false false, .migrate false 0, .run false]) := by
  intro h
  exact h.distinct ⟨false, 0, 2, 2, false⟩ (by decide) ⟨true, 0, 2, 2, false⟩ (by decide) rfl
    (by decide) (by decide) (by decide) rfl

end Kvm
