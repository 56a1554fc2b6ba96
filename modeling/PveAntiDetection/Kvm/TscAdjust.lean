import PveAntiDetection.Lib.Runs
import PveAntiDetection.Kvm.TimeScale

/-!
# `IA32_TSC` and `IA32_TSC_ADJUST`

The guest moves its counter by a write of either MSR.  Both leave the same distance between them.

* `TscWrite`, `tscWrite` — what the guest writes, and the clock update that a write requests;
* `TscDistance` — the distance, which every write keeps;
* `tscDistance_kept` — the guest reads the same difference of the MSRs whatever it has written.
-/

set_option autoImplicit false

namespace Kvm

/-! ## Writes -/

/-- What moves the counter of a guest that has `TSC_ADJUST`: a write of one of the two MSRs, at a
host reading, and an update of the clock before the guest is entered again. -/
inductive TscWrite where
  | ia32Tsc (rdtsc data : BitVec 64)
  | ia32TscAdjust (data : BitVec 64)
  | clockUpdate (kernelNs rdtsc : BitVec 64)
  deriving DecidableEq

variable (h : ClockHost)

/-- `kvm_get_msr_common` of `MSR_IA32_TSC_ADJUST`. -/
def getMsrIa32TscAdjust (v : VcpuTsc) : BitVec 64 := v.ia32TscAdjustMsr

/-- One write. -/
def tscWrite (v : VcpuTsc) : TscWrite → Unit × VcpuTsc
  | .ia32Tsc rdtsc data => ((), setMsrIa32Tsc h.caps v rdtsc data)
  | .ia32TscAdjust data => ((), setMsrIa32TscAdjust v true data)
  | .clockUpdate kernelNs rdtsc =>
    ((), { (tscCatchUp h v kernelNs (kvmReadL1Tsc h.caps v rdtsc)).1 with clockUpdate := false })

/-- The guest reads `MSR_IA32_TSC`, at a host reading, less `MSR_IA32_TSC_ADJUST`. -/
def guestTscDifference (v : VcpuTsc) (rdtsc : BitVec 64) : BitVec 64 :=
  getMsrIa32Tsc h.caps v rdtsc - getMsrIa32TscAdjust v

/-! ## The distance -/

/-- The offset is `distance` in front of the adjustment, and nothing else moves the counter. -/
structure TscDistance (ratio distance : BitVec 64) (v : VcpuTsc) : Prop where
  outside : OutsideGuestMode v
  noCatchup : v.tscCatchup = false
  ratio : v.l1TscScalingRatio = ratio
  distance : v.l1TscOffset - v.ia32TscAdjustMsr = distance

variable {h} {ratio distance : BitVec 64} {v : VcpuTsc}

/-- An adjustment that both numbers take leaves their distance. -/
theorem sub_add_sub (a b c : BitVec 64) : a + c - (b + c) = a - b := by
  rw [BitVec.sub_eq_iff_eq_add, ← BitVec.add_assoc, BitVec.sub_add_cancel]

theorem TscDistance.tscWrite (hv : TscDistance ratio distance v) (e : TscWrite) :
    TscDistance ratio distance (tscWrite h v e).2 := by
  obtain ⟨houtside, hcatchup, hratio, hdistance⟩ := hv
  cases e with
  | ia32Tsc rdtsc data =>
    refine ⟨⟨rfl, houtside.ratio⟩, hcatchup, hratio, ?_⟩
    rw [← hdistance]
    exact sub_add_sub _ _ _
  | ia32TscAdjust data =>
    refine ⟨⟨rfl, houtside.ratio⟩, hcatchup, hratio, ?_⟩
    -- the offset takes the difference of the values, the MSR becomes the new one
    have hdata : data = v.ia32TscAdjustMsr + (data - v.ia32TscAdjustMsr) := by
      rw [BitVec.add_comm, BitVec.sub_add_cancel]
    have hkept := sub_add_sub v.l1TscOffset v.ia32TscAdjustMsr (data - v.ia32TscAdjustMsr)
    rw [← hdata] at hkept
    rw [← hdistance]
    exact hkept
  | clockUpdate kernelNs rdtsc =>
    have hkeep : (Kvm.tscWrite h v (.clockUpdate kernelNs rdtsc)).2 =
        { v with clockUpdate := false } := by
      simp [Kvm.tscWrite, tscCatchUp, hcatchup]
    rw [hkeep]
    exact ⟨⟨houtside.offset, houtside.ratio⟩, hcatchup, hratio, hdistance⟩

/-- What the guest reads as the difference depends on the host counter only. -/
theorem TscDistance.guestTscDifference (hv : TscDistance ratio distance v) (rdtsc : BitVec 64) :
    guestTscDifference h v rdtsc = kvmScaleTsc h.caps rdtsc ratio + distance := by
  rw [Kvm.guestTscDifference, getMsrIa32Tsc, getMsrIa32TscAdjust, hv.outside.ratio, hv.ratio,
    hv.outside.offset, ← hv.distance]
  simp only [BitVec.sub_eq_add_neg, BitVec.add_assoc]

/-- **The two MSRs stay at their distance**: whatever the guest writes, the offset and the
adjustment keep their difference, the guest reads the same difference of the MSRs at every host
time, and right behind a write of the counter it reads what it has written. -/
theorem tscDistance_kept (h : ClockHost) {v : VcpuTsc} (houtside : OutsideGuestMode v)
    (hcatchup : v.tscCatchup = false) (es : List TscWrite) :
    (Runs.final (tscWrite h) v es).l1TscOffset - (Runs.final (tscWrite h) v es).ia32TscAdjustMsr =
        v.l1TscOffset - v.ia32TscAdjustMsr ∧
      (∀ rdtsc, guestTscDifference h (Runs.final (tscWrite h) v es) rdtsc =
        guestTscDifference h v rdtsc) ∧
      ∀ rdtsc data, getMsrIa32Tsc h.caps
        (tscWrite h (Runs.final (tscWrite h) v es) (.ia32Tsc rdtsc data)).2 rdtsc = data := by
  have hv : TscDistance v.l1TscScalingRatio (v.l1TscOffset - v.ia32TscAdjustMsr) v :=
    ⟨houtside, hcatchup, rfl, rfl⟩
  have hfinal := @Runs.final_induct _ _ _ (tscWrite h) _ (fun _ e hs => hs.tscWrite e) es _ hv
  refine ⟨hfinal.distance, fun rdtsc => ?_, fun rdtsc data => ?_⟩
  · rw [hfinal.guestTscDifference, hv.guestTscDifference]
  · exact getMsr_setMsr hfinal.outside rdtsc data

theorem tscDistance_kept_new :
    let h : ClockHost := {
      caps := { tscKhz := 3000000 }
      pvclockScaleDelta := fun delta _ _ => delta }
    let es : List TscWrite := [.ia32Tsc 1000 5, .clockUpdate 0 1100, .ia32TscAdjust 7]
    (Runs.final (tscWrite h) {} es).l1TscOffset - (Runs.final (tscWrite h) {} es).ia32TscAdjustMsr =
        0 - 0 ∧
      (∀ rdtsc, guestTscDifference h (Runs.final (tscWrite h) {} es) rdtsc =
        guestTscDifference h {} rdtsc) ∧
      ∀ rdtsc data, getMsrIa32Tsc h.caps
        (tscWrite h (Runs.final (tscWrite h) {} es) (.ia32Tsc rdtsc data)).2 rdtsc = data :=
  tscDistance_kept _ ⟨rfl, rfl⟩ rfl _

end Kvm
