import PveAntiDetection.Lib.Rates
import PveAntiDetection.Kvm.ScaleAccuracy

/-!
# The clock of the guest and `KVM_GET_CLOCK`

Both clocks start at the master clock of the VM.  The guest converts scaled cycles with the scale
that `kvm_guest_time_update` leaves, the host converts its own with a scale of its own.

* `pvclockReadCycles` — what is computed of a clock and a counter;
* `getKvmclock` — the clock of the host;
* `converts_pvclockCycles` — the scale of `kvm_get_time_scale` is off by at most one part in 10^9;
* `ClockReachable`, `scaleCached_of_reachable` — a virtual CPU has the scale of its frequency;
* `kvmclock_drift` — how far the two clocks drift apart.
-/

set_option autoImplicit false

namespace Kvm

open Rates

/-! ## Reading a clock -/

/-- `pvclock_scale_delta` without the bound of 64 bits. -/
def pvclockCycles (delta : Nat) (mul : BitVec 32) (shift : Int) : Nat :=
  let delta := if 0 ≤ shift then delta * 2 ^ shift.toNat else delta / 2 ^ (-shift).toNat
  delta * mul.toNat / 2 ^ 32

/-- `__pvclock_read_cycles`. -/
def pvclockReadCycles (src : PvclockTime) (tsc : BitVec 64) : Nat :=
  src.systemTime.toNat +
    pvclockCycles (tsc - src.tscTimestamp).toNat src.tscToSystemMul src.tscShift

/-- `struct kvm_clock_data`. -/
structure KvmClockData where
  clock : Nat := 0
  flags : BitVec 32 := 0
  realtime : BitVec 64 := 0
  hostTsc : BitVec 64 := 0
  deriving DecidableEq

/-- What `kvm_get_walltime_and_clockread` writes: `ts` and the counter. -/
structure WalltimeRead where
  tvSec : BitVec 64
  tvNsec : BitVec 64
  tsc : BitVec 64
  deriving DecidableEq

section Host

variable (h : ClockHost)

/-- `__get_kvmclock`; `walltime` is what `kvm_get_walltime_and_clockread` writes, if it succeeds. -/
def getKvmclock (fuel : Nat) (env : ClockEnv) (walltime : Option WalltimeRead) :
    Option KvmClockData :=
  if env.useMasterClock ∧ (h.constantTsc ∨ env.cpuTscKhz ≠ 0) then
    let data : KvmClockData :=
      match walltime with
      | some ts =>
        -- `KVM_CLOCK_REALTIME | KVM_CLOCK_HOST_TSC`
        { realtime := ts.tvNsec + nsecPerSec * ts.tvSec, flags := 4 ||| 8, hostTsc := ts.tsc }
      | none => { hostTsc := env.rdtsc }
    do
      let r ← kvmGetTimeScale fuel nsecPerSec (getCpuTscKhz h env * 1000)
      let hvClock : PvclockTime := {
        tscTimestamp := env.masterCycleNow
        systemTime := env.masterKernelNs + env.kvmclockOffset
        tscShift := r.1
        tscToSystemMul := r.2 }
      -- `KVM_CLOCK_TSC_STABLE`
      return { data with
        flags := data.flags ||| 2
        clock := pvclockReadCycles hvClock data.hostTsc }
  else some { clock := (env.kvmclockBaseNs + env.kvmclockOffset).toNat }

/-- The clock that the guest reads of its page at a counter of the host. -/
def guestKvmclock (v : ClockVcpu) (hostTsc : BitVec 64) : Nat :=
  pvclockReadCycles v.hvClock (kvmReadL1Tsc h.caps v.tsc hostTsc)

end Host

/-! ## The scale -/

section Scale

variable {base : BitVec 64}

theorem nsecPerSec_toNat : nsecPerSec.toNat = 10 ^ 9 := rfl

/-- What the first loop leaves: the base frequency shifted down, and by as little as possible. -/
theorem scaleDown_spec {fuel : Nat} {r : BitVec 64 × Int}
    (hr : scaleDown nsecPerSec fuel (base, 0) = some r) :
    r.1.toNat ≤ 2 * 10 ^ 9 ∧ ∃ k : Nat, r.2 = -k ∧ r.1.toNat = base.toNat / 2 ^ k ∧
      (k ≠ 0 → 10 ^ 9 ≤ r.1.toNat) := by
  obtain ⟨hle, -, k, hdown⟩ := scaleDown_scaledDown (by rw [nsecPerSec_toNat]; omega) hr
  rw [nsecPerSec_toNat] at hle
  refine ⟨hle, k, hdown.shift, hdown.tps, fun hk => ?_⟩
  have hlarge := hdown.large hk
  rw [nsecPerSec_toNat] at hlarge
  omega

/-- What the second loop leaves: the frequency shifted up until it is more than 10^9. -/
theorem scaleUp_spec {fuel : Nat} {tps32 : BitVec 32} {shift : Int} {t : ScaleUp}
    (hle : tps32.toNat ≤ 2 * 10 ^ 9) (ht : scaleUp fuel ⟨tps32, nsecPerSec, shift⟩ = some t) :
    t.scaled64 = nsecPerSec ∧ 10 ^ 9 < t.tps32.toNat ∧ t.tps32.toNat ≤ 2 * 10 ^ 9 ∧
      ∃ j : Nat, t.shift = shift + j ∧ t.tps32.toNat = tps32.toNat * 2 ^ j ∧
        (10 ^ 9 ≤ tps32.toNat → j ≤ 1) := by
  obtain ⟨-, hgt, a, b, hup⟩ := scaleUp_scaledUp ht
  have hscaled := hup.scaled
  have htps := hup.tps
  have hshift := hup.shift
  have hlarge := hup.large
  have hsmall := hup.small
  simp only [nsecPerSec_toNat] at hscaled htps hshift hsmall
  -- 10^9 is below 2^30, so it has not been shifted
  have ha : a = 0 := by
    by_contra hne
    have hge := hlarge hne
    have hself := Nat.div_le_self (10 ^ 9) (2 ^ a)
    omega
  subst ha
  rw [Nat.pow_zero, Nat.div_one] at hscaled
  have hle2 : t.tps32.toNat ≤ 2 * 10 ^ 9 := by
    by_cases hb : b = 0
    · rw [hb, Nat.pow_zero, Nat.mul_one] at htps
      omega
    · exact hsmall hb
  refine ⟨BitVec.eq_of_toNat_eq hscaled, by omega, hle2, b, by omega, htps, fun hge => ?_⟩
  have htwo : 2 ^ b ≤ 2 ^ 1 := by
    refine Nat.le_of_mul_le_mul_left (c := 10 ^ 9) ?_ (by omega)
    calc 10 ^ 9 * 2 ^ b ≤ tps32.toNat * 2 ^ b := Nat.mul_le_mul_right _ hge
      _ ≤ 10 ^ 9 * 2 ^ 1 := by omega
  exact (Nat.pow_le_pow_iff_right (by omega)).mp htwo

/-- **The scale of `kvm_get_time_scale`** converts cycles of the base frequency to nanoseconds. -/
theorem converts_pvclockCycles {fuel : Nat} {r : Int × BitVec 32}
    (hr : kvmGetTimeScale fuel nsecPerSec base = some r) (delta : Nat) :
    Converts (10 ^ 9) base.toNat delta (pvclockCycles delta r.2 r.1) := by
  simp only [kvmGetTimeScale, Option.bind_eq_bind, Option.bind_eq_some_iff] at hr
  obtain ⟨d, hd, u, hu, q, hq, hr⟩ := hr
  obtain ⟨hdle, k, hdshift, hdown, hdge⟩ := scaleDown_spec hd
  have hd32 : (d.1.setWidth 32).toNat = d.1.toNat := by
    rw [BitVec.toNat_setWidth, Nat.mod_eq_of_lt (by omega)]
  obtain ⟨hscaled, hgt, hle, j, hushift, hup, hj⟩ := scaleUp_spec (hd32.trans_le hdle) hu
  rw [hd32] at hup hj
  have hmul := divFrac_eq hq
  rw [hscaled] at hmul
  have hmultiplier : Multiplier (10 ^ 9) (2 ^ 32) u.tps32.toNat q.toNat :=
    ⟨hgt, hle, by omega, hmul⟩
  cases hr
  have hshift : u.shift = j - k := by omega
  simp only [pvclockCycles, hshift]
  rcases Nat.eq_zero_or_pos k with rfl | hk
  · -- the frequency has only been shifted up
    rw [if_pos (by omega), show ((j : Int) - (0 : Nat)).toNat = j by omega]
    rw [Nat.pow_zero, Nat.div_one] at hdown
    rw [hup, hdown] at hmultiplier
    exact converts_mul hmultiplier
  · -- it has been shifted down, and at most once up again
    have hge := hdge hk.ne'
    have hj1 := hj hge
    have hpow : u.tps32.toNat * 2 ^ (k - j) = d.1.toNat * 2 ^ k := by
      rw [hup, Nat.mul_assoc, ← Nat.pow_add, Nat.add_sub_cancel' (by omega)]
    have hx : (if (0 : Int) ≤ j - k then delta * 2 ^ ((j : Int) - k).toNat
        else delta / 2 ^ (-((j : Int) - k)).toNat) = delta / 2 ^ (k - j) := by
      split
      · have hkj : k = j := by omega
        rw [hkj]
        simp
      · rw [show (-((j : Int) - k)).toNat = k - j by omega]
    rw [hx]
    have hbelow : d.1.toNat * 2 ^ k ≤ base.toNat := by
      rw [hdown]
      exact Nat.div_mul_le_self _ _
    have habove : base.toNat < d.1.toNat * 2 ^ k + 2 ^ k := by
      rw [hdown, ← Nat.succ_mul, Nat.mul_comm]
      exact Nat.lt_mul_div_succ _ (Nat.two_pow_pos k)
    refine converts_div hmultiplier (Nat.two_pow_pos _) (hpow.trans_le hbelow) (e := 2 ^ k) ?_ ?_
    · rw [hpow]
      exact habove
    · rw [hpow]
      exact Nat.mul_le_mul_right _ hge

end Scale

/-! ## Virtual CPUs with a clock -/

section Reachable

variable (h : ClockHost)

/-- The states of a virtual CPU: new, behind any write of its counter, and behind an update for a
frequency that fits into the 32 bits of `hw_tsc_khz`. -/
inductive ClockReachable : ClockVcpu → Prop where
  | new (tsc : VcpuTsc) : ClockReachable { tsc := tsc }
  | writeTsc {v : ClockVcpu} (tsc : VcpuTsc) (hv : ClockReachable v) :
      ClockReachable { v with tsc := tsc }
  | update {v v' : ClockVcpu} {fuel : Nat} {env : ClockEnv} {ret : Int} (hv : ClockReachable v)
      (hkhz : (tgtTscKhz h v.tsc env).toNat < 2 ^ 32)
      (hupdate : kvmGuestTimeUpdate h fuel v env = some (ret, v')) : ClockReachable v'

/-- The scale of the clock is that of the frequency it was computed for, if it was. -/
def ScaleCached (v : ClockVcpu) : Prop :=
  v.hwTscKhz ≠ 0 → ∃ fuel, kvmGetTimeScale fuel nsecPerSec (v.hwTscKhz.setWidth 64 * 1000) =
    some (v.hvClock.tscShift, v.hvClock.tscToSystemMul)

variable {h} {v v' : ClockVcpu} {fuel : Nat} {env : ClockEnv} {tgt : BitVec 64}

theorem setWidth_khz (htgt : tgt.toNat < 2 ^ 32) : (tgt.setWidth 32).setWidth 64 = tgt := by
  refine BitVec.eq_of_toNat_eq ?_
  rw [BitVec.toNat_setWidth_of_le (by omega), BitVec.toNat_setWidth, Nat.mod_eq_of_lt htgt]

/-- Behind `updateScale` the scale is that of the frequency of the guest. -/
theorem updateScale_spec (hv : ScaleCached v) (htgt : tgt.toNat < 2 ^ 32)
    (hupdate : updateScale fuel v tgt = some v') :
    v'.hwTscKhz.setWidth 64 = tgt ∧ v'.tsc = v.tsc ∧ ScaleCached v' := by
  unfold updateScale at hupdate
  split at hupdate
  · obtain ⟨r, hr, hv'⟩ := Option.bind_eq_some_iff.mp hupdate
    cases hv'
    refine ⟨setWidth_khz htgt, rfl, fun _ => ⟨fuel, ?_⟩⟩
    rw [setWidth_khz htgt]
    exact hr
  · rename_i hsame
    cases hupdate
    exact ⟨not_not.mp hsame, rfl, hv⟩

/-- Where the counter catches up, the timestamp is what the guest reads behind it. -/
theorem tscCatchUp_snd (w : VcpuTsc) (kernelNs hostTsc : BitVec 64) :
    (tscCatchUp h w kernelNs (kvmReadL1Tsc h.caps w hostTsc)).2 =
      kvmReadL1Tsc h.caps (tscCatchUp h w kernelNs (kvmReadL1Tsc h.caps w hostTsc)).1 hostTsc := by
  unfold tscCatchUp
  dsimp only
  split
  · simp only [kvmReadL1Tsc, adjustTscOffsetGuest, kvmVcpuWriteTscOffset]
    generalize computeGuestTsc h w kernelNs = tsc
    generalize kvmScaleTsc h.caps hostTsc w.l1TscScalingRatio = scaled
    rw [BitVec.add_assoc, BitVec.add_comm (tsc - _), ← BitVec.add_assoc, BitVec.add_comm,
      BitVec.sub_add_cancel]
  · rfl

theorem tscCatchUp_ratio (w : VcpuTsc) (kernelNs tscTimestamp : BitVec 64) :
    (tscCatchUp h w kernelNs tscTimestamp).1.l1TscScalingRatio = w.l1TscScalingRatio := by
  unfold tscCatchUp
  dsimp only
  split <;> rfl

/-- The clock behind an update. -/
structure UpdatedClock (h : ClockHost) (env : ClockEnv) (v v' : ClockVcpu) : Prop where
  ratio : v'.tsc.l1TscScalingRatio = v.tsc.l1TscScalingRatio
  khz : v'.hwTscKhz.setWidth 64 = tgtTscKhz h v.tsc env
  cached : ScaleCached v'
  timestamp : v'.hvClock.tscTimestamp = kvmReadL1Tsc h.caps v'.tsc
    (if env.useMasterClock then env.masterCycleNow else env.rdtsc)
  systemTime : v'.hvClock.systemTime =
    (if env.useMasterClock then env.masterKernelNs else env.kvmclockBaseNs) + env.kvmclockOffset

/-- An update either waits for the frequency of the physical CPU, or leaves a new clock. -/
theorem kvmGuestTimeUpdate_spec {ret : Int} (hv : ScaleCached v)
    (hkhz : (tgtTscKhz h v.tsc env).toNat < 2 ^ 32)
    (hupdate : kvmGuestTimeUpdate h fuel v env = some (ret, v')) :
    (ret = 1 ∧ v'.hwTscKhz = v.hwTscKhz ∧ v'.hvClock = v.hvClock) ∨
      (ret = 0 ∧ getCpuTscKhz h env ≠ 0 ∧ UpdatedClock h env v v') := by
  unfold kvmGuestTimeUpdate at hupdate
  split at hupdate
  · cases hupdate
    exact .inl ⟨rfl, rfl, rfl⟩
  · rename_i hcpu
    dsimp only at hupdate
    have hsnd := tscCatchUp_snd (h := h) v.tsc
      (if env.useMasterClock then env.masterKernelNs else env.kvmclockBaseNs)
      (if env.useMasterClock then env.masterCycleNow else env.rdtsc)
    have htgt := tgtTscKhz_catchUp h v.tsc
      (if env.useMasterClock then env.masterKernelNs else env.kvmclockBaseNs)
      (kvmReadL1Tsc h.caps v.tsc (if env.useMasterClock then env.masterCycleNow else env.rdtsc)) env
    have hratio := tscCatchUp_ratio (h := h) v.tsc
      (if env.useMasterClock then env.masterKernelNs else env.kvmclockBaseNs)
      (kvmReadL1Tsc h.caps v.tsc (if env.useMasterClock then env.masterCycleNow else env.rdtsc))
    generalize tscCatchUp h v.tsc _ _ = r at hupdate hsnd htgt hratio
    rw [htgt] at hupdate
    obtain ⟨w, hw, hv'⟩ := Option.bind_eq_some_iff.mp hupdate
    obtain ⟨hhw, htsc, hcached⟩ := updateScale_spec (v := { v with tsc := r.1 }) hv hkhz hw
    cases hv'
    refine .inr ⟨rfl, hcpu, ?_, hhw, hcached, ?_, rfl⟩
    · show w.tsc.l1TscScalingRatio = _
      rw [htsc]
      exact hratio
    · show r.2 = w.tsc.l1TscOffset + kvmScaleTsc h.caps _ w.tsc.l1TscScalingRatio
      rw [htsc]
      exact hsnd

/-- **The scale of a virtual CPU belongs to its frequency** in every reachable state. -/
theorem scaleCached_of_reachable (hv : ClockReachable h v) : ScaleCached v := by
  induction hv with
  | new tsc => exact fun hne => absurd rfl hne
  | writeTsc tsc _ ih => exact ih
  | update hv hkhz hupdate ih =>
    rcases kvmGuestTimeUpdate_spec ih hkhz hupdate with ⟨-, hkhz', hclock⟩ | ⟨-, -, hclock⟩
    · unfold ScaleCached
      rw [hkhz', hclock]
      exact ih
    · exact hclock.cached

end Reachable

/-! ## The two clocks -/

section Drift

variable {h : ClockHost} {env env' : ClockEnv} {v v' : ClockVcpu} {w : VcpuTsc}

/-- The update of the guest and `__get_kvmclock` see the same master clock, offset and frequency. -/
structure SameMasterClock (h : ClockHost) (env env' : ClockEnv) : Prop where
  inUse : env.useMasterClock = true
  inUse' : env'.useMasterClock = true
  cycleNow : env'.masterCycleNow = env.masterCycleNow
  kernelNs : env'.masterKernelNs = env.masterKernelNs
  offset : env'.kvmclockOffset = env.kvmclockOffset
  khz : getCpuTscKhz h env' = getCpuTscKhz h env

/-- The counter that `__get_kvmclock` reads. -/
def readHostTsc (env : ClockEnv) (walltime : Option WalltimeRead) : BitVec 64 :=
  walltime.elim env.rdtsc WalltimeRead.tsc

/-- The frequency of the guest in kHz, without a bound. -/
def guestKhz (h : ClockHost) (env : ClockEnv) (w : VcpuTsc) : Nat :=
  scaleCycles h.caps w.l1TscScalingRatio (getCpuTscKhz h env).toNat

/-- Nothing overflows, the frequency of the guest is not rounded to 0, and the ratio is that of a
vendor with `has_tsc_control`. -/
structure ClockFits (h : ClockHost) (env : ClockEnv) (w : VcpuTsc) (hostTsc : BitVec 64) :
    Prop where
  khz_lt : (getCpuTscKhz h env).toNat < 2 ^ 54
  guestKhz_pos : 0 < guestKhz h env w
  guestKhz_lt : guestKhz h env w < 2 ^ 32
  scaled_lt : scaleCycles h.caps w.l1TscScalingRatio hostTsc.toNat < 2 ^ 64
  control : h.caps.hasTscControl = true ∨
    w.l1TscScalingRatio = h.caps.defaultTscScalingRatio

theorem toNat_tgtTscKhz {hostTsc : BitVec 64} (hfits : ClockFits h env w hostTsc) :
    (tgtTscKhz h w env).toNat = guestKhz h env w := by
  have hlt := hfits.guestKhz_lt
  unfold tgtTscKhz guestKhz at *
  split
  · exact toNat_kvmScaleTsc (by omega)
  · rename_i hcontrol
    rw [hfits.control.resolve_left hcontrol, scaleCycles_default]

/-- A ratio that `set_tsc_khz` writes gives the guest no more than the frequency of 32 bits that
userspace has set. -/
theorem guestKhz_le {userTscKhz : BitVec 32} (hconstant : h.constantTsc = true)
    (hbits : h.caps.tscScalingRatioFracBits < 64)
    (hratio : w.l1TscScalingRatio =
      mulU64U32Div h.caps.defaultTscScalingRatio userTscKhz h.caps.tscKhz) :
    guestKhz h env w ≤ userTscKhz.toNat := by
  have hdefault : h.caps.defaultTscScalingRatio.toNat = 2 ^ h.caps.tscScalingRatioFracBits := by
    have hlt := Nat.pow_lt_pow_right (a := 2) (by omega) hbits
    show (BitVec.ofNat 64 (1 <<< h.caps.tscScalingRatioFracBits)).toNat = _
    rw [Nat.shiftLeft_eq, Nat.one_mul, BitVec.toNat_ofNat, Nat.mod_eq_of_lt hlt]
  have hkhz : (getCpuTscKhz h env).toNat = h.caps.tscKhz.toNat := by
    rw [getCpuTscKhz, if_pos hconstant, BitVec.toNat_setWidth_of_le (by omega)]
  have hdown : h.caps.tscKhz.toNat * w.l1TscScalingRatio.toNat ≤
      2 ^ h.caps.tscScalingRatioFracBits * userTscKhz.toNat := by
    rw [hratio, mulU64U32Div, hdefault, BitVec.toNat_ofNat, Nat.mul_comm]
    exact (Nat.mul_le_mul_right _ (Nat.mod_le _ _)).trans (Nat.div_mul_le_self _ _)
  have hone := Nat.two_pow_pos h.caps.tscScalingRatioFracBits
  unfold guestKhz scaleCycles
  rw [hkhz]
  split
  · rw [Nat.div_le_iff_le_mul_add_pred hone]
    omega
  · rename_i hsame
    rw [not_not.mp hsame, hdefault, Nat.mul_comm] at hdown
    exact Nat.le_of_mul_le_mul_left hdown hone

theorem toNat_khz {khz : BitVec 64} (hlt : khz.toNat < 2 ^ 54) :
    (khz * 1000).toNat = 1000 * khz.toNat := by
  rw [BitVec.toNat_mul, Nat.mul_comm]
  exact Nat.mod_eq_of_lt (by show 1000 * khz.toNat < _; omega)

/-- The cycles that the guest sees between two counters of the host. -/
theorem toNat_kvmReadL1Tsc_sub {a b : BitVec 64} (hle : b ≤ a)
    (hlt : scaleCycles h.caps w.l1TscScalingRatio a.toNat < 2 ^ 64) :
    (kvmReadL1Tsc h.caps w a - kvmReadL1Tsc h.caps w b).toNat =
      scaleCycles h.caps w.l1TscScalingRatio a.toNat -
        scaleCycles h.caps w.l1TscScalingRatio b.toNat := by
  have hmono : scaleCycles h.caps w.l1TscScalingRatio b.toNat ≤
      scaleCycles h.caps w.l1TscScalingRatio a.toNat := scaleCycles_le (BitVec.le_def.mp hle)
  have ha := toNat_kvmScaleTsc hlt
  have hb := toNat_kvmScaleTsc (Nat.lt_of_le_of_lt hmono hlt)
  have hsub : kvmReadL1Tsc h.caps w a - kvmReadL1Tsc h.caps w b =
      kvmScaleTsc h.caps a w.l1TscScalingRatio - kvmScaleTsc h.caps b w.l1TscScalingRatio := by
    simp only [kvmReadL1Tsc]
    generalize kvmScaleTsc h.caps a w.l1TscScalingRatio = x
    generalize kvmScaleTsc h.caps b w.l1TscScalingRatio = y
    rw [BitVec.add_comm w.l1TscOffset x, BitVec.add_comm w.l1TscOffset y]
    rw [BitVec.sub_eq_iff_eq_add, BitVec.add_comm y, ← BitVec.add_assoc]
    rw [BitVec.add_assoc (x - y), BitVec.add_comm w.l1TscOffset y, ← BitVec.add_assoc,
      BitVec.sub_add_cancel]
  rw [hsub, BitVec.toNat_sub_of_le (by rw [BitVec.le_def, ha, hb]; exact hmono), ha, hb]

/-- What `__get_kvmclock` answers with the master clock in use. -/
theorem getKvmclock_spec (hsame : SameMasterClock h env env') (hcpu : getCpuTscKhz h env ≠ 0)
    (hlt : (getCpuTscKhz h env).toNat < 2 ^ 54) (walltime : Option WalltimeRead) :
    ∃ fuel r data, kvmGetTimeScale fuel nsecPerSec (getCpuTscKhz h env * 1000) = some r ∧
      getKvmclock h fuel env' walltime = some data ∧
      data.hostTsc = readHostTsc env' walltime ∧
      data.clock = (env.masterKernelNs + env.kvmclockOffset).toNat +
        pvclockCycles (data.hostTsc - env.masterCycleNow).toNat r.2 r.1 := by
  have hbase : getCpuTscKhz h env * 1000 ≠ 0 := by
    intro hzero
    have hnat := toNat_khz hlt
    rw [hzero] at hnat
    have hpos : (getCpuTscKhz h env).toNat ≠ 0 := fun h0 => hcpu (BitVec.eq_of_toNat_eq h0)
    have hzero' : (0 : BitVec 64).toNat = 0 := rfl
    omega
  obtain ⟨fuel, r, hr⟩ := (kvmGetTimeScale_returns_iff nsecPerSec_two_ne).mpr hbase
  have hcond : env'.useMasterClock = true ∧ (h.constantTsc = true ∨ env'.cpuTscKhz ≠ 0) := by
    refine ⟨hsame.inUse', ?_⟩
    by_cases hconstant : h.constantTsc = true
    · exact .inl hconstant
    · refine .inr fun hzero => hcpu ?_
      rw [← hsame.khz, getCpuTscKhz, if_neg hconstant, hzero]
  refine ⟨fuel, r, ?_⟩
  unfold getKvmclock
  rw [if_pos hcond, hsame.khz, hsame.cycleNow, hsame.kernelNs, hsame.offset]
  cases walltime with
  | none => exact ⟨_, hr, by rw [hr]; rfl, rfl, rfl⟩
  | some ts => exact ⟨_, hr, by rw [hr]; rfl, rfl, rfl⟩

/-- What the guest reads behind an update. -/
theorem guestKvmclock_spec (hmaster : env.useMasterClock = true) (hv : UpdatedClock h env v v')
    {hostTsc : BitVec 64} (hfits : ClockFits h env v.tsc hostTsc)
    (hle : env.masterCycleNow ≤ hostTsc) :
    ∃ fuel r, kvmGetTimeScale fuel nsecPerSec (tgtTscKhz h v.tsc env * 1000) = some r ∧
      guestKvmclock h v' hostTsc = (env.masterKernelNs + env.kvmclockOffset).toNat +
        pvclockCycles (scaleCycles h.caps v.tsc.l1TscScalingRatio hostTsc.toNat -
          scaleCycles h.caps v.tsc.l1TscScalingRatio env.masterCycleNow.toNat) r.2 r.1 := by
  have hne : v'.hwTscKhz ≠ 0 := by
    intro hzero
    have hkhz := hv.khz
    rw [hzero] at hkhz
    have hpos := hfits.guestKhz_pos
    rw [← toNat_tgtTscKhz hfits, ← hkhz] at hpos
    exact Nat.lt_irrefl 0 hpos
  obtain ⟨fuel, hr⟩ := hv.cached hne
  rw [hv.khz] at hr
  have hsystem := hv.systemTime
  have htimestamp := hv.timestamp
  rw [hmaster, if_pos rfl] at hsystem htimestamp
  have hlt := hfits.scaled_lt
  rw [← hv.ratio] at hlt
  refine ⟨fuel, _, hr, ?_⟩
  rw [guestKvmclock, pvclockReadCycles, hsystem, htimestamp, toNat_kvmReadL1Tsc_sub hle hlt,
    hv.ratio]

/-- A guest that is not scaled has the frequency of the host. -/
theorem tgtTscKhz_default (hratio : v.tsc.l1TscScalingRatio = h.caps.defaultTscScalingRatio) :
    tgtTscKhz h v.tsc env = getCpuTscKhz h env := by
  unfold tgtTscKhz
  split
  · rw [hratio]
    exact if_neg (fun hne => hne rfl)
  · rfl

/-- The cycles of the host at its scale, and those of a scaled guest at the guest's. -/
theorem scaled_drift {fuel fuel' : Nat} {r g : Int × BitVec 32}
    (hr : kvmGetTimeScale fuel nsecPerSec (getCpuTscKhz h env * 1000) = some r)
    (hg : kvmGetTimeScale fuel' nsecPerSec (tgtTscKhz h v.tsc env * 1000) = some g)
    (hratio : v.tsc.l1TscScalingRatio ≠ h.caps.defaultTscScalingRatio)
    (hcpu : getCpuTscKhz h env ≠ 0) {hostTsc : BitVec 64} (hfits : ClockFits h env v.tsc hostTsc)
    (hle : env.masterCycleNow ≤ hostTsc) :
    let elapsedNs : ℚ := elapsed (10 ^ 9) (1000 * (getCpuTscKhz h env).toNat)
      (hostTsc.toNat - env.masterCycleNow.toNat)
    |(pvclockCycles (hostTsc.toNat - env.masterCycleNow.toNat) r.2 r.1 : ℚ) -
        pvclockCycles (scaleCycles h.caps v.tsc.l1TscScalingRatio hostTsc.toNat -
          scaleCycles h.caps v.tsc.l1TscScalingRatio env.masterCycleNow.toNat) g.2 g.1| ≤
      3 + 3 * elapsedNs / 10 ^ 9 + (elapsedNs + 10 ^ 6) / guestKhz h env v.tsc := by
  have hkhz := toNat_tgtTscKhz hfits
  have hguestlt := hfits.guestKhz_lt
  have hone := Nat.two_pow_pos h.caps.tscScalingRatioFracBits
  have hpos : 0 < (getCpuTscKhz h env).toNat :=
    Nat.pos_of_ne_zero fun h0 => hcpu (BitVec.eq_of_toNat_eq h0)
  have hconverts := converts_pvclockCycles hr (hostTsc.toNat - env.masterCycleNow.toNat)
  have hconverts' := converts_pvclockCycles hg
    (scaleCycles h.caps v.tsc.l1TscScalingRatio hostTsc.toNat -
      scaleCycles h.caps v.tsc.l1TscScalingRatio env.masterCycleNow.toNat)
  rw [toNat_khz hfits.khz_lt] at hconverts
  rw [toNat_khz (by omega), hkhz] at hconverts'
  have hscales := scales_div (getCpuTscKhz h env).toNat v.tsc.l1TscScalingRatio.toNat hone
    (BitVec.le_def.mp hle)
  have hscaled : ∀ x, scaleCycles h.caps v.tsc.l1TscScalingRatio x =
      x * v.tsc.l1TscScalingRatio.toNat / 2 ^ h.caps.tscScalingRatioFracBits :=
    fun x => if_pos hratio
  rw [hscaled, hscaled] at hconverts'
  have hguestKhz : guestKhz h env v.tsc = (getCpuTscKhz h env).toNat *
      v.tsc.l1TscScalingRatio.toNat / 2 ^ h.caps.tscScalingRatioFracBits := hscaled _
  rw [← hguestKhz] at hscales
  have hdrift := converts_drift hconverts hconverts' hscales hone (by omega) (by omega) hpos
    hfits.guestKhz_pos
  rw [hscaled, hscaled]
  push_cast at hdrift ⊢
  norm_num at hdrift ⊢
  exact hdrift

/-- **`KVM_GET_CLOCK` and the clock of the guest** are equal where the guest is not scaled, and
drift apart by the rounded part of the guest's frequency where it is. -/
theorem kvmclock_drift {fuel : Nat} {walltime : Option WalltimeRead} (hv : ClockReachable h v)
    (hupdate : kvmGuestTimeUpdate h fuel v env = some (0, v'))
    (hsame : SameMasterClock h env env')
    (hfits : ClockFits h env v.tsc (readHostTsc env' walltime))
    (hle : env.masterCycleNow ≤ readHostTsc env' walltime) :
    ∃ fuel' data, getKvmclock h fuel' env' walltime = some data ∧
      data.hostTsc = readHostTsc env' walltime ∧
      (v.tsc.l1TscScalingRatio = h.caps.defaultTscScalingRatio →
        guestKvmclock h v' data.hostTsc = data.clock) ∧
      let elapsedNs : ℚ := elapsed (10 ^ 9) (1000 * (getCpuTscKhz h env).toNat)
        (data.hostTsc.toNat - env.masterCycleNow.toNat)
      |(data.clock : ℚ) - guestKvmclock h v' data.hostTsc| ≤
        3 + 3 * elapsedNs / 10 ^ 9 + (elapsedNs + 10 ^ 6) / guestKhz h env v.tsc := by
  have hkhz := toNat_tgtTscKhz hfits
  have hguestlt := hfits.guestKhz_lt
  rcases kvmGuestTimeUpdate_spec (scaleCached_of_reachable hv) (hkhz.trans_lt hguestlt) hupdate with
    ⟨h1, -⟩ | ⟨-, hcpu, hclock⟩
  · cases h1
  obtain ⟨fuel', r, data, hr, hdata, htsc, hhost⟩ :=
    getKvmclock_spec hsame hcpu hfits.khz_lt walltime
  obtain ⟨fuel'', g, hg, hguest⟩ := guestKvmclock_spec hsame.inUse hclock hfits hle
  rw [← htsc] at hguest hle
  have hticks : (data.hostTsc - env.masterCycleNow).toNat =
      data.hostTsc.toNat - env.masterCycleNow.toNat := BitVec.toNat_sub_of_le hle
  rw [hticks] at hhost
  refine ⟨fuel', data, hdata, htsc, ?_⟩
  by_cases hratio : v.tsc.l1TscScalingRatio = h.caps.defaultTscScalingRatio
  · -- the same scale and the same cycles
    rw [tgtTscKhz_default hratio] at hg
    have hscale : r = g := by
      have hmax := kvmGetTimeScale_mono (Nat.le_max_left fuel' fuel'') hr
      have hmax' := kvmGetTimeScale_mono (Nat.le_max_right fuel' fuel'') hg
      exact Option.some.inj (hmax.symm.trans hmax')
    have hequal : guestKvmclock h v' data.hostTsc = data.clock := by
      rw [hguest, hhost, hratio, scaleCycles_default, scaleCycles_default, hscale]
    refine ⟨fun _ => hequal, ?_⟩
    rw [hequal, sub_self, abs_zero]
    unfold elapsed
    positivity
  · refine ⟨fun heq => absurd heq hratio, ?_⟩
    have hdrift := scaled_drift hr hg hratio hcpu hfits (htsc ▸ hle)
    rw [← htsc] at hdrift
    rw [hhost, hguest]
    push_cast
    rw [add_sub_add_left_eq_sub]
    exact hdrift

end Drift

/-! ## A guest at 2.9 GHz on a host at 3 GHz -/

/-- A virtual CPU that userspace has set to 2.9 GHz: its ratio is rounded down. -/
def scaledVcpu : ClockVcpu := { tsc := (afterCall {} (.setTscKhz 2900000)).tsc }

/-- Ten seconds after the master clock was taken. -/
def tenSecondsOn : ClockEnv := { useMasterClock := true, rdtsc := 30000000000 }

/-- `scaledVcpu` behind its clock update. -/
def updatedVcpu : ClockVcpu :=
  ((kvmGuestTimeUpdate scalingHost 200 scaledVcpu tenSecondsOn).getD (0, {})).2

theorem updatedVcpu_eq :
    kvmGuestTimeUpdate scalingHost 200 scaledVcpu tenSecondsOn = some (0, updatedVcpu) := by
  decide +kernel

theorem scaledVcpu_reachable : ClockReachable scalingHost scaledVcpu := .new _

theorem tenSecondsOn_same : SameMasterClock scalingHost tenSecondsOn tenSecondsOn :=
  ⟨rfl, rfl, rfl, rfl, rfl, rfl⟩

theorem scaledVcpu_fits :
    ClockFits scalingHost tenSecondsOn scaledVcpu.tsc (readHostTsc tenSecondsOn none) :=
  ⟨by decide, by decide +kernel, by decide +kernel, by decide +kernel, .inl rfl⟩

/-- Its frequency becomes 2899999 kHz, and in ten seconds the clocks drift 3449 ns apart. -/
theorem kvmclockDrifted :
    ClockReachable scalingHost scaledVcpu ∧
      kvmGuestTimeUpdate scalingHost 200 scaledVcpu tenSecondsOn = some (0, updatedVcpu) ∧
      SameMasterClock scalingHost tenSecondsOn tenSecondsOn ∧
      ClockFits scalingHost tenSecondsOn scaledVcpu.tsc 30000000000 ∧
      ∃ data, getKvmclock scalingHost 200 tenSecondsOn none = some data ∧
        data.hostTsc = 30000000000 ∧
        guestKvmclock scalingHost updatedVcpu data.hostTsc = data.clock + 3449 :=
  ⟨scaledVcpu_reachable, updatedVcpu_eq, tenSecondsOn_same, scaledVcpu_fits,
    (getKvmclock scalingHost 200 tenSecondsOn none).getD {}, by decide +kernel, by decide +kernel,
    by decide +kernel⟩

theorem kvmclock_drift_scaled :
    ∃ fuel' data, getKvmclock scalingHost fuel' tenSecondsOn none = some data ∧
      data.hostTsc = readHostTsc tenSecondsOn none ∧
      (scaledVcpu.tsc.l1TscScalingRatio = scalingHost.caps.defaultTscScalingRatio →
        guestKvmclock scalingHost updatedVcpu data.hostTsc = data.clock) ∧
      let elapsedNs : ℚ := elapsed (10 ^ 9) (1000 * (getCpuTscKhz scalingHost tenSecondsOn).toNat)
        (data.hostTsc.toNat - tenSecondsOn.masterCycleNow.toNat)
      |(data.clock : ℚ) - guestKvmclock scalingHost updatedVcpu data.hostTsc| ≤
        3 + 3 * elapsedNs / 10 ^ 9 +
          (elapsedNs + 10 ^ 6) / guestKhz scalingHost tenSecondsOn scaledVcpu.tsc :=
  kvmclock_drift scaledVcpu_reachable updatedVcpu_eq tenSecondsOn_same scaledVcpu_fits
    (by decide +kernel)

end Kvm
