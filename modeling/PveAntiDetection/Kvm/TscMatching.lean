import PveAntiDetection.Lib.Generations
import PveAntiDetection.Lib.Runs
import PveAntiDetection.Kvm.Tsc

/-!
# Matching the counters of a VM

`x86.c` guesses which writes of userspace are meant to synchronise the virtual CPUs, and counts
those that are in step; the master clock needs all of them.

* `KvmTsc` — what a VM keeps of the writes;
* `kvmSynchronizeTsc`, `kvmArchTscSetAttr` — the two ways into `__kvm_synchronize_tsc`;
* `pvclockUpdateVmGtodCopy` — the master clock;
* `VmTsc`, `tscStep` — a VM with any number of virtual CPUs, and one call;
* `VmTsc.group` — the abstract view: generations of a group;
* `tscMatched_exact` — the count is exact, and a full count means what it should.
-/

set_option autoImplicit false

namespace Kvm

/-! ## The state of a VM -/

/-- The part of `struct kvm_arch` about the counters. -/
structure KvmTsc where
  lastTscNsec : BitVec 64 := 0
  lastTscWrite : BitVec 64 := 0
  lastTscOffset : BitVec 64 := 0
  lastTscKhz : BitVec 32 := 0
  curTscNsec : BitVec 64 := 0
  curTscWrite : BitVec 64 := 0
  curTscOffset : BitVec 64 := 0
  curTscGeneration : Nat := 0
  nrVcpusMatchedTsc : Nat := 0
  userSetTsc : Bool := false
  useMasterClock : Bool := false
  masterKernelNs : BitVec 64 := 0
  masterCycleNow : BitVec 64 := 0
  backwardsTscObserved : Bool := false
  bootVcpuRunsOldKvmclock : Bool := false
  deriving DecidableEq

/-- A VM and its online virtual CPUs. -/
structure VmTsc where
  kvm : KvmTsc := {}
  vcpus : List VcpuTsc := []
  deriving DecidableEq

/-- What a call reads of the host: its counter, `get_kvmclock_base_ns`, `kvm_check_tsc_unstable`,
its counter once more, and whether the clock source is based on it. -/
structure HostClock where
  rdtsc : BitVec 64
  ns : BitVec 64
  tscUnstable : Bool
  rdtscAgain : BitVec 64
  gtodIsBasedOnTsc : Bool
  deriving DecidableEq

section Functions

variable (caps : TscCaps) (nsecToCycles : VcpuTsc → BitVec 64 → BitVec 64) (onlineVcpus : Nat)
  (k : KvmTsc) (v : VcpuTsc) (clock : HostClock)

/-- The test of both readers of `nr_vcpus_matched_tsc`. -/
def KvmTsc.vcpusMatched : Bool := k.nrVcpusMatchedTsc + 1 = onlineVcpus

/-- `kvm_track_tsc_matching`. -/
def kvmTrackTscMatching (newGeneration : Bool) : VcpuTsc :=
  let useMasterClock := k.vcpusMatched onlineVcpus && clock.gtodIsBasedOnTsc
  if (k.useMasterClock ∧ newGeneration) ∨ k.useMasterClock ≠ useMasterClock then
    { v with masterclockUpdate := true }
  else v

/-- `__kvm_synchronize_tsc`. -/
def kvmSynchronizeTscTo (offset tsc ns : BitVec 64) (matched : Bool) : KvmTsc × VcpuTsc :=
  let k := { k with
    lastTscNsec := ns
    lastTscWrite := tsc
    lastTscKhz := v.virtualTscKhz
    lastTscOffset := offset }
  let v := kvmVcpuWriteTscOffset { v with lastGuestTsc := tsc } offset
  let k :=
    if ¬ matched then
      { k with
        curTscGeneration := k.curTscGeneration + 1
        curTscNsec := ns
        curTscWrite := tsc
        curTscOffset := offset
        nrVcpusMatchedTsc := 0 }
    else if v.thisTscGeneration ≠ k.curTscGeneration then
      { k with nrVcpusMatchedTsc := k.nrVcpusMatchedTsc + 1 }
    else k
  let v := { v with
    thisTscGeneration := k.curTscGeneration
    thisTscNsec := k.curTscNsec
    thisTscWrite := k.curTscWrite }
  (k, kvmTrackTscMatching onlineVcpus k v clock (!matched))

/-- `kvm_synchronize_tsc`: a new virtual CPU comes without a value, a write of userspace with. -/
def kvmSynchronizeTsc (userValue : Option (BitVec 64)) : KvmTsc × VcpuTsc :=
  let data := userValue.getD 0
  let offset := kvmComputeL1TscOffset caps v clock.rdtsc data
  let elapsed := clock.ns - k.lastTscNsec
  let synchronizing :=
    if v.virtualTscKhz ≠ 0 then
      if data = 0 then true
      else if k.userSetTsc then
        let tscExp := k.lastTscWrite + nsecToCycles v elapsed
        let tscHz := v.virtualTscKhz.setWidth 64 * 1000
        data < tscExp + tscHz && tscExp < data + tscHz
      else false
    else false
  let k := if userValue.isSome then { k with userSetTsc := true } else k
  if synchronizing ∧ v.virtualTscKhz = k.lastTscKhz then
    if ¬ clock.tscUnstable then
      kvmSynchronizeTscTo onlineVcpus k v clock k.curTscOffset data clock.ns true
    else
      let data := data + nsecToCycles v elapsed
      let offset := kvmComputeL1TscOffset caps v clock.rdtscAgain data
      kvmSynchronizeTscTo onlineVcpus k v clock offset data clock.ns true
  else kvmSynchronizeTscTo onlineVcpus k v clock offset data clock.ns false

/-- `kvm_arch_tsc_set_attr` of `KVM_VCPU_TSC_OFFSET`. -/
def kvmArchTscSetAttr (offset : BitVec 64) : KvmTsc × VcpuTsc :=
  let matched := v.virtualTscKhz ≠ 0 ∧ k.lastTscKhz = v.virtualTscKhz ∧ k.lastTscOffset = offset
  let tsc := kvmScaleTsc caps clock.rdtsc v.l1TscScalingRatio + offset
  let k := { k with userSetTsc := true }
  kvmSynchronizeTscTo onlineVcpus k v clock offset tsc clock.ns matched

/-- `pvclock_update_vm_gtod_copy`, over what `kvm_get_time_and_clockread` answers and writes. -/
def pvclockUpdateVmGtodCopy (hostTscClocksource : Bool) (kernelNs cycleNow : BitVec 64) : KvmTsc :=
  { k with
    masterKernelNs := kernelNs
    masterCycleNow := cycleNow
    useMasterClock := hostTscClocksource && k.vcpusMatched onlineVcpus &&
      !k.backwardsTscObserved && !k.bootVcpuRunsOldKvmclock }

end Functions

/-! ## Calls -/

/-- A call on a VM; a virtual CPU is named by its index. -/
inductive TscCall where
  /-- `kvm_arch_vcpu_create`: the virtual CPU is zeroed. -/
  | create
  /-- `kvm_set_tsc_khz`, with whatever it leaves. -/
  | setTscKhz (i : Nat) (khz mult : BitVec 32) (shift : Int) (ratio : BitVec 64)
  | synchronize (i : Nat) (userValue : Option (BitVec 64)) (clock : HostClock)
  | setOffset (i : Nat) (offset : BitVec 64) (clock : HostClock)
  | updateGtodCopy (hostTscClocksource : Bool) (kernelNs cycleNow : BitVec 64)
  deriving DecidableEq

/-- The virtual CPU that the call puts into a generation. -/
def TscCall.synchronized : TscCall → Option Nat
  | synchronize i _ _ => some i
  | setOffset i _ _ => some i
  | _ => none

/-- A call on the VM and on one of its virtual CPUs. -/
def VmTsc.withVcpu (s : VmTsc) (i : Nat) (f : VcpuTsc → KvmTsc × VcpuTsc) : VmTsc :=
  match s.vcpus[i]? with
  | some v => ⟨(f v).1, s.vcpus.set i (f v).2⟩
  | none => s

/-- One call. -/
def tscStep (caps : TscCaps) (nsecToCycles : VcpuTsc → BitVec 64 → BitVec 64) (s : VmTsc)
    (call : TscCall) : Unit × VmTsc :=
  let online := s.vcpus.length
  match call with
  | .create => ((), { s with vcpus := s.vcpus ++ [{}] })
  | .setTscKhz i khz mult shift ratio =>
    ((), s.withVcpu i fun v => (s.kvm, kvmVcpuWriteTscMultiplier
      { v with virtualTscKhz := khz, virtualTscMult := mult, virtualTscShift := shift } ratio))
  | .synchronize i userValue clock =>
    ((), s.withVcpu i fun v => kvmSynchronizeTsc caps nsecToCycles online s.kvm v clock userValue)
  | .setOffset i offset clock =>
    ((), s.withVcpu i fun v => kvmArchTscSetAttr caps online s.kvm v clock offset)
  | .updateGtodCopy hostTscClocksource kernelNs cycleNow =>
    ((), { s with
      kvm := pvclockUpdateVmGtodCopy online s.kvm hostTscClocksource kernelNs cycleNow })

/-! ## The abstract view -/

/-- What a virtual CPU carries: its generation, and the time and the value of the write. -/
def VcpuTsc.stamp (v : VcpuTsc) : Nat × BitVec 64 × BitVec 64 :=
  (v.thisTscGeneration, v.thisTscNsec, v.thisTscWrite)

/-- The generations of the VM. -/
def VmTsc.group (s : VmTsc) : Generations.Group (BitVec 64 × BitVec 64) where
  current := s.kvm.curTscGeneration
  data := (s.kvm.curTscNsec, s.kvm.curTscWrite)
  matched := s.kvm.nrVcpusMatchedTsc
  members := s.vcpus.map VcpuTsc.stamp

/-- A virtual CPU goes into a generation.  It joins the current one only where some write has been
seen: `last_tsc_khz` is the frequency of the virtual CPU that wrote. -/
inductive Synchronizes (s s' : VmTsc) : Prop where
  | advance (i : Nat) (hi : i < s.group.members.length) (d : BitVec 64 × BitVec 64)
      (hgroup : s'.group = s.group.advance i d)
  | join (i : Nat) (hi : i < s.group.members.length) (hkhz : s.kvm.lastTscKhz ≠ 0)
      (hgroup : s'.group = s.group.join i)

/-- What a call does to the generations. -/
inductive Moves (s s' : VmTsc) : Prop where
  | add (hgroup : s'.group = s.group.add (0, 0)) (hkvm : s'.kvm = s.kvm)
  | stay (hgroup : s'.group = s.group) (hkhz : s'.kvm.lastTscKhz = s.kvm.lastTscKhz)
  | synchronize (h : Synchronizes s s')

section Refinement

variable {caps : TscCaps} {nsecToCycles : VcpuTsc → BitVec 64 → BitVec 64} {online : Nat}
  {s : VmTsc} {i : Nat} {v : VcpuTsc}

@[simp] theorem kvmTrackTscMatching_stamp (k : KvmTsc) (v : VcpuTsc) (clock : HostClock)
    (b : Bool) : (kvmTrackTscMatching online k v clock b).stamp = v.stamp := by
  unfold kvmTrackTscMatching
  dsimp only
  split <;> rfl

theorem withVcpu_some (hv : s.vcpus[i]? = some v) (f : VcpuTsc → KvmTsc × VcpuTsc) :
    s.withVcpu i f = ⟨(f v).1, s.vcpus.set i (f v).2⟩ := by
  rw [VmTsc.withVcpu, hv]

/-- The two ways through `__kvm_synchronize_tsc`. -/
theorem synchronizeTo_synchronizes (hv : s.vcpus[i]? = some v) (k : KvmTsc)
    (hk : (VmTsc.mk k s.vcpus).group = s.group)
    (clock : HostClock) (offset tsc ns : BitVec 64) (matched : Bool)
    (hmatched : matched = true → s.kvm.lastTscKhz ≠ 0) :
    let r := kvmSynchronizeTscTo online k v clock offset tsc ns matched
    Synchronizes s ⟨r.1, s.vcpus.set i r.2⟩ := by
  have hi : i < s.vcpus.length := (List.getElem?_eq_some_iff.mp hv).1
  have hlen : i < s.group.members.length := by
    rw [VmTsc.group, List.length_map]
    exact hi
  cases matched with
  | false =>
    refine .advance i hlen (ns, tsc) ?_
    rw [← hk]
    simp only [VmTsc.group, Generations.Group.advance, kvmSynchronizeTscTo, List.map_set,
      kvmTrackTscMatching_stamp]
    rfl
  | true =>
    refine .join i hlen (hmatched rfl) ?_
    rw [← hk]
    have hstamp : (s.vcpus.map VcpuTsc.stamp)[i]?.map Prod.fst = some v.thisTscGeneration := by
      rw [List.getElem?_map, hv]
      rfl
    simp only [VmTsc.group, Generations.Group.join, kvmSynchronizeTscTo, List.map_set,
      kvmTrackTscMatching_stamp, hstamp, Option.some.injEq]
    by_cases hgen : v.thisTscGeneration = k.curTscGeneration
    · simp [VcpuTsc.stamp, hgen, kvmVcpuWriteTscOffset]
    · simp [VcpuTsc.stamp, hgen, kvmVcpuWriteTscOffset]

theorem kvmSynchronizeTsc_synchronizes (hv : s.vcpus[i]? = some v) (clock : HostClock)
    (userValue : Option (BitVec 64)) :
    let r := kvmSynchronizeTsc caps nsecToCycles online s.kvm v clock userValue
    Synchronizes s ⟨r.1, s.vcpus.set i r.2⟩ := by
  unfold kvmSynchronizeTsc
  extract_lets data offset elapsed tscExp tscHz synchronizing k data' offset' r
  have hk : (VmTsc.mk k s.vcpus).group = s.group ∧ k.lastTscKhz = s.kvm.lastTscKhz := by
    dsimp only [k]
    split
    · exact ⟨rfl, rfl⟩
    · exact ⟨rfl, rfl⟩
  dsimp only [r]
  split
  · rename_i hmatch
    have hkhz : s.kvm.lastTscKhz ≠ 0 := by
      rw [← hk.2, ← hmatch.2]
      intro hzero
      have hsync : synchronizing = true := hmatch.1
      simp [synchronizing, hzero] at hsync
    split
    · exact synchronizeTo_synchronizes hv k hk.1 clock k.curTscOffset data clock.ns true
        fun _ => hkhz
    · exact synchronizeTo_synchronizes hv k hk.1 clock offset' data' clock.ns true fun _ => hkhz
  · exact synchronizeTo_synchronizes hv k hk.1 clock offset data clock.ns false fun h => nomatch h

theorem kvmArchTscSetAttr_synchronizes (hv : s.vcpus[i]? = some v) (clock : HostClock)
    (offset : BitVec 64) :
    let r := kvmArchTscSetAttr caps online s.kvm v clock offset
    Synchronizes s ⟨r.1, s.vcpus.set i r.2⟩ := by
  refine synchronizeTo_synchronizes hv { s.kvm with userSetTsc := true } rfl clock offset _
    clock.ns _ ?_
  intro hmatched
  obtain ⟨hkhz, hlast, -⟩ := of_decide_eq_true hmatched
  rw [hlast]
  exact hkhz

/-- A call that synchronises a virtual CPU does so. -/
theorem tscStep_synchronizes {call : TscCall} (hcall : call.synchronized = some i)
    (hi : i < s.vcpus.length) : Synchronizes s (tscStep caps nsecToCycles s call).2 := by
  have hv : s.vcpus[i]? = some s.vcpus[i] := List.getElem?_eq_getElem hi
  cases call with
  | synchronize j userValue clock =>
    cases hcall
    show Synchronizes s (s.withVcpu _ _)
    rw [withVcpu_some hv]
    exact kvmSynchronizeTsc_synchronizes hv clock userValue
  | setOffset j offset clock =>
    cases hcall
    show Synchronizes s (s.withVcpu _ _)
    rw [withVcpu_some hv]
    exact kvmArchTscSetAttr_synchronizes hv clock offset
  | create => cases hcall
  | setTscKhz => cases hcall
  | updateGtodCopy => cases hcall

theorem withVcpu_none (hv : s.vcpus.length ≤ i) (f : VcpuTsc → KvmTsc × VcpuTsc) :
    s.withVcpu i f = s := by
  rw [VmTsc.withVcpu, List.getElem?_eq_none hv]

/-- **What one call does to the generations.** -/
theorem tscStep_moves (s : VmTsc) (call : TscCall) :
    Moves s (tscStep caps nsecToCycles s call).2 := by
  cases call with
  | create =>
    refine .add ?_ rfl
    simp only [tscStep, VmTsc.group, Generations.Group.add, List.map_append]
    rfl
  | updateGtodCopy host kernelNs cycleNow => exact .stay rfl rfl
  | synchronize i userValue clock =>
    by_cases hi : i < s.vcpus.length
    · exact .synchronize (tscStep_synchronizes rfl hi)
    · exact .stay (congrArg _ (withVcpu_none (Nat.le_of_not_lt hi) _))
        (congrArg (fun s => s.kvm.lastTscKhz) (withVcpu_none (Nat.le_of_not_lt hi) _))
  | setOffset i offset clock =>
    by_cases hi : i < s.vcpus.length
    · exact .synchronize (tscStep_synchronizes rfl hi)
    · exact .stay (congrArg _ (withVcpu_none (Nat.le_of_not_lt hi) _))
        (congrArg (fun s => s.kvm.lastTscKhz) (withVcpu_none (Nat.le_of_not_lt hi) _))
  | setTscKhz i khz mult shift ratio =>
    by_cases hi : i < s.vcpus.length
    · have hsame : (s.vcpus.map VcpuTsc.stamp).set i s.vcpus[i].stamp =
          s.vcpus.map VcpuTsc.stamp := by
        rw [← List.map_set, List.set_getElem_self]
      show Moves s (s.withVcpu i _)
      rw [withVcpu_some (List.getElem?_eq_getElem hi)]
      refine .stay ?_ rfl
      simp only [VmTsc.group, List.map_set]
      exact congrArg (Generations.Group.mk _ _ _) hsame
    · exact .stay (congrArg _ (withVcpu_none (Nat.le_of_not_lt hi) _))
        (congrArg (fun s => s.kvm.lastTscKhz) (withVcpu_none (Nat.le_of_not_lt hi) _))

end Refinement

/-! ## Runs -/

/-- The count is exact in the abstract view, and no write has been seen in generation 0. -/
structure InStep (s : VmTsc) : Prop where
  sound : Generations.Sound (0, 0) s.group
  start : s.kvm.curTscGeneration = 0 → s.kvm.lastTscKhz = 0

section Runs

variable {s s' : VmTsc}

theorem Synchronizes.opened (hs : InStep s) (h : Synchronizes s s') :
    s'.kvm.curTscGeneration ≠ 0 := by
  show s'.group.current ≠ 0
  cases h with
  | advance i hi d hgroup =>
    rw [hgroup]
    exact Nat.succ_ne_zero _
  | join i hi hkhz hgroup =>
    rw [hgroup]
    exact fun h => hkhz (hs.start h)

theorem Synchronizes.inStep (hs : InStep s) (h : Synchronizes s s') : InStep s' := by
  refine ⟨?_, fun hzero => absurd hzero (h.opened hs)⟩
  cases h with
  | advance i hi d hgroup =>
    rw [hgroup]
    exact Generations.sound_advance hs.sound hi d
  | join i hi hkhz hgroup =>
    rw [hgroup]
    exact Generations.sound_join hs.sound hi fun h => hkhz (hs.start h)

theorem Moves.inStep (hs : InStep s) (h : Moves s s') : InStep s' := by
  cases h with
  | add hgroup hkvm =>
    refine ⟨?_, ?_⟩
    · rw [hgroup]
      exact Generations.sound_add hs.sound
    · rw [hkvm]
      exact hs.start
  | stay hgroup hkhz =>
    refine ⟨?_, ?_⟩
    · rw [hgroup]
      exact hs.sound
    · rw [hkhz]
      intro hzero
      exact hs.start ((congrArg Generations.Group.current hgroup).symm.trans hzero)
  | synchronize hsync => exact hsync.inStep hs

/-- A generation once opened is not taken back. -/
theorem Moves.opened (hs : InStep s) (h : Moves s s') (hopen : s.kvm.curTscGeneration ≠ 0) :
    s'.kvm.curTscGeneration ≠ 0 := by
  cases h with
  | add hgroup hkvm =>
    rw [hkvm]
    exact hopen
  | stay hgroup hkhz =>
    show s'.group.current ≠ 0
    rw [hgroup]
    exact hopen
  | synchronize hsync => exact hsync.opened hs

variable (caps : TscCaps) (nsecToCycles : VcpuTsc → BitVec 64 → BitVec 64)

theorem inStep_start : InStep {} where
  sound := {
    start := fun _ => rfl
    tag_le := fun _ h => nomatch h
    data_eq := fun _ h => nomatch h
    count := fun h => absurd rfl h }
  start := fun _ => rfl

theorem final_inStep (calls : List TscCall) :
    InStep (Runs.final (tscStep caps nsecToCycles) {} calls) :=
  Runs.final_induct (fun s call hs => (tscStep_moves s call).inStep hs) calls inStep_start

/-- A virtual CPU is synchronised by one of the calls. -/
def SomeSynchronized (calls : List TscCall) : Prop :=
  ∃ before call after i, calls = before ++ call :: after ∧ call.synchronized = some i ∧
    i < (Runs.final (tscStep caps nsecToCycles) {} before).vcpus.length

theorem final_opened {calls : List TscCall} (h : SomeSynchronized caps nsecToCycles calls) :
    (Runs.final (tscStep caps nsecToCycles) {} calls).kvm.curTscGeneration ≠ 0 := by
  obtain ⟨before, call, after, i, rfl, hcall, hi⟩ := h
  have hbefore := final_inStep caps nsecToCycles before
  have hsync : Synchronizes (Runs.final (tscStep caps nsecToCycles) {} before)
      (tscStep caps nsecToCycles _ call).2 := tscStep_synchronizes hcall hi
  rw [Runs.final, List.foldl_append, List.foldl_cons]
  exact (Runs.final_induct (I := fun s => InStep s ∧ s.kvm.curTscGeneration ≠ 0)
    (fun s call hs => ⟨(tscStep_moves s call).inStep hs.1, (tscStep_moves s call).opened hs.1 hs.2⟩)
    after ⟨hsync.inStep hbefore, hsync.opened hbefore⟩).2

end Runs

section Results

variable (caps : TscCaps) (nsecToCycles : VcpuTsc → BitVec 64 → BitVec 64)

/-- The test succeeds only where every virtual CPU is in the current generation. -/
theorem vcpusMatched_current {s : VmTsc} (hs : InStep s)
    (hmatched : s.kvm.vcpusMatched s.vcpus.length = true) :
    ∀ v ∈ s.vcpus, v.thisTscGeneration = s.kvm.curTscGeneration ∧
      v.thisTscNsec = s.kvm.curTscNsec ∧ v.thisTscWrite = s.kvm.curTscWrite := by
  intro v hv
  have hfull : s.group.matched + 1 = s.group.members.length := by
    rw [VmTsc.group, List.length_map]
    exact of_decide_eq_true hmatched
  have hstamp := Generations.all_current hs.sound hfull v.stamp (List.mem_map_of_mem hv)
  simpa [VcpuTsc.stamp, VmTsc.group] using hstamp

/-- The master clock runs only over virtual CPUs that are all in the current generation. -/
theorem masterClock_current (calls : List TscCall) (host : Bool) (kernelNs cycleNow : BitVec 64) :
    let s := Runs.final (tscStep caps nsecToCycles) {} calls
    (pvclockUpdateVmGtodCopy s.vcpus.length s.kvm host kernelNs cycleNow).useMasterClock = true →
      ∀ v ∈ s.vcpus, v.thisTscGeneration = s.kvm.curTscGeneration := by
  intro s huse v hv
  have hmatched : s.kvm.vcpusMatched s.vcpus.length = true := by
    simp only [pvclockUpdateVmGtodCopy, Bool.and_eq_true] at huse
    exact huse.1.1.2
  exact (vcpusMatched_current (final_inStep caps nsecToCycles calls) hmatched v hv).1

/-- **The count of matched virtual CPUs is exact** after every run of calls, and a full count says
that all online ones are in the current generation, with the same time and the same value. -/
theorem tscMatched_exact (calls : List TscCall) (h : SomeSynchronized caps nsecToCycles calls) :
    let s := Runs.final (tscStep caps nsecToCycles) {} calls
    s.kvm.nrVcpusMatchedTsc + 1 =
        s.vcpus.countP (fun v => v.thisTscGeneration == s.kvm.curTscGeneration) ∧
      (s.kvm.vcpusMatched s.vcpus.length = true →
        ∀ v ∈ s.vcpus, v.thisTscGeneration = s.kvm.curTscGeneration ∧
          v.thisTscNsec = s.kvm.curTscNsec ∧ v.thisTscWrite = s.kvm.curTscWrite) := by
  intro s
  have hs : InStep s := final_inStep caps nsecToCycles calls
  refine ⟨?_, vcpusMatched_current hs⟩
  have hcount := hs.sound.count (final_opened caps nsecToCycles h)
  rw [Generations.tagged, VmTsc.group, List.countP_map] at hcount
  exact hcount

/-- Two virtual CPUs of one frequency are created, and userspace sets the clock of both. -/
def twoVcpus : List TscCall :=
  let clock : HostClock := ⟨1000, 500, false, 1010, true⟩
  [.create, .setTscKhz 0 3000000 0 0 (1 <<< 48), .synchronize 0 none clock,
    .create, .setTscKhz 1 3000000 0 0 (1 <<< 48), .synchronize 1 none clock,
    .synchronize 0 (some 7) clock, .synchronize 1 (some 9) clock]

theorem tscMatched_exact_twoVcpus :
    let s := Runs.final (tscStep { tscKhz := 3000000 } fun _ _ => 0) {} twoVcpus
    s.kvm.nrVcpusMatchedTsc = 1 ∧ s.kvm.curTscGeneration = 2 ∧
      ∀ v ∈ s.vcpus, v.thisTscGeneration = s.kvm.curTscGeneration := by
  intro s
  have hsome : SomeSynchronized { tscKhz := 3000000 } (fun _ _ => 0) twoVcpus :=
    ⟨twoVcpus.take 2, .synchronize 0 none ⟨1000, 500, false, 1010, true⟩, twoVcpus.drop 3, 0,
      rfl, rfl, by decide⟩
  have hexact := tscMatched_exact { tscKhz := 3000000 } (fun _ _ => 0) twoVcpus hsome
  have hfull : s.kvm.vcpusMatched s.vcpus.length = true := by decide
  exact ⟨by decide, by decide, fun v hv => (hexact.2 hfull v hv).1⟩

end Results

end Kvm
