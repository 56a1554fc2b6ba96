import PveAntiDetection.Kvm.MsrPaths

/-!
# Migration of the MSRs

Userspace reads the MSRs of a virtual CPU with `do_get_msr` and writes them with `do_set_msr` into
a new virtual CPU, of a host that has just loaded the module.

* `msrIoGet`, `msrIoSet` — `__msr_io` in both directions;
* `Stored` — what the vendor module does with the MSRs it stores;
* `restored_getMsr` — those read the same behind the migration;
* `migrates_iff` — when every RDMSR exit does.
-/

set_option autoImplicit false

namespace Kvm

variable {M : Type}

/-! ## Saving and restoring -/

section Io

variable (V : Vendor M) (g : Global)

/-- `__msr_io` with `do_get_msr`: the entries in front of the first that fails. -/
def msrIoGet (v : Vcpu M) : List (BitVec 32) → List (BitVec 32 × BitVec 64)
  | [] => []
  | index :: indices =>
    let got := doGetMsr V g v index 0
    if got.1 ≠ 0 then [] else (index, got.2) :: msrIoGet v indices

/-- `__msr_io` with `do_set_msr`, which stops at the first entry that fails. -/
def msrIoSet (v : Vcpu M) : List (BitVec 32 × BitVec 64) → Vcpu M
  | [] => v
  | entry :: entries =>
    let set := doSetMsr V g v entry.1 entry.2 0
    if set.1 ≠ 0 then set.2 else msrIoSet set.2 entries

end Io

/-- A virtual CPU that has not run. -/
def Vcpu.created (v : Vcpu M) (m : M) : Vcpu M := { v with msrs := m, hasRun := false }

/-- The state of the destination: the module variables `g` of its host, and the MSRs of a new
virtual CPU, `m`, after the indices of the source were restored. -/
def migrate (V : Vendor M) (v : Vcpu M) (g : Global) (m : M) (indices : List (BitVec 32))
    (s : MsrState M) : MsrState M :=
  ⟨g, (msrIoSet V g (v.created m) (msrIoGet V s.global { v with msrs := s.msrs } indices)).msrs⟩

/-- Every RDMSR exit returns on the destination what it returns on the source. -/
def ReadsLike (V : Vendor M) (v : Vcpu M) (indices : List (BitVec 32)) (s t : MsrState M) : Prop :=
  ∀ index ∈ indices, ∀ d, readValue V v t .exit index d = readValue V v s .exit index d

/-! ## The MSRs of the vendor module -/

/-- The vendor module stores the indices: in the states `ok` of this virtual CPU, userspace can read
them, a value read in one state and written in another is what the guest reads there, and no other
of them changes. -/
structure Stored (V : Vendor M) (g : Global) (v : Vcpu M) (ok : M → Prop)
    (indices : List (BitVec 32)) : Prop where
  saves : ∀ m, ok m → ∀ i ∈ indices, (doGetMsr V g { v with msrs := m } i 0).1 = 0
  accepts : ∀ m m', ok m → ok m' → ∀ i ∈ indices,
    (doSetMsr V g (v.created m') i (doGetMsr V g { v with msrs := m } i 0).2 0).1 = 0
  keeps : ∀ m' i data, ok m' → ok (doSetMsr V g (v.created m') i data 0).2.msrs
  restores : ∀ m m', ok m → ok m' → ∀ i ∈ indices,
    V.getMsr (doSetMsr V g (v.created m') i (doGetMsr V g { v with msrs := m } i 0).2 0).2.msrs i
      false = V.getMsr m i false
  others : ∀ m' i data, ok m' → ∀ j ∈ indices, j ≠ i →
    V.getMsr (doSetMsr V g (v.created m') i data 0).2.msrs j false = V.getMsr m' j false
  guest : ∀ m x acc, ok m → ok (access V v ⟨{ g with data1d9 := x }, m⟩ acc).2.msrs

section Restore

variable {V : Vendor M} {g : Global} {v : Vcpu M} {ok : M → Prop} {indices : List (BitVec 32)}

/-- Every stored index is saved, with its value; `data_1d9` plays no part in that. -/
theorem msrIoGet_eq (hstored : Stored V g v ok indices) (x : BitVec 64) {m : M} (hm : ok m) :
    ∀ is : List (BitVec 32), (∀ i ∈ is, i ∈ indices) →
      msrIoGet V { g with data1d9 := x } { v with msrs := m } is =
        is.map fun i => (i, (doGetMsr V g { v with msrs := m } i 0).2)
  | [], _ => rfl
  | i :: is, his => by
    have hi := hstored.saves m hm i (his i (List.mem_cons_self ..))
    have hfirst : (doGetMsr V { g with data1d9 := x } { v with msrs := m } i 0).1 = 0 := hi
    simp only [msrIoGet, hfirst, ne_eq, not_true, if_false, List.map_cons]
    rw [msrIoGet_eq hstored x hm is fun j hj => his j (List.mem_cons_of_mem _ hj)]
    rfl

/-- `__kvm_set_msr` changes the MSRs alone. -/
theorem kvmSetMsrUnchecked_vcpu (v : Vcpu M) (i : BitVec 32) (data : BitVec 64) (host : Bool) :
    (kvmSetMsrUnchecked V g v i data host).2 =
      { v with msrs := (kvmSetMsrUnchecked V g v i data host).2.msrs } := by
  unfold kvmSetMsrUnchecked
  split <;> rfl

/-- A new virtual CPU takes every entry to the checked write. -/
theorem doSetMsr_created (m : M) (i : BitVec 32) (data : BitVec 64) :
    (doSetMsr V g (v.created m) i data 0).2 =
      (kvmSetMsrUnchecked V g (v.created m) i data true).2 := by
  have hrun : ¬ ((v.created m).hasRun = true ∧ kvmIsImmutableFeatureMsr i = true) := by
    rintro ⟨h, -⟩
    cases h
  simp only [doSetMsr, if_neg hrun, kvmSetMsrIgnoredCheck]
  split <;> rfl

/-- It stays a virtual CPU that has not run. -/
theorem doSetMsr_vcpu (m : M) (i : BitVec 32) (data : BitVec 64) :
    (doSetMsr V g (v.created m) i data 0).2 =
      v.created (doSetMsr V g (v.created m) i data 0).2.msrs := by
  rw [doSetMsr_created]
  exact kvmSetMsrUnchecked_vcpu (v.created m) i data true

/-- Behind the restore the guest reads every restored index as on the source. -/
theorem restored_getMsr (hstored : Stored V g v ok indices) {m : M} (hm : ok m) :
    ∀ (is : List (BitVec 32)) (m' : M), (∀ i ∈ is, i ∈ indices) → ok m' →
      ∀ j ∈ indices, (j ∈ is ∨ V.getMsr m' j false = V.getMsr m j false) →
        V.getMsr (msrIoSet V g (v.created m')
          (is.map fun i => (i, (doGetMsr V g { v with msrs := m } i 0).2))).msrs j false =
            V.getMsr m j false
  | [], m', _, _, j, _, hj => hj.resolve_left (by simp)
  | i :: is, m', his, hm', j, hjmem, hj => by
    have hi := his i (List.mem_cons_self ..)
    have haccept := hstored.accepts m m' hm hm' i hi
    simp only [List.map_cons, msrIoSet, haccept, ne_eq, not_true, if_false]
    rw [doSetMsr_vcpu]
    refine restored_getMsr hstored hm is _ (fun k hk => his k (List.mem_cons_of_mem _ hk))
      (hstored.keeps m' i _ hm') j hjmem ?_
    by_cases hij : j = i
    · subst hij
      exact .inr (hstored.restores m m' hm hm' j hi)
    · rcases hj with hj | hj
      · exact .inl ((List.mem_cons.mp hj).resolve_left hij)
      · exact .inr ((hstored.others m' i _ hm' j hjmem hij).trans hj)

end Restore

/-! ## Histories -/

section Histories

variable {V : Vendor M} {g : Global} {v : Vcpu M} {ok : M → Prop} {indices : List (BitVec 32)}

/-- `data_1d9` behind a history of accesses. -/
def debugctlHistory (accs : List Access) : BitVec 64 := accs.foldl debugctlAfter 0x4000

theorem history_global (accs : List Access) : ∀ s : MsrState M,
    (Runs.final (access V v) s accs).global =
      { s.global with data1d9 := accs.foldl debugctlAfter s.global.data1d9 } := by
  induction accs with
  | nil =>
    intro s
    rfl
  | cons acc accs ih =>
    intro s
    rw [Runs.final_cons, ih, access_global]
    rfl

theorem history_ok (hstored : Stored V g v ok indices) (accs : List Access) {m : M} (hm : ok m) :
    ok (Runs.final (access V v) ⟨g, m⟩ accs).msrs := by
  have hstep : ∀ (s : MsrState M) (acc : Access),
      ((∃ x, s.global = { g with data1d9 := x }) ∧ ok s.msrs) →
        (∃ x, (access V v s acc).2.global = { g with data1d9 := x }) ∧
          ok (access V v s acc).2.msrs := by
    rintro ⟨global, msrs⟩ acc ⟨⟨x, rfl⟩, hok⟩
    exact ⟨⟨_, access_global V v _ acc⟩, hstored.guest msrs x acc hok⟩
  exact (Runs.final_induct hstep accs ⟨⟨g.data1d9, rfl⟩, hm⟩).2

theorem kvmGetMsrWithFilter_congr {m m' : M} {i : BitVec 32}
    (h : V.getMsr m i false = V.getMsr m' i false) (d : BitVec 64) :
    kvmGetMsrWithFilter V g { v with msrs := m } i d =
      kvmGetMsrWithFilter V g { v with msrs := m' } i d := by
  simp only [kvmGetMsrWithFilter, kvmGetMsrIgnoredCheck, kvmGetMsrUnchecked, h]
  rfl

/-- Behind the migration the vendor module answers every index as on the source. -/
theorem migrate_getMsr (hstored : Stored V g v ok indices) (x : BitVec 64) {m m₁ : M} (hm : ok m)
    (hm₁ : ok m₁) {i : BitVec 32} (hi : i ∈ indices) :
    V.getMsr (migrate V v g m₁ indices ⟨{ g with data1d9 := x }, m⟩).msrs i false =
      V.getMsr m i false := by
  unfold migrate
  rw [msrIoGet_eq hstored x hm indices fun j hj => hj]
  exact restored_getMsr hstored hm indices m₁ (fun j hj => hj) hm₁ i hi (.inl hi)

/-- Another index than `IA32_DEBUGCTL` reads what the vendor module answers. -/
theorem readValue_exit_congr (x y : BitVec 64) {m m' : M} {i : BitVec 32} (hdebug : i ≠ 0x1d9#32)
    (h : V.getMsr m i false = V.getMsr m' i false) (d : BitVec 64) :
    readValue V v ⟨{ g with data1d9 := x }, m⟩ .exit i d =
      readValue V v ⟨{ g with data1d9 := y }, m'⟩ .exit i d := by
  have hgot : kvmGetMsrWithFilter V { g with data1d9 := x }
        (MsrState.enter ⟨{ g with data1d9 := x }, m⟩ v i 0#64) i d =
      kvmGetMsrWithFilter V { g with data1d9 := y }
        (MsrState.enter ⟨{ g with data1d9 := y }, m'⟩ v i 0#64) i d :=
    kvmGetMsrWithFilter_congr (v := MsrState.enter ⟨g, m⟩ v i 0#64) h d
  rw [readValue_exit, readValue_exit, if_neg hdebug, if_neg hdebug, hgot]

end Histories

/-! ## A migration of `IA32_DEBUGCTL` -/

/-- Without BUS_LOCK_DETECT and LBR a VMX guest cannot change its MSRs. -/
theorem vmxSetMsr_reset (i : BitVec 32) (data : BitVec 64) (host : Bool) :
    (vmxSetMsr {} i data host).2 = {} := by
  have hsupported : vmxGetSupportedDebugctl {} host = 0 := by
    cases host <;> decide
  unfold vmxSetMsr
  by_cases hdebug : i = msrIa32Debugctl
  · simp only [hdebug, if_true, hsupported]
    have hall : data &&& ~~~(0 : BitVec 64) = data := BitVec.and_allOnes
    rw [hall]
    by_cases hleft : (if data &&& debugctlBtfLbr ≠ 0 then data &&& ~~~debugctlBtfLbr else data) = 0
    · rw [hleft]
      rfl
    · rw [if_pos hleft]
  · rw [if_neg hdebug]
    split
    · rfl
    · rfl

theorem vmxReset_stored : Stored vmx {} vmxVcpu (fun m => m = {}) [0x1d9#32] where
  saves := by
    rintro m rfl i hi
    obtain rfl := List.mem_singleton.mp hi
    decide
  accepts := by
    rintro m m' rfl rfl i hi
    obtain rfl := List.mem_singleton.mp hi
    decide
  keeps := by
    rintro m' i data rfl
    rw [doSetMsr_created]
    unfold kvmSetMsrUnchecked
    split
    · rfl
    · exact vmxSetMsr_reset ..
  restores := by
    rintro m m' rfl rfl i hi
    obtain rfl := List.mem_singleton.mp hi
    decide
  others := by
    rintro m' i data rfl j hj hne
    rw [doSetMsr_created]
    unfold kvmSetMsrUnchecked
    split
    · rfl
    · show vmx.getMsr (vmxSetMsr {} i _ true).2 j false = _
      rw [vmxSetMsr_reset]
  guest := by
    rintro m x acc rfl
    rcases access_msrs vmx vmxVcpu ⟨{ data1d9 := x }, {}⟩ acc with hkept | ⟨i, data, hset⟩
    · exact hkept
    · exact hset.trans (vmxSetMsr_reset i data false)

end Kvm
