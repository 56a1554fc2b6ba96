import PveAntiDetection.Lib.Runs
import Mathlib.Data.List.FinRange
import Mathlib.Logic.Function.Basic

/-!
# User-return MSRs

The MSRs that `x86.c` leaves with the guest's values until the CPU returns to user mode, on one CPU.
`drop_user_return_notifiers` may interrupt the other two functions between any two of their steps.

* `UretMsrs`, `UserReturnMsrs` — the registered MSRs, and what the CPU has of them;
* `kvmOnUserReturn`, `dropUserReturnNotifiers` — with interrupts disabled;
* `UretPc`, `uretNext` — `kvm_set_user_return_msr` and `kvm_on_user_return` step by step;
* `uretStep` — a call begins, takes a step, or is interrupted;
* `UretInv` — the invariant, with and without the interrupt that it does not survive;
* `userReturn_right` — the cache is the hardware where no such interrupt has been, and the host's
  values come back in any case.
-/

set_option autoImplicit false

namespace Kvm

open Runs

variable {n : ℕ}

/-! ## The CPU -/

/-- `kvm_uret_msrs_list`: the modules register every MSR once. -/
structure UretMsrs (n : ℕ) where
  msr : Fin n → BitVec 32
  injective : Function.Injective msr

/-- `struct kvm_user_return_msrs`, beside the MSRs of the CPU. -/
structure UserReturnMsrs (n : ℕ) where
  hw : BitVec 32 → BitVec 64
  host : Fin n → BitVec 64
  curr : Fin n → BitVec 64
  registered : Bool := false
  /-- The notifier is on the list of the CPU. -/
  notifier : Bool := false

variable (m : UretMsrs n)

/-- `kvm_user_return_msr_cpu_online`. -/
def kvmUserReturnMsrCpuOnline (hw : BitVec 32 → BitVec 64) : UserReturnMsrs n where
  hw := hw
  host := fun slot => hw (m.msr slot)
  curr := fun slot => hw (m.msr slot)

/-- `wrmsrl`. -/
def UserReturnMsrs.wrmsr (s : UserReturnMsrs n) (slot : Fin n) (value : BitVec 64) :
    UserReturnMsrs n :=
  { s with hw := Function.update s.hw (m.msr slot) value }

/-- `values->curr = value`. -/
def UserReturnMsrs.setCurr (s : UserReturnMsrs n) (slot : Fin n) (value : BitVec 64) :
    UserReturnMsrs n :=
  { s with curr := Function.update s.curr slot value }

/-- What `kvm_on_user_return` does with interrupts disabled. -/
def UserReturnMsrs.unregister (s : UserReturnMsrs n) : UserReturnMsrs n :=
  if s.registered then { s with registered := false, notifier := false } else s

/-- One round of its loop. -/
def restoreSlot (s : UserReturnMsrs n) (slot : Fin n) : UserReturnMsrs n :=
  if s.host slot ≠ s.curr slot then
    (s.wrmsr m slot (s.host slot)).setCurr slot (s.host slot)
  else s

/-- `kvm_on_user_return`, in one go. -/
def kvmOnUserReturn (s : UserReturnMsrs n) : UserReturnMsrs n :=
  (List.finRange n).foldl (restoreSlot m) s.unregister

/-- `drop_user_return_notifiers`. -/
def dropUserReturnNotifiers (s : UserReturnMsrs n) : UserReturnMsrs n :=
  if s.registered then kvmOnUserReturn m s else s

/-! ## Steps -/

/-- The call in progress, at its next step. -/
inductive UretPc (n : ℕ) where
  | idle
  | setValue (slot : Fin n) (value mask : BitVec 64)
  | setCompare (slot : Fin n) (value : BitVec 64)
  | setWrite (slot : Fin n) (value : BitVec 64)
  /-- The hardware has the value, `curr` has not. -/
  | setCurr (slot : Fin n) (value : BitVec 64)
  | setRegistered
  | setNotifier
  | setFlag
  | returnStart
  | returnSlot (slot : ℕ)
  | returnWrite (slot : Fin n)
  | returnCurr (slot : Fin n)
  deriving DecidableEq

structure UretCpu (n : ℕ) where
  cpu : UserReturnMsrs n
  pc : UretPc n := .idle

inductive UretEvent (n : ℕ) where
  | set (slot : Fin n) (value mask : BitVec 64)
  | userReturn
  /-- A step of the call in progress; a hardware write that can fail may do so. -/
  | next (fails : Bool)
  /-- `kvm_arch_hardware_disable`, which interrupts what is in progress. -/
  | drop
  deriving DecidableEq

/-- The next step of `kvm_set_user_return_msr` or `kvm_on_user_return`, with what the first returns
at its end. -/
def uretNext (fails : Bool) (c : UretCpu n) : Option Int × UretCpu n :=
  let s := c.cpu
  match c.pc with
  | .idle => (none, c)
  | .setValue slot value mask =>
    (none, { c with pc := .setCompare slot ((value &&& mask) ||| (s.host slot &&& ~~~mask)) })
  | .setCompare slot value =>
    if value = s.curr slot then (some 0, { c with pc := .idle })
    else (none, { c with pc := .setWrite slot value })
  | .setWrite slot value =>
    if fails then (some 1, { c with pc := .idle })
    else (none, { cpu := s.wrmsr m slot value, pc := .setCurr slot value })
  | .setCurr slot value => (none, { cpu := s.setCurr slot value, pc := .setRegistered })
  | .setRegistered =>
    if s.registered then (some 0, { c with pc := .idle }) else (none, { c with pc := .setNotifier })
  | .setNotifier => (none, { cpu := { s with notifier := true }, pc := .setFlag })
  | .setFlag => (some 0, { cpu := { s with registered := true }, pc := .idle })
  | .returnStart => (none, { cpu := s.unregister, pc := .returnSlot 0 })
  | .returnSlot i =>
    if h : i < n then
      if s.host ⟨i, h⟩ ≠ s.curr ⟨i, h⟩ then (none, { c with pc := .returnWrite ⟨i, h⟩ })
      else (none, { c with pc := .returnSlot (i + 1) })
    else (none, { c with pc := .idle })
  | .returnWrite slot => (none, { cpu := s.wrmsr m slot (s.host slot), pc := .returnCurr slot })
  | .returnCurr slot =>
    (none, { cpu := s.setCurr slot (s.host slot), pc := .returnSlot (slot + 1) })

/-- Calls begin where none is in progress. -/
def uretStep (c : UretCpu n) : UretEvent n → Option Int × UretCpu n
  | .set slot value mask =>
    if c.pc = .idle then (none, { c with pc := .setValue slot value mask }) else (none, c)
  | .userReturn => if c.pc = .idle then (none, { c with pc := .returnStart }) else (none, c)
  | .next fails => uretNext m fails c
  | .drop => (none, { c with cpu := dropUserReturnNotifiers m c.cpu })

/-- No `drop_user_return_notifiers` comes between the write of a slot and that of its cache, unless
it finds nothing registered or leaves the slot alone: the slot has the host's value in the cache,
or is about to get it. -/
def NotTorn (c : UretCpu n) (e : UretEvent n) : Prop :=
  e = .drop → c.cpu.registered = true → ∀ slot value, c.pc = .setCurr slot value →
    c.cpu.curr slot = c.cpu.host slot ∨ value = c.cpu.host slot

/-! ## Restoring -/

section Restore

variable {m} (s : UserReturnMsrs n) (slot : Fin n) (value : BitVec 64)

@[simp] theorem wrmsr_host : (s.wrmsr m slot value).host = s.host := rfl

@[simp] theorem wrmsr_curr : (s.wrmsr m slot value).curr = s.curr := rfl

@[simp] theorem wrmsr_registered : (s.wrmsr m slot value).registered = s.registered := rfl

@[simp] theorem wrmsr_notifier : (s.wrmsr m slot value).notifier = s.notifier := rfl

/-- No two slots share an MSR. -/
theorem wrmsr_hw (j : Fin n) :
    (s.wrmsr m slot value).hw (m.msr j) = if j = slot then value else s.hw (m.msr j) := by
  unfold UserReturnMsrs.wrmsr
  by_cases h : j = slot
  · rw [if_pos h, h]
    exact Function.update_self ..
  · rw [if_neg h]
    exact Function.update_of_ne (fun heq => h (m.injective heq)) ..

@[simp] theorem setCurr_host : (s.setCurr slot value).host = s.host := rfl

@[simp] theorem setCurr_hw : (s.setCurr slot value).hw = s.hw := rfl

@[simp] theorem setCurr_registered : (s.setCurr slot value).registered = s.registered := rfl

@[simp] theorem setCurr_notifier : (s.setCurr slot value).notifier = s.notifier := rfl

theorem setCurr_curr (j : Fin n) :
    (s.setCurr slot value).curr j = if j = slot then value else s.curr j := by
  unfold UserReturnMsrs.setCurr
  by_cases h : j = slot
  · rw [if_pos h, h]
    exact Function.update_self ..
  · rw [if_neg h]
    exact Function.update_of_ne h ..

end Restore

/-- What a run of the loop over some slots leaves. -/
structure Restored (slots : List (Fin n)) (s s' : UserReturnMsrs n) : Prop where
  host : s'.host = s.host
  registered : s'.registered = s.registered
  notifier : s'.notifier = s.notifier
  curr : ∀ j, s'.curr j = if j ∈ slots then s.host j else s.curr j
  hw : ∀ j, s'.hw (m.msr j) =
    if j ∈ slots ∧ s.curr j ≠ s.host j then s.host j else s.hw (m.msr j)

theorem restoreSlot_restored (s : UserReturnMsrs n) (slot : Fin n) :
    Restored m [slot] s (restoreSlot m s slot) := by
  unfold restoreSlot
  split
  · rename_i hne
    refine ⟨rfl, rfl, rfl, fun j => ?_, fun j => ?_⟩
    · rw [setCurr_curr]
      by_cases hj : j = slot <;> simp [hj]
    · rw [setCurr_hw, wrmsr_hw]
      by_cases hj : j = slot <;> simp [hj, Ne.symm hne]
  · rename_i heq
    have heq : s.host slot = s.curr slot := not_not.mp heq
    refine ⟨rfl, rfl, rfl, fun j => ?_, fun j => ?_⟩
    · by_cases hj : j = slot <;> simp [hj, heq]
    · by_cases hj : j = slot <;> simp [hj, heq]

theorem foldl_restored : ∀ (slots : List (Fin n)) (s : UserReturnMsrs n),
    Restored m slots s (slots.foldl (restoreSlot m) s)
  | [], s => ⟨rfl, rfl, rfl, fun j => by simp, fun j => by simp⟩
  | slot :: slots, s => by
    have hone := restoreSlot_restored m s slot
    have hrest := foldl_restored slots (restoreSlot m s slot)
    refine ⟨hrest.host.trans hone.host, hrest.registered.trans hone.registered,
      hrest.notifier.trans hone.notifier, fun j => ?_, fun j => ?_⟩
    · simp only [List.foldl_cons, hrest.curr, hone.host, hone.curr, List.mem_cons,
        List.not_mem_nil, or_false]
      by_cases hj : j ∈ slots <;> by_cases hs : j = slot <;> simp [hj, hs]
    · simp only [List.foldl_cons, hrest.hw, hone.host, hone.curr, hone.hw, List.mem_cons,
        List.not_mem_nil, or_false]
      by_cases hj : j ∈ slots <;> by_cases hs : j = slot <;> simp_all

/-- Nothing is left registered. -/
theorem unregister_eq {s : UserReturnMsrs n} (h : s.notifier = s.registered) :
    s.unregister = { s with registered := false, notifier := false } := by
  unfold UserReturnMsrs.unregister
  split
  · rfl
  · rename_i hregistered
    have hfalse : s.registered = false := by simpa using hregistered
    obtain ⟨hw, host, curr, registered, notifier⟩ := s
    simp only at h hfalse
    rw [h, hfalse]

/-- `drop_user_return_notifiers` where it finds the notifier registered. -/
structure Dropped (s s' : UserReturnMsrs n) : Prop where
  host : s'.host = s.host
  registered : s'.registered = false
  notifier : s'.notifier = false
  curr : ∀ j, s'.curr j = s.host j
  hw : ∀ j, s'.hw (m.msr j) = if s.curr j ≠ s.host j then s.host j else s.hw (m.msr j)

theorem drop_spec (s : UserReturnMsrs n) :
    (s.registered = false ∧ dropUserReturnNotifiers m s = s) ∨
      (s.registered = true ∧ Dropped m s (dropUserReturnNotifiers m s)) := by
  unfold dropUserReturnNotifiers
  split
  · rename_i hreg
    refine .inr ⟨hreg, ?_⟩
    have hun : s.unregister = { s with registered := false, notifier := false } := if_pos hreg
    obtain ⟨hhost, hr, hn, hcurr, hhw⟩ := foldl_restored m (List.finRange n) s.unregister
    rw [hun] at hhost hr hn hcurr hhw
    unfold kvmOnUserReturn
    rw [hun]
    refine ⟨hhost, hr, hn, fun j => ?_, fun j => ?_⟩
    · rw [hcurr j, if_pos (List.mem_finRange j)]
    · rw [hhw j]
      simp
  · rename_i hreg
    exact .inl ⟨by simpa using hreg, rfl⟩

/-! ## The invariant -/

/-- The value of a slot that the hardware has where its cache is yet to follow. -/
def UretCpu.expected (c : UretCpu n) (j : Fin n) : BitVec 64 :=
  match c.pc with
  | .setCurr slot value => if j = slot then value else c.cpu.curr j
  | .returnCurr slot => if j = slot then c.cpu.host j else c.cpu.curr j
  | _ => c.cpu.curr j

/-- Nothing is registered and the slots below `i` have the host's values. -/
structure Returning (s : UserReturnMsrs n) (i : ℕ) : Prop where
  registered : s.registered = false
  notifier : s.notifier = false
  restored : ∀ j : Fin n, j < i → s.curr j = s.host j

/-- How far registration has come. -/
def UretCpu.Registration (c : UretCpu n) : Prop :=
  match c.pc with
  | .setRegistered => c.cpu.notifier = c.cpu.registered
  | .setNotifier => c.cpu.registered = false ∧ c.cpu.notifier = false
  | .setFlag => c.cpu.registered = false ∧ c.cpu.notifier = true
  | .returnSlot i => Returning c.cpu i
  | .returnWrite slot => Returning c.cpu slot
  | .returnCurr slot => Returning c.cpu slot
  | _ => c.cpu.notifier = c.cpu.registered ∧
      (c.cpu.registered = false → ∀ j, c.cpu.curr j = c.cpu.host j)

/-- The invariant: the hardware has the value that the cache has or is about to have or, if the run
may have `torn` a slot, the host's. -/
structure UretInv (torn : Prop) (hostVal : Fin n → BitVec 64) (c : UretCpu n) : Prop where
  host : c.cpu.host = hostVal
  values : ∀ j, c.cpu.hw (m.msr j) = c.expected j ∨ (torn ∧ c.cpu.hw (m.msr j) = hostVal j)
  registration : c.Registration

section Invariant

variable {m} {torn : Prop} {hostVal : Fin n → BitVec 64} {c : UretCpu n}

theorem uretInv_online (hw : BitVec 32 → BitVec 64) :
    UretInv m torn (fun slot => hw (m.msr slot)) { cpu := kvmUserReturnMsrCpuOnline m hw } :=
  ⟨rfl, fun _ => .inl rfl, rfl, fun _ _ => rfl⟩

/-- The steps of both calls. -/
theorem UretInv.next (h : UretInv m torn hostVal c) (fails : Bool) :
    UretInv m torn hostVal (uretNext m fails c).2 := by
  obtain ⟨s, pc⟩ := c
  obtain ⟨hhost, hvalues, hreg⟩ := h
  dsimp only at hhost hvalues hreg
  unfold uretNext
  cases pc with
  | idle => exact ⟨hhost, hvalues, hreg⟩
  | setValue slot value mask => exact ⟨hhost, hvalues, hreg⟩
  | setCompare slot value =>
    dsimp only
    split
    · exact ⟨hhost, hvalues, hreg⟩
    · exact ⟨hhost, hvalues, hreg⟩
  | setWrite slot value =>
    dsimp only
    split
    · exact ⟨hhost, hvalues, hreg⟩
    · refine ⟨hhost, fun j => ?_, hreg⟩
      simp only [UretCpu.expected, wrmsr_hw, wrmsr_curr]
      by_cases hj : j = slot
      · exact .inl (by rw [if_pos hj, if_pos hj])
      · rw [if_neg hj, if_neg hj]
        exact hvalues j
  | setCurr slot value =>
    refine ⟨hhost, fun j => ?_, hreg.1⟩
    simpa only [UretCpu.expected, setCurr_hw, setCurr_curr] using hvalues j
  | setRegistered =>
    dsimp only
    split
    · rename_i hregistered
      refine ⟨hhost, hvalues, hreg, fun hfalse => ?_⟩
      rw [hregistered] at hfalse
      cases hfalse
    · rename_i hregistered
      have hfalse : s.registered = false := by simpa using hregistered
      exact ⟨hhost, hvalues, hfalse, hreg.trans hfalse⟩
  | setNotifier => exact ⟨hhost, hvalues, hreg.1, rfl⟩
  | setFlag => exact ⟨hhost, hvalues, hreg.2, fun hfalse => nomatch hfalse⟩
  | returnStart =>
    simp only [unregister_eq hreg.1]
    exact ⟨hhost, hvalues, rfl, rfl, fun j hj => absurd hj (Nat.not_lt_zero _)⟩
  | returnSlot i =>
    dsimp only
    split
    · rename_i hi
      split
      · exact ⟨hhost, hvalues, hreg⟩
      · rename_i heq
        refine ⟨hhost, hvalues, hreg.registered, hreg.notifier, fun j hj => ?_⟩
        rcases Nat.lt_succ_iff_lt_or_eq.mp hj with hlt | rfl
        · exact hreg.restored j hlt
        · exact (not_not.mp heq).symm
    · rename_i hi
      refine ⟨hhost, hvalues, hreg.notifier.trans hreg.registered.symm, fun _ j => ?_⟩
      exact hreg.restored j (j.isLt.trans_le (not_lt.mp hi))
  | returnWrite slot =>
    refine ⟨hhost, fun j => ?_, hreg.registered, hreg.notifier, hreg.restored⟩
    simp only [UretCpu.expected, wrmsr_hw, wrmsr_curr, wrmsr_host]
    by_cases hj : j = slot
    · exact .inl (by rw [if_pos hj, if_pos hj, hj])
    · rw [if_neg hj, if_neg hj]
      exact hvalues j
  | returnCurr slot =>
    refine ⟨hhost, fun j => ?_, hreg.registered, hreg.notifier, fun j hj => ?_⟩
    · have hj := hvalues j
      simp only [UretCpu.expected, setCurr_hw, setCurr_curr] at hj ⊢
      by_cases hs : j = slot
      · simpa only [hs, if_true] using hj
      · simpa only [hs, if_false] using hj
    · simp only [setCurr_curr, setCurr_host]
      by_cases hs : j = slot
      · rw [if_pos hs, hs]
      · rw [if_neg hs]
        exact hreg.restored j (by omega)

/-- The interrupt leaves the host's values in the cache. -/
theorem Dropped.idle {s s' : UserReturnMsrs n} (h : Dropped m s s') :
    s'.notifier = s'.registered ∧ (s'.registered = false → ∀ j, s'.curr j = s'.host j) := by
  refine ⟨h.notifier.trans h.registered.symm, fun _ j => ?_⟩
  rw [h.curr, h.host]

/-- It leaves the value of the cache in the hardware, where the cache had the hardware's. -/
theorem Dropped.settled {s s' : UserReturnMsrs n} (h : Dropped m s s') (hhost : s.host = hostVal)
    {j : Fin n} (hj : s.hw (m.msr j) = s.curr j ∨ (torn ∧ s.hw (m.msr j) = hostVal j)) :
    s'.hw (m.msr j) = s'.curr j := by
  rw [h.hw, h.curr]
  split
  · rfl
  · rename_i hsame
    rcases hj with hj | ⟨-, hj⟩
    · exact hj.trans (not_not.mp hsame)
    · rw [hj, hhost]

/-- The interrupt. -/
theorem UretInv.drop (h : UretInv m torn hostVal c) (hwhole : torn ∨ NotTorn c .drop) :
    UretInv m torn hostVal { c with cpu := dropUserReturnNotifiers m c.cpu } := by
  rcases drop_spec m c.cpu with ⟨-, hsame⟩ | ⟨hregistered, hdrop⟩
  · rw [hsame]
    exact h
  · obtain ⟨s, pc⟩ := c
    obtain ⟨hhost, hvalues, hreg⟩ := h
    dsimp only at hhost hvalues hreg hregistered hdrop ⊢
    generalize dropUserReturnNotifiers m s = s' at hdrop ⊢
    have hhost' : s'.host = hostVal := hdrop.host.trans hhost
    have hidle := hdrop.idle
    have hsettled : ∀ j, s.hw (m.msr j) = s.curr j ∨ (torn ∧ s.hw (m.msr j) = hostVal j) →
        s'.hw (m.msr j) = s'.curr j := fun j => hdrop.settled hhost
    have hunregistered : ∀ {P : Prop}, s.registered = false → P := by
      intro P hfalse
      rw [hregistered] at hfalse
      cases hfalse
    cases pc with
    | setCurr slot value =>
      refine ⟨hhost', fun j => ?_, hidle⟩
      have hj := hvalues j
      simp only [UretCpu.expected] at hj ⊢
      by_cases hs : j = slot
      · subst hs
        rw [if_pos rfl] at hj ⊢
        rw [hdrop.hw]
        split
        · rename_i hne
          rcases hwhole with htorn | hnot
          · exact .inr ⟨htorn, by rw [hhost]⟩
          · rcases hnot rfl hregistered j value rfl with heq | heq
            · exact absurd heq hne
            · exact .inl heq.symm
        · exact hj
      · rw [if_neg hs] at hj ⊢
        exact .inl (hsettled j hj)
    | setRegistered => exact ⟨hhost', fun j => .inl (hsettled j (hvalues j)), hidle.1⟩
    | setNotifier => exact hunregistered hreg.1
    | setFlag => exact hunregistered hreg.1
    | returnSlot i => exact hunregistered hreg.registered
    | returnWrite slot => exact hunregistered hreg.registered
    | returnCurr slot => exact hunregistered hreg.registered
    | idle => exact ⟨hhost', fun j => .inl (hsettled j (hvalues j)), hidle⟩
    | setValue slot value mask => exact ⟨hhost', fun j => .inl (hsettled j (hvalues j)), hidle⟩
    | setCompare slot value => exact ⟨hhost', fun j => .inl (hsettled j (hvalues j)), hidle⟩
    | setWrite slot value => exact ⟨hhost', fun j => .inl (hsettled j (hvalues j)), hidle⟩
    | returnStart => exact ⟨hhost', fun j => .inl (hsettled j (hvalues j)), hidle⟩

/-- Every event. -/
theorem UretInv.step (h : UretInv m torn hostVal c) {e : UretEvent n}
    (hwhole : torn ∨ NotTorn c e) : UretInv m torn hostVal (uretStep m c e).2 := by
  obtain ⟨s, pc⟩ := c
  cases e with
  | set slot value mask =>
    simp only [uretStep]
    split
    · rename_i hidle
      cases hidle
      exact ⟨h.host, h.values, h.registration⟩
    · exact h
  | userReturn =>
    simp only [uretStep]
    split
    · rename_i hidle
      cases hidle
      exact ⟨h.host, h.values, h.registration⟩
    · exact h
  | next fails => exact h.next fails
  | drop => exact h.drop hwhole

/-- Every run keeps the invariant that allows for a torn slot. -/
theorem uretInv_run (hw : BitVec 32 → BitVec 64) (es : List (UretEvent n)) :
    UretInv m True (fun slot => hw (m.msr slot))
      (final (uretStep m) { cpu := kvmUserReturnMsrCpuOnline m hw } es) :=
  final_induct (fun _ _ h => h.step (.inl trivial)) es (uretInv_online hw)

/-- A run that no interrupt has torn keeps the other. -/
theorem uretInv_run_notTorn (hw : BitVec 32 → BitVec 64) {es : List (UretEvent n)}
    (hes : Each (uretStep m) NotTorn { cpu := kvmUserReturnMsrCpuOnline m hw } es) :
    UretInv m False (fun slot => hw (m.msr slot))
      (final (uretStep m) { cpu := kvmUserReturnMsrCpuOnline m hw } es) :=
  final_induct_each (fun _ _ hnot h => h.step (.inr hnot)) es hes (uretInv_online hw)

end Invariant

/-! ## Returning to user mode -/

/-- An event that does not begin a call. -/
def UretEvent.continues : UretEvent n → Bool
  | .next _ | .drop => true
  | _ => false

def UretEvent.isNext : UretEvent n → Bool
  | .next _ => true
  | _ => false

/-- `kvm_on_user_return` is in progress, or has restored every slot. -/
def UretCpu.InReturn (c : UretCpu n) : Prop :=
  match c.pc with
  | .returnStart | .returnSlot _ | .returnWrite _ | .returnCurr _ => True
  | .idle => ∀ j, c.cpu.curr j = c.cpu.host j
  | _ => False

/-- A bound on the steps to the end of `kvm_on_user_return`. -/
def UretPc.stepsLeft : UretPc n → ℕ
  | .returnStart => 3 * n + 2
  | .returnSlot i => 3 * (n - i) + 1
  | .returnWrite slot => 3 * (n - slot)
  | .returnCurr slot => 3 * (n - slot) - 1
  | _ => 0

section Return

variable {m} {torn : Prop} {hostVal : Fin n → BitVec 64} {c : UretCpu n}

theorem inReturn_next (h : UretInv m torn hostVal c) (hc : c.InReturn) (fails : Bool) :
    (uretNext m fails c).2.InReturn ∧
      (uretNext m fails c).2.pc.stepsLeft ≤ c.pc.stepsLeft - 1 := by
  obtain ⟨s, pc⟩ := c
  have hreg := h.registration
  unfold uretNext
  cases pc with
  | returnStart => exact ⟨trivial, by simp only [UretPc.stepsLeft]; omega⟩
  | returnSlot i =>
    dsimp only
    split
    · rename_i hi
      split
      · exact ⟨trivial, by simp only [UretPc.stepsLeft]; omega⟩
      · exact ⟨trivial, by simp only [UretPc.stepsLeft]; omega⟩
    · rename_i hi
      exact ⟨fun j => hreg.restored j (j.isLt.trans_le (not_lt.mp hi)), Nat.zero_le _⟩
  | returnWrite slot => exact ⟨trivial, by simp only [UretPc.stepsLeft]; omega⟩
  | returnCurr slot =>
    have hslot := slot.isLt
    exact ⟨trivial, by simp only [UretPc.stepsLeft]; omega⟩
  | idle => exact ⟨hc, Nat.zero_le _⟩
  | setValue => exact absurd hc id
  | setCompare => exact absurd hc id
  | setWrite => exact absurd hc id
  | setCurr => exact absurd hc id
  | setRegistered => exact absurd hc id
  | setNotifier => exact absurd hc id
  | setFlag => exact absurd hc id

theorem inReturn_drop (hc : c.InReturn) :
    UretCpu.InReturn { c with cpu := dropUserReturnNotifiers m c.cpu } := by
  rcases drop_spec m c.cpu with ⟨-, hsame⟩ | ⟨-, hdrop⟩
  · rw [hsame]
    exact hc
  · obtain ⟨s, pc⟩ := c
    cases pc with
    | idle =>
      intro j
      rw [hdrop.curr, hdrop.host]
    | _ => exact hc

/-- The call ends, and leaves every slot with the host's value. -/
theorem inReturn_run : ∀ (es : List (UretEvent n)) {c : UretCpu n}, UretInv m True hostVal c →
    c.InReturn → (∀ e ∈ es, e.continues = true) →
      (final (uretStep m) c es).InReturn ∧
        (final (uretStep m) c es).pc.stepsLeft ≤ c.pc.stepsLeft - es.countP UretEvent.isNext
  | [], _, _, hc, _ => ⟨hc, le_rfl⟩
  | e :: es, c, h, hc, hes => by
    have hrest := fun e' he' => hes e' (List.mem_cons_of_mem _ he')
    have hstep := h.step (e := e) (.inl trivial)
    cases e with
    | set slot value mask => cases hes _ (List.mem_cons_self ..)
    | userReturn => cases hes _ (List.mem_cons_self ..)
    | next fails =>
      obtain ⟨hin, hleft⟩ := inReturn_next h hc fails
      obtain ⟨hend, hsteps⟩ := inReturn_run es hstep hin hrest
      refine ⟨hend, hsteps.trans ?_⟩
      rw [List.countP_cons_of_pos rfl]
      simp only [uretStep]
      omega
    | drop =>
      obtain ⟨hend, hsteps⟩ := inReturn_run es hstep (inReturn_drop hc) hrest
      refine ⟨hend, hsteps.trans ?_⟩
      rw [List.countP_cons_of_neg (by simp [UretEvent.isNext])]
      exact le_rfl

end Return

/-! ## Writes that fail -/

/-- `kvm_set_user_return_msr` has not written the MSR, or nothing is in progress. -/
def UretPc.unwritten : UretPc n → Bool
  | .idle | .setValue .. | .setCompare .. | .setWrite .. => true
  | _ => false

variable {m}

theorem uretNext_unwritten {c : UretCpu n} (hc : c.pc.unwritten = true) :
    (uretNext m true c).2.cpu = c.cpu ∧ (uretNext m true c).2.pc.unwritten = true := by
  obtain ⟨s, pc⟩ := c
  unfold uretNext
  cases pc with
  | setCompare slot value =>
    dsimp only
    split <;> exact ⟨rfl, rfl⟩
  | idle => exact ⟨rfl, rfl⟩
  | setValue => exact ⟨rfl, rfl⟩
  | setWrite => exact ⟨rfl, rfl⟩
  | _ => cases hc

/-- A call whose write fails changes nothing; what interrupts it does. -/
theorem unwritten_run : ∀ (es : List (UretEvent n)) {c c' : UretCpu n}, c.pc.unwritten = true →
    c.cpu = c'.cpu → (∀ e ∈ es, e = .next true ∨ e = .drop) →
      (final (uretStep m) c es).cpu = (final (uretStep m) c' (es.filter (· = .drop))).cpu
  | [], _, _, _, hcpu, _ => hcpu
  | e :: es, c, c', hc, hcpu, hes => by
    have hrest := fun e' he' => hes e' (List.mem_cons_of_mem _ he')
    rcases hes e (List.mem_cons_self ..) with rfl | rfl
    · obtain ⟨hsame, hnext⟩ := uretNext_unwritten (m := m) hc
      rw [List.filter_cons_of_neg (by simp)]
      exact unwritten_run es hnext (hsame.trans hcpu) hrest
    · rw [List.filter_cons_of_pos (by simp)]
      exact unwritten_run es hc (congrArg (dropUserReturnNotifiers m) hcpu) hrest

theorem idle_of_stepsLeft {c : UretCpu n} (hc : c.InReturn) (h : c.pc.stepsLeft = 0) :
    c.pc = .idle := by
  obtain ⟨s, pc⟩ := c
  cases pc with
  | idle => rfl
  | returnStart => simp [UretPc.stepsLeft] at h
  | returnSlot i => simp [UretPc.stepsLeft] at h
  | returnWrite slot =>
    have hslot := slot.isLt
    simp only [UretPc.stepsLeft] at h
    omega
  | returnCurr slot =>
    have hslot := slot.isLt
    simp only [UretPc.stepsLeft] at h
    omega
  | _ => exact absurd hc id

/-! ## The result -/

/-- What holds of a CPU where no call is in progress, torn or not: a slot whose cache is not the
host's value has the notifier registered; the next `kvm_on_user_return` ends and leaves every MSR
with the host's value, whatever interrupts it; and a `kvm_set_user_return_msr` whose write fails
changes nothing. -/
structure HostKept (hostVal : Fin n → BitVec 64) (c : UretCpu n) : Prop where
  registered : ∀ slot, c.cpu.curr slot ≠ c.cpu.host slot →
    c.cpu.registered = true ∧ c.cpu.notifier = true
  restored : ∀ es : List (UretEvent n), (∀ e ∈ es, e.continues = true) →
    (3 * n + 2 ≤ es.countP UretEvent.isNext →
      (final (uretStep m) c (.userReturn :: es)).pc = .idle) ∧
    ((final (uretStep m) c (.userReturn :: es)).pc = .idle →
      ∀ slot, (final (uretStep m) c (.userReturn :: es)).cpu.hw (m.msr slot) = hostVal slot)
  failed : ∀ slot value mask (es : List (UretEvent n)), (∀ e ∈ es, e = .next true ∨ e = .drop) →
    (final (uretStep m) c (.set slot value mask :: es)).cpu =
      (final (uretStep m) c (es.filter (· = .drop))).cpu

theorem UretInv.hostKept {hostVal : Fin n → BitVec 64} {c : UretCpu n}
    (h : UretInv m True hostVal c) (hidle : c.pc = .idle) : HostKept (m := m) hostVal c := by
  obtain ⟨s, pc⟩ := c
  cases hidle
  obtain ⟨hnotifier, hhost⟩ := h.registration
  refine ⟨fun slot hne => ?_, fun es hes => ?_, fun slot value mask es hes => ?_⟩
  · have hregistered : s.registered = true := by
      by_contra hfalse
      exact hne (hhost (by simpa using hfalse) slot)
    exact ⟨hregistered, hnotifier.trans hregistered⟩
  · have hbegun := h.step (e := .userReturn) (.inl trivial)
    obtain ⟨hin, hsteps⟩ := inReturn_run es hbegun (by trivial) hes
    have hend := @final_induct _ _ _ (uretStep m) (UretInv m True hostVal)
      (fun _ _ h => h.step (.inl trivial)) es _ hbegun
    refine ⟨fun hcount => ?_, fun hpc slot => ?_⟩
    · refine idle_of_stepsLeft hin (Nat.le_zero.mp (hsteps.trans ?_))
      have hleft : (uretStep m ⟨s, .idle⟩ .userReturn).2.pc.stepsLeft = 3 * n + 2 := rfl
      omega
    · rw [final_cons] at hpc ⊢
      generalize final (uretStep m) (uretStep m ⟨s, .idle⟩ .userReturn).2 es = c' at hin hend hpc ⊢
      obtain ⟨s', pc'⟩ := c'
      cases hpc
      rcases hend.values slot with hvalue | ⟨-, hvalue⟩
      · rw [← hend.host, ← hin slot]
        exact hvalue
      · exact hvalue
  · exact unwritten_run es rfl rfl hes

/-- **The host's values come back after every run, and the cache is the hardware** after every run
in which no `drop_user_return_notifiers` has come between the write of a slot and that of its
cache. -/
theorem userReturn_right (hw : BitVec 32 → BitVec 64) {es : List (UretEvent n)}
    (hidle : (final (uretStep m) { cpu := kvmUserReturnMsrCpuOnline m hw } es).pc = .idle) :
    HostKept (m := m) (fun slot => hw (m.msr slot))
        (final (uretStep m) { cpu := kvmUserReturnMsrCpuOnline m hw } es) ∧
      (Each (uretStep m) NotTorn { cpu := kvmUserReturnMsrCpuOnline m hw } es → ∀ slot,
        (final (uretStep m) { cpu := kvmUserReturnMsrCpuOnline m hw } es).cpu.hw (m.msr slot) =
          (final (uretStep m) { cpu := kvmUserReturnMsrCpuOnline m hw } es).cpu.curr slot) := by
  refine ⟨(uretInv_run hw es).hostKept hidle, fun hes slot => ?_⟩
  have h := uretInv_run_notTorn hw hes
  generalize final (uretStep m) { cpu := kvmUserReturnMsrCpuOnline m hw } es = c at h hidle ⊢
  obtain ⟨s, pc⟩ := c
  cases hidle
  rcases h.values slot with hvalue | ⟨hfalse, -⟩
  · exact hvalue
  · exact hfalse.elim

/-- TSC_AUX alone, which is 0 on the host. -/
def tscAuxOnly : UretMsrs 1 where
  msr := fun _ => 0xc0000103
  injective := fun _ _ _ => Subsingleton.elim ..

/-- A call that goes through: seven steps, and no interrupt. -/
def setTscAux (value : BitVec 64) : List (UretEvent 1) :=
  .set ⟨0, Nat.one_pos⟩ value (BitVec.allOnes 64) :: List.replicate 7 (.next false)

theorem setTscAux_notTorn (value : BitVec 64) (c : UretCpu 1) :
    Each (uretStep tscAuxOnly) NotTorn c (setTscAux value) :=
  each_of_mem _ _ fun e he _ hdrop => by
    subst hdrop
    simp [setTscAux] at he

theorem userReturn_right_tscAux :
    let c := final (uretStep tscAuxOnly)
      { cpu := kvmUserReturnMsrCpuOnline tscAuxOnly fun _ => 0 } (setTscAux 1)
    HostKept (m := tscAuxOnly) (fun _ => 0) c ∧
      ∀ slot, c.cpu.hw (tscAuxOnly.msr slot) = c.cpu.curr slot :=
  ⟨(userReturn_right (m := tscAuxOnly) (fun _ => 0) rfl).1,
    (userReturn_right (m := tscAuxOnly) (fun _ => 0) rfl).2 (setTscAux_notTorn 1 _)⟩

/-- The interrupt comes behind the write of 2 over 1: the hardware has the host's 0, the cache 2,
and no call is in progress. -/
theorem cacheTorn :
    let c := final (uretStep tscAuxOnly)
      { cpu := kvmUserReturnMsrCpuOnline tscAuxOnly fun _ => 0 }
      (setTscAux 1 ++ .set 0 2 (BitVec.allOnes 64) :: List.replicate 3 (.next false) ++
        .drop :: List.replicate 4 (.next false))
    c.pc = .idle ∧ c.cpu.hw (tscAuxOnly.msr 0) = 0 ∧ c.cpu.curr 0 = 2 :=
  ⟨rfl, rfl, rfl⟩

end Kvm
