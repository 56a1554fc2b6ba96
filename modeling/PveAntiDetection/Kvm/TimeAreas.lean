import Mathlib.Data.List.Perm.Basic
import Mathlib.Logic.Function.Basic
import PveAntiDetection.Lib.Seqlock
import PveAntiDetection.Kvm.TimeScale

/-!
# The time areas of the guest

Records in guest memory that `x86.c` updates while other virtual CPUs read them: the clock, the wall
clock and the steal time.  Each has a version of its own.

* `GuestMem`, `GuestStore` — memory, and the stores that a reader may see one by one;
* `PvclockUpdate`, `WallClockUpdate`, `StealUpdate` — the three publishers, store by store;
* `TimeArea` — a record with its publisher; `TimeArea.protocol` — as a sequence lock;
* `timeAreas_neverTorn` — what a reader accepts is one completed update;
* `stealTimeTorn` — except for `preempted`, which is stored in front of the version.
-/

set_option autoImplicit false

namespace Kvm

/-! ## Memory -/

/-- Guest memory, from the start of a record on. -/
abbrev GuestMem := Nat → BitVec 8

/-- A byte of a number, in little-endian order. -/
def byteOf {n : Nat} (x : BitVec n) (i : Nat) : BitVec 8 := BitVec.ofNat 8 (x.toNat / 256 ^ i)

/-- A `u32` in memory. -/
def GuestMem.readU32 (m : GuestMem) (off : Nat) : BitVec 32 :=
  BitVec.ofNat 32 ((m off).toNat + 256 * (m (off + 1)).toNat + 65536 * (m (off + 2)).toNat +
    16777216 * (m (off + 3)).toNat)

/-- A `u64` in memory. -/
def GuestMem.readU64 (m : GuestMem) (off : Nat) : BitVec 64 :=
  (m.readU32 (off + 4)).setWidth 64 <<< 32 ||| (m.readU32 off).setWidth 64

/-- A single store: a `u32`, or a byte of a copy. -/
inductive GuestStore where
  | u32 (off : Nat) (v : BitVec 32)
  | byte (off : Nat) (b : BitVec 8)
  deriving DecidableEq

/-- What a store does to the memory. -/
def GuestStore.apply : GuestStore → GuestMem → GuestMem
  | u32 off v, m => fun i => if off ≤ i ∧ i < off + 4 then byteOf v (i - off) else m i
  | byte off b, m => Function.update m off b

/-- A copy of `n` bytes to `off`, in any order. -/
structure CopyOrder (n : Nat) where
  order : List Nat
  perm : order.Perm (List.range n)

/-- The stores of a copy. -/
def CopyOrder.stores {n : Nat} (c : CopyOrder n) (off : Nat) (src : Nat → BitVec 8) :
    List GuestStore := c.order.map fun i => .byte (off + i) (src i)

/-! ## Publishers -/

/-- The version while a record is being updated: an odd one is random junk. -/
def nextVersion (version : BitVec 32) : BitVec 32 :=
  let version := if version &&& 1 ≠ 0 then version + 1 else version
  version + 1

/-- The bytes of `struct pvclock_vcpu_time_info`. -/
def pvclockBytes (version : BitVec 32) (t : PvclockTime) (i : Nat) : BitVec 8 :=
  if i < 4 then byteOf version i
  else if i < 8 then 0
  else if i < 16 then byteOf t.tscTimestamp (i - 8)
  else if i < 24 then byteOf t.systemTime (i - 16)
  else if i < 28 then byteOf t.tscToSystemMul (i - 24)
  else if i = 28 then BitVec.ofInt 8 t.tscShift
  else if i = 29 then t.flags
  else 0

/-- `kvm_setup_guest_pvclock`: `hv_clock`, `pvclock_set_guest_stopped_request`,
`force_tsc_unstable`, and whether the page is mapped. -/
structure PvclockUpdate where
  hvClock : PvclockTime
  setGuestStoppedRequest : Bool
  forceTscUnstable : Bool
  mapped : Bool := true
  copy : CopyOrder 32

/-- `PVCLOCK_TSC_STABLE_BIT`. -/
def pvclockTscStableBit : BitVec 8 := 1

/-- `PVCLOCK_GUEST_STOPPED`. -/
def pvclockGuestStopped : BitVec 8 := 2

/-- `vcpu->hv_clock` as it is copied, over the flags of the guest. -/
def PvclockUpdate.copied (u : PvclockUpdate) (guestFlags : BitVec 8) : PvclockTime :=
  let flags := u.hvClock.flags ||| (guestFlags &&& pvclockGuestStopped)
  let flags := if u.setGuestStoppedRequest then flags ||| pvclockGuestStopped else flags
  { u.hvClock with flags := flags }

/-- `kvm_setup_guest_pvclock`. -/
def kvmSetupGuestPvclock (u : PvclockUpdate) (m : GuestMem) : List GuestStore :=
  if ¬ u.mapped then []
  else
    let version := (m.readU32 0 + 1) ||| 1
    let hvClock := u.copied (m 29)
    .u32 0 version :: (u.copy.stores 0 (pvclockBytes version hvClock) ++
      ((if u.forceTscUnstable then [.byte 29 (hvClock.flags &&& ~~~pvclockTscStableBit)] else []) ++
        [.u32 0 (version + 1)]))

/-- The bytes of `struct pvclock_wall_clock`. -/
def wallClockBytes (version sec nsec : BitVec 32) (i : Nat) : BitVec 8 :=
  if i < 4 then byteOf version i
  else if i < 8 then byteOf sec (i - 4)
  else byteOf nsec (i - 8)

/-- `kvm_write_wall_clock`: whether there is an address, and `kvm_get_wall_clock_epoch`. -/
structure WallClockUpdate where
  present : Bool := true
  wallNsec : BitVec 64
  copy : CopyOrder 12
  copyHi : CopyOrder 4

/-- `kvm_write_wall_clock`. -/
def kvmWriteWallClock (secHiOfs : Nat) (u : WallClockUpdate) (m : GuestMem) : List GuestStore :=
  if ¬ u.present then []
  else
    let version := nextVersion (m.readU32 0)
    let sec := u.wallNsec / nsecPerSec
    let nsec := u.wallNsec % nsecPerSec
    let secHi : BitVec 32 := (sec >>> 32).setWidth 32
    .u32 0 version ::
      (u.copy.stores 0 (wallClockBytes version (sec.setWidth 32) (nsec.setWidth 32)) ++
        ((if secHiOfs ≠ 0 then u.copyHi.stores secHiOfs (byteOf secHi) else []) ++
          [.u32 0 (version + 1)]))

/-- `record_steal_time`: whether it is enabled and mapped, `run_delay` and `last_steal`. -/
structure StealUpdate where
  enabled : Bool := true
  runDelay : BitVec 64
  lastSteal : BitVec 64
  copy : CopyOrder 8

/-- `record_steal_time`: `preempted` is at 16 and the version at 8. -/
def recordStealTime (u : StealUpdate) (m : GuestMem) : List GuestStore :=
  if ¬ u.enabled then []
  else
    let version := nextVersion (m.readU32 8)
    let steal := m.readU64 0 + (u.runDelay - u.lastSteal)
    .byte 16 0 :: .u32 8 version :: (u.copy.stores 0 (byteOf steal) ++ [.u32 8 (version + 1)])

/-! ## Areas -/

/-- A record with its publisher: where the version is, and which bytes it guards. -/
structure TimeArea where
  Update : Type
  versionAt : Nat
  guarded : Nat → Prop
  stores : Update → GuestMem → List GuestStore

/-- The clock of a virtual CPU. -/
def pvclockArea : TimeArea where
  Update := PvclockUpdate
  versionAt := 0
  guarded := fun _ => True
  stores := kvmSetupGuestPvclock

/-- The wall clock. -/
def wallClockArea (secHiOfs : Nat) : TimeArea where
  Update := WallClockUpdate
  versionAt := 0
  guarded := fun _ => True
  stores := kvmWriteWallClock secHiOfs

/-- The steal time, and which of its bytes are looked at. -/
def stealTimeArea (guarded : Nat → Prop) : TimeArea where
  Update := StealUpdate
  versionAt := 8
  guarded := guarded
  stores := recordStealTime

/-- The record as a sequence lock. -/
def TimeArea.protocol (a : TimeArea) :
    Seqlock.Protocol 32 a.Update GuestMem GuestStore Nat (BitVec 8) where
  version := fun m => m.readU32 a.versionAt
  load := fun m i => m i
  guarded := a.guarded
  apply := GuestStore.apply
  stores := a.stores

/-- **No torn records**: in every interleaving with fewer than 2^31 updates, what a reader accepts
is what one completed update has left, or the initial content. -/
def TimeArea.NeverTorn (a : TimeArea) : Prop :=
  ∀ (m : GuestMem) (es : List (Seqlock.Event a.Update Nat)) (loaded : List (Nat × BitVec 8)),
    (Runs.final (Seqlock.step a.protocol) (Seqlock.State.init m) es).updates < 2 ^ 31 →
    (Seqlock.step a.protocol (Runs.final (Seqlock.step a.protocol) (Seqlock.State.init m) es)
      .loadVersion).1 = some loaded →
    ∃ m', Seqlock.Published a.protocol (fun u => .publish u ∈ es) m
        (Runs.final (Seqlock.step a.protocol) (Seqlock.State.init m) es) m' ∧
      ∀ p ∈ loaded, a.guarded p.1 → p.2 = m' p.1

/-! ## Stores and versions -/

section Stores

variable {m : GuestMem} {off : Nat} {v : BitVec 32}

theorem byteOf_toNat (x : BitVec 32) (i : Nat) :
    (byteOf x i).toNat = x.toNat / 256 ^ i % 256 := by
  rw [byteOf, BitVec.toNat_ofNat]

theorem readU32_toNat (m : GuestMem) (off : Nat) : (m.readU32 off).toNat =
    (m off).toNat + 256 * (m (off + 1)).toNat + 65536 * (m (off + 2)).toNat +
      16777216 * (m (off + 3)).toNat := by
  have h0 := (m off).isLt
  have h1 := (m (off + 1)).isLt
  have h2 := (m (off + 2)).isLt
  have h3 := (m (off + 3)).isLt
  rw [GuestMem.readU32, BitVec.toNat_ofNat]
  exact Nat.mod_eq_of_lt (by omega)

/-- The version is what was stored. -/
theorem readU32_u32 (m : GuestMem) (off : Nat) (v : BitVec 32) :
    (GuestStore.apply (.u32 off v) m).readU32 off = v := by
  refine BitVec.eq_of_toNat_eq ?_
  have hlt := v.isLt
  have hbyte : ∀ i, i < 4 →
      GuestStore.apply (.u32 off v) m (off + i) = byteOf v i := by
    intro i hi
    show (if off ≤ off + i ∧ off + i < off + 4 then _ else _) = _
    rw [if_pos (by omega), Nat.add_sub_cancel_left]
  rw [readU32_toNat, hbyte 1 (by omega), hbyte 2 (by omega), hbyte 3 (by omega),
    show GuestStore.apply (.u32 off v) m off = _ from hbyte 0 (by omega)]
  simp only [byteOf_toNat]
  omega

/-- The bytes of the version. -/
theorem byteOf_readU32 (m : GuestMem) (off : Nat) {i : Nat} (hi : i < 4) :
    byteOf (m.readU32 off) i = m (off + i) := by
  refine BitVec.eq_of_toNat_eq ?_
  have h0 := (m off).isLt
  have h1 := (m (off + 1)).isLt
  have h2 := (m (off + 2)).isLt
  have h3 := (m (off + 3)).isLt
  rw [byteOf_toNat, readU32_toNat]
  match i, hi with
  | 0, _ => show _ / 256 ^ 0 % 256 = (m off).toNat; omega
  | 1, _ => omega
  | 2, _ => omega
  | 3, _ => omega

/-- A byte behind or in front of the version. -/
theorem readU32_byte {i : Nat} (hi : i < off ∨ off + 4 ≤ i) (b : BitVec 8) :
    (GuestStore.apply (.byte i b) m).readU32 off = m.readU32 off := by
  have hne : ∀ j, j < 4 → GuestStore.apply (.byte i b) m (off + j) = m (off + j) := by
    intro j hj
    have hij : off + j ≠ i := by omega
    exact Function.update_of_ne hij _ _
  unfold GuestMem.readU32
  rw [hne 1 (by omega), hne 2 (by omega), hne 3 (by omega),
    show GuestStore.apply (.byte i b) m off = m off from hne 0 (by omega)]

/-- A byte of the version, as it is. -/
theorem apply_byteOf {i : Nat} (hi : i < 4) (hv : m.readU32 off = v) :
    GuestStore.apply (.byte (off + i) (byteOf v i)) m = m := by
  show Function.update m (off + i) (byteOf v i) = m
  rw [← hv, byteOf_readU32 m off hi]
  exact Function.update_eq_self _ _

/-- A copy that has the version in it, or none of its bytes, keeps the version. -/
theorem copyOrder_keeps {n at' : Nat} {c : CopyOrder n} {src : Nat → BitVec 8}
    (hsrc : ∀ i, i < n → at' + i < off ∨ off + 4 ≤ at' + i ∨
      ∃ j, j < 4 ∧ at' + i = off + j ∧ src i = byteOf v j) :
    ∀ st ∈ c.stores at' src, ∀ m : GuestMem, m.readU32 off = v →
      (GuestStore.apply st m).readU32 off = v := by
  intro st hst m hv
  obtain ⟨i, hi, rfl⟩ := List.mem_map.mp hst
  have hlt : i < n := List.mem_range.mp (c.perm.mem_iff.mp hi)
  rcases hsrc i hlt with hlo | hhi | ⟨j, hj, hoff, hbyte⟩
  · rw [readU32_byte (.inl hlo), hv]
  · rw [readU32_byte (.inr hhi), hv]
  · rw [hoff, hbyte, apply_byteOf hj hv, hv]

theorem or_one_toNat (x : BitVec 32) : (x ||| 1).toNat = 2 * (x.toNat / 2) + 1 := by
  have hmod : (x.toNat ||| 1) % 2 = 1 := Nat.or_mod_two_eq_one.mpr (.inr rfl)
  have hdiv : (x.toNat ||| 1) / 2 = x.toNat / 2 := by
    rw [Nat.or_div_two]
    exact Nat.or_zero _
  rw [BitVec.toNat_or]
  show x.toNat ||| 1 = _
  omega

/-- The clock, -/
theorem succ_or_one (v : BitVec 32) : (v + 1) ||| 1 = Seqlock.opening v := by
  have hlt := v.isLt
  refine BitVec.eq_of_toNat_eq ?_
  rw [or_one_toNat, Seqlock.opening]
  have hone : (v + 1).toNat = (v.toNat + 1) % 2 ^ 32 := BitVec.toNat_add v 1
  split
  · rename_i hodd
    rw [Seqlock.isOdd, decide_eq_true_eq] at hodd
    have htwo : (v + 1 + 1).toNat = ((v + 1).toNat + 1) % 2 ^ 32 := BitVec.toNat_add (v + 1) 1
    omega
  · rename_i heven
    rw [Seqlock.isOdd, decide_eq_true_eq] at heven
    omega

/-- and the two others, open their records alike. -/
theorem nextVersion_eq (v : BitVec 32) : nextVersion v = Seqlock.opening v := by
  have hand : v &&& 1 ≠ 0 ↔ Seqlock.isOdd v = true := by
    rw [Seqlock.isOdd, decide_eq_true_eq, ne_eq, ← BitVec.toNat_inj, BitVec.toNat_and]
    show ¬ v.toNat &&& 1 = 0 ↔ _
    rw [Nat.and_one_is_mod]
    omega
  unfold nextVersion Seqlock.opening
  by_cases hodd : Seqlock.isOdd v = true
  · rw [if_pos (hand.mpr hodd), if_pos hodd]
  · rw [if_neg (fun h => hodd (hand.mp h)), if_neg hodd]

end Stores

/-! ## The three publishers open and close their records -/

section Publishers

/-- The version is stored, kept by all stores of the body, and counted up. -/
theorem inside_stores (a : TimeArea) (m : GuestMem) {odd : BitVec 32} {body : List GuestStore}
    (hkeep : ∀ st ∈ body, ∀ m : GuestMem, m.readU32 a.versionAt = odd →
      (GuestStore.apply st m).readU32 a.versionAt = odd) :
    Seqlock.Inside a.protocol odd (GuestStore.apply (.u32 a.versionAt odd) m)
      (body ++ [.u32 a.versionAt (odd + 1)]) :=
  Seqlock.inside_append (readU32_u32 m a.versionAt odd) hkeep
    fun m' => readU32_u32 m' a.versionAt (odd + 1)

/-- The body of a clock update: the version is copied over itself, the flags are behind it. -/
theorem pvclock_keeps {v : BitVec 32} (c : CopyOrder 32) (t : PvclockTime) (unstable : Bool)
    (flags : BitVec 8) :
    ∀ st ∈ c.stores 0 (pvclockBytes v t) ++ (if unstable then [.byte 29 flags] else []),
      ∀ m : GuestMem, m.readU32 0 = v → (GuestStore.apply st m).readU32 0 = v := by
  intro st hst m hm
  rcases List.mem_append.mp hst with hst | hst
  · refine copyOrder_keeps (fun i _ => ?_) st hst m hm
    by_cases hi : i < 4
    · exact .inr (.inr ⟨i, hi, rfl, if_pos hi⟩)
    · exact .inr (.inl (by omega))
  · split at hst
    · cases List.mem_singleton.mp hst
      exact (readU32_byte (.inr (by omega)) flags).trans hm
    · cases hst

theorem pvclockArea_guards : Seqlock.Guards pvclockArea.protocol := by
  intro (u : PvclockUpdate) m
  cases hmapped : u.mapped with
  | false => exact .inl (if_pos (by simp [hmapped]))
  | true =>
    refine .inr ?_
    have hstores : kvmSetupGuestPvclock u m =
        .u32 0 ((m.readU32 0 + 1) ||| 1) :: (_ ++ (_ ++ _)) := if_neg (by simp [hmapped])
    show Seqlock.Before pvclockArea.protocol m m (kvmSetupGuestPvclock u m)
    rw [hstores, ← List.append_assoc]
    refine Seqlock.before_opening ?_
    show Seqlock.Inside pvclockArea.protocol (Seqlock.opening (m.readU32 0)) _ _
    rw [← succ_or_one]
    exact inside_stores pvclockArea m (pvclock_keeps _ _ _ _)

/-- The body of a wall clock update: the high word of the seconds is behind the version. -/
theorem wallClock_keeps {secHiOfs : Nat} (hofs : secHiOfs = 0 ∨ 4 ≤ secHiOfs)
    {v : BitVec 32} (c : CopyOrder 12) (c' : CopyOrder 4) (sec nsec : BitVec 32)
    (hi : Nat → BitVec 8) :
    ∀ st ∈ c.stores 0 (wallClockBytes v sec nsec) ++
        (if secHiOfs ≠ 0 then c'.stores secHiOfs hi else []),
      ∀ m : GuestMem, m.readU32 0 = v → (GuestStore.apply st m).readU32 0 = v := by
  intro st hst m hm
  rcases List.mem_append.mp hst with hst | hst
  · refine copyOrder_keeps (fun i _ => ?_) st hst m hm
    by_cases hi : i < 4
    · exact .inr (.inr ⟨i, hi, rfl, if_pos hi⟩)
    · exact .inr (.inl (by omega))
  · split at hst
    · exact copyOrder_keeps (fun i _ => .inr (.inl (by omega))) st hst m hm
    · cases hst

theorem wallClockArea_guards {secHiOfs : Nat} (hofs : secHiOfs = 0 ∨ 4 ≤ secHiOfs) :
    Seqlock.Guards (wallClockArea secHiOfs).protocol := by
  intro (u : WallClockUpdate) m
  cases hpresent : u.present with
  | false => exact .inl (if_pos (by simp [hpresent]))
  | true =>
    refine .inr ?_
    have hstores : kvmWriteWallClock secHiOfs u m =
        .u32 0 (nextVersion (m.readU32 0)) :: (_ ++ (_ ++ _)) := if_neg (by simp [hpresent])
    show Seqlock.Before (wallClockArea secHiOfs).protocol m m (kvmWriteWallClock secHiOfs u m)
    rw [hstores, ← List.append_assoc]
    refine Seqlock.before_opening ?_
    show Seqlock.Inside (wallClockArea secHiOfs).protocol (Seqlock.opening (m.readU32 0)) _ _
    rw [← nextVersion_eq]
    exact inside_stores (wallClockArea secHiOfs) m (wallClock_keeps hofs _ _ _ _ _)

/-- `preempted` is stored before the record is opened. -/
theorem stealTimeArea_guards {guarded : Nat → Prop} (hpreempted : ¬ guarded 16) :
    Seqlock.Guards (stealTimeArea guarded).protocol := by
  intro (u : StealUpdate) m
  cases henabled : u.enabled with
  | false => exact .inl (if_pos (by simp [henabled]))
  | true =>
    refine .inr ?_
    have hstores : recordStealTime u m =
        .byte 16 0 :: .u32 8 (nextVersion (m.readU32 8)) :: (_ ++ _) :=
      if_neg (by simp [henabled])
    have hfirst : (GuestStore.apply (.byte 16 0) m).readU32 8 = m.readU32 8 :=
      readU32_byte (.inr (by omega)) _
    show Seqlock.Before (stealTimeArea guarded).protocol m m (recordStealTime u m)
    rw [hstores]
    refine Seqlock.before_cons ⟨hfirst, fun i hi => ?_⟩ ?_
    · have hne : i ≠ 16 := fun h => hpreempted (h ▸ hi)
      exact Function.update_of_ne hne _ _
    · show Seqlock.Inside (stealTimeArea guarded).protocol (Seqlock.opening (m.readU32 8)) _ _
      rw [← nextVersion_eq]
      refine inside_stores (stealTimeArea guarded) _ ?_
      exact copyOrder_keeps fun i hi => .inl (by show 0 + i < 8; omega)

theorem neverTorn_of_guards {a : TimeArea} (h : Seqlock.Guards a.protocol) : a.NeverTorn := by
  intro m es loaded hfew haccepted
  exact Seqlock.accepted_completed (by omega) h m es hfew haccepted

end Publishers

/-! ## What an update leaves -/

section Published

/-- What a list of stores leaves. -/
def storeAll (sts : List GuestStore) (m : GuestMem) : GuestMem :=
  sts.foldl (fun m st => st.apply m) m

theorem storeAll_append (sts sts' : List GuestStore) (m : GuestMem) :
    storeAll (sts ++ sts') m = storeAll sts' (storeAll sts m) := List.foldl_append

theorem storeAll_bytes (l : List Nat) (off : Nat) (src : Nat → BitVec 8) (m : GuestMem) (i : Nat) :
    storeAll (l.map fun j => .byte (off + j) (src j)) m i =
      if off ≤ i ∧ i - off ∈ l then src (i - off) else m i := by
  induction l generalizing m with
  | nil => simp [storeAll]
  | cons j l ih =>
    show storeAll (l.map _) (Function.update m (off + j) (src j)) i = _
    rw [ih]
    by_cases hoff : off ≤ i
    · by_cases hl : i - off ∈ l
      · rw [if_pos ⟨hoff, hl⟩, if_pos ⟨hoff, List.mem_cons_of_mem _ hl⟩]
      · rw [if_neg (fun h => hl h.2)]
        by_cases hj : i = off + j
        · subst hj
          rw [Function.update_self, if_pos ⟨hoff, by simp⟩, Nat.add_sub_cancel_left]
        · have hnot : ¬ i - off ∈ j :: l := by
            rw [List.mem_cons, not_or]
            exact ⟨by omega, hl⟩
          rw [Function.update_of_ne hj, if_neg (fun h => hnot h.2)]
    · rw [if_neg (fun h => hoff h.1), if_neg (fun h => hoff h.1),
        Function.update_of_ne (by omega)]

/-- A copy leaves the source, and nothing else. -/
theorem storeAll_copy {n : Nat} (c : CopyOrder n) (off : Nat) (src : Nat → BitVec 8)
    (m : GuestMem) (i : Nat) : storeAll (c.stores off src) m i =
      if off ≤ i ∧ i < off + n then src (i - off) else m i := by
  have hmem : off ≤ i ∧ i - off ∈ c.order ↔ off ≤ i ∧ i < off + n := by
    rw [c.perm.mem_iff, List.mem_range]
    omega
  rw [CopyOrder.stores, storeAll_bytes]
  by_cases h : off ≤ i ∧ i < off + n
  · rw [if_pos (hmem.mpr h), if_pos h]
  · rw [if_neg (fun h' => h (hmem.mp h')), if_neg h]

theorem storeAll_u32_of_le {off i : Nat} (hi : off + 4 ≤ i) (v : BitVec 32) (m : GuestMem) :
    storeAll [.u32 off v] m i = m i := if_neg (by omega)

variable (m : GuestMem)

/-- The clock in memory is `hv_clock`, as it is copied, without the bit that is forced away. -/
theorem pvclock_published {u : PvclockUpdate} (hmapped : u.mapped = true) {i : Nat} (hi : 4 ≤ i)
    (hlt : i < 32) :
    let hvClock := u.copied (m 29)
    storeAll (kvmSetupGuestPvclock u m) m i = pvclockBytes ((m.readU32 0 + 1) ||| 1)
      { hvClock with
        flags := if u.forceTscUnstable then hvClock.flags &&& ~~~pvclockTscStableBit
          else hvClock.flags } i := by
  have hstores : kvmSetupGuestPvclock u m =
      [.u32 0 ((m.readU32 0 + 1) ||| 1)] ++ (_ ++ (_ ++ _)) := if_neg (by simp [hmapped])
  rw [hstores, storeAll_append, storeAll_append, storeAll_append, storeAll_u32_of_le hi]
  by_cases hunstable : u.forceTscUnstable = true
  · by_cases h29 : i = 29
    · subst h29
      simp [hunstable, storeAll, GuestStore.apply, pvclockBytes]
    · simp only [hunstable, if_true]
      show Function.update _ 29 _ i = _
      rw [Function.update_of_ne h29, storeAll_copy, if_pos ⟨Nat.zero_le i, by omega⟩]
      simp [pvclockBytes, h29]
  · simp only [hunstable]
    show storeAll (u.copy.stores 0 _) _ i = _
    rw [storeAll_copy, if_pos ⟨Nat.zero_le i, by omega⟩]
    rfl

/-- The wall clock in memory is the time of the update. -/
theorem wallClock_published {u : WallClockUpdate} (hpresent : u.present = true) {secHiOfs : Nat}
    (hofs : secHiOfs = 0 ∨ 12 ≤ secHiOfs) :
    let sec := u.wallNsec / nsecPerSec
    let m' := storeAll (kvmWriteWallClock secHiOfs u m) m
    (∀ i, 4 ≤ i → i < 12 → m' i = wallClockBytes (nextVersion (m.readU32 0)) (sec.setWidth 32)
      ((u.wallNsec % nsecPerSec).setWidth 32) i) ∧
    (secHiOfs ≠ 0 → ∀ i, i < 4 →
      m' (secHiOfs + i) = byteOf ((sec >>> 32).setWidth 32) i) := by
  have hstores : kvmWriteWallClock secHiOfs u m =
      [.u32 0 (nextVersion (m.readU32 0))] ++ (_ ++ (_ ++ _)) := if_neg (by simp [hpresent])
  refine ⟨fun i hi hlt => ?_, fun hne i hi => ?_⟩
  · rw [hstores, storeAll_append, storeAll_append, storeAll_append, storeAll_u32_of_le hi]
    by_cases hofs' : secHiOfs = 0
    · simp only [hofs', ne_eq, not_true_eq_false, if_false]
      show storeAll (u.copy.stores 0 _) _ i = _
      rw [storeAll_copy, if_pos ⟨Nat.zero_le i, by omega⟩]
      rfl
    · simp only [ne_eq, hofs', not_false_eq_true, if_true]
      rw [storeAll_copy, if_neg (by omega), storeAll_copy, if_pos ⟨Nat.zero_le i, by omega⟩]
      rfl
  · rw [hstores, storeAll_append, storeAll_append, storeAll_append,
      storeAll_u32_of_le (by omega), if_pos hne, storeAll_copy, if_pos ⟨by omega, by omega⟩,
      Nat.add_sub_cancel_left]

/-- The steal time in memory has grown, and `preempted` is cleared. -/
theorem stealTime_published {u : StealUpdate} (henabled : u.enabled = true) :
    let m' := storeAll (recordStealTime u m) m
    (∀ i, i < 8 → m' i = byteOf (m.readU64 0 + (u.runDelay - u.lastSteal)) i) ∧ m' 16 = 0 ∧
      ∀ i, 12 ≤ i → i ≠ 16 → m' i = m i := by
  have hstores : recordStealTime u m =
      [.byte 16 0] ++ ([.u32 8 (nextVersion (m.readU32 8))] ++ (_ ++ _)) :=
    if_neg (by simp [henabled])
  have hout : ∀ i (v : BitVec 32) (m : GuestMem), i < 8 ∨ 12 ≤ i →
      storeAll [.u32 8 v] m i = m i := fun i v m hi => if_neg (by omega)
  simp only [hstores, storeAll_append]
  refine ⟨fun i hi => ?_, ?_, fun i hi hne => ?_⟩
  · rw [hout i _ _ (.inl hi), storeAll_copy, if_pos ⟨Nat.zero_le i, by omega⟩]
    rfl
  · rw [hout 16 _ _ (.inr (by omega)), storeAll_copy, if_neg (by omega),
      hout 16 _ _ (.inr (by omega))]
    show Function.update m 16 (0 : BitVec 8) 16 = 0
    rw [Function.update_self]
  · rw [hout i _ _ (.inr hi), storeAll_copy, if_neg (by omega), hout i _ _ (.inr hi)]
    exact Function.update_of_ne hne _ _

end Published

/-- **Readers of the time areas never see a torn record**, of the steal time as far as it is not
`preempted`. -/
theorem timeAreas_neverTorn :
    pvclockArea.NeverTorn ∧
      (∀ secHiOfs, secHiOfs = 0 ∨ 4 ≤ secHiOfs → (wallClockArea secHiOfs).NeverTorn) ∧
      (stealTimeArea (· ≠ 16)).NeverTorn :=
  ⟨neverTorn_of_guards pvclockArea_guards,
    fun _ hofs => neverTorn_of_guards (wallClockArea_guards hofs),
    neverTorn_of_guards (stealTimeArea_guards (fun h => h rfl))⟩

/-- A wall clock of seven seconds. -/
def sevenSeconds : WallClockUpdate where
  wallNsec := 7000000000
  copy := ⟨List.range 12, List.Perm.refl _⟩
  copyHi := ⟨List.range 4, List.Perm.refl _⟩

/-- It is read once behind the update. -/
theorem timeAreas_neverTorn_wallClock :
    let es := .publish sevenSeconds :: List.replicate 14 .store ++ [.loadVersion, .load 4]
    ∃ m', Seqlock.Published (wallClockArea 0).protocol (fun u => .publish u ∈ es) (fun _ => 0)
        (Runs.final (Seqlock.step (wallClockArea 0).protocol) (Seqlock.State.init fun _ => 0) es)
        m' ∧
      ∀ p ∈ [(4, (7 : BitVec 8))], (wallClockArea 0).guarded p.1 → p.2 = m' p.1 :=
  timeAreas_neverTorn.2.1 0 (.inl rfl) (fun _ => 0)
    (.publish sevenSeconds :: List.replicate 14 .store ++ [.loadVersion, .load 4]) [(4, 7)]
    (by decide) (by decide)

/-! ## The steal time as a whole -/

/-- `preempted` is set in the record, and everything else is 0. -/
def preemptedRecord : GuestMem := fun i => if i = 16 then 1 else 0

/-- An update that adds 5 to the steal time. -/
def fiveMore : StealUpdate where
  runDelay := 5
  lastSteal := 0
  copy := ⟨List.range 8, List.Perm.refl _⟩

/-- The reader gets `preempted` of the update and the steal time of the record in front of it. -/
def readWhilePreempted : List (Seqlock.Event StealUpdate Nat) :=
  [.loadVersion, .publish fiveMore, .store, .load 0, .load 16]

/-- What is accepted is of no update: the record had `preempted` set, and every update that has
been stored adds to the steal time. -/
theorem stealTimeTorn :
    let a := stealTimeArea (fun _ => True)
    let s := Runs.final (Seqlock.step a.protocol) (Seqlock.State.init preemptedRecord)
      readWhilePreempted
    (Seqlock.step a.protocol s .loadVersion).1 = some [(0, 0), (16, 0)] ∧
      preemptedRecord 16 ≠ 0 ∧
      storeAll (recordStealTime fiveMore preemptedRecord) preemptedRecord 0 ≠ 0 ∧
      ¬ a.NeverTorn := by
  refine ⟨by decide, by decide, by decide, fun h => ?_⟩
  obtain ⟨m', hm', hloaded⟩ := h preemptedRecord readWhilePreempted [(0, 0), (16, 0)] (by decide)
    (by decide)
  rcases hm' with rfl | ⟨u, hu, m₁, hm₁, rfl⟩
  · have h16 := hloaded (16, 0) (by simp) trivial
    revert h16
    decide
  · have h0 := hloaded (0, 0) (by simp) trivial
    have honly : ∀ u : StealUpdate, .publish u ∈ readWhilePreempted → u = fiveMore := by
      intro u hu
      simpa [readWhilePreempted] using hu
    have hfirst : m₁ = preemptedRecord := List.mem_singleton.mp hm₁
    rw [honly u hu, hfirst] at h0
    revert h0
    decide

end Kvm
