import PveAntiDetection.Lib.Quotients
import PveAntiDetection.Kvm.FakeTsc

/-!
# The rate of the fake time-stamp counter

What the RDTSC handlers return while the host counter does not go back.

* `gain`, `gainSum` — the cycles that one reading and a list of readings add;
* `rdtscFakeStep_fake` — one exit of a handler, as a sum;
* `Started` — a handler that has had an exit, and where its two counters stand;
* `fakeTime`, `FakeTscRate`, `fakeTscRate_exact` — the value at the n-th exit.
-/

set_option autoImplicit false

namespace Kvm

open Quotients

/-! ## Sums of gains -/

/-- The cycles added at the reading `real` behind the reading `prev`; `rdtsc_prev` 0 means that
there was no reading. -/
def gain (prev real : Nat) : Nat := if prev = 0 then 0 else (real - prev) / 16

/-- The cycles added at the readings, from the reading `p` on. -/
def gainSum : Nat → List Nat → Nat
  | _, [] => 0
  | p, r :: rs => gain p r + gainSum r rs

@[simp] theorem gain_zero (r : Nat) : gain 0 r = 0 := rfl

theorem gain_pos {p : Nat} (hp : 0 < p) (r : Nat) : gain p r = (r - p) / 16 :=
  if_neg (Nat.ne_of_gt hp)

theorem gain_le (p r : Nat) : gain p r ≤ (r - p) / 16 := by
  unfold gain
  split
  · exact Nat.zero_le _
  · exact Nat.le_refl _

theorem gainSum_concat (p : Nat) (rs : List Nat) (r : Nat) :
    gainSum p (rs ++ [r]) = gainSum p rs + gain (rs.getLastD p) r := by
  induction rs generalizing p with
  | nil => simp [gainSum]
  | cons b rs ih =>
    rw [List.cons_append, gainSum, gainSum, ih, List.getLastD_cons, Nat.add_assoc]

/-- Behind a positive reading every gap counts. -/
theorem gainSum_pos {p : Nat} {rs : List Nat} (hp : 0 < p) (hrs : (p :: rs).Pairwise (· ≤ ·)) :
    gainSum p rs = ((gaps p rs).map (· / 16)).sum := by
  induction rs generalizing p with
  | nil => rfl
  | cons r rs ih =>
    rw [List.pairwise_cons] at hrs
    have hr : 0 < r := Nat.lt_of_lt_of_le hp (hrs.1 r (List.mem_cons_self ..))
    rw [gainSum, gain_pos hp, ih hr hrs.2]
    rfl

/-! ## One exit -/

/-- In front of the clamp the fake counter is where the sum puts it. -/
theorem rdtscAdvance_toNat {t : TscStatics} (ht : t.Below) {real : BitVec 64}
    (hle : t.rdtscPrev ≤ real) :
    (rdtscAdvance t real).toNat =
      (if t.printOnce then real.toNat else t.rdtscFake.toNat) +
        gain t.rdtscPrev.toNat real.toNat := by
  unfold rdtscAdvance
  by_cases hprev : t.rdtscPrev = 0
  · simp only [hprev, ne_eq, not_true_eq_false, if_false]
    split <;> rfl
  · have hprint : t.printOnce = false := by
      cases h : t.printOnce with
      | true => exact absurd (ht.start h) hprev
      | false => rfl
    have hpos : 0 < t.rdtscPrev.toNat := by
      apply Nat.pos_of_ne_zero
      intro h
      exact hprev (BitVec.eq_of_toNat_eq h)
    have hfake := ht.le
    rw [BitVec.le_def] at hfake hle
    simp only [hprint, ne_eq, hprev, not_false_eq_true, if_true, Bool.false_eq_true, if_false,
      gain_pos hpos]
    split
    · rename_i hgt
      have hgain : ((real - t.rdtscPrev) / 16).toNat =
          (real.toNat - t.rdtscPrev.toNat) / 16 := by
        rw [BitVec.toNat_udiv, BitVec.toNat_sub_of_le (BitVec.le_of_lt hgt)]
        rfl
      have hreal := real.isLt
      rw [BitVec.toNat_add, hgain, Nat.mod_eq_of_lt (by omega)]
    · rename_i hgt
      rw [gt_iff_lt, BitVec.lt_def] at hgt
      have hzero : real.toNat - t.rdtscPrev.toNat = 0 := by omega
      rw [hzero, Nat.zero_div, Nat.add_zero]

/-- **The clamp does not fire** at a reading that is not behind the last one. -/
theorem rdtscAdvance_le {t : TscStatics} (ht : t.Below) {real : BitVec 64}
    (hle : t.rdtscPrev ≤ real) : rdtscAdvance t real ≤ real := by
  have hgain := gain_le t.rdtscPrev.toNat real.toNat
  have hfake := ht.le
  rw [BitVec.le_def] at hfake hle ⊢
  rw [rdtscAdvance_toNat ht hle]
  split
  · rename_i hprint
    rw [ht.start hprint]
    exact Nat.le_refl _
  · omega

theorem rdtscFakeStep_fake {t : TscStatics} (ht : t.Below) {real : BitVec 64}
    (hle : t.rdtscPrev ≤ real) :
    (rdtscFakeStep t real).rdtscFake.toNat =
      (if t.printOnce then real.toNat else t.rdtscFake.toNat) +
        gain t.rdtscPrev.toNat real.toNat := by
  have hclamp : ¬ rdtscAdvance t real > real := BitVec.not_lt.mpr (rdtscAdvance_le ht hle)
  show (if rdtscAdvance t real > real then real else rdtscAdvance t real).toNat = _
  rw [if_neg hclamp, rdtscAdvance_toNat ht hle]

/-! ## Runs of exits -/

section Runs

variable {M ι : Type} [DecidableEq ι] (S : SkipInstruction M)

/-- The reading of an exit. -/
def reading (e : RdtscExit ι) : Nat := e.rdtscReal.toNat

/-- A handler that has had an exit, the last one at the reading `prev`. -/
structure Started (t : TscStatics) (fake prev : Nat) : Prop where
  below : t.Below
  printed : t.printOnce = false
  fake_eq : t.rdtscFake.toNat = fake
  prev_eq : t.rdtscPrev.toNat = prev

theorem Started.step {t : TscStatics} {fake prev : Nat} (ht : Started t fake prev)
    {real : BitVec 64} (hle : prev ≤ real.toNat) :
    Started (rdtscFakeStep t real) (fake + gain prev real.toNat) real.toNat where
  below := rdtscFakeStep_below t real
  printed := rfl
  fake_eq := by
    have hprev : t.rdtscPrev ≤ real := by
      rw [BitVec.le_def, ht.prev_eq]
      exact hle
    rw [rdtscFakeStep_fake ht.below hprev, ht.printed, ht.fake_eq, ht.prev_eq]
    rfl
  prev_eq := rfl

/-- The first exit of a handler returns the host reading. -/
theorem started_first (real : BitVec 64) :
    Started (rdtscFakeStep {} real) real.toNat real.toNat where
  below := rdtscFakeStep_below {} real
  printed := rfl
  fake_eq := by
    have hbelow : ({} : TscStatics).Below := ⟨BitVec.le_refl 0, fun _ => rfl⟩
    rw [rdtscFakeStep_fake hbelow (zero_le_bitVec real)]
    rfl
  prev_eq := rfl

theorem Started.exit {s : TscHost ι M} {fake prev : Nat} (hs : Started s.statics fake prev)
    {e : RdtscExit ι} (hle : prev ≤ reading e) :
    Started (rdtscStep (rdtscHandler S) s e).2.statics (fake + gain prev (reading e))
      (reading e) :=
  hs.step hle

theorem Started.exit_first {s : TscHost ι M} (hs : s.statics = {}) (e : RdtscExit ι) :
    Started (rdtscStep (rdtscHandler S) s e).2.statics (reading e) (reading e) := by
  rw [rdtscStep_statics, hs]
  exact started_first e.rdtscReal

/-- The value at the `n`-th exit behind the reading `p`. -/
def fakeTime (p : Nat) (rs : List Nat) (n : Nat) : Nat :=
  p + (((gaps p rs).take n).map (· / 16)).sum

/-- The values of a started handler. -/
theorem started_values {s : TscHost ι M} {fake prev : Nat} (hs : Started s.statics fake prev)
    (es : List (RdtscExit ι)) (hmono : (prev :: es.map reading).Pairwise (· ≤ ·)) :
    (Runs.outputs (rdtscStep (rdtscHandler S)) (fun _ => true) s es).map BitVec.toNat =
      (List.range es.length).map fun n => fake + gainSum prev ((es.map reading).take (n + 1)) := by
  induction es generalizing s fake prev with
  | nil => rfl
  | cons e es ih =>
    rw [List.map_cons, List.pairwise_cons] at hmono
    have hle : prev ≤ reading e := hmono.1 _ (List.mem_cons_self ..)
    have hrest := ih (hs.exit S hle) hmono.2
    rw [List.length_cons, List.range_succ_eq_map, List.map_cons, List.map_map]
    simp only [Runs.outputs, if_true, List.map_cons, hrest, rdtscStep_value, (hs.step hle).fake_eq]
    refine congrArg₂ _ rfl (List.map_congr_left fun n _ => ?_)
    simp only [Function.comp, List.take_succ_cons, gainSum, Nat.add_assoc]

end Runs

/-! ## The rate -/

section Rate

variable {M ι : Type} [DecidableEq ι] (S : SkipInstruction M)

/-- The way from the reading `p` to the `n`-th behind it. -/
theorem sum_gaps_take {p : Nat} {rs : List Nat} (hrs : (p :: rs).Pairwise (· ≤ ·)) {n : Nat}
    (hn : n ≤ rs.length) :
    p + ((gaps p rs).take n).sum = (p :: rs).get ⟨n, Nat.lt_succ_of_le hn⟩ := by
  have hsub : (p :: rs.take n).Pairwise (· ≤ ·) :=
    hrs.sublist ((List.take_sublist n rs).cons_cons p)
  rw [gaps_take, sum_gaps hsub, List.getLast_eq_getElem, List.get_eq_getElem]
  cases n with
  | zero => simp
  | succ n =>
    have hlen : (p :: rs.take (n + 1)).length - 1 = n + 1 := by
      rw [List.length_cons, List.length_take]
      omega
    simp only [hlen, List.getElem_cons_succ, List.getElem_take]

/-- What a handler returns at the exits `e₀ :: es`: a sixteenth of what the host counter gains from
exit to exit, each time rounded down. -/
structure FakeTscRate
    (handler : TscStatics → Vcpu M → BitVec 64 → TscStatics × Int × Vcpu M)
    (vcpus : ι → Vcpu M) (e₀ : RdtscExit ι) (es : List (RdtscExit ι)) : Prop where
  values : (rdtscValues handler vcpus (e₀ :: es)).map BitVec.toNat =
    (List.range (es.length + 1)).map (fakeTime (reading e₀) (es.map reading))
  /-- No value is above a sixteenth of the whole way. -/
  behind : ∀ n (hn : n ≤ es.length), fakeTime (reading e₀) (es.map reading) n ≤
    reading e₀ + (reading ((e₀ :: es).get ⟨n, Nat.lt_succ_of_le hn⟩) - reading e₀) / 16
  /-- It is there where the remainders make no further cycle. -/
  exact_iff : ∀ n (hn : n ≤ es.length), fakeTime (reading e₀) (es.map reading) n =
      reading e₀ + (reading ((e₀ :: es).get ⟨n, Nat.lt_succ_of_le hn⟩) - reading e₀) / 16 ↔
    (((gaps (reading e₀) (es.map reading)).take n).map (· % 16)).sum < 16
  /-- The clamp never fires. -/
  unclamped : Runs.Each (rdtscStep handler)
    (fun s e => ¬ rdtscAdvance s.statics e.rdtscReal > e.rdtscReal) ⟨{}, vcpus⟩ (e₀ :: es)

theorem started_unclamped {s : TscHost ι M} {fake prev : Nat} (hs : Started s.statics fake prev)
    (es : List (RdtscExit ι)) (hmono : (prev :: es.map reading).Pairwise (· ≤ ·)) :
    Runs.Each (rdtscStep (rdtscHandler S))
      (fun s e => ¬ rdtscAdvance s.statics e.rdtscReal > e.rdtscReal) s es := by
  induction es generalizing s fake prev with
  | nil => trivial
  | cons e es ih =>
    rw [List.map_cons, List.pairwise_cons] at hmono
    have hle : prev ≤ e.rdtscReal.toNat := hmono.1 _ (List.mem_cons_self ..)
    have hprev : s.statics.rdtscPrev ≤ e.rdtscReal := by
      rw [BitVec.le_def, hs.prev_eq]
      exact hle
    exact ⟨BitVec.not_lt.mpr (rdtscAdvance_le hs.below hprev), ih (hs.step hle) hmono.2⟩

theorem rdtscHandler_rate (vcpus : ι → Vcpu M) (e₀ : RdtscExit ι) (es : List (RdtscExit ι))
    (hpos : 0 < reading e₀) (hmono : ((e₀ :: es).map reading).Pairwise (· ≤ ·)) :
    FakeTscRate (rdtscHandler S) vcpus e₀ es := by
  rw [List.map_cons] at hmono
  have hway : ∀ n (hn : n ≤ es.length),
      ((gaps (reading e₀) (es.map reading)).take n).sum =
        reading ((e₀ :: es).get ⟨n, Nat.lt_succ_of_le hn⟩) - reading e₀ := by
    intro n hn
    have hsum := sum_gaps_take hmono (n := n) (by rw [List.length_map]; exact hn)
    simp only [← List.map_cons, List.get_eq_getElem, List.getElem_map] at hsum ⊢
    omega
  constructor
  · have hrest := started_values S (Started.exit_first S (s := ⟨{}, vcpus⟩) rfl e₀) es hmono
    rw [rdtscValues, List.range_succ_eq_map, List.map_cons, List.map_map]
    simp only [Runs.outputs, if_true, List.map_cons, hrest, rdtscStep_value,
      (started_first e₀.rdtscReal).fake_eq]
    refine congrArg₂ _ rfl (List.map_congr_left fun n _ => ?_)
    have hsub : (reading e₀ :: (es.map reading).take (n + 1)).Pairwise (· ≤ ·) :=
      hmono.sublist ((List.take_sublist _ _).cons_cons _)
    simp only [Function.comp, fakeTime]
    rw [gainSum_pos hpos hsub, gaps_take]
  · intro n hn
    rw [← hway n hn]
    exact Nat.add_le_add_left (sum_div_le 16 _ (by omega)) _
  · intro n hn
    rw [← hway n hn, ← sum_div_eq_iff 16 _ (by omega)]
    exact Nat.add_right_inj
  · have hle : rdtscAdvance {} e₀.rdtscReal ≤ e₀.rdtscReal :=
      rdtscAdvance_le ⟨BitVec.le_refl 0, fun _ => rfl⟩ (zero_le_bitVec _)
    exact ⟨BitVec.not_lt.mpr hle, started_unclamped S (started_first e₀.rdtscReal) es hmono⟩

/-- **The fake counter gains a sixteenth of what the host counter gains between two exits, rounded
down**, for both handlers; the remainders are lost. -/
theorem fakeTscRate_exact (vcpus : ι → Vcpu M) (e₀ : RdtscExit ι) (es : List (RdtscExit ι))
    (hpos : 0 < reading e₀) (hmono : ((e₀ :: es).map reading).Pairwise (· ≤ ·)) :
    FakeTscRate (handleRdtsc S) vcpus e₀ es ∧ FakeTscRate (handleRdtscInterception S) vcpus e₀ es :=
  ⟨rdtscHandler_rate S vcpus e₀ es hpos hmono, rdtscHandler_rate S vcpus e₀ es hpos hmono⟩

/-- Three exits, 8 cycles apart. -/
theorem fakeTscRate_exact_eights :
    FakeTscRate (handleRdtsc skipRip) (fun _ : Unit => { msrs := () }) ⟨(), 16⟩
        [⟨(), 24⟩, ⟨(), 32⟩] ∧
      FakeTscRate (handleRdtscInterception skipRip) (fun _ : Unit => { msrs := () }) ⟨(), 16⟩
        [⟨(), 24⟩, ⟨(), 32⟩] :=
  fakeTscRate_exact skipRip (fun _ : Unit => { msrs := () }) ⟨(), 16⟩ [⟨(), 24⟩, ⟨(), 32⟩]
    (by decide) (by decide)

/-- They gain nothing, where 16 cycles at once gain one. -/
theorem remaindersLost :
    (rdtscValues (handleRdtsc skipRip) (fun _ : Unit => { msrs := () })
        [⟨(), 16⟩, ⟨(), 24⟩, ⟨(), 32⟩])[2]? ≠ some (16 + (32 - 16) / 16) := by
  decide

end Rate

end Kvm
