import PveAntiDetection.Kvm.FakeTscRate

/-!
# The fake time-stamp counter of several VMs

The statics of the RDTSC handlers are shared by all virtual CPUs of all VMs.

* `Since`, `Unnoticed` — the readings of others since a VM's own last exit, and when they leave no
  trace in its next value;
* `TimePrivate` — the values of a VM are those it gets alone;
* `timePrivate_iff` — when they are, for every interleaving.
-/

set_option autoImplicit false

namespace Kvm

open Quotients

/-! ## Readings of others -/

/-- What a VM does not see: the reading of its own last exit, and those of others since. -/
structure Since where
  last : Option Nat := none
  others : List Nat := []
  deriving DecidableEq

/-- The readings of the others leave no trace in the value at the reading `r`: before the first exit
they are all `r`; behind a reading the remainders of the gaps make no further cycle; and behind the
reading 0, which the handler takes for none, no gap between positive readings makes one. -/
def Unnoticed (g : Since) (r : Nat) : Prop :=
  match g.last with
  | none => ∀ b ∈ g.others, b = r
  | some 0 => ∀ d ∈ (gaps 0 ((g.others ++ [r]).filter (0 < ·))).tail, d < 16
  | some (q + 1) => ((gaps (q + 1) (g.others ++ [r])).map (· % 16)).sum < 16

instance (g : Since) (r : Nat) : Decidable (Unnoticed g r) := by
  unfold Unnoticed
  split <;> infer_instance

theorem gainSum_le {p : Nat} {rs : List Nat} (hrs : (p :: rs).Pairwise (· ≤ ·)) :
    gainSum p rs ≤ (gaps p rs).sum / 16 := by
  refine Nat.le_trans ?_ (sum_div_le 16 _ (by omega))
  induction rs generalizing p with
  | nil => exact Nat.le_refl 0
  | cons r rs ih =>
    rw [List.pairwise_cons] at hrs
    exact Nat.add_le_add (gain_le p r) (ih hrs.2)

theorem gainSum_zero {rs : List Nat} (hrs : rs.Pairwise (· ≤ ·)) :
    gainSum 0 rs = ((gaps 0 (rs.filter (0 < ·))).tail.map (· / 16)).sum := by
  induction rs with
  | nil => rfl
  | cons r rs ih =>
    rw [gainSum, gain_zero, Nat.zero_add]
    cases r with
    | zero =>
      rw [ih (List.pairwise_cons.mp hrs).2]
      rfl
    | succ r =>
      have hall : ∀ x ∈ rs, decide (0 < x) = true := by
        intro x hx
        have hle := (List.pairwise_cons.mp hrs).1 x hx
        simp only [decide_eq_true_eq]
        omega
      rw [List.filter_cons_of_pos (by simp), List.filter_eq_self.mpr hall,
        gainSum_pos (Nat.succ_pos r) hrs]
      rfl

theorem gaps_getLast (p : Nat) (rs : List Nat) (r : Nat)
    (hrs : (p :: (rs ++ [r])).Pairwise (· ≤ ·)) : (gaps p (rs ++ [r])).sum = r - p := by
  have hsum := sum_gaps hrs
  rw [List.getLast_cons (by simp), List.getLast_concat] at hsum
  omega

/-- Behind an exit of its own. -/
theorem gainSum_eq_gain_iff (q : Nat) (bs : List Nat) (r : Nat)
    (hrs : (q :: (bs ++ [r])).Pairwise (· ≤ ·)) :
    gainSum q (bs ++ [r]) = gain q r ↔ Unnoticed ⟨some q, bs⟩ r := by
  cases q with
  | zero =>
    rw [gainSum_zero (List.pairwise_cons.mp hrs).2, gain_zero,
      List.sum_eq_zero_iff_forall_eq_nat]
    show (∀ x ∈ List.map (· / 16) _, x = 0) ↔ ∀ d ∈ _, d < 16
    rw [List.forall_mem_map]
    exact forall₂_congr fun d _ => Nat.div_eq_zero_iff_lt (by omega)
  | succ q =>
    rw [gainSum_pos (Nat.succ_pos q) hrs, gain_pos (Nat.succ_pos q), ← gaps_getLast _ _ _ hrs]
    exact sum_div_eq_iff 16 _ (by omega)

/-- Before the first exit of its own. -/
theorem gainSum_first_iff (b : Nat) (bs : List Nat) (r : Nat)
    (hrs : (b :: (bs ++ [r])).Pairwise (· ≤ ·)) :
    b + gainSum b (bs ++ [r]) = r ↔ ∀ x ∈ b :: bs, x = r := by
  have hle := gainSum_le hrs
  rw [gaps_getLast _ _ _ hrs] at hle
  rw [List.pairwise_cons] at hrs
  have hb : b ≤ r := hrs.1 r (by simp)
  constructor
  · intro h x hx
    have heq : b = r := by omega
    rcases List.mem_cons.mp hx with rfl | hx
    · exact heq
    · have hlow := hrs.1 x (List.mem_append_left _ hx)
      have hhigh := (List.pairwise_append.mp hrs.2).2.2 x hx r (List.mem_singleton_self r)
      omega
  · intro h
    have heq : b = r := h b (List.mem_cons_self ..)
    have hzero : (r - b) / 16 = 0 := by rw [heq, Nat.sub_self, Nat.zero_div]
    omega

/-- A reading that is not behind the last one. -/
theorem pairwise_concat {q : Nat} {bs : List Nat} {r : Nat} (hbs : (q :: bs).Pairwise (· ≤ ·))
    (hle : bs.getLastD q ≤ r) : (q :: (bs ++ [r])).Pairwise (· ≤ ·) := by
  induction bs generalizing q with
  | nil => simpa using hle
  | cons b bs ih =>
    rw [List.getLastD_cons] at hle
    rw [List.pairwise_cons] at hbs
    have htail := ih hbs.2 hle
    refine List.pairwise_cons.mpr ⟨?_, htail⟩
    intro x hx
    have hqb := hbs.1 b (List.mem_cons_self ..)
    rcases List.mem_cons.mp hx with rfl | hx
    · exact hqb
    · exact Nat.le_trans hqb ((List.pairwise_cons.mp htail).1 x hx)

/-! ## The VM with and without the others -/

section Runs

variable {M ι : Type} [DecidableEq ι] (S : SkipInstruction M) (own : ι → Bool)

/-- The exit belongs to the VM. -/
def RdtscExit.ownedBy (e : RdtscExit ι) : Bool := own e.vcpu

/-- The readings since the last exit of the VM, behind the exit `e`. -/
def Since.next (g : Since) (e : RdtscExit ι) : Since :=
  if own e.vcpu then ⟨some (reading e), []⟩ else ⟨g.last, g.others ++ [reading e]⟩

/-- The exits of the others leave no trace in the values of the VM. -/
def Undisturbed (es : List (RdtscExit ι)) : Prop :=
  Runs.Follows (RdtscExit.ownedBy own) (fun g e => Unnoticed g (reading e)) (Since.next own) {} es

/-- The values of the VM are those it gets alone. -/
def TimePrivate (handler : TscStatics → Vcpu M → BitVec 64 → TscStatics × Int × Vcpu M)
    (vcpus : ι → Vcpu M) (es : List (RdtscExit ι)) : Prop :=
  Runs.outputs (rdtscStep handler) (RdtscExit.ownedBy own) ⟨{}, vcpus⟩ es =
    Runs.outputs (rdtscStep handler) (RdtscExit.ownedBy own) ⟨{}, vcpus⟩
      (es.filter (RdtscExit.ownedBy own))

/-- The statics with the exits of the others, `s`, and without, `t`. -/
def Beside (g : Since) (s t : TscHost ι M) : Prop :=
  match g with
  | ⟨none, []⟩ => s.statics = {} ∧ t.statics = {}
  | ⟨none, b :: bs⟩ =>
    t.statics = {} ∧ Started s.statics (b + gainSum b bs) (bs.getLastD b) ∧
      (b :: bs).Pairwise (· ≤ ·)
  | ⟨some q, bs⟩ =>
    ∃ fake, Started t.statics fake q ∧ Started s.statics (fake + gainSum q bs) (bs.getLastD q) ∧
      (q :: bs).Pairwise (· ≤ ·)

variable {S own} {g : Since} {s t : TscHost ι M} {e : RdtscExit ι}

/-- An exit of another VM. -/
theorem beside_other (he : own e.vcpu = false) (hle : s.statics.rdtscPrev.toNat ≤ reading e)
    (h : Beside g s t) : Beside (g.next own e) (rdtscStep (rdtscHandler S) s e).2 t := by
  have hnext : g.next own e = ⟨g.last, g.others ++ [reading e]⟩ := by
    simp only [Since.next, he, Bool.false_eq_true, if_false]
  have hgo : ∀ {fake q : Nat} {bs : List Nat},
      Started s.statics (fake + gainSum q bs) (bs.getLastD q) → (q :: bs).Pairwise (· ≤ ·) →
        Started (rdtscStep (rdtscHandler S) s e).2.statics
          (fake + gainSum q (bs ++ [reading e])) ((bs ++ [reading e]).getLastD q) ∧
        (q :: (bs ++ [reading e])).Pairwise (· ≤ ·) := by
    intro fake q bs hs hbs
    rw [hs.prev_eq] at hle
    rw [gainSum_concat, List.getLastD_concat, ← Nat.add_assoc]
    exact ⟨hs.exit S hle, pairwise_concat hbs hle⟩
  rw [hnext]
  obtain ⟨last, others⟩ := g
  cases last with
  | none =>
    cases others with
    | nil => exact ⟨h.2, Started.exit_first S h.1 e, List.pairwise_singleton _ _⟩
    | cons b bs => exact ⟨h.1, hgo h.2.1 h.2.2⟩
  | some q =>
    obtain ⟨fake, ht, hs, hbs⟩ := h
    exact ⟨fake, ht, hgo hs hbs⟩

/-- Two handlers behind the same exit return the same value exactly when their counters agree. -/
theorem beside_agree {fs ft : Nat}
    (hs : Started (rdtscStep (rdtscHandler S) s e).2.statics fs (reading e))
    (ht : Started (rdtscStep (rdtscHandler S) t e).2.statics ft (reading e)) :
    ((rdtscStep (rdtscHandler S) s e).1 = (rdtscStep (rdtscHandler S) t e).1 ↔ fs = ft) ∧
    (fs = ft → Beside ⟨some (reading e), []⟩ (rdtscStep (rdtscHandler S) s e).2
      (rdtscStep (rdtscHandler S) t e).2) := by
  have hvalue : ∀ u : TscHost ι M, (rdtscStep (rdtscHandler S) u e).1 =
      (rdtscStep (rdtscHandler S) u e).2.statics.rdtscFake := by
    intro u
    rw [rdtscStep_value, rdtscStep_statics]
  constructor
  · rw [hvalue, hvalue, ← BitVec.toNat_inj, hs.fake_eq, ht.fake_eq]
  · rintro rfl
    exact ⟨fs, ht, hs, List.pairwise_singleton _ _⟩

/-- An exit of the VM itself. -/
theorem beside_own (he : own e.vcpu = true) (hle : s.statics.rdtscPrev.toNat ≤ reading e)
    (h : Beside g s t) :
    ((rdtscStep (rdtscHandler S) s e).1 = (rdtscStep (rdtscHandler S) t e).1 ↔
      Unnoticed g (reading e)) ∧
    (Unnoticed g (reading e) → Beside (g.next own e) (rdtscStep (rdtscHandler S) s e).2
      (rdtscStep (rdtscHandler S) t e).2) := by
  have hnext : g.next own e = ⟨some (reading e), []⟩ := by
    simp only [Since.next, he, if_true]
  rw [hnext]
  obtain ⟨last, others⟩ := g
  cases last with
  | none =>
    cases others with
    | nil =>
      have hagree := beside_agree (Started.exit_first S h.1 e) (Started.exit_first S h.2 e)
      exact ⟨iff_of_true (hagree.1.mpr rfl) (fun b hb => nomatch hb), fun _ => hagree.2 rfl⟩
    | cons b bs =>
      obtain ⟨ht, hs, hbs⟩ := h
      rw [hs.prev_eq] at hle
      have hagree := beside_agree (hs.exit S hle) (Started.exit_first S ht e)
      rw [Nat.add_assoc, ← gainSum_concat, gainSum_first_iff b bs _ (pairwise_concat hbs hle)]
        at hagree
      exact hagree
  | some q =>
    obtain ⟨fake, ht, hs, hbs⟩ := h
    rw [hs.prev_eq] at hle
    have hrs := pairwise_concat hbs hle
    have hq : q ≤ reading e := (List.pairwise_cons.mp hrs).1 _ (by simp)
    have hagree := beside_agree (hs.exit S hle) (ht.exit S hq)
    rw [Nat.add_assoc, ← gainSum_concat, Nat.add_right_inj, gainSum_eq_gain_iff q others _ hrs]
      at hagree
    exact hagree

/-! ## When time is private -/

theorem each_forward (es : List (RdtscExit ι))
    (hmono : (s.statics.rdtscPrev.toNat :: es.map reading).Pairwise (· ≤ ·)) :
    Runs.Each (rdtscStep (rdtscHandler S)) (fun s e => s.statics.rdtscPrev.toNat ≤ reading e) s
      es := by
  induction es generalizing s with
  | nil => trivial
  | cons e es ih =>
    rw [List.map_cons, List.pairwise_cons] at hmono
    exact ⟨hmono.1 _ (List.mem_cons_self ..), ih hmono.2⟩

theorem rdtscHandler_private_iff (vcpus : ι → Vcpu M) (es : List (RdtscExit ι))
    (hmono : (es.map reading).Pairwise (· ≤ ·)) :
    TimePrivate own (rdtscHandler S) vcpus es ↔ Undisturbed own es := by
  have hown : ∀ (g : Since) (s t : TscHost ι M) (e : RdtscExit ι), e.ownedBy own = true →
      s.statics.rdtscPrev.toNat ≤ reading e → Beside g s t →
        ((rdtscStep (rdtscHandler S) s e).1 = (rdtscStep (rdtscHandler S) t e).1 ↔
          Unnoticed g (reading e)) ∧
        (Unnoticed g (reading e) → Beside (g.next own e) (rdtscStep (rdtscHandler S) s e).2
          (rdtscStep (rdtscHandler S) t e).2) :=
    fun g s t e => beside_own
  have hother : ∀ (g : Since) (s t : TscHost ι M) (e : RdtscExit ι), e.ownedBy own = false →
      s.statics.rdtscPrev.toNat ≤ reading e → Beside g s t →
        Beside (g.next own e) (rdtscStep (rdtscHandler S) s e).2 t :=
    fun g s t e => beside_other
  have hstart : Beside {} (⟨{}, vcpus⟩ : TscHost ι M) ⟨{}, vcpus⟩ := ⟨rfl, rfl⟩
  have hforward := each_forward (S := S) (s := ⟨{}, vcpus⟩) es
    (List.pairwise_cons.mpr ⟨fun x _ => Nat.zero_le x, hmono⟩)
  exact Runs.outputs_purge_iff hown hother es hstart hforward

end Runs

/-- **The values of a VM do not change when all exits of the others are deleted, exactly when**
these leave no trace: for both handlers and every interleaving with a host counter that does not
go back. -/
theorem timePrivate_iff {M ι : Type} [DecidableEq ι] (S : SkipInstruction M) (own : ι → Bool)
    (vcpus : ι → Vcpu M) (es : List (RdtscExit ι)) (hmono : (es.map reading).Pairwise (· ≤ ·)) :
    (TimePrivate own (handleRdtsc S) vcpus es ↔ Undisturbed own es) ∧
      (TimePrivate own (handleRdtscInterception S) vcpus es ↔ Undisturbed own es) :=
  ⟨rdtscHandler_private_iff vcpus es hmono, rdtscHandler_private_iff vcpus es hmono⟩

/-- The VM `true` between two exits of the VM `false`. -/
def between (real : BitVec 64) : List (RdtscExit Bool) :=
  [⟨false, 16⟩, ⟨true, real⟩, ⟨false, 32⟩]

/-- The other VM sees the first reading once more. -/
theorem timePrivate_iff_same :
    (TimePrivate not (handleRdtsc skipRip) (fun _ => { msrs := () }) (between 16) ↔
        Undisturbed not (between 16)) ∧
      (TimePrivate not (handleRdtscInterception skipRip) (fun _ => { msrs := () }) (between 16) ↔
        Undisturbed not (between 16)) :=
  timePrivate_iff skipRip not (fun _ => { msrs := () }) (between 16) (by decide)

/-- An exit of the other VM in the middle takes the cycle away. -/
theorem otherVmSlowsTime :
    ¬ TimePrivate not (handleRdtsc skipRip) (fun _ => { msrs := () }) (between 24) := by
  unfold TimePrivate
  decide

end Kvm
