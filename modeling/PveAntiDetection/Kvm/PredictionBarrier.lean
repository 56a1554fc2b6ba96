import PveAntiDetection.Kvm.LaunchState

/-!
# The branch predictors of the guests

`vmx_vcpu_load_vmcs` issues a prediction barrier unless the VMCS that was current is the `buddy`,
the other VMCS of the same virtual CPU.

* `BuddiesAgree` — what the callers promise of the buddy;
* `Owner.buddy` — the buddy that a thread still has to compare;
* `BarrierInv`, `barrierInv_step` — which guest may have trained the predictors of a CPU;
* `predictors_of_own_guest` — no guest is entered with what the guest of another virtual CPU has
  trained.
-/

set_option autoImplicit false

namespace Kvm

variable {C V U : Type}

/-- The buddy is a VMCS of the same virtual CPU. -/
def BuddiesAgree (guest : V → U) : ResidencyEvent C V → Prop
  | .load v _ (some w) => guest w = guest v
  | _ => True

instance [DecidableEq U] (guest : V → U) : DecidablePred (BuddiesAgree (C := C) guest)
  | .load v _ (some w) => inferInstanceAs (Decidable (guest w = guest v))
  | .load _ _ none | .alloc _ | .free _ | .put _ | .advance _ | .enter _ _ | .interrupt _ | .clear _
  | .offline _ | .offlineNext _ | .online _ => inferInstanceAs (Decidable True)

@[grind =] def Goal.buddy : Goal C V → Option V
  | .load _ b => b
  | .free => none

/-- The buddy that is to be compared with the VMCS that is current. -/
@[grind =] def Owner.buddy : Owner C V → Option V
  | .clearing goal | .calling _ goal => goal.buddy
  | .adding _ b | .switching _ b _ | .pointing _ b _ _ => b
  | _ => none

@[simp, grind =] theorem goal_cleared_buddy (goal : Goal C V) :
    goal.cleared.buddy = goal.buddy := by
  cases goal <;> rfl

/-- Who may have trained the predictors of a CPU. -/
structure BarrierInv (guest : V → U) (s : ResidencyState C V U) : Prop where
  buddy : ∀ v w, (s.owner v).buddy = some w → guest w = guest v
  prev : ∀ v c b w already u, s.owner v = .pointing c b (some w) already →
    s.trained c = some u → guest w = u
  current : ∀ c u w, s.trained c = some u → s.currentVmcs c = some w →
    (∀ v, (s.owner v).pointsOnly ≠ some c) → guest w = u

variable [DecidableEq C] [DecidableEq V] {s : ResidencyState C V U} {guest : V → U}

theorem barrierInv_advance (hs : Residency s) (hb : BarrierInv guest s) {v : V}
    (hfree : (s.owner v).on.all s.noIrq) : BarrierInv guest (advance s v) := by
  have hothers := fun w c => hs.threads.eq_of_on (v := v) (w := w) (c := c)
  obtain ⟨hbuddy, hprev, hcurrent⟩ := id hb
  unfold advance
  split
  · rename_i goal hv
    split
    · constructor
      all_goals simp only [ResidencyState.setOwner, Function.update_apply]
      all_goals grind -linarith
    · constructor
      all_goals simp only [ResidencyState.setOwner, Function.update_apply]
      all_goals cases goal <;> grind -linarith
  · rename_i target goal hv
    split
    · exact hb
    · constructor
      all_goals simp only [ResidencyState.setOwner, Function.update_apply]
      all_goals cases goal <;> grind -linarith
  · constructor
    all_goals simp only [ResidencyState.setOwner, Function.update_apply]
    all_goals grind -linarith
  · rename_i c buddy already hv
    dsimp only
    split
    · constructor
      all_goals simp only [ResidencyState.setOwner, Function.update_apply]
      all_goals cases already <;> grind -linarith
    · constructor
      all_goals simp only [ResidencyState.setOwner, Function.update_apply]
      all_goals grind -linarith
  · rename_i c buddy prev already hv
    have hpointed := hs.pointers.pointed v c (by rw [hv]; rfl)
    unfold predictionBarrier
    split
    · constructor
      all_goals simp only [vmcsLoad, ResidencyState.setOwner, Function.update_apply]
      all_goals cases already <;> grind -linarith
    · rename_i hkeep
      -- What was current is the buddy, so the predictors are those of the same virtual CPU.
      obtain ⟨b, rfl⟩ : ∃ b, buddy = some b :=
        Option.ne_none_iff_exists'.mp fun h => hkeep (.inl h)
      obtain rfl : prev = some b := not_not.mp fun h => hkeep (.inr fun h' => h h'.symm)
      have hguest : guest b = guest v := hbuddy v b (by rw [hv]; rfl)
      have htrained : ∀ u, s.trained c = some u → guest v = u :=
        fun u hu => hguest.symm.trans (hprev v c _ b already u hv hu)
      constructor
      · simp only [vmcsLoad, ResidencyState.setOwner, Function.update_apply]
        cases already <;> grind -linarith
      · simp only [vmcsLoad, ResidencyState.setOwner, Function.update_apply]
        cases already <;> grind -linarith
      · intro c' u w hu hw hpoints
        by_cases hc : c' = c
        · subst hc
          obtain rfl : w = v := Option.some.inj (hw.symm.trans hpointed)
          exact htrained u hu
        · refine hcurrent c' u w hu hw fun v' hv' => ?_
          by_cases hvv : v' = v
          · rw [hvv, hv] at hv'
            exact hc (Option.some.inj hv').symm
          · have hpoints' := hpoints v'
            simp only [vmcsLoad, ResidencyState.setOwner, Function.update_of_ne hvv] at hpoints'
            exact hpoints' hv'
  · constructor
    all_goals simp only [ResidencyState.setOwner, Function.update_apply]
    all_goals grind -linarith
  · constructor
    all_goals simp only [ResidencyState.setOwner, Function.update_apply]
    all_goals grind -linarith
  · exact hb

theorem barrierInv_clearReturn (hs : Threads s) (hb : BarrierInv guest s) {c : C}
    {h : Clearing C V} (hc : s.clearing c = some h) : BarrierInv guest (clearReturn s c h) := by
  unfold clearReturn
  split
  · rename_i goal hgoal
    have hv := hs.caller c h goal hc hgoal
    obtain ⟨hbuddy, hprev, hcurrent⟩ := id hb
    constructor
    all_goals simp only [ResidencyState.setOwner, Function.update_apply]
    all_goals cases goal <;> grind -linarith
  · exact { hb with }

theorem barrierInv_clearStep (hs : Threads s) (hb : BarrierInv guest s) {c : C}
    {h : Clearing C V} (hc : s.clearing c = some h) : BarrierInv guest (clearStep s c h) := by
  unfold clearStep
  split
  · split
    · exact barrierInv_clearReturn hs hb hc
    · split
      · obtain ⟨hbuddy, hprev, hcurrent⟩ := id hb
        refine { hb with current := ?_ }
        simp only [Function.update_apply]
        grind -linarith
      · exact { hb with }
  · exact { hb with }
  · exact { hb with }
  · exact { hb with }
  · have hthreads : Threads { s with launched := Function.update s.launched h.vmcs false } :=
      { hs with }
    have hstored :
        BarrierInv guest { s with launched := Function.update s.launched h.vmcs false } :=
      { hb with }
    exact barrierInv_clearReturn hthreads hstored hc

theorem barrierInv_vmEnter (hs : Residency s) (hb : BarrierInv guest s) {v : V} {c : C}
    (hv : s.owner v = .loaded c) (checked : Bool) :
    BarrierInv guest (vmEnter guest s v c checked).2 := by
  have hcurrent' := hs.current_of_loaded hv
  have hpointed := hs.pointers.pointed v c (by rw [hv]; rfl)
  have hothers := fun w => hs.threads.eq_of_on (v := v) (w := w) (c := c)
  obtain ⟨hbuddy, hprev, hcurrent⟩ := id hb
  unfold vmEnter
  rw [hcurrent']
  dsimp only
  split
  · constructor
    all_goals simp only [ResidencyState.setOwner, Function.update_apply]
    all_goals grind -linarith
  · exact hb

/-- **Every event keeps it**, if the buddies are what they should be. -/
theorem barrierInv_step (hs : Residency s) (hb : BarrierInv guest s) (e : ResidencyEvent C V)
    (hbuddies : BuddiesAgree guest e) : BarrierInv guest (residencyStep guest s e).2 := by
  obtain ⟨hbuddy, hprev, hcurrent⟩ := id hb
  cases e with
  | advance v =>
    simp only [residencyStep]
    split
    · exact barrierInv_advance hs hb ‹_›
    · exact hb
  | enter v checked =>
    simp only [residencyStep]
    split
    · rename_i c hv
      split
      · exact barrierInv_vmEnter hs hb hv checked
      · exact hb
    · exact hb
  | clear c =>
    simp only [residencyStep]
    split
    · exact barrierInv_clearStep hs.threads hb ‹_›
    · exact hb
  | alloc v =>
    simp only [residencyStep]
    split
    · constructor
      all_goals simp only [ResidencyState.setOwner, Function.update_apply]
      all_goals grind -linarith
    · exact hb
  | free v =>
    simp only [residencyStep]
    split
    · constructor
      all_goals simp only [ResidencyState.setOwner, Function.update_apply]
      all_goals grind -linarith
    · exact hb
  | load v c buddy =>
    have hown : ∀ w, buddy = some w → guest w = guest v := by
      rintro w rfl
      exact hbuddies
    simp only [residencyStep]
    split
    · split
      all_goals
        constructor
        all_goals simp only [ResidencyState.setOwner, ResidencyState.setTask, Function.update_apply]
        all_goals grind -linarith
    · exact hb
  | put v =>
    simp only [residencyStep]
    split
    · split
      · constructor
        all_goals simp only [ResidencyState.setOwner, ResidencyState.setTask, Function.update_apply]
        all_goals grind -linarith
      · exact hb
    · exact hb
  | interrupt v =>
    simp only [residencyStep]
    split
    · split
      · exact { hb with }
      · exact hb
    · exact hb
  | offline c =>
    simp only [residencyStep]
    split
    · exact { hb with }
    · exact hb
  | offlineNext c =>
    simp only [residencyStep]
    split
    · split
      · exact { hb with }
      · exact hb
    · split
      · exact { hb with }
      · exact hb
    · exact hb
  | online c =>
    simp only [residencyStep]
    split
    · exact hb
    · exact { hb with }

omit [DecidableEq C] [DecidableEq V] in
theorem barrierInv_init : BarrierInv guest ({} : ResidencyState C V U) := by
  refine ⟨?_, ?_, ?_⟩
  all_goals grind -linarith

/-- Who has trained the predictors of the CPU of an entry. -/
def Entry.OwnPredictors (guest : V → U) (en : Entry C V U) : Prop :=
  ∀ u, en.trained = some u → u = guest en.vmcs

theorem vmEnter_ownPredictors (hs : Residency s) (hb : BarrierInv guest s) {v : V} {c : C}
    (hv : s.owner v = .loaded c) (checked : Bool) :
    ∀ en ∈ (vmEnter guest s v c checked).1, en.OwnPredictors guest := by
  have hpointed := hs.pointers.pointed v c (by rw [hv]; rfl)
  have htrained : ∀ u, s.trained c = some u → u = guest v := by
    intro u hu
    refine (hb.current c u v hu hpointed fun w hw => ?_).symm
    have hvw : v = w := hs.threads.eq_of_on (by rw [hv]; rfl)
      (Owner.on_of_pointed (Owner.pointed_of_pointsOnly hw))
    rw [← hvw, hv] at hw
    cases hw
  unfold vmEnter
  intro en hen
  split at hen
  · cases hen
    exact htrained
  · dsimp only at hen
    split at hen <;> cases hen <;> exact htrained

/-- **No guest is entered with predictors that the guest of another virtual CPU has trained** since
the last barrier on the CPU, over every interleaving of loads, migrations and hotplug. -/
theorem predictors_of_own_guest (guest : V → U) (es : List (ResidencyEvent C V))
    (hbuddies : ∀ e ∈ es, BuddiesAgree guest e) :
    ∀ o ∈ Runs.outputs (residencyStep guest) (fun _ => true) {} es,
      ∀ en ∈ o, en.OwnPredictors guest := by
  refine Runs.outputs_forall
    (I := fun s : ResidencyState C V U => Residency s ∧ BarrierInv guest s)
    (P := fun _ e => BuddiesAgree guest e)
    (fun s e hP hI => ⟨residency_step guest hI.1 e, barrierInv_step hI.1 hI.2 e hP⟩)
    (fun s e _ hI => ?_) es (Runs.each_of_mem es _ fun e he _ => hbuddies e he)
    ⟨residency_init, barrierInv_init⟩
  rcases residencyStep_output guest s e with hnone | ⟨v, c, checked, hv, hout⟩
  · rw [hnone]
    nofun
  · rw [hout]
    exact vmEnter_ownPredictors hI.1 hI.2 hv checked

/-- The guest of VMCSs 0 and 1, and another one. -/
def nestedGuests (v : Fin 3) : Bool := v = 2

/-- All three on one CPU, VMCS 1 behind its buddy. -/
def nestedSwitch : List (ResidencyEvent Unit (Fin 3)) :=
  [.alloc 0, .alloc 1, .alloc 2] ++ loadOn () 2 ++ enterAndPut 2 ++ loadOn () 0 ++
    enterAndPut 0 ++ .load 1 () (some 0) :: List.replicate 5 (.advance 1) ++ [.enter 1 true]

theorem predictors_of_own_guest_nested :
    (∀ e ∈ nestedSwitch, BuddiesAgree nestedGuests e) ∧
      ∀ o ∈ Runs.outputs (residencyStep nestedGuests) (fun _ => true) {} nestedSwitch,
        ∀ en ∈ o, en.OwnPredictors nestedGuests := by
  have h : ∀ e ∈ nestedSwitch, BuddiesAgree nestedGuests e := by decide
  exact ⟨h, predictors_of_own_guest _ _ h⟩

end Kvm
