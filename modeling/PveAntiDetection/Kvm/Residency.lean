import Mathlib.Data.List.Basic
import PveAntiDetection.Lib.Runs
import PveAntiDetection.Kvm.LoadedVmcs

/-!
# A VMCS is active on one CPU at most

The invariant of the threads and the CPUs that load and clear VMCSs, over every interleaving.

* `Threads` — who runs where;
* `Places` — `loaded_vmcs->cpu` and the lists of the CPUs;
* `Pointers` — the processors and `current_vmcs`;
* `residency_step` — every event keeps the three;
* `vmcs_active_on_one_cpu` — what they say of the processors.
-/

set_option autoImplicit false

namespace Kvm

variable {C V U : Type}

/-! ## Where an owner may stand -/

/-- Listed on the CPU, and `loaded_vmcs->cpu` is not stored yet. -/
@[grind =] def Owner.placed : Owner C V → Option C
  | .switching c _ false | .pointing c _ _ false | .storing c => some c
  | _ => none

/-- `loaded_vmcs->cpu` is the CPU, and only its owner may change that. -/
@[grind =] def Owner.kept : Owner C V → Option C
  | .switching c _ true | .pointing c _ _ true | .loaded c | .running c => some c
  | _ => none

/-- `current_vmcs` of the CPU is the VMCS. -/
@[grind =] def Owner.pointed : Owner C V → Option C
  | .pointing c _ _ _ | .storing c | .loaded c | .running c => some c
  | _ => none

/-- The CPU where `current_vmcs` is stored and VMPTRLD is not done. -/
@[grind =] def Owner.pointsOnly : Owner C V → Option C
  | .pointing c _ _ _ => some c
  | _ => none

/-- `loaded_vmcs->cpu` has been found to be −1. -/
@[grind =] def Owner.cleared : Owner C V → Bool
  | .freed | .adding _ _ => true
  | _ => false

/-- Behind the check of `__loaded_vmcs_clear` and before its store of −1. -/
@[grind =] def ClearStage.owns : ClearStage → Bool
  | .vmclear | .listDel | .storeCpu => true
  | _ => false

/-- What a CPU has deleted from its list, before it stores −1. -/
@[grind =] def deleted : Option (Clearing C V) → Option V
  | some ⟨v, .storeCpu, _⟩ => some v
  | _ => none

/-- What a CPU has found current, before VMCLEAR. -/
@[grind =] def uncleared : Option (Clearing C V) → Option V
  | some ⟨v, .vmclear, _⟩ => some v
  | _ => none

theorem deleted_eq_none {h : Clearing C V} (hstage : h.stage.owns = false) :
    deleted (some h) = none := by
  obtain ⟨v, stage, caller⟩ := h
  cases stage <;> first | rfl | cases hstage

theorem uncleared_eq_none {h : Clearing C V} (hstage : h.stage.owns = false) :
    uncleared (some h) = none := by
  obtain ⟨v, stage, caller⟩ := h
  cases stage <;> first | rfl | cases hstage

section Places

variable {o : Owner C V} {c : C}

@[grind →] theorem Owner.on_of_placed (h : o.placed = some c) : o.on = some c := by
  unfold Owner.placed at h
  split at h <;> simp_all [Owner.on]

@[grind →] theorem Owner.on_of_kept (h : o.kept = some c) : o.on = some c := by
  unfold Owner.kept at h
  split at h <;> simp_all [Owner.on]

@[grind →] theorem Owner.on_of_pointed (h : o.pointed = some c) : o.on = some c := by
  unfold Owner.pointed at h
  split at h <;> simp_all [Owner.on]

@[grind →] theorem Owner.pointed_of_pointsOnly (h : o.pointsOnly = some c) :
    o.pointed = some c := by
  unfold Owner.pointsOnly at h
  split at h <;> simp_all [Owner.pointed]

end Places

section Following

variable (goal : Goal C V) (c : C) (already : Bool)

@[simp, grind =] theorem goal_cleared_on : goal.cleared.on = goal.on := by cases goal <;> rfl

@[simp, grind =] theorem goal_cleared_cleared : goal.cleared.cleared = true := by
  cases goal <;> rfl

@[simp, grind =] theorem goal_cleared_placed : goal.cleared.placed = none := by
  cases goal <;> rfl

@[simp, grind =] theorem goal_cleared_kept : goal.cleared.kept = none := by cases goal <;> rfl

@[simp, grind =] theorem goal_cleared_pointed : goal.cleared.pointed = none := by
  cases goal <;> rfl

@[simp, grind =] theorem goal_cleared_pointsOnly : goal.cleared.pointsOnly = none := by
  cases goal <;> rfl

theorem goal_cleared_ne_calling (target : C) (goal' : Goal C V) :
    goal.cleared ≠ .calling target goal' := by
  cases goal <;> nofun

end Following

/-! ## The invariant -/

/-- Who runs where. -/
structure Threads (s : ResidencyState C V U) : Prop where
  task : ∀ c v, s.task c = some v ↔ (s.owner v).on = some c
  caller : ∀ c h goal, s.clearing c = some h → h.caller = some goal →
    s.owner h.vmcs = .calling c goal
  hotplug : ∀ c h, s.clearing c = some h → h.caller = none → s.offlining c ≠ none
  away : ∀ c, s.offlining c ≠ none → s.task c = none ∧ s.vmxOn c
  on : ∀ c v, s.task c = some v → s.vmxOn c

/-- What `loaded_vmcs->cpu` and the lists say of each other. -/
structure Places (s : ResidencyState C V U) : Prop where
  unplaced : ∀ v, (s.owner v).cleared → s.cpu v = none
  placed : ∀ v c, (s.owner v).placed = some c → s.cpu v = none
  kept : ∀ v c, (s.owner v).kept = some c → s.cpu v = some c
  calling : ∀ v c goal, s.owner v = .calling c goal → s.cpu v = some c ∨ s.cpu v = none
  owned : ∀ c h, s.clearing c = some h → h.stage.owns → s.cpu h.vmcs = some c
  stored : ∀ c h, s.clearing c = some h → h.stage = .storeLaunched → s.cpu h.vmcs ≠ some c
  listed : ∀ c v, v ∈ s.loadedVmcss c ↔
    (s.cpu v = some c ∧ deleted (s.clearing c) ≠ some v) ∨ (s.owner v).placed = some c
  off : ∀ c v, s.vmxOn c = false → s.cpu v ≠ some c
  remaining : ∀ c vs v, s.offlining c = some vs → v ∈ s.loadedVmcss c →
    v ∈ vs ∨ (s.clearing c).map Clearing.vmcs = some v

/-- What the processors and `current_vmcs` say of each other. -/
structure Pointers (s : ResidencyState C V U) : Prop where
  active : ∀ c v, s.active c v → v ∈ s.loadedVmcss c
  inactive : ∀ c h, s.clearing c = some h → h.stage = .listDel → s.active c h.vmcs = false
  current : ∀ c v, s.current c = some v → s.active c v
  listed : ∀ c v, s.currentVmcs c = some v → v ∈ s.loadedVmcss c
  unpointed : ∀ c h, s.clearing c = some h → h.stage.owns → s.currentVmcs c ≠ some h.vmcs
  pointed : ∀ v c, (s.owner v).pointed = some c → s.currentVmcs c = some v
  agree : ∀ c, s.currentVmcs c = s.current c ∨ (∃ v, (s.owner v).pointsOnly = some c) ∨
    (s.currentVmcs c = none ∧ s.current c = uncleared (s.clearing c))

/-- **The invariant.** -/
structure Residency (s : ResidencyState C V U) : Prop where
  threads : Threads s
  places : Places s
  pointers : Pointers s

variable {s : ResidencyState C V U}

/-! ## The threads go on -/

/-- No CPU handles a call of an owner that does not wait. -/
theorem Threads.not_handled (hs : Threads s) {v : V} (hv : ∀ c goal, s.owner v ≠ .calling c goal) :
    ∀ c h goal, s.clearing c = some h → h.caller = some goal → h.vmcs ≠ v := by
  rintro c h goal hc hgoal rfl
  exact hv c goal (hs.caller c h goal hc hgoal)

/-- Two threads that are not preempted run on two CPUs. -/
theorem Threads.eq_of_on (hs : Threads s) {v w : V} {c : C} (hv : (s.owner v).on = some c)
    (hw : (s.owner w).on = some c) : v = w :=
  Option.some.inj (((hs.task c v).mpr hv).symm.trans ((hs.task c w).mpr hw))

/-- A CPU that handles an interrupt holds up the thread that it runs. -/
theorem noIrq_of_on {v : V} {c : C} (hfree : (s.owner v).on.all s.noIrq)
    (hv : (s.owner v).on = some c) : s.clearing c = none := by
  rw [hv] at hfree
  exact Option.isNone_iff_eq_none.mp hfree

/-- A CPU clears no VMCS that its own thread has loaded. -/
theorem Threads.clearing_away (hs : Threads s) {c : C} {h : Clearing C V}
    (hc : s.clearing c = some h) :
    (s.owner h.vmcs).placed ≠ some c ∧ (s.owner h.vmcs).kept ≠ some c ∧
      (s.owner h.vmcs).pointed ≠ some c := by
  cases hcaller : h.caller with
  | some goal =>
    rw [hs.caller c h goal hc hcaller]
    exact ⟨nofun, nofun, nofun⟩
  | none =>
    have htask := (hs.away c (hs.hotplug c h hc hcaller)).1
    have hon : (s.owner h.vmcs).on ≠ some c := by
      rw [Ne, ← hs.task c h.vmcs, htask]
      nofun
    exact ⟨fun h => hon (Owner.on_of_placed h), fun h => hon (Owner.on_of_kept h),
      fun h => hon (Owner.on_of_pointed h)⟩

section Proofs

variable [DecidableEq C] [DecidableEq V]

omit [DecidableEq C] in
/-- An owner goes on where it runs. -/
theorem Threads.setOwner (hs : Threads s) {v : V} {o : Owner C V} (hon : o.on = (s.owner v).on)
    (hhandled : ∀ c h goal, s.clearing c = some h → h.caller = some goal → h.vmcs ≠ v) :
    Threads (s.setOwner v o) := by
  refine { hs with task := ?_, caller := ?_ }
  · intro c w
    refine (hs.task c w).trans ?_
    simp only [ResidencyState.setOwner, Function.update_apply]
    split
    · rename_i hw
      rw [hw, hon]
    · exact Iff.rfl
  · intro c h goal hc hgoal
    have hne := hhandled c h goal hc hgoal
    simp only [ResidencyState.setOwner, Function.update_of_ne hne]
    exact hs.caller c h goal hc hgoal

omit [DecidableEq C] in
/-- **An owner goes on** to a place about which the invariant says no more than holds. -/
theorem Residency.setOwner (hs : Residency s) {v : V} {o : Owner C V}
    (hthreads : Threads (s.setOwner v o))
    (hcleared : o.cleared → s.cpu v = none) (hplaced : o.placed = (s.owner v).placed)
    (hkept : ∀ c, o.kept = some c → s.cpu v = some c)
    (hcalling : ∀ c goal, o = .calling c goal → s.cpu v = some c)
    (hpointed : ∀ c, o.pointed = some c → s.currentVmcs c = some v)
    (honly : o.pointsOnly = (s.owner v).pointsOnly) : Residency (s.setOwner v o) := by
  obtain ⟨-, ⟨_, _, _, _, _, _, _, _, _⟩, ⟨_, _, _, _, _, _, _⟩⟩ := id hs
  refine ⟨hthreads,
    { hs.places with unplaced := ?_, placed := ?_, kept := ?_, calling := ?_, listed := ?_ },
    { hs.pointers with pointed := ?_, agree := ?_ }⟩
  all_goals simp only [ResidencyState.setOwner, Function.update_apply]
  all_goals grind -linarith

omit [DecidableEq C] in
/-- The same, where the owner is not waiting for a call. -/
theorem Residency.threads_setOwner (hs : Residency s) {v : V} {p : Owner C V} (hv : s.owner v = p)
    (hp : ∀ c goal, p ≠ .calling c goal) (o : Owner C V) (hon : o.on = p.on) :
    Threads (s.setOwner v o) := by
  subst hv
  exact hs.threads.setOwner hon (hs.threads.not_handled hp)

section Statements

variable {v : V} {c : C} {buddy prev : Option V} {already : Bool}

omit [DecidableEq C] [DecidableEq V] in
theorem switched_on : (switched c already : Owner C V).on = some c := by cases already <;> rfl

/-- `list_add`. -/
theorem residency_adding (hs : Residency s) (hv : s.owner v = .adding c buddy)
    (hirq : s.clearing c = none) :
    Residency (ResidencyState.setOwner
      { s with loadedVmcss := Function.update s.loadedVmcss c (v :: s.loadedVmcss c) } v
      (.switching c buddy false)) := by
  have htask := hs.threads.task
  have haway := hs.threads.away
  obtain ⟨-, ⟨_, _, _, _, _, _, _, _, _⟩, ⟨_, _, _, _, _, _, _⟩⟩ := id hs
  refine ⟨{ hs.threads_setOwner hv nofun (.switching c buddy false) rfl with },
    { hs.places with
      unplaced := ?_, placed := ?_, kept := ?_, calling := ?_, listed := ?_, remaining := ?_ },
    { hs.pointers with active := ?_, listed := ?_, pointed := ?_, agree := ?_ }⟩
  all_goals simp only [ResidencyState.setOwner, Function.update_apply]
  all_goals grind -linarith

/-- `per_cpu(current_vmcs, cpu) = vmcs`. -/
theorem residency_switching (hs : Residency s) (hv : s.owner v = .switching c buddy already)
    (hirq : s.clearing c = none) :
    Residency (ResidencyState.setOwner
      { s with currentVmcs := Function.update s.currentVmcs c (some v) } v
      (.pointing c buddy prev already)) := by
  have hothers := fun w => hs.threads.eq_of_on (v := v) (w := w) (c := c)
  obtain ⟨-, ⟨_, _, _, _, _, _, _, _, _⟩, ⟨_, _, _, _, _, _, _⟩⟩ := id hs
  refine ⟨{ hs.threads_setOwner hv nofun (.pointing c buddy prev already) rfl with },
    { hs.places with unplaced := ?_, placed := ?_, kept := ?_, calling := ?_, listed := ?_ },
    { hs.pointers with listed := ?_, unpointed := ?_, pointed := ?_, agree := ?_ }⟩
  all_goals simp only [ResidencyState.setOwner, Function.update_apply]
  all_goals cases already <;> grind -linarith

/-- `vmcs_load`. -/
theorem residency_pointing (hs : Residency s) (hv : s.owner v = .pointing c buddy prev already)
    (hirq : s.clearing c = none) :
    Residency ((vmcsLoad s c v).setOwner v (switched c already)) := by
  have hothers := fun w => hs.threads.eq_of_on (v := v) (w := w) (c := c)
  have hthreads := hs.threads_setOwner hv nofun (switched c already) switched_on
  obtain ⟨-, ⟨_, _, _, _, _, _, _, _, _⟩, ⟨_, _, _, _, _, _, _⟩⟩ := id hs
  refine ⟨{ hthreads with },
    { hs.places with unplaced := ?_, placed := ?_, kept := ?_, calling := ?_, listed := ?_ },
    { hs.pointers with
      active := ?_, inactive := ?_, current := ?_, pointed := ?_, agree := ?_ }⟩
  all_goals simp only [ResidencyState.setOwner, vmcsLoad, Function.update_apply]
  all_goals cases already <;> grind -linarith

omit [DecidableEq C] in
/-- `loaded_vmcs->cpu = cpu`. -/
theorem residency_storing (hs : Residency s) (hv : s.owner v = .storing c)
    (hirq : s.clearing c = none) :
    Residency (ResidencyState.setOwner { s with cpu := Function.update s.cpu v (some c) } v
      (.loaded c)) := by
  have hvmx : s.vmxOn c := hs.threads.on c v ((hs.threads.task c v).mpr (by rw [hv]; rfl))
  obtain ⟨-, ⟨_, _, _, _, _, _, _, _, _⟩, ⟨_, _, _, _, _, _, _⟩⟩ := id hs
  refine ⟨{ hs.threads_setOwner hv nofun (.loaded c) rfl with },
    { hs.places with
      unplaced := ?_, placed := ?_, kept := ?_, calling := ?_, owned := ?_, stored := ?_
      listed := ?_, off := ?_ },
    { hs.pointers with pointed := ?_, agree := ?_ }⟩
  all_goals simp only [ResidencyState.setOwner, Function.update_apply]
  all_goals grind -linarith

end Statements

/-- **The statements of an owner.** -/
theorem residency_advance (hs : Residency s) (v : V) (hfree : (s.owner v).on.all s.noIrq) :
    Residency (advance s v) := by
  have hirq := fun c => noIrq_of_on (c := c) hfree
  have hgo := fun o : Owner C V => hs.threads_setOwner (v := v) (o := o) rfl
  unfold advance
  split
  · rename_i goal hv
    rw [hv] at hgo
    split
    · apply hs.setOwner (hgo (.calling _ goal) nofun rfl) <;> grind -linarith
    · apply hs.setOwner (hgo _ nofun (goal_cleared_on goal)) <;> grind -linarith [goal_cleared_ne_calling]
  · rename_i target goal hv
    split
    · exact hs
    · rename_i hoff
      -- Nothing is loaded on a CPU without VMX, and it has no handler left.
      have hcpu : s.cpu v = none := by grind -linarith [hs.places.calling v target, hs.places.off target v]
      have hidle : s.clearing target = none := by simp_all [ResidencyState.noIrq]
      have hcaller := hs.threads.caller
      have hthreads : Threads (s.setOwner v goal.cleared) :=
        hs.threads.setOwner (by rw [goal_cleared_on, hv]; rfl) (by grind)
      apply hs.setOwner hthreads <;> grind -linarith [goal_cleared_ne_calling]
  · rename_i c buddy hv
    exact residency_adding hs hv (hirq c (by rw [hv]; rfl))
  · rename_i c buddy already hv
    have hkept := hs.places.kept v c
    dsimp only
    split
    · rw [hv] at hgo
      apply hs.setOwner (hgo _ nofun switched_on) <;> cases already <;> grind -linarith
    · exact residency_switching hs hv (hirq c (by rw [hv]; rfl))
  · rename_i c buddy prev already hv
    have hloaded := residency_pointing hs hv (hirq c (by rw [hv]; rfl))
    unfold predictionBarrier
    split <;> exact ⟨{ hloaded.threads with }, { hloaded.places with }, { hloaded.pointers with }⟩
  · rename_i c hv
    exact residency_storing hs hv (hirq c (by rw [hv]; rfl))
  · rename_i c hv
    have hkept := hs.places.kept v c
    have hpointed := hs.pointers.pointed v c
    rw [hv] at hgo
    have hloaded : Residency (s.setOwner v (.loaded c)) := by
      apply hs.setOwner (hgo (.loaded c) nofun rfl) <;> grind -linarith
    exact ⟨{ hloaded.threads with }, { hloaded.places with }, { hloaded.pointers with }⟩
  · exact hs

/-! ## The CPUs that clear -/

/-- The end of a clearing, where the VMCS is not on the CPU any more. -/
theorem residency_clearReturn (hs : Residency s) {c : C} {h : Clearing C V}
    (hc : s.clearing c = some h) (hstage : h.stage.owns = false) (hcpu : s.cpu h.vmcs ≠ some c) :
    Residency (clearReturn s c h) := by
  obtain ⟨⟨htask, hcaller, _, haway, hon⟩, ⟨_, _, _, _, _, _, _, _, _⟩, ⟨_, _, _, _, _, _, _⟩⟩ :=
    id hs
  have hdeleted := deleted_eq_none hstage
  have huncleared := uncleared_eq_none hstage
  have hdone : Residency { s with clearing := Function.update s.clearing c none } := by
    refine ⟨{ hs.threads with caller := ?_, hotplug := ?_ },
      { hs.places with owned := ?_, stored := ?_, listed := ?_, remaining := ?_ },
      { hs.pointers with inactive := ?_, unpointed := ?_, agree := ?_ }⟩
    all_goals simp only [Function.update_apply]
    all_goals grind -linarith
  unfold clearReturn
  split
  · rename_i goal hgoal
    have hv := hs.threads.caller c h goal hc hgoal
    have hthreads := hdone.threads.setOwner (o := goal.cleared) (v := h.vmcs)
      (by rw [goal_cleared_on]; exact (congrArg Owner.on hv).symm) (by
        simp only [Function.update_apply]
        grind)
    apply hdone.setOwner hthreads <;> grind -linarith [goal_cleared_ne_calling]
  · exact hdone

section Stores

variable {c : C} {v : V} {caller : Option (Goal C V)}

/-- The check of `cpu`, and of `current_vmcs`. -/
theorem residency_check (hs : Residency s)
    (hc : s.clearing c = some ⟨v, .check, caller⟩) :
    Residency (clearStep s c ⟨v, .check, caller⟩) := by
  obtain ⟨⟨htask, hcaller, _, haway, hon⟩, ⟨_, _, _, _, _, _, _, _, _⟩, ⟨_, _, _, _, _, _, _⟩⟩ :=
    id hs
  have hclearing := hs.threads.clearing_away hc
  dsimp only [clearStep]
  split
  · exact residency_clearReturn hs hc rfl ‹_›
  · split
    · refine ⟨{ hs.threads with caller := ?_, hotplug := ?_ },
        { hs.places with owned := ?_, stored := ?_, listed := ?_, remaining := ?_ },
        { hs.pointers with
          inactive := ?_, listed := ?_, unpointed := ?_, pointed := ?_, agree := ?_ }⟩
      all_goals simp only [Function.update_apply]
      all_goals grind -linarith
    · refine ⟨{ hs.threads with caller := ?_, hotplug := ?_ },
        { hs.places with owned := ?_, stored := ?_, listed := ?_, remaining := ?_ },
        { hs.pointers with inactive := ?_, unpointed := ?_, agree := ?_ }⟩
      all_goals simp only [Function.update_apply]
      all_goals grind -linarith

/-- `vmcs_clear`. -/
theorem residency_vmclear (hs : Residency s)
    (hc : s.clearing c = some ⟨v, .vmclear, caller⟩) :
    Residency (clearStep s c ⟨v, .vmclear, caller⟩) := by
  obtain ⟨⟨htask, hcaller, _, haway, hon⟩, ⟨_, _, _, _, _, _, _, _, _⟩, ⟨_, _, _, _, _, _, _⟩⟩ :=
    id hs
  have hclearing := hs.threads.clearing_away hc
  dsimp only [clearStep]
  refine ⟨{ hs.threads with caller := ?_, hotplug := ?_ },
    { hs.places with owned := ?_, stored := ?_, listed := ?_, remaining := ?_ },
    { hs.pointers with
      active := ?_, inactive := ?_, current := ?_, unpointed := ?_, agree := ?_ }⟩
  all_goals simp only [vmcsClear, Function.update_apply]
  all_goals grind -linarith

/-- `list_del`. -/
theorem residency_listDel (hs : Residency s)
    (hc : s.clearing c = some ⟨v, .listDel, caller⟩) :
    Residency (clearStep s c ⟨v, .listDel, caller⟩) := by
  obtain ⟨⟨htask, hcaller, _, haway, hon⟩, ⟨_, _, _, _, _, _, _, _, _⟩, ⟨_, _, _, _, _, _, _⟩⟩ :=
    id hs
  have hclearing := hs.threads.clearing_away hc
  dsimp only [clearStep]
  refine ⟨{ hs.threads with caller := ?_, hotplug := ?_ },
    { hs.places with owned := ?_, stored := ?_, listed := ?_, remaining := ?_ },
    { hs.pointers with
      active := ?_, inactive := ?_, listed := ?_, unpointed := ?_, agree := ?_ }⟩
  all_goals simp only [Function.update_apply]
  all_goals grind -linarith

/-- `loaded_vmcs->cpu = -1`. -/
theorem residency_storeCpu (hs : Residency s)
    (hc : s.clearing c = some ⟨v, .storeCpu, caller⟩) :
    Residency (clearStep s c ⟨v, .storeCpu, caller⟩) := by
  obtain ⟨⟨htask, hcaller, _, haway, hon⟩, ⟨_, _, _, _, _, _, _, _, _⟩, ⟨_, _, _, _, _, _, _⟩⟩ :=
    id hs
  have hclearing := hs.threads.clearing_away hc
  dsimp only [clearStep]
  refine ⟨{ hs.threads with caller := ?_, hotplug := ?_ },
    { hs.places with
      unplaced := ?_, placed := ?_, kept := ?_, calling := ?_, owned := ?_, stored := ?_
      listed := ?_, off := ?_, remaining := ?_ },
    { hs.pointers with inactive := ?_, unpointed := ?_, agree := ?_ }⟩
  all_goals simp only [Function.update_apply]
  all_goals grind -linarith

end Stores

/-- **One store of `__loaded_vmcs_clear`.** -/
theorem residency_clearStep (hs : Residency s) {c : C} {h : Clearing C V}
    (hc : s.clearing c = some h) : Residency (clearStep s c h) := by
  obtain ⟨v, stage, caller⟩ := h
  cases stage with
  | check => exact residency_check hs hc
  | vmclear => exact residency_vmclear hs hc
  | listDel => exact residency_listDel hs hc
  | storeCpu => exact residency_storeCpu hs hc
  | storeLaunched =>
    dsimp only [clearStep]
    have hstored : Residency { s with launched := Function.update s.launched v false } :=
      ⟨{ hs.threads with }, { hs.places with }, { hs.pointers with }⟩
    exact residency_clearReturn hstored hc rfl (hs.places.stored c _ hc rfl)

/-! ## Every event -/

theorem residency_vmEnter (guest : V → U) (hs : Residency s) {v : V} {c : C}
    (hv : s.owner v = .loaded c) (checked : Bool) : Residency (vmEnter guest s v c checked).2 := by
  have hthreads := hs.threads.setOwner (v := v) (o := .running c) (by rw [hv]; rfl)
    (hs.threads.not_handled (by simp [hv]))
  have hentered : Residency (s.setOwner v (.running c)) := by
    have := hs.places.kept v c
    have := hs.pointers.pointed v c
    apply hs.setOwner hthreads <;> grind -linarith
  unfold vmEnter
  split
  · exact hs
  · dsimp only
    split
    · exact ⟨{ hentered.threads with }, { hentered.places with }, { hentered.pointers with }⟩
    · exact hs

section Events

variable (guest : V → U)

/-- `alloc_loaded_vmcs`. -/
theorem residency_alloc (hs : Residency s) (v : V) :
    Residency (residencyStep guest s (.alloc v)).2 := by
  obtain ⟨⟨htask, hcaller, _, haway, hon⟩, ⟨_, _, _, _, _, _, _, _, _⟩, ⟨_, _, _, _, _, _, _⟩⟩ :=
    id hs
  simp only [residencyStep]
  split
  · rename_i hv
    have hidle : Residency (s.setOwner v .idle) := by
      have hthreads := hs.threads.setOwner (v := v) (o := .idle) (by rw [hv]; rfl)
        (hs.threads.not_handled (by simp [hv]))
      apply hs.setOwner hthreads <;> grind -linarith
    have hcpu : Function.update s.cpu v none = s.cpu := by
      rw [Function.update_eq_self_iff]
      grind -linarith
    simp only [hcpu]
    exact ⟨{ hidle.threads with }, { hidle.places with }, { hidle.pointers with }⟩
  · exact hs

/-- `vmx_vcpu_load_vmcs` up to its first store. -/
theorem residency_load (hs : Residency s) (v : V) (c : C) (buddy : Option V) :
    Residency (residencyStep guest s (.load v c buddy)).2 := by
  obtain ⟨⟨htask, hcaller, _, haway, hon⟩, ⟨_, _, _, _, _, _, _, _, _⟩, ⟨_, _, _, _, _, _, _⟩⟩ :=
    id hs
  simp only [residencyStep]
  split
  · rename_i hload
    obtain ⟨hv, hfree, hvmx, hoff, hirq⟩ := hload
    have hwait := hs.threads.not_handled (v := v) (by simp [hv])
    split
    · rename_i hcpu
      have hcpu : s.cpu v = some c := hcpu
      refine ⟨{ hs.threads with task := ?_, caller := ?_, away := ?_, on := ?_ },
        { hs.places with unplaced := ?_, placed := ?_, kept := ?_, calling := ?_, listed := ?_ },
        { hs.pointers with pointed := ?_, agree := ?_ }⟩
      all_goals simp only [ResidencyState.setOwner, ResidencyState.setTask, Function.update_apply]
      all_goals grind -linarith
    · refine ⟨{ hs.threads with task := ?_, caller := ?_, away := ?_, on := ?_ },
        { hs.places with unplaced := ?_, placed := ?_, kept := ?_, calling := ?_, listed := ?_ },
        { hs.pointers with pointed := ?_, agree := ?_ }⟩
      all_goals simp only [ResidencyState.setOwner, ResidencyState.setTask, Function.update_apply]
      all_goals grind -linarith
  · exact hs

/-- The thread is preempted, or leaves. -/
theorem residency_put (hs : Residency s) (v : V) :
    Residency (residencyStep guest s (.put v)).2 := by
  obtain ⟨⟨htask, hcaller, _, haway, hon⟩, ⟨_, _, _, _, _, _, _, _, _⟩, ⟨_, _, _, _, _, _, _⟩⟩ :=
    id hs
  simp only [residencyStep]
  split
  · split
    · rename_i c hv hirq
      have hwait := hs.threads.not_handled (v := v) (by simp [hv])
      refine ⟨{ hs.threads with task := ?_, caller := ?_, away := ?_, on := ?_ },
        { hs.places with unplaced := ?_, placed := ?_, kept := ?_, calling := ?_, listed := ?_ },
        { hs.pointers with pointed := ?_, agree := ?_ }⟩
      all_goals simp only [ResidencyState.setOwner, ResidencyState.setTask, Function.update_apply]
      all_goals grind -linarith
    · exact hs
  · exact hs

/-- The call of `loaded_vmcs_clear` arrives. -/
theorem residency_interrupt (hs : Residency s) (v : V) :
    Residency (residencyStep guest s (.interrupt v)).2 := by
  obtain ⟨⟨htask, hcaller, _, haway, hon⟩, ⟨_, _, _, _, _, _, _, _, _⟩, ⟨_, _, _, _, _, _, _⟩⟩ :=
    id hs
  simp only [residencyStep]
  split
  · rename_i c goal hv
    split
    · rename_i hfree
      have hirq : s.clearing c = none := Option.isNone_iff_eq_none.mp hfree.1
      refine ⟨{ hs.threads with caller := ?_, hotplug := ?_ },
        { hs.places with owned := ?_, stored := ?_, listed := ?_, remaining := ?_ },
        { hs.pointers with inactive := ?_, unpointed := ?_, agree := ?_ }⟩
      all_goals simp only [Function.update_apply]
      all_goals grind -linarith
    · exact hs
  · exact hs

/-- `hardware_disable_nolock` begins. -/
theorem residency_offline (hs : Residency s) (c : C) :
    Residency (residencyStep guest s (.offline c)).2 := by
  obtain ⟨⟨htask, hcaller, _, haway, hon⟩, ⟨_, _, _, _, _, _, _, _, _⟩, ⟨_, _, _, _, _, _, _⟩⟩ :=
    id hs
  simp only [residencyStep]
  split
  · rename_i hdown
    refine ⟨{ hs.threads with hotplug := ?_, away := ?_ }, { hs.places with remaining := ?_ },
      { hs.pointers with }⟩
    all_goals simp only [Function.update_apply]
    all_goals grind -linarith
  · exact hs

/-- The loop of `vmclear_local_loaded_vmcss`, and VMXOFF behind it. -/
theorem residency_offlineNext (hs : Residency s) (c : C) :
    Residency (residencyStep guest s (.offlineNext c)).2 := by
  obtain ⟨⟨htask, hcaller, _, haway, hon⟩, ⟨_, _, _, _, _, _, _, _, _⟩, ⟨_, _, _, _, _, _, _⟩⟩ :=
    id hs
  simp only [residencyStep]
  split
  · rename_i v vs hvs
    split
    · rename_i hfree
      have hirq : s.clearing c = none := Option.isNone_iff_eq_none.mp hfree
      refine ⟨{ hs.threads with caller := ?_, hotplug := ?_, away := ?_ },
        { hs.places with owned := ?_, stored := ?_, listed := ?_, remaining := ?_ },
        { hs.pointers with inactive := ?_, unpointed := ?_, agree := ?_ }⟩
      all_goals simp only [Function.update_apply]
      all_goals grind -linarith
    · exact hs
  · rename_i hvs
    split
    · rename_i hfree
      have hirq : s.clearing c = none := Option.isNone_iff_eq_none.mp hfree
      have hlist : ∀ v, v ∉ s.loadedVmcss c := by grind -linarith
      have hcurrent : s.currentVmcs c = none :=
        Option.eq_none_iff_forall_ne_some.mpr fun v hv => hlist v (hs.pointers.listed c v hv)
      refine ⟨{ hs.threads with hotplug := ?_, away := ?_, on := ?_ },
        { hs.places with off := ?_, remaining := ?_ },
        { hs.pointers with current := ?_, agree := ?_ }⟩
      all_goals simp only [Function.update_apply]
      all_goals grind -linarith
    · exact hs
  · exact hs

/-- `kvm_online_cpu`. -/
theorem residency_online (hs : Residency s) (c : C) :
    Residency (residencyStep guest s (.online c)).2 := by
  obtain ⟨⟨htask, hcaller, _, haway, hon⟩, ⟨_, _, _, _, _, _, _, _, _⟩, ⟨_, _, _, _, _, _, _⟩⟩ :=
    id hs
  simp only [residencyStep]
  split
  · exact hs
  · refine ⟨{ hs.threads with away := ?_, on := ?_ }, { hs.places with off := ?_ },
      { hs.pointers with }⟩
    all_goals simp only [Function.update_apply]
    all_goals grind -linarith

end Events

/-- **Every event keeps the invariant.** -/
theorem residency_step (guest : V → U) (hs : Residency s) (e : ResidencyEvent C V) :
    Residency (residencyStep guest s e).2 := by
  cases e with
  | advance v =>
    simp only [residencyStep]
    split
    · exact residency_advance hs v ‹_›
    · exact hs
  | enter v checked =>
    simp only [residencyStep]
    split
    · rename_i c hv
      split
      · exact residency_vmEnter guest hs hv checked
      · exact hs
    · exact hs
  | clear c =>
    simp only [residencyStep]
    split
    · exact residency_clearStep hs ‹_›
    · exact hs
  | alloc v => exact residency_alloc guest hs v
  | free v =>
    simp only [residencyStep]
    split
    · rename_i hv
      have hthreads := hs.threads.setOwner (v := v) (o := .clearing .free) (by rw [hv]; rfl)
        (hs.threads.not_handled (by simp [hv]))
      apply hs.setOwner hthreads <;> grind -linarith
    · exact hs
  | load v c buddy => exact residency_load guest hs v c buddy
  | put v => exact residency_put guest hs v
  | interrupt v => exact residency_interrupt guest hs v
  | offline c => exact residency_offline guest hs c
  | offlineNext c => exact residency_offlineNext guest hs c
  | online c => exact residency_online guest hs c

omit [DecidableEq C] [DecidableEq V] in
theorem residency_init : Residency ({} : ResidencyState C V U) := by
  refine ⟨⟨?_, ?_, ?_, ?_, ?_⟩, ⟨?_, ?_, ?_, ?_, ?_, ?_, ?_, ?_, ?_⟩,
    ⟨?_, ?_, ?_, ?_, ?_, ?_, ?_⟩⟩
  all_goals grind -linarith

/-- **The invariant of every run.** -/
theorem residency_run (guest : V → U) (es : List (ResidencyEvent C V)) :
    Residency (Runs.final (residencyStep guest) {} es) :=
  Runs.final_induct (I := Residency) (fun _ e hs => residency_step guest hs e) es residency_init

/-! ## What it says of the processors -/

omit [DecidableEq C] [DecidableEq V] in
/-- A VMCS is on one list at most. -/
theorem Residency.eq_of_listed (hs : Residency s) {c c' : C} {v : V}
    (hv : v ∈ s.loadedVmcss c) (hv' : v ∈ s.loadedVmcss c') : c = c' := by
  have hplaced := hs.places.placed v
  rcases (hs.places.listed c v).mp hv with h | h <;>
    rcases (hs.places.listed c' v).mp hv' with h' | h' <;> grind -linarith

omit [DecidableEq C] [DecidableEq V] in
/-- A thread that is about to put its VMCS on a list, and one that has freed it, find it on none. -/
theorem Residency.not_listed (hs : Residency s) {c : C} {v : V} (hv : (s.owner v).cleared) :
    v ∉ s.loadedVmcss c := by
  have hcpu := hs.places.unplaced v hv
  intro hlisted
  rcases (hs.places.listed c v).mp hlisted with h | h
  · rw [hcpu] at h
    cases h.1
  · generalize s.owner v = o at hv h
    cases o <;> simp_all [Owner.cleared, Owner.placed]

/-- **A VMCS is active on one CPU at most**, where it is on the list that a crash clears; on none
once it is freed, and on no CPU that is down.  No list is given a VMCS that is still on a list. -/
theorem vmcs_active_on_one_cpu (guest : V → U) (es : List (ResidencyEvent C V)) :
    let s := Runs.final (residencyStep guest) {} es
    (∀ c c' v, s.active c v → s.active c' v → c = c') ∧
    (∀ c v, s.active c v → v ∈ s.loadedVmcss c) ∧
    (∀ c v, s.owner v = .freed → s.active c v = false) ∧
    (∀ c v, s.vmxOn c = false → s.active c v = false) ∧
    ∀ c c' v buddy, s.owner v = .adding c buddy → v ∉ s.loadedVmcss c' := by
  intro s
  have hs : Residency s := residency_run guest es
  refine ⟨fun c c' v h h' => ?_, hs.pointers.active, fun c v hv => ?_, fun c v hoff => ?_,
    fun c c' v buddy hv => hs.not_listed (by rw [hv]; rfl)⟩
  · exact hs.eq_of_listed (hs.pointers.active c v h) (hs.pointers.active c' v h')
  · exact Bool.eq_false_iff.mpr fun h =>
      hs.not_listed (by rw [hv]; rfl) (hs.pointers.active c v h)
  · refine Bool.eq_false_iff.mpr fun h => ?_
    rcases (hs.places.listed c v).mp (hs.pointers.active c v h) with hcpu | hplaced
    · exact hs.places.off c v hoff hcpu.1
    · have hon := hs.threads.on c v ((hs.threads.task c v).mpr (Owner.on_of_placed hplaced))
      exact absurd hoff (by simp [hon])

omit [DecidableEq C] [DecidableEq V] in
/-- The current VMCS of a CPU that is about to enter a guest. -/
theorem Residency.current_of_loaded (hs : Residency s) {v : V} {c : C}
    (hv : s.owner v = .loaded c) : s.current c = some v := by
  have hpointed := hs.pointers.pointed v c (by rw [hv]; rfl)
  rcases hs.pointers.agree c with hagree | ⟨w, hw⟩ | hcleared
  · rw [← hagree, hpointed]
  · have hvw : v = w := hs.threads.eq_of_on (by rw [hv]; rfl)
      (Owner.on_of_pointed (Owner.pointed_of_pointsOnly hw))
    rw [← hvw, hv] at hw
    cases hw
  · rw [hcleared.1] at hpointed
    cases hpointed

end Proofs

end Kvm
