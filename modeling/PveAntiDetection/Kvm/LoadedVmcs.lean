import Mathlib.Logic.Function.Basic

/-!
# Where a VMCS is loaded

A VMCS may be active on one CPU at a time.  A virtual CPU that is loaded elsewhere calls the CPU
where its VMCS was loaded last, and a CPU that goes offline clears what is loaded there.  All of
them run at once: the threads of the virtual CPUs, the interrupted CPUs and the CPUs that go
offline, one store at a time.  A clearing CPU has its interrupts off.

* `ResidencyState` — the state of the processors, the variables of the driver, and where every
  thread and every interrupted CPU stands;
* `advance` — `vmx_vcpu_load_vmcs`, `free_loaded_vmcs` and what follows an entry;
* `clearStep` — `__loaded_vmcs_clear`;
* `vmEnter` — an entry, and whether it is a VMRESUME;
* `residencyStep` — these, interleaved with `vmx_hardware_disable`.
-/

set_option autoImplicit false

namespace Kvm

variable {C V U : Type}

/-! ## The state -/

/-- What `loaded_vmcs_clear` is called for, with the `buddy` of `vmx_vcpu_load_vmcs`. -/
inductive Goal (C V : Type) where
  | load (cpu : C) (buddy : Option V)
  | free
  deriving DecidableEq

/-- Where the thread that owns a VMCS stands. -/
inductive Owner (C V : Type) where
  | freed
  | idle
  /-- `int cpu = loaded_vmcs->cpu` is next. -/
  | clearing (goal : Goal C V)
  /-- In `smp_call_function_single`. -/
  | calling (target : C) (goal : Goal C V)
  /-- `list_add` is next. -/
  | adding (cpu : C) (buddy : Option V)
  /-- `prev = per_cpu(current_vmcs, cpu)` is next. -/
  | switching (cpu : C) (buddy : Option V) (alreadyLoaded : Bool)
  /-- `vmcs_load` is next. -/
  | pointing (cpu : C) (buddy prev : Option V) (alreadyLoaded : Bool)
  /-- `loaded_vmcs->cpu = cpu` is next. -/
  | storing (cpu : C)
  | loaded (cpu : C)
  /-- The guest has been entered; `loaded_vmcs->launched = 1` is next. -/
  | running (cpu : C)
  deriving DecidableEq

/-- The next store of `__loaded_vmcs_clear`. -/
inductive ClearStage where
  | check
  | vmclear
  | listDel
  | storeCpu
  | storeLaunched
  deriving DecidableEq

/-- A CPU in `__loaded_vmcs_clear`, called for a goal of the owner or by `vmx_hardware_disable`. -/
structure Clearing (C V : Type) where
  vmcs : V
  stage : ClearStage := .check
  caller : Option (Goal C V)
  deriving DecidableEq

structure ResidencyState (C V U : Type) where
  /-- VMCSs that are active on a processor, its current one, and the launch states. -/
  active : C → V → Bool := fun _ _ => false
  current : C → Option V := fun _ => none
  launchState : V → Bool := fun _ => false
  vmxOn : C → Bool := fun _ => true
  /-- The virtual CPU whose guest has trained the branch predictors. -/
  trained : C → Option U := fun _ => none
  /-- `loaded_vmcs->cpu`, where `none` is −1, and `loaded_vmcs->launched`. -/
  cpu : V → Option C := fun _ => none
  launched : V → Bool := fun _ => false
  /-- `current_vmcs` and `loaded_vmcss_on_cpu`. -/
  currentVmcs : C → Option V := fun _ => none
  loadedVmcss : C → List V := fun _ => []
  /-- The thread that is not preempted on a CPU. -/
  task : C → Option V := fun _ => none
  owner : V → Owner C V := fun _ => .freed
  clearing : C → Option (Clearing C V) := fun _ => none
  /-- What `vmclear_local_loaded_vmcss` has yet to visit. -/
  offlining : C → Option (List V) := fun _ => none

/-- An entry: the current VMCS, its launch state, whether VMRESUME is used, and the predictors. -/
structure Entry (C V U : Type) where
  cpu : C
  vmcs : V
  current : Option V
  launchState : Bool
  resume : Bool
  trained : Option U

inductive ResidencyEvent (C V : Type) where
  | alloc (v : V)
  | free (v : V)
  | load (v : V) (cpu : C) (buddy : Option V)
  | put (v : V)
  | advance (v : V)
  /-- `checked`: the guest state passes the checks of the processor. -/
  | enter (v : V) (checked : Bool)
  | interrupt (v : V)
  | clear (cpu : C)
  | offline (cpu : C)
  | offlineNext (cpu : C)
  | online (cpu : C)

section Steps

variable [DecidableEq C] [DecidableEq V]

namespace ResidencyState

def setOwner (s : ResidencyState C V U) (v : V) (o : Owner C V) : ResidencyState C V U :=
  { s with owner := Function.update s.owner v o }

def setTask (s : ResidencyState C V U) (c : C) (v : Option V) : ResidencyState C V U :=
  { s with task := Function.update s.task c v }

/-- No interrupt handler holds up the thread. -/
def noIrq (s : ResidencyState C V U) (c : C) : Bool := (s.clearing c).isNone

end ResidencyState

/-! ## The threads of the virtual CPUs -/

/-- The CPU where a goal is pursued with preemption off. -/
@[grind =] def Goal.on : Goal C V → Option C
  | .load c _ => some c
  | .free => none

/-- What follows `loaded_vmcs_clear`. -/
@[grind =] def Goal.cleared : Goal C V → Owner C V
  | .load c b => .adding c b
  | .free => .freed

/-- What follows `vmcs_load`. -/
@[grind =] def switched (c : C) (alreadyLoaded : Bool) : Owner C V :=
  if alreadyLoaded then .loaded c else .storing c

/-- `vmcs_load`: VMPTRLD. -/
def vmcsLoad (s : ResidencyState C V U) (c : C) (v : V) : ResidencyState C V U :=
  { s with
    active := Function.update s.active c (Function.update (s.active c) v true)
    current := Function.update s.current c (some v) }

/-- `vmcs_clear`: VMCLEAR. -/
def vmcsClear (s : ResidencyState C V U) (c : C) (v : V) : ResidencyState C V U :=
  { s with
    active := Function.update s.active c (Function.update (s.active c) v false)
    current := if s.current c = some v then Function.update s.current c none else s.current
    launchState := Function.update s.launchState v false }

/-- `indirect_branch_prediction_barrier`, unless the buddy was current. -/
def predictionBarrier (s : ResidencyState C V U) (c : C) (buddy prev : Option V) :
    ResidencyState C V U :=
  if buddy = none ∨ buddy ≠ prev then { s with trained := Function.update s.trained c none } else s

/-- One statement of the thread that owns `v`. -/
def advance (s : ResidencyState C V U) (v : V) : ResidencyState C V U :=
  match s.owner v with
  | .clearing goal =>
    match s.cpu v with
    | some target => s.setOwner v (.calling target goal)
    | none => s.setOwner v goal.cleared
  | .calling target goal =>
    -- -ENXIO from a CPU that is down; otherwise the thread waits for the handler.
    if s.vmxOn target ∨ ¬ s.noIrq target then s else s.setOwner v goal.cleared
  | .adding c buddy =>
    let s := { s with loadedVmcss := Function.update s.loadedVmcss c (v :: s.loadedVmcss c) }
    s.setOwner v (.switching c buddy false)
  | .switching c buddy already =>
    let prev := s.currentVmcs c
    if prev = some v then s.setOwner v (switched c already)
    else
      let s := { s with currentVmcs := Function.update s.currentVmcs c (some v) }
      s.setOwner v (.pointing c buddy prev already)
  | .pointing c buddy prev already =>
    (predictionBarrier (vmcsLoad s c v) c buddy prev).setOwner v (switched c already)
  | .storing c =>
    let s := { s with cpu := Function.update s.cpu v (some c) }
    s.setOwner v (.loaded c)
  | .running c =>
    let s := { s with launched := Function.update s.launched v true }
    s.setOwner v (.loaded c)
  | _ => s

/-- The CPU that runs a thread with preemption off. -/
@[grind =] def Owner.on : Owner C V → Option C
  | .freed | .idle => none
  | .clearing goal | .calling _ goal => goal.on
  | .adding c _ | .switching c _ _ | .pointing c _ _ _ | .storing c | .loaded c | .running c =>
    some c

/-- VMLAUNCH or VMRESUME, as `__vmx_vcpu_run_flags` says. -/
def vmEnter (guest : V → U) (s : ResidencyState C V U) (v : V) (c : C) (checked : Bool) :
    Option (Entry C V U) × ResidencyState C V U :=
  match s.current c with
  | none => (some ⟨c, v, none, false, s.launched v, s.trained c⟩, s)
  | some w =>
    let entry : Entry C V U :=
      ⟨c, v, some w, s.launchState w, s.launched v, s.trained c⟩
    if s.launchState w = s.launched v ∧ checked then
      let s := { s with
        launchState := Function.update s.launchState w true
        trained := Function.update s.trained c (some (guest w)) }
      (some entry, s.setOwner v (.running c))
    else (some entry, s)

/-! ## The CPUs that clear -/

/-- The end of `__loaded_vmcs_clear`: the caller goes on. -/
def clearReturn (s : ResidencyState C V U) (c : C) (h : Clearing C V) : ResidencyState C V U :=
  let s := { s with clearing := Function.update s.clearing c none }
  match h.caller with
  | some goal => s.setOwner h.vmcs goal.cleared
  | none => s

/-- One store of `__loaded_vmcs_clear`. -/
def clearStep (s : ResidencyState C V U) (c : C) (h : Clearing C V) : ResidencyState C V U :=
  let goTo (s : ResidencyState C V U) (stage : ClearStage) : ResidencyState C V U :=
    { s with clearing := Function.update s.clearing c (some { h with stage := stage }) }
  match h.stage with
  | .check =>
    if s.cpu h.vmcs ≠ some c then clearReturn s c h
    else if s.currentVmcs c = some h.vmcs then
      goTo { s with currentVmcs := Function.update s.currentVmcs c none } .vmclear
    else goTo s .vmclear
  | .vmclear => goTo (vmcsClear s c h.vmcs) .listDel
  | .listDel =>
    let left := (s.loadedVmcss c).filter (· ≠ h.vmcs)
    goTo { s with loadedVmcss := Function.update s.loadedVmcss c left } .storeCpu
  | .storeCpu => goTo { s with cpu := Function.update s.cpu h.vmcs none } .storeLaunched
  | .storeLaunched =>
    clearReturn { s with launched := Function.update s.launched h.vmcs false } c h

/-! ## The interleaving -/

/-- One event; where it cannot happen, nothing happens. -/
def residencyStep (guest : V → U) (s : ResidencyState C V U) :
    ResidencyEvent C V → Option (Entry C V U) × ResidencyState C V U
  | .alloc v =>
    if s.owner v = .freed then
      (none, ({ s with
        launchState := Function.update s.launchState v false
        launched := Function.update s.launched v false
        cpu := Function.update s.cpu v none }).setOwner v .idle)
    else (none, s)
  | .free v => (none, if s.owner v = .idle then s.setOwner v (.clearing .free) else s)
  | .load v c buddy =>
    if s.owner v = .idle ∧ s.task c = none ∧ s.vmxOn c ∧ s.offlining c = none ∧ s.noIrq c then
      let s := s.setTask c (some v)
      (none, if s.cpu v = some c then s.setOwner v (.switching c buddy true)
        else s.setOwner v (.clearing (.load c buddy)))
    else (none, s)
  | .put v =>
    match s.owner v with
    | .loaded c => (none, if s.noIrq c then (s.setTask c none).setOwner v .idle else s)
    | _ => (none, s)
  | .advance v =>
    (none, if (s.owner v).on.all s.noIrq then advance s v else s)
  | .enter v checked =>
    match s.owner v with
    | .loaded c => if s.noIrq c then vmEnter guest s v c checked else (none, s)
    | _ => (none, s)
  | .interrupt v =>
    match s.owner v with
    | .calling target goal =>
      let h : Clearing C V := { vmcs := v, caller := some goal }
      (none, if s.noIrq target ∧ s.offlining target = none then
        { s with clearing := Function.update s.clearing target (some h) } else s)
    | _ => (none, s)
  | .clear c =>
    match s.clearing c with
    | some h => (none, clearStep s c h)
    | none => (none, s)
  | .offline c =>
    (none, if s.task c = none ∧ s.noIrq c ∧ s.vmxOn c ∧ s.offlining c = none then
      { s with offlining := Function.update s.offlining c (some (s.loadedVmcss c)) } else s)
  | .offlineNext c =>
    match s.offlining c with
    | some (v :: vs) =>
      let h : Clearing C V := { vmcs := v, caller := none }
      (none, if s.noIrq c then
        { s with
          offlining := Function.update s.offlining c (some vs)
          clearing := Function.update s.clearing c (some h) }
        else s)
    | some [] =>
      (none, if s.noIrq c then
        { s with
          offlining := Function.update s.offlining c none
          vmxOn := Function.update s.vmxOn c false
          current := Function.update s.current c none }
        else s)
    | none => (none, s)
  | .online c =>
    (none, if s.vmxOn c then s else { s with vmxOn := Function.update s.vmxOn c true })

end Steps

end Kvm
