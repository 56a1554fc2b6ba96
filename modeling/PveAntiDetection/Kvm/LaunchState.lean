import Mathlib.Data.Fintype.Basic
import PveAntiDetection.Kvm.Residency

/-!
# The launch state of a VMCS

An entry is a VMRESUME exactly if `loaded_vmcs->launched` is set, and the processor refuses a
VMRESUME of a VMCS that is clear and a VMLAUNCH of one that is launched.  `__loaded_vmcs_clear`
stores −1 in `loaded_vmcs->cpu` before it clears `launched`, and a thread that finds −1 waits for
nobody.

* `BetweenStores` — a thread that finds −1 between the two stores;
* `LaunchInv`, `launchInv_step` — `launched` against the launch state;
* `launched_agrees` — the entries of the runs without such a thread;
* `launched_race` — with such a thread, a VMCS that is clear is resumed.
-/

set_option autoImplicit false

namespace Kvm

variable {C V U : Type}

/-! ## The launch state -/

/-- The thread waits, or does not load its VMCS. -/
@[grind =] def Owner.waits (c : C) : Owner C V → Prop
  | .idle | .clearing _ => True
  | .calling target _ => target = c
  | _ => False

/-- VMCLEAR is done, and `launched` is not cleared yet. -/
@[grind =] def ClearStage.late : ClearStage → Bool
  | .listDel | .storeCpu | .storeLaunched => true
  | _ => false

/-- `launched` against the launch state. -/
structure LaunchInv (s : ResidencyState C V U) : Prop where
  late : ∀ c h, s.clearing c = some h → h.stage.late → s.launchState h.vmcs = false
  last : ∀ c h, s.clearing c = some h → h.stage = .storeLaunched →
    s.cpu h.vmcs = none ∧ (s.owner h.vmcs).waits c
  running : ∀ v c, s.owner v = .running c → s.launchState v = true
  agree : ∀ v, (∀ c h, s.clearing c = some h → h.vmcs = v → h.stage.late = false) →
    s.owner v ≠ .freed → (∀ c, s.owner v ≠ .running c) → s.launched v = s.launchState v

/-- The thread is about to read `loaded_vmcs->cpu`. -/
@[grind =] def Owner.reads : Owner C V → Bool
  | .clearing _ => true
  | _ => false

/-- The CPU is about to clear `launched`. -/
@[grind =] def storesLaunched [DecidableEq V] (v : V) : Option (Clearing C V) → Bool
  | some ⟨w, .storeLaunched, _⟩ => w = v
  | _ => false

/-- The thread finds −1 although `launched` is not cleared yet. -/
def BetweenStores [DecidableEq V] (s : ResidencyState C V U) (v : V) : Prop :=
  s.cpu v = none ∧ (s.owner v).reads ∧ ∃ c, storesLaunched v (s.clearing c)

/-- No thread does. -/
def NoRace [DecidableEq V] (s : ResidencyState C V U) : ResidencyEvent C V → Prop
  | .advance v => ¬ BetweenStores s v
  | _ => True

instance [Fintype C] [DecidableEq C] [DecidableEq V] (s : ResidencyState C V U)
    (e : ResidencyEvent C V) : Decidable (NoRace s e) :=
  match e with
  | .advance v => inferInstanceAs
      (Decidable (¬ (s.cpu v = none ∧ (s.owner v).reads ∧ ∃ c, storesLaunched v (s.clearing c))))
  | .alloc _ | .free _ | .load _ _ _ | .put _ | .enter _ _ | .interrupt _ | .clear _ | .offline _
  | .offlineNext _ | .online _ => inferInstanceAs (Decidable True)

variable [DecidableEq C] [DecidableEq V] {s : ResidencyState C V U}

omit [DecidableEq C] in
/-- **An owner goes on**, where no CPU is about to clear `launched` for it. -/
theorem LaunchInv.setOwner (hl : LaunchInv s) {v : V} {o : Owner C V} (hfreed : s.owner v ≠ .freed)
    (hrun : ∀ c, s.owner v ≠ .running c) (ho : ∀ c, o ≠ .running c)
    (hwaits : ∀ c h, s.clearing c = some h → h.stage = .storeLaunched → h.vmcs = v → o.waits c) :
    LaunchInv (s.setOwner v o) := by
  obtain ⟨-, hlast, hrunning, hagree⟩ := id hl
  refine { hl with last := ?_, running := ?_, agree := ?_ }
  all_goals simp only [ResidencyState.setOwner, Function.update_apply]
  all_goals grind -linarith

theorem launchInv_advance (hl : LaunchInv s) {v : V}
    (hfree : (s.owner v).on.all s.noIrq) (hrace : ¬ BetweenStores s v) :
    LaunchInv (advance s v) := by
  have hlast := fun c h hc hstage => hl.last c h hc hstage
  have hlost : s.cpu v = none → (s.owner v).reads → ∀ c h, s.clearing c = some h →
      h.stage = .storeLaunched → h.vmcs ≠ v := by
    rintro hcpu hreads c ⟨w, stage, caller⟩ hc rfl rfl
    exact hrace ⟨hcpu, hreads, c, by rw [hc]; exact decide_eq_true rfl⟩
  -- A thread that does not wait is not cleared.
  have hgo : ∀ o : Owner C V, (∀ c, ¬ (s.owner v).waits c) → s.owner v ≠ .freed →
      (∀ c, s.owner v ≠ .running c) → (∀ c, o ≠ .running c) → LaunchInv (s.setOwner v o) := by
    refine fun o hv hfreed hrun ho => hl.setOwner hfreed hrun ho fun c h hc hstage hvmcs => ?_
    exact absurd (hvmcs ▸ (hlast c h hc hstage).2) (hv c)
  unfold advance
  split
  · rename_i goal hv
    split
    · rename_i target hcpu
      refine hl.setOwner (by simp [hv]) (by simp [hv]) (by simp) fun c h hc hstage hvmcs => ?_
      have hnone := (hlast c h hc hstage).1
      rw [hvmcs, hcpu] at hnone
      cases hnone
    · rename_i hcpu
      refine hl.setOwner (by simp [hv]) (by simp [hv]) (by cases goal <;> simp [Goal.cleared])
        fun c h hc hstage hvmcs => ?_
      exact absurd hvmcs (hlost hcpu (by rw [hv]; rfl) c h hc hstage)
  · rename_i target goal hv
    split
    · exact hl
    · -- A CPU that has stored −1 for the waiting thread is the one that is called.
      have hidle : s.clearing target = none := by simp_all [ResidencyState.noIrq]
      refine hl.setOwner (by simp [hv]) (by simp [hv]) (by cases goal <;> simp [Goal.cleared])
        fun c h hc hstage hvmcs => ?_
      have htarget := (hlast c h hc hstage).2
      rw [hvmcs, hv] at htarget
      have hsame : target = c := htarget
      rw [← hsame, hidle] at hc
      cases hc
  · rename_i c buddy hv
    exact { hgo (.switching c buddy false) (by simp [hv, Owner.waits]) (by simp [hv])
      (by simp [hv]) (by simp) with }
  · rename_i c buddy already hv
    dsimp only
    split
    · exact hgo _ (by simp [hv, Owner.waits]) (by simp [hv]) (by simp [hv])
        (by cases already <;> simp [switched])
    · exact { hgo (.pointing c buddy (s.currentVmcs c) already) (by simp [hv, Owner.waits])
        (by simp [hv]) (by simp [hv]) (by simp) with }
  · rename_i c buddy prev already hv
    have hloaded : LaunchInv (s.setOwner v (switched c already)) :=
      hgo _ (by simp [hv, Owner.waits]) (by simp [hv]) (by simp [hv])
        (by cases already <;> simp [switched])
    unfold predictionBarrier
    split <;> exact { hloaded with }
  · -- A store to `cpu` is behind the clearing of every CPU.
    obtain ⟨-, -, hrunning, hagree⟩ := id hl
    refine { hl with last := ?_, running := ?_, agree := ?_ }
    all_goals simp only [ResidencyState.setOwner, Function.update_apply]
    all_goals grind -linarith
  · obtain ⟨-, -, hrunning, hagree⟩ := id hl
    refine { hl with last := ?_, running := ?_, agree := ?_ }
    all_goals simp only [ResidencyState.setOwner, Function.update_apply]
    all_goals grind -linarith
  · exact hl

theorem launchInv_clearReturn (hs : Threads s) (hl : LaunchInv s) {c : C} {h : Clearing C V}
    (hc : s.clearing c = some h)
    (hagree : h.stage.late → s.launched h.vmcs = s.launchState h.vmcs) :
    LaunchInv (clearReturn s c h) := by
  have hcaller := hs.caller
  have hdone : LaunchInv { s with clearing := Function.update s.clearing c none } := by
    obtain ⟨hlate, hlast, hrunning, hagree⟩ := id hl
    refine { hl with late := ?_, last := ?_, agree := ?_ }
    all_goals simp only [Function.update_apply]
    all_goals grind -linarith
  unfold clearReturn
  split
  · rename_i goal hgoal
    have hv := hs.caller c h goal hc hgoal
    obtain ⟨hlate, hlast, hrunning, hagree⟩ := id hdone
    refine { hdone with last := ?_, running := ?_, agree := ?_ }
    all_goals simp only [ResidencyState.setOwner, Function.update_apply] at *
    all_goals cases goal <;> grind -linarith
  · exact hdone

omit [DecidableEq C] [DecidableEq V] in
/-- The owner of a VMCS that a CPU clears waits for it, or for nothing. -/
theorem Residency.waits_of_owned (hs : Residency s) {c : C} {h : Clearing C V}
    (hc : s.clearing c = some h) (hstage : h.stage.owns) : (s.owner h.vmcs).waits c := by
  have hcpu := hs.places.owned c h hc hstage
  have hunplaced := hs.places.unplaced h.vmcs
  have hplaced := hs.places.placed h.vmcs
  have hkept := hs.places.kept h.vmcs
  have hcalling := hs.places.calling h.vmcs
  have hclearing := hs.threads.clearing_away hc
  cases hv : s.owner h.vmcs with
  | idle | clearing => trivial
  | calling target goal =>
    have htarget := hcalling target goal hv
    rw [hcpu] at htarget
    simpa [Owner.waits, eq_comm] using htarget
  | switching c' buddy already | pointing c' buddy prev already =>
    rw [hv] at hplaced hkept hclearing
    cases already <;> grind -linarith
  | freed | adding | storing | loaded | running =>
    rw [hv] at hunplaced hplaced hkept hclearing
    grind -linarith

omit [DecidableEq V] in
/-- A VMCS that no CPU is clearing behind a next step, none was clearing before it. -/
theorem notLate_of_next {c : C} {h g : Clearing C V} (hc : s.clearing c = some h)
    (hvmcs : g.vmcs = h.vmcs) (hstage : h.stage.late → g.stage.late) {v : V}
    (hv : ∀ c₁ h₁, Function.update s.clearing c (some g) c₁ = some h₁ → h₁.vmcs = v →
      h₁.stage.late = false) :
    ∀ c₁ h₁, s.clearing c₁ = some h₁ → h₁.vmcs = v → h₁.stage.late = false := by
  intro c₁ h₁ hc₁ hv₁
  by_cases hcc : c₁ = c
  · rw [hcc, hc, Option.some.injEq] at hc₁
    subst hc₁
    have hlate := hv c g (Function.update_self ..) (hvmcs.trans hv₁)
    exact Bool.eq_false_iff.mpr fun h => Bool.eq_false_iff.mp hlate (hstage h)
  · exact hv c₁ h₁ (by rw [Function.update_of_ne hcc]; exact hc₁) hv₁

theorem launchInv_clearStep (hs : Residency s) (hl : LaunchInv s) {c : C} {h : Clearing C V}
    (hc : s.clearing c = some h) : LaunchInv (clearStep s c h) := by
  have hclearing := hs.threads.clearing_away hc
  have hcaller := hs.threads.caller
  have howned := hs.places.owned
  obtain ⟨hlate, hlast, hrunning, hagree⟩ := id hl
  obtain ⟨v, stage, caller⟩ := h
  cases stage with
  | check =>
    dsimp only [clearStep]
    split
    · exact launchInv_clearReturn hs.threads hl hc (by simp [ClearStage.late])
    · have hchecked : LaunchInv
          { s with clearing := Function.update s.clearing c (some ⟨v, .vmclear, caller⟩) } := by
        refine { hl with
          late := ?_, last := ?_
          agree := fun w hw => hagree w (notLate_of_next (g := ⟨v, .vmclear, caller⟩) hc rfl
            (by simp [ClearStage.late]) hw) }
        all_goals simp only [Function.update_apply]
        all_goals grind -linarith
      split <;> exact { hchecked with }
  | vmclear =>
    -- A guest that runs has its VMCS on its own CPU.
    have hkept := hs.places.kept v
    dsimp only [clearStep]
    refine { hl with late := ?_, last := ?_, running := ?_, agree := fun w hw => ?_ }
    · simp only [vmcsClear, Function.update_apply]
      grind -linarith
    · simp only [vmcsClear, Function.update_apply]
      grind -linarith
    · simp only [vmcsClear, Function.update_apply]
      grind -linarith
    · have hne : w ≠ v := by
        rintro rfl
        cases hw c _ (Function.update_self ..) rfl
      simp only [vmcsClear, Function.update_of_ne hne]
      exact hagree w (notLate_of_next (g := ⟨v, .listDel, caller⟩) hc rfl (fun _ => rfl) hw)
  | listDel =>
    dsimp only [clearStep]
    refine { hl with
      late := ?_, last := ?_
      agree := fun w hw =>
        hagree w (notLate_of_next (g := ⟨v, .storeCpu, caller⟩) hc rfl (fun _ => rfl) hw) }
    all_goals simp only [Function.update_apply]
    all_goals grind -linarith
  | storeCpu =>
    have hwaits := hs.waits_of_owned hc rfl
    dsimp only [clearStep]
    refine { hl with
      late := ?_, last := ?_
      agree := fun w hw =>
        hagree w (notLate_of_next (g := ⟨v, .storeLaunched, caller⟩) hc rfl (fun _ => rfl) hw) }
    all_goals simp only [Function.update_apply]
    all_goals grind -linarith
  | storeLaunched =>
    dsimp only [clearStep]
    have hstored : LaunchInv { s with launched := Function.update s.launched v false } := by
      refine { hl with agree := fun w hw hfreed hrun => ?_ }
      by_cases hne : w = v
      · rw [hne]
        simp only [Function.update_self]
        exact (hlate c _ hc rfl).symm
      · simp only [Function.update_of_ne hne]
        exact hagree w hw hfreed hrun
    have hthreads : Threads { s with launched := Function.update s.launched v false } :=
      { hs.threads with }
    refine launchInv_clearReturn hthreads hstored hc fun _ => ?_
    simp only [Function.update_self]
    exact (hlate c _ hc rfl).symm

omit [DecidableEq C] [DecidableEq V] in
/-- No CPU has cleared the VMCS of a thread that goes on. -/
theorem LaunchInv.not_late (hs : Residency s) (hl : LaunchInv s) {v : V}
    (hv : ∀ c, ¬ (s.owner v).waits c) :
    ∀ c h, s.clearing c = some h → h.vmcs = v → h.stage.late = false := by
  rintro c h hc rfl
  cases hstage : h.stage with
  | check | vmclear => rfl
  | listDel | storeCpu => exact absurd (hs.waits_of_owned hc (by rw [hstage]; rfl)) (hv c)
  | storeLaunched => exact absurd (hl.last c h hc hstage).2 (hv c)

theorem launchInv_vmEnter (guest : V → U) (hs : Residency s) (hl : LaunchInv s) {v : V} {c : C}
    (hv : s.owner v = .loaded c) (checked : Bool) :
    LaunchInv (vmEnter guest s v c checked).2 := by
  have hcurrent := hs.current_of_loaded hv
  have hnotLate := hl.not_late hs (v := v) (by rw [hv]; exact fun _ => id)
  obtain ⟨hlate, hlast, hrunning, hagree⟩ := id hl
  unfold vmEnter
  rw [hcurrent]
  dsimp only
  split
  · refine { hl with late := ?_, last := ?_, running := ?_, agree := ?_ }
    all_goals simp only [ResidencyState.setOwner, Function.update_apply]
    all_goals grind -linarith
  · exact hl

/-- **Every event keeps it**, unless a thread finds −1 between the two stores. -/
theorem launchInv_step (guest : V → U) (hs : Residency s) (hl : LaunchInv s)
    (e : ResidencyEvent C V) (hrace : NoRace s e) : LaunchInv (residencyStep guest s e).2 := by
  obtain ⟨hlate, hlast, hrunning, hagree⟩ := id hl
  have hcaller := hs.threads.caller
  have hunplaced := hs.places.unplaced
  have howned := hs.places.owned
  cases e with
  | advance v =>
    simp only [residencyStep]
    split
    · exact launchInv_advance hl ‹_› hrace
    · exact hl
  | enter v checked =>
    simp only [residencyStep]
    split
    · rename_i c hv
      split
      · exact launchInv_vmEnter guest hs hl hv checked
      · exact hl
    · exact hl
  | clear c =>
    simp only [residencyStep]
    split
    · exact launchInv_clearStep hs hl ‹_›
    · exact hl
  | alloc v =>
    simp only [residencyStep]
    split
    · refine ⟨?_, ?_, ?_, ?_⟩
      all_goals simp only [ResidencyState.setOwner, Function.update_apply]
      all_goals grind -linarith
    · exact hl
  | free v =>
    simp only [residencyStep]
    split
    · refine { hl with last := ?_, running := ?_, agree := ?_ }
      all_goals simp only [ResidencyState.setOwner, Function.update_apply]
      all_goals grind -linarith
    · exact hl
  | load v c buddy =>
    simp only [residencyStep]
    split
    · rename_i hload
      split
      · rename_i hcpu
        have hcpu : s.cpu v = some c := hcpu
        refine { hl with last := ?_, running := ?_, agree := ?_ }
        all_goals simp only [ResidencyState.setOwner, ResidencyState.setTask, Function.update_apply]
        all_goals grind -linarith
      · refine { hl with last := ?_, running := ?_, agree := ?_ }
        all_goals simp only [ResidencyState.setOwner, ResidencyState.setTask, Function.update_apply]
        all_goals grind -linarith
    · exact hl
  | put v =>
    simp only [residencyStep]
    split
    · split
      · refine { hl with last := ?_, running := ?_, agree := ?_ }
        all_goals simp only [ResidencyState.setOwner, ResidencyState.setTask, Function.update_apply]
        all_goals grind -linarith
      · exact hl
    · exact hl
  | interrupt v =>
    simp only [residencyStep]
    split
    · split
      · rename_i c goal hv hfree
        have hirq : s.clearing c = none := Option.isNone_iff_eq_none.mp hfree.1
        refine { hl with late := ?_, last := ?_, agree := ?_ }
        all_goals simp only [Function.update_apply]
        all_goals grind -linarith
      · exact hl
    · exact hl
  | offline c =>
    simp only [residencyStep]
    split
    · exact { hl with }
    · exact hl
  | offlineNext c =>
    simp only [residencyStep]
    split
    · split
      · rename_i hfree
        have hirq : s.clearing c = none := Option.isNone_iff_eq_none.mp hfree
        refine { hl with late := ?_, last := ?_, agree := ?_ }
        all_goals simp only [Function.update_apply]
        all_goals grind -linarith
      · exact hl
    · split
      · exact { hl with }
      · exact hl
    · exact hl
  | online c =>
    simp only [residencyStep]
    split
    · exact hl
    · exact { hl with }

omit [DecidableEq C] [DecidableEq V] in
theorem launchInv_init : LaunchInv ({} : ResidencyState C V U) := by
  refine ⟨?_, ?_, ?_, ?_⟩
  all_goals grind -linarith

/-- **What an event outputs**: nothing, or the entry of a thread that has loaded its VMCS. -/
theorem residencyStep_output (guest : V → U) (s : ResidencyState C V U)
    (e : ResidencyEvent C V) :
    (residencyStep guest s e).1 = none ∨
      ∃ v c checked, s.owner v = .loaded c ∧
        (residencyStep guest s e).1 = (vmEnter guest s v c checked).1 := by
  cases e with
  | enter v checked =>
    simp only [residencyStep]
    split
    · rename_i c hv
      split
      · exact .inr ⟨v, c, checked, hv, rfl⟩
      · exact .inl rfl
    · exact .inl rfl
  | alloc | load | put | interrupt | clear | offlineNext =>
    left
    simp only [residencyStep]
    split <;> rfl
  | free | advance | offline | online => exact .inl rfl

/-- What an entry does with its VMCS. -/
structure Entry.Launches (en : Entry C V U) : Prop where
  own : en.current = some en.vmcs
  resume : en.resume = en.launchState

/-- An entry of a thread that has loaded its VMCS. -/
theorem vmEnter_launches (guest : V → U) (hs : Residency s) (hl : LaunchInv s) {v : V} {c : C}
    (hv : s.owner v = .loaded c) (checked : Bool) :
    ∀ en ∈ (vmEnter guest s v c checked).1, en.Launches := by
  have hcurrent := hs.current_of_loaded hv
  have hnotLate := hl.not_late hs (v := v) (by rw [hv]; exact fun _ => id)
  have hagree := hl.agree v hnotLate (by rw [hv]; nofun) (by rw [hv]; nofun)
  unfold vmEnter
  rw [hcurrent]
  intro en hen
  dsimp only at hen
  split at hen
  · cases hen
    exact ⟨rfl, hagree⟩
  · cases hen
    exact ⟨rfl, hagree⟩

/-- **Every entry is of the VMCS of its own thread, and a VMRESUME exactly if that is launched**, in
every run where no thread finds −1 between the two stores. -/
theorem launched_agrees (guest : V → U) (es : List (ResidencyEvent C V))
    (hrace : Runs.Each (residencyStep guest) NoRace {} es) :
    ∀ o ∈ Runs.outputs (residencyStep guest) (fun _ => true) {} es, ∀ en ∈ o, en.Launches := by
  refine Runs.outputs_forall (I := fun s : ResidencyState C V U => Residency s ∧ LaunchInv s)
    (fun s e hP hI => ⟨residency_step guest hI.1 e, launchInv_step guest hI.1 hI.2 e hP⟩)
    (fun s e _ hI => ?_) es hrace ⟨residency_init, launchInv_init⟩
  rcases residencyStep_output guest s e with hnone | ⟨v, c, checked, hv, hout⟩
  · rw [hnone]
    nofun
  · rw [hout]
    exact vmEnter_launches guest hI.1 hI.2 hv checked

/-- A load on CPU `c`, from `loaded_vmcs_clear` on. -/
def loadOn (c : C) (v : V) : List (ResidencyEvent C V) :=
  .load v c none :: List.replicate 5 (.advance v)

/-- An entry whose guest state passes the checks, and the exit. -/
def enterAndPut (v : V) : List (ResidencyEvent C V) := [.enter v true, .advance v, .put v]

/-- A virtual CPU enters its guest on one CPU, and then on the other. -/
def migration : List (ResidencyEvent Bool Unit) :=
  .alloc () :: loadOn false () ++ enterAndPut () ++
    [.load () true none, .advance (), .interrupt ()] ++ List.replicate 5 (.clear false) ++
    List.replicate 4 (.advance ()) ++ [.enter () true]

theorem launched_agrees_migration :
    Runs.Each (residencyStep fun _ : Unit => ()) NoRace {} migration ∧
      ∀ o ∈ Runs.outputs (residencyStep fun _ : Unit => ()) (fun _ => true) {} migration,
        ∀ en ∈ o, en.Launches := by
  have h : Runs.Each (residencyStep fun _ : Unit => ()) NoRace {} migration := by decide
  exact ⟨h, launched_agrees _ _ h⟩

/-- **The race**: a CPU goes offline, the thread finds −1 and loads the VMCS elsewhere, and resumes
it although it is clear. -/
theorem launched_race :
    (Runs.outputs (residencyStep fun _ : Unit => ()) (fun _ => true) {}
      (.alloc () :: loadOn false () ++ enterAndPut () ++
        [.offline false, .offlineNext false] ++ List.replicate 4 (.clear false) ++
        loadOn true () ++ [.enter () true])).any
      (fun o => o.any fun en => en.resume && !en.launchState) = true := by
  decide

end Kvm
