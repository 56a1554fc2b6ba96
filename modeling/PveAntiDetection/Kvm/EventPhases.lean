import PveAntiDetection.Kvm.Events

/-!
# The phases of an injection

What each part of `kvm_check_and_inject_events` does with the events that wait, and how many it
hands to the vendor module.

* `SmiKept`, `NmiKept`, `IntrKept` — an event is taken, or waits with a window or an immediate exit;
* `exceptionsDone_keeps`, `exceptionsDone_forgets` — re-injection and the pending exception;
* `injectSmi_ok`, `injectPendingNmi_ok`, `injectPendingIntr_ok` — SMI, NMI and interrupts, and
  `injectSmi_error`, `injectPendingNmi_error`, `injectPendingIntr_error` — their early exits.
-/

set_option autoImplicit false

namespace Kvm

variable {W I M D : Type}

/-! ## What is claimed, and when -/

/-- How many exceptions, NMIs and interrupts have been handed to the vendor module. -/
def Injecting.injected (c : Injecting W I M) : Nat := c.calls.countP EventCall.injects

section Claim

variable (deps : EventDeps W I M) (s : EventState (Platform W I M)) (c : Injecting W I M)
  (immediate : Bool)

/-- A pending SMI is taken, or waits with a window or an immediate exit. -/
def SmiKept : Prop :=
  s.smiPending = true →
    (c.state.smiPending = false ∧ .enterSmm ∈ c.calls) ∨
    (c.state.smiPending = true ∧ (.enableSmiWindow ∈ c.calls ∨ immediate = true))

/-- One NMI at most is taken, and the others wait. -/
def NmiKept : Prop :=
  (c.state.nmiPending = s.nmiPending ∨
    (c.state.nmiPending + 1 = s.nmiPending ∧ c.state.nmiInjected = true ∧
      .injectNmi ∈ c.calls)) ∧
  (c.state.nmiPending ≠ 0 → .enableNmiWindow ∈ c.calls ∨ immediate = true)

/-- The interrupt is taken, with a window for the next one, or it waits. -/
def IntrKept : Prop :=
  deps.hasInjectableIntr s.vendor.irqs = true →
    (∃ irq, (deps.getInterrupt s.vendor.irqs).1 = some irq ∧
      c.state.vendor.irqs = (deps.getInterrupt s.vendor.irqs).2 ∧
      c.state.interrupt = ⟨true, false, irq⟩ ∧ .injectIrq false ∈ c.calls ∧
      (deps.hasInjectableIntr c.state.vendor.irqs = true → .enableIrqWindow ∈ c.calls)) ∨
    (c.state.vendor.irqs = s.vendor.irqs ∧ (.enableIrqWindow ∈ c.calls ∨ immediate = true))

/-- One event at most is injected; unless interrupts are blocked by the debugger, or the call
fails, none is lost. -/
structure EventsKept (r : InjectResult W I M) : Prop where
  atMostOne : r.last.injected ≤ 1
  kept : s.guestDebug &&& guestdbgBlockirq = 0 → r.ret = 0 →
    SmiKept s r.last r.immediateExit ∧ NmiKept s r.last r.immediateExit ∧
      IntrKept deps s r.last r.immediateExit

/-- An NMI or interrupt is taken, if nothing has been injected before. -/
def TakesAsync (allowed : Allowed) : Prop :=
  (s.smiPending = true → allowed.smi = 0) ∧
    ((s.nmiPending ≠ 0 ∧ 0 < allowed.nmi) ∨
      ((s.nmiPending ≠ 0 → allowed.nmi = 0) ∧ deps.hasInjectableIntr s.vendor.irqs = true ∧
        0 < allowed.interrupt))

instance (allowed : Allowed) : Decidable (TakesAsync deps s allowed) :=
  inferInstanceAs (Decidable (_ ∧ _))

end Claim

section Conditions

variable (ops : EventOps W I M D) (deps : EventDeps W I M) (Clears : BitVec 8 → W → Prop)
  (s : EventState (Platform W I M))

/-- The state behind an event is sound, and so is an injection. -/
def EventSound (e : KvmEvent W I M D) : Prop :=
  NotBoth (eventStep ops deps s e).2 ∧
    ∀ r, (eventStep ops deps s e).1 = some r → EventsKept deps s r

/-- The vendor module forgets the exception that it re-injects. -/
def Forgets : Prop :=
  s.exception.injected = true ∧ Clears s.exception.vector s.vendor.state

/-- Where the vendor module forgets the exception that it re-injects, another re-injection is due,
the debugger blocks interrupts, or no NMI or interrupt is taken. -/
def ReinjectsAlone : KvmEvent W I M D → Prop
  | .checkAndInject allowed _ =>
    Forgets Clears s → s.interrupt.injected = false → s.nmiInjected = false →
      s.guestDebug &&& guestdbgBlockirq = 0 → ¬ TakesAsync deps s allowed
  | _ => True

end Conditions

/-! ## Re-injection and exceptions -/

/-- Nothing but exceptions has been touched yet. -/
structure Untouched (s s' : EventState (Platform W I M)) : Prop where
  nmiPending : s'.nmiPending = s.nmiPending
  smiPending : s'.smiPending = s.smiPending
  guestDebug : s'.guestDebug = s.guestDebug
  irqs : s'.vendor.irqs = s.vendor.irqs

theorem Keeps.untouched {s s' : EventState (Platform W I M)} (h : Keeps s s') : Untouched s s' :=
  ⟨h.nmiPending, h.smiPending, h.guestDebug, h.irqs⟩

theorem Untouched.trans {s t u : EventState (Platform W I M)} (h₁ : Untouched s t)
    (h₂ : Untouched t u) : Untouched s u :=
  ⟨h₂.nmiPending.trans h₁.nmiPending, h₂.smiPending.trans h₁.smiPending,
    h₂.guestDebug.trans h₁.guestDebug, h₂.irqs.trans h₁.irqs⟩

section Exceptions

variable {ops : EventOps W I M D} {Clears : BitVec 8 → W → Prop} {d : D}
  {s : EventState (Platform W I M)} {c : Injecting W I M}

@[simp] theorem call_injected (call : EventCall)
    (f : EventState (Platform W I M) → EventState (Platform W I M)) :
    (c.call call f).injected = c.injected + if call.injects then 1 else 0 := by
  simp [Injecting.call, Injecting.injected, List.countP_cons]

theorem injectException_injected (ops : EventOps W I M D) (d : D) (c : Injecting W I M) :
    (kvmInjectException ops d c).injected = c.injected + 1 :=
  call_injected .injectException _

theorem injectException_keeps (laws : QueueLaws ops Clears)
    (h : ¬ Clears c.state.exception.vector c.state.vendor.state) :
    Keeps c.state (kvmInjectException ops d c).state := by
  refine Keeps.trans ?_ (laws.injectException_keeps d _ h)
  exact ⟨rfl, rfl, rfl, rfl, rfl, rfl, rfl, rfl⟩

theorem injectException_clears (laws : QueueLaws ops Clears)
    (h : Clears c.state.exception.vector c.state.vendor.state) :
    Keeps (kvmClearExceptionQueue c.state) (kvmInjectException ops d c).state := by
  refine Keeps.trans ?_ (laws.injectException_clears d _ h)
  exact ⟨rfl, rfl, rfl, rfl, rfl, rfl, rfl, rfl⟩

theorem injectException_untouched (laws : QueueLaws ops Clears) :
    Untouched c.state (kvmInjectException ops d c).state := by
  by_cases h : Clears c.state.exception.vector c.state.vendor.state
  · have hclear := injectException_clears (d := d) laws h
    exact ⟨hclear.nmiPending, hclear.smiPending, hclear.guestDebug, hclear.irqs⟩
  · exact (injectException_keeps laws h).untouched

theorem setResumeFlag_keeps : Keeps s (setResumeFlag ops s) := by
  unfold setResumeFlag kvmSetRflagsNoEvent
  split
  · split
    · exact ⟨rfl, rfl, rfl, rfl, rfl, rfl, rfl, rfl⟩
    · exact ⟨rfl, rfl, rfl, rfl, rfl, rfl, rfl, rfl⟩
  · exact Keeps.refl s

theorem deliverDebug_keeps : Keeps s (deliverDebug ops s) := by
  unfold deliverDebug
  dsimp only
  split
  · refine (deliver_keeps s).trans ?_
    split
    · exact ⟨rfl, rfl, rfl, rfl, rfl, rfl, rfl, rfl⟩
    · exact Keeps.refl _
  · exact Keeps.refl s

theorem needsReinjection_keeps {s' : EventState (Platform W I M)} (h : Keeps s s') :
    kvmEventNeedsReinjection s' = kvmEventNeedsReinjection s := by
  rw [kvmEventNeedsReinjection, h.injected, h.interrupt, h.nmiInjected]
  rfl

/-- The virtual CPU when it comes to SMI, NMI and interrupts. -/
def exceptionsDone (ops : EventOps W I M D) (d : D) (s : EventState (Platform W I M)) :
    Injecting W I M :=
  injectPendingException ops d (reinjectEvents ops d { state := s })

/-- What re-injection does where it forgets nothing: it hands over one event at most, and then
that event has to be completed first. -/
theorem reinject_keeps (laws : QueueLaws ops Clears) (hkeep : ¬ Forgets Clears s) :
    Keeps s (reinjectEvents ops d { state := s }).state ∧
      ((reinjectEvents ops d { state := s }).injected = 0 ∨
        ((reinjectEvents ops d { state := s }).injected = 1 ∧
          kvmEventNeedsReinjection s = true ∧
          (s.exception.injected = true ∨ s.exception.pending = false))) := by
  by_cases hinjected : s.exception.injected = true
  · have hnot : ¬ Clears s.exception.vector s.vendor.state := fun h => hkeep ⟨hinjected, h⟩
    rw [reinjectEvents, if_pos hinjected]
    refine ⟨injectException_keeps (c := { state := s }) laws hnot, .inr ⟨?_, ?_, .inl hinjected⟩⟩
    · rfl
    · simp [kvmEventNeedsReinjection, hinjected]
  · rw [reinjectEvents, if_neg hinjected]
    by_cases hpending : kvmIsExceptionPending s = true
    · rw [if_pos hpending]
      exact ⟨Keeps.refl s, .inl rfl⟩
    · have hclear : s.exception.pending = false := by
        simp only [kvmIsExceptionPending, Bool.or_eq_true, not_or] at hpending
        exact Bool.eq_false_iff.mpr hpending.1
      rw [if_neg hpending]
      by_cases hnmi : s.nmiInjected = true
      · rw [if_pos hnmi]
        refine ⟨laws.injectNmi d s, .inr ⟨rfl, ?_, .inr hclear⟩⟩
        simp [kvmEventNeedsReinjection, hnmi]
      · rw [if_neg hnmi]
        by_cases hintr : s.interrupt.injected = true
        · rw [if_pos hintr]
          refine ⟨laws.injectIrq d s fun _ => ?_, .inr ⟨rfl, ?_, .inr hclear⟩⟩
          · exact ⟨hclear, Bool.eq_false_iff.mpr hinjected⟩
          · simp [kvmEventNeedsReinjection, hintr]
        · rw [if_neg hintr]
          exact ⟨Keeps.refl s, .inl rfl⟩

/-- Where it forgets the exception, the queue is clear. -/
theorem reinject_forgets (laws : QueueLaws ops Clears) (hforgets : Forgets Clears s) :
    Keeps (kvmClearExceptionQueue s) (reinjectEvents ops d { state := s }).state ∧
      (reinjectEvents ops d { state := s }).injected = 1 := by
  obtain ⟨hinjected, hclears⟩ := hforgets
  rw [reinjectEvents, if_pos hinjected]
  exact ⟨injectException_clears (c := { state := s }) laws hclears, rfl⟩

/-- Without a pending exception only `can_inject` changes. -/
theorem injectPending_none (hpending : c.state.exception.pending = false) :
    injectPendingException ops d c =
      { c with canInject := !kvmEventNeedsReinjection c.state } := by
  unfold injectPendingException
  exact if_neg (by simp [hpending])

/-- A pending exception is injected, and nothing else may be. -/
theorem injectPending_some (laws : QueueLaws ops Clears)
    (hpending : c.state.exception.pending = true) :
    Untouched c.state (injectPendingException ops d c).state ∧
      (injectPendingException ops d c).injected = c.injected + 1 ∧
      (injectPendingException ops d c).canInject = false ∧
      (injectPendingException ops d c).state.exception.pending = false := by
  rw [injectPendingException, if_pos hpending]
  refine ⟨?_, injectException_injected ops d { c with
    state := deliverDebug ops (setResumeFlag ops c.state) }, rfl, rfl⟩
  have hprepared : Keeps c.state (deliverDebug ops (setResumeFlag ops c.state)) :=
    setResumeFlag_keeps.trans deliverDebug_keeps
  have hinject := injectException_untouched (d := d) laws
    (c := { c with state := deliverDebug ops (setResumeFlag ops c.state) })
  have hall := hprepared.untouched.trans hinject
  exact ⟨hall.nmiPending, hall.smiPending, hall.guestDebug, hall.irqs⟩

/-- **Behind the exceptions**: the other events are untouched, no exception is pending, and where
nothing has been forgotten one event at most is injected, and none more may be. -/
theorem exceptionsDone_keeps (laws : QueueLaws ops Clears) (hs : NotBoth s)
    (hkeep : ¬ Forgets Clears s) :
    Untouched s (exceptionsDone ops d s).state ∧
      (exceptionsDone ops d s).state.exception.pending = false ∧
      ((exceptionsDone ops d s).injected = 0 ∨
        ((exceptionsDone ops d s).injected = 1 ∧ (exceptionsDone ops d s).canInject = false)) := by
  obtain ⟨hkeeps, hcount⟩ := reinject_keeps (d := d) laws hkeep
  by_cases hpending : s.exception.pending = true
  · obtain ⟨htouch, hone, hcan, hnone⟩ := injectPending_some (d := d)
      (c := reinjectEvents ops d { state := s }) laws (hkeeps.pending.trans hpending)
    refine ⟨hkeeps.untouched.trans htouch, hnone, .inr ⟨?_, hcan⟩⟩
    have hzero : (reinjectEvents ops d { state := s }).injected = 0 := by
      rcases hcount with hzero | ⟨-, -, hinjected⟩
      · exact hzero
      · rcases hinjected with hinjected | hclear
        · exact absurd ⟨hpending, hinjected⟩ hs
        · exact absurd hpending (by simp [hclear])
    rw [exceptionsDone, hone, hzero]
  · have hnone := hkeeps.pending.trans (Bool.eq_false_iff.mpr hpending)
    rw [exceptionsDone, injectPending_none hnone]
    refine ⟨hkeeps.untouched, hnone, ?_⟩
    rcases hcount with hzero | ⟨hone, hneeds, -⟩
    · exact .inl hzero
    · refine .inr ⟨hone, ?_⟩
      show (!kvmEventNeedsReinjection _) = false
      rw [← needsReinjection_keeps hkeeps] at hneeds
      rw [hneeds]
      rfl

/-- Where it forgets the exception, one event is injected, and another one may be unless an
interrupt or NMI waits for re-injection, too. -/
theorem exceptionsDone_forgets (laws : QueueLaws ops Clears) (hforgets : Forgets Clears s) :
    Untouched s (exceptionsDone ops d s).state ∧
      (exceptionsDone ops d s).state.exception.pending = false ∧
      (exceptionsDone ops d s).injected = 1 ∧
      (exceptionsDone ops d s).canInject = !(s.interrupt.injected || s.nmiInjected) := by
  obtain ⟨hkeeps, hone⟩ := reinject_forgets (d := d) laws hforgets
  rw [exceptionsDone, injectPending_none hkeeps.pending]
  refine ⟨?_, hkeeps.pending, hone, ?_⟩
  · exact ⟨hkeeps.nmiPending, hkeeps.smiPending, hkeeps.guestDebug, hkeeps.irqs⟩
  · show (!kvmEventNeedsReinjection _) = _
    rw [needsReinjection_keeps hkeeps]
    rfl

end Exceptions

/-! ## SMI, NMI and interrupts -/

section Async

variable {ops : EventOps W I M D} {deps : EventDeps W I M} {Clears : BitVec 8 → W → Prop}
  {allowed : Allowed} {d : D} {s : EventState (Platform W I M)} {c c' : Injecting W I M} {r : Int}

/-- An early exit, before anything has been done. -/
structure Refused (c c' : Injecting W I M) (r : Int) (waits : Prop) (answer : Int) : Prop where
  same : c' = c
  negative : r < 0
  waits : waits
  answer : c.canInject = true → answer < 0

/-- An SMI that is not taken leaves the way free for other events. -/
structure SmiDone (allowed : Allowed) (c c' : Injecting W I M) : Prop where
  injected : c'.injected = c.injected
  canInject : c'.canInject = true ↔
    c.canInject = true ∧ (c.state.smiPending = true → allowed.smi = 0)
  pending : c'.state.exception.pending = c.state.exception.pending
  nmiPending : c'.state.nmiPending = c.state.nmiPending
  irqs : c'.state.vendor.irqs = c.state.vendor.irqs
  kept : SmiKept c.state c' false

/-- An NMI that is not taken leaves the way free for interrupts. -/
structure NmiDone (allowed : Allowed) (c c' : Injecting W I M) : Prop where
  injected : c'.injected = c.injected +
    if c.canInject = true ∧ c.state.nmiPending ≠ 0 ∧ 0 < allowed.nmi then 1 else 0
  canInject : c'.canInject = true ↔
    c.canInject = true ∧ (c.state.nmiPending ≠ 0 → allowed.nmi = 0)
  pending : c'.state.exception.pending = c.state.exception.pending
  smiPending : c'.state.smiPending = c.state.smiPending
  irqs : c'.state.vendor.irqs = c.state.vendor.irqs
  calls : ∀ call ∈ c.calls, call ∈ c'.calls
  kept : NmiKept c.state c' false

/-- The end of the function. -/
structure IntrDone (deps : EventDeps W I M) (allowed : Allowed) (c c' : Injecting W I M) :
    Prop where
  injected : c'.injected = c.injected +
    if c.canInject = true ∧ deps.hasInjectableIntr c.state.vendor.irqs = true ∧
      0 < allowed.interrupt then 1 else 0
  pending : c'.state.exception.pending = c.state.exception.pending
  smiPending : c'.state.smiPending = c.state.smiPending
  nmiPending : c'.state.nmiPending = c.state.nmiPending
  nmiInjected : c'.state.nmiInjected = c.state.nmiInjected
  calls : ∀ call ∈ c.calls, call ∈ c'.calls
  kept : IntrKept deps c.state c' false

theorem answer_negative {answer : Int} (h : c.answer answer < 0) :
    c.canInject = true → answer < 0 := by
  intro hcan
  rwa [Injecting.answer, if_pos hcan] at h

/-- The answer is `-EBUSY` unless something may be injected. -/
theorem answer_nonneg {answer : Int} (h : ¬ c.answer answer < 0) :
    c.canInject = true ∧ 0 ≤ answer ∧ c.answer answer = answer := by
  unfold Injecting.answer at h ⊢
  by_cases hcan : c.canInject = true
  · rw [if_pos hcan] at h ⊢
    exact ⟨hcan, Int.not_lt.mp h, rfl⟩
  · rw [if_neg hcan] at h
    exact absurd (by decide) h

theorem injectSmi_error (h : injectSmi ops deps allowed c = .error (r, c')) :
    Refused c c' r (c.state.smiPending = true) allowed.smi := by
  unfold injectSmi at h
  dsimp only at h
  split at h
  · rename_i hpending
    split at h
    · rename_i hneg
      cases h
      exact ⟨rfl, hneg, hpending, answer_negative hneg⟩
    · split at h <;> cases h
  · cases h

theorem injectSmi_ok (laws : QueueLaws ops Clears) (h : injectSmi ops deps allowed c = .ok c') :
    SmiDone allowed c c' := by
  unfold injectSmi at h
  dsimp only at h
  split at h
  · rename_i hpending
    split at h
    · cases h
    · rename_i hnonneg
      obtain ⟨hcan, hge, hanswer⟩ := answer_nonneg hnonneg
      rw [hanswer] at h
      split at h
      · rename_i htaken
        cases h
        have hkeeps := deps.enterSmm_keeps { c.state with
          smiPending := false
          smiCount := c.state.smiCount + 1 }
        refine ⟨rfl, ?_, hkeeps.pending, hkeeps.nmiPending, hkeeps.irqs, ?_⟩
        · simp [hpending, htaken]
        · exact fun _ => .inl ⟨hkeeps.smiPending, List.mem_cons_self ..⟩
      · rename_i hclosed
        cases h
        have hkeeps := laws.enableSmiWindow c.state
        refine ⟨rfl, ?_, hkeeps.pending, hkeeps.nmiPending, hkeeps.irqs, ?_⟩
        · have hzero : allowed.smi = 0 := not_not.mp hclosed
          simp [Injecting.call, hzero]
        · exact fun _ => .inr ⟨hkeeps.smiPending.trans hpending, .inl (List.mem_cons_self ..)⟩
  · rename_i hnone
    cases h
    refine ⟨rfl, ?_, rfl, rfl, rfl, fun hpending => absurd hpending hnone⟩
    simp [hnone]

/-- A window touches no event. -/
structure Windowed (c c' : Injecting W I M) : Prop where
  injected : c'.injected = c.injected
  canInject : c'.canInject = c.canInject
  keeps : Keeps c.state c'.state
  calls : ∀ call ∈ c.calls, call ∈ c'.calls

theorem requestNmiWindow_spec (laws : QueueLaws ops Clears) (c : Injecting W I M) :
    Windowed c (requestNmiWindow ops c) ∧
      (c.state.nmiPending ≠ 0 → .enableNmiWindow ∈ (requestNmiWindow ops c).calls) := by
  unfold requestNmiWindow
  split
  · refine ⟨⟨rfl, rfl, laws.enableNmiWindow c.state, ?_⟩, fun _ => List.mem_cons_self ..⟩
    exact fun call hmem => List.mem_cons_of_mem _ hmem
  · rename_i hnone
    exact ⟨⟨rfl, rfl, Keeps.refl _, fun _ hmem => hmem⟩, fun h => absurd h hnone⟩

theorem requestIrqWindow_spec (laws : QueueLaws ops Clears) (deps : EventDeps W I M)
    (c : Injecting W I M) :
    Windowed c (requestIrqWindow ops deps c) ∧
      (deps.hasInjectableIntr c.state.vendor.irqs = true →
        .enableIrqWindow ∈ (requestIrqWindow ops deps c).calls) := by
  unfold requestIrqWindow
  split
  · refine ⟨⟨rfl, rfl, laws.enableIrqWindow c.state, ?_⟩, fun _ => List.mem_cons_self ..⟩
    exact fun call hmem => List.mem_cons_of_mem _ hmem
  · rename_i hnone
    exact ⟨⟨rfl, rfl, Keeps.refl _, fun _ hmem => hmem⟩, fun h => absurd h hnone⟩

theorem takeNmi_keeps (laws : QueueLaws ops Clears) :
    Keeps { c.state with nmiPending := c.state.nmiPending - 1, nmiInjected := true }
      (takeNmi ops d c).state :=
  laws.injectNmi d _

theorem takeNmi_injected (ops : EventOps W I M D) (d : D) (c : Injecting W I M) :
    (takeNmi ops d c).injected = c.injected + 1 := by
  show (Injecting.call _ .injectNmi (ops.injectNmi d)).injected = _
  rw [call_injected]
  rfl

theorem injectPendingNmi_error (h : injectPendingNmi ops allowed d c = .error (r, c')) :
    Refused c c' r (c.state.nmiPending ≠ 0) allowed.nmi := by
  unfold injectPendingNmi at h
  dsimp only at h
  split at h
  · rename_i hpending
    split at h
    · rename_i hneg
      cases h
      exact ⟨rfl, hneg, hpending, answer_negative hneg⟩
    · cases h
  · cases h

theorem nmiDone_none (hnone : c.state.nmiPending = 0) : NmiDone allowed c c := by
  refine ⟨?_, ?_, rfl, rfl, rfl, fun _ hmem => hmem, .inl rfl, ?_⟩
  · simp [hnone]
  · simp [hnone]
  · exact fun hpending => absurd hnone hpending

/-- Where NMIs are masked, the pending ones wait with a window. -/
theorem nmiDone_closed (laws : QueueLaws ops Clears) (hpending : c.state.nmiPending ≠ 0)
    (hclosed : allowed.nmi = 0) : NmiDone allowed c (requestNmiWindow ops c) := by
  obtain ⟨hw, hwindow⟩ := requestNmiWindow_spec laws c
  refine ⟨?_, ?_, hw.keeps.pending, hw.keeps.smiPending, hw.keeps.irqs, hw.calls, ?_, ?_⟩
  · simp [hw.injected, hclosed]
  · simp [hw.canInject, hclosed]
  · exact .inl hw.keeps.nmiPending
  · exact fun _ => .inl (hwindow hpending)

/-- Else one is taken, and a second one gets a window. -/
theorem nmiDone_taken (laws : QueueLaws ops Clears) (hcan : c.canInject = true)
    (hpending : c.state.nmiPending ≠ 0) (hpos : 0 < allowed.nmi) :
    NmiDone allowed c (requestNmiWindow ops (takeNmi ops d c)) := by
  have htake := takeNmi_keeps (d := d) (c := c) laws
  obtain ⟨hw, hwindow⟩ := requestNmiWindow_spec laws (takeNmi ops d c)
  have hkeeps := htake.trans hw.keeps
  have hdown : c.state.nmiPending - 1 + 1 = c.state.nmiPending :=
    Nat.succ_pred_eq_of_ne_zero hpending
  refine ⟨?_, ?_, hkeeps.pending, hkeeps.smiPending, hkeeps.irqs, ?_, ?_, ?_⟩
  · rw [hw.injected, takeNmi_injected, if_pos ⟨hcan, hpending, hpos⟩]
  · rw [hw.canInject]
    refine iff_of_false (fun hfalse => by cases hfalse) ?_
    intro hzero
    have hnmi := hzero.2 hpending
    omega
  · exact fun call hmem => hw.calls call (List.mem_cons_of_mem _ hmem)
  · refine .inr ⟨?_, hkeeps.nmiInjected, hw.calls _ (List.mem_cons_self ..)⟩
    rw [hkeeps.nmiPending]
    exact hdown
  · rw [hkeeps.nmiPending, ← htake.nmiPending]
    exact fun hmore => .inl (hwindow hmore)

theorem injectPendingNmi_ok (laws : QueueLaws ops Clears)
    (h : injectPendingNmi ops allowed d c = .ok c') : NmiDone allowed c c' := by
  unfold injectPendingNmi at h
  dsimp only at h
  split at h
  · rename_i hpending
    split at h
    · cases h
    · rename_i hnonneg
      obtain ⟨hcan, hge, hanswer⟩ := answer_nonneg hnonneg
      rw [hanswer] at h
      by_cases hclosed : allowed.nmi = 0
      · rw [if_neg (not_not_intro hclosed)] at h
        cases h
        exact nmiDone_closed laws hpending hclosed
      · rw [if_pos hclosed] at h
        cases h
        exact nmiDone_taken laws hcan hpending (by omega)
  · rename_i hnone
    cases h
    exact nmiDone_none (not_not.mp hnone)

/-- An interrupt that is reported is there, and goes into an empty slot. -/
structure TookIntr (deps : EventDeps W I M) (c c' : Injecting W I M) (irq : BitVec 8) : Prop where
  vector : (deps.getInterrupt c.state.vendor.irqs).1 = some irq
  injected : c'.injected = c.injected + 1
  calls : c'.calls = .injectIrq false :: c.calls
  keeps : Keeps (kvmQueueInterrupt { c.state with vendor := { c.state.vendor with
    irqs := (deps.getInterrupt c.state.vendor.irqs).2 } } irq false) c'.state

theorem takeIntr_spec (laws : QueueLaws ops Clears)
    (hpending : deps.hasInjectableIntr c.state.vendor.irqs = true) :
    ∃ irq, TookIntr deps c (takeIntr ops deps d c) irq := by
  obtain ⟨irq, hirq⟩ := Option.isSome_iff_exists.mp (deps.getInterrupt_isSome _ hpending)
  refine ⟨irq, ?_⟩
  unfold takeIntr
  simp only [hirq]
  refine ⟨hirq, ?_, rfl, laws.injectIrq d _ fun hsoft => nomatch hsoft⟩
  rw [call_injected]
  rfl

theorem injectPendingIntr_error (h : injectPendingIntr ops deps allowed d c = .error (r, c')) :
    Refused c c' r (deps.hasInjectableIntr c.state.vendor.irqs = true) allowed.interrupt := by
  unfold injectPendingIntr at h
  dsimp only at h
  split at h
  · rename_i hpending
    split at h
    · rename_i hneg
      cases h
      exact ⟨rfl, hneg, hpending, answer_negative hneg⟩
    · cases h
  · cases h

theorem intrDone_none (hnone : ¬ deps.hasInjectableIntr c.state.vendor.irqs = true) :
    IntrDone deps allowed c c := by
  refine ⟨?_, rfl, rfl, rfl, rfl, fun _ hmem => hmem, fun hpending => absurd hpending hnone⟩
  simp [hnone]

/-- Where interrupts are masked, the one that is pending waits with a window. -/
theorem intrDone_closed (laws : QueueLaws ops Clears)
    (hpending : deps.hasInjectableIntr c.state.vendor.irqs = true)
    (hclosed : allowed.interrupt = 0) :
    IntrDone deps allowed c (requestIrqWindow ops deps c) := by
  obtain ⟨hw, hwindow⟩ := requestIrqWindow_spec laws deps c
  refine ⟨?_, hw.keeps.pending, hw.keeps.smiPending, hw.keeps.nmiPending,
    hw.keeps.nmiInjected, hw.calls, fun _ => .inr ⟨hw.keeps.irqs, ?_⟩⟩
  · simp [hw.injected, hclosed]
  · exact .inl (hwindow hpending)

/-- Else it is taken, and the next one gets a window. -/
theorem intrDone_taken (laws : QueueLaws ops Clears) (hcan : c.canInject = true)
    (hpending : deps.hasInjectableIntr c.state.vendor.irqs = true)
    (hpos : 0 < allowed.interrupt) :
    IntrDone deps allowed c (requestIrqWindow ops deps (takeIntr ops deps d c)) := by
  obtain ⟨irq, ht⟩ := takeIntr_spec (d := d) laws hpending
  obtain ⟨hw, hwindow⟩ := requestIrqWindow_spec laws deps (takeIntr ops deps d c)
  have hkeeps := ht.keeps.trans hw.keeps
  have hcalls : ∀ call ∈ (takeIntr ops deps d c).calls,
      call ∈ (requestIrqWindow ops deps (takeIntr ops deps d c)).calls := hw.calls
  rw [ht.calls] at hcalls
  refine ⟨?_, hkeeps.pending, hkeeps.smiPending, hkeeps.nmiPending, hkeeps.nmiInjected,
    fun call hmem => hcalls call (List.mem_cons_of_mem _ hmem), fun _ => .inl ?_⟩
  · rw [hw.injected, ht.injected, if_pos ⟨hcan, hpending, hpos⟩]
  · refine ⟨irq, ht.vector, hkeeps.irqs, hkeeps.interrupt, ?_, ?_⟩
    · exact hcalls _ (List.mem_cons_self ..)
    · rw [hw.keeps.irqs]
      exact hwindow

theorem injectPendingIntr_ok (laws : QueueLaws ops Clears)
    (h : injectPendingIntr ops deps allowed d c = .ok c') : IntrDone deps allowed c c' := by
  unfold injectPendingIntr at h
  dsimp only at h
  split at h
  · rename_i hpending
    split at h
    · cases h
    · rename_i hnonneg
      obtain ⟨hcan, hge, hanswer⟩ := answer_nonneg hnonneg
      rw [hanswer] at h
      by_cases hclosed : allowed.interrupt = 0
      · rw [if_neg (not_not_intro hclosed)] at h
        cases h
        exact intrDone_closed laws hpending hclosed
      · rw [if_pos hclosed] at h
        cases h
        exact intrDone_taken laws hcan hpending (by omega)
  · rename_i hnone
    cases h
    exact intrDone_none hnone

end Async

end Kvm
