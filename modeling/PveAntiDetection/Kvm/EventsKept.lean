import PveAntiDetection.Kvm.EventPhases
import PveAntiDetection.Lib.Runs

/-!
# One event at a time, and none lost

The phases of `kvm_check_and_inject_events` together, and runs of all that queues events for it.

* `injectAsync_spec` — SMI, NMI and interrupts; `check_iff` — one call;
* `eventStep_notBoth` — no event makes an exception pending and injected at once;
* `eventsKept_iff` — runs: always on VMX, and on SVM where a soft exception is re-injected alone.
-/

set_option autoImplicit false

namespace Kvm

variable {W I M D : Type}

/-! ## The whole call -/

section Whole

variable {ops : EventOps W I M D} {deps : EventDeps W I M} {Clears : BitVec 8 → W → Prop}
  {allowed : Allowed} {d : D} {s s' : EventState (Platform W I M)} {c c' : Injecting W I M}
  {b : Bool}

theorem SmiKept.mono (h : SmiKept s c false) (hpending : c'.state.smiPending = c.state.smiPending)
    (hcalls : ∀ call ∈ c.calls, call ∈ c'.calls) : SmiKept s c' b := by
  intro hs
  rcases h hs with ⟨htaken, hcall⟩ | ⟨hwaits, hwindow⟩
  · exact .inl ⟨hpending.trans htaken, hcalls _ hcall⟩
  · refine .inr ⟨hpending.trans hwaits, .inl ?_⟩
    rcases hwindow with hcall | hfalse
    · exact hcalls _ hcall
    · cases hfalse

theorem NmiKept.mono (h : NmiKept s c false) (hpending : c'.state.nmiPending = c.state.nmiPending)
    (hinjected : c'.state.nmiInjected = c.state.nmiInjected)
    (hcalls : ∀ call ∈ c.calls, call ∈ c'.calls) : NmiKept s c' b := by
  obtain ⟨htaken, hwindow⟩ := h
  rw [NmiKept, hpending, hinjected]
  refine ⟨?_, fun hmore => .inl ?_⟩
  · rcases htaken with hsame | ⟨hone, hnmi, hcall⟩
    · exact .inl hsame
    · exact .inr ⟨hone, hnmi, hcalls _ hcall⟩
  · rcases hwindow hmore with hcall | hfalse
    · exact hcalls _ hcall
    · cases hfalse

theorem NmiKept.base (h : NmiKept s' c b) (hpending : s'.nmiPending = s.nmiPending) :
    NmiKept s c b := by
  rw [NmiKept, ← hpending]
  exact h

theorem IntrKept.base (h : IntrKept deps s' c b) (hirqs : s'.vendor.irqs = s.vendor.irqs) :
    IntrKept deps s c b := by
  rw [IntrKept, ← hirqs]
  exact h

/-- What has not been touched waits for the immediate exit. -/
theorem nmiKept_exit (h : c.state.nmiPending = s.nmiPending) : NmiKept s c true :=
  ⟨.inl h, fun _ => .inr rfl⟩

theorem intrKept_exit (h : c.state.vendor.irqs = s.vendor.irqs) : IntrKept deps s c true :=
  fun _ => .inr ⟨h, .inr rfl⟩

/-- An early exit fails, or makes the virtual CPU come back at once. -/
theorem injectOut_spec {r : Int} (hneg : r < 0) :
    (injectOut r c).last = c ∧
      ((injectOut r c).ret = 0 → (injectOut r c).immediateExit = true) := by
  unfold injectOut
  split
  · exact ⟨rfl, fun _ => rfl⟩
  · exact ⟨rfl, fun hzero => absurd hzero (Int.ne_of_lt hneg)⟩

/-- What SMI, NMI and interrupts come to. -/
structure AsyncDone (deps : EventDeps W I M) (allowed : Allowed) (c : Injecting W I M)
    (r : InjectResult W I M) : Prop where
  injected : r.last.injected = c.injected +
    if c.canInject = true ∧ TakesAsync deps c.state allowed then 1 else 0
  pending : r.last.state.exception.pending = c.state.exception.pending
  kept : r.ret = 0 → SmiKept c.state r.last r.immediateExit ∧
    NmiKept c.state r.last r.immediateExit ∧ IntrKept deps c.state r.last r.immediateExit

/-- **The count**: what the NMIs and then the interrupts add is what the conditions on the state
before them say. -/
theorem injected_async {c₁ c₂ : Injecting W I M} (h₁ : SmiDone allowed c c₁)
    (h₂ : NmiDone allowed c₁ c₂) {taken : Prop} [Decidable taken]
    (htaken : taken ↔ c₂.canInject = true ∧
      deps.hasInjectableIntr c.state.vendor.irqs = true ∧ 0 < allowed.interrupt) :
    c₂.injected + (if taken then 1 else 0) =
      c.injected + if c.canInject = true ∧ TakesAsync deps c.state allowed then 1 else 0 := by
  have hcan₁ := h₁.canInject
  have hcan₂ := h₂.canInject
  rw [h₂.injected, h₁.injected, Nat.add_assoc]
  congr 1
  rw [h₁.nmiPending] at hcan₂ ⊢
  by_cases hfree : c₁.canInject = true
  · obtain ⟨hcan, hsmi⟩ := hcan₁.mp hfree
    by_cases hnmi : c.state.nmiPending ≠ 0 ∧ 0 < allowed.nmi
    · have hnot : ¬ taken := by
        rw [htaken, hcan₂]
        rintro ⟨⟨-, hzero⟩, -⟩
        have := hzero hnmi.1
        omega
      rw [if_pos ⟨hfree, hnmi⟩, if_neg hnot, if_pos ⟨hcan, hsmi, .inl hnmi⟩]
    · have hiff : taken ↔ c.canInject = true ∧ TakesAsync deps c.state allowed := by
        rw [htaken, hcan₂]
        constructor
        · rintro ⟨⟨-, hzero⟩, hintr⟩
          exact ⟨hcan, hsmi, .inr ⟨hzero, hintr⟩⟩
        · rintro ⟨-, -, htake⟩
          obtain ⟨hzero, hintr⟩ := htake.resolve_left hnmi
          exact ⟨⟨hfree, hzero⟩, hintr⟩
      rw [if_neg fun h => hnmi h.2, Nat.zero_add]
      exact if_congr hiff rfl rfl
  · have hnot : ¬ taken := fun h => hfree (hcan₂.mp (htaken.mp h).1).1
    have hnone : ¬ (c.canInject = true ∧ TakesAsync deps c.state allowed) :=
      fun h => hfree (hcan₁.mpr ⟨h.1, h.2.1⟩)
    rw [if_neg fun h => hfree h.1, if_neg hnot, if_neg hnone]

/-- Where an early exit leaves the virtual CPU. -/
theorem asyncDone_out {r : Int} (hneg : r < 0)
    (hinjected : c'.injected = c.injected +
      if c.canInject = true ∧ TakesAsync deps c.state allowed then 1 else 0)
    (hpending : c'.state.exception.pending = c.state.exception.pending)
    (hsmi : SmiKept c.state c' true) (hnmi : NmiKept c.state c' true)
    (hintr : IntrKept deps c.state c' true) : AsyncDone deps allowed c (injectOut r c') := by
  obtain ⟨hlast, hexit⟩ := injectOut_spec (c := c') hneg
  refine ⟨?_, ?_, fun hret => ?_⟩
  · rw [hlast]
    exact hinjected
  · rw [hlast]
    exact hpending
  · rw [hlast, hexit hret]
    exact ⟨hsmi, hnmi, hintr⟩

section Ends

variable {c₁ c₂ c₃ : Injecting W I M} {r : Int}

/-- An SMI waits. -/
theorem asyncDone_smi (h : injectSmi ops deps allowed c = .error (r, c')) :
    AsyncDone deps allowed c (injectOut r c') := by
  obtain ⟨hsame, hneg, hwaits, hanswer⟩ := injectSmi_error h
  subst hsame
  refine asyncDone_out hneg ?_ rfl ?_ (nmiKept_exit rfl) (intrKept_exit rfl)
  · have hnone : ¬ (c'.canInject = true ∧ TakesAsync deps c'.state allowed) := by
      rintro ⟨hcan, hsmi, -⟩
      have := hanswer hcan
      have := hsmi hwaits
      omega
    rw [if_neg hnone, Nat.add_zero]
  · exact fun hs => .inr ⟨hs, .inr rfl⟩

/-- An NMI waits. -/
theorem asyncDone_nmi (h₁ : SmiDone allowed c c₁)
    (h : injectPendingNmi ops allowed d c₁ = .error (r, c')) :
    AsyncDone deps allowed c (injectOut r c') := by
  obtain ⟨hsame, hneg, hwaits, hanswer⟩ := injectPendingNmi_error h
  subst hsame
  refine asyncDone_out hneg ?_ h₁.pending ?_ (nmiKept_exit h₁.nmiPending) (intrKept_exit h₁.irqs)
  · have hnone : ¬ (c.canInject = true ∧ TakesAsync deps c.state allowed) := by
      rintro ⟨hcan, hsmi, htake⟩
      have := hanswer (h₁.canInject.mpr ⟨hcan, hsmi⟩)
      rw [h₁.nmiPending] at hwaits
      rcases htake with ⟨-, hpos⟩ | ⟨hzero, -⟩
      · omega
      · have := hzero hwaits
        omega
    rw [h₁.injected, if_neg hnone, Nat.add_zero]
  · exact h₁.kept.mono rfl fun _ hmem => hmem

/-- An interrupt waits. -/
theorem asyncDone_intr (h₁ : SmiDone allowed c c₁) (h₂ : NmiDone allowed c₁ c₂)
    (h : injectPendingIntr ops deps allowed d c₂ = .error (r, c')) :
    AsyncDone deps allowed c (injectOut r c') := by
  obtain ⟨hsame, hneg, hwaits, hanswer⟩ := injectPendingIntr_error h
  subst hsame
  refine asyncDone_out hneg ?_ (h₂.pending.trans h₁.pending) ?_ ?_
    (intrKept_exit (h₂.irqs.trans h₁.irqs))
  · have hnone : False ↔ c'.canInject = true ∧
        deps.hasInjectableIntr c.state.vendor.irqs = true ∧ 0 < allowed.interrupt := by
      refine ⟨False.elim, ?_⟩
      rintro ⟨hcan, -, hpos⟩
      have := hanswer hcan
      omega
    have hcount := injected_async h₁ h₂ hnone
    rwa [if_neg not_false] at hcount
  · exact h₁.kept.mono h₂.smiPending h₂.calls
  · exact (h₂.kept.base h₁.nmiPending).mono rfl rfl fun _ hmem => hmem

/-- Nothing waits without a window. -/
theorem asyncDone_end (h₁ : SmiDone allowed c c₁) (h₂ : NmiDone allowed c₁ c₂)
    (h₃ : IntrDone deps allowed c₂ c₃) : AsyncDone deps allowed c ⟨0, false, c₃⟩ := by
  have hirqs : c₂.state.vendor.irqs = c.state.vendor.irqs := h₂.irqs.trans h₁.irqs
  refine ⟨?_, h₃.pending.trans (h₂.pending.trans h₁.pending), fun _ => ⟨?_, ?_, ?_⟩⟩
  · show c₃.injected = _
    rw [h₃.injected, hirqs]
    exact injected_async h₁ h₂ Iff.rfl
  · refine h₁.kept.mono (h₃.smiPending.trans h₂.smiPending) ?_
    exact fun call hmem => h₃.calls call (h₂.calls call hmem)
  · exact (h₂.kept.base h₁.nmiPending).mono h₃.nmiPending h₃.nmiInjected h₃.calls
  · exact h₃.kept.base hirqs

end Ends

/-- **SMI, NMI and interrupts**: one of the NMIs and interrupts is taken at most, and none is
lost. -/
theorem injectAsync_spec (laws : QueueLaws ops Clears) :
    AsyncDone deps allowed c (injectAsync ops deps allowed d c) := by
  unfold injectAsync
  simp only [bind, Except.bind]
  cases hsmi : injectSmi ops deps allowed c with
  | error e => exact asyncDone_smi hsmi
  | ok c₁ =>
    have h₁ := injectSmi_ok laws hsmi
    dsimp only
    cases hnmi : injectPendingNmi ops allowed d c₁ with
    | error e => exact asyncDone_nmi h₁ hnmi
    | ok c₂ =>
      have h₂ := injectPendingNmi_ok laws hnmi
      dsimp only
      cases hintr : injectPendingIntr ops deps allowed d c₂ with
      | error e => exact asyncDone_intr h₁ h₂ hintr
      | ok c₃ => exact asyncDone_end h₁ h₂ (injectPendingIntr_ok laws hintr)

theorem takesAsync_congr (h : Untouched s s') :
    TakesAsync deps s' allowed ↔ TakesAsync deps s allowed := by
  unfold TakesAsync
  rw [h.smiPending, h.nmiPending, h.irqs]

/-- The call ends behind the exceptions where the debugger blocks interrupts. -/
theorem check_blocked (h : (exceptionsDone ops d s).state.guestDebug &&& guestdbgBlockirq ≠ 0) :
    kvmCheckAndInjectEvents ops deps allowed d s = ⟨0, false, exceptionsDone ops d s⟩ :=
  if_pos h

theorem check_open (h : (exceptionsDone ops d s).state.guestDebug &&& guestdbgBlockirq = 0) :
    kvmCheckAndInjectEvents ops deps allowed d s =
      injectAsync ops deps allowed d (exceptionsDone ops d s) :=
  if_neg (not_not_intro h)

/-- No exception is pending behind the call. -/
theorem check_pending (laws : QueueLaws ops Clears) (hs : NotBoth s) :
    (kvmCheckAndInjectEvents ops deps allowed d s).last.state.exception.pending = false := by
  have hnone : (exceptionsDone ops d s).state.exception.pending = false := by
    by_cases hforgets : Forgets Clears s
    · exact (exceptionsDone_forgets laws hforgets).2.1
    · exact (exceptionsDone_keeps laws hs hforgets).2.1
  by_cases hopen : (exceptionsDone ops d s).state.guestDebug &&& guestdbgBlockirq = 0
  · rw [check_open hopen, (injectAsync_spec laws).pending]
    exact hnone
  · rw [check_blocked hopen]
    exact hnone

/-- No event is lost. -/
theorem check_kept (laws : QueueLaws ops Clears)
    (htouch : Untouched s (exceptionsDone ops d s).state)
    (hopen : s.guestDebug &&& guestdbgBlockirq = 0)
    (hret : (kvmCheckAndInjectEvents ops deps allowed d s).ret = 0) :
    let r := kvmCheckAndInjectEvents ops deps allowed d s
    SmiKept s r.last r.immediateExit ∧ NmiKept s r.last r.immediateExit ∧
      IntrKept deps s r.last r.immediateExit := by
  rw [← htouch.guestDebug] at hopen
  rw [check_open hopen] at hret ⊢
  obtain ⟨hsmi, hnmi, hintr⟩ := (injectAsync_spec laws).kept hret
  refine ⟨?_, hnmi.base htouch.nmiPending, hintr.base htouch.irqs⟩
  exact fun hs => hsmi (htouch.smiPending.trans hs)

/-- How many events the call hands over. -/
theorem check_injected (laws : QueueLaws ops Clears)
    (htouch : Untouched s (exceptionsDone ops d s).state) :
    (kvmCheckAndInjectEvents ops deps allowed d s).last.injected =
      (exceptionsDone ops d s).injected +
        if s.guestDebug &&& guestdbgBlockirq = 0 ∧ (exceptionsDone ops d s).canInject = true ∧
          TakesAsync deps s allowed then 1 else 0 := by
  rw [← htouch.guestDebug]
  by_cases hopen : (exceptionsDone ops d s).state.guestDebug &&& guestdbgBlockirq = 0
  · rw [check_open hopen, (injectAsync_spec laws).injected]
    simp only [hopen, true_and, takesAsync_congr htouch]
  · rw [check_blocked hopen, if_neg fun h => hopen h.1]
    rfl

/-- **One call**: it injects one event at most and loses none, exactly where it does not forget an
exception and then take an NMI or interrupt. -/
theorem check_iff (laws : QueueLaws ops Clears) (hs : NotBoth s) :
    EventsKept deps s (kvmCheckAndInjectEvents ops deps allowed d s) ↔
      (Forgets Clears s → s.interrupt.injected = false → s.nmiInjected = false →
        s.guestDebug &&& guestdbgBlockirq = 0 → ¬ TakesAsync deps s allowed) := by
  by_cases hforgets : Forgets Clears s
  · obtain ⟨htouch, -, hone, hcan⟩ := exceptionsDone_forgets (d := d) laws hforgets
    have hcount : (kvmCheckAndInjectEvents ops deps allowed d s).last.injected = _ :=
      check_injected laws htouch
    rw [hone, hcan] at hcount
    constructor
    · rintro ⟨hmost, -⟩ - hintr hnmi hopen htakes
      rw [hcount, if_pos ⟨hopen, by simp [hintr, hnmi], htakes⟩] at hmost
      omega
    · intro hcond
      refine ⟨?_, fun hopen hret => check_kept laws htouch hopen hret⟩
      have hnone : ¬ (s.guestDebug &&& guestdbgBlockirq = 0 ∧
          (!(s.interrupt.injected || s.nmiInjected)) = true ∧ TakesAsync deps s allowed) := by
        rintro ⟨hopen, hfree, htakes⟩
        simp only [Bool.not_eq_true', Bool.or_eq_false_iff] at hfree
        exact hcond hforgets hfree.1 hfree.2 hopen htakes
      rw [hcount, if_neg hnone]
  · obtain ⟨htouch, -, hcount⟩ := exceptionsDone_keeps (d := d) laws hs hforgets
    refine iff_of_true ⟨?_, fun hopen hret => check_kept laws htouch hopen hret⟩
      (fun h => absurd h hforgets)
    rw [check_injected laws htouch]
    rcases hcount with hzero | ⟨hone, hcan⟩
    · rw [hzero]
      split <;> omega
    · rw [hone, if_neg]
      simp [hcan]

end Whole

/-! ## Runs -/

section Sound

variable {ops : EventOps W I M D} {deps : EventDeps W I M} {Clears : BitVec 8 → W → Prop}
  {s s' : EventState (Platform W I M)}

theorem NotBoth.of_keeps (hs : NotBoth s) (h : Keeps s s') : NotBoth s' := by
  rw [NotBoth, h.pending, h.injected]
  exact hs

/-- The flags of the queue are not touched. -/
theorem NotBoth.of_exception (hs : NotBoth s) (h : s'.exception = s.exception) : NotBoth s' := by
  rw [NotBoth, h]
  exact hs

theorem offerVnmi_exception : (offerVnmi ops s).exception = s.exception := by
  unfold offerVnmi
  dsimp only
  split
  · split <;> rfl
  · rfl

theorem processNmi_exception : (processNmi ops s).exception = s.exception := by
  show (offerVnmi ops _).exception = s.exception
  rw [offerVnmi_exception]
  rfl

theorem changeSmm_keeps (smm : Bool) : Keeps s (changeSmm deps s smm) := by
  unfold changeSmm
  split
  · exact deps.smmChanged_keeps s smm
  · exact Keeps.refl s

theorem setSmm_notBoth (events : KvmVcpuEvents) (hs : NotBoth s) :
    NotBoth (setSmm deps s events) := by
  unfold setSmm
  split
  · exact (hs.of_keeps (changeSmm_keeps _)).of_exception rfl
  · exact hs

/-- Userspace cannot make an exception pending and injected at once. -/
theorem normalizeEvents_notBoth (s : EventState (Platform W I M)) (events : KvmVcpuEvents) :
    NotBoth (setException s (normalizeEvents events)) := by
  unfold NotBoth normalizeEvents
  split
  · split
    · simp [setException]
    · rename_i hpending
      simp [setException, not_not.mp hpending]
  · simp [setException]

theorem setVcpuEvents_notBoth (caps : EventCaps) (events : KvmVcpuEvents) (hs : NotBoth s) :
    NotBoth (kvmVcpuIoctlX86SetVcpuEvents ops deps caps events s).2 := by
  unfold kvmVcpuIoctlX86SetVcpuEvents
  dsimp only
  split
  · exact hs
  · have hset : NotBoth (setSmm deps (setSipi deps (setNmi ops (setInterrupt ops (setException
        (processNmi ops s) (normalizeEvents events)) (normalizeEvents events))
          (normalizeEvents events)) (normalizeEvents events)) (normalizeEvents events)) := by
      refine setSmm_notBoth _ ?_
      exact (normalizeEvents_notBoth (processNmi ops s) events).of_exception rfl
    split
    · exact hset
    · exact hset.of_exception rfl

/-- **Every event keeps pending and injected apart.** -/
theorem eventStep_notBoth (laws : QueueLaws ops Clears) (s : EventState (Platform W I M))
    (e : KvmEvent W I M D) (hclear : QueueClear s e) (hs : NotBoth s) :
    NotBoth (eventStep ops deps s e).2 := by
  cases e with
  | queueException nr => exact kvmMultipleException_notBoth hs fun h => nomatch h
  | queueExceptionP nr payload => exact kvmMultipleException_notBoth hs fun h => nomatch h
  | queueExceptionE nr errorCode => exact kvmMultipleException_notBoth hs fun h => nomatch h
  | queueExceptionEP nr errorCode payload =>
    exact kvmMultipleException_notBoth hs fun h => nomatch h
  | requeueException nr => exact kvmMultipleException_notBoth hs fun _ => hclear.1
  | requeueExceptionE nr errorCode => exact kvmMultipleException_notBoth hs fun _ => hclear.1
  | completeInterrupts =>
    rintro ⟨hpending, -⟩
    cases hpending
  | requeueNmi => exact hs
  | queueInterrupt vector soft => exact hs
  | injectNmi => exact hs
  | processNmi => exact hs.of_exception processNmi_exception
  | processSmi => exact hs
  | setVcpuEvents caps events => exact setVcpuEvents_notBoth caps events hs
  | checkAndInject allowed d =>
    rintro ⟨hpending, -⟩
    rw [show (eventStep ops deps s (.checkAndInject allowed d)).2.exception.pending = false from
      check_pending laws hs] at hpending
    cases hpending
  | platform p => exact hs

/-- One event is sound exactly where it re-injects an exception alone. -/
theorem eventSound_iff (laws : QueueLaws ops Clears) (s : EventState (Platform W I M))
    (e : KvmEvent W I M D) (hclear : QueueClear s e) (hs : NotBoth s) :
    EventSound ops deps s e ↔ ReinjectsAlone deps Clears s e := by
  have hnext : NotBoth (eventStep ops deps s e).2 := eventStep_notBoth laws s e hclear hs
  cases e with
  | checkAndInject allowed d =>
    have hcheck : EventsKept deps s (kvmCheckAndInjectEvents ops deps allowed d s) ↔ _ :=
      check_iff laws hs
    refine Iff.trans ?_ hcheck
    constructor
    · rintro ⟨-, hkept⟩
      exact hkept _ rfl
    · rintro hkept
      refine ⟨hnext, ?_⟩
      rintro r ⟨⟩
      exact hkept
  | _ => exact iff_of_true ⟨hnext, fun r hr => nomatch hr⟩ trivial

/-- **Runs**: from a clear queue, for any table of callbacks that follows the laws. -/
theorem eventSound_runs (laws : QueueLaws ops Clears) (s : EventState (Platform W I M))
    (es : List (KvmEvent W I M D))
    (hclear : Runs.Each (eventStep ops deps) QueueClear (kvmClearExceptionQueue s) es) :
    Runs.Each (eventStep ops deps) (EventSound ops deps) (kvmClearExceptionQueue s) es ↔
      Runs.Each (eventStep ops deps) (ReinjectsAlone deps Clears) (kvmClearExceptionQueue s)
        es := by
  have hstart : NotBoth (kvmClearExceptionQueue s) := by
    rintro ⟨hpending, -⟩
    cases hpending
  exact Runs.each_congr_each (I := NotBoth) (fun s e => eventStep_notBoth laws s e)
    (fun s e => eventSound_iff laws s e) es hclear hstart

end Sound

/-- **Events are kept** in every run on VMX; in a run on SVM exactly where no step re-injects a soft
exception whose end the emulator has to find, and then takes an NMI or interrupt, too. -/
theorem eventsKept_iff (vmxDeps : EventDeps VmxEvents I M) (svmDeps : EventDeps SvmEvents I M) :
    (∀ s es, Runs.Each (eventStep vmxEventOps vmxDeps) QueueClear (kvmClearExceptionQueue s) es →
      Runs.Each (eventStep vmxEventOps vmxDeps) (EventSound vmxEventOps vmxDeps)
        (kvmClearExceptionQueue s) es) ∧
    (∀ s es, Runs.Each (eventStep svmEventOps svmDeps) QueueClear (kvmClearExceptionQueue s) es →
      (Runs.Each (eventStep svmEventOps svmDeps) (EventSound svmEventOps svmDeps)
        (kvmClearExceptionQueue s) es ↔
      Runs.Each (eventStep svmEventOps svmDeps) (ReinjectsAlone svmDeps SvmClears)
        (kvmClearExceptionQueue s) es)) := by
  refine ⟨?_, fun s es hclear => eventSound_runs svmQueueLaws s es hclear⟩
  intro s es hclear
  refine (eventSound_runs vmxQueueLaws s es hclear).mpr ?_
  refine Runs.each_of_forall (fun t e => ?_) es _
  cases e with
  | checkAndInject allowed d => exact fun hforgets => hforgets.2.elim
  | _ => trivial

/-- Interrupts in a queue, and one flag for SMM. -/
def queueDeps {W : Type} : EventDeps W (List (BitVec 8)) Bool where
  hasInjectableIntr := fun irqs => !irqs.isEmpty
  getInterrupt := fun irqs => (irqs.head?, irqs.tail)
  enterSmm := fun s => { s with vendor := { s.vendor with smm := true } }
  smmChanged := fun s smm => { s with vendor := { s.vendor with smm := smm } }
  initReceived := fun _ => false
  isSmm := id
  setSmmInsideNmi := fun smm _ => smm
  lapicInKernel := fun _ => true
  setSipiVector := fun irqs _ => irqs
  setLatchedInit := fun irqs _ => irqs
  getInterrupt_isSome := by
    intro irqs hirqs
    cases irqs with
    | nil => cases hirqs
    | cons irq irqs => rfl
  enterSmm_keeps := fun _ => ⟨rfl, rfl, rfl, rfl, rfl, rfl, rfl, rfl⟩
  smmChanged_keeps := fun _ _ => ⟨rfl, rfl, rfl, rfl, rfl, rfl, rfl, rfl⟩

/-- INT3 was not delivered, and an NMI comes in before it is re-injected. -/
def nmiOverBreakpoint (D : Type) (d : D) (W : Type) : List (KvmEvent W (List (BitVec 8)) Bool D) :=
  [.completeInterrupts, .requeueException bpVector, .injectNmi, .processNmi,
    .checkAndInject ⟨1, 1, 1⟩ d]

/-- One byte of INT3. -/
def decodeBreakpoint : SvmEmulator (List (BitVec 8)) Bool :=
  fun s => some (s.vendor.state.rip + 1, false)

/-- The NMI waits on VMX; on SVM, where the next RIP is known, it does so, too. -/
theorem eventsKept_iff_breakpoint :
    Runs.Each (eventStep vmxEventOps queueDeps) (EventSound vmxEventOps queueDeps)
        (kvmClearExceptionQueue { vendor := ⟨{}, [], false⟩ })
        (nmiOverBreakpoint _ (fun _ _ _ => none) _) ∧
      Runs.Each (eventStep svmEventOps queueDeps) (EventSound svmEventOps queueDeps)
        (kvmClearExceptionQueue { vendor := ⟨{ vmcbNextRip := 0x1001 }, [], false⟩ })
        (nmiOverBreakpoint _ decodeBreakpoint _) := by
  refine ⟨(eventsKept_iff queueDeps queueDeps).1 _ _ ?_, ?_⟩
  · exact ⟨trivial, ⟨rfl, rfl⟩, trivial, trivial, trivial, trivial⟩
  · have hclear : Runs.Each (eventStep svmEventOps queueDeps) QueueClear
        (kvmClearExceptionQueue { vendor := ⟨{ vmcbNextRip := 0x1001 }, [], false⟩ })
        (nmiOverBreakpoint _ decodeBreakpoint _) :=
      ⟨trivial, ⟨rfl, rfl⟩, trivial, trivial, trivial, trivial⟩
    refine ((eventsKept_iff queueDeps queueDeps).2 _ _ hclear).mpr ?_
    refine ⟨trivial, trivial, trivial, trivial, fun hforgets => ?_, trivial⟩
    exact absurd hforgets.2 (by decide)

/-- SVM has to find the next RIP with the emulator, which forgets the breakpoint: the NMI is
injected in the same call, over it. -/
theorem breakpointOverwritten :
    Runs.Each (eventStep svmEventOps queueDeps) QueueClear
        (kvmClearExceptionQueue { vendor := ⟨{}, [], false⟩ })
        (nmiOverBreakpoint _ decodeBreakpoint _) ∧
      ¬ Runs.Each (eventStep svmEventOps queueDeps) (EventSound svmEventOps queueDeps)
        (kvmClearExceptionQueue { vendor := ⟨{}, [], false⟩ })
        (nmiOverBreakpoint _ decodeBreakpoint _) := by
  refine ⟨⟨trivial, ⟨rfl, rfl⟩, trivial, trivial, trivial, trivial⟩, ?_⟩
  rintro ⟨-, -, -, -, hcheck, -⟩
  have hmost := (hcheck.2 _ rfl).atMostOne
  revert hmost
  decide

end Kvm
