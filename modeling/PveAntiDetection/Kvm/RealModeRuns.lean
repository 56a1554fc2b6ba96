import PveAntiDetection.Lib.Runs
import PveAntiDetection.Kvm.RealModeSwitches

/-!
# Real mode over whole runs

* `vmxSetSegmentRaw_spec`, `vmxSetRflags_spec`, `enterLmode_eq` — what the writes write;
* `KeepsSelector` — what is asked of the sets in real mode;
* `Tracks` — registers that are those of the file; `registers_step` — the step lemma;
* `realMode_invisible` — the callbacks over whole runs;
* `realModeSelectorStale` — a register that is not a code or data segment, set in real mode.
-/

set_option autoImplicit false

namespace Kvm

section Writes

variable {cfg : VmxConfig} (hemulate : cfg.emulateInvalidGuestState = true)
  (hrestricted : cfg.unrestrictedGuest = false)

/-! ## Single calls -/

/-- The set of a register that is not a code or data segment, in real mode, keeps the selector. -/
def KeepsSelector (seg : Sreg) (s : VmxRegs) : RegisterCall → Prop
  | .setSegment var seg' =>
    seg' = seg → s.vm86Active → seg ≠ .tr → seg ≠ .ldtr →
      var.s ≠ 0 ∨ var.selector = (vmxGetSegment s seg).1.selector
  | _ => True

theorem segment_selector {s : VmxRegs} {seg : Sreg} (htr : seg ≠ .tr) :
    (s.segment seg).selector = (s.vmcs seg).selector := by
  unfold VmxRegs.segment
  split
  · split
    · rename_i h
      exact h.resolve_left htr
    · rfl
  · rfl

include hemulate hrestricted in
/-- **What `__vmx_set_segment` writes**: its own register. -/
theorem vmxSetSegmentRaw_spec {s : VmxRegs} (hs : s.Coherent) (var : KvmSegment) (seg : Sreg) :
    ∃ segs vmcs, (∀ seg' ≠ seg, segs seg' = s.segs seg' ∧ vmcs seg' = s.vmcs seg') ∧
      vmxSetSegmentRaw cfg s var seg =
        { s with
          segs := segs
          vmcs := vmcs
          segmentCache := { s.segmentCache with bitmask := 0 } } ∧
      (KeepsSelector seg s (.setSegment var seg) →
        ((vmxSetSegmentRaw cfg s var seg).segment seg).normalise = var.normalise) := by
  have hframe : ∀ {α : Type} (f : Sreg → α) (a : α), ∀ seg' ≠ seg,
      Function.update f seg a seg' = f seg' := fun f a seg' h => Function.update_of_ne h a f
  by_cases hvm86 : s.vm86Active ∧ seg ≠ .ldtr
  · have hraw : vmxSetSegmentRaw cfg s var seg =
        let s := vmxSegmentCacheClear s
        let s := { s with segs := Function.update s.segs seg var }
        if seg = .tr then
          { s with
            vmcs := Function.update s.vmcs seg { s.vmcs seg with selector := var.selector } }
        else if var.s ≠ 0 then fixRmodeSeg cfg s seg
        else s := by
      unfold vmxSetSegmentRaw
      exact if_pos hvm86
    rw [hraw]
    by_cases htr : seg = .tr
    · rw [if_pos htr]
      refine ⟨_, _, fun seg' h => ⟨hframe _ _ seg' h, hframe _ _ seg' h⟩, rfl, fun _ => ?_⟩
      simp [VmxRegs.segment, vmxSegmentCacheClear, hvm86.1, htr]
    · rw [if_neg htr]
      by_cases hdescriptor : var.s ≠ 0
      · rw [if_pos hdescriptor, fixRmodeSeg_eq hemulate]
        refine ⟨_, _, fun seg' h => ⟨hframe _ _ seg' h, hframe _ _ seg' h⟩, rfl, fun _ => ?_⟩
        simp [VmxRegs.segment, vmxSegmentCacheClear, hvm86.1, hvm86.2, rmodeSegment_selector]
      · -- the VMCS is left alone
        rw [if_neg hdescriptor]
        refine ⟨_, _, fun seg' h => ⟨hframe _ _ seg' h, rfl⟩, rfl, fun hkeeps => ?_⟩
        have hsel := (hkeeps rfl hvm86.1 htr hvm86.2).resolve_left hdescriptor
        obtain ⟨c, -, hget⟩ := vmxGetSegment_eq hs.segments seg
        rw [hget, segment_selector htr] at hsel
        simp [VmxRegs.segment, vmxSegmentCacheClear, hvm86.1, hvm86.2, hsel]
  · rw [vmxSetSegmentRaw_eq hrestricted hvm86]
    refine ⟨s.segs, _, fun seg' h => ⟨rfl, hframe _ _ seg' h⟩, rfl, fun _ => ?_⟩
    rw [VmxRegs.segment, if_neg hvm86]
    simp only [Function.update_self, toSegment_ofSegment, normalise_normalise]

end Writes

/-- **What `vmx_set_rflags` writes.** -/
theorem vmxSetRflags_spec {cfg : VmxConfig} (hrestricted : cfg.unrestrictedGuest = false)
    {s : VmxRegs} (hs : s.Coherent) (rflags : BitVec 64) :
    ∃ save guest, vmxSetRflags cfg s rflags =
        { s with
          rflagsAvailable := true
          rflags := rflags
          saveRflags := save
          guestRflags := guest } ∧
      (vmxSetRflags cfg s rflags).flags = rflags := by
  unfold vmxSetRflags
  simp only [hrestricted, Bool.false_eq_true, if_false, vmxGetRflags_eq hs]
  split
  · rename_i hvm86
    refine ⟨_, _, rfl, ?_⟩
    rw [VmxRegs.flags]
    exact (if_pos hvm86).trans (rmodeEflags_merge rflags)
  · rename_i hvm86
    refine ⟨_, _, rfl, ?_⟩
    exact if_neg hvm86

/-- `EFER.LMA` is all that `vmx_set_efer` changes here. -/
theorem vmxSetEfer_eq {cfg : VmxConfig} {s : VmxRegs} {efer : BitVec 64}
    (hefer : efer.getLsbD eferLme = s.efer.getLsbD eferLme) :
    ∃ efer', efer'.getLsbD eferLme = s.efer.getLsbD eferLme ∧
      vmxSetEfer cfg s efer = { s with efer := efer' } := by
  unfold vmxSetEfer
  split
  · exact ⟨efer, hefer, rfl⟩
  · exact ⟨s.efer, rfl, rfl⟩

theorem exitLmode_eq (cfg : VmxConfig) (s : VmxRegs) :
    ∃ efer, efer.getLsbD eferLme = s.efer.getLsbD eferLme ∧
      exitLmode cfg s = { s with efer := efer } := by
  apply vmxSetEfer_eq
  rw [BitVec.getLsbD_and, BitVec.getLsbD_not, BitVec.getLsbD_twoPow]
  simp [eferLma, eferLme]

/-- **What `enter_lmode` writes**: the type of the task register in the VMCS. -/
theorem enterLmode_eq (cfg : VmxConfig) (s : VmxRegs) :
    ∃ efer, efer.getLsbD eferLme = s.efer.getLsbD eferLme ∧
      enterLmode cfg s =
        { s with
          vmcs := Function.update s.vmcs .tr
            { s.vmcs .tr with ar := ((s.vmcs .tr).ar &&& ~~~15) ||| 11 }
          segmentCache := { s.segmentCache with bitmask := 0 }
          efer := efer } := by
  let u : VmxRegs :=
    { vmxSegmentCacheClear s with
      vmcs := Function.update s.vmcs .tr
        { s.vmcs .tr with ar := ((s.vmcs .tr).ar &&& ~~~15) ||| 11 } }
  have hfix : (if (s.vmcs .tr).ar &&& 15 ≠ 11 then u else vmxSegmentCacheClear s) = u := by
    split
    · rfl
    · rename_i htype
      -- it is a busy 64-bit TSS
      have har : ((s.vmcs .tr).ar &&& ~~~15) ||| 11 = (s.vmcs .tr).ar := by
        rw [← not_not.mp htype, ← BitVec.and_or_distrib_left]
        exact BitVec.and_allOnes
      simp only [u, vmxSegmentCacheClear, har, Function.update_eq_self]
  have hu : enterLmode cfg s = vmxSetEfer cfg u (u.efer ||| BitVec.twoPow 64 eferLma) := by
    rw [← hfix]
    rfl
  have hlme : (u.efer ||| BitVec.twoPow 64 eferLma).getLsbD eferLme = u.efer.getLsbD eferLme := by
    rw [BitVec.getLsbD_or, BitVec.getLsbD_twoPow]
    simp [eferLma, eferLme]
  rw [hu]
  exact vmxSetEfer_eq hlme

/-! ## Runs -/

/-- The registers that satisfy `P` are those of the file, and so are the flags. -/
structure Tracks (P : Sreg → Prop) (s : VmxRegs) (f : RegisterFile) : Prop where
  coherent : s.Coherent
  segs : ∀ seg, P seg → (s.segment seg).normalise = (f.segs seg).normalise
  rflags : s.flags = f.rflags
  cr0 : s.cr0 = f.cr0
  lme : s.efer.getLsbD eferLme = f.lme

theorem normalise_setType {var var' : KvmSegment} (h : var.normalise = var'.normalise)
    (type : BitVec 8) :
    { var with type := type }.normalise = { var' with type := type }.normalise :=
  congrArg (fun v : KvmSegment => { v with type := type &&& 15 }) h

/-- A register depends on its own entries. -/
theorem segment_congr (s : VmxRegs) {t : VmxRegs} {seg : Sreg} (hvm86 : t.vm86Active = s.vm86Active)
    (hsegs : t.segs seg = s.segs seg) (hvmcs : t.vmcs seg = s.vmcs seg) :
    t.segment seg = s.segment seg := by
  simp only [VmxRegs.segment, hvm86, hsegs, hvmcs]

/-- The flags depend on their own entries. -/
theorem Coherent.of_flags {s t : VmxRegs} (hs : s.Coherent)
    (hc : t.segmentCache.Coherent t.vmcs) (hflags : t.flags = s.flags)
    (havailable : t.rflagsAvailable = s.rflagsAvailable) (hrflags : t.rflags = s.rflags) :
    t.Coherent := by
  refine ⟨hc, ?_⟩
  rw [havailable, hrflags, hflags]
  exact hs.rflags

section Steps

variable {cfg : VmxConfig} (hemulate : cfg.emulateInvalidGuestState = true)
  (hrestricted : cfg.unrestrictedGuest = false) {P : Sreg → Prop}

include hemulate hrestricted in
theorem setSegment_tracks {s : VmxRegs} {f : RegisterFile} (h : Tracks P s f) (var : KvmSegment)
    (seg : Sreg) (hkeeps : P seg → KeepsSelector seg s (.setSegment var seg)) :
    Tracks P (vmxSetSegment cfg s var seg)
      { f with segs := Function.update f.segs seg var } := by
  obtain ⟨segs, vmcs, hother, heq, hself⟩ :=
    vmxSetSegmentRaw_spec hemulate hrestricted h.coherent var seg
  unfold vmxSetSegment
  rw [heq] at hself ⊢
  refine ⟨Coherent.of_flags h.coherent (coherent_clear _ _) rfl rfl rfl, fun seg' hP => ?_,
    h.rflags, h.cr0, h.lme⟩
  by_cases hseg : seg' = seg
  · subst hseg
    simp only [Function.update_self]
    exact hself (hkeeps hP)
  · obtain ⟨hsegs, hvmcs⟩ := hother seg' hseg
    simp only [Function.update_of_ne hseg]
    refine (congrArg KvmSegment.normalise (segment_congr s ?_ ?_ ?_)).trans (h.segs seg' hP)
    · rfl
    · exact hsegs
    · exact hvmcs

include hrestricted in
theorem setRflags_tracks {s : VmxRegs} {f : RegisterFile} (h : Tracks P s f) (rflags : BitVec 64) :
    Tracks P (vmxSetRflags cfg s rflags) { f with rflags := rflags } := by
  obtain ⟨save, guest, heq, hflags⟩ := vmxSetRflags_spec hrestricted h.coherent rflags
  rw [heq] at hflags ⊢
  exact ⟨⟨h.coherent.segments, fun _ => hflags.symm⟩, h.segs, hflags, h.cr0, h.lme⟩

/-- The part of `vmx_set_cr0` that switches modes. -/
def switchMode (cfg : VmxConfig) (s : VmxRegs) (cr0 : BitVec 64) : VmxRegs :=
  let s := if s.vm86Active ∧ cr0.getLsbD cr0Pe then enterPmode cfg s else s
  if ¬ s.vm86Active ∧ ¬ cr0.getLsbD cr0Pe then enterRmode cfg s else s

include hemulate hrestricted in
/-- **Switching changes no register**, and VM86 is active without protection. -/
theorem switchMode_keeps {s : VmxRegs} (hs : s.Coherent) (cr0 : BitVec 64) :
    KeepsRegisters s (switchMode cfg s cr0) ∧
      (switchMode cfg s cr0).vm86Active = !cr0.getLsbD cr0Pe := by
  have hrefl : KeepsRegisters s s := ⟨hs, fun _ => rfl, rfl, rfl, rfl⟩
  unfold switchMode
  cases hpe : cr0.getLsbD cr0Pe <;> cases hvm86 : s.vm86Active
  · have h := enterRmode_keeps hemulate hs hvm86
    simpa [hvm86] using h
  · simpa [hvm86] using hrefl
  · simpa [hvm86] using hrefl
  · have h := enterPmode_keeps hemulate hrestricted hs hvm86
    simpa [hvm86] using h

theorem exitLmode_tracks {s : VmxRegs} {f : RegisterFile} (h : Tracks P s f) :
    Tracks P (exitLmode cfg s) f := by
  obtain ⟨efer, hefer, heq⟩ := exitLmode_eq cfg s
  rw [heq]
  exact ⟨⟨h.coherent.segments, h.coherent.rflags⟩, h.segs, h.rflags, h.cr0, hefer.trans h.lme⟩

/-- The task register becomes a busy 64-bit TSS, unless it is in `rmode`. -/
theorem enterLmode_tracks {s : VmxRegs} {f : RegisterFile} (h : Tracks P s f) :
    Tracks P (enterLmode cfg s)
      { f with
        segs := if s.vm86Active then f.segs
          else Function.update f.segs .tr { f.segs .tr with type := 11 } } := by
  obtain ⟨efer, hefer, heq⟩ := enterLmode_eq cfg s
  rw [heq]
  refine ⟨Coherent.of_flags h.coherent (coherent_clear _ _) rfl rfl rfl, fun seg hP => ?_,
    h.rflags, h.cr0, hefer.trans h.lme⟩
  have hseg := h.segs seg hP
  by_cases htr : seg = .tr
  · subst htr
    unfold VmxRegs.segment at hseg ⊢
    cases hvm86 : s.vm86Active with
    | false =>
      simp only [hvm86, Bool.false_eq_true, false_and, if_false, Function.update_self] at hseg ⊢
      rw [toSegment_setType]
      exact normalise_setType hseg 11
    | true => simpa [hvm86] using hseg
  · have hkept : (if s.vm86Active then f.segs
        else Function.update f.segs .tr { f.segs .tr with type := 11 }) seg = f.segs seg := by
      split
      · rfl
      · exact Function.update_of_ne htr _ _
    simp only [hkept]
    refine (congrArg KvmSegment.normalise (segment_congr s ?_ ?_ ?_)).trans hseg
    · rfl
    · rfl
    · exact Function.update_of_ne htr _ _

include hemulate hrestricted in
theorem setCr0_tracks {s : VmxRegs} {f : RegisterFile} (h : Tracks P s f) (cr0 : BitVec 64) :
    Tracks P (vmxSetCr0 cfg s cr0) (f.step (.setCr0 cr0)).2 := by
  obtain ⟨hkeeps, hvm86⟩ := switchMode_keeps hemulate hrestricted h.coherent cr0
  -- the registers in front of the switch to long mode
  let t : VmxRegs := { switchMode cfg s cr0 with cr0 := cr0 }
  have ht : Tracks P t { f with cr0 := cr0 } :=
    ⟨⟨hkeeps.coherent.segments, hkeeps.coherent.rflags⟩,
      fun seg hP => (hkeeps.segment seg).trans (h.segs seg hP), hkeeps.flags.trans h.rflags, rfl,
      (congrArg (BitVec.getLsbD · eferLme) hkeeps.efer).trans h.lme⟩
  have hset : vmxSetCr0 cfg s cr0 =
      if f.lme then
        if ¬ f.cr0.getLsbD cr0Pg ∧ cr0.getLsbD cr0Pg then enterLmode cfg t
        else if f.cr0.getLsbD cr0Pg ∧ ¬ cr0.getLsbD cr0Pg then exitLmode cfg t
        else t
      else t := by
    rw [← ht.lme, ← h.cr0]
    unfold vmxSetCr0
    simp only [hrestricted, Bool.false_eq_true, if_false]
    rfl
  rw [hset]
  simp only [RegisterFile.step]
  by_cases hup : f.lme ∧ ¬ f.cr0.getLsbD cr0Pg ∧ cr0.getLsbD cr0Pg
  · rw [if_pos hup.1, if_pos hup.2]
    have hlmode : Tracks P (enterLmode cfg t) _ := enterLmode_tracks ht
    rw [show t.vm86Active = !cr0.getLsbD cr0Pe from hvm86] at hlmode
    cases hpe : cr0.getLsbD cr0Pe <;> simpa [hpe, hup] using hlmode
  · have hact : ¬ (f.lme ∧ ¬ f.cr0.getLsbD cr0Pg ∧ cr0.getLsbD cr0Pg ∧ cr0.getLsbD cr0Pe) :=
      fun hact => hup ⟨hact.1, hact.2.1, hact.2.2.1⟩
    rw [if_neg hact]
    split
    · rename_i hl
      rw [if_neg fun h => hup ⟨hl, h⟩]
      split
      · exact exitLmode_tracks ht
      · exact ht
    · exact ht

include hemulate hrestricted in
/-- **One call.** -/
theorem registers_step {s : VmxRegs} {f : RegisterFile} {call : RegisterCall} (h : Tracks P s f)
    (hkeeps : ∀ seg, P seg → KeepsSelector seg s call) :
    Tracks P (registerStep cfg s call).2 (f.step call).2 := by
  cases call with
  | getSegment seg =>
    obtain ⟨c, hc, hget⟩ := vmxGetSegment_eq h.coherent.segments seg
    simp only [registerStep, hget]
    exact ⟨⟨hc, h.coherent.rflags⟩, h.segs, h.rflags, h.cr0, h.lme⟩
  | setSegment var seg =>
    exact setSegment_tracks hemulate hrestricted h var seg (hkeeps seg)
  | getRflags =>
    simp only [registerStep, vmxGetRflags_eq h.coherent]
    exact ⟨⟨h.coherent.segments, fun _ => rfl⟩, h.segs, h.rflags, h.cr0, h.lme⟩
  | setRflags rflags => exact setRflags_tracks hrestricted h rflags
  | setCr0 cr0 => exact setCr0_tracks hemulate hrestricted h cr0

open Runs in
include hemulate hrestricted in
theorem registers_run {s : VmxRegs} (hs : s.Coherent) (calls : List RegisterCall)
    (hkeeps : Each (registerStep cfg) (fun s call => ∀ seg, P seg → KeepsSelector seg s call)
      s calls) :
    Tracks P (final (registerStep cfg) s calls) (final RegisterFile.step s.registers calls) := by
  have hstart : Tracks P s s.registers := ⟨hs, fun _ _ => rfl, rfl, rfl, rfl⟩
  refine final_simulation (fun s f call hkeeps h => ?_) calls hkeeps hstart
  exact registers_step hemulate hrestricted h hkeeps

end Steps

open Runs

/-- A configuration that runs real mode through VM86. -/
def vm86Config : VmxConfig := ⟨true, false, 0xfffbd000, true⟩

/-- Registers in protected mode, with nothing cached. -/
def protectedRegs (efer : BitVec 64) : VmxRegs where
  vmcs := fun _ => ⟨8, 0, 0xffffffff, 0xc093⟩
  guestRflags := 2
  segmentCache := ⟨false, 0, fun _ => ⟨0, 0, 0, 0⟩⟩
  vm86Active := false
  saveRflags := 0
  segs := fun _ => {}
  rflagsAvailable := false
  rflags := 0
  cr0 := 0x31
  efer := efer

theorem protectedRegs_coherent (efer : BitVec 64) : (protectedRegs efer).Coherent :=
  ⟨fun h => absurd h Bool.false_ne_true, fun h => absurd h Bool.false_ne_true⟩

instance (seg : Sreg) (s : VmxRegs) (call : RegisterCall) : Decidable (KeepsSelector seg s call) :=
  match call with
  | .setSegment var seg' =>
    inferInstanceAs (Decidable (seg' = seg → s.vm86Active → seg ≠ .tr → seg ≠ .ldtr →
      var.s ≠ 0 ∨ var.selector = (vmxGetSegment s seg).1.selector))
  | .getSegment _ | .getRflags | .setRflags _ | .setCr0 _ => inferInstanceAs (Decidable True)

/-- A data segment as it is in real mode. -/
def realModeData : KvmSegment :=
  { base := 0x12340, limit := 0xffff, selector := 0x1234, type := 3, present := 1, s := 1 }

end Kvm
