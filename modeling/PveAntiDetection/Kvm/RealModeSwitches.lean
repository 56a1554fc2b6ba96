import PveAntiDetection.Lib.Loops
import PveAntiDetection.Kvm.RealMode

/-!
# Entering and leaving real mode

* `vmxGetSegment_eq`, `vmxGetRflags_eq` — the reads, with a coherent cache;
* `foldl_saveSegment` — the registers that a switch saves;
* `KeepsRegisters` — two states in which the guest has the same registers;
* `enterPmode_keeps`, `enterRmode_keeps` — the switches keep them.
-/

set_option autoImplicit false

namespace Kvm

/-! ## Reads -/

theorem vmxReadGuestSegSelector_eq {s : VmxRegs} (hs : s.segmentCache.Coherent s.vmcs)
    (seg : Sreg) : ∃ c, c.Coherent s.vmcs ∧
      vmxReadGuestSegSelector s seg = ((s.vmcs seg).selector, { s with segmentCache := c }) := by
  obtain ⟨hc, hfield⟩ := vmxReadGuestSeg_coherent hs seg .sel
  exact ⟨_, hc, Prod.ext hfield rfl⟩

theorem vmxReadGuestSegBase_eq {s : VmxRegs} (hs : s.segmentCache.Coherent s.vmcs)
    (seg : Sreg) : ∃ c, c.Coherent s.vmcs ∧
      vmxReadGuestSegBase s seg = ((s.vmcs seg).base, { s with segmentCache := c }) := by
  obtain ⟨hc, hfield⟩ := vmxReadGuestSeg_coherent hs seg .base
  exact ⟨_, hc, Prod.ext hfield rfl⟩

theorem vmxReadGuestSegLimit_eq {s : VmxRegs} (hs : s.segmentCache.Coherent s.vmcs)
    (seg : Sreg) : ∃ c, c.Coherent s.vmcs ∧
      vmxReadGuestSegLimit s seg = ((s.vmcs seg).limit, { s with segmentCache := c }) := by
  obtain ⟨hc, hfield⟩ := vmxReadGuestSeg_coherent hs seg .limit
  exact ⟨_, hc, Prod.ext hfield rfl⟩

theorem vmxReadGuestSegAr_eq {s : VmxRegs} (hs : s.segmentCache.Coherent s.vmcs)
    (seg : Sreg) : ∃ c, c.Coherent s.vmcs ∧
      vmxReadGuestSegAr s seg = ((s.vmcs seg).ar, { s with segmentCache := c }) := by
  obtain ⟨hc, hfield⟩ := vmxReadGuestSeg_coherent hs seg .ar
  exact ⟨_, hc, Prod.ext hfield rfl⟩

/-- **The read of a register**: it changes the cache only. -/
theorem vmxGetSegment_eq {s : VmxRegs} (hs : s.segmentCache.Coherent s.vmcs) (seg : Sreg) :
    ∃ c, c.Coherent s.vmcs ∧
      vmxGetSegment s seg = (s.segment seg, { s with segmentCache := c }) := by
  unfold vmxGetSegment VmxRegs.segment
  split
  · split
    · rename_i htr
      exact ⟨s.segmentCache, hs, by rw [if_pos (Or.inl htr)]⟩
    · rename_i htr
      obtain ⟨c, hc, hsel⟩ := vmxReadGuestSegSelector_eq hs seg
      rw [hsel]
      by_cases heq : (s.segs seg).selector = (s.vmcs seg).selector
      · refine ⟨c, hc, ?_⟩
        simp only [heq, or_true, if_true]
      · obtain ⟨c', hc', hbase⟩ := vmxReadGuestSegBase_eq (s := { s with segmentCache := c }) hc seg
        obtain ⟨c'', hc'', hsel'⟩ :=
          vmxReadGuestSegSelector_eq (s := { s with segmentCache := c' }) hc' seg
        refine ⟨c'', hc'', ?_⟩
        simp only [heq, htr, or_self, if_false, hbase, hsel']
  · obtain ⟨c₁, hc₁, hbase⟩ := vmxReadGuestSegBase_eq hs seg
    obtain ⟨c₂, hc₂, hlimit⟩ := vmxReadGuestSegLimit_eq (s := { s with segmentCache := c₁ }) hc₁ seg
    obtain ⟨c₃, hc₃, hsel⟩ :=
      vmxReadGuestSegSelector_eq (s := { s with segmentCache := c₂ }) hc₂ seg
    obtain ⟨c₄, hc₄, har⟩ := vmxReadGuestSegAr_eq (s := { s with segmentCache := c₃ }) hc₃ seg
    refine ⟨c₄, hc₄, ?_⟩
    simp only [hbase, hlimit, hsel, har]

/-- **The read of the flags.** -/
theorem vmxGetRflags_eq {s : VmxRegs} (hs : s.Coherent) :
    vmxGetRflags s = (s.flags, { s with rflagsAvailable := true, rflags := s.flags }) := by
  unfold vmxGetRflags
  split
  · rename_i havailable
    rw [← hs.rflags havailable]
    exact Prod.ext rfl (by rw [← havailable])
  · rfl

/-! ## Switching -/

/-- The flags under VM86, and those that the guest should see. -/
theorem rmodeEflags_merge (v : BitVec 64) :
    ((v ||| rmodeEflags) &&& rmodeGuestOwnedEflagsBits) ||| (v &&& ~~~rmodeGuestOwnedEflagsBits) =
      v := by
  apply BitVec.eq_of_getLsbD_eq
  intro i hi
  simp only [rmodeGuestOwnedEflagsBits, BitVec.getLsbD_or, BitVec.getLsbD_and, BitVec.getLsbD_not]
  cases v.getLsbD i <;> cases rmodeEflags.getLsbD i <;> simp [hi]

/-- Nothing is cached. -/
theorem coherent_clear (c : SegmentCache) (vmcs : Sreg → VmcsSegment) :
    SegmentCache.Coherent { c with bitmask := 0 } vmcs :=
  fun _ _ _ h => absurd h (by simp)

/-- A register that is saved is the same register. -/
theorem segment_save (s : VmxRegs) (seg : Sreg) (c : SegmentCache) (seg' : Sreg) :
    { s with segs := Function.update s.segs seg (s.segment seg), segmentCache := c }.segment seg' =
      s.segment seg' := by
  by_cases heq : seg' = seg
  · subst heq
    simp only [VmxRegs.segment, Function.update_self]
    split
    · split
      · rfl
      · rw [if_pos (Or.inr rfl)]
    · rfl
  · simp only [VmxRegs.segment, Function.update_of_ne heq]

theorem foldl_saveSegment {s : VmxRegs} (hs : s.segmentCache.Coherent s.vmcs)
    (segs : List Sreg) : ∃ c saved, c.Coherent s.vmcs ∧
      segs.foldl saveSegment s = { s with segmentCache := c, segs := saved } ∧
      ∀ seg, saved seg = if seg ∈ segs then s.segment seg else s.segs seg := by
  obtain ⟨⟨c, saved, hc, heq, -⟩, hsaved⟩ :=
    Loops.foldl_update (g := saveSegment) (m := VmxRegs.segs) (v := s.segment)
      (I := fun t => ∃ c saved, c.Coherent s.vmcs ∧
        t = { s with segmentCache := c, segs := saved } ∧ ∀ seg, t.segment seg = s.segment seg)
      (fun t seg ⟨c, saved, hc, heq, hview⟩ => by
        obtain ⟨c', hc', hget⟩ := vmxGetSegment_eq (s := t) (by rw [heq]; exact hc) seg
        have hc'' : c'.Coherent s.vmcs := by
          rw [heq] at hc'
          exact hc'
        have hsave : saveSegment t seg =
            { t with segs := Function.update t.segs seg (t.segment seg), segmentCache := c' } := by
          rw [saveSegment, hget]
        refine ⟨⟨c', Function.update t.segs seg (t.segment seg), hc'', ?_, fun seg' => ?_⟩, ?_⟩
        · rw [hsave, heq]
        · rw [hsave, segment_save, hview]
        · rw [hsave, hview])
      segs ⟨s.segmentCache, s.segs, hs, rfl, fun _ => rfl⟩
  refine ⟨c, saved, hc, heq, fun seg => ?_⟩
  rw [← hsaved seg, heq]

section Switches

variable {cfg : VmxConfig} (hemulate : cfg.emulateInvalidGuestState = true)
  (hrestricted : cfg.unrestrictedGuest = false)

include hrestricted in
theorem vmxSetSegmentRaw_eq {s : VmxRegs} {seg : Sreg}
    (h : ¬ (s.vm86Active ∧ seg ≠ .ldtr)) (var : KvmSegment) :
    vmxSetSegmentRaw cfg s var seg =
      { s with
        vmcs := Function.update s.vmcs seg (.ofSegment var)
        segmentCache := { s.segmentCache with bitmask := 0 } } := by
  unfold vmxSetSegmentRaw vmxSegmentCacheClear
  rw [if_neg h]
  simp only [hrestricted, Bool.false_eq_true, false_and, if_false]

include hemulate hrestricted in
theorem fixPmodeSeg_eq {s : VmxRegs} (hvm86 : s.vm86Active = false) (seg : Sreg) :
    fixPmodeSeg cfg s seg =
      { s with
        vmcs := Function.update s.vmcs seg (.ofSegment (s.segs seg))
        segmentCache := { s.segmentCache with bitmask := 0 } } := by
  unfold fixPmodeSeg
  simp only [hemulate, if_true, Function.update_eq_self]
  exact vmxSetSegmentRaw_eq hrestricted (by simp [hvm86]) _

/-- What `fix_rmode_seg` writes. -/
def rmodeSegment (seg : Sreg) (var : KvmSegment) : VmcsSegment :=
  let var := { var with dpl := 3 }
  .ofSegment (if seg = .cs then { var with type := 3 } else var)

theorem rmodeSegment_selector (seg : Sreg) (var : KvmSegment) :
    (rmodeSegment seg var).selector = var.selector := by
  unfold rmodeSegment VmcsSegment.ofSegment
  split <;> rfl

include hemulate in
theorem fixRmodeSeg_eq (s : VmxRegs) (seg : Sreg) :
    fixRmodeSeg cfg s seg =
      { s with vmcs := Function.update s.vmcs seg (rmodeSegment seg (s.segs seg)) } := by
  simp only [fixRmodeSeg, rmodeSegment, hemulate, if_true]

/-- Two states in which the guest has the same registers. -/
structure KeepsRegisters (s t : VmxRegs) : Prop where
  coherent : t.Coherent
  segment : ∀ seg, (t.segment seg).normalise = (s.segment seg).normalise
  flags : t.flags = s.flags
  cr0 : t.cr0 = s.cr0
  efer : t.efer = s.efer

include hemulate hrestricted in
/-- **Leaving real mode changes no register.** -/
theorem enterPmode_keeps {s : VmxRegs} (hs : s.Coherent) (hvm86 : s.vm86Active = true) :
    KeepsRegisters s (enterPmode cfg s) ∧ (enterPmode cfg s).vm86Active = false := by
  obtain ⟨c, saved, hc, hsave, hsaved⟩ :=
    foldl_saveSegment hs.segments [.es, .ds, .fs, .gs, .ss, .cs]
  -- the state behind the task register and the flags
  let u : VmxRegs :=
    { s with
      vm86Active := false
      segs := saved
      vmcs := Function.update s.vmcs .tr (.ofSegment (saved .tr))
      segmentCache := { c with bitmask := 0 }
      guestRflags := s.flags }
  have hu : enterPmode cfg s = [.cs, .ss, .es, .ds, .fs, .gs].foldl (fixPmodeSeg cfg) u := by
    unfold enterPmode
    simp only [hsave]
    rw [vmxSetSegmentRaw_eq hrestricted (by simp)]
    simp only [VmxRegs.flags, hvm86, if_true, u]
  obtain ⟨⟨vmcs, c', hbits, heq⟩, hvmcs⟩ :=
    Loops.foldl_update (g := fixPmodeSeg cfg) (m := VmxRegs.vmcs)
      (v := fun k => .ofSegment (saved k))
      (I := fun t => ∃ vmcs c', c'.bitmask = 0 ∧ t = { u with vmcs := vmcs, segmentCache := c' })
      (fun t seg ⟨vmcs, c', hbits, heq⟩ => by
        have hfix := fixPmodeSeg_eq hemulate hrestricted (s := t) (by rw [heq]) seg
        rw [hfix, heq]
        exact ⟨⟨_, _, rfl, rfl⟩, rfl⟩)
      [.cs, .ss, .es, .ds, .fs, .gs] ⟨u.vmcs, u.segmentCache, rfl, rfl⟩
  rw [← hu] at heq hvmcs
  rw [heq] at hvmcs ⊢
  replace hvmcs : ∀ seg, vmcs seg =
      if seg ∈ [.cs, .ss, .es, .ds, .fs, .gs] then .ofSegment (saved seg) else u.vmcs seg := hvmcs
  have hflags : { u with vmcs := vmcs, segmentCache := c' }.flags = s.flags := rfl
  have hother : ∀ seg, seg ≠ .ldtr → vmcs seg = .ofSegment (s.segment seg) := by
    intro seg hseg
    rw [hvmcs seg]
    cases seg with
    | tr => simp [u, hsaved, VmxRegs.segment, hvm86]
    | ldtr => exact absurd rfl hseg
    | _ => simp [hsaved]
  refine ⟨⟨⟨fun _ _ _ h => absurd h (by simp [hbits]), ?_⟩, fun seg => ?_, hflags, rfl, rfl⟩, rfl⟩
  · rw [hflags]
    exact hs.rflags
  · have hview : { u with vmcs := vmcs, segmentCache := c' }.segment seg = (vmcs seg).toSegment :=
      if_neg (by simp [u])
    rw [hview]
    by_cases hseg : seg = .ldtr
    · have hldtr : vmcs .ldtr = s.vmcs .ldtr := hvmcs .ldtr
      rw [hseg, hldtr]
      exact congrArg _ (if_neg (by simp)).symm
    · rw [hother seg hseg, toSegment_ofSegment, normalise_normalise]

include hemulate in
/-- **Entering real mode changes no register.** -/
theorem enterRmode_keeps {s : VmxRegs} (hs : s.Coherent) (hvm86 : s.vm86Active = false) :
    KeepsRegisters s (enterRmode cfg s) ∧ (enterRmode cfg s).vm86Active = true := by
  obtain ⟨c, saved, hc, hsave, hsaved⟩ :=
    foldl_saveSegment hs.segments [.tr, .es, .ds, .fs, .gs, .ss, .cs]
  -- the state in front of the segment registers
  let u : VmxRegs :=
    { s with
      vm86Active := true
      segs := saved
      vmcs := Function.update s.vmcs .tr
        { s.vmcs .tr with
          base := cfg.tssAddr.setWidth 64
          limit := rmodeTssSize - 1
          ar := 0x8b }
      segmentCache := { c with bitmask := 0 }
      saveRflags := s.guestRflags
      guestRflags := s.guestRflags ||| rmodeEflags }
  have hu : enterRmode cfg s = [.ss, .cs, .es, .ds, .gs, .fs].foldl (fixRmodeSeg cfg) u := by
    unfold enterRmode
    simp only [hsave]
    rfl
  obtain ⟨⟨vmcs, heq⟩, hvmcs⟩ :=
    Loops.foldl_update (g := fixRmodeSeg cfg) (m := VmxRegs.vmcs)
      (v := fun k => rmodeSegment k (saved k)) (I := fun t => ∃ vmcs, t = { u with vmcs := vmcs })
      (fun t seg ⟨vmcs, heq⟩ => by
        rw [fixRmodeSeg_eq hemulate, heq]
        exact ⟨⟨_, rfl⟩, rfl⟩)
      [.ss, .cs, .es, .ds, .gs, .fs] ⟨u.vmcs, rfl⟩
  rw [← hu] at heq hvmcs
  rw [heq] at hvmcs ⊢
  replace hvmcs : ∀ seg, vmcs seg =
      if seg ∈ [.ss, .cs, .es, .ds, .gs, .fs] then rmodeSegment seg (saved seg) else u.vmcs seg :=
    hvmcs
  have hflags : { u with vmcs := vmcs }.flags = s.flags := by
    rw [VmxRegs.flags, VmxRegs.flags, hvm86]
    exact rmodeEflags_merge s.guestRflags
  refine ⟨⟨⟨coherent_clear c vmcs, ?_⟩, fun seg => ?_, hflags, rfl, rfl⟩, rfl⟩
  · rw [hflags]
    exact hs.rflags
  · congr 1
    by_cases hldtr : seg = .ldtr
    · subst hldtr
      have h : vmcs .ldtr = s.vmcs .ldtr := hvmcs .ldtr
      simp [VmxRegs.segment, h]
    · have hsel : seg = .tr ∨ (saved seg).selector = (vmcs seg).selector := by
        rw [hvmcs seg]
        cases seg <;> simp_all [rmodeSegment_selector]
      have hview : { u with vmcs := vmcs }.segment seg = saved seg := by
        unfold VmxRegs.segment
        rw [if_pos ⟨rfl, hldtr⟩]
        exact if_pos hsel
      rw [hview, hsaved]
      cases seg <;> first | rfl | exact absurd rfl hldtr

end Switches

end Kvm
