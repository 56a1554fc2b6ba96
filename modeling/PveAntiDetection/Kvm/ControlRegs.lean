import PveAntiDetection.Lib.Runs

/-!
# Control registers

The writes of CR0, CR4 and EFER by a guest, outside guest mode, through `x86.c` and the callbacks
of `svm.c` with nested paging.

* `kvmSetCr0`, `kvmLmsw`, `kvmSetCr4`, `setEfer` — the writes; a nonzero result rejects;
* `loadPdptrs` — the side effect in the middle of the first two;
* `crStep` — one write, with what it reads of the guest and of the host;
* `RegisterRules` — the rules across the registers; `crStep_rules` is their step lemma;
* `controlRegs_atomic_iff` — the rules hold in every run, and when its rejected writes are atomic.
-/

set_option autoImplicit false

namespace Kvm

/-! ## Bits -/

/-- The bits of CR0. -/
def cr0Pe : Nat := 0
def cr0Et : Nat := 4
def cr0Nw : Nat := 29
def cr0Cd : Nat := 30
def cr0Pg : Nat := 31

/-- The bits of CR4. -/
def cr4Pae : Nat := 5
def cr4La57 : Nat := 12
def cr4Pcide : Nat := 17

/-- The bits of EFER. -/
def eferLme : Nat := 8
def eferLma : Nat := 10
def eferNx : Nat := 11
def eferSvme : Nat := 12
def eferFfxsr : Nat := 14
def eferAutoibrs : Nat := 21

/-- `CR0_RESERVED_BITS`. -/
def cr0ReservedBits : BitVec 64 := ~~~0xe005003f

/-- `X86_CR0_PDPTR_BITS`: CD, NW and PG. -/
def cr0PdptrBits : BitVec 64 := 0xe0000000

/-- `X86_CR4_PDPTR_BITS`: PSE, PAE, PGE and SMEP. -/
def cr4PdptrBits : BitVec 64 := 0x1000b0

/-- `X86_CR3_PCID_MASK`. -/
def cr3PcidMask : BitVec 64 := 0xfff

/-! ## State -/

/-- The PDPTEs. -/
abbrev Pdptes := Vector (BitVec 64) 4

/-- The control registers, and `mmu->pdptrs`. -/
structure ControlRegs where
  cr0 : BitVec 64
  cr4 : BitVec 64
  efer : BitVec 64
  pdptrs : Pdptes
  deriving DecidableEq

/-- What a write reads of the guest and of the host. -/
structure CrEnv where
  cr3 : BitVec 64 := 0
  /-- The L bit of the code segment. -/
  csL : Bool := false
  /-- `kvm_vcpu_read_guest_page` of the PDPTEs, by frame number and offset. -/
  readGuestPage : BitVec 64 → BitVec 64 → Option Pdptes := fun _ _ => none
  reservedGpaBits : BitVec 64 := 0
  cr4ReservedBits : BitVec 64 := 0
  cr4GuestRsvdBits : BitVec 64 := 0
  eferReservedBits : BitVec 64 := 0
  hasAutoibrs : Bool := true
  hasFxsrOpt : Bool := true
  hasSvm : Bool := true
  hasLm : Bool := true
  hasNx : Bool := true
  /-- `svm_allocate_nested`. -/
  allocateNested : Int := 0

namespace ControlRegs

variable (s : ControlRegs)

/-- `is_paging`, `is_pae`, `is_long_mode`. -/
def isPaging : Bool := s.cr0.getLsbD cr0Pg
def isPae : Bool := s.cr4.getLsbD cr4Pae
def isLongMode : Bool := s.efer.getLsbD eferLma

/-- `EFER.LME`, `CR4.PCIDE`. -/
def lme : Bool := s.efer.getLsbD eferLme
def pcide : Bool := s.cr4.getLsbD cr4Pcide

end ControlRegs

variable (env : CrEnv) (s : ControlRegs)

/-! ## The callbacks of `svm.c` -/

/-- `svm_set_cr0`. -/
def svmSetCr0 (cr0 : BitVec 64) : ControlRegs :=
  let s :=
    if s.lme then
      let s :=
        if ¬ s.isPaging ∧ cr0.getLsbD cr0Pg then
          { s with efer := s.efer ||| BitVec.twoPow 64 eferLma }
        else s
      if s.isPaging ∧ ¬ cr0.getLsbD cr0Pg then
        { s with efer := s.efer &&& ~~~BitVec.twoPow 64 eferLma }
      else s
    else s
  { s with cr0 := cr0 }

/-- `svm_set_cr4`. -/
def svmSetCr4 (cr4 : BitVec 64) : ControlRegs :=
  { s with cr4 := cr4 }

/-- `svm_set_efer`. -/
def svmSetEfer (efer : BitVec 64) : Int × ControlRegs :=
  if s.efer.getLsbD eferSvme ≠ efer.getLsbD eferSvme ∧ efer.getLsbD eferSvme ∧
      env.allocateNested ≠ 0 then
    (env.allocateNested, s)
  else (0, { s with efer := efer })

/-! ## The PDPTEs -/

/-- `pdptr_rsvd_bits`. -/
def pdptrRsvdBits : BitVec 64 := env.reservedGpaBits ||| 0x1e6

/-- What `load_pdptrs` finds, if the page can be read and every present entry is valid. -/
def readPdptrs : Option Pdptes :=
  match env.readGuestPage (env.cr3 >>> 12) (env.cr3 &&& 0xfe0) with
  | none => none
  | some pdpte =>
    if pdpte.toList.any fun e => e.getLsbD 0 && e &&& pdptrRsvdBits env != 0 then none
    else some pdpte

/-- `load_pdptrs`. -/
def loadPdptrs : Bool × ControlRegs :=
  match readPdptrs env with
  | none => (false, s)
  | some pdpte => (true, { s with pdptrs := pdpte })

/-! ## The writes -/

/-- `kvm_is_valid_cr0`; `svm_is_valid_cr0` has no objection. -/
def kvmIsValidCr0 (cr0 : BitVec 64) : Bool :=
  if cr0 &&& 0xffffffff00000000 ≠ 0 then false
  else if cr0.getLsbD cr0Nw ∧ ¬ cr0.getLsbD cr0Cd then false
  else if cr0.getLsbD cr0Pg ∧ ¬ cr0.getLsbD cr0Pe then false
  else true

/-- The last checks of `kvm_set_cr0`, and the write. -/
def kvmSetCr0Checked (cr0 : BitVec 64) : Int × ControlRegs :=
  if ¬ cr0.getLsbD cr0Pg ∧ ((s.isLongMode ∧ env.csL) ∨ s.pcide) then (1, s)
  else (0, svmSetCr0 s cr0)

/-- `kvm_set_cr0`. -/
def kvmSetCr0 (cr0 : BitVec 64) : Int × ControlRegs :=
  let oldCr0 := s.cr0
  if ¬ kvmIsValidCr0 cr0 then (1, s)
  else
    let cr0 := (cr0 ||| BitVec.twoPow 64 cr0Et) &&& ~~~cr0ReservedBits
    if s.lme ∧ ¬ s.isPaging ∧ cr0.getLsbD cr0Pg ∧ (¬ s.isPae ∨ env.csL) then (1, s)
    else if ¬ s.lme ∧ cr0.getLsbD cr0Pg ∧ s.isPae ∧ (cr0 ^^^ oldCr0) &&& cr0PdptrBits ≠ 0 then
      let r := loadPdptrs env s
      if r.1 then kvmSetCr0Checked env r.2 cr0 else (1, r.2)
    else kvmSetCr0Checked env s cr0

/-- `kvm_lmsw`, which drops the result of `kvm_set_cr0`. -/
def kvmLmsw (msw : BitVec 64) : Int × ControlRegs :=
  kvmSetCr0 env s ((s.cr0 &&& ~~~0xe) ||| (msw &&& 0xf))

/-- `kvm_is_valid_cr4`; `svm_is_valid_cr4` has no objection. -/
def kvmIsValidCr4 (cr4 : BitVec 64) : Bool :=
  cr4 &&& env.cr4ReservedBits = 0 ∧ cr4 &&& env.cr4GuestRsvdBits = 0

/-- The last check of `kvm_set_cr4`, and the write. -/
def kvmSetCr4Checked (cr4 : BitVec 64) : Int × ControlRegs :=
  if cr4.getLsbD cr4Pcide ∧ ¬ s.pcide ∧ (env.cr3 &&& cr3PcidMask ≠ 0 ∨ ¬ s.isLongMode) then (1, s)
  else (0, svmSetCr4 s cr4)

/-- `kvm_set_cr4`. -/
def kvmSetCr4 (cr4 : BitVec 64) : Int × ControlRegs :=
  let oldCr4 := s.cr4
  if ¬ kvmIsValidCr4 env cr4 then (1, s)
  else if s.isLongMode then
    if ¬ cr4.getLsbD cr4Pae then (1, s)
    else if (cr4 ^^^ oldCr4).getLsbD cr4La57 then (1, s)
    else kvmSetCr4Checked env s cr4
  else if s.isPaging ∧ cr4.getLsbD cr4Pae ∧ (cr4 ^^^ oldCr4) &&& cr4PdptrBits ≠ 0 then
    let r := loadPdptrs env s
    if r.1 then kvmSetCr4Checked env r.2 cr4 else (1, r.2)
  else kvmSetCr4Checked env s cr4

/-- `__kvm_valid_efer`. -/
def kvmValidEferBits (efer : BitVec 64) : Bool :=
  if efer.getLsbD eferAutoibrs ∧ ¬ env.hasAutoibrs then false
  else if efer.getLsbD eferFfxsr ∧ ¬ env.hasFxsrOpt then false
  else if efer.getLsbD eferSvme ∧ ¬ env.hasSvm then false
  else if (efer.getLsbD eferLme ∨ efer.getLsbD eferLma) ∧ ¬ env.hasLm then false
  else if efer.getLsbD eferNx ∧ ¬ env.hasNx then false
  else true

/-- `set_efer`, of the guest. -/
def setEfer (data : BitVec 64) : Int × ControlRegs :=
  if data &&& env.eferReservedBits ≠ 0 then (1, s)
  else if ¬ kvmValidEferBits env data then (1, s)
  else if s.isPaging ∧ s.lme ≠ data.getLsbD eferLme then (1, s)
  else
    let efer := data &&& ~~~BitVec.twoPow 64 eferLma
    let efer := efer ||| (s.efer &&& BitVec.twoPow 64 eferLma)
    svmSetEfer env s efer

/-! ## Runs -/

/-- A write of the guest. -/
inductive CrWrite where
  | movCr0 (cr0 : BitVec 64)
  | lmsw (msw : BitVec 64)
  | movCr4 (cr4 : BitVec 64)
  | wrmsrEfer (data : BitVec 64)
  deriving DecidableEq

/-- One write, in its environment. -/
def crStep (s : ControlRegs) (w : CrWrite × CrEnv) : Int × ControlRegs :=
  match w.1 with
  | .movCr0 cr0 => kvmSetCr0 w.2 s cr0
  | .lmsw msw => kvmLmsw w.2 s msw
  | .movCr4 cr4 => kvmSetCr4 w.2 s cr4
  | .wrmsrEfer data => setEfer w.2 s data

/-- The registers behind `kvm_vcpu_reset`. -/
def resetRegs (pdptrs : Pdptes) : ControlRegs := ⟨0x60000010, 0, 0, pdptrs⟩

/-- The rules across the registers. -/
structure RegisterRules : Prop where
  lma : s.isLongMode = (s.lme && s.isPaging)
  pae : s.isLongMode = true → s.isPae = true
  pe : s.isPaging = true → s.cr0.getLsbD cr0Pe = true
  pcide : s.pcide = true → s.isLongMode = true

/-- A rejected write changes nothing. -/
def Atomic (s : ControlRegs) (w : CrWrite × CrEnv) : Prop :=
  (crStep s w).1 ≠ 0 → (crStep s w).2 = s

/-- The write is one of CR4 outside long mode that sets PCIDE, and that loads other PDPTEs before
PCIDE is looked at. -/
def LateReject (s : ControlRegs) (w : CrWrite × CrEnv) : Prop :=
  ∃ cr4, w.1 = .movCr4 cr4 ∧ kvmIsValidCr4 w.2 cr4 = true ∧ cr4.getLsbD cr4Pcide = true ∧
    s.isLongMode = false ∧ s.isPaging = true ∧ cr4.getLsbD cr4Pae = true ∧
    (cr4 ^^^ s.cr4) &&& cr4PdptrBits ≠ 0 ∧ ∃ pdpte, readPdptrs w.2 = some pdpte ∧ pdpte ≠ s.pdptrs

/-! ## What a write can do -/

section Writes

variable {env : CrEnv} {s : ControlRegs}

theorem loadPdptrs_some {pdpte : Pdptes} (h : readPdptrs env = some pdpte) :
    loadPdptrs env s = (true, { s with pdptrs := pdpte }) := by
  rw [loadPdptrs, h]

theorem loadPdptrs_none (h : readPdptrs env = none) : loadPdptrs env s = (false, s) := by
  rw [loadPdptrs, h]

@[simp] theorem svmSetCr0_cr0 (cr0 : BitVec 64) : (svmSetCr0 s cr0).cr0 = cr0 := rfl

@[simp] theorem svmSetCr0_cr4 (cr0 : BitVec 64) : (svmSetCr0 s cr0).cr4 = s.cr4 := by
  unfold svmSetCr0
  dsimp only
  split
  · split
    · split <;> rfl
    · split <;> rfl
  · rfl

/-- LMA follows LME and PG. -/
theorem svmSetCr0_lma (hs : s.isLongMode = (s.lme && s.isPaging)) (cr0 : BitVec 64) :
    (svmSetCr0 s cr0).isLongMode = (s.lme && cr0.getLsbD cr0Pg) := by
  unfold svmSetCr0
  cases hlme : s.lme <;> cases hpaging : s.isPaging <;> cases hpg : cr0.getLsbD cr0Pg <;>
    simp_all [ControlRegs.isLongMode, ControlRegs.isPaging, eferLma]

theorem svmSetCr0_lme (cr0 : BitVec 64) : (svmSetCr0 s cr0).lme = s.lme := by
  unfold svmSetCr0
  cases hlme : s.lme <;> cases hpaging : s.isPaging <;> cases hpg : cr0.getLsbD cr0Pg <;>
    simp_all [ControlRegs.lme, ControlRegs.isPaging, eferLma, eferLme]

/-- PG is valid only with PE, and neither is a reserved bit. -/
theorem kvmIsValidCr0_pe {cr0 : BitVec 64} (h : kvmIsValidCr0 cr0 = true)
    (hpg : cr0.getLsbD cr0Pg = true) : cr0.getLsbD cr0Pe = true := by
  unfold kvmIsValidCr0 at h
  split at h
  · cases h
  · split at h
    · cases h
    · split at h
      · cases h
      · rename_i hpe
        by_contra hno
        exact hpe ⟨hpg, hno⟩

theorem kvmSetCr0Checked_cases (env : CrEnv) (s : ControlRegs) (cr0 : BitVec 64) :
    (kvmSetCr0Checked env s cr0 = (1, s) ∧ cr0.getLsbD cr0Pg = false) ∨
    (kvmSetCr0Checked env s cr0 = (0, svmSetCr0 s cr0) ∧
      (s.pcide = true → cr0.getLsbD cr0Pg = true)) := by
  unfold kvmSetCr0Checked
  split
  · rename_i h
    exact .inl ⟨rfl, by simpa using h.1⟩
  · rename_i h
    refine .inr ⟨rfl, fun hpcide => ?_⟩
    by_contra hpg
    exact h ⟨hpg, .inr hpcide⟩

/-- **What `kvm_set_cr0` can do**: it rejects, and changes nothing; or it writes a value that the
rules admit, with the PDPTEs loaded or not. -/
theorem kvmSetCr0_cases (env : CrEnv) (s : ControlRegs) (cr0 : BitVec 64) :
    ((kvmSetCr0 env s cr0).1 ≠ 0 ∧ (kvmSetCr0 env s cr0).2 = s) ∨
    ∃ cr0' pdptrs, kvmSetCr0 env s cr0 = (0, svmSetCr0 { s with pdptrs := pdptrs } cr0') ∧
      (cr0'.getLsbD cr0Pg = true → cr0'.getLsbD cr0Pe = true) ∧
      (s.lme = true → s.isPaging = false → cr0'.getLsbD cr0Pg = true → s.isPae = true) ∧
      (s.pcide = true → cr0'.getLsbD cr0Pg = true) := by
  unfold kvmSetCr0
  extract_lets oldCr0 cr0' r
  by_cases hvalid : kvmIsValidCr0 cr0 = true
  · have hpe : cr0'.getLsbD cr0Pg = true → cr0'.getLsbD cr0Pe = true := by
      intro hpg
      have hcr0 := kvmIsValidCr0_pe hvalid
      simp [cr0', cr0ReservedBits, cr0Pg, cr0Pe, cr0Et] at hpg hcr0 ⊢
      exact hcr0 hpg
    rw [if_neg (not_not_intro hvalid)]
    by_cases henter : s.lme ∧ ¬ s.isPaging ∧ cr0'.getLsbD cr0Pg ∧ (¬ s.isPae ∨ env.csL)
    · rw [if_pos henter]
      exact .inl ⟨Int.one_ne_zero, rfl⟩
    · rw [if_neg henter]
      have hpae : s.lme = true → s.isPaging = false → cr0'.getLsbD cr0Pg = true →
          s.isPae = true := by
        intro hlme hpaging hpg
        by_contra hno
        exact henter ⟨hlme, by simp [hpaging], hpg, .inl hno⟩
      split
      · rename_i hload
        cases hread : readPdptrs env with
        | none =>
          have hr : r = (false, s) := loadPdptrs_none hread
          rw [hr]
          exact .inl ⟨Int.one_ne_zero, rfl⟩
        | some pdpte =>
          have hr : r = (true, { s with pdptrs := pdpte }) := loadPdptrs_some hread
          rw [hr]
          rcases kvmSetCr0Checked_cases env { s with pdptrs := pdpte } cr0' with
            ⟨-, hpg⟩ | ⟨hwrite, hpcide⟩
          · rw [hload.2.1] at hpg
            cases hpg
          · exact .inr ⟨cr0', pdpte, hwrite, hpe, hpae, hpcide⟩
      · rcases kvmSetCr0Checked_cases env s cr0' with ⟨hreject, -⟩ | ⟨hwrite, hpcide⟩
        · rw [hreject]
          exact .inl ⟨Int.one_ne_zero, rfl⟩
        · exact .inr ⟨cr0', s.pdptrs, hwrite, hpe, hpae, hpcide⟩
  · rw [if_pos hvalid]
    exact .inl ⟨Int.one_ne_zero, rfl⟩

theorem kvmSetCr4Checked_cases (env : CrEnv) (s : ControlRegs) (cr4 : BitVec 64) :
    (kvmSetCr4Checked env s cr4 = (1, s) ∧ cr4.getLsbD cr4Pcide = true ∧ s.pcide = false) ∨
    (kvmSetCr4Checked env s cr4 = (0, svmSetCr4 s cr4) ∧
      (cr4.getLsbD cr4Pcide = true → s.pcide = true ∨ s.isLongMode = true)) := by
  unfold kvmSetCr4Checked
  split
  · rename_i h
    exact .inl ⟨rfl, h.1, by simpa using h.2.1⟩
  · rename_i h
    refine .inr ⟨rfl, fun hset => ?_⟩
    by_contra hno
    rw [not_or] at hno
    exact h ⟨hset, hno.1, .inr hno.2⟩

/-- **What `kvm_set_cr4` can do**: it rejects, and changes nothing; or it rejects PCIDE behind the
load of the PDPTEs; or it writes. -/
theorem kvmSetCr4_cases (env : CrEnv) (s : ControlRegs) (cr4 : BitVec 64) :
    ((kvmSetCr4 env s cr4).1 ≠ 0 ∧ (kvmSetCr4 env s cr4).2 = s) ∨
    (∃ pdpte, kvmSetCr4 env s cr4 = (1, { s with pdptrs := pdpte }) ∧
      kvmIsValidCr4 env cr4 = true ∧ cr4.getLsbD cr4Pcide = true ∧ s.pcide = false ∧
      s.isLongMode = false ∧ s.isPaging = true ∧ cr4.getLsbD cr4Pae = true ∧
      (cr4 ^^^ s.cr4) &&& cr4PdptrBits ≠ 0 ∧ readPdptrs env = some pdpte) ∨
    ∃ pdptrs, kvmSetCr4 env s cr4 = (0, { s with cr4 := cr4, pdptrs := pdptrs }) ∧
      (s.isLongMode = true → cr4.getLsbD cr4Pae = true) ∧
      (cr4.getLsbD cr4Pcide = true → s.pcide = true ∨ s.isLongMode = true) := by
  unfold kvmSetCr4
  extract_lets oldCr4 r
  by_cases hvalid : kvmIsValidCr4 env cr4 = true
  · rw [if_neg (not_not_intro hvalid)]
    have hchecked : (s.isLongMode = true → cr4.getLsbD cr4Pae = true) →
        ((kvmSetCr4Checked env s cr4).1 ≠ 0 ∧ (kvmSetCr4Checked env s cr4).2 = s) ∨
        ∃ pdptrs, kvmSetCr4Checked env s cr4 = (0, { s with cr4 := cr4, pdptrs := pdptrs }) ∧
          (s.isLongMode = true → cr4.getLsbD cr4Pae = true) ∧
          (cr4.getLsbD cr4Pcide = true → s.pcide = true ∨ s.isLongMode = true) := by
      intro hpae
      rcases kvmSetCr4Checked_cases env s cr4 with ⟨hreject, -⟩ | ⟨hwrite, hpcide⟩
      · rw [hreject]
        exact .inl ⟨Int.one_ne_zero, rfl⟩
      · exact .inr ⟨s.pdptrs, hwrite, hpae, hpcide⟩
    by_cases hlong : s.isLongMode = true
    · rw [if_pos hlong]
      by_cases hpae : cr4.getLsbD cr4Pae = true
      · rw [if_neg (not_not_intro hpae)]
        split
        · exact .inl ⟨Int.one_ne_zero, rfl⟩
        · exact (hchecked fun _ => hpae).imp id .inr
      · rw [if_pos hpae]
        exact .inl ⟨Int.one_ne_zero, rfl⟩
    · rw [if_neg hlong]
      have hpae : s.isLongMode = true → cr4.getLsbD cr4Pae = true := fun h => absurd h hlong
      split
      · rename_i hload
        cases hread : readPdptrs env with
        | none =>
          have hr : r = (false, s) := loadPdptrs_none hread
          rw [hr]
          exact .inl ⟨Int.one_ne_zero, rfl⟩
        | some pdpte =>
          have hr : r = (true, { s with pdptrs := pdpte }) := loadPdptrs_some hread
          rw [hr]
          rcases kvmSetCr4Checked_cases env { s with pdptrs := pdpte } cr4 with
            ⟨hreject, hset, hpcide⟩ | ⟨hwrite, hpcide⟩
          · exact .inr (.inl ⟨pdpte, hreject, hvalid, hset, hpcide, by simpa using hlong, hload.1,
              hload.2.1, hload.2.2, rfl⟩)
          · exact .inr (.inr ⟨pdpte, hwrite, hpae, hpcide⟩)
      · exact (hchecked hpae).imp id .inr
  · rw [if_pos hvalid]
    exact .inl ⟨Int.one_ne_zero, rfl⟩

/-- **What `set_efer` can do**: it keeps LMA, and with paging LME. -/
theorem setEfer_cases (env : CrEnv) (s : ControlRegs) (data : BitVec 64) :
    ((setEfer env s data).1 ≠ 0 ∧ (setEfer env s data).2 = s) ∨
    ∃ efer, setEfer env s data = (0, { s with efer := efer }) ∧
      efer.getLsbD eferLma = s.isLongMode ∧ (s.isPaging = true → efer.getLsbD eferLme = s.lme) := by
  unfold setEfer
  extract_lets efer efer'
  split
  · exact .inl ⟨Int.one_ne_zero, rfl⟩
  · split
    · exact .inl ⟨Int.one_ne_zero, rfl⟩
    · split
      · exact .inl ⟨Int.one_ne_zero, rfl⟩
      · rename_i hlme
        unfold svmSetEfer
        split
        · rename_i hfail
          exact .inl ⟨hfail.2.2, rfl⟩
        · refine .inr ⟨efer', rfl, ?_, fun hpaging => ?_⟩
          · simp [efer', efer, eferLma, ControlRegs.isLongMode]
          · have hkeep : s.lme = data.getLsbD eferLme := by
              by_contra hno
              exact hlme ⟨hpaging, hno⟩
            simp [efer', efer, hkeep, eferLma, eferLme]

/-- The rejection of PCIDE comes behind the load. -/
theorem kvmSetCr4_late {cr4 : BitVec 64} {pdpte : Pdptes} (hvalid : kvmIsValidCr4 env cr4 = true)
    (hset : cr4.getLsbD cr4Pcide = true) (hpcide : s.pcide = false)
    (hlong : s.isLongMode = false) (hpaging : s.isPaging = true)
    (hpae : cr4.getLsbD cr4Pae = true) (hbits : (cr4 ^^^ s.cr4) &&& cr4PdptrBits ≠ 0)
    (hread : readPdptrs env = some pdpte) :
    kvmSetCr4 env s cr4 = (1, { s with pdptrs := pdpte }) := by
  have hlate : kvmSetCr4Checked env { s with pdptrs := pdpte } cr4 =
      (1, { s with pdptrs := pdpte }) := by
    refine if_pos ⟨hset, ?_, .inr ?_⟩
    · show ¬ s.pcide = true
      rw [hpcide]
      exact Bool.false_ne_true
    · show ¬ s.isLongMode = true
      rw [hlong]
      exact Bool.false_ne_true
  unfold kvmSetCr4
  dsimp only
  rw [if_neg (not_not_intro hvalid), hlong, if_neg Bool.false_ne_true,
    if_pos ⟨hpaging, hpae, hbits⟩, loadPdptrs_some hread, if_pos rfl, hlate]

end Writes

/-! ## The rules -/

section Rules

variable {s : ControlRegs}

theorem RegisterRules.withPdptrs (hs : RegisterRules s) (pdptrs : Pdptes) :
    RegisterRules { s with pdptrs := pdptrs } := ⟨hs.lma, hs.pae, hs.pe, hs.pcide⟩

theorem svmSetCr0_rules (hs : RegisterRules s) {cr0 : BitVec 64}
    (hpe : cr0.getLsbD cr0Pg = true → cr0.getLsbD cr0Pe = true)
    (hpae : s.lme = true → s.isPaging = false → cr0.getLsbD cr0Pg = true → s.isPae = true)
    (hpcide : s.pcide = true → cr0.getLsbD cr0Pg = true) : RegisterRules (svmSetCr0 s cr0) where
  lma := by
    rw [svmSetCr0_lma hs.lma, svmSetCr0_lme]
    rfl
  pae := by
    rw [svmSetCr0_lma hs.lma, ControlRegs.isPae, svmSetCr0_cr4, Bool.and_eq_true]
    rintro ⟨hlme, hpg⟩
    cases hpaging : s.isPaging with
    | true => exact hs.pae (by rw [hs.lma, hlme, hpaging]; rfl)
    | false => exact hpae hlme hpaging hpg
  pe := hpe
  pcide := by
    rw [svmSetCr0_lma hs.lma, ControlRegs.pcide, svmSetCr0_cr4]
    intro hset
    have hlong := hs.pcide hset
    rw [hs.lma, Bool.and_eq_true] at hlong
    rw [hlong.1, hpcide hset]
    rfl

theorem kvmSetCr0_rules (hs : RegisterRules s) (env : CrEnv) (cr0 : BitVec 64) :
    RegisterRules (kvmSetCr0 env s cr0).2 := by
  rcases kvmSetCr0_cases env s cr0 with ⟨-, heq⟩ | ⟨cr0', pdptrs, heq, hpe, hpae, hpcide⟩
  · rw [heq]
    exact hs
  · rw [heq]
    exact svmSetCr0_rules (hs.withPdptrs pdptrs) hpe hpae hpcide

/-- **Every write keeps the rules.** -/
theorem crStep_rules (hs : RegisterRules s) (w : CrWrite × CrEnv) :
    RegisterRules (crStep s w).2 := by
  obtain ⟨write, env⟩ := w
  cases write with
  | movCr0 cr0 => exact kvmSetCr0_rules hs env cr0
  | lmsw msw => exact kvmSetCr0_rules hs env _
  | movCr4 cr4 =>
    show RegisterRules (kvmSetCr4 env s cr4).2
    rcases kvmSetCr4_cases env s cr4 with ⟨-, heq⟩ | ⟨pdpte, heq, -⟩ | ⟨pdptrs, heq, hpae, hpcide⟩
    · rw [heq]
      exact hs
    · rw [heq]
      exact hs.withPdptrs pdpte
    · rw [heq]
      exact ⟨hs.lma, hpae, hs.pe, fun hset => (hpcide hset).elim hs.pcide id⟩
  | wrmsrEfer data =>
    show RegisterRules (setEfer env s data).2
    rcases setEfer_cases env s data with ⟨-, heq⟩ | ⟨efer, heq, hlma, hlme⟩
    · rw [heq]
      exact hs
    · rw [heq]
      have hlong : ControlRegs.isLongMode { s with efer := efer } = s.isLongMode := hlma
      refine ⟨?_, ?_, hs.pe, ?_⟩
      · show efer.getLsbD eferLma = (efer.getLsbD eferLme && s.isPaging)
        rw [hlma, hs.lma]
        cases hpaging : s.isPaging with
        | true => rw [hlme hpaging]
        | false => rw [Bool.and_false, Bool.and_false]
      · rw [hlong]
        exact hs.pae
      · rw [hlong]
        exact hs.pcide

/-- A write is atomic exactly when it is no late rejection. -/
theorem atomic_iff (hs : RegisterRules s) (w : CrWrite × CrEnv) :
    Atomic s w ↔ ¬ LateReject s w := by
  obtain ⟨write, env⟩ := w
  constructor
  · rintro hatomic ⟨cr4, rfl, hvalid, hset, hlong, hpaging, hpae, hbits, pdpte, hread, hne⟩
    have hpcide : s.pcide = false := by
      by_contra hno
      rw [Bool.not_eq_false] at hno
      rw [hs.pcide hno] at hlong
      cases hlong
    have heq : crStep s (.movCr4 cr4, env) = (1, { s with pdptrs := pdpte }) :=
      kvmSetCr4_late hvalid hset hpcide hlong hpaging hpae hbits hread
    rw [Atomic, heq] at hatomic
    exact hne (congrArg ControlRegs.pdptrs (hatomic Int.one_ne_zero))
  · intro hno hreject
    cases write with
    | movCr0 cr0 =>
      rcases kvmSetCr0_cases env s cr0 with ⟨-, heq⟩ | ⟨cr0', pdptrs, heq, -⟩
      · exact heq
      · exact absurd (congrArg Prod.fst heq) hreject
    | lmsw msw =>
      rcases kvmSetCr0_cases env s ((s.cr0 &&& ~~~0xe) ||| (msw &&& 0xf)) with
        ⟨-, heq⟩ | ⟨cr0', pdptrs, heq, -⟩
      · exact heq
      · exact absurd (congrArg Prod.fst heq) hreject
    | movCr4 cr4 =>
      rcases kvmSetCr4_cases env s cr4 with
        ⟨-, heq⟩ | ⟨pdpte, heq, hvalid, hset, hpcide, hlong, hpaging, hpae, hbits, hread⟩ |
        ⟨pdptrs, heq, -⟩
      · exact heq
      · have hsame : pdpte = s.pdptrs := by
          by_contra hne
          exact hno ⟨cr4, rfl, hvalid, hset, hlong, hpaging, hpae, hbits, pdpte, hread, hne⟩
        show (kvmSetCr4 env s cr4).2 = s
        rw [heq, hsame]
      · exact absurd (congrArg Prod.fst heq) hreject
    | wrmsrEfer data =>
      rcases setEfer_cases env s data with ⟨-, heq⟩ | ⟨efer, heq, -⟩
      · exact heq
      · exact absurd (congrArg Prod.fst heq) hreject

theorem resetRegs_rules (pdptrs : Pdptes) : RegisterRules (resetRegs pdptrs) where
  lma := by simp [resetRegs, ControlRegs.isLongMode, ControlRegs.lme]
  pae := by simp [resetRegs, ControlRegs.isLongMode]
  pe := by simp [resetRegs, ControlRegs.isPaging, cr0Pg]
  pcide := by simp [resetRegs, ControlRegs.pcide]

end Rules

/-- **The rules hold behind every write of every run from reset**, and its rejected writes change
nothing exactly when none of them is a late rejection. -/
theorem controlRegs_atomic_iff (pdptrs : Pdptes) (ws : List (CrWrite × CrEnv)) :
    RegisterRules (Runs.final crStep (resetRegs pdptrs) ws) ∧
      (Runs.Each crStep Atomic (resetRegs pdptrs) ws ↔
        Runs.Each crStep (fun s w => ¬ LateReject s w) (resetRegs pdptrs) ws) := by
  have hstart := resetRegs_rules pdptrs
  refine ⟨Runs.final_induct (I := RegisterRules) (fun s w hs => crStep_rules hs w) ws hstart, ?_⟩
  exact Runs.each_congr (fun s w hs => crStep_rules hs w) (fun s w hs => atomic_iff hs w) ws hstart

/-- A guest page with these PDPTEs, wherever it is read. -/
def pdptePage (pdpte : Pdptes) : CrEnv := { readGuestPage := fun _ _ => some pdpte }

/-- Paging with PAE outside long mode; then the guest changes the PDPTEs in memory, and sets PGE
and PCIDE in one write. -/
theorem pcideRejectedLate :
    ¬ Runs.Each crStep Atomic (resetRegs (.replicate 4 0))
      [(.movCr4 0x20, pdptePage (.replicate 4 0)), (.movCr0 0x80000011, pdptePage (.replicate 4 0)),
        (.movCr4 0x200a0, pdptePage (.replicate 4 0x1001))] := by
  intro h
  have hlast := h.2.2.1 (by decide)
  have hpdptrs := congrArg ControlRegs.pdptrs hlast
  exact absurd hpdptrs (by decide)

end Kvm
