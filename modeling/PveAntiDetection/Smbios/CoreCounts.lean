import PveAntiDetection.Smbios.Caches
import PveAntiDetection.Smbios.Parse
import PveAntiDetection.Smbios.Refinement

/-!
# Core and thread counts of type 4

`smbios_build_type_4_table` stores both counts in a byte, where 0xFF stands for a count in a 16-bit
field that only the 64-bit entry point has.

* `countsOf` — the counts that a reader takes from a structure;
* `countsRight_iff` — the builder tells the counts or fails, but fails at exactly 255 too, which the
  byte could hold; `fullByteRejected` is a machine with 255 cores.
-/

set_option autoImplicit false

namespace Smbios

open Bytes Records

variable {h : Host} {ep : SmbiosEntryPointType} {ms : Machine} {o : Options} {s : State} {i : Nat}

/-! ## Reading a type 4 structure -/

/-- The count at a byte, or at the 16-bit member that extends it if the byte is 0xFF and the
structure is long enough. -/
def countOf (fmt : List UInt8) (byte extended : SmbiosType4) : Nat :=
  if memberValue fmt byte = 0xFF ∧ offsetofend extended ≤ fmt.length then memberValue fmt extended
  else memberValue fmt byte

/-- The cores and the threads of a socket. -/
def countsOf (fmt : List UInt8) : Nat × Nat :=
  (countOf fmt .coreCount .coreCount2, countOf fmt .threadCount .threadCount2)

/-! ## What the builder does -/

/-- The builder appends one structure, of type 4 with the counts `c`. -/
def EmitsCounts (h : Host) (ep : SmbiosEntryPointType) (ms : Machine) (i : Nat) (s : State)
    (c : Nat × Nat) : Prop :=
  ∃ s' x, smbiosBuildType4Table h ep ms i s = .ok () s' ∧ s'.bld.errp = none ∧
    parseStructure (s'.bld.buf.bytes.drop s.bld.buf.bytes.length) = some (x, []) ∧ x.type = 4 ∧
      countsOf x.formatted = c

/-- The builder reports an error. -/
def Type4Fails (h : Host) (ep : SmbiosEntryPointType) (ms : Machine) (i : Nat) (s : State) : Prop :=
  ∃ s' e, smbiosBuildType4Table h ep ms i s = .ok () s' ∧ s'.bld.errp = some e

/-- The builder tells the counts or fails, and for the 32-bit entry point fails exactly if a count
exceeds 255. -/
structure CountsRight (h : Host) (ep : SmbiosEntryPointType) (ms : Machine) (i : Nat) (s : State) :
    Prop where
  told : EmitsCounts h ep ms i s (ms.coresPerSocket.toNat, ms.threadsPerSocket.toNat) ∨
    Type4Fails h ep ms i s
  fails : ep = .type32 → (Type4Fails h ep ms i s ↔
    255 < ms.coresPerSocket.toNat ∨ 255 < ms.threadsPerSocket.toNat)

theorem countsSaturated_iff : countsSaturated ms = true ↔
    255 ≤ ms.coresPerSocket.toNat ∨ 255 ≤ ms.threadsPerSocket.toNat := by
  have hbyte : ∀ n, byteCount n = 0xFF ↔ 255 ≤ n := by
    intro n
    unfold byteCount
    split <;> omega
  unfold countsSaturated
  simp only [Bool.or_eq_true, beq_iff_eq, hbyte]

/-- **The builder fails exactly if** the entry point is not the 64-bit one and a count fills its
byte. -/
theorem type4Fails_iff (hh : h.Contract) (hskip : smbiosSkipTable s.opts 4 true = false)
    (herrp : s.bld.errp = none) : Type4Fails h ep ms i s ↔
      ep ≠ .type64 ∧ countsSaturated ms = true := by
  have hrun := @does_type4 h ep ms s.opts hh hskip i s.bld herrp s.ep
  have hhalt := type4Table_halt s.opts ms ep i
  have hreport : (s.bld.next (h.fresh ep) (type4Table s.opts ms ep i)).errp =
      (type4Table s.opts ms ep i).report := by
    simp only [Build.next, herrp, Option.none_or]
  constructor
  · rintro ⟨s', e, hs', he⟩
    rw [hrun, EStateM.Result.ok.injEq] at hs'
    obtain ⟨-, rfl⟩ := hs'
    rw [hreport] at he
    split at hhalt
    · rename_i hcond
      simpa using hcond
    · simp [Table.report, hhalt] at he
  · rintro ⟨hep, hsat⟩
    have hcond : (ep != .type64 && countsSaturated ms) = true := by simp [hep, hsat]
    rw [if_pos hcond] at hhalt
    refine ⟨_, .type4Unrepresentable, hrun, ?_⟩
    rw [hreport]
    simp only [Table.report, hhalt]

/-- A builder that does not fail appends its structure. -/
theorem emitsCounts_of (hh : h.Contract) (hskip : smbiosSkipTable s.opts 4 true = false)
    (herrp : s.bld.errp = none) (hhalt : (type4Table s.opts ms ep i).halt = none) :
    EmitsCounts h ep ms i s (countsOf ((type4Table s.opts ms ep i).formatted (h.fresh ep)
      s.bld.buf.bytes.length)) := by
  have hrun := @does_type4 h ep ms s.opts hh hskip i s.bld herrp s.ep
  have hout : (type4Table s.opts ms ep i).out (h.fresh ep) s.bld.buf.bytes.length =
      (type4Table s.opts ms ep i).encode (h.fresh ep) s.bld.buf.bytes.length := by
    simp only [Table.out, hhalt]
  have hparse := (parseStructure_encode (h.fresh ep) s.bld.buf.bytes.length
    (type4Table s.opts ms ep i)).2 []
  rw [List.append_nil] at hparse
  refine ⟨_, (type4Table s.opts ms ep i).parsed (h.fresh ep) s.bld.buf.bytes.length, hrun, ?_, ?_,
    type4Table_type s.opts ms ep i, rfl⟩
  · simp only [Build.next, herrp, Option.none_or, Table.report, hhalt]
  · simp only [Build.next, Build.after, Build.push, TableBuf.after_bytes]
    rw [List.drop_left, hout]
    exact hparse

/-! ## The counts of the two tables -/

theorem countsOf_type4TableV30 (fresh : Nat → UInt8) (off : Nat)
    (hcores : ms.coresPerSocket.toNat < 2 ^ 16) (hthreads : ms.threadsPerSocket.toNat < 2 ^ 16) :
    countsOf ((type4TableV30 o ms i).formatted fresh off) =
      (ms.coresPerSocket.toNat, ms.threadsPerSocket.toNat) := by
  have hlen : (type4TableV30 o ms i).len = SMBIOS_TYPE_4_LEN_V30 := rfl
  have hboth : offsetofend SmbiosType4.coreCount2 ≤ SMBIOS_TYPE_4_LEN_V30 ∧
      offsetofend SmbiosType4.threadCount2 ≤ SMBIOS_TYPE_4_LEN_V30 := by decide
  -- a count below 255 is in the byte, any other in the 16-bit member
  have hcount : ∀ n, n < 2 ^ 16 →
      (if byteCount n % 256 ^ 1 = 0xFF ∧ True then n % 256 ^ 2 else byteCount n % 256 ^ 1) = n := by
    intro n hn
    unfold byteCount
    simp only [and_true]
    split <;> split <;> omega
  unfold countsOf countOf
  rw [Table.length_formatted, hlen]
  unfold type4TableV30
  rw [memberValue_tableOf (f := SmbiosType4.coreCount)
      (n := byteCount ms.coresPerSocket.toNat) rfl,
    memberValue_tableOf (f := SmbiosType4.coreCount2) (n := ms.coresPerSocket.toNat) rfl,
    memberValue_tableOf (f := SmbiosType4.threadCount)
      (n := byteCount ms.threadsPerSocket.toNat) rfl,
    memberValue_tableOf (f := SmbiosType4.threadCount2) (n := ms.threadsPerSocket.toNat) rfl]
  simp only [hboth.1, hboth.2]
  exact Prod.ext (hcount _ hcores) (hcount _ hthreads)

/-- The byte of a count in the shorter table. -/
theorem memberValue_type4TableV28 {f : SmbiosType4} {n : Nat}
    (hlast : lastStored f 0 (type4Body o ms) = some (le (PackedStruct.sizeofField f) n))
    (fresh : Nat → UInt8) (off : Nat) :
    memberValue ((type4TableV28 o ms i).formatted fresh off) f =
      n % 256 ^ PackedStruct.sizeofField f := by
  have hlen : (headerBytes 4 SMBIOS_TYPE_4_LEN_V28 (T4_BASE + i) ++
      freshBytes fresh (off + headerSize) (SMBIOS_TYPE_4_LEN_V28 - headerSize)).length =
        SMBIOS_TYPE_4_LEN_V28 := by
    rw [List.length_append, length_headerBytes, length_freshBytes]
    decide
  have hread := memberBytes_formatStmts f (type4Body o ms) 0
    (headerBytes 4 SMBIOS_TYPE_4_LEN_V28 (T4_BASE + i) ++
      freshBytes fresh (off + headerSize) (SMBIOS_TYPE_4_LEN_V28 - headerSize)) fun a ha => by
    rw [hlen]
    exact type4Body_inBounds o ms _ (List.mem_map_of_mem ha)
  rw [hlast, Option.getD_some] at hread
  unfold memberValue
  exact (congrArg ofLe hread).trans (ofLe_le _ n)

/-- The shorter table has no 16-bit members. -/
theorem countsOf_type4TableV28 (fresh : Nat → UInt8) (off : Nat)
    (hcores : ms.coresPerSocket.toNat ≤ 255) (hthreads : ms.threadsPerSocket.toNat ≤ 255) :
    countsOf ((type4TableV28 o ms i).formatted fresh off) =
      (ms.coresPerSocket.toNat, ms.threadsPerSocket.toNat) := by
  have hlen : (type4TableV28 o ms i).len = SMBIOS_TYPE_4_LEN_V28 := rfl
  have hnone : ¬offsetofend SmbiosType4.coreCount2 ≤ SMBIOS_TYPE_4_LEN_V28 ∧
      ¬offsetofend SmbiosType4.threadCount2 ≤ SMBIOS_TYPE_4_LEN_V28 := by decide
  have hcount : ∀ n, n ≤ 255 → byteCount n % 256 ^ 1 = n := by
    intro n hn
    unfold byteCount
    split <;> omega
  have hcore := @memberValue_type4TableV28 ms o i SmbiosType4.coreCount
    (byteCount ms.coresPerSocket.toNat) rfl fresh off
  have hthread := @memberValue_type4TableV28 ms o i SmbiosType4.threadCount
    (byteCount ms.threadsPerSocket.toNat) rfl fresh off
  unfold countsOf countOf
  rw [Table.length_formatted, hlen, hcore, hthread, if_neg (fun hlong => hnone.1 hlong.2),
    if_neg (fun hlong => hnone.2 hlong.2)]
  exact Prod.ext (hcount _ hcores) (hcount _ hthreads)

/-! ## The exact condition -/

/-- Counts below 2^16 are told, unless the builder fails. -/
theorem told_or_fails (hh : h.Contract) (hskip : smbiosSkipTable s.opts 4 true = false)
    (herrp : s.bld.errp = none) (hcores : ms.coresPerSocket.toNat < 2 ^ 16)
    (hthreads : ms.threadsPerSocket.toNat < 2 ^ 16) :
    EmitsCounts h ep ms i s (ms.coresPerSocket.toNat, ms.threadsPerSocket.toNat) ∨
      Type4Fails h ep ms i s := by
  rw [type4Fails_iff hh hskip herrp]
  have hhalt := type4Table_halt s.opts ms ep i
  by_cases hep : ep = .type64
  · left
    have hcond : ¬(ep != .type64 && countsSaturated ms) = true := by simp [hep]
    rw [if_neg hcond] at hhalt
    have hemits := emitsCounts_of hh hskip herrp hhalt
    rw [type4Table, if_pos hep, countsOf_type4TableV30 _ _ hcores hthreads] at hemits
    exact hemits
  · cases hsat : countsSaturated ms with
    | true => exact .inr ⟨hep, rfl⟩
    | false =>
      left
      have hcond : ¬(ep != .type64 && countsSaturated ms) = true := by simp [hsat]
      have hsmall : ¬(255 ≤ ms.coresPerSocket.toNat ∨ 255 ≤ ms.threadsPerSocket.toNat) := by
        rw [← countsSaturated_iff, hsat]
        exact Bool.false_ne_true
      rw [if_neg hcond] at hhalt
      have hemits := emitsCounts_of hh hskip herrp hhalt
      rw [type4Table, if_neg hep, countsOf_type4TableV28 _ _ (by omega) (by omega)] at hemits
      exact hemits

/-- **The builder does what it should with counts below 2^16 exactly if** the entry point is the
64-bit one, no count is 255, or one of them exceeds it. -/
theorem countsRight_iff (hh : h.Contract) (hep : ep ≠ .auto)
    (hskip : smbiosSkipTable s.opts 4 true = false) (herrp : s.bld.errp = none)
    (hcores : ms.coresPerSocket.toNat < 2 ^ 16) (hthreads : ms.threadsPerSocket.toNat < 2 ^ 16) :
    CountsRight h ep ms i s ↔ ep = .type64 ∨
      (ms.coresPerSocket.toNat ≠ 255 ∧ ms.threadsPerSocket.toNat ≠ 255) ∨
        255 < ms.coresPerSocket.toNat ∨ 255 < ms.threadsPerSocket.toNat := by
  have hfails := @type4Fails_iff h ep ms s i hh hskip herrp
  rw [countsSaturated_iff] at hfails
  constructor
  · intro hright
    cases ep with
    | auto => exact absurd rfl hep
    | type64 => exact .inl rfl
    | type32 =>
      have hexact := hfails.symm.trans (hright.fails rfl)
      simp only [ne_eq, reduceCtorEq, not_false_eq_true, true_and] at hexact
      omega
  · intro hcond
    refine ⟨told_or_fails hh hskip herrp hcores hthreads, ?_⟩
    rintro rfl
    rw [hfails]
    simp only [ne_eq, reduceCtorEq, not_false_eq_true, true_and, false_or] at hcond ⊢
    omega

theorem countsRight_iff_large : CountsRight .plain .type64 (.withCores 300) 0 .bare ↔
    SmbiosEntryPointType.type64 = .type64 ∨
      ((Machine.withCores 300).coresPerSocket.toNat ≠ 255 ∧
        (Machine.withCores 300).threadsPerSocket.toNat ≠ 255) ∨
        255 < (Machine.withCores 300).coresPerSocket.toNat ∨
          255 < (Machine.withCores 300).threadsPerSocket.toNat :=
  countsRight_iff Host.plain_contract (by decide) (by decide) rfl (by decide) (by decide)

/-- 255 cores and 1 thread fit their bytes, and the 32-bit entry point rejects them. -/
theorem fullByteRejected : (Machine.withCores 255).coresPerSocket.toNat = 255 ∧
    (Machine.withCores 255).threadsPerSocket.toNat = 1 ∧
    Type4Fails .plain .type32 (.withCores 255) 0 .bare ∧
    ¬CountsRight .plain .type32 (.withCores 255) 0 .bare := by
  have hfails : Type4Fails .plain .type32 (.withCores 255) 0 .bare :=
    (type4Fails_iff Host.plain_contract (by decide) rfl).mpr ⟨by decide, by decide⟩
  refine ⟨by decide, by decide, hfails, fun hright => ?_⟩
  have hover := (hright.fails rfl).mp hfails
  exact absurd hover (by decide)

end Smbios
