import PveAntiDetection.Smbios.BlobAccount

/-!
# The fields of the 32-bit entry point

`structure_table_length`, `max_structure_size` and `number_of_structures` have 16 bits.
`smbios_validate_table` checks the length of the tables only.

* `Bounded` — the largest structure fits into the tables, and every counted one takes at least a
  header; every table keeps it (`bounded_next`), and so does every file (`Blobs.bounded`);
* `entryPoint_exact` — no field of a published 32-bit entry point is truncated.
-/

set_option autoImplicit false

namespace Smbios

open Runs

variable {h : Host} {ms : Machine} {s s' : State}

/-! ## Bounds on the counters -/

/-- The length of the tables bounds the other two counters. -/
structure Bounded (buf : TableBuf) : Prop where
  max : buf.tableMax ≤ buf.bytes.length
  cnt : headerSize * buf.tableCnt ≤ buf.bytes.length

theorem Table.headerSize_le_out (fresh : Nat → UInt8) (off : Nat) (t : Table) :
    headerSize ≤ (t.out fresh off).length := by
  have hle := t.header_le
  rw [Table.length_out, Table.outLength]
  split <;> omega

theorem bounded_append {buf : TableBuf} (hb : Bounded buf) (bs : List UInt8) :
    Bounded (buf.append bs) := by
  have hmax := hb.max
  have hcnt := hb.cnt
  constructor
  · simp only [TableBuf.append, List.length_append]
    omega
  · simp only [TableBuf.append, List.length_append]
    omega

/-- Counting a structure that is in the tables. -/
theorem bounded_count {buf : TableBuf} (hb : Bounded buf) {size : Nat}
    (hsize : size ≤ buf.bytes.length)
    (hroom : headerSize * (buf.tableCnt + 1) ≤ buf.bytes.length) : Bounded (buf.count size) := by
  constructor
  · have hmax := hb.max
    have hmod := Nat.mod_le size (2 ^ 32)
    show (if size > buf.tableMax then size % 2 ^ 32 else buf.tableMax) ≤ buf.bytes.length
    by_cases hlong : size > buf.tableMax
    · rw [if_pos hlong]
      omega
    · rw [if_neg hlong]
      exact hmax
  · have hmod := Nat.mod_le (buf.tableCnt + 1) (2 ^ 32)
    exact Nat.le_trans (Nat.mul_le_mul_left headerSize hmod) hroom

/-- A table keeps the bounds, whether it reaches POST or not. -/
theorem bounded_after {buf : TableBuf} (hb : Bounded buf) (fresh : Nat → UInt8) (t : Table) :
    Bounded (buf.after fresh t) := by
  have hcnt := hb.cnt
  have hout := t.headerSize_le_out fresh buf.bytes.length
  have happend := bounded_append hb (t.out fresh buf.bytes.length)
  unfold TableBuf.after
  split
  · apply bounded_count happend
    · simp only [TableBuf.append, List.length_append]
      omega
    · simp only [TableBuf.append, List.length_append, Nat.mul_add, Nat.mul_one]
      omega
  · exact happend

/-- **Every table of a pass keeps the bounds.** -/
theorem bounded_ran (fresh : Nat → UInt8) : ∀ (ts : List Table) {b : Build}, Bounded b.buf →
    Bounded (b.ran fresh ts).buf
  | [], _, hb => hb
  | t :: ts, b, hb => by
    have hnext : Bounded (b.next fresh t).buf := bounded_after hb fresh t
    exact bounded_ran fresh ts hnext

theorem largest_le_flatten (bs : List (List UInt8)) : largest bs ≤ bs.flatten.length := by
  induction bs with
  | nil => exact Nat.le_refl 0
  | cons b bs ih =>
    simp only [largest, List.map_cons, List.foldr_cons, List.flatten_cons,
      List.length_append] at ih ⊢
    omega

theorem headers_le_flatten {bs : List (List UInt8)} (hbs : ∀ b ∈ bs, headerSize ≤ b.length) :
    headerSize * bs.length ≤ bs.flatten.length := by
  induction bs with
  | nil => exact Nat.le_refl 0
  | cons b bs ih =>
    have hb := hbs b (List.mem_cons_self ..)
    have hrest := ih fun c hc => hbs c (List.mem_cons_of_mem _ hc)
    simp only [List.length_cons, List.flatten_cons, List.length_append, Nat.mul_add, Nat.mul_one]
    omega

/-- A pass starts within the bounds. -/
theorem Blobs.bounded {o : Options} {bs : List (List UInt8)} (hv : Blobs o.blobVars bs) :
    Bounded (Build.start o).buf := by
  have huser : o.userBlob = bs.flatten := hv.bytes
  have hmax : o.usrTableMax ≤ largest bs := hv.max_le
  have hcnt : o.usrTableCnt = bs.length % 2 ^ 32 := hv.cnt
  have hlarge := largest_le_flatten bs
  have hheaders := headers_le_flatten hv.headers
  have hmod := Nat.mod_le bs.length (2 ^ 32)
  constructor
  · show o.usrTableMax ≤ o.userBlob.length
    rw [huser]
    omega
  · show headerSize * o.usrTableCnt ≤ o.userBlob.length
    rw [huser, hcnt]
    exact Nat.le_trans (Nat.mul_le_mul_left headerSize hmod) hheaders

/-! ## The published entry point -/

/-- **No field of a published 32-bit entry point is truncated**, and in every state of the build
the length of the tables bounds the other two counters. -/
theorem entryPoint_exact {Q : Type} (qo : QemuOption Q) (cs : List (Call Q)) (hh : h.Contract)
    {p : Published}
    (hrun : smbiosGetTablesEp h .type32 ms (final (configure qo) {} cs) = .ok (some p) s') :
    (∃ e, p.anchor = .ep21 e ∧ e.structureTableLength = s'.bld.buf.bytes.length ∧
      e.maxStructureSize = s'.bld.buf.tableMax ∧ e.numberOfStructures = s'.bld.buf.tableCnt) ∧
    ∀ ts, ts <+: s'.bld.started →
      Bounded ((Build.start (final (configure qo) {} cs).opts).ran (h.fresh .type32) ts).buf := by
  have hstart := (blobs_of_run qo cs).bounded
  have hpub := publishes_of_run hh hrun
  obtain ⟨hbld, rfl⟩ := planned_of_run hh hrun
  have hplanned : Bounded s'.bld.buf := by
    rw [hbld]
    exact bounded_ran _ _ hstart
  have hlen : s'.bld.buf.bytes.length ≤ SMBIOS_21_MAX_TABLES_LEN := by
    rw [hbld, planned_length]
    exact Nat.le_of_not_lt fun hlong => hpub.fits ⟨rfl, hlong⟩
  have hmax := hplanned.max
  have hcnt := hplanned.cnt
  have hlt : s'.bld.buf.bytes.length < 2 ^ 16 := by
    unfold SMBIOS_21_MAX_TABLES_LEN at hlen
    omega
  have hone : s'.bld.buf.tableCnt ≤ headerSize * s'.bld.buf.tableCnt :=
    Nat.le_mul_of_pos_left _ (by decide)
  refine ⟨⟨entryPoint21 s'.bld.buf, ?_, ?_, ?_, ?_⟩, fun ts _ => bounded_ran _ ts hstart⟩
  · rw [← hbld]
    rfl
  · exact Nat.mod_eq_of_lt hlt
  · exact Nat.mod_eq_of_lt (by omega)
  · exact Nat.mod_eq_of_lt (by omega)

/-- A file with a structure of type 11, and the defaults. -/
def stringsCalls : List (Call OptionList) :=
  [fileEntry [11, 4, 0, 1, 0, 0], .setDefaults (some (lit "QEMU")) none none]

theorem publishes_strings :
    Publishes .plain .type32 .small (final (configure .reference) {} stringsCalls).opts where
  notAuto := by decide
  sockets := by decide
  accepted := by decide +kernel
  hold := by
    apply assertionsHold_small
    have hnil : (final (configure .reference) {} stringsCalls).opts.type11 = [] := rfl
    intro hskip block hmem
    rw [hnil] at hmem
    cases hmem
  once := .inl rfl
  fits := by
    rintro ⟨-, hlong⟩
    revert hlong
    decide +kernel

theorem entryPoint_exact_strings :
    ∃ e s', (∃ p, smbiosGetTablesEp .plain .type32 .small
        (final (configure .reference) {} stringsCalls) = .ok (some p) s' ∧ p.anchor = .ep21 e) ∧
      e.structureTableLength = s'.bld.buf.bytes.length ∧
      e.maxStructureSize = s'.bld.buf.tableMax ∧ e.numberOfStructures = s'.bld.buf.tableCnt := by
  have hrun := run_of_publishes Host.plain_contract publishes_strings
  obtain ⟨e, hanchor, hfields⟩ :=
    (entryPoint_exact .reference stringsCalls Host.plain_contract hrun).1
  exact ⟨e, _, ⟨_, hrun, hanchor⟩, hfields⟩

end Smbios
