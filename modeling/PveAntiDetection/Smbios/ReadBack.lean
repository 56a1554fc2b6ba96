import PveAntiDetection.Smbios.BlobAccount
import PveAntiDetection.Smbios.Errors
import PveAntiDetection.Smbios.StringNumbers

/-!
# Reading the published tables back

* `ReadsBack` — the published tables are the user blobs and then the built structures, and
  `smbios_table_cnt` and `smbios_table_max` count them;
* `readsBack_iff` — they are exactly when both counters hold the sizes and numbers;
* `hugeStructureMiscounted` — a user blob that is too long for `usr_table_max`.
-/

set_option autoImplicit false

namespace Smbios

open Bytes Records Runs

variable {h : Host} {ep : SmbiosEntryPointType} {ms : Machine} {o : Options} {s s' : State}

/-! ## The counters -/

theorem ran_tableCnt (fresh : Nat → UInt8) : ∀ (ts : List Table) {b : Build},
    b.buf.tableCnt < 2 ^ 32 → (∀ t ∈ ts, t.halt = none) →
    (b.ran fresh ts).buf.tableCnt = (b.buf.tableCnt + ts.length) % 2 ^ 32
  | [], _, hlt, _ => (Nat.mod_eq_of_lt hlt).symm
  | t :: ts, b, _, hc => by
    have hnext : (b.next fresh t).buf.tableCnt = (b.buf.tableCnt + 1) % 2 ^ 32 := by
      show (b.buf.after fresh t).tableCnt = _
      unfold TableBuf.after
      rw [hc t (List.mem_cons_self ..)]
      rfl
    have ih := ran_tableCnt fresh ts (b := b.next fresh t) (by rw [hnext]; omega)
      fun u hu => hc u (List.mem_cons_of_mem _ hu)
    rw [show b.ran fresh (t :: ts) = (b.next fresh t).ran fresh ts from rfl, ih, hnext,
      List.length_cons]
    omega

/-- The buffer behind a complete table. -/
theorem next_tableMax (fresh : Nat → UInt8) {t : Table} (hc : t.halt = none) (b : Build) :
    (b.next fresh t).buf.tableMax =
      if t.outLength > b.buf.tableMax then t.outLength % 2 ^ 32 else b.buf.tableMax := by
  show (b.buf.after fresh t).tableMax = _
  unfold TableBuf.after
  rw [hc]
  simp only [TableBuf.count, TableBuf.append, Table.length_out]

theorem ran_tableMax_lt (fresh : Nat → UInt8) : ∀ (ts : List Table) {b : Build},
    b.buf.tableMax < 2 ^ 32 → (∀ t ∈ ts, t.halt = none) → (b.ran fresh ts).buf.tableMax < 2 ^ 32
  | [], _, hlt, _ => hlt
  | t :: ts, b, hlt, hc => by
    have hnext := next_tableMax fresh (hc t (List.mem_cons_self ..)) b
    refine ran_tableMax_lt fresh ts (b := b.next fresh t) ?_
      fun u hu => hc u (List.mem_cons_of_mem _ hu)
    rw [hnext]
    by_cases hlong : t.outLength > b.buf.tableMax
    · rw [if_pos hlong]
      omega
    · rw [if_neg hlong]
      exact hlt

/-- Tables that fit the counter. -/
theorem ran_tableMax (fresh : Nat → UInt8) : ∀ (ts : List Table) {b : Build},
    (∀ t ∈ ts, t.halt = none) → (∀ t ∈ ts, t.outLength < 2 ^ 32) →
    (b.ran fresh ts).buf.tableMax = (ts.map Table.outLength).foldl max b.buf.tableMax
  | [], _, _, _ => rfl
  | t :: ts, b, hc, hfit => by
    have hnext := next_tableMax fresh (hc t (List.mem_cons_self ..)) b
    have hlt := hfit t (List.mem_cons_self ..)
    have ih := ran_tableMax fresh ts (b := b.next fresh t)
      (fun u hu => hc u (List.mem_cons_of_mem _ hu)) fun u hu => hfit u (List.mem_cons_of_mem _ hu)
    have hmax : (b.next fresh t).buf.tableMax = max b.buf.tableMax t.outLength := by
      rw [hnext]
      by_cases hlong : t.outLength > b.buf.tableMax
      · rw [if_pos hlong]
        omega
      · rw [if_neg hlong]
        omega
    rw [show b.ran fresh (t :: ts) = (b.next fresh t).ran fresh ts from rfl, ih, hmax]
    rfl

/-! ## The published tables -/

/-- The published tables are the blobs `bs` and then the tables started, and the counters count
them. -/
structure ReadsBack (bs : List (List UInt8)) (p : Published) (b : Build) (us vs : List Parsed) :
    Prop where
  len : p.tablesLen = p.tables.length
  /-- The structures use up the tables. -/
  parsed : parseAll parseStructure p.tables = some (us ++ vs)
  /-- The user blobs, in the order they were added. -/
  users : List.Forall₂ (fun x b => parseStructure b = some (x, [])) us bs
  /-- The built structures, in the order of the builder calls. -/
  built : List.Forall₂ (fun x t => x.type = t.type ∧ x.handle = t.handle % 2 ^ 16 ∧
    x.strings = t.strings ∧ Numbered t.stmts x) vs b.started
  cnt : b.buf.tableCnt = (us ++ vs).length
  max : b.buf.tableMax = ((us ++ vs).map Parsed.size).foldr max 0

theorem foldl_max_eq (ns : List Nat) (n : Nat) : ns.foldl max n = max n (ns.foldr max 0) := by
  induction ns generalizing n with
  | nil => simp
  | cons k ns ih => rw [List.foldl_cons, ih, List.foldr_cons, Nat.max_assoc]

/-- Sizes and numbers that 32 bits hold. -/
structure FitsCounters (bs : List (List UInt8)) (ts : List Table) : Prop where
  blobs : ∀ b ∈ bs, b.length < 2 ^ 32
  tables : ∀ t ∈ ts, t.outLength < 2 ^ 32
  count : bs.length + ts.length < 2 ^ 32

/-- Where the tables read back, the counters have not overflowed. -/
theorem ReadsBack.fits {bs : List (List UInt8)} (hv : Blobs o.blobVars bs)
    (hc : ∀ t ∈ plannedTables h ep ms o, t.halt = none) {p : Published} {us vs : List Parsed}
    (htables : p.tables = (Build.planned h ep ms o).buf.bytes)
    (hread : ReadsBack bs p (Build.planned h ep ms o) us vs) :
    FitsCounters bs (plannedTables h ep ms o) := by
  have hstart : (Build.start o).buf.tableCnt < 2 ^ 32 := by
    show o.usrTableCnt < 2 ^ 32
    rw [show o.usrTableCnt = _ from hv.cnt]
    omega
  have hcnt := ran_tableCnt (h.fresh ep) _ hstart hc
  have hmax := ran_tableMax_lt (h.fresh ep) _ (b := Build.start o) hv.max_lt hc
  have hlen : (us ++ vs).length = bs.length + (plannedTables h ep ms o).length := by
    rw [List.length_append, hread.users.length_eq, hread.built.length_eq, planned_started]
  have hstream := parseAll_tables (h.fresh ep) hread.users hc o.userBlob.length
  have hbytes : p.tables = bs.flatten ++
      blobOf (h.fresh ep) o.userBlob.length (plannedTables h ep ms o) := by
    have huser : o.userBlob = bs.flatten := hv.bytes
    rw [htables, planned_bytes, ← huser]
    rfl
  rw [← hbytes, hread.parsed] at hstream
  have hsizes : (us ++ vs).map Parsed.size =
      bs.map List.length ++ (plannedTables h ep ms o).map Table.outLength := by
    rw [Option.some.inj hstream, List.map_append, sizes_of_parsed hread.users,
      parsedAll_sizes (h.fresh ep) hc]
  have hall : ∀ n ∈ bs.map List.length ++ (plannedTables h ep ms o).map Table.outLength,
      n < 2 ^ 32 := by
    intro n hn
    have hle := le_foldr_max hn
    rw [← hsizes, ← hread.max] at hle
    exact Nat.lt_of_le_of_lt hle hmax
  constructor
  case blobs =>
    intro b hb
    exact hall _ (List.mem_append_left _ (List.mem_map_of_mem hb))
  case tables =>
    intro t ht
    exact hall _ (List.mem_append_right _ (List.mem_map_of_mem ht))
  case count =>
    have hcount := hread.cnt
    rw [hlen] at hcount
    rw [show (Build.planned h ep ms o).buf.tableCnt = _ from hcnt] at hcount
    omega

/-- **Where the counters do not overflow, the tables read back.** -/
theorem readsBack_planned {bs : List (List UInt8)} (hv : Blobs o.blobVars bs)
    (hone : ∀ b ∈ bs, OneStructure b)
    (hc : ∀ t ∈ plannedTables h ep ms o, t.halt = none)
    (hnum : ∀ t ∈ plannedTables h ep ms o, t.Numberable)
    (hfits : FitsCounters bs (plannedTables h ep ms o)) :
    ∃ us vs, ReadsBack bs (publishedOf ep (Build.planned h ep ms o).buf)
      (Build.planned h ep ms o) us vs := by
  obtain ⟨us, hus⟩ := exists_parsed hone
  have huser : o.userBlob = bs.flatten := hv.bytes
  have hcount := hfits.count
  have hlen : (parsedAll (h.fresh ep) o.userBlob.length (plannedTables h ep ms o)).length =
      (plannedTables h ep ms o).length := by
    rw [← List.length_map (f := Parsed.size), parsedAll_sizes (h.fresh ep) hc, List.length_map]
  refine ⟨us, parsedAll (h.fresh ep) o.userBlob.length (plannedTables h ep ms o), ?_⟩
  constructor
  case len => rfl
  case parsed =>
    show parseAll parseStructure (Build.planned h ep ms o).buf.bytes = _
    rw [planned_bytes, ← parseAll_tables (h.fresh ep) hus hc, ← huser]
    rfl
  case users => exact hus
  case built =>
    rw [planned_started]
    clear hc hfits hcount hlen
    generalize o.userBlob.length = off
    generalize plannedTables h ep ms o = ts at hnum
    induction ts generalizing off with
    | nil => exact .nil
    | cons t ts ih =>
      obtain ⟨honce, hfew⟩ := hnum t (List.mem_cons_self ..)
      refine .cons ⟨rfl, rfl, rfl, Table.numbered honce hfew (h.fresh ep) off⟩ ?_
      exact ih _ fun u hu => hnum u (List.mem_cons_of_mem _ hu)
  case cnt =>
    have hstart : (Build.start o).buf.tableCnt = bs.length := by
      show o.usrTableCnt = bs.length
      rw [show o.usrTableCnt = _ from hv.cnt]
      exact Nat.mod_eq_of_lt (by omega)
    have hcnt := ran_tableCnt (h.fresh ep) (plannedTables h ep ms o) (b := Build.start o)
      (by rw [hstart]; omega) hc
    rw [hstart, Nat.mod_eq_of_lt hcount] at hcnt
    rw [List.length_append, hus.length_eq, hlen]
    exact hcnt
  case max =>
    have hstart : (Build.start o).buf.tableMax = (bs.map List.length).foldr max 0 :=
      hv.max_eq hfits.blobs
    have hmax := ran_tableMax (h.fresh ep) (plannedTables h ep ms o) (b := Build.start o) hc
      hfits.tables
    rw [foldl_max_eq, hstart] at hmax
    rw [List.map_append, sizes_of_parsed hus, parsedAll_sizes (h.fresh ep) hc, foldr_max_append]
    exact hmax

/-- The `pcidev` of every type 9 and type 41 entry names a device on the root bus. -/
structure DevicesResolve (h : Host) (o : Options) : Prop where
  slots : ∀ t9 ∈ o.type9, unresolvable h t9.pcidev = false
  devices : ∀ t41 ∈ o.type41, unresolvable h t41.pcidev = false

theorem DevicesResolve.slotFails (hres : DevicesResolve h o) : slotFails h o = false := by
  have hany : (o.type9.any fun t9 => unresolvable h t9.pcidev) = false := by
    rw [List.any_eq_false]
    intro t9 ht9
    rw [hres.slots t9 ht9]
    exact Bool.false_ne_true
  unfold Smbios.slotFails
  rw [hany, Bool.and_false]

theorem DevicesResolve.deviceFails (hres : DevicesResolve h o) : deviceFails h o = false := by
  have hany : (o.type41.any fun t41 => unresolvable h t41.pcidev) = false := by
    rw [List.any_eq_false]
    intro t41 ht41
    rw [hres.devices t41 ht41]
    exact Bool.false_ne_true
  unfold Smbios.deviceFails
  rw [hany, Bool.and_false]

/-- The tables of a pass that publishes, where every device is found. -/
theorem planned_complete (hh : h.Contract) (hpub : Publishes h ep ms o)
    (hres : DevicesResolve h o) : ∀ t ∈ plannedTables h ep ms o, t.halt = none :=
  (planned_complete_iff hh hpub.sockets hpub.accepted hpub.hold hpub.once).mpr
    ⟨hres.slotFails, hres.deviceFails⟩

theorem planned_numberable (hpub : Publishes h ep ms o)
    (hipmi : ∀ t ∈ h.type38Tables, ∀ off v, .str off v ∉ t.stmts) :
    ∀ t ∈ plannedTables h ep ms o, t.Numberable := by
  intro t ht
  have hplanned := @plannedTables_perm h ep ms o hpub.accepted hpub.hold
  obtain ⟨type, -, hmem⟩ := List.mem_flatMap.mp (hplanned.mem_iff.mp ht)
  exact tablesOf_numberable hipmi t hmem

variable {Q : Type}

/-- **The published tables read back exactly when** every user blob and every structure is shorter
than 2^32 bytes, and there are fewer than 2^32 of them. -/
theorem readsBack_iff (qo : QemuOption Q) (cs : List (Call Q)) (hh : h.Contract)
    (hipmi : ∀ t ∈ h.type38Tables, ∀ off v, .str off v ∉ t.stmts)
    (hone : ∀ b ∈ userBlobs qo cs, OneStructure b)
    (hres : DevicesResolve h (final (configure qo) {} cs).opts) {p : Published}
    (hrun : smbiosGetTablesEp h ep ms (final (configure qo) {} cs) = .ok (some p) s') :
    (∃ us vs, ReadsBack (userBlobs qo cs) p s'.bld us vs) ↔
      FitsCounters (userBlobs qo cs)
        (plannedTables h ep ms (final (configure qo) {} cs).opts) := by
  have hv := blobs_of_run qo cs
  have hpub := publishes_of_run hh hrun
  have hc := planned_complete hh hpub hres
  obtain ⟨hbld, rfl⟩ := planned_of_run hh hrun
  rw [hbld]
  constructor
  · rintro ⟨us, vs, hread⟩
    exact hread.fits hv hc rfl
  · exact readsBack_planned hv hone hc (planned_numberable hpub hipmi)

/-- A file with a structure that the specification leaves to vendors, and the defaults. -/
def vendorCalls : List (Call OptionList) :=
  [fileEntry [200, 4, 0, 200, 0, 0], .setDefaults (some (lit "QEMU")) none none]

theorem readsBack_iff_vendor :
    ∃ p s' us vs, smbiosGetTablesEp .plain .type64 .small
        (final (configure .reference) {} vendorCalls) = .ok (some p) s' ∧
      ReadsBack (userBlobs .reference vendorCalls) p s'.bld us vs := by
  have hterm : ValuesTerminated (final (configure .reference) {} vendorCalls).opts :=
    fun _ _ hmem => nomatch hmem
  have hres : DevicesResolve .plain (final (configure .reference) {} vendorCalls).opts :=
    ⟨(fun _ hmem => nomatch hmem), (fun _ hmem => nomatch hmem)⟩
  have hblobs : userBlobs .reference vendorCalls = [[200, 4, 0, 200, 0, 0]] := by decide +kernel
  have hone : ∀ b ∈ userBlobs .reference vendorCalls, OneStructure b := by
    rw [hblobs]
    intro b hb
    rw [List.mem_singleton.mp hb]
    exact ⟨_, rfl⟩
  have hfits : FitsCounters (userBlobs .reference vendorCalls)
      (plannedTables .plain .type64 .small (final (configure .reference) {} vendorCalls).opts) := by
    rw [hblobs]
    constructor
    · decide
    · decide +kernel
    · decide +kernel
  have hrun := run_of_publishes Host.plain_contract
    (publishes_small hterm (.inl hres.slotFails))
  obtain ⟨us, vs, hread⟩ := (readsBack_iff .reference vendorCalls Host.plain_contract
    (fun _ ht => nomatch ht) hone hres hrun).mpr hfits
  exact ⟨_, _, us, vs, hrun, hread⟩

/-! ## A structure of more than 4 GiB -/

/-- A file leaves the lists of the other options alone. -/
theorem entryAdd_file_lists {qo : QemuOption Q} {e : Entry Q} (hfile : e.isFile qo = true)
    (hlen : s.opts.usrBlobsLen ≤ s.opts.usrBlobs.length) :
    (entryAdd qo s e).2.opts.type9 = s.opts.type9 ∧
      (entryAdd qo s e).2.opts.type11 = s.opts.type11 ∧
        (entryAdd qo s e).2.opts.type41 = s.opts.type41 := by
  have heffect := entryAdd_effect qo e hlen
  generalize entryAdd qo s e = p at heffect
  cases heffect with
  | loaded => exact ⟨rfl, rfl, rfl⟩
  | rejected => exact ⟨rfl, rfl, rfl⟩
  | refused => exact ⟨rfl, rfl, rfl⟩
  | fields r o type hno => exact absurd (hfile.symm.trans hno) (by decide)

/-- A string of `n` bytes. -/
def longString (n : Nat) : CString where
  bytes := List.replicate n 1
  nulFree hmem := by cases List.eq_of_mem_replicate hmem

/-- A structure with nothing but this string. -/
def longBlob (n : Nat) : List UInt8 :=
  (tableOf 200 0 ([.strList (some (longString n))] : List (Assign SmbiosType37))).encode
    (fun _ => 0) 0

theorem longBlob_oneStructure (n : Nat) : OneStructure (longBlob n) := by
  have hencodes := (parseStructure_encode (fun _ => 0) 0
    (tableOf 200 0 ([.strList (some (longString n))] : List (Assign SmbiosType37)))).2 []
  rw [List.append_nil] at hencodes
  exact ⟨_, hencodes⟩

theorem length_longBlob (n : Nat) : n < (longBlob n).length := by
  unfold longBlob Table.encode
  rw [List.length_append, Table.length_formatted]
  have hstrings : (tableOf 200 0 ([.strList (some (longString n))] :
      List (Assign SmbiosType37))).strings = if n = 0 then [] else [List.replicate n 1] := by
    cases n <;> rfl
  have hlen : (tableOf 200 0 ([.strList (some (longString n))] :
      List (Assign SmbiosType37))).len = headerSize := rfl
  rw [hstrings, hlen]
  split
  · rename_i hzero
    rw [hzero]
    decide
  · simp only [encodeStringSet, List.flatMap_cons, List.flatMap_nil, List.length_append,
      List.length_replicate, List.length_cons, List.length_nil]
    omega

/-- A file that is one structure of 2^32 bytes or more: the tables do not read back. -/
theorem not_readsBack_long {bs : List UInt8} (hlong : 2 ^ 32 ≤ bs.length) (hone : OneStructure bs) :
    (∀ b ∈ userBlobs .reference [fileEntry bs], OneStructure b) ∧
      ∃ p s', smbiosGetTablesEp .plain .type64 .small
          (final (configure .reference) {} [fileEntry bs]) = .ok (some p) s' ∧
        ¬∃ us vs, ReadsBack (userBlobs .reference [fileEntry bs]) p s'.bld us vs := by
  have hsize : headerSize ≤ bs.length := Nat.le_trans (by decide) hlong
  have hblobs := userBlobs_fileEntry hsize
  obtain ⟨h9, h11, h41⟩ := @entryAdd_file_lists {} _ .reference
    ⟨[("file", lit "dump")], .holding bs⟩ rfl (Nat.le_refl 0)
  have hv := blobs_of_run .reference [fileEntry bs]
  rw [hblobs] at hv ⊢
  refine ⟨fun b hb => by rw [List.mem_singleton.mp hb]; exact hone, ?_⟩
  have h9' : (final (configure .reference) {} [fileEntry bs]).opts.type9 = [] := h9
  have h11' : (final (configure .reference) {} [fileEntry bs]).opts.type11 = [] := h11
  have h41' : (final (configure .reference) {} [fileEntry bs]).opts.type41 = [] := h41
  generalize final (configure .reference) {} [fileEntry bs] = s at hv h9' h11' h41' ⊢
  have hterm : ValuesTerminated s.opts := by
    intro _ block hmem
    rw [h11'] at hmem
    cases hmem
  have hres : DevicesResolve .plain s.opts := by
    constructor
    · rw [h9']
      exact fun _ hmem => nomatch hmem
    · rw [h41']
      exact fun _ hmem => nomatch hmem
  have hpub := publishes_small hterm (.inl hres.slotFails)
  refine ⟨_, _, run_of_publishes Host.plain_contract hpub, ?_⟩
  rintro ⟨us, vs, hread⟩
  have hfits := hread.fits hv (planned_complete Host.plain_contract hpub hres) rfl
  have hshort := hfits.blobs bs (List.mem_singleton.mpr rfl)
  omega

/-- A file with a string of 2^32 bytes. -/
theorem hugeStructureMiscounted :
    (∀ b ∈ userBlobs .reference [fileEntry (longBlob (2 ^ 32))], OneStructure b) ∧
      ∃ p s', smbiosGetTablesEp .plain .type64 .small
          (final (configure .reference) {} [fileEntry (longBlob (2 ^ 32))]) = .ok (some p) s' ∧
        ¬∃ us vs, ReadsBack (userBlobs .reference [fileEntry (longBlob (2 ^ 32))]) p s'.bld us vs :=
  not_readsBack_long (Nat.le_of_lt (length_longBlob (2 ^ 32))) (longBlob_oneStructure (2 ^ 32))

end Smbios
