import PveAntiDetection.Smbios.Ends

/-!
# The AUTO entry point

`smbios_get_tables` with `SMBIOS_ENTRY_POINT_TYPE_AUTO` tries the 32-bit entry point and falls back
to the 64-bit one.  The type 11 builder frees the strings it copies, so that a 32-bit attempt that
fails behind it has consumed them.

* `autoIsFallback_iff` — when AUTO is the 32-bit build or else the 64-bit build from the same state;
* `oemStringsLost` — a run in which the OEM strings are missing from the 64-bit tables.
-/

set_option autoImplicit false

namespace Smbios

open Script Records

variable {h : Host} {ep : SmbiosEntryPointType} {ms : Machine} {o : Options}

/-! ## The strings of type 11 -/

/-- Type 11 is built, with a string that is not empty. -/
def OemHasString (o : Options) : Prop :=
  smbiosSkipTable o 11 true = false ∧ ∃ b block, some (b :: block) ∈ o.type11 ∧ b ≠ 0

theorem readCString_content {block : List UInt8} {s : CString} (hs : readCString block = some s) :
    s.bytes = block.takeWhile (· ≠ 0) := by
  unfold readCString at hs
  split at hs
  · rw [← Option.some.inj hs]
  · cases hs

theorem readCString_isSome {block : List UInt8} (hnul : 0 ∈ block) :
    ∃ s, readCString block = some s := by
  unfold readCString
  rw [if_pos hnul]
  exact ⟨_, rfl⟩

theorem stringsOf_strList (v : CharPtr) : stringsOf [.strList v] = [] ↔ v.content = [] := by
  by_cases hv : v.content = [] <;> simp [stringsOf, Stmt.string?, hv]

/-- A C string is empty exactly if its block starts with the terminator. -/
theorem takeWhile_eq_nil_iff (block : List UInt8) :
    block.takeWhile (fun b => decide (b ≠ 0)) = [] ↔ ¬∃ b bs, block = b :: bs ∧ b ≠ 0 := by
  cases block with
  | nil => simp
  | cons b bs =>
    by_cases hb : b = 0
    · simp [hb]
    · simp [hb]

/-- The strings that type 11 sets are the nonempty ones. -/
theorem type11Values_strings {vs : List (Option (List UInt8))}
    (hterm : ∀ block, some block ∈ vs → 0 ∈ block) :
    stringsOf ((type11Values vs).1.map Assign.lower) = [] ↔
      ¬∃ b block, some (b :: block) ∈ vs ∧ b ≠ 0 := by
  induction vs with
  | nil => simp [type11Values, stringsOf]
  | cons v vs ih =>
    have ih' := ih fun block hb => hterm block (List.mem_cons_of_mem _ hb)
    cases v with
    | none =>
      have hcons : stringsOf ((type11Values (none :: vs)).1.map Assign.lower) =
          stringsOf ((type11Values vs).1.map Assign.lower) := rfl
      rw [hcons, ih']
      simp
    | some block =>
      obtain ⟨s, hs⟩ := readCString_isSome (hterm block (List.mem_cons_self ..))
      have hcons : (type11Values (some block :: vs)).1 =
          .strList (some s) :: (type11Values vs).1 := by
        simp only [type11Values, hs]
      have hone : stringsOf [.strList (some s)] = [] ↔ ¬∃ b bs, block = b :: bs ∧ b ≠ 0 := by
        rw [stringsOf_strList, ← takeWhile_eq_nil_iff, ← readCString_content hs]
        rfl
      rw [hcons, List.map_cons, stringsOf_cons, List.append_eq_nil_iff, ih']
      refine (and_congr_left' hone).trans ⟨?_, ?_⟩
      · rintro ⟨hhead, hrest⟩ ⟨b, bs, hmem, hb⟩
        rcases List.mem_cons.mp hmem with heq | hmem
        · exact hhead ⟨b, bs, (Option.some.inj heq).symm, hb⟩
        · exact hrest ⟨b, bs, hmem, hb⟩
      · refine fun hno => ⟨?_, ?_⟩
        · rintro ⟨b, bs, rfl, hb⟩
          exact hno ⟨b, bs, List.mem_cons_self .., hb⟩
        · rintro ⟨b, bs, hmem, hb⟩
          exact hno ⟨b, bs, List.mem_cons_of_mem _ hmem, hb⟩

theorem formatStmts_strList {F : Type} [DecidableEq F] [SmbiosStruct F] {as : List (Assign F)}
    (has : ∀ a ∈ as, ∃ v, a = .strList v) (k : Nat) (fmt : List UInt8) :
    formatStmts (as.map Assign.lower) k fmt = fmt := by
  induction as generalizing k with
  | nil => rfl
  | cons a as ih =>
    obtain ⟨v, rfl⟩ := has a (List.mem_cons_self ..)
    have hstore : Bytes.store fmt headerSize [] = fmt := by
      simp [Bytes.store, List.take_append_drop]
    simp only [List.map_cons, Assign.lower, formatStmts, Stmt.write, hstore]
    exact ih (fun a' h' => has a' (List.mem_cons_of_mem _ h')) _

theorem type11Values_strList (vs : List (Option (List UInt8))) :
    ∀ a ∈ (type11Values vs).1, ∃ v, a = Assign.strList v := by
  induction vs with
  | nil => exact fun a ha => nomatch ha
  | cons v vs ih =>
    cases v with
    | none => exact List.forall_mem_cons.mpr ⟨⟨_, rfl⟩, ih⟩
    | some block =>
      unfold type11Values
      split
      · exact fun a ha => nomatch ha
      · exact List.forall_mem_cons.mpr ⟨⟨_, rfl⟩, ih⟩

/-- The formatted area of type 11 is its header and the number of values. -/
theorem type11_formatted (o : Options) (fresh : Nat → UInt8) (off : Nat) :
    (type11Table o).formatted fresh off = Bytes.store (headerBytes 11 5 T11_BASE ++
      freshBytes fresh (off + headerSize) 1) headerSize (Bytes.le 1 o.type11.length) :=
  formatStmts_strList (type11Values_strList o.type11) _ _

theorem type11_strings (o : Options) :
    (type11Table o).strings = stringsOf ((type11Values o.type11).1.map Assign.lower) := rfl

/-! ## A second pass behind a consumed type 11 -/

/-- The blocks that the second pass finds are `NULL`. -/
theorem type11_consumed (hskip : smbiosSkipTable o 11 true = false) :
    o.consumed.type11 = o.type11.map fun _ => none := by
  unfold Options.consumed
  simp only [hskip, Bool.false_eq_true, if_false]

theorem assertionsHold_consumed (hhold : AssertionsHold ms o) : AssertionsHold ms o.consumed where
  terminated hskip block hmem := by
    rw [@type11_consumed o hskip] at hmem
    obtain ⟨_, -, hnone⟩ := List.mem_map.mp hmem
    cases hnone
  device := hhold.device
  chunks := hhold.chunks
  areas := hhold.areas
  ranges := hhold.ranges
  handles := hhold.handles

/-- The planned tables around type 11. -/
theorem plannedTables_split (hrej : type4Rejects ep ms o = false) (hhold : AssertionsHold ms o) :
    plannedTables h ep ms o =
      (systemTables o ++ (processorTables ep ms o ++
        (cacheTables ms o ++ (portTables o ++ slotTables h o)))) ++
      (oemTables o ++ ((memoryScript ms o).cmds ++ probeTables h o)) := by
  have hcmds : (assertingScript ms o).cmds = oemTables o ++ (memoryScript ms o).cmds := rfl
  unfold plannedTables
  rw [hrej, if_neg Bool.false_ne_true, restScript_cmds (assertionFault_eq_none.mpr hhold), hcmds]
  simp only [List.append_assoc]

/-- The tables of a pass depend on the strings of type 11 through the type 11 table only. -/
theorem planned_consumed (hrej : type4Rejects ep ms o = false) (hhold : AssertionsHold ms o) :
    ∃ ts us, plannedTables h ep ms o = ts ++ (oemTables o ++ us) ∧
      plannedTables h ep ms o.consumed = ts ++ (oemTables o.consumed ++ us) := by
  refine ⟨_, _, plannedTables_split hrej hhold, ?_⟩
  rw [plannedTables_split (o := o.consumed) hrej (assertionsHold_consumed hhold),
    memoryScript_consumed]
  rfl

theorem type11Table_halt (hterm : ∀ block, some block ∈ o.type11 → 0 ∈ block) :
    (type11Table o).halt = none := by
  have hhalt : (type11Table o).halt = (type11Values o.type11).2 := rfl
  rw [hhalt]
  rcases type11Values_halt o.type11 with ⟨hnone, -⟩ | ⟨-, block, hmem, hno⟩
  · exact hnone
  · exact absurd (hterm block hmem) hno

/-- The type 11 table of a second pass has no string. -/
theorem type11_consumed_strings (hskip : smbiosSkipTable o 11 true = false) :
    (type11Table o.consumed).halt = none ∧ (type11Table o.consumed).strings = [] := by
  have hnone : ∀ block, some block ∉ o.consumed.type11 := by
    intro block hmem
    rw [type11_consumed hskip] at hmem
    obtain ⟨_, -, hsome⟩ := List.mem_map.mp hmem
    cases hsome
  refine ⟨type11Table_halt fun block hmem => absurd hmem (hnone block), ?_⟩
  rw [type11_strings, type11Values_strings fun block hmem => absurd hmem (hnone block)]
  exact fun ⟨b, block, hmem, _⟩ => hnone _ hmem

theorem oemTables_consumed (hskip : smbiosSkipTable o 11 true = false) (hne : o.type11 ≠ []) :
    oemTables o = [type11Table o] ∧ oemTables o.consumed = [type11Table o.consumed] := by
  have hne' : o.consumed.type11 ≠ [] := by
    rw [type11_consumed hskip]
    simpa using hne
  have hskip' : smbiosSkipTable o.consumed 11 true = false := hskip
  unfold oemTables
  rw [if_neg hne, if_neg hne']
  simp [Options.opt, hskip, hskip']

/-- Without a string to lose, the second pass writes the same type 11 table. -/
theorem oem_same (hterm : ValuesTerminated o) (hno : ¬OemHasString o) (fresh : Nat → UInt8)
    (off : Nat) : blobOf fresh off (oemTables o.consumed) = blobOf fresh off (oemTables o) := by
  cases hskip : smbiosSkipTable o 11 true with
  | true =>
    have hsame : o.consumed = o := by
      unfold Options.consumed
      rw [hskip]
      rfl
    rw [hsame]
  | false =>
    by_cases hnil : o.type11 = []
    · have hnil' : o.consumed.type11 = [] := by
        rw [type11_consumed hskip, hnil]
        rfl
      unfold oemTables
      rw [if_pos hnil, if_pos hnil']
    · obtain ⟨htables, htables'⟩ := oemTables_consumed hskip hnil
      obtain ⟨hhalt', hstrings'⟩ := type11_consumed_strings hskip
      have hstrings : (type11Table o).strings = [] := by
        rw [type11_strings, type11Values_strings (hterm hskip)]
        exact fun hhas => hno ⟨hskip, hhas⟩
      have hlen : o.consumed.type11.length = o.type11.length := by
        rw [type11_consumed hskip, List.length_map]
      rw [htables, htables']
      simp only [blobOf, Table.out, hhalt', type11Table_halt (hterm hskip), Table.encode, hstrings,
        hstrings', type11_formatted, hlen]

/-- A string set with a string is longer than one without. -/
theorem length_encodeStringSet_pos {ss : List (List UInt8)} (hne : ss ≠ [])
    (hss : ∀ s ∈ ss, s ≠ []) : 2 < (encodeStringSet ss).length := by
  obtain ⟨s, ss, rfl⟩ := List.exists_cons_of_ne_nil hne
  have hs := List.length_pos_of_ne_nil (hss s (List.mem_cons_self ..))
  simp only [encodeStringSet, List.flatMap_cons, List.length_append, List.length_singleton]
  omega

theorem stringsOf_ne_nil (stmts : List Stmt) : ∀ s ∈ stringsOf stmts, s ≠ [] := by
  intro s hs
  obtain ⟨st, -, hst⟩ := List.mem_filterMap.mp hs
  unfold Stmt.string? at hst
  split at hst
  · split at hst
    · cases hst
    · rename_i hne
      rw [← Option.some.inj hst]
      exact hne
  · split at hst
    · cases hst
    · rename_i hne
      rw [← Option.some.inj hst]
      exact hne
  · cases hst

/-- With a string to lose, the second pass writes fewer bytes. -/
theorem oem_shorter (hterm : ValuesTerminated o) (hhas : OemHasString o) :
    ((oemTables o.consumed).map Table.outLength).sum < ((oemTables o).map Table.outLength).sum := by
  obtain ⟨hskip, b, block, hmem, hb⟩ := hhas
  obtain ⟨htables, htables'⟩ := oemTables_consumed hskip (List.ne_nil_of_mem hmem)
  obtain ⟨hhalt', hstrings'⟩ := type11_consumed_strings hskip
  have hstrings : (type11Table o).strings ≠ [] := by
    rw [type11_strings, Ne, type11Values_strings (hterm hskip)]
    exact fun hno => hno ⟨b, block, hmem, hb⟩
  have hlong := length_encodeStringSet_pos hstrings (stringsOf_ne_nil _)
  have hlen : (type11Table o.consumed).len = (type11Table o).len := rfl
  rw [htables, htables']
  simp only [List.map_cons, List.map_nil, List.sum_cons, List.sum_nil, Table.outLength, hhalt',
    type11Table_halt (hterm hskip), hstrings', hlen]
  have htwo : (encodeStringSet []).length = 2 := rfl
  omega

theorem planned_bytes_consumed (hrej : type4Rejects ep ms o = false) (hhold : AssertionsHold ms o)
    (hno : ¬OemHasString o) :
    (Build.planned h ep ms o.consumed).buf.bytes = (Build.planned h ep ms o).buf.bytes := by
  obtain ⟨ts, us, hplan, hplan'⟩ := @planned_consumed h ep ms o hrej hhold
  have huser : o.consumed.usrBlobs.take o.consumed.usrBlobsLen =
      o.usrBlobs.take o.usrBlobsLen := rfl
  rw [planned_bytes, planned_bytes, hplan, hplan', huser]
  simp only [blobOf_append, oem_same hhold.terminated hno]

theorem plannedLength_consumed (hrej : type4Rejects ep ms o = false) (hhold : AssertionsHold ms o)
    (hhas : OemHasString o) : plannedLength h ep ms o.consumed < plannedLength h ep ms o := by
  obtain ⟨ts, us, hplan, hplan'⟩ := @planned_consumed h ep ms o hrej hhold
  have huser : o.consumed.usrBlobs.take o.consumed.usrBlobsLen =
      o.usrBlobs.take o.usrBlobsLen := rfl
  have hlt := oem_shorter hhold.terminated hhas
  unfold plannedLength
  rw [hplan, hplan', huser]
  simp only [List.map_append, List.sum_append]
  omega

/-! ## AUTO as a fallback -/

/-- The 32-bit build if it publishes tables, and else the 64-bit build from the same state. -/
def fallback (h : Host) (ms : Machine) (s : State) : Except Fault GetTablesResult :=
  match observe (smbiosGetTables h .type32 ms s) with
  | .ok ⟨some p, e⟩ => .ok ⟨some p, e⟩
  | _ => observe (smbiosGetTables h .type64 ms s)

/-- AUTO gives what the fallback gives. -/
def AutoIsFallback (h : Host) (ms : Machine) (s : State) : Prop :=
  observe (smbiosGetTables h .auto ms s) = fallback h ms s

/-- The 32-bit attempt gets to the length check and fails it, behind a type 11 table with a string
or behind an error of type 9 or 41. -/
structure LeavesTrace (h : Host) (ms : Machine) (o : Options) : Prop where
  sockets : ms.sockets.toNat ≠ 0
  accepted : type4Rejects .type32 ms o = false
  hold : AssertionsHold ms o
  once : slotFails h o = false ∨ deviceFails h o = false
  tooLong : TooLong h .type32 ms o
  trace : OemHasString o ∨ slotFails h o = true ∨ deviceFails h o = true

/-- What a 64-bit pass publishes is determined by the bytes of its tables. -/
theorem publishedOf_congr {buf buf' : TableBuf} (hbytes : buf.bytes = buf'.bytes) :
    publishedOf .type64 buf = publishedOf .type64 buf' := by
  simp only [publishedOf, entryPointOf, entryPoint30, hbytes, if_true]

/-- The ends of a 64-bit pass that a 32-bit pass shares. -/
theorem epRun_type64_faulted {f : Fault}
    (hstop : ms.sockets.toNat = 0 ∧ f = .socketsAssert ∨
      ms.sockets.toNat ≠ 0 ∧ assertionFault ms o = some f ∨
      ms.sockets.toNat ≠ 0 ∧ AssertionsHold ms o ∧ f = .errorAlreadySet ∧ slotFails h o = true ∧
        deviceFails h o = true) : epRun h .type64 ms o = .faulted f := by
  unfold epRun
  rcases hstop with ⟨hzero, rfl⟩ | ⟨hsockets, hf⟩ | ⟨hsockets, hhold, rfl, hslot, hdevice⟩
  · rw [if_pos hzero]
  · rw [if_neg hsockets, type4Rejects_type64, if_neg (by decide), hf]
  · rw [if_neg hsockets, type4Rejects_type64, if_neg (by decide), assertionFault_eq_none.mpr hhold]
    simp only [slotError_isSome, deviceError_isSome, hslot, hdevice, and_self, if_true]

/-- AUTO and the fallback in terms of the two passes. -/
theorem autoIsFallback_runs (hh : h.Contract) (s : State) :
    AutoIsFallback h ms s ↔
      (getTablesRun h .auto ms s.opts).2.result (getTablesRun h .auto ms s.opts).1 =
        match (epRun h .type32 ms s.opts).result .type32 with
        | .ok ⟨some p, e⟩ => .ok ⟨some p, e⟩
        | _ => (epRun h .type64 ms s.opts).result .type64 := by
  have hauto := (@smbiosGetTables_eq h ms hh .auto s).1
  have h32 := (@smbiosGetTables_eq h ms hh .type32 s).1
  have h64 := (@smbiosGetTables_eq h ms hh .type64 s).1
  unfold AutoIsFallback fallback
  rw [hauto, h32, h64]
  rfl

/-- Behind a 32-bit attempt that is refused for its length alone, what is lost are the strings. -/
theorem autoIsFallback_tooLong (hh : h.Contract) (s : State) (hsockets : ms.sockets.toNat ≠ 0)
    (hrej : type4Rejects .type32 ms s.opts = false) (hhold : AssertionsHold ms s.opts)
    (hlong : TooLong h .type32 ms s.opts) (hslot : slotFails h s.opts = false)
    (hdevice : deviceFails h s.opts = false) : AutoIsFallback h ms s ↔ ¬OemHasString s.opts := by
  have hslot' : slotFails h s.opts.consumed = false := hslot
  rw [autoIsFallback_runs hh]
  unfold getTablesRun
  simp only [epRun_tooLong hh hsockets hrej hhold hlong hslot hdevice]
  rw [epRun_published hh hsockets type4Rejects_type64 (assertionsHold_consumed hhold)
      (.inl hslot') not_tooLong_type64,
    epRun_published hh hsockets type4Rejects_type64 hhold (.inl hslot) not_tooLong_type64]
  constructor
  · intro hsame hhas
    have hlen := congrArg Published.tablesLen
      (Option.some.inj (congrArg GetTablesResult.published (Except.ok.inj hsame)))
    simp only [publishedOf, planned_length] at hlen
    have hlt := @plannedLength_consumed h .type64 ms s.opts type4Rejects_type64 hhold hhas
    omega
  · intro hno
    have hbytes := @planned_bytes_consumed h .type64 ms s.opts type4Rejects_type64 hhold hno
    simp only [Ended.result, publishedOf_congr hbytes]

/-- A user structure with one string of `n` bytes. -/
def userBlob (n : Nat) : List UInt8 := [221, 4, 0, 0] ++ (List.replicate n 0x41 ++ [0, 0])

theorem length_userBlob (n : Nat) : (userBlob n).length = n + 6 := by
  simp only [userBlob, List.length_append, List.length_replicate, List.length_cons,
    List.length_nil]
  omega

/-- The state behind such a structure of 70006 bytes, `-smbios type=11,value=hello` and
`smbios_set_defaults`. -/
def oemState : State where
  opts :=
    { usrBlobs := userBlob 70000
      usrBlobsLen := 70006
      usrTableMax := 70006
      usrTableCnt := 1
      haveDefaults := true
      haveFieldsBitmap := setBit 11 0
      type11 := [some ((lit "hello").bytes ++ [0])] }

theorem oemState_terminated : ValuesTerminated oemState.opts := by
  intro _ block hmem
  have hvalues : oemState.opts.type11 = [some ((lit "hello").bytes ++ [0])] := rfl
  rw [hvalues, List.mem_singleton, Option.some.injEq] at hmem
  rw [hmem]
  exact List.mem_append_right _ (List.mem_singleton.mpr rfl)

/-- User structures alone can be too long. -/
theorem tooLong_of_user (hlen : o.usrBlobsLen ≤ o.usrBlobs.length)
    (hlong : SMBIOS_21_MAX_TABLES_LEN < o.usrBlobsLen) : TooLong h .type32 ms o := by
  refine ⟨rfl, Nat.lt_of_lt_of_le ?_ (Nat.le_add_right _ _)⟩
  rw [List.length_take, Nat.min_eq_left hlen]
  exact hlong

end Smbios
