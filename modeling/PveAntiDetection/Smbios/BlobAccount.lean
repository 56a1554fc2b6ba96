import PveAntiDetection.Smbios.UserBlobs

/-!
# The account of the user blobs

* `started_free` — no build starts a table of a type that a file has supplied;
* `blobsRight_iff` — when the variables of the option code say what files were accepted:
  `usr_table_max` and `usr_table_cnt` have 32 bits;
* `hugeFileLost` — a file for which they do not.
-/

set_option autoImplicit false

namespace Smbios

open Runs

variable {h : Host} {ep : SmbiosEntryPointType} {ms : Machine} {o : Options} {s s' : State}

/-! ## Tables of types without a file -/

theorem free_of_skip {type : Nat} {required : Bool}
    (hskip : smbiosSkipTable o type required = false) :
    testBit type o.haveBinfileBitmap = false := by
  unfold smbiosSkipTable at hskip
  split at hskip
  · cases hskip
  · rename_i hfree
    simpa using hfree

theorem tablesOf_free {type : Nat} {t : Table} (ht : t ∈ tablesOf h ep ms o type) :
    testBit type o.haveBinfileBitmap = false := by
  unfold tablesOf at ht
  split at ht
  case h_9 =>
    unfold oemTables at ht
    split at ht
    · cases ht
    · exact free_of_skip (mem_opt.mp ht).1
  case h_25 => cases ht
  all_goals exact free_of_skip (mem_opt.mp ht).1

theorem planned_free (hh : h.Contract)
    (hhold : type4Rejects ep ms o = false → AssertionsHold ms o) {t : Table}
    (ht : t ∈ plannedTables h ep ms o) : testBit t.type o.haveBinfileBitmap = false := by
  have hof : ∀ type, t ∈ tablesOf h ep ms o type →
      testBit t.type o.haveBinfileBitmap = false := by
    intro type hmem
    rw [tablesOf_type hh t hmem]
    exact tablesOf_free hmem
  cases hrej : type4Rejects ep ms o with
  | true =>
    rw [plannedTables, hrej, if_pos rfl, List.append_nil] at ht
    rcases List.mem_append.mp ht with hsys | hproc
    · simp only [systemTables, List.mem_append] at hsys
      rcases hsys with h0 | h1 | h2 | h3
      · exact hof 0 h0
      · exact hof 1 h1
      · exact hof 2 h2
      · exact hof 3 h3
    · exact hof 4 hproc
  | false =>
    have hperm := @plannedTables_perm h ep ms o hrej (hhold hrej)
    obtain ⟨type, -, hmem⟩ := List.mem_flatMap.mp (hperm.mem_iff.mp ht)
    exact hof type hmem

/-- **A build starts no table of a type that has its binfile bit set.** -/
theorem started_free (hh : h.Contract) {r : GetTablesResult}
    (hrun : smbiosGetTables h ep ms s = .ok r s') :
    ∀ t ∈ s'.bld.started, testBit t.type s.opts.haveBinfileBitmap = false := by
  obtain ⟨ep', o, hopts, -, hstate⟩ := getTables_lastPass hh hrun
  obtain ⟨-, hstarted, hhold⟩ := passEnd_started (@epRun_end h ep' ms o hh) hstate
  have hbitmap : o.haveBinfileBitmap = s.opts.haveBinfileBitmap := by
    rcases hopts with rfl | rfl <;> rfl
  intro t ht
  rw [hstarted] at ht
  rw [← hbitmap]
  exact planned_free hh hhold ht

/-! ## What the variables say -/

/-- What the files have left, apart from the buffer behind the accepted bytes. -/
structure BlobView where
  userBlob : List UInt8
  usrBlobsLen : Nat
  usrTableMax : Nat
  usrTableCnt : Nat
  haveBinfileBitmap : BitVec 128
  haveFieldsBitmap : BitVec 128
  type4Count : Nat

def State.blobView (s : State) : BlobView where
  userBlob := s.opts.userBlob
  usrBlobsLen := s.opts.usrBlobsLen
  usrTableMax := s.opts.usrTableMax
  usrTableCnt := s.opts.usrTableCnt
  haveBinfileBitmap := s.opts.haveBinfileBitmap
  haveFieldsBitmap := s.opts.haveFieldsBitmap
  type4Count := s.bld.type4Count

variable {Q : Type} {qo : QemuOption Q}

/-- The state is the right one behind the files `bs`, and stays so in the calls to come. -/
structure BlobsRight (qo : QemuOption Q) (s : State) (bs : List (List UInt8)) : Prop where
  /-- No type has both bits. -/
  exclusive : ∀ type, type ≤ SMBIOS_MAX_TYPE → ¬(testBit type s.opts.haveBinfileBitmap = true ∧
    testBit type s.opts.haveFieldsBitmap = true)
  /-- The length is the sum of the sizes. -/
  len : s.opts.usrBlobsLen = (bs.map List.length).sum
  /-- The accepted bytes are the files in order. -/
  bytes : s.opts.userBlob = bs.flatten
  cnt : s.opts.usrTableCnt = bs.length
  max : s.opts.usrTableMax = largest bs
  /-- A file that is rejected changes nothing. -/
  rejected : ∀ e : Entry Q, e.isFile qo = true → ¬Accepts qo s e →
    (entryAdd qo s e).2.blobView = s.blobView
  /-- A build starts no table of the type of a file. -/
  built : ∀ (h : Host) (ep : SmbiosEntryPointType) (ms : Machine) (r : GetTablesResult)
    (s' : State), h.Contract → smbiosGetTables h ep ms s = .ok r s' →
      ∀ b ∈ bs, headerType b ≤ SMBIOS_MAX_TYPE → ∀ t ∈ s'.bld.started, t.type ≠ headerType b

/-- A file that is rejected changes nothing but the buffer behind the accepted bytes. -/
theorem rejected_view {e : Entry Q} (hlen : s.opts.usrBlobsLen ≤ s.opts.usrBlobs.length)
    (hfile : e.isFile qo = true) (hrej : ¬Accepts qo s e) :
    (entryAdd qo s e).2.blobView = s.blobView := by
  have heffect := entryAdd_effect qo e hlen
  rw [Accepts] at hrej
  generalize entryAdd qo s e = p at heffect hrej
  cases heffect with
  | loaded => exact absurd rfl hrej
  | rejected r blobs _ _ _ hblobs =>
    have huser : ({ s.opts with usrBlobs := blobs } : Options).userBlob = s.opts.userBlob := hblobs
    simp only [State.blobView]
    rw [huser]
  | refused => rfl
  | fields r o type hno => exact absurd (hfile.symm.trans hno) (by decide)

/-- Where the counters are right, they have not overflowed. -/
theorem BlobsRight.small {bs : List (List UInt8)} (hv : Blobs s.opts.blobVars bs)
    (hright : BlobsRight qo s bs) : (∀ b ∈ bs, b.length < 2 ^ 32) ∧ bs.length < 2 ^ 32 := by
  have hlt : s.opts.usrTableMax < 2 ^ 32 := hv.max_lt
  have hcnt : s.opts.usrTableCnt = bs.length % 2 ^ 32 := hv.cnt
  constructor
  · intro b hb
    have hle := length_le_largest hb
    rw [hright.max] at hlt
    omega
  · rw [hright.cnt] at hcnt
    omega

/-- **The state behind the calls is the right one exactly when** the accepted files are shorter
than 2^32 bytes each and fewer than 2^32. -/
theorem blobsRight_iff (qo : QemuOption Q) (cs : List (Call Q)) :
    BlobsRight qo (final (configure qo) {} cs) (userBlobs qo cs) ↔
      (∀ b ∈ userBlobs qo cs, b.length < 2 ^ 32) ∧ (userBlobs qo cs).length < 2 ^ 32 := by
  have hv := blobs_of_run qo cs
  constructor
  · exact fun hright => hright.small hv
  · rintro ⟨hsizes, hcount⟩
    constructor
    case exclusive =>
      rintro type - ⟨hbin, hfields⟩
      have hclear := hv.exclusive type hbin
      exact absurd (hfields.symm.trans hclear) (by decide)
    case len => rw [← List.length_flatten]; exact hv.len
    case bytes => exact hv.bytes
    case cnt =>
      have hcnt := hv.cnt
      rw [Nat.mod_eq_of_lt hcount] at hcnt
      exact hcnt
    case max => exact hv.max_eq hsizes
    case rejected => exact fun e hfile hrej => rejected_view hv.within hfile hrej
    case built =>
      intro h ep ms r s' hh hrun b hb htype t ht heq
      have hfree := started_free hh hrun t ht
      rw [heq] at hfree
      exact absurd (hfree.symm.trans (hv.typed b hb htype)) (by decide)

/-! ## A file of more than 4 GiB -/

/-- An entry that names a file with the contents `bs`. -/
def fileEntry (bs : List UInt8) : Call OptionList := .entryAdd ⟨[("file", lit "dump")], .holding bs⟩

/-- A first entry is accepted if it is long enough for a header. -/
theorem userBlobs_fileEntry {bs : List UInt8} (hsize : headerSize ≤ bs.length) :
    userBlobs .reference [fileEntry bs] = [bs] := by
  have hload : (Files.holding bs).loadImageSize (lit "dump") bs.length = (some bs.length, bs) := by
    simp [Files.holding]
  have hadd : (addFile (.holding bs) (lit "dump") {}).1 = .ok none := by
    have hsizes : (Files.holding bs).getImageSize (lit "dump") = some bs.length := rfl
    unfold addFile
    simp only [hsizes, hload]
    rw [if_neg (Nat.not_lt.mpr hsize), if_pos trivial, if_neg]
    simp [testBit]
  have hone : (entryAdd .reference {} ⟨[("file", lit "dump")], .holding bs⟩).1 =
      (addFile (.holding bs) (lit "dump") {}).1 := rfl
  have hblob : Entry.blob .reference ⟨[("file", lit "dump")], .holding bs⟩ = bs :=
    congrArg Prod.snd hload
  show Entry.added .reference _ (entryAdd .reference {} _).1 ++ [] = [bs]
  rw [hone, hadd, List.append_nil]
  show [Entry.blob .reference _] = [bs]
  rw [hblob]

/-- A file of 2^32 + 4 bytes sets `usr_table_max` to 4. -/
theorem hugeFileLost :
    ¬BlobsRight .reference
      (final (configure .reference) {} [fileEntry (List.replicate (2 ^ 32 + 4) 0)])
      (userBlobs .reference [fileEntry (List.replicate (2 ^ 32 + 4) 0)]) := by
  intro hright
  have hsizes := (hright.small (blobs_of_run .reference _)).1
  have hlen : headerSize ≤ (List.replicate (2 ^ 32 + 4) (0 : UInt8)).length := by
    rw [List.length_replicate]
    decide
  rw [userBlobs_fileEntry hlen] at hsizes
  have hlt := hsizes _ (List.mem_singleton.mpr rfl)
  rw [List.length_replicate] at hlt
  omega

end Smbios
