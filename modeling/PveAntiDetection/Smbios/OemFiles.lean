import PveAntiDetection.Smbios.OemStrings

/-!
# OEM strings from files

`save_opt_one` reads the file of a `path=` option in chunks.  It refuses a NUL in any of them, and
appends none itself, while the type 11 builder takes `strlen` of what it stored.

* `PathRight` — the content is stored as a C string, and a file with a NUL is refused;
* `pathRight_iff` — so only a file with a NUL is treated as it should, and the builder leaves the
  block of any other; `fileUnterminated` is one.
-/

set_option autoImplicit false

namespace Smbios

variable {Q : Type} {qo : QemuOption Q} {s : State} {e : Entry Q} {path : CString}
  {chunks : List (List UInt8)}

/-- An `-smbios type=11,path=FILE` that gets to the file, which `read` returns in `chunks`. -/
structure PathEntry (qo : QemuOption Q) (s : State) (e : Entry Q) (path : CString)
    (chunks : List (List UInt8)) : Prop where
  type : e.type? qo = some 11
  free : testBit 11 s.opts.haveBinfileBitmap = false
  valid : qo.qemuOptsValidate e.opts qemuSmbiosType11Opts = .ok none
  pairs : ((qo.qemuOptPairs e.opts).filter fun p => p.1 ≠ "type") = [("path", path)]
  opened : e.files.qemuOpen path = true
  read : e.files.read path = (chunks, false)

/-- A file without NUL is stored as a C string with its content; any other is refused, and the
stored values stay. -/
structure PathRight (qo : QemuOption Q) (s : State) (e : Entry Q) (chunks : List (List UInt8)) :
    Prop where
  stored : 0 ∉ chunks.flatten → Accepts qo s e ∧ ∃ block c,
    (entryAdd qo s e).2.opts.type11 = s.opts.type11 ++ [some block] ∧
      readCString block = some c ∧ c.bytes = chunks.flatten
  refused : 0 ∈ chunks.flatten →
    ¬Accepts qo s e ∧ (entryAdd qo s e).2.opts.type11 = s.opts.type11

/-! ## The loop over the chunks -/

/-- The chunks are joined as long as none of them has a NUL. -/
theorem readOemString_eq (path : CString) (chunks : List (List UInt8)) :
    readOemString path (chunks, false) =
      if 0 ∈ chunks.flatten then .error (.nulInOemString path) else .ok chunks.flatten := by
  induction chunks with
  | nil => simp [readOemString]
  | cons chunk chunks ih =>
    unfold readOemString
    by_cases hnul : 0 ∈ chunk
    · have hjoined : 0 ∈ (chunk :: chunks).flatten := List.mem_append_left _ hnul
      rw [if_pos hnul, if_pos hjoined]
    · have hjoined : 0 ∈ (chunk :: chunks).flatten ↔ 0 ∈ chunks.flatten := by
        rw [List.flatten_cons, List.mem_append]
        exact or_iff_right hnul
      rw [if_neg hnul, ih]
      simp only [hjoined]
      split <;> rfl

/-- What `save_opt_list` does with a single `path` beside `type`. -/
theorem saveOptList_path {files : Files} {ps : List (String × CString)}
    (hpairs : (ps.filter fun p => p.1 ≠ "type") = [("path", path)])
    (hopened : files.qemuOpen path = true) (hread : files.read path = (chunks, false))
    (blocks : List (Option (List UInt8))) :
    saveOptList files ps blocks =
      if 0 ∈ chunks.flatten then (blocks, some (.nulInOemString path))
      else (blocks ++ [if chunks.flatten = [] then none else some chunks.flatten], none) := by
  -- behind the path there is nothing but `type`
  have hrest : ∀ (ps : List (String × CString)) blocks,
      (ps.filter fun p => p.1 ≠ "type") = [] → saveOptList files ps blocks = (blocks, none) := by
    intro ps
    induction ps with
    | nil => exact fun _ _ => rfl
    | cons p ps ih =>
      intro blocks hnil
      obtain ⟨name, value⟩ := p
      have hname : name = "type" := by
        by_contra hne
        simp [hne] at hnil
      subst hname
      have htail := ih blocks (by simpa using hnil)
      simp only [saveOptList, saveOptOne, String.reduceEq, if_false, if_true, List.append_nil]
      exact htail
  induction ps with
  | nil => cases hpairs
  | cons p ps ih =>
    obtain ⟨name, value⟩ := p
    by_cases hname : name = "type"
    · subst hname
      have htail := ih (by simpa using hpairs)
      simp only [saveOptList, saveOptOne, String.reduceEq, if_false, if_true, List.append_nil]
      exact htail
    · rw [List.filter_cons_of_pos (by simpa using hname)] at hpairs
      obtain ⟨hhead, hnil⟩ := List.cons.inj hpairs
      obtain ⟨rfl, rfl⟩ := Prod.mk.inj hhead
      simp only [saveOptList, saveOptOne, if_true, hopened, hread, readOemString_eq]
      by_cases hnul : 0 ∈ chunks.flatten
      · simp only [if_pos hnul, Except.map]
      · simp only [if_neg hnul, Except.map]
        exact hrest ps _ hnil

/-! ## One entry -/

/-- What an entry that gets to the file stores and reports. -/
theorem entryAdd_path (he : PathEntry qo s e path chunks) :
    (entryAdd qo s e).1 =
        .ok (if 0 ∈ chunks.flatten then some (.nulInOemString path) else none) ∧
      (entryAdd qo s e).2.opts = { s.opts with
        haveFieldsBitmap := setBit 11 s.opts.haveFieldsBitmap
        type11 := if 0 ∈ chunks.flatten then s.opts.type11 else
          s.opts.type11 ++ [if chunks.flatten = [] then none else some chunks.flatten] } := by
  have hlist := saveOptList_path he.pairs he.opened he.read s.opts.type11
  have htype := he.type
  unfold Entry.type? at htype
  unfold entryAdd smbiosEntryAdd
  cases hfile : qo.qemuOptGet e.opts "file" with
  | some val =>
    rw [hfile] at htype
    cases htype
  | none =>
    rw [hfile] at htype
    obtain ⟨val, hval, heleven⟩ := Option.map_eq_some_iff.mp htype
    have hrange : ¬11 > SMBIOS_MAX_TYPE := by decide
    have hfree : ¬testBit 11 s.opts.haveBinfileBitmap = true := by
      rw [he.free]
      exact Bool.false_ne_true
    rw [hval]
    simp only [addFields, heleven, if_neg hrange, if_neg hfree, saveFields, validated, he.valid,
      saveType11, hlist]
    split <;> exact ⟨rfl, rfl⟩

/-- A block without NUL stops the builder. -/
theorem type11_unterminated {h : Host} (hh : h.Contract) {ep : SmbiosEntryPointType}
    {block : List UInt8} (hskip : smbiosSkipTable s.opts 11 true = false)
    (hmem : some block ∈ s.opts.type11) (hno : 0 ∉ block) :
    ∃ s', smbiosBuildType11Table h ep s = .error .unterminatedString s' := by
  have hhalt : (type11Table s.opts).halt = some (.fault .unterminatedString) := by
    rcases type11Values_halt s.opts.type11 with ⟨-, hterm⟩ | ⟨hfault, -⟩
    · exact absurd (hterm block hmem) hno
    · exact hfault
  have hrun := @buildTable_eq h hh ep true (type11Table s.opts) s.opts hskip s.bld s.ep
  rw [hhalt] at hrun
  refine ⟨{ s with bld := s.bld.after (h.fresh ep) (type11Table s.opts) }, ?_⟩
  unfold smbiosBuildType11Table
  simp only [bind, EStateM.bind, get_run, if_neg (List.ne_nil_of_mem hmem), hrun]

/-- **`path=` does what it should exactly if the file has a NUL.**  Any other file that is not
empty is stored without a terminator, and the builder runs past its block. -/
theorem pathRight_iff (he : PathEntry qo s e path chunks) :
    (PathRight qo s e chunks ↔ 0 ∈ chunks.flatten) ∧
      (chunks.flatten ≠ [] → 0 ∉ chunks.flatten → ∀ h : Host, h.Contract → ∀ ep,
        ∃ s', smbiosBuildType11Table h ep (entryAdd qo s e).2 = .error .unterminatedString s') := by
  obtain ⟨hresult, hopts⟩ := entryAdd_path he
  refine ⟨⟨fun hright => ?_, fun hnul => ?_⟩, fun hne hno h hh ep => ?_⟩
  · by_contra hno
    obtain ⟨-, block, c, hstored, hread, -⟩ := hright.stored hno
    rw [hopts] at hstored
    simp only [if_neg hno, List.append_cancel_left_eq, List.cons.injEq, and_true] at hstored
    split at hstored
    · cases hstored
    · -- the block is the content, which has no NUL
      rw [← Option.some.inj hstored, readCString, if_neg hno] at hread
      cases hread
  · refine ⟨fun hno => absurd hnul hno, fun _ => ⟨fun hacc => ?_, ?_⟩⟩
    · rw [Accepts, hresult, if_pos hnul] at hacc
      cases Except.ok.inj hacc
    · rw [hopts]
      exact if_pos hnul
  · have hskip : smbiosSkipTable (entryAdd qo s e).2.opts 11 true = false := by
      have hmarked : testBit 11 (setBit 11 s.opts.haveFieldsBitmap) = true :=
        (testBit_setBit (by decide) 11 _).trans (Bool.or_true _)
      rw [hopts]
      simp only [smbiosSkipTable, he.free, hmarked, Bool.false_eq_true, if_false, if_true]
    refine type11_unterminated hh hskip (?_ : some chunks.flatten ∈ _) hno
    rw [hopts]
    simp only [if_neg hno, if_neg hne]
    exact List.mem_append_right _ (List.mem_singleton_self _)

/-- The OEM string of a file with the contents `bs`. -/
def pathEntry (bs : List UInt8) : Entry OptionList :=
  ⟨[("type", lit "11"), ("path", lit "oem.txt")], .holding bs⟩

theorem pathEntry_gets (bs : List UInt8) :
    PathEntry .reference {} (pathEntry bs) (lit "oem.txt") (if bs = [] then [] else [bs]) where
  type := rfl
  free := rfl
  valid := rfl
  pairs := rfl
  opened := rfl
  read := rfl

/-- A file with a NUL in it. -/
theorem pathRight_iff_nul :
    (PathRight .reference {} (pathEntry [0x61, 0, 0x62]) [[0x61, 0, 0x62]] ↔
      0 ∈ [[(0x61 : UInt8), 0, 0x62]].flatten) ∧
      ([[(0x61 : UInt8), 0, 0x62]].flatten ≠ [] → 0 ∉ [[(0x61 : UInt8), 0, 0x62]].flatten →
        ∀ h : Host, h.Contract → ∀ ep, ∃ s', smbiosBuildType11Table h ep
          (entryAdd .reference {} (pathEntry [0x61, 0, 0x62])).2 = .error .unterminatedString s') :=
  pathRight_iff (pathEntry_gets [0x61, 0, 0x62])

/-- The file "abc": its block has no terminator, and the builder runs past it. -/
theorem fileUnterminated : ¬PathRight .reference {} (pathEntry [0x61, 0x62, 0x63])
    [[0x61, 0x62, 0x63]] ∧ ∃ s', smbiosBuildType11Table .plain .type64
      (entryAdd .reference {} (pathEntry [0x61, 0x62, 0x63])).2 =
        .error .unterminatedString s' := by
  have hopts := (entryAdd_path (pathEntry_gets [0x61, 0x62, 0x63])).2
  have hblocks : (entryAdd .reference {} (pathEntry [0x61, 0x62, 0x63])).2.opts.type11 =
      [some [0x61, 0x62, 0x63]] := by
    rw [hopts]
    rfl
  refine ⟨fun hright => ?_, ?_⟩
  · obtain ⟨-, block, c, hstored, hread, -⟩ := hright.stored (by decide)
    rw [hblocks] at hstored
    obtain rfl := Option.some.inj (List.cons.inj hstored).1
    cases hread
  · have hmem : some [0x61, 0x62, 0x63] ∈
        (entryAdd QemuOption.reference {} (pathEntry [0x61, 0x62, 0x63])).2.opts.type11 := by
      rw [hblocks]
      exact List.mem_singleton_self _
    exact type11_unterminated Host.plain_contract (by rw [hopts]; rfl) hmem (by decide)

end Smbios
