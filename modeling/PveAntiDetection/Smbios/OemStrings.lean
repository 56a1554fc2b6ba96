import PveAntiDetection.Smbios.Auto
import PveAntiDetection.Smbios.Merge
import PveAntiDetection.Smbios.Parse

/-!
# The OEM strings of type 11

`save_opt_list` appends the `value=` options of every `-smbios type=11`, and the type 11 builder
sets one string for each and stores their number in a byte.

* `StoredValues` — what a run has stored (`storedValues_configure`, `storedValues_run`);
* `OemStringsRight` — the structure has the values as its strings and their number as its count;
* `oemStringsRight_iff` — it does exactly if no value is empty and there are at most 255;
  `emptyValueCounted` is a value that is counted and not set.
-/

set_option autoImplicit false

namespace Smbios

open Bytes Records Runs

variable {Q : Type} {qo : QemuOption Q} {h : Host} {ep : SmbiosEntryPointType} {s : State}
  {e : Entry Q} {vs : List CString}

/-! ## The values of a run -/

/-- The values of a list of options. -/
def pairValues (ps : List (String × CString)) : List CString :=
  (ps.filter fun p => p.1 = "value").map Prod.snd

/-- The values that an entry of type 11 gives. -/
def Entry.oemValues (qo : QemuOption Q) (e : Entry Q) : List CString :=
  if e.type? qo = some 11 then pairValues (qo.qemuOptPairs e.opts) else []

/-- The values that a call gives. -/
def callValues (qo : QemuOption Q) : Call Q → List CString
  | .entryAdd e => e.oemValues qo
  | _ => []

/-- The values of all calls, in order. -/
def oemValues (qo : QemuOption Q) (cs : List (Call Q)) : List CString :=
  history (configure qo) (fun _ c => callValues qo c) {} cs

/-- An entry of type 11 is accepted and names no file. -/
def ValueCall (qo : QemuOption Q) (s : State) (c : Call Q) : Prop :=
  ∀ e, c = .entryAdd e → e.type? qo = some 11 →
    Accepts qo s e ∧ ∀ p ∈ qo.qemuOptPairs e.opts, p.1 ≠ "path"

/-- The block that a value is stored in. -/
def storedValue (v : CString) : Option (List UInt8) := some (v.bytes ++ [0])

/-- The values `vs` have been stored, in this order. -/
structure StoredValues (o : Options) (vs : List CString) : Prop where
  blocks : o.type11 = vs.map storedValue
  marked : vs ≠ [] → testBit 11 o.haveFieldsBitmap = true

/-- The builder appends a structure whose strings are the values, and whose count is the number of
its strings; nothing if there is no value. -/
def OemStringsRight (h : Host) (ep : SmbiosEntryPointType) (s : State) (vs : List CString) : Prop :=
  ∃ s', smbiosBuildType11Table h ep s = .ok () s' ∧
    (vs = [] → s'.bld = s.bld) ∧
    (vs ≠ [] → ∃ x,
      parseAll parseStructure (s'.bld.buf.bytes.drop s.bld.buf.bytes.length) = some [x] ∧
        x.type = 11 ∧ memberValue x.formatted SmbiosType11.count = x.strings.length ∧
          x.strings = vs.map CString.bytes)

/-! ## One entry -/

/-- `save_opt_list` on options without a file. -/
theorem saveOptList_values (files : Files) {ps : List (String × CString)}
    (hpath : ∀ p ∈ ps, p.1 ≠ "path") (blocks : List (Option (List UInt8)))
    (hok : (saveOptList files ps blocks).2 = none) :
    (saveOptList files ps blocks).1 = blocks ++ (pairValues ps).map storedValue := by
  induction ps generalizing blocks with
  | nil => exact (List.append_nil blocks).symm
  | cons p ps ih =>
    obtain ⟨name, value⟩ := p
    have hname : name ≠ "path" := hpath _ (List.mem_cons_self ..)
    have ih' := ih fun p hp => hpath p (List.mem_cons_of_mem _ hp)
    unfold saveOptList saveOptOne at hok ⊢
    rw [if_neg hname] at hok ⊢
    by_cases hvalue : name = "value"
    · rw [if_pos hvalue] at hok ⊢
      have hcons : pairValues ((name, value) :: ps) = value :: pairValues ps := by
        simp [pairValues, hvalue]
      rw [hcons, List.map_cons]
      exact (ih' _ hok).trans (List.append_assoc ..)
    · rw [if_neg hvalue] at hok ⊢
      by_cases htype : name = "type"
      · rw [if_pos htype] at hok ⊢
        have hcons : pairValues ((name, value) :: ps) = pairValues ps := by
          simp [pairValues, hvalue]
        rw [hcons]
        exact (ih' _ hok).trans (by rw [List.append_nil])
      · rw [if_neg htype] at hok
        cases hok

/-- **An accepted entry of type 11** runs `save_opt_list` on its options. -/
theorem accepted_type11 (htype : e.type? qo = some 11) (hacc : Accepts qo s e) :
    (entryAdd qo s e).2.opts = (saveType11 qo e.opts e.files
        { s.opts with haveFieldsBitmap := setBit 11 s.opts.haveFieldsBitmap }).1 ∧
      (saveOptList e.files (qo.qemuOptPairs e.opts) s.opts.type11).2 = none := by
  obtain ⟨save, hsaves, hnone, hopts⟩ := accepted_saves htype hacc
  cases hsaves
  exact ⟨hopts, hnone⟩

/-- The fields of another type are other variables. -/
theorem saveFields_type11 (e : Entry Q) (o : Options) {type : Nat} (hne : type ≠ 11) :
    (saveFields qo e.opts e.files o type).2.type11 = o.type11 := by
  refine saveFields_induct (P := fun o' => o'.type11 = o.type11) rfl fun save hsaves => ?_
  cases hsaves with
  | type0 =>
    obtain ⟨t, heq, -⟩ := @saveType0_strings Q qo e.opts o
    rw [heq]
  | type1 =>
    obtain ⟨uuid, heq⟩ := @saveType1_strings Q qo e.opts o
    rw [heq]
  | type11 => exact absurd rfl hne
  | type41 =>
    unfold saveType41
    split <;> rfl
  | _ => rfl

/-- **Any other entry** keeps the values. -/
theorem entryAdd_type11 (hne : e.type? qo ≠ some 11) :
    (entryAdd qo s e).2.opts.type11 = s.opts.type11 := by
  rcases entryAdd_opts qo s e with ⟨hsame, -, -⟩ | ⟨type, htype, -, hopts⟩
  · exact hsame
  · rw [hopts]
    refine saveFields_type11 e _ ?_
    rintro rfl
    exact hne htype

/-! ## Runs -/

/-- One call appends the values that it gives. -/
theorem storedValues_configure (c : Call Q) (hcall : ValueCall qo s c)
    (hs : StoredValues s.opts vs) :
    StoredValues (configure qo s c).2.opts (vs ++ callValues qo c) := by
  have hmarked : vs ≠ [] → testBit 11 (configure qo s c).2.opts.haveFieldsBitmap = true :=
    fun hne => configure_marked (hs.marked hne) c
  have hother : (configure qo s c).2.opts.type11 = s.opts.type11 →
      StoredValues (configure qo s c).2.opts (vs ++ []) := by
    intro hblocks
    rw [List.append_nil]
    exact ⟨hblocks.trans hs.blocks, hmarked⟩
  cases c with
  | entryAdd e =>
    by_cases htype : e.type? qo = some 11
    · obtain ⟨hacc, hpath⟩ := hcall e rfl htype
      obtain ⟨hopts, hok⟩ := accepted_type11 htype hacc
      have hvalues : callValues qo (.entryAdd e) = pairValues (qo.qemuOptPairs e.opts) :=
        if_pos htype
      show StoredValues (entryAdd qo s e).2.opts _
      rw [hopts, hvalues]
      refine ⟨?_, fun _ => ?_⟩
      · show (saveOptList e.files (qo.qemuOptPairs e.opts) s.opts.type11).1 = _
        rw [saveOptList_values e.files hpath _ hok, hs.blocks, List.map_append]
      · show testBit 11 (setBit 11 s.opts.haveFieldsBitmap) = true
        rw [testBit_setBit (by decide)]
        exact Bool.or_true _
    · have hvalues : callValues qo (.entryAdd e) = [] := if_neg htype
      rw [hvalues]
      exact hother (entryAdd_type11 htype)
  | setCpuid version features => exact hother rfl
  | setDefaultProcessorFamily processorFamily =>
    refine hother ?_
    unfold configure smbiosSetDefaultProcessorFamily
    simp only
    split <;> rfl
  | setDefaults manufacturer product version => exact hother rfl

/-- **A run** has stored its values. -/
theorem storedValues_run {cs : List (Call Q)} (hcalls : Each (configure qo) (ValueCall qo) {} cs) :
    StoredValues (final (configure qo) {} cs).opts (oemValues qo cs) := by
  have hstart : StoredValues ({} : State).opts [] := ⟨rfl, fun hne => absurd rfl hne⟩
  have hstep : ∀ (s : State) vs c, ValueCall qo s c → StoredValues s.opts vs →
      StoredValues (configure qo s c).2.opts (vs ++ callValues qo c) :=
    fun _ _ c => storedValues_configure c
  have hrun : StoredValues (final (configure qo) {} cs).opts ([] ++ oemValues qo cs) :=
    final_history_induct_each (I := fun s vs => StoredValues s.opts vs) hstep cs hcalls hstart
  exact hrun

/-! ## The structure -/

theorem readCString_storedValue (v : CString) : readCString (v.bytes ++ [0]) = some v := by
  have hnul : 0 ∈ v.bytes ++ [0] := List.mem_append_right _ (List.mem_singleton_self 0)
  obtain ⟨s, hs⟩ := readCString_isSome hnul
  have hfree : ∀ b ∈ v.bytes, decide (b ≠ 0) = true := by
    intro b hb
    simp only [decide_eq_true_eq]
    rintro rfl
    exact v.nulFree hb
  have hbytes : s.bytes = v.bytes := by
    rw [readCString_content hs, List.takeWhile_append_of_pos hfree]
    exact List.append_nil _
  cases s
  cases v
  rw [hs]
  simpa using hbytes

/-- The strings that type 11 sets are the values that are not empty. -/
theorem type11Values_stored (vs : List CString) :
    stringsOf ((type11Values (vs.map storedValue)).1.map Assign.lower) =
      (vs.map CString.bytes).filter (· ≠ []) := by
  induction vs with
  | nil => rfl
  | cons v vs ih =>
    have hcons : (type11Values ((v :: vs).map storedValue)).1 =
        .strList (some v) :: (type11Values (vs.map storedValue)).1 := by
      simp only [List.map_cons, storedValue, type11Values, readCString_storedValue]
    have hone : stringsOf [.strList (some v)] = [v.bytes].filter (· ≠ []) := by
      by_cases hnil : v.bytes = [] <;> simp [stringsOf, Stmt.string?, CharPtr.content, hnil]
    rw [hcons, List.map_cons, stringsOf_cons, ih, List.map_cons]
    refine (congrArg (· ++ _) hone).trans ?_
    rw [← List.filter_append, List.singleton_append]

/-- The count is the low byte of the number of values. -/
theorem count_type11Table (o : Options) (fresh : Nat → UInt8) (off : Nat) :
    memberValue ((type11Table o).formatted fresh off) SmbiosType11.count =
      o.type11.length % 256 := by
  have hfits : headerSize + (le 1 o.type11.length).length ≤
      (headerBytes 11 5 T11_BASE ++ freshBytes fresh (off + headerSize) 1).length := by
    rw [List.length_append, length_headerBytes, length_freshBytes, length_le]
  have hload := load_store_same hfits
  rw [length_le] at hload
  unfold memberValue
  rw [type11_formatted]
  exact (congrArg ofLe hload).trans (ofLe_le 1 _)

theorem StoredValues.terminated (hs : StoredValues s.opts vs) :
    ∀ block, some block ∈ s.opts.type11 → 0 ∈ block := by
  intro block hmem
  rw [hs.blocks] at hmem
  obtain ⟨v, -, hv⟩ := List.mem_map.mp hmem
  rw [← Option.some.inj hv]
  exact List.mem_append_right _ (List.mem_singleton_self 0)

/-- What the builder appends for stored values. -/
theorem type11_emits (hh : h.Contract) (hs : StoredValues s.opts vs) (hne : vs ≠ [])
    (hskip : smbiosSkipTable s.opts 11 true = false) :
    ∃ s' x, smbiosBuildType11Table h ep s = .ok () s' ∧
      parseAll parseStructure (s'.bld.buf.bytes.drop s.bld.buf.bytes.length) = some [x] ∧
      x.type = 11 ∧ memberValue x.formatted SmbiosType11.count = vs.length % 256 ∧
      x.strings = (vs.map CString.bytes).filter (· ≠ []) := by
  have hsome : s.opts.type11 ≠ [] := by
    rw [hs.blocks]
    simpa using hne
  have hstrings : (type11Table s.opts).strings = (vs.map CString.bytes).filter (· ≠ []) := by
    rw [type11_strings, hs.blocks, type11Values_stored]
  have hcount := count_type11Table s.opts (h.fresh ep) s.bld.buf.bytes.length
  have htype : (type11Table s.opts).type = 11 := rfl
  have hhalt := type11Table_halt hs.terminated
  have hrun := @buildTable_eq h hh ep true (type11Table s.opts) s.opts hskip s.bld s.ep
  have hbuild : smbiosBuildType11Table h ep s = .ok () { s with
      opts := { s.opts with type11 := s.opts.type11.map fun _ => none }
      bld := s.bld.after (h.fresh ep) (type11Table s.opts) } := by
    unfold smbiosBuildType11Table
    rw [hhalt] at hrun
    simp only [bind, EStateM.bind, get_run, if_neg hsome, hrun]
    rfl
  rw [hs.blocks, List.length_map] at hcount
  generalize type11Table s.opts = t at hstrings hcount htype hhalt hbuild
  have hparse := parseAll_flatten (List.Forall₂.cons
    (parseStructure_encode (h.fresh ep) s.bld.buf.bytes.length t) List.Forall₂.nil)
  rw [List.flatten_cons, List.flatten_nil, List.append_nil] at hparse
  refine ⟨_, t.parsed (h.fresh ep) s.bld.buf.bytes.length, hbuild, ?_, ?_, ?_, ?_⟩
  · rw [Build.after_bytes hhalt, List.drop_left]
    exact hparse
  · rw [Table.parsed_type]
    exact htype
  · rw [Table.parsed_formatted]
    exact hcount
  · rw [Table.parsed_strings]
    exact hstrings

theorem filter_ne_nil_iff (vs : List CString) :
    (vs.map CString.bytes).filter (· ≠ []) = vs.map CString.bytes ↔ ∀ v ∈ vs, v.bytes ≠ [] := by
  simp [List.filter_eq_self]

/-- The builder on stored values. -/
theorem oemStringsRight_of_stored (hh : h.Contract) (hs : StoredValues s.opts vs)
    (hskip : vs ≠ [] → smbiosSkipTable s.opts 11 true = false) :
    OemStringsRight h ep s vs ↔ (∀ v ∈ vs, v.bytes ≠ []) ∧ vs.length < 256 := by
  by_cases hnil : vs = []
  · subst hnil
    have hblocks : s.opts.type11 = [] := hs.blocks
    have hrun : smbiosBuildType11Table h ep s = .ok () s := by
      unfold smbiosBuildType11Table
      simp only [bind, EStateM.bind, get_run, hblocks, if_true]
      rfl
    exact iff_of_true ⟨s, hrun, fun _ => rfl, fun hne => absurd rfl hne⟩ (by simp)
  · obtain ⟨s', x, hrun, hparse, htype, hcount, hstrings⟩ :=
      @type11_emits h ep s vs hh hs hnil (hskip hnil)
    rw [← filter_ne_nil_iff, ← hstrings]
    constructor
    · rintro ⟨s'', hrun', -, hright⟩
      rw [hrun, EStateM.Result.ok.injEq] at hrun'
      obtain ⟨-, rfl⟩ := hrun'
      obtain ⟨y, hparse', -, hcounted, hvalues⟩ := hright hnil
      rw [hparse, Option.some.injEq, List.cons.injEq] at hparse'
      obtain ⟨rfl, -⟩ := hparse'
      rw [hcount, hvalues, List.length_map] at hcounted
      exact ⟨hvalues, by omega⟩
    · rintro ⟨hvalues, hlt⟩
      refine ⟨s', hrun, fun heq => absurd heq hnil, fun _ => ⟨x, hparse, htype, ?_, hvalues⟩⟩
      rw [hcount, hvalues, List.length_map, Nat.mod_eq_of_lt hlt]

/-- **The type 11 structure of a run has its values, all counted, exactly if** none is empty and
there are at most 255. -/
theorem oemStringsRight_iff (hh : h.Contract) {cs : List (Call Q)}
    (hcalls : Each (configure qo) (ValueCall qo) {} cs)
    (hs : s.opts = (final (configure qo) {} cs).opts) :
    OemStringsRight h ep s (oemValues qo cs) ↔
      (∀ v ∈ oemValues qo cs, v.bytes ≠ []) ∧ (oemValues qo cs).length < 256 := by
  have hstored := storedValues_run hcalls
  have hskip := fun hne => @not_skipped_of_marked _ _ _ _ true (hstored.marked hne)
  rw [← hs] at hstored hskip
  exact oemStringsRight_of_stored hh hstored hskip

/-- The OEM strings in one entry of type 11. -/
def oemCall (vs : List CString) : Call OptionList :=
  .entryAdd (optionEntry (("type", lit "11") :: vs.map fun v => ("value", v)))

/-- Two entries with one string each. -/
theorem oemStringsRight_iff_two :
    OemStringsRight .plain .type64
        (final (configure .reference) {} [oemCall [lit "hello"], oemCall [lit "world"]])
        (oemValues .reference [oemCall [lit "hello"], oemCall [lit "world"]]) ↔
      (∀ v ∈ oemValues .reference [oemCall [lit "hello"], oemCall [lit "world"]], v.bytes ≠ []) ∧
        (oemValues .reference [oemCall [lit "hello"], oemCall [lit "world"]]).length < 256 := by
  refine oemStringsRight_iff Host.plain_contract ⟨?_, ?_, trivial⟩ rfl
  · rintro e ⟨⟩ -
    exact ⟨rfl, by decide +kernel⟩
  · rintro e ⟨⟩ -
    exact ⟨rfl, by decide +kernel⟩

/-- A structure with the count 1 and no string, for one empty value. -/
theorem emptyValueCounted :
    oemValues .reference [oemCall [lit ""]] = [lit ""] ∧
      Accepts .reference {} (optionEntry [("type", lit "11"), ("value", lit "")]) ∧
      ¬OemStringsRight .plain .type64 (final (configure .reference) {} [oemCall [lit ""]])
        [lit ""] := by
  have hvalues : oemValues .reference [oemCall [lit ""]] = [lit ""] := by decide +kernel
  have hstored := @storedValues_run OptionList .reference [oemCall [lit ""]] ⟨by
    rintro e ⟨⟩ -
    exact ⟨rfl, by decide +kernel⟩, trivial⟩
  rw [hvalues] at hstored
  refine ⟨hvalues, rfl, fun hright => ?_⟩
  have hempty := ((oemStringsRight_of_stored Host.plain_contract hstored fun hne =>
    not_skipped_of_marked (hstored.marked hne)).mp hright).1
  exact absurd rfl (hempty _ (List.mem_singleton_self _))

end Smbios
