import PveAntiDetection.Smbios.DeviceEntries

/-!
# The names of the options

`smbios.c` lists the options of a type three times: in its descriptor table, in the branch of
`smbios_entry_add` that reads them, and in the builder.

* `Reads` — the result of the branch depends on an option; `Declares` — the table has its name;
* `OptionsRight` — the two agree, the declared device takes effect, and a scan of the table stops;
* `optionsRight_iff` — so it is for every type but 9; `slotDeviceIgnored` is an entry of type 9.
-/

set_option autoImplicit false

namespace Smbios

/-! ## The branches -/

/-- The descriptor table of a type. -/
def descsOf : Nat → Option (List QemuOptDesc)
  | 0 => some qemuSmbiosType0Opts
  | 1 => some qemuSmbiosType1Opts
  | 2 => some qemuSmbiosType2Opts
  | 3 => some qemuSmbiosType3Opts
  | 4 => some qemuSmbiosType4Opts
  | 8 => some qemuSmbiosType8Opts
  | 9 => some qemuSmbiosType9Opts
  | 11 => some qemuSmbiosType11Opts
  | 17 => some qemuSmbiosType17Opts
  | 41 => some qemuSmbiosType41Opts
  | _ => none

/-- The assignments of a type, behind the validation. -/
def branchOf {Q : Type} (qo : QemuOption Q) (e : Entry Q) (type : Nat) :
    Options → Options × Option Error :=
  match type with
  | 0 => saveType0 qo e.opts
  | 1 => saveType1 qo e.opts
  | 2 => saveType2 qo e.opts
  | 3 => saveType3 qo e.opts
  | 4 => saveType4 qo e.opts
  | 8 => saveType8 qo e.opts
  | 9 => saveType9 qo e.opts
  | 11 => saveType11 qo e.opts e.files
  | 17 => saveType17 qo e.opts
  | 41 => saveType41 qo e.opts
  | type => fun o => (o, some (.unknownType type))

/-- **The `switch`** validates the options against the table and runs the branch. -/
theorem saveFields_eq {Q : Type} (qo : QemuOption Q) (e : Entry Q) (o : Options) (type : Nat) :
    saveFields qo e.opts e.files o type =
      match descsOf type with
      | some descs => validated qo e.opts descs (branchOf qo e type) o
      | none => (.ok (some (.unknownType type)), o) := by
  unfold saveFields
  split
  case h_11 =>
    have hnone : descsOf type = none := by
      unfold descsOf
      split <;> first | rfl | contradiction
    rw [hnone]
  all_goals rfl

/-- The options of the user, with any `qemu_uuid_parse`. -/
def QemuOption.referenceWith (parse : CString → Option QemuUUID) : QemuOption OptionList :=
  { QemuOption.reference with qemuUuidParse := parse }

/-- The entries differ in the option `name` at most. -/
structure AgreeOff (name : String) (e e' : Entry OptionList) : Prop where
  opts : e.opts.filter (·.1 ≠ name) = e'.opts.filter (·.1 ≠ name)
  files : e.files = e'.files

/-- The branch of a type reads an option: two entries that it takes, and that differ in this option
only, leave different fields. -/
def Reads (type : Nat) (name : String) : Prop :=
  ∃ parse e e' o, AgreeOff name e e' ∧
    (branchOf (.referenceWith parse) e type o).2 = none ∧
    (branchOf (.referenceWith parse) e' type o).2 = none ∧
    (branchOf (.referenceWith parse) e type o).1 ≠ (branchOf (.referenceWith parse) e' type o).1

/-- A scan of the table finds the name. -/
def Declares (descs : List QemuOptDesc) (name : String) : Prop :=
  ∃ d, findDescByName descs name = .ok (some d)

/-- No scan runs past the last entry of the table. -/
def ScanStops (descs : List QemuOptDesc) : Prop :=
  ∀ name, findDescByName descs name ≠ .error .descOutOfBounds

/-- The options of a type; `smbios_entry_add` itself reads `type`. -/
structure OptionsRight (type : Nat) (descs : List QemuOptDesc) : Prop where
  names : ∀ name, Declares descs name ↔ name = "type" ∨ Reads type name
  devices : ∀ d ∈ [slots, onboardDevices], d.type = type →
    ∀ parse, TakesEffect (.referenceWith parse) d
  stops : ScanStops descs

/-! ## Scans -/

/-- A table with an end of list. -/
theorem scanStops_of_end {descs : List QemuOptDesc} (hend : ∃ d ∈ descs, d.name = none) :
    ScanStops descs := by
  intro name
  induction descs with
  | nil =>
    obtain ⟨d, hd, -⟩ := hend
    cases hd
  | cons d ds ih =>
    unfold findDescByName
    cases hname : d.name with
    | none => exact fun hf => nomatch hf
    | some n =>
      simp only
      split
      · exact fun hf => nomatch hf
      · refine ih ?_
        obtain ⟨d', hmem, hnone⟩ := hend
        rcases List.mem_cons.mp hmem with rfl | hmem
        · rw [hname] at hnone
          cases hnone
        · exact ⟨d', hmem, hnone⟩

/-- The names of a table. -/
def declared (descs : List QemuOptDesc) : List String := descs.filterMap QemuOptDesc.name

theorem mem_declared {descs : List QemuOptDesc} {name : String} (hname : Declares descs name) :
    name ∈ declared descs := by
  obtain ⟨d, hd⟩ := hname
  induction descs with
  | nil => cases hd
  | cons d' ds ih =>
    unfold findDescByName at hd
    cases hn : d'.name with
    | none =>
      rw [hn] at hd
      cases hd
    | some n =>
      rw [hn] at hd
      have hcons : declared (d' :: ds) = n :: declared ds := by
        simp [declared, hn]
      rw [hcons]
      simp only at hd
      split at hd
      · rename_i heq
        rw [heq]
        exact List.mem_cons_self ..
      · exact List.mem_cons_of_mem _ (ih hd)

/-! ## What a branch depends on -/

theorem last_filter (q : OptionList) {name m : String} (hne : m ≠ name) :
    OptionList.last (q.filter (·.1 ≠ name)) m = q.last m := by
  have hpred : ∀ p : String × CString,
      decide (decide (p.1 ≠ name) = true ∧ decide (p.1 = m) = true) = decide (p.1 = m) := by
    intro p
    by_cases hp : p.1 = m <;> simp [hp, hne]
  unfold OptionList.last
  rw [← List.filter_reverse, List.find?_filter]
  simp only [hpred]

variable {name : String} {e e' : Entry OptionList} {parse : CString → Option QemuUUID}

/-- The getters of the other options. -/
theorem AgreeOff.getters (he : AgreeOff name e e') {m : String} (hne : m ≠ name) :
    (QemuOption.referenceWith parse).qemuOptGet e.opts m =
        (QemuOption.referenceWith parse).qemuOptGet e'.opts m ∧
      (QemuOption.referenceWith parse).qemuOptGetNumber e.opts m =
        (QemuOption.referenceWith parse).qemuOptGetNumber e'.opts m ∧
      (QemuOption.referenceWith parse).qemuOptGetBool e.opts m =
        (QemuOption.referenceWith parse).qemuOptGetBool e'.opts m := by
  have hlast : e.opts.last m = e'.opts.last m := by
    rw [← last_filter e.opts hne, he.opts, last_filter e'.opts hne]
  refine ⟨hlast, ?_, ?_⟩
  · funext d
    show ((e.opts.last m).map _).getD d = _
    rw [hlast]
    rfl
  · funext d
    show ((e.opts.last m).map _).getD d = _
    rw [hlast]
    rfl

/-- Where `save_opt_list` succeeds, every option has one of its names. -/
theorem saveOptList_names {files : Files} {ps : List (String × CString)}
    {blocks : List (Option (List UInt8))} (hok : (saveOptList files ps blocks).2 = none) :
    ∀ p ∈ ps, p.1 ∈ ["type", "value", "path"] := by
  induction ps generalizing blocks with
  | nil => exact fun p hp => nomatch hp
  | cons p ps ih =>
    obtain ⟨m, value⟩ := p
    unfold saveOptList at hok
    split at hok
    · cases hok
    · rename_i hone
      refine List.forall_mem_cons.mpr ⟨?_, ih hok⟩
      unfold saveOptOne at hone
      by_cases hpath : m = "path"
      · simp [hpath]
      · by_cases hvalue : m = "value"
        · simp [hvalue]
        · by_cases htype : m = "type"
          · simp [htype]
          · rw [if_neg hpath, if_neg hvalue, if_neg htype] at hone
            cases hone

/-- **The branch does not depend on a name that the table lacks.** -/
theorem branch_agree {type : Nat} (hnine : type ≠ 9) {descs : List QemuOptDesc}
    (hdescs : descsOf type = some descs) (hname : name ∉ declared descs)
    (he : AgreeOff name e e') {o : Options}
    (hok : (branchOf (.referenceWith parse) e type o).2 = none)
    (hok' : (branchOf (.referenceWith parse) e' type o).2 = none) :
    (branchOf (.referenceWith parse) e type o).1 =
      (branchOf (.referenceWith parse) e' type o).1 := by
  have hget : ∀ m ∈ declared descs, (QemuOption.referenceWith parse).qemuOptGet e.opts m =
      (QemuOption.referenceWith parse).qemuOptGet e'.opts m :=
    fun m hm => (he.getters (ne_of_mem_of_not_mem hm hname)).1
  have hnumber : ∀ m ∈ declared descs, (QemuOption.referenceWith parse).qemuOptGetNumber e.opts m =
      (QemuOption.referenceWith parse).qemuOptGetNumber e'.opts m :=
    fun m hm => (he.getters (ne_of_mem_of_not_mem hm hname)).2.1
  have hbool : ∀ m ∈ declared descs, (QemuOption.referenceWith parse).qemuOptGetBool e.opts m =
      (QemuOption.referenceWith parse).qemuOptGetBool e'.opts m :=
    fun m hm => (he.getters (ne_of_mem_of_not_mem hm hname)).2.2
  unfold descsOf at hdescs
  split at hdescs
  case h_1 =>
    obtain rfl := Option.some.inj hdescs
    simp [branchOf, saveType0, saveOpt, hget, hbool, declared, qemuSmbiosType0Opts]
  case h_2 =>
    obtain rfl := Option.some.inj hdescs
    simp [branchOf, saveType1, saveOpt, hget, declared, qemuSmbiosType1Opts]
  case h_3 =>
    obtain rfl := Option.some.inj hdescs
    simp [branchOf, saveType2, saveOpt, hget, declared, qemuSmbiosType2Opts]
  case h_4 =>
    obtain rfl := Option.some.inj hdescs
    simp [branchOf, saveType3, saveOpt, hget, declared, qemuSmbiosType3Opts]
  case h_5 =>
    obtain rfl := Option.some.inj hdescs
    simp [branchOf, saveType4, saveOpt, hget, hnumber, declared, qemuSmbiosType4Opts]
  case h_6 =>
    obtain rfl := Option.some.inj hdescs
    simp [branchOf, saveType8, saveOpt, hget, hnumber, declared, qemuSmbiosType8Opts]
  case h_7 => exact absurd rfl hnine
  case h_8 =>
    -- every option is visited, and none of them has another name
    obtain rfl := Option.some.inj hdescs
    have hall : ∀ e : Entry OptionList, (branchOf (.referenceWith parse) e 11 o).2 = none →
        e.opts.filter (·.1 ≠ name) = e.opts := by
      intro e hok
      refine List.filter_eq_self.mpr fun p hp => ?_
      have hmem := saveOptList_names hok p hp
      refine decide_eq_true fun heq => hname ?_
      rw [← heq]
      revert hmem
      simp only [List.mem_cons, List.not_mem_nil, or_false]
      rintro (h | h | h) <;> rw [h] <;> decide
    have hopts : e.opts = e'.opts := by
      rw [← hall e hok, he.opts, hall e' hok']
    obtain ⟨q, files⟩ := e
    obtain ⟨q', files'⟩ := e'
    obtain rfl : q = q' := hopts
    obtain rfl : files = files' := he.files
    rfl
  case h_9 =>
    obtain rfl := Option.some.inj hdescs
    simp [branchOf, saveType17, saveOpt, hget, hnumber, declared, qemuSmbiosType17Opts]
  case h_10 =>
    obtain rfl := Option.some.inj hdescs
    simp [branchOf, saveType41, saveOpt, hget, hnumber, declared, qemuSmbiosType41Opts]
  case h_11 => cases hdescs

/-! ## What a branch reads -/

deriving instance DecidableEq for Type0, Type1, Type2, Type3, Type4, Type8Instance, Type9Instance,
  Type17, Type41Instance, Options

/-- A value for each option, other than its default. -/
def probeValue (name : String) : CString :=
  if name = "uefi" then lit "on"
  else if name = "release" then lit "1.2"
  else if name = "kind" then lit "video"
  else lit "7"

/-- An entry with one option, among files with one byte. -/
def probeEntry (name : String) : Entry OptionList := ⟨[(name, probeValue name)], .holding [0x61]⟩

/-- A `qemu_uuid_parse` for which every string is the same UUID. -/
def zeroUuid (_ : CString) : Option QemuUUID := some ⟨List.replicate 16 0, rfl⟩

/-- What the branch leaves behind an entry, if it takes it. -/
def probeResult (e : Entry OptionList) (type : Nat) : Option Options :=
  match branchOf (.referenceWith zeroUuid) e type {} with
  | (o, none) => some o
  | (_, some _) => none

/-- Entries with an option and without it leave different fields. -/
def probed (type : Nat) (name : String) : Bool :=
  match probeResult ⟨[], .holding [0x61]⟩ type, probeResult (probeEntry name) type with
  | some o, some o' => o ≠ o'
  | _, _ => false

theorem probeResult_some {e : Entry OptionList} {type : Nat} {o : Options}
    (ho : probeResult e type = some o) :
    branchOf (.referenceWith zeroUuid) e type {} = (o, none) := by
  unfold probeResult at ho
  split at ho
  · rename_i heq
    rw [heq, Option.some.inj ho]
  · cases ho

theorem reads_of_probed {type : Nat} (hprobed : probed type name = true) : Reads type name := by
  unfold probed at hprobed
  split at hprobed
  · rename_i o o' ho ho'
    have hbare := probeResult_some ho
    have hnamed := probeResult_some ho'
    refine ⟨zeroUuid, ⟨[], .holding [0x61]⟩, probeEntry name, {}, ⟨?_, rfl⟩, ?_, ?_, ?_⟩
    · simp [probeEntry]
    · rw [hbare]
    · rw [hnamed]
    · rw [hbare, hnamed]
      exact of_decide_eq_true hprobed
  · cases hprobed

/-- **Every declared option is read**, by `smbios_entry_add` or by the branch. -/
theorem reads_of_declared {type : Nat} (hnine : type ≠ 9) {descs : List QemuOptDesc}
    (hdescs : descsOf type = some descs) (hname : name ∈ declared descs) :
    name = "type" ∨ Reads type name := by
  have hprobes : ((declared descs).all fun name => name = "type" || probed type name) = true := by
    unfold descsOf at hdescs
    split at hdescs
    case h_7 => exact absurd rfl hnine
    case h_11 => cases hdescs
    all_goals
      obtain rfl := Option.some.inj hdescs
      decide +kernel
  have hread := List.all_eq_true.mp hprobes name hname
  rw [Bool.or_eq_true, decide_eq_true_eq] at hread
  exact hread.imp_right reads_of_probed

/-- **The branch reads no other option.** -/
theorem declared_of_reads {type : Nat} (hnine : type ≠ 9) {descs : List QemuOptDesc}
    (hdescs : descsOf type = some descs) (hreads : Reads type name) : name ∈ declared descs := by
  obtain ⟨parse, e, e', o, hagree, hok, hok', hne⟩ := hreads
  by_contra hname
  exact hne (branch_agree hnine hdescs hname hagree hok hok')

/-! ## The tables -/

/-- A scan finds every name of a table, and `type` is one of them. -/
theorem declares_iff {type : Nat} {descs : List QemuOptDesc} (hdescs : descsOf type = some descs) :
    (∀ name, Declares descs name ↔ name ∈ declared descs) ∧ "type" ∈ declared descs := by
  have hfound : (declared descs).all (fun name =>
      (findDescByName descs name).toOption.join.isSome) = true ∧ "type" ∈ declared descs := by
    unfold descsOf at hdescs
    split at hdescs
    case h_11 => cases hdescs
    all_goals
      obtain rfl := Option.some.inj hdescs
      decide +kernel
  refine ⟨fun name => ⟨mem_declared, fun hname => ?_⟩, hfound.2⟩
  have hscan := List.all_eq_true.mp hfound.1 name hname
  cases hfind : findDescByName descs name with
  | error e =>
    rw [hfind] at hscan
    cases hscan
  | ok found =>
    cases found with
    | none =>
      rw [hfind] at hscan
      cases hscan
    | some d => exact ⟨d, hfind⟩

theorem scanStops_descsOf {type : Nat} (hnine : type ≠ 9) {descs : List QemuOptDesc}
    (hdescs : descsOf type = some descs) : ScanStops descs := by
  refine scanStops_of_end ?_
  unfold descsOf at hdescs
  split at hdescs
  case h_7 => exact absurd rfl hnine
  case h_11 => cases hdescs
  all_goals
    obtain rfl := Option.some.inj hdescs
    exact ⟨{}, by simp [qemuSmbiosType0Opts, qemuSmbiosType1Opts, qemuSmbiosType2Opts,
      qemuSmbiosType3Opts, qemuSmbiosType4Opts, qemuSmbiosType8Opts, qemuSmbiosType11Opts,
      qemuSmbiosType17Opts, qemuSmbiosType41Opts], rfl⟩

/-- A scan of the type 9 table runs past its last entry. -/
theorem not_scanStops_type9 : ¬ScanStops qemuSmbiosType9Opts := by
  intro hstops
  exact hstops "pcidev" rfl

/-- **The tables, the branches and the builders agree for every type but 9.** -/
theorem optionsRight_iff {type : Nat} {descs : List QemuOptDesc}
    (hdescs : descsOf type = some descs) :
    ScanStops qemuSmbiosFileOpts ∧ (OptionsRight type descs ↔ type ≠ 9) := by
  refine ⟨scanStops_of_end ⟨{}, by simp [qemuSmbiosFileOpts], rfl⟩, ?_⟩
  constructor
  · rintro hright rfl
    obtain rfl := Option.some.inj hdescs
    exact not_scanStops_type9 hright.stops
  · intro hnine
    obtain ⟨hdeclares, htype⟩ := declares_iff hdescs
    refine ⟨fun name => ?_, fun d hd hdtype parse => ?_, scanStops_descsOf hnine hdescs⟩
    · rw [hdeclares]
      refine ⟨reads_of_declared hnine hdescs, ?_⟩
      rintro (rfl | hreads)
      · exact htype
      · exact declared_of_reads hnine hdescs hreads
    · rcases List.mem_cons.mp hd with rfl | hd
      · exact absurd hdtype.symm hnine
      · obtain rfl := List.mem_singleton.mp hd
        exact onboardDevices_takeEffect _

theorem optionsRight_iff_onboard : ScanStops qemuSmbiosFileOpts ∧
    (OptionsRight 41 qemuSmbiosType41Opts ↔ 41 ≠ 9) :=
  optionsRight_iff rfl

/-- A type 9 entry with its device. -/
def slotEntry : Entry OptionList :=
  optionEntry [("type", lit "9"), ("pci_device", lit "eth0")]

/-- The device is accepted and ignored, its structure has no location, and the option that the
branch reads runs off the table. -/
theorem slotDeviceIgnored : Accepts .reference {} slotEntry ∧
    (entryAdd .reference {} slotEntry).2.opts.type9 = [{}] ∧
    slots.location ((type9Table .plain 0 {}).formatted (fun _ => 0) 0) = (0xff, 0xff) ∧
    findDescByName qemuSmbiosType9Opts "pcidev" = .error .descOutOfBounds ∧
    ¬OptionsRight 9 qemuSmbiosType9Opts := by
  refine ⟨rfl, by decide +kernel, by decide +kernel, rfl, fun hright => ?_⟩
  exact not_scanStops_type9 hright.stops

end Smbios
