import PveAntiDetection.Smbios.OemStrings

/-!
# Entries that name a PCI device

Types 9 and 41 look a PCI device up when their tables are built, and give its bus and its `devfn`.

* `DeviceType` — such a type, with the option that its descriptor table declares for the device;
* `TakesEffect` — the structure of every accepted entry carries the device that the option names;
* `onboardDevices_takeEffect` — it does for type 41.
-/

set_option autoImplicit false

namespace Smbios

open Bytes Records Runs Script

variable {Q : Type} {qo : QemuOption Q} {h : Host} {ep : SmbiosEntryPointType} {s : State}
  {e : Entry Q}

/-! ## The two types -/

/-- A type whose entries can name a PCI device. -/
structure DeviceType where
  type : Nat
  /-- The option for the device in the descriptor table. -/
  option : String
  /-- The number of entries. -/
  count : Options → Nat
  build : Host → SmbiosEntryPointType → SmbiosM Unit
  /-- An entry names a device that is not found, or not on the root bus. -/
  fails : Host → Options → Bool
  /-- The bus and the `devfn` of a structure. -/
  location : List UInt8 → Nat × Nat

def slots : DeviceType where
  type := 9
  option := "pci_device"
  count o := o.type9.length
  build := smbiosBuildType9Table
  fails := slotFails
  location fmt :=
    (memberValue fmt SmbiosType9.busNumber, memberValue fmt SmbiosType9.deviceNumber)

def onboardDevices : DeviceType where
  type := 41
  option := "pcidev"
  count o := o.type41.length
  build := smbiosBuildType41Table
  fails := deviceFails
  location fmt :=
    (memberValue fmt SmbiosType41.busNumber, memberValue fmt SmbiosType41.deviceNumber)

/-- An accepted entry of the type that names a device on the root bus. -/
structure NamesDevice (qo : QemuOption Q) (d : DeviceType) (h : Host) (s : State) (e : Entry Q)
    (pdev : PCIDevice) : Prop where
  type : e.type? qo = some d.type
  accepted : Accepts qo s e
  named : ∃ val, qo.qemuOptGet e.opts d.option = some val ∧ h.pciQdevFindDevice val = some pdev
  root : pdev.onRootBus = true
  busNum_lt : pdev.busNum < 256
  devfn_lt : pdev.devfn < 256

/-- If every device of the type is found, the builder succeeds, and its structure number `k` carries
the device. -/
def Carries (d : DeviceType) (h : Host) (ep : SmbiosEntryPointType) (k : Nat) (pdev : PCIDevice)
    (s : State) : Prop :=
  d.fails h s.opts = false → ∃ s' ps x, d.build h ep s = .ok () s' ∧ s'.bld.errp = none ∧
    parseAll parseStructure (s'.bld.buf.bytes.drop s.bld.buf.bytes.length) = some ps ∧
      ps[k]? = some x ∧ x.type = d.type ∧ d.location x.formatted = (pdev.busNum, pdev.devfn)

/-- The device takes effect, whatever calls are made before and behind the entry. -/
def TakesEffect (qo : QemuOption Q) (d : DeviceType) : Prop :=
  ∀ (h : Host) (ep : SmbiosEntryPointType) (cs cs' : List (Call Q)) (e : Entry Q)
    (pdev : PCIDevice), h.Contract → NamesDevice qo d h (final (configure qo) {} cs) e pdev →
      ∀ s : State, s.opts = (final (configure qo) {} (cs ++ .entryAdd e :: cs')).opts →
        s.bld.errp = none →
          Carries d h ep (d.count (final (configure qo) {} cs).opts) pdev s

/-! ## The entries of type 41 -/

/-- The entries of type 41 stay where they are. -/
theorem saveFields_type41 (e : Entry Q) (o : Options) (type : Nat) :
    o.type41 <+: (saveFields qo e.opts e.files o type).2.type41 := by
  refine saveFields_induct (P := fun o' => o.type41 <+: o'.type41) List.prefix_rfl
    fun save hsaves => ?_
  cases hsaves with
  | type0 =>
    obtain ⟨t, heq, -⟩ := @saveType0_strings Q qo e.opts o
    exact heq ▸ List.prefix_rfl
  | type1 =>
    obtain ⟨uuid, heq⟩ := @saveType1_strings Q qo e.opts o
    exact heq ▸ List.prefix_rfl
  | type41 =>
    unfold saveType41
    split
    · exact List.prefix_rfl
    · exact List.prefix_append ..
  | _ => exact List.prefix_rfl

theorem configure_type41 (c : Call Q) : s.opts.type41 <+: (configure qo s c).2.opts.type41 := by
  cases c with
  | entryAdd e =>
    show s.opts.type41 <+: (entryAdd qo s e).2.opts.type41
    rcases entryAdd_opts qo s e with ⟨-, hsame, -⟩ | ⟨type, -, -, hopts⟩
    · exact hsame ▸ List.prefix_rfl
    · rw [hopts]
      exact saveFields_type41 e
        { s.opts with haveFieldsBitmap := setBit type s.opts.haveFieldsBitmap } type
  | setCpuid version features => exact List.prefix_rfl
  | setDefaultProcessorFamily processorFamily =>
    unfold configure smbiosSetDefaultProcessorFamily
    simp only
    split <;> exact List.prefix_rfl
  | setDefaults manufacturer product version => exact List.prefix_rfl

/-- An accepted entry of type 41 is appended, with the device it names. -/
theorem accepted_type41 (htype : e.type? qo = some 41) (hacc : Accepts qo s e) :
    (∃ t : Type41Instance, (entryAdd qo s e).2.opts.type41 = s.opts.type41 ++ [t] ∧
      t.pcidev = qo.qemuOptGet e.opts "pcidev") ∧
    testBit 41 (entryAdd qo s e).2.opts.haveFieldsBitmap = true := by
  obtain ⟨save, hsaves, hnone, hopts⟩ := accepted_saves htype hacc
  have hmarked : testBit 41 (setBit 41 s.opts.haveFieldsBitmap) = true :=
    (testBit_setBit (by decide) 41 _).trans (Bool.or_true _)
  cases hsaves
  rw [hopts]
  unfold saveType41 at hnone ⊢
  split at hnone
  · cases hnone
  · exact ⟨⟨_, rfl, Option.or_none⟩, hmarked⟩

/-- Further calls keep the entries and the mark of type 41. -/
theorem type41_kept (cs : List (Call Q))
    (hmarked : testBit 41 s.opts.haveFieldsBitmap = true) :
    s.opts.type41 <+: (final (configure qo) s cs).opts.type41 ∧
      testBit 41 (final (configure qo) s cs).opts.haveFieldsBitmap = true := by
  have hstep : ∀ (s' : State) c,
      s.opts.type41 <+: s'.opts.type41 ∧ testBit 41 s'.opts.haveFieldsBitmap = true →
      s.opts.type41 <+: (configure qo s' c).2.opts.type41 ∧
        testBit 41 (configure qo s' c).2.opts.haveFieldsBitmap = true :=
    fun _ c hs => ⟨hs.1.trans (configure_type41 c), configure_marked hs.2 c⟩
  exact final_induct (I := fun s' : State => s.opts.type41 <+: s'.opts.type41 ∧
    testBit 41 s'.opts.haveFieldsBitmap = true) hstep cs ⟨List.prefix_rfl, hmarked⟩

/-- An accepted entry is still there behind further calls. -/
theorem entry_kept (cs : List (Call Q)) (htype : e.type? qo = some 41) (hacc : Accepts qo s e) :
    (∃ t : Type41Instance,
      (final (configure qo) s (.entryAdd e :: cs)).opts.type41[s.opts.type41.length]? = some t ∧
        t.pcidev = qo.qemuOptGet e.opts "pcidev") ∧
    testBit 41 (final (configure qo) s (.entryAdd e :: cs)).opts.haveFieldsBitmap = true := by
  obtain ⟨⟨t, happend, hdev⟩, hmarked⟩ := accepted_type41 htype hacc
  obtain ⟨⟨rest, hrest⟩, hbit⟩ := @type41_kept _ qo _ cs hmarked
  refine ⟨⟨t, ?_, hdev⟩, hbit⟩
  have hlist : (final (configure qo) s (.entryAdd e :: cs)).opts.type41 =
      s.opts.type41 ++ ([t] ++ rest) := by
    rw [← List.append_assoc, ← happend]
    exact hrest.symm
  rw [hlist, List.getElem?_append_right (Nat.le_refl _), Nat.sub_self]
  rfl

/-! ## The structures of type 41 -/

/-- A loop over complete tables appends their structures. -/
theorem buildEach_emits (hh : h.Contract) {type : Nat} (htype : type ≠ 4) {ts : List Table}
    (hts : ∀ t ∈ ts, t.type = type) (hc : ∀ t ∈ ts, t.halt = none)
    (hskip : smbiosSkipTable s.opts type true = false) (herrp : s.bld.errp = none) :
    ∃ s', buildEach h ep true ts s = .ok () s' ∧ s'.bld.errp = none ∧
      parseAll parseStructure (s'.bld.buf.bytes.drop s.bld.buf.bytes.length) =
        some (parsedAll (h.fresh ep) s.bld.buf.bytes.length ts) := by
  have hdoes : Does (h.fresh ep) s.opts s.opts (buildEach h ep true ts)
      (ofList (s.opts.opt type true (untilHalt ts))) := does_buildEach hh htype ts hts
  have hrun := hdoes s.ep s.bld
  have hfault : faultFrom s.bld.errp (ofList ts : TableScript) = none := by
    simp only [faultFrom, ofList, faultOf_complete hc, Option.or_none]
  have hexec := @exec_eq (h.fresh ep) (ofList ts) s.bld
  rw [hfault] at hexec
  simp only [Options.opt, hskip, Bool.false_eq_true, if_false, untilHalt_complete hc] at hrun
  rw [hexec] at hrun
  refine ⟨_, hrun, ?_, ?_⟩
  · have hnone : firstReport ts = none :=
      firstReport_complete fun t ht => report_of_complete (hc t ht)
    show (s.bld.ran (h.fresh ep) ts).errp = none
    rw [ran_errp, herrp, hnone]
    rfl
  · show parseAll parseStructure ((s.bld.ran (h.fresh ep) ts).buf.bytes.drop _) = _
    rw [ran_bytes, List.drop_left]
    exact parseAll_tables (h.fresh ep) List.Forall₂.nil hc _

theorem parsedAll_getElem? (fresh : Nat → UInt8) (off : Nat) {ts : List Table} {t : Table}
    {k : Nat} (hk : ts[k]? = some t) :
    ∃ off', (parsedAll fresh off ts)[k]? = some (t.parsed fresh off') := by
  rw [← placed_map_snd ts off, List.getElem?_map] at hk
  obtain ⟨⟨off', u⟩, hplaced, rfl⟩ := Option.map_eq_some_iff.mp hk
  refine ⟨off', ?_⟩
  rw [parsedAll, List.getElem?_map, hplaced]
  rfl

/-- The table of an entry whose device is found reaches POST. -/
theorem type41Table_halt (i : Nat) {t41 : Type41Instance}
    (hres : unresolvable h t41.pcidev = false) : (type41Table h i t41).halt = none := by
  have hreport := type41Table_report h i t41
  rw [hres] at hreport
  cases hhalt : (type41Table h i t41).halt with
  | none => rfl
  | some halt =>
    cases halt with
    | fault f => exact absurd hhalt (type41Table_noFault h i t41 f)
    | report er => simp [Table.report, hhalt] at hreport

/-- The location in a type 41 structure is that of the device. -/
theorem location_type41Table (i : Nat) {t41 : Type41Instance} {val : CString} {pdev : PCIDevice}
    (hval : t41.pcidev = some val) (hfind : h.pciQdevFindDevice val = some pdev)
    (hroot : pdev.onRootBus = true) (hbus : pdev.busNum < 256) (hdevfn : pdev.devfn < 256)
    (fresh : Nat → UInt8) (off : Nat) :
    onboardDevices.location ((type41Table h i t41).formatted fresh off) =
      (pdev.busNum, pdev.devfn) := by
  have hdev : findRootBusDevice h 41 val t41.designation = .ok pdev := by
    simp only [findRootBusDevice, hfind, hroot, if_true]
  have hbuses : pdev.busNum % 256 ^ 1 = pdev.busNum := Nat.mod_eq_of_lt hbus
  have hdevfns : pdev.devfn % 256 ^ 1 = pdev.devfn := Nat.mod_eq_of_lt hdevfn
  unfold onboardDevices type41Table
  simp only [hval, hdev]
  rw [memberValue_tableOf (f := SmbiosType41.busNumber) (n := pdev.busNum) rfl,
    memberValue_tableOf (f := SmbiosType41.deviceNumber) (n := pdev.devfn) rfl]
  exact Prod.ext hbuses hdevfns

/-- **The devices of type 41 take effect.** -/
theorem onboardDevices_takeEffect (qo : QemuOption Q) : TakesEffect qo onboardDevices := by
  intro h ep cs cs' e pdev hh hnames s hopts herrp hfails
  obtain ⟨val, hval, hfind⟩ := hnames.named
  have hsplit : final (configure qo) {} (cs ++ .entryAdd e :: cs') =
      final (configure qo) (final (configure qo) {} cs) (.entryAdd e :: cs') := List.foldl_append
  obtain ⟨⟨t, hat, hdev⟩, hmarked⟩ := entry_kept cs' hnames.type hnames.accepted
  rw [← hsplit] at hat hmarked
  have hskip : smbiosSkipTable _ 41 true = false := not_skipped_of_marked hmarked
  rw [← hopts] at hat hskip
  have hfound : ∀ t41 ∈ s.opts.type41, unresolvable h t41.pcidev = false := by
    have hany : deviceFails h s.opts = false := hfails
    rw [deviceFails, hskip, Bool.not_false, Bool.true_and, List.any_eq_false] at hany
    exact fun t41 ht41 => Bool.eq_false_iff.mpr (hany t41 ht41)
  have hcomplete : ∀ t ∈ s.opts.type41.mapIdx (type41Table h), t.halt = none := by
    intro t ht
    obtain ⟨i, hi, rfl⟩ := List.mem_mapIdx.mp ht
    exact type41Table_halt i (hfound _ (List.getElem_mem hi))
  obtain ⟨s', hrun, hnone, hparse⟩ := @buildEach_emits h ep s hh 41 (by decide) _
    (mapIdx_forall (type41Table_type h)) hcomplete hskip herrp
  have hindex : (s.opts.type41.mapIdx (type41Table h))[
      (final (configure qo) {} cs).opts.type41.length]? =
        some (type41Table h (final (configure qo) {} cs).opts.type41.length t) := by
    rw [List.getElem?_mapIdx, hat]
    rfl
  obtain ⟨off, hparsed⟩ := parsedAll_getElem? (h.fresh ep) s.bld.buf.bytes.length hindex
  refine ⟨s', _, _, hrun, hnone, hparse, hparsed, ?_, ?_⟩
  · rw [Table.parsed_type]
    exact type41Table_type ..
  · rw [Table.parsed_formatted]
    exact location_type41Table _ (hdev.trans hval) hfind hnames.root hnames.busNum_lt
      hnames.devfn_lt (h.fresh ep) off

end Smbios
