import PveAntiDetection.Smbios.Members
import PveAntiDetection.Smbios.Type4Count

/-!
# References between structures

A handle-valued member refers to another structure of the tables by its handle.

* `references` — the handles in a formatted area, with the type that each must refer to;
* `handlesResolve_never` — the temperature probe handle of type 27 refers to no structure, whatever
  the options and the machine;
* `probeHandleDangles` — the tables of one machine.
-/

set_option autoImplicit false

namespace Smbios

open Bytes Runs

variable {h : Host} {ep : SmbiosEntryPointType} {ms : Machine} {o : Options} {s s' : State}

/-- The handles in the formatted area of a structure, and the types they must refer to. -/
def references (type : Nat) (fmt : List UInt8) : List (Nat × Nat) :=
  match type with
  | 2 => [(memberValue fmt SmbiosType2.chassisHandle, 3)]
  | 4 => [(memberValue fmt SmbiosType4.l1CacheHandle, 7),
      (memberValue fmt SmbiosType4.l2CacheHandle, 7),
      (memberValue fmt SmbiosType4.l3CacheHandle, 7)]
  | 17 => [(memberValue fmt SmbiosType17.physicalMemoryArrayHandle, 16)]
  | 19 => [(memberValue fmt SmbiosType19.memoryArrayHandle, 16)]
  | 20 => [(memberValue fmt SmbiosType20.memoryDeviceHandle, 17),
      (memberValue fmt SmbiosType20.memoryArrayMappedAddressHandle, 19)]
  | 27 => [(memberValue fmt SmbiosType27.temperatureProbeHandle, 28)]
  | _ => []

/-- The values that stand for no structure. -/
def NotProvided (handle : Nat) : Prop := handle = 0xFFFE ∨ handle = 0xFFFF

/-- Every handle in the structures `ts`, which start at offset `off` of the tables, is not provided
or the handle of one of them of the right type. -/
def HandlesResolve (tables : List UInt8) (off : Nat) (ts : List Table) : Prop :=
  ∀ x ∈ placed off ts, ∀ r ∈ references x.2.type (load tables x.1 x.2.len),
    NotProvided r.1 ∨ ∃ t ∈ ts, t.type = r.2 ∧ t.handle % 2 ^ 16 = r.1

/-- The cooling device of a pass. -/
def fanTable : Table := type27Table 0 (lit "CPU FAN") 0x67

theorem fanTable_probeHandle (fresh : Nat → UInt8) (off : Nat) :
    memberValue (fanTable.formatted fresh off) SmbiosType27.temperatureProbeHandle = 0x29 :=
  memberValue_tableOf (f := SmbiosType27.temperatureProbeHandle) (n := 0x29) rfl fresh off

/-- A pass that builds type 27 starts it. -/
theorem fanTable_planned (hrej : type4Rejects ep ms o = false) (hhold : AssertionsHold ms o)
    (hskip : smbiosSkipTable o 27 true = false) : fanTable ∈ plannedTables h ep ms o := by
  have hmem : fanTable ∈ tablesOf h ep ms o 27 := mem_opt.mpr ⟨hskip, List.mem_singleton.mpr rfl⟩
  have hplanned := @plannedTables_perm h ep ms o hrej hhold
  exact hplanned.mem_iff.mpr (List.mem_flatMap.mpr ⟨27, by decide, hmem⟩)

/-- The temperature probes of a pass have the handles 0x1C00 and 0x1C01. -/
theorem probe_handle (hh : h.Contract) (hrej : type4Rejects ep ms o = false)
    (hhold : AssertionsHold ms o) {t : Table} (ht : t ∈ plannedTables h ep ms o)
    (htype : t.type = 28) : t.handle = 0x1C00 ∨ t.handle = 0x1C01 := by
  have hplanned := @plannedTables_perm h ep ms o hrej hhold
  obtain ⟨type, -, hmem⟩ := List.mem_flatMap.mp (hplanned.mem_iff.mp ht)
  have hof := tablesOf_type hh t hmem
  rw [htype] at hof
  subst hof
  have hprobes := (mem_opt.mp hmem).2
  simp only [List.mem_cons, List.not_mem_nil, or_false] at hprobes
  rcases hprobes with rfl | rfl
  · exact .inl rfl
  · exact .inr rfl

/-- Where type 27 is built, its probe handle refers to nothing. -/
theorem not_handlesResolve (hh : h.Contract) (hrej : type4Rejects ep ms o = false)
    (hhold : AssertionsHold ms o) (hskip : smbiosSkipTable o 27 true = false) :
    ¬HandlesResolve (Build.planned h ep ms o).buf.bytes o.userBlob.length
      (plannedTables h ep ms o) := by
  intro hresolve
  have hfan := @fanTable_planned h ep ms o hrej hhold hskip
  rw [← placed_map_snd (plannedTables h ep ms o) o.userBlob.length] at hfan
  obtain ⟨⟨off, t⟩, hplaced, ht⟩ := List.mem_map.mp hfan
  obtain rfl : t = fanTable := ht
  have hload := load_placed (h.fresh ep) _ _ hplaced
  have hvalue := fanTable_probeHandle (h.fresh ep) off
  have hbytes : (Build.planned h ep ms o).buf.bytes =
      o.userBlob ++ blobOf (h.fresh ep) o.userBlob.length (plannedTables h ep ms o) := planned_bytes
  rw [← hload, ← hbytes] at hvalue
  have href := hresolve _ hplaced (0x29, 28) (by
    rw [← hvalue]
    exact List.mem_singleton.mpr rfl)
  rcases href with (hno | hno) | ⟨u, hu, htype, hhandle⟩
  · cases hno
  · cases hno
  · rcases probe_handle hh hrej hhold hu htype with heq | heq
    · rw [heq] at hhandle
      cases hhandle
    · rw [heq] at hhandle
      cases hhandle

/-- A state that no file and the defaults lead to publishes a probe handle that refers to
nothing. -/
theorem not_handlesResolve_run (hv : Blobs s.opts.blobVars [])
    (hdefaults : s.opts.haveDefaults = true) (hh : h.Contract) {p : Published} {err : Option Error}
    (hrun : smbiosGetTables h ep ms s = .ok ⟨some p, err⟩ s') :
    ¬HandlesResolve p.tables 0 s'.bld.started := by
  obtain ⟨ep', o, hopts, hrej, hhold, hbld, rfl⟩ := getTables_published hh hrun
  have hfree : testBit 27 o.haveBinfileBitmap = false := by
    have hbitmap : o.haveBinfileBitmap = s.opts.haveBinfileBitmap := by
      rcases hopts with rfl | rfl <;> rfl
    rw [hbitmap, ← Bool.not_eq_true]
    intro hset
    obtain ⟨b, hb, -⟩ := hv.supplied 27 hset
    cases hb
  have hdefaults' : o.haveDefaults = true := by
    rcases hopts with rfl | rfl <;> exact hdefaults
  have hskip : smbiosSkipTable o 27 true = false := by
    unfold smbiosSkipTable
    rw [hfree, hdefaults']
    simp
  have hempty : o.userBlob.length = 0 := by
    have huser : o.userBlob = s.opts.userBlob := by
      rcases hopts with rfl | rfl <;> rfl
    rw [huser, show s.opts.userBlob = _ from hv.bytes]
    rfl
  have hnever := @not_handlesResolve h ep' ms o hh hrej hhold hskip
  rw [hempty, ← planned_started, ← hbld] at hnever
  rw [hbld] at hnever ⊢
  exact hnever

variable {Q : Type}

/-- **The handles never all resolve** behind calls that load no file and set the defaults. -/
theorem handlesResolve_never (qo : QemuOption Q) (cs : List (Call Q)) (hh : h.Contract)
    (hfiles : userBlobs qo cs = [])
    (hdefaults : (final (configure qo) {} cs).opts.haveDefaults = true)
    {p : Published} {err : Option Error}
    (hrun : smbiosGetTables h ep ms (final (configure qo) {} cs) = .ok ⟨some p, err⟩ s') :
    ¬HandlesResolve p.tables 0 s'.bld.started := by
  have hv := blobs_of_run qo cs
  rw [hfiles] at hv
  exact not_handlesResolve_run hv hdefaults hh hrun

/-- The defaults and nothing else. -/
def defaultsCalls : List (Call OptionList) := [.setDefaults none none none]

theorem handlesResolve_never_defaults :
    ∃ p s', smbiosGetTables .plain .type64 .small (final (configure .reference) {} defaultsCalls) =
      .ok ⟨some p, none⟩ s' ∧ ¬HandlesResolve p.tables 0 s'.bld.started := by
  obtain ⟨p, s', hrun⟩ := getTables_small
    (s := final (configure .reference) {} defaultsCalls) rfl rfl
  exact ⟨p, s', hrun,
    handlesResolve_never .reference defaultsCalls Host.plain_contract rfl rfl hrun⟩

/-- The temperature probe handle of a machine with the defaults refers to nothing. -/
theorem probeHandleDangles :
    ∃ p s', userBlobs .reference defaultsCalls = [] ∧
      smbiosGetTables .plain .type64 .small (final (configure .reference) {} defaultsCalls) =
        .ok ⟨some p, none⟩ s' ∧ ¬HandlesResolve p.tables 0 s'.bld.started := by
  obtain ⟨p, s', hrun⟩ := getTables_small
    (s := final (configure .reference) {} defaultsCalls) rfl rfl
  exact ⟨p, s', rfl, hrun,
    not_handlesResolve_run (blobs_of_run .reference defaultsCalls) rfl Host.plain_contract hrun⟩

end Smbios
