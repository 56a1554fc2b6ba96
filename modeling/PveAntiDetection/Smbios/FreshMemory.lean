import PveAntiDetection.Smbios.Coverage
import PveAntiDetection.Smbios.References

/-!
# Uninitialised memory

* `FreshIndependent` — the published tables do not depend on the memory that `g_realloc` hands out;
* `freshIndependent_iff` — when they do not;
* `batteryLeaks` — three members of type 22 are never assigned.
-/

set_option autoImplicit false

namespace Smbios

open Runs

variable {h : Host} {ep : SmbiosEntryPointType} {ms : Machine} {o : Options} {s s' : State}

/-! ## The published bytes -/

/-- The host with other memory. -/
def Host.withFresh (h : Host) (fresh : SmbiosEntryPointType → Nat → UInt8) : Host :=
  { h with fresh := fresh }

theorem Host.withFresh_contract (hh : h.Contract) (fresh : SmbiosEntryPointType → Nat → UInt8) :
    (h.withFresh fresh).Contract :=
  ⟨hh.macros, hh.type38_type, hh.type38_complete⟩

/-- The tables that a call publishes. -/
def publishedTables (h : Host) (ep : SmbiosEntryPointType) (ms : Machine) (s : State) :
    Option (List UInt8) :=
  match smbiosGetTables h ep ms s with
  | .ok r _ => r.published.map Published.tables
  | .error _ _ => none

/-- The published tables do not depend on the memory that `g_realloc` hands out. -/
def FreshIndependent (h : Host) (ep : SmbiosEntryPointType) (ms : Machine) (s : State) : Prop :=
  ∀ fresh fresh', publishedTables (h.withFresh fresh) ep ms s =
    publishedTables (h.withFresh fresh') ep ms s

/-- Ends of a pass that differ in the build state only. -/
def Ended.Alike : Ended → Ended → Prop
  | .faulted f, e => e = .faulted f
  | .refused o _, e => ∃ b, e = .refused o b
  | .published o _, e => ∃ b, e = .published o b

/-- **A pass ends alike whatever the memory.** -/
theorem epRun_withFresh (fresh : SmbiosEntryPointType → Nat → UInt8) :
    (epRun h ep ms o).Alike (epRun (h.withFresh fresh) ep ms o) := by
  have hslot : slotError (h.withFresh fresh) o = slotError h o := rfl
  have hdevice : deviceError (h.withFresh fresh) o = deviceError h o := rfl
  have hlen : (Build.planned (h.withFresh fresh) ep ms o).buf.bytes.length =
      (Build.planned h ep ms o).buf.bytes.length := by
    rw [planned_length, planned_length]
    rfl
  have herrp : (Build.planned (h.withFresh fresh) ep ms o).errp =
      (Build.planned h ep ms o).errp := by
    unfold Build.planned
    rw [ran_errp, ran_errp]
    rfl
  unfold epRun finishRun
  rw [hslot, hdevice, hlen, herrp]
  by_cases hsockets : ms.sockets.toNat = 0
  · simp only [if_pos hsockets]
    rfl
  · simp only [if_neg hsockets]
    cases type4Rejects ep ms o with
    | true => exact ⟨_, rfl⟩
    | false =>
      simp only [Bool.false_eq_true, if_false]
      cases assertionFault ms o with
      | some f => rfl
      | none =>
        simp only
        split
        · rfl
        · split
          · split
            · rfl
            · exact ⟨_, rfl⟩
          · exact ⟨_, rfl⟩

theorem publishedTables_eq (hh : h.Contract) : publishedTables h ep ms s =
    match (getTablesRun h ep ms s.opts).2 with
    | .published _ b => some b.buf.bytes
    | _ => none := by
  have hrun := (@smbiosGetTables_eq h ms hh ep s).1
  unfold publishedTables
  generalize smbiosGetTables h ep ms s = r at hrun
  generalize (getTablesRun h ep ms s.opts).2 = e at hrun
  cases e <;> cases r <;> cases hrun <;> rfl

/-- A pass that publishes does so whatever the memory. -/
theorem epRun_withFresh_published (hh : h.Contract) {o' : Options} {b : Build}
    (hrun : epRun h ep ms o = .published o' b) : type4Rejects ep ms o = false ∧
      AssertionsHold ms o ∧ ∀ fresh, epRun (h.withFresh fresh) ep ms o =
        .published o.consumed (Build.planned (h.withFresh fresh) ep ms o) := by
  have hend := @epRun_end h ep ms o hh
  rw [hrun] at hend
  cases hend with
  | published hsockets hrej hhold honce hfits =>
    exact ⟨hrej, hhold, fun fresh =>
      epRun_published (Host.withFresh_contract hh fresh) hsockets hrej hhold honce hfits⟩

/-- **A call that publishes does so in the same pass whatever the memory.** -/
theorem getTables_withFresh (hh : h.Contract) {p : Published} {err : Option Error}
    (hrun : smbiosGetTables h ep ms s = .ok ⟨some p, err⟩ s') :
    ∃ ep' o, (o = s.opts ∨ o = s.opts.consumed) ∧ type4Rejects ep' ms o = false ∧
      AssertionsHold ms o ∧ ∀ fresh, publishedTables (h.withFresh fresh) ep ms s =
        some (Build.planned (h.withFresh fresh) ep' ms o).buf.bytes := by
  have hpub : publishedTables h ep ms s = some p.tables := by
    unfold publishedTables
    rw [hrun]
    rfl
  have hother := fun fresh => @publishedTables_eq (h.withFresh fresh) ep ms s
    (Host.withFresh_contract hh fresh)
  rw [publishedTables_eq hh] at hpub
  -- the pass for `ep'` publishes
  have hpass : ∀ (ep' : SmbiosEntryPointType) (o : Options), (o = s.opts ∨ o = s.opts.consumed) →
      (getTablesRun h ep ms s.opts).2 = epRun h ep' ms o →
      (∀ fresh, (getTablesRun (h.withFresh fresh) ep ms s.opts).2 =
        epRun (h.withFresh fresh) ep' ms o) →
      ∃ ep' o, (o = s.opts ∨ o = s.opts.consumed) ∧ type4Rejects ep' ms o = false ∧
        AssertionsHold ms o ∧ ∀ fresh, publishedTables (h.withFresh fresh) ep ms s =
          some (Build.planned (h.withFresh fresh) ep' ms o).buf.bytes := by
    intro ep' o hopts hlast hlast'
    rw [hlast] at hpub
    cases hend : epRun h ep' ms o with
    | faulted f => rw [hend] at hpub; cases hpub
    | refused o' b => rw [hend] at hpub; cases hpub
    | published o' b =>
      obtain ⟨hrej, hhold, hfresh⟩ := epRun_withFresh_published hh hend
      refine ⟨ep', o, hopts, hrej, hhold, fun fresh => ?_⟩
      rw [hother, hlast', hfresh]
  cases ep with
  | type32 => exact hpass .type32 s.opts (.inl rfl) rfl fun _ => rfl
  | type64 => exact hpass .type64 s.opts (.inl rfl) rfl fun _ => rfl
  | auto =>
    have hfirst := @epRun_end h .type32 ms s.opts hh
    have halike := fun fresh => @epRun_withFresh h .type32 ms s.opts fresh
    cases hend : epRun h .type32 ms s.opts with
    | faulted f =>
      simp only [getTablesRun, hend] at hpub
      cases hpub
    | published o' b =>
      refine hpass .type32 s.opts (.inl rfl) ?_ fun fresh => ?_
      · simp only [getTablesRun, hend]
      · obtain ⟨b', hb'⟩ : ∃ b, epRun (h.withFresh fresh) .type32 ms s.opts = .published o' b := by
          have halike' := halike fresh
          rw [hend] at halike'
          exact halike'
        simp only [getTablesRun, hb']
    | refused o' b =>
      rw [hend] at hfirst
      refine hpass .type64 o' (passEnd_started hfirst rfl).1 ?_ fun fresh => ?_
      · simp only [getTablesRun, hend]
      · obtain ⟨b', hb'⟩ : ∃ b, epRun (h.withFresh fresh) .type32 ms s.opts = .refused o' b := by
          have halike' := halike fresh
          rw [hend] at halike'
          exact halike'
        simp only [getTablesRun, hb']

/-- The bytes of a pass do not depend on the memory exactly if its tables are covered. -/
theorem planned_fresh_iff (ep : SmbiosEntryPointType) :
    (∀ fresh fresh', (Build.planned (h.withFresh fresh) ep ms o).buf.bytes =
      (Build.planned (h.withFresh fresh') ep ms o).buf.bytes) ↔
        ∀ t ∈ plannedTables h ep ms o, t.Covered := by
  rw [← blobOf_fresh_iff o.userBlob]
  constructor
  · intro hsame fresh fresh'
    have hboth := hsame (fun _ => fresh) (fun _ => fresh')
    rw [planned_bytes, planned_bytes] at hboth
    exact hboth
  · intro hsame fresh fresh'
    rw [planned_bytes, planned_bytes]
    exact hsame (fresh ep) (fresh' ep)

/-- The pass that publishes decides. -/
theorem freshIndependent_covered (hh : h.Contract) {p : Published} {err : Option Error}
    (hrun : smbiosGetTables h ep ms s = .ok ⟨some p, err⟩ s') :
    ∃ ep' o, (o = s.opts ∨ o = s.opts.consumed) ∧ type4Rejects ep' ms o = false ∧
      AssertionsHold ms o ∧
        (FreshIndependent h ep ms s ↔ ∀ t ∈ plannedTables h ep' ms o, t.Covered) := by
  obtain ⟨ep', o, hopts, hrej, hhold, hpub⟩ := getTables_withFresh hh hrun
  refine ⟨ep', o, hopts, hrej, hhold, ?_⟩
  rw [← planned_fresh_iff]
  unfold FreshIndependent
  simp only [hpub, Option.some.injEq]

/-- **The published tables do not depend on the memory exactly when** no battery is built and the
device of every slot is found. -/
theorem freshIndependent_iff (hh : h.Contract) (hipmi : ∀ t ∈ h.type38Tables, t.Covered)
    {p : Published} {err : Option Error}
    (hrun : smbiosGetTables h ep ms s = .ok ⟨some p, err⟩ s') :
    FreshIndependent h ep ms s ↔
      smbiosSkipTable s.opts 22 true = true ∧ slotFails h s.opts = false := by
  obtain ⟨ep', o, hopts, hrej, hhold, hcovered⟩ := freshIndependent_covered hh hrun
  have hcond : (smbiosSkipTable o 22 true = true ∧ slotFails h o = false) ↔
      (smbiosSkipTable s.opts 22 true = true ∧ slotFails h s.opts = false) := by
    rcases hopts with rfl | rfl <;> exact Iff.rfl
  rw [hcovered, planned_covered_iff hrej hhold hipmi, hcond]

theorem plain_covered : ∀ t ∈ Host.plain.type38Tables, t.Covered := fun _ ht => nomatch ht

/-- A file of type 22, and the defaults. -/
def batteryCalls : List (Call OptionList) :=
  [fileEntry [22, 4, 0, 22, 0, 0], .setDefaults none none none]

theorem freshIndependent_iff_battery :
    FreshIndependent .plain .type64 .small (final (configure .reference) {} batteryCalls) := by
  obtain ⟨p, s', hrun⟩ := getTables_small
    (s := final (configure .reference) {} batteryCalls) rfl rfl
  exact (freshIndependent_iff Host.plain_contract plain_covered hrun).mpr
    ⟨by decide +kernel, by decide +kernel⟩

/-- The battery of a machine with the defaults shows the memory. -/
theorem batteryLeaks :
    (∃ p s', smbiosGetTables .plain .type64 .small (final (configure .reference) {} defaultsCalls) =
        .ok ⟨some p, none⟩ s') ∧
      ¬FreshIndependent .plain .type64 .small
        (final (configure .reference) {} defaultsCalls) := by
  obtain ⟨p, s', hrun⟩ := getTables_small
    (s := final (configure .reference) {} defaultsCalls) rfl rfl
  refine ⟨⟨p, s', hrun⟩, fun hfresh => ?_⟩
  obtain ⟨ep', o, hopts, hrej, hhold, hcovered⟩ :=
    freshIndependent_covered Host.plain_contract hrun
  have hbattery := ((planned_covered_iff hrej hhold plain_covered).mp (hcovered.mp hfresh)).1
  have hbuilt : smbiosSkipTable o 22 true = false := by
    rcases hopts with rfl | rfl <;> rfl
  rw [hbuilt] at hbattery
  cases hbattery

end Smbios
