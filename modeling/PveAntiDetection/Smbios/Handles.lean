import Mathlib.Data.List.Nodup
import Mathlib.Data.List.Pairwise
import PveAntiDetection.Smbios.Published

/-!
# Handles

Every builder numbers its structures from a base of its own.

* `systemHandles_nodup_iff` — when the handles of the types other than the memory ones are distinct;
  `portHandleTwice` is a configuration in which they are not;
* `memoryHandles_iff` — when those of the memory and probe types are distinct and fit 16 bits;
  `chunkHandleTwice` is a machine on which they are not.
-/

set_option autoImplicit false

namespace Smbios

variable {h : Host} {ep : SmbiosEntryPointType} {ms : Machine} {o : Options} {s s' : State}

/-- The handles of the structures of types `S`, in the order they were started. -/
def handlesOf (S : List Nat) (ts : List Table) : List Nat :=
  (ts.filter fun t => t.type ∈ S).map Table.handle

/-- The handles of one type. -/
def familyOf (h : Host) (ep : SmbiosEntryPointType) (ms : Machine) (o : Options) (type : Nat) :
    List Nat :=
  (tablesOf h ep ms o type).map Table.handle

/-! ## Families -/

theorem handlesOf_planned (hh : h.Contract) (hrej : type4Rejects ep ms o = false)
    (hhold : AssertionsHold ms o) (S : List Nat) :
    (handlesOf S (plannedTables h ep ms o)).Perm
      ((builtTypes.filter fun n => n ∈ S).flatMap (familyOf h ep ms o)) := by
  have hfilter := (@filter_planned h ep ms o hh hrej hhold S).map Table.handle
  rw [List.map_flatMap] at hfilter
  exact hfilter

theorem opt_handles (type : Nat) (required : Bool) (ts : List Table) :
    (o.opt type required ts).map Table.handle =
      if smbiosSkipTable o type required then [] else ts.map Table.handle := by
  unfold Options.opt
  split <;> rfl

theorem opt_handles_sublist (type : Nat) (required : Bool) {ts : List Table} {base n : Nat}
    (hts : smbiosSkipTable o type required = false →
      (ts.map Table.handle).Sublist (List.range' base n)) :
    ((o.opt type required ts).map Table.handle).Sublist (List.range' base n) := by
  rw [opt_handles]
  cases hskip : smbiosSkipTable o type required with
  | true => exact List.nil_sublist _
  | false => exact hts hskip

/-- Instances are numbered from the base on. -/
theorem mapIdx_handles {α : Type} {f : Nat → α → Table} {base : Nat}
    (hf : ∀ i x, (f i x).handle = base + i) (xs : List α) :
    (xs.mapIdx f).map Table.handle = List.range' base xs.length := by
  apply List.ext_getElem
  · simp
  · intro i hi hi'
    simp [hf]

theorem untilHalt_handles {ts : List Table} {base n k : Nat}
    (hts : ts.map Table.handle = List.range' base k) (hk : k ≤ n) :
    ((untilHalt ts).map Table.handle).Sublist (List.range' base n) := by
  refine ((untilHalt_initial ts).sublist.map _).trans ?_
  rw [hts]
  exact List.range'_sublist_right.mpr hk

theorem type9Table_handle (h : Host) (i : Nat) (t9 : Type9Instance) :
    (type9Table h i t9).handle = T9_BASE + i := by
  unfold type9Table
  split
  · split <;> rfl
  · rfl

theorem type41Table_handle (h : Host) (i : Nat) (t41 : Type41Instance) :
    (type41Table h i t41).handle = T41_BASE + i := by
  unfold type41Table
  split
  · split <;> rfl
  · rfl

theorem type4Table_handle (o : Options) (ms : Machine) (ep : SmbiosEntryPointType) (i : Nat) :
    (type4Table o ms ep i).handle = T4_BASE + i := by
  unfold type4Table
  split <;> rfl

theorem type17Table_handle (o : Options) (i size : Nat) :
    (type17Table o i size).handle = T17_BASE + i := by
  unfold type17Table
  split
  · rfl
  · split <;> rfl

theorem type19Table_handle (i offset start size : Nat) :
    (type19Table i offset start size).handle = T19_BASE + offset + i := by
  unfold type19Table
  split <;> rfl

theorem range'_handles {f : Nat → Table} {base : Nat} (hf : ∀ i, (f i).handle = base + i)
    (n : Nat) :
    ((List.range' 0 n).map f).map Table.handle = List.range' base n := by
  apply List.ext_getElem
  · simp
  · intro i hi hi'
    simp [hf]

/-! ## Types 0 to 11 and 41 -/

/-- The types whose structures are not about memory or probes. -/
def systemTypes : List Nat := [0, 1, 2, 3, 4, 7, 8, 9, 11, 41]

/-- Every family that is built stays below the next base. -/
structure FamiliesBounded (ms : Machine) (o : Options) : Prop where
  processors : smbiosSkipTable o 4 true = false → ms.sockets.toNat ≤ T7_BASE - T4_BASE
  ports : smbiosSkipTable o 8 true = false → o.type8.length ≤ T1_BASE - T0_BASE
  slots : smbiosSkipTable o 9 true = false → o.type9.length ≤ T11_BASE - T9_BASE
  devices : smbiosSkipTable o 41 true = false → o.type41.length ≤ T127_BASE - T41_BASE

/-- The handles left to a family: the first one, and their number. -/
def handleSpan : Nat → Nat × Nat
  | 0 => (T0_BASE, 1)
  | 1 => (T1_BASE, 1)
  | 2 => (T2_BASE, 1)
  | 3 => (T3_BASE, 1)
  | 4 => (T4_BASE, T7_BASE - T4_BASE)
  | 7 => (T7_BASE, 4)
  | 8 => (T0_BASE, T1_BASE - T0_BASE)
  | 9 => (T9_BASE, T11_BASE - T9_BASE)
  | 11 => (T11_BASE, 1)
  | 41 => (T41_BASE, T127_BASE - T41_BASE)
  | _ => (0, 0)

theorem family_sublist (hbound : FamiliesBounded ms o) :
    ∀ n ∈ systemTypes, (familyOf h ep ms o n).Sublist
      (List.range' (handleSpan n).1 (handleSpan n).2) := by
  have hone : ∀ (type : Nat) (required : Bool) (t : Table) (base : Nat), t.handle = base →
      ((o.opt type required [t]).map Table.handle).Sublist (List.range' base 1) := by
    intro type required t base ht
    refine opt_handles_sublist type required fun _ => ?_
    rw [List.map_singleton, ht]
    exact List.Sublist.refl _
  intro n hn
  simp only [systemTypes, List.mem_cons, List.not_mem_nil, or_false] at hn
  rcases hn with rfl | rfl | rfl | rfl | rfl | rfl | rfl | rfl | rfl | rfl
  · exact hone 0 false (type0Table o) _ rfl
  · exact hone 1 true (type1Table o) _ rfl
  · exact hone 2 true (type2Table o) _ rfl
  · exact hone 3 true (type3Table o) _ rfl
  · exact opt_handles_sublist 4 true fun hskip =>
      untilHalt_handles (range'_handles (type4Table_handle o ms ep) _) (hbound.processors hskip)
  · exact opt_handles_sublist 7 true fun _ => List.Sublist.refl _
  · refine opt_handles_sublist 8 true fun hskip => ?_
    rw [mapIdx_handles fun _ _ => rfl]
    exact List.range'_sublist_right.mpr (hbound.ports hskip)
  · exact opt_handles_sublist 9 true fun hskip =>
      untilHalt_handles (mapIdx_handles (type9Table_handle h) _) (hbound.slots hskip)
  · show ((oemTables o).map Table.handle).Sublist _
    unfold oemTables
    split
    · exact List.nil_sublist _
    · exact hone 11 true (type11Table o) _ rfl
  · exact opt_handles_sublist 41 true fun hskip =>
      untilHalt_handles (mapIdx_handles (type41Table_handle h) _) (hbound.devices hskip)

theorem families_disjoint {S : List Nat} {f : Nat → List Nat}
    (hdis : S.Pairwise (Function.onFun List.Disjoint f)) {a b : Nat} (ha : a ∈ S) (hb : b ∈ S)
    (hne : a ≠ b) : List.Disjoint (f a) (f b) :=
  have : Std.Symm (Function.onFun List.Disjoint f) := ⟨fun _ _ hab _ hx hx' => hab hx' hx⟩
  hdis.forall ha hb hne

/-- Families with handles of their own. -/
theorem families_nodup (hbound : FamiliesBounded ms o) {S : List Nat}
    (hS : ∀ n ∈ S, n ∈ systemTypes)
    (hdis : S.Pairwise fun a b => List.Disjoint (familyOf h ep ms o a) (familyOf h ep ms o b) ∨
      (handleSpan a).1 + (handleSpan a).2 ≤ (handleSpan b).1 ∨
      (handleSpan b).1 + (handleSpan b).2 ≤ (handleSpan a).1) :
    (S.flatMap (familyOf h ep ms o)).Nodup := by
  have hsub := @family_sublist h ep ms o hbound
  refine List.nodup_flatMap.mpr ⟨fun n hn => (hsub n (hS n hn)).nodup List.nodup_range', ?_⟩
  refine hdis.imp_of_mem fun ha hb hab => ?_
  rcases hab with hab | hspan
  · exact hab
  · intro x hxa hxb
    have hina := List.mem_range'_1.mp ((hsub _ (hS _ ha)).subset hxa)
    have hinb := List.mem_range'_1.mp ((hsub _ (hS _ hb)).subset hxb)
    omega

/-- The pass builds types 0 and 8, with a port. -/
structure PortsShareBase (ep : SmbiosEntryPointType) (ms : Machine) (o : Options) : Prop where
  accepted : type4Rejects ep ms o = false
  bios : smbiosSkipTable o 0 false = false
  ports : smbiosSkipTable o 8 true = false
  nonempty : o.type8 ≠ []

theorem families_clash (hrej : type4Rejects ep ms o = false) :
    ¬List.Disjoint (familyOf h ep ms o 0) (familyOf h ep ms o 8) ↔ PortsShareBase ep ms o := by
  have hbios : familyOf h ep ms o 0 = if smbiosSkipTable o 0 false then [] else [T0_BASE] :=
    opt_handles 0 false [type0Table o]
  have hports : familyOf h ep ms o 8 =
      if smbiosSkipTable o 8 true then [] else List.range' T0_BASE o.type8.length := by
    rw [← mapIdx_handles (f := type8Table) fun _ _ => rfl]
    exact opt_handles 8 true _
  rw [hbios, hports]
  constructor
  · intro hclash
    cases hskip : smbiosSkipTable o 0 false with
    | true => exact absurd (by simp [hskip]) hclash
    | false =>
      cases hskip' : smbiosSkipTable o 8 true with
      | true => exact absurd (by simp [hskip']) hclash
      | false => exact ⟨hrej, hskip, hskip', fun hnil => hclash (by simp [hnil])⟩
  · rintro ⟨-, hskip, hskip', hne⟩ hdis
    have hpos : 0 < o.type8.length := List.length_pos_of_ne_nil hne
    rw [hskip, hskip', if_neg Bool.false_ne_true, if_neg Bool.false_ne_true] at hdis
    refine hdis (List.mem_singleton.mpr rfl) (List.mem_range'_1.mpr ⟨Nat.le_refl _, ?_⟩)
    omega

/-- The handles of a pass that type 4 ends. -/
theorem handlesOf_rejected (hh : h.Contract) (hrej : type4Rejects ep ms o = true) :
    handlesOf systemTypes (plannedTables h ep ms o) =
      [0, 1, 2, 3, 4].flatMap (familyOf h ep ms o) := by
  have hplan : plannedTables h ep ms o = [0, 1, 2, 3, 4].flatMap (tablesOf h ep ms o) := by
    unfold plannedTables
    rw [hrej, if_pos rfl]
    simp only [List.flatMap_cons, List.flatMap_nil, systemTables, List.append_assoc]
    rfl
  have hkeep : ∀ t ∈ plannedTables h ep ms o, t.type ∈ systemTypes := by
    intro t ht
    rw [hplan] at ht
    obtain ⟨n, hn, htn⟩ := List.mem_flatMap.mp ht
    rw [tablesOf_type hh t htn]
    exact (show ∀ n ∈ [0, 1, 2, 3, 4], n ∈ systemTypes by decide) n hn
  unfold handlesOf
  rw [List.filter_eq_self.mpr fun t ht => decide_eq_true (hkeep t ht), hplan, List.map_flatMap]
  rfl

/-- **The handles of types 0 to 11 and 41 are distinct exactly when ports do not share the base of
type 0.** -/
theorem systemHandles_nodup_iff (hh : h.Contract) (hbound : FamiliesBounded ms s.opts)
    {r : Option Published} (hrun : smbiosGetTablesEp h ep ms s = .ok r s') :
    (handlesOf systemTypes s'.bld.started).Nodup ↔ ¬PortsShareBase ep ms s.opts := by
  obtain ⟨hstarted, hhold⟩ := planned_of_return hh hrun
  rw [hstarted]
  cases hrej : type4Rejects ep ms s.opts with
  | true =>
    rw [handlesOf_rejected hh hrej]
    refine iff_of_true (families_nodup hbound (by decide) ?_) fun hports => ?_
    · have hspans : [0, 1, 2, 3, 4].Pairwise fun a b =>
          (handleSpan a).1 + (handleSpan a).2 ≤ (handleSpan b).1 := by decide
      exact hspans.imp fun hspan => .inr (.inl hspan)
    · rw [hports.accepted] at hrej
      cases hrej
  | false =>
    have htypes : (builtTypes.filter fun n => n ∈ systemTypes) = systemTypes := by decide
    rw [(handlesOf_planned hh hrej (hhold hrej) systemTypes).nodup_iff, htypes,
      ← families_clash (h := h) hrej, not_not]
    constructor
    · intro hnodup
      exact families_disjoint (List.nodup_flatMap.mp hnodup).2 (by decide) (by decide) (by decide)
    · intro hports
      have hspans : systemTypes.Pairwise fun a b => (a = 0 ∧ b = 8) ∨
          (handleSpan a).1 + (handleSpan a).2 ≤ (handleSpan b).1 ∨
          (handleSpan b).1 + (handleSpan b).2 ≤ (handleSpan a).1 := by decide
      refine families_nodup hbound (fun n hn => hn) (hspans.imp fun hspan => ?_)
      rcases hspan with ⟨rfl, rfl⟩ | hspan
      · exact .inl hports
      · exact .inr hspan

/-- `smbios_set_defaults`, one `-smbios type=0` and one `-smbios type=8`. -/
def portState : State where
  opts :=
    { haveDefaults := true
      haveFieldsBitmap := setBit 0 0
      type8 := [{}] }

theorem portState_bounded : FamiliesBounded .small portState.opts where
  processors _ := by decide
  ports _ := by decide
  slots _ := by decide
  devices _ := by decide

theorem portState_terminated : ValuesTerminated portState.opts := fun _ _ hmem => nomatch hmem

theorem systemHandles_nodup_iff_portState : ∃ r s',
    smbiosGetTablesEp .plain .type64 .small portState = .ok r s' ∧
      ((handlesOf systemTypes s'.bld.started).Nodup ↔
        ¬PortsShareBase .type64 .small portState.opts) :=
  have hrun := run_of_publishes (s := portState) Host.plain_contract
    (publishes_small portState_terminated (.inl rfl))
  ⟨_, _, hrun, systemHandles_nodup_iff Host.plain_contract portState_bounded hrun⟩

/-- The BIOS structure and the first port both have the handle 0. -/
theorem portHandleTwice : FamiliesBounded .small portState.opts ∧ ∃ r s',
    smbiosGetTablesEp .plain .type64 .small portState = .ok r s' ∧
      ¬(handlesOf systemTypes s'.bld.started).Nodup := by
  have hrun := run_of_publishes (s := portState) Host.plain_contract
    (publishes_small portState_terminated (.inl rfl))
  refine ⟨portState_bounded, _, _, hrun, fun hnodup => ?_⟩
  have hstarted : (Build.planned .plain .type64 .small portState.opts).started =
      plannedTables .plain .type64 .small portState.opts := planned_started
  have htables : handlesOf systemTypes (plannedTables .plain .type64 .small portState.opts) =
      [0, 0x100, 0x200, 0x300, 0x400, 0x700, 0x701, 0x702, 0x703, 0] := by decide +kernel
  rw [hstarted, htables] at hnodup
  exact absurd hnodup (by decide)

/-! ## Memory and probes -/

/-- The types from the memory array to the power supply. -/
def memoryTypes : List Nat := [16, 17, 19, 20, 22, 26, 27, 28, 29, 32, 37, 39]

/-- The handles of these types that do not depend on the machine, with their types. -/
def fixedHandles : List (Nat × Nat) :=
  [(16, T16_BASE), (20, T20_BASE), (22, T22_BASE), (26, T26_BASE), (26, T26_BASE + 1),
   (27, T27_BASE), (28, T28_BASE), (28, T28_BASE + 1), (29, T29_BASE), (32, T32_BASE),
   (37, T37_BASE), (39, T39_BASE)]

/-- `x` is a handle of type 17. -/
def IsDimmHandle (ms : Machine) (o : Options) (x : Nat) : Prop :=
  smbiosSkipTable o 17 true = false ∧ T17_BASE ≤ x ∧ x < T17_BASE + dimmCnt ms

/-- `x` is a handle of type 19. -/
def IsMappedHandle (ms : Machine) (o : Options) (x : Nat) : Prop :=
  smbiosSkipTable o 19 true = false ∧ T19_BASE + handleOffset ms ≤ x ∧
    x < T19_BASE + handleOffset ms + dimmCnt ms

/-- At most one type 20, types 17 and 19 below 2^16, and no fixed handle between theirs. -/
structure MemorySeparated (ms : Machine) (o : Options) : Prop where
  oneChunk : smbiosSkipTable o 20 true = false → dimmCnt ms ≤ 1
  dimms : ∀ x, IsDimmHandle ms o x → x < 2 ^ 16
  mapped : ∀ x, IsMappedHandle ms o x → x < 2 ^ 16
  clear : ∀ q ∈ fixedHandles, smbiosSkipTable o q.1 true = false →
    ¬IsDimmHandle ms o q.2 ∧ ¬IsMappedHandle ms o q.2

/-- Type 17 of chunk `i`. -/
def dimmTable (ms : Machine) (o : Options) (i : Nat) : Table := type17Table o i (getDimmSz ms i)

/-- Type 19 of chunk `i`. -/
def mappedTable (ms : Machine) (i : Nat) : Table :=
  type19Table i (handleOffset ms) (chunkAddress ms i) (getDimmSz ms i)

theorem dimmTable_handle (ms : Machine) (o : Options) (i : Nat) :
    (dimmTable ms o i).handle = T17_BASE + i := by
  unfold dimmTable
  exact type17Table_handle o i (getDimmSz ms i)

theorem mappedTable_handle (ms : Machine) (i : Nat) :
    (mappedTable ms i).handle = T19_BASE + handleOffset ms + i := by
  unfold mappedTable
  exact type19Table_handle i (handleOffset ms) (chunkAddress ms i) (getDimmSz ms i)

theorem familyOf_dimms : familyOf h ep ms o 17 =
    if smbiosSkipTable o 17 true then [] else List.range' T17_BASE (dimmCnt ms) := by
  have hfamily : tablesOf h ep ms o 17 =
      o.opt 17 true ((List.range' 0 (dimmCnt ms)).map (dimmTable ms o)) := rfl
  rw [familyOf, hfamily, opt_handles, range'_handles (dimmTable_handle ms o)]

theorem familyOf_mapped : familyOf h ep ms o 19 =
    if smbiosSkipTable o 19 true then []
    else List.range' (T19_BASE + handleOffset ms) (dimmCnt ms) := by
  have hfamily : tablesOf h ep ms o 19 =
      o.opt 19 true ((List.range' 0 (dimmCnt ms)).map (mappedTable ms)) := rfl
  rw [familyOf, hfamily, opt_handles, range'_handles (mappedTable_handle ms)]

theorem familyOf_chunks : familyOf h ep ms o 20 =
    if smbiosSkipTable o 20 true then [] else List.replicate (dimmCnt ms) T20_BASE := by
  have hfamily : tablesOf h ep ms o 20 = o.opt 20 true ((List.range' 0 (dimmCnt ms)).map fun i =>
      type20Table (chunkAddress ms i) (getDimmSz ms i)) := rfl
  have hreplicate : ((List.range' 0 (dimmCnt ms)).map fun i =>
      type20Table (chunkAddress ms i) (getDimmSz ms i)).map Table.handle =
      List.replicate (dimmCnt ms) T20_BASE := by
    refine List.eq_replicate_iff.mpr ⟨by simp, fun x hx => ?_⟩
    obtain ⟨t, ht, rfl⟩ := List.mem_map.mp hx
    obtain ⟨i, -, rfl⟩ := List.mem_map.mp ht
    rfl
  rw [familyOf, hfamily, opt_handles, hreplicate]

/-- The other types have their fixed handles. -/
theorem familyOf_fixed {n : Nat} (hn : n ∈ memoryTypes) (h17 : n ≠ 17) (h19 : n ≠ 19)
    (h20 : n ≠ 20) : familyOf h ep ms o n = if smbiosSkipTable o n true then []
      else (fixedHandles.filter fun q => q.1 = n).map Prod.snd := by
  simp only [memoryTypes, List.mem_cons, List.not_mem_nil, or_false] at hn
  rcases hn with rfl | rfl | rfl | rfl | rfl | rfl | rfl | rfl | rfl | rfl | rfl | rfl
  case inr.inl => exact absurd rfl h17
  case inr.inr.inl => exact absurd rfl h19
  case inr.inr.inr.inl => exact absurd rfl h20
  all_goals exact opt_handles _ true _

/-- A handle of these types is one of type 17 or 19, or a fixed one of a type that is built. -/
theorem mem_familyOf {n x : Nat} (hn : n ∈ memoryTypes) : x ∈ familyOf h ep ms o n →
    (n = 17 ∧ IsDimmHandle ms o x) ∨ (n = 19 ∧ IsMappedHandle ms o x) ∨
      ((n, x) ∈ fixedHandles ∧ smbiosSkipTable o n true = false) := by
  intro hx
  by_cases h17 : n = 17
  · subst h17
    rw [familyOf_dimms] at hx
    cases hskip : smbiosSkipTable o 17 true with
    | true => simp [hskip] at hx
    | false =>
      rw [hskip, if_neg Bool.false_ne_true, List.mem_range'_1] at hx
      exact .inl ⟨rfl, hskip, hx⟩
  by_cases h19 : n = 19
  · subst h19
    rw [familyOf_mapped] at hx
    cases hskip : smbiosSkipTable o 19 true with
    | true => simp [hskip] at hx
    | false =>
      rw [hskip, if_neg Bool.false_ne_true, List.mem_range'_1] at hx
      exact .inr (.inl ⟨rfl, hskip, hx⟩)
  by_cases h20 : n = 20
  · subst h20
    rw [familyOf_chunks] at hx
    cases hskip : smbiosSkipTable o 20 true with
    | true => simp [hskip] at hx
    | false =>
      rw [hskip, if_neg Bool.false_ne_true, List.mem_replicate] at hx
      rw [hx.2]
      exact .inr (.inr ⟨by decide, rfl⟩)
  rw [familyOf_fixed hn h17 h19 h20] at hx
  cases hskip : smbiosSkipTable o n true with
  | true => simp [hskip] at hx
  | false =>
    rw [hskip, if_neg Bool.false_ne_true] at hx
    obtain ⟨⟨m, y⟩, hmem, rfl⟩ := List.mem_map.mp hx
    obtain ⟨hfixed, heq⟩ := List.mem_filter.mp hmem
    rw [decide_eq_true_eq] at heq
    subst heq
    exact .inr (.inr ⟨hfixed, rfl⟩)

/-- A fixed handle of a type that is built is used, unless it is that of a chunk and there is
none. -/
theorem mem_familyOf_fixed {q : Nat × Nat} (hq : q ∈ fixedHandles)
    (hskip : smbiosSkipTable o q.1 true = false) (hpos : 0 < dimmCnt ms) :
    q.2 ∈ familyOf h ep ms o q.1 := by
  by_cases h20 : q.1 = 20
  · have hbase : q.2 = T20_BASE :=
      (show ∀ q ∈ fixedHandles, q.1 = 20 → q.2 = T20_BASE by decide) q hq h20
    rw [h20] at hskip
    rw [h20, hbase, familyOf_chunks, hskip, if_neg Bool.false_ne_true, List.mem_replicate]
    exact ⟨Nat.pos_iff_ne_zero.mp hpos, rfl⟩
  · obtain ⟨hn, h17, h19⟩ := (show ∀ q ∈ fixedHandles, q.1 ∈ memoryTypes ∧ q.1 ≠ 17 ∧ q.1 ≠ 19 by
      decide) q hq
    rw [familyOf_fixed hn h17 h19 h20, hskip, if_neg Bool.false_ne_true]
    exact List.mem_map.mpr ⟨q, List.mem_filter.mpr ⟨hq, decide_eq_true rfl⟩, rfl⟩

/-- The offset keeps types 17 and 19 apart. -/
theorem dimms_below_mapped : T17_BASE + dimmCnt ms ≤ T19_BASE + handleOffset ms := by
  unfold handleOffset T17_BASE T19_BASE
  split <;> omega

theorem family_nodup (hsep : MemorySeparated ms o) :
    ∀ n ∈ memoryTypes, (familyOf h ep ms o n).Nodup := by
  intro n hn
  by_cases h17 : n = 17
  · rw [h17, familyOf_dimms]
    split
    · exact List.nodup_nil
    · exact List.nodup_range'
  by_cases h19 : n = 19
  · rw [h19, familyOf_mapped]
    split
    · exact List.nodup_nil
    · exact List.nodup_range'
  by_cases h20 : n = 20
  · rw [h20, familyOf_chunks]
    cases hskip : smbiosSkipTable o 20 true with
    | true => exact List.nodup_nil
    | false => exact List.nodup_replicate.mpr (hsep.oneChunk hskip)
  rw [familyOf_fixed hn h17 h19 h20]
  split
  · exact List.nodup_nil
  · exact (show ∀ n ∈ memoryTypes, ((fixedHandles.filter fun q => q.1 = n).map Prod.snd).Nodup by
      decide) n hn

/-- Two families of a separated machine have no handle in common. -/
theorem family_disjoint (hsep : MemorySeparated ms o) {a b : Nat} (ha : a ∈ memoryTypes)
    (hb : b ∈ memoryTypes) (hne : a ≠ b) :
    List.Disjoint (familyOf h ep ms o a) (familyOf h ep ms o b) := by
  have hbelow := @dimms_below_mapped ms
  have hfixed : ∀ p ∈ fixedHandles, ∀ q ∈ fixedHandles, p.2 = q.2 → p.1 = q.1 := by decide
  intro x hxa hxb
  rcases mem_familyOf ha hxa with ⟨rfl, hdimm⟩ | ⟨rfl, hmapped⟩ | ⟨hfix, hbuilt⟩
  · rcases mem_familyOf hb hxb with ⟨rfl, -⟩ | ⟨rfl, hmapped⟩ | ⟨hfix', hbuilt'⟩
    · exact hne rfl
    · have := hdimm.2.2
      have := hmapped.2.1
      omega
    · exact (hsep.clear _ hfix' hbuilt').1 hdimm
  · rcases mem_familyOf hb hxb with ⟨rfl, hdimm⟩ | ⟨rfl, -⟩ | ⟨hfix', hbuilt'⟩
    · have := hdimm.2.2
      have := hmapped.2.1
      omega
    · exact hne rfl
    · exact (hsep.clear _ hfix' hbuilt').2 hmapped
  · rcases mem_familyOf hb hxb with ⟨rfl, hdimm⟩ | ⟨rfl, hmapped⟩ | ⟨hfix', -⟩
    · exact (hsep.clear _ hfix hbuilt).1 hdimm
    · exact (hsep.clear _ hfix hbuilt).2 hmapped
    · exact hne (hfixed _ hfix _ hfix' rfl)

/-- The handles are pairwise distinct and fit 16 bits. -/
def HandlesOk (xs : List Nat) : Prop := xs.Nodup ∧ ∀ x ∈ xs, x < 2 ^ 16

theorem handlesOk_perm {xs ys : List Nat} (hperm : xs.Perm ys) : HandlesOk xs ↔ HandlesOk ys := by
  unfold HandlesOk
  rw [hperm.nodup_iff]
  simp only [hperm.mem_iff]

/-- **The handles of the memory and probe types are distinct and fit 16 bits exactly when there is
at most one type 20 and the numbered families run into nothing else.** -/
theorem memoryHandles_iff (hh : h.Contract) (hrej : type4Rejects ep ms s.opts = false)
    {r : Option Published} (hrun : smbiosGetTablesEp h ep ms s = .ok r s') :
    HandlesOk (handlesOf memoryTypes s'.bld.started) ↔ MemorySeparated ms s.opts := by
  obtain ⟨hstarted, hhold⟩ := planned_of_return hh hrun
  have htypes : (builtTypes.filter fun n => n ∈ memoryTypes) = memoryTypes := by decide
  have hperm := @handlesOf_planned h ep ms s.opts hh hrej (hhold hrej) memoryTypes
  rw [htypes] at hperm
  rw [hstarted, handlesOk_perm hperm]
  unfold HandlesOk
  rw [List.nodup_flatMap]
  constructor
  · rintro ⟨⟨hnodup, hdis⟩, hfit⟩
    have hmem17 : ∀ x, IsDimmHandle ms s.opts x → x ∈ familyOf h ep ms s.opts 17 := by
      rintro x ⟨hskip, hx⟩
      rw [familyOf_dimms, hskip, if_neg Bool.false_ne_true]
      exact List.mem_range'_1.mpr hx
    have hmem19 : ∀ x, IsMappedHandle ms s.opts x → x ∈ familyOf h ep ms s.opts 19 := by
      rintro x ⟨hskip, hx⟩
      rw [familyOf_mapped, hskip, if_neg Bool.false_ne_true]
      exact List.mem_range'_1.mpr hx
    refine ⟨fun hskip => ?_, fun x hx => ?_, fun x hx => ?_, fun q hq hskip => ⟨?_, ?_⟩⟩
    · have hone := hnodup 20 (by decide)
      rw [familyOf_chunks, hskip, if_neg Bool.false_ne_true] at hone
      exact List.nodup_replicate.mp hone
    · exact hfit x (List.mem_flatMap.mpr ⟨17, by decide, hmem17 x hx⟩)
    · exact hfit x (List.mem_flatMap.mpr ⟨19, by decide, hmem19 x hx⟩)
    all_goals
      obtain ⟨hn, h17, h19⟩ := (show ∀ q ∈ fixedHandles, q.1 ∈ memoryTypes ∧ q.1 ≠ 17 ∧ q.1 ≠ 19 by
        decide) q hq
      intro hx
      have hpos : 0 < dimmCnt ms := by
        have := hx.2
        omega
    · exact families_disjoint hdis hn (by decide) h17 (mem_familyOf_fixed hq hskip hpos)
        (hmem17 _ hx)
    · exact families_disjoint hdis hn (by decide) h19 (mem_familyOf_fixed hq hskip hpos)
        (hmem19 _ hx)
  · intro hsep
    refine ⟨⟨family_nodup hsep, ?_⟩, fun x hx => ?_⟩
    · refine List.Nodup.pairwise_of_forall_ne (by decide) fun a ha b hb hne => ?_
      exact family_disjoint hsep ha hb hne
    · obtain ⟨n, hn, hx⟩ := List.mem_flatMap.mp hx
      rcases mem_familyOf hn hx with ⟨-, hdimm⟩ | ⟨-, hmapped⟩ | ⟨hfix, -⟩
      · exact hsep.dimms x hdimm
      · exact hsep.mapped x hmapped
      · exact (show ∀ q ∈ fixedHandles, q.2 < 2 ^ 16 by decide) _ hfix

theorem memoryHandles_iff_small : ∃ r s', smbiosGetTablesEp .plain .type64 .small .bare = .ok r s' ∧
    (HandlesOk (handlesOf memoryTypes s'.bld.started) ↔ MemorySeparated .small State.bare.opts) :=
  have hrun := run_of_publishes (s := .bare) Host.plain_contract
    (publishes_small bare_terminated (.inl rfl))
  ⟨_, _, hrun, memoryHandles_iff Host.plain_contract type4Rejects_type64 hrun⟩

/-- One socket with one core and 24 GiB of memory, 2 GiB of it below 4 GiB. -/
def Machine.twoChunks : Machine where
  sockets := 1
  coresPerSocket := 1
  threadsPerSocket := 1
  ramSize := 0x600000000
  smbiosMemoryDeviceSize := 0x400000000
  memArray := [⟨0, 0x80000000⟩, ⟨0x100000000, 0x580000000⟩]
  memArray_lt := by decide

/-- Both type 20 structures have the handle 0x1400. -/
theorem chunkHandleTwice : ∃ r s', smbiosGetTablesEp .plain .type64 .twoChunks .bare = .ok r s' ∧
    ¬HandlesOk (handlesOf memoryTypes s'.bld.started) := by
  have hhold : AssertionsHold .twoChunks State.bare.opts :=
    assertionFault_eq_none.mp (by decide +kernel)
  have hrun := run_of_publishes (s := .bare) Host.plain_contract
    ⟨by decide, by decide, type4Rejects_type64, hhold, .inl rfl, not_tooLong_type64⟩
  refine ⟨_, _, hrun, fun hok => ?_⟩
  have hstarted : (Build.planned .plain .type64 .twoChunks State.bare.opts).started =
      plannedTables .plain .type64 .twoChunks State.bare.opts := planned_started
  have htables : handlesOf memoryTypes (plannedTables .plain .type64 .twoChunks State.bare.opts) =
      [0x1000, 0x1100, 0x1101, 0x1300, 0x1400, 0x1301, 0x1400, 0x1600, 0x1A00, 0x1A01, 0x1B00,
        0x1C00, 0x1C01, 0x1D00, 0x2000, 0x2500, 0x2700] := by decide +kernel
  have hnodup := hok.1
  rw [hstarted, htables] at hnodup
  exact absurd hnodup (by decide)

end Smbios
