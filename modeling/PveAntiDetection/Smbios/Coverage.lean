import PveAntiDetection.Smbios.Members

/-!
# The bytes that a builder assigns

PRE writes the header of a structure only; the rest of its formatted area is the memory that
`g_realloc` hands out, until the builder assigns it.

* `Table.Covered` — every byte behind the header is assigned;
* `blobOf_fresh_iff` — the blob of a list of tables depends on the memory exactly if one of them is
  not covered;
* `planned_covered_iff` — when the tables of a pass are covered.
-/

set_option autoImplicit false

namespace Smbios

open Bytes PackedStruct

variable {h : Host} {ep : SmbiosEntryPointType} {ms : Machine} {o : Options}

/-! ## The bytes that a table assigns -/

/-- The writes of the statements in the formatted area, with `k` strings set before. -/
def writesOf : List Stmt → (k : Nat) → List (Nat × List UInt8)
  | [], _ => []
  | s :: ss, k => s.write k :: writesOf ss (k + (stringsOf [s]).length)

/-- Every byte of the formatted area behind the header is assigned. -/
def Table.Covered (t : Table) : Prop :=
  ∀ p, headerSize ≤ p → p < t.len → ∃ s ∈ t.stmts, s.range.1 ≤ p ∧ p < s.range.2

theorem formatStmts_eq_storeAll : ∀ (stmts : List Stmt) (k : Nat) (fmt : List UInt8),
    formatStmts stmts k fmt = storeAll (writesOf stmts k) fmt
  | [], _, _ => rfl
  | _ :: ss, _, _ => formatStmts_eq_storeAll ss _ _

theorem covers_writesOf {p : Nat} (stmts : List Stmt) (k : Nat) :
    Covers (writesOf stmts k) p ↔ ∃ s ∈ stmts, s.range.1 ≤ p ∧ p < s.range.2 := by
  induction stmts generalizing k with
  | nil => simp [Covers, writesOf]
  | cons s ss ih =>
    have hw := s.length_write k
    have hcons : Covers (writesOf (s :: ss) k) p ↔
        (s.range.1 ≤ p ∧ p < s.range.2) ∨ Covers (writesOf ss (k + (stringsOf [s]).length)) p := by
      simp only [Covers, writesOf, List.mem_cons, exists_eq_or_imp, hw.1, ← hw.2]
    rw [hcons, ih]
    simp only [List.mem_cons, exists_eq_or_imp]

theorem within_writesOf {len : Nat} (stmts : List Stmt) (k : Nat)
    (hb : ∀ s ∈ stmts, s.InBounds len) : Within (writesOf stmts k) len := by
  induction stmts generalizing k with
  | nil => exact fun w hw => nomatch hw
  | cons s ss ih =>
    have hs := hb s (List.mem_cons_self ..)
    have hw := s.length_write k
    refine List.forall_mem_cons.mpr ⟨?_, ih _ fun s' h' => hb s' (List.mem_cons_of_mem _ h')⟩
    rw [hw.2]
    exact hs.2

/-- What PRE leaves of a table. -/
def Table.grown (fresh : Nat → UInt8) (off : Nat) (t : Table) : List UInt8 :=
  headerBytes t.type t.len t.handle ++ freshBytes fresh (off + headerSize) (t.len - headerSize)

theorem Table.length_grown (fresh : Nat → UInt8) (off : Nat) (t : Table) :
    (t.grown fresh off).length = t.len := by
  have := t.header_le
  simp only [Table.grown, List.length_append, length_headerBytes, length_freshBytes]
  omega

theorem Table.formatted_eq_storeAll (fresh : Nat → UInt8) (off : Nat) (t : Table) :
    t.formatted fresh off = storeAll (writesOf t.stmts 0) (t.grown fresh off) :=
  formatStmts_eq_storeAll ..

theorem Table.within (fresh : Nat → UInt8) (off : Nat) (t : Table) :
    Within (writesOf t.stmts 0) (t.grown fresh off).length := by
  rw [t.length_grown]
  exact within_writesOf _ _ t.inBounds

/-- **The formatted area of a covered table** does not depend on the memory. -/
theorem Table.formatted_covered {t : Table} (hc : t.Covered) (fresh fresh' : Nat → UInt8)
    (off : Nat) : t.formatted fresh off = t.formatted fresh' off := by
  rw [t.formatted_eq_storeAll, t.formatted_eq_storeAll]
  apply List.ext_getElem?
  intro p
  refine storeAll_covered _ ?_ (t.within fresh off) ?_
  · rw [t.length_grown, t.length_grown]
  · rw [covers_writesOf]
    by_cases hhi : p < t.len
    · by_cases hlo : headerSize ≤ p
      · exact .inl (hc p hlo hhi)
      · right
        have hhead : p < (headerBytes t.type t.len t.handle).length := by
          rw [length_headerBytes]
          omega
        unfold Table.grown
        rw [List.getElem?_append_left hhead, List.getElem?_append_left hhead]
    · right
      rw [List.getElem?_eq_none (by rw [t.length_grown]; omega),
        List.getElem?_eq_none (by rw [t.length_grown]; omega)]

/-- A byte that no statement assigns is the byte of the memory. -/
theorem Table.formatted_free {t : Table} {p : Nat} (hlo : headerSize ≤ p) (hhi : p < t.len)
    (hfree : ¬∃ s ∈ t.stmts, s.range.1 ≤ p ∧ p < s.range.2) (fresh : Nat → UInt8) (off : Nat) :
    (t.formatted fresh off)[p]? = some (fresh (off + p)) := by
  have hhead : (headerBytes t.type t.len t.handle).length ≤ p := by
    rw [length_headerBytes]
    exact hlo
  rw [t.formatted_eq_storeAll, storeAll_free _ (t.within fresh off) (by rwa [covers_writesOf])]
  unfold Table.grown freshBytes
  rw [List.getElem?_append_right hhead, length_headerBytes, List.getElem?_map,
    List.getElem?_range (by omega), Option.map_some]
  congr 2
  omega

/-! ## The blob of a list of tables -/

theorem Table.out_covered {t : Table} (hc : t.Covered) (fresh fresh' : Nat → UInt8) (off : Nat) :
    t.out fresh off = t.out fresh' off := by
  have hfmt := Table.formatted_covered hc fresh fresh' off
  unfold Table.out Table.encode Table.image
  rw [hfmt]

theorem blobOf_covered {ts : List Table} (hc : ∀ t ∈ ts, t.Covered) (fresh fresh' : Nat → UInt8)
    (off : Nat) : blobOf fresh off ts = blobOf fresh' off ts := by
  induction ts generalizing off with
  | nil => rfl
  | cons t ts ih =>
    have hout := Table.out_covered (hc t (List.mem_cons_self ..)) fresh fresh' off
    have ih' := ih fun u hu => hc u (List.mem_cons_of_mem _ hu)
    simp only [blobOf, Table.length_out, hout, ih']

/-- **The blob of a list of tables does not depend on the memory exactly if** every table is
covered. -/
theorem blobOf_fresh_iff (pre : List UInt8) (ts : List Table) :
    (∀ fresh fresh', pre ++ blobOf fresh pre.length ts = pre ++ blobOf fresh' pre.length ts) ↔
      ∀ t ∈ ts, t.Covered := by
  constructor
  · intro hsame t ht p hlo hhi
    by_contra hfree
    rw [← placed_map_snd ts pre.length] at ht
    obtain ⟨⟨off, t'⟩, hplaced, heq⟩ := List.mem_map.mp ht
    obtain rfl : t' = t := heq
    have hzero := load_placed (fun _ => 0) ts pre hplaced
    have hone := load_placed (fun _ => 1) ts pre hplaced
    rw [hsame (fun _ => 0) (fun _ => 1), hone] at hzero
    have hbyte := congrArg (·[p]?) hzero
    simp only [Table.formatted_free hlo hhi hfree] at hbyte
    cases hbyte
  · intro hc fresh fresh'
    rw [blobOf_covered hc fresh fresh']

/-! ## Members that are assigned -/

section
variable {F : Type} [DecidableEq F] [SmbiosStruct F]

/-- The member that an assignment is to. -/
def Assign.member? : Assign F → Option F
  | .str f _ _ => some f
  | .strList _ => none
  | .set f _ => some f

theorem Assign.range_lower {a : Assign F} {f : F} (hf : a.member? = some f) :
    a.lower.range = (memberOffset f, offsetofend f) := by
  cases a with
  | str g v hone =>
    obtain rfl := Option.some.inj hf
    simp only [Assign.lower, Stmt.range, offsetofend, hone]
  | strList v => cases hf
  | set g n =>
    obtain rfl := Option.some.inj hf
    rfl

/-- Assignments to all members in front of `len` cover a formatted area of `len` bytes. -/
theorem members_cover {as : List (Assign F)} {len : Nat} (hlen : len ≤ sizeofStruct F)
    (hall : ∀ f, some f ∈ as.map Assign.member? ∨ len ≤ memberOffset f) {p : Nat}
    (hlo : headerSize ≤ p) (hhi : p < len) :
    ∃ s ∈ as.map Assign.lower, s.range.1 ≤ p ∧ p < s.range.2 := by
  obtain ⟨f, hstart, hend⟩ := exists_member_of_lt (F := F) hlo (Nat.lt_of_lt_of_le hhi hlen)
  rcases hall f with hmem | hbehind
  · obtain ⟨a, ha, hf⟩ := List.mem_map.mp hmem
    refine ⟨a.lower, List.mem_map_of_mem ha, ?_⟩
    rw [Assign.range_lower hf]
    exact ⟨hstart, hend⟩
  · omega

/-- A table with an assignment to every member is covered. -/
theorem tableOf_covered {type handle : Nat} {as : List (Assign F)} {halt : Option Halt}
    {htype : type < 256} (hall : ∀ f, some f ∈ as.map Assign.member?) :
    (tableOf type handle as halt htype).Covered :=
  fun _ hlo hhi => members_cover (Nat.le_refl _) (fun f => .inl (hall f)) hlo hhi

/-- A table without an assignment to a member is not. -/
theorem tableOf_not_covered {type handle : Nat} {as : List (Assign F)} {halt : Option Halt}
    {htype : type < 256} (f : F) (hfree : some f ∉ as.map Assign.member?)
    (hpos : 0 < sizeofField f) : ¬(tableOf type handle as halt htype).Covered := by
  intro hc
  have hend : memberOffset f < offsetofend f := Nat.lt_add_of_pos_right hpos
  obtain ⟨s, hs, hlo, hhi⟩ := hc (memberOffset f) (headerSize_le_memberOffset f)
    (Nat.lt_of_lt_of_le hend (offsetofend_le_sizeofStruct f))
  obtain ⟨a, ha, rfl⟩ := List.mem_map.mp hs
  cases hg : a.member? with
  | none =>
    cases a with
    | strList v =>
      have hle := headerSize_le_memberOffset f
      simp only [Assign.lower, Stmt.range] at hhi
      omega
    | str g v hone => cases hg
    | set g n => cases hg
  | some g =>
    have hne : g ≠ f := by
      rintro rfl
      exact hfree (List.mem_map.mpr ⟨a, ha, hg⟩)
    have hdis := memberOffset_disjoint hne
    rw [Assign.range_lower hg] at hlo hhi
    omega

end

/-! ## The builders -/

theorem type0Table_covered (o : Options) : (type0Table o).Covered := by
  apply tableOf_covered
  intro f
  cases o.type0.haveMajorMinor <;> cases f <;> simp [Assign.member?]

theorem type1Table_covered (o : Options) : (type1Table o).Covered := by
  apply tableOf_covered
  intro f
  cases o.qemuUuid <;> cases f <;> simp [Assign.member?]

theorem type2Table_covered (o : Options) : (type2Table o).Covered := by
  apply tableOf_covered
  intro f
  cases f <;> simp [Assign.member?]

theorem type3Table_covered (o : Options) : (type3Table o).Covered := by
  apply tableOf_covered
  intro f
  cases f <;> simp [Assign.member?]

/-- The members that the shorter type 4 leaves out are behind its end. -/
theorem type4Body_members (o : Options) (ms : Machine) (f : SmbiosType4) :
    some f ∈ (type4Body o ms).map Assign.member? ∨ SMBIOS_TYPE_4_LEN_V28 ≤ memberOffset f := by
  cases f with
  | coreCount2 => exact .inr (by decide)
  | coreEnabled2 => exact .inr (by decide)
  | threadCount2 => exact .inr (by decide)
  | _ => exact .inl (by simp [type4Body, Assign.member?])

theorem type4Table_covered (o : Options) (ms : Machine) (ep : SmbiosEntryPointType) (i : Nat) :
    (type4Table o ms ep i).Covered := by
  unfold type4Table
  split
  · apply tableOf_covered
    intro f
    cases f <;> simp [type4Body, Assign.member?]
  · exact fun p hlo hhi => members_cover (by decide) (type4Body_members o ms) hlo hhi

theorem type7Table_covered (i : Nat) (d : CharPtr) (c m : UInt16) (e t a : UInt8) :
    (type7Table i d c m e t a).Covered := by
  apply tableOf_covered
  intro f
  cases f <;> simp [Assign.member?]

theorem type8Table_covered (i : Nat) (t8 : Type8Instance) : (type8Table i t8).Covered := by
  apply tableOf_covered
  intro f
  cases f <;> simp [Assign.member?]

/-- A failed look-up leaves `segment_group_number`, `bus_number` and `device_number`. -/
theorem type9Table_covered_iff (h : Host) (i : Nat) (t9 : Type9Instance) :
    (type9Table h i t9).Covered ↔ unresolvable h t9.pcidev = false := by
  unfold type9Table
  split
  · rename_i hp
    split
    · rename_i e hfind
      rw [hp, unresolvable_of_error hfind]
      refine ⟨fun hc => absurd hc ?_, fun hf => nomatch hf⟩
      apply tableOf_not_covered .segmentGroupNumber
      · simp [type9Head, Assign.member?]
      · decide
    · rename_i pdev hfind
      rw [hp, unresolvable_of_ok hfind]
      refine ⟨fun _ => rfl, fun _ => ?_⟩
      apply tableOf_covered
      intro f
      cases f <;> simp [type9Head, Assign.member?]
  · rename_i hp
    rw [hp]
    refine ⟨fun _ => rfl, fun _ => ?_⟩
    apply tableOf_covered
    intro f
    cases f <;> simp [type9Head, Assign.member?]

theorem type11Table_covered (o : Options) : (type11Table o).Covered := by
  apply tableOf_covered
  intro f
  cases f
  simp [Assign.member?]

theorem type16Table_covered (ms : Machine) (n : Nat) : (type16Table ms n).Covered := by
  apply tableOf_covered
  intro f
  split <;> cases f <;> simp [Assign.member?]

theorem type17Table_covered {i size : Nat} (hfit : sizeMb size < MAX_T17_EXT_SZ) :
    (type17Table o i size).Covered := by
  unfold type17Table
  split
  · apply tableOf_covered
    intro f
    cases f <;> simp [type17Head, type17Tail, Assign.member?]
  · apply tableOf_covered
    intro f
    cases f <;> simp [type17Head, type17Tail, Assign.member?]

theorem type19Table_covered {i offset start size : Nat} (hrange : rangeEnd start size > start) :
    (type19Table i offset start size).Covered := by
  unfold type19Table
  rw [if_pos hrange]
  apply tableOf_covered
  intro f
  split <;> cases f <;> simp [Assign.member?]

theorem type20Table_covered (start size : Nat) : (type20Table start size).Covered := by
  apply tableOf_covered
  intro f
  cases f <;> simp [Assign.member?]

/-- `sbds_serial_number` is not assigned. -/
theorem type22Table_not_covered : ¬type22Table.Covered := by
  apply tableOf_not_covered .sbdsSerialNumber
  · simp [Assign.member?]
  · decide

theorem type26Table_covered (i : Nat) (d : CharPtr) (s : UInt8) : (type26Table i d s).Covered := by
  apply tableOf_covered
  intro f
  cases f <;> simp [Assign.member?]

theorem type27Table_covered (i : Nat) (d : CharPtr) (s : UInt8) : (type27Table i d s).Covered := by
  apply tableOf_covered
  intro f
  cases f <;> simp [Assign.member?]

theorem type28Table_covered (i : Nat) (d : CharPtr) (s : UInt8) : (type28Table i d s).Covered := by
  apply tableOf_covered
  intro f
  cases f <;> simp [Assign.member?]

theorem type29Table_covered : type29Table.Covered := by
  apply tableOf_covered
  intro f
  cases f
  simp [Assign.member?]

theorem type32Table_covered : type32Table.Covered := by
  apply tableOf_covered
  intro f
  cases f <;> simp [Assign.member?]

theorem type37Table_covered : type37Table.Covered := by
  apply tableOf_covered
  intro f
  cases f

theorem type39Table_covered : type39Table.Covered := by
  apply tableOf_covered
  intro f
  cases f
  simp [Assign.member?]

/-- A failed look-up comes behind the assignments. -/
theorem type41Table_covered (h : Host) (i : Nat) (t41 : Type41Instance) :
    (type41Table h i t41).Covered := by
  have hhead : ∀ f, some f ∈ (type41Head t41).map Assign.member? := by
    intro f
    cases f <;> simp [type41Head, Assign.member?]
  unfold type41Table
  split
  · split
    · exact tableOf_covered hhead
    · apply tableOf_covered
      intro f
      rw [List.map_append]
      exact List.mem_append_left _ (hhead f)
  · exact tableOf_covered hhead

theorem type127Table_covered : type127Table.Covered := by
  apply tableOf_covered
  intro f
  cases f

/-! ## The tables of a pass -/

/-- A property that stops no loop holds of its tables as of all of them. -/
theorem forall_untilHalt {P : Table → Prop} {ts : List Table}
    (hP : ∀ t ∈ ts, P t → t.halt = none) : (∀ t ∈ untilHalt ts, P t) ↔ ∀ t ∈ ts, P t := by
  refine ⟨?_, fun hall t ht => hall t (mem_untilHalt ht)⟩
  induction ts with
  | nil => exact fun hall => hall
  | cons t ts ih =>
    intro hall
    have ih' := ih fun u hu => hP u (List.mem_cons_of_mem _ hu)
    unfold untilHalt at hall
    split at hall
    · obtain ⟨hhead, hrest⟩ := List.forall_mem_cons.mp hall
      exact List.forall_mem_cons.mpr ⟨hhead, ih' hrest⟩
    · rename_i hhalt
      exact absurd (hP t (List.mem_cons_self ..) (hall t (List.mem_cons_self ..))) hhalt

theorem type9Table_halt_of_covered (h : Host) (i : Nat) (t9 : Type9Instance)
    (hc : (type9Table h i t9).Covered) : (type9Table h i t9).halt = none := by
  have hres := (type9Table_covered_iff h i t9).mp hc
  unfold type9Table
  split
  · rename_i hp
    split
    · rename_i e hfind
      rw [hp, unresolvable_of_error hfind] at hres
      cases hres
    · rfl
  · rfl

/-- **The type 9 tables are covered exactly if** every device is found. -/
theorem slotTables_covered_iff : (∀ t ∈ slotTables h o, t.Covered) ↔ slotFails h o = false := by
  unfold slotTables slotFails Options.opt
  cases smbiosSkipTable o 9 true with
  | true => simp
  | false =>
    simp only [Bool.false_eq_true, if_false, Bool.not_false, Bool.true_and]
    rw [forall_untilHalt (mapIdx_forall (type9Table_halt_of_covered h)), List.any_eq_false]
    constructor
    · intro hc t9 ht9
      obtain ⟨i, hi, rfl⟩ := List.mem_iff_getElem.mp ht9
      have hcov := hc _ (List.mem_mapIdx.mpr ⟨i, hi, rfl⟩)
      rw [(type9Table_covered_iff ..).mp hcov]
      exact Bool.false_ne_true
    · intro hno t ht
      obtain ⟨i, hi, rfl⟩ := List.mem_mapIdx.mp ht
      rw [type9Table_covered_iff, ← Bool.not_eq_true]
      exact hno _ (List.getElem_mem hi)

theorem batteryTables_covered_iff :
    (∀ t ∈ batteryTables o, t.Covered) ↔ smbiosSkipTable o 22 true = true := by
  unfold batteryTables Options.opt
  cases smbiosSkipTable o 22 true with
  | true => simp
  | false => simp [type22Table_not_covered]

/-- The other types leave no byte behind the header to the memory. -/
theorem tablesOf_covered (hhold : AssertionsHold ms o) (hipmi : ∀ t ∈ h.type38Tables, t.Covered)
    {type : Nat} (h9 : type ≠ 9) (h22 : type ≠ 22) : ∀ t ∈ tablesOf h ep ms o type, t.Covered := by
  intro t ht
  cases builtTable_of_mem ht with
  | bios => exact type0Table_covered o
  | system => exact type1Table_covered o
  | baseboard => exact type2Table_covered o
  | chassis => exact type3Table_covered o
  | processor i => exact type4Table_covered o ms ep i
  | cache i => apply type7Table_covered
  | port i t8 => exact type8Table_covered i t8
  | slot => exact absurd rfl h9
  | oem => exact type11Table_covered o
  | array => apply type16Table_covered
  | dimm i hi hskip => exact type17Table_covered (hhold.chunks hskip i hi)
  | mapped i hi =>
    have hareas := hhold.areas
    have harea := List.getElem?_eq_getElem (l := ms.memArray) (i := i) (by omega)
    have hrange : RangeOk ms i _ := hhold.ranges i _ hi harea
    apply type19Table_covered
    unfold chunkAddress
    rw [harea]
    exact hrange
  | chunk i => apply type20Table_covered
  | battery => exact absurd rfl h22
  | voltage i d l => exact type26Table_covered i d l
  | cooling i d s => exact type27Table_covered i d s
  | temperature i d l => exact type28Table_covered i d l
  | current => exact type29Table_covered
  | boot => exact type32Table_covered
  | channel => exact type37Table_covered
  | ipmi t ht => exact hipmi t ht
  | supply => exact type39Table_covered
  | device i t41 => exact type41Table_covered h i t41
  | endOfTable => exact type127Table_covered

/-- **The tables of a published pass are covered exactly if** no battery is built and every slot
device is found. -/
theorem planned_covered_iff (hrej : type4Rejects ep ms o = false) (hhold : AssertionsHold ms o)
    (hipmi : ∀ t ∈ h.type38Tables, t.Covered) :
    (∀ t ∈ plannedTables h ep ms o, t.Covered) ↔
      smbiosSkipTable o 22 true = true ∧ slotFails h o = false := by
  have hplanned := @plannedTables_perm h ep ms o hrej hhold
  rw [← batteryTables_covered_iff, ← slotTables_covered_iff (h := h)]
  constructor
  · intro hall
    have htype : ∀ type ∈ builtTypes, ∀ t ∈ tablesOf h ep ms o type, t.Covered :=
      fun type hbuilt t ht =>
        hall t (hplanned.mem_iff.mpr (List.mem_flatMap.mpr ⟨type, hbuilt, ht⟩))
    exact ⟨htype 22 (by decide), htype 9 (by decide)⟩
  · rintro ⟨hbattery, hslots⟩ t ht
    obtain ⟨type, -, hmem⟩ := List.mem_flatMap.mp (hplanned.mem_iff.mp ht)
    by_cases h9 : type = 9
    · subst h9
      exact hslots t hmem
    · by_cases h22 : type = 22
      · subst h22
        exact hbattery t hmem
      · exact tablesOf_covered hhold hipmi h9 h22 t hmem

end Smbios
