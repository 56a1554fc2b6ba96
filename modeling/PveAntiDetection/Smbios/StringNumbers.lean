import PveAntiDetection.Smbios.Auto
import PveAntiDetection.Smbios.Parse

/-!
# String numbers

A string-number member of a structure is the position of its string in the string set, or 0.

* `Table.numbered` — the members of a table are numbered, if no statement writes one of them again;
* `tablesOf_numberable` — every builder keeps to that.
-/

set_option autoImplicit false

namespace Smbios

open Bytes Records

variable {h : Host} {ep : SmbiosEntryPointType} {ms : Machine} {o : Options}

/-! ## The members of one table -/

/-- What a string-number member must hold, with `k` strings set before: 0 for `NULL` and `""`, and
else the position of the string. -/
def stringNumber (k : Nat) (v : CharPtr) : Nat := if v.content = [] then 0 else k + 1

/-- Each string-number member of the structure is the position of the string set for it. -/
def Numbered (stmts : List Stmt) (x : Parsed) : Prop :=
  ∀ before off v after, stmts = before ++ .str off v :: after →
    ∃ k, x.formatted[off]?.map UInt8.toNat = some (stringNumber k v) ∧
      (v.content ≠ [] → x.strings[k]? = some v.content)

/-- No statement behind a SET_STR writes its member again, and the strings have numbers of a
byte. -/
def numberedOnce : List Stmt → Bool
  | [] => true
  | .str off _ :: ss =>
    ss.all (fun s => !(s.range.1 ≤ off && off < s.range.2)) && numberedOnce ss
  | _ :: ss => numberedOnce ss

theorem numberedOnce_append {before after : List Stmt} {off : Nat} {v : CharPtr}
    (honce : numberedOnce (before ++ .str off v :: after) = true) :
    ∀ s ∈ after, ¬(s.range.1 ≤ off ∧ off < s.range.2) := by
  induction before with
  | nil =>
    simp only [List.nil_append, numberedOnce, Bool.and_eq_true, List.all_eq_true] at honce
    intro s hs hrange
    have hno := honce.1 s hs
    simp [hrange] at hno
  | cons s ss ih =>
    apply ih
    cases s with
    | str off' v' =>
      simp only [List.cons_append, numberedOnce, Bool.and_eq_true] at honce
      exact honce.2
    | strList v' => exact honce
    | put off' size n => exact honce

theorem stringsOf_append (ss ss' : List Stmt) :
    stringsOf (ss ++ ss') = stringsOf ss ++ stringsOf ss' :=
  List.filterMap_append

theorem length_stringsOf_le (ss : List Stmt) : (stringsOf ss).length ≤ ss.length :=
  List.length_filterMap_le ..

theorem writesOf_append (ss ss' : List Stmt) (k : Nat) :
    writesOf (ss ++ ss') k = writesOf ss k ++ writesOf ss' (k + (stringsOf ss).length) := by
  induction ss generalizing k with
  | nil => simp [writesOf, stringsOf]
  | cons s ss ih =>
    have hcount : (stringsOf (s :: ss)).length =
        (stringsOf [s]).length + (stringsOf ss).length := by
      rw [stringsOf_cons, List.length_append]
    simp only [List.cons_append, writesOf, ih, hcount, Nat.add_assoc]

/-- **The string-number members of a table** are the positions of their strings. -/
theorem Table.numbered {t : Table} (honce : numberedOnce t.stmts = true)
    (hfew : ∀ before off v after, t.stmts = before ++ .str off v :: after → before.length < 255)
    (fresh : Nat → UInt8) (off : Nat) : Numbered t.stmts (t.parsed fresh off) := by
  intro before p v after hstmts
  refine ⟨(stringsOf before).length, ?_, fun hne => ?_⟩
  · have hk := length_stringsOf_le before
    have hshort := hfew before p v after hstmts
    have hin := t.within fresh off
    have hbyte : ((Stmt.str p v).write (0 + (stringsOf before).length)).2.length = 1 := by
      simp only [Stmt.write]
      split <;> simp
    have hfree : ¬Covers (writesOf after (0 + (stringsOf before).length +
        (stringsOf [.str p v]).length)) p := by
      rw [hstmts] at honce
      rw [covers_writesOf]
      rintro ⟨st, hst, hrange⟩
      exact numberedOnce_append honce st hst hrange
    rw [hstmts, writesOf_append, writesOf] at hin
    show (t.formatted fresh off)[p]?.map UInt8.toNat = _
    rw [t.formatted_eq_storeAll, hstmts, writesOf_append, writesOf,
      storeAll_last hin (Nat.le_refl p) (by rw [hbyte]; exact Nat.lt_succ_self p) hfree]
    unfold stringNumber
    by_cases hv : v.content = []
    · simp [Stmt.write, hv]
    · simp only [Stmt.write, hv, if_false, Nat.sub_self, le, List.getElem?_cons_zero,
        Option.map_some, UInt8.toNat_ofNat', Nat.zero_add]
      rw [Nat.mod_eq_of_lt (by omega)]
  · have hstrings : t.strings = stringsOf before ++ (v.content :: stringsOf after) := by
      unfold Table.strings
      rw [hstmts, stringsOf_append, stringsOf_cons]
      simp [stringsOf, Stmt.string?, hne]
    show t.strings[(stringsOf before).length]? = some v.content
    rw [hstrings, List.getElem?_append_right (Nat.le_refl _), Nat.sub_self]
    rfl

/-! ## The builders -/

/-- Every string of the table has a number, and the member keeps it. -/
structure Table.Numberable (t : Table) : Prop where
  once : numberedOnce t.stmts = true
  few : ∀ before off v after, t.stmts = before ++ .str off v :: after → before.length < 255

/-- Few statements set few strings. -/
theorem numberable_of_short {t : Table}
    (hcheck : (numberedOnce t.stmts && t.stmts.length.ble 255) = true) : t.Numberable := by
  rw [Bool.and_eq_true, Nat.ble_eq] at hcheck
  refine ⟨hcheck.1, fun before off v after hstmts => ?_⟩
  have hshort := hcheck.2
  rw [hstmts, List.length_append, List.length_cons] at hshort
  omega

/-- A table without string-number members. -/
theorem numberable_of_none {t : Table} (hnone : ∀ off v, .str off v ∉ t.stmts) : t.Numberable := by
  refine ⟨?_, fun before off v after hstmts => ?_⟩
  · generalize t.stmts = ss at hnone
    induction ss with
    | nil => rfl
    | cons s ss ih =>
      have ih' := ih fun off v hmem => hnone off v (List.mem_cons_of_mem _ hmem)
      cases s with
      | str off v => exact absurd (List.mem_cons_self ..) (hnone off v)
      | strList v => exact ih'
      | put off size n => exact ih'
  · refine absurd ?_ (hnone off v)
    rw [hstmts]
    exact List.mem_append_right _ (List.mem_cons_self ..)

theorem type0Table_numberable (o : Options) : (type0Table o).Numberable := by
  apply numberable_of_short
  unfold type0Table
  cases o.type0.uefi <;> cases o.type0.haveMajorMinor <;> rfl

theorem type1Table_numberable (o : Options) : (type1Table o).Numberable := by
  apply numberable_of_short
  unfold type1Table
  cases o.qemuUuid <;> rfl

theorem type4Table_numberable (o : Options) (ms : Machine) (ep : SmbiosEntryPointType) (i : Nat) :
    (type4Table o ms ep i).Numberable := by
  apply numberable_of_short
  unfold type4Table
  split <;> rfl

theorem type9Table_numberable (h : Host) (i : Nat) (t9 : Type9Instance) :
    (type9Table h i t9).Numberable := by
  apply numberable_of_short
  unfold type9Table
  split
  · split <;> rfl
  · rfl

theorem type11Table_numberable (o : Options) : (type11Table o).Numberable := by
  apply numberable_of_none
  intro off v hmem
  rcases List.mem_cons.mp hmem with heq | hmem
  · cases heq
  · obtain ⟨a, ha, heq⟩ := List.mem_map.mp hmem
    obtain ⟨w, rfl⟩ := type11Values_strList o.type11 a ha
    cases heq

theorem type16Table_numberable (ms : Machine) (n : Nat) : (type16Table ms n).Numberable := by
  apply numberable_of_short
  unfold type16Table
  simp only
  split <;> rfl

theorem type17Table_numberable (o : Options) (i size : Nat) :
    (type17Table o i size).Numberable := by
  apply numberable_of_short
  unfold type17Table
  split
  · rfl
  · split <;> rfl

theorem type19Table_numberable (i offset start size : Nat) :
    (type19Table i offset start size).Numberable := by
  apply numberable_of_short
  unfold type19Table
  split
  · split <;> rfl
  · rfl

theorem type41Table_numberable (h : Host) (i : Nat) (t41 : Type41Instance) :
    (type41Table h i t41).Numberable := by
  apply numberable_of_short
  unfold type41Table
  split
  · split <;> rfl
  · rfl

/-- **Every builder** numbers its strings. -/
theorem tablesOf_numberable (hipmi : ∀ t ∈ h.type38Tables, ∀ off v, .str off v ∉ t.stmts)
    {type : Nat} : ∀ t ∈ tablesOf h ep ms o type, t.Numberable := by
  intro t ht
  cases builtTable_of_mem ht with
  | bios => exact type0Table_numberable o
  | system => exact type1Table_numberable o
  | processor i => exact type4Table_numberable o ms ep i
  | slot i t9 => exact type9Table_numberable h i t9
  | oem => exact type11Table_numberable o
  | array => exact type16Table_numberable ms (dimmCnt ms)
  | dimm i => exact type17Table_numberable o i (getDimmSz ms i)
  | mapped i => apply type19Table_numberable
  | ipmi t ht => exact numberable_of_none (hipmi t ht)
  | device i t41 => exact type41Table_numberable h i t41
  -- the other builders run the same statements always
  | _ => exact numberable_of_short rfl

end Smbios
