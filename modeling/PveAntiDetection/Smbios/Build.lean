import PveAntiDetection.Lib.Bytes
import PveAntiDetection.Lib.Records
import PveAntiDetection.Smbios.State

/-!
# Building one structure

The macros of `smbios_build.h` are not in the repository.  `SmbiosBuild` is their interface and
`SmbiosBuild.Contract` their documented effect: `SMBIOS_BUILD_TABLE_PRE` grows the table buffer by
the formatted area and writes only its header, `SMBIOS_TABLE_SET_STR` appends a string and numbers
it (or stores 0 for `NULL` and `""`), `SMBIOS_BUILD_TABLE_POST` appends the terminator and counts
the structure in `smbios_table_max` and `smbios_table_cnt`.

A builder of `smbios.c` runs PRE, a list of assignments, and POST, unless it stops before POST
with an error or a failed assertion.  `Table` is one such run as data.  `Table.encode` is the
closed form of the bytes it leaves (`run_stmts`, `run_table`).
-/

set_option autoImplicit false

namespace Smbios

open Bytes Records PackedStruct

/-! ## The interface of `smbios_build.h` -/

/-- `smbios_tables[0 .. smbios_tables_len)`, `smbios_table_max` and `smbios_table_cnt`. -/
structure TableBuf where
  bytes : List UInt8 := []
  tableMax : Nat := 0
  tableCnt : Nat := 0
  deriving DecidableEq

/-- More bytes at the end of the buffer. -/
def TableBuf.append (buf : TableBuf) (bs : List UInt8) : TableBuf :=
  { buf with bytes := buf.bytes ++ bs }

/-- One more structure, of `size` bytes; both counters are `unsigned`. -/
def TableBuf.count (buf : TableBuf) (size : Nat) : TableBuf :=
  { buf with
    tableMax := if size > buf.tableMax then size % 2 ^ 32 else buf.tableMax
    tableCnt := (buf.tableCnt + 1) % 2 ^ 32 }

/-- Bytes stored at an offset of the buffer. -/
def TableBuf.storeAt (buf : TableBuf) (off : Nat) (bs : List UInt8) : TableBuf :=
  { buf with bytes := store buf.bytes off bs }

/-- The locals `t_off` and `str_index` that PRE declares. -/
structure Cursor where
  tOff : Nat
  strIndex : Nat
  deriving DecidableEq

/-- The bytes of a string, none for `NULL`. -/
def CharPtr.content : CharPtr → List UInt8
  | none => []
  | some s => s.bytes

/-- `struct smbios_structure_header` in memory. -/
def headerBytes (type len handle : Nat) : List UInt8 := le 1 type ++ (le 1 len ++ le 2 handle)

@[simp] theorem length_headerBytes (type len handle : Nat) :
    (headerBytes type len handle).length = headerSize := by
  simp [headerBytes, headerSize]

/-- The bytes `g_realloc` hands out at the positions `off, …, off + n - 1`. -/
def freshBytes (fresh : Nat → UInt8) (off n : Nat) : List UInt8 :=
  (List.range n).map fun i => fresh (off + i)

@[simp] theorem length_freshBytes (fresh : Nat → UInt8) (off n : Nat) :
    (freshBytes fresh off n).length = n := by
  simp [freshBytes]

/-- The macros of `smbios_build.h`.  PRE gets the contents of the memory it grows into; SET_STR
gets the offset of the string-number field in the structure. -/
structure SmbiosBuild where
  pre : (Nat → UInt8) → (type handle len : Nat) → TableBuf → TableBuf × Cursor
  setStr : (off : Nat) → CharPtr → TableBuf × Cursor → TableBuf × Cursor
  setStrList : CharPtr → TableBuf × Cursor → TableBuf × Cursor
  post : TableBuf × Cursor → TableBuf

/-- The documented effect of the macros. -/
structure SmbiosBuild.Contract (sb : SmbiosBuild) : Prop where
  /-- PRE appends the header and the uninitialised rest of the formatted area. -/
  pre_appends : ∀ fresh type handle len (buf : TableBuf), headerSize ≤ len →
    sb.pre fresh type handle len buf =
      (buf.append (headerBytes type len handle ++
          freshBytes fresh (buf.bytes.length + headerSize) (len - headerSize)),
        ⟨buf.bytes.length, 0⟩)
  /-- SET_STR of `NULL` or `""` stores 0. -/
  setStr_blank : ∀ off (v : CharPtr) (buf : TableBuf) (c : Cursor),
    c.tOff + off < buf.bytes.length → v.content = [] →
    sb.setStr off v (buf, c) = (buf.storeAt (c.tOff + off) [0], c)
  /-- SET_STR of a string appends it with its NUL and stores its number. -/
  setStr_string : ∀ off (v : CharPtr) (buf : TableBuf) (c : Cursor),
    c.tOff + off < buf.bytes.length → v.content ≠ [] →
    sb.setStr off v (buf, c) =
      ((buf.append (v.content ++ [0])).storeAt (c.tOff + off) (le 1 (c.strIndex + 1)),
        ⟨c.tOff, c.strIndex + 1⟩)
  /-- SET_STR_LIST of `NULL` or `""` does nothing. -/
  setStrList_blank : ∀ (v : CharPtr) (buf : TableBuf) (c : Cursor), v.content = [] →
    sb.setStrList v (buf, c) = (buf, c)
  /-- SET_STR_LIST of a string appends it with its NUL. -/
  setStrList_string : ∀ (v : CharPtr) (buf : TableBuf) (c : Cursor), v.content ≠ [] →
    sb.setStrList v (buf, c) =
      (buf.append (v.content ++ [0]), ⟨c.tOff, c.strIndex + 1⟩)
  /-- POST appends one NUL, two if no string was set, and updates the counters. -/
  post_terminates : ∀ (buf : TableBuf) (c : Cursor),
    sb.post (buf, c) =
      let ended := buf.append (if c.strIndex = 0 then [0, 0] else [0])
      ended.count (ended.bytes.length - c.tOff)

/-- The macros as the contract describes them, computably. -/
def SmbiosBuild.reference : SmbiosBuild where
  pre fresh type handle len buf :=
    (buf.append (headerBytes type len handle ++
        freshBytes fresh (buf.bytes.length + headerSize) (len - headerSize)),
      ⟨buf.bytes.length, 0⟩)
  setStr off v s :=
    if v.content = [] then (s.1.storeAt (s.2.tOff + off) [0], s.2)
    else ((s.1.append (v.content ++ [0])).storeAt (s.2.tOff + off) (le 1 (s.2.strIndex + 1)),
      ⟨s.2.tOff, s.2.strIndex + 1⟩)
  setStrList v s :=
    if v.content = [] then s
    else (s.1.append (v.content ++ [0]), ⟨s.2.tOff, s.2.strIndex + 1⟩)
  post s :=
    let ended := s.1.append (if s.2.strIndex = 0 then [0, 0] else [0])
    ended.count (ended.bytes.length - s.2.tOff)

theorem SmbiosBuild.reference_contract : SmbiosBuild.reference.Contract where
  pre_appends _ _ _ _ _ _ := rfl
  setStr_blank _ _ _ _ _ h := if_pos h
  setStr_string _ _ _ _ _ h := if_neg h
  setStrList_blank _ _ _ h := if_pos h
  setStrList_string _ _ _ h := if_neg h
  post_terminates _ _ := rfl

/-! ## Assignments -/

/-- One statement between PRE and POST, on a structure with the members `F`. -/
inductive Assign (F : Type) [DecidableEq F] [SmbiosStruct F] where
  /-- `SMBIOS_TABLE_SET_STR(N, f, v)`; the member is a byte. -/
  | str (f : F) (v : CharPtr) (h : sizeofField f = 1 := by decide)
  /-- `SMBIOS_TABLE_SET_STR_LIST(N, v)`. -/
  | strList (v : CharPtr)
  /-- `t->f = n`, little-endian. -/
  | set (f : F) (n : Nat)

/-- An assignment with its member resolved to an offset and a size. -/
inductive Stmt where
  | str (off : Nat) (v : CharPtr)
  | strList (v : CharPtr)
  | put (off size n : Nat)
  deriving DecidableEq

section
variable {F : Type} [DecidableEq F] [SmbiosStruct F]

def Assign.lower : Assign F → Stmt
  | .str f v _ => .str (memberOffset f) v
  | .strList v => .strList v
  | .set f n => .put (memberOffset f) (sizeofField f) n
end

/-- The bytes a statement writes in the formatted area, as an interval. -/
def Stmt.range : Stmt → Nat × Nat
  | .str off _ => (off, off + 1)
  | .strList _ => (headerSize, headerSize)
  | .put off size _ => (off, off + size)

/-- A statement leaves the header alone and stays inside the formatted area. -/
def Stmt.InBounds (len : Nat) (s : Stmt) : Prop := headerSize ≤ s.range.1 ∧ s.range.2 ≤ len

instance (len : Nat) (s : Stmt) : Decidable (s.InBounds len) := by
  unfold Stmt.InBounds
  exact inferInstance

/-- What stops a builder between PRE and POST. -/
inductive Halt where
  | report (e : Error)
  | fault (f : Fault)
  deriving DecidableEq

/-- One run of PRE, assignments and POST: the arguments of PRE, the statements executed, and what
stopped them before POST, if anything did. -/
structure Table where
  type : Nat
  handle : Nat
  len : Nat
  stmts : List Stmt
  halt : Option Halt
  type_lt : type < 256
  header_le : headerSize ≤ len
  len_lt : len < 256
  inBounds : ∀ s ∈ stmts, s.InBounds len

section
variable {F : Type} [DecidableEq F] [SmbiosStruct F]

theorem Assign.lower_inBounds (a : Assign F) : a.lower.InBounds (sizeofStruct F) := by
  cases a with
  | str f v h =>
    have := offsetofend_le_sizeofStruct f
    simp only [offsetofend, h] at this
    exact ⟨headerSize_le_memberOffset f, this⟩
  | strList v => exact ⟨Nat.le_refl _, Nat.le_add_right _ _⟩
  | set f n => exact ⟨headerSize_le_memberOffset f, offsetofend_le_sizeofStruct f⟩

/-- The run of a builder on a whole `struct smbios_type_N`. -/
def tableOf (type handle : Nat) (body : List (Assign F)) (halt : Option Halt := none)
    (h : type < 256 := by decide) : Table where
  type := type
  handle := handle
  len := sizeofStruct F
  stmts := body.map Assign.lower
  halt := halt
  type_lt := h
  header_le := Nat.le_add_right _ _
  len_lt := SmbiosStruct.fits
  inBounds s hs := by
    obtain ⟨a, -, rfl⟩ := List.mem_map.mp hs
    exact a.lower_inBounds

end

/-! ## Running a table -/

def Stmt.run (sb : SmbiosBuild) (s : TableBuf × Cursor) : Stmt → TableBuf × Cursor
  | .str off v => sb.setStr off v s
  | .strList v => sb.setStrList v s
  | .put off size n => (s.1.storeAt (s.2.tOff + off) (le size n), s.2)

/-- PRE and the statements of a table. -/
def Table.start (sb : SmbiosBuild) (fresh : Nat → UInt8) (t : Table) (buf : TableBuf) :
    TableBuf × Cursor :=
  t.stmts.foldl (Stmt.run sb) (sb.pre fresh t.type t.handle t.len buf)

/-! ## The closed form -/

/-- The string a statement appends. -/
def Stmt.string? : Stmt → Option (List UInt8)
  | .str _ v => if v.content = [] then none else some v.content
  | .strList v => if v.content = [] then none else some v.content
  | .put _ _ _ => none

/-- The string set of a table. -/
def stringsOf (stmts : List Stmt) : List (List UInt8) := stmts.filterMap Stmt.string?

/-- The bytes a statement stores in the formatted area, and where, with `k` strings set before. -/
def Stmt.write (k : Nat) : Stmt → Nat × List UInt8
  | .str off v => (off, if v.content = [] then [0] else le 1 (k + 1))
  | .strList _ => (headerSize, [])
  | .put off size n => (off, le size n)

/-- The formatted area after the statements, from `fmt`, with `k` strings set before. -/
def formatStmts : List Stmt → Nat → List UInt8 → List UInt8
  | [], _, fmt => fmt
  | s :: ss, k, fmt =>
    formatStmts ss (k + (stringsOf [s]).length) (store fmt (s.write k).1 (s.write k).2)

/-- The formatted area of a table built at offset `off` of the buffer. -/
def Table.formatted (fresh : Nat → UInt8) (off : Nat) (t : Table) : List UInt8 :=
  formatStmts t.stmts 0 (headerBytes t.type t.len t.handle ++
    freshBytes fresh (off + headerSize) (t.len - headerSize))

def Table.strings (t : Table) : List (List UInt8) := stringsOf t.stmts

/-- The bytes of a table before POST. -/
def Table.image (fresh : Nat → UInt8) (off : Nat) (t : Table) : List UInt8 :=
  t.formatted fresh off ++ t.strings.flatMap (· ++ [0])

/-- The bytes of a table after POST. -/
def Table.encode (fresh : Nat → UInt8) (off : Nat) (t : Table) : List UInt8 :=
  t.formatted fresh off ++ encodeStringSet t.strings

theorem Stmt.length_write (k : Nat) (s : Stmt) :
    (s.write k).1 = s.range.1 ∧ (s.write k).1 + (s.write k).2.length = s.range.2 := by
  cases s with
  | str off v => simp only [Stmt.write, Stmt.range]; split <;> simp
  | strList v => simp [Stmt.write, Stmt.range]
  | put off size n => simp [Stmt.write, Stmt.range]

theorem length_formatStmts {len : Nat} : ∀ (stmts : List Stmt) (k : Nat) (fmt : List UInt8),
    fmt.length = len → (∀ s ∈ stmts, s.InBounds len) → (formatStmts stmts k fmt).length = len
  | [], _, _, h, _ => h
  | s :: ss, k, fmt, h, hb => by
    have hs := hb s (List.mem_cons_self ..)
    have hw := s.length_write k
    have hstore : (store fmt (s.write k).1 (s.write k).2).length = len := by
      rw [length_store (by have := hs.2; omega), h]
    exact length_formatStmts ss _ _ hstore fun s' h' => hb s' (List.mem_cons_of_mem _ h')

@[simp] theorem Table.length_formatted (fresh : Nat → UInt8) (off : Nat) (t : Table) :
    (t.formatted fresh off).length = t.len := by
  apply length_formatStmts t.stmts 0 _ _ t.inBounds
  have := t.header_le
  simp only [List.length_append, length_headerBytes, length_freshBytes]
  omega

variable {sb : SmbiosBuild}

/-- One statement stores in the formatted area and appends its string behind the others. -/
theorem Stmt.run_eq (hsb : sb.Contract) (s : Stmt) {pre fmt strs : List UInt8} {m c k : Nat}
    (hb : s.InBounds fmt.length) :
    Stmt.run sb (⟨pre ++ (fmt ++ strs), m, c⟩, ⟨pre.length, k⟩) s =
      (⟨pre ++ (store fmt (s.write k).1 (s.write k).2 ++
          (strs ++ (stringsOf [s]).flatMap (· ++ [0]))), m, c⟩,
        ⟨pre.length, k + (stringsOf [s]).length⟩) := by
  cases s with
  | put off size n =>
    have hend : off + (le size n).length ≤ fmt.length := by rw [length_le]; exact hb.2
    simp only [Stmt.run, Stmt.write, stringsOf, List.filterMap_cons, Stmt.string?,
      List.filterMap_nil, List.flatMap_nil, List.append_nil, List.length_nil, Nat.add_zero,
      TableBuf.storeAt]
    rw [store_append_right, store_append_left hend]
  | strList v =>
    have hnil : store fmt headerSize [] = fmt := by
      simp [store, List.take_append_drop]
    by_cases hv : v.content = []
    · simp only [Stmt.run, Stmt.write, stringsOf, List.filterMap_cons, Stmt.string?, hv, if_true,
        List.filterMap_nil, List.flatMap_nil, List.append_nil, List.length_nil, Nat.add_zero, hnil]
      exact hsb.setStrList_blank _ _ _ hv
    · simp only [Stmt.run, Stmt.write, stringsOf, List.filterMap_cons, Stmt.string?, hv, if_false,
        List.filterMap_nil, List.flatMap_cons, List.flatMap_nil, List.append_nil,
        List.length_singleton, hnil]
      rw [hsb.setStrList_string _ _ _ hv]
      simp only [TableBuf.append, List.append_assoc]
  | str off v =>
    have hoff : off + 1 ≤ fmt.length := hb.2
    have hlt : (⟨pre.length, k⟩ : Cursor).tOff + off <
        (⟨pre ++ (fmt ++ strs), m, c⟩ : TableBuf).bytes.length := by
      simp only [List.length_append]
      omega
    by_cases hv : v.content = []
    · simp only [Stmt.run, Stmt.write, stringsOf, List.filterMap_cons, Stmt.string?, hv, if_true,
        List.filterMap_nil, List.flatMap_nil, List.append_nil, List.length_nil, Nat.add_zero]
      rw [hsb.setStr_blank _ _ _ _ hlt hv, TableBuf.storeAt, store_append_right,
        store_append_left hoff]
    · simp only [Stmt.run, Stmt.write, stringsOf, List.filterMap_cons, Stmt.string?, hv, if_false,
        List.filterMap_nil, List.flatMap_cons, List.flatMap_nil, List.append_nil,
        List.length_singleton]
      rw [hsb.setStr_string _ _ _ _ hlt hv]
      simp only [TableBuf.append, TableBuf.storeAt, List.append_assoc]
      rw [store_append_right, store_append_left (by rw [length_le]; exact hoff)]

theorem stringsOf_cons (s : Stmt) (ss : List Stmt) :
    stringsOf (s :: ss) = stringsOf [s] ++ stringsOf ss := by
  simp only [stringsOf, List.filterMap_cons, List.filterMap_nil]
  split <;> simp_all

/-- **The statements of a table leave its formatted area and its strings.** -/
theorem run_stmts (hsb : sb.Contract) : ∀ (stmts : List Stmt) {pre fmt strs : List UInt8}
    {m c k : Nat}, (∀ s ∈ stmts, s.InBounds fmt.length) →
    stmts.foldl (Stmt.run sb) (⟨pre ++ (fmt ++ strs), m, c⟩, ⟨pre.length, k⟩) =
      (⟨pre ++ (formatStmts stmts k fmt ++ (strs ++ (stringsOf stmts).flatMap (· ++ [0]))), m, c⟩,
        ⟨pre.length, k + (stringsOf stmts).length⟩)
  | [], pre, fmt, strs, m, c, k, _ => by
    simp [formatStmts, stringsOf]
  | s :: ss, pre, fmt, strs, m, c, k, hb => by
    have hs := hb s (List.mem_cons_self ..)
    have hw := s.length_write k
    have hlen : (store fmt (s.write k).1 (s.write k).2).length = fmt.length :=
      length_store (by have := hs.2; omega)
    rw [List.foldl_cons, Stmt.run_eq hsb s hs, run_stmts hsb ss
      (fun s' h' => by rw [hlen]; exact hb s' (List.mem_cons_of_mem _ h'))]
    rw [stringsOf_cons s ss]
    simp only [formatStmts, List.flatMap_append, List.append_assoc, List.length_append,
      Nat.add_assoc]

/-- **A table before POST**: its image behind the buffer. -/
theorem Table.start_eq (hsb : sb.Contract) (fresh : Nat → UInt8) (t : Table) (buf : TableBuf) :
    t.start sb fresh buf =
      (buf.append (t.image fresh buf.bytes.length), ⟨buf.bytes.length, t.strings.length⟩) := by
  have hlen : (headerBytes t.type t.len t.handle ++
      freshBytes fresh (buf.bytes.length + headerSize) (t.len - headerSize)).length = t.len := by
    have := t.header_le
    simp only [List.length_append, length_headerBytes, length_freshBytes]
    omega
  have hrun := @run_stmts sb hsb t.stmts buf.bytes (headerBytes t.type t.len t.handle ++
      freshBytes fresh (buf.bytes.length + headerSize) (t.len - headerSize)) [] buf.tableMax
    buf.tableCnt 0 (fun s hs => by rw [hlen]; exact t.inBounds s hs)
  simp only [List.append_nil, List.nil_append, Nat.zero_add] at hrun
  rw [Table.start, hsb.pre_appends _ _ _ _ _ t.header_le, TableBuf.append, hrun]
  rfl

/-- **A table after POST**: its encoding behind the buffer, counted. -/
theorem Table.post_eq (hsb : sb.Contract) (fresh : Nat → UInt8) (t : Table) (buf : TableBuf) :
    sb.post (t.start sb fresh buf) =
      (buf.append (t.encode fresh buf.bytes.length)).count
        (t.encode fresh buf.bytes.length).length := by
  have himage : t.image fresh buf.bytes.length ++
      (if t.strings.length = 0 then [0, 0] else [0]) = t.encode fresh buf.bytes.length := by
    simp only [Table.image, Table.encode, List.append_assoc]
    congr 1
    cases hs : t.strings with
    | nil => rfl
    | cons s ss => rfl
  rw [Table.start_eq hsb, hsb.post_terminates]
  simp only [TableBuf.append, List.append_assoc, himage, List.length_append,
    Nat.add_sub_cancel_left]

end Smbios
