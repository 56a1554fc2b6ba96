import PveAntiDetection.Smbios.Coverage

/-!
# The grammar of the tables

What a reader makes of the bytes of a structure table.

* `parseStructure` — a header, a formatted area of the length it gives, and a string set;
* `parseStructure_encode` — a table that reaches POST is read back whatever follows it;
* `parseAll_tables` — user blobs and then complete tables are read back in this order.
-/

set_option autoImplicit false

namespace Smbios

open Bytes Records

/-! ## The grammar -/

/-- A structure as a reader finds it. -/
structure Parsed where
  type : Nat
  handle : Nat
  /-- The formatted area, with the header. -/
  formatted : List UInt8
  strings : List (List UInt8)
  /-- The bytes read. -/
  size : Nat
  deriving DecidableEq

/-- One structure of the table. -/
def parseStructure : Parser Parsed
  | type :: len :: lo :: hi :: bs =>
    let all := type :: len :: lo :: hi :: bs
    if headerSize ≤ len.toNat ∧ len.toNat ≤ all.length then
      (parseStringSet (all.drop len.toNat)).map fun p =>
        (⟨type.toNat, ofLe [lo, hi], all.take len.toNat, p.1, all.length - p.2.length⟩, p.2)
    else none
  | _ => none

theorem parseStructure_local : Local parseStructure := by
  intro bs x r t hparse
  unfold parseStructure at hparse
  split at hparse
  · rename_i type len lo hi rest
    simp only at hparse
    split at hparse
    · rename_i hlen
      obtain ⟨⟨ss, r'⟩, hset, hpair⟩ := Option.map_eq_some_iff.mp hparse
      simp only [Prod.mk.injEq] at hpair
      obtain ⟨rfl, rfl⟩ := hpair
      have hlocal := parseStringSet_local _ ss r' t hset
      have hall : type :: len :: lo :: hi :: (rest ++ t) =
          (type :: len :: lo :: hi :: rest) ++ t := rfl
      simp only [List.cons_append, parseStructure]
      rw [hall, if_pos ⟨hlen.1, by rw [List.length_append]; omega⟩,
        List.drop_append_of_le_length hlen.2, hlocal, List.take_append_of_le_length hlen.2]
      simp only [Option.map_some, List.length_append, Nat.add_sub_add_right]
    · cases hparse
  · cases hparse

/-- The blob is one structure. -/
def OneStructure (b : List UInt8) : Prop := ∃ x, parseStructure b = some (x, [])

/-! ## One table -/

/-- The header stays in front of the formatted area. -/
theorem Table.take_formatted (fresh : Nat → UInt8) (off : Nat) (t : Table) :
    (t.formatted fresh off).take headerSize = headerBytes t.type t.len t.handle := by
  apply List.ext_getElem?
  intro p
  rw [List.getElem?_take]
  by_cases hlo : p < headerSize
  · have hfree : ¬Covers (writesOf t.stmts 0) p := by
      rw [covers_writesOf]
      rintro ⟨st, hst, hle, -⟩
      have hb := (t.inBounds st hst).1
      omega
    rw [if_pos hlo, t.formatted_eq_storeAll, storeAll_free _ (t.within fresh off) hfree]
    unfold Table.grown
    rw [List.getElem?_append_left (by rw [length_headerBytes]; exact hlo)]
  · rw [if_neg hlo, List.getElem?_eq_none (by rw [length_headerBytes]; omega)]

theorem Table.strings_isSetString (t : Table) : ∀ str ∈ t.strings, IsSetString str := by
  intro str hstr
  obtain ⟨st, -, hsome⟩ := List.mem_filterMap.mp hstr
  have hcontent : ∀ v : CharPtr, 0 ∉ v.content := by
    intro v
    cases v with
    | none => exact List.not_mem_nil
    | some c => exact c.nulFree
  cases st with
  | str off v =>
    simp only [Stmt.string?] at hsome
    split at hsome
    · cases hsome
    · rename_i hne
      rw [← Option.some.inj hsome]
      exact ⟨hne, hcontent v⟩
  | strList v =>
    simp only [Stmt.string?] at hsome
    split at hsome
    · cases hsome
    · rename_i hne
      rw [← Option.some.inj hsome]
      exact ⟨hne, hcontent v⟩
  | put off size n => cases hsome

/-- What a reader finds of a table. -/
def Table.parsed (fresh : Nat → UInt8) (off : Nat) (t : Table) : Parsed where
  type := t.type
  handle := t.handle % 2 ^ 16
  formatted := t.formatted fresh off
  strings := t.strings
  size := (t.encode fresh off).length

@[simp] theorem Table.parsed_type (fresh : Nat → UInt8) (off : Nat) (t : Table) :
    (t.parsed fresh off).type = t.type := rfl

@[simp] theorem Table.parsed_formatted (fresh : Nat → UInt8) (off : Nat) (t : Table) :
    (t.parsed fresh off).formatted = t.formatted fresh off := rfl

@[simp] theorem Table.parsed_strings (fresh : Nat → UInt8) (off : Nat) (t : Table) :
    (t.parsed fresh off).strings = t.strings := rfl

/-- **A table is read back from its bytes, whatever follows.** -/
theorem parseStructure_encode (fresh : Nat → UInt8) (off : Nat) (t : Table) :
    Encodes parseStructure (t.parsed fresh off) (t.encode fresh off) := by
  have hlen := t.length_formatted fresh off
  have hle := t.header_le
  have hlt := t.len_lt
  have hhead := t.take_formatted fresh off
  have hset := parseStringSet_encode t.strings_isSetString
  obtain ⟨area, harea⟩ : ∃ area, t.formatted fresh off =
      headerBytes t.type t.len t.handle ++ area :=
    ⟨(t.formatted fresh off).drop headerSize, by rw [← hhead, List.take_append_drop]⟩
  have htype : (UInt8.ofNat t.type).toNat = t.type := by
    rw [UInt8.toNat_ofNat']
    exact Nat.mod_eq_of_lt t.type_lt
  have hlenByte : (UInt8.ofNat t.len).toNat = t.len := by
    rw [UInt8.toNat_ofNat']
    exact Nat.mod_eq_of_lt hlt
  have hhandle : ofLe (le 2 t.handle) = t.handle % 2 ^ 16 := ofLe_le 2 t.handle
  refine ⟨?_, fun rest => ?_⟩
  · intro hnil
    have hzero := congrArg List.length hnil
    unfold Table.encode at hzero
    rw [List.length_append, hlen] at hzero
    simp only [List.length_nil, headerSize] at hzero hle
    omega
  · have hfmt : t.encode fresh off ++ rest =
        t.formatted fresh off ++ (encodeStringSet t.strings ++ rest) := by
      unfold Table.encode
      rw [List.append_assoc]
    have hcons : t.encode fresh off ++ rest = UInt8.ofNat t.type :: UInt8.ofNat t.len ::
        UInt8.ofNat t.handle :: UInt8.ofNat (t.handle / 256) ::
          (area ++ (encodeStringSet t.strings ++ rest)) := by
      rw [hfmt, harea]
      simp only [headerBytes, le, List.cons_append, List.nil_append]
    have hfits : headerSize ≤ t.len ∧ t.len ≤ (t.encode fresh off ++ rest).length := by
      refine ⟨hle, ?_⟩
      rw [hfmt, List.length_append, hlen]
      exact Nat.le_add_right ..
    rw [hcons]
    unfold parseStructure
    simp only
    rw [← hcons, hlenByte, htype, if_pos hfits, hfmt, List.drop_left' hlen, List.take_left' hlen,
      hset, ← hfmt, List.length_append]
    simp only [Option.map_some, Nat.add_sub_cancel, Table.parsed, ← hhandle, le]

/-! ## Streams of structures -/

/-- What a reader finds of a list of tables, the first at `off`. -/
def parsedAll (fresh : Nat → UInt8) (off : Nat) (ts : List Table) : List Parsed :=
  (placed off ts).map fun x => x.2.parsed fresh x.1

theorem parsedAll_sizes (fresh : Nat → UInt8) {ts : List Table} (hc : ∀ t ∈ ts, t.halt = none)
    (off : Nat) : (parsedAll fresh off ts).map Parsed.size = ts.map Table.outLength := by
  induction ts generalizing off with
  | nil => rfl
  | cons t ts ih =>
    have ih' := ih fun u hu => hc u (List.mem_cons_of_mem _ hu)
    have hhead : (t.encode fresh off).length = t.outLength := by
      rw [← Table.length_out fresh off]
      unfold Table.out
      rw [hc t (List.mem_cons_self ..)]
    simp only [parsedAll, placed, List.map_cons, Table.parsed, hhead] at ih' ⊢
    rw [ih']

/-- **A blob of complete tables is a stream of their structures.** -/
theorem encodes_blobOf (fresh : Nat → UInt8) {ts : List Table} (hc : ∀ t ∈ ts, t.halt = none)
    (off : Nat) : ∃ es, blobOf fresh off ts = es.flatten ∧
      List.Forall₂ (Encodes parseStructure) (parsedAll fresh off ts) es := by
  induction ts generalizing off with
  | nil => exact ⟨[], rfl, .nil⟩
  | cons t ts ih =>
    have hout : t.out fresh off = t.encode fresh off := by
      unfold Table.out
      rw [hc t (List.mem_cons_self ..)]
    obtain ⟨es, hblob, hes⟩ := ih (fun u hu => hc u (List.mem_cons_of_mem _ hu)) (off + t.outLength)
    refine ⟨t.encode fresh off :: es, ?_, .cons (parseStructure_encode fresh off t) hes⟩
    rw [blobOf, Table.length_out, hblob, hout, List.flatten_cons]

theorem parseStructure_size {b : List UInt8} {x : Parsed}
    (hx : parseStructure b = some (x, [])) : x.size = b.length := by
  unfold parseStructure at hx
  split at hx
  · simp only at hx
    split at hx
    · obtain ⟨⟨ss, r⟩, -, hpair⟩ := Option.map_eq_some_iff.mp hx
      simp only [Prod.mk.injEq] at hpair
      obtain ⟨rfl, rfl⟩ := hpair
      rfl
    · cases hx
  · cases hx

theorem parseStructure_ne_nil {b : List UInt8} {x : Parsed}
    (hx : parseStructure b = some (x, [])) : b ≠ [] := by
  rintro rfl
  cases hx

/-- Well-formed blobs, read one by one. -/
theorem exists_parsed {bs : List (List UInt8)} (hone : ∀ b ∈ bs, OneStructure b) :
    ∃ us, List.Forall₂ (fun x b => parseStructure b = some (x, [])) us bs := by
  induction bs with
  | nil => exact ⟨[], .nil⟩
  | cons b bs ih =>
    obtain ⟨x, hx⟩ := hone b (List.mem_cons_self ..)
    obtain ⟨us, hus⟩ := ih fun c hc => hone c (List.mem_cons_of_mem _ hc)
    exact ⟨x :: us, .cons hx hus⟩

theorem sizes_of_parsed {us : List Parsed} {bs : List (List UInt8)}
    (hus : List.Forall₂ (fun x b => parseStructure b = some (x, [])) us bs) :
    us.map Parsed.size = bs.map List.length := by
  induction hus with
  | nil => rfl
  | cons hx _ ih => rw [List.map_cons, List.map_cons, parseStructure_size hx, ih]

/-- **User blobs and then complete tables** are read back in this order. -/
theorem parseAll_tables (fresh : Nat → UInt8) {us : List Parsed} {bs : List (List UInt8)}
    (hus : List.Forall₂ (fun x b => parseStructure b = some (x, [])) us bs) {ts : List Table}
    (hc : ∀ t ∈ ts, t.halt = none) (off : Nat) :
    parseAll parseStructure (bs.flatten ++ blobOf fresh off ts) =
      some (us ++ parsedAll fresh off ts) := by
  obtain ⟨es, hblob, hes⟩ := encodes_blobOf fresh hc off
  have hblobs : List.Forall₂ (Encodes parseStructure) us bs :=
    hus.imp fun x b hx => parseStructure_local.encodes (parseStructure_ne_nil hx) hx
  rw [hblob, ← List.flatten_append]
  exact parseAll_flatten (List.rel_append hblobs hes)

end Smbios
