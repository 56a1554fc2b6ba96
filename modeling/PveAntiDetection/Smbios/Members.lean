import PveAntiDetection.Smbios.Published

/-!
# The members of a table

What a reader of the blob finds at the members of a structure.

* `memberBytes_tableOf` — a member holds what the last assignment to it stored;
* `placed` — the tables with their offsets in the blob; `load_placed` cuts out a formatted area.
-/

set_option autoImplicit false

namespace Smbios

open Bytes PackedStruct

/-! ## The last assignment to a member -/

section
variable {F : Type} [DecidableEq F] [SmbiosStruct F]

/-- The bytes of member `f` in a formatted area. -/
def memberBytes (fmt : List UInt8) (f : F) : List UInt8 := load fmt (memberOffset f) (sizeofField f)

/-- The value of member `f` in a formatted area. -/
def memberValue (fmt : List UInt8) (f : F) : Nat := ofLe (memberBytes fmt f)

/-- What an assignment stores in member `f`, with `k` strings set before. -/
def Assign.stored (k : Nat) (f : F) : Assign F → Option (List UInt8)
  | .str g v _ => if g = f then some (if v.content = [] then [0] else le 1 (k + 1)) else none
  | .strList _ => none
  | .set g n => if g = f then some (le (sizeofField f) n) else none

/-- What the last assignment to member `f` stores. -/
def lastStored (f : F) : (k : Nat) → List (Assign F) → Option (List UInt8)
  | _, [] => none
  | k, a :: as => (lastStored f (k + (stringsOf [a.lower]).length) as).or (a.stored k f)

/-- One assignment, seen from member `f`. -/
theorem memberBytes_write (f : F) (k : Nat) (a : Assign F) (fmt : List UInt8)
    (hb : a.lower.InBounds fmt.length) :
    memberBytes (store fmt (a.lower.write k).1 (a.lower.write k).2) f =
      (a.stored k f).getD (memberBytes fmt f) := by
  have hw := a.lower.length_write k
  have hend : (a.lower.write k).1 + (a.lower.write k).2.length ≤ fmt.length := by
    rw [hw.2]
    exact hb.2
  unfold memberBytes
  -- the assignment is to a member of its own, so the ranges are equal or disjoint
  have hmember : ∀ (g : F) (src : List UInt8), a.lower.write k = (memberOffset g, src) →
      src.length = sizeofField g →
      load (store fmt (a.lower.write k).1 (a.lower.write k).2) (memberOffset f) (sizeofField f) =
        (if g = f then some src else none).getD (load fmt (memberOffset f) (sizeofField f)) := by
    intro g src hsrc hlen
    rw [hsrc] at hend ⊢
    by_cases hgf : g = f
    · subst hgf
      rw [if_pos rfl, ← hlen]
      exact load_store_same hend
    · have hdis := memberOffset_disjoint hgf
      simp only [offsetofend] at hdis
      rw [if_neg hgf]
      refine load_store_disjoint hend ?_
      simp only [hlen]
      omega
  cases a with
  | str g v hone =>
    refine hmember g _ rfl ?_
    rw [hone]
    split <;> simp
  | strList v =>
    have hsame : store fmt headerSize [] = fmt := by simp [store, List.take_append_drop]
    simp only [Assign.lower, Stmt.write, Assign.stored, Option.getD_none, hsame]
  | set g n =>
    rw [hmember g _ rfl (length_le ..)]
    by_cases hgf : g = f
    · subst hgf
      simp only [Assign.stored, if_true]
    · simp only [Assign.stored, if_neg hgf]

/-- **A member holds what the last assignment to it stored**, or else what was there before. -/
theorem memberBytes_formatStmts (f : F) : ∀ (as : List (Assign F)) (k : Nat) (fmt : List UInt8),
    (∀ a ∈ as, a.lower.InBounds fmt.length) →
    memberBytes (formatStmts (as.map Assign.lower) k fmt) f =
      (lastStored f k as).getD (memberBytes fmt f)
  | [], _, _, _ => rfl
  | a :: as, k, fmt, hb => by
    have ha := hb a (List.mem_cons_self ..)
    have hw := a.lower.length_write k
    have hlen : (store fmt (a.lower.write k).1 (a.lower.write k).2).length = fmt.length :=
      length_store (by rw [hw.2]; exact ha.2)
    rw [List.map_cons, formatStmts, memberBytes_formatStmts f as _ _ fun a' h' => by
      rw [hlen]
      exact hb a' (List.mem_cons_of_mem _ h'), memberBytes_write f k a fmt ha, lastStored]
    cases lastStored f (k + (stringsOf [a.lower]).length) as <;> rfl

/-- A member of a table that is assigned. -/
theorem memberBytes_tableOf {type handle : Nat} {as : List (Assign F)} {halt : Option Halt}
    {htype : type < 256} {f : F} {bs : List UInt8} (hlast : lastStored f 0 as = some bs)
    (fresh : Nat → UInt8) (off : Nat) :
    memberBytes ((tableOf type handle as halt htype).formatted fresh off) f = bs := by
  have hlen : (headerBytes type (sizeofStruct F) handle ++
      freshBytes fresh (off + headerSize) (sizeofStruct F - headerSize)).length =
        sizeofStruct F := by
    simp only [List.length_append, length_headerBytes, length_freshBytes, sizeofStruct]
    omega
  have hread := memberBytes_formatStmts f as 0 (headerBytes type (sizeofStruct F) handle ++
      freshBytes fresh (off + headerSize) (sizeofStruct F - headerSize)) fun a _ => by
    rw [hlen]
    exact a.lower_inBounds
  rw [hlast, Option.getD_some] at hread
  exact hread

/-- A member of a table that is assigned a number last. -/
theorem memberValue_tableOf {type handle : Nat} {as : List (Assign F)} {halt : Option Halt}
    {htype : type < 256} {f : F} {n : Nat} (hlast : lastStored f 0 as = some (le (sizeofField f) n))
    (fresh : Nat → UInt8) (off : Nat) :
    memberValue ((tableOf type handle as halt htype).formatted fresh off) f =
      n % 256 ^ sizeofField f := by
  unfold memberValue
  rw [memberBytes_tableOf hlast, ofLe_le]

end

/-! ## Offsets in the blob -/

/-- The tables with the offsets they are built at, the first at `off`. -/
def placed : (off : Nat) → List Table → List (Nat × Table)
  | _, [] => []
  | off, t :: ts => (off, t) :: placed (off + t.outLength) ts

theorem out_eq (fresh : Nat → UInt8) (off : Nat) (t : Table) :
    ∃ strings, t.out fresh off = t.formatted fresh off ++ strings := by
  unfold Table.out
  split
  · exact ⟨_, rfl⟩
  · exact ⟨_, rfl⟩

/-- **The formatted area of a table is in the blob at its offset.** -/
theorem load_placed (fresh : Nat → UInt8) {off : Nat} {t : Table} :
    ∀ (ts : List Table) (pre : List UInt8), (off, t) ∈ placed pre.length ts →
      load (pre ++ blobOf fresh pre.length ts) off t.len = t.formatted fresh off
  | [], _, hmem => nomatch hmem
  | u :: us, pre, hmem => by
    rcases List.mem_cons.mp hmem with heq | htail
    · simp only [Prod.mk.injEq] at heq
      obtain ⟨rfl, rfl⟩ := heq
      obtain ⟨strings, hout⟩ := out_eq fresh pre.length t
      have hlen := t.length_formatted fresh pre.length
      unfold load blobOf
      rw [List.drop_left, hout, List.append_assoc, List.take_append_of_le_length (by omega),
        List.take_of_length_le (by omega)]
    · have hpre : (pre ++ u.out fresh pre.length).length = pre.length + u.outLength := by
        rw [List.length_append, Table.length_out]
      have ih := load_placed fresh us (pre ++ u.out fresh pre.length) (by rw [hpre]; exact htail)
      rw [hpre] at ih
      rw [blobOf, Table.length_out, ← List.append_assoc]
      exact ih

theorem placed_map_snd (ts : List Table) (off : Nat) : (placed off ts).map Prod.snd = ts := by
  induction ts generalizing off with
  | nil => rfl
  | cons t ts ih => simp only [placed, List.map_cons, ih]

end Smbios
