import PveAntiDetection.Smbios.Members

/-!
# Decoding the published structures

What a reader gets from all structures of one type in a published blob.

* `formattedOf` — the formatted areas of the structures of a type, cut out of the blob;
* `decoded_perm` — a value that is read from them is the value of the planned tables of the type.
-/

set_option autoImplicit false

namespace Smbios

open Bytes

variable {h : Host} {ep : SmbiosEntryPointType} {ms : Machine} {s s' : State}

/-- The formatted areas of the structures of type `type` in a blob, with user structures of
`userLen` bytes in front of the tables `ts`. -/
def formattedOf (type : Nat) (blob : List UInt8) (userLen : Nat) (ts : List Table) :
    List (List UInt8) :=
  ((placed userLen ts).filter fun q => q.2.type = type).map fun q => load blob q.1 q.2.len

/-- The formatted areas of the structures of a type that a pass publishes. -/
def publishedAreas (type : Nat) (s : State) (p : Published) (s' : State) : List (List UInt8) :=
  formattedOf type p.tables (s.opts.usrBlobs.take s.opts.usrBlobsLen).length s'.bld.started

/-- The published bytes: the user structures, then the planned tables. -/
theorem tables_of_run (hh : h.Contract) {p : Published}
    (hrun : smbiosGetTablesEp h ep ms s = .ok (some p) s') :
    p.tables = s.opts.usrBlobs.take s.opts.usrBlobsLen ++
      blobOf (h.fresh ep) (s.opts.usrBlobs.take s.opts.usrBlobsLen).length
        (plannedTables h ep ms s.opts) := by
  obtain ⟨-, hp⟩ := planned_of_run hh hrun
  rw [hp]
  exact planned_bytes

/-- A value read from an area at its offset, if it does not depend on the offset. -/
theorem map_formattedOf {β : Type} {type : Nat} {f : List UInt8 → β} {g : Table → β}
    (fresh : Nat → UInt8) (pre : List UInt8) (ts : List Table)
    (hvalue : ∀ t ∈ ts, t.type = type → ∀ off, f (t.formatted fresh off) = g t) :
    (formattedOf type (pre ++ blobOf fresh pre.length ts) pre.length ts).map f =
      (ts.filter fun t => t.type = type).map g := by
  have hread : ∀ q ∈ (placed pre.length ts).filter fun q => decide (q.2.type = type),
      f (load (pre ++ blobOf fresh pre.length ts) q.1 q.2.len) = g q.2 := by
    rintro ⟨off, t⟩ hq
    obtain ⟨hmem, htype⟩ := List.mem_filter.mp hq
    have ht : t ∈ ts := by
      rw [← placed_map_snd ts pre.length]
      exact List.mem_map.mpr ⟨_, hmem, rfl⟩
    rw [load_placed fresh _ _ hmem]
    exact hvalue t ht (of_decide_eq_true htype) off
  have hsnd : ((placed pre.length ts).filter fun q => decide (q.2.type = type)).map
      (fun q => g q.2) = (ts.filter fun t => decide (t.type = type)).map g := by
    nth_rewrite 2 [← placed_map_snd ts pre.length]
    rw [List.filter_map, List.map_map]
    rfl
  unfold formattedOf
  rw [List.map_map]
  exact (List.map_congr_left hread).trans hsnd

/-- **The values decoded from the structures of a type** in a published pass, up to their order. -/
theorem decoded_perm (hh : h.Contract) {p : Published}
    (hrun : smbiosGetTablesEp h ep ms s = .ok (some p) s') {n : Nat}
    (hbuilt : (builtTypes.filter fun m => m ∈ [n]) = [n]) {β : Type} {f : List UInt8 → β}
    {g : Table → β} (hvalue : ∀ t ∈ tablesOf h ep ms s.opts n, ∀ off,
      f (t.formatted (h.fresh ep) off) = g t) :
    ((publishedAreas n s p s').map f).Perm ((tablesOf h ep ms s.opts n).map g) := by
  have hpub := publishes_of_run hh hrun
  obtain ⟨hbld, -⟩ := planned_of_run hh hrun
  have hfilter := @filter_planned h ep ms s.opts hh hpub.accepted hpub.hold [n]
  rw [hbuilt, List.flatMap_cons, List.flatMap_nil, List.append_nil] at hfilter
  simp only [List.mem_singleton] at hfilter
  unfold publishedAreas
  rw [hbld, planned_started, tables_of_run hh hrun, map_formattedOf (g := g)]
  · exact hfilter.map g
  · intro t ht htype off
    refine hvalue t (hfilter.mem_iff.mp (List.mem_filter.mpr ⟨ht, decide_eq_true htype⟩)) off

end Smbios
