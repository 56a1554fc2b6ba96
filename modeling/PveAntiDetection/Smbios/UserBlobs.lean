import PveAntiDetection.Smbios.EntryAdd
import PveAntiDetection.Smbios.Published

/-!
# User blobs

What the calls of the option code leave in `usr_blobs`, its counters and the two bitmaps.

* `EntryEffect` — what one `smbios_entry_add` can do to them (`entryAdd_effect`);
* `Blobs` — the invariant over the accepted files (`blobs_configure`, `blobs_of_run`).
-/

set_option autoImplicit false

namespace Smbios

open Bytes Runs

variable {Q : Type} {qo : QemuOption Q}

/-! ## The variables of the blobs -/

/-- The variables that the `file=` entries and the type checks work on. -/
structure BlobVars where
  usrBlobs : List UInt8
  usrBlobsLen : Nat
  usrTableMax : Nat
  usrTableCnt : Nat
  haveBinfileBitmap : BitVec 128
  haveFieldsBitmap : BitVec 128

def Options.blobVars (o : Options) : BlobVars where
  usrBlobs := o.usrBlobs
  usrBlobsLen := o.usrBlobsLen
  usrTableMax := o.usrTableMax
  usrTableCnt := o.usrTableCnt
  haveBinfileBitmap := o.haveBinfileBitmap
  haveFieldsBitmap := o.haveFieldsBitmap

theorem validated_blobVars {q : Q} {descs : List QemuOptDesc}
    {save : Options → Options × Option Error} (hsave : ∀ o, (save o).1.blobVars = o.blobVars)
    (o : Options) : (validated qo q descs save o).2.blobVars = o.blobVars := by
  unfold validated
  split
  · rfl
  · rfl
  · exact hsave o

theorem saveType0_blobVars (q : Q) (o : Options) :
    (saveType0 qo q o).1.blobVars = o.blobVars := by
  unfold saveType0
  split
  · rfl
  · split <;> rfl

theorem saveType1_blobVars (q : Q) (o : Options) :
    (saveType1 qo q o).1.blobVars = o.blobVars := by
  unfold saveType1
  split
  · rfl
  · split <;> rfl

theorem saveType41_blobVars (q : Q) (o : Options) :
    (saveType41 qo q o).1.blobVars = o.blobVars := by
  unfold saveType41
  split <;> rfl

/-- The fields of a type are other variables. -/
theorem saveFields_blobVars (q : Q) (files : Files) (o : Options) (type : Nat) :
    (saveFields qo q files o type).2.blobVars = o.blobVars := by
  unfold saveFields
  split
  case h_1 => exact validated_blobVars (saveType0_blobVars q) o
  case h_2 => exact validated_blobVars (saveType1_blobVars q) o
  case h_10 => exact validated_blobVars (saveType41_blobVars q) o
  case h_11 => rfl
  all_goals exact validated_blobVars (fun _ => rfl) o

/-! ## Loading a file -/

theorem length_growBlobs (fresh : Nat → UInt8) (blobs : List UInt8) (n : Nat) :
    (growBlobs fresh blobs n).length = n := by
  simp only [growBlobs, List.length_append, List.length_take, length_freshBytes]
  omega

theorem take_growBlobs (fresh : Nat → UInt8) {blobs : List UInt8} {k n : Nat}
    (hk : k ≤ blobs.length) (hn : k ≤ n) : (growBlobs fresh blobs n).take k = blobs.take k := by
  have hlen : k ≤ (blobs.take n).length := by
    rw [List.length_take]
    omega
  rw [growBlobs, List.take_append_of_le_length hlen, List.take_take, Nat.min_eq_left hn]

variable {files : Files} {val : CString} {size : Nat} {o : Options}

theorem length_loadBlob : (loadBlob files val size o).length = o.usrBlobsLen + size := by
  have hle := files.load_le val size
  rw [loadBlob, length_store (by rw [length_growBlobs]; omega), length_growBlobs]

/-- The accepted part stays. -/
theorem take_loadBlob (hlen : o.usrBlobsLen ≤ o.usrBlobs.length) :
    (loadBlob files val size o).take o.usrBlobsLen = o.usrBlobs.take o.usrBlobsLen := by
  have hgrow := take_growBlobs files.fresh hlen (Nat.le_add_right o.usrBlobsLen size)
  have htake : o.usrBlobsLen ≤
      ((growBlobs files.fresh o.usrBlobs (o.usrBlobsLen + size)).take o.usrBlobsLen).length := by
    rw [List.length_take, length_growBlobs]
    omega
  rw [loadBlob, store, List.take_append_of_le_length htake, List.take_take, Nat.min_self, hgrow]

/-- A file that is read in full ends the blob. -/
theorem loadBlob_full (hlen : o.usrBlobsLen ≤ o.usrBlobs.length)
    (hfull : (files.loadImageSize val size).1 = some size) :
    loadBlob files val size o =
      o.usrBlobs.take o.usrBlobsLen ++ (files.loadImageSize val size).2 := by
  have hcount := files.load_count val size size hfull
  have hgrow := take_growBlobs files.fresh hlen (Nat.le_add_right o.usrBlobsLen size)
  have hnil : (growBlobs files.fresh o.usrBlobs (o.usrBlobsLen + size)).drop
      (o.usrBlobsLen + (files.loadImageSize val size).2.length) = [] := by
    apply List.drop_eq_nil_of_le
    rw [length_growBlobs, hcount]
  rw [loadBlob, store, hgrow, hnil, List.append_nil]

theorem drop_loadBlob (hlen : o.usrBlobsLen ≤ o.usrBlobs.length)
    (hfull : (files.loadImageSize val size).1 = some size) :
    (loadBlob files val size o).drop o.usrBlobsLen = (files.loadImageSize val size).2 := by
  have htake : (o.usrBlobs.take o.usrBlobsLen).length = o.usrBlobsLen := by
    rw [List.length_take]
    omega
  rw [loadBlob_full hlen hfull, List.drop_append_of_le_length (by omega),
    List.drop_eq_nil_of_le (by omega), List.nil_append]

/-! ## What an entry does -/

/-- The bytes of the file that an entry names. -/
def Entry.blob (qo : QemuOption Q) (e : Entry Q) : List UInt8 :=
  match qo.qemuOptGet e.opts "file" with
  | none => []
  | some val =>
    match e.files.getImageSize val with
    | none => []
    | some size => (e.files.loadImageSize val size).2

/-- The entry has a `file=` option. -/
def Entry.isFile (qo : QemuOption Q) (e : Entry Q) : Bool := (qo.qemuOptGet e.opts "file").isSome

/-- `smbios_entry_add` returns without an error. -/
def Accepts (qo : QemuOption Q) (s : State) (e : Entry Q) : Prop := (entryAdd qo s e).1 = .ok none

/-- The bytes that the accepted files occupy. -/
def Options.userBlob (o : Options) : List UInt8 := o.usrBlobs.take o.usrBlobsLen

/-- What `smbios_entry_add` can do to a state. -/
inductive EntryEffect (qo : QemuOption Q) (s : State) (e : Entry Q) : EntryResult × State → Prop
  /-- The file is accepted. -/
  | loaded (blobs : List UInt8) (hfile : e.isFile qo = true)
      (hblobs : blobs = s.opts.userBlob ++ e.blob qo) (hsize : headerSize ≤ (e.blob qo).length)
      (hfree : headerType (e.blob qo) ≤ SMBIOS_MAX_TYPE →
        testBit (headerType (e.blob qo)) s.opts.haveFieldsBitmap = false) :
      EntryEffect qo s e (.ok none, acceptFile (headerType (e.blob qo)) (e.blob qo).length
        { s with opts := { s.opts with usrBlobs := blobs } })
  /-- The file is rejected; the buffer may have grown. -/
  | rejected (r : EntryResult) (blobs : List UInt8) (hfile : e.isFile qo = true)
      (hr : r ≠ .ok none) (hlen : s.opts.usrBlobsLen ≤ blobs.length)
      (hblobs : blobs.take s.opts.usrBlobsLen = s.opts.userBlob) :
      EntryEffect qo s e (r, { s with opts := { s.opts with usrBlobs := blobs } })
  /-- There is no file, and no type for which fields can be set. -/
  | refused (r : EntryResult) (hfile : e.isFile qo = false) : EntryEffect qo s e (r, s)
  /-- The fields of a type are set, as far as they are valid. -/
  | fields (r : EntryResult) (o : Options) (type : Nat) (hfile : e.isFile qo = false)
      (htype : type ≤ SMBIOS_MAX_TYPE) (hfree : testBit type s.opts.haveBinfileBitmap = false)
      (ho : o.blobVars = { s.opts.blobVars with
        haveFieldsBitmap := setBit type s.opts.haveFieldsBitmap }) :
      EntryEffect qo s e (r, { s with opts := o })

variable {s : State} {e : Entry Q}

theorem addFile_effect (hget : qo.qemuOptGet e.opts "file" = some val)
    (hlen : s.opts.usrBlobsLen ≤ s.opts.usrBlobs.length) :
    EntryEffect qo s e (addFile e.files val s) := by
  have hfile : e.isFile qo = true := by
    rw [Entry.isFile, hget]
    rfl
  have hsame : ∀ r : EntryResult, r ≠ .ok none → EntryEffect qo s e (r, s) := by
    intro r hr
    exact .rejected r s.opts.usrBlobs hfile hr hlen rfl
  unfold addFile
  split
  · exact hsame _ (by simp)
  · rename_i size hsize
    have hblob : e.blob qo = (e.files.loadImageSize val size).2 := by
      simp only [Entry.blob, hget, hsize]
    split
    · exact hsame _ (by simp)
    · rename_i hge
      have hgrown : s.opts.usrBlobsLen ≤ (loadBlob e.files val size s.opts).length := by
        rw [length_loadBlob]
        omega
      have hkept : (loadBlob e.files val size s.opts).take s.opts.usrBlobsLen =
          s.opts.userBlob := take_loadBlob hlen
      simp only
      split
      · rename_i hfull
        have hdrop := drop_loadBlob hlen hfull
        have hcount := e.files.load_count val size size hfull
        rw [hdrop, ← hblob]
        split
        · exact .rejected _ _ hfile (by simp) hgrown hkept
        · rename_i hfree
          have hbytes := loadBlob_full hlen hfull
          rw [← hblob] at hcount hbytes
          have heffect := EntryEffect.loaded (s := s) (e := e) _ hfile hbytes (by omega)
            (fun htype => by
              cases hbit : testBit (headerType (e.blob qo)) s.opts.haveFieldsBitmap with
              | false => rfl
              | true => exact absurd ⟨htype, hbit⟩ hfree)
          rw [hcount] at heffect
          exact heffect
      · exact .rejected _ _ hfile (by simp) hgrown hkept

/-- **One entry.** -/
theorem entryAdd_effect (qo : QemuOption Q) (e : Entry Q)
    (hlen : s.opts.usrBlobsLen ≤ s.opts.usrBlobs.length) :
    EntryEffect qo s e (entryAdd qo s e) := by
  unfold entryAdd smbiosEntryAdd
  split
  · rename_i val hget
    have hfile : e.isFile qo = true := by
      rw [Entry.isFile, hget]
      rfl
    split
    · exact .rejected _ s.opts.usrBlobs hfile (by simp) hlen rfl
    · exact .rejected _ s.opts.usrBlobs hfile (by simp) hlen rfl
    · exact addFile_effect hget hlen
  · rename_i hget
    have hfile : e.isFile qo = false := by
      rw [Entry.isFile, hget]
      rfl
    split
    · rename_i val _
      simp only [addFields]
      split
      · exact .refused _ hfile
      · rename_i htype
        split
        · exact .refused _ hfile
        · rename_i hfree
          refine .fields _ _ (strtoul val) hfile (by omega) (by simpa using hfree) ?_
          rw [saveFields_blobVars]
          rfl
    · exact .refused _ hfile

/-! ## The invariant -/

theorem foldr_max_append (ns ks : List Nat) :
    (ns ++ ks).foldr max 0 = max (ns.foldr max 0) (ks.foldr max 0) := by
  induction ns with
  | nil => simp
  | cons n ns ih => rw [List.cons_append, List.foldr_cons, ih, List.foldr_cons, Nat.max_assoc]

theorem le_foldr_max {ns : List Nat} {n : Nat} (hn : n ∈ ns) : n ≤ ns.foldr max 0 := by
  induction ns with
  | nil => cases hn
  | cons k ns ih =>
    rw [List.foldr_cons]
    rcases List.mem_cons.mp hn with rfl | hn
    · exact Nat.le_max_left ..
    · exact Nat.le_trans (ih hn) (Nat.le_max_right ..)

/-- The length of the longest blob. -/
def largest (bs : List (List UInt8)) : Nat := (bs.map List.length).foldr max 0

theorem largest_append (bs : List (List UInt8)) (b : List UInt8) :
    largest (bs ++ [b]) = max (largest bs) b.length := by
  have hone : [b.length].foldr max 0 = b.length := Nat.max_zero _
  unfold largest
  rw [List.map_append, foldr_max_append, List.map_singleton, hone]

theorem length_le_largest {bs : List (List UInt8)} {b : List UInt8} (hb : b ∈ bs) :
    b.length ≤ largest bs := le_foldr_max (List.mem_map_of_mem hb)

/-- The blobs `bs` have been accepted, in this order. -/
structure Blobs (v : BlobVars) (bs : List (List UInt8)) : Prop where
  exclusive : ∀ type, testBit type v.haveBinfileBitmap = true →
    testBit type v.haveFieldsBitmap = false
  within : v.usrBlobsLen ≤ v.usrBlobs.length
  bytes : v.usrBlobs.take v.usrBlobsLen = bs.flatten
  cnt : v.usrTableCnt = bs.length % 2 ^ 32
  max_lt : v.usrTableMax < 2 ^ 32
  max_le : v.usrTableMax ≤ largest bs
  max_eq : (∀ b ∈ bs, b.length < 2 ^ 32) → v.usrTableMax = largest bs
  headers : ∀ b ∈ bs, headerSize ≤ b.length
  typed : ∀ b ∈ bs, headerType b ≤ SMBIOS_MAX_TYPE →
    testBit (headerType b) v.haveBinfileBitmap = true
  supplied : ∀ type, testBit type v.haveBinfileBitmap = true → ∃ b ∈ bs, headerType b = type

theorem Blobs.len {v : BlobVars} {bs : List (List UInt8)} (hv : Blobs v bs) :
    v.usrBlobsLen = bs.flatten.length := by
  rw [← hv.bytes, List.length_take, Nat.min_eq_left hv.within]

theorem blobs_start : Blobs ({} : Options).blobVars [] where
  exclusive := by simp [Options.blobVars, testBit]
  within := Nat.le_refl 0
  bytes := rfl
  cnt := rfl
  max_lt := by decide
  max_le := Nat.le_refl 0
  max_eq _ := rfl
  headers _ hb := nomatch hb
  typed _ hb := nomatch hb
  supplied := by simp [Options.blobVars, testBit]

/-- Another buffer with the same accepted part. -/
theorem Blobs.regrown {v : BlobVars} {bs : List (List UInt8)} (hv : Blobs v bs)
    {blobs : List UInt8} (hlen : v.usrBlobsLen ≤ blobs.length)
    (hblobs : blobs.take v.usrBlobsLen = v.usrBlobs.take v.usrBlobsLen) :
    Blobs { v with usrBlobs := blobs } bs :=
  { hv with
    within := hlen
    bytes := hblobs.trans hv.bytes }

/-- The fields of a type without a file. -/
theorem Blobs.setFields {v : BlobVars} {bs : List (List UInt8)} (hv : Blobs v bs) {type : Nat}
    (htype : type ≤ SMBIOS_MAX_TYPE) (hfree : testBit type v.haveBinfileBitmap = false) :
    Blobs { v with haveFieldsBitmap := setBit type v.haveFieldsBitmap } bs := by
  refine { hv with exclusive := ?_ }
  intro k hk
  have hne : k ≠ type := by
    rintro rfl
    rw [hfree] at hk
    cases hk
  rw [testBit_setBit htype, hv.exclusive k hk]
  simp [hne]

/-- A file marks its own type. -/
theorem haveBinfile_acceptFile (s : State) (type size k : Nat) :
    testBit k (acceptFile type size s).opts.haveBinfileBitmap = true ↔
      testBit k s.opts.haveBinfileBitmap = true ∨ (type ≤ SMBIOS_MAX_TYPE ∧ k = type) := by
  simp only [acceptFile]
  split
  · rename_i htype
    rw [testBit_setBit htype]
    simp [htype]
  · rename_i htype
    simp [htype]

/-- One more blob. -/
theorem Blobs.accept {s : State} {bs : List (List UInt8)} (hv : Blobs s.opts.blobVars bs)
    {b : List UInt8} (hsize : headerSize ≤ b.length)
    (hfree : headerType b ≤ SMBIOS_MAX_TYPE →
      testBit (headerType b) s.opts.haveFieldsBitmap = false) :
    Blobs (acceptFile (headerType b) b.length
      { s with opts := { s.opts with usrBlobs := s.opts.userBlob ++ b } }).opts.blobVars
        (bs ++ [b]) := by
  have huser : s.opts.userBlob = bs.flatten := hv.bytes
  have hlen : s.opts.usrBlobsLen = bs.flatten.length := hv.len
  have hlarge := largest_append bs b
  have hmax := hv.max_le
  have hbit := haveBinfile_acceptFile s (headerType b) b.length
  constructor
  case exclusive =>
    intro k hk
    rcases (hbit k).mp hk with hk | ⟨htype, rfl⟩
    · exact hv.exclusive k hk
    · exact hfree htype
  case within =>
    simp only [Options.blobVars, acceptFile, huser, hlen, List.length_append]
    omega
  case bytes =>
    simp only [Options.blobVars, acceptFile, huser, hlen, List.flatten_append]
    rw [List.take_of_length_le (by rw [List.length_append])]
    simp
  case cnt =>
    have hcnt : s.opts.usrTableCnt = bs.length % 2 ^ 32 := hv.cnt
    simp only [Options.blobVars, acceptFile, hcnt, List.length_append, List.length_singleton]
    omega
  case max_lt =>
    have hlt : s.opts.usrTableMax < 2 ^ 32 := hv.max_lt
    simp only [Options.blobVars, acceptFile]
    split <;> omega
  case max_le =>
    simp only [Options.blobVars, acceptFile] at hmax ⊢
    rw [hlarge]
    split <;> omega
  case max_eq =>
    intro hsmall
    have hb : b.length < 2 ^ 32 := hsmall b (by simp)
    have heq : s.opts.usrTableMax = largest bs :=
      hv.max_eq fun c hc => hsmall c (List.mem_append_left _ hc)
    simp only [Options.blobVars, acceptFile]
    rw [hlarge, heq]
    split <;> omega
  case headers =>
    intro c hc
    rcases List.mem_append.mp hc with hc | hc
    · exact hv.headers c hc
    · rw [List.mem_singleton.mp hc]
      exact hsize
  case typed =>
    intro c hc htype
    refine (hbit _).mpr ?_
    rcases List.mem_append.mp hc with hc | hc
    · exact .inl (hv.typed c hc htype)
    · rw [List.mem_singleton.mp hc] at htype ⊢
      exact .inr ⟨htype, rfl⟩
  case supplied =>
    intro k hk
    rcases (hbit k).mp hk with hk | ⟨-, rfl⟩
    · obtain ⟨c, hc, htype⟩ := hv.supplied k hk
      exact ⟨c, List.mem_append_left _ hc, htype⟩
    · exact ⟨b, by simp, rfl⟩

/-- The file that an entry adds, by its result. -/
def Entry.added (qo : QemuOption Q) (e : Entry Q) : EntryResult → List (List UInt8)
  | .ok none => if e.isFile qo then [e.blob qo] else []
  | _ => []

theorem Entry.added_of_ne {r : EntryResult} (hr : r ≠ .ok none) : e.added qo r = [] := by
  unfold Entry.added
  split
  · exact absurd rfl hr
  · rfl

theorem Entry.added_of_not_file (hfile : e.isFile qo = false) (r : EntryResult) :
    e.added qo r = [] := by
  unfold Entry.added
  split
  · rw [hfile, if_neg Bool.false_ne_true]
  · rfl

/-- The file that a call adds. -/
def acceptedBlob (qo : QemuOption Q) (s : State) (c : Call Q) : List (List UInt8) :=
  match c with
  | .entryAdd e => e.added qo (entryAdd qo s e).1
  | _ => []

/-- **Every call keeps the invariant.** -/
theorem blobs_configure {bs : List (List UInt8)} (hv : Blobs s.opts.blobVars bs) (c : Call Q) :
    Blobs (configure qo s c).2.opts.blobVars (bs ++ acceptedBlob qo s c) := by
  cases c with
  | setCpuid version features =>
    show Blobs s.opts.blobVars (bs ++ [])
    rw [List.append_nil]
    exact hv
  | setDefaults manufacturer product version =>
    show Blobs s.opts.blobVars (bs ++ [])
    rw [List.append_nil]
    exact hv
  | setDefaultProcessorFamily processorFamily =>
    have hsame : (smbiosSetDefaultProcessorFamily processorFamily s.opts).blobVars =
        s.opts.blobVars := by
      unfold smbiosSetDefaultProcessorFamily
      split <;> rfl
    show Blobs (smbiosSetDefaultProcessorFamily processorFamily s.opts).blobVars (bs ++ [])
    rw [hsame, List.append_nil]
    exact hv
  | entryAdd e =>
    have heffect := entryAdd_effect qo e hv.within
    simp only [acceptedBlob, configure]
    generalize entryAdd qo s e = p at heffect
    cases heffect with
    | loaded blobs hfile hblobs hsize hfree =>
      subst hblobs
      rw [Entry.added, hfile, if_pos rfl]
      exact hv.accept hsize hfree
    | rejected r blobs hfile hr hlen hblobs =>
      rw [Entry.added_of_ne hr, List.append_nil]
      exact hv.regrown hlen hblobs
    | refused r hfile =>
      rw [Entry.added_of_not_file hfile, List.append_nil]
      exact hv
    | fields r o type hfile htype hfree ho =>
      rw [Entry.added_of_not_file hfile, List.append_nil]
      show Blobs o.blobVars bs
      rw [ho]
      exact hv.setFields htype hfree

/-- The files that the calls have added. -/
def userBlobs (qo : QemuOption Q) (cs : List (Call Q)) : List (List UInt8) :=
  history (configure qo) (acceptedBlob qo) {} cs

/-- **The invariant holds behind every run.** -/
theorem blobs_of_run (qo : QemuOption Q) (cs : List (Call Q)) :
    Blobs (final (configure qo) {} cs).opts.blobVars (userBlobs qo cs) := by
  have hstep : ∀ (s : State) bs c, Blobs s.opts.blobVars bs →
      Blobs (configure qo s c).2.opts.blobVars (bs ++ acceptedBlob qo s c) :=
    fun _ _ c hv => blobs_configure hv c
  have hrun : Blobs (final (configure qo) {} cs).opts.blobVars ([] ++ userBlobs qo cs) :=
    final_history_induct hstep cs blobs_start
  exact hrun

end Smbios
