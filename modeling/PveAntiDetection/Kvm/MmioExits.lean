import PveAntiDetection.Kvm.Mmio

/-!
# The exits of an MMIO access

What `complete_emulated_mmio` makes of the fragments of an access.

* `cells` — bytes with their addresses;
* `completeEmulatedMmio_spec` — one exit transfers the next piece of the first fragment;
* `mmioExits_done` — the exits cover the fragments, in order and in pieces of at most eight bytes.
-/

set_option autoImplicit false

namespace Kvm

open Bytes

variable {E : Type}

/-! ## Bytes with their addresses -/

/-- The bytes at an address and behind it. -/
def cells : BitVec 64 → List UInt8 → List (BitVec 64 × UInt8)
  | _, [] => []
  | gpa, b :: bs => (gpa, b) :: cells (gpa + 1) bs

theorem cells_append (gpa : BitVec 64) (bs cs : List UInt8) :
    cells gpa (bs ++ cs) = cells gpa bs ++ cells (gpa + BitVec.ofNat 64 bs.length) cs := by
  induction bs generalizing gpa with
  | nil => simp [cells]
  | cons b bs ih =>
    have haddr : gpa + 1 + BitVec.ofNat 64 bs.length =
        gpa + BitVec.ofNat 64 (bs.length + 1) := by
      rw [BitVec.add_assoc, Nat.add_comm bs.length 1, BitVec.ofNat_add]
      rfl
    simp only [List.cons_append, cells, ih, List.length_cons, haddr]

/-- What an exit transfers: the data for userspace on a write, and that of userspace on a read. -/
def MmioExit.cells (x : MmioExit) : List (BitVec 64 × UInt8) :=
  Kvm.cells x.run.physAddr
    ((if x.run.isWrite then x.run.data.bytes else x.reply.bytes).take x.run.len)

/-- The bytes of an operand that belong to a fragment. -/
def KvmMmioFragment.cells (operand : List UInt8) (f : KvmMmioFragment) :
    List (BitVec 64 × UInt8) :=
  Kvm.cells f.gpa (load operand f.data f.len)

/-! ## One exit -/

/-- The fragments lie in the operand one behind the other, and none is empty. -/
def Ordered : Nat → List KvmMmioFragment → Nat → Prop
  | lo, [], hi => lo ≤ hi
  | lo, f :: fs, hi => lo ≤ f.data ∧ 0 < f.len ∧ Ordered (f.data + f.len) fs hi

/-- The bytes of fragments. -/
def fragmentBytes : List KvmMmioFragment → Nat
  | [] => 0
  | f :: fs => f.len + fragmentBytes fs

/-- What is left of a fragment behind its next piece. -/
def KvmMmioFragment.rest (f : KvmMmioFragment) : List KvmMmioFragment :=
  if f.len ≤ 8 then [] else [⟨f.gpa + 8, f.data + 8, f.len - 8⟩]

/-- The fragments that are still to be served; the first piece is set up in `run`. -/
structure Pending (v : MmioVcpu E) (f : KvmMmioFragment) (fs : List KvmMmioFragment) : Prop where
  fragments : v.fragments.drop v.curFragment = f :: fs
  physAddr : v.run.physAddr = f.gpa
  len : v.run.len = min 8 f.len
  isWrite : v.run.isWrite = v.isWrite
  data : v.isWrite = true → v.run.data.bytes.take (min 8 f.len) = v.piece f

theorem Ordered.le : ∀ {lo hi : Nat} {fs : List KvmMmioFragment}, Ordered lo fs hi → lo ≤ hi
  | _, _, [], h => h
  | _, _, f :: fs, ⟨hlo, _, hfs⟩ => by
    have := hfs.le
    omega

/-- Every fragment lies between the bounds. -/
theorem Ordered.mem : ∀ {lo hi : Nat} {fs : List KvmMmioFragment}, Ordered lo fs hi →
    ∀ f ∈ fs, lo ≤ f.data ∧ f.data + f.len ≤ hi
  | _, _, [], _ => by simp
  | lo, hi, f :: fs, ⟨hlo, _, hfs⟩ => by
    intro g hg
    rcases List.mem_cons.mp hg with rfl | hg
    · exact ⟨hlo, hfs.le⟩
    · have := hfs.mem g hg
      omega

theorem Ordered.rest {lo hi : Nat} {f : KvmMmioFragment} {fs : List KvmMmioFragment}
    (h : Ordered lo (f :: fs) hi) : Ordered (f.data + min 8 f.len) (f.rest ++ fs) hi := by
  obtain ⟨hlo, hlen, hfs⟩ := h
  unfold KvmMmioFragment.rest
  split
  · rename_i hle
    rw [Nat.min_eq_right hle]
    exact hfs
  · rename_i hgt
    rw [Nat.min_eq_left (by omega)]
    refine ⟨Nat.le_refl _, by simp; omega, ?_⟩
    rw [show f.data + 8 + (f.len - 8) = f.data + f.len by omega]
    exact hfs

theorem fragmentBytes_rest (f : KvmMmioFragment) (fs : List KvmMmioFragment) :
    fragmentBytes (f.rest ++ fs) + min 8 f.len = fragmentBytes (f :: fs) := by
  unfold KvmMmioFragment.rest
  split <;> simp [fragmentBytes] <;> omega

/-- Loading a range in two parts. -/
theorem load_add (bs : List UInt8) (off m n : Nat) :
    load bs off (m + n) = load bs off m ++ load bs (off + m) n := by
  simp only [load, List.take_add, List.drop_drop]

theorem length_load {bs : List UInt8} {off n : Nat} (h : off + n ≤ bs.length) :
    (load bs off n).length = n := by
  simp only [load, List.length_take, List.length_drop]
  omega

/-- A fragment is its next piece and the rest. -/
theorem KvmMmioFragment.cells_split (f : KvmMmioFragment) (operand : List UInt8)
    (h : f.data + f.len ≤ operand.length) :
    f.cells operand = Kvm.cells f.gpa (load operand f.data (min 8 f.len)) ++
      f.rest.flatMap (KvmMmioFragment.cells operand) := by
  unfold KvmMmioFragment.rest
  split
  · rename_i hle
    rw [Nat.min_eq_right hle]
    simp [KvmMmioFragment.cells]
  · rename_i hgt
    have hsplit : load operand f.data f.len =
        load operand f.data 8 ++ load operand (f.data + 8) (f.len - 8) := by
      rw [← load_add]
      congr 1
      omega
    rw [Nat.min_eq_left (by omega), KvmMmioFragment.cells, hsplit, cells_append,
      length_load (by omega)]
    simp [KvmMmioFragment.cells]

/-- The operand behind an exit. -/
def MmioVcpu.replied (v : MmioVcpu E) (f : KvmMmioFragment) (d : MmioData) : List UInt8 :=
  if v.isWrite then v.operand else store v.operand f.data (d.bytes.take (min 8 f.len))

/-- What an exit leaves of an access. -/
structure Replied (v : MmioVcpu E) (f : KvmMmioFragment) (d : MmioData)
    (r : Bool × MmioVcpu E) : Prop where
  operand : r.2.operand = v.replied f d
  isWrite : r.2.isWrite = v.isWrite
  host : r.2.host = v.host

/-- An access is complete. -/
structure Completed (v v' : MmioVcpu E) : Prop where
  needed : v'.needed = false
  readCompleted : v'.readCompleted = (v.readCompleted || !v.isWrite)

theorem take_fill (d : MmioData) {src : List UInt8} (h : src.length ≤ 8) :
    (d.fill src).bytes.take src.length = src := by
  unfold MmioData.fill
  simp only [List.take_take]
  rw [Nat.min_eq_left h, List.take_left']
  rfl

theorem drop_set {α : Type} : ∀ {l : List α} {n : Nat} {a : α} {as : List α} (b : α),
    l.drop n = a :: as → (l.set n b).drop n = b :: as
  | [], _, _, _, _, h => by simp at h
  | x :: l, 0, _, _, b, h => by
    simp only [List.drop_zero, List.cons.injEq] at h
    simp [h.2]
  | x :: l, n + 1, _, _, b, h => by
    simp only [List.drop_succ_cons] at h
    simpa using drop_set b h

theorem getD_of_drop {α : Type} {l : List α} {n : Nat} {a d : α} {as : List α}
    (h : l.drop n = a :: as) : l.getD n d = a := by
  have hget : l[n]? = some a := by
    rw [show l[n]? = (l.drop n)[0]? by simp, h]
    rfl
  simp [List.getD, hget]

/-- The next piece of the fragment `f` is set up in `run`. -/
theorem setUp_pending {v : MmioVcpu E} {f : KvmMmioFragment} {fs : List KvmMmioFragment}
    {run : RunMmio} (hfrag : v.fragments.drop v.curFragment = f :: fs)
    (hlen : f.data + f.len ≤ v.operand.length) (hwrite : run.isWrite = v.isWrite)
    (haddr : run.physAddr = f.gpa) (hrun : run.len = min 8 f.len) {d : MmioData}
    (hdata : v.isWrite = true → run.data = d.fill (v.piece f)) :
    Pending { v with run := run } f fs := by
  refine ⟨hfrag, haddr, hrun, hwrite, fun h => ?_⟩
  have hpiece : (v.piece f).length = min 8 f.len := length_load (by omega)
  have hfill : (d.fill (v.piece f)).bytes.take (v.piece f).length = v.piece f :=
    take_fill d (by omega)
  rw [hpiece] at hfill
  show run.data.bytes.take (min 8 f.len) = v.piece f
  rw [hdata h, hfill]

/-- `complete_emulated_mmio` when the fragments and the operand are known: the next piece is set up
if there is one. -/
def nextExit (v : MmioVcpu E) : Bool × MmioVcpu E :=
  if v.curFragment ≥ v.fragments.length then
    (false, if v.isWrite then { v with needed := false } else
      { v with needed := false, readCompleted := true })
  else
    let frag := v.fragments.getD v.curFragment default
    (true, { v with run :=
      { physAddr := frag.gpa
        data := if v.isWrite then v.run.data.fill (v.piece frag) else v.run.data
        len := min 8 frag.len
        isWrite := v.isWrite } })

theorem completeEmulatedMmio_eq {v : MmioVcpu E} {f : KvmMmioFragment}
    (hfrag : v.fragments.getD v.curFragment default = f) (d : MmioData) :
    completeEmulatedMmio { v with run := { v.run with data := d } } =
      nextExit { v with
        run := { v.run with data := d }
        operand := v.replied f d
        curFragment := if f.len ≤ 8 then v.curFragment + 1 else v.curFragment
        fragments := if f.len ≤ 8 then v.fragments else
          v.fragments.set v.curFragment
            ⟨f.gpa + BitVec.ofNat 64 (min 8 f.len), f.data + min 8 f.len,
              f.len - min 8 f.len⟩ } := by
  simp only [completeEmulatedMmio, nextExit, MmioVcpu.replied, hfrag]
  cases v.isWrite <;> by_cases hle : f.len ≤ 8 <;> simp [hle]

/-- Nothing is left, and the access is complete. -/
theorem nextExit_nil {v : MmioVcpu E} (h : v.fragments.drop v.curFragment = []) :
    (nextExit v).1 = false ∧ Completed v (nextExit v).2 := by
  have hlen : v.curFragment ≥ v.fragments.length := List.drop_eq_nil_iff.mp h
  rw [nextExit, if_pos hlen]
  refine ⟨rfl, ?_, ?_⟩ <;> cases v.isWrite <;> simp

theorem nextExit_cons {v : MmioVcpu E} {f : KvmMmioFragment} {fs : List KvmMmioFragment}
    (h : v.fragments.drop v.curFragment = f :: fs) (hlen : f.data + f.len ≤ v.operand.length) :
    (nextExit v).1 = true ∧ (nextExit v).2.readCompleted = v.readCompleted ∧
      Pending (nextExit v).2 f fs := by
  have hlt : ¬ v.curFragment ≥ v.fragments.length := by
    intro hge
    rw [List.drop_eq_nil_of_le hge] at h
    cases h
  have hget : v.fragments.getD v.curFragment default = f := getD_of_drop h
  rw [nextExit, if_neg hlt]
  simp only [hget]
  exact ⟨trivial, trivial, setUp_pending h hlen rfl rfl rfl fun hwrite => if_pos hwrite⟩

theorem nextExit_keeps (v : MmioVcpu E) : (nextExit v).2.operand = v.operand ∧
    (nextExit v).2.isWrite = v.isWrite ∧ (nextExit v).2.host = v.host := by
  unfold nextExit
  split
  · split <;> exact ⟨rfl, rfl, rfl⟩
  · exact ⟨rfl, rfl, rfl⟩

theorem length_replied {v : MmioVcpu E} {f : KvmMmioFragment} {d : MmioData}
    (h : f.data + f.len ≤ v.operand.length) : (v.replied f d).length = v.operand.length := by
  have hd := d.length_eq
  unfold MmioVcpu.replied
  split
  · rfl
  · rw [length_store]
    rw [List.length_take]
    omega

/-- **One exit**: the next piece of the first fragment goes to userspace. -/
theorem completeEmulatedMmio_spec {v : MmioVcpu E} {f : KvmMmioFragment}
    {fs : List KvmMmioFragment} (hv : Pending v f fs) (hord : Ordered 0 (f :: fs) v.operand.length)
    (d : MmioData) :
    let r := completeEmulatedMmio { v with run := { v.run with data := d } }
    Replied v f d r ∧
      match f.rest ++ fs with
      | [] => r.1 = false ∧ Completed v r.2
      | g :: gs => r.1 = true ∧ r.2.readCompleted = v.readCompleted ∧ Pending r.2 g gs := by
  have hlen := (hord.mem f (List.mem_cons_self ..)).2
  intro r
  have hr : r = nextExit _ := completeEmulatedMmio_eq (getD_of_drop hv.fragments) d
  generalize ht : MmioVcpu.mk (E := E) _ _ _ _ _ _ _ _ = t at hr
  have hoperand : t.operand = v.replied f d := by rw [← ht]
  have hwrite : t.isWrite = v.isWrite := by rw [← ht]
  have hdone : t.readCompleted = v.readCompleted := by rw [← ht]
  have hleft : t.fragments.drop t.curFragment = f.rest ++ fs := by
    rw [← ht]
    unfold KvmMmioFragment.rest
    by_cases hle : f.len ≤ 8
    · simp only [if_pos hle]
      rw [← List.drop_drop, hv.fragments]
      rfl
    · simp only [if_neg hle]
      rw [drop_set _ hv.fragments, Nat.min_eq_left (by omega)]
      rfl
  obtain ⟨hop, hw, hhost⟩ := nextExit_keeps t
  rw [hr]
  refine ⟨⟨hop.trans hoperand, hw.trans hwrite, hhost.trans (by rw [← ht])⟩, ?_⟩
  have hrest := hord.rest
  split
  · rename_i hnil
    obtain ⟨hfalse, hneeded, hcompleted⟩ := nextExit_nil (hleft.trans hnil)
    exact ⟨hfalse, hneeded, by rw [hcompleted, hdone, hwrite]⟩
  · rename_i g gs hcons
    rw [hcons] at hrest
    have hg := (hrest.mem g (List.mem_cons_self ..)).2
    rw [← length_replied hlen, ← hoperand] at hg
    obtain ⟨htrue, hcompleted, hpending⟩ := nextExit_cons (hleft.trans hcons) hg
    exact ⟨htrue, hcompleted.trans hdone, hpending⟩

/-! ## All exits -/

/-- The exits of the fragments `fs`, from a state to the one where the access is complete. -/
structure MmioDone (v : MmioVcpu E) (fs : List KvmMmioFragment) (exits : List MmioExit)
    (v' : MmioVcpu E) : Prop where
  completed : Completed v v'
  pieces : ∀ x ∈ exits, 1 ≤ x.run.len ∧ x.run.len ≤ 8 ∧ x.run.isWrite = v.isWrite
  /-- The exits are the bytes of the fragments, in order. -/
  bytes : exits.flatMap MmioExit.cells = fs.flatMap (KvmMmioFragment.cells v'.operand)
  write : v.isWrite = true → v'.operand = v.operand
  length : v'.operand.length = v.operand.length
  /-- The rest of the operand is as it was. -/
  frame : ∀ p, (∀ f ∈ fs, p < f.data ∨ f.data + f.len ≤ p) → v'.operand[p]? = v.operand[p]?
  host : v'.host = v.host

/-- What an exit leaves of the operand outside its piece. -/
theorem getElem?_replied {v : MmioVcpu E} {f : KvmMmioFragment} (d : MmioData)
    (h : f.data + f.len ≤ v.operand.length) {p : Nat}
    (hp : p < f.data ∨ f.data + min 8 f.len ≤ p) : (v.replied f d)[p]? = v.operand[p]? := by
  have hd := d.length_eq
  unfold MmioVcpu.replied
  split
  · rfl
  · have hlen : (d.bytes.take (min 8 f.len)).length = min 8 f.len := by
      rw [List.length_take]
      omega
    rw [getElem?_store (by omega), if_neg (by omega)]

/-- A range of the operand that nothing writes to is as it was. -/
theorem load_congr {bs cs : List UInt8} {off n : Nat}
    (h : ∀ p, off ≤ p → p < off + n → bs[p]? = cs[p]?) : load bs off n = load cs off n := by
  apply List.ext_getElem?
  intro p
  rw [getElem?_load, getElem?_load]
  split
  · exact h _ (by omega) (by omega)
  · rfl

/-- The data that an exit transfers is in the operand behind it. -/
theorem exit_cells {v : MmioVcpu E} {f : KvmMmioFragment} {fs : List KvmMmioFragment}
    (hv : Pending v f fs) (h : f.data + f.len ≤ v.operand.length) (d : MmioData) :
    (MmioExit.mk v.run d).cells = cells f.gpa (load (v.replied f d) f.data (min 8 f.len)) := by
  unfold MmioExit.cells MmioVcpu.replied
  rw [hv.physAddr, hv.len, hv.isWrite]
  cases hwrite : v.isWrite with
  | true =>
    simp only [if_true, hv.data hwrite]
    rfl
  | false =>
    have hd := d.length_eq
    have hlen : (d.bytes.take (min 8 f.len)).length = min 8 f.len := by
      rw [List.length_take]
      omega
    have hsame : load (store v.operand f.data (d.bytes.take (min 8 f.len))) f.data
        (d.bytes.take (min 8 f.len)).length = d.bytes.take (min 8 f.len) :=
      load_store_same (by omega)
    rw [hlen] at hsame
    simp only [Bool.false_eq_true, if_false, hsame]

/-- The rest of a fragment lies in it. -/
theorem KvmMmioFragment.rest_mem {f g : KvmMmioFragment} (h : g ∈ f.rest) :
    f.data ≤ g.data ∧ g.data + g.len ≤ f.data + f.len := by
  unfold KvmMmioFragment.rest at h
  split at h
  · cases h
  · rw [List.mem_singleton.mp h]
    dsimp only
    omega

section OneExit

variable {v v' : MmioVcpu E} {f : KvmMmioFragment} {fs : List KvmMmioFragment} {d : MmioData}
  {r : Bool × MmioVcpu E}

theorem Pending.one_to_eight (hv : Pending v f fs) (hpos : 0 < f.len) :
    1 ≤ v.run.len ∧ v.run.len ≤ 8 ∧ v.run.isWrite = v.isWrite := by
  rw [hv.len]
  exact ⟨by omega, by omega, hv.isWrite⟩

theorem Replied.length (h : Replied v f d r) (hlen : f.data + f.len ≤ v.operand.length) :
    r.2.operand.length = v.operand.length := by
  rw [h.operand, length_replied hlen]

/-- A write leaves the operand. -/
theorem Replied.write (h : Replied v f d r) (hw : v.isWrite = true) :
    r.2.operand = v.operand := by
  rw [h.operand, MmioVcpu.replied, if_pos hw]

/-- The last exit. -/
theorem Replied.last (h : Replied v f d r) (hv : Pending v f fs)
    (hord : Ordered 0 (f :: fs) v.operand.length) (hnil : f.rest ++ fs = [])
    (hcompleted : Completed v r.2) : MmioDone v (f :: fs) [⟨v.run, d⟩] r.2 := by
  have hlen := (hord.mem f (List.mem_cons_self ..)).2
  have hcells := exit_cells hv hlen d
  have hlength := h.length hlen
  refine ⟨hcompleted, ?_, ?_, h.write, hlength, ?_, h.host⟩
  · simpa using hv.one_to_eight hord.2.1
  · have hsplit := f.cells_split r.2.operand (by omega)
    rw [(List.append_eq_nil_iff.mp hnil).1, h.operand] at hsplit
    rw [(List.append_eq_nil_iff.mp hnil).2, h.operand]
    simpa [hcells] using hsplit.symm
  · intro p hp
    have := hp f (List.mem_cons_self ..)
    rw [h.operand, getElem?_replied _ hlen (by omega)]

/-- An exit, and the exits behind it. -/
theorem Replied.cons (h : Replied v f d r) (hv : Pending v f fs)
    (hord : Ordered 0 (f :: fs) v.operand.length) (hcompleted : r.2.readCompleted = v.readCompleted)
    {exits : List MmioExit} (hdone : MmioDone r.2 (f.rest ++ fs) exits v') :
    MmioDone v (f :: fs) (⟨v.run, d⟩ :: exits) v' := by
  have hlen := (hord.mem f (List.mem_cons_self ..)).2
  have hlength := h.length hlen
  -- the piece of this exit lies before what the others write to
  have hfirst : ∀ p, p < f.data + min 8 f.len → v'.operand[p]? = (v.replied f d)[p]? := by
    intro p hp
    rw [hdone.frame p, h.operand]
    intro g hg
    have := hord.rest.mem g hg
    omega
  refine ⟨⟨hdone.completed.needed, ?_⟩, ?_, ?_, ?_, ?_, ?_, ?_⟩
  · rw [hdone.completed.readCompleted, hcompleted, h.isWrite]
  · intro x hx
    rcases List.mem_cons.mp hx with rfl | hx
    · exact hv.one_to_eight hord.2.1
    · rw [← h.isWrite]
      exact hdone.pieces x hx
  · have hsplit := f.cells_split v'.operand (by rw [hdone.length]; omega)
    have hload : load v'.operand f.data (min 8 f.len) =
        load (v.replied f d) f.data (min 8 f.len) :=
      load_congr fun p _ hp => hfirst p hp
    rw [List.flatMap_cons, exit_cells hv hlen d, hdone.bytes, List.flatMap_append,
      List.flatMap_cons, hsplit, hload, List.append_assoc]
  · intro hw
    rw [hdone.write (h.isWrite.trans hw), h.write hw]
  · rw [hdone.length, hlength]
  · intro p hp
    have hf := hp f (List.mem_cons_self ..)
    rw [hdone.frame p, h.operand, getElem?_replied _ hlen (by omega)]
    intro g hg
    rcases List.mem_append.mp hg with hg | hg
    · have := KvmMmioFragment.rest_mem hg
      omega
    · exact hp g (List.mem_cons_of_mem _ hg)
  · rw [hdone.host, h.host]

end OneExit

/-- **The exits of the fragments** cover their bytes, each once and in order. -/
theorem mmioExits_done : ∀ (fuel : Nat) {v : MmioVcpu E} {f : KvmMmioFragment}
    {fs : List KvmMmioFragment} (replies : Nat → MmioData), Pending v f fs →
    Ordered 0 (f :: fs) v.operand.length → fragmentBytes (f :: fs) ≤ fuel →
    ∃ exits v', mmioExits fuel replies v = some (exits, v') ∧ MmioDone v (f :: fs) exits v'
  | 0, v, f, fs, _, _, ⟨_, hpos, _⟩, hfuel => by
    simp only [fragmentBytes] at hfuel
    omega
  | fuel + 1, v, f, fs, replies, hv, hord, hfuel => by
    have hlen := (hord.mem f (List.mem_cons_self ..)).2
    have hpos : 0 < f.len := hord.2.1
    have hbytes := fragmentBytes_rest f fs
    have hrest := hord.rest
    obtain ⟨hreplied, hnext⟩ := completeEmulatedMmio_spec hv hord (replies 0)
    rw [mmioExits]
    generalize completeEmulatedMmio { v with run := { v.run with data := replies 0 } } = r
      at hreplied hnext
    split at hnext
    · rename_i hnil
      obtain ⟨hfalse, hcompleted⟩ := hnext
      rw [if_neg (by simp [hfalse])]
      exact ⟨_, _, rfl, hreplied.last hv hord hnil hcompleted⟩
    · rename_i g gs hcons
      obtain ⟨htrue, hcompleted, hpending⟩ := hnext
      rw [hcons] at hrest hbytes
      rw [if_pos htrue]
      have hordered : Ordered 0 (g :: gs) r.2.operand.length := by
        rw [hreplied.length hlen]
        exact ⟨Nat.zero_le _, hrest.2⟩
      obtain ⟨exits, v', hrun, hdone⟩ := mmioExits_done fuel
        (fun n => replies (n + 1)) hpending hordered (by omega)
      rw [← hcons] at hdone
      exact ⟨⟨v.run, replies 0⟩ :: exits, v', by rw [hrun]; rfl,
        hreplied.cons hv hord hcompleted hdone⟩

end Kvm
