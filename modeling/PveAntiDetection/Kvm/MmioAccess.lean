import PveAntiDetection.Kvm.MmioExits

/-!
# What an access leaves to userspace

`emulator_read_write` over the exits that complete it.

* `Served` — the bytes that devices in the kernel serve; `vcpuMmio_served`;
* `MmioChunk`, `AccessChunks` — the parts of an access in one page each, and what the kernel serves
  of them;
* `mmio_covered` — the exits of an access are the bytes that the kernel does not serve.
-/

set_option autoImplicit false

namespace Kvm

open Bytes

variable {E : Type}

/-! ## What the kernel serves -/

/-- The devices serve the bytes `kernel` at the beginning of a buffer, in pieces of at most eight
bytes, up to the first one that they refuse. -/
inductive Served (device : BufferOp E) : E → BitVec 64 → List UInt8 → List UInt8 → E → Prop
  | refused {e : E} {gpa : BitVec 64} {buf : List UInt8} :
    (device e gpa (buf.take 8)).1 = false →
    Served device e gpa buf [] (device e gpa (buf.take 8)).2.2
  | last {e : E} {gpa : BitVec 64} {buf : List UInt8} : buf.length ≤ 8 →
    (device e gpa (buf.take 8)).1 = true →
    Served device e gpa buf (device e gpa (buf.take 8)).2.1 (device e gpa (buf.take 8)).2.2
  | more {e e' : E} {gpa : BitVec 64} {buf kernel : List UInt8} : 8 < buf.length →
    (device e gpa (buf.take 8)).1 = true →
    Served device (device e gpa (buf.take 8)).2.2 (gpa + 8) (buf.drop 8) kernel e' →
    Served device e gpa buf ((device e gpa (buf.take 8)).2.1 ++ kernel) e'

/-- An operation leaves the length of its buffer. -/
def KeepsLength (op : BufferOp E) : Prop := ∀ e gpa buf, (op e gpa buf).2.1.length = buf.length

/-- An operation leaves its buffer. -/
def KeepsBuffer (op : BufferOp E) : Prop := ∀ e gpa buf, (op e gpa buf).2.1 = buf

theorem KeepsBuffer.length {op : BufferOp E} (h : KeepsBuffer op) : KeepsLength op := by
  intro e gpa buf
  rw [h]

/-- **What `vcpu_mmio_read` and `vcpu_mmio_write` serve**: the beginning of the buffer. -/
theorem vcpuMmioPieces_served {device : BufferOp E} (hdevice : KeepsLength device) :
    ∀ (fuel : Nat) (e : E) (gpa : BitVec 64) (buf : List UInt8), buf.length < fuel →
      let r := vcpuMmioPieces device fuel e gpa buf
      Served device e gpa buf (r.2.1.take r.1) r.2.2 ∧ r.1 ≤ buf.length ∧
        r.2.1.length = buf.length
  | 0, _, _, _, h => absurd h (Nat.not_lt_zero _)
  | fuel + 1, e, gpa, buf, h => by
    have htake : buf.take (min buf.length 8) = buf.take 8 := by
      rw [Nat.min_comm, ← List.take_eq_take_min]
    have hlen : (device e gpa (buf.take 8)).2.1.length = min 8 buf.length := by
      rw [hdevice, List.length_take]
    rw [vcpuMmioPieces]
    simp only [htake]
    split
    · rename_i hserved
      split
      · rename_i hall
        have hall' : (device e gpa (buf.take 8)).2.1.take (min buf.length 8) =
            (device e gpa (buf.take 8)).2.1 := by
          rw [List.take_of_length_le]
          omega
        refine ⟨?_, by simp only; omega, by simp only; omega⟩
        simp only [hall']
        exact .last (by omega) hserved
      · rename_i hmore
        have hmin : min buf.length 8 = 8 := by omega
        have hrest := vcpuMmioPieces_served hdevice fuel
          (device e gpa (buf.take 8)).2.2 (gpa + BitVec.ofNat 64 8) (buf.drop 8)
          (by rw [List.length_drop]; omega)
        rw [hmin]
        generalize vcpuMmioPieces device fuel _ _ (buf.drop 8) = r at hrest
        obtain ⟨hserve, hle, hlength⟩ := hrest
        rw [List.length_drop] at hle hlength
        dsimp only
        refine ⟨?_, by omega, by rw [List.length_append]; omega⟩
        have hsplit : ∀ n bs, ((device e gpa (buf.take 8)).2.1 ++ bs).take (8 + n) =
            (device e gpa (buf.take 8)).2.1 ++ bs.take n := by
          intro n bs
          rw [show 8 + n = (device e gpa (buf.take 8)).2.1.length + n by omega,
            List.take_length_add_append]
        rw [hsplit]
        exact .more (by omega) hserved hserve
    · rename_i hrefused
      refine ⟨?_, Nat.zero_le _, ?_⟩
      · exact .refused (Bool.eq_false_iff.mpr hrefused)
      · simp only [List.length_append, List.length_drop]
        omega

theorem vcpuMmioPieces_keeps {device : BufferOp E} (hdevice : KeepsBuffer device) :
    ∀ {fuel : Nat} (e : E) (gpa : BitVec 64) (buf : List UInt8),
      (vcpuMmioPieces device fuel e gpa buf).2.1 = buf
  | 0, _, _, _ => rfl
  | fuel + 1, e, gpa, buf => by
    rw [vcpuMmioPieces]
    simp only [hdevice _ _ _]
    split
    · split
      · rename_i hall
        rw [List.take_of_length_le]
        omega
      · simp only [vcpuMmioPieces_keeps hdevice, List.take_append_drop]
    · exact List.take_append_drop _ _

/-! ## The two directions -/

/-- `read_emultor` or `write_emultor`. -/
def emultor (env : MmioEnv E) (write : Bool) : ReadWriteEmulatorOps E :=
  if write then writeEmultor env else readEmultor env

/-- The devices of a direction. -/
def deviceOf (env : MmioEnv E) (write : Bool) : BufferOp E :=
  if write then writeDevice env else readDevice env

variable (env : MmioEnv E) (ctxt : EmulateCtxt) {write : Bool}

@[simp] theorem emultor_write (write : Bool) : (emultor env write).write = write := by
  cases write <;> rfl

theorem emultor_mmio (write : Bool) : (emultor env write).mmio = vcpuMmio (deviceOf env write) := by
  cases write <;> rfl

theorem readDevice_length : KeepsLength (readDevice env) := by
  intro e gpa buf
  unfold readDevice
  split
  · have hlapic := env.lapicRead_length e gpa buf
    simp only
    split
    · exact hlapic
    · rw [env.busRead_length, hlapic]
  · exact env.busRead_length e gpa buf

theorem writeDevice_keeps : KeepsBuffer (writeDevice env) := by
  intro e gpa buf
  unfold writeDevice
  simp only
  split
  · split <;> rfl
  · rfl

theorem deviceOf_length (write : Bool) : KeepsLength (deviceOf env write) := by
  cases write
  · exact readDevice_length env
  · exact (writeDevice_keeps env).length

theorem emulate_length (write : Bool) : KeepsLength (emultor env write).emulate := by
  cases write
  · exact env.readGuest_length
  · exact fun _ _ _ => rfl

/-- A write takes the operand as it is. -/
theorem emultor_keeps : KeepsBuffer (emultor env true).emulate ∧ KeepsBuffer (deviceOf env true) :=
  ⟨fun _ _ _ => rfl, writeDevice_keeps env⟩

theorem emultor_prepare {v : MmioVcpu E} (hread : write = false → v.readCompleted = false) :
    (emultor env write).prepare v = (false, v) := by
  cases write with
  | false => exact if_neg (by simp [hread rfl])
  | true => rfl

/-! ## One page -/

/-- A part of an access in one page: where it is in guest memory and in the operand, and the bytes
at its beginning that the kernel serves. -/
structure MmioChunk where
  gpa : BitVec 64
  data : Nat
  len : Nat
  kernel : List UInt8

/-- The bytes of a chunk that are left to userspace. -/
def MmioChunk.user (c : MmioChunk) : KvmMmioFragment :=
  ⟨c.gpa + BitVec.ofNat 64 c.kernel.length, c.data + c.kernel.length, c.len - c.kernel.length⟩

/-- The fragment of a chunk, if something is left. -/
def MmioChunk.fragments (c : MmioChunk) : List KvmMmioFragment :=
  if c.kernel.length = c.len then [] else [c.user]

/-- How the kernel serves the beginning of a buffer: guest memory takes all of it, if the address is
not MMIO, and else the devices take what they know. -/
inductive KernelPart (emulate device : BufferOp E) (e : E) (gpa : BitVec 64) (buf : List UInt8) :
    Bool → List UInt8 → E → Prop
  | memory : (emulate e gpa buf).1 = true →
    KernelPart emulate device e gpa buf false (emulate e gpa buf).2.1 (emulate e gpa buf).2.2
  | noMemory {kernel : List UInt8} {e' : E} : (emulate e gpa buf).1 = false →
    Served device (emulate e gpa buf).2.2 gpa (emulate e gpa buf).2.1 kernel e' →
    KernelPart emulate device e gpa buf false kernel e'
  | mmio {kernel : List UInt8} {e' : E} : Served device e gpa buf kernel e' →
    KernelPart emulate device e gpa buf true kernel e'

/-- A chunk of an access, with the operand as it is before. -/
structure ChunkOf (write : Bool) (addr : BitVec 64) (val bytes : Nat) (operand : List UInt8) (e : E)
    (c : MmioChunk) (e' : E) : Prop where
  data : c.data = val
  len : c.len = bytes
  kernel : c.kernel.length ≤ c.len
  /-- The address is that of the first byte. -/
  served : ∃ mmio, accessGpa env ctxt e addr write = some (c.gpa, mmio) ∧
    KernelPart (emultor env write).emulate (deviceOf env write) e c.gpa (load operand val bytes)
      mmio c.kernel e'

/-- The chunks of an access, one for each page. -/
inductive AccessChunks (write : Bool) (addr : BitVec 64) (operand : List UInt8) (e : E) :
    List MmioChunk → E → Prop
  | one {c : MmioChunk} {e' : E} : crossesPage addr operand.length = false →
    ChunkOf env ctxt write addr 0 operand.length operand e c e' →
    AccessChunks write addr operand e [c] e'
  | two {c c' : MmioChunk} {e₁ e' : E} : crossesPage addr operand.length = true →
    ChunkOf env ctxt write addr 0 (toBoundary addr) operand e c e₁ →
    ChunkOf env ctxt write (nextAddr ctxt (addr + BitVec.ofNat 64 (toBoundary addr)))
      (toBoundary addr) (operand.length - toBoundary addr) operand e₁ c' e' →
    AccessChunks write addr operand e [c, c'] e'

/-- What a chunk leaves of the access. -/
structure ChunkDone (write : Bool) (v : MmioVcpu E) (c : MmioChunk) (v' : MmioVcpu E) : Prop where
  fragments : v'.fragments = v.fragments ++ c.fragments
  kernel : load v'.operand c.data c.kernel.length = c.kernel
  length : v'.operand.length = v.operand.length
  /-- The rest of the operand is as it was. -/
  frame : ∀ p, (p < c.data ∨ c.data + c.len ≤ p) → v'.operand[p]? = v.operand[p]?
  write : write = true → v'.operand = v.operand

theorem store_load {bs : List UInt8} {off n : Nat} (h : off + n ≤ bs.length) :
    store bs off (load bs off n) = bs := by
  apply List.ext_getElem?
  intro p
  have hlen := length_load h
  rw [getElem?_store (by omega), getElem?_load]
  split
  · rw [if_pos (by omega)]
    congr 1
    omega
  · rfl

/-- The bytes of an operand in which a buffer was stored. -/
theorem load_store_take {bs buf : List UInt8} {off n : Nat} (h : off + buf.length ≤ bs.length)
    (hn : n ≤ buf.length) : load (store bs off buf) off n = buf.take n := by
  have hall := load_store_same h
  rw [show buf.length = n + (buf.length - n) by omega, load_add] at hall
  have hlen : (load (store bs off buf) off n).length = n :=
    length_load (by rw [length_store h]; omega)
  conv_rhs => rw [← hall]
  rw [List.take_append_of_le_length (by omega), List.take_of_length_le (by omega)]

/-- What a buffer in the operand changes. -/
theorem put_spec (v : MmioVcpu E) (val : Nat) (buf : List UInt8) (e : E)
    (h : val + buf.length ≤ v.operand.length) :
    (v.put val buf e).operand.length = v.operand.length ∧
      load (v.put val buf e).operand val buf.length = buf ∧
      ∀ p, (p < val ∨ val + buf.length ≤ p) → (v.put val buf e).operand[p]? = v.operand[p]? := by
  refine ⟨length_store h, load_store_same h, fun p hp => ?_⟩
  simp only [MmioVcpu.put]
  rw [getElem?_store h, if_neg (by omega)]

/-- What the devices leave of a chunk. -/
theorem accessMmio_spec (write : Bool) (gpa : BitVec 64) {val bytes : Nat} (v : MmioVcpu E)
    (hval : val + bytes ≤ v.operand.length) :
    ∃ kernel, kernel.length ≤ bytes ∧
      Served (deviceOf env write) v.host gpa (load v.operand val bytes) kernel
        (accessMmio (emultor env write) gpa val bytes v).host ∧
      ChunkDone write v ⟨gpa, val, bytes, kernel⟩
        (accessMmio (emultor env write) gpa val bytes v) := by
  have hload := length_load hval
  obtain ⟨hserved, hle, hlen⟩ := vcpuMmioPieces_served (deviceOf_length env write) _ v.host gpa
    (load v.operand val bytes) (Nat.lt_succ_self _)
  have hkeeps : write = true → (vcpuMmio (deviceOf env write) v.host gpa
      (load v.operand val bytes)).2.1 = load v.operand val bytes := by
    rintro rfl
    exact vcpuMmioPieces_keeps (emultor_keeps env).2 _ _ _
  unfold accessMmio
  rw [emultor_mmio]
  have hr : vcpuMmioPieces (deviceOf env write) ((load v.operand val bytes).length + 1) v.host gpa
    (load v.operand val bytes) = vcpuMmio (deviceOf env write) v.host gpa
      (load v.operand val bytes) := rfl
  simp only [hr] at hserved hle hlen
  generalize vcpuMmio (deviceOf env write) v.host gpa (load v.operand val bytes) = r
    at hserved hle hlen hkeeps
  have hkernel : (r.2.1.take r.1).length = r.1 := by
    rw [List.length_take]
    omega
  have hdone : ∀ v' : MmioVcpu E, v'.operand = store v.operand val r.2.1 →
      v'.fragments = v.fragments ++ MmioChunk.fragments ⟨gpa, val, bytes, r.2.1.take r.1⟩ →
      ChunkDone write v ⟨gpa, val, bytes, r.2.1.take r.1⟩ v' := by
    intro v' hop hfrag
    refine ⟨hfrag, ?_, ?_, ?_, ?_⟩
    · show load v'.operand val (r.2.1.take r.1).length = r.2.1.take r.1
      rw [hkernel, hop, load_store_take (by omega) (by omega)]
    · rw [hop, length_store (by omega)]
    · intro p hp
      rw [hop, getElem?_store (by omega), if_neg]
      simp only at hp
      omega
    · intro hwrite
      rw [hop, hkeeps hwrite, store_load hval]
  dsimp only
  refine ⟨r.2.1.take r.1, by omega, ?_, ?_⟩
  · split <;> exact hserved
  · split
    · rename_i hall
      refine hdone _ rfl ?_
      rw [MmioChunk.fragments, if_pos (hkernel.trans hall), List.append_nil]
      rfl
    · rename_i hleft
      refine hdone _ rfl ?_
      simp only [MmioChunk.fragments, MmioChunk.user, hkernel, if_neg hleft]
      rfl

/-- **One page of an access**, unless it faults. -/
theorem emulatorReadWriteOnepage_spec (addr : BitVec 64) (val bytes : Nat) (v : MmioVcpu E)
    (hval : val + bytes ≤ v.operand.length)
    (hok : (emulatorReadWriteOnepage env ctxt (emultor env write) addr val bytes v).1 = .goOn) :
    let v' := (emulatorReadWriteOnepage env ctxt (emultor env write) addr val bytes v).2
    ∃ c, ChunkOf env ctxt write addr val bytes v.operand v.host c v'.host ∧
      ChunkDone write v c v' := by
  unfold emulatorReadWriteOnepage at hok ⊢
  rw [emultor_write] at hok ⊢
  cases haccess : accessGpa env ctxt v.host addr write with
  | none =>
    rw [haccess] at hok
    cases hok
  | some p =>
    obtain ⟨gpa, mmio⟩ := p
    cases mmio with
    | true =>
      obtain ⟨kernel, hle, hserved, hdone⟩ := accessMmio_spec env write gpa v hval
      exact ⟨⟨gpa, val, bytes, kernel⟩, ⟨rfl, rfl, hle, true, haccess, .mmio hserved⟩, hdone⟩
    | false =>
      have hload := length_load hval
      have hlen := emulate_length env write v.host gpa (load v.operand val bytes)
      have hkeep : write = true → ((emultor env write).emulate v.host gpa
          (load v.operand val bytes)).2.1 = load v.operand val bytes := by
        rintro rfl
        exact (emultor_keeps env).1 _ _ _
      simp only
      generalize hr : (emultor env write).emulate v.host gpa (load v.operand val bytes) = r
        at hlen hkeep
      have hbytes : r.2.1.length = bytes := hlen.trans hload
      obtain ⟨hput, hbuf, hframe⟩ := put_spec v val r.2.1 r.2.2 (by omega)
      have hwrite : write = true → (v.put val r.2.1 r.2.2).operand = v.operand := by
        intro hw
        show store v.operand val r.2.1 = v.operand
        rw [hkeep hw, store_load hval]
      rw [hbytes] at hbuf hframe
      split
      · rename_i hserved
        have hmemory : KernelPart (emultor env write).emulate (deviceOf env write) v.host gpa
            (load v.operand val bytes) false _ _ := .memory (hr ▸ hserved)
        rw [hr] at hmemory
        refine ⟨⟨gpa, val, bytes, r.2.1⟩, ⟨rfl, rfl, hbytes.le, false, haccess, hmemory⟩,
          ⟨?_, ?_, hput, hframe, hwrite⟩⟩
        · rw [MmioChunk.fragments, if_pos hbytes, List.append_nil]
          rfl
        · show load _ val r.2.1.length = r.2.1
          rw [hbytes, hbuf]
      · rename_i hrefused
        obtain ⟨kernel, hle, hserved, hdone⟩ := accessMmio_spec env write gpa
          (v.put val r.2.1 r.2.2) (hput.symm ▸ hval)
        rw [hbuf] at hserved
        have hdevices : KernelPart (emultor env write).emulate (deviceOf env write) v.host gpa
            (load v.operand val bytes) false kernel _ :=
          .noMemory (by rw [hr]; exact Bool.eq_false_iff.mpr hrefused) (by rw [hr]; exact hserved)
        refine ⟨⟨gpa, val, bytes, kernel⟩, ⟨rfl, rfl, hle, false, haccess, hdevices⟩,
          hdone.fragments, hdone.kernel, hdone.length.trans hput, ?_,
          fun hw => (hdone.write hw).trans (hwrite hw)⟩
        intro p hp
        rw [hdone.frame p hp, hframe p hp]

/-! ## Crossing a page boundary -/

theorem getLsbD_pageMask {i : Nat} (hi : i < 64) : pageMask.getLsbD i = decide (12 ≤ i) := by
  have hall : ∀ i : Fin 64, pageMask.getLsbD i = decide (12 ≤ i.val) := by decide
  exact hall ⟨i, hi⟩

/-- Addresses of one page differ in their page offsets only. -/
theorem xor_pageMask {a b : BitVec 64} (h : a.toNat / 4096 = b.toNat / 4096) :
    (a ^^^ b) &&& pageMask = 0 := by
  apply BitVec.eq_of_getLsbD_eq
  intro i hi
  rw [BitVec.getLsbD_and, getLsbD_pageMask hi, BitVec.getLsbD_xor]
  by_cases hlow : 12 ≤ i
  · have hbit : ∀ x : BitVec 64, x.getLsbD i = (x.toNat / 2 ^ 12).testBit (i - 12) := by
      intro x
      rw [Nat.testBit_div_two_pow, show i - 12 + 12 = i by omega]
      rfl
    have hsame : a.toNat / 2 ^ 12 = b.toNat / 2 ^ 12 := h
    rw [hbit, hbit, hsame]
    simp
  · simp [hlow]

theorem toBoundary_eq (addr : BitVec 64) : toBoundary addr = (2 ^ 64 - addr.toNat) % 4096 := by
  have hmask : (~~~pageMask).toNat = 2 ^ 12 - 1 := by decide
  have haddr := addr.isLt
  rw [toBoundary, BitVec.toNat_and, hmask, Nat.and_two_pow_sub_one_eq_mod, BitVec.toNat_neg]
  omega

/-- An access that crosses a page boundary has bytes before it. -/
theorem toBoundary_le {addr : BitVec 64} {bytes : Nat} (h : crossesPage addr bytes = true) :
    toBoundary addr ≤ bytes := by
  by_contra hlt
  rw [toBoundary_eq] at hlt
  have haddr := addr.isLt
  have hlast : (addr + BitVec.ofNat 64 bytes - 1).toNat = addr.toNat + bytes - 1 := by
    have hone : (1 : BitVec 64).toNat = 1 := rfl
    simp only [BitVec.toNat_sub, BitVec.toNat_add, BitVec.toNat_ofNat, hone]
    omega
  have hpage := xor_pageMask (a := addr + BitVec.ofNat 64 bytes - 1) (b := addr)
    (by rw [hlast]; omega)
  exact of_decide_eq_true h hpage

/-! ## The whole access -/

/-- The first exit of an access is set up, if it left fragments. -/
theorem startMmio_spec (write : Bool) {v : MmioVcpu E} {r : X86Emul × MmioVcpu E}
    (hr : r = (.goOn, v))
    (hord : Ordered 0 v.fragments v.operand.length) :
    let s := (startMmio (emultor env write) r).2
    s.fragments = v.fragments ∧ s.operand = v.operand ∧ s.host = v.host ∧
      s.readCompleted = v.readCompleted ∧
      ∀ f fs, v.fragments = f :: fs → s.isWrite = write ∧ s.needed = true ∧ Pending s f fs := by
  subst hr
  unfold startMmio
  rw [if_neg (by simp)]
  simp only
  cases hfrag : v.fragments with
  | nil => exact ⟨hfrag, rfl, rfl, rfl, fun _ _ h => nomatch h⟩
  | cons f fs =>
    rw [hfrag] at hord
    have hlen := (hord.mem f (List.mem_cons_self ..)).2
    simp only [emultor_write]
    cases write with
    | false =>
      refine ⟨rfl, rfl, rfl, rfl, fun g gs h => ?_⟩
      cases h
      exact ⟨rfl, rfl, rfl, rfl, rfl, rfl, fun h => nomatch h⟩
    | true =>
      refine ⟨rfl, rfl, rfl, rfl, fun g gs h => ?_⟩
      cases h
      exact ⟨rfl, rfl, setUp_pending (v := { v with
        fragments := f :: fs, needed := true, curFragment := 0, isWrite := true })
        rfl hlen rfl rfl rfl fun _ => rfl⟩

theorem Ordered.append : ∀ {lo mid hi : Nat} {fs gs : List KvmMmioFragment}, Ordered lo fs mid →
    Ordered mid gs hi → Ordered lo (fs ++ gs) hi
  | _, _, _, [], [], h, h' => Nat.le_trans h h'
  | _, _, _, [], _ :: _, h, ⟨hlo, hlen, hgs⟩ => ⟨Nat.le_trans h hlo, hlen, hgs⟩
  | _, _, _, _ :: _, _, ⟨hlo, hlen, hfs⟩, h' => ⟨hlo, hlen, hfs.append h'⟩

theorem Ordered.fragmentBytes_le : ∀ {lo hi : Nat} {fs : List KvmMmioFragment}, Ordered lo fs hi →
    fragmentBytes fs + lo ≤ hi
  | lo, hi, [], h => by
    simp only [fragmentBytes, Nat.zero_add]
    exact h
  | lo, hi, f :: fs, ⟨hlo, _, hfs⟩ => by
    have := hfs.fragmentBytes_le
    simp only [fragmentBytes]
    omega

/-- The fragment of a chunk lies behind what the kernel serves of it. -/
theorem MmioChunk.ordered {c : MmioChunk} (h : c.kernel.length ≤ c.len) :
    Ordered (c.data + c.kernel.length) c.fragments (c.data + c.len) := by
  unfold MmioChunk.fragments
  split
  · rename_i hall
    show c.data + c.kernel.length ≤ c.data + c.len
    omega
  · rename_i hleft
    refine ⟨Nat.le_refl _, ?_, ?_⟩
    · show 0 < c.len - c.kernel.length
      omega
    · show c.data + c.kernel.length + (c.len - c.kernel.length) ≤ c.data + c.len
      omega

theorem MmioChunk.fragments_cells (c : MmioChunk) (operand : List UInt8) :
    c.fragments.flatMap (KvmMmioFragment.cells operand) = c.user.cells operand := by
  unfold MmioChunk.fragments
  split
  · rename_i hall
    simp [KvmMmioFragment.cells, MmioChunk.user, hall, load, Kvm.cells]
  · simp

theorem length_fragments_le (chunks : List MmioChunk) :
    (chunks.flatMap MmioChunk.fragments).length ≤ chunks.length := by
  induction chunks with
  | nil => exact Nat.le_refl _
  | cons c chunks ih =>
    have hone : c.fragments.length ≤ 1 := by
      unfold MmioChunk.fragments
      split <;> simp
    rw [List.flatMap_cons, List.length_append, List.length_cons]
    omega

/-- The chunks of an access: they lie in the operand one behind the other. -/
structure ChunksOrdered (operand : List UInt8) (chunks : List MmioChunk) : Prop where
  ordered : Ordered 0 (chunks.flatMap MmioChunk.fragments) operand.length
  length : chunks.length ≤ kvmMaxMmioFragments
  inside : ∀ c ∈ chunks, c.data + c.kernel.length ≤ operand.length
  /-- No fragment has a byte that the kernel serves. -/
  kernel : ∀ c ∈ chunks, ∀ f ∈ chunks.flatMap MmioChunk.fragments,
    f.data + f.len ≤ c.data ∨ c.data + c.kernel.length ≤ f.data

variable {env ctxt}

theorem AccessChunks.ordered {addr : BitVec 64} {operand : List UInt8} {e e' : E}
    {chunks : List MmioChunk} (h : AccessChunks env ctxt write addr operand e chunks e') :
    ChunksOrdered operand chunks := by
  cases h with
  | one hcross hc =>
    rename_i c
    have hfrag := MmioChunk.ordered hc.kernel
    have hlen := hc.len
    have hdata := hc.data
    have hkernel := hc.kernel
    have hflat : [c].flatMap MmioChunk.fragments = c.fragments := List.flatMap_singleton ..
    refine ⟨?_, Nat.le_succ 1, ?_, ?_⟩ <;> try rw [hflat]
    · rw [hdata, hlen, Nat.zero_add, Nat.zero_add] at hfrag
      exact (show Ordered 0 [] c.kernel.length from Nat.zero_le _).append hfrag
    · intro d hd
      rw [List.mem_singleton.mp hd]
      omega
    · intro d hd f hf
      rw [List.mem_singleton.mp hd]
      exact .inr (hfrag.mem f hf).1
  | two hcross hc hc' =>
    rename_i c c' _
    have hfrag := MmioChunk.ordered hc.kernel
    have hfrag' := MmioChunk.ordered hc'.kernel
    have hnow := toBoundary_le hcross
    have hlen := hc.len
    have hdata := hc.data
    have hkernel := hc.kernel
    have hlen' := hc'.len
    have hdata' := hc'.data
    have hkernel' := hc'.kernel
    have hflat : [c, c'].flatMap MmioChunk.fragments = c.fragments ++ c'.fragments := by
      simp
    refine ⟨?_, Nat.le_refl _, ?_, ?_⟩ <;> try rw [hflat]
    · have hend : c'.data + c'.len = operand.length := by omega
      rw [hend] at hfrag'
      refine (show Ordered 0 [] (c.data + c.kernel.length) from Nat.zero_le _).append
        (hfrag.append ?_)
      exact (show Ordered _ [] (c'.data + c'.kernel.length) by
        show c.data + c.len ≤ c'.data + c'.kernel.length
        omega).append hfrag'
    · intro d hd
      rcases List.mem_pair.mp hd with rfl | rfl <;> omega
    · intro d hd f hf
      have hd := List.mem_pair.mp hd
      rcases List.mem_append.mp hf with hf | hf
      · have := hfrag.mem f hf
        rcases hd with rfl | rfl <;> omega
      · have := hfrag'.mem f hf
        rcases hd with rfl | rfl <;> omega

/-- What an access leaves before its first exit. -/
structure AccessDone (write : Bool) (v : MmioVcpu E) (chunks : List MmioChunk)
    (v' : MmioVcpu E) : Prop where
  fragments : v'.fragments = chunks.flatMap MmioChunk.fragments
  kernel : ∀ c ∈ chunks, load v'.operand c.data c.kernel.length = c.kernel
  length : v'.operand.length = v.operand.length
  write : write = true → v'.operand = v.operand

theorem onepage_code (addr : BitVec 64) (val bytes : Nat) (v : MmioVcpu E) :
    (emulatorReadWriteOnepage env ctxt (emultor env write) addr val bytes v).1 ≠ .propagateFault →
      (emulatorReadWriteOnepage env ctxt (emultor env write) addr val bytes v).1 = .goOn := by
  unfold emulatorReadWriteOnepage
  split
  · exact fun h => absurd rfl h
  · exact fun _ => rfl
  · exact fun _ => rfl

/-- A fault stays a fault, and no exit is set up. -/
theorem startMmio_fault {r : X86Emul × MmioVcpu E} (h : r.1 = .propagateFault) :
    startMmio (emultor env write) r = r := by
  unfold startMmio
  rw [if_pos (by rw [h]; decide)]

/-- An access that does not fault has gone through its last page. -/
theorem onepage_goOn {addr : BitVec 64} {val bytes : Nat} {v : MmioVcpu E}
    (hok : (startMmio (emultor env write) (emulatorReadWriteOnepage env ctxt (emultor env write)
      addr val bytes v)).1 ≠ .propagateFault) :
    (emulatorReadWriteOnepage env ctxt (emultor env write) addr val bytes v).1 = .goOn := by
  apply onepage_code
  intro hfault
  rw [startMmio_fault hfault] at hok
  exact hok hfault

/-- An access of one chunk. -/
theorem ChunkDone.access {v v' : MmioVcpu E} {c : MmioChunk}
    (h : ChunkDone write { v with fragments := [] } c v') : AccessDone write v [c] v' := by
  refine ⟨?_, ?_, h.length, h.write⟩
  · rw [h.fragments]
    simp
  · intro d hd
    rw [List.mem_singleton.mp hd]
    exact h.kernel

/-- An access of two chunks, of which the second lies behind what the kernel serves of the
first. -/
theorem ChunkDone.accessTwo {v u v' : MmioVcpu E} {c c' : MmioChunk}
    (h : ChunkDone write { v with fragments := [] } c u) (h' : ChunkDone write u c' v')
    (hle : c.data + c.kernel.length ≤ c'.data) : AccessDone write v [c, c'] v' := by
  refine ⟨?_, ?_, h'.length.trans h.length, ?_⟩
  · rw [h'.fragments, h.fragments]
    simp
  · intro d hd
    rcases List.mem_pair.mp hd with rfl | rfl
    · exact (load_congr fun p _ hp => h'.frame p (.inl (by omega))).trans h.kernel
    · exact h'.kernel
  · intro hw
    rw [h'.write hw, h.write hw]

/-- **The access** before its first exit: its chunks, and what the kernel serves of them. -/
theorem emulatorReadWrite_spec {addr : BitVec 64} {v : MmioVcpu E}
    (hread : write = false → v.readCompleted = false)
    (hok : (emulatorReadWrite env ctxt (emultor env write) addr v.operand.length v).1 ≠
      .propagateFault) :
    ∃ chunks u, AccessChunks env ctxt write addr v.operand v.host chunks u.host ∧
      AccessDone write v chunks u ∧
      emulatorReadWrite env ctxt (emultor env write) addr v.operand.length v =
        startMmio (emultor env write) (.goOn, u) := by
  have hprepare := emultor_prepare env hread
  unfold emulatorReadWrite at hok ⊢
  simp only [hprepare, Bool.false_eq_true, if_false] at hok ⊢
  split at hok
  · rename_i hcross
    have hnow := toBoundary_le hcross
    rw [if_pos hcross]
    generalize hr : emulatorReadWriteOnepage env ctxt (emultor env write) addr 0 (toBoundary addr)
      { v with fragments := [] } = r at hok ⊢
    by_cases hgo : r.1 = .goOn
    · rw [if_neg (not_not_intro hgo)] at hok ⊢
      obtain ⟨c, hc, hdone⟩ := emulatorReadWriteOnepage_spec env ctxt addr 0 (toBoundary addr)
        { v with fragments := [] } (by simp only; omega) (hr ▸ hgo)
      rw [hr] at hc hdone
      have hlength : r.2.operand.length = v.operand.length := hdone.length
      have hcode := onepage_goOn hok
      generalize hs : emulatorReadWriteOnepage env ctxt (emultor env write)
        (nextAddr ctxt (addr + BitVec.ofNat 64 (toBoundary addr))) (toBoundary addr)
        (v.operand.length - toBoundary addr) r.2 = s at hcode ⊢
      obtain ⟨c', hc', hdone'⟩ := emulatorReadWriteOnepage_spec env ctxt _ (toBoundary addr) _
        r.2 (by omega) (hs ▸ hcode)
      rw [hs] at hc' hdone'
      -- the second page has the bytes of the operand as they were
      have hload : load r.2.operand (toBoundary addr) (v.operand.length - toBoundary addr) =
          load v.operand (toBoundary addr) (v.operand.length - toBoundary addr) :=
        load_congr fun p hp _ => hdone.frame p (by rw [hc.data, hc.len]; omega)
      have hkernel := hc.kernel
      have hle : c.data + c.kernel.length ≤ c'.data := by
        rw [hc.data, hc'.data]
        rw [hc.len] at hkernel
        omega
      exact ⟨[c, c'], s.2, .two hcross hc ⟨hc'.data, hc'.len, hc'.kernel, hload ▸ hc'.served⟩,
        hdone.accessTwo hdone' hle, by rw [← hcode]⟩
    · rw [if_pos hgo] at hok
      rw [← hr] at hok hgo
      exact absurd (onepage_code _ _ _ _ hok) hgo
  · rename_i hcross
    rw [if_neg hcross]
    have hgo := onepage_goOn hok
    generalize hr : emulatorReadWriteOnepage env ctxt (emultor env write) addr 0 v.operand.length
      { v with fragments := [] } = r at hgo ⊢
    obtain ⟨c, hc, hdone⟩ := emulatorReadWriteOnepage_spec env ctxt addr 0 v.operand.length
      { v with fragments := [] } (by simp) (hr ▸ hgo)
    rw [hr] at hc hdone
    exact ⟨[c], r.2, .one (Bool.eq_false_iff.mpr hcross) hc, hdone.access, by rw [← hgo]⟩

/-! ## The exits of an access -/

/-- What the exits of an access have done when it is complete. -/
structure MmioCovered (write : Bool) (v : MmioVcpu E) (chunks : List MmioChunk)
    (exits : List MmioExit) (v' : MmioVcpu E) : Prop where
  pieces : ∀ x ∈ exits, 1 ≤ x.run.len ∧ x.run.len ≤ 8 ∧ x.run.isWrite = write
  /-- The exits transfer the bytes of the operand that the kernel does not serve, each once, in
  order and at its address. -/
  bytes : exits.flatMap MmioExit.cells = chunks.flatMap fun c => c.user.cells v'.operand
  kernel : ∀ c ∈ chunks, load v'.operand c.data c.kernel.length = c.kernel
  length : v'.operand.length = v.operand.length
  keepsWritten : write = true → v'.operand = v.operand
  /-- A read whose exits are over is complete when it is executed again. -/
  readCompleted : write = false → exits ≠ [] → v'.readCompleted = true

/-- **The exits of an emulated access** cover the bytes that the kernel does not serve, each once
and in order, in pieces of one to eight bytes and from two fragments at most.  A write transfers the
operand, and after a read the operand has the bytes of the kernel and of userspace. -/
theorem mmio_covered (env : MmioEnv E) (ctxt : EmulateCtxt) (write : Bool) (addr : BitVec 64)
    (v : MmioVcpu E) (replies : Nat → MmioData)
    (hread : write = false → v.readCompleted = false)
    (hok : (emulatorReadWrite env ctxt (emultor env write) addr v.operand.length v).1 ≠
      .propagateFault) :
    let u := (emulatorReadWrite env ctxt (emultor env write) addr v.operand.length v).2
    u.fragments.length ≤ kvmMaxMmioFragments ∧ (u.fragments ≠ [] → u.needed = true) ∧
      ∃ chunks exits v', AccessChunks env ctxt write addr v.operand v.host chunks u.host ∧
        serveMmio v.operand.length replies u = some (exits, v') ∧
        MmioCovered write v chunks exits v' := by
  obtain ⟨chunks, t, hchunks, hdone, hstart⟩ := emulatorReadWrite_spec hread hok
  have hord := hchunks.ordered
  have hfrag := hord.ordered
  rw [← hdone.length, ← hdone.fragments] at hfrag
  obtain ⟨hu, hop, hhost, hcompleted, hset⟩ := startMmio_spec env write rfl hfrag
  rw [hstart]
  generalize (startMmio (emultor env write) (.goOn, t)).2 = u at hu hop hhost hcompleted hset
  have hlength : u.operand.length = v.operand.length := by rw [hop, hdone.length]
  have hcells : ∀ operand, t.fragments.flatMap (KvmMmioFragment.cells operand) =
      chunks.flatMap fun c => c.user.cells operand := by
    intro operand
    rw [hdone.fragments, List.flatMap_assoc]
    simp only [MmioChunk.fragments_cells]
  refine ⟨?_, ?_, chunks, ?_⟩
  · rw [hu, hdone.fragments]
    exact Nat.le_trans (length_fragments_le chunks) hord.length
  · intro hne
    obtain ⟨f, fs, hfs⟩ := List.exists_cons_of_ne_nil (hu ▸ hne)
    exact (hset f fs hfs).2.1
  · cases hfs : t.fragments with
    | nil =>
      refine ⟨[], u, hhost ▸ hchunks, if_pos (hu.trans hfs), ?_, ?_, ?_, hlength, ?_, ?_⟩
      · exact fun x hx => nomatch hx
      · rw [← hcells, hfs]
        rfl
      · rw [hop]
        exact hdone.kernel
      · intro hw
        rw [hop, hdone.write hw]
      · exact fun _ hne => absurd rfl hne
    | cons f fs =>
      obtain ⟨hwrite, -, hpending⟩ := hset f fs hfs
      rw [hfs, ← hop] at hfrag
      have hfuel := hfrag.fragmentBytes_le
      obtain ⟨exits, v', hrun, hexits⟩ := mmioExits_done v.operand.length replies
        hpending hfrag (by omega)
      have hne : u.fragments ≠ [] := by simp [hu, hfs]
      refine ⟨exits, v', hhost ▸ hchunks, (if_neg hne).trans hrun, ?_, ?_, ?_,
        hexits.length.trans hlength, ?_, ?_⟩
      · rw [← hwrite]
        exact hexits.pieces
      · rw [hexits.bytes, ← hfs, hcells]
      · intro c hc
        refine (load_congr fun p hlo hhi => ?_).trans (hdone.kernel c hc)
        rw [← hop]
        refine hexits.frame p fun g hg => ?_
        rw [← hfs, hdone.fragments] at hg
        have := hord.kernel c hc g hg
        omega
      · intro hw
        rw [hexits.write (hwrite.trans hw), hop, hdone.write hw]
      · intro hw _
        rw [hexits.completed.readCompleted, hwrite, hw]
        exact Bool.or_true _

/-- A host on which every address is MMIO, and a device serves the eight bytes at `0xfee00fee`. -/
def mmioHost : MmioEnv Unit where
  matchMmioGva := fun _ _ _ => false
  mmioGfn := 0
  gvaToGpa := fun _ addr _ => some addr
  matchMmioGpa := fun _ => true
  readGuest := fun _ _ buf => (false, buf)
  writeGuest := fun _ _ _ => (false, ())
  lapicInKernel := false
  lapicRead := fun _ _ buf => (false, buf, ())
  busRead := fun _ gpa buf => if gpa = 0xfee00fee then (true, buf.map fun _ => 7, ()) else
    (false, buf, ())
  lapicWrite := fun _ _ _ => (false, ())
  busWrite := fun _ _ _ => (false, ())
  readGuest_length := fun _ _ _ => rfl
  lapicRead_length := fun _ _ _ => rfl
  busRead_length := fun _ _ buf => by
    split
    · exact List.length_map ..
    · rfl

/-- A virtual CPU that reads or writes twenty bytes. -/
def mmioVcpu : MmioVcpu Unit where
  fragments := []
  curFragment := 0
  needed := false
  isWrite := false
  readCompleted := false
  run := ⟨0, ⟨List.replicate 8 0, rfl⟩, 0, false⟩
  operand := List.replicate 20 0
  host := ()

/-- Userspace answers every exit with its number. -/
def numberReplies (n : Nat) : MmioData := ⟨List.replicate 8 (UInt8.ofNat n), rfl⟩

/-- A read over a page boundary. -/
theorem mmio_covered_crossing :
    let u := (emulatorReadWrite mmioHost ⟨false, false, 0, true⟩ (emultor mmioHost false) 0xfee00fee
      mmioVcpu.operand.length mmioVcpu).2
    u.fragments.length ≤ kvmMaxMmioFragments ∧ (u.fragments ≠ [] → u.needed = true) ∧
      ∃ chunks exits v', AccessChunks mmioHost ⟨false, false, 0, true⟩ false 0xfee00fee
          mmioVcpu.operand () chunks u.host ∧
        serveMmio mmioVcpu.operand.length numberReplies u = some (exits, v') ∧
        MmioCovered false mmioVcpu chunks exits v' :=
  mmio_covered mmioHost ⟨false, false, 0, true⟩ false 0xfee00fee mmioVcpu
    numberReplies (fun _ => rfl) (by decide)

end Kvm
