import PveAntiDetection.Lib.ByteMemory

/-!
# String I/O of SEV-ES guests

`kvm_sev_es_string_io` of `x86.c`, which moves the elements of a buffer to or from a port: a page at
a time, each page by the devices in the kernel or by a `KVM_EXIT_IO`.

* `SevEsVcpu` — what a virtual CPU keeps of a transfer, with the buffer and what has been offered;
* `emulatorPioInOut` — one page;
* `kvmSevEsStringIo`, `completeSevEsEmulatedOuts`, `completeSevEsEmulatedIns` — the transfer;
* `stringIoRun` — with userspace, until no callback is pending;
* `fates` — what has become of the elements, as userspace and the devices have seen it;
* `stringIo_transfers` — every element is transferred once.
-/

set_option autoImplicit false

namespace Kvm

open ByteMemory

/-! ## The state -/

/-- `PAGE_SIZE`. -/
def pageSize : ℕ := 4096

/-- Direction, element size and port. -/
structure PioAccess where
  isIn : Bool
  size : ℕ
  port : BitVec 16
  deriving DecidableEq

/-- `struct kvm_pio_request`, and `run->io`, which has the same fields. -/
structure PioRequest where
  access : PioAccess := ⟨false, 0, 0⟩
  count : ℕ := 0
  deriving DecidableEq

/-- What has been offered: an element to `KVM_PIO_BUS`, with its bytes if it is written or has been
read, or a page to userspace, which has answered. -/
inductive IoOffer where
  | bus (access : PioAccess) (bytes : List (BitVec 8)) (handled : Bool)
  | exit (request : PioRequest) (page : ℕ → BitVec 8)

/-- `complete_userspace_io`. -/
inductive SevEsCallback where
  | completeOuts
  | completeIns
  deriving DecidableEq

/-- What a virtual CPU keeps of a transfer, beside memory. -/
structure SevEsVcpu where
  pio : PioRequest := {}
  /-- The page of `pio_data`. -/
  pioData : ℕ → BitVec 8 := fun _ => 0
  sevPioData : ℕ := 0
  sevPioCount : ℕ := 0
  runIo : PioRequest := {}
  completeUserspaceIo : Option SevEsCallback := none
  mem : ℕ → BitVec 8
  trace : List IoOffer := []

/-- The devices in the kernel: whether they handle an access, and what a read leaves in the buffer,
after what has been offered so far. -/
abbrev IoBus : Type := List IoOffer → Bool × (ℕ → BitVec 8)

/-- The page that userspace supplies, after what has been offered so far. -/
abbrev IoUser : Type := List IoOffer → ℕ → BitVec 8

variable (bus : IoBus)

/-! ## One page -/

/-- `kvm_io_bus_read` or `kvm_io_bus_write` of one element. -/
def kvmIoBus (a : PioAccess) (data : ℕ) (s : SevEsVcpu) : Bool × SevEsVcpu :=
  let answer := bus s.trace
  if a.isIn then
    (answer.1, { s with
      mem := copy s.mem data answer.2 a.size
      trace := s.trace ++ [.bus a (read answer.2 0 a.size) answer.1] })
  else
    (answer.1, { s with trace := s.trace ++ [.bus a (read s.mem data a.size) answer.1] })

/-- The loop of `emulator_pio_in_out`, with the elements that are left; it is false where it goes to
`userspace_io`. -/
def pioLoop (a : PioAccess) : ℕ → Bool → ℕ → SevEsVcpu → Bool × SevEsVcpu
  | 0, _, _, s => (true, s)
  | left + 1, first, data, s =>
    let r := kvmIoBus bus a data s
    if r.1 then pioLoop a left false (data + a.size) r.2
    else if first then (false, r.2)
    -- userspace must have unregistered the device: drop writes, read as 0
    else if a.isIn then
      (true, { r.2 with mem := copy r.2.mem data (fun _ => 0) (a.size * (left + 1)) })
    else (true, r.2)

/-- `emulator_pio_in_out`, and with it `emulator_pio_in` and `emulator_pio_out`. -/
def emulatorPioInOut (a : PioAccess) (data count : ℕ) (s : SevEsVcpu) : Bool × SevEsVcpu :=
  let r := pioLoop bus a count true data s
  if r.1 then r
  else
    (false, { r.2 with
      pio := ⟨a, count⟩
      pioData := copy r.2.pioData 0
        (if a.isIn then fun _ => 0 else fun k => r.2.mem (data + k)) (a.size * count)
      runIo := ⟨a, count⟩ })

/-- `complete_emulator_pio_in`. -/
def completeEmulatorPioIn (val : ℕ) (s : SevEsVcpu) : SevEsVcpu :=
  { s with
    mem := copy s.mem val s.pioData (s.pio.access.size * s.pio.count)
    pio := { s.pio with count := 0 } }

/-! ## The transfer -/

/-- `advance_sev_es_emulated_pio`. -/
def advanceSevEsEmulatedPio (count size : ℕ) (s : SevEsVcpu) : SevEsVcpu :=
  { s with
    sevPioCount := s.sevPioCount - count
    sevPioData := s.sevPioData + count * size }

/-- The loop of `kvm_sev_es_outs` and of `kvm_sev_es_ins`, with fuel.  Output has been copied when
the page is with userspace, so the position advances before the exit, and on input after it. -/
def sevEsLoop (a : PioAccess) : ℕ → SevEsVcpu → Option (Int × SevEsVcpu)
  | 0, _ => none
  | fuel + 1, s =>
    let count := min (pageSize / a.size) s.sevPioCount
    let r := emulatorPioInOut bus a s.sevPioData count s
    if r.1 then
      let s := advanceSevEsEmulatedPio count a.size r.2
      -- emulation done by the kernel
      if s.sevPioCount = 0 then some (1, s) else sevEsLoop a fuel s
    else if a.isIn then
      some (0, { r.2 with completeUserspaceIo := some .completeIns })
    else
      some (0, { advanceSevEsEmulatedPio count a.size r.2 with
        completeUserspaceIo := some .completeOuts })

/-- `kvm_sev_es_outs`. -/
def kvmSevEsOuts (fuel size : ℕ) (port : BitVec 16) (s : SevEsVcpu) : Option (Int × SevEsVcpu) :=
  sevEsLoop bus ⟨false, size, port⟩ fuel s

/-- `kvm_sev_es_ins`. -/
def kvmSevEsIns (fuel size : ℕ) (port : BitVec 16) (s : SevEsVcpu) : Option (Int × SevEsVcpu) :=
  sevEsLoop bus ⟨true, size, port⟩ fuel s

/-- `complete_sev_es_emulated_outs`. -/
def completeSevEsEmulatedOuts (fuel : ℕ) (s : SevEsVcpu) : Option (Int × SevEsVcpu) :=
  let size := s.pio.access.size
  let port := s.pio.access.port
  let s := { s with pio := { s.pio with count := 0 } }
  if s.sevPioCount ≠ 0 then kvmSevEsOuts bus fuel size port s else some (1, s)

/-- `complete_sev_es_emulated_ins`. -/
def completeSevEsEmulatedIns (fuel : ℕ) (s : SevEsVcpu) : Option (Int × SevEsVcpu) :=
  let count := s.pio.count
  let size := s.pio.access.size
  let port := s.pio.access.port
  let s := completeEmulatorPioIn s.sevPioData s
  let s := advanceSevEsEmulatedPio count size s
  if s.sevPioCount ≠ 0 then kvmSevEsIns bus fuel size port s else some (1, s)

/-- `kvm_sev_es_string_io`. -/
def kvmSevEsStringIo (fuel size : ℕ) (port : BitVec 16) (data count : ℕ) (isIn : Bool)
    (s : SevEsVcpu) : Option (Int × SevEsVcpu) :=
  let s := { s with sevPioData := data, sevPioCount := count }
  if isIn then kvmSevEsIns bus fuel size port s else kvmSevEsOuts bus fuel size port s

/-! ## With userspace -/

/-- Userspace takes the page of an output, and supplies that of an input. -/
def answerExit (user : IoUser) (s : SevEsVcpu) : SevEsVcpu :=
  let page := if s.runIo.access.isIn then user s.trace else s.pioData
  { s with pioData := page, trace := s.trace ++ [.exit s.runIo page] }

/-- The next `KVM_RUN` calls the callback, which is pending no more. -/
def resume (user : IoUser) (fuel : ℕ) (callback : SevEsCallback) (s : SevEsVcpu) :
    Option (Int × SevEsVcpu) :=
  let s := { answerExit user s with completeUserspaceIo := none }
  match callback with
  | .completeOuts => completeSevEsEmulatedOuts bus fuel s
  | .completeIns => completeSevEsEmulatedIns bus fuel s

/-- Exits are answered until no callback is pending. -/
def resumeAll (user : IoUser) (fuel : ℕ) : ℕ → SevEsVcpu → Option SevEsVcpu
  | exits, s =>
    match s.completeUserspaceIo with
    | none => some s
    | some callback =>
      match exits with
      | 0 => none
      | exits + 1 => (resume bus user fuel callback s).bind fun r => resumeAll user fuel exits r.2

/-- The whole transfer, with a bound on the rounds of each loop and one on the exits. -/
def stringIoRun (user : IoUser) (fuel exits size : ℕ) (port : BitVec 16) (data count : ℕ)
    (isIn : Bool) (s : SevEsVcpu) : Option SevEsVcpu :=
  (kvmSevEsStringIo bus fuel size port data count isIn s).bind fun r =>
    resumeAll bus user fuel exits r.2

/-! ## Fates -/

/-- What is transferred. -/
structure Transfer where
  access : PioAccess
  data : ℕ
  count : ℕ

/-- Where an element is. -/
def Transfer.pos (t : Transfer) (i : ℕ) : ℕ := t.data + i * t.access.size

/-- Elements on a page. -/
def Transfer.perPage (t : Transfer) : ℕ := pageSize / t.access.size

/-- The first element of the next page, or the end. -/
def Transfer.pageEnd (t : Transfer) (i : ℕ) : ℕ := min t.count ((i / t.perPage + 1) * t.perPage)

/-- The fates of the elements with one more offer.  An element that the bus handles has its bytes,
and so have the elements of an exit.  Where the bus does not handle the first element of a page the
page is left to userspace; where it does not handle a later one, the device has vanished and the
rest of the page has no bytes. -/
def fate (t : Transfer) (fs : List (Option (List (BitVec 8)))) :
    IoOffer → List (Option (List (BitVec 8)))
  | .bus _ bytes true => fs ++ [some bytes]
  | .bus _ _ false =>
    if fs.length % t.perPage = 0 then fs
    else fs ++ List.replicate (t.pageEnd fs.length - fs.length) none
  | .exit request page =>
    fs ++ (List.range request.count).map fun i =>
      some (read page (i * t.access.size) t.access.size)

/-- The fates of the elements, in order. -/
def fates (t : Transfer) (trace : List IoOffer) : List (Option (List (BitVec 8))) :=
  trace.foldl (fate t) []

/-- An offer is made with the direction, the size and the port, and an exit has at most a page. -/
def IoOffer.Fits (a : PioAccess) : IoOffer → Prop
  | .bus access _ _ => access = a
  | .exit request _ => request.access = a ∧ request.count * a.size ≤ pageSize

/-- The elements so far have these fates: those with bytes have them in the buffer, those without
are 0 on input and not the first of a page, and nothing else has been written; `upto` elements may
have been. -/
structure Moved (t : Transfer) (mem₀ mem : ℕ → BitVec 8) (trace : List IoOffer)
    (fs : List (Option (List (BitVec 8)))) (upto : ℕ) : Prop where
  fates : fates t trace = fs
  fits : ∀ o ∈ trace, o.Fits t.access
  agrees : ∀ i bytes, fs[i]? = some (some bytes) →
    read mem (t.pos i) t.access.size = bytes
  zeroed : t.access.isIn = true → ∀ i, fs[i]? = some none →
    read mem (t.pos i) t.access.size = List.replicate t.access.size 0
  lost : ∀ i, fs[i]? = some none → i % t.perPage ≠ 0
  frame : ∀ a, (t.access.isIn = true → a < t.data ∨ t.pos upto ≤ a) →
    mem a = mem₀ a

theorem fates_append (t : Transfer) (trace : List IoOffer) (o : IoOffer) :
    fates t (trace ++ [o]) = fate t (fates t trace) o := by
  simp [fates, List.foldl_append]

theorem Transfer.pos_add (t : Transfer) (i j : ℕ) :
    t.pos (i + j) = t.pos i + j * t.access.size := by
  rw [Transfer.pos, Transfer.pos, Nat.add_mul, Nat.add_assoc]

theorem Transfer.pos_succ (t : Transfer) (i : ℕ) : t.pos (i + 1) = t.pos i + t.access.size := by
  rw [t.pos_add, Nat.one_mul]

theorem Transfer.pos_mono (t : Transfer) {i j : ℕ} (h : i ≤ j) : t.pos i ≤ t.pos j := by
  obtain ⟨k, rfl⟩ := Nat.exists_eq_add_of_le h
  rw [t.pos_add]
  exact Nat.le_add_right ..

theorem Transfer.data_le_pos (t : Transfer) (i : ℕ) : t.data ≤ t.pos i := Nat.le_add_right ..

section Moved

variable {t : Transfer} {mem₀ mem mem' : ℕ → BitVec 8} {trace : List IoOffer}
  {fs new : List (Option (List (BitVec 8)))} {upto upto' : ℕ}

/-- More elements, with writes behind the elements so far. -/
theorem Moved.append (h : Moved t mem₀ mem trace fs upto) {o : IoOffer} (hfits : o.Fits t.access)
    (hfate : fate t fs o = fs ++ new) (hkeep : ∀ a, a < t.pos fs.length → mem' a = mem a)
    (hagrees : ∀ j bytes, new[j]? = some (some bytes) →
      read mem' (t.pos (fs.length + j)) t.access.size = bytes)
    (hzeroed : t.access.isIn = true → ∀ j, new[j]? = some none →
      read mem' (t.pos (fs.length + j)) t.access.size = List.replicate t.access.size 0)
    (hlost : ∀ j, new[j]? = some none → (fs.length + j) % t.perPage ≠ 0)
    (hframe : ∀ a, (t.access.isIn = true → a < t.data ∨ t.pos upto' ≤ a) → mem' a = mem₀ a) :
    Moved t mem₀ mem' (trace ++ [o]) (fs ++ new) upto' := by
  have hold : ∀ i, i < fs.length →
      read mem' (t.pos i) t.access.size = read mem (t.pos i) t.access.size := by
    intro i hi
    have hnext := t.pos_mono hi
    rw [t.pos_succ] at hnext
    exact read_congr fun a _ _ => hkeep a (by omega)
  refine ⟨by rw [fates_append, h.fates, hfate], fun o' ho' => ?_, fun i bytes hi => ?_,
    fun hin i hi => ?_, fun i hi => ?_, hframe⟩
  · rcases List.mem_append.mp ho' with ho' | ho'
    · exact h.fits o' ho'
    · rw [List.mem_singleton.mp ho']
      exact hfits
  · by_cases hlt : i < fs.length
    · rw [List.getElem?_append_left hlt] at hi
      rw [hold i hlt]
      exact h.agrees i bytes hi
    · rw [List.getElem?_append_right (Nat.not_lt.mp hlt)] at hi
      have hj := hagrees _ bytes hi
      rwa [Nat.add_sub_cancel' (Nat.not_lt.mp hlt)] at hj
  · by_cases hlt : i < fs.length
    · rw [List.getElem?_append_left hlt] at hi
      rw [hold i hlt]
      exact h.zeroed hin i hi
    · rw [List.getElem?_append_right (Nat.not_lt.mp hlt)] at hi
      have hj := hzeroed hin _ hi
      rwa [Nat.add_sub_cancel' (Nat.not_lt.mp hlt)] at hj
  · by_cases hlt : i < fs.length
    · rw [List.getElem?_append_left hlt] at hi
      exact h.lost i hi
    · rw [List.getElem?_append_right (Nat.not_lt.mp hlt)] at hi
      have hj := hlost _ hi
      rwa [Nat.add_sub_cancel' (Nat.not_lt.mp hlt)] at hj

theorem Moved.mono (h : Moved t mem₀ mem trace fs upto) (hle : upto ≤ upto') :
    Moved t mem₀ mem trace fs upto' := by
  refine { h with frame := fun a ha => h.frame a fun hin => ?_ }
  have hpos := t.pos_mono hle
  have hor := ha hin
  omega

end Moved

/-! ## One page -/

/-- Behind an access: what it leaves in the buffer and in the list of offers. -/
theorem kvmIoBus_eq (a : PioAccess) (data : ℕ) (s : SevEsVcpu) : ∃ mem bytes,
    kvmIoBus bus a data s =
      ((bus s.trace).1, { s with mem := mem, trace := s.trace ++ [.bus a bytes (bus s.trace).1] }) ∧
    read mem data a.size = bytes ∧
    ∀ x, (a.isIn = true → x < data ∨ data + a.size ≤ x) → mem x = s.mem x := by
  unfold kvmIoBus
  cases hin : a.isIn
  · exact ⟨s.mem, _, rfl, rfl, fun _ _ => rfl⟩
  · refine ⟨_, _, rfl, ?_, fun x hx => copy_of_outside (hx rfl)⟩
    exact read_copy (k := 0) (by omega)

section Page

variable {t : Transfer} {mem₀ : ℕ → BitVec 8} {b c : ℕ}

/-- A page that begins at element `b` and has `c`. -/
structure OnPage (t : Transfer) (b c : ℕ) : Prop where
  aligned : b % t.perPage = 0
  length : c = min t.perPage (t.count - b)

theorem OnPage.mod (h : OnPage t b c) {i : ℕ} (hi : i < c) : (b + i) % t.perPage = i := by
  have hlt : i < t.perPage := by have := h.length; omega
  rw [Nat.add_mod, h.aligned, Nat.zero_add, Nat.mod_mod, Nat.mod_eq_of_lt hlt]

theorem OnPage.pageEnd (h : OnPage t b c) {i : ℕ} (hi : i < c) : t.pageEnd (b + i) = b + c := by
  have hdiv : (b + i) / t.perPage * t.perPage + i = b + i := by
    have heq := Nat.div_add_mod (b + i) t.perPage
    rwa [h.mod hi, Nat.mul_comm] at heq
  have hlength := h.length
  unfold Transfer.pageEnd
  rw [Nat.add_mul]
  omega

/-- The first element is not handled: it stays to be transferred. -/
theorem OnPage.fate_first (h : OnPage t b c) {fs : List (Option (List (BitVec 8)))}
    (hlen : fs.length = b) (a : PioAccess) (bytes : List (BitVec 8)) :
    fate t fs (.bus a bytes false) = fs ++ [] := by
  simp only [fate, hlen, h.aligned, if_true, List.append_nil]

/-- A later one is not: the rest of the page is lost. -/
theorem OnPage.fate_later (h : OnPage t b c) {fs : List (Option (List (BitVec 8)))} {i : ℕ}
    (hlen : fs.length = b + i) (hi : i < c) (hne : i ≠ 0) (a : PioAccess)
    (bytes : List (BitVec 8)) :
    fate t fs (.bus a bytes false) = fs ++ List.replicate (c - i) none := by
  simp only [fate, hlen, h.mod hi, if_neg hne, h.pageEnd hi]
  rw [Nat.add_sub_add_left]

/-- The fates of the elements that are lost. -/
theorem getElem?_lost {n j : ℕ} {f : Option (List (BitVec 8))}
    (h : (List.replicate n none)[j]? = some f) : j < n ∧ f = none := by
  obtain ⟨hlt, -⟩ := List.getElem?_eq_some_iff.mp h
  rw [List.length_replicate] at hlt
  exact ⟨hlt, List.eq_of_mem_replicate (List.mem_of_getElem? h)⟩

section Offered

variable {mem mem' : ℕ → BitVec 8} {trace : List IoOffer} {fs : List (Option (List (BitVec 8)))}
  {bytes : List (BitVec 8)} {upto : ℕ}

/-- A write to the elements from the end of the list on keeps the frame. -/
theorem Moved.frame_of_write (h : Moved t mem₀ mem trace fs fs.length) (hle : fs.length ≤ upto)
    (hwrite : ∀ x, (t.access.isIn = true → x < t.pos fs.length ∨ t.pos upto ≤ x) → mem' x = mem x)
    (x : ℕ) (hx : t.access.isIn = true → x < t.data ∨ t.pos upto ≤ x) : mem' x = mem₀ x := by
  have hdata := t.data_le_pos fs.length
  have hpos := t.pos_mono hle
  rw [hwrite x fun hin => by have := hx hin; omega]
  exact h.frame x fun hin => by have := hx hin; omega

/-- The element is handled. -/
theorem Moved.handled (h : Moved t mem₀ mem trace fs fs.length)
    (hread : read mem' (t.pos fs.length) t.access.size = bytes)
    (hwrite : ∀ x, (t.access.isIn = true → x < t.pos fs.length ∨ t.pos (fs.length + 1) ≤ x) →
      mem' x = mem x) :
    Moved t mem₀ mem' (trace ++ [.bus t.access bytes true]) (fs ++ [some bytes])
      (fs.length + 1) := by
  refine h.append rfl rfl (fun a ha => hwrite a fun _ => .inl ha) (fun j bytes' hj => ?_)
    (fun _ j hj => ?_) (fun j hj => ?_) (h.frame_of_write (Nat.le_succ _) hwrite)
  · cases j with
    | zero =>
      have hbytes : bytes = bytes' := by simpa using hj
      exact hread.trans hbytes
    | succ j => simp at hj
  · cases j <;> simp at hj
  · cases j <;> simp at hj

/-- The first element of a page is not handled. -/
theorem Moved.unhandled (hpage : OnPage t b c) (h : Moved t mem₀ mem trace fs fs.length)
    (hlen : fs.length = b)
    (hwrite : ∀ x, (t.access.isIn = true → x < t.pos fs.length ∨ t.pos (b + c) ≤ x) →
      mem' x = mem x) :
    Moved t mem₀ mem' (trace ++ [.bus t.access bytes false]) fs (b + c) := by
  have hmoved : Moved t mem₀ mem' (trace ++ [.bus t.access bytes false]) (fs ++ []) (b + c) :=
    h.append rfl (hpage.fate_first hlen _ _) (fun a ha => hwrite a fun _ => .inl ha) (by simp)
      (by simp) (by simp) (h.frame_of_write (by omega) hwrite)
  rwa [List.append_nil] at hmoved

/-- A later one is not: the device has vanished. -/
theorem Moved.vanished (hpage : OnPage t b c) (h : Moved t mem₀ mem trace fs fs.length) {i : ℕ}
    (hlen : fs.length = b + i) (hi : i < c) (hne : i ≠ 0)
    (hwrite : ∀ x, (t.access.isIn = true → x < t.pos fs.length ∨ t.pos (b + c) ≤ x) →
      mem' x = mem x)
    (hzero : t.access.isIn = true → ∀ j, j < c - i →
      read mem' (t.pos (fs.length + j)) t.access.size = List.replicate t.access.size 0) :
    Moved t mem₀ mem' (trace ++ [.bus t.access bytes false]) (fs ++ List.replicate (c - i) none)
      (b + c) := by
  refine h.append rfl (hpage.fate_later hlen hi hne _ _) (fun a ha => hwrite a fun _ => .inl ha)
    (fun j bytes' hj => ?_) (fun hin j hj => hzero hin j (getElem?_lost hj).1) (fun j hj => ?_)
    (h.frame_of_write (by omega) hwrite)
  · cases (getElem?_lost hj).2
  · have hlt := (getElem?_lost hj).1
    rw [hlen, Nat.add_assoc, hpage.mod (by omega)]
    omega

end Offered

/-- What the loop leaves: the rest of the page has its fates, or the first element was not
handled. -/
theorem pioLoop_spec (hpage : OnPage t b c) : ∀ (left i : ℕ) {s : SevEsVcpu}
    {fs : List (Option (List (BitVec 8)))}, i + left = c → fs.length = b + i →
    Moved t mem₀ s.mem s.trace fs fs.length →
    ∃ mem trace, (pioLoop bus t.access left (i = 0) (t.pos fs.length) s).2 =
        { s with mem := mem, trace := trace } ∧
      (((pioLoop bus t.access left (i = 0) (t.pos fs.length) s).1 = true ∧
          ∃ new, new.length = left ∧ Moved t mem₀ mem trace (fs ++ new) (b + c)) ∨
        ((pioLoop bus t.access left (i = 0) (t.pos fs.length) s).1 = false ∧ i = 0 ∧ 0 < left ∧
          Moved t mem₀ mem trace fs (b + c)))
  | 0, i, s, fs, hi, hlen, h => by
    refine ⟨s.mem, s.trace, rfl, .inl ⟨rfl, [], rfl, ?_⟩⟩
    rw [List.append_nil]
    exact h.mono (by omega)
  | left + 1, i, s, fs, hi, hlen, h => by
    obtain ⟨mem, bytes, hbus, hread, hmem⟩ := kvmIoBus_eq bus t.access (t.pos fs.length) s
    have hic : i < c := by omega
    have hwrite : ∀ upto, fs.length < upto → ∀ x,
        (t.access.isIn = true → x < t.pos fs.length ∨ t.pos upto ≤ x) → mem x = s.mem x := by
      intro upto hlt x hx
      have hpos := t.pos_mono (Nat.succ_le_of_lt hlt)
      rw [t.pos_succ] at hpos
      exact hmem x fun hin => by have := hx hin; omega
    have hpageWrite := hwrite (b + c) (by omega)
    unfold pioLoop
    simp only [hbus]
    cases hhandled : (bus s.trace).1
    · by_cases hfirst : i = 0
      · -- the page goes to userspace
        have hmoved : Moved t mem₀ mem (s.trace ++ [.bus t.access bytes false]) fs (b + c) :=
          h.unhandled hpage (by omega) hpageWrite
        exact ⟨mem, _, by simp [hfirst], .inr ⟨by simp [hfirst], hfirst, Nat.succ_pos _, hmoved⟩⟩
      · -- the device has vanished
        have hleft : c - i = left + 1 := by omega
        have hlast : t.pos (b + c) = t.pos fs.length + t.access.size * (left + 1) := by
          rw [show b + c = fs.length + (left + 1) by omega, t.pos_add, Nat.mul_comm]
        simp only [hfirst, decide_false, Bool.false_eq_true, if_false]
        rw [← hleft] at hlast ⊢
        cases hin : t.access.isIn
        · refine ⟨mem, _, rfl, .inl ⟨rfl, List.replicate (c - i) none, List.length_replicate, ?_⟩⟩
          exact h.vanished hpage hlen hic hfirst hpageWrite fun hin' => absurd hin' (by simp [hin])
        · refine ⟨_, _, rfl, .inl ⟨rfl, List.replicate (c - i) none, List.length_replicate, ?_⟩⟩
          refine h.vanished hpage hlen hic hfirst (fun x hx => ?_) fun _ j hj => ?_
          · have hx' := hx hin
            rw [hlast] at hx'
            rw [copy_of_outside hx', hpageWrite x hx]
          · rw [t.pos_add, read_copy, read_const]
            rw [Nat.mul_comm j, ← Nat.mul_succ]
            exact Nat.mul_le_mul_left _ hj
    · have hmoved := h.handled hread (hwrite _ (Nat.lt_succ_self _))
      rw [← t.pos_succ]
      have hlength : (fs ++ [some bytes]).length = fs.length + 1 := by simp
      rw [← hlength] at hmoved ⊢
      obtain ⟨mem', trace', heq, hend | ⟨-, hfalse, -⟩⟩ := @pioLoop_spec hpage left (i + 1)
        { s with mem := mem, trace := s.trace ++ [.bus t.access bytes true] } _ (by omega)
        (by omega) hmoved
      · obtain ⟨htrue, new, hnew, hdone⟩ := hend
        refine ⟨mem', trace', heq, .inl ⟨htrue, some bytes :: new, by simp [hnew], ?_⟩⟩
        rwa [List.append_assoc, List.singleton_append] at hdone
      · omega

/-- One page: it has its fates, or it waits for userspace. -/
theorem emulatorPioInOut_spec (hpage : OnPage t b c) {s : SevEsVcpu}
    {fs : List (Option (List (BitVec 8)))} (hlen : fs.length = b)
    (h : Moved t mem₀ s.mem s.trace fs b) :
    ((emulatorPioInOut bus t.access (t.pos b) c s).1 = true ∧
      ∃ mem trace new, (emulatorPioInOut bus t.access (t.pos b) c s).2 =
          { s with mem := mem, trace := trace } ∧
        new.length = c ∧ Moved t mem₀ mem trace (fs ++ new) (b + c)) ∨
    ((emulatorPioInOut bus t.access (t.pos b) c s).1 = false ∧ 0 < c ∧
      ∃ mem trace page, (emulatorPioInOut bus t.access (t.pos b) c s).2 =
          { s with
            mem := mem
            trace := trace
            pio := ⟨t.access, c⟩
            runIo := ⟨t.access, c⟩
            pioData := page } ∧
        Moved t mem₀ mem trace fs (b + c) ∧
        (t.access.isIn = false → ∀ k, k < t.access.size * c → page k = mem (t.pos b + k))) := by
  subst hlen
  have hloop := pioLoop_spec bus hpage c 0 (Nat.zero_add c) rfl h
  simp only [decide_true] at hloop
  unfold emulatorPioInOut
  obtain ⟨mem, trace, heq, ⟨htrue, new, hnew, hdone⟩ | ⟨hfalse, -, hpos, hdone⟩⟩ := hloop
  · left
    simp only [htrue, if_true]
    exact ⟨trivial, mem, trace, new, heq, hnew, hdone⟩
  · right
    simp only [hfalse, Bool.false_eq_true, if_false, heq]
    refine ⟨trivial, hpos, mem, trace, _, rfl, hdone, fun hout k hk => ?_⟩
    rw [copy_of_inside (Nat.zero_le k) (by omega), hout]
    rfl

end Page

/-! ## The transfer -/

/-- Between two pages: `b` elements have their fates. -/
structure Ready (t : Transfer) (mem₀ : ℕ → BitVec 8) (b : ℕ)
    (fs : List (Option (List (BitVec 8)))) (s : SevEsVcpu) : Prop where
  length : fs.length = b
  le : b ≤ t.count
  sevPioData : s.sevPioData = t.pos b
  sevPioCount : s.sevPioCount = t.count - b
  callback : s.completeUserspaceIo = none
  moved : Moved t mem₀ s.mem s.trace fs b

/-- A page of `c` elements is with userspace. -/
structure Waiting (t : Transfer) (mem₀ : ℕ → BitVec 8) (b c : ℕ)
    (fs : List (Option (List (BitVec 8)))) (s : SevEsVcpu) : Prop where
  page : OnPage t b c
  nonempty : 0 < c
  length : fs.length = b
  pio : s.pio = ⟨t.access, c⟩
  runIo : s.runIo = ⟨t.access, c⟩
  -- output has been advanced over the page already
  sevPioData : s.sevPioData = if t.access.isIn then t.pos b else t.pos (b + c)
  sevPioCount : s.sevPioCount = if t.access.isIn then t.count - b else t.count - (b + c)
  callback : s.completeUserspaceIo =
    if t.access.isIn then some .completeIns else some .completeOuts
  moved : Moved t mem₀ s.mem s.trace fs (b + c)
  pioData : t.access.isIn = false → ∀ k, k < t.access.size * c → s.pioData k = s.mem (t.pos b + k)

/-- The transfer is over, or a page behind element `b` is with userspace. -/
def Proceeds (t : Transfer) (mem₀ : ℕ → BitVec 8) (b : ℕ) (s : SevEsVcpu) : Prop :=
  (∃ fs, Ready t mem₀ t.count fs s) ∨ ∃ b' c fs, b ≤ b' ∧ Waiting t mem₀ b' c fs s

section Loop

variable {t : Transfer} {mem₀ : ℕ → BitVec 8}

theorem OnPage.le {b c : ℕ} (h : OnPage t b c) (hb : b ≤ t.count) : b + c ≤ t.count := by
  have := h.length
  omega

/-- What is not the last page is a full one. -/
theorem OnPage.next {b c : ℕ} (h : OnPage t b c) (hlt : b + c < t.count) :
    OnPage t (b + c) (min t.perPage (t.count - (b + c))) := by
  refine ⟨?_, rfl⟩
  have hc : c = t.perPage := by have := h.length; omega
  rw [hc, Nat.add_mod_right, h.aligned]

theorem sevEsLoop_spec (hper : 0 < t.perPage) : ∀ (fuel : ℕ) {b : ℕ} {s : SevEsVcpu}
    {fs : List (Option (List (BitVec 8)))}, b % t.perPage = 0 → Ready t mem₀ b fs s →
    t.count - b < fuel →
    ∃ r, sevEsLoop bus t.access fuel s = some r ∧ Proceeds t mem₀ b r.2
  | 0, b, s, fs, _, _, hfuel => absurd hfuel (Nat.not_lt_zero _)
  | fuel + 1, b, s, fs, haligned, h, hfuel => by
    have hpage : OnPage t b (min t.perPage (t.count - b)) := ⟨haligned, rfl⟩
    have hle := hpage.le h.le
    have hper' : pageSize / t.access.size = t.perPage := rfl
    unfold sevEsLoop
    dsimp only
    rw [hper', h.sevPioCount, h.sevPioData]
    generalize hc : min t.perPage (t.count - b) = c at hpage hle ⊢
    rcases emulatorPioInOut_spec bus hpage h.length h.moved with
      ⟨htrue, mem, trace, new, heq, hnew, hmoved⟩ |
      ⟨hfalse, hpos, mem, trace, page, heq, hmoved, hdata⟩
    · -- emulation done by the kernel
      rw [if_pos htrue, heq]
      have hlength : (fs ++ new).length = b + c := by rw [List.length_append, h.length, hnew]
      have hready : Ready t mem₀ (b + c) (fs ++ new) (advanceSevEsEmulatedPio c t.access.size
          { s with mem := mem, trace := trace }) := by
        refine ⟨hlength, hle, ?_, ?_, h.callback, hmoved⟩
        · rw [t.pos_add, ← h.sevPioData]
          rfl
        · rw [← Nat.sub_sub, ← h.sevPioCount]
          rfl
      rw [hready.sevPioCount]
      split
      · rename_i hdone
        have hall : b + c = t.count := by omega
        rw [hall] at hready
        exact ⟨_, rfl, .inl ⟨_, hready⟩⟩
      · rename_i hmore
        obtain ⟨r, hr, hproceeds⟩ := sevEsLoop_spec hper fuel
          (hpage.next (by omega)).aligned hready (by omega)
        refine ⟨r, hr, hproceeds.imp id ?_⟩
        rintro ⟨b', c', fs', hb', hwaiting⟩
        exact ⟨b', c', fs', by omega, hwaiting⟩
    · -- userspace
      rw [if_neg (by simp [hfalse]), heq]
      cases hin : t.access.isIn
      · refine ⟨_, rfl, .inr ⟨b, c, fs, Nat.le_refl b, hpage, hpos, h.length, rfl, rfl, ?_, ?_, ?_,
          hmoved, hdata⟩⟩
        · simp only [hin, Bool.false_eq_true, if_false]
          rw [t.pos_add, ← h.sevPioData]
          rfl
        · simp only [hin, Bool.false_eq_true, if_false]
          rw [← Nat.sub_sub, ← h.sevPioCount]
          rfl
        · simp only [hin, Bool.false_eq_true, if_false]
      · refine ⟨_, rfl, .inr ⟨b, c, fs, Nat.le_refl b, hpage, hpos, h.length, rfl, rfl, ?_, ?_, ?_,
          hmoved, hdata⟩⟩
        · simpa only [hin, if_true] using h.sevPioData
        · simpa only [hin, if_true] using h.sevPioCount
        · simp only [hin, if_true]

/-- The fates of the elements of an exit. -/
theorem getElem?_exit {page : ℕ → BitVec 8} {size c j : ℕ} {f : Option (List (BitVec 8))}
    (h : ((List.range c).map fun i => some (read page (i * size) size))[j]? = some f) :
    j < c ∧ f = some (read page (j * size) size) := by
  rw [List.getElem?_map, Option.map_eq_some_iff] at h
  obtain ⟨k, hk, rfl⟩ := h
  obtain ⟨hlt, rfl⟩ := List.getElem?_eq_some_iff.mp hk
  rw [List.length_range] at hlt
  rw [List.getElem_range]
  exact ⟨hlt, rfl⟩

/-- An exit is answered, and its page is in the buffer. -/
theorem Waiting.answered {b c : ℕ} {fs : List (Option (List (BitVec 8)))} {s : SevEsVcpu}
    (h : Waiting t mem₀ b c fs s) {page mem : ℕ → BitVec 8}
    (hkeep : ∀ a, (t.access.isIn = true → a < t.pos b ∨ t.pos (b + c) ≤ a) → mem a = s.mem a)
    (hpage : ∀ k, k < t.access.size * c → page k = mem (t.pos b + k)) :
    ∃ new, new.length = c ∧
      Moved t mem₀ mem (s.trace ++ [.exit ⟨t.access, c⟩ page]) (fs ++ new) (b + c) := by
  have hc : c * t.access.size ≤ pageSize := by
    have hle : c ≤ pageSize / t.access.size := by
      have hlength := h.page.length
      unfold Transfer.perPage at hlength
      omega
    exact Nat.le_trans (Nat.mul_le_mul_right _ hle) (Nat.div_mul_le_self ..)
  have hread : ∀ j, j < c →
      read mem (t.pos (b + j)) t.access.size = read page (j * t.access.size) t.access.size := by
    intro j hj
    have hlast : j * t.access.size + t.access.size ≤ t.access.size * c := by
      rw [← Nat.succ_mul, Nat.mul_comm]
      exact Nat.mul_le_mul_left _ hj
    refine List.map_congr_left fun k hk => ?_
    have hlt := List.mem_range.mp hk
    rw [hpage _ (by omega), t.pos_add, Nat.add_assoc]
  refine ⟨(List.range c).map fun i => some (read page (i * t.access.size) t.access.size),
    by simp, ?_⟩
  refine h.moved.append ⟨rfl, hc⟩ rfl (fun a ha => ?_) (fun j bytes hj => ?_) (fun _ j hj => ?_)
    (fun j hj => ?_) (fun a ha => ?_)
  · rw [h.length] at ha
    exact hkeep a fun _ => .inl ha
  · obtain ⟨hlt, heq⟩ := getElem?_exit hj
    rw [h.length, hread j hlt]
    exact (Option.some.inj heq).symm
  · obtain ⟨-, heq⟩ := getElem?_exit hj
    cases heq
  · obtain ⟨-, heq⟩ := getElem?_exit hj
    cases heq
  · have hdata := t.data_le_pos b
    rw [hkeep a fun hin => by have := ha hin; omega]
    exact h.moved.frame a ha

/-- Behind a page that userspace has answered. -/
theorem Waiting.ready {b c : ℕ} {fs : List (Option (List (BitVec 8)))} {s s' : SevEsVcpu}
    (h : Waiting t mem₀ b c fs s) (hb : b + c ≤ t.count) {page : ℕ → BitVec 8}
    (hkeep : ∀ a, (t.access.isIn = true → a < t.pos b ∨ t.pos (b + c) ≤ a) → s'.mem a = s.mem a)
    (hpage : ∀ k, k < t.access.size * c → page k = s'.mem (t.pos b + k))
    (htrace : s'.trace = s.trace ++ [.exit ⟨t.access, c⟩ page])
    (hdata : s'.sevPioData = t.pos (b + c)) (hcount : s'.sevPioCount = t.count - (b + c))
    (hcallback : s'.completeUserspaceIo = none) : ∃ fs', Ready t mem₀ (b + c) fs' s' := by
  obtain ⟨new, hnew, hmoved⟩ := h.answered hkeep hpage
  rw [← htrace] at hmoved
  exact ⟨fs ++ new, by rw [List.length_append, h.length, hnew], hb, hdata, hcount, hcallback,
    hmoved⟩

/-- An output whose page userspace has taken. -/
theorem Waiting.completeOuts (user : IoUser) {b c : ℕ} {fs : List (Option (List (BitVec 8)))}
    {s : SevEsVcpu} (h : Waiting t mem₀ b c fs s) (hb : b + c ≤ t.count)
    (hin : t.access.isIn = false) : ∃ fs', Ready t mem₀ (b + c) fs' { answerExit user s with
      pio := { s.pio with count := 0 }
      completeUserspaceIo := none } :=
  h.ready hb (fun _ _ => rfl) (h.pioData hin) (by simp [answerExit, h.runIo, hin])
    (h.sevPioData.trans (by simp [hin])) (h.sevPioCount.trans (by simp [hin])) rfl

/-- An input whose page userspace has supplied. -/
theorem Waiting.completeIns (user : IoUser) {b c : ℕ} {fs : List (Option (List (BitVec 8)))}
    {s : SevEsVcpu} (h : Waiting t mem₀ b c fs s) (hb : b + c ≤ t.count)
    (hin : t.access.isIn = true) :
    ∃ fs', Ready t mem₀ (b + c) fs' (advanceSevEsEmulatedPio c t.access.size
      (completeEmulatorPioIn s.sevPioData
        { answerExit user s with completeUserspaceIo := none })) := by
  have hdata : s.sevPioData = t.pos b := h.sevPioData.trans (by simp [hin])
  have hcount : s.sevPioCount = t.count - b := h.sevPioCount.trans (by simp [hin])
  have hsize : s.pio.access.size * s.pio.count = t.access.size * c := by rw [h.pio]
  have hanswer : (answerExit user s).pioData = user s.trace := by
    simp [answerExit, h.runIo, hin]
  have hkeep : ∀ a, (t.access.isIn = true → a < t.pos b ∨ t.pos (b + c) ≤ a) →
      copy s.mem s.sevPioData (answerExit user s).pioData
        (s.pio.access.size * s.pio.count) a = s.mem a := by
    intro a ha
    have hout := ha hin
    rw [t.pos_add, Nat.mul_comm c] at hout
    rw [hsize, hdata, copy_of_outside hout]
  have hpage : ∀ k, k < t.access.size * c → user s.trace k =
      copy s.mem s.sevPioData (answerExit user s).pioData
        (s.pio.access.size * s.pio.count) (t.pos b + k) := by
    intro k hk
    rw [hsize, hdata, copy_of_inside (by omega) (by omega), Nat.add_sub_cancel_left, hanswer]
  refine h.ready hb hkeep hpage ?_ ?_ ?_ rfl
  · simp [answerExit, advanceSevEsEmulatedPio, completeEmulatorPioIn, h.runIo, hin]
  · rw [t.pos_add, ← hdata]
    rfl
  · rw [← Nat.sub_sub, ← hcount]
    rfl

/-- Behind a page the loop goes on, if there is more. -/
theorem Ready.proceeds (hper : 0 < t.perPage) {b c fuel : ℕ} (hpage : OnPage t b c)
    (hfuel : t.count < fuel) {s : SevEsVcpu} {fs : List (Option (List (BitVec 8)))}
    (h : Ready t mem₀ (b + c) fs s) :
    ∃ r, (if s.sevPioCount ≠ 0 then sevEsLoop bus t.access fuel s else some (1, s)) = some r ∧
      Proceeds t mem₀ (b + c) r.2 := by
  rw [h.sevPioCount]
  split
  · rename_i hmore
    exact sevEsLoop_spec bus hper fuel (hpage.next (by omega)).aligned h (by omega)
  · rename_i hdone
    have hle := h.le
    have hall : b + c = t.count := by omega
    rw [hall] at h
    exact ⟨_, rfl, .inl ⟨_, h⟩⟩

/-- A callback takes the transfer behind its page. -/
theorem resume_spec (hper : 0 < t.perPage) (user : IoUser) {b c fuel : ℕ}
    {fs : List (Option (List (BitVec 8)))} {s : SevEsVcpu} (h : Waiting t mem₀ b c fs s)
    (hb : b + c ≤ t.count) (hfuel : t.count < fuel) :
    ∃ callback r, s.completeUserspaceIo = some callback ∧
      resume bus user fuel callback s = some r ∧ Proceeds t mem₀ (b + c) r.2 := by
  cases hin : t.access.isIn
  · have haccess : (⟨false, t.access.size, t.access.port⟩ : PioAccess) = t.access := by
      rw [← hin]
    obtain ⟨fs', hready⟩ := h.completeOuts user hb hin
    obtain ⟨r, hr, hproceeds⟩ := hready.proceeds bus hper h.page hfuel
    refine ⟨.completeOuts, r, by simpa [hin] using h.callback, ?_, hproceeds⟩
    rw [← hr]
    simp only [resume, completeSevEsEmulatedOuts, kvmSevEsOuts, answerExit, h.pio, haccess]
  · have haccess : (⟨true, t.access.size, t.access.port⟩ : PioAccess) = t.access := by
      rw [← hin]
    obtain ⟨fs', hready⟩ := h.completeIns user hb hin
    obtain ⟨r, hr, hproceeds⟩ := hready.proceeds bus hper h.page hfuel
    refine ⟨.completeIns, r, by simpa [hin] using h.callback, ?_, hproceeds⟩
    rw [← hr]
    simp only [resume, completeSevEsEmulatedIns, kvmSevEsIns, answerExit, h.pio, haccess]

/-- Exits are answered until the transfer is over. -/
theorem resumeAll_spec (hper : 0 < t.perPage) (user : IoUser) {fuel : ℕ} (hfuel : t.count < fuel) :
    ∀ (exits : ℕ) {b : ℕ} {s : SevEsVcpu}, Proceeds t mem₀ b s → t.count - b ≤ exits →
      ∃ s' fs, resumeAll bus user fuel exits s = some s' ∧ Ready t mem₀ t.count fs s' := by
  intro exits
  induction exits with
  | zero =>
    intro b s h hexits
    rcases h with ⟨fs, hready⟩ | ⟨b', c, fs, hb', hwaiting⟩
    · exact ⟨s, fs, by simp [resumeAll, hready.callback], hready⟩
    · have hlength := hwaiting.page.length
      have hpos := hwaiting.nonempty
      omega
  | succ exits ih =>
    intro b s h hexits
    rcases h with ⟨fs, hready⟩ | ⟨b', c, fs, hb', hwaiting⟩
    · exact ⟨s, fs, by simp [resumeAll, hready.callback], hready⟩
    · have hlength := hwaiting.page.length
      have hpos := hwaiting.nonempty
      obtain ⟨callback, r, hcallback, hr, hproceeds⟩ :=
        resume_spec bus hper user hwaiting (by omega) hfuel
      obtain ⟨s', fs', hs', hready⟩ := ih hproceeds (by omega)
      refine ⟨s', fs', ?_, hready⟩
      rw [resumeAll, hcallback]
      simpa only [hr, Option.bind_some] using hs'

end Loop

/-! ## The result -/

/-- What a transfer of `t` makes of the memory `mem₀`: every element has one fate, in order; one
with bytes has been offered with what the buffer has there, or has been supplied with what is there
now; one without is 0 on input, and not the first of its page, which the device has handled; every
offer is made with the size, the port and the direction, and an exit has at most a page; and nothing
outside the buffer, and on output nothing, is written. -/
structure Transferred (t : Transfer) (mem₀ mem : ℕ → BitVec 8) (trace : List IoOffer) : Prop where
  once : (fates t trace).length = t.count
  agrees : ∀ i bytes, (fates t trace)[i]? = some (some bytes) →
    read mem (t.data + i * t.access.size) t.access.size = bytes
  zeroed : t.access.isIn = true → ∀ i, (fates t trace)[i]? = some none →
    read mem (t.data + i * t.access.size) t.access.size = List.replicate t.access.size 0
  lost : ∀ i, (fates t trace)[i]? = some none → i % t.perPage ≠ 0
  fits : ∀ o ∈ trace, o.Fits t.access
  frame : ∀ a, (t.access.isIn = true → a < t.data ∨ t.data + t.count * t.access.size ≤ a) →
    mem a = mem₀ a

theorem kvmSevEsStringIo_eq (bus : IoBus) (fuel : ℕ) (t : Transfer) (s : SevEsVcpu) :
    kvmSevEsStringIo bus fuel t.access.size t.access.port t.data t.count t.access.isIn s =
      sevEsLoop bus t.access fuel { s with sevPioData := t.data, sevPioCount := t.count } := by
  obtain ⟨⟨isIn, size, port⟩, data, count⟩ := t
  cases isIn <;> rfl

/-- **Every element of a string I/O is transferred once**, whatever the devices in the kernel and
userspace do; the loops and the exits end. -/
theorem stringIo_transfers (bus : IoBus) (user : IoUser) (t : Transfer)
    (hsize : t.access.size = 1 ∨ t.access.size = 2 ∨ t.access.size = 4) {s : SevEsVcpu}
    (hcallback : s.completeUserspaceIo = none) (htrace : s.trace = []) {fuel exits : ℕ}
    (hfuel : t.count < fuel) (hexits : t.count ≤ exits) :
    ∃ s', stringIoRun bus user fuel exits t.access.size t.access.port t.data t.count t.access.isIn
        s = some s' ∧ s'.completeUserspaceIo = none ∧ Transferred t s.mem s'.mem s'.trace := by
  have hper : 0 < t.perPage := by
    unfold Transfer.perPage pageSize
    rcases hsize with h | h | h <;> rw [h] <;> decide
  have hmoved : Moved t s.mem s.mem s.trace [] 0 :=
    ⟨by rw [htrace]; rfl, by simp [htrace], by simp, by simp, by simp, fun _ _ => rfl⟩
  have hready : Ready t s.mem 0 [] { s with sevPioData := t.data, sevPioCount := t.count } :=
    ⟨rfl, Nat.zero_le _, by simp [Transfer.pos], rfl, hcallback, hmoved⟩
  obtain ⟨r, hr, hproceeds⟩ := sevEsLoop_spec bus hper fuel (Nat.zero_mod _) hready
    (by omega)
  obtain ⟨s', fs, hs', hdone⟩ := resumeAll_spec bus hper user hfuel exits hproceeds
    (by omega)
  refine ⟨s', ?_, hdone.callback, ?_⟩
  · simp only [stringIoRun, kvmSevEsStringIo_eq, hr, Option.bind_some, hs']
  · have hm := hdone.moved
    have hfates := hm.fates
    exact ⟨by rw [hfates, hdone.length], fun i bytes hi => hm.agrees i bytes (by rwa [← hfates]),
      fun hin i hi => hm.zeroed hin i (by rwa [← hfates]),
      fun i hi => hm.lost i (by rwa [← hfates]), hm.fits, hm.frame⟩

/-- Three words from a port that userspace emulates. -/
def portIn : Transfer := ⟨⟨true, 4, 0x3f8⟩, 0x1000, 3⟩

theorem stringIo_transfers_portIn : ∃ s', stringIoRun (fun _ => (false, fun _ => 0))
      (fun _ k => BitVec.ofNat 8 k) 4 3 4 0x3f8 0x1000 3 true { mem := fun _ => 0xff } = some s' ∧
    s'.completeUserspaceIo = none ∧ Transferred portIn (fun _ => 0xff) s'.mem s'.trace :=
  stringIo_transfers _ _ portIn (.inr (.inr rfl)) rfl rfl (by decide) (by decide)

end Kvm
