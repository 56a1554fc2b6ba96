import Mathlib.Data.List.Basic
import Mathlib.Tactic.Ring

/-!
# Byte strings: little-endian numbers, stores and loads

* `le n v` — the `n` bytes of `v`, least significant first; `ofLe` reads them back (`ofLe_le`).
* `store bs off src` — `bs` with `src` written at offset `off`; `load bs off n` — the `n` bytes
  at `off`.

A store inside a prefix or a suffix of a byte string leaves the other part alone
(`store_append_left`, `store_append_right`), a load sees the last store that covers it
(`load_store_same`) and looks through every disjoint one (`load_store_disjoint`).  A list of
stores fixes the bytes that it covers (`storeAll_covered`) and keeps the others (`storeAll_free`).
-/

set_option autoImplicit false

namespace Bytes

/-! ## Little-endian numbers -/

/-- The `n` low bytes of `v`, least significant first. -/
def le : Nat → Nat → List UInt8
  | 0, _ => []
  | n + 1, v => UInt8.ofNat v :: le n (v / 256)

/-- The number written little-endian in a byte string. -/
def ofLe : List UInt8 → Nat
  | [] => 0
  | b :: bs => b.toNat + 256 * ofLe bs

@[simp] theorem length_le (n v : Nat) : (le n v).length = n := by
  induction n generalizing v with
  | zero => rfl
  | succ n ih => simp [le, ih]

/-- Writing `v` in `n` bytes and reading it back truncates it to `n` bytes. -/
theorem ofLe_le (n v : Nat) : ofLe (le n v) = v % 256 ^ n := by
  induction n generalizing v with
  | zero => simp [le, ofLe, Nat.mod_one]
  | succ n ih =>
    have hsplit : v % 256 ^ (n + 1) = v % 256 + 256 * (v / 256 % 256 ^ n) := by
      rw [Nat.pow_succ, Nat.mul_comm, Nat.mod_mul]
    simp only [le, ofLe, ih, UInt8.toNat_ofNat', hsplit]

/-! ## Stores and loads -/

/-- `bs` with the bytes `src` written at offset `off`. -/
def store (bs : List UInt8) (off : Nat) (src : List UInt8) : List UInt8 :=
  bs.take off ++ (src ++ bs.drop (off + src.length))

/-- The `n` bytes of `bs` at offset `off`. -/
def load (bs : List UInt8) (off n : Nat) : List UInt8 := (bs.drop off).take n

theorem length_store {bs src : List UInt8} {off : Nat} (h : off + src.length ≤ bs.length) :
    (store bs off src).length = bs.length := by
  simp only [store, List.length_append, List.length_take, List.length_drop]
  omega

/-- A store that stays in the left part of an append leaves the right part alone. -/
theorem store_append_left {a src : List UInt8} {off : Nat} (h : off + src.length ≤ a.length)
    (b : List UInt8) : store (a ++ b) off src = store a off src ++ b := by
  simp only [store, List.append_assoc]
  rw [List.take_append_of_le_length (by omega), List.drop_append_of_le_length h]

/-- A store behind the left part of an append is a store in the right part. -/
theorem store_append_right (a b src : List UInt8) (off : Nat) :
    store (a ++ b) (a.length + off) src = a ++ store b off src := by
  simp only [store, List.take_length_add_append, Nat.add_assoc, List.drop_length_add_append,
    List.append_assoc]

/-- The bytes after a store: the source inside the written range, the old ones outside it. -/
theorem getElem?_store {bs src : List UInt8} {off : Nat} (h : off + src.length ≤ bs.length)
    (p : Nat) : (store bs off src)[p]? =
      if off ≤ p ∧ p < off + src.length then src[p - off]? else bs[p]? := by
  have htake : (bs.take off).length = off := by rw [List.length_take]; omega
  unfold store
  split
  · rename_i hp
    rw [List.getElem?_append_right (by omega), htake, List.getElem?_append_left (by omega)]
  · rename_i hp
    rcases Nat.lt_or_ge p off with hlt | hge
    · rw [List.getElem?_append_left (by omega), List.getElem?_take_of_lt hlt]
    · rw [List.getElem?_append_right (by omega), htake, List.getElem?_append_right (by omega),
        List.getElem?_drop]
      congr 1
      omega

theorem getElem?_load (bs : List UInt8) (off n p : Nat) :
    (load bs off n)[p]? = if p < n then bs[off + p]? else none := by
  rw [load, List.getElem?_take, List.getElem?_drop]

/-- Loading the range just stored gives the stored bytes. -/
theorem load_store_same {bs src : List UInt8} {off : Nat} (h : off + src.length ≤ bs.length) :
    load (store bs off src) off src.length = src := by
  apply List.ext_getElem?
  intro p
  rw [getElem?_load, getElem?_store h]
  split
  · rw [if_pos (by omega), Nat.add_sub_cancel_left]
  · rw [List.getElem?_eq_none (by omega)]

/-- A load does not see a store to a disjoint range. -/
theorem load_store_disjoint {bs src : List UInt8} {off off' n : Nat}
    (h : off + src.length ≤ bs.length) (hdis : off' + n ≤ off ∨ off + src.length ≤ off') :
    load (store bs off src) off' n = load bs off' n := by
  apply List.ext_getElem?
  intro p
  rw [getElem?_load, getElem?_load, getElem?_store h]
  split
  · rw [if_neg (by omega)]
  · rfl

/-! ## Lists of stores -/

/-- The writes `ws`, each an offset and its bytes, one behind another. -/
def storeAll (ws : List (Nat × List UInt8)) (bs : List UInt8) : List UInt8 :=
  ws.foldl (fun bs w => store bs w.1 w.2) bs

/-- A write of `ws` covers position `p`. -/
def Covers (ws : List (Nat × List UInt8)) (p : Nat) : Prop :=
  ∃ w ∈ ws, w.1 ≤ p ∧ p < w.1 + w.2.length

/-- The writes stay inside `n` bytes. -/
def Within (ws : List (Nat × List UInt8)) (n : Nat) : Prop := ∀ w ∈ ws, w.1 + w.2.length ≤ n

theorem Within.head {w : Nat × List UInt8} {ws : List (Nat × List UInt8)} {bs : List UInt8}
    (h : Within (w :: ws) bs.length) : w.1 + w.2.length ≤ bs.length := h w (List.mem_cons_self ..)

theorem Within.tail {w : Nat × List UInt8} {ws : List (Nat × List UInt8)} {bs : List UInt8}
    (h : Within (w :: ws) bs.length) : Within ws (store bs w.1 w.2).length := by
  intro w' hw'
  rw [length_store h.head]
  exact h w' (List.mem_cons_of_mem _ hw')

/-- **A position that no write covers keeps its byte.** -/
theorem storeAll_free {p : Nat} : ∀ (ws : List (Nat × List UInt8)) {bs : List UInt8},
    Within ws bs.length → ¬Covers ws p → (storeAll ws bs)[p]? = bs[p]?
  | [], _, _, _ => rfl
  | w :: ws, bs, hin, hfree => by
    have hhead : ¬(w.1 ≤ p ∧ p < w.1 + w.2.length) := fun hp =>
      hfree ⟨w, List.mem_cons_self .., hp⟩
    have ih := storeAll_free ws hin.tail fun ⟨w', hw', hp⟩ =>
      hfree ⟨w', List.mem_cons_of_mem _ hw', hp⟩
    unfold storeAll at ih ⊢
    rw [List.foldl_cons, ih, getElem?_store hin.head, if_neg hhead]

/-- **The bytes behind the writes agree** at a position that one of them covers, or where they
agreed before. -/
theorem storeAll_covered {p : Nat} : ∀ (ws : List (Nat × List UInt8)) {bs bs' : List UInt8},
    bs.length = bs'.length → Within ws bs.length → (Covers ws p ∨ bs[p]? = bs'[p]?) →
    (storeAll ws bs)[p]? = (storeAll ws bs')[p]?
  | [], _, _, _, _, hp => hp.resolve_left fun ⟨_, hw, _⟩ => nomatch hw
  | w :: ws, bs, bs', hlen, hin, hp => by
    have hin' : Within (w :: ws) bs'.length := hlen ▸ hin
    refine storeAll_covered ws ?_ hin.tail ?_
    · rw [length_store hin.head, length_store hin'.head, hlen]
    · rw [getElem?_store hin.head, getElem?_store hin'.head]
      rcases hp with ⟨w', hw', hp⟩ | hsame
      · rcases List.mem_cons.mp hw' with rfl | hw'
        · rw [if_pos hp, if_pos hp]
          exact .inr rfl
        · exact .inl ⟨w', hw', hp⟩
      · rw [hsame]
        exact .inr rfl

theorem length_storeAll : ∀ (ws : List (Nat × List UInt8)) {bs : List UInt8},
    Within ws bs.length → (storeAll ws bs).length = bs.length
  | [], _, _ => rfl
  | w :: ws, bs, hin => by
    have ih := length_storeAll ws hin.tail
    rw [length_store hin.head] at ih
    exact ih

/-- **The last write that covers a position** decides its byte. -/
theorem storeAll_last {ws ws' : List (Nat × List UInt8)} {w : Nat × List UInt8} {bs : List UInt8}
    {p : Nat} (hin : Within (ws ++ w :: ws') bs.length) (hlo : w.1 ≤ p)
    (hhi : p < w.1 + w.2.length) (hfree : ¬Covers ws' p) :
    (storeAll (ws ++ w :: ws') bs)[p]? = w.2[p - w.1]? := by
  have hbefore : Within ws bs.length := fun w' hw' => hin w' (List.mem_append_left _ hw')
  have hrest : Within (w :: ws') (storeAll ws bs).length := by
    rw [length_storeAll ws hbefore]
    exact fun w' hw' => hin w' (List.mem_append_right _ hw')
  have hsplit : storeAll (ws ++ w :: ws') bs = storeAll ws' (store (storeAll ws bs) w.1 w.2) := by
    unfold storeAll
    rw [List.foldl_append, List.foldl_cons]
  rw [hsplit, storeAll_free ws' hrest.tail hfree, getElem?_store hrest.head, if_pos ⟨hlo, hhi⟩]

end Bytes
