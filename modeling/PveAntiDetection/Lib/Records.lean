import Mathlib.Data.List.Forall2

/-!
# Record streams and NUL-terminated string sets

Two pieces of binary-format grammar.

* A *record stream* is a byte string cut by a parser for one record into consecutive records,
  with nothing left over (`parseAll`).  `Encodes parse x e` says that `e` is a nonempty byte
  string that the parser reads as `x` whatever follows it; `parseAll_flatten` reads a
  concatenation of such strings back.
* A *string set* is a list of nonempty NUL-terminated strings closed by an empty string; the set
  without strings is two NULs (`parseStringSet`, `encodeStringSet`).

A parser that only looks at what it consumes is `Local`: bytes behind its input do not change its
result.
-/

set_option autoImplicit false

namespace Records

variable {α : Type}

/-- A parser of one value in front of a byte string: the value and the bytes behind it. -/
abbrev Parser (α : Type) := List UInt8 → Option (α × List UInt8)

/-- More bytes behind the input of `p` are more bytes behind what it leaves. -/
def Local (p : Parser α) : Prop :=
  ∀ bs x r t, p bs = some (x, r) → p (bs ++ t) = some (x, r ++ t)

/-! ## Record streams -/

/-- `e` is a nonempty encoding of `x`, whatever follows it. -/
def Encodes (p : Parser α) (x : α) (e : List UInt8) : Prop :=
  e ≠ [] ∧ ∀ t, p (e ++ t) = some (x, t)

/-- Read records until the bytes are used up; the fuel bounds their number. -/
def parseMany (p : Parser α) : Nat → List UInt8 → Option (List α)
  | _, [] => some []
  | 0, _ :: _ => none
  | fuel + 1, b :: bs =>
    match p (b :: bs) with
    | none => none
    | some (x, r) => (parseMany p fuel r).map (x :: ·)

/-- Read a byte string as a stream of records. -/
def parseAll (p : Parser α) (bs : List UInt8) : Option (List α) := parseMany p bs.length bs

theorem Local.encodes {p : Parser α} (hp : Local p) {x : α} {e : List UInt8} (hne : e ≠ [])
    (h : p e = some (x, [])) : Encodes p x e :=
  ⟨hne, fun t => by simpa using hp e x [] t h⟩

theorem parseMany_flatten {p : Parser α} {xs : List α} {es : List (List UInt8)}
    (h : List.Forall₂ (Encodes p) xs es) :
    ∀ fuel, es.flatten.length ≤ fuel → parseMany p fuel es.flatten = some xs := by
  induction h with
  | nil => intro fuel _; cases fuel <;> rfl
  | @cons x e xs es hxe _ ih =>
    intro fuel hfuel
    obtain ⟨b, e', rfl⟩ := List.exists_cons_of_ne_nil hxe.1
    rw [List.flatten_cons, List.length_append] at hfuel
    obtain ⟨fuel, rfl⟩ : ∃ k, fuel = k + 1 := ⟨fuel - 1, by simp at hfuel; omega⟩
    have hrest := ih fuel (by simp at hfuel ⊢; omega)
    have hhead := hxe.2 es.flatten
    rw [List.flatten_cons]
    simp only [List.cons_append] at hhead ⊢
    rw [parseMany, hhead]
    simp only [hrest, Option.map_some]

/-- **A concatenation of encodings is read back as the values, using up every byte.** -/
theorem parseAll_flatten {p : Parser α} {xs : List α} {es : List (List UInt8)}
    (h : List.Forall₂ (Encodes p) xs es) : parseAll p es.flatten = some xs :=
  parseMany_flatten h _ (Nat.le_refl _)

/-! ## Strings -/

/-- The bytes up to the first NUL, and what is behind it. -/
def parseString : Parser (List UInt8)
  | [] => none
  | b :: bs => if b = 0 then some ([], bs) else (parseString bs).map fun p => (b :: p.1, p.2)

theorem parseString_append {s : List UInt8} (hs : 0 ∉ s) (t : List UInt8) :
    parseString (s ++ 0 :: t) = some (s, t) := by
  induction s with
  | nil => simp [parseString]
  | cons b s ih =>
    simp only [List.mem_cons, not_or] at hs
    have hb : b ≠ 0 := fun e => hs.1 e.symm
    simp [parseString, hb, ih hs.2]

theorem parseString_local : Local parseString := by
  intro bs
  induction bs with
  | nil => intro x r t h; simp [parseString] at h
  | cons b bs ih =>
    intro x r t h
    simp only [List.cons_append, parseString] at h ⊢
    split
    · rename_i hb
      rw [if_pos hb] at h
      simp only [Option.some.injEq, Prod.mk.injEq] at h ⊢
      exact ⟨h.1, by rw [h.2]⟩
    · rename_i hb
      rw [if_neg hb] at h
      obtain ⟨⟨y, r'⟩, hy, hpair⟩ := Option.map_eq_some_iff.mp h
      simp only [Prod.mk.injEq] at hpair
      obtain ⟨rfl, rfl⟩ := hpair
      rw [ih y r' t hy]
      rfl

/-! ## String sets -/

/-- Nonempty strings up to an empty one; the fuel bounds their number. -/
def parseStrings : Nat → Parser (List (List UInt8))
  | 0, _ => none
  | fuel + 1, bs =>
    match parseString bs with
    | none => none
    | some ([], r) => some ([], r)
    | some (b :: s, r) => (parseStrings fuel r).map fun p => ((b :: s) :: p.1, p.2)

/-- A string set: two NULs, or nonempty strings closed by an empty one. -/
def parseStringSet : Parser (List (List UInt8))
  | 0 :: 0 :: r => some ([], r)
  | 0 :: _ => none
  | bs => parseStrings bs.length bs

/-- The bytes of a string set. -/
def encodeStringSet : List (List UInt8) → List UInt8
  | [] => [0, 0]
  | s :: ss => (s :: ss).flatMap (· ++ [0]) ++ [0]

/-- A string that a string set can hold. -/
def IsSetString (s : List UInt8) : Prop := s ≠ [] ∧ 0 ∉ s

theorem parseStrings_append {ss : List (List UInt8)} (hss : ∀ s ∈ ss, IsSetString s)
    (t : List UInt8) : ∀ fuel, ss.length < fuel →
      parseStrings fuel (ss.flatMap (· ++ [0]) ++ 0 :: t) = some (ss, t) := by
  induction ss with
  | nil =>
    intro fuel hfuel
    obtain ⟨fuel, rfl⟩ : ∃ k, fuel = k + 1 := ⟨fuel - 1, by omega⟩
    simp [parseStrings, parseString]
  | cons s ss ih =>
    intro fuel hfuel
    obtain ⟨fuel, rfl⟩ : ∃ k, fuel = k + 1 := ⟨fuel - 1, by omega⟩
    obtain ⟨hne, hnul⟩ := hss s (List.mem_cons_self ..)
    have hrest := ih (fun s' h => hss s' (List.mem_cons_of_mem _ h)) fuel
      (by simp only [List.length_cons] at hfuel; omega)
    have hsplit : (s :: ss).flatMap (· ++ [0]) ++ 0 :: t =
        s ++ 0 :: (ss.flatMap (· ++ [0]) ++ 0 :: t) := by simp
    rw [hsplit, parseStrings, parseString_append hnul]
    obtain ⟨b, s', rfl⟩ := List.exists_cons_of_ne_nil hne
    simp only [hrest, Option.map_some]

theorem length_le_flatMap_nul (ss : List (List UInt8)) :
    ss.length ≤ (ss.flatMap (· ++ [0])).length := by
  induction ss with
  | nil => simp
  | cons s ss ih => simp only [List.flatMap_cons, List.length_append, List.length_cons]; omega

/-- A string set that does not start with a NUL is a list of strings. -/
theorem parseStringSet_cons {b : UInt8} (hb : b ≠ 0) (bs : List UInt8) :
    parseStringSet (b :: bs) = parseStrings (b :: bs).length (b :: bs) := by
  unfold parseStringSet
  split
  · rename_i heq; simp only [List.cons.injEq] at heq; exact absurd heq.1 hb
  · rename_i heq; simp only [List.cons.injEq] at heq; exact absurd heq.1 hb
  · rfl

/-- **A string set is read back from its bytes, whatever follows.** -/
theorem parseStringSet_encode {ss : List (List UInt8)} (hss : ∀ s ∈ ss, IsSetString s)
    (t : List UInt8) : parseStringSet (encodeStringSet ss ++ t) = some (ss, t) := by
  cases ss with
  | nil => rfl
  | cons s ss =>
    obtain ⟨hne, hnul⟩ := hss s (List.mem_cons_self ..)
    obtain ⟨b, s', rfl⟩ := List.exists_cons_of_ne_nil hne
    have hb : b ≠ 0 := fun e => hnul (by simp [e])
    have hbytes : encodeStringSet ((b :: s') :: ss) ++ t =
        ((b :: s') :: ss).flatMap (· ++ [0]) ++ 0 :: t := by simp [encodeStringSet]
    have hlen : ((b :: s') :: ss).length <
        (((b :: s') :: ss).flatMap (· ++ [0]) ++ 0 :: t).length := by
      have := length_le_flatMap_nul ((b :: s') :: ss)
      rw [List.length_append]
      have htail : 0 < (0 :: t).length := by simp
      omega
    have hparse := parseStrings_append hss t _ hlen
    rw [hbytes]
    simp only [List.flatMap_cons, List.cons_append] at hparse ⊢
    rw [parseStringSet_cons hb]
    exact hparse

theorem parseStrings_mono : ∀ (fuel k : Nat) (bs : List UInt8) (t : List UInt8) ss r,
    parseStrings fuel bs = some (ss, r) →
      parseStrings (fuel + k) (bs ++ t) = some (ss, r ++ t) := by
  intro fuel
  induction fuel with
  | zero => intro k bs t ss r h; simp [parseStrings] at h
  | succ fuel ih =>
    intro k bs t ss r h
    rw [Nat.add_right_comm]
    simp only [parseStrings] at h ⊢
    cases hp : parseString bs with
    | none => rw [hp] at h; simp at h
    | some q =>
      obtain ⟨s, r'⟩ := q
      rw [hp] at h
      rw [parseString_local bs s r' t hp]
      cases s with
      | nil =>
        simp only [Option.some.injEq, Prod.mk.injEq] at h ⊢
        exact ⟨h.1, by rw [h.2]⟩
      | cons b s =>
        simp only at h ⊢
        obtain ⟨⟨ss', r''⟩, hss, hpair⟩ := Option.map_eq_some_iff.mp h
        simp only [Prod.mk.injEq] at hpair
        obtain ⟨rfl, rfl⟩ := hpair
        rw [ih k r' t ss' r'' hss]
        rfl

theorem parseStringSet_local : Local parseStringSet := by
  intro bs ss r t h
  unfold parseStringSet at h
  split at h
  · simp only [Option.some.injEq, Prod.mk.injEq] at h
    obtain ⟨rfl, rfl⟩ := h
    rfl
  · cases h
  · rename_i h00 h0
    have hparse := parseStrings_mono bs.length t.length bs t ss r h
    rw [← List.length_append] at hparse
    cases bs with
    | nil => simp [parseStrings] at h
    | cons b bs =>
      have hb : b ≠ 0 := fun e => h0 bs (by rw [e])
      rw [List.cons_append] at hparse ⊢
      rw [parseStringSet_cons hb]
      exact hparse

end Records
