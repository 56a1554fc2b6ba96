import Mathlib.Data.List.Basic

/-!
# Generations of a group

Members of a group carry the number of the generation they joined last and a copy of its data.
The group counts, beside the member that opened the current generation, the members that have
joined it.  Nothing here depends on what the data is.

* `Group.add`, `Group.advance`, `Group.join` — a new member, a member that opens a generation, a
  member that joins the current one;
* `Sound` — the count is exact, and the members of the current generation carry its data;
* `all_current` — a full count says that every member is up to date.
-/

set_option autoImplicit false

namespace Generations

/-- A group whose generations have data in `D`. -/
structure Group (D : Type) where
  current : Nat
  data : D
  matched : Nat
  members : List (Nat × D)

variable {D : Type}

/-- A member that is in no generation yet. -/
def Group.add (g : Group D) (d₀ : D) : Group D :=
  { g with members := g.members ++ [(0, d₀)] }

/-- Member `i` opens a generation with the data `d`. -/
def Group.advance (g : Group D) (i : Nat) (d : D) : Group D where
  current := g.current + 1
  data := d
  matched := 0
  members := g.members.set i (g.current + 1, d)

/-- Member `i` joins the current generation, and is counted unless it is in it already. -/
def Group.join (g : Group D) (i : Nat) : Group D :=
  { g with
    matched := if g.members[i]?.map Prod.fst = some g.current then g.matched else g.matched + 1
    members := g.members.set i (g.current, g.data) }

/-- How many members are in generation `n`. -/
def tagged (members : List (Nat × D)) (n : Nat) : Nat := members.countP fun m => m.1 == n

/-- What holds of a group whose members start with the data `d₀`. -/
structure Sound (d₀ : D) (g : Group D) : Prop where
  start : g.current = 0 → g.data = d₀
  tag_le : ∀ m ∈ g.members, m.1 ≤ g.current
  data_eq : ∀ m ∈ g.members, m.1 = g.current → m.2 = g.data
  count : g.current ≠ 0 → g.matched + 1 = tagged g.members g.current

/-! ## Counting -/

theorem tagged_add (members : List (Nat × D)) (d : D) {n : Nat} (hn : n ≠ 0) :
    tagged (members ++ [(0, d)]) n = tagged members n := by
  have hzero : ¬ 0 = n := fun h => hn h.symm
  simp [tagged, hzero]

theorem tagged_set {members : List (Nat × D)} {i : Nat} (hi : i < members.length) (n : Nat)
    (d : D) : tagged (members.set i (n, d)) n =
      if members[i].1 = n then tagged members n else tagged members n + 1 := by
  have hcount := List.countP_set (p := fun m => m.1 == n) (a := (n, d)) hi
  simp only [BEq.rfl, if_true, beq_iff_eq] at hcount
  rw [tagged, tagged, hcount]
  split
  · rename_i htag
    have hpos : 0 < members.countP fun m => m.1 == n :=
      List.countP_pos_iff.mpr ⟨members[i], List.getElem_mem hi, beq_iff_eq.mpr htag⟩
    omega
  · rfl

theorem tagged_eq_zero {members : List (Nat × D)} {n : Nat} (h : ∀ m ∈ members, m.1 < n) :
    tagged members n = 0 := by
  refine List.countP_eq_zero.mpr ?_
  intro m hm htag
  exact absurd (h m hm) (by rw [beq_iff_eq.mp htag]; exact Nat.lt_irrefl n)

/-! ## Soundness -/

variable {d₀ : D} {g : Group D}

theorem sound_add (hg : Sound d₀ g) : Sound d₀ (g.add d₀) where
  start := hg.start
  tag_le := by
    intro m hm
    rcases List.mem_append.mp hm with hm | hm
    · exact hg.tag_le m hm
    · rw [List.mem_singleton.mp hm]
      exact Nat.zero_le _
  data_eq := by
    intro m hm htag
    rcases List.mem_append.mp hm with hm | hm
    · exact hg.data_eq m hm htag
    · rw [List.mem_singleton.mp hm] at htag ⊢
      exact (hg.start htag.symm).symm
  count := by
    intro (hcurrent : g.current ≠ 0)
    show g.matched + 1 = tagged (g.members ++ [(0, d₀)]) g.current
    rw [tagged_add g.members d₀ hcurrent]
    exact hg.count hcurrent

theorem sound_advance (hg : Sound d₀ g) {i : Nat} (hi : i < g.members.length) (d : D) :
    Sound d₀ (g.advance i d) where
  start := fun h => absurd h (Nat.succ_ne_zero _)
  tag_le := by
    intro m hm
    rcases List.mem_or_eq_of_mem_set hm with hm | rfl
    · exact Nat.le_succ_of_le (hg.tag_le m hm)
    · exact Nat.le_refl _
  data_eq := by
    intro m hm htag
    rcases List.mem_or_eq_of_mem_set hm with hm | rfl
    · have hle := hg.tag_le m hm
      exact absurd (htag ▸ hle) (Nat.not_succ_le_self _)
    · rfl
  count := by
    intro _
    have hold : ∀ m ∈ g.members, m.1 < g.current + 1 :=
      fun m hm => Nat.lt_succ_of_le (hg.tag_le m hm)
    have hnew : g.members[i].1 ≠ g.current + 1 := Nat.ne_of_lt (hold _ (List.getElem_mem hi))
    show 0 + 1 = tagged (g.members.set i (g.current + 1, d)) (g.current + 1)
    rw [tagged_set hi, tagged_eq_zero hold, if_neg hnew]

theorem sound_join (hg : Sound d₀ g) {i : Nat} (hi : i < g.members.length)
    (hcurrent : g.current ≠ 0) : Sound d₀ (g.join i) where
  start := hg.start
  tag_le := by
    intro m hm
    rcases List.mem_or_eq_of_mem_set hm with hm | rfl
    · exact hg.tag_le m hm
    · exact Nat.le_refl _
  data_eq := by
    intro m hm htag
    rcases List.mem_or_eq_of_mem_set hm with hm | rfl
    · exact hg.data_eq m hm htag
    · rfl
  count := by
    intro _
    show (g.join i).matched + 1 = tagged (g.members.set i (g.current, g.data)) g.current
    rw [tagged_set hi, ← hg.count hcurrent]
    simp only [Group.join, List.getElem?_eq_getElem hi, Option.map_some, Option.some.injEq]
    split
    · rfl
    · rfl

/-- **A full count**: every member is in the current generation and carries its data. -/
theorem all_current (hg : Sound d₀ g) (hfull : g.matched + 1 = g.members.length) :
    ∀ m ∈ g.members, m = (g.current, g.data) := by
  intro m hm
  have htag : m.1 = g.current := by
    by_cases hcurrent : g.current = 0
    · have := hg.tag_le m hm
      omega
    · have hall : tagged g.members g.current = g.members.length := by
        rw [← hg.count hcurrent, hfull]
      exact beq_iff_eq.mp (List.countP_eq_length.mp hall m hm)
  exact Prod.ext htag (hg.data_eq m hm htag)

end Generations
