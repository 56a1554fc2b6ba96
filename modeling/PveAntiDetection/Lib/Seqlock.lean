import Mathlib.Algebra.GroupWithZero.Divisibility
import Mathlib.Algebra.Ring.Nat
import Mathlib.Tactic.ByContra
import PveAntiDetection.Lib.Runs

/-!
# Sequence locks

One publisher updates a record in memory with single stores, and one reader loads it, with a version
that is odd while the record is being updated.  Nothing here depends on what is in the memory.

* `Protocol` — the version, what it guards, and the stores of an update;
* `State`, `Event`, `step` — the publisher and the reader, interleaved store by store and load by
  load;
* `Before`, `Inside` — what is left of an update in front of its opening store and behind it;
* `Guards` — the discipline of the publisher: every update opens and closes its record;
* `accepted_completed` — what the reader accepts is what one completed update has left.
-/

set_option autoImplicit false

namespace Seqlock

variable {w : Nat} {U M Store L B : Type}

/-- A record in a memory `M`, with updates `U`. -/
structure Protocol (w : Nat) (U M Store L B : Type) where
  version : M → BitVec w
  load : M → L → B
  /-- The locations that the version guards. -/
  guarded : L → Prop
  apply : Store → M → M
  /-- The stores of an update, in program order. -/
  stores : U → M → List Store

/-- The memory, the publisher and the reader.  `last` and `older` are what the completed updates
have left, and at the end the initial content. -/
structure State (w : Nat) (M Store L B : Type) where
  mem : M
  pending : List Store := []
  last : M
  older : List M := []
  updates : Nat := 0
  /-- The version that the reader has loaded first. -/
  first : Option (BitVec w) := none
  loaded : List (L × B) := []

/-- One step of the publisher or of the reader. -/
inductive Event (U L : Type) where
  | publish (u : U)
  | store
  | loadVersion
  | load (l : L)

/-- Before the first update. -/
def State.init (m : M) : State w M Store L B := { mem := m, last := m }

/-- What has been published so far. -/
def State.completed (s : State w M Store L B) : List M := s.last :: s.older

/-- The record is being updated. -/
def isOdd (v : BitVec w) : Bool := v.toNat % 2 = 1

/-- The version of a record that is being updated, from the one before. -/
def opening (v : BitVec w) : BitVec w := if isOdd v then v + 1 + 1 else v + 1

variable (P : Protocol w U M Store L B)

/-- One event.  The reader accepts what it has loaded if the version is even and has not changed. -/
def step (s : State w M Store L B) : Event U L → Option (List (L × B)) × State w M Store L B
  | .publish u =>
    match s.pending with
    | [] => (none, { s with pending := P.stores u s.mem, updates := s.updates + 1 })
    | _ :: _ => (none, s)
  | .store =>
    match s.pending with
    | [] => (none, s)
    | [st] =>
      let mem := P.apply st s.mem
      (none, { s with mem := mem, pending := [], last := mem, older := s.last :: s.older })
    | st :: pending => (none, { s with mem := P.apply st s.mem, pending := pending })
  | .loadVersion =>
    match s.first with
    | none => (none, { s with first := some (P.version s.mem), loaded := [] })
    | some v =>
      (if P.version s.mem = v ∧ ¬ isOdd v then some s.loaded else none,
        { s with first := none, loaded := [] })
  | .load l => (none, { s with loaded := s.loaded ++ [(l, P.load s.mem l)] })

/-- What a list of stores leaves. -/
def applyAll (sts : List Store) (m : M) : M := sts.foldl (fun m st => P.apply st m) m

/-! ## The discipline of the publisher -/

/-- The rest of an update whose opening store is done. -/
def Inside (odd : BitVec w) : M → List Store → Prop
  | _, [] => False
  | m, [st] => P.version m = odd ∧ P.version (P.apply st m) = odd + 1
  | m, st :: st' :: rest => P.version m = odd ∧ Inside odd (P.apply st m) (st' :: rest)

/-- The memory is as before the update as far as the version guards it. -/
structure Agrees (m₀ m : M) : Prop where
  version : P.version m = P.version m₀
  guarded : ∀ l, P.guarded l → P.load m l = P.load m₀ l

/-- The rest of an update whose opening store is to come. -/
def Before (m₀ : M) : M → List Store → Prop
  | _, [] => False
  | m, st :: rest =>
    Agrees P m₀ m ∧ (Before m₀ (P.apply st m) rest ∨
      Inside P (opening (P.version m₀)) (P.apply st m) rest)

/-- Every update opens the record, stores, and closes it, or does nothing. -/
def Guards : Prop := ∀ u m, P.stores u m = [] ∨ Before P m m (P.stores u m)

variable {P}

theorem Agrees.refl (m : M) : Agrees P m m := ⟨rfl, fun _ _ => rfl⟩

/-- Stores that keep the odd version, and the closing one. -/
theorem inside_append {odd : BitVec w} {closing : Store} :
    ∀ {sts : List Store} {m : M}, P.version m = odd →
      (∀ st ∈ sts, ∀ m, P.version m = odd → P.version (P.apply st m) = odd) →
      (∀ m, P.version (P.apply closing m) = odd + 1) → Inside P odd m (sts ++ [closing])
  | [], m, hm, _, hclosing => ⟨hm, hclosing m⟩
  | [st], m, hm, hkeep, hclosing =>
    ⟨hm, hkeep st (List.mem_cons_self ..) m hm, hclosing _⟩
  | st :: st' :: sts, m, hm, hkeep, hclosing =>
    have hrest := fun s (hs : s ∈ st' :: sts) => hkeep s (List.mem_cons_of_mem _ hs)
    ⟨hm, inside_append (hkeep st (List.mem_cons_self ..) m hm) hrest hclosing⟩

/-- An update that starts with its opening store. -/
theorem before_opening {m : M} {st : Store} {rest : List Store}
    (h : Inside P (opening (P.version m)) (P.apply st m) rest) : Before P m m (st :: rest) :=
  ⟨Agrees.refl m, .inr h⟩

/-- Another store in front of it, which the version does not guard. -/
theorem before_cons {m : M} {st st' : Store} {rest : List Store}
    (hagrees : Agrees P m (P.apply st m))
    (h : Inside P (opening (P.version m)) (P.apply st' (P.apply st m)) rest) :
    Before P m m (st :: st' :: rest) :=
  ⟨Agrees.refl m, .inl ⟨hagrees, .inr h⟩⟩

/-! ## Counting versions -/

theorem isOdd_ofNat (hw : 0 < w) (c : Nat) : isOdd (BitVec.ofNat w c) = true ↔ c % 2 = 1 := by
  have hdvd : 2 ∣ 2 ^ w := dvd_pow_self 2 (Nat.pos_iff_ne_zero.mp hw)
  rw [isOdd, BitVec.toNat_ofNat, Nat.mod_mod_of_dvd c hdvd, decide_eq_true_eq]

/-- The next version, without the bound of `w` bits. -/
theorem opening_ofNat (hw : 0 < w) (c : Nat) :
    opening (BitVec.ofNat w c) = BitVec.ofNat w (c + 1 + c % 2) := by
  unfold opening
  split
  · rename_i h
    rw [(isOdd_ofNat hw c).mp h, BitVec.ofNat_add, BitVec.ofNat_add]
    rfl
  · rename_i h
    rw [isOdd_ofNat hw] at h
    have hc : c % 2 = 0 := by omega
    rw [hc, Nat.add_zero, BitVec.ofNat_add]
    rfl

theorem isOdd_opening (hw : 0 < w) (c : Nat) : isOdd (opening (BitVec.ofNat w c)) = true := by
  rw [opening_ofNat hw, isOdd_ofNat hw]
  omega

/-! ## The invariant -/

/-- The record is not being updated: it is what the last completed update has left. -/
def Calm (P : Protocol w U M Store L B) (s : State w M Store L B) : Prop :=
  (s.pending = [] ∧ s.mem = s.last) ∨ Before P s.last s.mem s.pending

/-- The record is being updated. -/
def Updating (P : Protocol w U M Store L B) (s : State w M Store L B) : Prop :=
  Inside P (opening (P.version s.last)) s.mem s.pending

/-- The last completed update has version `c`, counted from `c₀` on. -/
structure Counts (P : Protocol w U M Store L B) (c₀ c : Nat) (s : State w M Store L B) :
    Prop where
  version : P.version s.last = BitVec.ofNat w c
  ge : c₀ ≤ c
  odd : c % 2 = 1 → c = c₀
  le : c + (if s.pending = [] then 0 else 2) ≤ c₀ + 1 + 2 * s.updates

/-- What the reader has loaded behind an even version is of the update with that version, unless
another one has got in between. -/
def Reads (P : Protocol w U M Store L B) (c₀ c : Nat) (s : State w M Store L B) : Prop :=
  ∀ v, s.first = some v → ¬ isOdd v → ∃ cv, v = BitVec.ofNat w cv ∧ c₀ ≤ cv ∧ cv ≤ c ∧
    (cv = c → Updating P s ∨ ∀ p ∈ s.loaded, P.guarded p.1 → p.2 = P.load s.last p.1)

/-- The invariant of the publisher and the reader. -/
structure Inv (P : Protocol w U M Store L B) (c₀ : Nat) (s : State w M Store L B) : Prop where
  phase : Calm P s ∨ Updating P s
  counted : ∃ c, Counts P c₀ c s ∧ Reads P c₀ c s

theorem Calm.agrees {s : State w M Store L B} (h : Calm P s) : Agrees P s.last s.mem := by
  rcases h with ⟨-, hmem⟩ | hbefore
  · rw [hmem]
    exact Agrees.refl _
  · cases hpending : s.pending with
    | nil =>
      rw [hpending] at hbefore
      exact hbefore.elim
    | cons st rest =>
      rw [hpending] at hbefore
      exact hbefore.1

theorem Updating.version {s : State w M Store L B} (h : Updating P s) :
    P.version s.mem = opening (P.version s.last) := by
  unfold Updating at h
  cases hpending : s.pending with
  | nil =>
    rw [hpending] at h
    exact h.elim
  | cons st rest =>
    rw [hpending] at h
    cases rest with
    | nil => exact h.1
    | cons st' rest => exact h.1

theorem inv_init (m : M) : Inv P (P.version m).toNat (State.init m) := by
  refine ⟨.inl (.inl ⟨rfl, rfl⟩), (P.version m).toNat, ⟨?_, Nat.le_refl _, fun _ => rfl, ?_⟩, ?_⟩
  · simp [State.init]
  · simp [State.init]
  · intro v hv
    cases hv

/-! ### One event -/

section Step

variable {c₀ : Nat} {s : State w M Store L B}

/-- An update begins. -/
theorem inv_publish (hguards : Guards P) (u : U) (hs : Inv P c₀ s) :
    Inv P c₀ (step P s (.publish u)).2 := by
  unfold step
  dsimp only
  split
  · rename_i hpending
    have hcalm : s.mem = s.last := by
      rcases hs.phase with (⟨-, hmem⟩ | hbefore) | hinside
      · exact hmem
      · rw [hpending] at hbefore
        exact hbefore.elim
      · rw [Updating, hpending] at hinside
        exact hinside.elim
    obtain ⟨c, hcounts, hreads⟩ := hs.counted
    have hle := hcounts.le
    rw [if_pos hpending] at hle
    refine ⟨.inl ?_, c, ⟨hcounts.version, hcounts.ge, hcounts.odd, ?_⟩, ?_⟩
    · rcases hguards u s.mem with hnil | hbefore
      · exact .inl ⟨hnil, hcalm⟩
      · refine .inr ?_
        rw [← hcalm]
        exact hbefore
    · show c + (if P.stores u s.mem = [] then 0 else 2) ≤ c₀ + 1 + 2 * (s.updates + 1)
      split <;> omega
    · intro v hv hodd
      obtain ⟨cv, hcv, hge, hlecv, hloaded⟩ := hreads v hv hodd
      refine ⟨cv, hcv, hge, hlecv, fun heq => .inr ?_⟩
      refine (hloaded heq).resolve_left fun hinside => ?_
      rw [Updating, hpending] at hinside
      exact hinside
  · exact hs

/-- The last store closes the record. -/
theorem inv_store_last (hw : 0 < w) (hs : Inv P c₀ s) {st : Store} (hpending : s.pending = [st]) :
    Inv P c₀ { s with
      mem := P.apply st s.mem
      pending := []
      last := P.apply st s.mem
      older := s.last :: s.older } := by
  obtain ⟨c, hcounts, hreads⟩ := hs.counted
  have hinside : P.version s.mem = opening (P.version s.last) ∧
      P.version (P.apply st s.mem) = opening (P.version s.last) + 1 := by
    rcases hs.phase with (⟨hnil, -⟩ | hbefore) | hinside
    · rw [hpending] at hnil
      cases hnil
    · rw [hpending] at hbefore
      rcases hbefore.2 with h | h
      · exact h.elim
      · exact h.elim
    · rw [Updating, hpending] at hinside
      exact hinside
  have hle := hcounts.le
  rw [hpending, if_neg (List.cons_ne_nil _ _)] at hle
  have hparity := Nat.mod_two_eq_zero_or_one c
  have hodd := hcounts.odd
  have hge := hcounts.ge
  refine ⟨.inl (.inl ⟨rfl, rfl⟩), c + 1 + c % 2 + 1, ⟨?_, by omega, by omega, ?_⟩, ?_⟩
  · show P.version (P.apply st s.mem) = _
    rw [hinside.2, hcounts.version, opening_ofNat hw, BitVec.ofNat_add (c + 1 + c % 2)]
    rfl
  · show c + 1 + c % 2 + 1 + 0 ≤ c₀ + 1 + 2 * s.updates
    omega
  · intro v hv hv'
    obtain ⟨cv, hcv, hgecv, hlecv, -⟩ := hreads v hv hv'
    exact ⟨cv, hcv, hgecv, by omega, fun heq => by omega⟩

/-- A store with more to come. -/
theorem inv_store_more (hs : Inv P c₀ s) {st : Store} {rest : List Store}
    (hpending : s.pending = st :: rest) (hrest : rest ≠ []) :
    Inv P c₀ { s with mem := P.apply st s.mem, pending := rest } := by
  obtain ⟨c, hcounts, hreads⟩ := hs.counted
  have hphase : Before P s.last (P.apply st s.mem) rest ∨
      Inside P (opening (P.version s.last)) (P.apply st s.mem) rest := by
    rcases hs.phase with (⟨hnil, -⟩ | hbefore) | hinside
    · rw [hpending] at hnil
      cases hnil
    · rw [hpending] at hbefore
      exact hbefore.2
    · rw [Updating, hpending] at hinside
      cases rest with
      | nil => exact absurd rfl hrest
      | cons st' rest => exact .inr hinside.2
  refine ⟨hphase.imp .inr id, c, ⟨hcounts.version, hcounts.ge, hcounts.odd, ?_⟩, ?_⟩
  · have hle := hcounts.le
    rw [hpending, if_neg (List.cons_ne_nil _ _)] at hle
    show c + (if rest = [] then 0 else 2) ≤ _
    rw [if_neg hrest]
    exact hle
  · intro v hv hodd
    obtain ⟨cv, hcv, hge, hlecv, hloaded⟩ := hreads v hv hodd
    refine ⟨cv, hcv, hge, hlecv, fun heq => ?_⟩
    rcases hloaded heq with hinside | hagrees
    · refine .inl ?_
      rw [Updating, hpending] at hinside
      cases rest with
      | nil => exact absurd rfl hrest
      | cons st' rest => exact hinside.2
    · exact .inr hagrees

/-- The publisher stores. -/
theorem inv_store (hw : 0 < w) (hs : Inv P c₀ s) : Inv P c₀ (step P s .store).2 := by
  unfold step
  dsimp only
  split
  · exact hs
  · rename_i st hpending
    exact inv_store_last hw hs hpending
  · rename_i st rest hne hpending
    exact inv_store_more hs hpending hne

/-- The reader loads the version. -/
theorem inv_loadVersion (hw : 0 < w) (hs : Inv P c₀ s) :
    Inv P c₀ (step P s .loadVersion).2 := by
  obtain ⟨c, hcounts, hreads⟩ := hs.counted
  unfold step
  dsimp only
  split
  · refine ⟨hs.phase, c, ⟨hcounts.version, hcounts.ge, hcounts.odd, hcounts.le⟩, ?_⟩
    intro v hv hodd
    cases hv
    rcases hs.phase with hcalm | hinside
    · refine ⟨c, ?_, hcounts.ge, Nat.le_refl c, fun _ => .inr nofun⟩
      rw [hcalm.agrees.version, hcounts.version]
    · rw [hinside.version, hcounts.version] at hodd
      exact absurd (isOdd_opening hw c) hodd
  · exact ⟨hs.phase, c, ⟨hcounts.version, hcounts.ge, hcounts.odd, hcounts.le⟩, nofun⟩

/-- The reader loads something else. -/
theorem inv_load (l : L) (hs : Inv P c₀ s) : Inv P c₀ (step P s (.load l)).2 := by
  obtain ⟨c, hcounts, hreads⟩ := hs.counted
  refine ⟨hs.phase, c, ⟨hcounts.version, hcounts.ge, hcounts.odd, hcounts.le⟩, ?_⟩
  intro v hv hodd
  obtain ⟨cv, hcv, hge, hlecv, hloaded⟩ := hreads v hv hodd
  refine ⟨cv, hcv, hge, hlecv, fun heq => ?_⟩
  rcases hs.phase with hcalm | hinside
  · rcases hloaded heq with hinside | hagrees
    · exact .inl hinside
    · refine .inr fun p hp hguarded => ?_
      rcases List.mem_append.mp hp with hp | hp
      · exact hagrees p hp hguarded
      · cases List.mem_singleton.mp hp
        exact hcalm.agrees.guarded l hguarded
  · exact .inl hinside

theorem inv_step (hw : 0 < w) (hguards : Guards P) (e : Event U L) (hs : Inv P c₀ s) :
    Inv P c₀ (step P s e).2 := by
  cases e with
  | publish u => exact inv_publish hguards u hs
  | store => exact inv_store hw hs
  | loadVersion => exact inv_loadVersion hw hs
  | load l => exact inv_load l hs

/-- What is accepted is of the last completed update. -/
theorem accepted_last (hw : 0 < w) (hs : Inv P c₀ s) (hfew : s.updates < 2 ^ (w - 1))
    {loaded : List (L × B)} (haccepted : (step P s .loadVersion).1 = some loaded) :
    ∀ p ∈ loaded, P.guarded p.1 → p.2 = P.load s.last p.1 := by
  obtain ⟨c, hcounts, hreads⟩ := hs.counted
  unfold step at haccepted
  dsimp only at haccepted
  split at haccepted
  · cases haccepted
  · rename_i v hfirst
    rw [Option.ite_none_right_eq_some] at haccepted
    obtain ⟨⟨hversion, hodd⟩, heq⟩ := haccepted
    cases heq
    obtain ⟨cv, hcv, hge, hlecv, hloaded⟩ := hreads v hfirst hodd
    have hnot : ¬ Updating P s := by
      intro hinside
      rw [hinside.version, hcounts.version] at hversion
      exact hodd (hversion ▸ isOdd_opening hw c)
    have hcalm := hs.phase.resolve_right hnot
    -- fewer than 2^w versions lie between the two loads
    have hcount : cv = c := by
      have hpow : 2 ^ w = 2 * 2 ^ (w - 1) := by
        rw [← Nat.pow_succ', Nat.succ_eq_add_one, Nat.sub_add_cancel hw]
      have hle := hcounts.le
      have hmod : c % 2 ^ w = cv % 2 ^ w := by
        have heq := hcalm.agrees.version.symm.trans (hversion.trans hcv)
        rw [hcounts.version] at heq
        have hnat := congrArg BitVec.toNat heq
        rw [BitVec.toNat_ofNat, BitVec.toNat_ofNat] at hnat
        exact hnat
      have hdiff : (c - cv) % 2 ^ w = 0 := Nat.sub_mod_eq_zero_of_mod_eq hmod
      rw [Nat.mod_eq_of_lt (by omega)] at hdiff
      omega
    exact (hloaded hcount).resolve_left hnot

end Step

/-! ### Where the completed contents come from -/

section Completed

variable {V : U → Prop} {m₀ : M} {s : State w M Store L B}

/-- A content that an update has left, or the initial one. -/
def Published (P : Protocol w U M Store L B) (V : U → Prop) (m₀ : M)
    (s : State w M Store L B) (m : M) : Prop :=
  m = m₀ ∨ ∃ u, V u ∧ ∃ m₁ ∈ s.completed, m = applyAll P (P.stores u m₁) m₁

/-- What is pending is the rest of an update. -/
structure Publishes (P : Protocol w U M Store L B) (V : U → Prop) (m₀ : M)
    (s : State w M Store L B) : Prop where
  idle : s.pending = [] → s.mem = s.last
  running : s.pending ≠ [] → ∃ u, V u ∧
    applyAll P s.pending s.mem = applyAll P (P.stores u s.last) s.last
  completed : ∀ m ∈ s.completed, Published P V m₀ s m

theorem Published.mono {s' : State w M Store L B} {m : M} (h : Published P V m₀ s m)
    (hsub : ∀ m ∈ s.completed, m ∈ s'.completed) : Published P V m₀ s' m := by
  rcases h with rfl | ⟨u, hu, m₁, hm₁, heq⟩
  · exact .inl rfl
  · exact .inr ⟨u, hu, m₁, hsub m₁ hm₁, heq⟩

theorem publishes_step {e : Event U L} (he : ∀ u, e = .publish u → V u)
    (hs : Publishes P V m₀ s) : Publishes P V m₀ (step P s e).2 := by
  cases e with
  | publish u =>
    unfold step
    dsimp only
    split
    · rename_i hpending
      have hidle := hs.idle hpending
      refine ⟨fun _ => hidle, fun _ => ⟨u, he u rfl, ?_⟩, hs.completed⟩
      show applyAll P (P.stores u s.mem) s.mem = _
      rw [hidle]
    · exact hs
  | store =>
    unfold step
    dsimp only
    split
    · exact hs
    · rename_i st hpending
      obtain ⟨u, hu, hrun⟩ := hs.running (by rw [hpending]; exact List.cons_ne_nil _ _)
      rw [hpending] at hrun
      refine ⟨fun _ => rfl, fun h => absurd rfl h, ?_⟩
      intro m hm
      have hsub : ∀ m ∈ s.completed, m ∈ P.apply st s.mem :: s.completed :=
        fun m hm => List.mem_cons_of_mem _ hm
      rcases List.mem_cons.mp hm with rfl | hm
      · exact .inr ⟨u, hu, s.last, hsub _ (List.mem_cons_self ..), hrun⟩
      · exact (hs.completed m hm).mono hsub
    · rename_i st rest hne hpending
      obtain ⟨u, hu, hrun⟩ := hs.running (by rw [hpending]; exact List.cons_ne_nil _ _)
      rw [hpending] at hrun
      exact ⟨fun h => absurd h hne, fun _ => ⟨u, hu, hrun⟩, hs.completed⟩
  | loadVersion =>
    unfold step
    dsimp only
    split
    · exact ⟨hs.idle, hs.running, hs.completed⟩
    · exact ⟨hs.idle, hs.running, hs.completed⟩
  | load l => exact ⟨hs.idle, hs.running, hs.completed⟩

/-- Every completed content is what one of the updates has left of the one before it. -/
theorem completed_published (m : M) (es : List (Event U L)) :
    ∀ m' ∈ (Runs.final (step P) (State.init m) es).completed,
      Published P (fun u => .publish u ∈ es) m (Runs.final (step P) (State.init m) es) m' := by
  have hrun : Runs.Each (step P) (fun _ e => ∀ u, e = .publish u → Event.publish u ∈ es)
      (State.init m) es := Runs.each_of_mem es _ fun e he _ u heq => heq ▸ he
  have hinit : Publishes P (fun u => Event.publish u ∈ es) m (State.init m) := by
    refine ⟨fun _ => rfl, fun h => absurd rfl h, fun m' hm' => .inl ?_⟩
    exact List.mem_singleton.mp hm'
  exact (Runs.final_induct_each (fun s e he => publishes_step he) es hrun hinit).completed

end Completed

/-- **What the reader accepts is what one completed update has left**, or the initial content, in
every interleaving with fewer updates than the version can count. -/
theorem accepted_completed (hw : 0 < w) (hguards : Guards P) (m : M) (es : List (Event U L))
    (hfew : (Runs.final (step P) (State.init m) es).updates < 2 ^ (w - 1)) {loaded : List (L × B)}
    (haccepted : (step P (Runs.final (step P) (State.init m) es) .loadVersion).1 = some loaded) :
    ∃ m', Published P (fun u => .publish u ∈ es) m (Runs.final (step P) (State.init m) es) m' ∧
      ∀ p ∈ loaded, P.guarded p.1 → p.2 = P.load m' p.1 := by
  have hs := Runs.final_induct (fun s e => inv_step hw hguards e) es (inv_init (P := P) m)
  exact ⟨_, completed_published m es _ (List.mem_cons_self ..),
    accepted_last hw hs hfew haccepted⟩

end Seqlock
