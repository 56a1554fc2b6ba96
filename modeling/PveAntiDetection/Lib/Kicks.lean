import Mathlib.Logic.Function.Basic
import Mathlib.Tactic.ByContra
import PveAntiDetection.Lib.Runs

/-!
# A shared value that every member caches

A writer changes the value under a lock.  Before a change that matters it asks every member to
refresh its cache, and waits for the members that may be using theirs.  A member refreshes under the
read side of the lock, and uses its cache only if it finds no request behind its announcement.
Nothing here depends on the values.

* `Protocol` — what a member caches, and which changes do not matter;
* `State`, `Event`, `step` — the members and the writer, interleaved;
* `Inv`, `inv_step` — the invariant;
* `step_output` — a member that uses its cache finds it current.
-/

set_option autoImplicit false

namespace Kicks

variable {V G L A : Type}

/-- What a member caches of the shared value `G` and of its own `L`. -/
structure Protocol (G L A : Type) where
  want : G → L → A
  /-- A change that nobody is asked about. -/
  quiet : G → G → Bool
  quiet_want : ∀ g g' l, quiet g g' = true → want g l = want g' l

/-- Where a member stands.  From `announced` to `leaving` it takes no interrupt. -/
inductive Place where
  | outside
  /-- The request is taken; the read lock is not. -/
  | waiting
  /-- The read lock is held. -/
  | reading
  | announced
  | inside
  | leaving
  deriving DecidableEq

structure Member (L A : Type) where
  place : Place := .outside
  requested : Bool := true
  own : L
  cached : A

/-- The write side. -/
inductive Writer (V G : Type) where
  | unlocked
  | locked
  /-- Members to ask, one that is asked and not looked at yet, and members that are waited for. -/
  | kicking (next : G) (todo : List V) (asked : Option V) (awaited : List V)

structure State (V G L A : Type) where
  shared : G
  members : V → Member L A
  online : List V := []
  writer : Writer V G := .unlocked

inductive Event (V G L : Type) where
  | join (v : V)
  /-- The own part changes; a request comes with it. -/
  | change (v : V) (own : L)
  | take (v : V)
  | refresh (v : V)
  | readLock (v : V)
  | store (v : V)
  | announce (v : V)
  | check (v : V)
  | look (v : V)
  | leave (v : V)
  | unmask (v : V)
  | writeLock
  | set (next : G)
  | ask
  | notice
  | ack (v : V)
  | write
  | unlock

namespace Member

variable (m : Member L A)

/-- The member may take the lock. -/
def isOutside : Bool := m.place = .outside

/-- The member has announced itself and has not left. -/
def isRunning : Bool := m.place = .announced || m.place = .inside

/-- The member takes interrupts. -/
def answers : Bool := m.place = .outside || m.place = .waiting || m.place = .reading

end Member

variable [DecidableEq V]

/-- A member goes on. -/
def State.put (s : State V G L A) (v : V) (m : Member L A) : State V G L A :=
  { s with members := Function.update s.members v m }

/-- One event; where it cannot happen, nothing happens.  A look at the cache outputs the shared
value, the own part and the cache. -/
def step (P : Protocol G L A) (s : State V G L A) :
    Event V G L → Option (G × L × A) × State V G L A
  | .join v => (none, if v ∈ s.online then s else { s with online := v :: s.online })
  | .change v own =>
    let m := s.members v
    (none, if v ∈ s.online ∧ m.isOutside then s.put v { m with own := own, requested := true }
      else s)
  | .take v =>
    let m := s.members v
    (none, if v ∈ s.online ∧ m.isOutside ∧ m.requested then
      s.put v { m with requested := false, place := .waiting } else s)
  | .refresh v =>
    let m := s.members v
    (none, if v ∈ s.online ∧ m.isOutside then s.put v { m with place := .waiting } else s)
  | .readLock v =>
    let m := s.members v
    match s.writer with
    | .unlocked => (none, if m.place = .waiting then s.put v { m with place := .reading } else s)
    | _ => (none, s)
  | .store v =>
    let m := s.members v
    (none, if m.place = .reading then
      s.put v { m with cached := P.want s.shared m.own, place := .outside } else s)
  | .announce v =>
    let m := s.members v
    (none, if v ∈ s.online ∧ m.isOutside then s.put v { m with place := .announced } else s)
  | .check v =>
    let m := s.members v
    (none, if m.place = .announced then
      s.put v { m with place := if m.requested then .outside else .inside } else s)
  | .look v =>
    let m := s.members v
    (if m.place = .inside then some (s.shared, m.own, m.cached) else none, s)
  | .leave v =>
    let m := s.members v
    (none, if m.place = .inside then s.put v { m with place := .leaving } else s)
  | .unmask v =>
    let m := s.members v
    (none, if m.place = .leaving then s.put v { m with place := .outside } else s)
  | .writeLock =>
    match s.writer with
    | .unlocked =>
      (none, if s.online.all fun v => (s.members v).place ≠ .reading then
        { s with writer := .locked } else s)
    | _ => (none, s)
  | .set next =>
    match s.writer with
    | .locked =>
      (none, if P.quiet s.shared next then { s with shared := next }
        else { s with writer := .kicking next s.online none [] })
    | _ => (none, s)
  | .ask =>
    match s.writer with
    | .kicking next (v :: todo) none awaited =>
      let s := s.put v { s.members v with requested := true }
      (none, { s with writer := .kicking next todo (some v) awaited })
    | _ => (none, s)
  | .notice =>
    match s.writer with
    | .kicking next todo (some v) awaited =>
      let awaited := if (s.members v).isRunning then v :: awaited else awaited
      (none, { s with writer := .kicking next todo none awaited })
    | _ => (none, s)
  | .ack v =>
    match s.writer with
    | .kicking next todo asked awaited =>
      (none, if (s.members v).answers then
        { s with writer := .kicking next todo asked (awaited.filter (· ≠ v)) } else s)
    | _ => (none, s)
  | .write =>
    match s.writer with
    | .kicking next [] none [] => (none, { s with shared := next, writer := .locked })
    | _ => (none, s)
  | .unlock =>
    match s.writer with
    | .locked => (none, { s with writer := .unlocked })
    | _ => (none, s)

/-! ## The invariant -/

/-- The member will refresh its cache before it uses it. -/
def Member.Due (m : Member L A) : Prop := m.requested = true ∨ m.place = .waiting

/-- What holds in every state. -/
structure Inv (P : Protocol G L A) (s : State V G L A) : Prop where
  /-- A member that is not there yet has a request and does nothing. -/
  offline : ∀ v, v ∉ s.online → (s.members v).requested = true ∧ (s.members v).place = .outside
  fresh : ∀ v, (s.members v).cached = P.want s.shared (s.members v).own ∨ (s.members v).Due ∨
    (s.members v).place = .reading
  inside : ∀ v, (s.members v).place = .inside →
    (s.members v).cached = P.want s.shared (s.members v).own
  excluded : s.writer ≠ .unlocked → ∀ v, (s.members v).place ≠ .reading
  /-- Behind its request, a member uses its cache only as long as it is waited for. -/
  kicked : ∀ next todo asked awaited, s.writer = .kicking next todo asked awaited →
    ∀ v ∈ s.online, v ∉ todo → (s.members v).Due ∧
      ((s.members v).place = .inside → v ∈ awaited ∨ asked = some v)

variable {P : Protocol G L A}

omit [DecidableEq V] in
theorem inv_init (shared : G) (own : V → L) (cached : V → A) :
    Inv P { shared := shared, members := fun v => { own := own v, cached := cached v } } := by
  refine ⟨fun _ _ => ⟨rfl, rfl⟩, fun _ => .inr (.inl (.inl rfl)), nofun, fun h => absurd rfl h,
    nofun⟩

/-- What a member does next keeps the invariant, as far as it concerns this member. -/
theorem Inv.put {s : State V G L A} (hs : Inv P s) {v : V} {m : Member L A}
    (honline : v ∈ s.online)
    (hfresh : m.cached = P.want s.shared m.own ∨ m.Due ∨ m.place = .reading)
    (hinside : m.place = .inside → m.cached = P.want s.shared m.own)
    (hexcluded : s.writer ≠ .unlocked → m.place ≠ .reading)
    (hkicked : (s.members v).Due → m.Due ∧ m.place ≠ .inside ∨
      m.Due ∧ (s.members v).place = .inside) : Inv P (s.put v m) := by
  refine ⟨fun w hw => ?_, fun w => ?_, fun w hw => ?_, fun hlock w => ?_, ?_⟩
  · have hne : w ≠ v := fun h => hw (h ▸ honline)
    simp only [State.put, Function.update_of_ne hne]
    exact hs.offline w hw
  · by_cases hwv : w = v
    · subst hwv
      simp only [State.put, Function.update_self]
      exact hfresh
    · simp only [State.put, Function.update_of_ne hwv]
      exact hs.fresh w
  · by_cases hwv : w = v
    · subst hwv
      simp only [State.put, Function.update_self] at hw ⊢
      exact hinside hw
    · simp only [State.put, Function.update_of_ne hwv] at hw ⊢
      exact hs.inside w hw
  · by_cases hwv : w = v
    · subst hwv
      simp only [State.put, Function.update_self]
      exact hexcluded hlock
    · simp only [State.put, Function.update_of_ne hwv]
      exact hs.excluded hlock w
  · intro next todo asked awaited hw w honline' htodo
    have hold := hs.kicked next todo asked awaited hw w honline' htodo
    by_cases hwv : w = v
    · subst hwv
      simp only [State.put, Function.update_self]
      rcases hkicked hold.1 with h | h
      · exact ⟨h.1, fun hin => absurd hin h.2⟩
      · exact ⟨h.1, fun _ => hold.2 h.2⟩
    · simp only [State.put, Function.update_of_ne hwv]
      exact hold

/-- **Every event keeps the invariant.** -/
theorem inv_step {s : State V G L A} (hs : Inv P s) (e : Event V G L) : Inv P (step P s e).2 := by
  obtain ⟨hoffline, hfresh, hinside, hexcluded, hkicked⟩ := id hs
  -- A member that is not outside is online.
  have honline : ∀ v, (s.members v).place ≠ .outside → v ∈ s.online :=
    fun v hv => by_contra fun h => hv (hoffline v h).2
  cases e with
  | join v =>
    simp only [step]
    split
    · exact hs
    · refine { hs with offline := ?_, kicked := ?_ } <;> grind -linarith [Member.Due]
  | look v => exact hs
  | change v own =>
    simp only [step]
    split
    · rename_i hv
      apply hs.put hv.1 <;> grind -linarith [Member.Due, Member.isOutside]
    · exact hs
  | take v =>
    simp only [step]
    split
    · rename_i hv
      apply hs.put hv.1 <;> grind -linarith [Member.Due, Member.isOutside]
    · exact hs
  | refresh v =>
    simp only [step]
    split
    · rename_i hv
      apply hs.put hv.1 <;> grind -linarith [Member.Due, Member.isOutside]
    · exact hs
  | announce v =>
    simp only [step]
    split
    · rename_i hv
      apply hs.put hv.1 <;> grind -linarith [Member.Due, Member.isOutside]
    · exact hs
  | readLock v =>
    simp only [step]
    split
    · split
      · rename_i hlock hv
        refine ⟨?_, ?_, ?_, fun h => absurd hlock h, fun _ _ _ _ h => ?_⟩
        all_goals simp only [State.put, Function.update_apply] at *
        all_goals grind -linarith
      · exact hs
    · exact hs
  | store v =>
    simp only [step]
    split
    · rename_i hv
      have hon := honline v (by rw [hv]; nofun)
      apply hs.put hon <;> grind -linarith [Member.Due]
    · exact hs
  | check v =>
    simp only [step]
    split
    · rename_i hv
      have hon := honline v (by rw [hv]; nofun)
      apply hs.put hon <;> grind -linarith [Member.Due]
    · exact hs
  | leave v =>
    simp only [step]
    split
    · rename_i hv
      have hon := honline v (by rw [hv]; nofun)
      apply hs.put hon <;> grind -linarith [Member.Due]
    · exact hs
  | unmask v =>
    simp only [step]
    split
    · rename_i hv
      have hon := honline v (by rw [hv]; nofun)
      apply hs.put hon <;> grind -linarith [Member.Due]
    · exact hs
  | writeLock =>
    simp only [step]
    split
    · split
      · rename_i hall
        refine { hs with excluded := fun _ v hv => ?_, kicked := nofun }
        have hreads := List.all_eq_true.mp hall v (honline v (by rw [hv]; nofun))
        exact absurd hv (of_decide_eq_true hreads)
      · exact hs
    · exact hs
  | set next =>
    simp only [step]
    split
    · rename_i hlock
      split
      · rename_i hquiet
        have hwant := fun l => P.quiet_want s.shared next l hquiet
        refine { hs with fresh := ?_, inside := ?_ }
        · simp only [← hwant]
          exact hfresh
        · simp only [← hwant]
          exact hinside
      · refine { hs with
          excluded := fun _ => hexcluded (by rw [hlock]; nofun)
          kicked := fun _ _ _ _ h v hv htodo => ?_ }
        cases h
        exact absurd hv htodo
    · exact hs
  | ask =>
    simp only [step]
    split
    · rename_i next v todo awaited hw
      refine ⟨?_, ?_, ?_, ?_, ?_⟩
      all_goals simp only [State.put, Function.update_apply] at *
      all_goals grind -linarith [Member.Due]
    · exact hs
  | notice =>
    simp only [step]
    split
    · rename_i next todo v awaited hw
      refine { hs with
        excluded := fun _ => hexcluded (by rw [hw]; nofun)
        kicked := fun _ _ _ _ h w hon htodo => ?_ }
      cases h
      have hold := hkicked next todo (some v) awaited hw w hon htodo
      refine ⟨hold.1, fun hin => .inl ?_⟩
      rcases hold.2 hin with hmem | hasked
      · split
        · exact List.mem_cons_of_mem _ hmem
        · exact hmem
      · obtain rfl : v = w := Option.some.inj hasked
        have hrunning : (s.members v).isRunning = true := by
          rw [Member.isRunning, hin]
          rfl
        rw [if_pos hrunning]
        exact List.mem_cons_self ..
    · exact hs
  | ack v =>
    simp only [step]
    split
    · rename_i next todo asked awaited hw
      split
      · rename_i hanswers
        refine { hs with
          excluded := fun _ => hexcluded (by rw [hw]; nofun)
          kicked := fun _ _ _ _ h w hon htodo => ?_ }
        cases h
        have hold := hkicked next todo asked awaited hw w hon htodo
        refine ⟨hold.1, fun hin => (hold.2 hin).imp_left fun hmem => ?_⟩
        -- The member that is waited for is inside, and does not answer.
        have hne : w ≠ v := by
          rintro rfl
          rw [Member.answers, hin] at hanswers
          cases hanswers
        exact List.mem_filter.mpr ⟨hmem, by simpa using hne⟩
      · exact hs
    · exact hs
  | write =>
    simp only [step]
    split
    · rename_i next hw
      have hdue := hkicked next [] none [] hw
      refine { hs with
        fresh := fun v => ?_, inside := fun v hin => ?_
        excluded := fun _ => hexcluded (by rw [hw]; nofun), kicked := nofun }
      · by_cases hv : v ∈ s.online
        · exact .inr (.inl (hdue v hv List.not_mem_nil).1)
        · exact .inr (.inl (.inl (hoffline v hv).1))
      · have hon := honline v (by rw [hin]; nofun)
        rcases (hdue v hon List.not_mem_nil).2 hin with h | h <;> cases h
    · exact hs
  | unlock =>
    simp only [step]
    split
    · exact { hs with excluded := fun h => absurd rfl h, kicked := nofun }
    · exact hs

/-- **A member that uses its cache finds it current.** -/
theorem step_output {s : State V G L A} (hs : Inv P s) (e : Event V G L) :
    ∀ r ∈ (step P s e).1, r.2.2 = P.want r.1 r.2.1 := by
  cases e with
  | look v =>
    intro r hr
    simp only [step] at hr
    split at hr
    · cases hr
      exact hs.inside v ‹_›
    · cases hr
  | readLock | writeLock | set | ask | notice | ack | write | unlock =>
    simp only [step]
    split <;> nofun
  | join | change | take | refresh | store | announce | check | leave | unmask => nofun

end Kicks
