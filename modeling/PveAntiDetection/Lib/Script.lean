import Mathlib.Logic.Basic

/-!
# Scripts: programs as lists of commands

A *script* is a list of commands, and possibly a fault raised behind the last one.  `exec step p s`
runs it over a step function that may itself fault; a fault keeps the state it was reached in.

`Simulates` relates a state-monad program to a script: started in `enter s`, the program ends in
`leave s'` if the script ends in `s'`, and faults as the script does.  The rules `Simulates.pure`,
`Simulates.seq`, `Simulates.throw` and `Simulates.ofEq` follow the program text.
-/

set_option autoImplicit false

variable {C S F T : Type}

/-- A list of commands, and the fault raised behind them, if any. -/
structure Script (C F : Type) where
  cmds : List C
  fault : Option F

namespace Script

/-- The script without commands. -/
def nil : Script C F := ⟨[], none⟩

/-- Commands that run to the end. -/
def ofList (cs : List C) : Script C F := ⟨cs, none⟩

/-- A fault raised at once. -/
def raise (f : F) : Script C F := ⟨[], some f⟩

/-- One script behind another, unless the first faults. -/
def append (p q : Script C F) : Script C F :=
  match p.fault with
  | none => ⟨p.cmds ++ q.cmds, q.fault⟩
  | some _ => p

@[simp] theorem ofList_append (cs ds : List C) :
    (ofList cs : Script C F).append (ofList ds) = ofList (cs ++ ds) := rfl

@[simp] theorem append_raise (f : F) (q : Script C F) : (raise f).append q = raise f := rfl

theorem append_assoc (p q r : Script C F) : (p.append q).append r = p.append (q.append r) := by
  obtain ⟨cs, fault⟩ := p
  cases fault with
  | none =>
    obtain ⟨ds, fault⟩ := q
    cases fault <;> simp [append]
  | some f => rfl

/-- Every command of the script satisfies `P`. -/
def All (P : C → Prop) (p : Script C F) : Prop := ∀ c ∈ p.cmds, P c

theorem All.nil {P : C → Prop} : (nil : Script C F).All P := fun c hc => by cases hc

theorem All.raise {P : C → Prop} (f : F) : (raise f : Script C F).All P := fun c hc => by cases hc

theorem All.append {P : C → Prop} {p q : Script C F} (hp : p.All P) (hq : q.All P) :
    (p.append q).All P := by
  intro c hc
  unfold Script.append at hc
  split at hc
  · rcases List.mem_append.mp hc with h | h
    · exact hp c h
    · exact hq c h
  · exact hp c hc

/-- Run commands until one faults. -/
def run (step : S → C → Except (F × S) S) : List C → S → Except (F × S) S
  | [], s => .ok s
  | c :: cs, s =>
    match step s c with
    | .error e => .error e
    | .ok s' => run step cs s'

def exec (step : S → C → Except (F × S) S) (p : Script C F) (s : S) : Except (F × S) S :=
  match run step p.cmds s with
  | .error e => .error e
  | .ok s' =>
    match p.fault with
    | none => .ok s'
    | some f => .error (f, s')

variable {step : S → C → Except (F × S) S}

theorem run_append (cs ds : List C) (s : S) :
    run step (cs ++ ds) s =
      match run step cs s with
      | .error e => .error e
      | .ok s' => run step ds s' := by
  induction cs generalizing s with
  | nil => rfl
  | cons c cs ih =>
    simp only [List.cons_append, run]
    cases step s c with
    | error e => rfl
    | ok s' => exact ih s'

/-- **Scripts compose.** -/
theorem exec_append (p q : Script C F) (s : S) :
    exec step (p.append q) s =
      match exec step p s with
      | .error e => .error e
      | .ok s' => exec step q s' := by
  obtain ⟨cs, fault⟩ := p
  cases fault with
  | none =>
    simp only [append, exec, run_append]
    cases run step cs s with
    | error e => rfl
    | ok s' => rfl
  | some f =>
    simp only [append, exec]
    cases run step cs s with
    | error e => rfl
    | ok s' => rfl

/-! ## Programs that run a script -/

/-- The program `m`, entered in `enter s`, does what the script does from `s`. -/
def Simulates (step : S → C → Except (F × S) S) (proj : T → S) (enter leave : S → T)
    (m : EStateM F T Unit) (p : Script C F) : Prop :=
  ∀ s,
    match exec step p s with
    | .ok s' => m (enter s) = .ok () (leave s')
    | .error (f, s') => ∃ t, m (enter s) = .error f t ∧ proj t = s'

variable {proj : T → S} {i j k : S → T} {m m' : EStateM F T Unit} {p q : Script C F}

theorem Simulates.pure : Simulates step proj i i (pure ()) (nil : Script C F) :=
  fun _ => rfl

theorem Simulates.seq (h : Simulates step proj i j m p) (h' : Simulates step proj j k m' q) :
    Simulates step proj i k (m >>= fun _ => m') (p.append q) := by
  intro s
  have hs := h s
  rw [exec_append]
  cases hp : exec step p s with
  | error e =>
    rw [hp] at hs
    obtain ⟨t, ht, hproj⟩ := hs
    refine ⟨t, ?_, hproj⟩
    simp only [bind, EStateM.bind, ht]
  | ok s' =>
    rw [hp] at hs
    have hrun : (m >>= fun _ => m') (i s) = m' (j s') := by
      simp only [bind, EStateM.bind, hs]
    simp only [hrun]
    exact h' s'

theorem Simulates.throw (hproj : ∀ s, proj (i s) = s) (f : F) :
    Simulates step proj i j (throw f) (raise f : Script C F) := by
  intro s
  exact ⟨i s, rfl, hproj s⟩

/-- A program that does what a simulating one does from every entry state. -/
theorem Simulates.ofEq (h : Simulates step proj i j m p) (he : ∀ s, m' (i s) = m (i s)) :
    Simulates step proj i j m' p := by
  intro s
  rw [he s]
  exact h s

end Script
