import PveAntiDetection.Lib.Runs

/-!
# Requests that a policy decides

Keys are asked for or not, and a policy says which requests are granted.  What was granted is kept,
so it goes out of date when the policy is replaced, until the request is made again.

* `State`, `Change`, `step` — the machine;
* `final_asked` — what is asked for is the last request;
* `final_upToDate` — a key is up to date if it was asked for or refreshed behind the last
  replacement of the policy;
* `final_not_granted` — what was never asked for is never granted.
-/

set_option autoImplicit false

namespace Grants

variable {K P : Type}

/-- A policy, the requests, and what was granted. -/
structure State (K P : Type) where
  policy : P
  asked : K → Bool
  granted : K → Bool

/-- What changes them. -/
inductive Change (K P : Type) where
  | replace (policy : P)
  /-- Requests, where there is a value. -/
  | ask (request : K → Option Bool)
  /-- The requests that are covered are made again. -/
  | refresh (covered : K → Bool)

/-- What a change says of a request. -/
def Change.request (k : K) : Change K P → Option Bool
  | .ask f => f k
  | _ => none

/-- Whether a key is up to date behind a change, if the change decides it. -/
def Change.fresh (k : K) : Change K P → Option Bool
  | .replace _ => some false
  | .ask f => (f k).map fun _ => true
  | .refresh covered => if covered k then some true else none

variable (allowed : P → K → Bool)

/-- The policy decides a request. -/
def decided (s : State K P) (k : K) : Bool := s.asked k && allowed s.policy k

/-- What was granted is what the policy grants now. -/
def UpToDate (s : State K P) (k : K) : Prop := s.granted k = decided allowed s k

/-- One change. -/
def step (s : State K P) : Change K P → Unit × State K P
  | .replace p => ((), { s with policy := p })
  | .ask f => ((), { s with
      asked := fun k => (f k).getD (s.asked k)
      granted := fun k => ((f k).map fun v => v && allowed s.policy k).getD (s.granted k) })
  | .refresh covered => ((), { s with
      granted := fun k => if covered k then decided allowed s k else s.granted k })

variable {allowed}

theorem step_asked (s : State K P) (c : Change K P) (k : K) :
    (step allowed s c).2.asked k = (c.request k).getD (s.asked k) := by
  cases c <;> rfl

/-- A change that decides a key brings it up to date. -/
theorem step_upToDate_of_fresh {s : State K P} {k : K} {c : Change K P}
    (h : c.fresh k = some true) : UpToDate allowed (step allowed s c).2 k := by
  cases c with
  | replace p => cases h
  | ask f =>
    cases hf : f k with
    | none => simp [Change.fresh, hf] at h
    | some v => simp [UpToDate, decided, step, hf]
  | refresh covered =>
    cases hc : covered k with
    | false => simp [Change.fresh, hc] at h
    | true => simp [UpToDate, decided, step, hc]

/-- A change that does not decide a key leaves it up to date. -/
theorem step_upToDate_of_not_fresh {s : State K P} {k : K} {c : Change K P}
    (h : c.fresh k = none) (hs : UpToDate allowed s k) :
    UpToDate allowed (step allowed s c).2 k := by
  cases c with
  | replace p => cases h
  | ask f =>
    have hf : f k = none := Option.map_eq_none_iff.mp h
    simp only [UpToDate, decided, step, hf, Option.map_none, Option.getD_none] at hs ⊢
    exact hs
  | refresh covered =>
    cases hc : covered k with
    | false =>
      simp only [UpToDate, decided, step, hc, Bool.false_eq_true, if_false] at hs ⊢
      exact hs
    | true => simp [Change.fresh, hc] at h

/-- **What is asked for** is the last request. -/
theorem final_asked (cs : List (Change K P)) (s : State K P) (k : K) :
    (Runs.final (step allowed) s cs).asked k =
      (Runs.last (Change.request k) cs).getD (s.asked k) :=
  Runs.final_last (P := fun _ _ => True) (fun s => s.asked k)
    (fun s c _ => step_asked s c k) cs (Runs.each_of_forall (fun _ _ => trivial) cs s)

/-- **A key is up to date** if the last change that decides it brought it up to date. -/
theorem final_upToDate {k : K} (cs : List (Change K P)) {s : State K P}
    (hs : UpToDate allowed s k) (hfresh : Runs.last (Change.fresh k) cs ≠ some false) :
    UpToDate allowed (Runs.final (step allowed) s cs) k :=
  Runs.final_of_last (P := fun _ _ => True) (U := fun s => UpToDate allowed s k)
    (fun _ _ _ => step_upToDate_of_fresh) (fun _ _ _ => step_upToDate_of_not_fresh) cs
    (Runs.each_of_forall (fun _ _ => trivial) cs s) (fun _ => hs) (Runs.last_getD_true hfresh)

/-- **What was never asked for** is never granted. -/
theorem final_not_granted {k : K} : ∀ (cs : List (Change K P)) {s : State K P},
    Runs.last (Change.request k) cs = none → s.asked k = false → s.granted k = false →
    (Runs.final (step allowed) s cs).granted k = false
  | [], _, _, _, hgranted => hgranted
  | c :: cs, s, h, hasked, hgranted => by
    rw [Runs.last_cons, Option.or_eq_none_iff] at h
    refine final_not_granted cs h.1 ?_ ?_
    · rw [step_asked, h.2, Option.getD_none, hasked]
    · cases c with
      | replace p => exact hgranted
      | ask f =>
        have hf : f k = none := h.2
        simp only [step, hf, Option.map_none, Option.getD_none, hgranted]
      | refresh covered =>
        simp only [step, decided, hasked, hgranted, Bool.false_and, ite_self]

end Grants
