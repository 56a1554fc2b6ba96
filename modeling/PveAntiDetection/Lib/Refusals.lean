import PveAntiDetection.Lib.Runs

/-!
# Updates that may be refused

An update returns a code and a state, and any code but zero refuses it.

* `Clean` — a refused update leaves the state it found; `clean_ite` and `Clean.propagate` are the
  rules for checks and for calls that may be refused themselves;
* `clean_refused_iff` — an update that is refused late is clean only if it wrote what was there;
* `accepted`, `final_accepted` — the refused updates of a run may be deleted.
-/

set_option autoImplicit false

namespace Refusals

variable {S E : Type}

/-- An update that is refused has no effect on `s`. -/
def Clean (s : S) (r : Int × S) : Prop := r.1 ≠ 0 → r.2 = s

@[simp] theorem clean_refuse (s : S) (code : Int) : Clean s (code, s) := fun _ => rfl

@[simp] theorem clean_done (s t : S) : Clean s (0, t) := fun h => absurd rfl h

@[simp] theorem clean_ite (s : S) {c : Prop} [Decidable c] (a b : Int × S) :
    Clean s (if c then a else b) ↔ (c → Clean s a) ∧ (¬ c → Clean s b) := by
  by_cases hc : c
  · simp [hc]
  · simp [hc]

/-- A caller that returns behind a refused call, with its own code. -/
theorem Clean.propagate {s : S} {r : Int × S} (hr : Clean s r) {code : Int} {t : S} :
    Clean s (if r.1 ≠ 0 then (code, r.2) else (0, t)) := by
  rw [clean_ite]
  refine ⟨fun hrefused => ?_, fun _ => clean_done s t⟩
  rw [hr hrefused]
  exact clean_refuse s code

theorem clean_refused_iff {s t : S} {code : Int} (hcode : code ≠ 0) :
    Clean s (code, t) ↔ t = s :=
  ⟨fun h => h hcode, fun h _ => h⟩

/-- The events of a run that are not refused. -/
def accepted (step : S → E → Int × S) : S → List E → List E
  | _, [] => []
  | s, e :: es =>
    if (step s e).1 = 0 then e :: accepted step (step s e).2 es
    else accepted step (step s e).2 es

/-- **The refused updates of a run may be deleted**, if each of them is clean. -/
theorem final_accepted {step : S → E → Int × S} :
    ∀ (es : List E) (s : S), Runs.Each step (fun s e => Clean s (step s e)) s es →
      Runs.final step s (accepted step s es) = Runs.final step s es
  | [], _, _ => rfl
  | e :: es, s, hclean => by
    rw [accepted, Runs.final_cons]
    split
    · rw [Runs.final_cons]
      exact final_accepted es _ hclean.2
    · rename_i hrefused
      have ih := final_accepted es _ hclean.2
      rw [hclean.1 hrefused] at ih ⊢
      exact ih

end Refusals
