import Mathlib.Data.List.Basic

/-!
# Runs of a machine with outputs

A machine is a step function from a state and an event to an output and the next state.  Nothing
here depends on what the states and the events are.

* `final` — the state after a list of events; `final_induct` is its invariant rule;
* `final_simulation` — two machines that take the same events side by side;
* `outputs` — the outputs of the events that an observer owns;
* `Each` — a condition on an event and on the state before it, met by every step of a run;
* `outputs_forall` — the invariant rule for the outputs;
* `history` — what the steps of a run have noted; `final_history_induct` is the invariant rule for
  states that must agree with it, `explained` the one for an abstract machine that takes the notes;
* `last` — the last value that the events give; `final_last` is the rule for a variable that each
  event overwrites or leaves alone;
* `outputs_purge` — the unwinding rule: where the steps of the others keep the observer's view,
  the observer's outputs are those of the run with the events of the others deleted;
* `Follows`, `outputs_purge_iff` — the exact form: when these outputs are the same;
* `outputs_pairwise_iff` — when the outputs of a run form a chain;
* `history_pairwise` — what is noted forms a chain if it stays above a floor that only rises.
-/

set_option autoImplicit false

namespace Runs

variable {S E O : Type}

/-- The state after the events, in order. -/
def final (step : S → E → O × S) (s : S) (es : List E) : S :=
  es.foldl (fun s e => (step s e).2) s

/-- The outputs of the events that satisfy `own`, in order. -/
def outputs (step : S → E → O × S) (own : E → Bool) : S → List E → List O
  | _, [] => []
  | s, e :: es =>
    if own e then (step s e).1 :: outputs step own (step s e).2 es
    else outputs step own (step s e).2 es

/-- Every step of the run meets `P` in the state it starts from. -/
def Each (step : S → E → O × S) (P : S → E → Prop) : S → List E → Prop
  | _, [] => True
  | s, e :: es => P s e ∧ Each step P (step s e).2 es

variable {step : S → E → O × S} {own : E → Bool}

instance decidableEach {P : S → E → Prop} [∀ s e, Decidable (P s e)] :
    ∀ (s : S) (es : List E), Decidable (Each step P s es)
  | _, [] => inferInstanceAs (Decidable True)
  | s, e :: es =>
    have := decidableEach (P := P) (step s e).2 es
    inferInstanceAs (Decidable (P s e ∧ Each step P (step s e).2 es))

@[simp] theorem final_nil (s : S) : final step s [] = s := rfl

@[simp] theorem final_cons (s : S) (e : E) (es : List E) :
    final step s (e :: es) = final step (step s e).2 es := rfl

theorem final_append (es es' : List E) (s : S) :
    final step s (es ++ es') = final step (final step s es) es' := List.foldl_append

/-! ## Invariants -/

/-- What the first state satisfies and every step keeps holds after every run. -/
theorem final_induct {I : S → Prop} (hstep : ∀ s e, I s → I (step s e).2) :
    ∀ (es : List E) {s : S}, I s → I (final step s es)
  | [], _, hs => hs
  | e :: es, _, hs => final_induct hstep es (hstep _ e hs)

/-- The same under a condition that every step of the run meets. -/
theorem final_induct_each {I : S → Prop} {P : S → E → Prop}
    (hstep : ∀ s e, P s e → I s → I (step s e).2) :
    ∀ (es : List E) {s : S}, Each step P s es → I s → I (final step s es)
  | [], _, _, hs => hs
  | e :: es, _, hP, hs => final_induct_each hstep es hP.2 (hstep _ e hP.1 hs)

/-- **Simulation**: a relation between the states of two machines that every event keeps. -/
theorem final_simulation {T O' : Type} {step' : T → E → O' × T} {R : S → T → Prop}
    {P : S → E → Prop} (hstep : ∀ s t e, P s e → R s t → R (step s e).2 (step' t e).2) :
    ∀ (es : List E) {s : S} {t : T}, Each step P s es → R s t →
      R (final step s es) (final step' t es)
  | [], _, _, _, hR => hR
  | e :: es, _, _, hP, hR => final_simulation hstep es hP.2 (hstep _ _ e hP.1 hR)

/-- A condition that holds of every step. -/
theorem each_of_forall {P : S → E → Prop} (h : ∀ s e, P s e) :
    ∀ (es : List E) (s : S), Each step P s es
  | [], _ => trivial
  | e :: es, s => ⟨h s e, each_of_forall h es _⟩

theorem each_mono {P Q : S → E → Prop} (h : ∀ s e, P s e → Q s e) :
    ∀ {es : List E} {s : S}, Each step P s es → Each step Q s es
  | [], _, _ => trivial
  | _ :: _, _, hP => ⟨h _ _ hP.1, each_mono h hP.2⟩

theorem each_of_mem {P : S → E → Prop} :
    ∀ (es : List E) (s : S), (∀ e ∈ es, ∀ s, P s e) → Each step P s es
  | [], _, _ => trivial
  | e :: es, s, h =>
    ⟨h e (List.mem_cons_self ..) s,
      each_of_mem es _ fun e' he' => h e' (List.mem_cons_of_mem _ he')⟩

/-- A run that goes through `es` and then `es'` meets `P` on both parts. -/
theorem each_append {P : S → E → Prop} :
    ∀ (es es' : List E) (s : S), Each step P s (es ++ es') ↔
      Each step P s es ∧ Each step P (final step s es) es'
  | [], es', s => by simp [Each]
  | e :: es, es', s => by
    show P s e ∧ Each step P (step s e).2 (es ++ es') ↔ _
    rw [each_append es es' (step s e).2, ← and_assoc]
    exact Iff.rfl

/-- Under an invariant, a condition on the steps may be exchanged for another. -/
theorem each_congr {I : S → Prop} {P Q : S → E → Prop} (hstep : ∀ s e, I s → I (step s e).2)
    (hiff : ∀ s e, I s → (P s e ↔ Q s e)) :
    ∀ (es : List E) {s : S}, I s → (Each step P s es ↔ Each step Q s es)
  | [], _, _ => Iff.rfl
  | e :: es, s, hs => and_congr (hiff s e hs) (each_congr hstep hiff es (hstep s e hs))

/-- The same for runs whose steps all meet a third one. -/
theorem each_congr_each {I : S → Prop} {V P Q : S → E → Prop}
    (hstep : ∀ s e, V s e → I s → I (step s e).2)
    (hiff : ∀ s e, V s e → I s → (P s e ↔ Q s e)) :
    ∀ (es : List E) {s : S}, Each step V s es → I s → (Each step P s es ↔ Each step Q s es)
  | [], _, _, _ => Iff.rfl
  | e :: es, s, hV, hs =>
    and_congr (hiff s e hV.1 hs) (each_congr_each hstep hiff es hV.2 (hstep s e hV.1 hs))

theorem each_and {P Q : S → E → Prop} : ∀ {es : List E} {s : S},
    Each step (fun s e => P s e ∧ Q s e) s es ↔ Each step P s es ∧ Each step Q s es
  | [], _ => (and_self_iff (a := True)).symm
  | e :: es, s => by
    have ih : Each step (fun s e => P s e ∧ Q s e) (step s e).2 es ↔ _ := each_and
    simp only [Each, ih]
    exact and_and_and_comm

/-- A condition on the steps may use an invariant. -/
theorem each_and_of_induct {I : S → Prop} {P : S → E → Prop}
    (hstep : ∀ s e, P s e → I s → I (step s e).2) :
    ∀ (es : List E) {s : S}, Each step P s es → I s → Each step (fun s e => P s e ∧ I s) s es
  | [], _, _, _ => trivial
  | e :: es, s, hP, hs =>
    ⟨⟨hP.1, hs⟩, each_and_of_induct hstep es hP.2 (hstep s e hP.1 hs)⟩

/-- **What every step outputs under an invariant**, every output of the run is. -/
theorem outputs_forall {I : S → Prop} {P : S → E → Prop} {Q : O → Prop}
    (hstep : ∀ s e, P s e → I s → I (step s e).2) (hout : ∀ s e, P s e → I s → Q (step s e).1) :
    ∀ (es : List E) {s : S}, Each step P s es → I s → ∀ o ∈ outputs step own s es, Q o
  | [], _, _, _ => by simp [outputs]
  | e :: es, s, hP, hs => by
    have ih := outputs_forall hstep hout es hP.2 (hstep s e hP.1 hs)
    intro o ho
    unfold outputs at ho
    split at ho
    · rcases List.mem_cons.mp ho with rfl | ho
      · exact hout s e hP.1 hs
      · exact ih o ho
    · exact ih o ho

/-! ## Histories -/

section Histories

variable {α : Type} (step) (note : S → E → List α)

/-- What the steps of a run note, in order. -/
def history : S → List E → List α
  | _, [] => []
  | s, e :: es => note s e ++ history (step s e).2 es

variable {step note}

theorem history_append : ∀ (es es' : List E) (s : S),
    history step note s (es ++ es') =
      history step note s es ++ history step note (final step s es) es'
  | [], _, _ => rfl
  | e :: es, es', s => by
    rw [List.cons_append, history, history, history_append es es', List.append_assoc, final_cons]

/-- **The invariant rule for states and what has been noted before them**, under a condition that
every step of the run meets. -/
theorem final_history_induct_each {I : S → List α → Prop} {P : S → E → Prop}
    (hstep : ∀ s xs e, P s e → I s xs → I (step s e).2 (xs ++ note s e)) :
    ∀ (es : List E) {s : S} {xs : List α}, Each step P s es → I s xs →
      I (final step s es) (xs ++ history step note s es)
  | [], s, xs, _, hs => by
    rw [history, List.append_nil]
    exact hs
  | e :: es, s, xs, hP, hs => by
    have ih := final_history_induct_each hstep es hP.2 (hstep s xs e hP.1 hs)
    rw [List.append_assoc] at ih
    exact ih

/-- The same without a condition. -/
theorem final_history_induct {I : S → List α → Prop}
    (hstep : ∀ s xs e, I s xs → I (step s e).2 (xs ++ note s e)) (es : List E) {s : S}
    {xs : List α} (hs : I s xs) : I (final step s es) (xs ++ history step note s es) :=
  final_history_induct_each (fun s xs e _ => hstep s xs e) es
    (each_of_forall (fun _ _ => trivial) es s) hs

/-- **Refinement by what is noted**: where an abstract machine takes the notes of every step, it takes
those of every run, and the invariant relates what both end in. -/
theorem explained {A : Type} {explain : A → α → Option A} {I : S → A → Prop} {P : S → E → Prop}
    (hstep : ∀ s a e, P s e → I s a →
      ∃ a', (note s e).foldlM explain a = some a' ∧ I (step s e).2 a')
    (es : List E) {s : S} {a : A} (hes : Each step P s es) (hs : I s a) :
    ∃ a', (history step note s es).foldlM explain a = some a' ∧ I (final step s es) a' := by
  have hrun : ∃ a', ([] ++ history step note s es).foldlM explain a = some a' ∧
      I (final step s es) a' :=
    final_history_induct_each (I := fun s xs => ∃ a', xs.foldlM explain a = some a' ∧ I s a')
      (fun s xs e he ⟨a₁, hxs, hs⟩ => by
        obtain ⟨a₂, hnote, hs'⟩ := hstep s a₁ e he hs
        exact ⟨a₂, by rw [List.foldlM_append, hxs]; exact hnote, hs'⟩)
      es hes ⟨a, rfl, hs⟩
  rw [List.nil_append] at hrun
  exact hrun

/-- **What is noted forms a chain**, if every step notes a chain between the floor before it and the
floor behind it. -/
theorem history_pairwise {P : S → E → Prop} {r : α → α → Prop}
    (htrans : ∀ a b c : α, r a b → r b c → r a c) (floor : S → α)
    (hstep : ∀ s e, P s e → (floor s :: (note s e ++ [floor (step s e).2])).Pairwise r) :
    ∀ (es : List E) {s : S}, Each step P s es → (floor s :: history step note s es).Pairwise r
  | [], s, _ => List.pairwise_singleton r (floor s)
  | e :: es, s, hP => by
    have hchain := hstep s e hP.1
    have hrest := history_pairwise htrans floor hstep es hP.2
    rw [← List.cons_append, List.pairwise_append] at hchain
    rw [List.pairwise_cons] at hrest
    rw [history, ← List.cons_append, List.pairwise_append]
    refine ⟨hchain.1, hrest.2, ?_⟩
    intro a ha b hb
    exact htrans _ _ _ (hchain.2.2 a ha _ (List.mem_singleton_self _)) (hrest.1 b hb)

end Histories

/-! ## Variables that events overwrite -/

section Overwriting

variable {α β : Type}

/-- The last value that the events give. -/
def last (f : E → Option α) (es : List E) : Option α := es.reverse.findSome? f

theorem last_cons (f : E → Option α) (e : E) (es : List E) :
    last f (e :: es) = (last f es).or (f e) := by
  simp [last, List.findSome?_append]

/-- **A variable that every event overwrites with the value it gives, if it gives one.** -/
theorem final_last {P : S → E → Prop} (get : S → α) {f : E → Option α}
    (hstep : ∀ s e, P s e → get (step s e).2 = (f e).getD (get s)) :
    ∀ (es : List E) {s : S}, Each step P s es → get (final step s es) = (last f es).getD (get s)
  | [], _, _ => rfl
  | e :: es, s, hP => by
    have ih := final_last get hstep es hP.2
    rw [final_cons, ih, hstep s e hP.1, last_cons]
    cases last f es <;> rfl

/-- **A property that events bring about, break or keep** holds if the last one that does not keep
it brings it about. -/
theorem final_of_last {P : S → E → Prop} {U : S → Prop} {f : E → Option Bool}
    (hset : ∀ s e, P s e → f e = some true → U (step s e).2)
    (hkeep : ∀ s e, P s e → f e = none → U s → U (step s e).2) :
    ∀ (es : List E) {s : S} {b : Bool}, Each step P s es → (b = true → U s) →
      (last f es).getD b = true → U (final step s es)
  | [], _, _, _, hs, h => hs h
  | e :: es, s, b, hP, hs, h => by
    rw [last_cons] at h
    refine final_of_last hset hkeep es (b := (f e).getD b) hP.2 (fun hb => ?_) ?_
    · cases hf : f e with
      | none =>
        rw [hf] at hb
        exact hkeep s e hP.1 hf (hs hb)
      | some v =>
        rw [hf] at hb
        exact hset s e hP.1 (hf.trans (congrArg some hb))
    · cases hl : last f es with
      | none =>
        rw [hl, Option.none_or] at h
        exact h
      | some v =>
        rw [hl] at h
        exact h

/-- A flag that the last event does not clear stays set. -/
theorem last_getD_true {f : E → Option Bool} {es : List E} (h : last f es ≠ some false) :
    (last f es).getD true = true := by
  cases hl : last f es with
  | none => rfl
  | some b =>
    cases b with
    | true => rfl
    | false => exact absurd hl h

/-- Events that give nothing. -/
theorem last_eq_none_iff {f : E → Option α} {es : List E} :
    last f es = none ↔ ∀ e ∈ es, f e = none := by
  simp [last, List.findSome?_eq_none_iff]

theorem last_map (f : E → Option α) (g : α → β) (es : List E) :
    last (fun e => (f e).map g) es = (last f es).map g := by
  induction es with
  | nil => rfl
  | cons e es ih =>
    rw [last_cons, last_cons, ih]
    cases last f es <;> rfl

theorem last_comp {E' : Type} (f : E' → Option α) (g : E → E') (es : List E) :
    last f (es.map g) = last (fun e => f (g e)) es := by
  simp only [last, ← List.map_reverse, List.findSome?_map]
  rfl

/-- A flag that is cleared by fewer events, and decided by more. -/
theorem last_ne_false {f g : E → Option Bool} (hfalse : ∀ e, f e = some false → g e = some false)
    (hnone : ∀ e, f e = none → g e = none) :
    ∀ {es : List E}, last g es ≠ some false → last f es ≠ some false
  | [], _ => fun h => nomatch h
  | e :: es, hg => by
    rw [last_cons] at hg ⊢
    cases hf : last f es with
    | some b =>
      rw [Option.some_or, ← hf]
      refine last_ne_false hfalse hnone fun h => hg ?_
      rw [h, Option.some_or]
    | none =>
      have hnone' : last g es = none :=
        last_eq_none_iff.mpr fun e he => hnone e (last_eq_none_iff.mp hf e he)
      rw [Option.none_or]
      rw [hnone', Option.none_or] at hg
      exact fun h => hg (hfalse e h)

/-- Events that give nothing give nothing more. -/
theorem last_bind_none {f : E → Option α} {g : α → Option β} {es : List E}
    (h : last f es = none) : last (fun e => (f e).bind g) es = none := by
  rw [last_eq_none_iff] at h ⊢
  intro e he
  rw [h e he]
  rfl

/-- What the last event gives is the last that is given. -/
theorem last_bind_some {f : E → Option α} {g : α → Option β} {es : List E} {a : α} {b : β}
    (h : last f es = some a) (hg : g a = some b) : last (fun e => (f e).bind g) es = some b := by
  induction es with
  | nil => cases h
  | cons e es ih =>
    rw [last_cons] at h ⊢
    cases hes : last f es with
    | some a' =>
      rw [hes, Option.some_or] at h
      rw [ih (hes.trans h), Option.some_or]
    | none =>
      rw [hes, Option.none_or] at h
      rw [last_bind_none hes, Option.none_or, h]
      exact hg

end Overwriting

/-! ## Deleting the events of others -/

/-- **Unwinding**: `R` relates the states that look the same to the observer. -/
theorem outputs_purge {R : S → S → Prop} {P : S → E → Prop}
    (hown : ∀ s t e, own e = true → R s t →
      (step s e).1 = (step t e).1 ∧ R (step s e).2 (step t e).2)
    (hother : ∀ s t e, own e = false → P s e → R s t → R (step s e).2 t) :
    ∀ (es : List E) {s t : S}, R s t → Each step (fun s e => own e = false → P s e) s es →
      outputs step own s es = outputs step own t (es.filter own) ∧
        R (final step s es) (final step t (es.filter own))
  | [], _, _, hR, _ => ⟨rfl, hR⟩
  | e :: es, s, t, hR, hP => by
    cases he : own e with
    | true =>
      have hstep := hown s t e he hR
      have ih := outputs_purge hown hother es hstep.2 hP.2
      rw [List.filter_cons_of_pos he]
      refine ⟨?_, ih.2⟩
      simp only [outputs, he, if_true]
      rw [hstep.1, ih.1]
    | false =>
      have ih := outputs_purge hown hother es (hother s t e he (hP.1 he) hR) hP.2
      rw [List.filter_cons_of_neg (by simp [he])]
      refine ⟨?_, ih.2⟩
      simp only [outputs, he, Bool.false_eq_true, if_false]
      exact ih.1

section Exact

variable {G : Type}

/-- The observer's events meet `P`, a condition on what the notes `G` say of the events so far. -/
def Follows (own : E → Bool) (P : G → E → Prop) (next : G → E → G) : G → List E → Prop
  | _, [] => True
  | g, e :: es => (own e = true → P g e) ∧ Follows own P next (next g e) es

/-- **Unwinding, both ways**: under the valid events `V`, the observer's outputs do not change when
the events of the others are deleted, exactly when its events meet the condition on which their
outputs do not. -/
theorem outputs_purge_iff {R : G → S → S → Prop} {P : G → E → Prop} {next : G → E → G}
    {V : S → E → Prop}
    (hown : ∀ g s t e, own e = true → V s e → R g s t →
      ((step s e).1 = (step t e).1 ↔ P g e) ∧
        (P g e → R (next g e) (step s e).2 (step t e).2))
    (hother : ∀ g s t e, own e = false → V s e → R g s t → R (next g e) (step s e).2 t) :
    ∀ (es : List E) {g : G} {s t : S}, R g s t → Each step V s es →
      (outputs step own s es = outputs step own t (es.filter own) ↔ Follows own P next g es)
  | [], _, _, _, _, _ => iff_of_true rfl trivial
  | e :: es, g, s, t, hR, hV => by
    cases he : own e with
    | true =>
      obtain ⟨hout, hnext⟩ := hown g s t e he hV.1 hR
      rw [List.filter_cons_of_pos he]
      simp only [outputs, he, if_true, List.cons.injEq, Follows, forall_const, hout]
      exact and_congr_right fun hP => outputs_purge_iff hown hother es (hnext hP) hV.2
    | false =>
      have ih := outputs_purge_iff hown hother es (hother g s t e he hV.1 hR) hV.2
      rw [List.filter_cons_of_neg (by simp [he])]
      simp only [outputs, he, Bool.false_eq_true, if_false, Follows, false_implies, true_and]
      exact ih

end Exact

/-! ## Outputs that form a chain -/

section Chains

variable {α : Type} {r : α → α → Prop} (out : S → E → α × S) (last : S → α)

/-- **The outputs of a run form a chain exactly when every step goes up from what the state keeps
of the step before it.** -/
theorem outputs_pairwise_iff (htrans : ∀ a b c : α, r a b → r b c → r a c)
    (hlast : ∀ s e, last (out s e).2 = (out s e).1) :
    ∀ (es : List E) (s : S),
      (last s :: outputs out (fun _ => true) s es).Pairwise r ↔
        Each out (fun s e => r (last s) (out s e).1) s es
  | [], s => by simp [outputs, Each]
  | e :: es, s => by
    have ih := outputs_pairwise_iff htrans hlast es (out s e).2
    rw [hlast] at ih
    simp only [outputs, if_true, Each]
    constructor
    · intro h
      rw [List.pairwise_cons] at h
      exact ⟨h.1 _ (List.mem_cons_self ..), ih.mp h.2⟩
    · rintro ⟨hle, hes⟩
      have hchain := ih.mpr hes
      refine List.pairwise_cons.mpr ⟨?_, hchain⟩
      intro x hx
      rcases List.mem_cons.mp hx with rfl | hx
      · exact hle
      · exact htrans _ _ _ hle ((List.pairwise_cons.mp hchain).1 x hx)

end Chains

end Runs
