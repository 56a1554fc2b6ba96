import PveAntiDetection.Lib.Script
import PveAntiDetection.Smbios.GetTables

/-!
# One table after another

What the builders do to the build state, without the macros.

* `Build.step` — one table: `buildTable_eq` is the closed form of the shared part of the builders;
* `Build.ran` — a list of tables that runs to its end, and `faultFrom`, the fault of one that does
  not (`exec_eq`);
* `Does` — a builder does what a script of tables says (`does_buildOne`, `does_buildEach`).
-/

set_option autoImplicit false

namespace Smbios

open Script Records

/-! ## One table -/

/-- The bytes a table leaves behind the buffer. -/
def Table.out (fresh : Nat → UInt8) (off : Nat) (t : Table) : List UInt8 :=
  match t.halt with
  | none => t.encode fresh off
  | some _ => t.image fresh off

/-- The buffer behind a table. -/
def TableBuf.after (fresh : Nat → UInt8) (buf : TableBuf) (t : Table) : TableBuf :=
  match t.halt with
  | none =>
    (buf.append (t.out fresh buf.bytes.length)).count (t.out fresh buf.bytes.length).length
  | some _ => buf.append (t.out fresh buf.bytes.length)

/-- The build state behind a table, apart from `smbios_type4_count` and `*errp`. -/
def Build.after (fresh : Nat → UInt8) (b : Build) (t : Table) : Build :=
  b.push (b.buf.after fresh t) t

/-- `smbios_type4_count++` behind a complete type 4 table. -/
def Build.countType4 (b : Build) (t : Table) : Build :=
  if t.type = 4 then { b with type4Count := b.type4Count + 1 } else b

/-- One table: the state behind it, or a fault. -/
def Build.step (fresh : Nat → UInt8) (b : Build) (t : Table) : Except (Fault × Build) Build :=
  match t.halt with
  | none => .ok ((b.after fresh t).countType4 t)
  | some (.report e) =>
    match b.errp with
    | some _ => .error (.errorAlreadySet, b.after fresh t)
    | none => .ok { b.after fresh t with errp := some e }
  | some (.fault f) => .error (f, b.after fresh t)

/-- **`buildTable` in closed form.** -/
theorem buildTable_eq {h : Host} (hh : h.Contract) {ep : SmbiosEntryPointType} {req : Bool}
    {t : Table} {o : Options} (hskip : smbiosSkipTable o t.type req = false) (b : Build)
    (e : Option SmbiosEntryPoint) :
    buildTable h ep req t ⟨o, b, e⟩ =
      match t.halt with
      | none => .ok .built ⟨o, b.after (h.fresh ep) t, e⟩
      | some (.report er) =>
        match b.errp with
        | some _ => .error .errorAlreadySet ⟨o, b.after (h.fresh ep) t, e⟩
        | none => .ok .reported ⟨o, { b.after (h.fresh ep) t with errp := some er }, e⟩
      | some (.fault f) => .error f ⟨o, b.after (h.fresh ep) t, e⟩ := by
  have hpost := Table.post_eq hh.macros (h.fresh ep) t b.buf
  have hstart := Table.start_eq hh.macros (h.fresh ep) t b.buf
  unfold buildTable
  simp only [bind, EStateM.bind, get_run, hskip,
    Bool.false_eq_true, if_false]
  cases hhalt : t.halt with
  | none =>
    simp only [hpost, Build.after, TableBuf.after, Table.out, hhalt]
    rfl
  | some halt =>
    cases halt with
    | fault f =>
      simp only [hstart, Build.after, TableBuf.after, Table.out, hhalt]
      rfl
    | report er =>
      simp only [set_run, EStateM.bind, errorSetg, hstart,
        Build.after, TableBuf.after, Table.out, Build.push, hhalt]
      cases b.errp <;> rfl

theorem buildTable_skipped {h : Host} {ep : SmbiosEntryPointType} {req : Bool} {t : Table}
    {s : State} (hskip : smbiosSkipTable s.opts t.type req = true) :
    buildTable h ep req t s = .ok .skipped s := by
  unfold buildTable
  simp only [bind, EStateM.bind, get_run, hskip, if_true, pure,
    EStateM.pure]

/-! ## Builders as scripts -/

/-- A script of tables. -/
abbrev TableScript := Script Table Fault

/-- The state a builder sees: the options, the build state, the last entry point. -/
abbrev atState (o : Options) (e : Option SmbiosEntryPoint) (b : Build) : State := ⟨o, b, e⟩

/-- `m`, with the options `o` before and `o'` behind it, does what the script says. -/
def Does (fresh : Nat → UInt8) (o o' : Options) (m : SmbiosM Unit) (p : TableScript) : Prop :=
  ∀ e, Simulates (Build.step fresh) State.bld (atState o e) (atState o' e) m p

/-- The tables of one type that are built at all. -/
def Options.opt (o : Options) (type : Nat) (required : Bool) (ts : List Table) : List Table :=
  if smbiosSkipTable o type required then [] else ts

/-- The tables of a loop up to the first that does not reach POST. -/
def untilHalt : List Table → List Table
  | [] => []
  | t :: ts => if t.halt = none then t :: untilHalt ts else [t]

variable {h : Host} {ep : SmbiosEntryPointType} {o o' o'' : Options} {m m' : SmbiosM Unit}
  {p q : TableScript} {fresh : Nat → UInt8}

theorem Does.seq (hm : Does fresh o o' m p) (hm' : Does fresh o' o'' m' q) :
    Does fresh o o'' (m >>= fun _ => m') (p.append q) :=
  fun e => (hm e).seq (hm' e)

theorem Does.throw (f : Fault) : Does fresh o o' (throw f) (raise f) :=
  fun _ => Simulates.throw (fun _ => rfl) f

/-- A builder that reads the options first. -/
theorem Does.withOpts {f : Options → SmbiosM Unit} (hf : Does fresh o o' (f o) p) :
    Does fresh o o' (do f (← get).opts) p :=
  fun e => (hf e).ofEq fun _ => rfl

/-- The script of one table. -/
theorem exec_single (b : Build) (t : Table) :
    exec (Build.step fresh) (ofList [t] : TableScript) b = b.step fresh t := by
  simp only [exec, ofList, run]
  cases b.step fresh t <;> rfl

/-- **A builder of one table**, other than type 4. -/
theorem does_buildOne (hh : h.Contract) {req : Bool} {t : Table} (type : Nat) (ht : t.type = type)
    (h4 : type ≠ 4 := by decide) :
    Does (h.fresh ep) o o (buildOne h ep req t) (ofList (o.opt type req [t])) := by
  subst ht
  intro e b
  unfold Options.opt
  cases hskip : smbiosSkipTable o t.type req with
  | true =>
    have hrun : buildTable h ep req t (atState o e b) = .ok .skipped (atState o e b) :=
      buildTable_skipped hskip
    simp only [buildOne, bind, EStateM.bind, hrun, if_true, exec, ofList, run]
    rfl
  | false =>
    have hrun := @buildTable_eq h hh ep req t o hskip b e
    simp only [Bool.false_eq_true, if_false, exec_single, Build.step, Build.countType4, h4,
      buildOne, bind, EStateM.bind, hrun]
    cases t.halt with
    | none => rfl
    | some halt =>
      cases halt with
      | fault f => exact ⟨_, rfl, rfl⟩
      | report er =>
        cases b.errp with
        | none => rfl
        | some _ => exact ⟨_, rfl, rfl⟩

/-- **A loop of builders** of one type other than 4. -/
theorem does_buildEach (hh : h.Contract) {req : Bool} {type : Nat} (htype : type ≠ 4) :
    ∀ ts : List Table, (∀ t ∈ ts, t.type = type) →
      Does (h.fresh ep) o o (buildEach h ep req ts) (ofList (o.opt type req (untilHalt ts)))
  | [], _ => by
    intro e b
    simp only [buildEach, untilHalt, Options.opt, ite_self, exec, ofList, run]
    rfl
  | t :: ts, hts => by
    have htt : t.type = type := hts t (List.mem_cons_self ..)
    intro e b
    cases hskip : smbiosSkipTable o type req with
    | true =>
      have hrun : buildTable h ep req t (atState o e b) = .ok .skipped (atState o e b) :=
        buildTable_skipped (by rw [htt]; exact hskip)
      simp only [buildEach, bind, EStateM.bind, hrun, Options.opt, hskip, if_true, exec, ofList,
        run]
      rfl
    | false =>
      have hrun := @buildTable_eq h hh ep req t o (by rw [htt]; exact hskip) b e
      simp only [buildEach, bind, EStateM.bind, hrun, Options.opt, hskip, Bool.false_eq_true,
        if_false, untilHalt]
      cases hhalt : t.halt with
      | none =>
        have ih : Does (h.fresh ep) o o (buildEach h ep req ts) _ :=
          does_buildEach hh htype ts fun t' h' => hts t' (List.mem_cons_of_mem _ h')
        replace ih := ih e (b.after (h.fresh ep) t)
        simp only [Options.opt, hskip, Bool.false_eq_true, if_false] at ih
        simp only [if_true, exec, ofList, run, Build.step, hhalt, Build.countType4, htt, htype,
          if_false] at ih ⊢
        exact ih
      | some halt =>
        simp only [reduceCtorEq, if_false, exec_single, Build.step, hhalt]
        cases halt with
        | fault f => exact ⟨_, rfl, rfl⟩
        | report er =>
          cases b.errp with
          | none => rfl
          | some _ => exact ⟨_, rfl, rfl⟩

/-! ## Lists of tables -/

/-- The error a table reports. -/
def Table.report (t : Table) : Option Error :=
  match t.halt with
  | some (.report e) => some e
  | _ => none

/-- The first error that tables report. -/
def firstReport : List Table → Option Error
  | [] => none
  | t :: ts => t.report.or (firstReport ts)

/-- The fault that stops tables, with `*errp` as given before the first. -/
def faultOf : Option Error → List Table → Option Fault
  | _, [] => none
  | errp, t :: ts =>
    match t.halt with
    | none => faultOf errp ts
    | some (.report e) =>
      match errp with
      | some _ => some .errorAlreadySet
      | none => faultOf (some e) ts
    | some (.fault f) => some f

/-- The fault that stops a script. -/
def faultFrom (errp : Option Error) (p : TableScript) : Option Fault :=
  (faultOf errp p.cmds).or p.fault

/-- The build state behind a table that does not fault. -/
def Build.next (fresh : Nat → UInt8) (b : Build) (t : Table) : Build :=
  { b.after fresh t with
    type4Count := if t.halt = none ∧ t.type = 4 then b.type4Count + 1 else b.type4Count
    errp := b.errp.or t.report }

/-- The build state behind tables that do not fault. -/
def Build.ran (fresh : Nat → UInt8) (b : Build) (ts : List Table) : Build :=
  ts.foldl (Build.next fresh) b

theorem step_eq (b : Build) (t : Table) :
    match faultOf b.errp [t] with
    | none => b.step fresh t = .ok (b.next fresh t)
    | some f => ∃ b', b.step fresh t = .error (f, b') := by
  obtain ⟨buf, cnt, errp, started⟩ := b
  unfold Build.step Build.next Table.report faultOf
  cases hhalt : t.halt with
  | none =>
    simp only [faultOf, Build.countType4, Build.after, Build.push, Option.or_none, true_and]
    split <;> rfl
  | some halt =>
    cases halt with
    | fault f => exact ⟨_, rfl⟩
    | report e =>
      cases errp with
      | some e' => exact ⟨_, rfl⟩
      | none => rfl

theorem faultOf_cons (errp : Option Error) (t : Table) (ts : List Table) :
    faultOf errp (t :: ts) = (faultOf errp [t]).or (faultOf (errp.or t.report) ts) := by
  cases hhalt : t.halt with
  | none => simp [faultOf, Table.report, hhalt]
  | some halt =>
    cases halt with
    | fault f => simp [faultOf, hhalt]
    | report e => cases errp <;> simp [faultOf, Table.report, hhalt]

theorem run_eq : ∀ (ts : List Table) (b : Build),
    match faultOf b.errp ts with
    | none => run (Build.step fresh) ts b = .ok (b.ran fresh ts)
    | some f => ∃ b', run (Build.step fresh) ts b = .error (f, b')
  | [], _ => rfl
  | t :: ts, b => by
    have hstep := @step_eq fresh b t
    have ih := run_eq ts (b.next fresh t)
    rw [faultOf_cons]
    cases ht : faultOf b.errp [t] with
    | some f =>
      rw [ht] at hstep
      obtain ⟨b', hb'⟩ := hstep
      exact ⟨b', by simp only [run, hb']⟩
    | none =>
      rw [ht] at hstep
      simp only [run, hstep, Option.none_or]
      exact ih

/-- **A script runs to its end, or stops with its fault.** -/
theorem exec_eq (p : TableScript) (b : Build) :
    match faultFrom b.errp p with
    | none => exec (Build.step fresh) p b = .ok (b.ran fresh p.cmds)
    | some f => ∃ b', exec (Build.step fresh) p b = .error (f, b') := by
  have hrun := @run_eq fresh p.cmds b
  unfold faultFrom exec
  cases hf : faultOf b.errp p.cmds with
  | some f =>
    rw [hf] at hrun
    obtain ⟨b', hb'⟩ := hrun
    exact ⟨b', by simp only [hb']⟩
  | none =>
    rw [hf] at hrun
    simp only [hrun, Option.none_or]
    cases p.fault with
    | none => rfl
    | some f => exact ⟨_, rfl⟩

theorem firstReport_append (ts us : List Table) :
    firstReport (ts ++ us) = (firstReport ts).or (firstReport us) := by
  induction ts with
  | nil => rfl
  | cons t ts ih => simp only [List.cons_append, firstReport, ih, Option.or_assoc]

theorem faultOf_append (errp : Option Error) (ts us : List Table) :
    faultOf errp (ts ++ us) = (faultOf errp ts).or (faultOf (errp.or (firstReport ts)) us) := by
  induction ts generalizing errp with
  | nil => simp [faultOf, firstReport]
  | cons t ts ih =>
    rw [List.cons_append, faultOf_cons, ih, faultOf_cons errp t ts, Option.or_assoc,
      Option.or_assoc]
    rfl

theorem faultFrom_append (errp : Option Error) (p q : TableScript) :
    faultFrom errp (p.append q) =
      (faultFrom errp p).or (faultFrom (errp.or (firstReport p.cmds)) q) := by
  obtain ⟨cmds, fault⟩ := p
  cases fault with
  | none => simp only [append, faultFrom, faultOf_append, Option.or_assoc, Option.none_or]
  | some f => simp only [append, faultFrom, Option.or_assoc, Option.some_or]

/-- Tables that all reach POST neither fault nor report. -/
theorem faultOf_complete {ts : List Table} (hts : ∀ t ∈ ts, t.halt = none) (errp : Option Error) :
    faultOf errp ts = none := by
  induction ts with
  | nil => rfl
  | cons t ts ih =>
    rw [faultOf, hts t (List.mem_cons_self ..)]
    exact ih fun t' h' => hts t' (List.mem_cons_of_mem _ h')

theorem firstReport_complete {ts : List Table} (hts : ∀ t ∈ ts, t.report = none) :
    firstReport ts = none := by
  induction ts with
  | nil => rfl
  | cons t ts ih =>
    rw [firstReport, hts t (List.mem_cons_self ..), Option.none_or]
    exact ih fun t' h' => hts t' (List.mem_cons_of_mem _ h')

/-! ## What a run leaves -/

/-- The bytes tables leave behind a buffer of `off` bytes. -/
def blobOf (fresh : Nat → UInt8) : Nat → List Table → List UInt8
  | _, [] => []
  | off, t :: ts => t.out fresh off ++ blobOf fresh (off + (t.out fresh off).length) ts

/-- The number of bytes a table leaves. -/
def Table.outLength (t : Table) : Nat :=
  match t.halt with
  | none => t.len + (encodeStringSet t.strings).length
  | some _ => t.len + (t.strings.flatMap (· ++ [0])).length

theorem Table.length_out (fresh : Nat → UInt8) (off : Nat) (t : Table) :
    (t.out fresh off).length = t.outLength := by
  unfold Table.out Table.outLength
  cases t.halt <;> simp [Table.encode, Table.image]

theorem length_blobOf (fresh : Nat → UInt8) (ts : List Table) (off : Nat) :
    (blobOf fresh off ts).length = (ts.map Table.outLength).sum := by
  induction ts generalizing off with
  | nil => rfl
  | cons t ts ih =>
    simp only [blobOf, List.length_append, Table.length_out, ih, List.map_cons, List.sum_cons]

theorem blobOf_append (fresh : Nat → UInt8) (ts us : List Table) (off : Nat) :
    blobOf fresh off (ts ++ us) =
      blobOf fresh off ts ++ blobOf fresh (off + (blobOf fresh off ts).length) us := by
  induction ts generalizing off with
  | nil => rfl
  | cons t ts ih =>
    simp only [List.cons_append, blobOf, ih, List.append_assoc, List.length_append, Nat.add_assoc]

/-- A complete table of type 4. -/
def Table.isType4 (t : Table) : Bool := t.halt = none && t.type = 4

theorem TableBuf.after_bytes (buf : TableBuf) (t : Table) :
    (buf.after fresh t).bytes = buf.bytes ++ t.out fresh buf.bytes.length := by
  unfold TableBuf.after
  cases t.halt <;> rfl

/-- A table that reaches POST is appended with its terminator. -/
theorem Build.after_bytes {t : Table} (hhalt : t.halt = none) (fresh : Nat → UInt8) (b : Build) :
    (b.after fresh t).buf.bytes = b.buf.bytes ++ t.encode fresh b.buf.bytes.length := by
  simp only [Build.after, Build.push, TableBuf.after_bytes, Table.out, hhalt]

theorem ran_append (b : Build) (ts us : List Table) :
    b.ran fresh (ts ++ us) = (b.ran fresh ts).ran fresh us := List.foldl_append

theorem ran_started (b : Build) (ts : List Table) :
    (b.ran fresh ts).started = b.started ++ ts := by
  induction ts generalizing b with
  | nil => simp [Build.ran]
  | cons t ts ih =>
    have := ih (b.next fresh t)
    simp only [Build.ran, List.foldl_cons] at this ⊢
    rw [this]
    simp [Build.next, Build.after, Build.push]

theorem ran_errp (b : Build) (ts : List Table) :
    (b.ran fresh ts).errp = b.errp.or (firstReport ts) := by
  induction ts generalizing b with
  | nil => simp [Build.ran, firstReport]
  | cons t ts ih =>
    have := ih (b.next fresh t)
    simp only [Build.ran, List.foldl_cons] at this ⊢
    rw [this]
    simp [Build.next, firstReport, Option.or_assoc]

theorem ran_type4Count (b : Build) (ts : List Table) :
    (b.ran fresh ts).type4Count = b.type4Count + ts.countP Table.isType4 := by
  induction ts generalizing b with
  | nil => simp [Build.ran]
  | cons t ts ih =>
    have := ih (b.next fresh t)
    simp only [Build.ran, List.foldl_cons] at this ⊢
    rw [this, List.countP_cons]
    simp only [Build.next, Table.isType4, Bool.and_eq_true, decide_eq_true_eq]
    split <;> omega

theorem ran_bytes (b : Build) (ts : List Table) :
    (b.ran fresh ts).buf.bytes = b.buf.bytes ++ blobOf fresh b.buf.bytes.length ts := by
  induction ts generalizing b with
  | nil => simp [Build.ran, blobOf]
  | cons t ts ih =>
    have := ih (b.next fresh t)
    have hnext : (b.next fresh t).buf.bytes = b.buf.bytes ++ t.out fresh b.buf.bytes.length :=
      TableBuf.after_bytes b.buf t
    simp only [Build.ran, List.foldl_cons] at this ⊢
    rw [this, hnext, List.append_assoc, List.length_append, blobOf]

end Smbios
