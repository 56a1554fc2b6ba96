import PveAntiDetection.Smbios.UserBlobs

/-!
# Repeated entries of one type

What a sequence of accepted `-smbios` entries and `smbios_set_defaults` leave in the fields of the
single-instance types.  `save_opt` keeps the earlier value where an entry does not name an option;
`qemu_opt_get_number` and `qemu_opt_get_bool` put the default in its place.

* `StringField`, `NumberField` — the fields, with the options that name them;
* `stringField_final`, `numberField_final` — what a run leaves in them;
* `merged_iff` — when every field holds what the last entry that names it says;
* `speedReset` — two entries behind which one does not.
-/

set_option autoImplicit false

namespace Smbios

open Runs

variable {Q : Type} {qo : QemuOption Q}

/-! ## Accepted entries -/

/-- The type whose fields an entry sets. -/
def Entry.type? (qo : QemuOption Q) (e : Entry Q) : Option Nat :=
  match qo.qemuOptGet e.opts "file" with
  | some _ => none
  | none => (qo.qemuOptGet e.opts "type").map strtoul

/-- The value of an option in the entries of a type. -/
def Entry.given (qo : QemuOption Q) (type : Nat) (name : String) (e : Entry Q) : CharPtr :=
  if e.type? qo = some type then qo.qemuOptGet e.opts name else none

/-- The assignments of a type. -/
inductive Saves (qo : QemuOption Q) (e : Entry Q) : Nat → (Options → Options × Option Error) → Prop
  | type0 : Saves qo e 0 (saveType0 qo e.opts)
  | type1 : Saves qo e 1 (saveType1 qo e.opts)
  | type2 : Saves qo e 2 (saveType2 qo e.opts)
  | type3 : Saves qo e 3 (saveType3 qo e.opts)
  | type4 : Saves qo e 4 (saveType4 qo e.opts)
  | type8 : Saves qo e 8 (saveType8 qo e.opts)
  | type9 : Saves qo e 9 (saveType9 qo e.opts)
  | type11 : Saves qo e 11 (saveType11 qo e.opts e.files)
  | type17 : Saves qo e 17 (saveType17 qo e.opts)
  | type41 : Saves qo e 41 (saveType41 qo e.opts)

theorem validated_ok {q : Q} {descs : List QemuOptDesc}
    {save : Options → Options × Option Error} {o : Options}
    (hok : (validated qo q descs save o).1 = .ok none) :
    (validated qo q descs save o).2 = (save o).1 ∧ (save o).2 = none := by
  unfold validated at hok ⊢
  split at hok
  · cases hok
  · cases hok
  · exact ⟨rfl, Except.ok.inj hok⟩

theorem saveFields_ok {e : Entry Q} {o : Options} {type : Nat}
    (hok : (saveFields qo e.opts e.files o type).1 = .ok none) :
    ∃ save, Saves qo e type save ∧ (saveFields qo e.opts e.files o type).2 = (save o).1 ∧
      (save o).2 = none := by
  unfold saveFields at hok ⊢
  split at hok
  · exact ⟨_, .type0, validated_ok hok⟩
  · exact ⟨_, .type1, validated_ok hok⟩
  · exact ⟨_, .type2, validated_ok hok⟩
  · exact ⟨_, .type3, validated_ok hok⟩
  · exact ⟨_, .type4, validated_ok hok⟩
  · exact ⟨_, .type8, validated_ok hok⟩
  · exact ⟨_, .type9, validated_ok hok⟩
  · exact ⟨_, .type11, validated_ok hok⟩
  · exact ⟨_, .type17, validated_ok hok⟩
  · exact ⟨_, .type41, validated_ok hok⟩
  · cases Except.ok.inj hok

theorem validated_induct {P : Options → Prop} {q : Q} {descs : List QemuOptDesc}
    {save : Options → Options × Option Error} {o : Options} (hstart : P o) (hsave : P (save o).1) :
    P (validated qo q descs save o).2 := by
  unfold validated
  split
  · exact hstart
  · exact hstart
  · exact hsave

/-- What holds before an entry and behind the assignments of its type holds behind the entry. -/
theorem saveFields_induct {P : Options → Prop} {e : Entry Q} {o : Options} {type : Nat}
    (hstart : P o) (hsave : ∀ save, Saves qo e type save → P (save o).1) :
    P (saveFields qo e.opts e.files o type).2 := by
  unfold saveFields
  split
  · exact validated_induct hstart (hsave _ .type0)
  · exact validated_induct hstart (hsave _ .type1)
  · exact validated_induct hstart (hsave _ .type2)
  · exact validated_induct hstart (hsave _ .type3)
  · exact validated_induct hstart (hsave _ .type4)
  · exact validated_induct hstart (hsave _ .type8)
  · exact validated_induct hstart (hsave _ .type9)
  · exact validated_induct hstart (hsave _ .type11)
  · exact validated_induct hstart (hsave _ .type17)
  · exact validated_induct hstart (hsave _ .type41)
  · exact hstart

/-- The variables of the single-instance types. -/
structure FieldVars where
  type0 : Type0
  type1 : Type1
  type2 : Type2
  type3 : Type3
  type4 : Type4
  type17 : Type17
  qemuUuid : Option QemuUUID

def Options.fieldVars (o : Options) : FieldVars where
  type0 := o.type0
  type1 := o.type1
  type2 := o.type2
  type3 := o.type3
  type4 := o.type4
  type17 := o.type17
  qemuUuid := o.qemuUuid

variable {s : State} {e : Entry Q}

theorem addFile_fieldVars (files : Files) (val : CString) :
    (addFile files val s).2.opts.fieldVars = s.opts.fieldVars := by
  unfold addFile
  split
  · rfl
  · split
    · rfl
    · simp only
      split
      · split <;> rfl
      · rfl

/-- **An accepted entry of a type** marks the type and runs its assignments. -/
theorem accepted_saves {type : Nat} (htype : e.type? qo = some type) (hacc : Accepts qo s e) :
    ∃ save, Saves qo e type save ∧
      (save { s.opts with haveFieldsBitmap := setBit type s.opts.haveFieldsBitmap }).2 = none ∧
      (entryAdd qo s e).2.opts =
        (save { s.opts with haveFieldsBitmap := setBit type s.opts.haveFieldsBitmap }).1 := by
  unfold Accepts entryAdd smbiosEntryAdd at hacc
  unfold Entry.type? at htype
  unfold entryAdd smbiosEntryAdd
  cases hfile : qo.qemuOptGet e.opts "file" with
  | some val =>
    rw [hfile] at htype
    cases htype
  | none =>
    rw [hfile] at hacc htype
    obtain ⟨val, hval, rfl⟩ := Option.map_eq_some_iff.mp htype
    rw [hval] at hacc ⊢
    simp only [addFields] at hacc ⊢
    split at hacc
    · cases Except.ok.inj hacc
    · rename_i hrange
      split at hacc
      · cases Except.ok.inj hacc
      · rename_i hfree
        obtain ⟨save, hsaves, hopts, hnone⟩ := saveFields_ok hacc
        rw [if_neg hrange, if_neg hfree]
        exact ⟨save, hsaves, hnone, hopts⟩

/-- **An accepted entry** assigns the fields of its type, if it has one. -/
theorem accepted_fields (hacc : Accepts qo s e) :
    match e.type? qo with
    | none => (entryAdd qo s e).2.opts.fieldVars = s.opts.fieldVars
    | some type => ∃ save o, Saves qo e type save ∧ o.fieldVars = s.opts.fieldVars ∧
        (save o).2 = none ∧ (entryAdd qo s e).2.opts = (save o).1 := by
  cases htype : e.type? qo with
  | some type =>
    obtain ⟨save, hsaves, hnone, hopts⟩ := accepted_saves htype hacc
    exact ⟨save, { s.opts with haveFieldsBitmap := setBit type s.opts.haveFieldsBitmap }, hsaves,
      rfl, hnone, hopts⟩
  | none =>
    unfold Accepts entryAdd smbiosEntryAdd at hacc
    unfold Entry.type? at htype
    unfold entryAdd smbiosEntryAdd
    cases hfile : qo.qemuOptGet e.opts "file" with
    | some val =>
      simp only
      split
      · rfl
      · rfl
      · exact addFile_fieldVars e.files val
    | none =>
      rw [hfile] at hacc htype
      rw [Option.map_eq_none_iff.mp htype] at hacc
      cases Except.ok.inj hacc

/-- **Any entry** leaves the lists and the marks of the types alone, or does what its type saves. -/
theorem entryAdd_opts (qo : QemuOption Q) (s : State) (e : Entry Q) :
    ((entryAdd qo s e).2.opts.type11 = s.opts.type11 ∧
      (entryAdd qo s e).2.opts.type41 = s.opts.type41 ∧
      (entryAdd qo s e).2.opts.haveFieldsBitmap = s.opts.haveFieldsBitmap) ∨
    ∃ type, e.type? qo = some type ∧ type ≤ SMBIOS_MAX_TYPE ∧
      (entryAdd qo s e).2.opts = (saveFields qo e.opts e.files
        { s.opts with haveFieldsBitmap := setBit type s.opts.haveFieldsBitmap } type).2 := by
  unfold entryAdd smbiosEntryAdd Entry.type?
  cases hfile : qo.qemuOptGet e.opts "file" with
  | some val =>
    left
    simp only
    split
    · exact ⟨rfl, rfl, rfl⟩
    · exact ⟨rfl, rfl, rfl⟩
    · unfold addFile
      split
      · exact ⟨rfl, rfl, rfl⟩
      · split
        · exact ⟨rfl, rfl, rfl⟩
        · simp only
          split
          · split <;> exact ⟨rfl, rfl, rfl⟩
          · exact ⟨rfl, rfl, rfl⟩
  | none =>
    cases htype : qo.qemuOptGet e.opts "type" with
    | none => exact .inl ⟨rfl, rfl, rfl⟩
    | some val =>
      simp only [addFields]
      split
      · exact .inl ⟨rfl, rfl, rfl⟩
      · rename_i hrange
        split
        · exact .inl ⟨rfl, rfl, rfl⟩
        · exact .inr ⟨strtoul val, rfl, Nat.le_of_not_lt hrange, rfl⟩

/-- A type that has fields keeps them over every call. -/
theorem configure_marked {type : Nat} (hmarked : testBit type s.opts.haveFieldsBitmap = true)
    (c : Call Q) : testBit type (configure qo s c).2.opts.haveFieldsBitmap = true := by
  cases c with
  | entryAdd e =>
    show testBit type (entryAdd qo s e).2.opts.haveFieldsBitmap = true
    rcases entryAdd_opts qo s e with ⟨-, -, hsame⟩ | ⟨type', -, hrange, hopts⟩
    · rw [hsame]
      exact hmarked
    · have hvars := congrArg BlobVars.haveFieldsBitmap (@saveFields_blobVars Q qo e.opts e.files
        { s.opts with haveFieldsBitmap := setBit type' s.opts.haveFieldsBitmap } type')
      have hset := testBit_setBit hrange type s.opts.haveFieldsBitmap
      rw [hmarked, Bool.true_or] at hset
      rw [hopts]
      exact (congrArg (testBit type) hvars).trans hset
  | setCpuid version features => exact hmarked
  | setDefaultProcessorFamily processorFamily =>
    unfold configure smbiosSetDefaultProcessorFamily
    simp only
    split <;> exact hmarked
  | setDefaults manufacturer product version => exact hmarked

/-- A type with fields has no binary, and its table is built. -/
theorem not_skipped_of_marked {cs : List (Call Q)} {type : Nat} {required : Bool}
    (hmarked : testBit type (final (configure qo) {} cs).opts.haveFieldsBitmap = true) :
    smbiosSkipTable (final (configure qo) {} cs).opts type required = false := by
  have hbin : ¬testBit type (final (configure qo) {} cs).opts.haveBinfileBitmap = true := by
    intro hbit
    have hnone := (blobs_of_run qo cs).exclusive type hbit
    exact absurd hmarked (Bool.eq_false_iff.mp hnone)
  rw [smbiosSkipTable, if_neg hbin, if_pos hmarked]

/-- The value of an option in the last entry of a type that names it. -/
def lastGiven (qo : QemuOption Q) (type : Nat) (name : String) (es : List (Entry Q)) : CharPtr :=
  last (Entry.given qo type name) es

/-- Every entry of the run is accepted. -/
abbrev AllAccepted (qo : QemuOption Q) (s : State) (es : List (Entry Q)) : Prop :=
  Each (entryAdd qo) (Accepts qo) s es

/-- A variable that the entries of one type overwrite where they name an option. -/
theorem overwritten_final {α : Type} (get : FieldVars → α) (type : Nat) (name : String)
    (parse : CString → α)
    (hsaves : ∀ (e : Entry Q) type' save, Saves qo e type' save → ∀ o, (save o).2 = none →
      get (save o).1.fieldVars =
        ((if type' = type then qo.qemuOptGet e.opts name else none).map parse).getD
          (get o.fieldVars))
    {es : List (Entry Q)} (hacc : AllAccepted qo s es) :
    get (final (entryAdd qo) s es).opts.fieldVars =
      ((lastGiven qo type name es).map parse).getD (get s.opts.fieldVars) := by
  have hstep : ∀ s e, Accepts qo s e → get (entryAdd qo s e).2.opts.fieldVars =
      ((e.given qo type name).map parse).getD (get s.opts.fieldVars) := by
    intro s e he
    have hfields := accepted_fields he
    unfold Entry.given
    cases htype : e.type? qo with
    | none =>
      rw [htype] at hfields
      simp only at hfields
      rw [hfields, if_neg (by simp)]
      rfl
    | some type' =>
      rw [htype] at hfields
      obtain ⟨save, o, hsave, ho, hnone, heq⟩ := hfields
      rw [heq, hsaves e type' save hsave o hnone, ho]
      simp only [Option.some.injEq]
  rw [final_last (fun s : State => get s.opts.fieldVars) hstep es hacc, last_map]
  rfl

/-! ## Strings -/

/-- A string variable, the option that names it, and its default in `smbios_set_defaults`. -/
structure StringField where
  type : Nat
  name : String
  get : FieldVars → CharPtr
  /-- From the manufacturer, the product and the version of the machine. -/
  default : CharPtr → CharPtr → CharPtr → CharPtr := fun _ _ _ => none

/-- Every variable that `save_opt` stores for the types 0 to 4 and 17. -/
def stringFields : List StringField := [
  { type := 0, name := "vendor", get := fun v => v.type0.vendor },
  { type := 0, name := "version", get := fun v => v.type0.version },
  { type := 0, name := "date", get := fun v => v.type0.date },
  { type := 1, name := "manufacturer", get := fun v => v.type1.manufacturer,
    default := fun m _ _ => m },
  { type := 1, name := "product", get := fun v => v.type1.product, default := fun _ p _ => p },
  { type := 1, name := "version", get := fun v => v.type1.version, default := fun _ _ v => v },
  { type := 1, name := "serial", get := fun v => v.type1.serial },
  { type := 1, name := "sku", get := fun v => v.type1.sku },
  { type := 1, name := "family", get := fun v => v.type1.family },
  { type := 2, name := "manufacturer", get := fun v => v.type2.manufacturer,
    default := fun m _ _ => m },
  { type := 2, name := "product", get := fun v => v.type2.product, default := fun _ p _ => p },
  { type := 2, name := "version", get := fun v => v.type2.version, default := fun _ _ v => v },
  { type := 2, name := "serial", get := fun v => v.type2.serial },
  { type := 2, name := "asset", get := fun v => v.type2.asset },
  { type := 2, name := "location", get := fun v => v.type2.location },
  { type := 3, name := "manufacturer", get := fun v => v.type3.manufacturer,
    default := fun m _ _ => m },
  { type := 3, name := "version", get := fun v => v.type3.version, default := fun _ _ v => v },
  { type := 3, name := "serial", get := fun v => v.type3.serial },
  { type := 3, name := "asset", get := fun v => v.type3.asset },
  { type := 3, name := "sku", get := fun v => v.type3.sku },
  { type := 4, name := "sock_pfx", get := fun v => v.type4.sockPfx,
    default := fun _ _ _ => some (lit "CPU") },
  { type := 4, name := "manufacturer", get := fun v => v.type4.manufacturer,
    default := fun m _ _ => m },
  { type := 4, name := "version", get := fun v => v.type4.version, default := fun _ _ v => v },
  { type := 4, name := "serial", get := fun v => v.type4.serial },
  { type := 4, name := "asset", get := fun v => v.type4.asset },
  { type := 4, name := "part", get := fun v => v.type4.part },
  { type := 17, name := "loc_pfx", get := fun v => v.type17.locPfx,
    default := fun _ _ _ => some (lit "DIMM") },
  { type := 17, name := "bank", get := fun v => v.type17.bank },
  { type := 17, name := "manufacturer", get := fun v => v.type17.manufacturer,
    default := fun m _ _ => m },
  { type := 17, name := "serial", get := fun v => v.type17.serial },
  { type := 17, name := "asset", get := fun v => v.type17.asset },
  { type := 17, name := "part", get := fun v => v.type17.part }]

/-- The strings of type 0 do not depend on whether the release is valid. -/
theorem saveType0_strings (q : Q) (o : Options) :
    ∃ t, (saveType0 qo q o).1 = { o with type0 := t } ∧
    t.vendor = saveOpt qo q o.type0.vendor "vendor" ∧
    t.version = saveOpt qo q o.type0.version "version" ∧
    t.date = saveOpt qo q o.type0.date "date" ∧
    t.uefi = qo.qemuOptGetBool q "uefi" false := by
  unfold saveType0
  split
  · exact ⟨_, rfl, rfl, rfl, rfl, rfl⟩
  · split <;> exact ⟨_, rfl, rfl, rfl, rfl, rfl⟩

/-- Nor do those of type 1 depend on whether the UUID is. -/
theorem saveType1_strings (q : Q) (o : Options) : ∃ uuid, (saveType1 qo q o).1 =
    { o with
      type1 :=
        { manufacturer := saveOpt qo q o.type1.manufacturer "manufacturer"
          product := saveOpt qo q o.type1.product "product"
          version := saveOpt qo q o.type1.version "version"
          serial := saveOpt qo q o.type1.serial "serial"
          sku := saveOpt qo q o.type1.sku "sku"
          family := saveOpt qo q o.type1.family "family" }
      qemuUuid := uuid } := by
  unfold saveType1
  simp only
  split
  · exact ⟨o.qemuUuid, rfl⟩
  · split
    · exact ⟨o.qemuUuid, rfl⟩
    · exact ⟨_, rfl⟩

theorem saveType41_fieldVars (q : Q) (o : Options) :
    (saveType41 qo q o).1.fieldVars = o.fieldVars := by
  unfold saveType41
  split <;> rfl

theorem stringField_type : ∀ f ∈ stringFields, f.type ∈ [0, 1, 2, 3, 4, 17] := by decide

/-- An entry of a type without string variables. -/
theorem stringField_other {type : Nat} {save : Options → Options × Option Error} {o : Options}
    (hsame : (save o).1.fieldVars = o.fieldVars) (htype : type ∉ [0, 1, 2, 3, 4, 17]) :
    ∀ f ∈ stringFields, f.get (save o).1.fieldVars =
      (if type = f.type then qo.qemuOptGet e.opts f.name else none).or (f.get o.fieldVars) := by
  intro f hf
  have hne : type ≠ f.type := by
    rintro rfl
    exact htype (stringField_type f hf)
  rw [hsame, if_neg hne, Option.none_or]

/-- `save_opt` in the entries of the field's type, nothing in the others. -/
theorem stringField_saves {type : Nat} {save : Options → Options × Option Error}
    (hsaves : Saves qo e type save) (o : Options) : ∀ f ∈ stringFields,
      f.get (save o).1.fieldVars =
        (if type = f.type then qo.qemuOptGet e.opts f.name else none).or (f.get o.fieldVars) := by
  cases hsaves with
  | type0 =>
    obtain ⟨t, heq, hvendor, hversion, hdate, -⟩ := @saveType0_strings Q qo e.opts o
    rw [heq]
    simp [stringFields, Options.fieldVars, hvendor, hversion, hdate, saveOpt]
  | type1 =>
    obtain ⟨uuid, heq⟩ := @saveType1_strings Q qo e.opts o
    rw [heq]
    simp [stringFields, Options.fieldVars, saveOpt]
  | type2 => simp [stringFields, saveType2, saveOpt, Options.fieldVars]
  | type3 => simp [stringFields, saveType3, saveOpt, Options.fieldVars]
  | type4 => simp [stringFields, saveType4, saveOpt, Options.fieldVars]
  | type8 => exact stringField_other rfl (by decide)
  | type9 => exact stringField_other rfl (by decide)
  | type11 => exact stringField_other rfl (by decide)
  | type17 => simp [stringFields, saveType17, saveOpt, Options.fieldVars]
  | type41 => exact stringField_other (saveType41_fieldVars e.opts o) (by decide)

/-- **A string variable holds what the last entry that names it says**, or what it held before. -/
theorem stringField_final {f : StringField} (hf : f ∈ stringFields) {es : List (Entry Q)}
    (hacc : AllAccepted qo s es) : f.get (final (entryAdd qo) s es).opts.fieldVars =
      (lastGiven qo f.type f.name es).or (f.get s.opts.fieldVars) := by
  have hsome : ∀ v w : CharPtr, v.or w = (v.map some).getD w := by
    intro v w
    cases v <;> rfl
  have hsaves : ∀ (e : Entry Q) type save, Saves qo e type save → ∀ o, (save o).2 = none →
      f.get (save o).1.fieldVars =
        ((if type = f.type then qo.qemuOptGet e.opts f.name else none).map some).getD
          (f.get o.fieldVars) := by
    intro e type save hsave o _
    rw [stringField_saves hsave o f hf, hsome]
  rw [overwritten_final f.get f.type f.name some hsaves hacc, hsome]

theorem stringField_setDefaults (manufacturer product version : CharPtr) (o : Options) :
    ∀ f ∈ stringFields, f.get (smbiosSetDefaults manufacturer product version o).fieldVars =
      (f.get o.fieldVars).or (f.default manufacturer product version) := by
  simp [stringFields, smbiosSetDefaults, setDefault, Options.fieldVars]

theorem stringField_start : ∀ f ∈ stringFields, f.get ({} : Options).fieldVars = none := by
  simp [stringFields, Options.fieldVars]

/-! ## Numbers -/

/-- The variables that take a default where an entry of their type does not name the option. -/
inductive NumberField where
  | uefi | processorFamily | processorId | maxSpeed | currentSpeed | speed
  deriving DecidableEq

namespace NumberField

def type : NumberField → Nat
  | uefi => 0
  | processorFamily => 4
  | processorId => 4
  | maxSpeed => 4
  | currentSpeed => 4
  | speed => 17

def name : NumberField → String
  | uefi => "uefi"
  | processorFamily => "processor-family"
  | processorId => "processor-id"
  | maxSpeed => "max-speed"
  | currentSpeed => "current-speed"
  | speed => "speed"

/-- What an entry without the option gives; a `bool` counts as a number. -/
def default : NumberField → Nat
  | uefi => 0
  | processorFamily => 0x01
  | processorId => 0
  | maxSpeed => 2000
  | currentSpeed => 2000
  | speed => 0

/-- The width of the variable. -/
def bits : NumberField → Nat
  | uefi => 1
  | processorFamily => 16
  | processorId => 64
  | maxSpeed => 64
  | currentSpeed => 64
  | speed => 16

def get : NumberField → FieldVars → Nat
  | uefi, v => v.type0.uefi.toNat
  | processorFamily, v => v.type4.processorFamily.toNat
  | processorId, v => v.type4.processorId.toNat
  | maxSpeed, v => v.type4.maxSpeed.toNat
  | currentSpeed, v => v.type4.currentSpeed.toNat
  | speed, v => v.type17.speed.toNat

/-- What the getter of the option returns. -/
def value (qo : QemuOption Q) : NumberField → Q → Nat
  | uefi, q => (qo.qemuOptGetBool q "uefi" false).toNat
  | processorFamily, q => (qo.qemuOptGetNumber q "processor-family" 0x01).toNat
  | processorId, q => (qo.qemuOptGetNumber q "processor-id" 0).toNat
  | maxSpeed, q => (qo.qemuOptGetNumber q "max-speed" DEFAULT_CPU_SPEED).toNat
  | currentSpeed, q => (qo.qemuOptGetNumber q "current-speed" DEFAULT_CPU_SPEED).toNat
  | speed, q => (qo.qemuOptGetNumber q "speed" 0).toNat

theorem default_lt (f : NumberField) : f.default < 2 ^ f.bits := by
  cases f <;> decide

theorem value_absent (hq : qo.Contract) (f : NumberField) {q : Q}
    (habsent : qo.qemuOptGet q f.name = none) : f.value qo q = f.default := by
  cases f with
  | uefi => exact congrArg Bool.toNat (hq.bool_absent q _ _ habsent)
  | processorFamily => exact congrArg UInt64.toNat (hq.number_absent q _ _ habsent)
  | processorId => exact congrArg UInt64.toNat (hq.number_absent q _ _ habsent)
  | maxSpeed => exact congrArg UInt64.toNat (hq.number_absent q _ _ habsent)
  | currentSpeed => exact congrArg UInt64.toNat (hq.number_absent q _ _ habsent)
  | speed => exact congrArg UInt64.toNat (hq.number_absent q _ _ habsent)

end NumberField

/-- The entry, if it is one of the type. -/
def Entry.ofType (qo : QemuOption Q) (type : Nat) (e : Entry Q) : Option (Entry Q) :=
  if e.type? qo = some type then some e else none

/-- An entry of the field's type stores what the getter returns, as far as it fits. -/
theorem numberField_saves {type : Nat} {save : Options → Options × Option Error}
    (hsaves : Saves qo e type save) (o : Options) (f : NumberField) :
    f.get (save o).1.fieldVars =
      if type = f.type then f.value qo e.opts % 2 ^ f.bits else f.get o.fieldVars := by
  cases hsaves with
  | type0 =>
    obtain ⟨t, heq, -, -, -, huefi⟩ := @saveType0_strings Q qo e.opts o
    rw [heq]
    cases f with
    | uefi =>
      show t.uefi.toNat = (qo.qemuOptGetBool e.opts "uefi" false).toNat % 2
      rw [huefi]
      exact (Nat.mod_eq_of_lt (Bool.toNat_lt _)).symm
    | _ => rfl
  | type1 =>
    obtain ⟨uuid, heq⟩ := @saveType1_strings Q qo e.opts o
    rw [heq]
    cases f <;> rfl
  | type4 =>
    cases f with
    | processorFamily => exact UInt64.toNat_toUInt16 _
    | processorId => exact (Nat.mod_eq_of_lt (UInt64.toNat_lt _)).symm
    | maxSpeed => exact (Nat.mod_eq_of_lt (UInt64.toNat_lt _)).symm
    | currentSpeed => exact (Nat.mod_eq_of_lt (UInt64.toNat_lt _)).symm
    | _ => rfl
  | type17 =>
    cases f with
    | speed => exact UInt64.toNat_toUInt16 _
    | _ => rfl
  | type41 =>
    rw [saveType41_fieldVars]
    cases f <;> rfl
  | _ => cases f <;> rfl

/-- **One accepted entry**, seen by a number variable. -/
theorem numberField_entryAdd (hacc : Accepts qo s e) (f : NumberField) :
    f.get (entryAdd qo s e).2.opts.fieldVars =
      ((e.ofType qo f.type).map fun e => f.value qo e.opts % 2 ^ f.bits).getD
        (f.get s.opts.fieldVars) := by
  have hfields := accepted_fields hacc
  unfold Entry.ofType
  cases htype : e.type? qo with
  | none =>
    rw [htype] at hfields
    simp only at hfields
    rw [hfields, if_neg (by simp)]
    rfl
  | some type =>
    rw [htype] at hfields
    obtain ⟨save, o, hsaves, ho, -, heq⟩ := hfields
    rw [heq, numberField_saves hsaves o f, ho]
    simp only [Option.some.injEq]
    split <;> rfl

/-- The last entry of a type. -/
def lastOfType (qo : QemuOption Q) (type : Nat) (es : List (Entry Q)) : Option (Entry Q) :=
  last (Entry.ofType qo type) es

/-- **A number variable holds what the getter returns for the last entry of its type.** -/
theorem numberField_final (f : NumberField) {es : List (Entry Q)} (hacc : AllAccepted qo s es) :
    f.get (final (entryAdd qo) s es).opts.fieldVars =
      ((lastOfType qo f.type es).map fun e => f.value qo e.opts % 2 ^ f.bits).getD
        (f.get s.opts.fieldVars) := by
  have hstep : ∀ s e, Accepts qo s e → f.get (entryAdd qo s e).2.opts.fieldVars =
      ((e.ofType qo f.type).map fun e => f.value qo e.opts % 2 ^ f.bits).getD
        (f.get s.opts.fieldVars) :=
    fun s e he => numberField_entryAdd he f
  rw [final_last (fun s : State => f.get s.opts.fieldVars) hstep es hacc, last_map]
  rfl

namespace NumberField

/-- The value in an entry that names the option. -/
def given? (qo : QemuOption Q) (f : NumberField) (e : Entry Q) : Option Nat :=
  (qo.qemuOptGet e.opts f.name).map fun _ => f.value qo e.opts

/-- The value in the last entry of the type that names the option. -/
def lastGiven (qo : QemuOption Q) (f : NumberField) (es : List (Entry Q)) : Option Nat :=
  last (fun e => (e.ofType qo f.type).bind (f.given? qo)) es

/-- The value given last is the default, or it fits the variable and the last entry of the type
names the option. -/
def Kept (qo : QemuOption Q) (f : NumberField) (es : List (Entry Q)) : Prop :=
  ∀ v, f.lastGiven qo es = some v → v = f.default ∨
    (v < 2 ^ f.bits ∧ ∀ e, lastOfType qo f.type es = some e → qo.qemuOptGet e.opts f.name ≠ none)

/-- The variable holds the value given last exactly when that is kept. -/
theorem stored_iff (hq : qo.Contract) (f : NumberField) (es : List (Entry Q)) :
    ((lastOfType qo f.type es).map fun e => f.value qo e.opts % 2 ^ f.bits).getD f.default =
        (f.lastGiven qo es).getD f.default ↔ f.Kept qo es := by
  have hdefault := Nat.mod_eq_of_lt f.default_lt
  unfold Kept
  cases htyped : lastOfType qo f.type es with
  | none =>
    have hnone : f.lastGiven qo es = none := last_bind_none htyped
    rw [hnone]
    simp
  | some e =>
    cases hget : qo.qemuOptGet e.opts f.name with
    | some val =>
      -- the last entry of the type names the option
      have hgiven : f.given? qo e = some (f.value qo e.opts) := by
        rw [given?, hget]
        rfl
      have hlast : f.lastGiven qo es = some (f.value qo e.opts) := last_bind_some htyped hgiven
      rw [hlast]
      simp only [Option.map_some, Option.getD_some, Option.some.injEq, forall_eq', hget]
      constructor
      · intro heq
        have hlt := Nat.mod_lt (f.value qo e.opts) (Nat.two_pow_pos f.bits)
        rw [heq] at hlt
        exact .inr ⟨hlt, by simp⟩
      · rintro (heq | ⟨hlt, -⟩)
        · rw [heq, hdefault]
        · exact Nat.mod_eq_of_lt hlt
    | none =>
      -- it stores the default
      rw [Option.map_some, Option.getD_some, f.value_absent hq hget, hdefault]
      cases hlast : f.lastGiven qo es with
      | none => simp
      | some v =>
        simp only [Option.getD_some, Option.some.injEq, forall_eq', hget, ne_eq, not_true_eq_false,
          and_false, or_false]
        exact eq_comm

end NumberField

/-! ## The release and the UUID -/

/-- `have_major_minor`, `major` and `minor`. -/
def FieldVars.release (v : FieldVars) : Bool × UInt8 × UInt8 :=
  (v.type0.haveMajorMinor, v.type0.major, v.type0.minor)

/-- The release that a string names; none for any other string. -/
def releaseOf (val : CString) : Bool × UInt8 × UInt8 :=
  match sscanfRelease val with
  | (some major, some minor) => (true, major, minor)
  | _ => (false, 0, 0)

theorem release_saves {type : Nat} {save : Options → Options × Option Error}
    (hsaves : Saves qo e type save) {o : Options} (hok : (save o).2 = none) :
    (save o).1.fieldVars.release =
      ((if type = 0 then qo.qemuOptGet e.opts "release" else none).map releaseOf).getD
        o.fieldVars.release := by
  cases hsaves with
  | type0 =>
    unfold saveType0 at hok ⊢
    simp only at hok ⊢
    split at hok
    · rename_i hget
      rw [hget]
      rfl
    · rename_i val hget
      rw [hget]
      split at hok
      · rename_i major minor hscan
        simp only [if_true, Option.map_some, Option.getD_some, releaseOf, hscan]
        rfl
      · cases hok
  | type1 =>
    obtain ⟨uuid, heq⟩ := @saveType1_strings Q qo e.opts o
    rw [heq]
    rfl
  | type41 =>
    rw [saveType41_fieldVars]
    rfl
  | _ => rfl

theorem uuid_saves {type : Nat} {save : Options → Options × Option Error}
    (hsaves : Saves qo e type save) {o : Options} (hok : (save o).2 = none) :
    (save o).1.fieldVars.qemuUuid =
      ((if type = 1 then qo.qemuOptGet e.opts "uuid" else none).map qo.qemuUuidParse).getD
        o.fieldVars.qemuUuid := by
  cases hsaves with
  | type0 =>
    obtain ⟨t, heq, -⟩ := @saveType0_strings Q qo e.opts o
    rw [heq]
    rfl
  | type1 =>
    unfold saveType1 at hok ⊢
    simp only at hok ⊢
    split at hok
    · rename_i hget
      rw [hget]
      rfl
    · rename_i val hget
      rw [hget]
      split at hok
      · cases hok
      · rename_i uuid hparse
        simp only [if_true, Option.map_some, Option.getD_some, hparse]
        rfl
  | type41 =>
    rw [saveType41_fieldVars]
    rfl
  | _ => rfl

/-! ## Every field -/

/-- Behind the entries and `smbios_set_defaults`, every field holds what the last entry that names
it says, or its default. -/
structure Merged (qo : QemuOption Q) (es : List (Entry Q)) (v : FieldVars)
    (manufacturer product version : CharPtr) : Prop where
  strings : ∀ f ∈ stringFields, f.get v =
    (lastGiven qo f.type f.name es).or (f.default manufacturer product version)
  release : v.release = ((lastGiven qo 0 "release" es).map releaseOf).getD (false, 0, 0)
  uuid : v.qemuUuid = ((lastGiven qo 1 "uuid" es).map qo.qemuUuidParse).getD none
  numbers : ∀ f : NumberField, f.get v = (f.lastGiven qo es).getD f.default

/-- **Repeated entries accumulate exactly when** every number given last is the default, or fits
its variable and is given in the last entry of its type. -/
theorem merged_iff (hq : qo.Contract) {es : List (Entry Q)} (hacc : AllAccepted qo {} es)
    (manufacturer product version : CharPtr) :
    Merged qo es (smbiosSetDefaults manufacturer product version
      (final (entryAdd qo) {} es).opts).fieldVars manufacturer product version ↔
        ∀ f : NumberField, f.Kept qo es := by
  have hnumber : ∀ f : NumberField,
      f.get (smbiosSetDefaults manufacturer product version
        (final (entryAdd qo) {} es).opts).fieldVars =
          ((lastOfType qo f.type es).map fun e => f.value qo e.opts % 2 ^ f.bits).getD
            f.default := by
    intro f
    have hfinal := numberField_final f hacc
    cases f <;> exact hfinal
  constructor
  · intro hmerged f
    have hstored := hmerged.numbers f
    rw [hnumber] at hstored
    exact (f.stored_iff hq es).mp hstored
  · intro hkept
    refine ⟨?_, ?_, ?_, fun f => (hnumber f).trans ((f.stored_iff hq es).mpr (hkept f))⟩
    · intro f hf
      rw [stringField_setDefaults _ _ _ _ f hf, stringField_final hf hacc, stringField_start f hf,
        Option.or_none]
    · exact overwritten_final FieldVars.release 0 "release" releaseOf
        (fun _ _ _ hsaves _ hok => release_saves hsaves hok) hacc
    · exact overwritten_final FieldVars.qemuUuid 1 "uuid" qo.qemuUuidParse
        (fun _ _ _ hsaves _ hok => uuid_saves hsaves hok) hacc

/-- An entry of a list of options, without files. -/
def optionEntry (q : OptionList) : Entry OptionList := ⟨q, .holding []⟩

/-- A serial number in one entry of type 1, the product in the next. -/
def productEntries : List (Entry OptionList) :=
  [optionEntry [("type", lit "1"), ("serial", lit "007")],
    optionEntry [("type", lit "1"), ("product", lit "Z790")]]

theorem merged_iff_product :
    Merged .reference productEntries (smbiosSetDefaults none none none
      (final (entryAdd .reference) {} productEntries).opts).fieldVars none none none := by
  have hacc : AllAccepted .reference {} productEntries := ⟨rfl, rfl, trivial⟩
  refine (merged_iff QemuOption.reference_contract hacc none none none).mpr ?_
  intro f v hv
  have hnone : f.lastGiven .reference productEntries = none := by
    cases f <;> decide +kernel
  rw [hnone] at hv
  cases hv

/-- A speed in one entry of type 17, the manufacturer in the next. -/
def speedEntries : List (Entry OptionList) :=
  [optionEntry [("type", lit "17"), ("speed", lit "3200")],
    optionEntry [("type", lit "17"), ("manufacturer", lit "Kingston")]]

/-- The second entry resets the speed to 0. -/
theorem speedReset :
    AllAccepted .reference {} speedEntries ∧
      ¬Merged .reference speedEntries (smbiosSetDefaults none none none
        (final (entryAdd .reference) {} speedEntries).opts).fieldVars none none none := by
  refine ⟨⟨rfl, rfl, trivial⟩, fun hmerged => ?_⟩
  have hspeed := hmerged.numbers .speed
  revert hspeed
  decide +kernel

end Smbios
