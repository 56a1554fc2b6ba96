import PveAntiDetection.Smbios.Step

/-!
# The plan of a pass

What one pass of `smbios_get_tables_ep` does, as data computed from the options, the machine and
the PCI devices.

* `plannedTables` — the tables it starts, in order;
* `type4Rejects`, `assertionFault`, `slotError`, `deviceError` — what can end it early, or make it
  report an error;
* `epRun` — how it ends.

`smbiosGetTablesEp_eq`: the code does what `epRun` says.
-/

set_option autoImplicit false

namespace Smbios

open Script

/-! ## The tables of a pass -/

/-- The options behind the type 11 builder, which frees the strings it copies. -/
def Options.consumed (o : Options) : Options :=
  { o with type11 := if smbiosSkipTable o 11 true then o.type11 else o.type11.map fun _ => none }

section
variable (h : Host) (ep : SmbiosEntryPointType) (ms : Machine) (o : Options)

/-- Types 0 to 3. -/
def systemTables : List Table :=
  o.opt 0 false [type0Table o] ++ (o.opt 1 true [type1Table o] ++
    (o.opt 2 true [type2Table o] ++ o.opt 3 true [type3Table o]))

/-- Type 4, up to a table that its core or thread count stops. -/
def processorTables : List Table :=
  o.opt 4 true (untilHalt ((List.range' 0 ms.sockets.toNat).map (type4Table o ms ep)))

/-- Type 7. -/
def cacheTables : List Table :=
  o.opt 7 true [
    type7Table 0 (lit "L1 Cache") 0x180 (ms.coresPerSocket * 0x20).toUInt16 0x4 0x4 0x7,
    type7Table 1 (lit "L1 Cache") 0x180 (ms.coresPerSocket * 0x20).toUInt16 0x4 0x3 0x7,
    type7Table 2 (lit "L2 Cache") 0x181 (ms.coresPerSocket * 0x200).toUInt16 0x5 0x5 0x8,
    type7Table 3 (lit "L3 Cache") 0x182 0x4000 0x6 0x5 0x8]

/-- Type 8. -/
def portTables : List Table := o.opt 8 true (o.type8.mapIdx type8Table)

/-- Type 9, up to an entry whose device is not found. -/
def slotTables : List Table := o.opt 9 true (untilHalt (o.type9.mapIdx (type9Table h)))

/-- Type 11. -/
def oemTables : List Table := if o.type11 = [] then [] else o.opt 11 true [type11Table o]

/-- Type 16. -/
def arrayTables : List Table := o.opt 16 true [type16Table ms (dimmCnt ms)]

/-- Type 17. -/
def dimmTables : List Table :=
  o.opt 17 true ((List.range' 0 (dimmCnt ms)).map fun i => type17Table o i (getDimmSz ms i))

/-- Types 19 and 20, for `n` chunks from chunk `i` on. -/
def mappedScript : (n i : Nat) → TableScript
  | 0, _ => nil
  | n + 1, i =>
    match ms.memArray[i]? with
    | none => raise (.memArrayOutOfBounds i)
    | some a =>
      (ofList (o.opt 19 true
        [type19Table i (handleOffset ms) a.address.toNat (getDimmSz ms i)])).append
      ((if rangeEnd a.address.toNat (getDimmSz ms i) > a.address.toNat then nil
        else raise .type20RangeAssert).append
      ((ofList (o.opt 20 true [type20Table a.address.toNat (getDimmSz ms i)])).append
      (mappedScript n (i + 1))))

/-- Type 22. -/
def batteryTables : List Table := o.opt 22 true [type22Table]

/-- `(mem_array_size + offset) < (T32_BASE - T19_BASE)`. -/
def handleRangeOk : Prop := (ms.memArray.length + handleOffset ms) % 2 ^ 32 < T32_BASE - T19_BASE

instance : Decidable (handleRangeOk ms) := by
  unfold handleRangeOk
  exact inferInstance

/-- The builder calls from the DIMM count to the handle assertion. -/
def memoryScript : TableScript :=
  (if ms.smbiosMemoryDeviceSize = 0 then raise .divisionByZero else nil).append
  ((ofList (arrayTables ms o ++ dimmTables ms o)).append
  ((mappedScript ms o (dimmCnt ms) 0).append
  ((ofList (batteryTables o)).append
  (if handleRangeOk ms then nil else raise .handleRangeAssert))))

/-- Types 26 to 37. -/
def sensorTables : List Table :=
  o.opt 26 true [type26Table 0 (lit "LM78A") 0x6A, type26Table 1 (lit "LM78A-1") 0x67] ++
  (o.opt 27 true [type27Table 0 (lit "CPU FAN") 0x67] ++
  (o.opt 28 true [type28Table 0 (lit "LM78A") 0x63, type28Table 1 (lit "LM78A-1") 0x67] ++
  (o.opt 29 true [type29Table] ++ (o.opt 32 true [type32Table] ++ o.opt 37 true [type37Table]))))

/-- Types 38 and 39. -/
def supplyTables : List Table := o.opt 38 true h.type38Tables ++ o.opt 39 true [type39Table]

/-- Type 41, up to an entry whose device is not found. -/
def deviceTables : List Table := o.opt 41 true (untilHalt (o.type41.mapIdx (type41Table h)))

/-- Type 127. -/
def endTables : List Table := o.opt 127 true [type127Table]

/-- The tables behind the handle assertion. -/
def probeTables : List Table :=
  sensorTables o ++ (supplyTables h o ++ (deviceTables h o ++ endTables o))

/-- The type 11 table and the memory calls: what can fail an assertion, but reports no error. -/
def assertingScript : TableScript := (ofList (oemTables o)).append (memoryScript ms o)

/-- The builder calls behind the type 4 loop. -/
def restScript : TableScript :=
  (ofList (cacheTables ms o ++ (portTables o ++ slotTables h o))).append
    ((assertingScript ms o).append (ofList (probeTables h o)))

/-! ## How a pass ends -/

/-- The type 4 tables are built and their counts do not fit the 32-bit entry point. -/
def type4Rejects : Bool := !smbiosSkipTable o 4 true && (ep != .type64 && countsSaturated ms)

/-- The fault that stops a pass in type 11 or in the memory calls. -/
def assertionFault : Option Fault := faultFrom none (assertingScript ms o)

/-- The error that type 9 reports. -/
def slotError : Option Error := firstReport (slotTables h o)

/-- The error that type 41 reports. -/
def deviceError : Option Error := firstReport (deviceTables h o)

/-- The tables a pass starts, in order. -/
def plannedTables : List Table :=
  systemTables o ++ (processorTables ep ms o ++
    if type4Rejects ep ms o then [] else (restScript h ms o).cmds)

/-- The build state at the start of a pass. -/
def Build.start : Build where
  buf := ⟨o.usrBlobs.take o.usrBlobsLen, o.usrTableMax, o.usrTableCnt⟩

/-- The build state behind the builder calls. -/
def Build.planned : Build := (Build.start o).ran (h.fresh ep) (plannedTables h ep ms o)

/-- `g_free(smbios_tables)`. -/
def Build.freed (b : Build) : Build := { b with buf := { b.buf with bytes := [] } }

/-- The ways a pass can end: with a fault, with `false`, and with `true`. -/
inductive Ended where
  | faulted (f : Fault)
  | refused (o : Options) (b : Build)
  | published (o : Options) (b : Build)

/-- The pass behind the builder calls. -/
def finishRun (b : Build) : Ended :=
  if ep = .type32 ∧ b.buf.bytes.length > SMBIOS_21_MAX_TABLES_LEN then
    if b.errp.isSome then .faulted .errorAlreadySet
    else .refused o.consumed
      (Build.freed { b with errp := some (.tablesTooLong b.buf.bytes.length) })
  else .published o.consumed b

/-- **One pass.** -/
def epRun : Ended :=
  if ms.sockets.toNat = 0 then .faulted .socketsAssert
  else if type4Rejects ep ms o then .refused o (Build.planned h ep ms o).freed
  else
    match assertionFault ms o with
    | some f => .faulted f
    | none =>
      if (slotError h o).isSome ∧ (deviceError h o).isSome then .faulted .errorAlreadySet
      else finishRun ep o (Build.planned h ep ms o)

end

/-- The entry point of a pass. -/
def entryPointOf (ep : SmbiosEntryPointType) (buf : TableBuf) : SmbiosEntryPoint :=
  if ep = .type64 then .ep30 (entryPoint30 buf) else .ep21 (entryPoint21 buf)

/-- What a pass publishes. -/
def publishedOf (ep : SmbiosEntryPointType) (buf : TableBuf) : Published where
  tables := buf.bytes
  tablesLen := buf.bytes.length
  anchor := entryPointOf ep buf
  anchorLen := if ep = .type64 then sizeofSmbios30EntryPoint else sizeofSmbios21EntryPoint

/-- The result of `smbios_get_tables_ep` that an end stands for. -/
def Ended.Describes (ep : SmbiosEntryPointType) (e : Option SmbiosEntryPoint) :
    Ended → EStateM.Result Fault State (Option Published) → Prop
  | .faulted f, r => ∃ s', r = .error f s'
  | .refused o b, r => r = .ok none ⟨o, b, e⟩
  | .published o b, r => r = .ok (some (publishedOf ep b.buf)) ⟨o, b, some (entryPointOf ep b.buf)⟩

/-- Both passes: the entry point type of the last one, and how it ends. -/
def getTablesRun (h : Host) (ep : SmbiosEntryPointType) (ms : Machine) (o : Options) :
    SmbiosEntryPointType × Ended :=
  match ep with
  | .type32 => (.type32, epRun h .type32 ms o)
  | .type64 => (.type64, epRun h .type64 ms o)
  | .auto =>
    match epRun h .type32 ms o with
    | .refused o' _ => (.type64, epRun h .type64 ms o')
    | .faulted f => (.type32, .faulted f)
    | .published o' b => (.type32, .published o' b)

/-- What the caller of `smbios_get_tables` finds at an end, or the fault. -/
def Ended.result (ep : SmbiosEntryPointType) : Ended → Except Fault GetTablesResult
  | .faulted f => .error f
  | .refused _ b => .ok ⟨none, b.errp⟩
  | .published _ b => .ok ⟨some (publishedOf ep b.buf), none⟩

/-- The options and the build state at an end, unless it is a fault. -/
def Ended.state? : Ended → Option (Options × Build)
  | .faulted _ => none
  | .refused o b => some (o, b)
  | .published o b => some (o, b)

end Smbios
