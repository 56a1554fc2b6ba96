import Mathlib.Logic.Function.Basic
import Mathlib.Data.List.FinRange
import Mathlib.Order.MinMax
import PveAntiDetection.Lib.Runs

/-!
# Posted interrupts

A sender sets a vector in the posted-interrupt requests and then the outstanding notification, and
notifies the virtual CPU only if it was the first to set that and finds the virtual CPU in its
guest.  The virtual CPU stores its mode first and moves the requests afterwards.  Senders, kicks and
the virtual CPU run at once, and a notification may reach the CPU late.

* `PostedState` — the descriptor, the virtual APIC, and where everybody stands;
* `vmxDeliverPostedInterrupt`, `kvmVcpuTriggerPostedInterrupt` — the sender, access by access;
* `vmxSyncPirToIrr` — the virtual CPU, word by word;
* `postedStep` — the interleaving, with what the processor does with a notification;
* `Posted`, `posted_step` — the invariant;
* `posted_not_stuck` — in the guest, a request that is not moved has a notification under way;
* `posted_interrupt_arrives` — a posted vector reaches the virtual APIC of a guest that runs.
-/

set_option autoImplicit false

namespace Kvm

/-! ## The state -/

abbrev Vector256 := Fin 256

/-- `vcpu->mode`. -/
inductive VcpuMode where
  | outsideGuestMode
  | inGuestMode
  | exitingGuestMode
  deriving DecidableEq

/-- Where the virtual CPU stands in `vcpu_enter_guest`.  Interrupts are on only outside. -/
inductive EntryPlace where
  | outside
  /-- The mode is stored; `sync_pir_to_irr` is next. -/
  | announced
  /-- The next word that `kvm_apic_update_irr` moves. -/
  | moving (word : Nat)
  /-- `kvm_vcpu_exit_request` is next. -/
  | synced
  | guest
  /-- Behind an exit that may be handled on the fast path. -/
  | exited
  | leaving
  deriving DecidableEq

/-- Where a sender stands.  `entry` is the entry during which it read the mode. -/
inductive Sender where
  | idle
  /-- `pi_test_and_set_on` is next. -/
  | requested
  /-- The mode is read next. -/
  | notifying
  /-- `__apic_send_IPI_mask` is next. -/
  | posting (entry : Nat)
  /-- A kick has stored `EXITING_GUEST_MODE`; its IPI is next. -/
  | kicking (entry : Nat)
  deriving DecidableEq

structure PostedState (T : Type) where
  /-- `pi_desc.pir` and `pi_desc.on`. -/
  pir : Vector256 → Bool := fun _ => false
  on : Bool := false
  /-- The virtual APIC page and the requesting virtual interrupt. -/
  irr : Vector256 → Bool := fun _ => false
  rvi : Option Vector256 := none
  mode : VcpuMode := .outsideGuestMode
  place : EntryPlace := .outside
  entries : Nat := 0
  /-- Pending on the CPU: the notification vector, and a kick. -/
  notification : Bool := false
  kick : Bool := false
  senders : T → Sender := fun _ => .idle

inductive PostedEvent (T : Type) where
  /-- `vmx_deliver_posted_interrupt`. -/
  | deliver (t : T) (v : Vector256)
  /-- The same, by the virtual CPU itself on the fast path. -/
  | deliverSelf (v : Vector256)
  /-- The next access of a sender. -/
  | sender (t : T)
  /-- `kvm_vcpu_kick`. -/
  | kick (t : T)
  | announce
  | sync
  /-- `requested`: there is another reason not to enter. -/
  | check (requested : Bool)
  /-- The processor recognizes a pending notification in the guest. -/
  | process
  /-- The guest takes a virtual interrupt. -/
  | take (v : Vector256)
  | exit
  | leave
  | unmask
  /-- The host handles what is pending. -/
  | hostIrq

variable {T : Type}

/-! ## The virtual APIC -/

/-- `kvm_lapic_find_highest_irr`. -/
def highest (irr : Vector256 → Bool) : Option Vector256 :=
  (List.finRange 256).reverse.find? irr

/-- The higher one of two requests. -/
def higher (a b : Option Vector256) : Option Vector256 :=
  match a, b with
  | some x, some y => some (max x y)
  | some x, none => some x
  | none, b => b

/-- `kvm_apic_update_irr`, one word. -/
def moveWord (s : PostedState T) (word : Nat) : PostedState T :=
  { s with
    irr := fun v => s.irr v || (s.pir v && v.val / 32 == word)
    pir := fun v => s.pir v && v.val / 32 != word }

/-- `vmx_set_rvi` with the highest request. -/
def setRvi (s : PostedState T) : PostedState T :=
  { s with rvi := highest s.irr, place := .synced }

/-- `vmx_sync_pir_to_irr`, up to the next access. -/
def vmxSyncPirToIrr (s : PostedState T) : PostedState T :=
  match s.place with
  | .announced | .exited =>
    if s.on then { s with on := false, place := .moving 0 } else setRvi s
  | .moving word =>
    let s := moveWord s word
    if word + 1 = 8 then setRvi s else { s with place := .moving (word + 1) }
  | _ => s

/-- Posted-interrupt processing. -/
def processPosted (s : PostedState T) : PostedState T :=
  { s with
    notification := false
    on := false
    irr := fun v => s.irr v || s.pir v
    pir := fun _ => false
    rvi := higher s.rvi (highest s.pir) }

/-! ## The interleaving -/

section Steps

variable [DecidableEq T]

def PostedState.setSender (s : PostedState T) (t : T) (x : Sender) : PostedState T :=
  { s with senders := Function.update s.senders t x }

/-- `vmx_deliver_posted_interrupt`, where APICv is active: `pi_test_and_set_pir`. -/
def vmxDeliverPostedInterrupt (s : PostedState T) (t : T) (v : Vector256) : PostedState T :=
  if s.pir v then s
  else { s with pir := Function.update s.pir v true }.setSender t .requested

/-- The next access of a sender: `pi_test_and_set_on`, `kvm_vcpu_trigger_posted_interrupt`, and the
IPI, which reaches the virtual CPU only if it is still in the same entry. -/
def kvmVcpuTriggerPostedInterrupt (s : PostedState T) (t : T) : PostedState T :=
  match s.senders t with
  | .idle => s
  | .requested =>
    if s.on then s.setSender t .idle else { s with on := true }.setSender t .notifying
  | .notifying =>
    if s.mode = .inGuestMode then s.setSender t (.posting s.entries) else s.setSender t .idle
  | .posting entry =>
    { s with notification := s.notification || entry == s.entries }.setSender t .idle
  | .kicking entry => { s with kick := s.kick || entry == s.entries }.setSender t .idle

/-- One event; where it cannot happen, nothing happens. -/
def postedStep (s : PostedState T) : PostedEvent T → Unit × PostedState T
  | .deliver t v =>
    ((), if s.senders t = .idle then vmxDeliverPostedInterrupt s t v else s)
  | .deliverSelf v =>
    ((), if s.place = .exited then
      if s.pir v then s else { s with pir := Function.update s.pir v true, on := true }
      else s)
  | .sender t => ((), kvmVcpuTriggerPostedInterrupt s t)
  | .kick t =>
    ((), if s.senders t = .idle ∧ s.mode = .inGuestMode then
      { s with mode := .exitingGuestMode }.setSender t (.kicking s.entries) else s)
  | .announce =>
    ((), if s.place = .outside then
      { s with mode := .inGuestMode, place := .announced, entries := s.entries + 1 } else s)
  | .sync => ((), vmxSyncPirToIrr s)
  | .check requested =>
    ((), if s.place = .synced then
      if requested ∨ s.mode = .exitingGuestMode then
        { s with mode := .outsideGuestMode, place := .leaving }
      else { s with place := .guest }
      else s)
  | .process =>
    ((), if s.place = .guest ∧ s.notification then processPosted s else s)
  | .take v =>
    ((), if s.place = .guest ∧ s.rvi = some v then
      let irr := Function.update s.irr v false
      { s with irr := irr, rvi := highest irr }
      else s)
  | .exit => ((), if s.place = .guest then { s with place := .exited } else s)
  | .leave =>
    ((), if s.place = .exited then
      { s with mode := .outsideGuestMode, place := .leaving } else s)
  | .unmask => ((), if s.place = .leaving then { s with place := .outside } else s)
  | .hostIrq =>
    ((), if s.place = .outside then { s with notification := false, kick := false } else s)

end Steps

/-! ## The highest request -/

theorem highest_le {irr : Vector256 → Bool} {v : Vector256} (hv : irr v = true) :
    ∃ r, highest irr = some r ∧ v ≤ r := by
  unfold highest
  have hsorted : (List.finRange 256).reverse.Pairwise (· ≥ ·) :=
    List.pairwise_reverse.mpr ((List.pairwise_lt_finRange 256).imp le_of_lt)
  have hmem : v ∈ (List.finRange 256).reverse := List.mem_reverse.mpr (List.mem_finRange v)
  generalize (List.finRange 256).reverse = vs at hsorted hmem
  induction vs with
  | nil => cases hmem
  | cons w vs ih =>
    cases hw : irr w with
    | true =>
      refine ⟨w, by rw [List.find?_cons_of_pos hw], ?_⟩
      rcases List.mem_cons.mp hmem with rfl | hmem
      · exact le_refl v
      · exact (List.pairwise_cons.mp hsorted).1 v hmem
    | false =>
      rw [List.find?_cons_of_neg (by simp [hw])]
      rcases List.mem_cons.mp hmem with rfl | hmem
      · rw [hw] at hv
        cases hv
      · exact ih (List.pairwise_cons.mp hsorted).2 hmem

/-- What is at most one of two requests is at most the higher one. -/
theorem le_higher {a b : Option Vector256} {v : Vector256}
    (h : (∃ r, a = some r ∧ v ≤ r) ∨ ∃ r, b = some r ∧ v ≤ r) :
    ∃ r, higher a b = some r ∧ v ≤ r := by
  rcases h with ⟨r, rfl, hr⟩ | ⟨r, rfl, hr⟩
  · cases b with
    | none => exact ⟨r, rfl, hr⟩
    | some r' => exact ⟨max r r', rfl, le_max_of_le_left hr⟩
  · cases a with
    | none => exact ⟨r, rfl, hr⟩
    | some r' => exact ⟨max r' r, rfl, le_max_of_le_right hr⟩

/-! ## The invariant -/

/-- The mode is not `OUTSIDE_GUEST_MODE`. -/
@[grind =] def EntryPlace.announces : EntryPlace → Bool
  | .outside | .leaving => false
  | _ => true

/-- The outstanding notification has been looked at in this entry. -/
@[grind =] def EntryPlace.settled : EntryPlace → Bool
  | .moving _ | .synced | .guest => true
  | _ => false

/-- The requests of the word are still to be moved. -/
@[grind =] def EntryPlace.moves (place : EntryPlace) (v : Vector256) : Prop :=
  match place with
  | .moving word => word ≤ v.val / 32
  | _ => False

/-- The requesting virtual interrupt is up to date. -/
@[grind =] def EntryPlace.recognizes : EntryPlace → Bool
  | .synced | .guest => true
  | _ => false

@[grind →] theorem EntryPlace.announces_of_settled {place : EntryPlace} (h : place.settled) :
    place.announces := by
  cases place <;> first | rfl | cases h

structure Posted (s : PostedState T) : Prop where
  mode : s.mode ≠ .outsideGuestMode ↔ s.place.announces
  exiting : s.mode = .exitingGuestMode → s.kick ∨ ∃ t, s.senders t = .kicking s.entries
  pending : ∀ v, s.pir v → s.on ∨ (∃ t, s.senders t = .requested) ∨ s.place.moves v
  notified : s.on → s.place.settled → s.notification ∨ (∃ t, s.senders t = .notifying) ∨
    (∃ t, s.senders t = .posting s.entries) ∨ s.mode = .exitingGuestMode
  rvi : s.place.recognizes → ∀ v, s.irr v → ∃ r, s.rvi = some r ∧ v ≤ r

theorem posted_init : Posted ({} : PostedState T) := by
  refine ⟨?_, ?_, ?_, ?_, ?_⟩
  all_goals simp [EntryPlace.announces, EntryPlace.settled, EntryPlace.recognizes]

theorem posted_setRvi {s : PostedState T} (hs : Posted s) (hplace : s.place.announces)
    (hmoved : ∀ v, s.pir v → s.on ∨ ∃ t, s.senders t = .requested)
    (hnotified : s.on → s.place.settled) : Posted (setRvi s) := by
  obtain ⟨hmode, hexiting, -, hnotified', -⟩ := id hs
  refine { hs with mode := ?_, pending := ?_, notified := ?_, rvi := fun _ v hv => highest_le hv }
  · exact ⟨fun _ => rfl, fun _ => hmode.mpr hplace⟩
  · exact fun v hv => (hmoved v hv).imp_right .inl
  · exact fun hon _ => hnotified' hon (hnotified hon)

theorem posted_sync {s : PostedState T} (hs : Posted s) : Posted (vmxSyncPirToIrr s) := by
  obtain ⟨hmode, hexiting, hpending, hnotified, hrvi⟩ := id hs
  unfold vmxSyncPirToIrr
  split
  · split
    · refine ⟨?_, ?_, ?_, ?_, ?_⟩ <;> grind -linarith
    · apply posted_setRvi hs <;> grind -linarith
  · split
    · refine ⟨?_, ?_, ?_, ?_, ?_⟩ <;> grind -linarith
    · apply posted_setRvi hs <;> grind -linarith
  · rename_i word hplace
    have hmoving : Posted { moveWord s word with place := .moving (word + 1) } := by
      refine ⟨?_, ?_, ?_, ?_, ?_⟩ <;> dsimp only [moveWord] <;> grind -linarith
    dsimp only
    split
    · rename_i hlast
      have hmoved := posted_setRvi hmoving rfl (by
        intro v hv
        rcases hmoving.pending v hv with hon | ht | hmoves
        · exact .inl hon
        · exact .inr ht
        · have : word + 1 ≤ v.val / 32 := hmoves
          omega) (fun _ => rfl)
      exact { hmoved with }
    · exact hmoving
  · exact hs

variable [DecidableEq T]

theorem posted_sender {s : PostedState T} (hs : Posted s) (t : T) :
    Posted (kvmVcpuTriggerPostedInterrupt s t) := by
  obtain ⟨hmode, hexiting, hpending, hnotified, hrvi⟩ := id hs
  unfold kvmVcpuTriggerPostedInterrupt
  split
  · exact hs
  · split
    all_goals
      refine ⟨?_, ?_, ?_, ?_, ?_⟩
      all_goals simp only [PostedState.setSender, Function.update_apply]
      all_goals grind -linarith
  · have hcases : s.mode = .inGuestMode ∨ s.mode = .exitingGuestMode ∨
        s.mode = .outsideGuestMode := by
      cases s.mode <;> simp
    split
    all_goals
      refine ⟨?_, ?_, ?_, ?_, ?_⟩
      all_goals simp only [PostedState.setSender, Function.update_apply]
      all_goals grind -linarith
  · refine ⟨?_, ?_, ?_, ?_, ?_⟩
    all_goals simp only [PostedState.setSender, Function.update_apply]
    all_goals grind -linarith
  · refine ⟨?_, ?_, ?_, ?_, ?_⟩
    all_goals simp only [PostedState.setSender, Function.update_apply]
    all_goals grind -linarith

/-- `vmx_deliver_posted_interrupt` up to its kick. -/
theorem posted_deliver {s : PostedState T} (hs : Posted s) (t : T) (v : Vector256) :
    Posted (postedStep s (.deliver t v)).2 := by
  obtain ⟨hmode, hexiting, hpending, hnotified, hrvi⟩ := id hs
  simp only [postedStep, vmxDeliverPostedInterrupt]
  split
  · split
    · exact hs
    · refine ⟨?_, ?_, ?_, ?_, ?_⟩
      all_goals simp only [PostedState.setSender, Function.update_apply]
      all_goals grind -linarith
  · exact hs

/-- The same, by the thread of the virtual CPU itself. -/
theorem posted_deliverSelf {s : PostedState T} (hs : Posted s) (v : Vector256) :
    Posted (postedStep s (.deliverSelf v)).2 := by
  obtain ⟨hmode, hexiting, hpending, hnotified, hrvi⟩ := id hs
  simp only [postedStep]
  split
  · split
    · exact hs
    · refine ⟨?_, ?_, ?_, ?_, ?_⟩ <;> grind -linarith
  · exact hs

/-- `kvm_vcpu_exiting_guest_mode`. -/
theorem posted_kick {s : PostedState T} (hs : Posted s) (t : T) :
    Posted (postedStep s (.kick t)).2 := by
  obtain ⟨hmode, hexiting, hpending, hnotified, hrvi⟩ := id hs
  simp only [postedStep]
  split
  · refine ⟨?_, ?_, ?_, ?_, ?_⟩
    all_goals simp only [PostedState.setSender, Function.update_apply]
    all_goals grind -linarith
  · exact hs

/-- The last look at the requests before the entry. -/
theorem posted_check {s : PostedState T} (hs : Posted s) (requested : Bool) :
    Posted (postedStep s (.check requested)).2 := by
  obtain ⟨hmode, hexiting, hpending, hnotified, hrvi⟩ := id hs
  simp only [postedStep]
  split
  · split
    all_goals refine ⟨?_, ?_, ?_, ?_, ?_⟩ <;> grind -linarith
  · exact hs

/-- The processor moves the requests. -/
theorem posted_process {s : PostedState T} (hs : Posted s) :
    Posted (postedStep s (.process)).2 := by
  obtain ⟨hmode, hexiting, -, -, hrvi⟩ := id hs
  simp only [postedStep, processPosted]
  split
  · rename_i hguest
    refine ⟨hmode, hexiting, nofun, nofun, fun _ v hv => le_higher ?_⟩
    rcases Bool.or_eq_true_iff.mp hv with hirr | hpir
    · exact .inl (hrvi (by rw [hguest.1]; rfl) v hirr)
    · exact .inr (highest_le hpir)
  · exact hs

/-- **Every event keeps the invariant.** -/
theorem posted_step {s : PostedState T} (hs : Posted s) (e : PostedEvent T) :
    Posted (postedStep s e).2 := by
  obtain ⟨hmode, hexiting, hpending, hnotified, hrvi⟩ := id hs
  cases e with
  | sync => exact posted_sync hs
  | sender t => exact posted_sender hs t
  | deliver t v => exact posted_deliver hs t v
  | deliverSelf v => exact posted_deliverSelf hs v
  | kick t => exact posted_kick hs t
  | announce =>
    simp only [postedStep]
    split
    · refine ⟨?_, ?_, ?_, ?_, ?_⟩ <;> grind -linarith
    · exact hs
  | check requested => exact posted_check hs requested
  | process => exact posted_process hs
  | take v =>
    simp only [postedStep]
    split
    · exact { hs with rvi := fun _ w hw => highest_le hw }
    · exact hs
  | exit =>
    simp only [postedStep]
    split
    · refine ⟨?_, ?_, ?_, ?_, ?_⟩ <;> grind -linarith
    · exact hs
  | leave =>
    simp only [postedStep]
    split
    · refine ⟨?_, ?_, ?_, ?_, ?_⟩ <;> grind -linarith
    · exact hs
  | unmask =>
    simp only [postedStep]
    split
    · refine ⟨?_, ?_, ?_, ?_, ?_⟩ <;> grind -linarith
    · exact hs
  | hostIrq =>
    simp only [postedStep]
    split
    · refine ⟨?_, ?_, ?_, ?_, ?_⟩ <;> grind -linarith
    · exact hs

/-- **The invariant of every run.** -/
theorem posted_run (es : List (PostedEvent T)) :
    Posted (Runs.final postedStep ({} : PostedState T) es) :=
  Runs.final_induct (I := Posted) (fun _ e hs => posted_step hs e) es posted_init

/-! ## No interrupt is stuck, and none is lost -/

omit [DecidableEq T] in
/-- A request that is not moved has a notification or a kick under way. -/
theorem Posted.under_way {s : PostedState T} (hs : Posted s) (hguest : s.place = .guest)
    {v : Vector256} (hpir : s.pir v = true) :
    s.notification ∨ s.kick ∨ ∃ t, s.senders t ≠ .idle := by
  have hsettled : s.place.settled := by rw [hguest]; rfl
  rcases hs.pending v hpir with hon | ⟨t, ht⟩ | hmoves
  · rcases hs.notified hon hsettled with h | ⟨t, ht⟩ | ⟨t, ht⟩ | hexiting
    · exact .inl h
    · exact .inr (.inr ⟨t, by rw [ht]; nofun⟩)
    · exact .inr (.inr ⟨t, by rw [ht]; nofun⟩)
    · rcases hs.exiting hexiting with h | ⟨t, ht⟩
      · exact .inr (.inl h)
      · exact .inr (.inr ⟨t, by rw [ht]; nofun⟩)
  · exact .inr (.inr ⟨t, by rw [ht]; nofun⟩)
  · rw [hguest] at hmoves
    cases hmoves

/-- **In the guest, a request that is not moved has a notification or a kick under way**: it is
pending on the CPU, or a sender has yet to send it. -/
theorem posted_not_stuck (es : List (PostedEvent T)) (v : Vector256)
    (hguest : (Runs.final postedStep ({} : PostedState T) es).place = .guest)
    (hpir : (Runs.final postedStep ({} : PostedState T) es).pir v = true) :
    let s := Runs.final postedStep ({} : PostedState T) es
    s.notification ∨ s.kick ∨ ∃ t, s.senders t ≠ .idle :=
  (posted_run es).under_way hguest hpir

/-- A vector in the requests, while the sender has yet to notify. -/
theorem posted_not_stuck_sender :
    let s := Runs.final postedStep {} [.announce, .sync, .check false, .deliver () 48]
    s.notification ∨ s.kick ∨ ∃ t, s.senders t ≠ .idle :=
  posted_not_stuck [.announce, .sync, .check false, .deliver () 48] 48 (by decide) (by decide)

/-- What an event says of a vector: it is posted, or the guest takes it. -/
def PostedEvent.posts (v : Vector256) : PostedEvent T → Option Bool
  | .deliver _ w | .deliverSelf w => if w = v then some true else none
  | .take w => if w = v then some false else none
  | _ => none

/-- The sender is not busy, or the virtual CPU is on its fast path. -/
def PostedEnabled (s : PostedState T) : PostedEvent T → Prop
  | .deliver t _ => s.senders t = .idle
  | .deliverSelf _ => s.place = .exited
  | _ => True

instance (s : PostedState T) (e : PostedEvent T) : Decidable (PostedEnabled s e) :=
  match e with
  | .deliver t _ => inferInstanceAs (Decidable (s.senders t = .idle))
  | .deliverSelf _ => inferInstanceAs (Decidable (s.place = .exited))
  | .sender _ | .kick _ | .announce | .sync | .check _ | .process | .take _ | .exit | .leave
  | .unmask | .hostIrq => inferInstanceAs (Decidable True)

/-- The vector is requested, posted or not. -/
def PostedState.Requested (s : PostedState T) (v : Vector256) : Prop :=
  s.pir v = true ∨ s.irr v = true

/-- A vector that is posted is requested. -/
theorem requested_of_posts {s : PostedState T} {v : Vector256} {e : PostedEvent T}
    (hen : PostedEnabled s e) (h : e.posts v = some true) : (postedStep s e).2.Requested v := by
  cases e with
  | deliver t w =>
    simp only [PostedEvent.posts] at h
    split at h
    · rename_i hw
      subst hw
      left
      rw [postedStep, if_pos (show s.senders t = .idle from hen), vmxDeliverPostedInterrupt]
      split
      · assumption
      · exact Function.update_self ..
    · cases h
  | deliverSelf w =>
    simp only [PostedEvent.posts] at h
    split at h
    · rename_i hw
      subst hw
      left
      rw [postedStep, if_pos (show s.place = .exited from hen)]
      dsimp only
      split
      · assumption
      · exact Function.update_self ..
    · cases h
  | take w =>
    simp only [PostedEvent.posts] at h
    split at h <;> cases h
  | _ => cases h

omit [DecidableEq T] in
/-- Moving the requests moves no vector away. -/
theorem requested_sync {s : PostedState T} {v : Vector256} (hs : s.Requested v) :
    (vmxSyncPirToIrr s).Requested v := by
  have hmoved : ∀ word, (moveWord s word).Requested v := by
    intro word
    rcases hs with h | h
    · by_cases hw : v.val / 32 = word
      · exact .inr (by simp [moveWord, h, hw])
      · exact .inl (by simp [moveWord, h, hw])
    · exact .inr (by simp [moveWord, h])
  unfold vmxSyncPirToIrr
  split
  · split <;> exact hs
  · split <;> exact hs
  · rename_i word _
    dsimp only
    split <;> exact hmoved word
  · exact hs

/-- It stays requested until the guest takes it. -/
theorem requested_step {s : PostedState T} {v : Vector256} {e : PostedEvent T}
    (h : e.posts v = none) (hs : s.Requested v) : (postedStep s e).2.Requested v := by
  cases e with
  | sync => exact requested_sync hs
  | deliver t w | deliverSelf w =>
    have hne : v ≠ w := by
      rintro rfl
      simp [PostedEvent.posts] at h
    simp only [postedStep, vmxDeliverPostedInterrupt]
    split
    · split
      · exact hs
      · refine hs.imp_left fun hpir => ?_
        simp only [PostedState.setSender, Function.update_of_ne hne]
        exact hpir
    · exact hs
  | take w =>
    have hne : v ≠ w := by
      rintro rfl
      simp [PostedEvent.posts] at h
    simp only [postedStep]
    split
    · refine hs.imp_right fun hirr => ?_
      simp only [Function.update_of_ne hne]
      exact hirr
    · exact hs
  | sender t =>
    simp only [postedStep, kvmVcpuTriggerPostedInterrupt]
    split
    · exact hs
    · split <;> exact hs
    · split <;> exact hs
    · exact hs
    · exact hs
  | process =>
    simp only [postedStep]
    split
    · exact .inr (Bool.or_eq_true_iff.mpr hs.symm)
    · exact hs
  | check requested =>
    simp only [postedStep]
    split
    · split <;> exact hs
    · exact hs
  | kick | announce | exit | leave | unmask | hostIrq =>
    simp only [postedStep]
    split <;> exact hs

/-- The guest runs, the senders are done, and nothing is pending on the CPU. -/
structure PostedState.Quiet (s : PostedState T) : Prop where
  guest : s.place = .guest
  senders : ∀ t, s.senders t = .idle
  notification : s.notification = false
  kick : s.kick = false

/-- **A posted interrupt arrives**: in every run in which it is posted and not taken since, once the
senders are done and nothing is pending on the CPU, a guest that runs has it in its virtual APIC,
and the processor has recognized it or a higher one. -/
theorem posted_interrupt_arrives (es : List (PostedEvent T)) (v : Vector256)
    (hen : Runs.Each postedStep PostedEnabled ({} : PostedState T) es)
    (hposted : Runs.last (PostedEvent.posts v) es = some true)
    (hquiet : (Runs.final postedStep ({} : PostedState T) es).Quiet) :
    let s := Runs.final postedStep ({} : PostedState T) es
    s.irr v = true ∧ ∃ r, s.rvi = some r ∧ v ≤ r := by
  intro s
  have hrequested : s.Requested v :=
    Runs.final_of_last (U := fun s => s.Requested v) (fun _ _ h => requested_of_posts h)
      (fun _ _ _ => requested_step) es (b := false) hen nofun (by rw [hposted]; rfl)
  have hirr : s.irr v = true := by
    refine hrequested.resolve_left fun hpir => ?_
    rcases (posted_run es).under_way hquiet.guest hpir with h | h | ⟨t, ht⟩
    · exact absurd h (by simp [hquiet.notification])
    · exact absurd h (by simp [hquiet.kick])
    · exact ht (hquiet.senders t)
  exact ⟨hirr, (posted_run es).rvi (by rw [hquiet.guest]; rfl) v hirr⟩

/-- A sender that finds the virtual CPU in its guest, where two vectors have been posted. -/
def postedTwice : List (PostedEvent Unit) :=
  [.deliver () 65, .sender (), .sender (), .announce] ++ List.replicate 9 .sync ++
    [.check false, .deliver () 48, .sender (), .sender (), .sender (), .process]

theorem posted_interrupt_arrives_twice :
    let s := Runs.final postedStep {} postedTwice
    s.irr 48 = true ∧ ∃ r, s.rvi = some r ∧ (48 : Vector256) ≤ r :=
  posted_interrupt_arrives postedTwice 48 (by decide) (by decide)
    ⟨by decide, fun () => by decide, by decide, by decide⟩

end Kvm
