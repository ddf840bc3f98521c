import Mathlib.Data.List.DropRight
import VeteraBridge.Gateway.DeferredSet
import VeteraBridge.Link.Session
import VeteraBridge.Proxy.Request

/-!
# The Bluetooth device name

The web task renames the bridge and BTstack's task applies the name: when the
controller comes up, and in a callback that a rename puts on the run loop.  A
step is one access to what the two tasks share.
-/

namespace VeteraBridge.Gateway

open EventRun
open DeferredApply (State)
open Link (BdAddr)
open Proxy (ascii cstr strlcpy space)

/-- `BT_NAME_PREFIX`. -/
def btNamePrefix : List UInt8 := ascii "Vetera Bridge"

/-- `BT_NAME_MAX`, including the NUL. -/
def btNameMax : Nat := 32

def btNameCustomMax : Nat := 24

/-- The name that `bt_name_set` cleans: printable ASCII, without the blanks
around it. -/
def btNameClean (name : Option (List UInt8)) : List UInt8 :=
  let text := (cstr (name.getD [])).dropWhile (· == space)
  ((text.filter fun c => 0x20 ≤ c && c ≤ 0x7E).take btNameCustomMax).rdropWhile
    (· == space)

/-- What `bt_name_apply_from_addr` makes of the address. -/
def btNameDerived (addr : BdAddr) : List UInt8 :=
  let number := addr[4].toNat * 256 + addr[5].toNat
  strlcpy (btNamePrefix ++ ascii (" " ++ toString number)) btNameMax

/-- These digits are the number in decimal, without a leading zero. -/
structure Decimal (digits : List (Fin 10)) (number : Nat) : Prop where
  value : digits.foldl (fun value digit => 10 * value + digit.val) 0 = number
  nonempty : digits ≠ []
  shortest : digits.head? = some 0 → digits = [0]

/-- "Vetera Bridge", a blank, and the last two bytes of the address in
decimal. -/
def IsDerived (addr : BdAddr) (name : List UInt8) : Prop :=
  ∃ digits, Decimal digits (addr[4].toNat * 256 + addr[5].toNat) ∧
    name = ascii "Vetera Bridge " ++
      digits.map fun digit => UInt8.ofNat (48 + digit.val)

/-- What `nvs_name_load` leaves in `name_custom`. -/
def nvsNameLoad (opened : Bool) (nvs : Option (List UInt8)) : List UInt8 :=
  match nvs with
  | none => []
  | some stored =>
    if opened && (cstr stored).length + 1 ≤ btNameMax then
      strlcpy stored btNameMax
    else []

/-- `nvs_name_save`, where NVS can be opened and written. -/
def nvsNameSave (opened written : Bool) (nvs : Option (List UInt8))
    (name : List UInt8) : Option (List UInt8) :=
  if opened && written then if name = [] then none else some name else nvs

/-- What the BTstack task does next. -/
inductive NameBtPc where
  /-- `bt_setup`, from `gap_set_local_name` -/
  | setup
  | idle
  /-- `apply_cb`: clear `apply_pending` -/
  | called
  /-- `bt_name_apply_from_addr`: copy `name_custom` -/
  | copies
  | derives (custom : List UInt8)
  | activates (custom derived : List UInt8)
  /-- `name_active` is written: call `gap_set_local_name` -/
  | names (custom : List UInt8)
deriving DecidableEq, Repr

/-- `bt_name.c`, with the two tasks and what BTstack keeps for the bridge; the
setting is `name_custom`. -/
structure DeviceName extends Setting (List UInt8) where
  nameActive : List UInt8
  nameDerived : List UInt8
  bt : NameBtPc
  /-- what `gap_local_bd_addr` gives -/
  localAddr : BdAddr
  /-- the contents at the last call of `gap_set_local_name` -/
  gapName : Option (List UInt8)
  /-- `HCI_STATE_WORKING` was seen -/
  cameUp : Bool

inductive NameEvent where
  /-- the web task calls `bt_name_set` -/
  | set (name : Option (List UInt8))
  /-- the web task goes on -/
  | web (opened written : Bool)
  /-- the controller, not yet up, reports its address -/
  | address (addr : BdAddr)
  /-- `BTSTACK_EVENT_STATE` with `HCI_STATE_WORKING` -/
  | working
  /-- the run loop takes `apply_cb_reg` off its list -/
  | runLoop
  /-- the BTstack task goes on -/
  | bt
deriving DecidableEq, Repr

namespace DeviceName

/-- After `bt_name_init`, at the start of `bt_setup`. -/
def boot (opened : Bool) (nvs : Option (List UInt8)) : DeviceName :=
  let custom := nvsNameLoad opened nvs
  { Setting.boot custom nvs with
    nameActive := if custom ≠ [] then strlcpy custom btNameMax else btNamePrefix
    nameDerived := []
    bt := .setup
    localAddr := Vector.replicate 6 0
    gapName := none
    cameUp := false }

def btNameSet (name : Option (List UInt8)) (s : DeviceName) : DeviceName :=
  { s with toSetting := s.toSetting.webSet (btNameClean name) }

/-- `bt_name_set`, from its critical section. -/
def webStep (opened written : Bool) (s : DeviceName) : DeviceName :=
  { s with
    toSetting :=
      s.toSetting.webStep (strlcpy · btNameMax) (nvsNameSave opened written) }

/-- `bt_setup`, `apply_cb` and `bt_name_apply_from_addr`. -/
def btStep (s : DeviceName) : DeviceName :=
  match s.bt with
  | .setup => { s with gapName := some s.nameActive, bt := .idle }
  | .idle => s
  | .called => { s with applyPending := false, bt := .copies }
  | .copies => { s with bt := .derives (strlcpy s.value btNameMax) }
  | .derives custom =>
    let derived := btNameDerived s.localAddr
    { s with
      nameDerived := strlcpy derived btNameMax
      bt := .activates custom derived }
  | .activates custom derived =>
    { s with
      nameActive := strlcpy (if custom ≠ [] then custom else derived) btNameMax
      bt := .names custom }
  | .names _ => { s with gapName := some s.nameActive, bt := .idle }

def address (addr : BdAddr) (s : DeviceName) : DeviceName :=
  match s.bt, s.cameUp with
  | .idle, false => { s with localAddr := addr }
  | _, _ => s

def working (s : DeviceName) : DeviceName :=
  match s.bt with
  | .idle => { s with bt := .copies, cameUp := true }
  | _ => s

def runLoop (s : DeviceName) : DeviceName :=
  match s.bt, s.queued with
  | .idle, queued + 1 => { s with queued := queued, bt := .called }
  | _, _ => s

def step (s : DeviceName) : NameEvent → DeviceName
  | .set name => s.btNameSet name
  | .web opened written => s.webStep opened written
  | .address addr => s.address addr
  | .working => s.working
  | .runLoop => s.runLoop
  | .bt => s.btStep

/-- The phone is told this custom name, or the one made of the address where
it is empty. -/
def Shows (custom : List UInt8) (s : DeviceName) : Prop :=
  (if custom ≠ [] then s.nameActive = custom
    else IsDerived s.localAddr s.nameActive) ∧
    s.gapName = some s.nameActive

/-- Once the BTstack task has returned from its handler. -/
def handlerDone (s : DeviceName) : DeviceName :=
  run step s (List.replicate 5 .bt)

end DeviceName

/-! ## Names fit their buffers -/

/-- The name is copied whole. -/
def NameFits (name : List UInt8) : Prop :=
  strlcpy name btNameMax = name

theorem nameFits_of_short {name : List UInt8} (text : ∀ c ∈ name, c ≠ 0)
    (short : name.length ≤ 31) : NameFits name := by
  have whole : cstr name = name := by
    rw [cstr, List.takeWhile_eq_self_iff]
    simpa using text
  rw [NameFits, strlcpy, whole, List.take_of_length_le]
  simpa [btNameMax] using short

theorem nameFits_strlcpy (name : List UInt8) :
    NameFits (strlcpy name btNameMax) := by
  apply nameFits_of_short
  · intro c member
    have inText := List.mem_of_mem_take member
    simpa using List.mem_takeWhile_imp inText
  · exact List.length_take_le _ _

theorem nameFits_clean (name : Option (List UInt8)) :
    NameFits (btNameClean name) := by
  have within := List.rdropWhile_prefix (· == space)
    ((((cstr (name.getD [])).dropWhile (· == space)).filter
      fun c => 0x20 ≤ c && c ≤ 0x7E).take btNameCustomMax)
  apply nameFits_of_short
  · rintro c member rfl
    have kept := List.mem_of_mem_take (within.subset member)
    simpa using (List.mem_filter.mp kept).2
  · have bound := within.length_le
    have taken := List.length_take_le btNameCustomMax
      (((cstr (name.getD [])).dropWhile (· == space)).filter
        fun c => 0x20 ≤ c && c ≤ 0x7E)
    rw [btNameClean]
    simp only [btNameCustomMax] at bound taken ⊢
    omega

theorem nameFits_load (opened : Bool) (nvs : Option (List UInt8)) :
    NameFits (nvsNameLoad opened nvs) := by
  unfold nvsNameLoad
  split
  · rfl
  · split
    · exact nameFits_strlcpy _
    · rfl

/-! ## The name made of the address -/

private theorem digitChar_byte (digit : Fin 10) :
    UInt8.ofNat digit.val.digitChar.toNat = UInt8.ofNat (48 + digit.val) := by
  rw [Nat.toNat_digitChar_of_lt_ten digit.isLt]

/-- The last digit comes off the end. -/
theorem exists_decimal (number : Nat) :
    ∃ digits, Decimal digits number ∧
      Nat.toDigits 10 number = digits.map fun digit => digit.val.digitChar := by
  induction number using Nat.strong_induction_on with
  | h number ih =>
      by_cases small : number < 10
      · refine ⟨[⟨number, small⟩], ⟨?_, by simp, ?_⟩, ?_⟩
        · simp
        · intro zero
          simpa using zero
        · rw [Nat.toDigits_of_lt_base small]
          rfl
      · obtain ⟨front, decimal, written⟩ := ih (number / 10) (by omega)
        let last : Fin 10 := ⟨number % 10, by omega⟩
        refine ⟨front ++ [last], ⟨?_, by simp, ?_⟩, ?_⟩
        · rw [List.foldl_append, decimal.value]
          exact Nat.div_add_mod number 10
        · rw [List.head?_append_of_ne_nil _ decimal.nonempty]
          intro zero
          -- a number from 10 on does not begin with a zero
          have value := decimal.value
          rw [decimal.shortest zero] at value
          simp only [List.foldl_cons, List.foldl_nil] at value
          omega
        · rw [Nat.toDigits_of_base_le (by decide) (by omega), written,
            List.map_append]
          rfl

/-- What `%u` prints of a number with at most five digits. -/
theorem exists_digits {number : Nat} (below : number < 100000) :
    ∃ digits, Decimal digits number ∧ digits.length ≤ 5 ∧
      ascii (toString number) =
        digits.map fun digit => UInt8.ofNat (48 + digit.val) := by
  obtain ⟨digits, decimal, written⟩ := exists_decimal number
  refine ⟨digits, decimal, ?_, ?_⟩
  · rw [← List.length_map (fun digit : Fin 10 => digit.val.digitChar),
      ← written]
    exact (Nat.length_toDigits_le_iff (by decide) (by decide)).mpr below
  · have printed : (toString number).toList =
        digits.map fun digit => digit.val.digitChar :=
      Nat.toList_repr.trans written
    rw [ascii, printed, List.map_map]
    exact List.map_congr_left fun digit _ => digitChar_byte digit

theorem btNamePrefix_number (number : Nat) :
    btNamePrefix ++ ascii (" " ++ toString number) =
      ascii "Vetera Bridge " ++ ascii (toString number) := by
  rw [ascii, String.toList_append, List.map_append, ← List.append_assoc]
  rfl

theorem isDerived_btNameDerived (addr : BdAddr) :
    IsDerived addr (btNameDerived addr) := by
  have high := addr[4].toNat_lt
  have low := addr[5].toNat_lt
  obtain ⟨digits, decimal, length, printed⟩ :=
    exists_digits (show addr[4].toNat * 256 + addr[5].toNat < 100000 by omega)
  refine ⟨digits, decimal, ?_⟩
  rw [btNameDerived, btNamePrefix_number, printed]
  apply nameFits_of_short
  · have inPrefix : ∀ c ∈ ascii "Vetera Bridge ", c ≠ 0 := by decide +kernel
    have aDigit : ∀ digit : Fin 10, UInt8.ofNat (48 + digit.val) ≠ 0 := by
      decide
    intro c member
    rcases List.mem_append.mp member with front | last
    · exact inPrefix c front
    · obtain ⟨digit, _, rfl⟩ := List.mem_map.mp last
      exact aDigit digit
  · rw [List.length_append, List.length_map]
    have prefixLength : (ascii "Vetera Bridge ").length = 14 := by decide
    omega

/-! ## The abstract setting -/

/-- The BTstack task as the worker. -/
def NameBtPc.worker : NameBtPc → DeferredApply.Worker (List UInt8)
  | .setup | .idle => .idle
  | .called => .taken
  | .copies => .reads
  | .derives custom | .activates custom _ | .names custom => .applies custom

/-- What the locals of `bt_name_apply_from_addr` are. -/
def NameBtPc.Composes (s : DeviceName) : NameBtPc → Prop
  | .derives custom => NameFits custom
  | .activates custom derived =>
    NameFits custom ∧ derived = btNameDerived s.localAddr
  | .names custom =>
    s.nameActive = if custom ≠ [] then custom else btNameDerived s.localAddr
  | .setup | .idle | .called | .copies => True

namespace DeviceName

/-- What `set_active` and `gap_set_local_name` leave. -/
theorem shows_of_composed {custom : List UInt8} {s : DeviceName}
    (active : s.nameActive =
      if custom ≠ [] then custom else btNameDerived s.localAddr)
    (told : s.gapName = some s.nameActive) : s.Shows custom := by
  refine ⟨?_, told⟩
  split_ifs with named
  · rw [active, if_pos named]
  · rw [active, if_neg named]
    exact isDerived_btNameDerived s.localAddr

/-- The device name is a deferred setting. -/
structure Refines (loaded : List UInt8) (s : DeviceName)
    (a : State (List UInt8)) : Prop where
  setting : s.toSetting.Matches (strlcpy · btNameMax) loaded a
  worker : a.worker = s.bt.worker
  composes : s.bt.Composes s
  fresh : s.cameUp = true → a.Fresh
  shown : s.cameUp = true → s.bt.worker = .idle →
    ∀ custom, a.applied = some custom → s.Shows custom

section Refinement

variable {loaded : List UInt8} {s : DeviceName} {a : State (List UInt8)}

/-- What the abstract setting does while the bridge takes a step. -/
def Follows (loaded : List UInt8) (a : State (List UInt8)) (s' : DeviceName) :
    Prop :=
  ∃ after, a.Leads after ∧ s'.Refines loaded after

theorem Refines.follows (refines : s.Refines loaded a) : Follows loaded a s :=
  ⟨a, .refl a, refines⟩

theorem Refines.btNameSet (refines : s.Refines loaded a)
    (name : Option (List UInt8)) : Follows loaded a (s.btNameSet name) :=
  Refines.follows { refines with
    setting := refines.setting.webSet (nameFits_clean name)
    composes := refines.composes }

theorem Refines.webStep (refines : s.Refines loaded a)
    (registered : a.Registered) (opened written : Bool) :
    Follows loaded a (s.webStep opened written) := by
  obtain ⟨after, leads, setting, worker, applied⟩ :=
    refines.setting.webStep (nvsNameSave opened written)
  refine ⟨after, leads, ?_⟩
  exact {
    setting := setting
    worker := worker.trans refines.worker
    composes := refines.composes
    fresh := fun cameUp => (refines.fresh cameUp).leads registered leads
    shown := fun cameUp atRest custom isApplied =>
      refines.shown cameUp atRest custom (applied.symm.trans isApplied) }

/-- The address changes only where no name made of it is at work. -/
theorem Refines.address (refines : s.Refines loaded a) (addr : BdAddr) :
    Follows loaded a (s.address addr) := by
  unfold DeviceName.address
  split
  · rename_i bt notYet
    apply Refines.follows
    refine { refines with
      composes := ?_
      shown := ?_ }
    · show NameBtPc.Composes _ s.bt
      rw [bt]
      trivial
    · intro cameUp
      cases notYet.symm.trans cameUp
  · exact refines.follows

theorem Refines.working (refines : s.Refines loaded a) :
    Follows loaded a s.working := by
  unfold DeviceName.working
  split
  · rename_i bt
    have worker := refines.worker
    rw [bt] at worker
    refine ⟨a.step .start, .step a _, ?_⟩
    rw [State.step, State.beginRead_of_idle worker]
    exact {
      setting := { refines.setting with }
      worker := rfl
      composes := trivial
      fresh := fun _ => State.fresh_of_reads rfl
      shown := fun _ atRest => by cases atRest }
  · exact refines.follows

theorem Refines.runLoop (refines : s.Refines loaded a)
    (registered : a.Registered) : Follows loaded a s.runLoop := by
  unfold DeviceName.runLoop
  split
  · rename_i queued bt listed
    have worker := refines.worker
    rw [bt] at worker
    have isListed := refines.setting.queued.trans listed
    refine ⟨a.step .take, .step a _, ?_⟩
    have fresh := fun cameUp => (refines.fresh cameUp).take registered
    rw [State.take_of_idle worker isListed] at fresh
    rw [State.step, State.take_of_idle worker isListed]
    exact {
      setting := { refines.setting with queued := rfl }
      worker := rfl
      composes := trivial
      fresh := fresh
      shown := fun _ atRest => by cases atRest }
  · exact refines.follows

/-- The steps of the callback up to the read, and its last one, are steps of
the worker. -/
theorem Refines.btStep (refines : s.Refines loaded a) :
    Follows loaded a s.btStep := by
  have composes := refines.composes
  have worker := refines.worker
  have fresh := fun cameUp => (refines.fresh cameUp).work
  unfold DeviceName.btStep
  split
  · rename_i bt
    have shown := refines.shown
    rw [bt] at worker shown
    exact Refines.follows { refines with
      worker := worker
      composes := trivial
      shown := fun cameUp atRest custom applied =>
        ⟨(shown cameUp atRest custom applied).1, rfl⟩ }
  · exact refines.follows
  · rename_i bt
    rw [bt] at worker
    refine ⟨a.step .work, .step a _, ?_⟩
    rw [State.work_of_taken worker] at fresh
    rw [State.step, State.work_of_taken worker]
    exact {
      setting := { refines.setting with pending := rfl }
      worker := rfl
      composes := trivial
      fresh := fresh
      shown := fun _ atRest => by cases atRest }
  · rename_i bt
    rw [bt] at worker
    have copied : strlcpy s.value btNameMax = a.value :=
      refines.setting.valueFits.trans refines.setting.value.symm
    refine ⟨a.step .work, .step a _, ?_⟩
    rw [State.work_of_reads worker] at fresh
    rw [State.step, State.work_of_reads worker, copied]
    exact {
      setting := { refines.setting with }
      worker := rfl
      composes := copied ▸ nameFits_strlcpy s.value
      fresh := fresh
      shown := fun _ atRest => by cases atRest }
  · rename_i custom bt
    rw [bt] at worker composes
    exact Refines.follows { refines with
      worker := worker
      composes := ⟨composes, rfl⟩
      shown := fun _ atRest => by cases atRest }
  · rename_i custom derived bt
    rw [bt] at worker composes
    obtain ⟨fits, rfl⟩ := composes
    refine Refines.follows { refines with
      worker := worker
      composes := ?_
      shown := fun _ atRest => by cases atRest }
    show strlcpy (if custom ≠ [] then custom else _) btNameMax = _
    split_ifs
    · exact fits
    · exact nameFits_strlcpy _
  · rename_i custom bt
    rw [bt] at worker composes
    refine ⟨a.step .work, .step a _, ?_⟩
    rw [State.work_of_applies worker] at fresh
    rw [State.step, State.work_of_applies worker]
    refine {
      setting := { refines.setting with }
      worker := rfl
      composes := trivial
      fresh := fresh
      shown := ?_ }
    rintro _ _ _ ⟨⟩
    exact shows_of_composed composes rfl

theorem Refines.step (refines : s.Refines loaded a) (registered : a.Registered)
    (event : NameEvent) : Follows loaded a (s.step event) := by
  cases event with
  | set name => exact refines.btNameSet name
  | web opened written => exact refines.webStep registered opened written
  | address addr => exact refines.address addr
  | working => exact refines.working
  | runLoop => exact refines.runLoop registered
  | bt => exact refines.btStep

theorem boot_refines (opened : Bool) (nvs : Option (List UInt8)) :
    (boot opened nvs).Refines (nvsNameLoad opened nvs)
      (State.start (nvsNameLoad opened nvs)) where
  setting := Setting.boot_matches (strlcpy · btNameMax)
    (nameFits_load opened nvs) nvs
  worker := rfl
  composes := trivial
  fresh := fun cameUp => by cases cameUp
  shown := fun cameUp => by cases cameUp

end Refinement

/-! ## Every interleaving -/

/-- Each run of the two tasks is a run of a deferred setting. -/
theorem run_follows (opened : Bool) (nvs : Option (List UInt8))
    (events : List NameEvent) :
    ∃ a : State (List UInt8), a.Registered ∧
      (run step (boot opened nvs) events).Refines (nvsNameLoad opened nvs) a := by
  obtain ⟨a, _, refines⟩ := run_refines
    (fun s a => a.Registered ∧ Refines (nvsNameLoad opened nvs) s a)
    (fun s a event both => by
      obtain ⟨after, leads, refines⟩ := both.2.step both.1 event
      exact ⟨after, leads, both.1.leads leads, refines⟩)
    ⟨State.start_registered _, boot_refines opened nvs⟩ events
  exact ⟨a, refines⟩

/-- The callback is on the list once at most. -/
theorem queued_le (opened : Bool) (nvs : Option (List UInt8))
    (events : List NameEvent) :
    (run step (boot opened nvs) events).queued ≤ 1 := by
  obtain ⟨a, registered, refines⟩ := run_follows opened nvs events
  rw [← refines.setting.queued]
  exact registered.queued_le

/-- At rest the phone is told the name asked for last. -/
theorem shows_at_rest (opened : Bool) (nvs : Option (List UInt8))
    (events : List NameEvent) {s : DeviceName}
    (reached : run step (boot opened nvs) events = s)
    (cameUp : s.cameUp = true) (empty : s.queued = 0) (web : s.web = .idle)
    (bt : s.bt = .idle) : s.Shows (s.wanted (nvsNameLoad opened nvs)) := by
  obtain ⟨a, registered, refines⟩ := run_follows opened nvs events
  rw [reached] at refines
  have atRest : s.bt.worker = .idle := by
    rw [bt]
    rfl
  exact refines.shown cameUp atRest _
    (refines.setting.settled (refines.fresh cameUp) registered empty web
      (refines.worker.trans atRest))

/-- Five steps take the BTstack task out of any handler, and change nothing the
web task sees. -/
theorem handlerDone_frame (s : DeviceName) :
    s.handlerDone.bt = .idle ∧ s.handlerDone.queued = s.queued ∧
      s.handlerDone.web = s.web ∧ s.handlerDone.cameUp = s.cameUp ∧
      s.handlerDone.lastSet = s.lastSet := by
  simp only [handlerDone, List.replicate, run_cons, run_nil, step]
  cases bt : s.bt <;> simp [btStep, bt]

end DeviceName

end VeteraBridge.Gateway
