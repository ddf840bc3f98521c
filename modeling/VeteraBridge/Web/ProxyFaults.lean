import VeteraBridge.Lib.UncheckedWrites
import VeteraBridge.Web.ProxyPage

/-!
# The proxy settings when writes fail and power is lost

`proxy_set` writes switch, host and port one by one and looks at no result.  A
fault in between may leave a proxy that is neither the old nor the new one.
-/

namespace VeteraBridge.Web

open CrashLogic (Outcome Prog unchecked written)
open EventRun
open FormEncoding
open Proxy (ascii cstr cstr_cstr cstr_eq_self_iff cstr_length_le not_mem_cstr
  strlcpy Nvs NvsIo Settings proxyGet proxyHostMax proxySet settingsLoad
  storeSettings)

/-- The writes of `proxy_set`; the commit is the last. -/
def proxyWrites (on : Bool) (host : List UInt8) (port : UInt16) :
    List (Nvs → Nvs) :=
  [fun nvs => { nvs with pxOn := some (if on then 1 else 0) },
    fun nvs => { nvs with pxHost := some (cstr host) },
    fun nvs => { nvs with pxPort := some port },
    id]

/-- What becomes of a write without a power cut. -/
def outcomeOf (succeeds : Bool) : Outcome :=
  if succeeds then .succeeds else .fails

/-- `proxySet` is what is left of its writes. -/
theorem proxySet_run (io : NvsIo) (on : Bool) (host : List UInt8)
    (port : UInt16) (nvs : Nvs) :
    proxySet io on host port nvs =
      (storeSettings on host port,
        if io.opened then
          ((unchecked (proxyWrites on host port)).run
            [outcomeOf io.setOn, outcomeOf io.setHost, outcomeOf io.setPort]
            nvs).2
        else nvs) := by
  obtain ⟨opened, setOn, setHost, setPort⟩ := io
  cases opened with
  | false => rfl
  | true => cases setOn <;> cases setHost <;> cases setPort <;> rfl

/-- The settings in memory, and NVS. -/
structure ProxyStore where
  settings : Settings
  nvs : Nvs

/-- What happens to them. -/
inductive StoreEvent where
  /-- the form comes in, and the writes fare like this -/
  | post (received : Bool) (content : List UInt8) (opened : Bool)
      (plan : List Outcome)
  /-- the relay task gives up -/
  | giveUp
  | restart (opened : Bool)

namespace ProxyStore

/-- `settings_load` at boot. -/
def boot (opened : Bool) (nvs : Nvs) : ProxyStore :=
  ⟨settingsLoad opened nvs, nvs⟩

/-- `proxy_set`, and a boot when the power is cut. -/
def set (s : ProxyStore) (opened : Bool) (plan : List Outcome) (on : Bool)
    (host : List UInt8) (port : UInt16) : ProxyStore :=
  if opened then
    let ran := (unchecked (proxyWrites on host port)).run plan s.nvs
    match ran.1 with
    | some () => ⟨storeSettings on host port, ran.2⟩
    | none => boot true ran.2
  else
    ⟨storeSettings on host port, s.nvs⟩

def step (query : QueryFn) (s : ProxyStore) : StoreEvent → ProxyStore
  | .post received content opened plan =>
    match handlerProxyPost query s.settings received content with
    | none => s
    | some (on, host, port) => s.set opened plan on host port
  | .giveUp => { s with settings := s.settings.giveUp }
  | .restart opened => boot opened s.nvs

/-- The settings the next boot loads. -/
def loads (s : ProxyStore) : Settings := settingsLoad true s.nvs

/-- Nothing has been saved yet. -/
def fresh : ProxyStore := boot true ⟨none, none, none⟩

end ProxyStore

/-- At most one of switch, host and port differs. -/
def OneChange (old new : Settings) : Prop :=
  (old.pxOn = new.pxOn ∧ old.pxHost = new.pxHost) ∨
    (old.pxOn = new.pxOn ∧ old.pxPort = new.pxPort) ∨
    (old.pxHost = new.pxHost ∧ old.pxPort = new.pxPort)

instance (old new : Settings) : Decidable (OneChange old new) :=
  inferInstanceAs (Decidable (_ ∨ _ ∨ _))

/-! ## What is loaded -/

section Loading

variable {nvs : Nvs} {on : Bool} {host : List UInt8} {port : UInt16}

/-- The host that a stored one is loaded as. -/
def hostLoaded : Option (List UInt8) → List UInt8
  | some host => if host.length < proxyHostMax then host else []
  | none => []

/-- A host that fits is loaded as it was given. -/
theorem hostLoaded_written (short : host.length < proxyHostMax) :
    strlcpy (hostLoaded (some (cstr host))) proxyHostMax =
      strlcpy host proxyHostMax := by
  have fits : (cstr host).length < proxyHostMax :=
    (cstr_length_le host).trans_lt short
  rw [hostLoaded, if_pos fits, strlcpy, cstr_cstr, strlcpy]

/-- Each of the three is the old one or the new one. -/
structure Mixed (old new s : Settings) : Prop where
  on : s.pxOn = old.pxOn ∨ s.pxOn = new.pxOn
  host : s.pxHost = old.pxHost ∨ s.pxHost = new.pxHost
  port : s.pxPort = old.pxPort ∨ s.pxPort = new.pxPort

/-- Some of the writes leave a mixture. -/
theorem written_mixed (short : host.length < proxyHostMax)
    {made : List (Nvs → Nvs)} (some : made.Sublist (proxyWrites on host port)) :
    Mixed (settingsLoad true nvs) (storeSettings on host port)
      (settingsLoad true (written made nvs)) := by
  refine CrashLogic.written_keeps
    (fun later => Mixed (settingsLoad true nvs) (storeSettings on host port)
      (settingsLoad true later)) ?_ some ⟨Or.inl rfl, Or.inl rfl, Or.inl rfl⟩
  intro effect isWrite later mixed
  simp only [proxyWrites, List.mem_cons, List.not_mem_nil, or_false] at isWrite
  rcases isWrite with rfl | rfl | rfl | rfl
  · refine ⟨Or.inr ?_, mixed.host, mixed.port⟩
    cases on <;> rfl
  · exact ⟨mixed.on, Or.inr (hostLoaded_written short), mixed.port⟩
  · exact ⟨mixed.on, mixed.host, Or.inr rfl⟩
  · exact mixed

/-- Settings as they are stored are told by switch, host and port. -/
theorem eq_of_stored {s t : Settings}
    (stored : storeSettings s.pxOn s.pxHost s.pxPort = s)
    (stored' : storeSettings t.pxOn t.pxHost t.pxPort = t)
    (on : s.pxOn = t.pxOn) (host : s.pxHost = t.pxHost)
    (port : s.pxPort = t.pxPort) : s = t := by
  rw [← stored, ← stored', on, host, port]

theorem stored_settingsLoad (nvs : Nvs) :
    storeSettings (settingsLoad true nvs).pxOn (settingsLoad true nvs).pxHost
      (settingsLoad true nvs).pxPort = settingsLoad true nvs :=
  storeSettings_again _ _ _

/-- With one change a mixture is the old or the new. -/
theorem Mixed.old_or_new {old new s : Settings} (mixed : Mixed old new s)
    (oneChange : OneChange old new)
    (stored : storeSettings s.pxOn s.pxHost s.pxPort = s)
    (oldStored : storeSettings old.pxOn old.pxHost old.pxPort = old)
    (newStored : storeSettings new.pxOn new.pxHost new.pxPort = new) :
    s = old ∨ s = new := by
  obtain ⟨isOn, isHost, isPort⟩ := mixed
  rcases oneChange with ⟨on, host⟩ | ⟨on, port⟩ | ⟨host, port⟩
  · rw [← on, or_self] at isOn
    rw [← host, or_self] at isHost
    rcases isPort with isPort | isPort
    · exact Or.inl (eq_of_stored stored oldStored isOn isHost isPort)
    · exact Or.inr (eq_of_stored stored newStored (isOn.trans on)
        (isHost.trans host) isPort)
  · rw [← on, or_self] at isOn
    rw [← port, or_self] at isPort
    rcases isHost with isHost | isHost
    · exact Or.inl (eq_of_stored stored oldStored isOn isHost isPort)
    · exact Or.inr (eq_of_stored stored newStored (isOn.trans on) isHost
        (isPort.trans port))
  · rw [← host, or_self] at isHost
    rw [← port, or_self] at isPort
    rcases isOn with isOn | isOn
    · exact Or.inl (eq_of_stored stored oldStored isOn isHost isPort)
    · exact Or.inr (eq_of_stored stored newStored isOn (isHost.trans host)
        (isPort.trans port))

/-- With more changes a write alone leaves neither. -/
theorem written_neither (short : host.length < proxyHostMax)
    (more : ¬ OneChange (settingsLoad true nvs)
      (storeSettings on host port)) :
    ∃ made : List (Nvs → Nvs), made.Sublist (proxyWrites on host port) ∧
      settingsLoad true (written made nvs) ≠ settingsLoad true nvs ∧
      settingsLoad true (written made nvs) ≠ storeSettings on host port := by
  by_cases sameOn : (settingsLoad true nvs).pxOn = on
  · -- host and port differ; the host alone is written
    have host' : (settingsLoad true nvs).pxHost ≠ strlcpy host proxyHostMax :=
      fun same => more (Or.inl ⟨sameOn, same⟩)
    have port' : (settingsLoad true nvs).pxPort ≠ port :=
      fun same => more (Or.inr (Or.inl ⟨sameOn, same⟩))
    refine ⟨[fun nvs => { nvs with pxHost := some (cstr host) }], ?_, ?_, ?_⟩
    · exact .cons _ (.cons_cons _ (List.nil_sublist _))
    · intro same
      exact host' ((congrArg Settings.pxHost same).symm.trans
        (hostLoaded_written short))
    · intro same
      exact port' (congrArg Settings.pxPort same)
  · -- the switch alone is written
    have written : (settingsLoad true { nvs with
        pxOn := some (if on then 1 else 0) }).pxOn = on := by
      cases on <;> rfl
    refine ⟨[fun nvs => { nvs with pxOn := some (if on then 1 else 0) }],
      .cons_cons _ (List.nil_sublist _), ?_, ?_⟩
    · intro same
      exact sameOn ((congrArg Settings.pxOn same).symm.trans written)
    · intro same
      have sameHost := congrArg Settings.pxHost same
      have samePort := congrArg Settings.pxPort same
      exact more (Or.inr (Or.inr ⟨sameHost, samePort⟩))

end Loading

section Posts

variable {query : QueryFn} {s : Settings}

/-- The host that is saved fits its buffer. -/
theorem handlerProxyPost_short {received : Bool} {content host : List UInt8}
    {on : Bool} {port : UInt16}
    (saves : handlerProxyPost query s received content =
      some (on, host, port)) : host.length < proxyHostMax := by
  have presets : ∀ p ∈ presets, p.1.length < proxyHostMax := by decide
  unfold handlerProxyPost at saves
  split at saves
  · cases saves
  · dsimp only at saves
    split_ifs at saves with _ _ _ valid
    · cases saves
      exact Nat.lt_succ_of_le (List.length_take_le _ _)
    · cases saves
      have decoded (raw : List UInt8) :
          (formDecode raw proxyHostMax).length ≤ 63 := by
        rw [formDecode, formDecodeFrom_eq (cstr raw) [] (by decide)]
        exact List.length_take_le _ _
      exact Nat.lt_succ_of_le (((trimSpaces_sublist _).length_le.trans
        (cstr_length_le _)).trans (decoded _))
    · obtain ⟨p, isPreset, same⟩ := Option.map_eq_some_iff.mp saves
      cases same
      rw [proxyPresetGet] at isPreset
      split at isPreset
      · exact presets p (List.mem_of_getElem? isPreset)
      · cases isPreset

end Posts

/-! ## Runs -/

namespace ProxyStore

/-- The settings that an event sets. -/
def sets (query : QueryFn) (s : ProxyStore) : StoreEvent → Option Settings
  | .post received content _ _ =>
    (handlerProxyPost query s.settings received content).map fun call =>
      storeSettings call.1 call.2.1 call.2.2
  | .giveUp | .restart _ => none

/-- All that was set in a run. -/
def history (query : QueryFn) : ProxyStore → List StoreEvent → List Settings
  | _, [] => []
  | s, event :: events =>
    (s.sets query event).toList ++ history query (s.step query event) events

/-- What is set is written whole, or makes one change. -/
def Whole (query : QueryFn) (s : ProxyStore) (event : StoreEvent) : Prop :=
  match event with
  | .post _ _ opened plan =>
    (opened = true ∧ ∀ outcome ∈ plan, outcome = .succeeds) ∨
      ∀ new, s.sets query event = some new → OneChange s.loads new
  | .giveUp | .restart _ => True

section Steps

variable {query : QueryFn} {s : ProxyStore} {on : Bool} {host : List UInt8}
  {port : UInt16}

/-- Whatever becomes of the writes, the next boot loads a mixture. -/
theorem set_mixed (short : host.length < proxyHostMax) (opened : Bool)
    (plan : List Outcome) :
    Mixed s.loads (storeSettings on host port)
      (s.set opened plan on host port).loads := by
  obtain ⟨made, some, left⟩ :=
    CrashLogic.run_unchecked (proxyWrites on host port) plan s.nvs
  have mixed : Mixed s.loads (storeSettings on host port)
      (settingsLoad true (written made s.nvs)) := written_mixed short some
  rw [← left] at mixed
  rw [set]
  split
  · dsimp only
    split
    · exact mixed
    · exact mixed
  · exact ⟨Or.inl rfl, Or.inl rfl, Or.inl rfl⟩

/-- When all is written the next boot loads what was set. -/
theorem set_whole (short : host.length < proxyHostMax) {plan : List Outcome}
    (healthy : ∀ outcome ∈ plan, outcome = .succeeds) :
    (s.set true plan on host port).loads = storeSettings on host port := by
  have left : (s.set true plan on host port).loads =
      settingsLoad true (written (proxyWrites on host port) s.nvs) := by
    rw [set, if_pos rfl, Prog.run_of_healthy _ healthy]
    rfl
  rw [left]
  refine eq_of_stored (stored_settingsLoad _) (storeSettings_again _ _ _) ?_
    (hostLoaded_written short) rfl
  cases on <;> rfl

/-- Faults leave the old or the new settings whatever they are, exactly when
one change is made. -/
theorem set_old_or_new_iff (short : host.length < proxyHostMax) :
    (∀ opened plan,
      (s.set opened plan on host port).loads = s.loads ∨
        (s.set opened plan on host port).loads = storeSettings on host port) ↔
      OneChange s.loads (storeSettings on host port) := by
  constructor
  · intro always
    by_contra more
    obtain ⟨made, some, notOld, notNew⟩ := written_neither short more
    obtain ⟨plan, ran⟩ := CrashLogic.exists_plan some s.nvs
    have left : (s.set true plan on host port).loads =
        settingsLoad true (written made s.nvs) := by
      rw [set, if_pos rfl, ran]
      rfl
    rcases always true plan with old | new
    · exact notOld (left.symm.trans old)
    · exact notNew (left.symm.trans new)
  · intro oneChange opened plan
    exact (set_mixed short opened plan).old_or_new oneChange
      (stored_settingsLoad _) (stored_settingsLoad _)
      (storeSettings_again _ _ _)

/-- What the next boot loads is as before, or what was set. -/
theorem Whole.step {event : StoreEvent} (whole : s.Whole query event) :
    (s.step query event).loads = s.loads ∨
      s.sets query event = some (s.step query event).loads := by
  cases event with
  | giveUp | restart _ => exact Or.inl rfl
  | post received content opened plan =>
      rw [ProxyStore.step, sets]
      cases saves : handlerProxyPost query s.settings received content with
      | none => exact Or.inl rfl
      | some call =>
          obtain ⟨on, host, port⟩ := call
          have short := handlerProxyPost_short saves
          have isSet : s.sets query (.post received content opened plan) =
              some (storeSettings on host port) := by
            rw [sets, saves]
            rfl
          rcases whole with ⟨rfl, healthy⟩ | oneChange
          · exact Or.inr (congrArg some (set_whole short healthy).symm)
          · rcases (set_old_or_new_iff short).mpr (oneChange _ isSet) opened plan
              with old | new
            · exact Or.inl old
            · exact Or.inr (congrArg some new.symm)

/-- A boot loads what was there first or what was set. -/
theorem loads_of_whole {events : List StoreEvent}
    (whole : Along (step query) (Whole query) s events) :
    (run (step query) s events).loads = s.loads ∨
      (run (step query) s events).loads ∈ history query s events := by
  induction events generalizing s with
  | nil => exact Or.inl rfl
  | cons event events inductionHypothesis =>
      rw [run_cons, history]
      rcases inductionHypothesis whole.2 with same | later
      · rw [same]
        rcases Whole.step whole.1 with old | new
        · exact Or.inl old
        · exact Or.inr (List.mem_append_left _ (Option.mem_toList.mpr new))
      · exact Or.inr (List.mem_append_right _ later)

end Steps

end ProxyStore

open ProxyStore

/-- In every run in which each form is written whole or makes one change, a boot
loads no proxy at all or one that was set as a whole.  In every run at all, a
form leaves the old or the new settings whatever becomes of its writes, exactly
when at most one of switch, host and port changes. -/
theorem proxy_faults (query : QueryFn) :
    (∀ events, Along (step query) (Whole query) fresh events →
      (run (step query) fresh events).loads = Settings.zero ∨
        (run (step query) fresh events).loads ∈
          history query fresh events) ∧
    (∀ (events : List StoreEvent) (content : List UInt8)
        (call : Bool × List UInt8 × UInt16),
      let before := run (step query) fresh events
      let new := storeSettings call.1 call.2.1 call.2.2
      handlerProxyPost query before.settings true content = some call →
        ((∀ opened plan,
          let after := before.step query (.post true content opened plan)
          after.loads = before.loads ∨ after.loads = new) ↔
          OneChange before.loads new)) := by
  refine ⟨fun events whole => loads_of_whole whole, ?_⟩
  intro events content call before new saves
  have set_of_post (opened : Bool) (plan : List Outcome) :
      before.step query (.post true content opened plan) =
        before.set opened plan call.1 call.2.1 call.2.2 := by
    rw [ProxyStore.step, saves]
  simp only [set_of_post]
  exact set_old_or_new_iff (handlerProxyPost_short saves)

/-- A preset is chosen; the next one makes one change, and the power may be cut
anywhere. -/
theorem proxy_faults_preset :
    let chosen :=
      run (step piecesQuery) fresh [.post true (ascii "px=0") true []]
    (∀ opened plan,
      let after := chosen.step piecesQuery
        (.post true (ascii "px=1") opened plan)
      after.loads = chosen.loads ∨
        after.loads = storeSettings true (ascii "176.103.221.33") 3129) ∧
    chosen.loads ∈
      history piecesQuery fresh [.post true (ascii "px=0") true []] := by
  have faults := proxy_faults piecesQuery
  constructor
  · exact (faults.2 [.post true (ascii "px=0") true []] (ascii "px=1")
      (true, ascii "176.103.221.33", 3129) (by decide +kernel)).mpr
      (by decide +kernel)
  · refine (faults.1 [.post true (ascii "px=0") true []]
      ⟨Or.inl ⟨rfl, by simp⟩, trivial⟩).resolve_left ?_
    decide +kernel

end VeteraBridge.Web
