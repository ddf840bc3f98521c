import VeteraBridge.Lib.DeferredApply

/-!
# Settings the web task hands over

`bt_name_set` and `debug_log_set` store a setting and raise `apply_pending` in a
critical section, save the setting to NVS, and put `apply_cb_reg` on the run
loop unless the flag was raised.  A step is one access to what the web task and
the BTstack task share.
-/

namespace VeteraBridge.Gateway

open DeferredApply (State Setter)

universe u

/-- What the web task does next, in `bt_name_set` or `debug_log_set`. -/
inductive SetPc (Value : Type u) where
  | idle
  /-- the argument is cleaned: enter the critical section -/
  | cleaned (value : Value)
  /-- the setting is stored: save it to NVS -/
  | saves (value : Value) (already : Bool)
  /-- put `apply_cb_reg` on the run loop, unless `already` -/
  | saved (already : Bool)
deriving DecidableEq, Repr

/-- A setting, and what the web task does with it. -/
structure Setting (Value : Type u) where
  /-- `name_custom`, `dbg_flags` -/
  value : Value
  applyPending : Bool
  nvs : Option Value
  web : SetPc Value
  /-- how often `apply_cb_reg` is on the list of the run loop -/
  queued : Nat
  /-- what the last call was to set, cleaned -/
  lastSet : Option Value

variable {Value : Type u}

namespace Setting

def boot (value : Value) (nvs : Option Value) : Setting Value where
  value := value
  applyPending := false
  nvs := nvs
  web := .idle
  queued := 0
  lastSet := none

/-- The web task calls the setter. -/
def webSet (clean : Value) (s : Setting Value) : Setting Value :=
  match s.web with
  | .idle => { s with web := .cleaned clean, lastSet := some clean }
  | _ => s

/-- The web task goes on in the setter. -/
def webStep (store : Value → Value) (save : Option Value → Value → Option Value)
    (s : Setting Value) : Setting Value :=
  match s.web with
  | .idle => s
  | .cleaned clean =>
    { s with
      value := store clean
      applyPending := true
      web := .saves clean s.applyPending }
  | .saves clean already =>
    { s with nvs := save s.nvs clean, web := .saved already }
  | .saved true => { s with web := .idle }
  | .saved false => { s with web := .idle, queued := s.queued + 1 }

/-- What was asked for last, or loaded at boot. -/
def wanted (loaded : Value) (s : Setting Value) : Value :=
  s.lastSet.getD loaded

end Setting

/-- The web task as the setter. -/
def SetPc.setter : SetPc Value → Setter
  | .idle | .cleaned _ => .idle
  | .saves _ already | .saved already => .stored already

/-- The setting that is stored, or is about to be. -/
def SetPc.latest (current : Value) : SetPc Value → Value
  | .cleaned clean => clean
  | .idle | .saves _ _ | .saved _ => current

/-- The setting is a deferred one, whose value is what was asked for last. -/
structure Setting.Matches (store : Value → Value) (loaded : Value)
    (s : Setting Value) (a : State Value) : Prop where
  value : a.value = s.value
  pending : a.pending = s.applyPending
  queued : a.queued = s.queued
  setter : a.setter = s.web.setter
  latest : s.web.latest s.value = s.wanted loaded
  wantedFits : store (s.wanted loaded) = s.wanted loaded
  valueFits : store s.value = s.value

namespace Setting

variable {store : Value → Value} {loaded : Value} {s : Setting Value}
  {a : State Value}

theorem boot_matches (store : Value → Value) {loaded : Value}
    (fits : store loaded = loaded) (nvs : Option Value) :
    (boot loaded nvs).Matches store loaded (State.start loaded) where
  value := rfl
  pending := rfl
  queued := rfl
  setter := rfl
  latest := rfl
  wantedFits := fits
  valueFits := fits

theorem Matches.webSet (same : s.Matches store loaded a) {clean : Value}
    (fits : store clean = clean) :
    (s.webSet clean).Matches store loaded a := by
  unfold Setting.webSet
  split
  · rename_i web
    refine { same with
      setter := ?_
      latest := rfl
      wantedFits := fits }
    rw [same.setter, web]
    rfl
  · exact same

/-- The critical section stores the value and the end hands over; the save is
seen by nobody. -/
theorem Matches.webStep (same : s.Matches store loaded a)
    (save : Option Value → Value → Option Value) :
    ∃ after, a.Leads after ∧ (s.webStep store save).Matches store loaded after ∧
      after.worker = a.worker ∧ after.applied = a.applied := by
  have latest := same.latest
  have setter := same.setter
  unfold Setting.webStep
  split
  · exact ⟨a, .refl a, same, rfl, rfl⟩
  · rename_i clean web
    rw [web] at latest setter
    change clean = s.wanted loaded at latest
    have fits : store clean = clean := latest ▸ same.wantedFits
    refine ⟨a.step (.set clean), .step a _, ?_⟩
    rw [State.step, State.set_of_idle setter, fits]
    exact ⟨{ same with
      value := rfl
      pending := rfl
      setter := congrArg Setter.stored same.pending
      latest := latest
      valueFits := fits }, rfl, rfl⟩
  · rename_i clean already web
    rw [web] at latest setter
    exact ⟨a, .refl a, { same with setter := setter, latest := latest }, rfl,
      rfl⟩
  · rename_i web
    rw [web] at latest setter
    refine ⟨a.step .handOver, .step a _, ?_⟩
    rw [State.step, State.handOver_of_already setter]
    exact ⟨{ same with setter := rfl, latest := latest }, rfl, rfl⟩
  · rename_i web
    rw [web] at latest setter
    refine ⟨a.step .handOver, .step a _, ?_⟩
    rw [State.step, State.handOver_of_stored setter]
    exact ⟨{ same with
      queued := congrArg (· + 1) same.queued
      setter := rfl
      latest := latest }, rfl, rfl⟩

/-- What a worker at rest has applied, with nothing listed and no call under
way, is what was asked for last. -/
theorem Matches.settled (same : s.Matches store loaded a) (fresh : a.Fresh)
    (registered : a.Registered) (empty : s.queued = 0) (web : s.web = .idle)
    (worker : a.worker = .idle) : a.applied = some (s.wanted loaded) := by
  have latest := same.latest
  rw [web] at latest
  have setter : a.setter = .idle := by
    rw [same.setter, web]
    rfl
  rw [← latest]
  exact (fresh.settled registered setter (same.queued.trans empty) worker).trans
    (congrArg some same.value)

end Setting

end VeteraBridge.Gateway
