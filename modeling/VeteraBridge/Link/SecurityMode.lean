import VeteraBridge.Link.Session
import VeteraBridge.Web.Form

/-!
# The Bluetooth security mode

The mode in effect is read from NVS at boot.  The web page and the BOOT button
save another one and restart the bridge.  The button steps from the saved mode;
the page compares what it is asked for with the mode in effect.
-/

namespace VeteraBridge.Link

open EventRun
open Proxy (ascii)
open Web (QueryFn recvBody)

/-! ## Saving -/

/-- `(uint8_t)mode`. -/
def BtsecMode.byte : BtsecMode → UInt8
  | .btsecOff => 0
  | .btsecOn => 1
  | .btsecAuto => 2

/-- `ppp_link_secure_save`: the key after it; `took` is whether NVS took the
change. -/
def pppLinkSecureSave (took : Bool) (mode : BtsecMode) (key : Option UInt8) :
    Option UInt8 :=
  if took then
    match mode with
    | .btsecAuto => none
    | .btsecOff | .btsecOn => some mode.byte
  else key

/-- What was saved is loaded. -/
theorem nvsSecureLoad_save (mode : BtsecMode) (key : Option UInt8) :
    nvsSecureLoad (pppLinkSecureSave true mode key) = mode := by
  cases mode <;> rfl

/-! ## The web page -/

inductive SecurityAnswer where
  /-- the body is not received -/
  | failed
  /-- back to the page -/
  | redirects
  /-- a mode is saved, and `reboot_task` created -/
  | saves (mode : BtsecMode)
deriving DecidableEq, Repr

/-- The mode the form asks for. -/
def askedMode (query : QueryFn) (received : Bool) (content : List UInt8) :
    Option BtsecMode :=
  match recvBody received content 64 with
  | none => none
  | some buf =>
    let (status, v) := query buf (ascii "sec") 8
    if status ≠ .ok then none
    else if v = ascii "on" then some .btsecOn
    else if v = ascii "off" then some .btsecOff
    else if v = ascii "auto" then some .btsecAuto
    else none

/-- `handler_security_post`. -/
def handlerSecurityPost (query : QueryFn) (linkMode : BtsecMode)
    (received : Bool) (content : List UInt8) : SecurityAnswer :=
  match recvBody received content 64, askedMode query received content with
  | none, _ => .failed
  | some _, none => .redirects
  | some _, some mode => if mode = linkMode then .redirects else .saves mode

/-! ## The button -/

def secBtnHoldMs : UInt32 := 3000

def secBtnDebounceMs : UInt32 := 50

def secBtnPollMs : UInt32 := 20

/-- The mode a long press steps to. -/
def nextMode : BtsecMode → BtsecMode
  | .btsecOff => .btsecOn
  | .btsecOn => .btsecAuto
  | .btsecAuto => .btsecOff

/-- Where `sec_button_task` is. -/
inductive ButtonPc where
  /-- the button is up -/
  | waits
  /-- the button is down since `held` ms -/
  | counts (held : UInt32)
  /-- a long press: save the next mode -/
  | saves (next : BtsecMode)
  /-- `wait_release` -/
  | releases
  /-- the button is up again: restart -/
  | restarts
deriving DecidableEq, Repr

/-- The mode, and the tasks that change it. -/
structure Security where
  /-- the key in NVS -/
  key : Option UInt8
  linkMode : BtsecMode
  button : ButtonPc
  /-- `reboot_task` was created -/
  rebooting : Bool
  /-- the modes the LED has shown -/
  shown : List BtsecMode
  /-- the mode that was asked for last -/
  asked : BtsecMode
deriving DecidableEq, Repr

inductive SecurityEvent where
  | post (received : Bool) (content : List UInt8) (took : Bool)
  /-- the task looks at the button -/
  | poll (down : Bool)
  /-- the task goes on without looking -/
  | goesOn (took : Bool)
  /-- the bridge restarts, for whatever reason -/
  | restart
deriving DecidableEq, Repr

namespace Security

/-- `ppp_link_secure_saved`. -/
def saved (s : Security) : BtsecMode := nvsSecureLoad s.key

/-- From power-on, with `bt_setup` and `sec_button_start` done. -/
def boot (key : Option UInt8) : Security where
  key := key
  linkMode := nvsSecureLoad key
  button := .waits
  rebooting := false
  shown := []
  asked := nvsSecureLoad key

def restart (s : Security) : Security :=
  { s with
    linkMode := nvsSecureLoad s.key
    button := .waits
    rebooting := false }

def post (query : QueryFn) (received : Bool) (content : List UInt8)
    (took : Bool) (s : Security) : Security :=
  let asking :=
    { s with asked := (askedMode query received content).getD s.asked }
  match handlerSecurityPost query s.linkMode received content with
  | .failed | .redirects => asking
  | .saves mode =>
    { asking with
      key := pppLinkSecureSave took mode s.key
      rebooting := true }

/-- The task after it looked at the button. -/
def poll (down : Bool) (s : Security) : Security :=
  match s.button with
  | .waits => if down then { s with button := .counts 0 } else s
  | .counts held =>
    if down = true ∧ held < secBtnHoldMs then
      { s with button := .counts (held + secBtnPollMs) }
    else if held < secBtnDebounceMs then { s with button := .waits }
    else if held < secBtnHoldMs then
      { s with button := .waits, shown := s.shown ++ [s.linkMode] }
    else
      { s with button := .saves (nextMode s.saved), asked := nextMode s.asked }
  | .releases => if down then s else { s with button := .restarts }
  | .saves _ | .restarts => s

def goesOn (took : Bool) (s : Security) : Security :=
  match s.button with
  | .saves next =>
    { s with
      key := pppLinkSecureSave took next s.key
      button := .releases
      shown := s.shown ++ [next] }
  | .restarts => s.restart
  | .waits | .counts _ | .releases => s

def step (query : QueryFn) (s : Security) : SecurityEvent → Security
  | .post received content took => s.post query received content took
  | .poll down => s.poll down
  | .goesOn took => s.goesOn took
  | .restart => s.restart

/-! ## The saved mode is what was asked for -/

/-- The saved mode is the one that was asked for last, or the button task is
about to save it. -/
def Follows (s : Security) : Prop :=
  match s.button with
  | .saves next => next = s.asked
  | .waits | .counts _ | .releases | .restarts => s.saved = s.asked

/-- A step that does what it is asked for: a mode that is asked for on the page
is saved already or is saved now, and not over by the button; the button's save
is taken, and not cut off. -/
def Heeded (query : QueryFn) (s : Security) : SecurityEvent → Prop
  | .post received content took =>
    ∀ mode, askedMode query received content = some mode →
      match s.button with
      | .saves next => next = mode
      | .waits | .counts _ | .releases | .restarts =>
        s.saved = mode ∨ mode ≠ s.linkMode ∧ took = true
  | .poll _ => True
  | .goesOn took =>
    match s.button with
    | .saves next => s.saved = next ∨ took = true
    | .waits | .counts _ | .releases | .restarts => True
  | .restart =>
    match s.button with
    | .saves next => s.saved = next
    | .waits | .counts _ | .releases | .restarts => True

variable {query : QueryFn} {s : Security}

theorem handlerSecurityPost_of_none {received : Bool} {content : List UInt8}
    (linkMode : BtsecMode) (nothing : askedMode query received content = none) :
    handlerSecurityPost query linkMode received content = .failed ∨
      handlerSecurityPost query linkMode received content = .redirects := by
  unfold handlerSecurityPost
  rw [nothing]
  cases recvBody received content 64 with
  | none => exact .inl rfl
  | some buf => exact .inr rfl

theorem handlerSecurityPost_of_some {received : Bool} {content : List UInt8}
    {mode : BtsecMode} (linkMode : BtsecMode)
    (asks : askedMode query received content = some mode) :
    handlerSecurityPost query linkMode received content =
      if mode = linkMode then .redirects else .saves mode := by
  have isReceived : recvBody received content 64 ≠ none := by
    intro failed
    unfold askedMode at asks
    rw [failed] at asks
    cases asks
  unfold handlerSecurityPost
  rw [asks]
  cases body : recvBody received content 64 with
  | none => exact absurd body isReceived
  | some buf => rfl

theorem load_save_iff (took : Bool) (mode : BtsecMode) (key : Option UInt8) :
    nvsSecureLoad (pppLinkSecureSave took mode key) = mode ↔
      nvsSecureLoad key = mode ∨ took = true := by
  cases took with
  | true => simp [nvsSecureLoad_save]
  | false => simp [pppLinkSecureSave]

theorem Follows.post_iff (before : s.Follows) (received : Bool)
    (content : List UInt8) (took : Bool) :
    (s.post query received content took).Follows ↔
      s.Heeded query (.post received content took) := by
  unfold Security.post
  cases asks : askedMode query received content with
  | none =>
      have heeded : s.Heeded query (.post received content took) := by
        intro mode isAsked
        rw [asks] at isAsked
        cases isAsked
      rcases handlerSecurityPost_of_none s.linkMode asks with failed | back
      · rw [failed]
        exact iff_of_true before heeded
      · rw [back]
        exact iff_of_true before heeded
  | some mode =>
      rw [handlerSecurityPost_of_some s.linkMode asks]
      simp only [Heeded, asks, Option.some.injEq, forall_eq']
      by_cases inEffect : mode = s.linkMode
      · rw [if_pos inEffect]
        cases button : s.button <;>
          simp [Follows, Security.saved, ← inEffect]
      · rw [if_neg inEffect]
        cases button : s.button <;>
          simp [Follows, Security.saved, load_save_iff, inEffect]

theorem Follows.poll (before : s.Follows) (down : Bool) :
    (s.poll down).Follows := by
  unfold Security.poll
  cases button : s.button with
  | waits =>
      simp only [Follows, button] at before
      dsimp only
      split
      · exact before
      · simpa [Follows, button] using before
  | counts held =>
      simp only [Follows, button] at before
      dsimp only
      split
      · exact before
      · split
        · exact before
        · split
          · exact before
          · simp [Follows, before]
  | saves next => simpa [Follows, button] using before
  | releases =>
      simp only [Follows, button] at before
      dsimp only
      split
      · simpa [Follows, button] using before
      · exact before
  | restarts => simpa [Follows, button] using before

theorem Follows.goesOn_iff (before : s.Follows) (took : Bool) :
    (s.goesOn took).Follows ↔ s.Heeded query (.goesOn took) := by
  unfold Security.goesOn
  cases button : s.button with
  | saves next =>
      simp only [Follows, button] at before
      simp [Follows, Heeded, button, Security.saved, ← before, load_save_iff]
  | restarts =>
      simp only [Follows, button] at before
      simpa [Follows, Heeded, button, Security.restart, Security.saved]
        using before
  | waits => exact iff_of_true before (by simp [Heeded, button])
  | counts held => exact iff_of_true before (by simp [Heeded, button])
  | releases => exact iff_of_true before (by simp [Heeded, button])

theorem Follows.restart_iff (before : s.Follows) :
    s.restart.Follows ↔ s.Heeded query .restart := by
  unfold Follows at before
  cases button : s.button <;> rw [button] at before <;>
    simp_all [Follows, Heeded, Security.restart, Security.saved]

theorem Follows.step_iff (before : s.Follows) (event : SecurityEvent) :
    (s.step query event).Follows ↔ s.Heeded query event := by
  cases event with
  | post received content took => exact before.post_iff received content took
  | poll down => exact iff_of_true (before.poll down) trivial
  | goesOn took => exact before.goesOn_iff took
  | restart => exact before.restart_iff

/-- A mode that is saved and not in effect is about to be: a restart is on its
way. -/
def OnItsWay (s : Security) : Prop :=
  s.saved = s.linkMode ∨ s.rebooting = true ∨ s.button = .releases ∨
    s.button = .restarts

theorem OnItsWay.step (before : s.OnItsWay) (event : SecurityEvent) :
    (s.step query event).OnItsWay := by
  cases event with
  | post received content took =>
      rw [Security.step, Security.post]
      cases handlerSecurityPost query s.linkMode received content with
      | failed => exact before
      | redirects => exact before
      | saves mode => exact .inr (.inl rfl)
  | poll down =>
      rw [Security.step, Security.poll]
      cases button : s.button with
      | waits =>
          simp only [OnItsWay, button] at before
          dsimp only
          split <;> simpa [OnItsWay, button, Security.saved] using before
      | counts held =>
          simp only [OnItsWay, button] at before
          dsimp only
          split
          · simpa [OnItsWay, Security.saved] using before
          · split
            · simpa [OnItsWay, Security.saved] using before
            · split <;> simpa [OnItsWay, Security.saved] using before
      | saves next => exact before
      | releases =>
          dsimp only
          split
          · exact before
          · exact .inr (.inr (.inr rfl))
      | restarts => exact before
  | goesOn took =>
      rw [Security.step, Security.goesOn]
      cases button : s.button with
      | saves next => exact .inr (.inr (.inl rfl))
      | restarts => exact .inl rfl
      | waits => exact before
      | counts held => exact before
      | releases => exact before
  | restart => exact .inl rfl

theorem boot_follows (key : Option UInt8) : (boot key).Follows := rfl

/-- In every run the saved mode is at each moment the one that was asked for
last exactly if every step does what it is asked for; then that mode is also in
effect after each restart.  In any run a mode that is saved and not in effect is
on its way. -/
theorem saved_follows_iff (query : QueryFn) (key : Option UInt8)
    (events : List SecurityEvent) :
    ((∀ earlier, earlier <+: events →
        (run (step query) (boot key) earlier).Follows) ↔
      Along (step query) (Heeded query) (boot key) events) ∧
    (Along (step query) (Heeded query) (boot key) events →
      ∀ earlier, earlier ++ [.restart] <+: events →
        (run (step query) (boot key) (earlier ++ [.restart])).linkMode =
          (run (step query) (boot key) earlier).asked) ∧
    (run (step query) (boot key) events).OnItsWay := by
  have exact' :
      (∀ earlier, earlier <+: events →
          (run (step query) (boot key) earlier).Follows) ↔
        Along (step query) (Heeded query) (boot key) events :=
    holds_throughout_iff Follows (fun _ event before => before.step_iff event)
      (boot_follows key) events
  refine ⟨exact', ?_, ?_⟩
  · intro along earlier before
    have after := exact'.mpr along (earlier ++ [.restart]) before
    rw [run_snoc] at after ⊢
    exact after
  · exact run_invariant OnItsWay (fun _ event before => before.step event)
      (.inl rfl) events

/-- Off is asked for, and auto again before the bridge has restarted. -/
example :
    let s :=
      run (step Web.piecesQuery) (boot none)
        [.post true (ascii "sec=off") true, .post true (ascii "sec=auto") true]
    s.asked = .btsecAuto ∧ s.saved = .btsecOff := by
  decide +kernel

/-! ## Presses -/

/-- The task looks at the button, and goes on to where it looks again. -/
def sample (took : Bool) (s : Security) (down : Bool) : Security :=
  match (s.poll down).button with
  | .saves _ | .restarts => (s.poll down).goesOn took
  | .waits | .counts _ | .releases => s.poll down

/-- A press: how often in a row the task finds the button down, and up behind
it.  Where a look up ends the hold time, `wait_release` needs another one. -/
structure Press where
  down : Nat
  up : Nat
  /-- NVS takes the mode, if one is saved -/
  took : Bool
  isDown : 1 ≤ down
  apart : (if down = 151 then 2 else 1) ≤ up

def Press.looks (p : Press) : List Bool :=
  .replicate p.down true ++ .replicate p.up false

/-- The bridge after a press. -/
def press (s : Security) (p : Press) : Security :=
  run (sample p.took) s p.looks

/-- A press is a run of the task. -/
theorem reachable_press (query : QueryFn) (s : Security) (p : Press) :
    Reachable (step query) s (s.press p) := by
  refine Reachable.foldl (fun s down => ?_) p.looks s
  have polled : Reachable (step query) s (s.poll down) :=
    (Reachable.refl s).next (SecurityEvent.poll down)
  unfold sample
  split
  · exact polled.next (SecurityEvent.goesOn p.took)
  · exact polled.next (SecurityEvent.goesOn p.took)
  · exact polled
  · exact polled
  · exact polled

/-- A press that lasts the 3 s, and whose save is taken. -/
def Press.Steps (p : Press) : Prop := 151 ≤ p.down ∧ p.took = true

instance (p : Press) : Decidable p.Steps :=
  inferInstanceAs (Decidable (_ ∧ _))

/-- The saved mode after a press. -/
def pressed (mode : BtsecMode) (p : Press) : BtsecMode :=
  if p.Steps then nextMode mode else mode

/-- What the LED shows of a press: nothing if the button bounced. -/
def pressShows (mode : BtsecMode) (p : Press) : List BtsecMode :=
  if p.down ≤ 3 then []
  else if p.down ≤ 150 then [mode]
  else [nextMode mode]

/-- What the LED shows of several. -/
def pressesShow : BtsecMode → List Press → List BtsecMode
  | _, [] => []
  | mode, p :: rest => pressShows mode p ++ pressesShow (pressed mode p) rest

variable {took : Bool}

/-- The time a press was counted for. -/
def heldFor (polls : Nat) : UInt32 := .ofNat (20 * polls)

theorem heldFor_toNat {polls : Nat} (short : polls ≤ 150) :
    (heldFor polls).toNat = 20 * polls := by
  rw [heldFor, UInt32.toNat_ofNat', Nat.mod_eq_of_lt]
  omega

theorem heldFor_succ {polls : Nat} (short : polls < 150) :
    heldFor polls + secBtnPollMs = heldFor (polls + 1) := by
  apply UInt32.toNat_inj.mp
  rw [UInt32.toNat_add, heldFor_toNat (Nat.le_of_lt short),
    heldFor_toNat short, secBtnPollMs]
  simp only [UInt32.toNat_ofNat]
  omega

theorem heldFor_lt_hold {polls : Nat} (short : polls ≤ 150) :
    heldFor polls < secBtnHoldMs ↔ polls < 150 := by
  rw [UInt32.lt_iff_toNat_lt, heldFor_toNat short, secBtnHoldMs]
  simp only [UInt32.toNat_ofNat]
  omega

theorem heldFor_lt_debounce {polls : Nat} (short : polls ≤ 150) :
    heldFor polls < secBtnDebounceMs ↔ polls < 3 := by
  rw [UInt32.lt_iff_toNat_lt, heldFor_toNat short, secBtnDebounceMs]
  simp only [UInt32.toNat_ofNat]
  omega

theorem sample_first (waits : s.button = .waits) :
    s.sample took true = { s with button := .counts (heldFor 0) } := by
  simp only [sample, Security.poll, waits, if_true]
  rfl

/-- The task counts while the button is down, up to the hold time. -/
theorem run_counts {polls more : Nat}
    (counts : s.button = .counts (heldFor polls)) (short : polls + more ≤ 150) :
    run (sample took) s (.replicate more true) =
      { s with button := .counts (heldFor (polls + more)) } := by
  induction more generalizing s polls with
  | zero =>
      rw [Nat.add_zero, ← counts]
      rfl
  | succ more inductionHypothesis =>
      have below : heldFor polls < secBtnHoldMs :=
        (heldFor_lt_hold (by omega)).mpr (by omega)
      have next :
          s.sample took true =
            { s with button := .counts (heldFor (polls + 1)) } := by
        simp only [sample, Security.poll, counts, below, and_self, if_true,
          heldFor_succ (show polls < 150 by omega)]
      rw [List.replicate_succ, run_cons, next,
        inductionHypothesis rfl (by omega)]
      simp only [Nat.add_assoc, Nat.add_comm 1 more]

/-- A button that is up changes nothing. -/
theorem run_up (waits : s.button = .waits) (count : Nat) :
    run (sample took) s (.replicate count false) = s := by
  induction count with
  | zero => rfl
  | succ count inductionHypothesis =>
      have same : s.sample took false = s := by
        simp [sample, Security.poll, waits]
      rw [List.replicate_succ, run_cons, same, inductionHypothesis]

/-- Once the mode is saved, the task waits for the button to come up. -/
theorem run_releases (releases : s.button = .releases) (count : Nat) :
    run (sample took) s (.replicate count true) = s := by
  induction count with
  | zero => rfl
  | succ count inductionHypothesis =>
      have same : s.sample took true = s := by
        simp [sample, Security.poll, releases]
      rw [List.replicate_succ, run_cons, same, inductionHypothesis]

theorem sample_released (releases : s.button = .releases) :
    s.sample took false = s.restart := by
  simp [sample, Security.poll, releases, Security.goesOn, Security.restart]

/-- A press that ends before the hold time. -/
theorem sample_short {polls : Nat} (counts : s.button = .counts (heldFor polls))
    (short : polls < 150) :
    s.sample took false =
      { s with
        button := .waits
        shown := s.shown ++ if polls < 3 then [] else [s.linkMode] } := by
  have below := (heldFor_lt_hold (Nat.le_of_lt short)).mpr short
  have bounce := heldFor_lt_debounce (Nat.le_of_lt short)
  by_cases bounced : polls < 3
  · simp [sample, Security.poll, counts, bounce.mpr bounced, bounced]
  · have lasts : ¬ heldFor polls < secBtnDebounceMs :=
      fun less => bounced (bounce.mp less)
    simp [sample, Security.poll, counts, lasts, below, bounced]

/-- A press that has lasted the hold time. -/
theorem sample_long (counts : s.button = .counts (heldFor 150)) (down : Bool) :
    s.sample took down =
      { s with
        key := pppLinkSecureSave took (nextMode s.saved) s.key
        button := .releases
        shown := s.shown ++ [nextMode s.saved]
        asked := nextMode s.asked } := by
  have full : ¬ heldFor 150 < secBtnHoldMs := by decide
  have lasts : ¬ heldFor 150 < secBtnDebounceMs := by decide
  simp [sample, Security.poll, counts, full, lasts, Security.goesOn]

/-- The button is up, and the mode in effect is the saved one. -/
structure Settled (mode : BtsecMode) (s : Security) : Prop where
  button : s.button = .waits
  linkMode : s.linkMode = mode
  saved : s.saved = mode

/-- After a long press the bridge comes up with the next mode, if that was
saved. -/
theorem sample_long_settled (counts : s.button = .counts (heldFor 150))
    (down : Bool) :
    Settled (if took = true then nextMode s.saved else s.saved)
        (s.sample took down).restart ∧
      (s.sample took down).restart.shown = s.shown ++ [nextMode s.saved] := by
  have loads :
      nvsSecureLoad (pppLinkSecureSave took (nextMode s.saved) s.key) =
        if took = true then nextMode s.saved else s.saved := by
    cases took with
    | true => exact nvsSecureLoad_save (nextMode s.saved) s.key
    | false => rfl
  rw [sample_long counts]
  exact ⟨⟨rfl, loads, loads⟩, rfl⟩

theorem run_release (releases : s.button = .releases) (gap : Nat) :
    run (sample took) s (.replicate (gap + 1) false) = s.restart := by
  rw [List.replicate_succ, run_cons, sample_released releases]
  exact run_up rfl gap

/-- The button comes up while the task counts. -/
theorem Settled.press_short {mode : BtsecMode} (settled : Settled mode s)
    {p : Press} {count : Nat} (down : p.down = count + 1)
    (short : count < 150) :
    Settled mode (s.press p) ∧
      (s.press p).shown = s.shown ++ if count < 3 then [] else [mode] := by
  obtain ⟨gap, up⟩ : ∃ gap, p.up = gap + 1 := by
    have apart := p.apart
    rw [if_neg (by omega)] at apart
    exact ⟨p.up - 1, by omega⟩
  rw [Security.press, Press.looks, down, up, List.replicate_succ,
    List.cons_append, run_cons, sample_first settled.button, run_append,
    run_counts rfl (by omega : 0 + count ≤ 150), Nat.zero_add,
    List.replicate_succ, run_cons, sample_short rfl short, run_up rfl,
    ← settled.linkMode]
  exact ⟨⟨rfl, rfl, settled.saved.trans settled.linkMode.symm⟩, rfl⟩

/-- The count is full, and the next look ends it. -/
theorem Settled.press_long {mode : BtsecMode} (settled : Settled mode s)
    {p : Press} {more : Nat} (down : p.down = 150 + more + 1) :
    Settled (if p.took = true then nextMode mode else mode) (s.press p) ∧
      (s.press p).shown = s.shown ++ [nextMode mode] := by
  have full :
      ({ s with button := .counts (heldFor 150) } : Security).button =
        .counts (heldFor 150) :=
    rfl
  have released (down : Bool) :
      (sample p.took { s with button := .counts (heldFor 150) } down).button =
        .releases := by
    rw [sample_long full]
  have apart := p.apart
  rw [Security.press, Press.looks, down, List.replicate_succ, List.cons_append,
    run_cons, sample_first settled.button, run_append, List.replicate_add,
    run_append, run_counts rfl (by decide : 0 + 150 ≤ 150), Nat.zero_add,
    ← settled.saved]
  cases more with
  | zero =>
      obtain ⟨gap, up⟩ : ∃ gap, p.up = gap + 1 + 1 := by
        rw [if_pos down] at apart
        exact ⟨p.up - 2, by omega⟩
      rw [List.replicate_zero, run_nil, up, List.replicate_succ, run_cons,
        run_release (released false)]
      exact sample_long_settled full false
  | succ more =>
      obtain ⟨gap, up⟩ : ∃ gap, p.up = gap + 1 := by
        rw [if_neg (by omega)] at apart
        exact ⟨p.up - 1, by omega⟩
      rw [List.replicate_succ, run_cons, run_releases (released true), up,
        run_release (released true)]
      exact sample_long_settled full true

theorem Settled.press {mode : BtsecMode} (settled : Settled mode s)
    (p : Press) :
    Settled (pressed mode p) (s.press p) ∧
      (s.press p).shown = s.shown ++ pressShows mode p := by
  obtain ⟨count, down⟩ : ∃ count, p.down = count + 1 :=
    ⟨p.down - 1, by have isDown := p.isDown; omega⟩
  by_cases short : count < 150
  · have same : pressed mode p = mode :=
      if_neg fun steps => by
        have long := steps.1
        omega
    have shows : pressShows mode p = if count < 3 then [] else [mode] := by
      unfold pressShows
      split_ifs <;> first | rfl | omega
    rw [same, shows]
    exact settled.press_short down short
  · obtain ⟨more, rfl⟩ : ∃ more, count = 150 + more :=
      ⟨count - 150, by omega⟩
    have steps :
        pressed mode p = if p.took = true then nextMode mode else mode := by
      have long : 151 ≤ p.down := by omega
      simp only [pressed, Press.Steps, long, true_and]
    have shows : pressShows mode p = [nextMode mode] := by
      rw [pressShows, if_neg (by omega), if_neg (by omega)]
    rw [steps, shows]
    exact settled.press_long down

theorem Settled.presses {mode : BtsecMode} (settled : Settled mode s)
    (presses : List Press) :
    Settled (presses.foldl pressed mode) (run Security.press s presses) ∧
      (run Security.press s presses).shown =
        s.shown ++ pressesShow mode presses := by
  induction presses generalizing s mode with
  | nil => exact ⟨settled, (List.append_nil s.shown).symm⟩
  | cons p rest inductionHypothesis =>
      obtain ⟨after, shows⟩ := settled.press p
      obtain ⟨last, showsRest⟩ := inductionHypothesis after
      rw [run_cons, List.foldl_cons]
      refine ⟨last, ?_⟩
      rw [showsRest, shows, pressesShow, List.append_assoc]

/-- The mode after some presses depends on the number of the long ones alone. -/
theorem foldl_pressed (mode : BtsecMode) (presses : List Press) :
    presses.foldl pressed mode =
      nextMode^[presses.countP (·.Steps)] mode := by
  induction presses generalizing mode with
  | nil => rfl
  | cons p rest inductionHypothesis =>
      rw [List.foldl_cons, inductionHypothesis, List.countP_cons]
      by_cases long : p.Steps
      · simp [pressed, long]
      · simp [pressed, long]

/-- Any presses: each one for which the button is found down 151 times or more
steps the saved mode once if NVS takes it, and it is in effect after the press;
the others change nothing.  The LED shows the mode of every press of four looks
or more. -/
theorem presses_step (query : QueryFn) (key : Option UInt8)
    (presses : List Press) :
    let after := run press (boot key) presses
    Reachable (step query) (boot key) after ∧
      after.saved =
          nextMode^[presses.countP (·.Steps)] (nvsSecureLoad key) ∧
        after.linkMode = after.saved ∧ after.button = .waits ∧
          after.shown = pressesShow (nvsSecureLoad key) presses := by
  intro after
  have settled : Settled (nvsSecureLoad key) (boot key) := ⟨rfl, rfl, rfl⟩
  obtain ⟨last, shows⟩ := settled.presses presses
  rw [foldl_pressed] at last
  exact
    ⟨Reachable.foldl (reachable_press query) presses (boot key), last.saved,
      last.linkMode.trans last.saved.symm, last.button, shows⟩

/-- A press of 3 s, a short one, and one of 3 s that NVS does not take. -/
def threePresses : List Press :=
  [⟨151, 2, true, by decide, by decide⟩, ⟨40, 1, true, by decide, by decide⟩,
    ⟨152, 1, false, by decide, by decide⟩]

theorem presses_step_three :
    (run press (boot none) threePresses).saved = .btsecOff ∧
      (run press (boot none) threePresses).shown =
        [.btsecOff, .btsecOff, .btsecOn] := by
  obtain ⟨-, saved, -, -, shown⟩ :=
    presses_step Web.piecesQuery none threePresses
  exact ⟨saved.trans (by decide), shown.trans (by decide)⟩

/-- With one look up between two presses `wait_release` does not see that the
first one has ended. -/
example :
    (run (sample true) (boot none)
      (.replicate 151 true ++ [false] ++ .replicate 160 true ++
        [false, false])).saved = .btsecOff := by
  decide +kernel

end Security

end VeteraBridge.Link
