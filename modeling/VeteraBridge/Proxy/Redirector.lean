import VeteraBridge.Lib.EventRun
import VeteraBridge.Proxy.Redirect
import VeteraBridge.Proxy.Settings

/-!
# The redirect as a system of tasks

The state several tasks share: the settings, the WiFi flag, the flow table and
the output function of the PPP interface.  A hook call is two steps, since
`px_ready` and the WiFi state are read before `flow_mux` is taken and anything
may happen in between: `arrive` takes the readings and `commit` runs the
critical section.  The other events are single critical sections of the task
named, in any order.
-/

namespace VeteraBridge.Proxy

open EventRun

/-- A hook call that has taken its readings. -/
structure HookCall where
  reads : HookReads
  p : Pbuf
  inp : Option Netif
deriving DecidableEq, Repr

/-- The relay task: not created yet, about to open its listeners, in its loop,
or gone because a listener could not be opened. -/
inductive RelayTask where
  | absent
  | starting
  | serving
  | gaveUp
deriving DecidableEq, Repr

/-- `born` counts the flows each slot has held.  It names the flows in
statements; no function reads it. -/
structure Redirector where
  settings : Settings
  nvs : Nvs
  wifiConnected : Bool
  flows : FlowTable
  born : Fin flowMax → Nat
  pppOutput : NetifOutput
  origOutput : Option NetifOutput
  hook : Option HookCall
  task : RelayTask

/-- What the tasks other than the relay task do. -/
inductive OutsideEvent where
  /-- tcpip task: a packet reaches the hook, which takes its readings -/
  | arrive (p : Pbuf) (inp : Option Netif) (now : UInt32)
  /-- tcpip task: the hook call under way runs its critical section -/
  | commit
  /-- tcpip task: a packet leaves through the output wrapper -/
  | output (p : Pbuf) (now : UInt32) (cloned : Bool)
  /-- BTstack task: a PPP session starts on a fresh interface -/
  | attach (output : NetifOutput)
  /-- event task: WiFi connects or is lost -/
  | wifi (up : Bool)
  /-- web task: the settings are saved -/
  | proxySet (io : NvsIo) (on : Bool) (host : List UInt8) (port : UInt16)
deriving DecidableEq, Repr

inductive Event where
  | outside (event : OutsideEvent)
  /-- boot: `proxy_init` loads the settings and creates the relay task -/
  | proxyInit (opened : Bool)
  /-- relay task: which of its two listeners could be opened -/
  | listen (http tls : Bool)
  /-- relay task: a session of this phone port is closed -/
  | relayClose (phonePort : UInt16) (now : UInt32)
deriving DecidableEq, Repr

namespace Redirector

/-- The packet and the flow table after a hook call that finds this table. -/
def hookResult (flows : FlowTable) (call : HookCall) : Pbuf × FlowTable :=
  proxyIp4InputHook call.reads call.p call.inp flows

/-- The slot a hook call that finds this table takes for a new flow. -/
def hookTaken (flows : FlowTable) (call : HookCall) : Option (Fin flowMax) :=
  match hookRequest call.reads call.p call.inp with
  | none => none
  | some (_, r) => (hookFlows flows r).taken

/-- One more flow in the slot taken. -/
def countBorn (born : Fin flowMax → Nat) :
    Option (Fin flowMax) → Fin flowMax → Nat
  | none => born
  | some i => Function.update born i (born i + 1)

def outsideStep (s : Redirector) : OutsideEvent → Redirector
  | .arrive p inp now =>
      -- The tcpip task runs one hook call at a time.
      if s.hook.isSome then s
      else
        { s with
          hook :=
            some ⟨⟨s.settings.pxReady, s.wifiConnected, now⟩, p, inp⟩ }
  | .commit =>
      match s.hook with
      | none => s
      | some call =>
          { s with
            flows := (hookResult s.flows call).2
            born := countBorn s.born (hookTaken s.flows call)
            hook := none }
  | .output p now cloned =>
      { s with flows := (proxyNetifOutput now cloned p s.flows).2 }
  | .attach output =>
      let attached := proxyAttachNetif output s.origOutput
      { s with
        flows := attached.1
        pppOutput := attached.2.1
        origOutput := attached.2.2 }
  | .wifi up => { s with wifiConnected := up }
  | .proxySet io on host port =>
      let saved := proxySet io on host port s.nvs
      { s with settings := saved.1, nvs := saved.2 }

def step (s : Redirector) : Event → Redirector
  | .outside event => s.outsideStep event
  | .proxyInit opened =>
      if s.task = .absent then
        { s with settings := settingsLoad opened s.nvs, task := .starting }
      else
        s
  | .listen http tls =>
      if s.task = .starting then
        if http && tls then { s with task := .serving }
        else { s with settings := s.settings.giveUp, task := .gaveUp }
      else
        s
  | .relayClose phonePort now =>
      { s with flows := flowMarkClosed s.flows phonePort now }

/-- A run of the tasks other than the relay task. -/
def outsideRun (s : Redirector) (events : List OutsideEvent) : Redirector :=
  run outsideStep s events

/-- The state at boot, with whatever NVS holds. -/
def boot (nvs : Nvs) : Redirector :=
  { settings := Settings.zero
    nvs := nvs
    wifiConnected := false
    flows := FlowTable.zero
    born := fun _ => 0
    pppOutput := .lwip
    origOutput := none
    hook := none
    task := .absent }

end Redirector

open Redirector

/-! ## The table stays well formed -/

section Tables

variable {flows : FlowTable}

theorem output_flows (now : UInt32) (cloned : Bool) (p : Pbuf)
    (flows : FlowTable) :
    (proxyNetifOutput now cloned p flows).2 = flows ∨
      ∃ i, (proxyNetifOutput now cloned p flows).2 = flowTouch flows i now := by
  unfold proxyNetifOutput
  split
  · exact Or.inl rfl
  · dsimp only
    split
    · exact Or.inl rfl
    · split
      · exact Or.inl rfl
      · next i _ =>
        split <;> split <;>
          first
          | exact Or.inr ⟨i, rfl⟩
          | exact Or.inl rfl

theorem attach_flows (output : NetifOutput) (origOutput : Option NetifOutput) :
    (proxyAttachNetif output origOutput).1 = FlowTable.zero := by
  unfold proxyAttachNetif
  split <;> rfl

end Tables

/-- What a step of any task does to the table. -/
inductive FlowsStep (s : Redirector) : Event → FlowTable → Prop
  | keeps (event : Event) : FlowsStep s event s.flows
  | hook {call : HookCall} (inFlight : s.hook = some call) :
      FlowsStep s (.outside .commit) (hookResult s.flows call).2
  | touches (event : Event) (i : Fin flowMax) (now : UInt32) :
      FlowsStep s event (flowTouch s.flows i now)
  | attaches (output : NetifOutput) :
      FlowsStep s (.outside (.attach output)) FlowTable.zero
  | closes (phonePort : UInt16) (now : UInt32) :
      FlowsStep s (.relayClose phonePort now)
        (flowMarkClosed s.flows phonePort now)

theorem Redirector.step_flows (s : Redirector) (event : Event) :
    FlowsStep s event (s.step event).flows := by
  cases event with
  | outside event =>
      cases event with
      | arrive p inp now =>
          simp only [step, outsideStep]
          split
          · exact FlowsStep.keeps _
          · exact FlowsStep.keeps _
      | commit =>
          simp only [step, outsideStep]
          split
          · exact FlowsStep.keeps _
          · next call inFlight =>
            exact FlowsStep.hook inFlight
      | output p now cloned =>
          simp only [step, outsideStep]
          rcases output_flows now cloned p s.flows with same | ⟨i, touched⟩
          · rw [same]
            exact FlowsStep.keeps _
          · rw [touched]
            exact FlowsStep.touches _ i now
      | attach output =>
          simp only [step, outsideStep, attach_flows]
          exact FlowsStep.attaches output
      | wifi up =>
          exact FlowsStep.keeps _
      | proxySet io on host port =>
          exact FlowsStep.keeps _
  | proxyInit opened =>
      simp only [step]
      split
      · exact FlowsStep.keeps _
      · exact FlowsStep.keeps _
  | listen http tls =>
      simp only [step]
      split
      · split
        · exact FlowsStep.keeps _
        · exact FlowsStep.keeps _
      · exact FlowsStep.keeps _
  | relayClose phonePort now =>
      exact FlowsStep.closes phonePort now

/-- What a step of any task does to the hook call under way. -/
inductive HookStep (s : Redirector) : Event → Option HookCall → Prop
  | keeps (event : Event) (notCommit : event ≠ .outside .commit) :
      HookStep s event s.hook
  | starts (p : Pbuf) (inp : Option Netif) (now : UInt32)
      (noCall : s.hook = none) :
      HookStep s (.outside (.arrive p inp now))
        (some ⟨⟨s.settings.pxReady, s.wifiConnected, now⟩, p, inp⟩)
  | commits : HookStep s (.outside .commit) none

theorem Redirector.step_hook (s : Redirector) (event : Event) :
    HookStep s event (s.step event).hook := by
  cases event with
  | outside event =>
      cases event with
      | arrive p inp now =>
          cases inFlight : s.hook with
          | none =>
              simp only [step, outsideStep, inFlight]
              exact HookStep.starts p inp now inFlight
          | some call =>
              simp only [step, outsideStep, inFlight, Option.isSome_some,
                if_true]
              rw [← inFlight]
              exact HookStep.keeps _ (by simp)
      | commit =>
          cases inFlight : s.hook with
          | none =>
              simp only [step, outsideStep, inFlight]
              exact HookStep.commits
          | some call =>
              simp only [step, outsideStep, inFlight]
              exact HookStep.commits
      | _ =>
          exact HookStep.keeps _ (by simp)
  | proxyInit opened =>
      simp only [step]
      split <;> exact HookStep.keeps _ (by simp)
  | listen http tls =>
      simp only [step]
      split
      · split <;> exact HookStep.keeps _ (by simp)
      · exact HookStep.keeps _ (by simp)
  | relayClose phonePort now =>
      exact HookStep.keeps _ (by simp)

theorem Redirector.step_ok (s : Redirector) (event : Event) (ok : s.flows.Ok) :
    (s.step event).flows.Ok := by
  have flows := step_flows s event
  generalize (s.step event).flows = after at *
  cases flows with
  | keeps =>
      exact ok
  | hook _ =>
      exact hook_ok ok
  | touches _ i now =>
      exact ok.flowTouch i now
  | attaches _ =>
      exact FlowTable.zero_ok
  | closes phonePort now =>
      exact ok.flowMarkClosed phonePort now

/-- In every reachable state each phone port has one entry in use, and each
entry pairs a relay port with the port it serves. -/
theorem Redirector.run_ok (nvs : Nvs) (events : List Event) :
    (run step (boot nvs) events).flows.Ok :=
  run_invariant (fun s : Redirector => s.flows.Ok) step_ok
    FlowTable.zero_ok events

/-! ## Entries that are kept -/

/-- The step frees the entry in slot `i` or gives the slot to a new flow: a
SYN of its phone port that continues no flow, a new flow that takes the slot,
or a fresh PPP interface. -/
def Releases (i : Fin flowMax) (s : Redirector) : Event → Prop
  | .outside (.attach _) => True
  | .outside .commit =>
      ∃ call hl r, s.hook = some call ∧
        hookRequest call.reads call.p call.inp = some (hl, r) ∧
        (HookFrees s.flows r i ∨ (hookFlows s.flows r).taken = some i)
  | _ => False

/-- Two entries in use are for the same flow. -/
structure SameFlow (f g : Flow) : Prop where
  live : g.live
  phonePort : g.phonePort = f.phonePort
  relayPort : g.relayPort = f.relayPort
  origPort : g.origPort = f.origPort
  origIp : g.origIp = f.origIp

theorem SameFlow.refl {f : Flow} (live : f.live) : SameFlow f f :=
  ⟨live, rfl, rfl, rfl, rfl⟩

theorem SameFlow.trans {f g h : Flow} (first : SameFlow f g)
    (second : SameFlow g h) : SameFlow f h :=
  ⟨second.live, second.phonePort.trans first.phonePort,
    second.relayPort.trans first.relayPort,
    second.origPort.trans first.origPort, second.origIp.trans first.origIp⟩

section Kept

variable {flows : FlowTable} {i : Fin flowMax}

theorem flowTouch_sameFlow (live : (flows i).live) (j : Fin flowMax)
    (now : UInt32) : SameFlow (flows i) (flowTouch flows j now i) := by
  unfold flowTouch
  by_cases here : i = j
  · subst here
    rw [Function.update_self]
    exact ⟨live, rfl, rfl, rfl, rfl⟩
  · rw [Function.update_of_ne here]
    exact SameFlow.refl live

theorem flowMarkClosed_sameFlow (live : (flows i).live) (phonePort : UInt16)
    (now : UInt32) :
    SameFlow (flows i) (flowMarkClosed flows phonePort now i) := by
  unfold flowMarkClosed
  cases flowFind flows phonePort with
  | none =>
      exact SameFlow.refl live
  | some j =>
      by_cases here : i = j
      · subst here
        simp only [flowSetState, Function.update_self]
        exact ⟨rfl, rfl, rfl, rfl, rfl⟩
      · simp only [flowSetState, Function.update_of_ne here]
        exact SameFlow.refl live

theorem flowFree_sameFlow (live : (flows i).live) {phonePort : UInt16}
    (notFreed : flowFind flows phonePort ≠ some i) :
    SameFlow (flows i) (flowFree flows phonePort i) := by
  unfold flowFree
  cases found : flowFind flows phonePort with
  | none =>
      exact SameFlow.refl live
  | some j =>
      have elsewhere : i ≠ j := fun here => notFreed (here ▸ found)
      simp only [Function.update_of_ne elsewhere]
      exact SameFlow.refl live

theorem hookFlows_sameFlow {r : HookRequest} (live : (flows i).live)
    (notFreed : ¬ HookFrees flows r i)
    (notTaken : (hookFlows flows r).taken ≠ some i) :
    SameFlow (flows i) ((hookFlows flows r).flows i) := by
  have outcome := hookFlows_outcome flows r
  generalize hookFlows flows r = decision at *
  cases outcome with
  | continues j _ =>
      exact flowTouch_sameFlow live j r.now
  | passes _ _ =>
      exact SameFlow.refl live
  | refuses isSyn foreign _ =>
      exact
        flowFree_sameFlow live fun found =>
          notFreed ⟨isSyn, found, foreign i⟩
  | starts j isSyn foreign _ _ =>
      have elsewhere : i ≠ j := fun here => notTaken (by rw [here])
      simp only [Function.update_of_ne elsewhere]
      exact
        flowFree_sameFlow live fun found =>
          notFreed ⟨isSyn, found, foreign i⟩

end Kept

theorem Redirector.step_sameFlow {s : Redirector} {event : Event}
    {i : Fin flowMax} (live : (s.flows i).live)
    (kept : ¬ Releases i s event) :
    SameFlow (s.flows i) ((s.step event).flows i) := by
  have flows := step_flows s event
  generalize (s.step event).flows = after at *
  cases flows with
  | keeps =>
      exact SameFlow.refl live
  | @hook call inFlight =>
      cases made : hookRequest call.reads call.p call.inp with
      | none =>
          simp only [hookResult, hook_of_no_request made]
          exact SameFlow.refl live
      | some request =>
          obtain ⟨hl, r⟩ := request
          simp only [hookResult, hook_flows made]
          apply hookFlows_sameFlow live
          · intro freed
            exact kept ⟨call, hl, r, inFlight, made, Or.inl freed⟩
          · intro taken
            exact kept ⟨call, hl, r, inFlight, made, Or.inr taken⟩
  | touches _ j now =>
      exact flowTouch_sameFlow live j now
  | attaches _ =>
      exact absurd trivial kept
  | closes phonePort now =>
      exact flowMarkClosed_sameFlow live phonePort now

/-- An entry that no step of a run releases is for the same flow at its
end. -/
theorem Redirector.run_sameFlow {s : Redirector} {events : List Event}
    {i : Fin flowMax} (live : (s.flows i).live)
    (kept : Along step (fun s event => ¬ Releases i s event) s events) :
    SameFlow (s.flows i) ((run step s events).flows i) := by
  have preserved :
      ∀ state event, SameFlow (s.flows i) (state.flows i) →
        ¬ Releases i state event →
          SameFlow (s.flows i) ((step state event).flows i) := by
    intro state event same notReleased
    exact same.trans (step_sameFlow same.live notReleased)
  exact
    run_invariant_along (fun t : Redirector => SameFlow (s.flows i) (t.flows i))
      preserved (SameFlow.refl live) kept

end VeteraBridge.Proxy
