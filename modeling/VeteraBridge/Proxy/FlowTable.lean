import VeteraBridge.Lib.KeyedSlots
import VeteraBridge.Proxy.Packet

/-!
# The flow table

The table that ties a phone port to the destination the phone dialled.  It is
shared by the tcpip task and the relay task under `flow_mux`; each function
here is one critical section, or part of one.
-/

namespace VeteraBridge.Proxy

def flowMax : Nat := 16

instance : NeZero flowMax := ⟨by decide⟩

/-- Milliseconds without a packet after which an active flow may be taken. -/
def idleMs : UInt32 := 120000

inductive FlowState where
  | free
  | active
  | closed
deriving DecidableEq, Repr

/-- `flow_t`: ports in host order, the address in network order. -/
structure Flow where
  state : FlowState
  phonePort : UInt16
  relayPort : UInt16
  origPort : UInt16
  origIp : UInt32
  stampMs : UInt32
deriving DecidableEq, Repr

def Flow.zero : Flow := ⟨.free, 0, 0, 0, 0, 0⟩

/-- The entry is in use. -/
def Flow.live (f : Flow) : Bool := f.state != .free

abbrev FlowTable : Type := Fin flowMax → Flow

def FlowTable.zero : FlowTable := fun _ => Flow.zero

/-- The relay port that serves a destination port. -/
def relayFor (dport : UInt16) : UInt16 :=
  if dport = 80 then relayHttpPort else relayTlsPort

/-! ## Lookup -/

/-- `flow_find`: the first entry in use for a phone port. -/
def flowFind (flows : FlowTable) (phonePort : UInt16) : Option (Fin flowMax) :=
  KeyedSlots.find Flow.live Flow.phonePort flows phonePort

/-- `flow_lookup`: the destination of an active flow on a relay port. -/
def flowLookup (flows : FlowTable) (phonePort relayPort : UInt16) :
    Option (UInt32 × UInt16) :=
  match flowFind flows phonePort with
  | some i =>
      if (flows i).state = .active ∧ (flows i).relayPort = relayPort then
        some ((flows i).origIp, (flows i).origPort)
      else
        none
  | none => none

/-! ## Choosing a slot -/

/-- The scan of `flow_slot`, with the oldest closed and the idlest active
entry seen so far. -/
def flowSlotScan (flows : FlowTable) (now : UInt32) :
    List (Fin flowMax) → Option (Fin flowMax) → Option (Fin flowMax) →
      Option (Fin flowMax)
  | [], closed, idle =>
      match closed with
      | some i => some i
      | none => idle
  | i :: rest, closed, idle =>
      let f := flows i
      if f.state = .free then
        some i
      else
        let age := now - f.stampMs
        if f.state = .closed then
          if closed.all fun c => age > now - (flows c).stampMs then
            flowSlotScan flows now rest (some i) idle
          else
            flowSlotScan flows now rest closed idle
        else if age > idleMs then
          if idle.all fun c => age > now - (flows c).stampMs then
            flowSlotScan flows now rest closed (some i)
          else
            flowSlotScan flows now rest closed idle
        else
          flowSlotScan flows now rest closed idle

/-- `flow_slot`: free first, then the oldest closed entry, then an active one
that has been idle past `IDLE_MS`. -/
def flowSlot (flows : FlowTable) (now : UInt32) : Option (Fin flowMax) :=
  flowSlotScan flows now (List.finRange flowMax) none none

/-! ## Updates -/

/-- `f->state = state; f->stamp_ms = now`. -/
def flowSetState (flows : FlowTable) (i : Fin flowMax) (state : FlowState)
    (now : UInt32) : FlowTable :=
  Function.update flows i { flows i with state := state, stampMs := now }

def flowMarkClosed (flows : FlowTable) (phonePort : UInt16) (now : UInt32) :
    FlowTable :=
  match flowFind flows phonePort with
  | some i => flowSetState flows i .closed now
  | none => flows

/-- `f->stamp_ms = now`. -/
def flowTouch (flows : FlowTable) (i : Fin flowMax) (now : UInt32) :
    FlowTable :=
  Function.update flows i { flows i with stampMs := now }

/-- `f->state = FLOW_FREE` for the entry of a phone port, if there is one. -/
def flowFree (flows : FlowTable) (phonePort : UInt16) : FlowTable :=
  match flowFind flows phonePort with
  | some i => Function.update flows i { flows i with state := .free }
  | none => flows

/-! ## Well-formed tables -/

/-- What the writers of the table keep: one entry in use for each phone port,
and each entry in use pairs a relay port with the port it serves. -/
structure FlowTable.Ok (flows : FlowTable) : Prop where
  unique : KeyedSlots.UniqueKeys Flow.live Flow.phonePort flows
  paired :
    ∀ i, (flows i).live →
      ((flows i).origPort = 80 ∨ (flows i).origPort = 443) ∧
        (flows i).relayPort = relayFor (flows i).origPort

theorem FlowTable.zero_ok : FlowTable.zero.Ok :=
  ⟨fun _ _ firstLive => Bool.noConfusion firstLive,
    fun _ isLive => Bool.noConfusion isLive⟩

section Facts

variable {flows : FlowTable} {phonePort : UInt16} {i : Fin flowMax}

theorem flowFind_spec (found : flowFind flows phonePort = some i) :
    (flows i).live ∧ (flows i).phonePort = phonePort := by
  unfold flowFind at found
  have matched := KeyedSlots.find_spec found
  exact matched

theorem flowFind_eq_none_iff :
    flowFind flows phonePort = none ↔
      ∀ i, (flows i).live → (flows i).phonePort ≠ phonePort := by
  unfold flowFind
  rw [KeyedSlots.find_eq_none_iff]

theorem FlowTable.Ok.flowFind_iff (ok : flows.Ok) :
    flowFind flows phonePort = some i ↔
      (flows i).live ∧ (flows i).phonePort = phonePort := by
  unfold flowFind
  rw [KeyedSlots.find_eq_some_iff ok.unique]

theorem flow_live_iff (f : Flow) : f.live ↔ f.state ≠ .free := by
  simp [Flow.live]

theorem flowLookup_eq_none_of_absent (relayPort : UInt16)
    (absent : flowFind flows phonePort = none) :
    flowLookup flows phonePort relayPort = none := by
  simp [flowLookup, absent]

theorem flowFree_of_absent (absent : flowFind flows phonePort = none) :
    flowFree flows phonePort = flows := by
  simp [flowFree, absent]

theorem FlowTable.Ok.flowFind_flowFree (ok : flows.Ok) :
    flowFind (flowFree flows phonePort) phonePort = none := by
  unfold flowFree
  cases found : flowFind flows phonePort with
  | none =>
      exact found
  | some i =>
      exact KeyedSlots.find_update_dead ok.unique found rfl

/-! ### The writers keep the table well formed -/

theorem FlowTable.Ok.update (ok : flows.Ok) (i : Fin flowMax) {entry : Flow}
    (samePort : entry.phonePort = (flows i).phonePort)
    (sameOrig : entry.origPort = (flows i).origPort)
    (sameRelay : entry.relayPort = (flows i).relayPort)
    (wasLive : entry.live → (flows i).live) :
    FlowTable.Ok (Function.update flows i entry) := by
  constructor
  · by_cases isLive : entry.live
    · exact ok.unique.update_sameKey (wasLive isLive) samePort
    · exact ok.unique.update_dead i (by simpa using isLive)
  · intro j jLive
    by_cases here : j = i
    · subst here
      rw [Function.update_self] at jLive ⊢
      rw [sameOrig, sameRelay]
      exact ok.paired j (wasLive jLive)
    · rw [Function.update_of_ne here] at jLive ⊢
      exact ok.paired j jLive

theorem FlowTable.Ok.flowMarkClosed (ok : flows.Ok) (phonePort : UInt16)
    (now : UInt32) : FlowTable.Ok (flowMarkClosed flows phonePort now) := by
  unfold Proxy.flowMarkClosed
  cases found : flowFind flows phonePort with
  | none =>
      exact ok
  | some i =>
      exact ok.update i rfl rfl rfl fun _ => (flowFind_spec found).1

theorem FlowTable.Ok.flowTouch (ok : flows.Ok) (i : Fin flowMax)
    (now : UInt32) : FlowTable.Ok (flowTouch flows i now) :=
  ok.update i rfl rfl rfl id

theorem FlowTable.Ok.flowFree (ok : flows.Ok) (phonePort : UInt16) :
    FlowTable.Ok (flowFree flows phonePort) := by
  unfold Proxy.flowFree
  cases flowFind flows phonePort with
  | none =>
      exact ok
  | some i =>
      exact ok.update i rfl rfl rfl fun isLive => by cases isLive

/-- Putting a new flow into a slot keeps a table well formed if no other entry
serves its phone port. -/
theorem FlowTable.Ok.assign (ok : flows.Ok) (i : Fin flowMax) {entry : Flow}
    (absent : flowFind flows entry.phonePort = none)
    (web : entry.origPort = 80 ∨ entry.origPort = 443)
    (relay : entry.relayPort = relayFor entry.origPort) :
    FlowTable.Ok (Function.update flows i entry) := by
  constructor
  · apply ok.unique.update
    intro _ other _ otherLive
    exact flowFind_eq_none_iff.mp absent other otherLive
  · intro j jLive
    by_cases here : j = i
    · subst here
      rw [Function.update_self]
      exact ⟨web, relay⟩
    · rw [Function.update_of_ne here] at jLive ⊢
      exact ok.paired j jLive

end Facts

end VeteraBridge.Proxy
