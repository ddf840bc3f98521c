import VeteraBridge.Link.Session

/-!
# Auto security

In auto mode the accept of a channel is held until the phone has told its name
or the link is secured.  The answers come at any time, for any phone; one counts
only for the channel that is held when it arrives, and ends the hold.
-/

namespace VeteraBridge.Link

open EventRun
open Proxy (cstr)

/-! ## Holds -/

/-- The channel of an `incoming` event is held since, all through what has
happened after it. -/
structure Hold (start : LinkState) (before : List Event) (cid handle : UInt16)
    (addr : BdAddr) (requested : Bool) (since : List Event) : Prop where
  free : (run LinkState.step start before).sessionActive = false
  throughout :
    ∀ earlier, earlier <+: since →
      (run LinkState.step start
        (before ++ .incoming cid handle addr requested :: earlier)).autoCid =
          cid

/-- Security was asked for on the connection of the channel while it was
held. -/
def SecurityRequested (start : LinkState) (before : List Event)
    (cid handle : UInt16) (addr : BdAddr) (requested : Bool)
    (since : List Event) : Prop :=
  ∃ earlier, earlier <+: since ∧
    .requestSecurityLevel handle level2 ∈
      (run LinkState.step start
        (before ++ .incoming cid handle addr requested :: earlier)).calls

/-- The event is an answer that lets the held channel be accepted: its phone's
name is on the list, or its connection is secured as was asked. -/
def Justified (start : LinkState) (events : List Event) (event : Event)
    (cid : UInt16) : Prop :=
  ∃ before handle addr requested since,
    events = before ++ .incoming cid handle addr requested :: since ∧
      Hold start before cid handle addr requested since ∧
      ((∃ name, event = .nameComplete addr 0 name ∧
          isNosecName (cstr name) = true) ∨
        ∃ level, event = .securityLevel handle 0 level ∧ level2 ≤ level ∧
          SecurityRequested start before cid handle addr requested since)

/-- A held channel is accepted or declined. -/
structure Resolves (s : LinkState) (event : Event) (cid : UInt16) : Prop where
  held : cid ≠ 0 ∧ s.autoCid = cid
  answer : ∀ cid handle addr requested,
    event ≠ .incoming cid handle addr requested
  resolved :
    .acceptConnection cid ∈ (s.step event).calls ∨
      .declineConnection cid ∈ (s.step event).calls

/-! ## Names -/

section Names

theorem startsNocase_append (hay more needle : List UInt8)
    (starts : startsNocase hay needle = true) :
    startsNocase (hay ++ more) needle = true := by
  induction needle generalizing hay with
  | nil =>
      cases hay <;> cases more <;> rfl
  | cons n needle inductionHypothesis =>
      cases hay with
      | nil => cases starts
      | cons c hay =>
          simp only [List.cons_append, startsNocase, Bool.and_eq_true]
            at starts ⊢
          exact ⟨starts.1, inductionHypothesis hay starts.2⟩

theorem containsNocase_append (hay more needle : List UInt8)
    (contains : containsNocase hay needle = true) :
    containsNocase (hay ++ more) needle = true := by
  induction hay with
  | nil =>
      cases contains
  | cons c hay inductionHypothesis =>
      simp only [List.cons_append, containsNocase, Bool.or_eq_true]
        at contains ⊢
      rcases contains with here | later
      · left
        exact startsNocase_append (c :: hay) more needle here
      · exact Or.inr (inductionHypothesis later)

/-- What the copied name shows is in the whole name. -/
theorem isNosecName_of_copied {name : List UInt8}
    (listed : isNosecName (copiedName name) = true) :
    isNosecName (cstr name) = true := by
  unfold isNosecName at *
  obtain ⟨model, known, contains⟩ := List.any_eq_true.mp listed
  refine List.any_eq_true.mpr ⟨model, known, ?_⟩
  have whole := List.take_append_drop (btNameMax - 1) (cstr name)
  rw [← whole]
  exact containsNocase_append _ _ model contains

end Names

/-! ## One step -/

section Steps

variable {s s' middle : LinkState}

/-- The hold stays as it is, and nothing is decided. -/
structure SameHold (s s' : LinkState) : Prop where
  linkMode : s'.linkMode = s.linkMode
  autoCid : s'.autoCid = s.autoCid
  autoHandle : s'.autoHandle = s.autoHandle
  autoAddr : s'.autoAddr = s.autoAddr
  autoSecPending : s'.autoSecPending = s.autoSecPending
  decisions : s'.decisions = s.decisions

theorem SameHold.after (second : SameHold middle s') (first : SameHold s middle) :
    SameHold s s' :=
  ⟨second.linkMode.trans first.linkMode, second.autoCid.trans first.autoCid,
    second.autoHandle.trans first.autoHandle,
    second.autoAddr.trans first.autoAddr,
    second.autoSecPending.trans first.autoSecPending,
    second.decisions.trans first.decisions⟩

theorem SameSession.sameHold (same : SameSession s s') : SameHold s s' :=
  ⟨same.linkMode, same.autoCid, same.autoHandle, same.autoAddr,
    same.autoSecPending, same.decisions⟩

theorem SameHold.call (s : LinkState) {c : Call} (plain : c.decides = false) :
    SameHold s (s.call c) :=
  (SameSession.call s plain).sameHold

theorem SameHold.noSession (same : SameHold s s') : SameHold s s'.noSession :=
  ⟨same.linkMode, same.autoCid, same.autoHandle, same.autoAddr,
    same.autoSecPending, same.decisions⟩

theorem SameHold.noPpp (same : SameHold s s') :
    SameHold s { s' with ppp := none } :=
  ⟨same.linkMode, same.autoCid, same.autoHandle, same.autoAddr,
    same.autoSecPending, same.decisions⟩

theorem pppSessionStart_sameHold (created listens : Bool) (s : LinkState) :
    SameHold s (pppSessionStart created listens s).2 := by
  unfold pppSessionStart
  split
  · have started (ppp : Option Nat) (pcbs : Nat) (pcb : Nat) :
        SameHold s
          (({ s with ppp := ppp, pcbs := pcbs }.call (.pppCreate pcb)).call
            (.pppListen pcb)) :=
      (SameHold.call _ rfl).after
        ((SameHold.call _ rfl).after ⟨rfl, rfl, rfl, rfl, rfl, rfl⟩)
    dsimp only
    split
    · exact started _ _ _
    · exact ((SameHold.call _ rfl).after (started _ _ _)).noPpp
  · exact ⟨rfl, rfl, rfl, rfl, rfl, rfl⟩

theorem rfcommOpened_sameHold (cid handle : UInt16) (created listens : Bool)
    (s : LinkState) :
    SameHold s (rfcommOpened cid 0 handle created listens s) := by
  have fresh : SameHold s (freshChannel s) := ⟨rfl, rfl, rfl, rfl, rfl, rfl⟩
  have started :=
    (pppSessionStart_sameHold created listens (freshChannel s)).after fresh
  unfold rfcommOpened
  rw [if_neg (by simp)]
  dsimp only
  split
  · exact (SameHold.call _ rfl).after started
  · exact ((SameHold.call _ rfl).after started).noSession

theorem pppSessionStop_sameHold (s : LinkState) :
    SameHold s (pppSessionStop s) := by
  have none : SameHold s s.noSession := ⟨rfl, rfl, rfl, rfl, rfl, rfl⟩
  unfold pppSessionStop
  dsimp only
  split
  · obtain ⟨linkMode, autoCid, autoHandle, autoAddr, pending, decisions⟩ :=
      (SameHold.call s.noSession (c := .pppClose _) rfl).after none
    exact ⟨linkMode, autoCid, autoHandle, autoAddr, pending, decisions⟩
  · exact ⟨rfl, rfl, rfl, rfl, rfl, rfl⟩

/-- The end of the session keeps the hold. -/
theorem sessionClosed_sameHold (s : LinkState) :
    SameHold s ((pppSessionStop s).call .gwOnRfcommClosed) :=
  (SameHold.call _ rfl).after (pppSessionStop_sameHold s)

/-- What a step does to the hold. -/
inductive HoldStep (s : LinkState) (event : Event) (s' : LinkState) : Prop where
  | keeps (cid : s'.autoCid = s.autoCid) (handle : s'.autoHandle = s.autoHandle)
      (addr : s'.autoAddr = s.autoAddr)
      (pending :
        s'.autoSecPending = true →
          s.autoSecPending = true ∨
            .requestSecurityLevel s.autoHandle level2 ∈ s'.calls)
  | ends (released : s'.autoCid = 0)
  | begins (cid handle : UInt16) (addr : BdAddr) (requested : Bool)
      (incoming : event = .incoming cid handle addr requested)
      (free : s.sessionActive = false) (held : s'.autoCid = cid)
      (sameHandle : s'.autoHandle = handle) (sameAddr : s'.autoAddr = addr)
      (pending :
        s'.autoSecPending = true →
          .requestSecurityLevel handle level2 ∈ s'.calls)

theorem SameHold.holdStep {event : Event}
    (same : SameHold { s with calls := [] } s') : HoldStep s event s' := by
  refine HoldStep.keeps same.autoCid same.autoHandle same.autoAddr ?_
  rw [same.autoSecPending]
  exact Or.inl

/-- A decision either ends the hold, or asks for security. -/
theorem autoDecide_holdStep (name : Option (List UInt8)) (s : LinkState)
    {event : Event} :
    HoldStep s event (autoDecide name { s with calls := [] }) := by
  unfold autoDecide
  dsimp only
  split
  · refine HoldStep.keeps rfl rfl rfl ?_
    intro _
    right
    exact List.mem_append_right _ List.mem_cons_self
  · exact HoldStep.ends rfl

theorem autoBegin_holdStep (cid handle : UInt16) (addr : BdAddr)
    (requested : Bool) (s : LinkState) (free : s.sessionActive = false)
    (before : LinkState) :
    HoldStep s (.incoming cid handle addr requested)
      (autoBegin cid handle addr requested before) := by
  unfold autoBegin
  dsimp only
  split
  · exact
      HoldStep.begins cid handle addr requested rfl free rfl rfl rfl
        Bool.noConfusion
  · refine HoldStep.begins cid handle addr requested rfl free rfl rfl rfl ?_
    intro _
    exact List.mem_append_right _ List.mem_cons_self

theorem step_hold (s : LinkState) (event : Event) :
    HoldStep s event (s.step event) := by
  cases event with
  | incoming cid handle addr requested =>
      simp only [LinkState.step, LinkState.handle, rfcommIncoming]
      split
      · exact HoldStep.keeps (by rfl) (by rfl) (by rfl) Or.inl
      · next free =>
        split
        · apply autoBegin_holdStep
          exact Bool.eq_false_iff.mpr free
        · exact HoldStep.keeps (by rfl) (by rfl) (by rfl) Or.inl
  | opened cid status handle created listens =>
      by_cases fine : status = 0
      · subst fine
        exact (rfcommOpened_sameHold cid handle created listens _).holdStep
      · simp only [LinkState.step, LinkState.handle, rfcommOpened, ne_eq, fine,
          not_false_eq_true, if_true, rfcommOpenFailed]
        by_cases held : cid = s.autoCid
        · rw [if_pos held]
          apply HoldStep.ends
          split
          · rfl
          · rfl
        · rw [if_neg held]
          split
          · exact HoldStep.keeps (by rfl) (by rfl) (by rfl) Or.inl
          · exact HoldStep.keeps (by rfl) (by rfl) (by rfl) Or.inl
  | canSendNow cid maxFrameSize sendStatus =>
      exact (rfcommCanSendNow_same maxFrameSize sendStatus _).sameHold.holdStep
  | closed cid =>
      simp only [LinkState.step, LinkState.handle, rfcommClosed]
      split
      · exact HoldStep.keeps (by rfl) (by rfl) (by rfl) Or.inl
      · split
        · exact HoldStep.ends rfl
        · exact (sessionClosed_sameHold _).holdStep
  | data channel packet =>
      exact (rfcommData_same channel packet _).sameHold.holdStep
  | nameComplete addr status remoteName =>
      simp only [LinkState.step, LinkState.handle, autoNameComplete]
      split_ifs
      · exact HoldStep.keeps (by rfl) (by rfl) (by rfl) Or.inl
      · exact HoldStep.keeps (by rfl) (by rfl) (by rfl) Or.inl
      · exact HoldStep.keeps (by rfl) (by rfl) (by rfl) Or.inl
      · exact autoDecide_holdStep none s
      · exact autoDecide_holdStep _ s
  | securityLevel handle status level =>
      simp only [LinkState.step, LinkState.handle, autoSecurityLevel]
      split_ifs
      · exact HoldStep.keeps (by rfl) (by rfl) (by rfl) Or.inl
      · exact HoldStep.keeps (by rfl) (by rfl) (by rfl) Or.inl
      · exact HoldStep.keeps (by rfl) (by rfl) (by rfl) Or.inl
      · apply HoldStep.ends
        unfold autoFail
        dsimp only
        split
        · rfl
        · rfl
      · exact HoldStep.ends rfl
  | txNotify => exact (txNotifyCb_same _).sameHold.holdStep
  | pppOutput data => exact (pppOutputCb_same data _).sameHold.holdStep
  | pppStatus pcb up => exact (pppStatusCb_same pcb up _).sameHold.holdStep

/-! ## Decisions -/

theorem SameHold.undecided (same : SameHold { s with calls := [] } s')
    {c : Call} (called : c ∈ s'.calls) : c.decides = false := by
  have none : s'.calls.filter Call.decides = [] := same.decisions
  rw [List.filter_eq_nil_iff] at none
  exact Bool.eq_false_iff.mpr (none c called)

/-- Where a decision on a channel comes from. -/
inductive Decision (s : LinkState) (c : Call) : Event → Prop where
  | incoming (cid handle : UInt16) (addr : BdAddr) (requested : Bool)
      (declined :
        c = .declineConnection cid ∨
          s.linkMode ≠ .btsecAuto ∧ c = .acceptConnection cid) :
      Decision s c (.incoming cid handle addr requested)
  | named (name : List UInt8) (held : s.autoCid ≠ 0)
      (idle : s.autoSecPending = false)
      (accepted : c = .acceptConnection s.autoCid)
      (listed : isNosecName (copiedName name) = true) :
      Decision s c (.nameComplete s.autoAddr 0 name)
  | secured (level : Nat) (held : s.autoCid ≠ 0)
      (accepted : c = .acceptConnection s.autoCid)
      (pending : s.autoSecPending = true) (enough : level2 ≤ level) :
      Decision s c (.securityLevel s.autoHandle 0 level)
  | refused (status : UInt8) (level : Nat) (held : s.autoCid ≠ 0)
      (pending : s.autoSecPending = true)
      (weak : status ≠ 0 ∨ level < level2)
      (declined : c = .declineConnection s.autoCid) :
      Decision s c (.securityLevel s.autoHandle status level)

theorem autoDecide_decides {name : Option (List UInt8)} {c : Call}
    (called : c ∈ (autoDecide name { s with calls := [] }).calls)
    (decides : c.decides = true) :
    securesName name = false ∧ c = .acceptConnection s.autoCid := by
  unfold autoDecide at called
  dsimp only at called
  split at called
  · simp only [LinkState.call, List.nil_append, List.mem_singleton] at called
    subst called
    cases decides
  · next plain =>
    simp only [LinkState.call, autoRelease, List.nil_append,
      List.mem_singleton] at called
    exact ⟨Bool.eq_false_iff.mpr plain, called⟩

theorem autoBegin_undecided {cid handle : UInt16} {addr : BdAddr}
    {requested : Bool} (quiet : s.calls = []) {c : Call}
    (called : c ∈ (autoBegin cid handle addr requested s).calls) :
    c.decides = false := by
  unfold autoBegin at called
  dsimp only at called
  split at called
  · simp only [LinkState.call, quiet, List.nil_append, List.mem_singleton]
      at called
    rw [called]
    rfl
  · simp only [autoDecide, securesName, if_true, LinkState.call, quiet,
      List.nil_append, List.mem_append, List.mem_singleton] at called
    rcases called with rfl | rfl
    · rfl
    · rfl

theorem rfcommOpenFailed_calls (cid : UInt16) (s : LinkState) :
    (rfcommOpenFailed cid s).calls = s.calls := by
  unfold rfcommOpenFailed autoRelease LinkState.noSession
  dsimp only
  split_ifs <;> rfl

theorem autoFail_calls (s : LinkState) :
    (autoFail s).calls = s.calls ++ [.declineConnection s.autoCid] := by
  unfold autoFail
  dsimp only
  split
  · rfl
  · rfl

theorem step_decides {event : Event} {c : Call}
    (called : c ∈ (s.step event).calls) (decides : c.decides = true) :
    Decision s c event := by
  have undecided (same : SameHold { s with calls := [] } (s.step event)) :
      Decision s c event := by
    rw [same.undecided called] at decides
    cases decides
  cases event with
  | incoming cid handle addr requested =>
      apply Decision.incoming
      simp only [LinkState.step, LinkState.handle, rfcommIncoming] at called
      split at called
      · exact Or.inl (List.mem_singleton.mp called)
      · split at called
        · rw [autoBegin_undecided rfl called] at decides
          cases decides
        · next plain => exact Or.inr ⟨plain, List.mem_singleton.mp called⟩
  | opened cid status handle created listens =>
      by_cases fine : status = 0
      · subst fine
        exact undecided (rfcommOpened_sameHold cid handle created listens _)
      · simp only [LinkState.step, LinkState.handle, rfcommOpened, ne_eq, fine,
          not_false_eq_true, if_true, rfcommOpenFailed_calls] at called
        cases called
  | canSendNow cid maxFrameSize sendStatus =>
      exact undecided (rfcommCanSendNow_same maxFrameSize sendStatus _).sameHold
  | closed cid =>
      simp only [LinkState.step, LinkState.handle, rfcommClosed] at called
      split_ifs at called with foreign held
      · cases called
      · cases called
      · rw [(sessionClosed_sameHold _).undecided called] at decides
        cases decides
  | data channel packet =>
      exact undecided (rfcommData_same channel packet _).sameHold
  | nameComplete addr status remoteName =>
      simp only [LinkState.step, LinkState.handle, autoNameComplete] at called
      split_ifs at called with noHold pending foreign failed
      · cases called
      · cases called
      · cases called
      · obtain ⟨unsecured, _⟩ := autoDecide_decides called decides
        cases unsecured
      · obtain ⟨unsecured, accepted⟩ := autoDecide_decides called decides
        obtain rfl : addr = s.autoAddr := not_not.mp foreign
        obtain rfl : status = 0 := not_not.mp failed
        apply
          Decision.named remoteName noHold (Bool.eq_false_iff.mpr pending)
            accepted
        simpa [securesName] using unsecured
  | securityLevel handle status level =>
      simp only [LinkState.step, LinkState.handle, autoSecurityLevel] at called
      split_ifs at called with noHold idle foreign failed
      · cases called
      · cases called
      · cases called
      · obtain rfl : handle = s.autoHandle := not_not.mp foreign
        rw [autoFail_calls] at called
        exact
          Decision.refused status level noHold (Bool.not_eq_false _ ▸ idle)
            failed (List.mem_singleton.mp called)
      · obtain rfl : handle = s.autoHandle := not_not.mp foreign
        obtain ⟨fine, enough⟩ := not_or.mp failed
        obtain rfl : status = 0 := not_not.mp fine
        simp only [LinkState.call, autoRelease, List.nil_append,
          List.mem_singleton] at called
        exact
          Decision.secured level noHold called (Bool.not_eq_false _ ▸ idle)
            (Nat.le_of_not_lt enough)
  | txNotify => exact undecided (txNotifyCb_same _).sameHold
  | pppOutput data => exact undecided (pppOutputCb_same data _).sameHold
  | pppStatus pcb up => exact undecided (pppStatusCb_same pcb up _).sameHold

/-- A decision on the held channel ends the hold. -/
theorem Decision.releases {c : Call} {event : Event}
    (decision : Decision s c event)
    (answer : ∀ cid handle addr requested,
      event ≠ .incoming cid handle addr requested) :
    (s.step event).autoCid = 0 := by
  cases decision with
  | incoming cid handle addr requested declined =>
      exact absurd rfl (answer cid handle addr requested)
  | named name held idle accepted listed =>
      simp [LinkState.step, LinkState.handle, autoNameComplete, held, idle,
        autoDecide, securesName, listed, LinkState.call, autoRelease]
  | secured level held accepted pending enough =>
      have notWeak : ¬ level < level2 := not_lt.mpr enough
      simp [LinkState.step, LinkState.handle, autoSecurityLevel, held, pending,
        notWeak, LinkState.call, autoRelease]
  | refused status level held pending weak declined =>
      simp only [LinkState.step, LinkState.handle, autoSecurityLevel, held,
        if_false, pending, Bool.true_eq_false, ne_eq, not_true_eq_false]
      rw [if_pos weak]
      unfold autoFail
      dsimp only
      split
      · rfl
      · rfl

/-- A step decides on one channel at most. -/
theorem step_decisions_length (s : LinkState) (event : Event) :
    (s.step event).decisions.length ≤ 1 := by
  have same {s' : LinkState} (same : SameHold { s with calls := [] } s') :
      s'.decisions.length ≤ 1 := by
    rw [same.decisions]
    exact Nat.zero_le 1
  have decided (name : Option (List UInt8)) :
      (autoDecide name { s with calls := [] }).decisions.length ≤ 1 := by
    unfold autoDecide LinkState.decisions
    dsimp only
    split
    · exact Nat.zero_le 1
    · exact le_refl 1
  cases event with
  | incoming cid handle addr requested =>
      simp only [LinkState.step, LinkState.handle, rfcommIncoming]
      split
      · exact le_refl 1
      · split
        · have none :
              (autoBegin cid handle addr requested
                { s with
                  calls := []
                  sessionActive := true
                  activeCid := cid }).decisions = [] := by
            rw [LinkState.decisions, List.filter_eq_nil_iff]
            intro c called
            rw [autoBegin_undecided rfl called]
            exact Bool.false_ne_true
          rw [none]
          exact Nat.zero_le 1
        · exact le_refl 1
  | opened cid status handle created listens =>
      by_cases fine : status = 0
      · subst fine
        exact same (rfcommOpened_sameHold cid handle created listens _)
      · simp only [LinkState.step, LinkState.handle, rfcommOpened, ne_eq, fine,
          not_false_eq_true, if_true, LinkState.decisions,
          rfcommOpenFailed_calls]
        exact Nat.zero_le 1
  | canSendNow cid maxFrameSize sendStatus =>
      exact same (rfcommCanSendNow_same maxFrameSize sendStatus _).sameHold
  | closed cid =>
      simp only [LinkState.step, LinkState.handle, rfcommClosed]
      split_ifs
      · exact Nat.zero_le 1
      · exact Nat.zero_le 1
      · exact same (sessionClosed_sameHold _)
  | data channel packet => exact same (rfcommData_same channel packet _).sameHold
  | nameComplete addr status remoteName =>
      simp only [LinkState.step, LinkState.handle, autoNameComplete]
      split_ifs
      · exact Nat.zero_le 1
      · exact Nat.zero_le 1
      · exact Nat.zero_le 1
      · exact decided none
      · exact decided _
  | securityLevel handle status level =>
      simp only [LinkState.step, LinkState.handle, autoSecurityLevel]
      split_ifs
      · exact Nat.zero_le 1
      · exact Nat.zero_le 1
      · exact Nat.zero_le 1
      · rw [LinkState.decisions, autoFail_calls]
        exact le_refl 1
      · exact le_refl 1
  | txNotify => exact same (txNotifyCb_same _).sameHold
  | pppOutput data => exact same (pppOutputCb_same data _).sameHold
  | pppStatus pcb up => exact same (pppStatusCb_same pcb up _).sameHold

theorem step_linkMode (s : LinkState) (event : Event) :
    (s.step event).linkMode = s.linkMode := by
  have decided (name : Option (List UInt8)) (s : LinkState) :
      (autoDecide name s).linkMode = s.linkMode := by
    unfold autoDecide
    dsimp only
    split
    · rfl
    · rfl
  cases event with
  | incoming cid handle addr requested =>
      simp only [LinkState.step, LinkState.handle, rfcommIncoming, autoBegin]
      split_ifs
      · rfl
      · rfl
      · exact decided _ _
      · rfl
  | opened cid status handle created listens =>
      by_cases fine : status = 0
      · subst fine
        exact (rfcommOpened_sameHold cid handle created listens _).linkMode
      · simp only [LinkState.step, LinkState.handle, rfcommOpened, ne_eq, fine,
          not_false_eq_true, if_true, rfcommOpenFailed, autoRelease,
          LinkState.noSession]
        split_ifs <;> rfl
  | canSendNow cid maxFrameSize sendStatus =>
      exact (rfcommCanSendNow_same maxFrameSize sendStatus _).linkMode
  | closed cid =>
      simp only [LinkState.step, LinkState.handle, rfcommClosed]
      split_ifs
      · rfl
      · rfl
      · exact (pppSessionStop_sameHold _).linkMode
  | data channel packet => exact (rfcommData_same channel packet _).linkMode
  | nameComplete addr status remoteName =>
      simp only [LinkState.step, LinkState.handle, autoNameComplete]
      split_ifs
      · rfl
      · rfl
      · rfl
      · exact decided _ _
      · exact decided _ _
  | securityLevel handle status level =>
      simp only [LinkState.step, LinkState.handle, autoSecurityLevel, autoFail]
      split_ifs <;> rfl
  | txNotify => exact (txNotifyCb_same _).linkMode
  | pppOutput data => exact (pppOutputCb_same data _).linkMode
  | pppStatus pcb up => exact (pppStatusCb_same pcb up _).linkMode

end Steps

/-! ## Every run -/

section Runs

variable {start : LinkState}

/-- The channel that is held was taken by an `incoming` event, and is held
since. -/
structure HeldSince (start : LinkState) (events : List Event)
    (cid : UInt16) (before : List Event) (handle : UInt16) (addr : BdAddr)
    (requested : Bool) (since : List Event) : Prop where
  whole : events = before ++ .incoming cid handle addr requested :: since
  hold : Hold start before cid handle addr requested since
  sameHandle : (run LinkState.step start events).autoHandle = handle
  sameAddr : (run LinkState.step start events).autoAddr = addr
  asked :
    (run LinkState.step start events).autoSecPending = true →
      SecurityRequested start before cid handle addr requested since

/-- A hold goes on over an event that leaves it alone. -/
theorem HeldSince.snoc {events before since : List Event}
    {cid handle : UInt16} {addr : BdAddr} {requested : Bool} {event : Event}
    (heldSince :
      HeldSince start events cid before handle addr requested since)
    (sameCid :
      (run LinkState.step start (events ++ [event])).autoCid = cid)
    (sameHandle :
      (run LinkState.step start (events ++ [event])).autoHandle =
        (run LinkState.step start events).autoHandle)
    (sameAddr :
      (run LinkState.step start (events ++ [event])).autoAddr =
        (run LinkState.step start events).autoAddr)
    (pending :
      (run LinkState.step start (events ++ [event])).autoSecPending = true →
        (run LinkState.step start events).autoSecPending = true ∨
          .requestSecurityLevel (run LinkState.step start events).autoHandle
              level2 ∈
            (run LinkState.step start (events ++ [event])).calls) :
    HeldSince start (events ++ [event]) cid before handle addr requested
      (since ++ [event]) := by
  have whole :
      events ++ [event] =
        before ++ .incoming cid handle addr requested :: (since ++ [event]) := by
    rw [heldSince.whole]
    simp
  refine
    ⟨whole, ⟨heldSince.hold.free, ?_⟩, sameHandle.trans heldSince.sameHandle,
      sameAddr.trans heldSince.sameAddr, ?_⟩
  · intro earlier prefixed
    rcases List.prefix_concat_iff.mp prefixed with rfl | shorter
    · rw [← whole]
      exact sameCid
    · exact heldSince.hold.throughout earlier shorter
  · intro isPending
    rcases pending isPending with already | now
    · obtain ⟨earlier, prefixed, called⟩ := heldSince.asked already
      exact ⟨earlier, prefixed.trans (List.prefix_append _ _), called⟩
    · refine ⟨since ++ [event], List.prefix_refl _, ?_⟩
      rw [← whole, ← heldSince.sameHandle]
      exact now

theorem heldSince (idle : start.autoCid = 0) (events : List Event)
    {cid : UInt16} (held : (run LinkState.step start events).autoCid = cid)
    (real : cid ≠ 0) :
    ∃ before handle addr requested since,
      HeldSince start events cid before handle addr requested since := by
  induction events using List.reverseRecOn generalizing cid with
  | nil =>
      exact absurd (held.symm.trans idle) real
  | append_singleton events event inductionHypothesis =>
      have stepped :
          run LinkState.step start (events ++ [event]) =
            (run LinkState.step start events).step event :=
        run_snoc start events event
      cases step_hold (run LinkState.step start events) event with
      | ends released =>
          rw [stepped, released] at held
          exact absurd held.symm real
      | begins opened handle addr requested incoming free heldNow sameHandle
          sameAddr pending =>
          obtain rfl : opened = cid := by rw [← held, stepped, heldNow]
          subst incoming
          refine
            ⟨events, handle, addr, requested, [], rfl, ⟨free, ?_⟩, ?_, ?_, ?_⟩
          · intro earlier prefixed
            rw [List.prefix_nil.mp prefixed]
            exact held
          · rw [stepped, sameHandle]
          · rw [stepped, sameAddr]
          · intro isPending
            refine ⟨[], List.prefix_refl _, ?_⟩
            rw [stepped] at isPending ⊢
            exact pending isPending
      | keeps sameCid sameHandle sameAddr pending =>
          rw [← stepped] at sameCid sameHandle sameAddr pending
          obtain ⟨before, handle, addr, requested, since, earlier⟩ :=
            inductionHypothesis (sameCid.symm.trans held) real
          exact
            ⟨before, handle, addr, requested, since ++ [event],
              earlier.snoc held sameHandle sameAddr pending⟩

/-- A channel that is held was not held before, or an `incoming` event took
it. -/
theorem incoming_of_held {cid : UInt16} (real : cid ≠ 0)
    (notHeld : start.autoCid ≠ cid) (events : List Event)
    (held : (run LinkState.step start events).autoCid = cid) :
    ∃ handle addr requested, .incoming cid handle addr requested ∈ events := by
  induction events generalizing start with
  | nil =>
      exact absurd held notHeld
  | cons event rest inductionHypothesis =>
      by_cases taken : (start.step event).autoCid = cid
      · cases step_hold start event with
        | keeps sameCid sameHandle sameAddr pending =>
            exact absurd (sameCid.symm.trans taken) notHeld
        | ends released =>
            exact absurd (taken.symm.trans released) real
        | begins opened handle addr requested incoming free heldNow sameHandle
            sameAddr pending =>
            obtain rfl : opened = cid := heldNow.symm.trans taken
            exact ⟨handle, addr, requested, incoming ▸ List.mem_cons_self⟩
      · obtain ⟨handle, addr, requested, member⟩ :=
          inductionHypothesis taken held
        exact ⟨handle, addr, requested, List.mem_cons_of_mem event member⟩

theorem run_linkMode (events : List Event) :
    (run LinkState.step start events).linkMode = start.linkMode :=
  run_invariant (fun s => s.linkMode = start.linkMode)
    (fun s event same => (step_linkMode s event).trans same) rfl events

end Runs

/-- An accept in auto mode is justified by what came before. -/
theorem accept_justified {earlier : List Event} {event : Event} {cid : UInt16}
    (accepted :
      .acceptConnection cid ∈
        (run LinkState.step (LinkState.boot .btsecAuto)
          (earlier ++ [event])).calls) :
    Justified (LinkState.boot .btsecAuto) earlier event cid := by
  rw [run_snoc] at accepted
  have auto :
      (run LinkState.step (LinkState.boot .btsecAuto) earlier).linkMode =
        .btsecAuto :=
    run_linkMode earlier
  have idle : (LinkState.boot .btsecAuto).autoCid = 0 := rfl
  have since := heldSince idle earlier rfl
  cases step_decides accepted rfl with
  | incoming opened handle addr requested decided =>
      rcases decided with declined | ⟨notAuto, _⟩
      · cases declined
      · exact absurd auto notAuto
  | named name held idle acceptedHeld listed =>
      cases acceptedHeld
      obtain ⟨before, handle, addr, requested, since, whole⟩ := since held
      refine
        ⟨before, handle, addr, requested, since, whole.whole, whole.hold,
          Or.inl ⟨name, ?_, isNosecName_of_copied listed⟩⟩
      rw [whole.sameAddr]
  | secured level held acceptedHeld pending enough =>
      cases acceptedHeld
      obtain ⟨before, handle, addr, requested, since, whole⟩ := since held
      refine
        ⟨before, handle, addr, requested, since, whole.whole, whole.hold,
          Or.inr ⟨level, ?_, enough, whole.asked pending⟩⟩
      rw [whole.sameHandle]
  | refused status level held pending weak declined =>
      cases declined

/-- After a decision a channel is held again only if it is taken anew. -/
theorem resolved_taken_anew {earlier between : List Event} {first second : Event}
    {cid : UInt16} {start : LinkState}
    (firstResolves : Resolves (run LinkState.step start earlier) first cid)
    (secondResolves :
      Resolves (run LinkState.step start (earlier ++ first :: between)) second
        cid) :
    ∃ handle addr requested, .incoming cid handle addr requested ∈ between := by
  have released :
      ((run LinkState.step start earlier).step first).autoCid = 0 := by
    rcases firstResolves.resolved with accepted | declined
    · exact (step_decides accepted rfl).releases firstResolves.answer
    · exact (step_decides declined rfl).releases firstResolves.answer
  obtain ⟨real, heldAgain⟩ := secondResolves.held
  rw [run_append, run_cons] at heldAgain
  apply incoming_of_held real _ between heldAgain
  rw [released]
  exact real.symm

/-- In auto mode a channel is accepted only while it is held, on an answer that
justifies it; a step decides on one channel at most, and between two decisions
on a held channel it was taken anew. -/
theorem auto_accepts_justified :
    (∀ earlier event cid,
      .acceptConnection cid ∈
          (run LinkState.step (LinkState.boot .btsecAuto)
            (earlier ++ [event])).calls →
        Justified (LinkState.boot .btsecAuto) earlier event cid) ∧
      (∀ events,
        (run LinkState.step (LinkState.boot .btsecAuto)
          events).decisions.length ≤ 1) ∧
      ∀ earlier first between second cid,
        Resolves (run LinkState.step (LinkState.boot .btsecAuto) earlier) first
            cid →
          Resolves
              (run LinkState.step (LinkState.boot .btsecAuto)
                (earlier ++ first :: between))
              second cid →
            ∃ handle addr requested,
              .incoming cid handle addr requested ∈ between := by
  refine ⟨fun _ _ _ => accept_justified, fun events => ?_, ?_⟩
  · rcases List.eq_nil_or_concat events with rfl | ⟨earlier, event, rfl⟩
    · exact Nat.zero_le 1
    · rw [List.concat_eq_append, run_snoc]
      exact step_decisions_length _ event
  · intro earlier first between second cid firstResolves secondResolves
    exact resolved_taken_anew firstResolves secondResolves

end VeteraBridge.Link
