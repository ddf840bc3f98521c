import VeteraBridge.Link.Pcb

/-!
# A pcb is freed once

`ppp_teardown` tells the callback of a close from one of a pcb that lost its
link.  Where each callback of a close, and no other, looks at it while it is set,
every pcb is freed once before the next one is created.  `pppapi_close` may leave
the callback for later, and then none of this holds.
-/

namespace VeteraBridge.Link

open EventRun

/-! ## What is kept -/

/-- What lwIP and BTstack do: a pcb without a link is closed at once, only a
linked pcb comes up, and one goes down that is linked or was closed. -/
def Possible (s : PcbTasks) : PcbEvent → Prop
  | .other event => event.Plain ∧ Sends s.world event
  | .opened cid handle created =>
    Sends s.world (.opened cid 0 handle created true)
  | .closed cid => Sends s.world (.closed cid)
  | .bt ok =>
    match s.bt with
    | .tearing pcb _ => s.life pcb = .dead → ok = true
    | _ => True
  | .output _ | .tcpip => True
  | .up pcb => s.life pcb = .linked
  | .down pcb => s.life pcb ≠ .dead

/-- A status callback looks at `ppp_teardown` while it is set if and only if it
is the callback of the close that set it. -/
def InClose (s : PcbTasks) : PcbEvent → Prop
  | .bt _ =>
    match s.bt with
    | .closed pcb _ => s.life pcb ≠ .closing
    | _ => True
  | .tcpip =>
    match s.tcpip with
    | .down pcb => s.pppTeardown = true → s.life pcb = .closing
    | _ => True
  | _ => True

/-- No pcb is freed twice, and every one but the current one is freed. -/
structure FreedOnce (s : PcbTasks) : Prop where
  atMost : ∀ pcb, s.freed pcb ≤ 1
  others : ∀ pcb < s.link.pcbs, s.link.ppp ≠ some pcb → s.freed pcb = 1

/-- A step leaves the earlier pcbs behind. -/
structure OnlyCurrent (s : PcbTasks) (event : PcbEvent) : Prop where
  creates :
    (s.step event).link.pcbs ≠ s.link.pcbs →
      ∀ pcb < s.link.pcbs, s.freed pcb = 1
  listens : ∀ pcb, s.life pcb ≠ .linked → (s.step event).life pcb = .linked →
    (s.step event).link.ppp = some pcb
  callsBack : ∀ pcb, s.tcpip = .idle → (s.step event).tcpip = .down pcb →
    (s.step event).link.ppp = some pcb

/-! ## The invariant -/

/-- The function that is about to close the pcb, or closes it. -/
def BtPc.closer : BtPc → Option Closer
  | .idle | .created _ _ _ => none
  | .closes _ closer | .tearing _ closer | .waiting _ closer
  | .closed _ closer | .cleared _ closer => some closer

/-- The closer leaves no session behind; `ppp_session_stop` has ended it
already. -/
def Ending (link : LinkState) (phase : UInt16 → Phase) (closer : Closer) :
    Prop :=
  Agree false 0 link.autoCid none phase ∧
    (closer = .stop → link.sessionActive = false ∧ link.activeCid = 0)

/-- How far the current pcb has got. -/
def Stage (pcb : Nat) (tcpip : TcpipPc) (torn : Bool) (life : Life)
    (freed : Nat) : BtPc → Prop
  | .idle => torn = false ∧ life ≠ .closing ∧ freed = 0
  | .created current _ _ =>
    current = pcb ∧ torn = false ∧ life = .dead ∧ freed = 0 ∧ tcpip = .idle
  | .closes current _ =>
    current = pcb ∧ torn = false ∧ life ≠ .closing ∧ freed = 0
  | .tearing current _ =>
    current = pcb ∧ torn = true ∧ life ≠ .closing ∧ freed = 0
  | .waiting current _ =>
    current = pcb ∧ torn = true ∧ life = .closing ∧ freed = 0 ∧
      tcpip = .down pcb
  | .closed current _ =>
    current = pcb ∧ torn = true ∧
      (life = .closing ∧ freed = 0 ∧ (tcpip = .idle ∨ tcpip = .down pcb) ∨
        life = .dead ∧ freed = 1 ∧ tcpip = .idle)
  | .cleared current _ =>
    current = pcb ∧ torn = false ∧ life = .dead ∧ freed = 1 ∧ tcpip = .idle

/-- The stage of a pcb in a state. -/
def PcbTasks.Stage (s : PcbTasks) (pcb : Nat) : Prop :=
  Link.Stage pcb s.tcpip s.pppTeardown (s.life pcb) (s.freed pcb) s.bt

structure PcbInvariant (s : PcbTasks) : Prop where
  session : s.bt.closer = none → ChannelInvariant s.world
  ends : ∀ closer, s.bt.closer = some closer → Ending s.link s.phase closer
  noPcb :
    s.link.ppp = none → s.bt = .idle ∧ s.tcpip = .idle ∧ s.pppTeardown = false
  current : ∀ pcb, s.link.ppp = some pcb → pcb < s.link.pcbs ∧ s.Stage pcb
  others : ∀ pcb, s.link.ppp ≠ some pcb →
    s.life pcb = .dead ∧ s.freed pcb = if pcb < s.link.pcbs then 1 else 0
  calledBack : ∀ pcb, s.tcpip = .down pcb ∨ s.tcpip = .spared pcb →
    s.link.ppp = some pcb

section Invariant

variable {s : PcbTasks}

/-- A callback is about the current pcb. -/
theorem PcbInvariant.callback (invariant : PcbInvariant s) {pcb : Nat}
    (ppp : s.link.ppp = some pcb) :
    s.tcpip = .idle ∨ s.tcpip = .down pcb ∨ s.tcpip = .spared pcb := by
  cases tcpip : s.tcpip with
  | idle => exact Or.inl rfl
  | down called =>
      have same := invariant.calledBack called (Or.inl tcpip)
      obtain rfl : pcb = called := Option.some.inj (ppp.symm.trans same)
      exact Or.inr (Or.inl rfl)
  | spared called =>
      have same := invariant.calledBack called (Or.inr tcpip)
      obtain rfl : pcb = called := Option.some.inj (ppp.symm.trans same)
      exact Or.inr (Or.inr rfl)

/-- A step that is about the current pcb only. -/
theorem PcbInvariant.moves (invariant : PcbInvariant s) {pcb : Nat}
    (ppp : s.link.ppp = some pcb) {s' : PcbTasks}
    (keeps : KeepsPcb s.link s'.link)
    (life : ∀ other, other ≠ pcb → s'.life other = s.life other)
    (freed : ∀ other, other ≠ pcb → s'.freed other = s.freed other)
    (session : s'.bt.closer = Option.none → ChannelInvariant s'.world)
    (ends : ∀ closer, s'.bt.closer = some closer →
      Ending s'.link s'.phase closer)
    (stage : s'.Stage pcb)
    (callback :
      s'.tcpip = .idle ∨ s'.tcpip = .down pcb ∨ s'.tcpip = .spared pcb) :
    PcbInvariant s' := by
  have ppp' : s'.link.ppp = some pcb := keeps.ppp.trans ppp
  refine ⟨session, ends, ?_, ?_, ?_, ?_⟩
  · intro none
    rw [ppp'] at none
    cases none
  · intro other same
    obtain rfl : pcb = other := Option.some.inj (ppp'.symm.trans same)
    rw [keeps.pcbs]
    exact ⟨(invariant.current pcb ppp).1, stage⟩
  · intro other different
    have apart : other ≠ pcb := by
      rintro rfl
      exact different ppp'
    rw [life other apart, freed other apart, keeps.pcbs]
    apply invariant.others
    rw [← keeps.ppp]
    exact different
  · intro other called
    rw [ppp']
    rcases callback with idle | down | spared
    · rw [idle] at called
      rcases called with h | h
      · cases h
      · cases h
    · rw [down] at called
      rcases called with h | h
      · cases h
        rfl
      · cases h
    · rw [spared] at called
      rcases called with h | h
      · cases h
      · cases h
        rfl

/-- A step that changes the link and the channels, but not the pcb. -/
theorem PcbInvariant.relinked (invariant : PcbInvariant s) {link : LinkState}
    {phase : UInt16 → Phase} (keeps : KeepsPcb s.link link)
    (session : s.bt.closer = Option.none → ChannelInvariant ⟨link, phase⟩)
    (ends : ∀ closer, s.bt.closer = some closer → Ending link phase closer) :
    PcbInvariant { s with link := link, phase := phase } := by
  refine ⟨session, ends, ?_, ?_, ?_, ?_⟩
  · intro none
    exact invariant.noPcb (keeps.ppp.symm.trans none)
  · intro pcb same
    rw [keeps.pcbs]
    exact invariant.current pcb (keeps.ppp.symm.trans same)
  · intro pcb different
    rw [keeps.pcbs]
    apply invariant.others
    rw [← keeps.ppp]
    exact different
  · intro pcb called
    exact keeps.ppp.trans (invariant.calledBack pcb called)

theorem other_pcb (invariant : PcbInvariant s) {event : Event}
    (plain : event.Plain) (sends : Sends s.world event) :
    PcbInvariant (s.other event) := by
  unfold PcbTasks.other
  split
  · next idle =>
    have settled : s.bt.closer = none := by rw [idle]; rfl
    apply invariant.relinked plain.keepsPcb
    · exact fun _ => (invariant.session settled).step sends
    · intro closer ends
      cases settled.symm.trans ends
  · exact invariant

theorem output_pcb (invariant : PcbInvariant s) (data : List UInt8) :
    PcbInvariant (s.withLink (pppOutputCb data s.link)) := by
  have same := pppOutputCb_same data s.link
  apply invariant.relinked same.keepsPcb
  · intro settled
    exact same.channels (invariant.session settled)
  · intro closer ends
    unfold Ending
    rw [same.autoCid, same.sessionActive, same.activeCid]
    exact invariant.ends closer ends

theorem up_pcb (invariant : PcbInvariant s) : PcbInvariant s.up := by
  unfold PcbTasks.up
  split
  · exact invariant.relinked ⟨rfl, rfl⟩ invariant.session invariant.ends
  · exact invariant

/-- A channel that is accepted has no pcb yet. -/
theorem ChannelInvariant.noPcb {w : World} (invariant : ChannelInvariant w)
    {cid : UInt16} (accepted : w.phase cid = .accepted) : w.link.ppp = none := by
  have agree : Agree _ _ _ _ _ := invariant
  apply agree.noPpp
  rw [← agree.accepted cid accepted, accepted]
  exact Phase.noConfusion

theorem opened_pcb (invariant : PcbInvariant s) {cid handle : UInt16}
    {created : Bool}
    (sends : Sends s.world (.opened cid 0 handle created true)) :
    PcbInvariant (s.opened cid handle created) := by
  unfold PcbTasks.opened
  split
  · next idle =>
    have settled : s.bt.closer = none := by rw [idle.1]; rfl
    have stepped := (invariant.session settled).step sends
    have noPcb : s.link.ppp = none := (invariant.session settled).noPcb sends
    cases created with
    | true =>
        refine ⟨fun _ => stepped, ?_, ?_, ?_, ?_, ?_⟩
        · rintro _ ⟨⟩
        · intro none
          cases none
        · rintro pcb current
          obtain rfl : s.link.pcbs = pcb := Option.some.inj current
          have fresh := invariant.others s.link.pcbs (by simp [noPcb])
          rw [if_neg (Nat.lt_irrefl _)] at fresh
          refine ⟨Nat.lt_succ_self _, rfl, (invariant.noPcb noPcb).2.2, ?_⟩
          exact ⟨fresh.1, fresh.2, idle.2⟩
        · intro pcb different
          have apart : pcb ≠ s.link.pcbs := by
            rintro rfl
            exact different rfl
          obtain ⟨dead, freed⟩ := invariant.others pcb (by simp [noPcb])
          have older : pcb < s.link.pcbs + 1 ↔ pcb < s.link.pcbs := by omega
          refine ⟨dead, freed.trans ?_⟩
          simp only [PcbTasks.withBt, PcbTasks.withLink, LinkState.call,
            freshChannel, if_true, older]
        · intro pcb called
          simp only [PcbTasks.withBt, PcbTasks.withLink, if_true, idle.2] at called
          rcases called with h | h
          · cases h
          · cases h
    | false =>
        show PcbInvariant
          { s with link := _, phase := Function.update s.phase cid .opened }
        apply invariant.relinked
        · exact ⟨noPcb.symm, rfl⟩
        · exact fun _ => stepped
        · intro closer ends
          cases settled.symm.trans ends
  · exact invariant

theorem closed_without_form {cid : UInt16} (idle : s.bt = .idle)
    (without :
      cid ≠ s.link.activeCid ∨ cid = s.link.autoCid ∨ s.link.ppp = none) :
    ∃ link, KeepsPcb s.link link ∧
      s.closed cid =
        { s with link := link, phase := Function.update s.phase cid .free } := by
  unfold PcbTasks.closed
  rw [if_pos idle]
  dsimp only
  split
  · exact ⟨{ s.link with calls := [] }, ⟨rfl, rfl⟩, rfl⟩
  · next ours =>
    split
    · exact ⟨(autoRelease { s.link with calls := [] }).noSession, ⟨rfl, rfl⟩, rfl⟩
    · next notHeld =>
      split
      · next some =>
        rcases without with foreign | held | none
        · exact absurd foreign ours
        · exact absurd held notHeld
        · rw [none] at some
          cases some
      · exact
          ⟨{ { s.link with calls := [] }.noSession with
              pppUpFlag := false }.call .gwOnRfcommClosed, ⟨rfl, rfl⟩, rfl⟩

/-- The pcb of the session is to be closed. -/
theorem closed_form {cid : UInt16} {pcb : Nat} (idle : s.bt = .idle)
    (ours : cid = s.link.activeCid) (notHeld : cid ≠ s.link.autoCid)
    (ppp : s.link.ppp = some pcb) :
    s.closed cid =
      { s with
        link := { s.link with calls := [] }.noSession
        phase := Function.update s.phase cid .free
        bt := .closes pcb .stop } := by
  unfold PcbTasks.closed
  rw [if_pos idle]
  dsimp only
  rw [if_neg (not_not.mpr ours), if_neg notHeld, ppp]
  rfl

theorem closed_pcb (invariant : PcbInvariant s) {cid : UInt16}
    (sends : Sends s.world (.closed cid)) : PcbInvariant (s.closed cid) := by
  by_cases idle : s.bt = .idle
  · have settled : s.bt.closer = none := by rw [idle]; rfl
    have stepped := (invariant.session settled).step sends
    have agree : Agree _ _ _ _ _ := invariant.session settled
    have real := agree.real sends
    by_cases without :
        cid ≠ s.link.activeCid ∨ cid = s.link.autoCid ∨ s.link.ppp = none
    · rw [← closedWithout_alone idle without] at stepped
      obtain ⟨link, keeps, form⟩ := closed_without_form idle without
      rw [PcbTasks.step, form] at stepped
      rw [form]
      apply invariant.relinked keeps
      · exact fun _ => stepped
      · intro closer ends
        cases settled.symm.trans ends
    · rw [not_or, not_or, not_not] at without
      obtain ⟨ours, notHeld, some⟩ := without
      obtain ⟨pcb, ppp⟩ := Option.ne_none_iff_exists'.mp some
      have stage := (invariant.current pcb ppp).2
      rw [PcbTasks.Stage, idle] at stage
      rw [closed_form idle ours notHeld ppp]
      apply invariant.moves ppp
      · exact ⟨rfl, rfl⟩
      · exact fun _ _ => rfl
      · exact fun _ _ => rfl
      · rintro ⟨⟩
      · rintro _ ⟨⟩
        rw [ours] at notHeld
        have noHold : s.link.autoCid = 0 := agree.noHold_of_ne notHeld
        refine ⟨?_, fun _ => ⟨rfl, rfl⟩⟩
        show Agree false 0 s.link.autoCid none _
        rw [noHold]
        subst ours
        exact agree.ends Phase.noConfusion real
      · exact ⟨rfl, stage⟩
      · exact invariant.callback ppp
  · unfold PcbTasks.closed
    rw [if_neg idle]
    exact invariant

theorem Stage.down {pcb freed : Nat} {tcpip : TcpipPc} {torn : Bool}
    {life life' : Life} {bt : BtPc} (stage : Stage pcb tcpip torn life freed bt)
    (alive : life ≠ .dead) (tcpipIdle : tcpip = .idle)
    (closing : life' = .closing ↔ life = .closing) :
    Stage pcb (.down pcb) torn life' freed bt := by
  cases bt with
  | idle =>
      obtain ⟨clear, notClosing, unfreed⟩ := stage
      exact ⟨clear, fun closes => notClosing (closing.mp closes), unfreed⟩
  | created current cid handle => exact absurd stage.2.2.1 alive
  | closes current closer =>
      obtain ⟨same, clear, notClosing, unfreed⟩ := stage
      exact ⟨same, clear, fun closes => notClosing (closing.mp closes), unfreed⟩
  | tearing current closer =>
      obtain ⟨same, set, notClosing, unfreed⟩ := stage
      exact ⟨same, set, fun closes => notClosing (closing.mp closes), unfreed⟩
  | waiting current closer =>
      have called := stage.2.2.2.2
      rw [tcpipIdle] at called
      cases called
  | closed current closer =>
      obtain ⟨same, set, ⟨closes, unfreed, _⟩ | ⟨dead, _⟩⟩ := stage
      · exact ⟨same, set, Or.inl ⟨closing.mpr closes, unfreed, Or.inr rfl⟩⟩
      · exact absurd dead alive
  | cleared current closer => exact absurd stage.2.2.1 alive

theorem down_pcb (invariant : PcbInvariant s) {pcb : Nat}
    (alive : s.life pcb ≠ .dead) : PcbInvariant (s.down pcb) := by
  have ppp : s.link.ppp = some pcb := by
    by_contra other
    exact alive (invariant.others pcb other).1
  by_cases idle : s.tcpip = .idle
  · have stage := (invariant.current pcb ppp).2
    obtain ⟨life, others, closing, form⟩ := down_form pcb idle
    rw [form]
    apply invariant.moves ppp
    · exact ⟨rfl, rfl⟩
    · exact others
    · exact fun _ _ => rfl
    · exact invariant.session
    · exact invariant.ends
    · exact Stage.down stage alive idle closing
    · exact Or.inr (Or.inl rfl)
  · unfold PcbTasks.down
    rw [if_neg idle]
    exact invariant

/-- A busy BTstack task is at work on the current pcb. -/
theorem PcbInvariant.atWork (invariant : PcbInvariant s) {pc : BtPc}
    (bt : s.bt = pc) (busy : pc ≠ .idle) :
    ∃ pcb, s.link.ppp = some pcb ∧ pcb < s.link.pcbs ∧
      Stage pcb s.tcpip s.pppTeardown (s.life pcb) (s.freed pcb) pc := by
  subst bt
  cases ppp : s.link.ppp with
  | none => exact absurd (invariant.noPcb ppp).1 busy
  | some pcb => exact ⟨pcb, rfl, invariant.current pcb ppp⟩

theorem created_pcb (invariant : PcbInvariant s) (ok : Bool) {pcb : Nat}
    {cid handle : UInt16} (bt : s.bt = .created pcb cid handle) :
    PcbInvariant (s.btStep ok) := by
  obtain ⟨current, ppp, _, stage⟩ := invariant.atWork bt (by rintro ⟨⟩)
  obtain ⟨rfl, clear, dead, freed, tcpipIdle⟩ := stage
  have settled := invariant.session (by rw [bt]; rfl)
  unfold PcbTasks.btStep
  rw [bt]
  dsimp only
  rw [if_pos tcpipIdle]
  split
  · apply invariant.moves ppp
    · exact ⟨rfl, rfl⟩
    · exact fun other apart => Function.update_of_ne apart _ _
    · exact fun _ _ => rfl
    · exact fun _ => settled
    · rintro _ ⟨⟩
    · refine ⟨clear, ?_, freed⟩
      simp
    · exact Or.inl tcpipIdle
  · have agree : Agree _ _ _ _ _ := settled
    have some : s.world.link.ppp ≠ none := by
      show s.link.ppp ≠ none
      rw [ppp]
      exact Option.some_ne_none _
    have opened := (agree.ppp some).2
    apply invariant.moves ppp
    · exact ⟨rfl, rfl⟩
    · exact fun _ _ => rfl
    · exact fun _ _ => rfl
    · rintro ⟨⟩
    · rintro _ ⟨⟩
      refine ⟨agree.drops opened, ?_⟩
      rintro ⟨⟩
    · refine ⟨rfl, clear, ?_, freed⟩
      show s.life _ ≠ .closing
      rw [dead]
      exact Life.noConfusion
    · exact Or.inl tcpipIdle

/-- A teardown goes on with the pcb as it is. -/
theorem PcbInvariant.goesOn (invariant : PcbInvariant s) {s' : PcbTasks}
    {pcb : Nat} (ppp : s.link.ppp = some pcb) {closer : Closer}
    (ends : s.bt.closer = some closer) (ends' : s'.bt.closer = some closer)
    (world : s'.world = s.world) (life : s'.life = s.life)
    (freed : s'.freed = s.freed) (tcpip : s'.tcpip = s.tcpip)
    (stage : s'.Stage pcb) : PcbInvariant s' := by
  have link : s'.link = s.link := congrArg World.link world
  apply invariant.moves ppp
  · rw [link]
    exact ⟨rfl, rfl⟩
  · intro other _
    rw [life]
  · intro other _
    rw [freed]
  · intro idle
    cases ends'.symm.trans idle
  · intro closer' isCloser
    cases ends'.symm.trans isCloser
    have settled := invariant.ends closer ends
    have phase : s'.phase = s.phase := congrArg World.phase world
    rwa [link, phase]
  · exact stage
  · rw [tcpip]
    exact invariant.callback ppp

theorem closes_pcb (invariant : PcbInvariant s) (ok : Bool) {pcb : Nat}
    {closer : Closer} (bt : s.bt = .closes pcb closer) :
    PcbInvariant (s.btStep ok) := by
  obtain ⟨current, ppp, _, stage⟩ := invariant.atWork bt (by rintro ⟨⟩)
  obtain ⟨rfl, clear, notClosing, freed⟩ := stage
  unfold PcbTasks.btStep
  rw [bt]
  have ends : s.bt.closer = some closer := by
    rw [bt]
    rfl
  exact invariant.goesOn ppp ends rfl rfl rfl rfl rfl
    ⟨rfl, rfl, notClosing, freed⟩

/-- `pppapi_close`, whether or not it calls back at once. -/
theorem tearing_pcb (invariant : PcbInvariant s) (ok : Bool) {pcb : Nat}
    {closer : Closer} (bt : s.bt = .tearing pcb closer) :
    PcbInvariant (s.btStep ok) := by
  obtain ⟨current, ppp, _, stage⟩ := invariant.atWork bt (by rintro ⟨⟩)
  obtain ⟨rfl, torn, notClosing, freed⟩ := stage
  have ending := invariant.ends closer (by rw [bt]; rfl)
  unfold PcbTasks.btStep
  rw [bt]
  dsimp only
  split
  · next tcpipIdle =>
    split
    · apply invariant.moves ppp
      · exact ⟨rfl, rfl⟩
      · exact fun other apart => Function.update_of_ne apart _ _
      · exact fun _ _ => rfl
      · rintro ⟨⟩
      · rintro _ ⟨⟩
        exact ending
      · exact ⟨rfl, torn, Function.update_self _ _ _, freed, rfl⟩
      · exact Or.inr (Or.inl rfl)
    · apply invariant.moves ppp
      · exact ⟨rfl, rfl⟩
      · exact fun other apart => Function.update_of_ne apart _ _
      · exact fun _ _ => rfl
      · rintro ⟨⟩
      · rintro _ ⟨⟩
        exact ending
      · refine ⟨rfl, torn, Or.inl ⟨?_, freed, Or.inl tcpipIdle⟩⟩
        exact Function.update_self _ _ _
      · exact Or.inl tcpipIdle
  · exact invariant

/-- The flag is cleared after the callback has looked at it. -/
theorem closed_clears_pcb (invariant : PcbInvariant s) (ok : Bool) {pcb : Nat}
    {closer : Closer} (bt : s.bt = .closed pcb closer)
    (notClosing : s.life pcb ≠ .closing) : PcbInvariant (s.btStep ok) := by
  obtain ⟨current, ppp, _, stage⟩ := invariant.atWork bt (by rintro ⟨⟩)
  obtain ⟨rfl, torn, stage⟩ := stage
  unfold PcbTasks.btStep
  rw [bt]
  have ends : s.bt.closer = some closer := by
    rw [bt]
    rfl
  show PcbInvariant
    { s with pppTeardown := false, bt := .cleared pcb closer }
  refine invariant.goesOn ppp ends ?_ rfl rfl rfl rfl ?_
  · rfl
  rcases stage with ⟨closing, _, _⟩ | ⟨dead, freed, tcpipIdle⟩
  · exact absurd closing notClosing
  · exact ⟨rfl, rfl, dead, freed, tcpipIdle⟩

theorem afterClose_ppp (closer : Closer) (link : LinkState) :
    KeepsPcb link (PcbTasks.afterClose closer link) := by
  cases closer with
  | start cid => exact ⟨rfl, rfl⟩
  | stop => exact ⟨rfl, rfl⟩

theorem Ending.settled {link : LinkState} {phase : UInt16 → Phase}
    {closer : Closer} (ending : Ending link phase closer) :
    ChannelInvariant
      ⟨PcbTasks.afterClose closer { link with ppp := none }, phase⟩ := by
  obtain ⟨agree, stopped⟩ := ending
  cases closer with
  | start cid => exact agree
  | stop =>
      obtain ⟨inactive, noCid⟩ := stopped rfl
      show Agree link.sessionActive link.activeCid link.autoCid none phase
      rw [inactive, noCid]
      exact agree

/-- The current pcb is freed, and there is none any more. -/
theorem cleared_pcb (invariant : PcbInvariant s) (ok : Bool) {pcb : Nat}
    {closer : Closer} (bt : s.bt = .cleared pcb closer) :
    PcbInvariant (s.btStep ok) := by
  obtain ⟨current, ppp, older, stage⟩ := invariant.atWork bt (by rintro ⟨⟩)
  obtain ⟨rfl, clear, dead, freed, tcpipIdle⟩ := stage
  have keeps := afterClose_ppp closer { s.link with ppp := none }
  unfold PcbTasks.btStep
  rw [bt]
  dsimp only [PcbTasks.withLink, PcbTasks.withBt]
  refine ⟨fun _ => ?_, ?_, ?_, ?_, ?_, ?_⟩
  · exact (invariant.ends closer (by rw [bt]; rfl)).settled
  · rintro _ ⟨⟩
  · exact fun _ => ⟨rfl, tcpipIdle, clear⟩
  · intro other some
    cases keeps.ppp.symm.trans some
  · intro other _
    dsimp only
    rw [keeps.pcbs]
    by_cases ours : other = pcb
    · rw [ours, if_pos older]
      exact ⟨dead, freed⟩
    · apply invariant.others
      rw [ppp]
      exact fun also => ours (Option.some.inj also).symm
  · intro other called
    rcases called with down | spared
    · cases tcpipIdle.symm.trans down
    · cases tcpipIdle.symm.trans spared

theorem btStep_pcb (invariant : PcbInvariant s) {ok : Bool}
    (inClose : InClose s (.bt ok)) : PcbInvariant (s.btStep ok) := by
  cases bt : s.bt with
  | idle =>
      unfold PcbTasks.btStep
      rw [bt]
      exact invariant
  | created pcb cid handle => exact created_pcb invariant ok bt
  | closes pcb closer => exact closes_pcb invariant ok bt
  | tearing pcb closer => exact tearing_pcb invariant ok bt
  | waiting pcb closer =>
      unfold PcbTasks.btStep
      rw [bt]
      exact invariant
  | closed pcb closer =>
      rw [InClose, bt] at inClose
      exact closed_clears_pcb invariant ok bt inClose
  | cleared pcb closer => exact cleared_pcb invariant ok bt

/-! ### The tcpip task -/

/-- A callback that closes nothing is over. -/
theorem callbackReturns_alone
    (noClose : ∀ pcb closer, s.bt ≠ .waiting pcb closer) :
    s.callbackReturns = s.withTcpip .idle := by
  unfold PcbTasks.callbackReturns
  split
  · next bt => exact absurd bt (noClose _ _)
  · rfl

/-- The callback of a close returns, in the close or after it. -/
theorem callbackReturns_close {pcb : Nat} {closer : Closer}
    (bt : s.bt = .waiting pcb closer ∨ s.bt = .closed pcb closer) :
    s.callbackReturns = { s with tcpip := .idle, bt := .closed pcb closer } := by
  unfold PcbTasks.callbackReturns
  rcases bt with waiting | closed
  · rw [waiting]
    rfl
  · rw [closed]
    show s.withTcpip .idle = _
    rw [← closed]
    rfl

/-- A pcb that was closed is in the hands of its closer. -/
theorem Stage.of_closing {pcb freed : Nat} {tcpip : TcpipPc} {torn : Bool}
    {bt : BtPc} (stage : Stage pcb tcpip torn .closing freed bt) :
    freed = 0 ∧ ∃ closer, bt = .waiting pcb closer ∨ bt = .closed pcb closer := by
  cases bt with
  | idle => exact absurd rfl stage.2.1
  | created current cid handle => cases stage.2.2.1
  | closes current closer => exact absurd rfl stage.2.2.1
  | tearing current closer => exact absurd rfl stage.2.2.1
  | waiting current closer =>
      obtain ⟨rfl, _, _, unfreed, _⟩ := stage
      exact ⟨unfreed, closer, Or.inl rfl⟩
  | closed current closer =>
      obtain ⟨rfl, _, ⟨_, unfreed, _⟩ | ⟨dead, _⟩⟩ := stage
      · exact ⟨unfreed, closer, Or.inr rfl⟩
      · cases dead
  | cleared current closer => cases stage.2.2.1

/-- The callback of a close frees the pcb. -/
theorem frees_pcb (invariant : PcbInvariant s) {pcb : Nat}
    (down : s.tcpip = .down pcb) (torn : s.pppTeardown = true)
    (closing : s.life pcb = .closing) : PcbInvariant s.tcpipStep := by
  have ppp := invariant.calledBack pcb (Or.inl down)
  have stage := (invariant.current pcb ppp).2
  rw [PcbTasks.Stage, closing] at stage
  obtain ⟨unfreed, closer, bt⟩ := stage.of_closing
  have closedBy : s.bt.closer = some closer := by
    rcases bt with waiting | closed
    · rw [waiting]
      rfl
    · rw [closed]
      rfl
  unfold PcbTasks.tcpipStep
  rw [down]
  dsimp only [PcbTasks.withLife]
  rw [if_pos torn, callbackReturns_close (by exact bt)]
  apply invariant.moves ppp
  · exact ⟨rfl, rfl⟩
  · exact fun other apart => Function.update_of_ne apart _ _
  · exact fun other apart => Function.update_of_ne apart _ _
  · rintro ⟨⟩
  · rintro _ ⟨⟩
    exact invariant.ends closer closedBy
  · refine ⟨rfl, torn, Or.inr ⟨Function.update_self _ _ _, ?_, rfl⟩⟩
    dsimp only
    rw [Function.update_self, unfreed]
  · exact Or.inl rfl

/-- A callback that finds the flag clear spares the pcb. -/
theorem Stage.spared {pcb freed : Nat} {life : Life} {bt : BtPc}
    (stage : Stage pcb (.down pcb) false life freed bt) :
    Stage pcb (.spared pcb) false .dead freed bt := by
  cases bt with
  | idle => exact ⟨rfl, Life.noConfusion, stage.2.2⟩
  | created current cid handle => cases stage.2.2.2.2
  | closes current closer => exact ⟨stage.1, rfl, Life.noConfusion, stage.2.2.2⟩
  | tearing current closer => cases stage.2.1
  | waiting current closer => cases stage.2.1
  | closed current closer => cases stage.2.1
  | cleared current closer => cases stage.2.2.2.2

theorem spares_pcb (invariant : PcbInvariant s) {pcb : Nat}
    (down : s.tcpip = .down pcb) (clear : s.pppTeardown = false) :
    PcbInvariant s.tcpipStep := by
  have ppp := invariant.calledBack pcb (Or.inl down)
  have stage := (invariant.current pcb ppp).2
  rw [PcbTasks.Stage, down, clear] at stage
  rw [tcpipStep_clear down clear]
  apply invariant.moves ppp
  · exact ⟨rfl, rfl⟩
  · exact fun other apart => Function.update_of_ne apart _ _
  · exact fun _ _ => rfl
  · exact invariant.session
  · exact invariant.ends
  · unfold PcbTasks.Stage
    simp only [PcbTasks.withTcpip, PcbTasks.withLife, Function.update_self, clear]
    exact stage.spared
  · exact Or.inr (Or.inr rfl)

/-- A pcb that was spared listens again, or is left to its closer. -/
theorem Stage.returns {pcb freed : Nat} {torn : Bool} {life life' : Life}
    {bt : BtPc} (stage : Stage pcb (.spared pcb) torn life freed bt)
    (notClosing : life' ≠ .closing) : Stage pcb .idle torn life' freed bt := by
  cases bt with
  | idle => exact ⟨stage.1, notClosing, stage.2.2⟩
  | created current cid handle => cases stage.2.2.2.2
  | closes current closer =>
      exact ⟨stage.1, stage.2.1, notClosing, stage.2.2.2⟩
  | tearing current closer =>
      exact ⟨stage.1, stage.2.1, notClosing, stage.2.2.2⟩
  | waiting current closer => cases stage.2.2.2.2
  | closed current closer =>
      obtain ⟨_, _, ⟨_, _, idle | down⟩ | ⟨_, _, idle⟩⟩ := stage
      · cases idle
      · cases down
      · cases idle
  | cleared current closer => cases stage.2.2.2.2

theorem spared_pcb (invariant : PcbInvariant s) {pcb : Nat}
    (spared : s.tcpip = .spared pcb) : PcbInvariant s.tcpipStep := by
  have ppp := invariant.calledBack pcb (Or.inr spared)
  have stage := (invariant.current pcb ppp).2
  rw [PcbTasks.Stage, spared] at stage
  have noClose : ∀ other closer, s.bt ≠ .waiting other closer := by
    intro other closer waiting
    rw [waiting] at stage
    cases stage.2.2.2.2
  have notClosing : s.life pcb ≠ .closing := by
    intro closing
    rw [closing] at stage
    obtain ⟨_, closer, waiting | closed⟩ := stage.of_closing
    · exact noClose pcb closer waiting
    · rw [closed] at stage
      obtain ⟨_, _, ⟨_, _, idle | down⟩ | ⟨_, _, idle⟩⟩ := stage
      · cases idle
      · cases down
      · cases idle
  unfold PcbTasks.tcpipStep
  rw [spared]
  dsimp only
  split
  · rw [callbackReturns_alone (by exact noClose)]
    apply invariant.moves ppp
    · exact ⟨rfl, rfl⟩
    · exact fun other apart => Function.update_of_ne apart _ _
    · exact fun _ _ => rfl
    · exact invariant.session
    · exact invariant.ends
    · apply stage.returns
      simp
    · exact Or.inl rfl
  · rw [callbackReturns_alone noClose]
    apply invariant.moves ppp
    · exact ⟨rfl, rfl⟩
    · exact fun _ _ => rfl
    · exact fun _ _ => rfl
    · exact invariant.session
    · exact invariant.ends
    · exact stage.returns notClosing
    · exact Or.inl rfl

theorem tcpipStep_pcb (invariant : PcbInvariant s)
    (inClose : InClose s .tcpip) : PcbInvariant s.tcpipStep := by
  cases tcpip : s.tcpip with
  | idle =>
      unfold PcbTasks.tcpipStep
      rw [tcpip]
      exact invariant
  | down pcb =>
      rw [InClose, tcpip] at inClose
      cases torn : s.pppTeardown with
      | true => exact frees_pcb invariant tcpip torn (inClose torn)
      | false => exact spares_pcb invariant tcpip torn
  | spared pcb => exact spared_pcb invariant tcpip

theorem PcbInvariant.step (invariant : PcbInvariant s) {event : PcbEvent}
    (possible : Possible s event) (inClose : InClose s event) :
    PcbInvariant (s.step event) := by
  cases event with
  | other event => exact other_pcb invariant possible.1 possible.2
  | opened cid handle created => exact opened_pcb invariant possible
  | closed cid => exact closed_pcb invariant possible
  | bt ok => exact btStep_pcb invariant inClose
  | output data => exact output_pcb invariant data
  | up pcb => exact up_pcb invariant
  | down pcb => exact down_pcb invariant possible
  | tcpip => exact tcpipStep_pcb invariant inClose

theorem tcpipStep_pcbs (s : PcbTasks) :
    s.tcpipStep.link.pcbs = s.link.pcbs := by
  have returns : ∀ t : PcbTasks, t.callbackReturns.link.pcbs = t.link.pcbs :=
    fun t => congrArg (fun w : World => w.link.pcbs)
      (PcbTasks.callbackReturns_world t)
  unfold PcbTasks.tcpipStep
  split
  · rfl
  · dsimp only
    split
    · exact returns _
    · rfl
  · split
    · exact returns _
    · exact returns _

theorem btStep_pcbs (ok : Bool) (s : PcbTasks) :
    (s.btStep ok).link.pcbs = s.link.pcbs := by
  unfold PcbTasks.btStep
  split
  · rfl
  · split
    · dsimp only
      split
      · rfl
      · rfl
    · rfl
  · rfl
  · split
    · dsimp only
      split
      · rfl
      · rfl
    · rfl
  · rfl
  · rfl
  · next closer _ => exact (afterClose_ppp closer _).pcbs

/-- A pcb is created only when a channel opens. -/
theorem step_pcbs {event : PcbEvent} (possible : Possible s event)
    (notOpened : ∀ cid handle created, event ≠ .opened cid handle created) :
    (s.step event).link.pcbs = s.link.pcbs := by
  cases event with
  | other event =>
      simp only [PcbTasks.step, PcbTasks.other]
      split
      · exact possible.1.keepsPcb.pcbs
      · rfl
  | opened cid handle created => exact absurd rfl (notOpened cid handle created)
  | closed cid =>
      by_cases idle : s.bt = .idle
      · by_cases without :
            cid ≠ s.link.activeCid ∨ cid = s.link.autoCid ∨ s.link.ppp = none
        · obtain ⟨link, keeps, form⟩ := closed_without_form idle without
          rw [PcbTasks.step, form]
          exact keeps.pcbs
        · rw [not_or, not_or, not_not] at without
          obtain ⟨ours, notHeld, some⟩ := without
          obtain ⟨pcb, ppp⟩ := Option.ne_none_iff_exists'.mp some
          rw [PcbTasks.step, closed_form idle ours notHeld ppp]
          rfl
      · simp only [PcbTasks.step, PcbTasks.closed, idle, if_false]
  | bt ok => exact btStep_pcbs ok s
  | output data => exact (pppOutputCb_same data s.link).pcbs
  | up pcb =>
      simp only [PcbTasks.step, PcbTasks.up]
      split
      · rfl
      · rfl
  | down pcb =>
      by_cases idle : s.tcpip = .idle
      · obtain ⟨life, _, _, form⟩ := down_form pcb idle
        rw [PcbTasks.step, form]
        rfl
      · simp only [PcbTasks.step, PcbTasks.down, idle, if_false]
  | tcpip => exact tcpipStep_pcbs s

theorem Stage.freed_le {pcb freed : Nat} {tcpip : TcpipPc} {torn : Bool}
    {life : Life} {bt : BtPc} (stage : Stage pcb tcpip torn life freed bt) :
    freed ≤ 1 := by
  cases bt with
  | idle =>
      have unfreed := stage.2.2
      omega
  | created current cid handle =>
      have unfreed := stage.2.2.2.1
      omega
  | closes current closer =>
      have unfreed := stage.2.2.2
      omega
  | tearing current closer =>
      have unfreed := stage.2.2.2
      omega
  | waiting current closer =>
      have unfreed := stage.2.2.2.1
      omega
  | closed current closer =>
      obtain ⟨_, _, ⟨_, unfreed, _⟩ | ⟨_, once, _⟩⟩ := stage
      · omega
      · omega
  | cleared current closer =>
      have once := stage.2.2.2.1
      omega

theorem PcbInvariant.freedOnce (invariant : PcbInvariant s) : FreedOnce s := by
  constructor
  · intro pcb
    by_cases ppp : s.link.ppp = some pcb
    · exact Stage.freed_le (invariant.current pcb ppp).2
    · rw [(invariant.others pcb ppp).2]
      split
      · exact Nat.le_refl 1
      · exact Nat.zero_le 1
  · intro pcb older notCurrent
    rw [(invariant.others pcb notCurrent).2, if_pos older]

theorem PcbInvariant.onlyCurrent (invariant : PcbInvariant s)
    {event : PcbEvent} (possible : Possible s event)
    (inClose : InClose s event) : OnlyCurrent s event := by
  have next := invariant.step possible inClose
  refine ⟨?_, ?_, ?_⟩
  · intro creates pcb older
    by_cases opened : ∃ cid handle created, event = .opened cid handle created
    · obtain ⟨cid, handle, created, rfl⟩ := opened
      have idle : s.bt = .idle := by
        by_contra busy
        apply creates
        simp only [PcbTasks.step, PcbTasks.opened, busy, false_and, if_false]
      have noPcb :=
        (invariant.session (by rw [idle]; rfl)).noPcb possible
      apply invariant.freedOnce.others pcb older
      exact fun some => Option.some_ne_none pcb (some.symm.trans noPcb)
    · push Not at opened
      exact absurd (step_pcbs possible opened) creates
  · intro pcb _ linked
    by_contra notCurrent
    rw [(next.others pcb notCurrent).1] at linked
    cases linked
  · intro pcb _ down
    exact next.calledBack pcb (Or.inl down)

end Invariant

/-! ## Runs -/

theorem boot_pcb (linkMode : BtsecMode) :
    PcbInvariant (PcbTasks.boot linkMode) := by
  refine ⟨fun _ => ChannelInvariant.boot linkMode, ?_, ?_, ?_, ?_, ?_⟩
  · rintro _ ⟨⟩
  · exact fun _ => ⟨rfl, rfl, rfl⟩
  · rintro _ ⟨⟩
  · exact fun _ _ => ⟨rfl, rfl⟩
  · rintro pcb (down | spared)
    · cases down
    · cases spared

/-- Where every close calls back before its flag is cleared, and no other
callback looks at the flag while it is set, every pcb is freed once, before the
next is created, and an earlier one neither listens again nor calls back. -/
theorem pcbs_freed_once (linkMode : BtsecMode) {events : List PcbEvent}
    (along :
      Along PcbTasks.step (fun s event => Possible s event ∧ InClose s event)
        (PcbTasks.boot linkMode) events) :
    FreedOnce (run PcbTasks.step (PcbTasks.boot linkMode) events) ∧
      ∀ event,
        Possible (run PcbTasks.step (PcbTasks.boot linkMode) events) event →
        InClose (run PcbTasks.step (PcbTasks.boot linkMode) events) event →
          OnlyCurrent (run PcbTasks.step (PcbTasks.boot linkMode) events)
            event := by
  have invariant :
      PcbInvariant (run PcbTasks.step (PcbTasks.boot linkMode) events) := by
    apply run_invariant_along PcbInvariant _ (boot_pcb linkMode) along
    intro s event holds allowed
    exact holds.step allowed.1 allowed.2
  exact
    ⟨invariant.freedOnce, fun event possible inClose =>
      invariant.onlyCurrent possible inClose⟩

/-- A phone dials and hangs up; the close calls back at once. -/
def hungUp : List PcbEvent :=
  [.other (.incoming 1 7 (Vector.replicate 6 1) true), .opened 1 7 true,
    .bt true, .up 0, .closed 1, .bt true, .bt true, .tcpip, .bt true, .bt true]

theorem pcbs_freed_once_hungUp :
    FreedOnce (run PcbTasks.step (PcbTasks.boot .btsecOff) hungUp) := by
  have along :
      Along PcbTasks.step (fun s event => Possible s event ∧ InClose s event)
        (PcbTasks.boot .btsecOff) hungUp := by
    refine
      ⟨⟨⟨trivial, by decide, id⟩, trivial⟩, ⟨rfl, trivial⟩, ⟨trivial, trivial⟩,
        ⟨rfl, trivial⟩, ⟨?_, trivial⟩, ⟨trivial, trivial⟩, ⟨?_, trivial⟩,
        ⟨trivial, fun _ => rfl⟩, ⟨trivial, ?_⟩, ⟨trivial, trivial⟩, trivial⟩
    · show Phase.opened ≠ .free
      decide
    · rintro ⟨⟩
    · show Life.dead ≠ .closing
      decide
  exact (pcbs_freed_once .btsecOff along).1

/-- The phone hangs up while it negotiates and dials again; the callback of the
close comes when the second session is up. -/
def hungUpMidDial : List PcbEvent :=
  [.other (.incoming 1 7 (Vector.replicate 6 1) true), .opened 1 7 true,
    .bt true, .closed 1, .bt true, .bt false, .bt true, .bt true,
    .other (.incoming 2 7 (Vector.replicate 6 1) true), .opened 2 7 true,
    .bt true, .up 1, .down 0, .tcpip, .tcpip]

/-- The first pcb is not freed: its callback marks the second session down and
lets the first pcb listen. -/
theorem hungUpMidDial_kept :
    Along PcbTasks.step Possible (PcbTasks.boot .btsecOff) hungUpMidDial ∧
      (run PcbTasks.step (PcbTasks.boot .btsecOff) hungUpMidDial).link.ppp =
        some 1 ∧
      (run PcbTasks.step (PcbTasks.boot .btsecOff) hungUpMidDial).freed 0 = 0 ∧
      (run PcbTasks.step (PcbTasks.boot .btsecOff) hungUpMidDial).life 0 =
        .linked ∧
      (run PcbTasks.step (PcbTasks.boot .btsecOff)
        hungUpMidDial).link.pppUpFlag = false ∧
      ¬ FreedOnce (run PcbTasks.step (PcbTasks.boot .btsecOff) hungUpMidDial) := by
  have along :
      Along PcbTasks.step Possible (PcbTasks.boot .btsecOff) hungUpMidDial := by
    refine ⟨⟨trivial, by decide, id⟩, rfl, trivial, ?_, trivial, ?_, trivial,
      trivial, ⟨trivial, by decide, id⟩, rfl, trivial, rfl, ?_, trivial,
      trivial, trivial⟩
    · show Phase.opened ≠ .free
      decide
    · rintro ⟨⟩
    · show Life.closing ≠ .dead
      decide
  have unfreed :
      (run PcbTasks.step (PcbTasks.boot .btsecOff) hungUpMidDial).freed 0 = 0 := by
    decide
  refine ⟨along, rfl, unfreed, rfl, rfl, fun freedOnce => ?_⟩
  have freed := freedOnce.others 0 (by decide) (by decide)
  rw [unfreed] at freed
  cases freed

end VeteraBridge.Link
