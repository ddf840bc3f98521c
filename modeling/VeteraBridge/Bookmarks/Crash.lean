import VeteraBridge.Bookmarks.Refinement

/-!
# Bookmarks when writes fail and power is lost

A device that boots after every fault shows a list without holes, and what a
call left of the list is bounded by `Call.MayLeave`; this holds for any number
of faults.  Without the boot the count in RAM follows the one in NVS, but for an
append whose commit is what fails.
-/

namespace VeteraBridge.Bookmarks

open CrashLogic (Prog Outcome)
open EventRun (run Along)

namespace Device

/-- What the web page shows. -/
def seen (d : Device) : List (Option Bookmark) :=
  (List.range d.st.bmCount).map fun index : Nat =>
    bookmarksGet d.st d.nvs (index : Int)

/-- A call, and a boot when one of its writes failed or the power was cut. -/
def endure (d : Device) (event : Call × List Outcome) : Device :=
  let after := (d.perform event.1 event.2).2
  if ∀ outcome ∈ event.2, outcome = .succeeds then after else boot after.nvs

end Device

/-- What the web page shows of a list. -/
def BookmarkList.shown (list : BookmarkList) : List (Option Bookmark) :=
  list.entries.map fun saved => some saved.toBookmark

/-- The bookmark a call sets. -/
def Call.sets : Call → Option SavedBookmark
  | .set _ title url => url.bind (SavedBookmark.ofInput title)
  | .remove _ => none

theorem Call.mem_apply {call : Call} {list : BookmarkList}
    {saved : SavedBookmark} (member : saved ∈ (call.apply list).2.entries) :
    saved ∈ list.entries ∨ call.sets = some saved := by
  cases result : (call.apply list).1 with
  | false =>
      rw [(call.prog_of_rejected rfl result).2] at member
      exact Or.inl member
  | true =>
      cases call with
      | set index title url =>
          obtain ⟨new, ⟨sets, ⟨_, _, _, after⟩ | ⟨_, _, _, after⟩⟩⟩ :=
            Call.set_accepted rfl result
          · rw [after] at member
            rcases List.mem_append.mp member with old | isNew
            · exact Or.inl old
            · rw [List.mem_singleton.mp isNew]
              exact Or.inr sets
          · rw [after] at member
            rcases List.mem_or_eq_of_mem_set member with old | isNew
            · exact Or.inl old
            · rw [isNew]
              exact Or.inr sets
      | remove index =>
          obtain ⟨slot, _, _, after⟩ := Call.remove_accepted result
          rw [after] at member
          exact Or.inl
            ((List.eraseIdx_sublist list.entries slot).subset member)

/-- What a call may leave comes from the list and from the call. -/
theorem Call.MayLeave.mem {call : Call} {old new : BookmarkList}
    (may : call.MayLeave old new) {saved : SavedBookmark}
    (member : saved ∈ new.entries) :
    saved ∈ old.entries ∨ call.sets = some saved := by
  cases call with
  | set index title url =>
      rw [MayLeave] at may
      rcases may with rfl | rfl
      · exact Or.inl member
      · exact Call.mem_apply member
  | remove index =>
      rw [MayLeave] at may
      exact Or.inl (may.1 saved member)

namespace Device

variable {d : Device} {list : BookmarkList}

theorem Shows.seen (shows : d.Shows list) : d.seen = list.shown := by
  rw [Device.seen, shows.statics, BookmarkList.shown]
  apply List.ext_getElem?
  intro k
  rw [List.getElem?_map, List.getElem?_map]
  by_cases inside : k < list.entries.length
  · rw [List.getElem?_range inside, List.getElem?_eq_getElem inside]
    have here := shows.get (k : Int)
    rw [shows.statics] at here
    simp [here, BookmarkList.get, List.getElem?_eq_getElem inside]
  · rw [List.getElem?_eq_none (by simpa using inside),
      List.getElem?_eq_none (by omega)]
    rfl

/-- A call whose writes fare in any way, and a boot. -/
theorem Shows.crash (shows : d.Shows list) (call : Call)
    (plan : List Outcome) :
    ∃ left, call.MayLeave list left ∧
      Represents (d.perform call plan).2.nvs left := by
  have meets : (call.prog d.st).Meets True _ _ d.nvs := call.meets shows
  have crashes :
      ∀ result nvs, call.Ends True list result nvs → call.Leaves list nvs := by
    intro result nvs ends
    rcases ends with ⟨_, after⟩ | ⟨_, _, leaves⟩
    · exact ⟨_, call.mayLeave_apply list, after.represents⟩
    · exact leaves
  obtain ⟨ended, cut⟩ := meets.of_run crashes plan
  rw [Device.perform]
  generalize (call.prog d.st).run plan d.nvs = outcome at ended cut ⊢
  obtain ⟨_ | result, nvs⟩ := outcome
  · exact cut rfl
  · exact crashes result nvs (ended result rfl)

/-- A call all of whose writes succeed. -/
theorem Shows.endure_healthy (shows : d.Shows list) (call : Call)
    {plan : List Outcome} (healthy : ∀ outcome ∈ plan, outcome = .succeeds) :
    (d.endure (call, plan)).Shows (call.apply list).2 := by
  have same : d.perform call plan = d.perform call [] := by
    rw [Device.perform, Device.perform, Prog.run_of_healthy _ healthy]
  rw [endure, if_pos healthy, same]
  exact (shows.perform call).2

/-- A device that boots after its faults shows what a call may leave. -/
theorem Shows.endure (shows : d.Shows list) (event : Call × List Outcome) :
    ∃ left, (d.endure event).Shows left := by
  by_cases healthy : ∀ outcome ∈ event.2, outcome = .succeeds
  · exact ⟨_, shows.endure_healthy event.1 healthy⟩
  · obtain ⟨left, _, represents⟩ := shows.crash event.1 event.2
    rw [Device.endure, if_neg healthy]
    exact ⟨left, represents.init⟩

end Device

/-- After any calls whose writes fail or are cut short in any way, with a boot
after each fault, and one more such call and a boot: every index below the
count reads a record that was in the list or is the one being set, a call that
sets left the old list or the new one, and a call that removes left every entry
but the removed one and the last. -/
theorem crash_keeps_bookmarks (str : List UInt8 → Option (List UInt8))
    (history : List (Call × List Outcome)) (call : Call)
    (plan : List Outcome) :
    let before := run Device.endure (Device.boot (Nvs.fresh str)) history
    let after := Device.boot (before.perform call plan).2.nvs
    after.st.bmCount = after.nvs.storedCount ∧
      ∃ old new : BookmarkList,
        before.seen = old.shown ∧ after.seen = new.shown ∧
        (∀ saved ∈ new.entries,
          saved ∈ old.entries ∨ call.sets = some saved) ∧
        call.MayLeave old new := by
  obtain ⟨old, shows⟩ :
      ∃ list,
        (run Device.endure (Device.boot (Nvs.fresh str)) history).Shows list := by
    apply EventRun.run_invariant (fun d => ∃ list, Device.Shows d list)
    · rintro d event ⟨list, shows⟩
      exact shows.endure event
    · exact ⟨_, Device.shows_fresh str⟩
  obtain ⟨new, may, represents⟩ := shows.crash call plan
  have boots := represents.init
  refine ⟨?_, old, new, shows.seen, ?_, fun saved => may.mem, may⟩
  · rw [Device.boot, boots.statics, represents.count]
  · exact Device.Shows.seen (d := Device.boot _) boots

/-! ## Writes that fail without a boot -/

/-- Writes that succeed or fail. -/
def outcomes (plan : List Bool) : List Outcome :=
  plan.map fun succeeds => if succeeds then .succeeds else .fails

namespace Device

/-- A call some of whose writes fail. -/
def attempt (d : Device) (event : Call × List Bool) : Device :=
  (d.perform event.1 (outcomes event.2)).2

/-- The count in RAM is the one in NVS, and an append that returns false leaves
that count and what is seen, now and after a boot. -/
def Consistent (d : Device) (event : Call × List Bool) : Prop :=
  let after := d.attempt event
  after.st.bmCount = after.nvs.storedCount ∧
    match event.1 with
    | .set index _ _ =>
      index < 0 → (d.perform event.1 (outcomes event.2)).1 = some false →
        after.nvs.storedCount = d.nvs.storedCount ∧ after.seen = d.seen ∧
          (boot after.nvs).seen = d.seen
    | .remove _ => True

/-- The commit does not fail behind the two writes of an append that passes the
checks. -/
def CommitKept (d : Device) (event : Call × List Bool) : Prop :=
  match event.1 with
  | .set index _ url =>
    ¬ (index < 0 ∧ (url.bind fun url => normalizeUrl url bmUrlMax).isSome ∧
      d.st.bmCount < bmMax ∧ [true, true, false] <+: event.2)
  | .remove _ => True

end Device

theorem cut_not_mem_outcomes (plan : List Bool) :
    Outcome.cut ∉ outcomes plan := by
  intro member
  obtain ⟨succeeds, _, isCut⟩ := List.mem_map.mp member
  cases succeeds <;> cases isCut

section Outcomes

variable {Result : Type} {effect : Nvs → Nvs} {next : Bool → Prog Nvs Result}

@[simp]
theorem run_done (result : Result) (plan : List Bool) (nvs : Nvs) :
    (Prog.done result).run (outcomes plan) nvs = (some result, nvs) := by
  have uncut : (outcomes plan).head? ≠ some Outcome.cut := by
    cases plan with
    | nil => simp [outcomes]
    | cons first rest => cases first <;> simp [outcomes]
  simp [Prog.run, uncut]

@[simp]
theorem run_write_nil (nvs : Nvs) :
    (Prog.write effect next).run (outcomes []) nvs =
      (next true).run (outcomes []) (effect nvs) := rfl

@[simp]
theorem run_write_true (rest : List Bool) (nvs : Nvs) :
    (Prog.write effect next).run (outcomes (true :: rest)) nvs =
      (next true).run (outcomes rest) (effect nvs) := rfl

@[simp]
theorem run_write_false (rest : List Bool) (nvs : Nvs) :
    (Prog.write effect next).run (outcomes (false :: rest)) nvs =
      (next false).run (outcomes rest) nvs := rfl

end Outcomes

/-- An append that loses only its commit. -/
theorem saveEntry_run_lost (st : Statics) (index : Nat) (raw : List UInt8)
    (nvs : Nvs) {plan : List Bool} (lost : [true, true, false] <+: plan) :
    (saveEntry st true index raw).run (outcomes plan) nvs =
      (some (false, st), (nvs.setStr (entryKey index) raw).setCount
        (UInt8.ofNat (index + 1))) := by
  obtain ⟨rest, rfl⟩ := lost
  simp [saveEntry, rawWrite, countWrite, nvsCommit, Prog.writes,
    -UInt8.ofNat_add]

/-- An append that does not: all is done, or nothing is counted. -/
theorem saveEntry_run_kept (st : Statics) (index : Nat) (raw : List UInt8)
    (nvs : Nvs) {plan : List Bool} (kept : ¬ [true, true, false] <+: plan) :
    (saveEntry st true index raw).run (outcomes plan) nvs =
        (some (true, { st with bmCount := index + 1 }),
          (nvs.setStr (entryKey index) raw).setCount
            (UInt8.ofNat (index + 1))) ∨
      (saveEntry st true index raw).run (outcomes plan) nvs =
        (some (false, st), nvs) ∨
      (saveEntry st true index raw).run (outcomes plan) nvs =
        (some (false, st), nvs.setStr (entryKey index) raw) := by
  simp only [saveEntry, rawWrite, countWrite, nvsCommit, Prog.writes,
    Prog.write_bind, Prog.done_bind, Prog.pure_eq]
  rcases plan with _ | ⟨_ | _, plan⟩
  · simp [-UInt8.ofNat_add]
  · simp
  rcases plan with _ | ⟨_ | _, plan⟩
  · simp [-UInt8.ofNat_add]
  · simp
  rcases plan with _ | ⟨_ | _, plan⟩
  · simp [-UInt8.ofNat_add]
  · exact absurd ⟨plan, rfl⟩ kept
  · simp [-UInt8.ofNat_add]

namespace Device

variable {d : Device} {list : BookmarkList}

theorem perform_of_run (call : Call) {plan : List Outcome} {result : Bool}
    {st : Statics} {nvs : Nvs}
    (ran : (call.prog d.st).run plan d.nvs = (some (result, st), nvs)) :
    d.perform call plan = (some result, ⟨st, nvs⟩) := by
  rw [perform, ran]

/-- Every device that shows a list has its counts in step. -/
theorem Shows.counts (shows : d.Shows list) :
    d.st.bmCount = d.nvs.storedCount := by
  rw [shows.statics, shows.represents.count]

theorem Shows.attempt_rejected (shows : d.Shows list) {call : Call}
    (rejected : (call.apply list).1 = false) (plan : List Bool) :
    d.attempt (call, plan) = d := by
  obtain ⟨nothing, _⟩ := call.prog_of_rejected shows.statics rejected
  have ran : (call.prog d.st).run (outcomes plan) d.nvs =
      (some (false, d.st), d.nvs) := by
    rw [nothing, run_done]
  rw [attempt, perform_of_run call ran]

/-- A call that does not append, whatever becomes of its writes. -/
theorem Shows.attempt_other (shows : d.Shows list) (call : Call)
    (other : ∀ index title url, call = .set index title url → ¬ index < 0)
    (plan : List Bool) : ∃ left, (d.attempt (call, plan)).Shows left := by
  have uncut := cut_not_mem_outcomes plan
  cases result : (call.apply list).1 with
  | false =>
      rw [shows.attempt_rejected result]
      exact ⟨list, shows⟩
  | true =>
      cases call with
      | set index title url =>
          obtain ⟨saved, _, ⟨append, _⟩ | ⟨_, inside, prog, _⟩⟩ :=
            Call.set_accepted shows.statics result
          · exact absurd append (other index title url rfl)
          · obtain ⟨ended, nvs, ran, ends⟩ :=
              Prog.Meets.of_uncut_run (replace_meets shows saved inside) uncut
            rw [← prog] at ran
            rw [attempt, perform_of_run (.set index title url) ran]
            rcases ends with ⟨_, after⟩ | ⟨_, _, after | after⟩
            · exact ⟨_, after⟩
            · exact ⟨_, after⟩
            · exact ⟨_, after⟩
      | remove index =>
          obtain ⟨slot, rfl, inside, _⟩ := Call.remove_accepted result
          obtain ⟨ended, nvs, ran, ends⟩ :=
            Prog.Meets.of_uncut_run (remove_meets shows inside) uncut
          rw [attempt, perform_of_run (.remove slot) ran]
          rcases ends with ⟨_, after⟩ | ⟨_, _, left, _, after⟩
          · exact ⟨_, after⟩
          · exact ⟨left, after⟩

/-- An append that loses its commit leaves the count in RAM behind. -/
theorem Shows.attempt_lost (shows : d.Shows list) {index : Int}
    {title url : Option (List UInt8)} (append : index < 0)
    (accepted : (Call.apply list (.set index title url)).1 = true)
    {plan : List Bool} (lost : [true, true, false] <+: plan) :
    (d.attempt (.set index title url, plan)).st.bmCount ≠
      (d.attempt (.set index title url, plan)).nvs.storedCount := by
  obtain ⟨saved, _, ⟨_, room, prog, _⟩ | ⟨notAppend, _⟩⟩ :=
    Call.set_accepted shows.statics accepted
  · have ran := saveEntry_run_lost d.st d.st.bmCount (record saved.toBookmark)
      d.nvs lost
    rw [← prog] at ran
    rw [attempt, perform_of_run (.set index title url) ran,
      shows.statics, Nvs.storedCount_setCount _ room]
    simp
  · exact absurd append notAppend

/-- An append that does not lose its commit is done, or leaves the list. -/
theorem Shows.attempt_kept (shows : d.Shows list) {index : Int}
    {title url : Option (List UInt8)} (append : index < 0)
    (accepted : (Call.apply list (.set index title url)).1 = true)
    {plan : List Bool} (kept : ¬ [true, true, false] <+: plan) :
    ((d.perform (.set index title url) (outcomes plan)).1 = some true ∧
        ∃ left, (d.attempt (.set index title url, plan)).Shows left) ∨
      (d.attempt (.set index title url, plan)).Shows list := by
  obtain ⟨saved, _, ⟨_, room, prog, _⟩ | ⟨notAppend, _⟩⟩ :=
    Call.set_accepted shows.statics accepted
  · have few : list.entries.length < 100 := by
      unfold bmMax at room
      omega
    have written := shows.represents.records.write_next few saved
    have same : d.st.bmCount = list.entries.length := by rw [shows.statics]
    have runs := saveEntry_run_kept d.st d.st.bmCount
      (record saved.toBookmark) d.nvs kept
    rw [← prog, same] at runs
    rcases runs with ran | ran | ran
    · rw [attempt, perform_of_run (.set index title url) ran]
      refine Or.inl ⟨rfl, list.append saved room, ?_, ?_, written⟩
      · rw [shows.statics]
        simp [BookmarkList.append]
      · rw [Nvs.storedCount_setCount _ room]
        simp [BookmarkList.append]
    · rw [attempt, perform_of_run (.set index title url) ran]
      exact Or.inr shows
    · rw [attempt, perform_of_run (.set index title url) ran]
      refine Or.inr ⟨shows.statics, shows.represents.count, ?_⟩
      exact written.of_prefix (List.prefix_append _ _)
  · exact absurd append notAppend

/-- What is seen of a device whose list is unchanged, now and after a boot. -/
theorem Shows.seen_unchanged {after : Device} (shows : d.Shows list)
    (unchanged : after.Shows list) :
    after.nvs.storedCount = d.nvs.storedCount ∧ after.seen = d.seen ∧
      (boot after.nvs).seen = d.seen := by
  have boots : (boot after.nvs).Shows list := unchanged.represents.init
  refine ⟨?_, ?_, ?_⟩
  · rw [unchanged.represents.count, shows.represents.count]
  · rw [unchanged.seen, shows.seen]
  · rw [boots.seen, shows.seen]

/-- A device that shows a list stays consistent in exactly the calls that keep
their commit. -/
theorem Shows.consistent_iff (shows : d.Shows list)
    (event : Call × List Bool) :
    d.Consistent event ↔ d.CommitKept event := by
  obtain ⟨call, plan⟩ := event
  cases call with
  | remove index =>
      obtain ⟨left, after⟩ :=
        shows.attempt_other (.remove index) (by simp) plan
      exact iff_of_true ⟨after.counts, trivial⟩ trivial
  | set index title url =>
      simp only [Consistent, CommitKept]
      by_cases append : index < 0
      · have statics : d.st.bmCount = list.entries.length := by
          rw [shows.statics]
        have accepts := Call.append_accepted_iff list title url append
        cases accepted : (Call.apply list (.set index title url)).1 with
        | false =>
            have same := shows.attempt_rejected accepted plan
            rw [same, statics]
            refine iff_of_true ⟨?_, ?_⟩ ?_
            · rw [← statics, shows.counts]
            · exact fun _ _ => shows.seen_unchanged shows
            · rintro ⟨_, address, room, _⟩
              rw [accepted] at accepts
              exact absurd (accepts.mpr ⟨address, room⟩) (by simp)
        | true =>
            obtain ⟨address, room⟩ := accepts.mp accepted
            by_cases lost : [true, true, false] <+: plan
            · refine iff_of_false ?_ ?_
              · exact fun consistent =>
                  shows.attempt_lost append accepted lost consistent.1
              · rw [statics]
                exact fun kept => kept ⟨append, address, room, lost⟩
            · refine iff_of_true ?_ fun both => lost both.2.2.2
              rcases shows.attempt_kept append accepted lost with
                ⟨succeeded, left, after⟩ | after
              · refine ⟨after.counts, fun _ failed => ?_⟩
                rw [succeeded] at failed
                cases failed
              · exact ⟨after.counts, fun _ _ => shows.seen_unchanged after⟩
      · obtain ⟨left, after⟩ :=
          shows.attempt_other (.set index title url)
            (by
              rintro _ _ _ same isAppend
              cases same
              exact append isAppend) plan
        exact iff_of_true ⟨after.counts, fun isAppend => absurd isAppend append⟩
          (fun both => append both.1)

/-- A call that keeps its commit leaves a device that shows a list. -/
theorem Shows.attempt (shows : d.Shows list) {event : Call × List Bool}
    (kept : d.CommitKept event) : ∃ left, (d.attempt event).Shows left := by
  obtain ⟨call, plan⟩ := event
  by_cases other : ∀ index title url, call = .set index title url → ¬ index < 0
  · exact shows.attempt_other _ other plan
  · simp only [not_forall, not_not] at other
    obtain ⟨index, title, url, rfl, append⟩ := other
    cases accepted : (Call.apply list (.set index title url)).1 with
    | false =>
        rw [shows.attempt_rejected accepted]
        exact ⟨list, shows⟩
    | true =>
        obtain ⟨address, room⟩ := (Call.append_accepted_iff _ _ _ append).mp
          accepted
        have notLost : ¬ [true, true, false] <+: plan := by
          intro lost
          simp only [CommitKept] at kept
          rw [shows.statics] at kept
          exact kept ⟨append, address, room, lost⟩
        rcases shows.attempt_kept append accepted notLost with
          ⟨_, after⟩ | after
        · exact after
        · exact ⟨list, after⟩

end Device

/-- In a run of calls whose writes may fail, the count in RAM follows the one
in NVS, and an append that returns false leaves what is seen, in exactly the
runs in which no append that passes its checks loses its commit behind its two
writes. -/
theorem count_follows_iff_commits_kept
    (str : List UInt8 → Option (List UInt8))
    (events : List (Call × List Bool)) :
    Along Device.attempt Device.Consistent (Device.boot (Nvs.fresh str))
        events ↔
      Along Device.attempt Device.CommitKept (Device.boot (Nvs.fresh str))
        events := by
  apply EventRun.along_iff_along (fun d => ∃ list, Device.Shows d list)
  · rintro d event ⟨list, shows⟩
    exact shows.consistent_iff event
  · rintro d event ⟨list, shows⟩ kept
    exact shows.attempt kept
  · exact ⟨_, Device.shows_fresh str⟩

/-- One bookmark is added and only its commit fails: NVS counts it, RAM does
not. -/
theorem failed_commit_splits_counts :
    ¬ Along Device.attempt Device.Consistent
      (Device.boot (Nvs.fresh fun _ => none))
      [(.set (-1) none (some (Proxy.ascii "a")), [true, true, false])] := by
  intro consistent
  have shows := Device.shows_fresh fun _ => none
  have accepted :=
    (Call.append_accepted_iff BookmarkList.empty none
      (some (Proxy.ascii "a")) (by decide : (-1 : Int) < 0)).mpr
        ⟨by decide, by decide⟩
  exact shows.attempt_lost (by decide) accepted (List.prefix_refl _)
    consistent.1.1

end VeteraBridge.Bookmarks
