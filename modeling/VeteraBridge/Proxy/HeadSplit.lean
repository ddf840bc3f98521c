import VeteraBridge.Proxy.RequestBounds
import VeteraBridge.Proxy.SessionCopy

/-!
# The request is read the same however it arrives

What the relay makes of a phone's first bytes is a function of the bytes, and
bytes that come later do not change it.  So two connections that carry the same
stream, cut up in different ways, are refused alike or go on alike, with the
same host and the same bytes for the proxy.
-/

namespace VeteraBridge.Proxy

open ByteWords EventRun

/-! ## The decision on the bytes so far -/

inductive HeadDecision where
  | waits
  | fails (why : String)
  /-- with the host and what then is in the buffer for the proxy -/
  | proceeds (host up : List UInt8)
deriving DecidableEq, Repr

/-- What `head_ready` makes of a buffer when there is memory. -/
def headDecision (tls : Bool) (origIp : UInt32) (up : List UInt8) :
    HeadDecision :=
  if tls then
    if up.length < 5 then .waits
    else if
        byteAt up 0 = 0x16 ∧ up.length < 5 + lengthAt up 3 ∧
          up.length < upSz then
      .waits
    else
      .proceeds (tlsHost origIp up) up
  else
    match findCrlf2 up with
    | none =>
      if up.length ≥ upSz then .fails "request head too large" else .waits
    | some e =>
      match httpRewrite (up.take (e + 4)) origIp upCap hostSz with
      | none => .fails "can't parse the request"
      | some (head, host) => .proceeds host (head ++ up.drop (e + 4))

/-- The decision with more bytes behind those it was made on. -/
def HeadDecision.followedBy (more : List UInt8) : HeadDecision → HeadDecision
  | .waits => .waits
  | .fails why => .fails why
  | .proceeds host up => .proceeds host (up ++ more)

theorem followedBy_nil (decision : HeadDecision) :
    decision.followedBy [] = decision := by
  cases decision with
  | waits =>
      rfl
  | fails why =>
      rfl
  | proceeds host up =>
      rw [HeadDecision.followedBy, List.append_nil]

section Decision

variable {tls : Bool} {origIp : UInt32} {up : List UInt8}

theorem waits_length (waits : headDecision tls origIp up = .waits) :
    up.length < upSz := by
  unfold headDecision at waits
  split at waits
  · split at waits
    · next short =>
      exact short.trans (by simp only [upSz]; omega)
    · split at waits
      · next partly => exact partly.2.2
      · cases waits
  · split at waits
    · split at waits
      · cases waits
      · next room => exact not_le.mp room
    · split at waits
      · cases waits
      · cases waits

/-- There is room for a rewritten head, however long the body is that came
with it. -/
theorem httpRewrite_room (origIp : UInt32) {e : Nat} (found : findCrlf2 up = some e)
    (short : up.length ≤ upSz) :
    httpRewrite (up.take (e + 4)) origIp
        (upCap - (up.drop (e + 4)).length) hostSz =
      httpRewrite (up.take (e + 4)) origIp upCap hostSz := by
  cases full : httpRewrite (up.take (e + 4)) origIp upCap hostSz with
  | some result =>
      obtain ⟨out, host⟩ := result
      have added := httpRewrite_length_le (by decide) full
      have inside := findCrlf2_le found
      have fits : out.length ≤ upCap - (up.drop (e + 4)).length := by
        have cap : upCap = 2560 := rfl
        have size : upSz = 2048 := rfl
        have hostSize : hostSz = 80 := rfl
        rw [List.length_take] at added
        rw [List.length_drop]
        omega
      exact httpRewrite_fits full fits
  | none =>
      cases rest :
          httpRewrite (up.take (e + 4)) origIp
            (upCap - (up.drop (e + 4)).length) hostSz with
      | none =>
          rfl
      | some result =>
          rw [httpRewrite_mono (Nat.sub_le _ _) rest] at full
          cases full

/-- The record is there, or it is not a ClientHello, or the buffer is full:
more bytes do not change the host. -/
theorem tlsHost_append (more : List UInt8) (five : 5 ≤ up.length)
    (settled :
      ¬ (byteAt up 0 = 0x16 ∧ up.length < 5 + lengthAt up 3 ∧
        up.length < upSz))
    (short : (up ++ more).length ≤ upSz) :
    tlsHost origIp (up ++ more) = tlsHost origIp up := by
  have sameFirst : byteAt (up ++ more) 0 = byteAt up 0 :=
    byteAt_append more (by omega)
  by_cases isRecord : byteAt up 0 = 0x16
  · by_cases whole : 5 + lengthAt up 3 ≤ up.length
    · rw [tlsHost, tlsHost, tlsSni_append more hostSz whole]
    · have full : ¬ up.length < upSz := by
        intro room
        exact settled ⟨isRecord, by omega, room⟩
      rw [List.length_append] at short
      have nothing : more = [] := List.length_eq_zero_iff.mp (by omega)
      rw [nothing, List.append_nil]
  · have noName : tlsSni up hostSz = none := by
      rw [tlsSni]
      dsimp only
      rw [if_pos (Or.inr isRecord)]
    have noName' : tlsSni (up ++ more) hostSz = none := by
      rw [tlsSni]
      dsimp only
      rw [if_pos (Or.inr (sameFirst ▸ isRecord))]
    rw [tlsHost, tlsHost, noName, noName']

/-- A decision stands: bytes behind those it was made on are only passed
on. -/
theorem headDecision_append (more : List UInt8)
    (settled : headDecision tls origIp up ≠ .waits)
    (short : (up ++ more).length ≤ upSz) :
    headDecision tls origIp (up ++ more) =
      (headDecision tls origIp up).followedBy more := by
  have longer : up.length ≤ (up ++ more).length := by
    rw [List.length_append]
    omega
  cases tls with
  | true =>
      simp only [headDecision, if_true] at settled ⊢
      by_cases few : up.length < 5
      · exact absurd (if_pos few) settled
      rw [if_neg few] at settled ⊢
      by_cases partly :
          byteAt up 0 = 0x16 ∧ up.length < 5 + lengthAt up 3 ∧
            up.length < upSz
      · exact absurd (if_pos partly) settled
      have sameFirst : byteAt (up ++ more) 0 = byteAt up 0 :=
        byteAt_append more (by omega)
      have sameLength : lengthAt (up ++ more) 3 = lengthAt up 3 :=
        lengthAt_append more (by omega)
      have partly' :
          ¬ (byteAt (up ++ more) 0 = 0x16 ∧
            (up ++ more).length < 5 + lengthAt (up ++ more) 3 ∧
              (up ++ more).length < upSz) := by
        rw [sameFirst, sameLength]
        rintro ⟨isRecord, incomplete, room⟩
        exact partly ⟨isRecord, by omega, by omega⟩
      rw [if_neg partly, if_neg (by omega), if_neg partly',
        tlsHost_append more (by omega) partly short]
      rfl
  | false =>
      simp only [headDecision, Bool.false_eq_true, if_false] at settled ⊢
      cases found : findCrlf2 up with
      | none =>
          rw [found] at settled
          dsimp only at settled ⊢
          by_cases full : up.length ≥ upSz
          · rw [List.length_append] at short
            have nothing : more = [] :=
              List.length_eq_zero_iff.mp (by omega)
            rw [nothing, List.append_nil, found, followedBy_nil]
          · exact absurd (if_neg full) settled
      | some e =>
          have inside := findCrlf2_le found
          simp only [findCrlf2_append more found,
            List.take_append_of_le_length inside,
            List.drop_append_of_le_length inside]
          cases httpRewrite (up.take (e + 4)) origIp upCap hostSz with
          | none =>
              rfl
          | some result =>
              obtain ⟨head, host⟩ := result
              simp only [HeadDecision.followedBy, List.append_assoc]

end Decision

/-- The decision on a whole stream: no more than a buffer is looked at. -/
def streamDecision (tls : Bool) (origIp : UInt32) (stream : List UInt8) :
    HeadDecision :=
  headDecision tls origIp (stream.take upSz)

theorem streamDecision_eq {tls : Bool} {origIp : UInt32}
    {seen stream : List UInt8}
    (settled : headDecision tls origIp seen ≠ .waits)
    (short : seen.length ≤ upSz) (before : seen <+: stream) :
    streamDecision tls origIp stream =
      (headDecision tls origIp seen).followedBy
        ((stream.take upSz).drop seen.length) := by
  obtain ⟨rest, rfl⟩ := before
  have start :
      (seen ++ rest).take upSz =
        seen ++ ((seen ++ rest).take upSz).drop seen.length := by
    rw [List.take_append, List.take_of_length_le short, List.drop_left]
  rw [streamDecision, start]
  rw [List.drop_left]
  apply headDecision_append _ settled
  rw [← start]
  exact List.length_take_le _ _

/-! ## The code decides so -/

/-- What `head_ready` does for a decision. -/
inductive Decides (io : SessIo) (now : UInt32) (c : SessCtx) :
    HeadDecision → SessCtx → Prop
  | waits : Decides io now c .waits c
  | fails (why : String) (os : Os) :
      Decides io now c (.fails why) (sessFail io why (c.withOs os))
  | proceeds (host up : List UInt8) (os : Os) :
      Decides io now c (.proceeds host up)
        (startConnect io now
          ((c.withSess
            { c.s with up := ⟨up, c.s.up.off⟩, host := host }).withOs os))

/-- The block for a rewritten head can be had. -/
def MemoryAvailable (io : SessIo) (shared : Shared) : Prop :=
  ∃ out os, shared.os.malloc io.outMem = (some out, os)

theorem headReady_decides {c : SessCtx} {io : SessIo} (now : UInt32)
    (short : c.s.up.data.length ≤ upSz)
    (memory : MemoryAvailable io c.shared) :
    Decides io now c (headDecision c.s.tls c.s.origIp c.s.up.data)
      (headReady io now c) := by
  obtain ⟨out, os, allocated⟩ := memory
  unfold headReady headDecision
  dsimp only
  split
  · split
    · exact Decides.waits
    · split
      · exact Decides.waits
      · exact Decides.proceeds _ _ c.shared.os
  · cases found : findCrlf2 c.s.up.data with
    | none =>
        dsimp only
        split
        · exact Decides.fails _ c.shared.os
        · exact Decides.waits
    | some e =>
        dsimp only
        have sameIp : (c.withOs os).s.origIp = c.s.origIp := rfl
        rw [allocated]
        dsimp only
        rw [sameIp, httpRewrite_room c.s.origIp found short]
        cases httpRewrite (c.s.up.data.take (e + 4)) c.s.origIp upCap hostSz
        with
        | none =>
            exact Decides.fails _ (os.free (some out))
        | some result =>
            obtain ⟨head, host⟩ := result
            exact Decides.proceeds _ _ (os.free (some out))

/-! ## Runs of one session -/

/-- A service call of one session, with the statics it finds: other sessions
and other tasks have run since the last call. -/
structure ServiceCall where
  io : SessIo
  rd : Int → Bool
  wr : Int → Bool
  now : UInt32
  shared : Shared

namespace SessCtx

/-- `if (sess[i].used) sess_service(...)`. -/
def serve (c : SessCtx) (call : ServiceCall) : SessCtx :=
  if c.s.used then
    sessService call.io call.rd call.wr call.now { c with shared := call.shared }
  else
    c

def InHead (c : SessCtx) : Prop := c.s.used = true ∧ c.s.st = .head

/-- In `S_HEAD` the phone sends, or has nothing to read yet, and there is
memory. -/
def KeepsSending (c : SessCtx) (call : ServiceCall) : Prop :=
  c.InHead →
    call.io.recvPh ≠ .failed ∧ call.io.recvPh ≠ .bytes [] ∧
      MemoryAvailable call.io call.shared

end SessCtx

open SessCtx

/-- A session that `do_accept` has just started, on a phone that sends the
stream until the session leaves `S_HEAD`. -/
structure Receives (tls : Bool) (origIp : UInt32) (stream : List UInt8)
    (start : SessCtx) (calls : List ServiceCall) : Prop where
  accepted :
    ∃ conn pport mem now,
      start.s = newSess tls conn pport origIp mem now ∧
        start.tr = [.accepted tls origIp]
  sends : Along serve KeepsSending start calls
  received :
    ∀ earlier, earlier <+: calls →
      phIn (run serve start earlier).tr <+: stream
  left : ¬ (run serve start calls).InHead

def headFailures : List String :=
  ["request head too large", "can't parse the request"]

inductive HeadOutcome where
  | fails (why : String)
  /-- with everything the proxy gets -/
  | proceeds (host forwarded : List UInt8)
deriving DecidableEq, Repr

/-- What a run makes of a request.  A call that finds the session in `S_HEAD`
closes it, and nothing goes to the proxy; or that call starts to connect, with
the host and the buffer that `head_ready` made of the bytes it had, and what
goes to the proxy is what is forwarded, in order and without loss. -/
inductive Follows (stream : List UInt8) (start : SessCtx)
    (calls : List ServiceCall) : HeadOutcome → Prop
  | fails (why : String) (isFailure : why ∈ headFailures)
      (earlier : List ServiceCall) (call : ServiceCall)
      (rest : List ServiceCall) (split : calls = earlier ++ call :: rest)
      (inHead : (run serve start earlier).InHead) (before : SessCtx)
      (failed :
        (run serve start earlier).serve call = sessFail call.io why before)
      (silent : pxOut (run serve start calls).tr = []) :
      Follows stream start calls (.fails why)
  | proceeds (host forwarded : List UInt8)
      (earlier : List ServiceCall) (call : ServiceCall)
      (rest : List ServiceCall) (split : calls = earlier ++ call :: rest)
      (inHead : (run serve start earlier).InHead) (before : SessCtx)
      (connects :
        (run serve start earlier).serve call =
          startConnect call.io call.now before)
      (decided :
        headDecision before.s.tls before.s.origIp (phIn before.tr) =
          .proceeds host before.s.up.data)
      (named : before.s.host = host)
      (owes :
        preface before.s.tls host ++ before.s.up.data ++
            stream.drop (phIn before.tr).length =
          forwarded)
      (inOrder : pxOut (run serve start calls).tr <+: forwarded)
      (noLoss :
        (run serve start calls).s.used = true →
          (run serve start calls).s.st = .splice →
            pxOut (run serve start calls).tr ++
                (run serve start calls).s.up.pending ++
                stream.drop (phIn (run serve start calls).tr).length =
              forwarded) :
      Follows stream start calls (.proceeds host forwarded)

/-! ### While the session reads its request -/

/-- A session that is still reading its request, with what it has read. -/
structure Reading (tls : Bool) (origIp : UInt32) (c : SessCtx) : Prop where
  isUsed : c.s.used = true
  isHead : c.s.st = .head
  sameTls : c.s.tls = tls
  sameIp : c.s.origIp = origIp
  stage : HeadStage c.s c.tr
  eofs : EofsNoted c.s c.tr
  waits : headDecision tls origIp c.s.up.data = .waits

/-- The context in which `head_ready` finds the bytes `b`. -/
def SessCtx.receive (c : SessCtx) (shared : Shared) (b : List UInt8) :
    SessCtx :=
  { s := { c.s with up := ⟨c.s.up.data ++ b, c.s.up.off⟩ }
    shared := shared
    tr := c.tr ++ [.phRecv b] }

theorem Reading.outcome {tls : Bool} {origIp : UInt32} {c : SessCtx}
    (reading : Reading tls origIp c) {call : ServiceCall}
    (sends : c.KeepsSending call) :
    (∃ shared, c.serve call = { c with shared := shared }) ∨
      ∃ b,
        (c.receive call.shared b).s.up.data.length ≤ upSz ∧
          c.serve call =
            headReady call.io call.now (c.receive call.shared b) := by
  obtain ⟨notFailed, notEnd, _⟩ := sends ⟨reading.isUsed, reading.isHead⟩
  have room : c.s.up.data.length < upSz := by
    apply waits_length
    exact reading.waits
  rw [SessCtx.serve, if_pos reading.isUsed]
  unfold sessService
  split
  · split
    · generalize answer : call.io.recvPh = received at notFailed notEnd
      cases received with
      | failed =>
          exact absurd rfl notFailed
      | again =>
          exact Or.inl ⟨call.shared, rfl⟩
      | bytes b =>
          right
          have some : b.take (upSz - c.s.up.data.length) ≠ [] := by
            intro nothing
            rw [List.take_eq_nil_iff] at nothing
            rcases nothing with full | empty
            · omega
            · exact notEnd (congrArg RecvRes.bytes empty)
          refine ⟨b.take (upSz - c.s.up.data.length), ?_, ?_⟩
          · have taken := List.length_take_le (upSz - c.s.up.data.length) b
            simp only [SessCtx.receive, List.length_append]
            omega
          · simp only [RecvRes.upTo]
            rw [if_neg some]
            rfl
    · exact Or.inl ⟨call.shared, rfl⟩
  · next other =>
    exact absurd (other.symm.trans reading.isHead) SessState.noConfusion
  · next other =>
    exact absurd (other.symm.trans reading.isHead) SessState.noConfusion
  · next other =>
    exact absurd (other.symm.trans reading.isHead) SessState.noConfusion

/-- Bytes that do not decide keep the session reading. -/
theorem Reading.stays {tls : Bool} {origIp : UInt32} {c : SessCtx}
    (reading : Reading tls origIp c) (shared : Shared) {b : List UInt8}
    (waits :
      headDecision tls origIp (c.receive shared b).s.up.data = .waits) :
    Reading tls origIp (c.receive shared b) := by
  have noted := reading.eofs.append [.phRecv b]
  exact
    ⟨reading.isUsed, reading.isHead, reading.sameTls, reading.sameIp,
      reading.stage.phRecv b, ⟨noted.phEof, noted.pxEof⟩, waits⟩

/-- What `head_ready` leaves to `start_connect` fits the session's record. -/
theorem HeadStage.connects {s : Sess} {tr : List IoEvent}
    (stage : HeadStage s tr) {host up : List UInt8}
    (decided : headDecision s.tls s.origIp s.up.data = .proceeds host up) :
    ConnectStage { s with up := ⟨up, s.up.off⟩, host := host } tr := by
  rw [stage.up] at decided
  unfold headDecision at decided
  split at decided
  · next isTls =>
    split at decided
    · cases decided
    · split at decided
      · cases decided
      · cases decided
        refine ⟨?_, stage.quiet, ?_, ?_, stage.down⟩
        · exact stage.recorded fun _ => ⟨phIn tr, List.prefix_rfl, rfl⟩
        · intro more
          simp [upstream, isTls]
        · simp [preface, upstream, isTls]
  · next notTls =>
    have isHttp : s.tls = false := Bool.eq_false_iff.mpr notTls
    split at decided
    · split at decided
      · cases decided
      · cases decided
    · next e found =>
      split at decided
      · cases decided
      · next head host' rewritten =>
        cases decided
        have owed := httpUpstream_eq found le_rfl rewritten
        have passes := httpUpstream_passesOn found le_rfl rewritten
        refine ⟨?_, stage.quiet, ?_, ?_, stage.down⟩
        · exact stage.recorded fun isTls => absurd isTls notTls
        · intro more
          simpa [upstream, isHttp] using passes more
        · simpa [preface, upstream, isHttp] using owed.symm

theorem headDecision_fails {tls : Bool} {origIp : UInt32} {up : List UInt8}
    {why : String} (decided : headDecision tls origIp up = .fails why) :
    why ∈ headFailures := by
  unfold headDecision at decided
  split at decided
  · split at decided
    · cases decided
    · split at decided
      · cases decided
      · cases decided
  · split at decided
    · split at decided
      · cases decided
        simp [headFailures]
      · cases decided
    · split at decided
      · cases decided
        simp [headFailures]
      · cases decided

/-! ### After the decision -/

theorem onConnected_phIn (io : SessIo) (now : UInt32) (c : SessCtx) :
    phIn (onConnected io now c).tr = phIn c.tr := by
  unfold onConnected
  split
  · dsimp only
    split
    · simp [sessFail, sessClose]
    · split
      · simp [sessFail, sessClose, SessCtx.log, phIn]
      · simp [SessCtx.withSess, SessCtx.log]
  · rfl

theorem startConnect_phIn (io : SessIo) (now : UInt32) (c : SessCtx) :
    phIn (startConnect io now c).tr = phIn c.tr := by
  unfold startConnect
  dsimp only
  split
  · simp [sessFail, sessClose, SessCtx.withResolver]
  · split
    · simp [sessFail, sessClose, SessCtx.withResolver, SessCtx.withSess,
        SessCtx.withOs]
    · split
      · exact onConnected_phIn io now _
      · rfl
      · simp [sessFail, sessClose, SessCtx.withResolver, SessCtx.withSess,
          SessCtx.withOs]

/-- A run that has taken its session out of `S_HEAD` on the bytes `seen`. -/
inductive Settled (tls : Bool) (origIp : UInt32) (start : SessCtx)
    (calls : List ServiceCall) (seen : List UInt8) : Prop
  | failed (why : String)
      (decided : headDecision tls origIp seen = .fails why)
      (earlier : List ServiceCall) (call : ServiceCall)
      (rest : List ServiceCall) (split : calls = earlier ++ call :: rest)
      (inHead : (run serve start earlier).InHead) (before : SessCtx)
      (failed :
        (run serve start earlier).serve call = sessFail call.io why before)
      (sameBytes : phIn before.tr = seen)
      (ended : (run serve start calls).s.used = false)
      (silent : pxOut (run serve start calls).tr = [])
  | connected (host up : List UInt8)
      (decided : headDecision tls origIp seen = .proceeds host up)
      (earlier : List ServiceCall) (call : ServiceCall)
      (rest : List ServiceCall) (split : calls = earlier ++ call :: rest)
      (inHead : (run serve start earlier).InHead) (before : SessCtx)
      (connects :
        (run serve start earlier).serve call =
          startConnect call.io call.now before)
      (sameTls : before.s.tls = tls) (sameIp : before.s.origIp = origIp)
      (named : before.s.host = host) (buffered : before.s.up.data = up)
      (sameBytes : phIn before.tr = seen)
      (owes : preface tls host ++ up = upstream tls origIp host seen)
      (passesOn : PassesOn (upstream tls origIp host) seen)
      (leaves : Leaves tls origIp host (run serve start calls))

theorem serve_of_not_used {c : SessCtx} (ended : c.s.used = false)
    (call : ServiceCall) : c.serve call = c := by
  rw [serve, ended]
  exact if_neg Bool.false_ne_true

theorem Leaves.served {tls : Bool} {origIp : UInt32} {host : List UInt8}
    {c : SessCtx} (leaves : Leaves tls origIp host c) (call : ServiceCall) :
    Leaves tls origIp host (c.serve call) := by
  cases leaves with
  | finished ended recorded =>
      rw [serve_of_not_used ended]
      exact Leaves.finished ended recorded
  | goesOn sameTls sameIp sameHost past coupled =>
      rw [SessCtx.serve]
      split
      · exact
          Leaves.congr
            (sessService_leaves (c := { c with shared := call.shared }) call.io
              call.rd call.wr call.now coupled past)
            sameTls sameIp sameHost
      · exact Leaves.goesOn sameTls sameIp sameHost past coupled

theorem Settled.snoc {tls : Bool} {origIp : UInt32} {start : SessCtx}
    {calls : List ServiceCall} {seen : List UInt8}
    (settled : Settled tls origIp start calls seen) (next : ServiceCall) :
    Settled tls origIp start (calls ++ [next]) seen := by
  cases settled with
  | failed why decided earlier call rest split inHead before failed sameBytes
      ended silent =>
      have same : run serve start (calls ++ [next]) = run serve start calls := by
        rw [run_snoc, serve_of_not_used ended]
      exact
        Settled.failed why decided earlier call (rest ++ [next])
          (by rw [split, List.append_assoc, List.cons_append]) inHead before
          failed sameBytes (by rw [same]; exact ended)
          (by rw [same]; exact silent)
  | connected host up decided earlier call rest split inHead before connects
      sameTls sameIp named buffered sameBytes owes passesOn leaves =>
      exact
        Settled.connected host up decided earlier call (rest ++ [next])
          (by rw [split, List.append_assoc, List.cons_append]) inHead before
          connects sameTls sameIp named buffered sameBytes owes passesOn
          (by rw [run_snoc]; exact leaves.served next)

/-- The next call leaves the session reading, or settles the run. -/
theorem Reading.next {tls : Bool} {origIp : UInt32} {start : SessCtx}
    {calls : List ServiceCall}
    (reading : Reading tls origIp (run serve start calls))
    {call : ServiceCall} (sends : (run serve start calls).KeepsSending call) :
    Reading tls origIp (run serve start (calls ++ [call])) ∨
      ∃ seen,
        seen.length ≤ upSz ∧
          Settled tls origIp start (calls ++ [call]) seen := by
  have inHead : (run serve start calls).InHead :=
    ⟨reading.isUsed, reading.isHead⟩
  have memory := (sends inHead).2.2
  rw [run_snoc]
  rcases reading.outcome sends with ⟨shared, same⟩ | ⟨b, short, received⟩
  · left
    rw [same]
    exact
      ⟨reading.isUsed, reading.isHead, reading.sameTls, reading.sameIp,
        reading.stage, reading.eofs, reading.waits⟩
  · generalize found : (run serve start calls).receive call.shared b = c
      at short received
    have stage : HeadStage c.s c.tr := by
      rw [← found]
      exact reading.stage.phRecv b
    have eofs : EofsNoted c.s c.tr := by
      have noted := reading.eofs.append [.phRecv b]
      rw [← found]
      exact ⟨noted.phEof, noted.pxEof⟩
    have sameTls : c.s.tls = tls := by
      rw [← found]
      exact reading.sameTls
    have sameIp : c.s.origIp = origIp := by
      rw [← found]
      exact reading.sameIp
    have available : MemoryAvailable call.io c.shared := by
      rw [← found]
      exact memory
    have decides := headReady_decides call.now short available
    rw [← received] at decides
    generalize decision :
      headDecision c.s.tls c.s.origIp c.s.up.data = made at decides
    have decided := decision
    rw [sameTls, sameIp] at decided
    generalize served : (run serve start calls).serve call = after at decides
    cases decides with
    | waits =>
        left
        rw [← found] at decided ⊢
        exact reading.stays call.shared decided
    | fails why os =>
        right
        refine ⟨c.s.up.data, short, ?_⟩
        have final :
            run serve start (calls ++ [call]) =
              sessFail call.io why (c.withOs os) := by
          rw [run_snoc, served]
        apply
          Settled.failed why decided calls call [] rfl inHead (c.withOs os)
            served stage.up.symm
        · rw [final]
          rfl
        · rw [final]
          simp [sessFail, sessClose, SessCtx.withOs, stage.quiet.pxOut]
    | proceeds host up os =>
        right
        refine ⟨c.s.up.data, short, ?_⟩
        have connects := stage.connects decision
        have leaves := startConnect_leaves (c := (c.withSess
            { c.s with up := ⟨up, c.s.up.off⟩, host := host }).withOs os)
          call.io call.now connects ⟨eofs.phEof, eofs.pxEof⟩
        apply
          Settled.connected host up decided calls call [] rfl inHead
            ((c.withSess
              { c.s with up := ⟨up, c.s.up.off⟩, host := host }).withOs os)
            served sameTls sameIp rfl rfl stage.up.symm
        · rw [← sameTls, ← sameIp, stage.up]
          exact connects.up
        · rw [← sameTls, ← sameIp, stage.up]
          exact connects.passesOn
        · rw [run_snoc, served]
          exact Leaves.congr leaves sameTls sameIp rfl

/-- At the end of every run the session still reads its request, or the run is
settled. -/
theorem run_reads {tls : Bool} {origIp : UInt32} {start : SessCtx}
    (accepted :
      ∃ conn pport mem now,
        start.s = newSess tls conn pport origIp mem now ∧
          start.tr = [.accepted tls origIp])
    {calls : List ServiceCall} (sends : Along serve KeepsSending start calls) :
    Reading tls origIp (run serve start calls) ∨
      ∃ seen, seen.length ≤ upSz ∧ Settled tls origIp start calls seen := by
  induction calls using List.reverseRecOn with
  | nil =>
      left
      obtain ⟨conn, pport, mem, now, isNew, record⟩ := accepted
      have coupled := Relay.newSess_records tls conn pport origIp mem now
      rw [← isNew, ← record] at coupled
      have isHead : start.s.st = .head := by rw [isNew]; rfl
      have stage := coupled.stage
      rw [Stage, isHead] at stage
      refine ⟨?_, isHead, ?_, ?_, stage, coupled.eofs, ?_⟩
      · rw [run_nil, isNew]
        rfl
      · rw [run_nil, isNew]
        rfl
      · rw [run_nil, isNew]
        rfl
      · rw [run_nil, isNew]
        cases tls with
        | true =>
            rfl
        | false =>
            rfl
  | append_singleton calls call inductionHypothesis =>
      rw [along_append] at sends
      rcases inductionHypothesis sends.1 with reading | ⟨seen, short, settled⟩
      · exact reading.next sends.2.1
      · exact Or.inr ⟨seen, short, settled.snoc call⟩

/-! ## The outcome is a function of the stream -/

theorem httpUpstream_mono (origIp : UInt32) {sent more : List UInt8}
    (before : sent <+: more) :
    httpUpstream origIp sent <+: httpUpstream origIp more := by
  obtain ⟨rest, rfl⟩ := before
  cases found : findCrlf2 sent with
  | none =>
      have nothing : httpUpstream origIp sent = [] := by
        rw [httpUpstream, found]
      rw [nothing]
      exact List.nil_prefix
  | some e =>
      cases rewritten :
          httpRewrite (sent.take (e + 4)) origIp upCap hostSz with
      | none =>
          have nothing : httpUpstream origIp sent = [] := by
            rw [httpUpstream, found]
            dsimp only
            rw [rewritten]
          rw [nothing]
          exact List.nil_prefix
      | some result =>
          rw [httpUpstream_passesOn found le_rfl rewritten rest]
          exact List.prefix_append _ _

theorem upstream_mono (tls : Bool) (origIp : UInt32) (host : List UInt8)
    {sent more : List UInt8} (before : sent <+: more) :
    upstream tls origIp host sent <+: upstream tls origIp host more := by
  unfold upstream
  split
  · exact (List.prefix_append_right_inj _).mpr before
  · exact httpUpstream_mono origIp before

theorem owed_at_stream {owed : List UInt8 → List UInt8}
    {seen stream : List UInt8} (passesOn : PassesOn owed seen)
    (before : seen <+: stream) :
    owed seen ++ stream.drop seen.length = owed stream := by
  obtain ⟨rest, rfl⟩ := before
  rw [List.drop_left, passesOn rest]

/-- What becomes of a connection that carries the stream. -/
def streamOutcome (tls : Bool) (origIp : UInt32) (stream : List UInt8) :
    Option HeadOutcome :=
  match streamDecision tls origIp stream with
  | .waits => none
  | .fails why => some (.fails why)
  | .proceeds host up =>
    some (.proceeds host (preface tls host ++ up ++ stream.drop upSz))

theorem drop_take_append_drop (stream : List UInt8) {seen size : Nat}
    (short : seen ≤ size) :
    (stream.take size).drop seen ++ stream.drop size = stream.drop seen := by
  have rest : stream.drop size = (stream.drop seen).drop (size - seen) := by
    rw [List.drop_drop, Nat.add_sub_cancel' short]
  rw [List.drop_take, rest, List.take_append_drop]

theorem Coupled.recorded_of_past {s : Sess} {tr : List IoEvent}
    (coupled : Coupled s tr) (past : s.st ≠ .head) :
    Recorded s.tls s.origIp s.host tr := by
  have stage := coupled.stage
  unfold Stage at stage
  split at stage
  · next isHead => exact absurd isHead past
  · exact stage.recorded
  · exact stage.recorded
  · exact stage.recorded

/-- Every run on a stream has the outcome that the stream alone decides. -/
theorem run_follows {tls : Bool} {origIp : UInt32} {stream : List UInt8}
    {start : SessCtx} {calls : List ServiceCall}
    (receives : Receives tls origIp stream start calls) :
    ∃ outcome,
      streamOutcome tls origIp stream = some outcome ∧
        Follows stream start calls outcome := by
  obtain ⟨accepted, sends, received, left⟩ := receives
  rcases run_reads accepted sends with reading | ⟨seen, short, settled⟩
  · exact absurd ⟨reading.isUsed, reading.isHead⟩ left
  have final := received calls List.prefix_rfl
  have seenIn {earlier : List ServiceCall} {call : ServiceCall}
      {rest : List ServiceCall} (split : calls = earlier ++ call :: rest)
      (sameBytes :
        phIn ((run serve start earlier).serve call).tr = seen) :
      seen <+: stream := by
    have upTo : earlier ++ [call] <+: calls := by
      rw [split]
      exact ⟨rest, by rw [List.append_assoc, List.singleton_append]⟩
    have initial := received _ upTo
    rw [run_snoc, sameBytes] at initial
    exact initial
  cases settled with
  | failed why decided earlier call rest split inHead before failed sameBytes
      ended silent =>
      have initial : seen <+: stream := by
        apply seenIn split
        rw [failed, ← sameBytes]
        simp [sessFail, sessClose]
      refine ⟨.fails why, ?_, ?_⟩
      · rw [streamOutcome, streamDecision_eq (by rw [decided]; simp) short
          initial, decided]
        rfl
      · exact
          Follows.fails why (headDecision_fails decided) earlier call rest split
            inHead before failed silent
  | connected host up decided earlier call rest split inHead before connects
      sameTls sameIp named buffered sameBytes owes passesOn leaves =>
      have initial : seen <+: stream := by
        apply seenIn split
        rw [connects, startConnect_phIn, sameBytes]
      have forwarded :
          preface tls host ++ up ++ stream.drop seen.length =
            upstream tls origIp host stream := by
        rw [owes, owed_at_stream passesOn initial]
      refine
        ⟨.proceeds host (preface tls host ++ up ++ stream.drop seen.length),
          ?_, ?_⟩
      · rw [streamOutcome, streamDecision_eq (by rw [decided]; simp) short
          initial, decided]
        simp only [HeadDecision.followedBy]
        rw [← drop_take_append_drop stream short]
        simp only [List.append_assoc]
      · refine
          Follows.proceeds host _ earlier call rest split inHead before connects
            ?_ named ?_ ?_ ?_
        · rw [sameTls, sameIp, sameBytes, buffered, decided]
        · rw [sameTls, buffered, sameBytes]
        · rw [forwarded]
          cases leaves with
          | finished _ recorded =>
              exact
                recorded.faithful.now.up.trans
                  (upstream_mono tls origIp host final)
          | goesOn sameTls sameIp sameHost past coupled =>
              have recorded := coupled.recorded_of_past past
              rw [sameTls, sameIp, sameHost] at recorded
              exact
                recorded.faithful.now.up.trans
                  (upstream_mono tls origIp host final)
        · intro isUsed isSplice
          rw [forwarded]
          cases leaves with
          | finished ended _ =>
              rw [ended] at isUsed
              cases isUsed
          | goesOn sameTls sameIp sameHost past coupled =>
              have stage := coupled.stage
              rw [Stage, isSplice] at stage
              have carries := stage.up
              rw [sameTls, sameIp, sameHost] at carries
              rw [carries.balance, owed_at_stream carries.passesOn final]

/-- Two connections that carry one stream, whatever the pieces it arrives in,
have one outcome: both are refused, or both go on to the proxy with the same
host and forward the same bytes. -/
theorem splits_agree {tls : Bool} {origIp : UInt32} {stream : List UInt8}
    {start start' : SessCtx} {calls calls' : List ServiceCall}
    (first : Receives tls origIp stream start calls)
    (second : Receives tls origIp stream start' calls') :
    ∃ outcome,
      Follows stream start calls outcome ∧
        Follows stream start' calls' outcome := by
  obtain ⟨outcome, decided, follows⟩ := run_follows first
  obtain ⟨outcome', decided', follows'⟩ := run_follows second
  have same : outcome = outcome' := by
    rw [decided] at decided'
    exact Option.some.inj decided'
  exact ⟨outcome, follows, same ▸ follows'⟩

/-! ### One request, whole and in two pieces -/

/-- The statics when a proxy is set. -/
def sharedWithProxy : Shared :=
  { activeSessions := 1
    resolver := ⟨[], 0, false⟩
    os := ⟨fun _ => false, fun _ => false, 0⟩
    rd :=
      (Redirector.boot ⟨some 1, some [112], some 3130⟩).step
        (.proxyInit true) }

/-- A call that gets these bytes, and may start to connect. -/
def receiveCall (b : List UInt8) : ServiceCall :=
  { io :=
      { recvPh := .bytes b, recvPx := .again, sendPh := .again
        sendPx := .again, sendConnect := .again, soError := false, socket := 4
        connect := .inProgress, pton := some 1, addrInfo := none
        outMem := some 7, meanwhile := [], closeMs := 0 }
    rd := fun _ => true
    wr := fun _ => false
    now := 0
    shared := sharedWithProxy }

def newHttp : SessCtx :=
  ⟨newSess false 3 5001 1 6 0, sharedWithProxy, [.accepted false 1]⟩

theorem receiveCall_sends (c : SessCtx) {b : List UInt8} (some : b ≠ []) :
    c.KeepsSending (receiveCall b) := by
  intro _
  refine ⟨RecvRes.noConfusion, ?_, 7, _, rfl⟩
  intro empty
  injection empty with nothing
  exact some nothing

theorem newHttp_receives_whole :
    Receives false 1 (ascii "G /a H\r\n\r\n") newHttp
      [receiveCall (ascii "G /a H\r\n\r\n")] := by
  refine ⟨⟨3, 5001, 6, 0, rfl, rfl⟩, ?_, ?_, ?_⟩
  · exact ⟨receiveCall_sends _ (by decide), trivial⟩
  · intro earlier before
    rcases List.prefix_cons_iff.mp before with rfl | ⟨rest, rfl, nothing⟩
    · exact List.nil_prefix
    · rw [List.prefix_nil.mp nothing]
      decide
  · rintro ⟨_, isHead⟩
    revert isHead
    decide

theorem newHttp_receives_pieces :
    Receives false 1 (ascii "G /a H\r\n\r\n") newHttp
      [receiveCall (ascii "G /a "), receiveCall (ascii "H\r\n\r\n")] := by
  refine ⟨⟨3, 5001, 6, 0, rfl, rfl⟩, ?_, ?_, ?_⟩
  · exact
      ⟨receiveCall_sends _ (by decide), receiveCall_sends _ (by decide),
        trivial⟩
  · intro earlier before
    rcases List.prefix_cons_iff.mp before with rfl | ⟨rest, rfl, second⟩
    · exact List.nil_prefix
    rcases List.prefix_cons_iff.mp second with rfl | ⟨rest, rfl, nothing⟩
    · decide
    · rw [List.prefix_nil.mp nothing]
      decide
  · rintro ⟨_, isHead⟩
    revert isHead
    decide

theorem splits_agree_pieces :
    ∃ outcome,
      Follows (ascii "G /a H\r\n\r\n") newHttp
          [receiveCall (ascii "G /a H\r\n\r\n")] outcome ∧
        Follows (ascii "G /a H\r\n\r\n") newHttp
          [receiveCall (ascii "G /a "), receiveCall (ascii "H\r\n\r\n")]
          outcome :=
  splits_agree newHttp_receives_whole newHttp_receives_pieces

end VeteraBridge.Proxy
