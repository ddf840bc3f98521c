import VeteraBridge.Lib.CopyStream
import VeteraBridge.Proxy.RelayTask

/-!
# What a session passes on

The bytes a session writes, read off the record of its sockets.  What it owes
the proxy is a function of what the phone sent: the rewritten head and the rest
for HTTP, the CONNECT request and everything for HTTPS.  What it owes the phone
is what the proxy sent, for HTTPS after the reply to CONNECT.  At every moment
each side has got a prefix of what it is owed.
-/

namespace VeteraBridge.Proxy

open CopyBuffer EventRun

/-! ## The record of a session's sockets -/

namespace IoEvent

@[simp]
def fromPhone : IoEvent → List UInt8
  | .phRecv b => b
  | _ => []

@[simp]
def toPhone : IoEvent → List UInt8
  | .phSend b => b
  | _ => []

@[simp]
def fromProxy : IoEvent → List UInt8
  | .pxRecv b => b
  | _ => []

@[simp]
def toProxy : IoEvent → List UInt8
  | .pxSend b => b
  | _ => []

end IoEvent

/-- What came from the phone. -/
def phIn (tr : List IoEvent) : List UInt8 :=
  tr.flatMap IoEvent.fromPhone

/-- What went to the phone. -/
def phOut (tr : List IoEvent) : List UInt8 :=
  tr.flatMap IoEvent.toPhone

/-- What came from the proxy. -/
def pxIn (tr : List IoEvent) : List UInt8 :=
  tr.flatMap IoEvent.fromProxy

/-- What went to the proxy. -/
def pxOut (tr : List IoEvent) : List UInt8 :=
  tr.flatMap IoEvent.toProxy

section Append

variable (front back : List IoEvent)

@[simp]
theorem phIn_append : phIn (front ++ back) = phIn front ++ phIn back :=
  List.flatMap_append

@[simp]
theorem phOut_append : phOut (front ++ back) = phOut front ++ phOut back :=
  List.flatMap_append

@[simp]
theorem pxIn_append : pxIn (front ++ back) = pxIn front ++ pxIn back :=
  List.flatMap_append

@[simp]
theorem pxOut_append : pxOut (front ++ back) = pxOut front ++ pxOut back :=
  List.flatMap_append

variable (event : IoEvent)

@[simp]
theorem phIn_singleton : phIn [event] = event.fromPhone :=
  List.flatMap_singleton _ _

@[simp]
theorem phOut_singleton : phOut [event] = event.toPhone :=
  List.flatMap_singleton _ _

@[simp]
theorem pxIn_singleton : pxIn [event] = event.fromProxy :=
  List.flatMap_singleton _ _

@[simp]
theorem pxOut_singleton : pxOut [event] = event.toProxy :=
  List.flatMap_singleton _ _

end Append

/-! ## What is owed -/

/-- The rewritten head and what the phone sent after its head.  The result of
`http_rewrite` does not depend on the room it is given, as long as it fits. -/
def httpUpstream (origIp : UInt32) (sent : List UInt8) : List UInt8 :=
  match findCrlf2 sent with
  | none => []
  | some e =>
    match httpRewrite (sent.take (e + 4)) origIp upCap hostSz with
    | none => []
    | some (head, _) => head ++ sent.drop (e + 4)

/-- What the proxy is owed for what the phone sent. -/
def upstream (tls : Bool) (origIp : UInt32) (host sent : List UInt8) :
    List UInt8 :=
  if tls then connectRequest host ++ sent else httpUpstream origIp sent

def afterReply (sent : List UInt8) : List UInt8 :=
  match findCrlf2 sent with
  | none => []
  | some e => sent.drop (e + 4)

/-- What the phone is owed for what the proxy sent. -/
def downstream (tls : Bool) (sent : List UInt8) : List UInt8 :=
  if tls then afterReply sent else sent

theorem drop_append_of_found {sent : List UInt8} {e : Nat}
    (found : findCrlf2 sent = some e) (more : List UInt8) :
    (sent ++ more).drop (e + 4) = sent.drop (e + 4) ++ more :=
  List.drop_append_of_le_length (findCrlf2_le found)

theorem afterReply_passesOn {sent : List UInt8} {e : Nat}
    (found : findCrlf2 sent = some e) : PassesOn afterReply sent := by
  intro more
  simp only [afterReply, findCrlf2_append more found, found]
  exact drop_append_of_found found more

theorem httpUpstream_eq {origIp : UInt32} {sent : List UInt8} {e cap : Nat}
    {head host : List UInt8} (found : findCrlf2 sent = some e)
    (fits : cap ≤ upCap)
    (rewritten :
      httpRewrite (sent.take (e + 4)) origIp cap hostSz = some (head, host)) :
    httpUpstream origIp sent = head ++ sent.drop (e + 4) := by
  simp only [httpUpstream, found, httpRewrite_mono fits rewritten]

theorem httpUpstream_passesOn {origIp : UInt32} {sent : List UInt8}
    {e cap : Nat} {head host : List UInt8} (found : findCrlf2 sent = some e)
    (fits : cap ≤ upCap)
    (rewritten :
      httpRewrite (sent.take (e + 4)) origIp cap hostSz = some (head, host)) :
    PassesOn (httpUpstream origIp) sent := by
  intro more
  have sameHead : (sent ++ more).take (e + 4) = sent.take (e + 4) :=
    List.take_append_of_le_length (findCrlf2_le found)
  rw [httpUpstream_eq found fits rewritten,
    httpUpstream_eq (findCrlf2_append more found) fits
      (by rw [sameHead]; exact rewritten),
    drop_append_of_found found more, List.append_assoc]

/-! ## Faithful histories -/

/-- What holds of a session's record at a moment: what was written is a prefix
of what was owed; the phone's end of stream was passed on, if that was the last
thing done, after everything the phone sent; and the session is done, if it
just was closed so, when the phone has got everything. -/
structure Faithful (tls : Bool) (origIp : UInt32) (host : List UInt8)
    (tr : List IoEvent) : Prop where
  up : pxOut tr <+: upstream tls origIp host (phIn tr)
  down : phOut tr <+: downstream tls (pxIn tr)
  shut :
    ∀ front, tr = front ++ [.pxShut] →
      .phEof ∈ front ∧
        pxOut front = upstream tls origIp host (phIn front)
  done :
    ∀ front, tr = front ++ [.closed "done"] →
      .pxEof ∈ front ∧ phOut front = downstream tls (pxIn front)

/-- A session's record: it starts with the accept, the host of an HTTPS session
comes from the phone's bytes, and the record is faithful at all times. -/
structure Recorded (tls : Bool) (origIp : UInt32) (host : List UInt8)
    (tr : List IoEvent) : Prop where
  accepted : tr.head? = some (.accepted tls origIp)
  named :
    tls = true → ∃ seen, seen <+: phIn tr ∧ host = tlsHost origIp seen
  faithful : AtAllTimes (Faithful tls origIp host) tr

section Events

variable {tls : Bool} {origIp : UInt32} {host : List UInt8}
  {tr : List IoEvent}

def Plain (event : IoEvent) : Prop :=
  event ≠ .pxShut ∧ event ≠ .closed "done"

theorem Faithful.snoc {event : IoEvent}
    (up :
      pxOut (tr ++ [event]) <+:
        upstream tls origIp host (phIn (tr ++ [event])))
    (down : phOut (tr ++ [event]) <+: downstream tls (pxIn (tr ++ [event])))
    (shut :
      event = .pxShut →
        .phEof ∈ tr ∧ pxOut tr = upstream tls origIp host (phIn tr))
    (done :
      event = .closed "done" →
        .pxEof ∈ tr ∧ phOut tr = downstream tls (pxIn tr)) :
    Faithful tls origIp host (tr ++ [event]) := by
  refine ⟨up, down, ?_, ?_⟩
  · intro front same
    obtain ⟨rfl, last⟩ := List.append_inj' same rfl
    exact shut (List.singleton_inj.mp last)
  · intro front same
    obtain ⟨rfl, last⟩ := List.append_inj' same rfl
    exact done (List.singleton_inj.mp last)

theorem head?_snoc {first event : IoEvent} (accepted : tr.head? = some first) :
    (tr ++ [event]).head? = some first := by
  rw [List.head?_append, accepted]
  rfl

theorem Recorded.snoc (recorded : Recorded tls origIp host tr)
    {event : IoEvent}
    (next : Faithful tls origIp host (tr ++ [event])) :
    Recorded tls origIp host (tr ++ [event]) := by
  refine
    ⟨head?_snoc recorded.accepted, ?_, recorded.faithful.snoc next⟩
  intro isTls
  obtain ⟨seen, before, named⟩ := recorded.named isTls
  refine ⟨seen, before.trans ?_, named⟩
  rw [phIn_append]
  exact List.prefix_append _ _

/-- A plain event is recorded if what was written still is a prefix of what is
owed. -/
theorem Recorded.plain (recorded : Recorded tls origIp host tr)
    {event : IoEvent} (plain : Plain event)
    (up :
      pxOut (tr ++ [event]) <+:
        upstream tls origIp host (phIn (tr ++ [event])))
    (down :
      phOut (tr ++ [event]) <+: downstream tls (pxIn (tr ++ [event]))) :
    Recorded tls origIp host (tr ++ [event]) :=
  recorded.snoc
    (Faithful.snoc up down (fun same => absurd same plain.1)
      fun same => absurd same plain.2)

def NoBytes (event : IoEvent) : Prop :=
  phIn [event] = [] ∧ phOut [event] = [] ∧ pxIn [event] = [] ∧
    pxOut [event] = []

theorem Recorded.noBytes (recorded : Recorded tls origIp host tr)
    {event : IoEvent} (plain : Plain event) (noBytes : NoBytes event) :
    Recorded tls origIp host (tr ++ [event]) := by
  obtain ⟨noPhIn, noPhOut, noPxIn, noPxOut⟩ := noBytes
  apply recorded.plain plain
  · rw [pxOut_append, phIn_append, noPhIn, noPxOut, List.append_nil,
      List.append_nil]
    exact recorded.faithful.now.up
  · rw [phOut_append, pxIn_append, noPhOut, noPxIn, List.append_nil,
      List.append_nil]
    exact recorded.faithful.now.down

theorem plain_closed {why : String} (notDone : why ≠ "done") :
    Plain (.closed why) := by
  refine ⟨IoEvent.noConfusion, ?_⟩
  intro same
  injection same with sameWhy
  exact notDone sameWhy

theorem noBytes_closed (why : String) : NoBytes (.closed why) :=
  ⟨rfl, rfl, rfl, rfl⟩

end Events

/-! ## Sessions and their records -/

/-- Nothing has gone out, and nothing has come from the proxy. -/
structure Quiet (tr : List IoEvent) : Prop where
  pxOut : pxOut tr = []
  phOut : phOut tr = []
  pxIn : pxIn tr = []

/-- What goes to the proxy before the phone's bytes. -/
def preface (tls : Bool) (host : List UInt8) : List UInt8 :=
  if tls then connectRequest host else []

structure HeadStage (s : Sess) (tr : List IoEvent) : Prop where
  accepted : tr.head? = some (.accepted s.tls s.origIp)
  -- The host is not known yet.
  faithful : ∀ host, AtAllTimes (Faithful s.tls s.origIp host) tr
  quiet : Quiet tr
  up : s.up.data = phIn tr
  down : s.down.data = []

structure ConnectStage (s : Sess) (tr : List IoEvent) : Prop where
  recorded : Recorded s.tls s.origIp s.host tr
  quiet : Quiet tr
  passesOn : PassesOn (upstream s.tls s.origIp s.host) (phIn tr)
  up :
    preface s.tls s.host ++ s.up.data =
      upstream s.tls s.origIp s.host (phIn tr)
  down : s.down.data = []

structure ReplyStage (s : Sess) (tr : List IoEvent) : Prop where
  recorded : Recorded s.tls s.origIp s.host tr
  isTls : s.tls = true
  pxOut : pxOut tr = connectRequest s.host
  phOut : phOut tr = []
  up : s.up.data = phIn tr
  down : s.down.data = pxIn tr

structure SpliceStage (s : Sess) (tr : List IoEvent) : Prop where
  recorded : Recorded s.tls s.origIp s.host tr
  up : Carries (upstream s.tls s.origIp s.host) s.up (phIn tr) (pxOut tr)
  down : Carries (downstream s.tls) s.down (pxIn tr) (phOut tr)

def Stage (s : Sess) (tr : List IoEvent) : Prop :=
  match s.st with
  | .head => HeadStage s tr
  | .connecting => ConnectStage s tr
  | .reply => ReplyStage s tr
  | .splice => SpliceStage s tr

/-- The ends of stream a session has noted are on record. -/
structure EofsNoted (s : Sess) (tr : List IoEvent) : Prop where
  phEof : s.phEof = true → .phEof ∈ tr
  pxEof : s.pxEof = true → .pxEof ∈ tr

/-- A session's buffers fit its record. -/
structure Coupled (s : Sess) (tr : List IoEvent) : Prop where
  eofs : EofsNoted s tr
  stage : Stage s tr

/-- Where a session function leaves the record: the session is over, or its
buffers fit. -/
inductive Records (c : SessCtx) : Prop
  | finished (ended : c.s.used = false) (tls : Bool) (origIp : UInt32)
      (host : List UInt8) (recorded : Recorded tls origIp host c.tr)
  | goesOn (coupled : Coupled c.s c.tr)

theorem EofsNoted.append {s : Sess} {tr : List IoEvent}
    (eofs : EofsNoted s tr) (more : List IoEvent) :
    EofsNoted s (tr ++ more) :=
  ⟨fun noted => List.mem_append_left more (eofs.phEof noted),
    fun noted => List.mem_append_left more (eofs.pxEof noted)⟩

theorem HeadStage.recorded {s : Sess} {tr : List IoEvent}
    (stage : HeadStage s tr) {host : List UInt8}
    (named :
      s.tls = true →
        ∃ seen, seen <+: phIn tr ∧ host = tlsHost s.origIp seen) :
    Recorded s.tls s.origIp host tr :=
  ⟨stage.accepted, named, stage.faithful host⟩

/-- Before the host is known, any prefix of the phone's bytes gives a name. -/
theorem HeadStage.recorded_any {s : Sess} {tr : List IoEvent}
    (stage : HeadStage s tr) :
    Recorded s.tls s.origIp (tlsHost s.origIp []) tr :=
  stage.recorded fun _ => ⟨[], List.nil_prefix, rfl⟩

theorem Coupled.recorded {s : Sess} {tr : List IoEvent}
    (coupled : Coupled s tr) :
    ∃ host, Recorded s.tls s.origIp host tr := by
  have stage := coupled.stage
  unfold Stage at stage
  split at stage
  · exact ⟨_, stage.recorded_any⟩
  · exact ⟨_, stage.recorded⟩
  · exact ⟨_, stage.recorded⟩
  · exact ⟨_, stage.recorded⟩

end VeteraBridge.Proxy
