import Mathlib.Data.List.TakeWhile

/-!
# Proxy settings

The settings the web page writes and every other task reads, guarded by
`state_mux`, and the copy of them in NVS.  `px_ready` is recomputed by each
write: on, with a host and a port.
-/

namespace VeteraBridge.Proxy

/-- `PROXY_HOST_MAX`, including the NUL. -/
def proxyHostMax : Nat := 64

/-- The C string a buffer holds: its bytes up to the first NUL. -/
def cstr (buffer : List UInt8) : List UInt8 :=
  buffer.takeWhile (· ≠ 0)

theorem cstr_length_le (buffer : List UInt8) :
    (cstr buffer).length ≤ buffer.length :=
  (List.takeWhile_prefix _).length_le

theorem cstr_cstr (text : List UInt8) : cstr (cstr text) = cstr text :=
  List.takeWhile_idem

theorem cstr_eq_self_iff (text : List UInt8) : cstr text = text ↔ 0 ∉ text := by
  rw [cstr, List.takeWhile_eq_self_iff]
  simp only [decide_eq_true_eq]
  exact ⟨fun nonzero member => nonzero 0 member rfl,
    fun noNul c member isNul => noNul (isNul ▸ member)⟩

theorem not_mem_cstr (text : List UInt8) : 0 ∉ cstr text := by
  intro member
  simpa using List.mem_takeWhile_imp member

theorem cstr_of_nul (text rest : List UInt8) :
    cstr (text ++ 0 :: rest) = cstr text := by
  induction text with
  | nil => rfl
  | cons c text inductionHypothesis =>
      rw [cstr] at inductionHypothesis
      rw [cstr, cstr, List.cons_append, List.takeWhile_cons,
        List.takeWhile_cons, inductionHypothesis, cstr]

/-- The string `strlcpy(dst, src, size)` leaves in `dst`. -/
def strlcpy (src : List UInt8) (size : Nat) : List UInt8 :=
  (cstr src).take (size - 1)

/-- `px_on`, `px_host`, `px_port` and `px_ready`. -/
structure Settings where
  pxOn : Bool
  pxHost : List UInt8
  pxPort : UInt16
  pxReady : Bool
deriving DecidableEq, Repr

def Settings.zero : Settings := ⟨false, [], 0, false⟩

structure Nvs where
  pxOn : Option UInt8
  pxHost : Option (List UInt8)
  pxPort : Option UInt16
deriving DecidableEq, Repr

structure NvsIo where
  opened : Bool
  setOn : Bool
  setHost : Bool
  setPort : Bool
deriving DecidableEq, Repr

/-- The block both writers share: store the three values and recompute
`px_ready`. -/
def storeSettings (on : Bool) (host : List UInt8) (port : UInt16) : Settings :=
  let pxHost := strlcpy host proxyHostMax
  { pxOn := on
    pxHost := pxHost
    pxPort := port
    pxReady := on && !pxHost.isEmpty && port != 0 }

def proxyGet (s : Settings) (hostLen : Nat) : Bool × List UInt8 × UInt16 :=
  (s.pxOn, strlcpy s.pxHost hostLen, s.pxPort)

/-- `proxy_set`: the new settings, and what is left in NVS. -/
def proxySet (io : NvsIo) (on : Bool) (host : List UInt8) (port : UInt16)
    (nvs : Nvs) : Settings × Nvs :=
  let stored :=
    if io.opened then
      { pxOn := if io.setOn then some (if on then 1 else 0) else nvs.pxOn
        pxHost := if io.setHost then some (cstr host) else nvs.pxHost
        pxPort := if io.setPort then some port else nvs.pxPort }
    else
      nvs
  (storeSettings on host port, stored)

/-- `settings_load`: missing keys read as off, no host and port 0, and a host
too long for the buffer is dropped. -/
def settingsLoad (opened : Bool) (nvs : Nvs) : Settings :=
  let on := if opened then nvs.pxOn.getD 0 else 0
  let host :=
    if opened then
      match nvs.pxHost with
      | some host => if host.length < proxyHostMax then host else []
      | none => []
    else
      []
  let port := if opened then nvs.pxPort.getD 0 else 0
  storeSettings (on != 0) host port

/-- `proxy_task` giving up: the flag and the switch are cleared. -/
def Settings.giveUp (s : Settings) : Settings :=
  { s with pxReady := false, pxOn := false }

/-- A request that turns the redirect on: switched on, with a host and a
port. -/
def Enables (on : Bool) (host : List UInt8) (port : UInt16) : Prop :=
  on = true ∧ cstr host ≠ [] ∧ port ≠ 0

instance (on : Bool) (host : List UInt8) (port : UInt16) :
    Decidable (Enables on host port) :=
  inferInstanceAs (Decidable (_ ∧ _ ∧ _))

/-- Truncating the host to the buffer never makes it empty. -/
theorem strlcpy_eq_nil_iff (host : List UInt8) :
    strlcpy host proxyHostMax = [] ↔ cstr host = [] := by
  simp [strlcpy, proxyHostMax, List.take_eq_nil_iff]

theorem storeSettings_ready_iff (on : Bool) (host : List UInt8)
    (port : UInt16) :
    (storeSettings on host port).pxReady = true ↔ Enables on host port := by
  have nonempty := strlcpy_eq_nil_iff host
  simp only [storeSettings, Enables, Bool.and_eq_true, Bool.not_eq_true',
    bne_iff_ne, and_assoc, List.isEmpty_eq_false_iff, ne_eq, nonempty]

end VeteraBridge.Proxy
