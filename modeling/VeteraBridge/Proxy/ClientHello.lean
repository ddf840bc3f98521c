import VeteraBridge.Proxy.Session
import VeteraBridge.Proxy.RewriteLines

/-!
# The ClientHello

A ClientHello as a client writes it, in one record.  `tls_sni` steps over its
fields by their lengths, and finds the first host name of its server_name
extension whatever stands before and behind it.
-/

namespace VeteraBridge.Proxy

open ByteWords

/-! ## The format -/

/-- Bytes with their number in one byte in front. -/
def sized8 (v : List UInt8) : List UInt8 := UInt8.ofNat v.length :: v

/-- Bytes with their number in two bytes in front. -/
def sized16 (v : List UInt8) : List UInt8 :=
  UInt8.ofNat (v.length / 256) :: UInt8.ofNat v.length :: v

/-- Bytes with their number in three bytes in front. -/
def sized24 (v : List UInt8) : List UInt8 :=
  UInt8.ofNat (v.length / 65536) :: sized16 v

/-- An entry of a server_name list. -/
structure NameEntry where
  type : UInt8
  name : List UInt8
  fits : name.length < 65536

def NameEntry.write (entry : NameEntry) : List UInt8 :=
  entry.type :: sized16 entry.name

/-- The extension's type is in two bytes. -/
structure Extension where
  typeHigh : UInt8
  typeLow : UInt8
  data : List UInt8
  fits : data.length < 65536

def Extension.isServerName (e : Extension) : Bool :=
  e.typeHigh == 0 && e.typeLow == 0

def Extension.write (e : Extension) : List UInt8 :=
  e.typeHigh :: e.typeLow :: sized16 e.data

/-- A server_name list: the first host name in it is `host`. -/
structure ServerNames where
  before : List NameEntry
  host : List UInt8
  after : List NameEntry
  beforeOther : ∀ entry ∈ before, entry.type ≠ 0
  hostFits : host.length < 65536

namespace ServerNames

def hostEntry (names : ServerNames) : NameEntry := ⟨0, names.host, names.hostFits⟩

def entries (names : ServerNames) : List UInt8 :=
  names.before.flatMap NameEntry.write ++
    (names.hostEntry.write ++ names.after.flatMap NameEntry.write)

end ServerNames

/-- The server_name extension of a list. -/
def ServerNames.extension (names : ServerNames)
    (fits : (sized16 names.entries).length < 65536) : Extension :=
  ⟨0, 0, sized16 names.entries, fits⟩

/-- What a ClientHello has behind its random bytes. -/
def helloFields (sessionId cipherSuites compression : List UInt8)
    (extensions : List Extension) : List UInt8 :=
  sized8 sessionId ++ sized16 cipherSuites ++ sized8 compression ++
    sized16 (extensions.flatMap Extension.write)

/-- A ClientHello with a server_name extension, which fits one record. -/
structure ClientHello where
  recordVersion : UInt8 × UInt8
  version : UInt8 × UInt8
  random : List UInt8
  sessionId : List UInt8
  cipherSuites : List UInt8
  compression : List UInt8
  before : List Extension
  names : ServerNames
  after : List Extension
  randomLength : random.length = 32
  sessionIdFits : sessionId.length < 256
  compressionFits : compression.length < 256
  beforeOther : ∀ e ∈ before, e.isServerName = false
  namesFit : (sized16 names.entries).length < 65536
  fits :
    38 + (helloFields sessionId cipherSuites compression
      (before ++ names.extension namesFit :: after)).length < 65536

namespace ClientHello

def serverName (hello : ClientHello) : Extension :=
  hello.names.extension hello.namesFit

def extensions (hello : ClientHello) : List Extension :=
  hello.before ++ hello.serverName :: hello.after

def fields (hello : ClientHello) : List UInt8 :=
  helloFields hello.sessionId hello.cipherSuites hello.compression
    hello.extensions

def body (hello : ClientHello) : List UInt8 :=
  [hello.version.1, hello.version.2] ++ hello.random ++ hello.fields

/-- The record of a handshake message. -/
def record (hello : ClientHello) : List UInt8 :=
  [0x16, hello.recordVersion.1, hello.recordVersion.2] ++
    sized16 (0x01 :: sized24 hello.body)

end ClientHello

/-! ## Reading at an offset -/

section Reading

variable (front rest : List UInt8)

theorem byteAt_front (c : UInt8) :
    byteAt (front ++ c :: rest) front.length = c.toNat := by
  rw [byteAt, List.getD_eq_getElem?_getD,
    List.getElem?_append_right (Nat.le_refl _), Nat.sub_self]
  rfl

theorem lengthAt_front (high low : UInt8) :
    lengthAt (front ++ high :: low :: rest) front.length =
      256 * high.toNat + low.toNat := by
  have second : byteAt (front ++ high :: low :: rest) (front.length + 1) =
      low.toNat := by
    have split :
        front ++ high :: low :: rest = (front ++ [high]) ++ low :: rest := by
      simp
    have next : front.length + 1 = (front ++ [high]).length := by simp
    rw [split, next, byteAt_front]
  rw [lengthAt, byteAt_front, second]

theorem lengthAt_sized16 {v : List UInt8} (fits : v.length < 65536) :
    lengthAt (front ++ sized16 v ++ rest) front.length = v.length := by
  have unfolded : front ++ sized16 v ++ rest =
      front ++ UInt8.ofNat (v.length / 256) :: UInt8.ofNat v.length ::
        (v ++ rest) := by
    simp [sized16]
  rw [unfolded, lengthAt_front, UInt8.toNat_ofNat', UInt8.toNat_ofNat']
  omega

theorem byteAt_sized8 {v : List UInt8} (fits : v.length < 256) :
    byteAt (front ++ sized8 v ++ rest) front.length = v.length := by
  have unfolded : front ++ sized8 v ++ rest =
      front ++ UInt8.ofNat v.length :: (v ++ rest) := by
    simp [sized8]
  rw [unfolded, byteAt_front, UInt8.toNat_ofNat', Nat.mod_eq_of_lt fits]

theorem slice_front (v : List UInt8) :
    slice (front ++ v ++ rest) front.length v.length = v := by
  rw [slice, List.append_assoc, List.drop_left, List.take_left]

end Reading

theorem sized8_length (v : List UInt8) : (sized8 v).length = v.length + 1 := rfl

theorem sized16_length (v : List UInt8) :
    (sized16 v).length = v.length + 2 := rfl

/-- Items are no more than the bytes they are written in. -/
theorem length_le_flatMap {Item : Type} (items : List Item)
    (write : Item → List UInt8)
    (nonempty : ∀ item ∈ items, 0 < (write item).length) :
    items.length ≤ (items.flatMap write).length := by
  induction items with
  | nil => exact Nat.le_refl 0
  | cons item rest inductionHypothesis =>
      have here := nonempty item List.mem_cons_self
      have others := inductionHypothesis
        fun item member => nonempty item (List.mem_cons_of_mem _ member)
      rw [List.flatMap_cons, List.length_append, List.length_cons]
      omega

/-! ## The names -/

/-- A host name that fits the buffer. -/
structure HostFits (host : List UInt8) (on : Nat) : Prop where
  present : 0 < host.length
  fits : host.length < on
  chars : ∀ c ∈ host, hostChar c = true

section Names

variable {b : List UInt8} {on qe : Nat}

theorem HostFits.hostOk {host : List UInt8} (fits : HostFits host on) :
    hostOk host = true := by
  unfold Proxy.hostOk
  rw [Bool.and_eq_true, List.all_eq_true]
  refine ⟨?_, fits.chars⟩
  rw [Bool.not_eq_true', List.isEmpty_eq_false_iff_exists_mem]
  exact List.exists_mem_of_length_pos fits.present

theorem HostFits.cstr {host : List UInt8} (fits : HostFits host on) :
    cstr host = host := by
  rw [cstr_eq_self_iff]
  intro member
  exact absurd (fits.chars 0 member) (by decide)

/-- One step over an entry. -/
theorem sniNames_entry (entry : NameEntry) (front rest : List UInt8)
    (whole : b = front ++ (entry.write ++ rest))
    (within : front.length + entry.write.length ≤ qe) (fuel : Nat) :
    sniNames b qe on (fuel + 1) front.length =
      if entry.type = 0 ∧ 0 < entry.name.length ∧ entry.name.length < on then
        if hostOk (cstr entry.name) then some (cstr entry.name) else none
      else
        sniNames b qe on fuel (front ++ entry.write).length := by
  have length : entry.write.length = entry.name.length + 3 := rfl
  have type : byteAt b front.length = entry.type.toNat := by
    rw [whole]
    exact byteAt_front front _ entry.type
  have size : lengthAt b (front.length + 1) = entry.name.length := by
    have split :
        b = (front ++ [entry.type]) ++ sized16 entry.name ++ rest := by
      rw [whole]
      simp [NameEntry.write]
    have next : front.length + 1 = (front ++ [entry.type]).length := by simp
    rw [split, next, lengthAt_sized16 _ _ entry.fits]
  have text : slice b (front.length + 3) entry.name.length = entry.name := by
    have split :
        b = (front ++ entry.type :: (sized16 entry.name).take 2) ++
          entry.name ++ rest := by
      rw [whole]
      simp [NameEntry.write, sized16]
    have start : front.length + 3 =
        (front ++ entry.type :: (sized16 entry.name).take 2).length := by
      simp [sized16]
    rw [split, start, slice_front]
  have onward : front.length + 3 + entry.name.length =
      (front ++ entry.write).length := by
    rw [List.length_append, length]
    omega
  have isZero : entry.type.toNat = 0 ↔ entry.type = 0 := by
    rw [← UInt8.toNat_inj]
    rfl
  rw [length] at within
  rw [sniNames, if_pos (by omega)]
  simp only [type, size, text, onward]
  rw [if_neg (by rw [List.length_append, length]; omega)]
  simp only [isZero, gt_iff_lt]

/-- The first host name is found behind entries of other types. -/
theorem sniNames_finds {entry : NameEntry} (isHost : entry.type = 0)
    (fits : HostFits entry.name on) (before : List NameEntry)
    (other : ∀ entry ∈ before, entry.type ≠ 0) (front rest : List UInt8)
    (whole :
      b = front ++ (before.flatMap NameEntry.write ++ (entry.write ++ rest)))
    (within :
      front.length + (before.flatMap NameEntry.write).length +
        entry.write.length ≤ qe) {fuel : Nat} (enough : before.length < fuel) :
    sniNames b qe on fuel front.length = some entry.name := by
  induction before generalizing front fuel with
  | nil =>
      obtain ⟨fuel, rfl⟩ := Nat.exists_eq_add_of_lt enough
      rw [List.flatMap_nil, List.length_nil, Nat.add_zero] at within
      rw [List.length_nil, Nat.zero_add,
        sniNames_entry entry front rest whole within,
        if_pos ⟨isHost, fits.present, fits.fits⟩, fits.cstr,
        if_pos fits.hostOk]
  | cons first before inductionHypothesis =>
      obtain ⟨fuel, rfl⟩ : ∃ fewer, fuel = fewer + 1 :=
        ⟨fuel - 1, by rw [List.length_cons] at enough; omega⟩
      rw [List.flatMap_cons, List.length_append] at within
      rw [List.flatMap_cons, List.append_assoc] at whole
      rw [sniNames_entry first front _ whole (by omega),
        if_neg fun isName => other first List.mem_cons_self isName.1]
      rw [List.length_cons] at enough
      apply inductionHypothesis
        (fun entry member => other entry (List.mem_cons_of_mem _ member))
      · rw [whole, List.append_assoc]
      · rw [List.length_append]
        omega
      · omega

end Names

/-! ## The extensions -/

section Extensions

variable {b : List UInt8} {on extEnd : Nat}

/-- One step over an extension. -/
theorem sniExtensions_extension (e : Extension) (front rest : List UInt8)
    (whole : b = front ++ (e.write ++ rest))
    (within : front.length + e.write.length ≤ extEnd) (fuel : Nat) :
    sniExtensions b extEnd on (fuel + 1) front.length =
      if e.isServerName then
        sniNames b (front.length + e.write.length) on b.length
          (front.length + 6)
      else
        sniExtensions b extEnd on fuel (front ++ e.write).length := by
  have length : e.write.length = e.data.length + 4 := rfl
  have type : lengthAt b front.length =
      256 * e.typeHigh.toNat + e.typeLow.toNat := by
    rw [whole]
    exact lengthAt_front front _ e.typeHigh e.typeLow
  have size : lengthAt b (front.length + 2) = e.data.length := by
    have split :
        b = (front ++ [e.typeHigh, e.typeLow]) ++ sized16 e.data ++ rest := by
      rw [whole]
      simp [Extension.write]
    have next :
        front.length + 2 = (front ++ [e.typeHigh, e.typeLow]).length := by
      simp
    rw [split, next, lengthAt_sized16 _ _ e.fits]
  have onward : front.length + 4 + e.data.length =
      (front ++ e.write).length := by
    rw [List.length_append, length]
    omega
  have isZero : 256 * e.typeHigh.toNat + e.typeLow.toNat = 0 ↔
      e.isServerName = true := by
    unfold Extension.isServerName
    rw [Bool.and_eq_true, beq_iff_eq, beq_iff_eq, ← UInt8.toNat_inj,
      ← UInt8.toNat_inj]
    show _ ↔ e.typeHigh.toNat = 0 ∧ e.typeLow.toNat = 0
    omega
  rw [length] at within
  rw [sniExtensions, if_pos (by omega)]
  simp only [type, size, onward]
  rw [if_neg (by rw [List.length_append, length]; omega), ← List.length_append]
  simp only [isZero]

/-- The first host name is found behind extensions of other types. -/
theorem sniExtensions_finds {e : Extension} (isName : e.isServerName = true)
    {names : ServerNames} (data : e.data = sized16 names.entries)
    (fits : HostFits names.host on) (before : List Extension)
    (other : ∀ e ∈ before, e.isServerName = false) (front rest : List UInt8)
    (whole :
      b = front ++ (before.flatMap Extension.write ++ (e.write ++ rest)))
    (within :
      front.length + (before.flatMap Extension.write).length +
        e.write.length ≤ extEnd) {fuel : Nat} (enough : before.length < fuel) :
    sniExtensions b extEnd on fuel front.length = some names.host := by
  induction before generalizing front fuel with
  | nil =>
      obtain ⟨fuel, rfl⟩ := Nat.exists_eq_add_of_lt enough
      rw [List.flatMap_nil, List.length_nil, Nat.add_zero] at within
      rw [List.flatMap_nil, List.nil_append] at whole
      rw [List.length_nil, Nat.zero_add,
        sniExtensions_extension e front rest whole within, if_pos isName]
      -- the six bytes of the type, the extension's length and the list's
      have split :
          b = (front ++ e.typeHigh :: e.typeLow ::
              UInt8.ofNat (e.data.length / 256) :: UInt8.ofNat e.data.length ::
              (sized16 names.entries).take 2) ++
            (names.before.flatMap NameEntry.write ++
              (names.hostEntry.write ++
                (names.after.flatMap NameEntry.write ++ rest))) := by
        rw [whole, Extension.write, sized16, data]
        simp [sized16, ServerNames.entries]
      have start : front.length + 6 =
          (front ++ e.typeHigh :: e.typeLow ::
              UInt8.ofNat (e.data.length / 256) :: UInt8.ofNat e.data.length ::
              (sized16 names.entries).take 2).length := by
        simp [sized16]
      have size : e.write.length = names.entries.length + 6 := by
        rw [Extension.write, List.length_cons, List.length_cons,
          sized16_length, data, sized16_length]
      have entries : names.entries.length =
          (names.before.flatMap NameEntry.write).length +
            (names.hostEntry.write.length +
              (names.after.flatMap NameEntry.write).length) := by
        rw [ServerNames.entries, List.length_append, List.length_append]
      have counted : names.before.length < b.length := by
        have each := length_le_flatMap names.before NameEntry.write
          (fun entry _ => by simp [NameEntry.write])
        rw [whole, List.length_append, List.length_append, size, entries]
        omega
      have isHost : names.hostEntry.type = 0 := rfl
      rw [start]
      exact sniNames_finds isHost fits names.before
        names.beforeOther _ _ split (by rw [← start, size, entries]; omega)
        counted
  | cons first before inductionHypothesis =>
      obtain ⟨fuel, rfl⟩ : ∃ fewer, fuel = fewer + 1 :=
        ⟨fuel - 1, by rw [List.length_cons] at enough; omega⟩
      rw [List.flatMap_cons, List.length_append] at within
      rw [List.flatMap_cons, List.append_assoc] at whole
      rw [sniExtensions_extension first front _ whole (by omega),
        if_neg (by simp [other first List.mem_cons_self])]
      rw [List.length_cons] at enough
      apply inductionHypothesis
        (fun e member => other e (List.mem_cons_of_mem _ member))
      · rw [whole, List.append_assoc]
      · rw [List.length_append]
        omega
      · omega

end Extensions

/-! ## The record -/

namespace ClientHello

variable (hello : ClientHello)

/-- What stands before the session id. -/
def start : List UInt8 :=
  [0x16, hello.recordVersion.1, hello.recordVersion.2] ++
    (sized16 (0x01 :: sized24 hello.body)).take 2 ++
    0x01 :: (sized24 hello.body).take 3 ++
    [hello.version.1, hello.version.2] ++ hello.random

theorem start_length : hello.start.length = 43 := by
  simp [start, sized16, sized24, hello.randomLength]

theorem record_eq : hello.record = hello.start ++ hello.fields := by
  simp [record, start, body, sized16, sized24]

theorem fields_fit : 38 + hello.fields.length < 65536 := hello.fits

theorem record_length : hello.record.length = 43 + hello.fields.length := by
  rw [record_eq, List.length_append, start_length]

/-- The record's length is in its bytes 3 and 4. -/
theorem lengthAt_record : 5 + lengthAt hello.record 3 = hello.record.length := by
  have size :
      (0x01 :: sized24 hello.body).length = 38 + hello.fields.length := by
    simp [sized24, sized16, body, hello.randomLength]
    omega
  have fits := hello.fields_fit
  have read : lengthAt hello.record 3 = (0x01 :: sized24 hello.body).length := by
    have whole := lengthAt_sized16
      [0x16, hello.recordVersion.1, hello.recordVersion.2] []
      (v := 0x01 :: sized24 hello.body) (by omega)
    rwa [List.append_nil] at whole
  rw [read, size, record_length]
  omega

/-! ### The offsets of the fields -/

def toSuites : List UInt8 := hello.start ++ sized8 hello.sessionId

def toMethods : List UInt8 := hello.toSuites ++ sized16 hello.cipherSuites

def toExtensions : List UInt8 := hello.toMethods ++ sized8 hello.compression

def extensionBytes : List UInt8 := hello.extensions.flatMap Extension.write

theorem record_fields :
    hello.record = hello.toExtensions ++ sized16 hello.extensionBytes := by
  rw [record_eq, fields, helloFields, extensionBytes, toExtensions, toMethods,
    toSuites]
  simp

theorem toSuites_length :
    hello.start.length + (1 + hello.sessionId.length) =
      hello.toSuites.length := by
  simp only [toSuites, List.length_append, sized8_length]
  omega

theorem toMethods_length :
    hello.toSuites.length + (2 + hello.cipherSuites.length) =
      hello.toMethods.length := by
  simp only [toMethods, List.length_append, sized16_length]
  omega

theorem toExtensions_length :
    hello.toMethods.length + (1 + hello.compression.length) =
      hello.toExtensions.length := by
  simp only [toExtensions, List.length_append, sized8_length]
  omega

theorem record_end :
    hello.record.length =
      hello.toExtensions.length + 2 + hello.extensionBytes.length := by
  rw [record_fields, List.length_append, sized16_length]
  omega

theorem fit : hello.record.length < 65541 := by
  have fits := hello.fields_fit
  rw [record_length]
  omega

theorem byteAt_session :
    byteAt hello.record hello.start.length = hello.sessionId.length := by
  rw [record_fields, toExtensions, toMethods, toSuites, List.append_assoc,
    List.append_assoc]
  exact byteAt_sized8 _ _ hello.sessionIdFits

theorem lengthAt_suites :
    lengthAt hello.record hello.toSuites.length =
      hello.cipherSuites.length := by
  have fits := hello.fit
  have lengths := hello.record_end
  have methods := hello.toMethods_length
  have extensions := hello.toExtensions_length
  have suites := hello.toSuites_length
  have start := hello.start_length
  rw [record_fields, toExtensions, toMethods, List.append_assoc]
  exact lengthAt_sized16 _ _ (by omega)

theorem byteAt_methods :
    byteAt hello.record hello.toMethods.length = hello.compression.length := by
  rw [record_fields, toExtensions]
  exact byteAt_sized8 _ _ hello.compressionFits

theorem lengthAt_extensions :
    lengthAt hello.record hello.toExtensions.length =
      hello.extensionBytes.length := by
  have fits := hello.fit
  have lengths := hello.record_end
  have start := hello.start_length
  have suites := hello.toSuites_length
  have methods := hello.toMethods_length
  have extensions := hello.toExtensions_length
  have read := lengthAt_sized16 hello.toExtensions []
    (v := hello.extensionBytes) (by omega)
  rwa [List.append_nil, ← record_fields] at read

/-- The search through the extensions finds the name. -/
theorem sniExtensions_record {on : Nat}
    (fits : HostFits hello.names.host on) :
    sniExtensions hello.record hello.record.length on hello.record.length
        (hello.toExtensions.length + 2) = some hello.names.host := by
  have split :
      hello.record =
        (hello.toExtensions ++ (sized16 hello.extensionBytes).take 2) ++
          (hello.before.flatMap Extension.write ++
            (hello.serverName.write ++
              hello.after.flatMap Extension.write)) := by
    rw [record_fields, extensionBytes, extensions]
    simp [sized16]
  have start : hello.toExtensions.length + 2 =
      (hello.toExtensions ++ (sized16 hello.extensionBytes).take 2).length := by
    simp [sized16]
  have counted : hello.before.length < hello.record.length := by
    have each := length_le_flatMap hello.before Extension.write
      (fun e _ => by simp [Extension.write])
    rw [split]
    simp only [List.length_append]
    have present : 0 < hello.serverName.write.length := by
      simp [Extension.write]
    omega
  rw [start]
  refine sniExtensions_finds rfl rfl fits hello.before hello.beforeOther _ _
    split ?_ counted
  have whole := congrArg List.length split
  simp only [List.length_append] at whole ⊢
  omega

/-- A buffer that begins with the record of a ClientHello gives the first host
name of its server_name extension. -/
theorem tlsSni_record {on : Nat} (fits : HostFits hello.names.host on)
    (more : List UInt8) :
    tlsSni (hello.record ++ more) on = some hello.names.host := by
  have isRecord := hello.lengthAt_record
  have lengths := hello.record_end
  have start := hello.start_length
  have suites := hello.toSuites_length
  have methods := hello.toMethods_length
  have extensions := hello.toExtensions_length
  have isHandshake : byteAt hello.record 0 = 0x16 := rfl
  have isHello : byteAt hello.record 5 = 0x01 := rfl
  have random : 5 + (4 + 2 + 32) = hello.start.length := start.symm
  rw [tlsSni_append more on isRecord.le, tlsSni]
  dsimp only
  rw [isRecord, Nat.min_self, if_neg (by omega), if_neg (by omega), random,
    if_neg (by omega), hello.byteAt_session, suites, if_neg (by omega),
    hello.lengthAt_suites, methods, if_neg (by omega), hello.byteAt_methods,
    extensions, if_neg (by omega), hello.lengthAt_extensions, ← lengths,
    Nat.min_self]
  exact hello.sniExtensions_record fits

/-- A ClientHello for the host `a`, behind another name and another
extension. -/
def forHost : ClientHello where
  recordVersion := (3, 1)
  version := (3, 3)
  random := List.replicate 32 0
  sessionId := []
  cipherSuites := [0x13, 0x01]
  compression := [0]
  before := [⟨0x00, 0x17, [], by decide⟩]
  names := {
    before := [⟨1, [98], by decide⟩]
    host := ascii "a"
    after := []
    beforeOther := by simp
    hostFits := by decide }
  after := []
  randomLength := List.length_replicate
  sessionIdFits := by decide
  compressionFits := by decide
  beforeOther := by simp [Extension.isServerName]
  namesFit := by decide
  fits := by decide

theorem tlsSni_forHost :
    tlsSni (forHost.record ++ [0x14]) hostSz = some (ascii "a") :=
  forHost.tlsSni_record
    ⟨by decide, by decide, List.all_eq_true.mp (by decide)⟩ [0x14]

end ClientHello

end VeteraBridge.Proxy
