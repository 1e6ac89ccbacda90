import Pvxs.Conn
/-
The opening of a connection: the messages the `ServerConn` constructor
queues, and the client's ConnValid that `handle_ConnValid` answers.

The constructor writes, in the host's byte order, a SetEndian control message
and a ConnValid message offering the receive buffer size `0x10000`, the
introspection registry size `0x7fff` and the authentication methods
`anonymous` and `ca`.  The client answers ConnValid with its own sizes, a QoS
word, the method it selects and its credentials.

In either byte order the constructor's bytes are two complete PVA messages,
SetEndian and ConnValid, each with the length field of the body after it, and
the ConnValid body reads back as the method names `ConnApp.init` records
(`greeting_messages`).

* `connValid_handshake` — on a new connection, a client's ConnValid, in either
  byte order and with any credentials, is answered ConnValidated with success
  exactly when the method it selects is one the greeting offers, and with
  "Client selects unadvertised auth" otherwise; the credentials are never read.

Design notes: `pvaproto.h` is not in src.  `to_wire` of a header and the
client's reading of the greeting are modelled from the PVA protocol
specification; `to_wire(Header)` sets `MSB` from the buffer's byte order, so
the constructor's local `flags` goes unused.
-/

namespace Pvxs

/-- Modelled from the spec: `pva_version::server`. -/
def pva_version_server : UInt8 := 2

namespace pva_ctrl_msg

/-- Modelled from the spec: the control message that announces the byte
order. -/
def SetEndian : UInt8 := 0x02

end pva_ctrl_msg

/-- Modelled from the spec: `to_wire(Buffer&, const Header&)`: the magic byte,
the version, the flags with `MSB` for a big-endian buffer, the command and the
32-bit length. -/
def headerBytes (be : Bool) (cmd flags : UInt8) (len : ℕ) : List UInt8 :=
  [0xca, pva_version_server, if be then flags ||| pva_flags.MSB else flags, cmd] ++ u32Bytes be len

/-- The body of the ConnValid message of `ServerConn::ServerConn`. -/
def connValidBody (be : Bool) : List UInt8 :=
  u32Bytes be 0x10000 ++ u16Bytes be 0x7fff ++ sizeBytes be 2 ++ stringBytes be (asciiBytes "anonymous") ++
    stringBytes be (asciiBytes "ca")

/-- What `ServerConn::ServerConn` adds to the output buffer: the SetEndian
header, then the ConnValid header, written over its placeholder with the
length `bend - bstart` of the body after it. -/
def greeting (be : Bool) : List UInt8 :=
  headerBytes be pva_ctrl_msg.SetEndian (pva_flags.Control ||| pva_flags.Server) 0 ++
    headerBytes be pva_app_msg.ConnValid pva_flags.Server (connValidBody be).length ++ connValidBody be

/-- Modelled from the spec: `n` strings, one after another. -/
def readStrings (be : Bool) : ℕ → List UInt8 → Option (List (List UInt8) × List UInt8)
  | 0, buf => some ([], buf)
  | n + 1, buf => do
    let (s, buf) ← readString be buf
    let (ss, buf) ← readStrings be n buf
    pure (s :: ss, buf)

/-- Modelled from the spec: a client's reading of the server's ConnValid body,
the buffer size, the registry size and the offered methods. -/
def readConnValidBody (be : Bool) (buf : List UInt8) : Option ((ℕ × ℕ × List (List UInt8)) × List UInt8) := do
  let (bufferSize, buf) ← readU32 be buf
  let (registrySize, buf) ← readU16 be buf
  let (n, buf) ← readSize be buf
  let (methods, buf) ← readStrings be n buf
  pure ((bufferSize, registrySize, methods), buf)

/-- Modelled from the spec: the start of a client's ConnValid body, before its
credentials. -/
def clientConnValid (be : Bool) (bufferSize registrySize qos : ℕ) (method : List UInt8) : List UInt8 :=
  u32Bytes be bufferSize ++ u16Bytes be registrySize ++ u16Bytes be qos ++ stringBytes be method

/-! ### The greeting -/

/-- A client reads the greeting's ConnValid body back. -/
theorem readConnValidBody_connValidBody (be : Bool) :
    readConnValidBody be (connValidBody be) =
      some ((0x10000, 0x7fff, [asciiBytes "anonymous", asciiBytes "ca"]), []) := by
  have hs : ∀ s : String, s.length < 2 ^ 32 → (asciiBytes s).length < 2 ^ 32 := fun s h => by
    simpa [asciiBytes] using h
  simp only [connValidBody, List.append_assoc, readConnValidBody, Option.bind_eq_bind, Option.some_bind,
    readU32_u32Bytes be _ (show 0x10000 < 2 ^ 32 by decide), readU16_u16Bytes be _ (show 0x7fff < 2 ^ 16 by decide),
    readSize_sizeBytes be _ (show 2 < 2 ^ 32 by decide), readStrings,
    readString_stringBytes be _ (hs "anonymous" (by decide)), readString_stringBytes be _ (hs "ca" (by decide))]
  rfl

@[simp] theorem connValidBody_length (be : Bool) : (connValidBody be).length = 20 := by
  cases be <;> rfl

/-- The SetEndian message of the greeting. -/
def setEndianMessage (be : Bool) : Message :=
  ⟨0xca, pva_version_server, if be then pva_flags.Control ||| pva_flags.Server ||| pva_flags.MSB
    else pva_flags.Control ||| pva_flags.Server, pva_ctrl_msg.SetEndian, 0, [], by decide, by cases be <;> decide⟩

/-- The ConnValid message of the greeting. -/
def connValidMessage (be : Bool) : Message :=
  ⟨0xca, pva_version_server, if be then pva_flags.Server ||| pva_flags.MSB else pva_flags.Server,
    pva_app_msg.ConnValid, (connValidBody be).length, connValidBody be,
    by rw [connValidBody_length]; decide, by rw [connValidBody_length]; cases be <;> decide⟩

/-- The greeting is the encoding of the two messages `ConnApp.init` records. -/
theorem greeting_messages (be : Bool) :
    ∃ setEndian connValid : Message, ∃ names : List String,
      greeting be = setEndian.encode ++ connValid.encode ∧
      setEndian.command = pva_ctrl_msg.SetEndian ∧ setEndian.isControl ∧ setEndian.peerBE = be ∧
      connValid.command = pva_app_msg.ConnValid ∧ ¬ connValid.isControl ∧ connValid.segKind = .none ∧
      connValid.peerBE = be ∧ ConnApp.init.tx = [.setEndian, .connValid names] ∧
      readConnValidBody be connValid.body = some ((0x10000, 0x7fff, names.map asciiBytes), []) :=
  ⟨setEndianMessage be, connValidMessage be, ["anonymous", "ca"], by cases be <;> decide, rfl,
    by cases be <;> decide, by cases be <;> decide, rfl, by cases be <;> decide, by cases be <;> decide,
    by cases be <;> decide, rfl, readConnValidBody_connValidBody be⟩

/-! ### The client's ConnValid -/

/-- `handle_ConnValid` on a ConnValid reply: the sizes and the QoS are skipped,
the method decides, the credentials after it are not read. -/
theorem handle_ConnValid_reply (peerBE : Bool) {bufferSize registrySize qos : ℕ} {method : List UInt8}
    (creds : List UInt8) (a : ConnApp) (hlen : method.length < 2 ^ 32) :
    handle_ConnValid peerBE (clientConnValid peerBE bufferSize registrySize qos method ++ creds) a =
      (auth_complete (if method ≠ asciiBytes "ca" ∧ method ≠ asciiBytes "anonymous" then
        ⟨.error, "Client selects unadvertised auth", ""⟩ else Status.okStatus) a, .open) := by
  have hskip : skipBytes 6 (clientConnValid peerBE bufferSize registrySize qos method ++ creds) =
      some (u16Bytes peerBE qos ++ stringBytes peerBE method ++ creds) := by
    have hsplit : clientConnValid peerBE bufferSize registrySize qos method ++ creds =
        (u32Bytes peerBE bufferSize ++ u16Bytes peerBE registrySize) ++
          (u16Bytes peerBE qos ++ stringBytes peerBE method ++ creds) := by
      simp [clientConnValid]
    rw [hsplit, skipBytes, if_pos (by simp; omega), List.drop_left' (by simp)]
  simp only [handle_ConnValid, hskip, Option.bind_eq_bind, Option.some_bind, List.append_assoc,
    readU16, readUInt_append 2 peerBE _ (u16Bytes_length peerBE qos), readString_stringBytes peerBE creds hlen]
  split_ifs <;> rfl

/-- The methods `handle_ConnValid` accepts are the greeting's. -/
theorem connValid_accepted_iff (method : List UInt8) {α : Type} (ok err : α) :
    (if method ≠ asciiBytes "ca" ∧ method ≠ asciiBytes "anonymous" then err else ok) =
      if method ∈ ["anonymous", "ca"].map asciiBytes then ok else err := by
  have hm : method ∈ ["anonymous", "ca"].map asciiBytes ↔ ¬ (method ≠ asciiBytes "ca" ∧ method ≠ asciiBytes "anonymous") := by
    simp only [List.map_cons, List.map_nil, List.mem_cons, List.mem_singleton, List.not_mem_nil, or_false]
    tauto
  by_cases h : method ∈ ["anonymous", "ca"].map asciiBytes
  · rw [if_pos h, if_neg (hm.mp h)]
  · rw [if_neg h, if_pos (not_not.mp (mt hm.mpr h))]

/-- A message the grammar reads as one unsegmented application message. -/
theorem segmentGroups_single {m : Message} (hhdr : ¬ m.badHeader) (hctl : ¬ m.isControl)
    (hseg : m.segKind = .none) : segmentGroups none [m] = ([⟨m.command, m.peerBE, m.body⟩], false) := by
  rw [segmentGroups_cons, if_neg hhdr, if_neg hctl, hseg]
  rfl

theorem connValid_handshake (sources : List Source) (m : Message) {bufferSize registrySize qos : ℕ}
    {method creds : List UInt8} (hhdr : ¬ m.badHeader) (hctl : ¬ m.isControl) (hseg : m.segKind = .none)
    (hcmd : m.command = pva_app_msg.ConnValid)
    (hbody : m.body = clientConnValid m.peerBE bufferSize registrySize qos method ++ creds)
    (hlen : method.length < 2 ^ 32) :
    ∃ names : List String, ConnApp.init.tx = [.setEndian, .connValid names] ∧
      (bevRead (handleMessage sources) { ServerConn.init ConnApp.init with rx := m.encode }).app =
        auth_complete (if method ∈ names.map asciiBytes then Status.okStatus
          else ⟨.error, "Client selects unadvertised auth", ""⟩) ConnApp.init ∧
      (bevRead (handleMessage sources) { ServerConn.init ConnApp.init with rx := m.encode }).status = .open := by
  obtain ⟨happ, hst⟩ := bevRead_messages (handleMessage sources) [m]
    { ServerConn.init ConnApp.init with rx := m.encode } rfl (by simp) (fun _ => rfl)
  have hh : handleMessage sources m.command m.peerBE m.body ConnApp.init =
      (auth_complete (if method ∈ ["anonymous", "ca"].map asciiBytes then Status.okStatus
        else ⟨.error, "Client selects unadvertised auth", ""⟩) ConnApp.init, .open) := by
    rw [hcmd, hbody, handleMessage, if_neg (by decide), if_pos rfl, handle_ConnValid_reply _ creds _ hlen,
      connValid_accepted_iff]
  rw [show ServerConn.openGroup { ServerConn.init ConnApp.init with rx := m.encode } = none from rfl,
    segmentGroups_single hhdr hctl hseg] at happ hst
  refine ⟨["anonymous", "ca"], rfl, ?_, ?_⟩
  · rw [happ]
    dsimp only [runHandlers, ServerConn.init]
    rw [hh]
    rfl
  · rw [hst]
    dsimp only [runHandlers, ServerConn.init]
    rw [hh]
    rfl

/-- The body of a little-endian client's ConnValid selecting `ca`, with
credentials the server never reads. -/
def caReply : List UInt8 := clientConnValid false 0x4000 0x7fff 0 (asciiBytes "ca") ++ asciiBytes "anything"

/-- A little-endian client's ConnValid message selecting `ca`. -/
def caHello : Message :=
  ⟨0xca, 2, 0, pva_app_msg.ConnValid, caReply.length, caReply, by decide, by decide⟩

/-- A client selecting `ca` is validated, whatever its credentials. -/
theorem connValid_handshake_ca :
    (¬ caHello.badHeader ∧ ¬ caHello.isControl ∧ caHello.segKind = .none ∧
      caHello.command = pva_app_msg.ConnValid ∧
      caHello.body = clientConnValid caHello.peerBE 0x4000 0x7fff 0 (asciiBytes "ca") ++ asciiBytes "anything" ∧
      (asciiBytes "ca").length < 2 ^ 32) ∧
    ∃ names : List String, ConnApp.init.tx = [.setEndian, .connValid names] ∧
      (bevRead (handleMessage []) { ServerConn.init ConnApp.init with rx := caHello.encode }).app =
        auth_complete (if asciiBytes "ca" ∈ names.map asciiBytes then Status.okStatus
          else ⟨.error, "Client selects unadvertised auth", ""⟩) ConnApp.init ∧
      (bevRead (handleMessage []) { ServerConn.init ConnApp.init with rx := caHello.encode }).status = .open :=
  have h : ¬ caHello.badHeader ∧ ¬ caHello.isControl ∧ caHello.segKind = .none ∧
      caHello.command = pva_app_msg.ConnValid ∧
      caHello.body = clientConnValid caHello.peerBE 0x4000 0x7fff 0 (asciiBytes "ca") ++ asciiBytes "anything" ∧
      (asciiBytes "ca").length < 2 ^ 32 := by decide
  ⟨h, connValid_handshake [] caHello h.1 h.2.1 h.2.2.1 h.2.2.2.1 h.2.2.2.2.1 h.2.2.2.2.2⟩

end Pvxs
