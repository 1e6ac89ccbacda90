import Pvxs.Framing
/-
The grammar of a client's message stream, and `bevRead` against it.

A client sends complete PVA messages.  An application message is either
unsegmented, or a segment of a group: a SegFirst message, SegMid messages and
a SegLast message, all with the same command.  `segmentGroups` reads a message
sequence by this grammar into segment groups, each with the bodies of its
messages joined, and stops at the first message with a header fault or out of
grammar.  `runHandlers` runs the handlers over groups until one of them clears
`bev` or aborts.

* `frameOf_encode` — the header checks of `bevRead` read back a message's
  header, length and body;
* `segKind_conditions` — the flag tests of `bevRead` (`continuation`, the start
  and the end of a group) in terms of the segment kind;
* `everyDispatch_of_inv` — what every handler keeps holds at each dispatch
  of `runHandlers`, with the state handed over;
* `bevRead_messages` — from any reassembly state, `bevRead` over the encoded
  messages runs the handlers of the grammar's groups, in order, each on its
  joined bodies, and ends reset exactly when the grammar rejects the stream
  before a handler stops;
* `bevRead_dispatches_groups` — the same for a new connection.
-/

namespace Pvxs

/-- The segment kind of an application message, from its `SegMask` bits. -/
inductive SegKind
  | none | first | mid | last
  deriving DecidableEq, Repr

/-- The segment kind of the flags byte. -/
def segKindOf (flags : UInt8) : SegKind :=
  let seg := flags &&& pva_flags.SegMask
  if seg = pva_flags.SegNone then .none
  else if seg = pva_flags.SegFirst then .first
  else if seg = pva_flags.SegLast then .last
  else .mid

theorem UInt8.ofNat_toNat (f : UInt8) : UInt8.ofNat f.toNat = f := by
  cases f with | mk v => simp [UInt8.ofNat, UInt8.toNat]

set_option maxRecDepth 20000 in
theorem segKind_conditions_fin : ∀ n : Fin 256,
    ((UInt8.ofNat n &&& pva_flags.SegMask &&& pva_flags.SegLast != 0) =
      (segKindOf (UInt8.ofNat n) == .mid || segKindOf (UInt8.ofNat n) == .last)) ∧
    ((UInt8.ofNat n &&& pva_flags.SegMask == 0 || UInt8.ofNat n &&& pva_flags.SegMask == pva_flags.SegFirst) =
      (segKindOf (UInt8.ofNat n) == .none || segKindOf (UInt8.ofNat n) == .first)) ∧
    ((UInt8.ofNat n &&& pva_flags.SegMask == 0 || UInt8.ofNat n &&& pva_flags.SegMask == pva_flags.SegLast) =
      (segKindOf (UInt8.ofNat n) == .none || segKindOf (UInt8.ofNat n) == .last)) := by
  decide

/-- The three flag tests of `bevRead` by segment kind: a continuation is a
SegMid or SegLast message, a group starts at SegNone or SegFirst, and ends at
SegNone or SegLast. -/
theorem segKind_conditions (f : UInt8) :
    ((f &&& pva_flags.SegMask &&& pva_flags.SegLast != 0) = (segKindOf f == .mid || segKindOf f == .last)) ∧
    ((f &&& pva_flags.SegMask == 0 || f &&& pva_flags.SegMask == pva_flags.SegFirst) =
      (segKindOf f == .none || segKindOf f == .first)) ∧
    ((f &&& pva_flags.SegMask == 0 || f &&& pva_flags.SegMask == pva_flags.SegLast) =
      (segKindOf f == .none || segKindOf f == .last)) := by
  have h := segKind_conditions_fin ⟨f.toNat, f.toBitVec.isLt⟩
  simp only [UInt8.ofNat_toNat] at h
  exact h

/-- A complete PVA message as a client sends it: the header bytes, the 32-bit
length field, and the body.  A control message carries a value in the length
field and no body; an application message carries a body of that length. -/
structure Message where
  magic : UInt8
  version : UInt8
  flags : UInt8
  command : UInt8
  size : ℕ
  body : List UInt8
  size_lt : size < 2 ^ 32
  body_length : body.length = if flags &&& pva_flags.Control ≠ 0 then 0 else size

namespace Message

/-- The message's byte order (`pva_flags::MSB`). -/
def peerBE (m : Message) : Bool := m.flags &&& pva_flags.MSB != 0

/-- The message on the wire: the header, its length field in the message's
byte order, the body. -/
def encode (m : Message) : List UInt8 :=
  [m.magic, m.version, m.flags, m.command] ++ u32Bytes m.peerBE m.size ++ m.body

/-- A wrong magic byte, version 0, or the Server flag. -/
def badHeader (m : Message) : Prop :=
  m.magic ≠ 0xca ∨ m.version = 0 ∨ m.flags &&& pva_flags.Server ≠ 0

/-- A control message. -/
def isControl (m : Message) : Prop := m.flags &&& pva_flags.Control ≠ 0

instance (m : Message) : Decidable m.badHeader :=
  inferInstanceAs (Decidable (m.magic ≠ 0xca ∨ m.version = 0 ∨ m.flags &&& pva_flags.Server ≠ 0))

instance (m : Message) : Decidable m.isControl :=
  inferInstanceAs (Decidable (m.flags &&& pva_flags.Control ≠ 0))

/-- The segment kind. -/
def segKind (m : Message) : SegKind := segKindOf m.flags

end Message

/-- A segment group: its command, the byte order of its last message, and the
bodies of its messages joined. -/
structure Group where
  command : UInt8
  peerBE : Bool
  payload : List UInt8
  deriving DecidableEq, Repr

/-- The grammar, from the group open so far (its command and the bodies read):
the groups completed, in order, and whether the stream is rejected, at a
header fault, at SegMid or SegLast with no group open, at SegNone or SegFirst
with a group open, or at a continuation with another command.  Control
messages are skipped. -/
def segmentGroups : Option (UInt8 × List UInt8) → List Message → List Group × Bool
  | _, [] => ([], false)
  | g, m :: ms =>
    if m.badHeader then ([], true)
    else if m.isControl then segmentGroups g ms
    else match m.segKind, g with
      | .none, none =>
        let r := segmentGroups none ms
        (⟨m.command, m.peerBE, m.body⟩ :: r.1, r.2)
      | .first, none => segmentGroups (some (m.command, m.body)) ms
      | .mid, some (cmd, acc) =>
        if m.command = cmd then segmentGroups (some (cmd, acc ++ m.body)) ms else ([], true)
      | .last, some (cmd, acc) =>
        if m.command = cmd then
          let r := segmentGroups none ms
          (⟨cmd, m.peerBE, acc ++ m.body⟩ :: r.1, r.2)
        else ([], true)
      | _, _ => ([], true)

@[simp] theorem segmentGroups_nil (g : Option (UInt8 × List UInt8)) : segmentGroups g [] = ([], false) :=
  rfl

/-- `segmentGroups` at a message, by definition: stated once, so that proofs
never generate the equations of its overlapping match. -/
theorem segmentGroups_cons (g : Option (UInt8 × List UInt8)) (m : Message) (ms : List Message) :
    segmentGroups g (m :: ms) =
      if m.badHeader then ([], true)
      else if m.isControl then segmentGroups g ms
      else match m.segKind, g with
        | .none, none =>
          let r := segmentGroups none ms
          (⟨m.command, m.peerBE, m.body⟩ :: r.1, r.2)
        | .first, none => segmentGroups (some (m.command, m.body)) ms
        | .mid, some (cmd, acc) =>
          if m.command = cmd then segmentGroups (some (cmd, acc ++ m.body)) ms else ([], true)
        | .last, some (cmd, acc) =>
          if m.command = cmd then
            let r := segmentGroups none ms
            (⟨cmd, m.peerBE, acc ++ m.body⟩ :: r.1, r.2)
          else ([], true)
        | _, _ => ([], true) :=
  rfl

variable {H : Type} (handle : Handler H)

/-- The handlers run over groups in order, until one of them does not leave
`bev` open. -/
def runHandlers : List Group → H → H × ConnStatus
  | [], h => (h, .open)
  | g :: gs, h =>
    let r := handle g.command g.peerBE g.payload h
    if r.2 = .open then runHandlers gs r.1 else r

/-- `P` holds at every dispatch `runHandlers` makes: of each group it hands to
a handler, with the handlers' state it hands over. -/
def EveryDispatch (P : Group → H → Prop) : List Group → H → Prop
  | [], _ => True
  | g :: gs, h =>
    P g h ∧ ((handle g.command g.peerBE g.payload h).2 = .open →
      EveryDispatch P gs (handle g.command g.peerBE g.payload h).1)

/-- A property of the handlers' state that every handler keeps holds at every
dispatch, with all that follows from it. -/
theorem everyDispatch_of_inv (I : H → Prop) (P : Group → H → Prop)
    (hI : ∀ (g : Group) (h : H), I h → I (handle g.command g.peerBE g.payload h).1)
    (hP : ∀ g h, I h → P g h) :
    ∀ (gs : List Group) (h : H), I h → EveryDispatch handle P gs h
  | [], _, _ => trivial
  | g :: gs, h, hh => ⟨hP g h hh, fun _ => everyDispatch_of_inv I P hI hP gs _ (hI g h hh)⟩

/-- The reassembly state as the group open so far. -/
def ServerConn.openGroup (c : ServerConn H) : Option (UInt8 × List UInt8) :=
  if c.expectSeg then some (c.segCmd, c.segBuf) else none

/-- The header checks read back an encoded message. -/
theorem frameOf_encode (m : Message) (rest : List UInt8) :
    frameOf ((m.encode ++ rest).take 8) ((m.encode ++ rest).drop 8) =
      if m.badHeader then .badHeader
      else if m.isControl then .control
      else .message m.peerBE m.flags m.command m.body rest := by
  have hh : ((m.encode ++ rest).take 8) = [m.magic, m.version, m.flags, m.command] ++ u32Bytes m.peerBE m.size := by
    simp [Message.encode, List.take_append_of_le_length]
  have hd : ((m.encode ++ rest).drop 8) = m.body ++ rest := by
    simp [Message.encode, List.drop_append_of_le_length]
  have ht : (u32Bytes m.peerBE m.size).take 4 = u32Bytes m.peerBE m.size :=
    List.take_of_length_le (by simp)
  have hlen : fromBytes (m.flags &&& pva_flags.MSB != 0) (u32Bytes m.peerBE m.size) = m.size :=
    fromBytes_u32Bytes _ m.size_lt
  rw [hh, hd]
  unfold frameOf Message.badHeader Message.isControl
  simp only [List.getD_cons_zero, List.getD_cons_succ, List.cons_append, List.nil_append, List.drop_succ_cons,
    List.drop_zero]
  rw [ht, hlen]
  split_ifs with h1 h2 h3
  · rfl
  · rfl
  · have hb := m.body_length
    rw [if_neg h2] at hb
    simp only [List.length_append] at h3; omega
  · have hb := m.body_length
    rw [if_neg h2] at hb
    rw [List.take_append_of_le_length (by omega), List.drop_append_of_le_length (by omega),
      List.take_of_length_le (by omega), List.drop_of_length_le (by omega), List.nil_append]
    rfl

/-- The dispatch of a segment group with command `cmd` and segment buffer
`payload`, the bytes `rest` left to read. -/
def dispatch (c : ServerConn H) (peerBE : Bool) (cmd : UInt8) (payload rest : List UInt8) : ReadStep H :=
  let r := handle cmd peerBE payload c.app
  let c' := { c with peerBE, rx := rest, segBuf := [], expectSeg := false, segCmd := cmd, app := r.1 }
  if r.2 = .open then .next c' else .done { c' with status := r.2.afterHandler }

/-- A pass over an application message, by segment kind and open group. -/
theorem readStep_message {c : ServerConn H} {p : Bool} {f cmd : UInt8} {body rest : List UInt8}
    (hf : frameOf (c.rx.take 8) (c.rx.drop 8) = .message p f cmd body rest) :
    readStep handle c =
      match segKindOf f, c.expectSeg with
      | .none, false => dispatch handle c p cmd (c.segBuf ++ body) rest
      | .first, false =>
        .next { c with peerBE := p, rx := rest, segBuf := c.segBuf ++ body, expectSeg := true, segCmd := cmd }
      | .mid, true =>
        if cmd = c.segCmd then .next { c with peerBE := p, rx := rest, segBuf := c.segBuf ++ body }
        else .done { c with peerBE := p, rx := rest, segBuf := c.segBuf ++ body, status := .reset }
      | .last, true =>
        if cmd = c.segCmd then dispatch handle c p c.segCmd (c.segBuf ++ body) rest
        else .done { c with peerBE := p, rx := rest, segBuf := c.segBuf ++ body, status := .reset }
      | _, _ => .done { c with peerBE := p, rx := rest, segBuf := c.segBuf ++ body, status := .reset } := by
  obtain ⟨h1, h2, h3⟩ := segKind_conditions f
  unfold readStep
  rw [hf]
  dsimp only
  rw [h1, h2, h3]
  cases segKindOf f <;> cases c.expectSeg <;> simp [dispatch]

/-- The status `bevRead` ends with: reset at a rejected stream if no handler
stopped first, otherwise what the handler's exit left. -/
def finalStatus (rejected : Bool) (st : ConnStatus) : ConnStatus :=
  if st = .open then (if rejected then .reset else .open) else st.afterHandler

/-- **`bevRead` reads by the grammar.**  From any reassembly state (with an
empty segment buffer when no group is open), `bevRead` over encoded messages
leaves the handlers' state of running the handlers over the grammar's groups
in order, each on its joined bodies, and the status `finalStatus`. -/
theorem bevRead_messages (msgs : List Message) (c : ServerConn H) (hs : c.status = .open)
    (hrx : c.rx = (msgs.map Message.encode).flatten) (hwf : c.expectSeg = false → c.segBuf = []) :
    (bevRead handle c).app = (runHandlers handle (segmentGroups c.openGroup msgs).1 c.app).1 ∧
      (bevRead handle c).status =
        finalStatus (segmentGroups c.openGroup msgs).2 (runHandlers handle (segmentGroups c.openGroup msgs).1 c.app).2 := by
  induction msgs generalizing c with
  | nil =>
    rw [bevRead_stop handle (by simp [hrx])]
    simp [runHandlers, finalStatus, hs]
  | cons m ms ih =>
    have hrx' : c.rx = m.encode ++ (ms.map Message.encode).flatten := by simp [hrx]
    have hl : 8 ≤ c.rx.length := by simp [hrx', Message.encode]
    have hframe := frameOf_encode m (ms.map Message.encode).flatten
    rw [← hrx'] at hframe
    -- a message the grammar rejects: the pass ends with `bev` reset
    have hrej : ∀ c', readStep handle c = .done c' → c'.app = c.app → c'.status = .reset →
        (bevRead handle c).app = (runHandlers handle [] c.app).1 ∧
          (bevRead handle c).status = finalStatus true (runHandlers handle [] c.app).2 := by
      intro c' hst happ hst'
      rw [bevRead_done handle hs hl hst, happ, hst']
      exact ⟨rfl, rfl⟩
    by_cases hbad : m.badHeader
    · have hstep : readStep handle c = .done { c with status := .reset } := by
        unfold readStep; rw [hframe, if_pos hbad]
      rw [segmentGroups_cons, if_pos hbad]
      exact hrej _ hstep rfl rfl
    by_cases hctl : m.isControl
    · have hbody : m.body = [] := by
        have := m.body_length
        rw [if_pos (show m.flags &&& pva_flags.Control ≠ 0 from hctl)] at this
        exact List.length_eq_zero.mp this
      have hstep : readStep handle c = .next { c with rx := c.rx.drop 8 } := by
        unfold readStep; rw [hframe, if_neg hbad, if_pos hctl]
      rw [bevRead_next handle hs hl hstep]
      rw [segmentGroups_cons, if_neg hbad, if_pos hctl]
      exact ih _ hs (by simp [hrx', Message.encode, hbody]) hwf
    -- an application message: the handlers' dispatch, when a group ends
    have hdisp : ∀ cmd payload, readStep handle c =
        dispatch handle c m.peerBE cmd payload (ms.map Message.encode).flatten →
        (bevRead handle c).app =
            (runHandlers handle (⟨cmd, m.peerBE, payload⟩ :: (segmentGroups none ms).1) c.app).1 ∧
          (bevRead handle c).status = finalStatus (segmentGroups none ms).2
            (runHandlers handle (⟨cmd, m.peerBE, payload⟩ :: (segmentGroups none ms).1) c.app).2 := by
      intro cmd payload hst
      unfold dispatch at hst
      dsimp only at hst
      split_ifs at hst with hr
      · rw [bevRead_next handle hs hl hst]
        simp only [runHandlers, hr, if_true]
        exact ih _ hs rfl (fun _ => rfl)
      · rw [bevRead_done handle hs hl hst]
        simp [runHandlers, hr, finalStatus]
    rw [if_neg hbad, if_neg hctl] at hframe
    have hstep := readStep_message handle hframe
    simp only [segmentGroups_cons, if_neg hbad, if_neg hctl, ServerConn.openGroup, Message.segKind]
    cases hk : segKindOf m.flags <;> cases he : c.expectSeg <;> simp only [hk, he] at hstep ⊢
    all_goals first | exact hrej _ hstep rfl rfl | skip
    · rw [hwf he, List.nil_append] at hstep
      exact hdisp _ _ hstep
    · rw [hwf he, List.nil_append] at hstep
      rw [bevRead_next handle hs hl hstep]
      exact ih _ hs rfl (fun h => by simp at h)
    · by_cases hc : m.command = c.segCmd <;> simp only [hc, if_true, if_false] at hstep ⊢
      · rw [bevRead_next handle hs hl hstep]
        exact ih _ hs rfl (fun h => by simp at h)
      · exact hrej _ hstep rfl rfl
    · by_cases hc : m.command = c.segCmd <;> simp only [hc, if_true, if_false] at hstep ⊢
      · exact hdisp _ _ hstep
      · exact hrej _ hstep rfl rfl

/-- Handlers that always leave `bev` open all run, once per group, in
order. -/
theorem runHandlers_of_open (hopen : ∀ cmd be buf h, (handle cmd be buf h).2 = .open) :
    ∀ (gs : List Group) (h : H),
      runHandlers handle gs h = (gs.foldl (fun h g => (handle g.command g.peerBE g.payload h).1) h, .open)
  | [], _ => rfl
  | g :: gs, h => by
    simp only [runHandlers, hopen, if_true, List.foldl_cons]
    exact runHandlers_of_open hopen gs _

/-- **`bevRead` on a new connection.**  Over encoded messages, the handlers run
once per segment group of the grammar, in stream order, each on the joined
bodies of its group, until the first message the grammar rejects (the
connection is then reset) or the first handler that does not leave `bev` open;
a handler that cleared `bev` leaves the connection `crashed`. -/
theorem bevRead_dispatches_groups (app : H) (msgs : List Message) :
    (bevRead handle { ServerConn.init app with rx := (msgs.map Message.encode).flatten }).app =
        (runHandlers handle (segmentGroups none msgs).1 app).1 ∧
      (bevRead handle { ServerConn.init app with rx := (msgs.map Message.encode).flatten }).status =
        finalStatus (segmentGroups none msgs).2 (runHandlers handle (segmentGroups none msgs).1 app).2 :=
  bevRead_messages handle msgs _ rfl rfl (fun _ => rfl)

end Pvxs
