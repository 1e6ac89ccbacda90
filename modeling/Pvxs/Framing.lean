import Pvxs.Wire
/-
The server connection's read loop, `ServerConn::bevRead`, over any command
handlers.

`bevRead` takes 8-byte headers off the read buffer `rx`, skips control
messages, waits while a body is incomplete, and reassembles segmented
application messages in `segBuf` under the `expectSeg`/`segCmd` state before
dispatching the segment group to the handler of its command.

* `bevRead_eq` — the loop unrolled once, with enough fuel on both sides;
* `bevRead_append` — reading `rx ++ m` is reading `rx` and then reading what
  is left of it followed by `m`;
* `feedAll_eq` — so bevRead after each arrival of a stream is bevRead over the
  whole stream;
* `bevRead_split_invariant` — any two splits of a stream into arrivals end in
  the same connection, and an incomplete header or body leaves it as it was;
* `bevRead_app_invariant` — a property of the handlers' state that every
  handler keeps, and a status no handler returns, hold after `bevRead`.

Design notes: handlers see only their command, the peer's byte order, the
segment buffer and their own state `app`, and answer with the status of
`bev`.  Handlers may clear `bev` to force a disconnect; the loop then calls
`bufferevent_setwatermark` on the null `bev`, which the model records as
`ConnStatus.crashed`.  The read watermarks and the write-buffer check after the
loop only steer libevent and are not modelled.
-/

namespace Pvxs

/-- What has become of the connection's `bufferevent`. -/
inductive ConnStatus
  /-- `bev` is set and the loop reads on -/
  | open
  /-- `bev.reset()`: the connection is dropped -/
  | reset
  /-- a handler cleared `bev` and `bufferevent_setwatermark` then received the
  null `bev` -/
  | crashed
  /-- an `assert` failed and the process aborted -/
  | aborted (assertion : String)
  deriving DecidableEq, Repr

/-- The status after the dispatch of a handler that returned `st`: a cleared
`bev` is passed to `bufferevent_setwatermark`. -/
def ConnStatus.afterHandler : ConnStatus → ConnStatus
  | .reset => .crashed
  | st => st

theorem ConnStatus.afterHandler_eq_open {st : ConnStatus} : st.afterHandler = .open ↔ st = .open := by
  cases st <;> simp [afterHandler]

/-- Whether an `assert` failed. -/
def ConnStatus.isAborted : ConnStatus → Bool
  | .aborted _ => true
  | _ => false

@[simp] theorem ConnStatus.isAborted_afterHandler (st : ConnStatus) :
    st.afterHandler.isAborted = st.isAborted := by
  cases st <;> rfl

/-- A command handler: the command, the peer's byte order (`peerBE`) and the
segment buffer in; the handlers' state and the status of `bev` out. -/
abbrev Handler (H : Type) := UInt8 → Bool → List UInt8 → H → H × ConnStatus

/-- The connection as `bevRead` reads and writes it. -/
structure ServerConn (H : Type) where
  status : ConnStatus
  rx : List UInt8
  peerBE : Bool
  expectSeg : Bool
  segCmd : UInt8
  segBuf : List UInt8
  app : H
  deriving DecidableEq

/-- A new connection (`ServerConn::ServerConn`): `peerBE(true)`,
`expectSeg(false)`, `segCmd(0xff)`, nothing read yet. -/
def ServerConn.init {H : Type} (app : H) : ServerConn H := ⟨.open, [], true, false, 0xff, [], app⟩

/-- What the loop finds under a header, before the segmentation checks. -/
inductive Frame
  /-- wrong magic byte, version 0, or the Server flag -/
  | badHeader
  /-- a control message -/
  | control
  /-- an application message whose body has not all arrived -/
  | incomplete (peerBE : Bool)
  /-- an application message, its body, and the bytes after it -/
  | message (peerBE : Bool) (flags command : UInt8) (body rest : List UInt8)
  deriving DecidableEq, Repr

/-- The header checks of `bevRead`, for the 8 header bytes `header` and the
bytes `rest` after them. -/
def frameOf (header rest : List UInt8) : Frame :=
  let h2 := header.getD 2 0
  if header.getD 0 0 ≠ 0xca ∨ header.getD 1 0 = 0 ∨ h2 &&& pva_flags.Server ≠ 0 then .badHeader
  else if h2 &&& pva_flags.Control ≠ 0 then .control
  else
    let peerBE := h2 &&& pva_flags.MSB != 0
    let len := fromBytes peerBE ((header.drop 4).take 4)
    if rest.length < len then .incomplete peerBE
    else .message peerBE h2 (header.getD 3 0) (rest.take len) (rest.drop len)

/-- The outcome of one pass of the loop: go on, or leave the loop. -/
inductive ReadStep (H : Type)
  | next (c : ServerConn H)
  | done (c : ServerConn H)

/-- The connection a pass ends with. -/
def ReadStep.conn {H : Type} : ReadStep H → ServerConn H
  | .next c => c
  | .done c => c

/-- One pass of the `while` loop of `bevRead`, on a connection with at least 8
bytes to read. -/
def readStep {H : Type} (handle : Handler H) (c : ServerConn H) : ReadStep H :=
  match frameOf (c.rx.take 8) (c.rx.drop 8) with
  | .badHeader => .done { c with status := .reset }
  | .control => .next { c with rx := c.rx.drop 8 }
  | .incomplete peerBE => .done { c with peerBE }
  | .message peerBE flags command body rx =>
    let segBuf := c.segBuf ++ body
    let seg := flags &&& pva_flags.SegMask
    let continuation := seg &&& pva_flags.SegLast != 0
    if xor continuation c.expectSeg || (continuation && command != c.segCmd) then
      .done { c with peerBE, rx, segBuf, status := .reset }
    else
      let start := seg == 0 || seg == pva_flags.SegFirst
      let expectSeg := if start then true else c.expectSeg
      let segCmd := if start then command else c.segCmd
      if seg == 0 || seg == pva_flags.SegLast then
        let r := handle segCmd peerBE segBuf c.app
        let c' := { c with peerBE, rx, segBuf := [], expectSeg := false, segCmd, app := r.1 }
        if r.2 = .open then .next c' else .done { c' with status := r.2.afterHandler }
      else .next { c with peerBE, rx, segBuf, expectSeg, segCmd }

variable {H : Type} (handle : Handler H)

/-- The `while (bev && evbuffer_get_length(rx) >= 8)` loop, with `fuel` passes. -/
def bevReadLoop : ℕ → ServerConn H → ServerConn H
  | 0, c => c
  | fuel + 1, c =>
    if c.status = .open ∧ 8 ≤ c.rx.length then
      match readStep handle c with
      | .next c' => bevReadLoop fuel c'
      | .done c' => c'
    else c

/-- `ServerConn::bevRead`.  Each pass that goes on takes at least 8 bytes, so
one pass per byte of `rx` and one more are enough. -/
def bevRead (c : ServerConn H) : ServerConn H := bevReadLoop handle (c.rx.length + 1) c

/-- An arrival of `bytes`, followed by `bevRead`. -/
def arrive (c : ServerConn H) (bytes : List UInt8) : ServerConn H :=
  bevRead handle { c with rx := c.rx ++ bytes }

/-- Arrivals one after another. -/
def feedAll (c : ServerConn H) (chunks : List (List UInt8)) : ServerConn H :=
  chunks.foldl (arrive handle) c

/-! ### Frames -/

section Frames

variable {header rest : List UInt8}

/-- A message's body and the bytes after it make up what followed its header. -/
theorem frameOf_message {p : Bool} {f cmd : UInt8} {body rest' : List UInt8}
    (h : frameOf header rest = .message p f cmd body rest') : body ++ rest' = rest := by
  unfold frameOf at h
  dsimp only at h
  split_ifs at h
  cases h
  exact List.take_append_drop _ _

theorem frameOf_badHeader_iff (rest' : List UInt8) :
    frameOf header rest = .badHeader ↔ frameOf header rest' = .badHeader := by
  unfold frameOf
  dsimp only
  split_ifs <;> simp

theorem frameOf_control_iff (rest' : List UInt8) :
    frameOf header rest = .control ↔ frameOf header rest' = .control := by
  unfold frameOf
  dsimp only
  split_ifs <;> simp

/-- What follows a complete frame can be extended. -/
def Frame.extend (m : List UInt8) : Frame → Frame
  | .message p f cmd body rest => .message p f cmd body (rest ++ m)
  | f => f

theorem frameOf_append (m : List UInt8) (h : ∀ p, frameOf header rest ≠ .incomplete p) :
    frameOf header (rest ++ m) = (frameOf header rest).extend m := by
  unfold frameOf at h ⊢
  dsimp only at h ⊢
  split_ifs at h ⊢ <;>
    first
    | rfl
    | exact absurd rfl (h _)
    | (simp only [List.length_append] at *; omega)
    | (rw [List.take_append_of_le_length (by omega), List.drop_append_of_le_length (by omega)]; rfl)

/-- An incomplete body stays an application message when more bytes come. -/
theorem frameOf_append_incomplete (m : List UInt8) {p : Bool}
    (h : frameOf header rest = .incomplete p) :
    frameOf header (rest ++ m) ≠ .badHeader ∧ frameOf header (rest ++ m) ≠ .control :=
  ⟨fun hb => by simp [(frameOf_badHeader_iff _).mpr hb] at h,
   fun hc => by simp [(frameOf_control_iff _).mpr hc] at h⟩

end Frames

/-! ### One pass -/

section Step

/-- The pass that goes on consumes at least a header. -/
theorem readStep_next_rx {c c' : ServerConn H} (h : readStep handle c = .next c') :
    c'.rx.length + 8 ≤ c.rx.length ∨ c.rx.length < 8 := by
  unfold readStep at h
  split at h
  · cases h
  · cases h; simp only [List.length_drop]; omega
  · cases h
  · rename_i hf
    have hsplit := congrArg List.length (frameOf_message hf)
    simp only [List.length_append, List.length_drop] at hsplit
    dsimp only at h
    repeat' split at h
    all_goals cases h <;> simp only <;> omega

/-- A pass leaves the loop with `bev` set only at an incomplete body, having
only read the peer's byte order from its header. -/
theorem readStep_done_open {c c' : ServerConn H} (h : readStep handle c = .done c')
    (hs : c'.status = .open) :
    frameOf (c.rx.take 8) (c.rx.drop 8) = .incomplete c'.peerBE ∧ c' = { c with peerBE := c'.peerBE } := by
  unfold readStep at h
  split at h
  · cases h; cases hs
  · cases h
  · rename_i hf; cases h; exact ⟨hf, rfl⟩
  · dsimp only at h
    repeat' split at h
    all_goals cases h
    all_goals first | cases hs | exact absurd (ConnStatus.afterHandler_eq_open.mp hs) ‹_›

/-- Whatever a pass does to the handlers' state and the status. -/
theorem readStep_cases {c : ServerConn H} (r : ReadStep H) (h : readStep handle c = r) :
    (r.conn.app = c.app ∧ (r.conn.status = c.status ∨ r.conn.status = .reset)) ∨
      ∃ cmd be buf, r.conn.app = (handle cmd be buf c.app).1 ∧
        (r.conn.status = c.status ∨ r.conn.status = (handle cmd be buf c.app).2.afterHandler) := by
  subst h
  unfold readStep
  split
  · exact .inl ⟨rfl, .inr rfl⟩
  · exact .inl ⟨rfl, .inl rfl⟩
  · exact .inl ⟨rfl, .inl rfl⟩
  · dsimp only
    repeat' split
    all_goals first
      | exact .inl ⟨rfl, .inr rfl⟩
      | exact .inl ⟨rfl, .inl rfl⟩
      | exact .inr ⟨_, _, _, rfl, .inl rfl⟩
      | exact .inr ⟨_, _, _, rfl, .inr rfl⟩

/-- A pass over an application message overwrites the byte order. -/
theorem readStep_peerBE {c : ServerConn H} (q : Bool)
    (hb : frameOf (c.rx.take 8) (c.rx.drop 8) ≠ .badHeader)
    (hc : frameOf (c.rx.take 8) (c.rx.drop 8) ≠ .control) :
    readStep handle { c with peerBE := q } = readStep handle c := by
  unfold readStep
  split <;> rename_i hf <;> simp only at hf
  · exact absurd hf hb
  · exact absurd hf hc
  · rw [hf]
  · rw [hf]

/-- Extend the read buffer of the connection a pass ends with. -/
def ReadStep.extend (m : List UInt8) : ReadStep H → ReadStep H
  | .next c => .next { c with rx := c.rx ++ m }
  | .done c => .done { c with rx := c.rx ++ m }

theorem take_drop_append {c : ServerConn H} (m : List UInt8) (hl : 8 ≤ c.rx.length) :
    (c.rx ++ m).take 8 = c.rx.take 8 ∧ (c.rx ++ m).drop 8 = c.rx.drop 8 ++ m :=
  ⟨List.take_append_of_le_length hl, List.drop_append_of_le_length hl⟩

/-- A pass that does not stop at an incomplete body does the same with more
bytes behind. -/
theorem readStep_append {c : ServerConn H} (m : List UInt8) (hl : 8 ≤ c.rx.length)
    (hi : ∀ p, frameOf (c.rx.take 8) (c.rx.drop 8) ≠ .incomplete p) :
    readStep handle { c with rx := c.rx ++ m } = (readStep handle c).extend m := by
  obtain ⟨ht, hd⟩ := take_drop_append m hl
  unfold readStep
  rw [ht, hd, frameOf_append m hi]
  cases hf : frameOf (c.rx.take 8) (c.rx.drop 8) with
  | badHeader => rfl
  | control => rfl
  | incomplete p => exact absurd hf (hi p)
  | message p f cmd body rest =>
    dsimp only [Frame.extend]
    repeat' split
    all_goals rfl

end Step

/-! ### The loop -/

section Loop

theorem bevReadLoop_fuel {n m : ℕ} {c : ServerConn H} (hn : c.rx.length < n) (hm : c.rx.length < m) :
    bevReadLoop handle n c = bevReadLoop handle m c := by
  induction n generalizing c m with
  | zero => omega
  | succ n ih =>
    obtain ⟨m, rfl⟩ : ∃ k, m = k + 1 := ⟨m - 1, by omega⟩
    simp only [bevReadLoop]
    split_ifs with hgo
    · split
      · rename_i c' hs
        rcases readStep_next_rx handle hs with hlt | hlt
        · exact ih (by omega) (by omega)
        · omega
      · rfl
    · rfl

/-- **The loop unrolled once.** -/
theorem bevRead_eq (c : ServerConn H) :
    bevRead handle c =
      if c.status = .open ∧ 8 ≤ c.rx.length then
        match readStep handle c with
        | .next c' => bevRead handle c'
        | .done c' => c'
      else c := by
  unfold bevRead
  rw [bevReadLoop]
  split_ifs with hgo
  · split
    · rename_i c' hs
      rcases readStep_next_rx handle hs with hlt | hlt
      · exact bevReadLoop_fuel handle (by omega) (by omega)
      · omega
    · rfl
  · rfl

theorem bevRead_stop {c : ServerConn H} (h : ¬(c.status = .open ∧ 8 ≤ c.rx.length)) :
    bevRead handle c = c := by
  rw [bevRead_eq, if_neg h]

theorem bevRead_next {c c' : ServerConn H} (hs : c.status = .open) (hl : 8 ≤ c.rx.length)
    (h : readStep handle c = .next c') : bevRead handle c = bevRead handle c' := by
  rw [bevRead_eq, if_pos ⟨hs, hl⟩, h]

theorem bevRead_done {c c' : ServerConn H} (hs : c.status = .open) (hl : 8 ≤ c.rx.length)
    (h : readStep handle c = .done c') : bevRead handle c = c' := by
  rw [bevRead_eq, if_pos ⟨hs, hl⟩, h]

/-- **Induction over the passes of the loop.**  A property that holds wherever
the loop stops, and holds before a pass when it holds after the pass, holds of
every connection. -/
theorem bevRead_induction (P : ServerConn H → Prop)
    (stop : ∀ c, ¬(c.status = .open ∧ 8 ≤ c.rx.length) → P c)
    (pass : ∀ c, c.status = .open → 8 ≤ c.rx.length → (∀ c', readStep handle c = .next c' → P c') → P c)
    (c : ServerConn H) : P c := by
  induction' hn : c.rx.length using Nat.strong_induction_on with n ih generalizing c
  by_cases hgo : c.status = .open ∧ 8 ≤ c.rx.length
  · refine pass c hgo.1 hgo.2 fun c' hc' => ?_
    rcases readStep_next_rx handle hc' with hlt | hlt
    · exact ih _ (by omega) c' rfl
    · omega
  · exact stop c hgo

/-- The byte order before a pass over an application message is not read. -/
theorem bevRead_peerBE {d : ServerConn H} (q : Bool) (hs : d.status = .open) (hl : 8 ≤ d.rx.length)
    (hb : frameOf (d.rx.take 8) (d.rx.drop 8) ≠ .badHeader)
    (hc : frameOf (d.rx.take 8) (d.rx.drop 8) ≠ .control) :
    bevRead handle { d with peerBE := q } = bevRead handle d := by
  rw [bevRead_eq handle { d with peerBE := q }, bevRead_eq handle d, if_pos ⟨hs, hl⟩, if_pos ⟨hs, hl⟩,
    readStep_peerBE handle q hb hc]

/-- **Reading in two arrivals.**  Reading `rx ++ m` is reading `rx`, then
reading what is left of it followed by `m`. -/
theorem bevRead_append (c : ServerConn H) (m : List UInt8) :
    bevRead handle { c with rx := c.rx ++ m } =
      bevRead handle { bevRead handle c with rx := (bevRead handle c).rx ++ m } := by
  induction c using bevRead_induction handle with
  | stop c hgo => rw [bevRead_stop handle hgo]
  | pass c hs hl ih =>
    have hl' : 8 ≤ (c.rx ++ m).length := by simp only [List.length_append]; omega
    by_cases hi : ∀ p, frameOf (c.rx.take 8) (c.rx.drop 8) ≠ .incomplete p
    · have hext := readStep_append handle m hl hi
      cases hstep : readStep handle c with
      | next c' =>
        rw [bevRead_next handle hs hl hstep]
        rw [hstep, ReadStep.extend] at hext
        rw [bevRead_next handle (c := { c with rx := c.rx ++ m }) hs hl' hext]
        exact ih c' hstep
      | done c' =>
        rw [bevRead_done handle hs hl hstep]
        rw [hstep, ReadStep.extend] at hext
        rw [bevRead_done handle (c := { c with rx := c.rx ++ m }) hs hl' hext]
        have hs' : c'.status ≠ .open := fun ho => by
          obtain ⟨hf, -⟩ := readStep_done_open handle hstep ho
          exact hi _ hf
        exact (bevRead_stop handle (c := { c' with rx := c'.rx ++ m }) (fun h => hs' h.1)).symm
    · push_neg at hi
      obtain ⟨p, hp⟩ := hi
      have hstep : readStep handle c = .done { c with peerBE := p } := by
        unfold readStep; rw [hp]
      rw [bevRead_done handle hs hl hstep]
      obtain ⟨ht, hd⟩ := take_drop_append m hl
      obtain ⟨hb, hc⟩ := frameOf_append_incomplete m hp
      rw [← ht, ← hd] at hb hc
      exact (bevRead_peerBE handle (d := { c with rx := c.rx ++ m }) p hs hl' hb hc).symm

/-- `bevRead` leaves nothing for a second call to do. -/
theorem bevRead_idem (c : ServerConn H) : bevRead handle (bevRead handle c) = bevRead handle c := by
  have h := bevRead_append handle c []
  simp only [List.append_nil] at h
  exact h.symm

/-- **Arrivals one by one are one arrival of the whole stream.** -/
theorem feedAll_eq {c : ServerConn H} (hq : bevRead handle c = c) (chunks : List (List UInt8)) :
    feedAll handle c chunks = bevRead handle { c with rx := c.rx ++ chunks.flatten } := by
  induction chunks generalizing c with
  | nil => simpa [feedAll] using hq.symm
  | cons ch chs ih =>
    simp only [feedAll, List.foldl_cons] at ih ⊢
    rw [arrive, ih (bevRead_idem handle _), ← bevRead_append]
    simp [List.append_assoc]

/-- An incomplete header or body ends the loop without touching the
reassembly state, the unread input or the handlers' state. -/
theorem bevRead_incomplete {c : ServerConn H} (hs : c.status = .open)
    (h : c.rx.length < 8 ∨ ∃ p, frameOf (c.rx.take 8) (c.rx.drop 8) = .incomplete p) :
    let c' := bevRead handle c
    c'.status = c.status ∧ c'.rx = c.rx ∧ c'.expectSeg = c.expectSeg ∧ c'.segCmd = c.segCmd ∧
      c'.segBuf = c.segBuf ∧ c'.app = c.app := by
  rcases h with hl | ⟨p, hp⟩
  · rw [bevRead_stop handle (by omega)]; simp
  · by_cases hl : 8 ≤ c.rx.length
    · have hstep : readStep handle c = .done { c with peerBE := p } := by
        unfold readStep; rw [hp]
      rw [bevRead_done handle hs hl hstep]; simp
    · rw [bevRead_stop handle (by omega)]; simp

/-- **Splitting the stream does not matter.**  From a connection with nothing
left to read, any two splits of a byte stream into arrivals, with `bevRead`
after each, end in the same connection: the same handlers' state (so the same
dispatches with the same segment buffers, for handlers that record them), the
same reassembly state and the same status.  And a pass that meets an
incomplete header or body leaves the reassembly state, the unread input and
the handlers' state unchanged. -/
theorem bevRead_split_invariant (c : ServerConn H) (hq : bevRead handle c = c) :
    (∀ chunks₁ chunks₂ : List (List UInt8), chunks₁.flatten = chunks₂.flatten →
      feedAll handle c chunks₁ = feedAll handle c chunks₂) ∧
    ∀ d : ServerConn H, d.status = .open →
      (d.rx.length < 8 ∨ ∃ p, frameOf (d.rx.take 8) (d.rx.drop 8) = .incomplete p) →
      (bevRead handle d).rx = d.rx ∧ (bevRead handle d).expectSeg = d.expectSeg ∧
        (bevRead handle d).segCmd = d.segCmd ∧ (bevRead handle d).segBuf = d.segBuf ∧
        (bevRead handle d).app = d.app ∧ (bevRead handle d).status = d.status :=
  ⟨fun chunks₁ chunks₂ h => by rw [feedAll_eq handle hq, feedAll_eq handle hq, h],
   fun d hs h => by
    obtain ⟨h1, h2, h3, h4, h5, h6⟩ := bevRead_incomplete handle hs h
    exact ⟨h2, h3, h4, h5, h6, h1⟩⟩

/-- Nothing to read in a new connection. -/
theorem bevRead_init (app : H) : bevRead handle (ServerConn.init app) = ServerConn.init app := rfl

/-- The statement for a new connection whose one handler does nothing. -/
theorem bevRead_split_invariant_init :
    bevRead (fun _ _ _ (u : Unit) => (u, ConnStatus.open)) (ServerConn.init ()) = ServerConn.init () ∧
      ((∀ chunks₁ chunks₂ : List (List UInt8), chunks₁.flatten = chunks₂.flatten →
        feedAll (fun _ _ _ (u : Unit) => (u, ConnStatus.open)) (ServerConn.init ()) chunks₁ =
          feedAll (fun _ _ _ (u : Unit) => (u, ConnStatus.open)) (ServerConn.init ()) chunks₂) ∧
      ∀ d : ServerConn Unit, d.status = .open →
        (d.rx.length < 8 ∨ ∃ p, frameOf (d.rx.take 8) (d.rx.drop 8) = .incomplete p) →
        (bevRead (fun _ _ _ (u : Unit) => (u, ConnStatus.open)) d).rx = d.rx ∧
          (bevRead (fun _ _ _ (u : Unit) => (u, ConnStatus.open)) d).expectSeg = d.expectSeg ∧
          (bevRead (fun _ _ _ (u : Unit) => (u, ConnStatus.open)) d).segCmd = d.segCmd ∧
          (bevRead (fun _ _ _ (u : Unit) => (u, ConnStatus.open)) d).segBuf = d.segBuf ∧
          (bevRead (fun _ _ _ (u : Unit) => (u, ConnStatus.open)) d).app = d.app ∧
          (bevRead (fun _ _ _ (u : Unit) => (u, ConnStatus.open)) d).status = d.status) :=
  ⟨rfl, bevRead_split_invariant _ (ServerConn.init ()) rfl⟩

/-- **Invariants of the handlers' state.**  If every handler keeps `P` and,
from a state with `P`, never aborts, then `bevRead` keeps `P` and does not
abort. -/
theorem bevRead_app_invariant (P : H → Prop)
    (hP : ∀ cmd be buf h, P h → P (handle cmd be buf h).1 ∧ (handle cmd be buf h).2.isAborted = false)
    (c : ServerConn H) (hc : P c.app) (ha : c.status.isAborted = false) :
    P (bevRead handle c).app ∧ (bevRead handle c).status.isAborted = false := by
  revert hc ha
  induction c using bevRead_induction handle with
  | stop c hgo => rw [bevRead_stop handle hgo]; exact fun hc ha => ⟨hc, ha⟩
  | pass c hs hl ih =>
    intro hc ha
    have hstep : ∀ r, readStep handle c = r → P r.conn.app ∧ r.conn.status.isAborted = false := by
      intro r hr
      rcases readStep_cases handle r hr with ⟨happ, hst | hst⟩ | ⟨cmd, be, buf, happ, hst | hst⟩
      · exact ⟨happ ▸ hc, hst ▸ ha⟩
      · exact ⟨happ ▸ hc, by rw [hst]; rfl⟩
      · exact ⟨happ ▸ (hP cmd be buf _ hc).1, hst ▸ ha⟩
      · refine ⟨happ ▸ (hP cmd be buf _ hc).1, ?_⟩
        rw [hst, ConnStatus.isAborted_afterHandler]
        exact (hP cmd be buf _ hc).2
    cases hr : readStep handle c with
    | next c' =>
      rw [bevRead_next handle hs hl hr]
      obtain ⟨hc', ha'⟩ := hstep _ hr
      exact ih c' hr hc' ha'
    | done c' =>
      rw [bevRead_done handle hs hl hr]
      exact hstep _ hr

end Loop

end Pvxs
