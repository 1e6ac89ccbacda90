import Pvxs.Grammar
import Pvxs.Channels
/-
The handlers of a server connection (`ServerConn`), and the connection as
`bevRead` runs them over the client's byte stream.

`handleMessage` is the `switch(segCmd)` of `bevRead`: Echo, ConnValid,
CreateChan and DestroyChan do something; the other handlers of this server are
empty, and an unknown command is ignored.

* `handleMessage_inv` — every handler keeps the channel tables' invariant and
  never aborts;
* `channel_tables_inverse` — along every sequence of arrivals, whatever the
  sources answer, the tables stay mutually inverse and no assertion fails; and
  at every dispatch of a CreateChan group of a message stream, however split,
  each decoded entry gets one reply, which carries a success status exactly
  when its entry added a channel;
* `bevRead_stops_after_handler_reset` — a handler that clears `bev` stops the
  dispatch of the groups after it, and the loop then hands the null `bev` to
  `bufferevent_setwatermark`.
-/

namespace Pvxs

/-- `ServerConn::handle_Echo`: the segment buffer goes back to the client. -/
def handle_Echo (segBuf : List UInt8) (a : ConnApp) : ConnApp × ConnStatus :=
  ({ a with tx := a.tx ++ [.echo segBuf] }, .open)

/-- `auth_complete`: queue ConnValidated with the status of the
authentication. -/
def auth_complete (sts : Status) (a : ConnApp) : ConnApp :=
  { a with tx := a.tx ++ [.connValidated sts] }

/-- `ServerConn::handle_ConnValid`: skip the buffer and introspection sizes,
read the QoS and the selected method; a truncated message clears `bev`. -/
def handle_ConnValid (peerBE : Bool) (segBuf : List UInt8) (a : ConnApp) : ConnApp × ConnStatus :=
  match skipBytes 6 segBuf >>= readU16 peerBE >>= fun r => readString peerBE r.2 with
  | none => (a, .reset)
  | some (selected, _) =>
    if selected ≠ asciiBytes "ca" ∧ selected ≠ asciiBytes "anonymous" then
      (auth_complete ⟨.error, "Client selects unadvertised auth", ""⟩ a, .open)
    else (auth_complete Status.okStatus a, .open)

/-- The `switch(segCmd)` of `ServerConn::bevRead`.  The handlers of Search,
AuthZ, GetOp, PutOp, PutGetOp, RPCOp, CancelOp, DestroyOp, Introspect and
Message are empty, and the default case only drains `segBuf`. -/
def handleMessage (sources : List Source) : Handler ConnApp := fun cmd peerBE segBuf a =>
  if cmd = pva_app_msg.Echo then handle_Echo segBuf a
  else if cmd = pva_app_msg.ConnValid then handle_ConnValid peerBE segBuf a
  else if cmd = pva_app_msg.CreateChan then handle_CreateChan sources peerBE segBuf a
  else if cmd = pva_app_msg.DestroyChan then handle_DestroyChan peerBE segBuf a
  else (a, .open)

/-- The handlers' state of a new connection: no channels, `nextSID(0)`, and the
SetEndian and ConnValid messages the constructor queues. -/
def ConnApp.init : ConnApp := ⟨∅, ∅, 0, [.setEndian, .connValid ["anonymous", "ca"]], 0⟩

theorem ConnApp.init_inv : ConnApp.init.Inv :=
  ⟨rfl, by decide, by decide, fun _ _ h => (nomatch h), fun _ _ h => (nomatch h), fun _ _ h => (nomatch h)⟩

theorem handle_ConnValid_inv (peerBE : Bool) (segBuf : List UInt8) {a : ConnApp} (h : a.Inv) :
    (handle_ConnValid peerBE segBuf a).1.Inv ∧ (handle_ConnValid peerBE segBuf a).2.isAborted = false := by
  unfold handle_ConnValid
  split
  · exact ⟨h, rfl⟩
  · split_ifs <;> exact ⟨h.of_tables rfl rfl rfl, rfl⟩

/-- Every handler keeps the tables' invariant and never aborts. -/
theorem handleMessage_inv (sources : List Source) (cmd : UInt8) (peerBE : Bool) (segBuf : List UInt8)
    {a : ConnApp} (h : a.Inv) :
    (handleMessage sources cmd peerBE segBuf a).1.Inv ∧
      (handleMessage sources cmd peerBE segBuf a).2.isAborted = false := by
  unfold handleMessage
  split_ifs
  · exact ⟨h.of_tables rfl rfl rfl, rfl⟩
  · exact handle_ConnValid_inv peerBE segBuf h
  · exact handle_CreateChan_inv sources peerBE segBuf h
  · exact handle_DestroyChan_inv peerBE segBuf h
  · exact ⟨h, rfl⟩

/-- Along any arrivals, the invariant holds and no assertion fails. -/
theorem feedAll_inv (sources : List Source) (chunks : List (List UInt8)) :
    ∀ c : ServerConn ConnApp, c.app.Inv → c.status.isAborted = false →
      (feedAll (handleMessage sources) c chunks).app.Inv ∧
        (feedAll (handleMessage sources) c chunks).status.isAborted = false := by
  induction chunks with
  | nil => exact fun _ hc ha => ⟨hc, ha⟩
  | cons ch chs ih =>
    intro c hc ha
    obtain ⟨hc', ha'⟩ := bevRead_app_invariant (handleMessage sources) ConnApp.Inv
      (fun _ _ _ _ h => handleMessage_inv sources _ _ _ h) { c with rx := c.rx ++ ch } hc ha
    exact ih _ hc' ha'

/-- The dispatch of a CreateChan group runs `handle_CreateChan`. -/
theorem handleMessage_createChan (sources : List Source) (peerBE : Bool) (segBuf : List UInt8) (a : ConnApp) :
    handleMessage sources pva_app_msg.CreateChan peerBE segBuf a = handle_CreateChan sources peerBE segBuf a :=
  rfl

/-- A new connection reads the messages of a stream by the grammar, however
the stream is split into arrivals. -/
theorem feedAll_init_app (sources : List Source) (msgs : List Message) (chunks : List (List UInt8))
    (h : chunks.flatten = (msgs.map Message.encode).flatten) :
    (feedAll (handleMessage sources) (ServerConn.init ConnApp.init) chunks).app =
      (runHandlers (handleMessage sources) (segmentGroups none msgs).1 ConnApp.init).1 := by
  rw [feedAll_eq _ (bevRead_init _ _), h]
  exact (bevRead_messages _ msgs _ rfl rfl fun _ => rfl).1

/-- **The channel tables stay mutually inverse.**  A new connection's tables
satisfy `Inv`; along any arrivals of client bytes, whatever the sources
answer, `Inv` holds and no assertion aborts the server.  And for every stream
of messages a new connection receives, split into arrivals in any way, the
connection ends in the state of dispatching the stream's segment groups in
order, and at each dispatch the tables satisfy `Inv` and a CreateChan group
queues one reply per decoded entry, for its CID and in order, each with a
success status exactly when its entry added a channel under a SID and a CID
that were free (the tables being otherwise unchanged), and resets the
connection exactly when decoding fails. -/
theorem channel_tables_inverse (sources : List Source) :
    ConnApp.init.Inv ∧
    (∀ (c : ServerConn ConnApp) (chunks : List (List UInt8)), c.app.Inv → c.status.isAborted = false →
      (feedAll (handleMessage sources) c chunks).app.Inv ∧
        (feedAll (handleMessage sources) c chunks).status.isAborted = false) ∧
    ∀ (msgs : List Message) (chunks : List (List UInt8)), chunks.flatten = (msgs.map Message.encode).flatten →
      (feedAll (handleMessage sources) (ServerConn.init ConnApp.init) chunks).app =
          (runHandlers (handleMessage sources) (segmentGroups none msgs).1 ConnApp.init).1 ∧
        EveryDispatch (handleMessage sources)
          (fun g a => a.Inv ∧ (g.command = pva_app_msg.CreateChan →
            ∃ replies, (handleMessage sources g.command g.peerBE g.payload a).1.tx = a.tx ++ replies ∧
              EntriesReplied (createChanRequest g.peerBE g.payload).1 a replies
                (handleMessage sources g.command g.peerBE g.payload a).1 ∧
              (handleMessage sources g.command g.peerBE g.payload a).2 =
                if (createChanRequest g.peerBE g.payload).2 then .open else .reset))
          (segmentGroups none msgs).1 ConnApp.init :=
  ⟨ConnApp.init_inv, fun c chunks => feedAll_inv sources chunks c, fun msgs chunks h =>
    ⟨feedAll_init_app sources msgs chunks h,
      everyDispatch_of_inv _ ConnApp.Inv _ (fun _ _ ha => (handleMessage_inv sources _ _ _ ha).1)
        (fun g _ ha => ⟨ha, fun hc => by
          rw [hc, handleMessage_createChan]
          exact handle_CreateChan_replies sources g.peerBE g.payload ha⟩)
        _ _ ConnApp.init_inv⟩⟩

/-! ### A handler that clears `bev` -/

/-- A CreateChan request with an empty body, then an Echo. -/
def emptyCreateChanThenEcho : List Message :=
  [⟨0xca, 2, 0, pva_app_msg.CreateChan, 0, [], by decide, by decide⟩,
   ⟨0xca, 2, 0, pva_app_msg.Echo, 1, [7], by decide, by decide⟩]

/-- The grammar accepts both messages as two groups, but CreateChan fails to
decode its count and clears `bev`: the Echo is never dispatched, and the
connection ends `crashed`. -/
theorem bevRead_stops_after_handler_reset :
    segmentGroups none emptyCreateChanThenEcho =
        ([⟨pva_app_msg.CreateChan, false, []⟩, ⟨pva_app_msg.Echo, false, [7]⟩], false) ∧
      (bevRead (handleMessage [])
          { ServerConn.init ConnApp.init with
            rx := (emptyCreateChanThenEcho.map Message.encode).flatten }).status = .crashed ∧
      (bevRead (handleMessage [])
          { ServerConn.init ConnApp.init with
            rx := (emptyCreateChanThenEcho.map Message.encode).flatten }).app.tx = ConnApp.init.tx := by
  decide

end Pvxs
