import Mathlib.Data.List.AList
import Mathlib.Data.Finset.Card
import Pvxs.Framing
/-
The channel tables of a server connection (`ServerConn::handle_CreateChan`,
`ServerConn::handle_DestroyChan`).

`chanBySID` holds the connection's channels by server id; `chanByCID` maps
each client id to the channel, which the model names by its SID (entries of a
`std::map` do not move, so the pointer is the key).  Both are `AList`s, whose
`keys.length` is `size()`.

* `ConnApp.Inv` — the tables are mutually inverse and of equal size, and the
  next SID is a 32-bit value;
* `allocSID_isSome_of_lt` — the `do`/`while` search for a free SID ends
  within any number of tries, up to 2^32, above the number of SIDs taken
  (pigeonhole);
* `createChanEntry_sid_search` — a CreateChan entry runs the search only
  when a source claimed it, so only below `0xffffffff` channels, and from any
  `nextSID`, wrapped or not, it ends within `size() + 1` tries on a SID not in
  use, under which the channel is added;
* `createChanEntry_spec` — for one decoded CreateChan entry, from tables
  satisfying `Inv`: no assertion fails, exactly one reply is queued for the
  entry's CID, and it carries a success status exactly when the entry added a
  channel, the tables then growing by that channel and otherwise unchanged
  (`EntryAdded`);
* `handle_CreateChan_replies` — so a CreateChan request queues the replies
  `EntriesReplied` describes, one per decoded entry and in order;
* `handle_CreateChan_inv`, `handle_DestroyChan_inv` — both handlers keep
  `Inv` and never abort;
* `handle_DestroyChan_removes` — a DestroyChan removes the channel with the
  request's SID under that channel's own CID, whatever CID the request names.

Design notes: the answers of the sources' `onCreate` are a function of a
running count of CreateChan entries, so that every sequence of answers
(a handler, null, or an exception) is some choice of sources.  Allocation
failures are not modelled.
-/

namespace Pvxs

/-- `Status::type_t`. -/
inductive StatusCode
  | ok | warn | error | fatal
  deriving DecidableEq, Repr

/-- `Status`: a code, a message and a trace. -/
structure Status where
  code : StatusCode
  msg : String := ""
  trace : String := ""
  deriving DecidableEq, Repr

/-- `Status::isSuccess`. -/
def Status.isSuccess (sts : Status) : Bool := sts.code == .ok || sts.code == .warn

/-- The messages the connection queues on its output buffer. -/
inductive OutMsg
  /-- the control message `SetEndian` -/
  | setEndian
  /-- `ConnValid`, offering authentication methods -/
  | connValid (authMethods : List String)
  /-- `ConnValidated` with the status of the authentication -/
  | connValidated (sts : Status)
  /-- `Echo` of the client's bytes -/
  | echo (body : List UInt8)
  /-- the reply to a CreateChan entry -/
  | createChan (cid sid : ℕ) (sts : Status)
  /-- the reply to DestroyChan -/
  | destroyChan (cid sid : ℕ)
  deriving DecidableEq, Repr

/-- `ServerChannel`: its ids and the name it was created with. -/
structure ServerChannel where
  sid : ℕ
  cid : ℕ
  name : List UInt8
  deriving DecidableEq, Repr

/-- What a source's `onCreate` does with a channel request. -/
inductive OnCreate
  | handler
  | null
  | exception (what : String)
  deriving DecidableEq, Repr

/-- A source: the answer of its `onCreate` to the `k`-th CreateChan entry of
the connection, for a channel name. -/
abbrev Source := ℕ → List UInt8 → OnCreate

/-- The handlers' state of a server connection. -/
structure ConnApp where
  chanBySID : AList fun _ : ℕ => ServerChannel
  chanByCID : AList fun _ : ℕ => ℕ
  nextSID : ℕ
  tx : List OutMsg
  /-- the number of CreateChan entries handled so far -/
  creates : ℕ

/-- The loop over `iface->server->sources`: a handler from the first source
that gives one; a null answer or an exception (logged) passes on. -/
def findHandler (k : ℕ) (name : List UInt8) : List Source → Bool
  | [] => false
  | s :: rest =>
    match s k name with
    | .handler => true
    | .null => findHandler k name rest
    | .exception _ => findHandler k name rest

/-- The `do { sid = nextSID++; } while (chanBySID.find(sid) != end)` search,
with at most `fuel` tries: the free SID and the next `nextSID`. -/
def allocSID (chanBySID : AList fun _ : ℕ => ServerChannel) : ℕ → ℕ → Option (ℕ × ℕ)
  | 0, _ => none
  | fuel + 1, nextSID =>
    let sid := nextSID
    let nextSID := (nextSID + 1) % 2 ^ 32
    if (chanBySID.lookup sid).isSome then allocSID chanBySID fuel nextSID else some (sid, nextSID)

/-- `Status{Status::Ok}`. -/
def Status.okStatus : Status := ⟨.ok, "", ""⟩

/-- The status of too many channels. -/
def tooManyChannels : Status := ⟨.error, "Too many Server channels", "pvx:serv:chanidoverflow:"⟩

/-- The status of a CID in use. -/
def dupCid : Status := ⟨.fatal, "Client reuses existing CID", "pvx:serv:dupcid:"⟩

/-- The status of a request no source claimed. -/
def noSource : Status := ⟨.fatal, "Unable to create Channel", "pvx:serv:nosource:"⟩

/-- The status of a CreateChan entry before the sources are asked: too many
channels, then a CID in use. -/
def createChanStatus (a : ConnApp) (cid : ℕ) : Status :=
  let sts := if a.chanByCID.keys.length = 0xffffffff ∨ a.chanBySID.keys.length = 0xffffffff
    then tooManyChannels else Status.okStatus
  if sts.isSuccess ∧ (a.chanByCID.lookup cid).isSome then dupCid else sts

/-- One entry of `handle_CreateChan`, with its CID and name decoded.  An error
is a failed `assert(!!pair.second && !!pair2.second)`; the SID search that
would not end on a full `chanBySID` is returned as an error too. -/
def createChanEntry (sources : List Source) (cid : ℕ) (name : List UInt8) (a : ConnApp) :
    Except String ConnApp :=
  let sts := createChanStatus a cid
  let claimed := sts.isSuccess && !name.isEmpty && findHandler a.creates name sources
  let a := { a with creates := a.creates + 1 }
  if claimed then
    match allocSID a.chanBySID (2 ^ 32) a.nextSID with
    | some (sid, nextSID) =>
      if (a.chanBySID.lookup sid).isNone ∧ (a.chanByCID.lookup cid).isNone then
        .ok { a with chanBySID := a.chanBySID.insert sid ⟨sid, cid, name⟩,
                     chanByCID := a.chanByCID.insert cid sid, nextSID,
                     tx := a.tx ++ [.createChan cid sid sts] }
      else .error "!!pair.second && !!pair2.second"
    | none => .error "chanBySID full: the SID search does not end"
  else
    let sts := if sts.isSuccess then noSource else sts
    .ok { a with tx := a.tx ++ [.createChan cid 0xffffffff sts] }

/-- The loop of `handle_CreateChan` over `count` entries: the tables and
replies after it, and `M.good()`. -/
def createChanLoop (sources : List Source) (be : Bool) :
    ℕ → List UInt8 → ConnApp → Except String (ConnApp × Bool)
  | 0, _, a => .ok (a, true)
  | n + 1, buf, a =>
    match readU32 be buf with
    | none => .ok (a, false)
    | some (cid, buf) =>
      match readString be buf with
      | none => .ok (a, false)
      | some (name, buf) => do
        let a ← createChanEntry sources cid name a
        createChanLoop sources be n buf a

/-- `ServerConn::handle_CreateChan`: a decode error clears `bev`. -/
def handle_CreateChan (sources : List Source) (peerBE : Bool) (segBuf : List UInt8) (a : ConnApp) :
    ConnApp × ConnStatus :=
  match readU16 peerBE segBuf with
  | none => (a, .reset)
  | some (count, buf) =>
    match createChanLoop sources peerBE count buf a with
    | .ok (a, good) => (a, if good then .open else .reset)
    | .error assertion => (a, .aborted assertion)

/-- `ServerConn::handle_DestroyChan`.  The reply names the request's CID and
the SID, in that order. -/
def handle_DestroyChan (peerBE : Bool) (segBuf : List UInt8) (a : ConnApp) : ConnApp × ConnStatus :=
  match readU32 peerBE segBuf with
  | none => (a, .reset)
  | some (sid, buf) =>
    match readU32 peerBE buf with
    | none => (a, .reset)
    | some (cid, _) =>
      match a.chanBySID.lookup sid with
      | none => (a, .open)
      | some chan =>
        let n := if (a.chanByCID.lookup chan.cid).isSome then 1 else 0
        if n ≠ 1 then (a, .aborted "n==1")
        else ({ a with chanByCID := a.chanByCID.erase chan.cid, chanBySID := a.chanBySID.erase sid,
                       tx := a.tx ++ [.destroyChan cid sid] }, .open)

/-! ### The invariant -/

/-- The channel tables are mutually inverse. -/
structure ConnApp.Inv (a : ConnApp) : Prop where
  size_eq : a.chanBySID.keys.length = a.chanByCID.keys.length
  size_le : a.chanBySID.keys.length ≤ 0xffffffff
  nextSID_lt : a.nextSID < 2 ^ 32
  sid_eq : ∀ sid ch, a.chanBySID.lookup sid = some ch → ch.sid = sid
  cid_fwd : ∀ sid ch, a.chanBySID.lookup sid = some ch → a.chanByCID.lookup ch.cid = some sid
  cid_back : ∀ cid sid, a.chanByCID.lookup cid = some sid → ∃ ch, a.chanBySID.lookup sid = some ch ∧ ch.cid = cid

section Tables

variable {β : ℕ → Type} (s : AList β)

theorem keys_length_insert {k : ℕ} (v : β k) (h : s.lookup k = none) :
    (s.insert k v).keys.length = s.keys.length + 1 := by
  rw [AList.keys_insert, List.length_cons, List.erase_of_not_mem]
  exact fun hk => by simp [AList.lookup_eq_none, AList.mem_keys] at h; exact h hk

theorem keys_length_erase {k : ℕ} (h : (s.lookup k).isSome) : (s.erase k).keys.length = s.keys.length - 1 := by
  rw [AList.keys_erase, List.length_erase_of_mem]
  exact AList.mem_keys.mp (AList.lookup_isSome.mp h)

end Tables

/-! ### The SID search -/

theorem allocSID_some {s : AList fun _ : ℕ => ServerChannel} {fuel n sid n' : ℕ}
    (h : allocSID s fuel n = some (sid, n')) : s.lookup sid = none ∧ n' = (sid + 1) % 2 ^ 32 := by
  induction fuel generalizing n with
  | zero => cases h
  | succ fuel ih =>
    simp only [allocSID] at h
    split_ifs at h with hs
    · exact ih h
    · cases h; exact ⟨by simpa using hs, rfl⟩

theorem allocSID_none {s : AList fun _ : ℕ => ServerChannel} {fuel n : ℕ} (hn : n < 2 ^ 32)
    (h : allocSID s fuel n = none) : ∀ i < fuel, (s.lookup ((n + i) % 2 ^ 32)).isSome := by
  induction fuel generalizing n with
  | zero => intro i hi; omega
  | succ fuel ih =>
    simp only [allocSID] at h
    split_ifs at h with hs
    · intro i hi
      rcases i with _ | i
      · rwa [Nat.add_zero, Nat.mod_eq_of_lt hn]
      · have := ih (Nat.mod_lt _ (Nat.two_pow_pos 32)) h i (by omega)
        rwa [show ((n + 1) % 2 ^ 32 + i) % 2 ^ 32 = (n + (i + 1)) % 2 ^ 32 by omega] at this

/-- A search that ends within some number of tries ends the same way when
allowed more. -/
theorem allocSID_mono {s : AList fun _ : ℕ => ServerChannel} {fuel fuel' n : ℕ} {r : ℕ × ℕ}
    (h : allocSID s fuel n = some r) (hf : fuel ≤ fuel') : allocSID s fuel' n = some r := by
  induction fuel generalizing n fuel' with
  | zero => cases h
  | succ fuel ih =>
    obtain ⟨fuel', rfl⟩ : ∃ m, fuel' = m + 1 := ⟨fuel' - 1, by omega⟩
    simp only [allocSID] at h ⊢
    split_ifs at h ⊢
    · exact ih h (by omega)
    · exact h

/-- **The SID search ends within `fuel` tries** when fewer than `fuel` SIDs are
taken, `fuel` at most 2^32: the SIDs a failed search finds taken are `fuel`
distinct keys of `chanBySID` (pigeonhole). -/
theorem allocSID_isSome_of_lt {s : AList fun _ : ℕ => ServerChannel} {fuel n : ℕ} (hn : n < 2 ^ 32)
    (hf : fuel ≤ 2 ^ 32) (hs : s.keys.length < fuel) : (allocSID s fuel n).isSome := by
  cases h : allocSID s fuel n with
  | some _ => rfl
  | none =>
    have hall := allocSID_none hn h
    have hsub : (Finset.range fuel).image (fun i => (n + i) % 2 ^ 32) ⊆ s.keys.toFinset := by
      intro x hx
      obtain ⟨i, hi, rfl⟩ := Finset.mem_image.mp hx
      exact List.mem_toFinset.mpr (AList.mem_keys.mp (AList.lookup_isSome.mp (hall i (Finset.mem_range.mp hi))))
    have hcard : ((Finset.range fuel).image fun i => (n + i) % 2 ^ 32).card = fuel := by
      rw [Finset.card_image_of_injOn (fun i hi j hj hij => by
        simp only [Finset.coe_range, Set.mem_Iio] at hi hj hij; omega), Finset.card_range]
    have := (Finset.card_le_card hsub).trans (List.toFinset_card_le _)
    omega

/-- **The SID search ends** while fewer than 2^32 SIDs are taken. -/
theorem allocSID_isSome {s : AList fun _ : ℕ => ServerChannel} {n : ℕ} (hn : n < 2 ^ 32)
    (hs : s.keys.length < 2 ^ 32) : (allocSID s (2 ^ 32) n).isSome :=
  allocSID_isSome_of_lt hn le_rfl hs

/-! ### Keeping the invariant -/

/-- A step that leaves the tables and `nextSID` alone keeps `Inv`. -/
theorem ConnApp.Inv.of_tables {a b : ConnApp} (h : a.Inv) (hs : b.chanBySID = a.chanBySID)
    (hc : b.chanByCID = a.chanByCID) (hn : b.nextSID = a.nextSID) : b.Inv := by
  rcases b with ⟨_, _, _, _, _⟩
  simp only at hs hc hn
  subst hs hc hn
  exact ⟨h.size_eq, h.size_le, h.nextSID_lt, h.sid_eq, h.cid_fwd, h.cid_back⟩

/-- Adding a channel under a free SID and a free CID keeps `Inv`, below the
size limit. -/
theorem ConnApp.Inv.insert {a : ConnApp} (h : a.Inv) {sid cid nextSID : ℕ} (name : List UInt8)
    (tx : List OutMsg) (creates : ℕ) (hsid : a.chanBySID.lookup sid = none)
    (hcid : a.chanByCID.lookup cid = none) (hsize : a.chanBySID.keys.length ≠ 0xffffffff)
    (hn : nextSID < 2 ^ 32) :
    ConnApp.Inv ⟨a.chanBySID.insert sid ⟨sid, cid, name⟩, a.chanByCID.insert cid sid, nextSID, tx,
      creates⟩ := by
  have hle := h.size_le
  refine ⟨?_, ?_, hn, ?_, ?_, ?_⟩
  · simp only [keys_length_insert _ _ hsid, keys_length_insert _ _ hcid, h.size_eq]
  · simp only [keys_length_insert _ _ hsid]; omega
  · intro s ch hs
    by_cases e : s = sid
    · subst e; rw [AList.lookup_insert] at hs; cases hs; rfl
    · rw [AList.lookup_insert_ne e] at hs; exact h.sid_eq s ch hs
  · intro s ch hs
    by_cases e : s = sid
    · subst e; rw [AList.lookup_insert] at hs; cases hs; exact AList.lookup_insert _
    · rw [AList.lookup_insert_ne e] at hs
      have hf := h.cid_fwd s ch hs
      have hne : ch.cid ≠ cid := fun hc => by rw [hc, hcid] at hf; cases hf
      rw [AList.lookup_insert_ne hne]; exact hf
  · intro c s hc
    by_cases e : c = cid
    · subst e; rw [AList.lookup_insert] at hc; cases hc; exact ⟨_, AList.lookup_insert _, rfl⟩
    · rw [AList.lookup_insert_ne e] at hc
      obtain ⟨ch, hch, rfl⟩ := h.cid_back c s hc
      have hne : s ≠ sid := fun hs => by rw [hs, hsid] at hch; cases hch
      exact ⟨ch, by rw [AList.lookup_insert_ne hne]; exact hch, rfl⟩

/-- Removing a channel and its CID keeps `Inv`. -/
theorem ConnApp.Inv.erase {a : ConnApp} (h : a.Inv) {sid : ℕ} {ch : ServerChannel} (tx : List OutMsg)
    (creates : ℕ) (hsid : a.chanBySID.lookup sid = some ch) :
    ConnApp.Inv ⟨a.chanBySID.erase sid, a.chanByCID.erase ch.cid, a.nextSID, tx, creates⟩ := by
  have hcid := h.cid_fwd sid ch hsid
  have hle := h.size_le
  refine ⟨?_, ?_, h.nextSID_lt, ?_, ?_, ?_⟩
  · rw [keys_length_erase _ (by rw [hsid]; rfl), keys_length_erase _ (by rw [hcid]; rfl), h.size_eq]
  · rw [keys_length_erase _ (by rw [hsid]; rfl)]; omega
  · intro s c hs
    by_cases e : s = sid
    · subst e; rw [AList.lookup_erase] at hs; cases hs
    · rw [AList.lookup_erase_ne e] at hs; exact h.sid_eq s c hs
  · intro s c hs
    by_cases e : s = sid
    · subst e; rw [AList.lookup_erase] at hs; cases hs
    · rw [AList.lookup_erase_ne e] at hs
      have hf := h.cid_fwd s c hs
      have hne : c.cid ≠ ch.cid := fun hc => by
        rw [hc, hcid] at hf; exact e (Option.some.inj hf).symm
      rw [AList.lookup_erase_ne hne]; exact hf
  · intro c s hc
    by_cases e : c = ch.cid
    · subst e; rw [AList.lookup_erase] at hc; cases hc
    · rw [AList.lookup_erase_ne e] at hc
      obtain ⟨c', hc', rfl⟩ := h.cid_back c s hc
      have hne : s ≠ sid := fun hs => by
        rw [hs, hsid] at hc'; exact e (congrArg ServerChannel.cid (Option.some.inj hc')).symm
      exact ⟨c', by rw [AList.lookup_erase_ne hne]; exact hc', rfl⟩

/-! ### One CreateChan entry -/

theorem createChanStatus_isSuccess {a : ConnApp} {cid : ℕ}
    (h : (createChanStatus a cid).isSuccess = true) :
    createChanStatus a cid = Status.okStatus ∧ a.chanBySID.keys.length ≠ 0xffffffff ∧
      a.chanByCID.lookup cid = none := by
  unfold createChanStatus at h ⊢
  dsimp only at h ⊢
  split_ifs at h ⊢ with h1 h2 <;> try cases h
  rename_i h2
  exact ⟨rfl, fun e => h1 (.inr e), by simpa [Status.isSuccess, Status.okStatus] using h2⟩

theorem unclaimedStatus_isSuccess (sts : Status) :
    (if sts.isSuccess then noSource else sts).isSuccess = false := by
  split
  · rfl
  · rename_i h; simpa using h

theorem createChanEntry_unclaimed {sources : List Source} {cid : ℕ} {name : List UInt8} {a : ConnApp}
    (h : ((createChanStatus a cid).isSuccess && !name.isEmpty && findHandler a.creates name sources) = false) :
    createChanEntry sources cid name a =
      .ok { a with
        creates := a.creates + 1
        tx := a.tx ++ [.createChan cid 0xffffffff
          (if (createChanStatus a cid).isSuccess then noSource else createChanStatus a cid)] } := by
  simp only [createChanEntry, h, Bool.false_eq_true, if_false]

theorem isSuccess_of_claimed {sources : List Source} {cid : ℕ} {name : List UInt8} {a : ConnApp}
    (h : ((createChanStatus a cid).isSuccess && !name.isEmpty && findHandler a.creates name sources) = true) :
    (createChanStatus a cid).isSuccess = true := by
  simp only [Bool.and_eq_true] at h
  exact h.1.1

/-- A claimed entry adds its channel under the SID the search finds. -/
theorem createChanEntry_of_allocSID {sources : List Source} {cid : ℕ} {name : List UInt8} {a : ConnApp}
    {sid n' : ℕ}
    (h : ((createChanStatus a cid).isSuccess && !name.isEmpty && findHandler a.creates name sources) = true)
    (hal : allocSID a.chanBySID (2 ^ 32) a.nextSID = some (sid, n')) :
    createChanEntry sources cid name a =
      .ok { a with
        creates := a.creates + 1
        chanBySID := a.chanBySID.insert sid ⟨sid, cid, name⟩
        chanByCID := a.chanByCID.insert cid sid
        nextSID := n'
        tx := a.tx ++ [.createChan cid sid Status.okStatus] } := by
  obtain ⟨hok, -, hcid⟩ := createChanStatus_isSuccess (isSuccess_of_claimed h)
  unfold createChanEntry
  dsimp only
  rw [if_pos h, hal]
  simp only [(allocSID_some hal).1, hcid, hok, Option.isNone_none, and_self, if_true]

theorem createChanEntry_claimed {sources : List Source} {cid : ℕ} {name : List UInt8} {a : ConnApp}
    (hinv : a.Inv)
    (h : ((createChanStatus a cid).isSuccess && !name.isEmpty && findHandler a.creates name sources) = true) :
    ∃ sid nextSID, a.chanBySID.lookup sid = none ∧ a.chanByCID.lookup cid = none ∧
      a.chanBySID.keys.length ≠ 0xffffffff ∧ nextSID < 2 ^ 32 ∧
      createChanEntry sources cid name a =
        .ok { a with
          creates := a.creates + 1
          chanBySID := a.chanBySID.insert sid ⟨sid, cid, name⟩
          chanByCID := a.chanByCID.insert cid sid
          nextSID
          tx := a.tx ++ [.createChan cid sid Status.okStatus] } := by
  have hs := isSuccess_of_claimed h
  obtain ⟨hok, hsize, hcid⟩ := createChanStatus_isSuccess hs
  have hlt : a.chanBySID.keys.length < 2 ^ 32 := by have := hinv.size_le; omega
  obtain ⟨⟨sid, n'⟩, hal⟩ := Option.isSome_iff_exists.mp (allocSID_isSome hinv.nextSID_lt hlt)
  obtain ⟨hsid, rfl⟩ := allocSID_some hal
  exact ⟨sid, _, hsid, hcid, hsize, Nat.mod_lt _ (Nat.two_pow_pos 32), createChanEntry_of_allocSID h hal⟩

/-- **The SID search of a CreateChan entry.**  An entry runs the search only
when a source claimed it after the status check passed; otherwise it is
answered with SID `0xffffffff` and leaves the tables alone.  The check passes
only while `chanBySID` has fewer than `0xffffffff` entries, when it never had
more (as in every reachable state, `ConnApp.Inv`).  From any 32-bit
`nextSID`, whatever SIDs are open, the search then ends within `size() + 1`
tries on a SID that is not a key of `chanBySID`, the one the 2^32-try search
of `createChanEntry` takes, and the entry adds its channel under it. -/
theorem createChanEntry_sid_search (sources : List Source) (cid : ℕ) (name : List UInt8) (a : ConnApp)
    (hn : a.nextSID < 2 ^ 32) (hsize : a.chanBySID.keys.length ≤ 0xffffffff) :
    (((createChanStatus a cid).isSuccess && !name.isEmpty && findHandler a.creates name sources) = false →
      createChanEntry sources cid name a =
        .ok { a with
          creates := a.creates + 1
          tx := a.tx ++ [.createChan cid 0xffffffff
            (if (createChanStatus a cid).isSuccess then noSource else createChanStatus a cid)] }) ∧
    (((createChanStatus a cid).isSuccess && !name.isEmpty && findHandler a.creates name sources) = true →
      a.chanBySID.keys.length < 0xffffffff ∧
      ∃ sid, allocSID a.chanBySID (a.chanBySID.keys.length + 1) a.nextSID = some (sid, (sid + 1) % 2 ^ 32) ∧
        allocSID a.chanBySID (2 ^ 32) a.nextSID = some (sid, (sid + 1) % 2 ^ 32) ∧
        a.chanBySID.lookup sid = none ∧
        createChanEntry sources cid name a =
          .ok { a with
            creates := a.creates + 1
            chanBySID := a.chanBySID.insert sid ⟨sid, cid, name⟩
            chanByCID := a.chanByCID.insert cid sid
            nextSID := (sid + 1) % 2 ^ 32
            tx := a.tx ++ [.createChan cid sid Status.okStatus] }) := by
  refine ⟨createChanEntry_unclaimed, fun hclaimed => ?_⟩
  have hlt : a.chanBySID.keys.length < 0xffffffff := by
    have := (createChanStatus_isSuccess (isSuccess_of_claimed hclaimed)).2.1; omega
  obtain ⟨⟨sid, n'⟩, hal⟩ :=
    Option.isSome_iff_exists.mp (allocSID_isSome_of_lt (s := a.chanBySID) hn (by omega) (Nat.lt_succ_self _))
  obtain ⟨hsid, rfl⟩ := allocSID_some hal
  have h32 := allocSID_mono hal (by omega : a.chanBySID.keys.length + 1 ≤ 2 ^ 32)
  exact ⟨hlt, sid, hal, h32, hsid, createChanEntry_of_allocSID hclaimed h32⟩

/-- A connection whose `nextSID` is about to wrap, with the SIDs `0xffffffff`
and `0` open: a search tries both, then takes `1`. -/
def wrappedConn : ConnApp :=
  ⟨((∅ : AList fun _ : ℕ => ServerChannel).insert 0xffffffff ⟨0xffffffff, 1, [0x61]⟩).insert 0 ⟨0, 2, [0x62]⟩,
    ((∅ : AList fun _ : ℕ => ℕ).insert 1 0xffffffff).insert 2 0, 0xffffffff, [], 2⟩

theorem createChanEntry_sid_search_wrapped :
    wrappedConn.nextSID < 2 ^ 32 ∧ wrappedConn.chanBySID.keys.length ≤ 0xffffffff ∧
      ((createChanStatus wrappedConn 3).isSuccess && !List.isEmpty [0x63] &&
        findHandler wrappedConn.creates [0x63] [fun _ _ => .handler]) = true ∧
      wrappedConn.chanBySID.keys.length < 0xffffffff ∧
      ∃ sid, allocSID wrappedConn.chanBySID (wrappedConn.chanBySID.keys.length + 1) wrappedConn.nextSID =
          some (sid, (sid + 1) % 2 ^ 32) ∧
        allocSID wrappedConn.chanBySID (2 ^ 32) wrappedConn.nextSID = some (sid, (sid + 1) % 2 ^ 32) ∧
        wrappedConn.chanBySID.lookup sid = none ∧
        createChanEntry [fun _ _ => .handler] 3 [0x63] wrappedConn =
          .ok { wrappedConn with
            creates := wrappedConn.creates + 1
            chanBySID := wrappedConn.chanBySID.insert sid ⟨sid, 3, [0x63]⟩
            chanByCID := wrappedConn.chanByCID.insert 3 sid
            nextSID := (sid + 1) % 2 ^ 32
            tx := wrappedConn.tx ++ [.createChan 3 sid Status.okStatus] } :=
  have hclaimed : ((createChanStatus wrappedConn 3).isSuccess && !List.isEmpty [0x63] &&
      findHandler wrappedConn.creates [0x63] [fun _ _ => .handler]) = true := by decide
  ⟨by decide, by decide, hclaimed,
    (createChanEntry_sid_search [fun _ _ => .handler] 3 [0x63] wrappedConn (by decide) (by decide)).2 hclaimed⟩

/-- What a CreateChan entry with CID `cid` and name `name`, answered with SID
`sid` and status `sts`, did to the tables, from `a` to `a'`: a success status
exactly when it added a channel under a SID and a CID that were free;
otherwise the tables are unchanged. -/
def EntryAdded (cid : ℕ) (name : List UInt8) (sid : ℕ) (sts : Status) (a a' : ConnApp) : Prop :=
  sts.isSuccess = true ∧ a.chanBySID.lookup sid = none ∧ a.chanByCID.lookup cid = none ∧
      a'.chanBySID = a.chanBySID.insert sid ⟨sid, cid, name⟩ ∧ a'.chanByCID = a.chanByCID.insert cid sid ∨
    sts.isSuccess = false ∧ a'.chanBySID = a.chanBySID ∧ a'.chanByCID = a.chanByCID

/-- **One CreateChan entry**, from tables satisfying `Inv`: no assertion
fails, exactly one reply is queued, for the entry's CID, `Inv` holds after,
and the reply's status tells whether the entry added a channel. -/
theorem createChanEntry_spec (sources : List Source) (cid : ℕ) (name : List UInt8) {a : ConnApp}
    (h : a.Inv) : ∃ a' sid sts, createChanEntry sources cid name a = .ok a' ∧
      a'.tx = a.tx ++ [.createChan cid sid sts] ∧ a'.Inv ∧ EntryAdded cid name sid sts a a' := by
  cases hcl : ((createChanStatus a cid).isSuccess && !name.isEmpty && findHandler a.creates name sources)
  case true =>
    obtain ⟨sid, n', hsid, hcid, hsize, hn', he⟩ := createChanEntry_claimed h hcl
    exact ⟨_, sid, _, he, rfl, h.insert name _ _ hsid hcid hsize hn', .inl ⟨rfl, hsid, hcid, rfl, rfl⟩⟩
  case false =>
    exact ⟨_, _, _, createChanEntry_unclaimed hcl, rfl, h.of_tables rfl rfl rfl,
      .inr ⟨unclaimedStatus_isSuccess _, rfl, rfl⟩⟩

/-! ### The CreateChan loop -/

/-- The entries the loop of `handle_CreateChan` decodes, one CID and one name
each, and whether decoding went through (`M.good()`). -/
def createChanEntries (be : Bool) : ℕ → List UInt8 → List (ℕ × List UInt8) × Bool
  | 0, _ => ([], true)
  | n + 1, buf =>
    match readU32 be buf with
    | none => ([], false)
    | some (cid, buf) =>
      match readString be buf with
      | none => ([], false)
      | some (name, buf) =>
        let r := createChanEntries be n buf
        ((cid, name) :: r.1, r.2)

/-- CreateChan entries handled in turn, from the tables of `a` to those of
`a'`, with the replies `replies`: one reply per entry, for the entry's CID and
in order, each telling by its status whether its entry added a channel. -/
def EntriesReplied : List (ℕ × List UInt8) → ConnApp → List OutMsg → ConnApp → Prop
  | [], a, replies, a' => replies = [] ∧ a'.chanBySID = a.chanBySID ∧ a'.chanByCID = a.chanByCID
  | (cid, name) :: es, a, replies, a' =>
    ∃ sid sts rest, ∃ a₁ : ConnApp, replies = .createChan cid sid sts :: rest ∧
      EntryAdded cid name sid sts a a₁ ∧ EntriesReplied es a₁ rest a'

/-- The loop handles the decoded entries one after the other, in order. -/
theorem createChanLoop_eq (sources : List Source) (be : Bool) (n : ℕ) (buf : List UInt8) (a : ConnApp) :
    createChanLoop sources be n buf a =
      (fun a => (a, (createChanEntries be n buf).2)) <$>
        (createChanEntries be n buf).1.foldlM (fun a e => createChanEntry sources e.1 e.2 a) a := by
  induction n generalizing buf a with
  | zero => rfl
  | succ n ih =>
    rcases h1 : readU32 be buf with _ | ⟨cid, buf₁⟩
    · simp only [createChanLoop, createChanEntries, h1]; rfl
    rcases h2 : readString be buf₁ with _ | ⟨name, buf₂⟩
    · simp only [createChanLoop, createChanEntries, h1, h2]; rfl
    simp only [createChanLoop, createChanEntries, h1, h2, List.foldlM_cons]
    cases createChanEntry sources cid name a with
    | error e => rfl
    | ok a' => exact ih _ _

/-- Entries handled in turn from tables satisfying `Inv`: `Inv` holds after,
and the replies queued are those `EntriesReplied` describes. -/
theorem createChanEntries_replies (sources : List Source) :
    ∀ (es : List (ℕ × List UInt8)) {a : ConnApp}, a.Inv →
      ∃ a' replies, es.foldlM (fun a e => createChanEntry sources e.1 e.2 a) a = .ok a' ∧ a'.Inv ∧
        a'.tx = a.tx ++ replies ∧ EntriesReplied es a replies a'
  | [], a, h => ⟨a, [], rfl, h, (List.append_nil _).symm, rfl, rfl, rfl⟩
  | (cid, name) :: es, a, h => by
    obtain ⟨a₁, sid, sts, he, htx, h₁, hadd⟩ := createChanEntry_spec sources cid name h
    obtain ⟨a', rs, hf, h', htx', hr⟩ := createChanEntries_replies sources es h₁
    refine ⟨a', _ :: rs, ?_, h', by rw [htx', htx, List.append_assoc]; rfl, sid, sts, rs, a₁, rfl, hadd, hr⟩
    rw [List.foldlM_cons, he]
    exact hf

theorem createChanLoop_inv (sources : List Source) (be : Bool) (n : ℕ) (buf : List UInt8) {a : ConnApp}
    (h : a.Inv) :
    ∃ a', createChanLoop sources be n buf a = .ok (a', (createChanEntries be n buf).2) ∧ a'.Inv := by
  obtain ⟨a', _, hf, h', -⟩ := createChanEntries_replies sources (createChanEntries be n buf).1 h
  exact ⟨a', by rw [createChanLoop_eq, hf]; rfl, h'⟩

/-! ### The handlers -/

/-- The entries of a CreateChan request, after its count, and whether the
whole request decoded. -/
def createChanRequest (be : Bool) (segBuf : List UInt8) : List (ℕ × List UInt8) × Bool :=
  match readU16 be segBuf with
  | none => ([], false)
  | some (count, buf) => createChanEntries be count buf

/-- A CreateChan request from tables satisfying `Inv`: the replies to its
decoded entries as `EntriesReplied` describes them, and the connection reset
exactly when decoding failed. -/
theorem handle_CreateChan_replies (sources : List Source) (be : Bool) (segBuf : List UInt8)
    {a : ConnApp} (h : a.Inv) : ∃ replies,
      (handle_CreateChan sources be segBuf a).1.tx = a.tx ++ replies ∧
      EntriesReplied (createChanRequest be segBuf).1 a replies (handle_CreateChan sources be segBuf a).1 ∧
      (handle_CreateChan sources be segBuf a).2 = if (createChanRequest be segBuf).2 then .open else .reset := by
  unfold handle_CreateChan createChanRequest
  rcases readU16 be segBuf with _ | ⟨count, buf⟩
  · exact ⟨[], (List.append_nil _).symm, ⟨rfl, rfl, rfl⟩, rfl⟩
  obtain ⟨a', rs, hf, -, htx, hr⟩ := createChanEntries_replies sources (createChanEntries be count buf).1 h
  simp only [createChanLoop_eq, hf]
  exact ⟨rs, htx, hr, rfl⟩

theorem handle_CreateChan_inv (sources : List Source) (peerBE : Bool) (segBuf : List UInt8) {a : ConnApp}
    (h : a.Inv) : (handle_CreateChan sources peerBE segBuf a).1.Inv ∧
      (handle_CreateChan sources peerBE segBuf a).2.isAborted = false := by
  unfold handle_CreateChan
  rcases readU16 peerBE segBuf with _ | ⟨count, buf⟩
  · exact ⟨h, rfl⟩
  obtain ⟨a', he, h'⟩ := createChanLoop_inv sources peerBE count buf h
  simp only [he]
  exact ⟨h', by cases (createChanEntries peerBE count buf).2 <;> rfl⟩

theorem handle_DestroyChan_inv (peerBE : Bool) (segBuf : List UInt8) {a : ConnApp} (h : a.Inv) :
    (handle_DestroyChan peerBE segBuf a).1.Inv ∧ (handle_DestroyChan peerBE segBuf a).2.isAborted = false := by
  unfold handle_DestroyChan
  split
  · exact ⟨h, rfl⟩
  split
  · exact ⟨h, rfl⟩
  split
  · exact ⟨h, rfl⟩
  rename_i ch hs
  simp only [h.cid_fwd _ ch hs, Option.isSome_some, if_true, ne_eq, not_true_eq_false, if_false]
  exact ⟨h.erase _ _ hs, rfl⟩

/-- A DestroyChan request whose ids decode, from tables satisfying `Inv`: the
connection stays open, the channel with the request's SID leaves `chanBySID`
(with its own CID, whatever CID the request names), the other SIDs keep their
channels, and a reply with the request's ids is queued exactly when there was
such a channel. -/
theorem handle_DestroyChan_removes (be : Bool) (segBuf : List UInt8) {a : ConnApp} (h : a.Inv)
    {sid cid : ℕ} {buf rest : List UInt8} (h1 : readU32 be segBuf = some (sid, buf))
    (h2 : readU32 be buf = some (cid, rest)) :
    (handle_DestroyChan be segBuf a).2 = .open ∧
      (handle_DestroyChan be segBuf a).1.chanBySID.lookup sid = none ∧
      (∀ s, s ≠ sid → (handle_DestroyChan be segBuf a).1.chanBySID.lookup s = a.chanBySID.lookup s) ∧
      (handle_DestroyChan be segBuf a).1.tx =
        a.tx ++ if (a.chanBySID.lookup sid).isSome then [.destroyChan cid sid] else [] := by
  unfold handle_DestroyChan
  simp only [h1, h2]
  rcases hs : a.chanBySID.lookup sid with _ | ch
  · exact ⟨rfl, hs, fun _ _ => rfl, by simp⟩
  simp only [h.cid_fwd _ ch hs, Option.isSome_some, if_true, ne_eq, not_true_eq_false, if_false]
  exact ⟨trivial, AList.lookup_erase _ _, fun _ hne => AList.lookup_erase_ne hne, trivial⟩

end Pvxs
