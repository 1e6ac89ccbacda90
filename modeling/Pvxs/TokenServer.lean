import Pvxs.StdString
/-
The token endpoint of the JWT authenticator's test server (`handle_request`).

Each accepted connection is handled on a detached thread: `handle_request`
reads at most 1024 bytes into a zeroed buffer, takes the request up to the
first NUL, splits it with `std::string::find` and `substr`, and answers 200
with the token, 400, or 404.

* `handle_request_of_space` — a request with a space is answered as the plain
  reading says: 200 when it is a `POST` whose target, from the first space to
  the first `HTTP/1.1`, contains the endpoint and the request has `token=`
  anywhere, the token being the text after the first `token=` up to the first
  `&`; 400 when `token=` is missing; 404 otherwise;
* `handle_request_no_space` — a request without a space (the empty request of
  a client that closes at once among them) makes `substr` throw
  `std::out_of_range`, which nothing catches on the detached thread: the
  server process ends in `std::terminate`.

The request string reads past the buffer exactly when the first `read` filled
all 1024 bytes without a NUL (`handle_request_overread`).

Design notes: the request is the bytes `read` returned; 1024 bytes with no
NUL leave `std::string request(buffer)` reading past the buffer, the outcome
`overread`.  `size_t` is 64 bits wide and `std::string` holds one `Char` per
byte.  `TOKEN_ENDPOINT` (in `authnjwt.h`, not in src) is a parameter.
-/

namespace Pvxs

namespace TokenServer

open StdString

/-- The size of `buffer` in `handle_request`. -/
def bufferSize : ℕ := 1024

/-- `std::string request(buffer)` after `read` put `received` in the zeroed
buffer: the bytes up to the first NUL, or `none` when the buffer holds no NUL. -/
def requestOf (received : List UInt8) : Option (List Char) :=
  let buffer := (received ++ List.replicate bufferSize 0).take bufferSize
  if (0 : UInt8) ∈ buffer then some ((buffer.takeWhile (· != 0)).map fun b => Char.ofNat b.toNat)
  else none

/-- The reply to a request with the token. -/
def response200 : String := "HTTP/1.1 200 OK\r\nContent-Type: text/plain\r\n\r\nToken received"

/-- The reply to a request without `token=`. -/
def response400 : String :=
  "HTTP/1.1 400 Bad Request\r\nContent-Type: text/plain\r\n\r\nMissing \x27token\x27 parameter"

/-- The reply to any other request. -/
def response404 : String := "HTTP/1.1 404 Not Found\r\nContent-Type: text/plain\r\n\r\nNot Found"

/-- How `handle_request` ends: a reply sent (with the token it printed), an
exception that ends the process, or a read past the buffer. -/
inductive Outcome
  | sent (response : String) (token : Option String)
  | terminated (e : OutOfRange)
  | overread
  deriving DecidableEq, Repr

/-- The body of `handle_request` after the request string is built. -/
def respond (TOKEN_ENDPOINT request : List Char) : Except OutOfRange Outcome := do
  let method ← substr request 0 (find request " ".toList)
  let uri ← substr request (find request " ".toList)
    (sizeSub (find request "HTTP/1.1".toList) (find request " ".toList))
  if method = "POST".toList ∧ find uri TOKEN_ENDPOINT ≠ npos then
    let token_pos := find request "token=".toList
    if token_pos ≠ npos then
      let token ← substr request (token_pos + 6) npos
      let token ← substr token 0 (find token "&".toList)
      pure (.sent response200 (some (String.mk token)))
    else pure (.sent response400 none)
  else pure (.sent response404 none)

/-- `handle_request(client_socket)` when `read` returned `received`: an
exception escapes the detached thread and ends the process. -/
def handle_request (TOKEN_ENDPOINT : List Char) (received : List UInt8) : Outcome :=
  match requestOf received with
  | none => .overread
  | some request =>
    match respond TOKEN_ENDPOINT request with
    | .ok o => o
    | .error e => .terminated e

theorem requestOf_length {received : List UInt8} {request : List Char}
    (h : requestOf received = some request) : request.length ≤ bufferSize := by
  simp only [requestOf] at h
  split_ifs at h
  cases h
  calc _ = ((received ++ List.replicate bufferSize 0).take bufferSize |>.takeWhile (· != 0)).length :=
        List.length_map _ _
    _ ≤ ((received ++ List.replicate bufferSize 0).take bufferSize).length := (List.takeWhile_prefix _).length_le
    _ ≤ bufferSize := List.length_take_le _ _

/-- The target of a request `m ++ ' ' :: rest`: from the space to the first
`HTTP/1.1` after it, or to the end. -/
theorem uri_substr {m rest : List Char} (hH : 'H' ∉ m) (hlen : (m ++ ' ' :: rest).length ≤ bufferSize) :
    substr (m ++ ' ' :: rest) m.length (sizeSub (find (m ++ ' ' :: rest) "HTTP/1.1".toList) m.length) =
      .ok (' ' :: takeUntil "HTTP/1.1".toList rest) := by
  have hH' : 'H' ∉ m ++ [' '] := by simpa using hH
  have hfind : findAt "HTTP/1.1".toList (m ++ ' ' :: rest) =
      (findAt "HTTP/1.1".toList rest).map (· + (m.length + 1)) := by
    simpa using findAt_append (t := "TTP/1.1".toList) (s := rest) hH'
  rw [substr_ok _ (by simp), List.drop_left]
  simp only [List.length_append, List.length_cons, bufferSize] at hlen
  cases h : findAt "HTTP/1.1".toList rest with
  | none =>
    rw [find_of_findAt_none (by rw [hfind, h]; rfl), takeUntil_of_findAt_none h,
      List.take_of_length_le (by simp only [sizeSub, npos, List.length_cons]; omega)]
  | some j =>
    have hs : sizeSub (j + (m.length + 1)) m.length = j + 1 := by
      have := findAt_fits h
      simp only [sizeSub, npos]; omega
    rw [find_of_findAt (by rw [hfind, h]; rfl), hs, takeUntil_of_findAt (by simp) h, List.take_succ_cons]

/-- The text after the first `token=`, read as `request.substr(token_pos + 6)`. -/
theorem token_substr {request : List Char} {i : ℕ} (hlen : request.length ≤ bufferSize)
    (h : findAt "token=".toList request = some i) :
    substr request (i + 6) npos = .ok (request.drop (i + 6)) := by
  have hfit := findAt_fits h
  simp only [String.toList, List.length_cons, List.length_nil] at hfit
  rw [substr_ok _ (by omega), List.take_of_length_le (by simp only [List.length_drop, npos, bufferSize] at *; omega)]

theorem takeUntil_length_le (pat s : List Char) : (takeUntil pat s).length ≤ s.length := by
  induction s with
  | nil => exact le_refl _
  | cons c cs ih =>
    simp only [takeUntil]
    split_ifs <;> simp [ih]

theorem find_space {m rest : List Char} (hm : ' ' ∉ m) : find (m ++ ' ' :: rest) " ".toList = m.length :=
  find_of_findAt (by rw [show " ".toList = [' '] from rfl, findAt_append hm]; simp [findAt])

theorem handle_request_of_space (TOKEN_ENDPOINT : List Char) {received : List UInt8} {m rest : List Char}
    (hreq : requestOf received = some (m ++ ' ' :: rest)) (hm : ' ' ∉ m) :
    handle_request TOKEN_ENDPOINT received =
      if m = "POST".toList ∧ TOKEN_ENDPOINT <:+: ' ' :: takeUntil "HTTP/1.1".toList rest then
        match dropThrough "token=".toList (m ++ ' ' :: rest) with
        | some after => .sent response200 (some (String.mk (takeUntil "&".toList after)))
        | none => .sent response400 none
      else .sent response404 none := by
  have hlen := requestOf_length hreq
  simp only [handle_request, hreq, respond, find_space hm, substr_ok _ (Nat.zero_le _), List.drop_zero,
    List.take_left, bind, Except.bind]
  by_cases hpost : m = "POST".toList
  · subst hpost
    rw [uri_substr (by decide) hlen]
    simp only [true_and]
    have hu : (' ' :: takeUntil "HTTP/1.1".toList rest).length < npos := by
      have := takeUntil_length_le "HTTP/1.1".toList rest
      simp only [List.length_append, List.length_cons, bufferSize, npos] at hlen this ⊢
      omega
    by_cases hE : TOKEN_ENDPOINT <:+: ' ' :: takeUntil "HTTP/1.1".toList rest
    · rw [if_pos ((find_ne_npos_iff hu).mpr hE), if_pos hE]
      cases hT : findAt "token=".toList ("POST".toList ++ ' ' :: rest) with
      | none =>
        rw [find_of_findAt_none hT, dropThrough_of_findAt_none hT, if_neg (not_not.mpr rfl)]
        rfl
      | some i =>
        have hi : i ≠ npos := by
          have := findAt_fits hT
          simp only [bufferSize, npos] at hlen this ⊢
          omega
        rw [find_of_findAt hT, if_pos hi, token_substr hlen hT, dropThrough_of_findAt (by simp) hT]
        simp only [pure, Except.pure]
        rw [take_find (by simp) (by simp only [List.length_drop, bufferSize, npos] at hlen ⊢; omega)]
        rfl
    · rw [if_neg (mt (find_ne_npos_iff hu).mp hE), if_neg hE]
      rfl
  · have hpost' : m ≠ ['P', 'O', 'S', 'T'] := hpost
    rw [substr_ok _ (by simp)]
    simp [hpost', pure, Except.pure]

/-- The bytes of an ASCII text. -/
def ascii (s : String) : List UInt8 := s.toList.map fun c => c.toNat.toUInt8

/-- A token passed in the query string. -/
def queryRequest : List UInt8 := ascii "POST /auth?token=abc HTTP/1.1\r\n\r\n"

/-- A token in the query string is read with the rest of the request after it. -/
theorem handle_request_query_token :
    requestOf queryRequest = some ("POST".toList ++ ' ' :: "/auth?token=abc HTTP/1.1\r\n\r\n".toList) ∧
      ' ' ∉ "POST".toList ∧
      handle_request "/auth".toList queryRequest = .sent response200 (some "abc HTTP/1.1\r\n\r\n") :=
  have hreq : requestOf queryRequest =
      some ("POST".toList ++ ' ' :: "/auth?token=abc HTTP/1.1\r\n\r\n".toList) := by decide
  have hm : ' ' ∉ "POST".toList := by decide
  ⟨hreq, hm, (handle_request_of_space "/auth".toList hreq hm).trans (by decide)⟩

theorem handle_request_no_space (TOKEN_ENDPOINT : List Char) {received : List UInt8} {request : List Char}
    (hreq : requestOf received = some request) (hsp : ' ' ∉ request) :
    handle_request TOKEN_ENDPOINT received = .terminated ⟨npos, request.length⟩ := by
  have hf : find request " ".toList = npos :=
    find_of_findAt_none (by simpa [findAt] using findAt_append (t := []) (s := []) hsp)
  have hlen := requestOf_length hreq
  simp only [handle_request, hreq, respond, hf, substr_ok _ (Nat.zero_le _), bind, Except.bind,
    substr_error _ (show request.length < npos by simp only [bufferSize, npos] at hlen ⊢; omega)]

/-- A client that connects and closes at once ends the server. -/
theorem handle_request_empty :
    requestOf [] = some [] ∧ ' ' ∉ ([] : List Char) ∧
      handle_request "/auth".toList [] = .terminated ⟨npos, 0⟩ :=
  have hreq : requestOf [] = some [] := by decide
  ⟨hreq, List.not_mem_nil _, handle_request_no_space "/auth".toList hreq (List.not_mem_nil _)⟩

/-- The zeroed buffer holds no NUL only when `read` filled all of it with
non-NUL bytes. -/
theorem requestOf_eq_none {received : List UInt8} :
    requestOf received = none ↔ bufferSize ≤ received.length ∧ (0 : UInt8) ∉ received.take bufferSize := by
  unfold requestOf
  dsimp only
  by_cases hlen : bufferSize ≤ received.length
  · rw [List.take_append_of_le_length hlen]
    split_ifs with h <;> simp [hlen, h]
  · have hpad : (0 : UInt8) ∈ (received ++ List.replicate bufferSize 0).take bufferSize := by
      rw [List.take_append_eq_append_take, List.take_of_length_le (by omega), List.take_replicate]
      exact List.mem_append_right _ (List.mem_replicate.mpr ⟨by omega, rfl⟩)
    simp [hpad, hlen]

/-- `respond` only ever sends a reply. -/
theorem respond_ne_overread (TOKEN_ENDPOINT request : List Char) : respond TOKEN_ENDPOINT request ≠ .ok .overread := by
  unfold respond
  simp only [bind, Except.bind, pure, Except.pure]
  repeat' split
  all_goals simp_all

/-- The request string reads past the buffer exactly when `read` filled it
without a NUL. -/
theorem handle_request_overread (TOKEN_ENDPOINT : List Char) (received : List UInt8) :
    handle_request TOKEN_ENDPOINT received = .overread ↔
      bufferSize ≤ received.length ∧ (0 : UInt8) ∉ received.take bufferSize := by
  rw [← requestOf_eq_none]
  unfold handle_request
  cases h : requestOf received with
  | none => simp
  | some request =>
    simp only [reduceCtorEq, iff_false]
    split
    · rename_i o ho
      exact fun hx => respond_ne_overread TOKEN_ENDPOINT request (hx ▸ ho)
    · exact fun hx => nomatch hx

end TokenServer

end Pvxs
