import Mathlib.Data.String.Defs
import Pvxs.StatusDate
/-
The name of a certificate's status PV (`certstatus.h`).

`getIssuerId` prints the issuer's Subject Key Identifier in hex until the
stream holds 8 characters, and `makeStatusURI` joins that issuer id and the
certificate's serial under `CERT:STATUS`.  For every SKI of at least four
bytes and every 64-bit serial:

* **`getIssuerId_eq`** — the issuer id is the lowercase hex of the first four
  SKI bytes, 8 characters, each `0`–`9` or `a`–`f` (`lowerHex_chars`);
* **`makeStatusURI_length`** — the name has 21 characters besides the serial,
  which is written in decimal and padded with zeros to at least 16 digits: 37
  characters exactly for a serial below 10^16, up to 41;
* **`makeStatusURI_matches`** — the name matches the wildcard
  `CERT:STATUS:????????:*` the CMS serves.

Design notes: a stream is the text written to it; `tellp()` is its length,
every character written being ASCII.  `std::setw(w) << std::setfill(c)`
before one output is `String.leftpad w c` of that output (the default right
adjustment); `std::hex` prints a nonnegative `int` as `Nat.toDigits 16`, and a
fresh stream prints an integer in decimal, `Nat.repr`.
-/

namespace Pvxs

/-- `GET_MONITOR_CERT_STATUS_ROOT`. -/
def getMonitorCertStatusRoot : String := "CERT:STATUS"

/-- `GET_MONITOR_CERT_STATUS_PV`: the wildcard name the CMS serves every
status PV under. -/
def getMonitorCertStatusPv : String := "CERT:STATUS:????????:*"

/-- Modelled from the spec: a name matched against a wildcard PV name, where
`?` stands for one character and `*` for any run of characters. -/
def wildcardMatch : List Char → List Char → Bool
  | [], s => s.isEmpty
  | '*' :: p, s => (List.range (s.length + 1)).any fun k => wildcardMatch p (s.drop k)
  | '?' :: p, s => !s.isEmpty && wildcardMatch p s.tail
  | c :: p, s => s.head? == some c && wildcardMatch p s.tail

/-- `ss << std::hex << std::setw(2) << std::setfill('0') << static_cast<int>(b)`:
the byte in lowercase hex, padded to two digits. -/
def hexByte (b : UInt8) : String := String.leftpad 2 '0' ⟨Nat.toDigits 16 b.toNat⟩

/-- The loop of `getIssuerId`,
`for (i = 0; i < skid->length && ss.tellp() < 8; i++)`, from the text `ss`
written so far. -/
def issuerIdLoop : List UInt8 → String → String
  | [], ss => ss
  | b :: bs, ss => if ss.length < 8 then issuerIdLoop bs (ss ++ hexByte b) else ss

/-- `CertStatus::getIssuerId`, given the data of the certificate's Subject Key
Identifier extension, `none` when it has none. -/
def getIssuerId (skid : Option (List UInt8)) : Except Exn String :=
  match skid with
  | none => throw (.runtime "Failed to get Subject Key Identifier.")
  | some data => pure (issuerIdLoop data "")

/-- `CertStatus::makeStatusURI`: `SB()` is a fresh stream, so the serial is
printed in decimal, then padded with zeros to 16 characters. -/
def makeStatusURI (issuer_id : String) (serial : UInt64) : String :=
  getMonitorCertStatusRoot ++ ":" ++ issuer_id ++ ":" ++ String.leftpad 16 '0' (Nat.repr serial.toNat)

/-! ### The names the spec gives -/

/-- Lowercase hexadecimal, two digits a byte, high half first. -/
def lowerHex (bs : List UInt8) : String :=
  ⟨bs.flatMap fun b => [Nat.digitChar (b.toNat / 16), Nat.digitChar (b.toNat % 16)]⟩

/-- Modelled from the spec: `hex16(n)`, the serial in hexadecimal, zero-padded
to 16 digits. -/
def hex16 (serial : UInt64) : String := String.leftpad 16 '0' ⟨Nat.toDigits 16 serial.toNat⟩

/-- Modelled from the spec: the status PV name
`CERT:STATUS:<issuer_id>:<serial16hex>`. -/
def statusPvName (issuer_id : String) (serial : UInt64) : String :=
  "CERT:STATUS:" ++ issuer_id ++ ":" ++ hex16 serial

/-! ### Digits -/

/-- `Nat.toDigits` spells `Nat.digits` out, most significant digit first. -/
theorem toDigitsCore_eq_digits {b : ℕ} (hb : 2 ≤ b) :
    ∀ (fuel n : ℕ) (ds : List Char), 0 < n → n < fuel →
      Nat.toDigitsCore b fuel n ds = ((Nat.digits b n).map Nat.digitChar).reverse ++ ds
  | 0, _, _, _, h => absurd h (Nat.not_lt_zero _)
  | fuel + 1, n, ds, hn, hf => by
    have hdig := Nat.digits_of_two_le_of_pos hb hn
    by_cases hq : n / b = 0
    · simp [Nat.toDigitsCore, hq, hdig]
    · have hlt : n / b < n := Nat.div_lt_self hn (by omega)
      simp only [Nat.toDigitsCore, hq, if_false, hdig, List.map_cons, List.reverse_cons]
      rw [toDigitsCore_eq_digits hb fuel (n / b) _ (Nat.pos_of_ne_zero hq) (by omega)]
      simp

theorem toDigits_eq_digits {b n : ℕ} (hb : 2 ≤ b) (hn : 0 < n) :
    Nat.toDigits b n = ((Nat.digits b n).map Nat.digitChar).reverse := by
  simpa using toDigitsCore_eq_digits hb (n + 1) n [] hn (Nat.lt_succ_self n)

/-- A decimal numeral has at most `e` digits exactly below `10 ^ e`. -/
theorem repr_length_le_iff (n : ℕ) {e : ℕ} (he : 0 < e) : (Nat.repr n).length ≤ e ↔ n < 10 ^ e := by
  rcases Nat.eq_zero_or_pos n with rfl | hn
  · exact iff_of_true he (pow_pos (by norm_num) e)
  · rw [Nat.repr, List.asString, String.length_mk, toDigits_eq_digits (by norm_num) hn,
      List.length_reverse, List.length_map, Nat.digits_len 10 n (by norm_num) hn.ne',
      Nat.lt_pow_iff_log_lt (by norm_num) hn.ne']
    omega

theorem leftpad_eq (n : ℕ) (c : Char) (s : String) : String.leftpad n c s = ⟨List.leftpad n c s.data⟩ :=
  rfl

/-- The two digits `hexByte` prints. -/
theorem hexByte_eq (b : UInt8) :
    hexByte b = ⟨[Nat.digitChar (b.toNat / 16), Nat.digitChar (b.toNat % 16)]⟩ := by
  have hb : b.toNat < 256 := b.toNat_lt_size
  rcases Nat.eq_zero_or_pos b.toNat with h0 | hpos
  · rw [hexByte, h0]; rfl
  rw [hexByte, toDigits_eq_digits (by norm_num) hpos, Nat.digits_of_two_le_of_pos (by norm_num) hpos]
  by_cases hq : b.toNat < 16
  · simp [leftpad_eq, List.leftpad, Nat.div_eq_of_lt hq, Nat.mod_eq_of_lt hq]; rfl
  · rw [Nat.digits_of_lt 16 (b.toNat / 16) (by omega) (by omega)]
    simp [leftpad_eq, List.leftpad, Nat.mod_eq_of_lt (show b.toNat / 16 < 16 by omega)]

@[simp]
theorem lowerHex_nil : lowerHex [] = "" := rfl

theorem lowerHex_cons (b : UInt8) (bs : List UInt8) : lowerHex (b :: bs) = hexByte b ++ lowerHex bs := by
  rw [hexByte_eq]; rfl

theorem lowerHex_length (bs : List UInt8) : (lowerHex bs).length = 2 * bs.length := by
  induction bs with
  | nil => rfl
  | cons b bs ih => rw [lowerHex_cons, String.length_append, ih, hexByte_eq]; simp; omega

/-- A hex digit is `0`–`9` or a lowercase `a`–`f`. -/
theorem digitChar_lowerHex {n : ℕ} (h : n < 16) : (Nat.digitChar n).isDigit ∨ 'a' ≤ Nat.digitChar n ∧ Nat.digitChar n ≤ 'f' := by
  interval_cases n <;> decide

/-- Every character of `lowerHex` is a lowercase hex digit. -/
theorem lowerHex_chars (bs : List UInt8) :
    ∀ c ∈ (lowerHex bs).data, c.isDigit ∨ 'a' ≤ c ∧ c ≤ 'f' := by
  simp only [lowerHex, List.mem_flatMap, List.mem_cons, List.not_mem_nil, or_false]
  rintro c ⟨b, -, rfl | rfl⟩
  · exact digitChar_lowerHex (by have : b.toNat < 256 := b.toNat_lt_size; omega)
  · exact digitChar_lowerHex (Nat.mod_lt _ (by norm_num))

/-! ### The issuer id -/

/-- From text of `2 * k` characters, the loop prints the `4 - k` bytes that
bring it to 8. -/
theorem issuerIdLoop_eq (bs : List UInt8) (ss : String) (k : ℕ) (hk : ss.length = 2 * k) (hk4 : k ≤ 4) :
    issuerIdLoop bs ss = ss ++ lowerHex (bs.take (4 - k)) := by
  induction bs generalizing ss k with
  | nil => simp [issuerIdLoop]
  | cons b bs ih =>
    by_cases h4 : k < 4
    · have hlen : (ss ++ hexByte b).length = 2 * (k + 1) := by
        rw [String.length_append, hk, hexByte_eq]; simp; omega
      rw [issuerIdLoop, if_pos (by omega), ih _ (k + 1) hlen h4, show 4 - k = 4 - (k + 1) + 1 by omega,
        List.take_succ_cons, lowerHex_cons, String.append_assoc]
    · rw [issuerIdLoop, if_neg (by omega), show 4 - k = 0 by omega]
      simp

/-- **The issuer id** is the lowercase hex of the first four SKI bytes. -/
theorem getIssuerId_eq (ski : List UInt8) : getIssuerId (some ski) = .ok (lowerHex (ski.take 4)) := by
  rw [getIssuerId, issuerIdLoop_eq ski "" 0 rfl (by omega)]
  rfl

/-! ### The name -/

theorem leftpad_length (n : ℕ) (c : Char) (s : String) : (String.leftpad n c s).length = max n s.length := by
  rw [leftpad_eq, String.length_mk, List.leftpad_length]
  rfl

/-- **The name's length**: the root, the issuer id, two colons and the padded
decimal serial. -/
theorem makeStatusURI_length (issuer_id : String) (serial : UInt64) :
    (makeStatusURI issuer_id serial).length = issuer_id.length + 13 + max 16 (Nat.repr serial.toNat).length := by
  simp only [makeStatusURI, String.length_append, leftpad_length]
  rw [show getMonitorCertStatusRoot.length = 11 from rfl, show ":".length = 1 from rfl]
  omega

/-- A literal run of the pattern matches itself. -/
theorem wildcardMatch_literal (l p s : List Char) (hl : ∀ c ∈ l, c ≠ '*' ∧ c ≠ '?') :
    wildcardMatch (l ++ p) (l ++ s) = wildcardMatch p s := by
  induction l with
  | nil => rfl
  | cons c l ih =>
    obtain ⟨h1, h2⟩ := hl c (List.mem_cons_self c l)
    rw [List.cons_append, List.cons_append, wildcardMatch.eq_4 _ _ _ h1 h2]
    simp [ih fun d hd => hl d (List.mem_cons_of_mem c hd)]

/-- A run of `?` matches any text of its length. -/
theorem wildcardMatch_any (w p s : List Char) :
    wildcardMatch (List.replicate w.length '?' ++ p) (w ++ s) = wildcardMatch p s := by
  induction w with
  | nil => rfl
  | cons c w ih => simp [List.replicate_succ, wildcardMatch, ih]

/-- A trailing `*` matches anything. -/
theorem wildcardMatch_star (s : List Char) : wildcardMatch ['*'] s = true := by
  simp only [wildcardMatch, List.any_eq_true, List.mem_range]
  exact ⟨s.length, Nat.lt_succ_self _, by simp⟩

/-- **The name matches the wildcard** `CERT:STATUS:????????:*` for every
issuer id of 8 characters and every serial. -/
theorem makeStatusURI_matches (issuer_id : String) (h : issuer_id.length = 8) (serial : UInt64) :
    wildcardMatch getMonitorCertStatusPv.data (makeStatusURI issuer_id serial).data = true := by
  have hpv : getMonitorCertStatusPv.data =
      "CERT:STATUS:".data ++ (List.replicate issuer_id.data.length '?' ++ ':' :: ['*']) := by
    rw [show issuer_id.data.length = 8 from h]; rfl
  have hname : (makeStatusURI issuer_id serial).data =
      "CERT:STATUS:".data ++ (issuer_id.data ++ ':' :: (String.leftpad 16 '0' (Nat.repr serial.toNat)).data) := by
    simp [makeStatusURI, getMonitorCertStatusRoot]
  rw [hpv, hname, wildcardMatch_literal _ _ _ (by decide), wildcardMatch_any]
  exact (wildcardMatch_literal [':'] ['*'] _ (by decide)).trans (wildcardMatch_star _)

/-- **The status PV name** of a certificate whose issuer's SKI has at least
four bytes: the lowercase hex of those bytes, then the serial in decimal
padded with zeros to 16 digits.  It matches the CMS's wildcard, and it is 37
characters long exactly for a serial below 10^16, never more than 41. -/
theorem makeStatusURI_getIssuerId (ski : List UInt8) (hski : 4 ≤ ski.length) (serial : UInt64) :
    ∃ name, (fun issuer_id => makeStatusURI issuer_id serial) <$> getIssuerId (some ski) = .ok name ∧
      name = "CERT:STATUS:" ++ lowerHex (ski.take 4) ++ ":" ++ String.leftpad 16 '0' (Nat.repr serial.toNat) ∧
      (lowerHex (ski.take 4)).length = 8 ∧
      wildcardMatch getMonitorCertStatusPv.data name.data = true ∧
      (name.length = 37 ↔ serial.toNat < 10 ^ 16) ∧ name.length ≤ 41 := by
  have hid : (lowerHex (ski.take 4)).length = 8 := by
    rw [lowerHex_length, List.length_take]; omega
  have hlen := makeStatusURI_length (lowerHex (ski.take 4)) serial
  have h16 := repr_length_le_iff serial.toNat (e := 16) (by norm_num)
  have h20 := (repr_length_le_iff serial.toNat (e := 20) (by norm_num)).mpr
    (lt_trans serial.toNat_lt_size (by norm_num))
  refine ⟨makeStatusURI (lowerHex (ski.take 4)) serial, by rw [getIssuerId_eq]; rfl, rfl, hid,
    makeStatusURI_matches _ hid serial, ?_, ?_⟩ <;> omega

theorem makeStatusURI_getIssuerId_deadbeef :
    4 ≤ [0xde, 0xad, 0xbe, 0xef].length ∧
      ∃ name, (fun issuer_id => makeStatusURI issuer_id 255) <$> getIssuerId (some [0xde, 0xad, 0xbe, 0xef]) =
          .ok name ∧
        name = "CERT:STATUS:" ++ lowerHex ([0xde, 0xad, 0xbe, 0xef].take 4) ++ ":" ++
          String.leftpad 16 '0' (Nat.repr (255 : UInt64).toNat) ∧
        (lowerHex ([0xde, 0xad, 0xbe, 0xef].take 4)).length = 8 ∧
        wildcardMatch getMonitorCertStatusPv.data name.data = true ∧
        (name.length = 37 ↔ (255 : UInt64).toNat < 10 ^ 16) ∧ name.length ≤ 41 :=
  ⟨by decide, makeStatusURI_getIssuerId _ (by decide) 255⟩

/-- The SKI `de ad be ef` and the serial 255: the code names the status PV
`CERT:STATUS:deadbeef:0000000000000255`, the serial in decimal, where the
spec's name ends in the hex `00000000000000ff`; and the largest serial gives a
name of 41 characters. -/
theorem makeStatusURI_serial_decimal :
    (fun issuer_id => makeStatusURI issuer_id 255) <$> getIssuerId (some [0xde, 0xad, 0xbe, 0xef]) =
        .ok "CERT:STATUS:deadbeef:0000000000000255" ∧
      statusPvName (lowerHex [0xde, 0xad, 0xbe, 0xef]) 255 = "CERT:STATUS:deadbeef:00000000000000ff" ∧
      (makeStatusURI "deadbeef" 18446744073709551615).length = 41 :=
  ⟨rfl, rfl, rfl⟩

end Pvxs
