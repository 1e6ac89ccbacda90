import Mathlib.Data.Nat.Digits
import Pvxs.Calendar
/-
`StatusDate`: a status time as `time_t` and as text (`certstatus.h`).

The text form is `strftime` of `gmtime t` in `CERT_TIME_FORMAT`
(`"%a %b %d %H:%M:%S %Y UTC"`), and it is read back with `std::get_time` in the
same format followed by `tmToTimeTUTC`.  Both library routines are modelled as
interpreters of a format string, for the conversions the format uses.

* `getTime_strftime` — reading back what `strftime` printed recovers every
  field `tmToTimeTUTC` reads, for any `Tm.Normal`;
* `statusDate_roundTrip` — `StatusDate(StatusDate(t).s).t = t` for every `t`
  from 1970-01-01T00:00:00Z to 9999-12-31T23:59:59Z.

Design notes: `get_time` follows the `strptime` rules the C++ standard refers
it to: a blank in the format skips blanks in the input, `%a`/`%b` accept the
full or the abbreviated name, numbers are read greedily up to their width and
checked against their range.  Failure is `none` (the stream's `failbit`).
-/

namespace Pvxs

/-- The exceptions the status records and the token parser throw, all
`std::runtime_error`s: the class and its message. -/
inductive Exn
  /-- `OCSPParseException` -/
  | ocspParse (msg : String)
  /-- another `std::runtime_error` (a client timeout, a missing field, ...) -/
  | runtime (msg : String)
  deriving DecidableEq, Repr

/-- Peeling one step off an `Except` computation that succeeded. -/
theorem bind_eq_ok {ε α β : Type} {x : Except ε α} {f : α → Except ε β} {b : β} :
    (x >>= f) = .ok b ↔ ∃ a, x = .ok a ∧ f a = .ok b := by
  cases x <;> simp [bind, Except.bind]

/-- `CERT_TIME_FORMAT`. -/
def certTimeFormat : String := "%a %b %d %H:%M:%S %Y UTC"

def weekdayAbbrev : List String := ["Sun", "Mon", "Tue", "Wed", "Thu", "Fri", "Sat"]

def weekdayFull : List String :=
  ["Sunday", "Monday", "Tuesday", "Wednesday", "Thursday", "Friday", "Saturday"]

def monthAbbrev : List String :=
  ["Jan", "Feb", "Mar", "Apr", "May", "Jun", "Jul", "Aug", "Sep", "Oct", "Nov", "Dec"]

def monthFull : List String :=
  ["January", "February", "March", "April", "May", "June", "July", "August", "September",
    "October", "November", "December"]

/-! ### `strftime` -/

/-- A number in two decimal digits, zero padded. -/
def pad2 (n : ℤ) : List Char := [Nat.digitChar (n.toNat / 10), Nat.digitChar (n.toNat % 10)]

/-- A year in decimal. -/
def yearDigits (y : ℤ) : List Char :=
  if y < 0 then '-' :: Nat.toDigits 10 y.natAbs else Nat.toDigits 10 y.toNat

/-- The text of one `strftime` conversion. -/
def strftimeConv (tm : Tm) : Char → List Char
  | 'a' => (weekdayAbbrev.getD tm.tmWday.toNat "").toList
  | 'b' => (monthAbbrev.getD tm.tmMon.toNat "").toList
  | 'd' => pad2 tm.tmMday
  | 'H' => pad2 tm.tmHour
  | 'M' => pad2 tm.tmMin
  | 'S' => pad2 tm.tmSec
  | 'Y' => yearDigits (tm.tmYear + 1900)
  | _ => []

/-- `strftime` without the size limit: conversions and ordinary characters. -/
def strftime (tm : Tm) : List Char → List Char
  | '%' :: c :: fmt => strftimeConv tm c ++ strftime tm fmt
  | c :: fmt => c :: strftime tm fmt
  | [] => []

/-! ### `std::get_time` -/

/-- Decimal digits read greedily, at most `len` of them, onto the value `v`:
how many were read, the value, and the rest of the input. -/
def readDigits : ℕ → List Char → ℕ → ℕ × ℕ × List Char
  | 0, inp, v => (0, v, inp)
  | _ + 1, [], v => (0, v, [])
  | len + 1, c :: inp, v =>
    if c.isDigit then
      let r := readDigits len inp (v * 10 + (c.toNat - 48))
      (r.1 + 1, r.2)
    else (0, v, c :: inp)

/-- A number of at most `len` digits in `[lo, hi]`. -/
def extractNum (lo hi : ℤ) (len : ℕ) (inp : List Char) : Option (ℤ × List Char) :=
  let r := readDigits len inp 0
  if 0 < r.1 ∧ lo ≤ r.2.1 ∧ r.2.1 ≤ hi then some (r.2.1, r.2.2) else none

/-- The index of the first name in `names` that begins the input, and the rest. -/
def matchName : List String → List Char → Option (ℕ × List Char)
  | [], _ => none
  | n :: names, inp =>
    if n.toList.isPrefixOf inp then some (0, inp.drop n.toList.length)
    else (matchName names inp).map fun r => (r.1 + 1, r.2)

/-- One `get_time` conversion, setting its field of the `tm`. -/
def getTimeConv (c : Char) (inp : List Char) (tm : Tm) : Option (Tm × List Char) :=
  match c with
  | 'a' => (matchName (weekdayFull ++ weekdayAbbrev) inp).map fun r =>
      ({ tm with tmWday := (r.1 % 7 : ℕ) }, r.2)
  | 'b' => (matchName (monthFull ++ monthAbbrev) inp).map fun r =>
      ({ tm with tmMon := (r.1 % 12 : ℕ) }, r.2)
  | 'd' => (extractNum 1 31 2 inp).map fun r => ({ tm with tmMday := r.1 }, r.2)
  | 'H' => (extractNum 0 23 2 inp).map fun r => ({ tm with tmHour := r.1 }, r.2)
  | 'M' => (extractNum 0 59 2 inp).map fun r => ({ tm with tmMin := r.1 }, r.2)
  | 'S' => (extractNum 0 60 2 inp).map fun r => ({ tm with tmSec := r.1 }, r.2)
  | 'Y' => (extractNum 0 9999 4 inp).map fun r => ({ tm with tmYear := r.1 - 1900 }, r.2)
  | _ => none

/-- `std::get_time`: the format drives the input; `none` sets `failbit`. -/
def getTime : List Char → List Char → Tm → Option Tm
  | '%' :: c :: fmt, inp, tm => (getTimeConv c inp tm).bind fun r => getTime fmt r.2 r.1
  | c :: fmt, inp, tm =>
    if c.isWhitespace then getTime fmt (inp.dropWhile Char.isWhitespace) tm
    else match inp with
      | d :: inp => if d = c then getTime fmt inp tm else none
      | [] => none
  | [], _, tm => some tm

/-! ### Reading back what `strftime` prints -/

/-- `CERT_TIME_FORMAT`, character by character. -/
theorem certTimeFormat_toList : certTimeFormat.toList =
    ['%', 'a', ' ', '%', 'b', ' ', '%', 'd', ' ', '%', 'H', ':', '%', 'M', ':', '%', 'S', ' ',
      '%', 'Y', ' ', 'U', 'T', 'C'] := rfl

/-- What `strftime` prints in `CERT_TIME_FORMAT`. -/
theorem strftime_certTimeFormat (tm : Tm) : strftime tm certTimeFormat.toList =
    strftimeConv tm 'a' ++ ' ' :: (strftimeConv tm 'b' ++ ' ' :: (pad2 tm.tmMday ++ ' ' ::
      (pad2 tm.tmHour ++ ':' :: (pad2 tm.tmMin ++ ':' :: (pad2 tm.tmSec ++ ' ' ::
        (yearDigits (tm.tmYear + 1900) ++ [' ', 'U', 'T', 'C'])))))) := by
  simp [certTimeFormat_toList, strftime, strftimeConv]

theorem getTime_conv (c : Char) (fmt inp : List Char) (tm : Tm) :
    getTime ('%' :: c :: fmt) inp tm = (getTimeConv c inp tm).bind fun r => getTime fmt r.2 r.1 := rfl

theorem getTime_blank (fmt inp : List Char) (tm : Tm) :
    getTime (' ' :: fmt) inp tm = getTime fmt (inp.dropWhile Char.isWhitespace) tm := by
  simp [getTime]

theorem getTime_lit (c : Char) (hc : c ≠ '%') (hw : c.isWhitespace = false) (fmt inp : List Char)
    (tm : Tm) : getTime (c :: fmt) (c :: inp) tm = getTime fmt inp tm := by
  rw [getTime.eq_def]; simp [hc, hw]

theorem digitChar_isDigit (k : ℕ) (hk : k < 10) : (Nat.digitChar k).isDigit = true := by
  interval_cases k <;> rfl

theorem digitChar_toNat (k : ℕ) (hk : k < 10) : (Nat.digitChar k).toNat - 48 = k := by
  interval_cases k <;> rfl

theorem digitChar_isWhitespace (k : ℕ) (hk : k < 10) : (Nat.digitChar k).isWhitespace = false := by
  interval_cases k <;> rfl

/-- A width equal to the number of digits reads exactly those digits. -/
theorem readDigits_map_digitChar (ds : List ℕ) (hds : ∀ d ∈ ds, d < 10) (v : ℕ) (rest : List Char) :
    readDigits ds.length (ds.map Nat.digitChar ++ rest) v =
      (ds.length, ds.foldl (fun acc d => acc * 10 + d) v, rest) := by
  induction ds generalizing v with
  | nil => rfl
  | cons d ds ih =>
    have hd := hds d (List.mem_cons_self d ds)
    show readDigits (ds.length + 1) (Nat.digitChar d :: (ds.map Nat.digitChar ++ rest)) v = _
    rw [readDigits, if_pos (digitChar_isDigit d hd), digitChar_toNat d hd,
      ih (fun e he => hds e (List.mem_cons_of_mem d he))]
    rfl

theorem extractNum_pad2 (lo hi n : ℤ) (h0 : 0 ≤ n) (h1 : n < 100) (hlo : lo ≤ n) (hhi : n ≤ hi)
    (rest : List Char) : extractNum lo hi 2 (pad2 n ++ rest) = some (n, rest) := by
  have h : readDigits 2 (pad2 n ++ rest) 0 = (2, n.toNat, rest) :=
    (readDigits_map_digitChar [n.toNat / 10, n.toNat % 10] (by simp; omega) 0 rest).trans
      (by simp only [List.foldl]; congr 2; omega)
  rw [extractNum, h]
  dsimp only
  rw [if_pos (by omega), Int.toNat_of_nonneg h0]

/-- A four-digit year in decimal. -/
theorem toDigits_four (y : ℕ) (h0 : 1000 ≤ y) (h1 : y < 10000) :
    Nat.toDigits 10 y = [Nat.digitChar (y / 1000), Nat.digitChar (y / 100 % 10),
      Nat.digitChar (y / 10 % 10), Nat.digitChar (y % 10)] := by
  rw [Nat.toDigits, show y + 1 = y - 3 + 1 + 1 + 1 + 1 by omega]
  simp only [Nat.toDigitsCore, Nat.div_div_eq_div_mul]
  rw [if_neg (by omega), if_neg (by omega), if_neg (by omega), if_pos (by omega),
    show y / (10 * 10 * 10) % 10 = y / 1000 by omega]

theorem extractNum_year (y : ℤ) (h0 : 1000 ≤ y) (h1 : y ≤ 9999) (rest : List Char) :
    extractNum 0 9999 4 (yearDigits y ++ rest) = some (y, rest) := by
  have h : readDigits 4 (yearDigits y ++ rest) 0 = (4, y.toNat, rest) := by
    rw [yearDigits, if_neg (by omega), toDigits_four _ (by omega) (by omega)]
    exact (readDigits_map_digitChar [y.toNat / 1000, y.toNat / 100 % 10, y.toNat / 10 % 10,
      y.toNat % 10] (by simp; omega) 0 rest).trans (by simp only [List.foldl]; congr 2; omega)
  rw [extractNum, h]
  dsimp only
  rw [if_pos (by omega), Int.toNat_of_nonneg (by omega)]

theorem getTimeConv_wday (i : ℕ) (hi : i < 7) (rest : List Char) (tm : Tm) :
    getTimeConv 'a' ((weekdayAbbrev.getD i "").toList ++ ' ' :: rest) tm =
      some ({ tm with tmWday := i }, ' ' :: rest) := by
  interval_cases i <;> simp [getTimeConv, matchName, weekdayFull, weekdayAbbrev]

theorem getTimeConv_mon (i : ℕ) (hi : i < 12) (rest : List Char) (tm : Tm) :
    getTimeConv 'b' ((monthAbbrev.getD i "").toList ++ ' ' :: rest) tm =
      some ({ tm with tmMon := i }, ' ' :: rest) := by
  interval_cases i <;> simp [getTimeConv, matchName, monthFull, monthAbbrev]

theorem dropWhile_blank_mon (i : ℕ) (hi : i < 12) (rest : List Char) :
    (' ' :: ((monthAbbrev.getD i "").toList ++ rest)).dropWhile Char.isWhitespace =
      (monthAbbrev.getD i "").toList ++ rest := by
  interval_cases i <;> rfl

theorem dropWhile_blank_pad2 (n : ℤ) (h0 : 0 ≤ n) (h1 : n < 100) (rest : List Char) :
    (' ' :: (pad2 n ++ rest)).dropWhile Char.isWhitespace = pad2 n ++ rest := by
  simp [pad2, List.dropWhile, digitChar_isWhitespace (n.toNat / 10) (by omega)]

theorem dropWhile_blank_year (y : ℤ) (h0 : 1000 ≤ y) (h1 : y ≤ 9999) (rest : List Char) :
    (' ' :: (yearDigits y ++ rest)).dropWhile Char.isWhitespace = yearDigits y ++ rest := by
  rw [yearDigits, if_neg (by omega), toDigits_four _ (by omega) (by omega)]
  simp [List.dropWhile, digitChar_isWhitespace (y.toNat / 1000) (by omega)]

/-- **Reading back what `strftime` printed** in `CERT_TIME_FORMAT` sets every
field of a `Tm.Normal` except the day of year, which `get_time` leaves at 0. -/
theorem getTime_strftime (tm : Tm) (h : tm.Normal) :
    getTime certTimeFormat.toList (strftime tm certTimeFormat.toList) {} =
      some { tm with tmYday := 0 } := by
  obtain ⟨⟨hs0, hs1⟩, ⟨hm0, hm1⟩, ⟨hh0, hh1⟩, ⟨hd0, hd1⟩, ⟨hn0, hn1⟩, ⟨hw0, hw1⟩, ⟨hy0, hy1⟩⟩ := h
  have e1 := extractNum_pad2 1 31 tm.tmMday (by omega) (by omega) hd0 hd1
  have e2 := extractNum_pad2 0 23 tm.tmHour hh0 (by omega) hh0 (by omega)
  have e3 := extractNum_pad2 0 59 tm.tmMin hm0 (by omega) hm0 (by omega)
  have e4 := extractNum_pad2 0 60 tm.tmSec hs0 (by omega) hs0 (by omega)
  have e5 := extractNum_year _ hy0 hy1
  rw [strftime_certTimeFormat, certTimeFormat_toList]
  simp only [getTime_conv, getTime_blank, strftimeConv, Option.some_bind,
    getTimeConv_wday _ (show tm.tmWday.toNat < 7 by omega),
    getTimeConv_mon _ (show tm.tmMon.toNat < 12 by omega),
    dropWhile_blank_mon _ (show tm.tmMon.toNat < 12 by omega)]
  simp only [getTime_conv, getTime_blank, getTimeConv, e1, e2, e3, e4, e5, Option.map_some', Option.some_bind,
    dropWhile_blank_pad2 _ (by omega : (0 : ℤ) ≤ tm.tmMday) (by omega),
    dropWhile_blank_pad2 _ hh0 (by omega),
    dropWhile_blank_pad2 _ hs0 (by omega), dropWhile_blank_year _ hy0 hy1,
    getTime_lit ':' (by decide) rfl, getTime_lit 'U' (by decide) rfl,
    getTime_lit 'T' (by decide) rfl, getTime_lit 'C' (by decide) rfl]
  rw [show List.dropWhile Char.isWhitespace [' ', 'U', 'T', 'C'] = ['U', 'T', 'C'] from rfl]
  simp [getTime_lit, getTime, Int.toNat_of_nonneg hn0, Int.toNat_of_nonneg hw0]

/-! ### `StatusDate` -/

/-- `StatusDate`: a time as `time_t` and as text. -/
structure StatusDate where
  t : ℤ
  s : String
  deriving DecidableEq, Repr

namespace StatusDate

/-- `StatusDate::toString`: `strftime` of `gmtime` into a 100-byte buffer, which
fails when the text and its terminator do not fit. -/
def toString (time : ℤ) : Except Exn String :=
  let out := strftime (gmtime time) certTimeFormat.toList
  if 0 < out.length ∧ out.length < 100 then .ok (String.mk out)
  else .error (.ocspParse "Failed to format status date")

/-- `StatusDate::toTimeT`. -/
def toTimeT (timeString : String) : Except Exn ℤ :=
  if timeString.length = 0 then .ok 0
  else match getTime certTimeFormat.toList timeString.toList {} with
    | some tm => .ok (tmToTimeTUTC tm)
    | none => .error (.ocspParse "Failed to parse date-time string.")

/-- `StatusDate(const std::time_t&)`. -/
def ofTime (time : ℤ) : Except Exn StatusDate := do
  let s ← toString time
  return ⟨time, s⟩

/-- `StatusDate(const std::string&)`: the time read from the text, and the text
printed again from that time. -/
def ofString (timeString : String) : Except Exn StatusDate := do
  let t ← toTimeT timeString
  ofTime t

theorem weekdayAbbrev_length (i : ℕ) (hi : i < 7) : (weekdayAbbrev.getD i "").toList.length = 3 := by
  interval_cases i <;> rfl

theorem monthAbbrev_length (i : ℕ) (hi : i < 12) : (monthAbbrev.getD i "").toList.length = 3 := by
  interval_cases i <;> rfl

theorem yearDigits_length (y : ℤ) (h0 : 1000 ≤ y) (h1 : y ≤ 9999) : (yearDigits y).length = 4 := by
  rw [yearDigits, if_neg (by omega), toDigits_four _ (by omega) (by omega)]; rfl

/-- A normal `tm` prints as 28 characters, which fit the 100-byte buffer. -/
theorem strftime_length (tm : Tm) (h : tm.Normal) :
    (strftime tm certTimeFormat.toList).length = 28 := by
  have hw := h.wday
  have hm := h.mon
  rw [strftime_certTimeFormat]
  simp only [List.length_append, List.length_cons, strftimeConv, pad2, List.length_nil,
    weekdayAbbrev_length _ (show tm.tmWday.toNat < 7 by omega),
    monthAbbrev_length _ (show tm.tmMon.toNat < 12 by omega),
    yearDigits_length _ h.year.1 h.year.2]

theorem toString_of_normal (t : ℤ) (h : (gmtime t).Normal) :
    toString t = .ok (String.mk (strftime (gmtime t) certTimeFormat.toList)) := by
  rw [toString, strftime_length _ h]; rfl

theorem toTimeT_strftime (t : ℤ) (h0 : 0 ≤ t) (h : (gmtime t).Normal) :
    toTimeT (String.mk (strftime (gmtime t) certTimeFormat.toList)) = .ok t := by
  have hlen : (String.mk (strftime (gmtime t) certTimeFormat.toList)).length = 28 :=
    strftime_length _ h
  have htl : (String.mk (strftime (gmtime t) certTimeFormat.toList)).toList =
    strftime (gmtime t) certTimeFormat.toList := rfl
  rw [toTimeT, if_neg (by omega), htl, getTime_strftime _ h]
  exact congrArg Except.ok (tmToTimeTUTC_gmtime t h0)

/-- **`StatusDate(StatusDate(t).s).t = t`** for every `t` from
1970-01-01T00:00:00Z to 9999-12-31T23:59:59Z: the text a status date is
published with reads back as the same time. -/
theorem statusDate_roundTrip (t : ℤ) (h0 : 0 ≤ t) (h1 : t ≤ 253402300799) :
    ((ofTime t).bind fun d => ofString d.s).map StatusDate.t = .ok t := by
  have hn := gmtime_normal t h0 h1
  simp only [ofTime, ofString, toString_of_normal t hn, bind, Except.bind, pure, Except.pure,
    toTimeT_strftime t h0 hn, Except.map]

theorem statusDate_roundTrip_epoch :
    (0 : ℤ) ≤ 0 ∧ (0 : ℤ) ≤ 253402300799 ∧
      ((ofTime 0).bind fun d => ofString d.s).map StatusDate.t = .ok 0 :=
  ⟨le_rfl, by norm_num, statusDate_roundTrip 0 le_rfl (by norm_num)⟩

end StatusDate

end Pvxs
