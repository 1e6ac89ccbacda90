import Mathlib.Algebra.Group.Nat.Basic
import Mathlib.Data.List.Basic
/-
PVA wire primitives used by the server connection (`pvaproto.h`).

`pvaproto.h` is not in src: its constants and decoders are modelled from the
PVA protocol specification.  Bytes are `UInt8`; 16- and 32-bit fields are
read as natural numbers below `2 ^ 16` and `2 ^ 32` in the byte order the
peer announced.  A decoder returns `none` where `EvInBuf` would fault
(`M.good()` false), which is all the handlers observe of a short buffer.

* `fromBytes_u32Bytes` — decoding a 32-bit field undoes its encoding, in
  either byte order;
* `readSize_sizeBytes`, `readString_stringBytes` — the decoders of sizes and
  strings read back what `to_wire` writes, in either byte order, whatever
  follows.
-/

namespace Pvxs

/-! `pva_flags`: the bits of the third header byte. -/

namespace pva_flags

def Control : UInt8 := 0x01
def SegNone : UInt8 := 0x00
def SegFirst : UInt8 := 0x10
def SegLast : UInt8 := 0x20
def SegMid : UInt8 := 0x30
def SegMask : UInt8 := 0x30
def Server : UInt8 := 0x40
def MSB : UInt8 := 0x80

end pva_flags

/-! `pva_app_msg`: the command bytes of application messages. -/

namespace pva_app_msg

def ConnValid : UInt8 := 0x01
def Echo : UInt8 := 0x02
def Search : UInt8 := 0x03
def AuthZ : UInt8 := 0x05
def CreateChan : UInt8 := 0x07
def DestroyChan : UInt8 := 0x08
def ConnValidated : UInt8 := 0x09
def GetOp : UInt8 := 0x0A
def PutOp : UInt8 := 0x0B
def PutGetOp : UInt8 := 0x0C
def DestroyOp : UInt8 := 0x0F
def Introspect : UInt8 := 0x11
def Message : UInt8 := 0x12
def RPCOp : UInt8 := 0x14
def CancelOp : UInt8 := 0x15

end pva_app_msg

/-- The bytes of an ASCII string. -/
def asciiBytes (s : String) : List UInt8 := s.toList.map fun c => c.toNat.toUInt8

/-- The unsigned value of `bytes` read in the given byte order (`be`: most
significant first). -/
def fromBytes (be : Bool) (bytes : List UInt8) : ℕ :=
  (if be then bytes else bytes.reverse).foldl (fun acc b => acc * 256 + b.toNat) 0

/-- `to_wire` of a `uint32_t` in the given byte order. -/
def u32Bytes (be : Bool) (n : ℕ) : List UInt8 :=
  let bs := [n / 2 ^ 24, n / 2 ^ 16, n / 2 ^ 8, n].map UInt8.ofNat
  if be then bs else bs.reverse

theorem fromBytes_u32Bytes (be : Bool) {n : ℕ} (h : n < 2 ^ 32) : fromBytes be (u32Bytes be n) = n := by
  have hb : ∀ k : ℕ, (UInt8.ofNat k).toNat = k % 256 := fun _ => rfl
  cases be <;> simp [fromBytes, u32Bytes, hb] <;> omega

@[simp] theorem u32Bytes_length (be : Bool) (n : ℕ) : (u32Bytes be n).length = 4 := by
  cases be <;> rfl

/-- `from_wire` of a `w`-byte unsigned integer. -/
def readUInt (w : ℕ) (be : Bool) (buf : List UInt8) : Option (ℕ × List UInt8) :=
  if w ≤ buf.length then some (fromBytes be (buf.take w), buf.drop w) else none

/-- `from_wire` of a `uint16_t`. -/
def readU16 (be : Bool) (buf : List UInt8) : Option (ℕ × List UInt8) := readUInt 2 be buf

/-- `from_wire` of a `uint32_t`. -/
def readU32 (be : Bool) (buf : List UInt8) : Option (ℕ × List UInt8) := readUInt 4 be buf

/-- Modelled from the spec: `from_wire(Buffer&, Size&)`.  A first byte below
254 is the size, 254 announces a 32-bit size, and 255 is the null size, read as
an empty string. -/
def readSize (be : Bool) : List UInt8 → Option (ℕ × List UInt8)
  | [] => none
  | s :: rest =>
    if s.toNat < 254 then some (s.toNat, rest)
    else if s.toNat = 254 then readU32 be rest
    else some (0, rest)

/-- Modelled from the spec: `from_wire(Buffer&, std::string&)`, the bytes of a
size-prefixed string. -/
def readString (be : Bool) (buf : List UInt8) : Option (List UInt8 × List UInt8) := do
  let (n, rest) ← readSize be buf
  if n ≤ rest.length then some (rest.take n, rest.drop n) else none

/-- `Buffer::skip(n)`. -/
def skipBytes (n : ℕ) (buf : List UInt8) : Option (List UInt8) :=
  if n ≤ buf.length then some (buf.drop n) else none

/-! ### Encoders and round trips -/

/-- Modelled from the spec: `to_wire` of a `uint16_t`. -/
def u16Bytes (be : Bool) (n : ℕ) : List UInt8 :=
  let bs := [n / 2 ^ 8, n].map UInt8.ofNat
  if be then bs else bs.reverse

theorem fromBytes_u16Bytes (be : Bool) {n : ℕ} (h : n < 2 ^ 16) : fromBytes be (u16Bytes be n) = n := by
  have hb : ∀ k : ℕ, (UInt8.ofNat k).toNat = k % 256 := fun _ => rfl
  cases be <;> simp [fromBytes, u16Bytes, hb] <;> omega

@[simp] theorem u16Bytes_length (be : Bool) (n : ℕ) : (u16Bytes be n).length = 2 := by
  cases be <;> rfl

/-- Modelled from the spec: `to_wire(Buffer&, Size)`, one byte below 254,
otherwise 254 and the size as a `uint32_t`. -/
def sizeBytes (be : Bool) (n : ℕ) : List UInt8 :=
  if n < 254 then [UInt8.ofNat n] else 254 :: u32Bytes be n

/-- Modelled from the spec: `to_wire` of a string, its size and its bytes. -/
def stringBytes (be : Bool) (s : List UInt8) : List UInt8 := sizeBytes be s.length ++ s

theorem readUInt_append (w : ℕ) (be : Bool) {bytes : List UInt8} (rest : List UInt8) (h : bytes.length = w) :
    readUInt w be (bytes ++ rest) = some (fromBytes be bytes, rest) := by
  subst h
  simp [readUInt]

theorem readU32_u32Bytes (be : Bool) {n : ℕ} (rest : List UInt8) (h : n < 2 ^ 32) :
    readU32 be (u32Bytes be n ++ rest) = some (n, rest) := by
  rw [readU32, readUInt_append 4 be rest (u32Bytes_length be n), fromBytes_u32Bytes be h]

theorem readU16_u16Bytes (be : Bool) {n : ℕ} (rest : List UInt8) (h : n < 2 ^ 16) :
    readU16 be (u16Bytes be n ++ rest) = some (n, rest) := by
  rw [readU16, readUInt_append 2 be rest (u16Bytes_length be n), fromBytes_u16Bytes be h]

theorem readSize_sizeBytes (be : Bool) {n : ℕ} (rest : List UInt8) (h : n < 2 ^ 32) :
    readSize be (sizeBytes be n ++ rest) = some (n, rest) := by
  unfold sizeBytes
  split_ifs with hn
  · have hb : (UInt8.ofNat n).toNat = n := Nat.mod_eq_of_lt (by omega)
    rw [List.singleton_append, readSize, hb, if_pos hn]
  · rw [List.cons_append, readSize]
    exact readU32_u32Bytes be rest h

theorem readString_stringBytes (be : Bool) {s : List UInt8} (rest : List UInt8) (h : s.length < 2 ^ 32) :
    readString be (stringBytes be s ++ rest) = some (s, rest) := by
  simp [readString, stringBytes, readSize_sizeBytes be _ h]

end Pvxs
