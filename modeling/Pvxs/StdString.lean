import Mathlib.Data.List.Infix
/-
`std::string` as the tools use it: `find`, `find_last_of` and `substr` on a
64-bit `size_t`, where a position past the end is `npos` and `npos + 1` wraps
to 0.

* `take_find` — `s.substr(0, s.find(pat))` is the text before the first
  `pat`, or all of `s` when there is none (`takeUntil`);
* `findAt_fits`, `findAt_eq_none` — a found position leaves room for the
  pattern, and `npos` means the pattern does not occur;
* `substr_ok`, `substr_error` — `substr` throws `std::out_of_range` exactly
  past the end.

Design notes: a `std::string` is a `List Char`, one `Char` per byte.
-/

namespace Pvxs

namespace StdString

/-- `std::string::npos` (`SIZE_MAX` on a 64-bit `size_t`). -/
def npos : ℕ := 18446744073709551615

/-- `a - b` on `size_t`, modulo 2^64. -/
def sizeSub (a b : ℕ) : ℕ := (a + (npos + 1) - b) % (npos + 1)

/-- The first position of `s` where `pat` starts. -/
def findAt (pat : List Char) : List Char → Option ℕ
  | [] => if pat.isPrefixOf [] then some 0 else none
  | c :: cs => if pat.isPrefixOf (c :: cs) then some 0 else (findAt pat cs).map (· + 1)

/-- `s.find(pat)`. -/
def find (s pat : List Char) : ℕ := (findAt pat s).getD npos

/-- The last position of `s` holding one of `chars`. -/
def lastIdxOf (chars : List Char) : List Char → Option ℕ
  | [] => none
  | c :: cs =>
    match lastIdxOf chars cs with
    | some i => some (i + 1)
    | none => if c ∈ chars then some 0 else none

/-- `s.find_last_of(chars)`. -/
def findLastOf (s chars : List Char) : ℕ := (lastIdxOf chars s).getD npos

/-- `std::out_of_range` from `substr`, with the position and the size its
message reports. -/
structure OutOfRange where
  pos : ℕ
  size : ℕ
  deriving DecidableEq, Repr

/-- `s.substr(pos, n)`. -/
def substr (s : List Char) (pos n : ℕ) : Except OutOfRange (List Char) :=
  if s.length < pos then .error ⟨pos, s.length⟩ else .ok ((s.drop pos).take n)

/-- The request split before the first occurrence of `pat` (all of it when
there is none). -/
def takeUntil (pat : List Char) : List Char → List Char
  | [] => []
  | c :: cs => if pat.isPrefixOf (c :: cs) then [] else c :: takeUntil pat cs

/-- What follows the first occurrence of `pat`, if there is one. -/
def dropThrough (pat : List Char) : List Char → Option (List Char)
  | [] => none
  | c :: cs => if pat.isPrefixOf (c :: cs) then some ((c :: cs).drop pat.length) else dropThrough pat cs

theorem findAt_fits {pat s : List Char} {i : ℕ} (h : findAt pat s = some i) :
    i + pat.length ≤ s.length := by
  induction s generalizing i with
  | nil =>
    simp only [findAt] at h
    split_ifs at h with hp
    cases h
    simpa using List.eq_nil_of_prefix_nil (List.isPrefixOf_iff_prefix.mp hp)
  | cons c cs ih =>
    simp only [findAt] at h
    split_ifs at h with hp
    · cases h
      simpa using (List.isPrefixOf_iff_prefix.mp hp).length_le
    · obtain ⟨j, hj, rfl⟩ := Option.map_eq_some'.mp h
      simpa [Nat.add_right_comm] using ih hj

theorem findAt_eq_none {pat s : List Char} : findAt pat s = none ↔ ¬ pat <:+: s := by
  induction s with
  | nil => simp [findAt, List.isPrefixOf_iff_prefix, List.infix_nil]
  | cons c cs ih =>
    simp only [findAt, List.infix_cons_iff, ← List.isPrefixOf_iff_prefix]
    split_ifs with hp <;> simp [hp, ih]

theorem takeUntil_of_findAt {pat s : List Char} {i : ℕ} (hp : pat ≠ []) (h : findAt pat s = some i) :
    takeUntil pat s = s.take i := by
  induction s generalizing i with
  | nil => simp [findAt, List.isPrefixOf_iff_prefix, hp] at h
  | cons c cs ih =>
    simp only [findAt] at h
    simp only [takeUntil]
    split_ifs at h ⊢ with hpre
    · cases h; rfl
    · obtain ⟨j, hj, rfl⟩ := Option.map_eq_some'.mp h
      simp [ih hj]

theorem takeUntil_of_findAt_none {pat s : List Char} (h : findAt pat s = none) : takeUntil pat s = s := by
  induction s with
  | nil => rfl
  | cons c cs ih =>
    simp only [findAt] at h
    simp only [takeUntil]
    split_ifs at h ⊢ with hpre
    simp only [Option.map_eq_none'] at h
    rw [ih h]

theorem dropThrough_of_findAt {pat s : List Char} {i : ℕ} (hp : pat ≠ []) (h : findAt pat s = some i) :
    dropThrough pat s = some (s.drop (i + pat.length)) := by
  induction s generalizing i with
  | nil => simp [findAt, List.isPrefixOf_iff_prefix, hp] at h
  | cons c cs ih =>
    simp only [findAt] at h
    simp only [dropThrough]
    split_ifs at h ⊢ with hpre
    · cases h; simp
    · obtain ⟨j, hj, rfl⟩ := Option.map_eq_some'.mp h
      rw [ih hj, Nat.add_right_comm]
      rfl

theorem dropThrough_of_findAt_none {pat s : List Char} (h : findAt pat s = none) :
    dropThrough pat s = none := by
  induction s with
  | nil => rfl
  | cons c cs ih =>
    simp only [findAt] at h
    simp only [dropThrough]
    split_ifs at h ⊢ with hpre
    simp only [Option.map_eq_none'] at h
    exact ih h

/-- A pattern whose first character does not occur in `m` is not found inside `m`. -/
theorem findAt_append {c : Char} {t m s : List Char} (hm : c ∉ m) :
    findAt (c :: t) (m ++ s) = (findAt (c :: t) s).map (· + m.length) := by
  induction m with
  | nil => simp
  | cons a m ih =>
    have ha : c ≠ a := fun h => hm (h ▸ List.mem_cons_self c m)
    rw [List.cons_append, findAt, if_neg (by simp [List.isPrefixOf, ha]),
      ih (fun h => hm (List.mem_cons_of_mem a h))]
    cases findAt (c :: t) s <;> simp [Nat.add_assoc]

theorem find_of_findAt {s pat : List Char} {i : ℕ} (h : findAt pat s = some i) : find s pat = i := by
  simp [find, h]

theorem find_of_findAt_none {s pat : List Char} (h : findAt pat s = none) : find s pat = npos := by
  simp [find, h]

theorem substr_ok {s : List Char} {pos : ℕ} (n : ℕ) (h : pos ≤ s.length) :
    substr s pos n = .ok ((s.drop pos).take n) := by
  simp [substr, not_lt.mpr h]

theorem substr_error {s : List Char} {pos : ℕ} (n : ℕ) (h : s.length < pos) :
    substr s pos n = .error ⟨pos, s.length⟩ := by
  simp [substr, h]

theorem find_ne_npos_iff {s pat : List Char} (hs : s.length < npos) : find s pat ≠ npos ↔ pat <:+: s := by
  rw [← not_iff_not, not_not, ← findAt_eq_none]
  cases h : findAt pat s with
  | none => simp [find_of_findAt_none h]
  | some i =>
    have := findAt_fits h
    simp only [find_of_findAt h, reduceCtorEq, iff_false]
    omega

/-- The text before the first `pat`, read as `s.substr(0, s.find(pat))`. -/
theorem take_find {s pat : List Char} (hp : pat ≠ []) (hs : s.length ≤ npos) :
    s.take (find s pat) = takeUntil pat s := by
  cases h : findAt pat s with
  | none => rw [find_of_findAt_none h, takeUntil_of_findAt_none h, List.take_of_length_le hs]
  | some i => rw [find_of_findAt h, takeUntil_of_findAt hp h]

theorem lastIdxOf_eq_none {chars s : List Char} (h : lastIdxOf chars s = none) : ∀ c ∈ s, c ∉ chars := by
  induction s with
  | nil => simp
  | cons c cs ih =>
    simp only [lastIdxOf] at h
    split at h
    · cases h
    · rename_i hcs
      split_ifs at h with hc
      intro d hd
      rcases List.mem_cons.mp hd with rfl | hd
      exacts [hc, ih hcs d hd]

/-- `find_last_of` splits `s` at its last character from `chars`. -/
theorem lastIdxOf_eq_some {chars s : List Char} {i : ℕ} (h : lastIdxOf chars s = some i) :
    ∃ a c b, s = a ++ c :: b ∧ c ∈ chars ∧ (∀ d ∈ b, d ∉ chars) ∧ a.length = i := by
  induction s generalizing i with
  | nil => cases h
  | cons c cs ih =>
    simp only [lastIdxOf] at h
    split at h
    · rename_i j hcs
      cases h
      obtain ⟨a, c', b, rfl, hc', hb, rfl⟩ := ih hcs
      exact ⟨c :: a, c', b, rfl, hc', hb, rfl⟩
    · rename_i hcs
      split_ifs at h with hc
      cases h
      exact ⟨[], c, cs, rfl, hc, lastIdxOf_eq_none hcs, rfl⟩

theorem lastIdxOf_of_forall {chars s : List Char} (h : ∀ c ∈ s, c ∉ chars) : lastIdxOf chars s = none := by
  induction s with
  | nil => rfl
  | cons c cs ih =>
    rw [lastIdxOf, ih fun d hd => h d (List.mem_cons_of_mem c hd),
      if_neg (h c (List.mem_cons_self c cs))]

theorem lastIdxOf_append {chars a b : List Char} {c : Char} (hc : c ∈ chars) (hb : ∀ d ∈ b, d ∉ chars) :
    lastIdxOf chars (a ++ c :: b) = some a.length := by
  induction a with
  | nil => rw [List.nil_append, lastIdxOf, lastIdxOf_of_forall hb, if_pos hc, List.length_nil]
  | cons x a ih => rw [List.cons_append, lastIdxOf, ih, List.length_cons]

/-- Characters outside `chars` appended to `s` do not move its last one. -/
theorem lastIdxOf_append_of_forall {chars s t : List Char} (ht : ∀ d ∈ t, d ∉ chars) :
    lastIdxOf chars (s ++ t) = lastIdxOf chars s := by
  induction s with
  | nil => exact lastIdxOf_of_forall ht
  | cons c s ih => rw [List.cons_append, lastIdxOf, ih, lastIdxOf]

theorem lastIdxOf_lt {chars s : List Char} {i : ℕ} (h : lastIdxOf chars s = some i) : i < s.length := by
  obtain ⟨a, c, b, rfl, -, -, rfl⟩ := lastIdxOf_eq_some h
  simp

end StdString

end Pvxs
