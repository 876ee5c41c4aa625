import Mathlib.Data.List.TakeWhile
import LocationStack.Lib.Decimal

/-! # Integer literals and `strtol`

A literal is decimal, octal with a `0` in front, or hexadecimal with `0x`; it may have a sign, and
has no suffix.  `strtol` with the base 0 takes the spaces, then a sign, then as many digits as there
are, of the base that the first characters tell, and clips what it makes of them to a `long`.

What it consumes whole is a literal behind spaces (`strtol_literal`, `literal_of_strtol`).
-/
namespace LocationStack
namespace IntegerLiteral

open Decimal (isSpace)

/-! ## Digits -/

/-- The value of a digit or a letter; that of another character is the digit of no base. -/
def digitValue (b : UInt8) : Nat :=
  if 48 ≤ b ∧ b ≤ 57 then b.toNat - 48
  else if 97 ≤ b ∧ b ≤ 122 then b.toNat - 87
  else if 65 ≤ b ∧ b ≤ 90 then b.toNat - 55
  else 36

def isDigitOf (base : Nat) (b : UInt8) : Bool := digitValue b < base

def valueOf (base : Nat) (ds : List UInt8) : Nat :=
  ds.foldl (fun n b => n * base + digitValue b) 0

/-! ## The grammar -/

/-- A literal without a sign, and its value. -/
inductive Unsigned : List UInt8 → Nat → Prop
  | decimal {d : UInt8} {ds : List UInt8} (hd : d ≠ 48)
      (hds : ∀ b ∈ d :: ds, isDigitOf 10 b = true) : Unsigned (d :: ds) (valueOf 10 (d :: ds))
  | octal {ds : List UInt8} (hds : ∀ b ∈ ds, isDigitOf 8 b = true) :
      Unsigned (48 :: ds) (valueOf 8 ds)
  | hexadecimal {x d : UInt8} {ds : List UInt8} (hx : x = 120 ∨ x = 88)
      (hds : ∀ b ∈ d :: ds, isDigitOf 16 b = true) :
      Unsigned (48 :: x :: d :: ds) (valueOf 16 (d :: ds))

/-- **A literal**, and its value. -/
inductive Literal : List UInt8 → Int → Prop
  | plain {s : List UInt8} {n : Nat} (h : Unsigned s n) : Literal s n
  | plus {s : List UInt8} {n : Nat} (h : Unsigned s n) : Literal (43 :: s) n
  | minus {s : List UInt8} {n : Nat} (h : Unsigned s n) : Literal (45 :: s) (-n)

/-! ## The function -/

/-- `0x`, with a digit behind it. -/
def startsHex : List UInt8 → Bool
  | _ :: x :: d :: _ => (x == 120 || x == 88) && isDigitOf 16 d
  | _ => false

/-- The base that the first characters tell, and the characters from the first digit on. -/
def baseOf (s : List UInt8) : Nat × List UInt8 :=
  if s.head? = some 48 then
    if startsHex s then (16, s.drop 2) else (8, s)
  else (10, s)

/-- The digits, as a number, and the characters behind them; `none` if there are no digits. -/
def scan (s : List UInt8) : Option (Nat × List UInt8) :=
  let (base, digits) := baseOf s
  if digits.takeWhile (isDigitOf base) = [] then none
  else some (valueOf base (digits.takeWhile (isDigitOf base)), digits.dropWhile (isDigitOf base))

/-- A sign, and the characters behind it. -/
def scanSign (s : List UInt8) : Bool × List UInt8 :=
  if s.head? = some 45 then (true, s.drop 1)
  else if s.head? = some 43 then (false, s.drop 1)
  else (false, s)

def longMax (bits : Nat) : Int := 2 ^ (bits - 1) - 1
def longMin (bits : Nat) : Int := -2 ^ (bits - 1)

/-- The nearest `long`. -/
def clip (bits : Nat) (v : Int) : Int := max (longMin bits) (min v (longMax bits))

/-- A sign and the digits behind it, as a number, and the characters behind them. -/
def convert (s : List UInt8) : Option (Int × List UInt8) :=
  let (negative, digits) := scanSign s
  (scan digits).map fun r => (if negative then -r.1 else r.1, r.2)

/-- What `strtol` returns, whether it sets `errno`, and the characters at its end pointer. -/
structure Converted where
  value : Int
  errno : Bool
  rest : List UInt8

/-- `strtol(s, &end, 0)`.  Without digits the end pointer is where the string begins, and a library
may set `errno` or not. -/
def strtol (bits : Nat) (errnoWithoutDigits : Bool) (s : List UInt8) : Converted :=
  match convert (s.dropWhile isSpace) with
  | none => ⟨0, errnoWithoutDigits, s⟩
  | some (v, rest) => ⟨clip bits v, clip bits v ≠ v, rest⟩

/-! ## What is consumed -/

theorem takeWhile_eq_self_of_dropWhile_eq_nil {p : UInt8 → Bool} {l : List UInt8}
    (h : l.dropWhile p = []) : l.takeWhile p = l := by
  have hsplit := List.takeWhile_append_dropWhile (p := p) (l := l)
  rwa [h, List.append_nil] at hsplit

theorem all_of_dropWhile_eq_nil {p : UInt8 → Bool} {l : List UInt8} (h : l.dropWhile p = []) :
    ∀ b ∈ l, p b = true := by
  rw [← takeWhile_eq_self_of_dropWhile_eq_nil h]
  exact fun b hb => List.mem_takeWhile_imp hb

/-- Digits only, of the base that is told. -/
theorem scan_eq_some_nil_iff {s : List UInt8} {n : Nat} :
    scan s = some (n, []) ↔ (baseOf s).2 ≠ [] ∧
      (∀ b ∈ (baseOf s).2, isDigitOf (baseOf s).1 b = true) ∧
        valueOf (baseOf s).1 (baseOf s).2 = n := by
  unfold scan
  generalize baseOf s = told
  obtain ⟨base, digits⟩ := told
  dsimp only
  constructor
  · intro h
    split at h
    case isTrue => exact nomatch h
    case isFalse hsome =>
      obtain ⟨hn, hrest⟩ := Prod.mk.inj (Option.some.inj h)
      have hall := takeWhile_eq_self_of_dropWhile_eq_nil hrest
      rw [hall] at hn hsome
      exact ⟨hsome, all_of_dropWhile_eq_nil hrest, hn⟩
  · rintro ⟨hsome, hall, rfl⟩
    have htake : digits.takeWhile (isDigitOf base) = digits := List.takeWhile_eq_self_iff.mpr hall
    have hdrop : digits.dropWhile (isDigitOf base) = [] := List.dropWhile_eq_nil_iff.mpr hall
    rw [htake, hdrop, if_neg hsome]

theorem valueOf_zero (base : Nat) (ds : List UInt8) : valueOf base (48 :: ds) = valueOf base ds := by
  have hzero : digitValue 48 = 0 := by decide
  rw [valueOf, List.foldl_cons, hzero, Nat.zero_mul]
  rfl

/-- **The scan consumes a string** exactly if that is a literal without a sign. -/
theorem scan_consumes_iff {s : List UInt8} {n : Nat} : scan s = some (n, []) ↔ Unsigned s n := by
  rw [scan_eq_some_nil_iff]
  constructor
  · rintro ⟨hsome, hall, rfl⟩
    unfold baseOf at hsome hall ⊢
    cases s with
    | nil => exact absurd rfl hsome
    | cons d ds =>
      by_cases hd : d = 48
      · subst hd
        cases hhex : startsHex (48 :: ds) with
        | true =>
          obtain ⟨x, d, ds, rfl⟩ : ∃ x d rest, ds = x :: d :: rest := by
            match ds with
            | [] => exact nomatch hhex
            | [_] => exact nomatch hhex
            | x :: d :: rest => exact ⟨x, d, rest, rfl⟩
          have hx : x = 120 ∨ x = 88 := by
            simp only [startsHex, Bool.and_eq_true, Bool.or_eq_true, beq_iff_eq] at hhex
            exact hhex.1
          simp only [List.head?_cons, if_true, hhex, List.drop_succ_cons, List.drop_zero] at hall ⊢
          exact .hexadecimal hx hall
        | false =>
          simp only [List.head?_cons, if_true, hhex, Bool.false_eq_true, if_false] at hall ⊢
          rw [valueOf_zero]
          exact .octal fun b hb => hall b (List.mem_cons_of_mem _ hb)
      · simp only [List.head?_cons, Option.some.injEq, hd, if_false] at hall ⊢
        exact .decimal hd hall
  · intro h
    cases h with
    | decimal hd hds =>
      simp only [baseOf, List.head?_cons, Option.some.injEq, hd, if_false]
      exact ⟨List.cons_ne_nil _ _, hds, trivial⟩
    | @octal ds hds =>
      have hoctal : startsHex (48 :: ds) = false := by
        match ds, hds with
        | [], _ => rfl
        | [_], _ => rfl
        | x :: d :: ds, hds =>
          have hx := hds x List.mem_cons_self
          have hne : x ≠ 120 ∧ x ≠ 88 := by
            constructor <;> rintro rfl <;> exact absurd hx (by decide)
          simp [startsHex, hne]
      simp only [baseOf, List.head?_cons, if_true, hoctal, Bool.false_eq_true, if_false]
      refine ⟨List.cons_ne_nil _ _, fun b hb => ?_, valueOf_zero 8 ds⟩
      rcases List.mem_cons.mp hb with rfl | hb
      · decide
      · exact hds b hb
    | @hexadecimal x d ds hx hds =>
      have hhex : startsHex (48 :: x :: d :: ds) = true := by
        simp [startsHex, hx, hds d List.mem_cons_self]
      simp only [baseOf, List.head?_cons, if_true, hhex, List.drop_succ_cons, List.drop_zero]
      exact ⟨List.cons_ne_nil _ _, hds, trivial⟩

theorem Unsigned.head {s : List UInt8} {n : Nat} (h : Unsigned s n) :
    ∃ b rest, s = b :: rest ∧ isDigitOf 10 b = true := by
  cases h with
  | decimal _ hds => exact ⟨_, _, rfl, hds _ List.mem_cons_self⟩
  | octal _ => exact ⟨_, _, rfl, by decide⟩
  | hexadecimal _ _ => exact ⟨_, _, rfl, by decide⟩

theorem isDigitOf_ten {b : UInt8} (h : isDigitOf 10 b = true) : 48 ≤ b.toNat ∧ b.toNat ≤ 57 := by
  simp only [isDigitOf, digitValue, decide_eq_true_eq, UInt8.le_iff_toNat_le] at h
  split at h
  case isTrue hdigit => exact hdigit
  case isFalse =>
    split at h
    case isTrue hsmall => exact absurd h (Nat.not_lt.mpr (Nat.le_sub_of_add_le hsmall.1))
    case isFalse =>
      split at h
      case isTrue hcapital => exact absurd h (Nat.not_lt.mpr (Nat.le_sub_of_add_le hcapital.1))
      case isFalse => exact absurd h (by decide)

theorem scanSign_digit {b : UInt8} (hminus : b ≠ 45) (hplus : b ≠ 43) (s : List UInt8) :
    scanSign (b :: s) = (false, b :: s) := by
  simp [scanSign, hminus, hplus]

theorem convert_eq_some_nil_iff {s : List UInt8} {v : Int} :
    convert s = some (v, []) ↔
      ∃ n, Unsigned (scanSign s).2 n ∧ v = if (scanSign s).1 then -(n : Int) else n := by
  simp only [convert, Option.map_eq_some_iff, Prod.exists, Prod.mk.injEq, ← scan_consumes_iff]
  constructor
  · rintro ⟨n, _, hscan, rfl, rfl⟩
    exact ⟨n, hscan, rfl⟩
  · rintro ⟨n, hscan, rfl⟩
    exact ⟨n, [], hscan, rfl, rfl⟩

/-- **The conversion consumes a string** exactly if that is a literal. -/
theorem convert_consumes_iff {s : List UInt8} {v : Int} :
    convert s = some (v, []) ↔ Literal s v := by
  rw [convert_eq_some_nil_iff]
  constructor
  · rintro ⟨n, h, rfl⟩
    cases s with
    | nil => exact nomatch h
    | cons b s =>
      by_cases hminus : b = 45
      · subst hminus
        exact .minus h
      by_cases hplus : b = 43
      · subst hplus
        exact .plus h
      rw [scanSign_digit hminus hplus] at h ⊢
      exact .plain h
  · intro h
    cases h with
    | @plain s n h =>
      obtain ⟨b, rest, rfl, hb⟩ := h.head
      have hminus : b ≠ 45 := fun he => absurd (he ▸ hb) (by decide)
      have hplus : b ≠ 43 := fun he => absurd (he ▸ hb) (by decide)
      rw [scanSign_digit hminus hplus]
      exact ⟨n, h, rfl⟩
    | plus h => exact ⟨_, h, rfl⟩
    | minus h => exact ⟨_, h, rfl⟩

theorem Literal.not_space {s : List UInt8} {v : Int} (h : Literal s v) :
    ∃ b rest, s = b :: rest ∧ isSpace b = false := by
  have hdigit : ∀ {s : List UInt8} {n : Nat}, Unsigned s n →
      ∃ b rest, s = b :: rest ∧ isSpace b = false := by
    intro s n h
    obtain ⟨b, rest, rfl, hb⟩ := h.head
    obtain ⟨hlow, -⟩ := isDigitOf_ten hb
    refine ⟨b, rest, rfl, ?_⟩
    simp only [isSpace, Bool.or_eq_false_iff, Bool.and_eq_false_iff, beq_eq_false_iff_ne,
      decide_eq_false_iff_not]
    refine ⟨?_, Or.inr (by omega)⟩
    rintro rfl
    exact absurd hlow (by decide)
  cases h with
  | plain h => exact hdigit h
  | plus _ => exact ⟨_, _, rfl, by decide⟩
  | minus _ => exact ⟨_, _, rfl, by decide⟩

/-- A literal behind spaces is consumed, and clipped. -/
theorem strtol_literal {bits : Nat} {e : Bool} {spaces body : List UInt8} {v : Int}
    (hspaces : ∀ b ∈ spaces, isSpace b = true) (h : Literal body v) :
    strtol bits e (spaces ++ body) = ⟨clip bits v, clip bits v ≠ v, []⟩ := by
  obtain ⟨b, rest, rfl, hb⟩ := h.not_space
  have hdrop : (spaces ++ b :: rest).dropWhile isSpace = b :: rest := by
    rw [List.dropWhile_append_of_pos hspaces, List.dropWhile_cons_of_neg (by simp [hb])]
  rw [strtol, hdrop, convert_consumes_iff.mpr h]

/-- **What `strtol` consumes** is a literal behind spaces. -/
theorem literal_of_strtol {bits : Nat} {e : Bool} {s : List UInt8} (hs : s ≠ [])
    (hrest : (strtol bits e s).rest = []) :
    ∃ spaces body v, s = spaces ++ body ∧ (∀ b ∈ spaces, isSpace b = true) ∧ Literal body v := by
  unfold strtol at hrest
  cases hconvert : convert (s.dropWhile isSpace) with
  | none =>
    rw [hconvert] at hrest
    exact absurd hrest hs
  | some r =>
    obtain ⟨v, rest⟩ := r
    rw [hconvert] at hrest
    obtain rfl : rest = [] := hrest
    exact ⟨s.takeWhile isSpace, s.dropWhile isSpace, v, List.takeWhile_append_dropWhile.symm,
      fun b hb => List.mem_takeWhile_imp hb, convert_consumes_iff.mp hconvert⟩

/-! ## What is clipped -/

theorem clip_eq_self {bits : Nat} {v : Int} (hlow : longMin bits < v) (hhigh : v < longMax bits) :
    clip bits v = v := by
  unfold clip
  omega

/-- A value that was clipped is one of the two ends. -/
theorem between_of_clip {bits : Nat} {v : Int} (hmax : clip bits v ≠ longMax bits)
    (hmin : clip bits v ≠ longMin bits) : longMin bits < v ∧ v < longMax bits := by
  have hle : longMin bits ≤ longMax bits := by
    have hpos : (0 : Int) < 2 ^ (bits - 1) := by positivity
    unfold longMin longMax
    omega
  unfold clip at hmax hmin
  omega

end IntegerLiteral
end LocationStack
