import Mathlib.Data.Nat.Digits.Lemmas

/-! # Decimal numbers in strings

How the standard library writes an integer in decimal (`ofInt`) and how it scans one (`scanInt`):
white space is passed over, then come a sign, which may be missing, and the longest run of digits,
which may not.  What was written is scanned, up to anything that is not a digit.
-/
namespace LocationStack.Decimal

/-- The byte is a digit. -/
def isDigit (b : UInt8) : Bool := decide (48 ≤ b.toNat) && decide (b.toNat ≤ 57)

/-- `isspace`. -/
def isSpace (b : UInt8) : Bool := b == 32 || (decide (9 ≤ b.toNat) && decide (b.toNat ≤ 13))

/-- The byte of a digit. -/
def digit (d : Nat) : UInt8 := UInt8.ofNat (48 + d)

/-- A natural number, most significant digit first. -/
def ofNat (n : Nat) : List UInt8 :=
  if n = 0 then [digit 0] else (Nat.digits 10 n).reverse.map digit

/-- `std::to_string`, and `%d`. -/
def ofInt (x : Int) : List UInt8 := if x < 0 then 45 :: ofNat x.natAbs else ofNat x.natAbs

/-- The number that digits stand for. -/
def value (ds : List UInt8) : Nat := ds.foldl (fun v b => 10 * v + (b.toNat - 48)) 0

/-- The digits at the front, if there are any, and what comes after them. -/
def scanDigits (s : List UInt8) : Option (Nat × List UInt8) :=
  if s.takeWhile isDigit = [] then none
  else some (value (s.takeWhile isDigit), s.dropWhile isDigit)

/-- `%d` of `sscanf`: the number, and what comes after it. -/
def scanInt (s : List UInt8) : Option (Int × List UInt8) :=
  let s := s.dropWhile isSpace
  if s.head? = some 45 then (scanDigits s.tail).map fun r => (-(r.1 : Int), r.2)
  else if s.head? = some 43 then (scanDigits s.tail).map fun r => ((r.1 : Int), r.2)
  else (scanDigits s).map fun r => ((r.1 : Int), r.2)

/-! ## What is written -/

theorem digit_toNat {d : Nat} (h : d < 10) : (digit d).toNat = 48 + d := by
  rw [digit, UInt8.toNat_ofNat']
  omega

theorem isDigit_digit {d : Nat} (h : d < 10) : isDigit (digit d) = true := by
  simp only [isDigit, digit_toNat h, Bool.and_eq_true, decide_eq_true_eq]
  omega

theorem isDigit_of_mem_ofNat {n : Nat} {b : UInt8} (h : b ∈ ofNat n) : isDigit b = true := by
  unfold ofNat at h
  split at h
  · rw [List.mem_singleton.mp h]
    exact isDigit_digit (by decide)
  · obtain ⟨d, hd, rfl⟩ := List.mem_map.mp h
    exact isDigit_digit (Nat.digits_lt_base (by decide) (List.mem_reverse.mp hd))

theorem ofNat_ne_nil (n : Nat) : ofNat n ≠ [] := by
  unfold ofNat
  split
  · simp
  · rename_i hn
    simpa [Nat.digits_ne_nil_iff_ne_zero] using hn

/-- The bytes of a number are digits and a minus sign. -/
theorem mem_ofInt {x : Int} {b : UInt8} (h : b ∈ ofInt x) : b = 45 ∨ isDigit b = true := by
  unfold ofInt at h
  split at h
  · exact (List.mem_cons.mp h).imp_right isDigit_of_mem_ofNat
  · exact Or.inr (isDigit_of_mem_ofNat h)

theorem ofNat_length_le {n k : Nat} (hk : 0 < k) (h : n < 10 ^ k) : (ofNat n).length ≤ k := by
  unfold ofNat
  split
  · exact hk
  · rw [List.length_map, List.length_reverse]
    exact (Nat.digits_length_le_iff (by decide) n).mpr h

/-! ## What is scanned -/

theorem value_map_digit {ds : List Nat} (h : ∀ d ∈ ds, d < 10) :
    value (ds.reverse.map digit) = Nat.ofDigits 10 ds := by
  induction ds with
  | nil => rfl
  | cons d ds ih =>
    have hd := digit_toNat (h d (List.mem_cons_self ..))
    rw [value] at ih
    rw [List.reverse_cons, List.map_append, value, List.foldl_append,
      ih fun x hx => h x (List.mem_cons_of_mem _ hx), Nat.ofDigits_cons]
    simp only [List.map_cons, List.map_nil, List.foldl_cons, List.foldl_nil, hd]
    omega

@[simp] theorem value_ofNat (n : Nat) : value (ofNat n) = n := by
  unfold ofNat
  split
  · rename_i hn
    rw [hn]
    rfl
  · rw [value_map_digit fun d hd => Nat.digits_lt_base (by decide) hd, Nat.ofDigits_digits]

/-- What comes after a number does not go on with a digit. -/
def Ends (rest : List UInt8) : Prop := ∀ b ∈ rest.head?, isDigit b = false

theorem scanDigits_ofNat (n : Nat) {rest : List UInt8} (hrest : Ends rest) :
    scanDigits (ofNat n ++ rest) = some (n, rest) := by
  have hall : ∀ b ∈ ofNat n, isDigit b = true := fun b hb => isDigit_of_mem_ofNat hb
  have htake : rest.takeWhile isDigit = [] := by
    cases rest with
    | nil => rfl
    | cons b rest => rw [List.takeWhile_cons, hrest b rfl]; rfl
  have hdrop : rest.dropWhile isDigit = rest := by
    cases rest with
    | nil => rfl
    | cons b rest => rw [List.dropWhile_cons, hrest b rfl]; rfl
  rw [scanDigits, List.takeWhile_append_of_pos hall, List.dropWhile_append_of_pos hall, htake,
    hdrop, List.append_nil, if_neg (ofNat_ne_nil n), value_ofNat]

/-- **A number that was written is scanned.** -/
theorem scanInt_ofInt (x : Int) {rest : List UInt8} (hrest : Ends rest) :
    scanInt (ofInt x ++ rest) = some (x, rest) := by
  unfold ofInt
  split
  · rename_i hneg
    have hspace : ((45 :: ofNat x.natAbs) ++ rest).dropWhile isSpace =
        45 :: (ofNat x.natAbs ++ rest) := by
      rw [List.cons_append, List.dropWhile_cons]
      rfl
    rw [scanInt, hspace]
    simp only [List.head?_cons, if_true, List.tail_cons, scanDigits_ofNat _ hrest,
      Option.map_some, Option.some.injEq, Prod.mk.injEq, and_true]
    omega
  · rename_i hpos
    obtain ⟨b, bs, hbs⟩ := List.exists_cons_of_ne_nil (ofNat_ne_nil x.natAbs)
    have hdigit : isDigit b = true := isDigit_of_mem_ofNat (n := x.natAbs) (by rw [hbs]; simp)
    have hb : 48 ≤ b.toNat := by
      simp only [isDigit, Bool.and_eq_true, decide_eq_true_eq] at hdigit
      exact hdigit.1
    have hne : ∀ c : UInt8, c.toNat < 48 → b ≠ c := fun c hc h => by rw [h] at hb; omega
    have hspace : (ofNat x.natAbs ++ rest).dropWhile isSpace = ofNat x.natAbs ++ rest := by
      have : isSpace b = false := by
        have h32 := hne 32 (by decide)
        simp only [isSpace, Bool.or_eq_false_iff, beq_eq_false_iff_ne, ne_eq, h32,
          not_false_eq_true, true_and, Bool.and_eq_false_iff, decide_eq_false_iff_not]
        omega
      rw [hbs, List.cons_append, List.dropWhile_cons, this]
      rfl
    have hhead : (ofNat x.natAbs ++ rest).head? = some b := by rw [hbs]; rfl
    rw [scanInt]
    simp only [hspace, hhead, Option.some.injEq]
    rw [if_neg (hne 45 (by decide)), if_neg (hne 43 (by decide)), scanDigits_ofNat _ hrest]
    simp only [Option.map_some, Option.some.injEq, Prod.mk.injEq, and_true]
    omega

end LocationStack.Decimal
