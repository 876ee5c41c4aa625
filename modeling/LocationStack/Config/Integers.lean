import LocationStack.Config.Grammar
import LocationStack.Lib.IntegerLiteral

/-! # Integers in the configuration file

`getInt32` of `config_file.cpp` and the three functions that call it, each of which returns a
result and may set the variable of its caller.

A value converts if it is a literal, behind spaces, in the range of an `int` and not at an end of
the range of a `long`: then the variable is set to it.  Else the variable keeps what it holds, and
the default is for a name that is not there (`int32_settled`).  Two of the functions compare with
zero what the variable holds after a refusal, too.
-/
namespace LocationStack.Config

open IntegerLiteral

/-- The bits of a `long`, and whether `strtol` sets `errno` when it finds no digits. -/
structure Platform where
  longBits : Nat
  errnoWithoutDigits : Bool

/-- `INT_MAX` and `INT_MIN`. -/
def intMax : Int := 2 ^ 31 - 1
def intMin : Int := -2 ^ 31

/-- The conversion to an `int`. -/
def toInt32 (v : Int) : Int := v.bmod (2 ^ 32)

/-! ## The functions -/

/-- What `getInt32` makes of the value of the pair it found: the result, and the variable. -/
def convertInt32 (p : Platform) (value : List UInt8) (content : Int) : Int × Int :=
  if value.length < 1 then (101, content)
  else
    let temp := strtol p.longBits p.errnoWithoutDigits value
    if longMax p.longBits = temp.value ∨ longMin p.longBits = temp.value then (102, content)
    else if temp.errno = true then (103, content)
    else if temp.rest ≠ [] then (104, content)
    else if temp.value > intMax ∨ temp.value < intMin then (105, content)
    else (0, toInt32 temp.value)

/-- `getInt32`: the result, and the variable. -/
def ConfigFile.getInt32 (p : Platform) (f : ConfigFile) (name : Option (List UInt8))
    (content : Int) : Int × Int :=
  if f.loaded = false then (notFound, content)
  else
    match name with
    | none => (3, content)
    | some name =>
        match f.config.find? (·.name = name) with
        | some pair => convertInt32 p pair.value content
        | none => (notFound, content)

/-- `getInt32Default`. -/
def ConfigFile.getInt32Default (p : Platform) (f : ConfigFile) (name : Option (List UInt8))
    (content default : Int) : Int × Int :=
  let (result, content) := f.getInt32 p name content
  if result = notFound then (0, default) else (result, content)

/-- The two functions that compare what the variable holds with zero. -/
def ConfigFile.checkedInt32Default (refuses : Int → Bool) (p : Platform) (f : ConfigFile)
    (name : Option (List UInt8)) (content default : Int) : Int × Int :=
  let (result, content) := f.getInt32 p name content
  if result = notFound then (0, default)
  else if refuses content then (1, default)
  else (result, content)

/-- `get_PZ_Int32Default`. -/
def ConfigFile.getPZInt32Default := ConfigFile.checkedInt32Default (· < 0)

/-- `get_PNZ_Int32Default`. -/
def ConfigFile.getPNZInt32Default := ConfigFile.checkedInt32Default (· ≤ 0)

/-! ## What a value converts to -/

/-- **The value converts to `v`**: a literal behind spaces, in the range of an `int`, and not at an
end of the range of a `long`. -/
def Converts (p : Platform) (value : List UInt8) (v : Int) : Prop :=
  (∃ spaces body, value = spaces ++ body ∧ AllSpace spaces ∧ Literal body v) ∧
    (intMin ≤ v ∧ v ≤ intMax) ∧ longMin p.longBits < v ∧ v < longMax p.longBits

/-- The value of the first pair of the name, or the result without one. -/
def ConfigFile.lookup (f : ConfigFile) (name : Option (List UInt8)) : Except Int (List UInt8) :=
  if f.loaded = false then .error notFound
  else
    match name with
    | none => .error 3
    | some name =>
        match f.config.find? (·.name = name) with
        | some pair => .ok pair.value
        | none => .error notFound

theorem getInt32_eq (p : Platform) (f : ConfigFile) (name : Option (List UInt8)) (content : Int) :
    f.getInt32 p name content =
      match f.lookup name with
      | .ok value => convertInt32 p value content
      | .error result => (result, content) := by
  unfold ConfigFile.getInt32 ConfigFile.lookup
  cases f.loaded with
  | false => rfl
  | true =>
    cases name with
    | none => rfl
    | some name => cases hfind : f.config.find? (·.name = name) <;> simp [hfind]

theorem lookup_ne_error_zero (f : ConfigFile) (name : Option (List UInt8)) :
    f.lookup name ≠ .error 0 := by
  unfold ConfigFile.lookup
  cases f.loaded with
  | false => simp [notFound]
  | true =>
    cases name with
    | none => simp
    | some name => cases hfind : f.config.find? (·.name = name) <;> simp [hfind, notFound]

theorem isspace_eq_isSpace (b : UInt8) : isspace b = Decimal.isSpace b := by
  simp [isspace, Decimal.isSpace, UInt8.le_iff_toNat_le]

theorem toInt32_of_range {v : Int} (hmin : intMin ≤ v) (hmax : v ≤ intMax) : toInt32 v = v := by
  unfold intMin at hmin
  unfold intMax at hmax
  exact Int.bmod_eq_of_le (by omega) (by omega)

/-- A value that converts is what the variable is set to. -/
theorem convertInt32_of_converts {p : Platform} {value : List UInt8} {v : Int}
    (h : Converts p value v) (content : Int) : convertInt32 p value content = (0, v) := by
  obtain ⟨⟨spaces, body, rfl, hspaces, hbody⟩, ⟨hmin, hmax⟩, hlow, hhigh⟩ := h
  have hlength : ¬(spaces ++ body).length < 1 := by
    obtain ⟨b, rest, rfl, -⟩ := hbody.not_space
    rw [List.length_append, List.length_cons]
    omega
  have htemp := @strtol_literal p.longBits p.errnoWithoutDigits _ _ _
    (fun b hb => (isspace_eq_isSpace b).symm.trans (hspaces b hb)) hbody
  rw [clip_eq_self hlow hhigh] at htemp
  have hends : ¬(longMax p.longBits = v ∨ longMin p.longBits = v) := by omega
  have hint : ¬(v > intMax ∨ v < intMin) := by omega
  rw [convertInt32, if_neg hlength, htemp]
  simp [hends, hint, toInt32_of_range hmin hmax]

/-- A value is refused with one of five results, unless it converts. -/
theorem convertInt32_refused {p : Platform} {value : List UInt8}
    (h : ∀ v, ¬Converts p value v) (content : Int) :
    ∃ result, 101 ≤ result ∧ result ≤ 105 ∧ convertInt32 p value content = (result, content) := by
  unfold convertInt32
  split
  case isTrue => exact ⟨101, by decide, by decide, rfl⟩
  case isFalse hlength =>
    have hvalue : value ≠ [] := by
      rintro rfl
      exact hlength (by decide)
    dsimp only
    split
    case isTrue => exact ⟨102, by decide, by decide, rfl⟩
    case isFalse hends =>
      split
      case isTrue => exact ⟨103, by decide, by decide, rfl⟩
      case isFalse herrno =>
        split
        case isTrue => exact ⟨104, by decide, by decide, rfl⟩
        case isFalse hrest =>
          split
          case isTrue => exact ⟨105, by decide, by decide, rfl⟩
          case isFalse hint =>
            -- Nothing was refused, and so the value converts.
            obtain ⟨spaces, body, v, rfl, hspaces, hbody⟩ :=
              literal_of_strtol hvalue (not_not.mp hrest)
            rw [strtol_literal hspaces hbody] at hends hint
            obtain ⟨hlow, hhigh⟩ := between_of_clip (fun he => hends (Or.inl he.symm))
              (fun he => hends (Or.inr he.symm))
            dsimp only at hint
            rw [clip_eq_self hlow hhigh] at hint
            refine absurd ⟨⟨spaces, body, rfl, ?_, hbody⟩, by omega, hlow, hhigh⟩ (h v)
            exact fun b hb => (isspace_eq_isSpace b).trans (hspaces b hb)

/-! ## The four functions -/

/-- What the four functions return and leave in the variable, when the first of them returns
`result` and the variable then holds `held`. -/
structure Settles (p : Platform) (f : ConfigFile) (name : Option (List UInt8))
    (content default result held : Int) : Prop where
  plain : f.getInt32 p name content = (result, held)
  orDefault : f.getInt32Default p name content default = (result, held)
  nonNegative : f.getPZInt32Default p name content default =
    if held < 0 then (1, default) else (result, held)
  positive : f.getPNZInt32Default p name content default =
    if held ≤ 0 then (1, default) else (result, held)

/-- A result other than `NOT_FOUND` is passed on. -/
theorem settles_of_getInt32 {p : Platform} {f : ConfigFile} {name : Option (List UInt8)}
    {content result held : Int} (default : Int)
    (h : f.getInt32 p name content = (result, held)) (hresult : result ≠ notFound) :
    Settles p f name content default result held where
  plain := h
  orDefault := by simp [ConfigFile.getInt32Default, h, hresult]
  nonNegative := by
    simp [ConfigFile.getPZInt32Default, ConfigFile.checkedInt32Default, h, hresult]
  positive := by
    simp [ConfigFile.getPNZInt32Default, ConfigFile.checkedInt32Default, h, hresult]

theorem settles_of_converts {p : Platform} {f : ConfigFile} {name : Option (List UInt8)}
    {value : List UInt8} {v : Int} (hvalue : f.lookup name = .ok value) (h : Converts p value v)
    (content default : Int) : Settles p f name content default 0 v := by
  refine settles_of_getInt32 default ?_ (by decide)
  rw [getInt32_eq, hvalue]
  exact convertInt32_of_converts h content

theorem settles_of_refused {p : Platform} {f : ConfigFile} {name : Option (List UInt8)}
    {value : List UInt8} (hvalue : f.lookup name = .ok value) (h : ∀ v, ¬Converts p value v)
    (content default : Int) :
    ∃ result, 101 ≤ result ∧ result ≤ 105 ∧ Settles p f name content default result content := by
  obtain ⟨result, hlow, hhigh, heq⟩ := convertInt32_refused h content
  refine ⟨result, hlow, hhigh, settles_of_getInt32 default ?_ ?_⟩
  · rw [getInt32_eq, hvalue]
    exact heq
  · unfold notFound
    omega

/-- Without the name, or the file, it is the default in three of the functions. -/
theorem defaults_of_notFound {p : Platform} {f : ConfigFile} {name : Option (List UInt8)}
    (h : f.lookup name = .error notFound) (content default : Int) :
    f.getInt32 p name content = (notFound, content) ∧
      f.getInt32Default p name content default = (0, default) ∧
      f.getPZInt32Default p name content default = (0, default) ∧
      f.getPNZInt32Default p name content default = (0, default) := by
  have hplain : f.getInt32 p name content = (notFound, content) := by rw [getInt32_eq, h]
  refine ⟨hplain, ?_, ?_, ?_⟩
  · simp [ConfigFile.getInt32Default, hplain]
  · simp [ConfigFile.getPZInt32Default, ConfigFile.checkedInt32Default, hplain]
  · simp [ConfigFile.getPNZInt32Default, ConfigFile.checkedInt32Default, hplain]

/-- A pointer to a name that is null. -/
theorem settles_of_null {p : Platform} {f : ConfigFile} (hloaded : f.loaded = true)
    (content default : Int) : Settles p f none content default 3 content := by
  refine settles_of_getInt32 default ?_ (by decide)
  simp [ConfigFile.getInt32, hloaded]

/-- **A success of `getInt32`** is a value that converts. -/
theorem getInt32_succeeds_iff (p : Platform) (f : ConfigFile) (name : Option (List UInt8))
    (content : Int) :
    (f.getInt32 p name content).1 = 0 ↔
      ∃ value v, f.lookup name = .ok value ∧ Converts p value v := by
  constructor
  · intro h
    rw [getInt32_eq] at h
    cases hvalue : f.lookup name with
    | error result =>
      rw [hvalue] at h
      obtain rfl : result = 0 := h
      exact absurd hvalue (lookup_ne_error_zero f name)
    | ok value =>
      by_contra hno
      have hrefused : ∀ v, ¬Converts p value v := fun v hv => hno ⟨value, v, rfl, hv⟩
      obtain ⟨result, hlow, -, heq⟩ := convertInt32_refused hrefused content
      rw [hvalue] at h
      simp only [heq] at h
      omega
  · rintro ⟨value, v, hvalue, hv⟩
    rw [(settles_of_converts hvalue hv content 0).plain]

/-- **An integer of the configuration file.**  The variable is set to the value exactly if that
converts, which is then compared with zero where the function does so.  A value that does not
convert leaves what the variable holds, or what the function puts in the place of that; the
default is for a name without a value. -/
theorem int32_settled (p : Platform) (f : ConfigFile) (name : Option (List UInt8))
    (content default : Int) :
    ((f.getInt32 p name content).1 = 0 ↔
      ∃ value v, f.lookup name = .ok value ∧ Converts p value v) ∧
    (∀ value v, f.lookup name = .ok value → Converts p value v →
      Settles p f name content default 0 v) ∧
    (∀ value, f.lookup name = .ok value → (∀ v, ¬Converts p value v) →
      ∃ result, 101 ≤ result ∧ result ≤ 105 ∧ Settles p f name content default result content) ∧
    (f.loaded = true → name = none → Settles p f name content default 3 content) ∧
    (f.lookup name = .error notFound →
      f.getInt32 p name content = (notFound, content) ∧
        f.getInt32Default p name content default = (0, default) ∧
        f.getPZInt32Default p name content default = (0, default) ∧
        f.getPNZInt32Default p name content default = (0, default)) := by
  refine ⟨getInt32_succeeds_iff p f name content, ?_, ?_, ?_, ?_⟩
  · intro value v hvalue h
    exact settles_of_converts hvalue h content default
  · intro value hvalue h
    exact settles_of_refused hvalue h content default
  · rintro hloaded rfl
    exact settles_of_null hloaded content default
  · intro h
    exact defaults_of_notFound h content default

/-- The line `A=-0x1F`, whose value is negative: one of the functions puts the default there. -/
theorem int32_settled_hexadecimal :
    (ConfigFile.getInt32 ⟨64, false⟩ ⟨true, [⟨[65], [45, 48, 120, 49, 70]⟩]⟩ (some [65]) 7).1 = 0 ∧
      ConfigFile.getPZInt32Default ⟨64, false⟩ ⟨true, [⟨[65], [45, 48, 120, 49, 70]⟩]⟩ (some [65])
        7 9 = (1, 9) := by
  have hliteral : Literal [45, 48, 120, 49, 70] (-31) :=
    .minus (.hexadecimal (Or.inl rfl) (List.all_eq_true.mp (by decide)))
  have hconverts : Converts ⟨64, false⟩ [45, 48, 120, 49, 70] (-31) :=
    ⟨⟨[], _, rfl, nofun, hliteral⟩, by decide, by decide, by decide⟩
  obtain ⟨hsucceeds, hconverted, -⟩ := int32_settled ⟨64, false⟩
    ⟨true, [⟨[65], [45, 48, 120, 49, 70]⟩]⟩ (some [65]) 7 9
  refine ⟨hsucceeds.mpr ⟨_, _, by decide, hconverts⟩, ?_⟩
  exact (hconverted _ _ (by decide) hconverts).nonNegative

/-- The line `A="12 "`: between the quotation marks the space is kept, and the literal before it is
refused, although it is in the range of an `int`.  The default is not put in its place. -/
theorem space_behind_refused :
    parseLine [65, 61, 34, 49, 50, 32, 34] = .ok (some ⟨[65], [49, 50, 32]⟩) ∧
      (¬∀ (f : ConfigFile) (name : Option (List UInt8)) (value : List UInt8) (content : Int),
        f.lookup name = .ok value →
          ((f.getInt32 ⟨64, false⟩ name content).1 = 0 ↔
            ∃ v, Literal (strip value) v ∧ intMin ≤ v ∧ v ≤ intMax)) ∧
      ¬∀ (f : ConfigFile) (name : Option (List UInt8)) (content default : Int),
        (f.getInt32Default ⟨64, false⟩ name content default).1 ≠ 0 →
          (f.getInt32Default ⟨64, false⟩ name content default).2 = default := by
  refine ⟨by decide, fun h => ?_, fun h => ?_⟩
  · have hsucceeds := h ⟨true, [⟨[65], [49, 50, 32]⟩]⟩ (some [65]) [49, 50, 32] 7 (by decide)
    have hliteral : Literal (strip [49, 50, 32]) 12 :=
      .plain (.decimal (by decide) (List.all_eq_true.mp (by decide)))
    exact absurd (hsucceeds.mpr ⟨12, hliteral, by decide, by decide⟩) (by decide)
  · exact absurd (h ⟨true, [⟨[65], [49, 50, 32]⟩]⟩ (some [65]) 7 9 (by decide)) (by decide)

end LocationStack.Config
