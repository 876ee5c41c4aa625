import LocationStack.Config.ConfigFile

/-! # The lines of a configuration file

A line is blank, a comment, or assigns a value to a name (`Assigns`), and the cursors that
the constructor moves over a line take it apart accordingly (`parseLine_blank`,
`parseLine_assigns`).  Between the two stands a parser of lists, `parse`: the range
between two cursors is a list, and each of `trim`, `find_name`, `find_equal` and
`find_value` is a function of it.
-/
namespace LocationStack.Config

/-! ## The grammar -/

/-- `[A-Za-z][A-Za-z0-9_-]*`. -/
def IsName (name : List UInt8) : Prop :=
  ∃ c rest, name = c :: rest ∧ isalpha c = true ∧ ∀ b ∈ rest, isNameByte b = true

/-- The bytes are all spaces. -/
def AllSpace (l : List UInt8) : Prop := ∀ b ∈ l, isspace b = true

/-- There are bytes, and neither the first nor the last is a space. -/
def Trimmed (l : List UInt8) : Prop :=
  (∃ b, l.head? = some b ∧ isspace b = false) ∧ ∃ b, l.getLast? = some b ∧ isspace b = false

/-- What a value stands for: itself, or what is between two quotes. -/
inductive Unquotes : List UInt8 → List UInt8 → Prop
  | plain {raw : List UInt8} (h : raw.head? ≠ some quote) : Unquotes raw raw
  | quoted (value : List UInt8) : Unquotes (quote :: value ++ [quote]) value

/-- The line is `name = value`, the value perhaps in quotes. -/
def Assigns (line name value : List UInt8) : Prop :=
  ∃ left space₁ space₂ raw right,
    line = left ++ name ++ space₁ ++ [equalSign] ++ space₂ ++ raw ++ right ∧
      AllSpace left ∧ AllSpace space₁ ∧ AllSpace space₂ ∧ AllSpace right ∧
      IsName name ∧ Trimmed raw ∧ Unquotes raw value

/-- The line is blank, or a comment. -/
def Skipped (line : List UInt8) : Prop :=
  AllSpace line ∨ ∃ left rest, line = left ++ hash :: rest ∧ AllSpace left

/-! ## Trimming lists -/

/-- A list without the spaces at its two ends. -/
def strip (l : List UInt8) : List UInt8 := (l.dropWhile isspace).rdropWhile isspace

theorem strip_split (l : List UInt8) :
    ∃ left right, l = left ++ strip l ++ right ∧ AllSpace left ∧ AllSpace right := by
  refine ⟨l.takeWhile isspace, (l.dropWhile isspace).rtakeWhile isspace, ?_, ?_, ?_⟩
  · rw [List.append_assoc, strip, List.rdropWhile_append_rtakeWhile,
      List.takeWhile_append_dropWhile]
  · exact fun b hb => List.mem_takeWhile_imp hb
  · exact fun b hb => List.mem_rtakeWhile_imp hb

theorem strip_head? {l : List UInt8} (h : strip l ≠ []) :
    (strip l).head? = (l.dropWhile isspace).head? := by
  obtain ⟨tail, heq⟩ := List.rdropWhile_prefix isspace (l.dropWhile isspace)
  rw [← heq]
  exact (List.head?_append_of_ne_nil _ h).symm

theorem strip_trimmed {l : List UInt8} (h : strip l ≠ []) : Trimmed (strip l) := by
  constructor
  · have hne : l.dropWhile isspace ≠ [] := fun he => h (by simp [strip, he])
    refine ⟨(l.dropWhile isspace).head hne, ?_, List.head_dropWhile_not isspace hne⟩
    rw [strip_head? h, List.head?_eq_some_head hne]
  · refine ⟨(strip l).getLast h, List.getLast?_eq_some_getLast h, ?_⟩
    have hlast := List.rdropWhile_last_not isspace (l.dropWhile isspace) h
    exact Bool.eq_false_iff.mpr hlast

theorem strip_eq_nil {l : List UInt8} : strip l = [] ↔ AllSpace l := by
  constructor
  · intro h
    obtain ⟨left, right, heq, hleft, hright⟩ := strip_split l
    rw [h] at heq
    intro b hb
    rw [heq] at hb
    simp only [List.append_nil, List.mem_append] at hb
    rcases hb with hb | hb
    · exact hleft b hb
    · exact hright b hb
  · intro h
    rw [strip, List.dropWhile_eq_nil_iff.mpr h]
    rfl

/-- Stripping gives back what stands between spaces. -/
theorem strip_between {left l right : List UInt8} (hleft : AllSpace left)
    (hl : Trimmed l) (hright : AllSpace right) : strip (left ++ l ++ right) = l := by
  obtain ⟨⟨a, ha, hspace⟩, b, hb, hspace'⟩ := hl
  have hdrop : (left ++ l ++ right).dropWhile isspace = l ++ right := by
    rw [List.append_assoc, List.dropWhile_append_of_pos hleft]
    cases l with
    | nil => cases ha
    | cons c l =>
      obtain rfl : c = a := by simpa using ha
      simp [hspace]
  have hrdrop : ∀ r : List UInt8, AllSpace r → (l ++ r).rdropWhile isspace = l := by
    intro r hr
    induction r using List.reverseRecOn with
    | nil =>
      rw [List.append_nil, List.rdropWhile_eq_self_iff]
      intro hne hlast
      rw [List.getLast?_eq_some_getLast hne] at hb
      rw [Option.some.inj hb, hspace'] at hlast
      cases hlast
    | append_singleton r c ih =>
      rw [← List.append_assoc, List.rdropWhile_concat_pos _ _ _ (hr c (by simp))]
      exact ih fun d hd => hr d (by simp [hd])
  rw [strip, hdrop, hrdrop right hright]

/-! ## Parsing lists -/

/-- `find_value`, on the list between its cursors. -/
def unquote (raw : List UInt8) : Option (List UInt8) :=
  if raw.head? = some quote then
    if 2 ≤ raw.length ∧ raw.getLast? = some quote then some raw.tail.dropLast else none
  else some raw

/-- What follows the name: the value after an equals sign. -/
def parseValue (l : List UInt8) : Option (List UInt8) :=
  match strip l with
  | [] => none
  | b :: rest =>
      if b = equalSign then if strip rest = [] then none else unquote (strip rest) else none

/-- A line: nothing to keep, or a pair, or `none` if it is neither. -/
def parse (line : List UInt8) : Option (Option ConfigPair) :=
  match strip line with
  | [] => some none
  | c :: rest =>
      if c = hash then some none
      else if isalpha c then
        (parseValue (rest.dropWhile isNameByte)).map fun value =>
          some ⟨c :: rest.takeWhile isNameByte, value⟩
      else none

theorem unquote_iff {raw value : List UInt8} : unquote raw = some value ↔ Unquotes raw value := by
  unfold unquote
  constructor
  · intro h
    split at h
    · rename_i hhead
      split at h
      · rename_i hlast
        obtain ⟨hlen, hlast⟩ := hlast
        cases raw with
        | nil => cases hhead
        | cons b raw =>
          obtain rfl : b = quote := by simpa using hhead
          have hne : raw ≠ [] := by rintro rfl; simp at hlen
          rw [List.getLast?_cons_of_ne_nil hne, List.getLast?_eq_some_getLast hne] at hlast
          have hraw : raw = raw.dropLast ++ [quote] := by
            rw [← Option.some.inj hlast, List.dropLast_append_getLast]
          obtain rfl : raw.dropLast = value := by simpa using h
          rw [hraw, List.dropLast_concat]
          exact .quoted _
      · cases h
    · rename_i hhead
      cases h
      exact .plain hhead
  · intro h
    cases h with
    | plain hhead => rw [if_neg hhead]
    | quoted value =>
      have hlast : (quote :: (value ++ [quote])).getLast? = some quote :=
        List.getLast?_concat (l := quote :: value)
      simp [hlast]

/-- A byte that begins a name is neither a space nor a hash sign. -/
theorem isspace_of_isalpha {c : UInt8} (h : isalpha c = true) :
    isspace c = false ∧ c ≠ hash := by
  grind [isspace, isalpha, hash]

/-- A space does not belong to a name. -/
theorem isNameByte_of_isspace {b : UInt8} (h : isspace b = true) : isNameByte b = false := by
  grind [isspace, isNameByte, isalnum, isalpha]

/-- The first byte that is no space is the first of the stripped list. -/
theorem strip_cons {left rest : List UInt8} {c : UInt8} (hleft : AllSpace left)
    (hc : isspace c = false) : ∃ rest', strip (left ++ c :: rest) = c :: rest' := by
  have hne : strip (left ++ c :: rest) ≠ [] := by
    intro h
    have := strip_eq_nil.mp h c (by simp)
    rw [hc] at this
    cases this
  have hhead := strip_head? hne
  rw [List.dropWhile_append_of_pos hleft, List.dropWhile_cons_of_neg (by simp [hc])] at hhead
  cases hstrip : strip (left ++ c :: rest) with
  | nil => exact absurd hstrip hne
  | cons b rest' =>
    rw [hstrip] at hhead
    obtain rfl : b = c := by simpa using hhead
    exact ⟨rest', rfl⟩

/-- **The parser skips blank lines and comments.** -/
theorem parse_skipped {line : List UInt8} : parse line = some none ↔ Skipped line := by
  constructor
  · intro h
    rw [parse] at h
    cases hstrip : strip line with
    | nil => exact Or.inl (strip_eq_nil.mp hstrip)
    | cons c rest =>
      rw [hstrip] at h
      simp only [] at h
      split at h
      · rename_i hc
        obtain ⟨left, right, heq, hleft, _⟩ := strip_split line
        refine Or.inr ⟨left, rest ++ right, ?_, hleft⟩
        rw [heq, hstrip, hc]
        simp
      · split at h
        · simp at h
        · cases h
  · rintro (hblank | ⟨left, rest, rfl, hleft⟩)
    · rw [parse, strip_eq_nil.mpr hblank]
    · obtain ⟨rest', hstrip⟩ : ∃ rest', strip (left ++ hash :: rest) = hash :: rest' :=
        strip_cons hleft (by decide)
      rw [parse, hstrip]
      exact if_pos rfl

theorem parseValue_iff {l value : List UInt8} :
    parseValue l = some value ↔
      ∃ space₁ space₂ raw right, l = space₁ ++ [equalSign] ++ space₂ ++ raw ++ right ∧
        AllSpace space₁ ∧ AllSpace space₂ ∧ AllSpace right ∧ Trimmed raw ∧
        Unquotes raw value := by
  constructor
  · intro h
    obtain ⟨space₁, right, heq, hspace₁, hright⟩ := strip_split l
    rw [parseValue] at h
    cases hstrip : strip l with
    | nil => rw [hstrip] at h; cases h
    | cons b rest =>
      rw [hstrip] at h heq
      simp only [] at h
      split at h
      · rename_i hb
        split at h
        · cases h
        · rename_i hne
          obtain ⟨space₂, right', heq', hspace₂, hright'⟩ := strip_split rest
          refine ⟨space₁, space₂, strip rest, right' ++ right, ?_, hspace₁, hspace₂, ?_,
            strip_trimmed hne, unquote_iff.mp h⟩
          · rw [heq, hb]
            conv_lhs => rw [heq']
            simp
          · intro c hc
            rcases List.mem_append.mp hc with hc | hc
            · exact hright' c hc
            · exact hright c hc
      · cases h
  · rintro ⟨space₁, space₂, raw, right, rfl, hspace₁, hspace₂, hright, htrim, hvalue⟩
    have hstrip : strip (space₁ ++ [equalSign] ++ space₂ ++ raw ++ right) =
        equalSign :: (space₂ ++ raw) := by
      have htrim' : Trimmed (equalSign :: (space₂ ++ raw)) := by
        obtain ⟨_, b, hb, hspace⟩ := htrim
        refine ⟨⟨equalSign, rfl, by decide⟩, b, ?_, hspace⟩
        have hne : raw ≠ [] := by rintro rfl; cases hb
        rw [← hb, ← List.cons_append, List.getLast?_append_of_ne_nil _ hne]
      have := strip_between hspace₁ htrim' hright
      simpa using this
    have hraw : strip (space₂ ++ raw) = raw := by
      have := strip_between hspace₂ htrim (show AllSpace [] by intro b hb; cases hb)
      simpa using this
    have hne : raw ≠ [] := by
      obtain ⟨⟨b, hb, _⟩, _⟩ := htrim
      rintro rfl
      cases hb
    rw [parseValue, hstrip]
    simp only [if_true, hraw, hne, if_false]
    exact unquote_iff.mpr hvalue

/-- A name ends before a space or an equals sign. -/
theorem takeWhile_name {rest space₁ : List UInt8} (tail : List UInt8)
    (hrest : ∀ b ∈ rest, isNameByte b = true) (hspace₁ : AllSpace space₁) :
    (rest ++ (space₁ ++ equalSign :: tail)).takeWhile isNameByte = rest ∧
      (rest ++ (space₁ ++ equalSign :: tail)).dropWhile isNameByte =
        space₁ ++ equalSign :: tail := by
  have hhead : ∃ b l, space₁ ++ equalSign :: tail = b :: l ∧ isNameByte b = false := by
    cases space₁ with
    | nil => exact ⟨equalSign, tail, rfl, by decide⟩
    | cons b l => exact ⟨b, l ++ equalSign :: tail, rfl,
        isNameByte_of_isspace (hspace₁ b (List.mem_cons_self ..))⟩
  obtain ⟨b, l, heq, hb⟩ := hhead
  rw [List.takeWhile_append_of_pos hrest, List.dropWhile_append_of_pos hrest, heq,
    List.takeWhile_cons_of_neg (by simp [hb]), List.dropWhile_cons_of_neg (by simp [hb])]
  exact ⟨List.append_nil _, rfl⟩

/-- **The parser accepts the lines that assign a value to a name.** -/
theorem parse_assigns {line name value : List UInt8} :
    parse line = some (some ⟨name, value⟩) ↔ Assigns line name value := by
  constructor
  · intro h
    obtain ⟨left, right, heq, hleft, hright⟩ := strip_split line
    rw [parse] at h
    cases hstrip : strip line with
    | nil => rw [hstrip] at h; cases h
    | cons c rest =>
      rw [hstrip] at h heq
      simp only [] at h
      split at h
      · cases h
      · split at h
        · rename_i hc
          obtain ⟨value', hvalue, hpair⟩ := Option.map_eq_some_iff.mp h
          obtain ⟨hname, rfl⟩ : c :: rest.takeWhile isNameByte = name ∧ value' = value := by
            simpa using hpair
          obtain ⟨space₁, space₂, raw, right', heq', hspace₁, hspace₂, hright', htrim, hunq⟩ :=
            parseValue_iff.mp hvalue
          refine ⟨left, space₁, space₂, raw, right' ++ right, ?_, hleft, hspace₁, hspace₂, ?_,
            ⟨c, _, hname.symm, hc, fun b hb => List.mem_takeWhile_imp hb⟩, htrim, hunq⟩
          · have hrest : rest = rest.takeWhile isNameByte ++
                (space₁ ++ [equalSign] ++ space₂ ++ raw ++ right') := by
              rw [← heq', List.takeWhile_append_dropWhile]
            rw [heq, ← hname]
            conv_lhs => rw [hrest]
            simp
          · intro b hb
            rcases List.mem_append.mp hb with hb | hb
            · exact hright' b hb
            · exact hright b hb
        · cases h
  · rintro ⟨left, space₁, space₂, raw, right, rfl, hleft, hspace₁, hspace₂, hright,
      ⟨c, rest, rfl, hc, hrest⟩, htrim, hvalue⟩
    obtain ⟨hspace, hhash⟩ := isspace_of_isalpha hc
    have hstrip : strip (left ++ (c :: rest) ++ space₁ ++ [equalSign] ++ space₂ ++ raw ++ right) =
        c :: (rest ++ (space₁ ++ equalSign :: (space₂ ++ raw))) := by
      have htrim' : Trimmed (c :: (rest ++ (space₁ ++ equalSign :: (space₂ ++ raw)))) := by
        obtain ⟨_, b, hb, hlast⟩ := htrim
        refine ⟨⟨c, rfl, hspace⟩, b, ?_, hlast⟩
        have hne : raw ≠ [] := by rintro rfl; cases hb
        have hsplit : c :: (rest ++ (space₁ ++ equalSign :: (space₂ ++ raw))) =
            c :: (rest ++ (space₁ ++ equalSign :: space₂)) ++ raw := by simp
        rw [hsplit, List.getLast?_append_of_ne_nil _ hne, hb]
      have := strip_between hleft htrim' hright
      simpa using this
    obtain ⟨htake, hdrop⟩ := takeWhile_name (space₂ ++ raw) hrest hspace₁
    have hparse : parseValue (space₁ ++ equalSign :: (space₂ ++ raw)) = some value := by
      refine parseValue_iff.mpr ⟨space₁, space₂, raw, [], by simp, hspace₁, hspace₂, ?_, htrim,
        hvalue⟩
      intro b hb
      cases hb
    rw [parse, hstrip]
    simp only [if_neg hhash, if_pos hc, htake, hdrop, hparse, Option.map_some]

/-! ## The cursors -/

/-- The `n` bytes of a line from `i` on. -/
def bytesAt (line : List UInt8) (i n : Nat) : List UInt8 := (line.drop i).take n

/-- What is between two cursors. -/
def Cursors.range (c : Cursors) (line : List UInt8) : List UInt8 :=
  bytesAt line c.cursorBegin (c.cursorEnd - c.cursorBegin)

/-- The cursors are in order, and in the line. -/
structure Cursors.Within (c : Cursors) (line : List UInt8) : Prop where
  order : c.cursorBegin ≤ c.cursorEnd
  bound : c.cursorEnd ≤ line.length

theorem bytesAt_length {line : List UInt8} {i n : Nat} (h : i + n ≤ line.length) :
    (bytesAt line i n).length = n := by
  simp only [bytesAt, List.length_take, List.length_drop]
  omega

theorem charAt_eq {l : List UInt8} {i : Nat} (h : i < l.length) : charAt l i = l[i] := by
  rw [charAt, List.getD_eq_getElem?_getD, List.getElem?_eq_getElem h, Option.getD_some]

theorem bytesAt_succ {line : List UInt8} {i n : Nat} (h : i < line.length) :
    bytesAt line i (n + 1) = charAt line i :: bytesAt line (i + 1) n := by
  rw [bytesAt, List.drop_eq_getElem_cons h, List.take_succ_cons, charAt_eq h, bytesAt]

theorem bytesAt_concat {line : List UInt8} {i n : Nat} (h : i + n < line.length) :
    bytesAt line i (n + 1) = bytesAt line i n ++ [charAt line (i + n)] := by
  have hlt : n < (line.drop i).length := by rw [List.length_drop]; omega
  rw [bytesAt, bytesAt, List.take_succ_eq_append_getElem hlt, charAt_eq h, List.getElem_drop]

theorem bytesAt_add {line : List UInt8} {i k n : Nat} :
    bytesAt line i (k + n) = bytesAt line i k ++ bytesAt line (i + k) n := by
  simp [bytesAt, List.take_add]

/-- The first loop of `trim` passes over the spaces at the front. -/
theorem leftTrim_bytes {line : List UInt8} {n i : Nat} (h : i + n ≤ line.length) :
    i ≤ leftTrim line n i ∧ leftTrim line n i ≤ i + n ∧
      bytesAt line (leftTrim line n i) (i + n - leftTrim line n i) =
        (bytesAt line i n).dropWhile isspace := by
  induction n generalizing i with
  | zero => simp [leftTrim, bytesAt]
  | succ n ih =>
    rw [bytesAt_succ (by omega)]
    by_cases hspace : isspace (charAt line i) = true
    · obtain ⟨hle, hge, heq⟩ := ih (i := i + 1) (by omega)
      rw [leftTrim, if_pos hspace, List.dropWhile_cons_of_pos hspace, ← heq]
      refine ⟨by omega, by omega, ?_⟩
      rw [show i + 1 + n = i + (n + 1) by omega]
    · rw [leftTrim, if_neg hspace, List.dropWhile_cons_of_neg hspace,
        ← bytesAt_succ (by omega)]
      refine ⟨Nat.le_refl _, by omega, ?_⟩
      rw [show i + (n + 1) - i = n + 1 by omega]

/-- The second loop of `trim` passes over the spaces at the back. -/
theorem rightTrim_bytes {line : List UInt8} {i j : Nat} (hle : i ≤ j) (h : j ≤ line.length) :
    i ≤ rightTrim line i j ∧ rightTrim line i j ≤ j ∧
      bytesAt line i (rightTrim line i j - i) =
        (bytesAt line i (j - i)).rdropWhile isspace := by
  induction j with
  | zero =>
    obtain rfl : i = 0 := by omega
    simp [rightTrim, bytesAt]
  | succ j ih =>
    by_cases heq : i = j + 1
    · subst heq
      simp [rightTrim, bytesAt]
    · have hconcat : bytesAt line i (j + 1 - i) = bytesAt line i (j - i) ++ [charAt line j] := by
        rw [show j + 1 - i = (j - i) + 1 by omega, bytesAt_concat (by omega),
          show i + (j - i) = j by omega]
      by_cases hspace : isspace (charAt line j) = true
      · obtain ⟨hge, hle', hbytes⟩ := ih (by omega) (by omega)
        rw [rightTrim, if_pos ⟨by omega, hspace⟩, hconcat, List.rdropWhile_concat_pos _ _ _ hspace]
        exact ⟨hge, by omega, hbytes⟩
      · rw [rightTrim, if_neg (fun hc => hspace hc.2), hconcat,
          List.rdropWhile_concat_neg _ _ _ hspace, ← hconcat]
        exact ⟨hle, Nat.le_refl _, rfl⟩

/-- **`trim` strips what is between the cursors.** -/
theorem trim_range {line : List UInt8} {c : Cursors} (h : c.Within line) :
    (trim c line).Within line ∧ (trim c line).range line = strip (c.range line) ∧
      c.cursorBegin ≤ (trim c line).cursorBegin ∧ (trim c line).cursorEnd ≤ c.cursorEnd := by
  obtain ⟨horder, hbound⟩ := h
  rw [trim]
  split
  · rename_i hempty
    refine ⟨⟨horder, hbound⟩, ?_, Nat.le_refl _, Nat.le_refl _⟩
    have hzero : c.cursorEnd - c.cursorBegin = 0 := by omega
    simp [Cursors.range, hzero, bytesAt, strip]
  · have hroom : c.cursorBegin + (c.cursorEnd - c.cursorBegin) ≤ line.length := by omega
    obtain ⟨hge, hle, heq⟩ := leftTrim_bytes hroom
    rw [show c.cursorBegin + (c.cursorEnd - c.cursorBegin) = c.cursorEnd by omega] at hle heq
    obtain ⟨hge', hle', heq'⟩ := rightTrim_bytes hle hbound
    refine ⟨⟨hge', Nat.le_trans hle' hbound⟩, ?_, hge, hle'⟩
    rw [heq] at heq'
    exact heq'

theorem range_cons {line rest : List UInt8} {c : Cursors} {b : UInt8} (h : c.Within line)
    (hrange : c.range line = b :: rest) :
    c.cursorBegin < c.cursorEnd ∧ charAt line c.cursorBegin = b ∧
      bytesAt line (c.cursorBegin + 1) (c.cursorEnd - (c.cursorBegin + 1)) = rest := by
  obtain ⟨horder, hbound⟩ := h
  have hlt : c.cursorBegin < c.cursorEnd := by
    by_contra hge
    have hzero : c.cursorEnd - c.cursorBegin = 0 := by omega
    simp [Cursors.range, hzero, bytesAt] at hrange
  rw [Cursors.range, show c.cursorEnd - c.cursorBegin =
    (c.cursorEnd - (c.cursorBegin + 1)) + 1 by omega, bytesAt_succ (by omega)] at hrange
  cases hrange
  exact ⟨hlt, rfl, rfl⟩

theorem range_nil {line : List UInt8} {c : Cursors} (h : c.Within line)
    (hrange : c.range line = []) : c.cursorBegin ≥ c.cursorEnd := by
  have hlen : (c.range line).length = c.cursorEnd - c.cursorBegin := by
    obtain ⟨horder, hbound⟩ := h
    exact bytesAt_length (by omega)
  rw [hrange, List.length_nil] at hlen
  omega

/-- The loop of `find_name`, once the name has begun. -/
theorem nameLoop_bytes {line : List UInt8} {n i nameBegin : Nat} (h : i + n ≤ line.length) :
    nameLoop line n i (some (nameBegin, i)) =
      some (nameBegin, i + ((bytesAt line i n).takeWhile isNameByte).length) := by
  induction n generalizing i with
  | zero => simp [nameLoop, bytesAt]
  | succ n ih =>
    rw [bytesAt_succ (by omega), nameLoop]
    by_cases hname : isNameByte (charAt line i) = true
    · rw [if_pos hname, ih (by omega), List.takeWhile_cons_of_pos hname, List.length_cons,
        show i + 1 + ((bytesAt line (i + 1) n).takeWhile isNameByte).length =
          i + (((bytesAt line (i + 1) n).takeWhile isNameByte).length + 1) by omega]
    · rw [if_neg hname, List.takeWhile_cons_of_neg hname]
      rfl

/-- `find_name` takes the name, and the spaces after it. -/
theorem findName_range {line rest : List UInt8} {c : Cursors} {b : UInt8} (h : c.Within line)
    (hrange : c.range line = b :: rest) :
    if isalpha b then
      ∃ c' nameEnd, findName c line = .ok (c', c.cursorBegin, nameEnd) ∧ c'.Within line ∧
        c'.range line = strip (rest.dropWhile isNameByte) ∧
        subStringDup line c.cursorBegin nameEnd = b :: rest.takeWhile isNameByte
    else ∃ code, findName c line = .error code := by
  obtain ⟨hlt, hb, hrest⟩ := range_cons h hrange
  obtain ⟨_, hbound⟩ := h
  have hloop : nameLoop line (c.cursorEnd - c.cursorBegin) c.cursorBegin none =
      if isalpha b then
        some (c.cursorBegin, c.cursorBegin + 1 + (rest.takeWhile isNameByte).length)
      else none := by
    rw [show c.cursorEnd - c.cursorBegin = (c.cursorEnd - (c.cursorBegin + 1)) + 1 by omega,
      nameLoop, hb]
    by_cases hc : isalpha b = true
    · rw [if_pos hc, if_pos hc, nameLoop_bytes (by omega), hrest]
    · rw [if_neg hc, if_neg hc]
  have hempty : ¬ c.cursorBegin ≥ c.cursorEnd := by omega
  by_cases hc : isalpha b = true
  · rw [if_pos hc] at hloop ⊢
    rw [findName, if_neg hempty, hloop]
    generalize hk : (rest.takeWhile isNameByte).length = k
    have hsum : k + (rest.dropWhile isNameByte).length = c.cursorEnd - (c.cursorBegin + 1) := by
      have hlen := congrArg List.length (List.takeWhile_append_dropWhile (p := isNameByte)
        (l := rest))
      rw [List.length_append, hk, ← hrest, bytesAt_length (by omega), hrest] at hlen
      exact hlen
    have hparts : bytesAt line (c.cursorBegin + 1) k = rest.takeWhile isNameByte ∧
        bytesAt line (c.cursorBegin + 1 + k) (c.cursorEnd - (c.cursorBegin + 1 + k)) =
          rest.dropWhile isNameByte := by
      apply List.append_inj
      · rw [← show k + (c.cursorEnd - (c.cursorBegin + 1 + k)) =
          c.cursorEnd - (c.cursorBegin + 1) by omega, bytesAt_add] at hrest
        rw [hrest, List.takeWhile_append_dropWhile]
      · rw [bytesAt_length (by omega), hk]
    have hwithin : Cursors.Within ⟨c.cursorBegin + 1 + k, c.cursorEnd⟩ line :=
      ⟨by simp only []; omega, hbound⟩
    obtain ⟨hwithin', hstrip, _⟩ := trim_range hwithin
    refine ⟨_, _, rfl, hwithin', ?_, ?_⟩
    · rw [hstrip, ← hparts.2]
      rfl
    · rw [← hparts.1, ← hb, ← bytesAt_succ (by omega), subStringDup, bytesAt,
        show c.cursorBegin + 1 + k - c.cursorBegin = k + 1 by omega]
  · rw [if_neg hc] at hloop ⊢
    rw [findName, if_neg hempty, hloop]
    exact ⟨3, rfl⟩

/-- `find_equal` takes an equals sign, and the spaces after it. -/
theorem findEqual_range {line rest : List UInt8} {c : Cursors} {b : UInt8} (h : c.Within line)
    (hrange : c.range line = b :: rest) :
    if b = equalSign then
      ∃ c', findEqual c line = .ok c' ∧ c'.Within line ∧ c'.range line = strip rest
    else ∃ code, findEqual c line = .error code := by
  obtain ⟨hlt, hb, hrest⟩ := range_cons h hrange
  have hempty : ¬ c.cursorBegin ≥ c.cursorEnd := by omega
  by_cases hc : b = equalSign
  · rw [if_pos hc, findEqual, if_neg hempty, hb, if_pos hc]
    have hwithin : Cursors.Within ⟨c.cursorBegin + 1, c.cursorEnd⟩ line := ⟨hlt, h.bound⟩
    obtain ⟨hwithin', hstrip, _⟩ := trim_range hwithin
    refine ⟨_, rfl, hwithin', ?_⟩
    rw [hstrip, ← hrest]
    rfl
  · rw [if_neg hc, findEqual, if_neg hempty, hb, if_neg hc]
    exact ⟨3, rfl⟩

/-- `find_value` takes all that is left. -/
theorem findValue_range {line : List UInt8} {c : Cursors} (h : c.Within line)
    (hne : c.range line ≠ []) :
    match unquote (c.range line) with
    | some value => ∃ c' valueBegin valueEnd, findValue c line = .ok (c', valueBegin, valueEnd) ∧
        c'.cursorBegin = c'.cursorEnd ∧ subStringDup line valueBegin valueEnd = value
    | none => ∃ code, findValue c line = .error code := by
  cases hrange : c.range line with
  | nil => exact absurd hrange hne
  | cons b rest =>
    obtain ⟨hlt, hb, hrest⟩ := range_cons h hrange
    have hbound := h.bound
    have hempty : ¬ c.cursorBegin ≥ c.cursorEnd := by omega
    by_cases hquote : b = quote
    swap
    · have hunquote : unquote (b :: rest) = some (b :: rest) :=
        if_neg fun hc => hquote (by simpa using hc)
      rw [hunquote, findValue, if_neg hempty]
      simp only [hb, if_neg hquote]
      exact ⟨_, _, _, rfl, rfl, hrange⟩
    by_cases htwo : c.cursorEnd - c.cursorBegin ≥ 2
    · -- the line is the quote, the bytes between, and the last byte
      have hlast : rest =
          bytesAt line (c.cursorBegin + 1) (c.cursorEnd - 1 - (c.cursorBegin + 1)) ++
            [charAt line (c.cursorEnd - 1)] := by
        rw [← hrest, show c.cursorEnd - (c.cursorBegin + 1) =
          c.cursorEnd - 1 - (c.cursorBegin + 1) + 1 by omega, bytesAt_concat (by omega),
          show c.cursorBegin + 1 + (c.cursorEnd - 1 - (c.cursorBegin + 1)) = c.cursorEnd - 1
            by omega]
      have hunquote : unquote (b :: rest) =
          if charAt line (c.cursorEnd - 1) = quote then
            some (bytesAt line (c.cursorBegin + 1) (c.cursorEnd - 1 - (c.cursorBegin + 1)))
          else none := by
        rw [unquote, if_pos (by rw [hquote]; rfl), hlast, ← List.cons_append,
          List.getLast?_concat]
        simp
      rw [hunquote, findValue, if_neg hempty]
      simp only [hb, if_pos hquote, if_pos htwo]
      by_cases hend : charAt line (c.cursorEnd - 1) = quote
      · rw [if_pos hend, if_pos hend]
        exact ⟨_, _, _, rfl, rfl, rfl⟩
      · rw [if_neg hend, if_neg hend]
        exact ⟨3, rfl⟩
    · have hnil : rest = [] := by
        rw [← hrest, show c.cursorEnd - (c.cursorBegin + 1) = 0 by omega]
        rfl
      have hunquote : unquote (b :: rest) = none := by
        rw [unquote, if_pos (by rw [hquote]; rfl), hnil]
        exact if_neg fun hc => absurd hc.1 (by simp)
      rw [hunquote, findValue, if_neg hempty]
      simp only [hb, if_pos hquote, if_neg htwo]
      exact ⟨4, rfl⟩

/-- **The cursors take a line apart as the parser of lists does.** -/
theorem parseLine_parse (line : List UInt8) :
    match parse line with
    | some result => parseLine line = .ok result
    | none => ∃ code, parseLine line = .error code := by
  have hstart : Cursors.Within ⟨0, line.length⟩ line := ⟨Nat.zero_le _, Nat.le_refl _⟩
  have hall : Cursors.range ⟨0, line.length⟩ line = line := by
    simp [Cursors.range, bytesAt]
  obtain ⟨hwithin, hstrip, _⟩ := trim_range hstart
  rw [hall] at hstrip
  rw [parse, parseLine, ← hstrip]
  generalize trim ⟨0, line.length⟩ line = c at hwithin
  cases hrange : c.range line with
  | nil => simp only [if_pos (range_nil hwithin hrange)]
  | cons b rest =>
    obtain ⟨hlt, hb, _⟩ := range_cons hwithin hrange
    have hempty : ¬ c.cursorBegin ≥ c.cursorEnd := by omega
    simp only [if_neg hempty, hb]
    by_cases hhash : b = hash
    · simp only [if_pos hhash]
    simp only [if_neg hhash]
    have hname := findName_range hwithin hrange
    by_cases hc : isalpha b = true
    swap
    · rw [if_neg hc] at hname ⊢
      obtain ⟨code, hname⟩ := hname
      simp only [hname]
      exact ⟨110, rfl⟩
    rw [if_pos hc] at hname ⊢
    obtain ⟨c₁, nameEnd, hname, hwithin₁, hstrip₁, hcopy⟩ := hname
    simp only [hname, parseValue, ← hstrip₁, hcopy]
    cases hrange₁ : c₁.range line with
    | nil =>
      have hequal : findEqual c₁ line = .error 2 := if_pos (range_nil hwithin₁ hrange₁)
      simp only [hequal, Option.map_none]
      exact ⟨111, rfl⟩
    | cons e rest₁ =>
      have hequal := findEqual_range hwithin₁ hrange₁
      by_cases he : e = equalSign
      swap
      · rw [if_neg he] at hequal
        obtain ⟨code, hequal⟩ := hequal
        simp only [if_neg he, hequal, Option.map_none]
        exact ⟨111, rfl⟩
      rw [if_pos he] at hequal
      obtain ⟨c₂, hequal, hwithin₂, hstrip₂⟩ := hequal
      simp only [if_pos he, hequal, ← hstrip₂]
      by_cases hnil : c₂.range line = []
      · have hvalue : findValue c₂ line = .error 2 := if_pos (range_nil hwithin₂ hnil)
        simp only [if_pos hnil, hvalue, Option.map_none]
        exact ⟨112, rfl⟩
      have hvalue := findValue_range hwithin₂ hnil
      simp only [if_neg hnil]
      cases hunquote : unquote (c₂.range line) with
      | none =>
        rw [hunquote] at hvalue
        obtain ⟨code, hvalue⟩ := hvalue
        simp only [hvalue, Option.map_none]
        exact ⟨112, rfl⟩
      | some value =>
        rw [hunquote] at hvalue
        obtain ⟨c₃, valueBegin, valueEnd, hvalue, hend, hcopy₂⟩ := hvalue
        have hdone : ¬ c₃.cursorBegin < c₃.cursorEnd := by omega
        simp only [hvalue, if_neg hdone, hcopy₂, Option.map_some]

/-- **A line is skipped** exactly if it is blank or a comment. -/
theorem parseLine_skipped {line : List UInt8} : parseLine line = .ok none ↔ Skipped line := by
  have h := parseLine_parse line
  rw [← parse_skipped]
  cases hparse : parse line with
  | none =>
    rw [hparse] at h
    obtain ⟨code, h⟩ := h
    simp [h]
  | some result =>
    rw [hparse] at h
    simp [h]

/-- **A line gives a pair** exactly if it assigns the value to the name. -/
theorem parseLine_assigns {line name value : List UInt8} :
    parseLine line = .ok (some ⟨name, value⟩) ↔ Assigns line name value := by
  have h := parseLine_parse line
  rw [← parse_assigns]
  cases hparse : parse line with
  | none =>
    rw [hparse] at h
    obtain ⟨code, h⟩ := h
    simp [h]
  | some result =>
    rw [hparse] at h
    simp [h]

end LocationStack.Config
