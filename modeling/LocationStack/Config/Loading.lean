import LocationStack.Config.Grammar

/-! # Loading a configuration file

The constructor is handed a file in fragments: `fgets` ends one at a newline, or when its
buffer is full.  It loads the file exactly if the string in each of them is short enough and
of the grammar (`readLines_spec`), and then serves what the strings assign
(`ConfigFile.serves`).  When the buffer holds every line, the fragments are the lines of the
file (`fragments_eq_lines`), and a loaded file is one of well-formed lines, but for a value
that is empty between its quotes.
-/
namespace LocationStack.Config

open LittleEndian

/-! ## What a file says -/

/-- The lines of a file, each with its newline; the last one may lack it. -/
def lines : List UInt8 → List (List UInt8)
  | [] => []
  | b :: file =>
      if b = newline then [b] :: lines file
      else
        match lines file with
        | [] => [[b]]
        | line :: rest => (b :: line) :: rest

/-- The line is blank, a comment, or assigns a value that is not empty. -/
def WellFormed (line : List UInt8) : Prop :=
  Skipped line ∨ ∃ name value, Assigns line name value ∧ value ≠ []

/-- The line is blank, a comment, or assigns a value. -/
def Loose (line : List UInt8) : Prop := Skipped line ∨ ∃ name value, Assigns line name value

/-- The last of the lines that assigns a value to the name assigns this one. -/
def LastAssigns (ls : List (List UInt8)) (name value : List UInt8) : Prop :=
  ∃ before line after, ls = before ++ line :: after ∧ Assigns line name value ∧
    ∀ l ∈ after, ∀ v, ¬ Assigns l name v

/-- No byte of the file is zero. -/
def NulFree (content : List UInt8) : Prop := ∀ b ∈ content, b ≠ 0

/-- Each line, with its newline, is shorter than `maxLineLength`. -/
def Short (maxLineLength : Nat) (content : List UInt8) : Prop :=
  ∀ line ∈ lines content, line.length < maxLineLength

theorem WellFormed.loose {line : List UInt8} (h : WellFormed line) : Loose line := by
  rcases h with h | ⟨name, value, h, _⟩
  · exact Or.inl h
  · exact Or.inr ⟨name, value, h⟩

/-! ## The fragments of a file -/

/-- What the calls of `fgets` with this size hand over, one after the other. -/
def fragments (size : Int) (file : List UInt8) : List (List UInt8) :=
  match fgets size file with
  | none => []
  | some (fragment, rest) =>
      if _h : rest.length < file.length then fragment :: fragments size rest else []
termination_by file.length

theorem lines_ne_nil {file : List UInt8} (h : file ≠ []) : lines file ≠ [] := by
  cases file with
  | nil => exact absurd rfl h
  | cons b file =>
    rw [lines]
    split
    · simp
    · split <;> simp

theorem length_pos_of_mem_lines {file line : List UInt8} (h : line ∈ lines file) :
    0 < line.length := by
  induction file generalizing line with
  | nil => cases h
  | cons b file ih =>
    rw [lines] at h
    split at h
    · rcases List.mem_cons.mp h with rfl | h
      · simp
      · exact ih h
    · split at h
      · rw [List.mem_singleton.mp h]
        simp
      · rename_i first rest heq
        rcases List.mem_cons.mp h with rfl | h
        · simp
        · exact ih (by rw [heq]; exact List.mem_cons_of_mem _ h)

theorem readLine_nil (n : Nat) : readLine n [] = ([], []) := by
  cases n <;> rfl

/-- `fgets` reads a line, or as much of it as there is room for. -/
theorem readLine_lines {file : List UInt8} (n : Nat) (h : file ≠ []) :
    lines file = (readLine n file).1 :: lines (readLine n file).2 ∨
      ∃ tail ls, tail ≠ [] ∧ (readLine n file).1.length = n ∧
        lines file = ((readLine n file).1 ++ tail) :: ls ∧
        lines (readLine n file).2 = tail :: ls := by
  induction file generalizing n with
  | nil => exact absurd rfl h
  | cons b file ih =>
    cases n with
    | zero =>
      right
      cases hlines : lines (b :: file) with
      | nil => exact absurd hlines (lines_ne_nil h)
      | cons line ls =>
        have hpos := length_pos_of_mem_lines (hlines ▸ List.mem_cons_self .. : line ∈ _)
        exact ⟨line, ls, List.ne_nil_of_length_pos hpos, rfl, rfl, hlines⟩
    | succ n =>
      by_cases hb : b = newline
      · left
        rw [lines, readLine, if_pos hb, if_pos hb]
      rw [readLine, if_neg hb]
      cases file with
      | nil =>
        left
        simp [lines, hb, readLine_nil]
      | cons c file =>
        rcases ih n (by simp) with hline | ⟨tail, ls, htail, hlen, hline, hrest⟩
        · left
          rw [lines, if_neg hb, hline]
        · right
          refine ⟨tail, ls, htail, by simp [hlen], ?_, hrest⟩
          rw [lines, if_neg hb, hline]
          rfl

theorem readLine_length {file : List UInt8} {n : Nat} (hn : 0 < n) (h : file ≠ []) :
    (readLine n file).2.length < file.length := by
  induction file generalizing n with
  | nil => exact absurd rfl h
  | cons b file ih =>
    obtain ⟨n, rfl⟩ := Nat.exists_eq_succ_of_ne_zero (Nat.ne_of_gt hn)
    rw [readLine]
    split
    · simp
    · by_cases hstop : n = 0 ∨ file = []
      · rcases hstop with rfl | rfl
        · simp [readLine]
        · simp [readLine_nil]
      · have := ih (n := n) (by omega) (by tauto)
        simp only [List.length_cons]
        omega

theorem fgets_of_two_le {size : Int} {file : List UInt8} (h : 2 ≤ size) (hne : file ≠ []) :
    fgets size file = some (readLine (size.toNat - 1) file) := by
  rw [fgets, if_neg (by omega), if_neg (by omega), if_neg hne]

/-- Unless it is asked for no byte, `fgets` ends. -/
theorem fgets_progress {size : Int} {file rest fragment : List UInt8} (h : size ≠ 1)
    (hget : fgets size file = some (fragment, rest)) : rest.length < file.length := by
  by_cases hsize : size ≤ 0
  · rw [fgets, if_pos hsize] at hget
    cases hget
  by_cases hne : file = []
  · rw [fgets, if_neg hsize, if_neg h, if_pos hne] at hget
    cases hget
  rw [fgets_of_two_le (by omega) hne] at hget
  have hlt := readLine_length (n := size.toNat - 1) (by omega) hne
  rw [Option.some.inj hget] at hlt
  exact hlt

theorem fragments_none {size : Int} {file : List UInt8} (h : fgets size file = none) :
    fragments size file = [] := by
  rw [fragments, h]

theorem fragments_some {size : Int} {file rest fragment : List UInt8} (h : size ≠ 1)
    (hget : fgets size file = some (fragment, rest)) :
    fragments size file = fragment :: fragments size rest := by
  rw [fragments, hget]
  exact dif_pos (fgets_progress h hget)

/-- A fragment is no longer than some line. -/
theorem length_le_of_mem_fragments {size : Int} {file fragment : List UInt8} (h : size ≠ 1)
    (hmem : fragment ∈ fragments size file) :
    ∃ line ∈ lines file, fragment.length ≤ line.length := by
  induction hlen : file.length using Nat.strong_induction_on generalizing file with
  | _ k ih =>
    cases hget : fgets size file with
    | none =>
      rw [fragments_none hget] at hmem
      cases hmem
    | some got =>
      obtain ⟨first, rest⟩ := got
      have hlt := fgets_progress h hget
      by_cases hsize : size ≤ 0
      · rw [fgets, if_pos hsize] at hget
        cases hget
      by_cases hne : file = []
      · rw [hne] at hlt
        cases hlt
      rw [fragments_some h hget] at hmem
      rw [fgets_of_two_le (by omega) hne] at hget
      have hlines := readLine_lines (size.toNat - 1) hne
      rw [Option.some.inj hget] at hlines
      rcases List.mem_cons.mp hmem with rfl | hmem
      · rcases hlines with hline | ⟨tail, ls, _, _, hline, _⟩
        · exact ⟨_, hline ▸ List.mem_cons_self .., Nat.le_refl _⟩
        · exact ⟨_, hline ▸ List.mem_cons_self .., by simp⟩
      · obtain ⟨line, hline', hle⟩ := ih rest.length (hlen ▸ hlt) hmem rfl
        rcases hlines with hline | ⟨tail, ls, _, _, hline, hrest⟩
        · exact ⟨line, hline ▸ List.mem_cons_of_mem _ hline', hle⟩
        · rw [hrest] at hline'
          rcases List.mem_cons.mp hline' with rfl | hline'
          · exact ⟨_, hline ▸ List.mem_cons_self .., by simp; omega⟩
          · exact ⟨line, hline ▸ List.mem_cons_of_mem _ hline', hle⟩

/-- **The fragments are the lines**, if there is room for each. -/
theorem fragments_eq_lines {size : Int} {file : List UInt8} (h : size ≠ 1)
    (hroom : ∀ line ∈ lines file, (line.length : Int) < size) :
    fragments size file = lines file := by
  induction hlen : file.length using Nat.strong_induction_on generalizing file with
  | _ k ih =>
    by_cases hne : file = []
    · subst hne
      rw [fragments_none (by rw [fgets]; split <;> simp), lines]
    have hsize : 2 ≤ size := by
      cases hlines : lines file with
      | nil => exact absurd hlines (lines_ne_nil hne)
      | cons line ls =>
        have hmem : line ∈ lines file := hlines ▸ List.mem_cons_self ..
        have := hroom line hmem
        have := length_pos_of_mem_lines hmem
        omega
    have hget := fgets_of_two_le hsize hne
    have hlt := fgets_progress h hget
    have hlines : lines file = (readLine (size.toNat - 1) file).1 ::
        lines (readLine (size.toNat - 1) file).2 := by
      rcases readLine_lines (size.toNat - 1) hne with hline | ⟨tail, ls, htail, hfull, hline, _⟩
      · exact hline
      · have hroom' := hroom _ (hline ▸ List.mem_cons_self ..)
        have := List.length_pos_of_ne_nil htail
        rw [List.length_append, hfull] at hroom'
        omega
    rw [fragments_some h hget, hlines, ih _ (hlen ▸ hlt) ?_ rfl]
    intro line hmem
    exact hroom line (hlines ▸ List.mem_cons_of_mem _ hmem)

/-! ## The loop of the constructor -/

/-- The pair that a line assigns. -/
def assigned (line : List UInt8) : Option ConfigPair :=
  match parseLine line with
  | .ok pair => pair
  | .error _ => none

theorem assigned_iff {line name value : List UInt8} :
    assigned line = some ⟨name, value⟩ ↔ Assigns line name value := by
  rw [← parseLine_assigns, assigned]
  cases parseLine line <;> simp

/-- The loop goes on after this string. -/
def Accepts (maxLineLength : Nat) (line : List UInt8) : Prop :=
  line.length < maxLineLength ∧ Loose line

/-- The loop stops at a line that is neither skipped nor assigns a value. -/
theorem parseLine_error {line : List UInt8} {code : Int} (h : parseLine line = .error code) :
    code ≠ 100 ∧ ¬ Loose line := by
  constructor
  · rw [parseLine] at h
    grind
  · rintro (hskip | ⟨name, value, hassign⟩)
    · rw [parseLine_skipped.mpr hskip] at h
      cases h
    · rw [parseLine_assigns.mpr hassign] at h
      cases h

/-- An iteration takes the pair of a string that it accepts, if there is memory for it, and
stops otherwise. -/
theorem readStep_cases (r : Resources) {size : Int} (maxLineLength : Nat)
    {file fragment rest : List UInt8} (config : List ConfigPair)
    (hget : fgets size file = some (fragment, rest)) :
    (∃ result, readStep r size maxLineLength file config = .stop result config ∧
      result ≠ 100 ∧ (r.Ample → ¬ Accepts maxLineLength (cString fragment))) ∨
    (readStep r size maxLineLength file config =
        .next rest ((assigned (cString fragment)).toList ++ config) ∧
      Accepts maxLineLength (cString fragment)) := by
  rw [readStep, hget]
  by_cases hlong : (cString fragment).length ≥ maxLineLength
  · left
    simp only [if_pos hlong]
    exact ⟨101, rfl, by decide, fun _ haccept => absurd haccept.1 (by omega)⟩
  simp only [if_neg hlong, assigned]
  cases hparse : parseLine (cString fragment) with
  | error code =>
    left
    obtain ⟨hcode, hloose⟩ := parseLine_error hparse
    exact ⟨code, rfl, hcode, fun _ haccept => hloose haccept.2⟩
  | ok pair =>
    cases pair with
    | none => exact Or.inr ⟨rfl, by omega, Or.inl (parseLine_skipped.mp hparse)⟩
    | some pair =>
      simp only []
      split
      · rename_i hname
        exact Or.inl ⟨114, rfl, by decide, fun ⟨_, _, _, hall, _⟩ => by simp [hall] at hname⟩
      · split
        · rename_i hvalue
          exact Or.inl ⟨115, rfl, by decide,
            fun ⟨_, _, _, _, hall, _⟩ => by simp [hall] at hvalue⟩
        · split
          · rename_i hpair
            exact Or.inl ⟨116, rfl, by decide,
              fun ⟨_, _, _, _, _, hall, _⟩ => by simp [hall] at hpair⟩
          · exact Or.inr ⟨rfl, by omega, Or.inr ⟨pair.name, pair.value,
              parseLine_assigns.mp hparse⟩⟩

/-- **The loop ends at the end of the file**, with what the strings assign, exactly if it
accepts each of them. -/
theorem readLines_spec (r : Resources) {size : Int} (maxLineLength : Nat) (h : size ≠ 1)
    (file : List UInt8) (config : List ConfigPair) :
    ∃ result config', readLines r size maxLineLength file config = some (result, config') ∧
      (result = 100 →
        (∀ p ∈ fragments size file, Accepts maxLineLength (cString p)) ∧
        config' = ((fragments size file).filterMap (assigned <| cString ·)).reverse ++ config) ∧
      (r.Ample → (∀ p ∈ fragments size file, Accepts maxLineLength (cString p)) →
        result = 100) := by
  induction hlen : file.length using Nat.strong_induction_on generalizing file config with
  | _ k ih =>
    cases hget : fgets size file with
    | none =>
      have hstep : readStep r size maxLineLength file config = .stop 100 config := by
        rw [readStep, hget]
      rw [readLines, hstep, fragments_none hget]
      exact ⟨100, config, rfl, by simp, fun _ _ => rfl⟩
    | some got =>
      obtain ⟨fragment, rest⟩ := got
      have hlt := fgets_progress h hget
      rw [fragments_some h hget]
      rcases readStep_cases r maxLineLength config hget with
        ⟨result, hstep, hne, hreject⟩ | ⟨hstep, haccept⟩
      · rw [readLines, hstep]
        exact ⟨result, config, rfl, fun hc => absurd hc hne,
          fun hr hall => absurd (hall _ (List.mem_cons_self ..)) (hreject hr)⟩
      · obtain ⟨result, config', hread, hloaded, hample⟩ :=
          ih rest.length (hlen ▸ hlt) rest _ rfl
        rw [readLines, hstep]
        simp only [dif_pos hlt]
        refine ⟨result, config', hread, ?_, ?_⟩
        · intro hres
          obtain ⟨hall, hconfig⟩ := hloaded hres
          refine ⟨fun p hp => ?_, ?_⟩
          · rcases List.mem_cons.mp hp with rfl | hp
            · exact haccept
            · exact hall p hp
          · rw [hconfig, List.filterMap_cons]
            cases assigned (cString fragment) <;> simp
        · exact fun hr hall => hample hr fun p hp => hall p (List.mem_cons_of_mem _ hp)

/-! ## The getters -/

theorem lastAssigns_concat {ls : List (List UInt8)} {line name value : List UInt8} :
    LastAssigns (ls ++ [line]) name value ↔
      Assigns line name value ∨ (∀ v, ¬ Assigns line name v) ∧ LastAssigns ls name value := by
  constructor
  · rintro ⟨before, l, after, heq, hassign, hafter⟩
    rcases List.eq_nil_or_concat after with rfl | ⟨after, last, rfl⟩
    · obtain ⟨rfl, hl⟩ := List.append_inj' heq rfl
      obtain rfl : line = l := by simpa using hl
      exact Or.inl hassign
    · rw [List.concat_eq_append, ← List.cons_append, ← List.append_assoc] at heq
      obtain ⟨rfl, hl⟩ := List.append_inj' heq rfl
      obtain rfl : line = last := by simpa using hl
      refine Or.inr ⟨hafter line (by simp), before, l, after, rfl, hassign, ?_⟩
      exact fun l' hl' => hafter l' (by simp [hl'])
  · rintro (hassign | ⟨hnone, before, l, after, rfl, hassign, hafter⟩)
    · exact ⟨ls, line, [], rfl, hassign, fun _ hl => by cases hl⟩
    · refine ⟨before, l, after ++ [line], by simp, hassign, fun l' hl' => ?_⟩
      rcases List.mem_append.mp hl' with hl' | hl'
      · exact hafter l' hl'
      · rw [List.mem_singleton.mp hl']
        exact hnone

/-- A name that some line assigns has a last line that does. -/
theorem lastAssigns_exists {ls : List (List UInt8)} {name : List UInt8} :
    (∃ value, LastAssigns ls name value) ↔ ∃ line ∈ ls, ∃ value, Assigns line name value := by
  induction ls using List.reverseRecOn with
  | nil =>
    constructor
    · rintro ⟨_, before, line, after, heq, _⟩
      simp at heq
    · rintro ⟨line, hmem, _⟩
      cases hmem
  | append_singleton ls line ih =>
    simp only [lastAssigns_concat]
    constructor
    · rintro ⟨value, hassign | ⟨_, hlast⟩⟩
      · exact ⟨line, by simp, value, hassign⟩
      · obtain ⟨l, hl, hassign⟩ := ih.mp ⟨value, hlast⟩
        exact ⟨l, by simp [hl], hassign⟩
    · rintro ⟨l, hl, value, hassign⟩
      by_cases hline : ∃ v, Assigns line name v
      · obtain ⟨v, hv⟩ := hline
        exact ⟨v, Or.inl hv⟩
      · have hmem : l ∈ ls := by
          rcases List.mem_append.mp hl with hl | hl
          · exact hl
          · rw [List.mem_singleton.mp hl] at hassign
            exact absurd ⟨value, hassign⟩ hline
        obtain ⟨v, hv⟩ := ih.mpr ⟨l, hmem, value, hassign⟩
        exact ⟨v, Or.inr ⟨fun w hw => hline ⟨w, hw⟩, hv⟩⟩

/-- The first pair of a name in the list, the last that the lines assign. -/
theorem find_assigned {ls : List (List UInt8)} {name value : List UInt8} :
    ((ls.filterMap assigned).reverse.find? (·.name = name)) = some ⟨name, value⟩ ↔
      LastAssigns ls name value := by
  induction ls using List.reverseRecOn with
  | nil =>
    constructor
    · intro h
      cases h
    · rintro ⟨before, line, after, heq, _⟩
      simp at heq
  | append_singleton ls line ih =>
    rw [lastAssigns_concat, List.filterMap_append, List.reverse_append, List.find?_append]
    cases hassigned : assigned line with
    | none =>
      have hnone : ∀ v, ¬ Assigns line name v := by
        intro v hv
        rw [← assigned_iff, hassigned] at hv
        cases hv
      simp [hassigned, hnone, ih]
    | some pair =>
      obtain ⟨name', value'⟩ := pair
      have hassign : ∀ {n v}, Assigns line n v ↔ n = name' ∧ v = value' := by
        intro n v
        rw [← assigned_iff, hassigned]
        simp [eq_comm]
      by_cases hname : name' = name
      · simp [hassigned, hassign, hname, eq_comm]
      · simp [hassigned, hassign, hname, Ne.symm hname, ih]

/-- `getString` answers with the value of the last line that assigns the name, and that
there is none if no line does. -/
def ConfigFile.Serves (f : ConfigFile) (ls : List (List UInt8)) : Prop :=
  ∀ name,
    (∀ value, f.getString (some name) = (0, some value) ↔ LastAssigns ls name value) ∧
    (f.getString (some name) = (notFound, none) ↔
      ∀ line ∈ ls, ∀ value, ¬ Assigns line name value)

/-- The object reports that it is not loaded, and hands out no value. -/
def ConfigFile.ServesNothing (f : ConfigFile) : Prop :=
  f.loaded = false ∧ ∀ name, (f.getString name).2 = none ∧
    ∀ allocated, (f.getStringDup allocated name none).2 = none

theorem ConfigFile.servesNothing {f : ConfigFile} (h : f.loaded = false) : f.ServesNothing := by
  refine ⟨h, fun name => ⟨?_, fun allocated => ?_⟩⟩
  · simp [getString, h]
  · simp [getStringDup, h]

/-- A loaded object hands out the value of the first pair of the name. -/
theorem ConfigFile.getString_iff {f : ConfigFile} (h : f.loaded = true)
    {name value : List UInt8} :
    f.getString (some name) = (0, some value) ↔
      f.config.find? (·.name = name) = some ⟨name, value⟩ := by
  rw [getString, if_neg (by simp [h])]
  cases hfind : f.config.find? (·.name = name) with
  | none => simp
  | some pair =>
    obtain ⟨name', value'⟩ := pair
    obtain rfl : name' = name := by simpa using List.find?_some hfind
    simp

/-- A loaded object finds a value or does not. -/
theorem ConfigFile.getString_cases {f : ConfigFile} (h : f.loaded = true) (name : List UInt8) :
    (∃ value, f.getString (some name) = (0, some value)) ∨
      f.getString (some name) = (notFound, none) := by
  rw [getString, if_neg (by simp [h])]
  cases f.config.find? (·.name = name) with
  | none => exact Or.inr rfl
  | some pair => exact Or.inl ⟨pair.value, rfl⟩

theorem ConfigFile.serves_iff {f : ConfigFile} (h : f.loaded = true)
    (ls : List (List UInt8)) :
    f.Serves ls ↔ ∀ name value,
      f.getString (some name) = (0, some value) ↔ LastAssigns ls name value := by
  constructor
  · exact fun hserves name => (hserves name).1
  · intro hvalue name
    refine ⟨hvalue name, ?_, ?_⟩
    · intro hnone line hmem value hassign
      obtain ⟨v, hv⟩ := lastAssigns_exists.mpr ⟨line, hmem, value, hassign⟩
      rw [(hvalue name v).mpr hv] at hnone
      cases hnone
    · intro hnone
      rcases getString_cases h name with ⟨v, hv⟩ | hv
      · obtain ⟨line, hmem, w, hw⟩ := lastAssigns_exists.mp ⟨v, (hvalue name v).mp hv⟩
        exact absurd hw (hnone line hmem w)
      · exact hv

/-! ## The constructor -/

/-- The strings that the loop sees. -/
def strings (maxLineLength : Nat) (content : List UInt8) : List (List UInt8) :=
  (fragments (toInt (maxLineLength + 1)) content).map cString

/-- **The constructor** loads a file exactly if it accepts each string that it sees, and
serves what they assign. -/
theorem construct_spec (r : Resources) {maxLineLength : Nat} (verbose : Bool)
    (content : List UInt8) (h : toInt (maxLineLength + 1) ≠ 1) :
    ∃ f, ConfigFile.construct r maxLineLength verbose content = some f ∧
      (f.loaded = true →
        (∀ p ∈ strings maxLineLength content, Accepts maxLineLength p) ∧
        f.Serves (strings maxLineLength content)) ∧
      (r.Ample → (∀ p ∈ strings maxLineLength content, Accepts maxLineLength p) →
        f.loaded = true) := by
  rw [ConfigFile.construct]
  by_cases hopened : r.opened = false
  · rw [if_pos hopened]
    exact ⟨_, rfl, nofun, fun hr _ => by simp [hr.1] at hopened⟩
  by_cases hline : r.lineAllocated = false
  · rw [if_neg hopened, if_pos hline]
    exact ⟨_, rfl, nofun, fun hr _ => by simp [hr.2.1] at hline⟩
  by_cases hdebug : (verbose && !r.debugAllocated) = true
  · rw [if_neg hopened, if_neg hline, if_pos hdebug]
    exact ⟨_, rfl, nofun, fun hr _ => by simp [hr.2.2.1] at hdebug⟩
  rw [if_neg hopened, if_neg hline, if_neg hdebug]
  obtain ⟨result, config, hread, hloaded, hample⟩ :=
    readLines_spec r maxLineLength h content []
  rw [hread]
  refine ⟨_, rfl, ?_, ?_⟩
  · intro hl
    have hresult : result = 100 := by
      simp only [Bool.and_eq_true, beq_iff_eq] at hl
      exact hl.1
    obtain ⟨hall, hconfig⟩ := hloaded hresult
    refine ⟨by simpa [strings] using hall, (ConfigFile.serves_iff hl _).mpr ?_⟩
    intro name value
    rw [← find_assigned, strings, List.filterMap_map, ConfigFile.getString_iff hl]
    simp only [hconfig, List.append_nil]
    rfl
  · intro hr hall
    have hresult := hample hr (by simpa [strings] using hall)
    obtain ⟨_, _, _, _, _, _, herror⟩ := hr
    simp [hresult, herror]

/-- Asked for one byte, `fgets` reads nothing and does not say so: no line is short enough,
or the loop does not end. -/
theorem readLines_one (r : Resources) (maxLineLength : Nat) (content : List UInt8) :
    readLines r 1 maxLineLength content [] =
      if maxLineLength = 0 then some (101, []) else none := by
  have hget : fgets 1 content = some ([], content) := rfl
  by_cases hmax : maxLineLength = 0
  · have hstep : readStep r 1 maxLineLength content [] = .stop 101 [] := by
      rw [readStep, hget, hmax]
      rfl
    rw [readLines, hstep, if_pos hmax]
  · have hstep : readStep r 1 maxLineLength content [] = .next content [] := by
      have hlong : ¬ (cString []).length ≥ maxLineLength := by
        simp only [cString, List.takeWhile_nil, List.length_nil]
        omega
      rw [readStep, hget]
      simp only [if_neg hlong]
      rfl
    rw [readLines, hstep, if_neg hmax]
    simp

/-! ## What a loaded file says -/

/-- Everything that the constructor asks for is there. -/
def ample : Resources :=
  ⟨true, true, true, fun _ => true, fun _ => true, fun _ => true, false⟩

theorem ample_ample : ample.Ample := ⟨rfl, rfl, rfl, fun _ => rfl, fun _ => rfl, fun _ => rfl, rfl⟩

/-- The constructor ends.  Of a file of short lines without zero bytes, it loads exactly the
one of well-formed lines, and serves what they assign; of any other file, if a line is too
long, it serves nothing. -/
def ParsedRight (maxLineLength : Nat) (content : List UInt8) : Prop :=
  ∀ r verbose, ∃ f, ConfigFile.construct r maxLineLength verbose content = some f ∧
    (NulFree content → Short maxLineLength content →
      (f.loaded = true → ∀ line ∈ lines content, WellFormed line) ∧
      (r.Ample → (∀ line ∈ lines content, WellFormed line) → f.loaded = true) ∧
      (f.loaded = true → f.Serves (lines content)) ∧
      ((∃ line ∈ lines content, ¬ WellFormed line) → f.ServesNothing)) ∧
    (¬ Short maxLineLength content → f.ServesNothing)

/-- The file gives none of the faults of the constructor a chance: `fgets` is asked for more
than its zero byte, a file of short lines has no empty quotes, the strings that the loop sees
say what the lines do, and one of them stops it if a line is too long. -/
def Faultless (maxLineLength : Nat) (content : List UInt8) : Prop :=
  (toInt (maxLineLength + 1) = 1 → maxLineLength = 0 ∧ content ≠ []) ∧
  (toInt (maxLineLength + 1) ≠ 1 →
    (NulFree content → Short maxLineLength content →
      ((∀ p ∈ strings maxLineLength content, Loose p) ↔
        ∀ line ∈ lines content, WellFormed line) ∧
      ((∀ line ∈ lines content, WellFormed line) → ∀ name value,
        LastAssigns (strings maxLineLength content) name value ↔
          LastAssigns (lines content) name value)) ∧
    (¬ Short maxLineLength content →
      ∃ p ∈ strings maxLineLength content, maxLineLength ≤ p.length ∨ ¬ Loose p))

/-- In a file of short lines the strings are short. -/
theorem accepts_of_short {maxLineLength : Nat} {content : List UInt8}
    (h : toInt (maxLineLength + 1) ≠ 1) (hshort : Short maxLineLength content) :
    (∀ p ∈ strings maxLineLength content, Accepts maxLineLength p) ↔
      ∀ p ∈ strings maxLineLength content, Loose p := by
  constructor
  · exact fun hall p hp => (hall p hp).2
  · intro hall p hp
    refine ⟨?_, hall p hp⟩
    obtain ⟨fragment, hmem, rfl⟩ := List.mem_map.mp hp
    obtain ⟨line, hline, hle⟩ := length_le_of_mem_fragments h hmem
    have htake := (List.takeWhile_sublist (· ≠ (0 : UInt8)) (l := fragment)).length_le
    have := hshort line hline
    rw [cString]
    omega

theorem faultless_of_parsedRight {maxLineLength : Nat} {content : List UInt8}
    (h : ParsedRight maxLineLength content) : Faultless maxLineLength content := by
  obtain ⟨f, hf, hright, hlong⟩ := h ample false
  refine ⟨fun hone => ?_, fun hone => ?_⟩
  · have hread := readLines_one ample maxLineLength content
    rw [ConfigFile.construct, if_neg (by decide), if_neg (by decide), if_neg (by decide), hone,
      hread] at hf
    by_cases hmax : maxLineLength = 0
    · rw [if_pos hmax] at hf
      refine ⟨hmax, ?_⟩
      rintro rfl
      have hloaded := (hright nofun nofun).2.1 ample_ample nofun
      rw [← Option.some.inj hf] at hloaded
      cases hloaded
    · rw [if_neg hmax] at hf
      cases hf
  obtain ⟨f', hf', hserves, hample⟩ := construct_spec ample false content hone
  obtain rfl : f = f' := Option.some.inj (hf.symm.trans hf')
  refine ⟨fun hnul hshort => ?_, fun hshort => ?_⟩
  · obtain ⟨hloaded, hload, hlines, _⟩ := hright hnul hshort
    rw [← accepts_of_short hone hshort]
    refine ⟨⟨fun hall => hloaded (hample ample_ample hall),
      fun hall => (hserves (hload ample_ample hall)).1⟩, fun hall name value => ?_⟩
    have hl := hload ample_ample hall
    rw [← ((hlines hl) name).1 value, ← ((hserves hl).2 name).1 value]
  · by_contra hnone
    have hall : ∀ p ∈ strings maxLineLength content, Accepts maxLineLength p := by
      intro p hp
      by_contra haccept
      apply hnone
      refine ⟨p, hp, ?_⟩
      by_cases hlt : p.length < maxLineLength
      · exact Or.inr fun hloose => haccept ⟨hlt, hloose⟩
      · exact Or.inl (by omega)
    have hl := hample ample_ample hall
    rw [(hlong hshort).1] at hl
    cases hl

theorem lines_flatten (file : List UInt8) : (lines file).flatten = file := by
  induction file with
  | nil => rfl
  | cons b file ih =>
    rw [lines]
    split
    · simp [ih]
    · split
      · rename_i heq
        rw [heq] at ih
        simp [← ih]
      · rename_i heq
        rw [heq] at ih
        simp [← ih]

/-- When an `int` counts the buffer, the strings of a file of short lines are its lines. -/
theorem strings_eq_lines {maxLineLength : Nat} {content : List UInt8}
    (hpos : 0 < maxLineLength) (hint : maxLineLength + 1 < 2 ^ 31) (hnul : NulFree content)
    (hshort : Short maxLineLength content) : strings maxLineLength content = lines content := by
  have hsize : toInt (maxLineLength + 1) = maxLineLength + 1 := by
    rw [toInt_of_lt hint]
    simp
  rw [strings, hsize, fragments_eq_lines (by omega)
    (fun line hline => by have := hshort line hline; omega)]
  refine (List.map_congr_left fun line hline => ?_).trans (List.map_id _)
  refine List.takeWhile_eq_self_iff.mpr fun b hb => ?_
  have hmem : b ∈ content := by
    rw [← lines_flatten content]
    exact List.mem_flatten.mpr ⟨line, hline, hb⟩
  simpa using hnul b hmem

/-- **When an `int` counts the buffer**, what is left are the values that are empty between
their quotes, and the lines too long whose zero bytes hide it. -/
theorem faultless_of_int {maxLineLength : Nat} {content : List UInt8}
    (hpos : 0 < maxLineLength) (hint : maxLineLength + 1 < 2 ^ 31) :
    Faultless maxLineLength content ↔
      (NulFree content → Short maxLineLength content → (∀ line ∈ lines content, Loose line) →
        ∀ line ∈ lines content, WellFormed line) ∧
      (¬ Short maxLineLength content →
        ∃ p ∈ strings maxLineLength content, maxLineLength ≤ p.length ∨ ¬ Loose p) := by
  have hone : toInt (maxLineLength + 1) ≠ 1 := by
    rw [toInt_of_lt hint]
    omega
  constructor
  · rintro ⟨_, h⟩
    obtain ⟨hright, hlong⟩ := h hone
    refine ⟨fun hnul hshort hloose => ?_, hlong⟩
    rw [← strings_eq_lines hpos hint hnul hshort] at hloose
    exact (hright hnul hshort).1.mp hloose
  · rintro ⟨hright, hlong⟩
    refine ⟨fun hc => absurd hc hone, fun _ => ⟨fun hnul hshort => ?_, hlong⟩⟩
    rw [strings_eq_lines hpos hint hnul hshort]
    exact ⟨⟨hright hnul hshort, fun hall line hline => (hall line hline).loose⟩,
      fun _ _ _ => Iff.rfl⟩

/-- **The constructor parses a file right** exactly if it gives none of its faults a
chance. -/
theorem parsedRight_iff (maxLineLength : Nat) (content : List UInt8) :
    ParsedRight maxLineLength content ↔ Faultless maxLineLength content := by
  refine ⟨faultless_of_parsedRight, fun ⟨hzero, hfaultless⟩ r verbose => ?_⟩
  by_cases hone : toInt (maxLineLength + 1) = 1
  · obtain ⟨rfl, hne⟩ := hzero hone
    have hread := readLines_one r 0 content
    have hunloaded : ∃ f, ConfigFile.construct r 0 verbose content = some f ∧
        f.loaded = false := by
      rw [ConfigFile.construct, hone, hread]
      split
      · exact ⟨_, rfl, rfl⟩
      · split
        · exact ⟨_, rfl, rfl⟩
        · split
          · exact ⟨_, rfl, rfl⟩
          · exact ⟨_, rfl, rfl⟩
    obtain ⟨f, hf, hl⟩ := hunloaded
    refine ⟨f, hf, fun _ hshort => ?_, fun _ => ConfigFile.servesNothing hl⟩
    cases hlines : lines content with
    | nil => exact absurd hlines (lines_ne_nil hne)
    | cons line ls => exact absurd (hshort line (hlines ▸ List.mem_cons_self ..)) (by omega)
  obtain ⟨f, hf, hserves, hample⟩ := construct_spec r verbose content hone
  obtain ⟨hright, hlong⟩ := hfaultless hone
  refine ⟨f, hf, fun hnul hshort => ?_, fun hshort => ConfigFile.servesNothing ?_⟩
  · obtain ⟨hloose, hsame⟩ := hright hnul hshort
    rw [← accepts_of_short hone hshort] at hloose
    refine ⟨fun hl => hloose.mp (hserves hl).1, fun hr hall => hample hr (hloose.mpr hall),
      fun hl => ?_, fun ⟨line, hline, hill⟩ => ConfigFile.servesNothing ?_⟩
    · obtain ⟨hall, hstrings⟩ := hserves hl
      rw [ConfigFile.serves_iff hl] at hstrings ⊢
      intro name value
      rw [hstrings, hsame (hloose.mp hall)]
    · by_contra hl
      exact hill (hloose.mp (hserves (by simpa using hl)).1 line hline)
  · by_contra hl
    obtain ⟨p, hp, hbad⟩ := hlong hshort
    obtain ⟨hlen, hloose⟩ := (hserves (by simpa using hl)).1 p hp
    rcases hbad with hbad | hbad
    · omega
    · exact hbad hloose

theorem loose_of_parseLine {line : List UInt8} {pair : ConfigPair}
    (h : parseLine line = .ok (some pair)) : Loose line :=
  Or.inr ⟨pair.name, pair.value, parseLine_assigns.mp h⟩

/-- The line `a=""`. -/
def emptyQuotes : List UInt8 := [97, 61, 34, 34]

/-- `a=b`, a zero byte, spaces, and `x=y`, all in one line of eleven bytes. -/
def hiddenTail : List UInt8 := [97, 61, 98, 0, 32, 32, 32, 32, 120, 61, 121]

/-- `subStringDup` notes that a range is empty, but goes on, so that an empty value is
loaded.  A zero byte hides from `strlen` that a line is too long, and its tail is loaded as
one more line. -/
theorem misparsed : ¬ ParsedRight 1023 emptyQuotes ∧ ¬ ParsedRight 8 hiddenTail := by
  constructor
  · intro h
    obtain ⟨hright, _⟩ :=
      (faultless_of_int (by decide) (by decide)).mp (faultless_of_parsedRight h)
    have hlines : lines emptyQuotes = [emptyQuotes] := by decide
    have hparse : parseLine emptyQuotes = .ok (some ⟨[97], []⟩) := by rfl
    rw [Short, hlines] at hright
    have hwell := hright (by simp [NulFree, emptyQuotes]) (by decide)
      (fun line hline => List.mem_singleton.mp hline ▸ loose_of_parseLine hparse)
      emptyQuotes (by simp)
    rcases hwell with hskip | ⟨name, value, hassign, hne⟩
    · rw [parseLine_skipped.mpr hskip] at hparse
      cases hparse
    · rw [parseLine_assigns.mpr hassign] at hparse
      cases hparse
      exact hne rfl
  · intro h
    obtain ⟨_, hlong⟩ :=
      (faultless_of_int (by decide) (by decide)).mp (faultless_of_parsedRight h)
    have hstrings : strings 8 hiddenTail = [[97, 61, 98], [120, 61, 121]] := by
      have hfirst : fgets 9 hiddenTail = some ([97, 61, 98, 0, 32, 32, 32, 32], [120, 61, 121]) :=
        rfl
      have hsecond : fgets 9 [120, 61, 121] = some ([120, 61, 121], []) := rfl
      rw [strings, toInt_of_lt (by decide)]
      rw [show ((8 + 1 : Nat) : Int) = 9 from rfl, fragments_some (by decide) hfirst,
        fragments_some (by decide) hsecond, fragments_none rfl]
      rfl
    obtain ⟨p, hp, hbad⟩ := hlong (by unfold Short; decide)
    rw [hstrings] at hp
    rcases List.mem_cons.mp hp with rfl | hp
    · rcases hbad with hbad | hbad
      · exact absurd hbad (by decide)
      · exact hbad (@loose_of_parseLine _ ⟨[97], [98]⟩ rfl)
    · rw [List.mem_singleton.mp hp] at hbad
      rcases hbad with hbad | hbad
      · exact absurd hbad (by decide)
      · exact hbad (@loose_of_parseLine _ ⟨[120], [121]⟩ rfl)

end LocationStack.Config
