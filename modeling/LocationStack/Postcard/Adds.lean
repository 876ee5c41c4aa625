import LocationStack.Postcard.Hostile
import LocationStack.Postcard.RoundTrip

/-! # Adds that fail

An add writes the type, the name and the value with several appends, and returns at the
first that fails: what was appended before it stays.  A call is atomic (`AddCall.Atomic`)
when it is refused before its first append, or that one fails, or none does, and these
are the calls that change nothing when they fail (`unchanged_iff`).  A card on which the
calls that failed were atomic is built from those that succeeded (`Attempts.builds`).
-/
namespace LocationStack.Postcard

open InPostcard

namespace OutMemoryStream

/-- The capacity of a stream that has made room for `length` more bytes: that of the
stream, or of the block it moves to; `none` if `expand` fails. -/
def roomFor (alloc : Allocator) (cursor capacity length : Nat) : Option Nat :=
  if length = 0 then none
  else if length < capacity - cursor then some capacity
  else
    let newLength :=
      if cursor + length < minLength then minLength
      else if cursor + length < capacity * 2 then capacity * 2
      else cursor + length
    if (alloc newLength).isSome then some newLength else none

/-- There is room for appends of these lengths, one after another. -/
def fits (alloc : Allocator) : Nat → Nat → List Nat → Bool
  | _, _, [] => true
  | cursor, capacity, length :: lengths =>
      match roomFor alloc cursor capacity length with
      | none => false
      | some capacity => fits alloc (cursor + length) capacity lengths

/-- What `expand` does, told by the room there is. -/
theorem expand_room (alloc : Allocator) (s : OutMemoryStream) (length : Nat) :
    match roomFor alloc s.putCursor s.capacity length with
    | none => (expand alloc s length).1 ≠ 0 ∧ (expand alloc s length).2 = s
    | some capacity =>
        (expand alloc s length).1 = 0 ∧ (expand alloc s length).2.putCursor = s.putCursor ∧
          (expand alloc s length).2.capacity = capacity := by
  have hroom := s.le_newLength length
  by_cases hzero : length = 0
  · simp [roomFor, expand, hzero]
  · by_cases hleft : length < s.capacity - s.putCursor
    · simp [roomFor, expand, hzero, hleft]
    · have hlength : roomFor alloc s.putCursor s.capacity length =
          if (alloc (s.newLength length)).isSome then some (s.newLength length) else none := by
        rw [roomFor, if_neg hzero, if_neg hleft]
        rfl
      rw [hlength, expand, if_neg hzero, if_neg hleft]
      cases halloc : alloc (s.newLength length) with
      | none => simp
      | some block =>
        have hblock := block.2
        refine ⟨rfl, rfl, ?_⟩
        simp only [moveTo, capacity, List.length_append, contents_length, List.length_drop,
          getSize]
        omega

/-- What `append` does, told by the room there is. -/
theorem append_room (alloc : Allocator) (s : OutMemoryStream) (data : List UInt8) :
    match roomFor alloc s.putCursor s.capacity data.length with
    | none => append alloc s data = (2, s)
    | some capacity =>
        (append alloc s data).1 = 0 ∧
          (append alloc s data).2.putCursor = s.putCursor + data.length ∧
          (append alloc s data).2.capacity = capacity := by
  have hexpand := expand_room alloc s data.length
  rw [append]
  cases hroom : roomFor alloc s.putCursor s.capacity data.length with
  | none =>
    rw [hroom] at hexpand
    simp only [hexpand.1, dif_neg, not_false_eq_true, hexpand.2]
  | some capacity =>
    rw [hroom] at hexpand
    obtain ⟨hrc, hcursor, hcapacity⟩ := hexpand
    have hle : (expand alloc s data.length).2.putCursor + data.length ≤
        (expand alloc s data.length).2.pData.length := by
      rcases expand_cases alloc s data.length with ⟨hne, _⟩ | ⟨_, _, _, hsame, hle⟩
      · exact absurd hrc hne
      · omega
    simp only [hrc, dif_pos, true_and]
    refine ⟨by simp [write, hcursor], ?_⟩
    rw [← hcapacity]
    simp only [write, OutMemoryStream.capacity, List.length_append, contents_length,
      List.length_drop, getSize]
    omega

/-- The appends succeed exactly if there is room for them. -/
theorem appendAll_fits (alloc : Allocator) {parts : List (Int × List UInt8)}
    (herr : ∀ p ∈ parts, p.1 ≠ 0) (s : OutMemoryStream) :
    (appendAll alloc parts s).1 = 0 ↔
      fits alloc s.putCursor s.capacity (parts.map (·.2.length)) = true := by
  induction parts generalizing s with
  | nil => simp [appendAll, fits]
  | cons p rest ih =>
    obtain ⟨err, data⟩ := p
    have hroom := append_room alloc s data
    have herr' : err ≠ 0 := herr (err, data) (List.mem_cons_self ..)
    rw [appendAll, List.map_cons, fits]
    cases hcase : roomFor alloc s.putCursor s.capacity data.length with
    | none =>
      rw [hcase] at hroom
      simp [hroom, herr']
    | some capacity =>
      rw [hcase] at hroom
      obtain ⟨hrc, hcursor, hcapacity⟩ := hroom
      have hrest := ih (fun p hp => herr p (List.mem_cons_of_mem _ hp)) (append alloc s data).2
      rw [hcursor, hcapacity] at hrest
      simp only [hrc, ne_eq, not_true_eq_false, if_false]
      exact hrest

/-- Appending never takes bytes away. -/
theorem appendAll_length (alloc : Allocator) (parts : List (Int × List UInt8))
    (s : OutMemoryStream) :
    s.contents.length ≤ (appendAll alloc parts s).2.contents.length := by
  induction parts generalizing s with
  | nil => exact Nat.le_refl _
  | cons p rest ih =>
    obtain ⟨err, data⟩ := p
    rw [appendAll]
    rcases append_cases alloc s data with hfail | ⟨hrc, _, hcontents⟩
    · simp [hfail]
    · simp only [hrc, ne_eq, not_true_eq_false, if_false]
      have := ih (append alloc s data).2
      rw [hcontents, List.length_append] at this
      omega

/-- If the first append fails, nothing is changed; if it succeeds and another fails, there
are more bytes than before. -/
theorem appendAll_fails (alloc : Allocator) (err : Int) (data : List UInt8)
    (rest : List (Int × List UInt8)) (s : OutMemoryStream) :
    (fits alloc s.putCursor s.capacity [data.length] = false ∧
      (appendAll alloc ((err, data) :: rest) s).2 = s) ∨
    (fits alloc s.putCursor s.capacity [data.length] = true ∧
      s.contents.length < (appendAll alloc ((err, data) :: rest) s).2.contents.length) := by
  have hroom := append_room alloc s data
  rw [appendAll, fits]
  cases hcase : roomFor alloc s.putCursor s.capacity data.length with
  | none =>
    rw [hcase] at hroom
    simp [hroom]
  | some capacity =>
    rw [hcase] at hroom
    refine Or.inr ⟨rfl, ?_⟩
    rcases append_cases alloc s data with hfail | ⟨hrc, hne, hcontents⟩
    · rw [hfail] at hroom
      exact absurd hroom.1 (by simp)
    · simp only [hrc, ne_eq, not_true_eq_false, if_false]
      have hmore := appendAll_length alloc rest (append alloc s data).2
      have hpos := List.length_pos_iff.mpr hne
      rw [hcontents, List.length_append] at hmore
      omega

end OutMemoryStream

/-! ## The calls -/

/-- `m_state`. -/
inductive CardState
  | preInit | add | finalized
  deriving DecidableEq

def OutPostcard.state : OutPostcard → CardState
  | .preInit => .preInit
  | .adding _ => .add
  | .finalized _ => .finalized

/-- The stream of a card. -/
def OutPostcard.stream : OutPostcard → OutMemoryStream
  | .preInit => .new
  | .adding pOut | .finalized pOut => pOut

/-- A call of one of the add functions: those of the scalars and of the arrays differ in the
type.  The number of the elements of an array is an `int`. -/
inductive AddCall
  | simple (name : Option CString) (t : SimpleType) (value : t.Value)
  | blob (name : Option CString) (blob : Option (List UInt8))
  | array (name : Option CString) (t : SimpleType)
      (array : Option { elems : List t.Value // elems.length < 2 ^ 31 })
  | string (name str : Option CString)
  | card (name : Option CString) (pCard : Option OutPostcard)

namespace AddCall

/-- The call. -/
def run (alloc : Allocator) (c : OutPostcard) : AddCall → Int × OutPostcard
  | simple name t value => c.add alloc name t value
  | blob name data => c.addBlob alloc name data
  | array name t elems => c.addArray alloc name t (elems.map Subtype.val)
  | string name str => c.addString alloc name str
  | card name pCard => c.addCard alloc name pCard

/-- The lengths of the appends after the name, or `none` if the call is refused for what is
to be added. -/
def valueLengths : AddCall → Option (List Nat)
  | simple _ t _ => some [t.size]
  | blob _ data => data.map fun data => [4, data.length % 2 ^ 32]
  | array _ t elems =>
      elems.bind fun elems =>
        if elems.1.length = 0 then none else some [4, elems.1.length * t.size % 2 ^ 32]
  | string _ str => str.map fun str => [4, (str.bytes.length + 1) % 2 ^ 32]
  | card _ (some (.finalized pOut)) => some [pOut.getSize % 2 ^ 32]
  | card _ _ => none

def name : AddCall → Option CString
  | simple name _ _ | blob name _ | array name _ _ | string name _ | card name _ => name

/-- The lengths of the appends of the call: of the type, the length of the name, the name,
and the value; or `none` if the call is refused before it appends anything. -/
def lengths (c : OutPostcard) (call : AddCall) : Option (List Nat) :=
  match c.checkName call.name with
  | .error _ => none
  | .ok (_, name) => call.valueLengths.map fun rest => [2, 2, name.bytes.length + 1] ++ rest

/-- The call is refused before its first append, or that one finds no room, or all of them
find room. -/
def Atomic (alloc : Allocator) (c : OutPostcard) (call : AddCall) : Prop :=
  ∀ lengths ∈ call.lengths c,
    OutMemoryStream.fits alloc c.stream.putCursor c.stream.capacity (lengths.take 1) = false ∨
      OutMemoryStream.fits alloc c.stream.putCursor c.stream.capacity lengths = true

/-- If the call fails, the encoded bytes and the state are those before it. -/
def Unchanged (alloc : Allocator) (c : OutPostcard) (call : AddCall) : Prop :=
  (call.run alloc c).1 ≠ 0 →
    (call.run alloc c).2.encoded = c.encoded ∧ (call.run alloc c).2.state = c.state

/-- The call is refused by its checks. -/
def Refused (alloc : Allocator) (c : OutPostcard) (call : AddCall) : Prop :=
  call.lengths c = none ∧ (call.run alloc c).1 ≠ 0 ∧ (call.run alloc c).2 = c

/-- The call is a run of appends of its lengths. -/
def Appends (alloc : Allocator) (c : OutPostcard) (call : AddCall) : Prop :=
  ∃ pOut err data rest, c = .adding pOut ∧ (∀ p ∈ (err, data) :: rest, p.1 ≠ 0) ∧
    call.lengths c = some (((err, data) :: rest).map (·.2.length)) ∧
    (call.run alloc c).2 = .adding (pOut.appendAll alloc ((err, data) :: rest)).2 ∧
    ((call.run alloc c).1 = 0 ↔ (pOut.appendAll alloc ((err, data) :: rest)).1 = 0)

theorem checkName_ok' {c : OutPostcard} {name : Option CString} {pOut : OutMemoryStream}
    {n : CString} (h : c.checkName name = .ok (pOut, n)) : c = .adding pOut ∧ name = some n := by
  cases name with
  | none => cases c <;> cases h
  | some name =>
    obtain ⟨rfl, hc, _⟩ := checkName_ok h
    exact ⟨hc, rfl⟩

/-- `addBlobWithType` as a run of appends. -/
theorem addBlobWithType_cases (alloc : Allocator) (c : OutPostcard) (name : Option CString)
    (type : FieldType) (blob : List UInt8) (push : Bool) :
    (∃ code, c.checkName name = .error code ∧ code ≠ 0 ∧
      c.addBlobWithType alloc name type (some blob) push = (code, c)) ∨
    ∃ pOut n err data rest, c.checkName name = .ok (pOut, n) ∧
      (∀ p ∈ (err, data) :: rest, p.1 ≠ 0) ∧
      ((err, data) :: rest).map (·.2.length) =
        [2, 2, n.bytes.length + 1] ++ (if push then [4] else []) ++ [blob.length % 2 ^ 32] ∧
      c.addBlobWithType alloc name type (some blob) push =
        ((pOut.appendAll alloc ((err, data) :: rest)).1,
          .adding (pOut.appendAll alloc ((err, data) :: rest)).2) := by
  cases hname : c.checkName name with
  | error code =>
    exact Or.inl ⟨code, rfl, checkName_error hname, by rw [OutPostcard.addBlobWithType, hname]⟩
  | ok r =>
    obtain ⟨pOut, n⟩ := r
    refine Or.inr ⟨pOut, n, 8, LittleEndian.leBytes 2 type.code,
      [(9, LittleEndian.leBytes 2 (n.bytes.length + 1)), (10, n.withNul)] ++
        (if push then [(11, LittleEndian.leBytes 4 (blob.length % 2 ^ 32))] else []) ++
        [(12, blob.take (blob.length % 2 ^ 32))], rfl, ?_, ?_, ?_⟩
    · cases push <;> simp
    · cases push <;> simp [Nat.mod_le]
    · rw [OutPostcard.addBlobWithType, hname]
      rfl

/-- A call that is `addBlobWithType` of a block, up to the code it fails with. -/
theorem cases_of_addBlobWithType {alloc : Allocator} {c : OutPostcard} {call : AddCall}
    (type : FieldType) (blob : List UInt8) (push : Bool)
    (hvalue : call.valueLengths =
      some ((if push then [4] else []) ++ [blob.length % 2 ^ 32]))
    (hrc : (call.run alloc c).1 = 0 ↔
      (c.addBlobWithType alloc call.name type (some blob) push).1 = 0)
    (hcard : (call.run alloc c).2 =
      (c.addBlobWithType alloc call.name type (some blob) push).2) :
    call.Refused alloc c ∨ call.Appends alloc c := by
  rcases addBlobWithType_cases alloc c call.name type blob push with
    ⟨code, hname, hcode, heq⟩ | ⟨pOut, n, err, data, rest, hname, herr, hlengths, heq⟩
  · rw [heq] at hrc hcard
    exact Or.inl ⟨by rw [lengths, hname], fun h => hcode (hrc.mp h), hcard⟩
  · rw [heq] at hrc hcard
    refine Or.inr ⟨pOut, err, data, rest, (checkName_ok' hname).1, herr, ?_, hcard, hrc⟩
    rw [lengths, hname, hlengths, hvalue]
    simp

/-- **A call is refused by its checks, or is a run of appends.** -/
theorem run_cases (alloc : Allocator) (c : OutPostcard) (call : AddCall) :
    call.Refused alloc c ∨ call.Appends alloc c := by
  cases call with
  | simple name t value =>
    cases hname : c.checkName name with
    | error code =>
      refine Or.inl ⟨by simp [lengths, AddCall.name, hname], ?_⟩
      simp only [run, OutPostcard.add, hname]
      exact ⟨checkName_error hname, trivial⟩
    | ok r =>
      obtain ⟨pOut, n⟩ := r
      refine Or.inr ⟨pOut, 6, LittleEndian.leBytes 2 (FieldType.simple t).code,
        [(7, LittleEndian.leBytes 2 (n.bytes.length + 1)), (8, n.withNul),
          (9, SimpleType.toBytes value)], (checkName_ok' hname).1, by simp, ?_, ?_, ?_⟩
      · simp [lengths, AddCall.name, hname, valueLengths]
      · simp only [run, OutPostcard.add, hname]
        rfl
      · simp only [run, OutPostcard.add, hname]
        rfl
  | blob name data =>
    cases data with
    | none =>
      refine Or.inl ⟨?_, ?_⟩
      · rw [lengths]
        split <;> simp [valueLengths]
      · simp only [run, OutPostcard.addBlob, OutPostcard.addBlobWithType]
        cases hname : c.checkName name with
        | error code => exact ⟨checkName_error hname, rfl⟩
        | ok r => exact ⟨by simp, rfl⟩
    | some data => exact cases_of_addBlobWithType .blob data true rfl Iff.rfl rfl
  | array name t elems =>
    cases hname : c.checkName name with
    | error code =>
      refine Or.inl ⟨by simp [lengths, AddCall.name, hname], ?_⟩
      simp only [run, OutPostcard.addArray, hname]
      exact ⟨checkName_error hname, trivial⟩
    | ok r =>
      obtain ⟨pOut, n⟩ := r
      cases elems with
      | none =>
        refine Or.inl ⟨by simp [lengths, AddCall.name, hname, valueLengths], ?_⟩
        simp [run, OutPostcard.addArray, hname]
      | some elems =>
        obtain ⟨elems, hint⟩ := elems
        by_cases hzero : elems.length = 0
        · obtain rfl := List.length_eq_zero_iff.mp hzero
          refine Or.inl ⟨by simp [lengths, AddCall.name, hname, valueLengths], ?_⟩
          simp [run, OutPostcard.addArray, hname]
        · have hnil : elems ≠ [] := fun h => hzero (by rw [h]; rfl)
          refine Or.inr ⟨pOut, 8, LittleEndian.leBytes 2 (FieldType.array t).code,
            [(9, LittleEndian.leBytes 2 (n.bytes.length + 1)), (10, n.withNul),
              (11, LittleEndian.leBytes 4 (elems.length * t.size % 2 ^ 32)),
              (12, (elems.flatMap SimpleType.toBytes).take (elems.length * t.size % 2 ^ 32))],
            (checkName_ok' hname).1, by simp, ?_, ?_, ?_⟩
          · simp [lengths, AddCall.name, hname, valueLengths, hnil, Nat.mod_le]
          · simp only [run, OutPostcard.addArray, hname, Option.map_some, hzero, if_false]
            rfl
          · simp only [run, OutPostcard.addArray, hname, Option.map_some, hzero, if_false]
            rfl
  | string name str =>
    cases name with
    | none =>
      refine Or.inl ⟨?_, by simp [run, OutPostcard.addString]⟩
      rw [lengths]
      cases c <;> rfl
    | some name =>
      cases str with
      | none =>
        refine Or.inl ⟨?_, by simp [run, OutPostcard.addString]⟩
        rw [lengths]
        split <;> simp [valueLengths]
      | some str =>
        refine cases_of_addBlobWithType .string str.withNul true (by simp [valueLengths]) ?_ rfl
        simp only [run, OutPostcard.addString, AddCall.name]
        split <;> simp_all
  | card name pCard =>
    cases name with
    | none =>
      refine Or.inl ⟨?_, by simp [run, OutPostcard.addCard]⟩
      rw [lengths]
      cases c <;> rfl
    | some name =>
      rcases pCard with _ | _ | pOut | pOut
      case some.finalized =>
        refine cases_of_addBlobWithType .card pOut.contents false (by simp [valueLengths]) ?_ rfl
        simp only [run, OutPostcard.addCard, AddCall.name]
        split <;> simp_all
      all_goals
        refine Or.inl ⟨?_, by simp [run, OutPostcard.addCard]⟩
        rw [lengths]
        split <;> simp [valueLengths]

/-- **A failed add changes nothing exactly if the call is atomic.** -/
theorem unchanged_iff (alloc : Allocator) (c : OutPostcard) (call : AddCall) :
    call.Unchanged alloc c ↔ call.Atomic alloc c := by
  rcases run_cases alloc c call with ⟨hlengths, _, hsame⟩ |
    ⟨pOut, err, data, rest, rfl, herr, hlengths, hcard, hrc⟩
  · refine ⟨fun _ lengths hmem => ?_, fun _ _ => by rw [hsame]; exact ⟨rfl, rfl⟩⟩
    rw [hlengths] at hmem
    cases hmem
  · have hfits := OutMemoryStream.appendAll_fits alloc herr pOut
    rw [Unchanged, Atomic, hlengths]
    simp only [Option.mem_def, Option.some.injEq, forall_eq', OutPostcard.stream,
      List.map_cons, List.take_succ_cons, List.take_zero, hcard, ne_eq, hrc]
    rcases OutMemoryStream.appendAll_fails alloc err data rest pOut with
      ⟨hfirst, hsame⟩ | ⟨hfirst, hmore⟩
    · rw [hsame]
      exact ⟨fun _ => Or.inl hfirst, fun _ _ => ⟨rfl, rfl⟩⟩
    · simp only [hfirst, Bool.true_eq_false, false_or]
      constructor
      · intro h
        by_contra hno
        have heq : (pOut.appendAll alloc ((err, data) :: rest)).2.contents = pOut.contents :=
          (h fun hok => hno (hfits.mp hok)).1
        rw [heq] at hmore
        exact absurd hmore (Nat.lt_irrefl _)
      · exact fun hok hfails => absurd (hfits.mpr hok) hfails

/-- A failed call that is atomic leaves the very card it was made on. -/
theorem run_snd_of_atomic {alloc : Allocator} {c : OutPostcard} {call : AddCall}
    (hatomic : call.Atomic alloc c) (hfails : (call.run alloc c).1 ≠ 0) :
    (call.run alloc c).2 = c := by
  rcases run_cases alloc c call with ⟨_, _, hsame⟩ |
    ⟨pOut, err, data, rest, rfl, herr, hlengths, hcard, hrc⟩
  · exact hsame
  · have hfits := OutMemoryStream.appendAll_fits alloc herr pOut
    rcases hatomic _ hlengths with hfirst | hall
    · rcases OutMemoryStream.appendAll_fails alloc err data rest pOut with
        ⟨_, hsame⟩ | ⟨hroom, _⟩
      · rw [hcard, hsame]
      · exact absurd (hroom.symm.trans hfirst) (by decide)
    · exact absurd (hrc.mpr (hfits.mpr hall)) hfails

/-- The field that a successful call has added. -/
def field : AddCall → Option Field
  | simple (some name) t value => some (.simple t name value)
  | blob (some name) (some data) => some (.blob name data)
  | array (some name) t (some elems) => some (.array t name elems.1)
  | string (some name) (some str) => some (.string name str)
  | card (some name) (some pCard) => some (.card name pCard.encoded)
  | _ => none

end AddCall

/-- A successful call adds its field. -/
theorem Builds.added {alloc : Allocator} {c : OutPostcard} {fs : List Field} (h : Builds c fs)
    {call : AddCall} (hok : (call.run alloc c).1 = 0) {f : Field} (hfield : call.field = some f)
    (hplain : ∀ name pCard, call ≠ .card name pCard) :
    Builds (call.run alloc c).2 (fs ++ [f]) := by
  cases call with
  | simple name t value =>
    cases name <;> cases hfield
    exact .simple h (Prod.ext hok rfl)
  | blob name data =>
    cases name <;> cases data <;> cases hfield
    exact .blob h (Prod.ext hok rfl)
  | array name t elems =>
    rcases elems with _ | ⟨elems, hint⟩ <;> cases name <;> cases hfield
    exact .array h hint (Prod.ext hok rfl)
  | string name str =>
    cases name <;> cases str <;> cases hfield
    exact .string h (Prod.ext hok rfl)
  | card name pCard => exact absurd rfl (hplain name pCard)

/-- The card `c` is the result of `init` and of any add calls, of which those that failed
were atomic; `fs` are the fields that the others added.  The nested cards are such cards
too, and finalized. -/
inductive Attempts : OutPostcard → List Field → Prop
  | init {alloc : Allocator} {c : OutPostcard}
      (hinit : OutPostcard.preInit.init alloc true = (0, c)) (hplaced : c.encoded ≠ []) :
      Attempts c []
  | added {alloc : Allocator} {c : OutPostcard} {fs : List Field} (h : Attempts c fs)
      {call : AddCall} (hok : (call.run alloc c).1 = 0) {f : Field} (hfield : call.field = some f)
      (hplain : ∀ name pCard, call ≠ .card name pCard) :
      Attempts (call.run alloc c).2 (fs ++ [f])
  | addedCard {alloc alloc' : Allocator} {c n n' : OutPostcard} {fs nested : List Field}
      (h : Attempts c fs) {name : CString} (hn : Attempts n nested)
      (hfin : n.finalize alloc' = (0, n'))
      (hok : ((AddCall.card (some name) (some n')).run alloc c).1 = 0) :
      Attempts ((AddCall.card (some name) (some n')).run alloc c).2 (fs ++ [.card name n'.encoded])
  | failed {alloc : Allocator} {c : OutPostcard} {fs : List Field} (h : Attempts c fs)
      {call : AddCall} (hfails : (call.run alloc c).1 ≠ 0) (hatomic : call.Atomic alloc c) :
      Attempts (call.run alloc c).2 fs

/-- **A card is built from the adds that succeeded.** -/
theorem Attempts.builds {c : OutPostcard} {fs : List Field} (h : Attempts c fs) :
    Builds c fs := by
  induction h with
  | init hinit hplaced => exact .init hinit hplaced
  | added _ hok hfield hplain ih => exact ih.added hok hfield hplain
  | addedCard _ _ hfin hok ih ihn => exact .card ih ihn hfin (Prod.ext hok rfl)
  | failed _ hfails hatomic ih =>
    rw [AddCall.run_snd_of_atomic hatomic hfails]
    exact ih

/-- The card after a blob of no bytes could not be added, and one with a value after it. -/
def stainedCard : OutPostcard := (emptyCard.addBlob zeroed (some sampleName) (some [])).2
def stainedDone : OutPostcard :=
  ((stainedCard.addUInt8 zeroed (some sampleName) 5).2.finalize zeroed).2

end LocationStack.Postcard
