import LocationStack.BaseUtil.TimeRoutines
import LocationStack.Postcard.Adds

/-! # Timestamps in postcards

`insert_into_postcard` adds a timestamp as a nested card of three 32-bit values: its clock, its
seconds and its nanoseconds.  The seconds, which are 64 bits wide in a timestamp, are cast to
the width of the field.  `retrieve_from_postcard` takes the first card under the name and reads
the three values back.
-/
namespace LocationStack.Postcard

open LittleEndian InPostcard

/-- `"CLOCK_ID"`. -/
def clockIdName : CString := ⟨[67, 76, 79, 67, 75, 95, 73, 68], by decide⟩

/-- `"TS_SEC"`. -/
def tsSecName : CString := ⟨[84, 83, 95, 83, 69, 67], by decide⟩

/-- `"TS_NSEC"`. -/
def tsNsecName : CString := ⟨[84, 83, 95, 78, 83, 69, 67], by decide⟩

/-- `invalidate`. -/
def invalidate (_ts : Timestamp) : Timestamp := ⟨false, -1, ⟨0, 0⟩⟩

/-- `insert_into_postcard`; `created` tells whether the nested card and its stream could be
allocated.  The result code, and the card that was added to. -/
def insert_into_postcard (alloc : Allocator) (created : Bool × Bool) (ts : Timestamp)
    (dest_card : OutPostcard) (name_str : Option CString) : Int × OutPostcard :=
  match name_str with
  | none => (2, dest_card)
  | some name_str =>
      if !created.1 then (3, dest_card)
      else if !ts.m_is_valid then (4, dest_card)
      else
        let (rc, nest_card) := OutPostcard.preInit.init alloc created.2
        if rc ≠ 0 then (10, dest_card)
        else
          let (rc, nest_card) :=
            nest_card.addInt32 alloc (some clockIdName) (Int32.ofInt ts.m_clock_id)
          if rc ≠ 0 then (11, dest_card)
          else
            -- both parts of the time are cast to an `INT32`
            let (rc, nest_card) :=
              nest_card.addInt32 alloc (some tsSecName) (Int32.ofInt ts.m_timestamp.tv_sec)
            if rc ≠ 0 then (12, dest_card)
            else
              let (rc, nest_card) :=
                nest_card.addInt32 alloc (some tsNsecName) (Int32.ofInt ts.m_timestamp.tv_nsec)
              if rc ≠ 0 then (13, dest_card)
              else
                let (rc, nest_card) := nest_card.finalize alloc
                if rc ≠ 0 then (14, dest_card)
                else
                  let (rc, dest_card) := dest_card.addCard alloc (some name_str) (some nest_card)
                  if rc ≠ 0 then (20, dest_card) else (0, dest_card)

/-- `retrieve_from_postcard`; `created` tells whether the nested card and its stream could be
allocated.  The result code, the timestamp, and the card that was read. -/
def retrieve_from_postcard (created : Bool × Bool) (ts : Timestamp)
    (src_card : Option InPostcard) (name_str : Option CString) :
    Int × Timestamp × Option InPostcard :=
  let ts := invalidate ts
  match name_str, src_card with
  | none, src_card => (2, ts, src_card)
  | some _, none => (3, ts, none)
  | some name_str, some src_card =>
      match src_card.getCard created (some name_str) 0 with
      | (0, some nest_card, src_card) =>
          match nest_card.getInt32 (some clockIdName) with
          | (0, some clock_id, nest_card) =>
              let ts : Timestamp := { ts with m_clock_id := clock_id.toInt }
              match nest_card.getInt32 (some tsSecName) with
              | (0, some ts_sec, nest_card) =>
                  let ts : Timestamp :=
                    { ts with m_timestamp := { ts.m_timestamp with tv_sec := ts_sec.toInt } }
                  match nest_card.getInt32 (some tsNsecName) with
                  | (0, some ts_nsec, _) =>
                      let ts : Timestamp :=
                        { ts with m_timestamp := { ts.m_timestamp with tv_nsec := ts_nsec.toInt } }
                      (0, ({ ts with m_is_valid := true } : Timestamp), some src_card)
                  | _ => (12, ts, some src_card)
              | _ => (11, ts, some src_card)
          | _ => (10, ts, some src_card)
      | (_, _, src_card) => (10, ts, some src_card)

/-! ## What a card gives back -/

/-- The 32-bit value that a card of these fields gives under a name. -/
def int32Under (fs : List Field) (name : CString) : Option Int32 :=
  match ((addedUnder fs (.simple .int32) name)[0]? : Option Field) with
  | some (.simple .int32 _ v) => some (Int32.ofBitVec v)
  | _ => none

theorem getInt32_reads {fs : List Field} (hfs : ∀ g ∈ fs, g.Valid)
    (hlt : (encodeCard fs).length < 2 ^ 32) {p : InPostcard} (hp : Opened (encodeCard fs) p)
    {name : CString} (hname : name.bytes ≠ []) :
    Outcome (encodeCard fs) (p.getInt32 (some name))
      (if (int32Under fs name).isSome then 0 else fieldNotFound) (int32Under fs name) := by
  unfold int32Under
  cases hfirst : (addedUnder fs (.simple .int32) name)[0]? with
  | none =>
    have hnone : addedUnder fs (.simple .int32) name = [] := by simpa using hfirst
    exact (getSimple_missing hfs hlt hp hname hnone).convert Int32.ofBitVec
  | some f =>
    obtain ⟨-, htype, rfl⟩ := matches_of_addedUnder hfirst
    cases f with
    | simple t n v =>
      cases htype
      exact (getSimple_found hfs hlt hp hfirst).convert Int32.ofBitVec
    | string | blob | array | card => cases htype

/-- The values of a card of these fields are those of the timestamp. -/
structure HoldsStamp (fs : List Field) (ts : Timestamp) : Prop where
  clock_id : (int32Under fs clockIdName).map Int32.toInt = some ts.m_clock_id
  ts_sec : (int32Under fs tsSecName).map Int32.toInt = some ts.m_timestamp.tv_sec
  ts_nsec : (int32Under fs tsNsecName).map Int32.toInt = some ts.m_timestamp.tv_nsec

/-- What is retrieved from the first card under the name. -/
theorem retrieve_iff {fs nested : List Field} (hfs : ∀ g ∈ fs, g.Valid)
    (hlt : (encodeCard fs).length < 2 ^ 32) {p : InPostcard} (hp : Opened (encodeCard fs) p)
    {name : CString} (hnested : ∀ g ∈ nested, g.Valid)
    (hfirst : (addedUnder fs .card name)[0]? = some (.card name (encodeCard nested)))
    (self : Timestamp) {ts : Timestamp} (hts : ts.m_is_valid = true) :
    (∃ p', retrieve_from_postcard (true, true) self (some p) (some name) = (0, ts, p')) ↔
      HoldsStamp nested ts := by
  obtain ⟨card, hout, hcard⟩ := getCard_found hfs hlt hp hfirst
  obtain ⟨p₁, hget, -⟩ := hout.eq
  have hget : p.getCard (true, true) (some name) 0 = (0, some card, p₁) := hget
  have hlt' : (encodeCard nested).length < 2 ^ 32 :=
    (hfs _ (matches_of_addedUnder hfirst).1).value_lt
  obtain ⟨q₁, hclock, hq₁⟩ :=
    (getInt32_reads hnested hlt' hcard (show clockIdName.bytes ≠ [] by decide)).eq
  obtain ⟨q₂, hsec, hq₂⟩ :=
    (getInt32_reads hnested hlt' hq₁ (show tsSecName.bytes ≠ [] by decide)).eq
  obtain ⟨q₃, hnsec, -⟩ :=
    (getInt32_reads hnested hlt' hq₂ (show tsNsecName.bytes ≠ [] by decide)).eq
  obtain ⟨valid, clock_id, sec, nsec⟩ := ts
  cases hts
  unfold retrieve_from_postcard
  simp only [hget]
  -- a value that is missing ends the retrieval with a code of its own
  cases hc : int32Under nested clockIdName with
  | none =>
    rw [hc] at hclock
    simp only [hclock]
    exact iff_of_false (by simp) fun h => by simpa [hc] using h.clock_id
  | some clock =>
    rw [hc, Option.isSome_some, if_pos rfl] at hclock
    simp only [hclock]
    cases hs : int32Under nested tsSecName with
    | none =>
      rw [hs] at hsec
      simp only [hsec]
      exact iff_of_false (by simp) fun h => by simpa [hs] using h.ts_sec
    | some s =>
      rw [hs, Option.isSome_some, if_pos rfl] at hsec
      simp only [hsec]
      cases hn : int32Under nested tsNsecName with
      | none =>
        rw [hn] at hnsec
        simp only [hnsec]
        exact iff_of_false (by simp) fun h => by simpa [hn] using h.ts_nsec
      | some n =>
        rw [hn, Option.isSome_some, if_pos rfl] at hnsec
        simp only [hnsec]
        constructor
        · rintro ⟨p', h⟩
          cases h
          exact ⟨by rw [hc]; rfl, by rw [hs]; rfl, by rw [hn]; rfl⟩
        · rintro ⟨h₁, h₂, h₃⟩
          rw [hc] at h₁
          rw [hs] at h₂
          rw [hn] at h₃
          obtain rfl := Option.some.inj h₁
          obtain rfl := Option.some.inj h₂
          obtain rfl := Option.some.inj h₃
          exact ⟨_, rfl⟩

/-! ## What an insertion adds -/

/-- The fields of the nested card. -/
def stampFields (ts : Timestamp) : List Field :=
  [.simple .int32 clockIdName (Int32.ofInt ts.m_clock_id).toBitVec,
    .simple .int32 tsSecName (Int32.ofInt ts.m_timestamp.tv_sec).toBitVec,
    .simple .int32 tsNsecName (Int32.ofInt ts.m_timestamp.tv_nsec).toBitVec]

theorem stampFields_length (ts : Timestamp) : (encodeCard (stampFields ts)).length = 53 := by
  rw [encodeCard_length]
  rfl

theorem stampFields_valid (ts : Timestamp) : ∀ g ∈ stampFields ts, g.Valid := by
  have hvalid : ∀ (name : CString) (v : SimpleType.int32.Value), name.bytes ≠ [] →
      name.bytes.length < maxEncodeNameLength → (Field.simple .int32 name v).Valid := by
    intro name v hne hlt
    exact ⟨hne, hlt, by simp [Field.value, SimpleType.size], trivial⟩
  intro g hg
  simp only [stampFields, List.mem_cons, List.not_mem_nil, or_false] at hg
  rcases hg with rfl | rfl | rfl
  all_goals exact hvalid _ _ (by decide) (by decide)

/-- The first append of a stream asks for its first block. -/
theorem append_new {alloc : Allocator} {data : List UInt8} (hne : data ≠ [])
    (hlt : data.length < 64) :
    (OutMemoryStream.new.append alloc data).1 = 0 ↔ (alloc 64).isSome = true := by
  have hroom := OutMemoryStream.append_room alloc .new data
  have hfirst : OutMemoryStream.roomFor alloc 0 0 data.length =
      if (alloc 64).isSome then some 64 else none := by
    have hlength : data.length ≠ 0 := by simpa using hne
    have hmin : 0 + data.length < OutMemoryStream.minLength := by rwa [Nat.zero_add]
    rw [OutMemoryStream.roomFor, if_neg hlength, if_neg (by omega)]
    simp only []
    rw [if_pos hmin]
    rfl
  rw [show OutMemoryStream.roomFor alloc OutMemoryStream.new.putCursor
    OutMemoryStream.new.capacity data.length = _ from hfirst] at hroom
  by_cases hblock : (alloc 64).isSome = true
  · rw [if_pos hblock] at hroom
    exact iff_of_true hroom.1 hblock
  · rw [if_neg hblock] at hroom
    simp [hroom, hblock]

/-- A card that could be added to has the placeholder for its length. -/
theorem init_placed {alloc : Allocator} {c c' : OutPostcard} {name : CString} {t : SimpleType}
    {v : t.Value} (hinit : OutPostcard.preInit.init alloc true = (0, c))
    (hadd : c.add alloc (some name) t v = (0, c')) : c.encoded ≠ [] := by
  simp only [OutPostcard.init, if_true, Prod.mk.injEq, true_and] at hinit
  subst hinit
  rcases OutMemoryStream.append_cases alloc .new (leBytes 4 OutPostcard.initLength) with
    hfail | ⟨-, -, hok⟩
  · -- then the first append of the field finds no room either
    exfalso
    have hblock : ¬ (alloc 64).isSome = true := by
      rw [← append_new (show leBytes 4 OutPostcard.initLength ≠ [] by simp [leBytes])
        (by rw [leBytes_length]; decide), hfail]
      decide
    have hnext :
        (OutMemoryStream.new.append alloc (leBytes 2 (FieldType.simple t).code)).1 ≠ 0 := by
      rwa [ne_eq, append_new (by simp [leBytes]) (by rw [leBytes_length]; decide)]
    rw [hfail] at hadd
    unfold OutPostcard.add at hadd
    cases hname : (OutPostcard.adding OutMemoryStream.new).checkName (some name) with
    | error code =>
      simp only [hname] at hadd
      exact checkName_error hname (congrArg Prod.fst hadd)
    | ok r =>
      obtain ⟨pOut, n⟩ := r
      obtain ⟨-, hc, -, -⟩ := checkName_ok hname
      cases hc
      simp [hname, OutPostcard.append, OutMemoryStream.appendAll, hnext] at hadd
  · rw [show OutPostcard.encoded (.adding _) = OutMemoryStream.contents _ from rfl, hok]
    simp [leBytes]

/-- `BREAK_IF_NON_ZERO`: what succeeds has gone on. -/
theorem of_break {α : Type} {rc code : Int} {x z : α} {y : Int × α} (hcode : code ≠ 0)
    (h : (if rc ≠ 0 then (code, x) else y) = (0, z)) : rc = 0 ∧ y = (0, z) := by
  split at h
  · exact absurd (congrArg Prod.fst h) hcode
  · rename_i hrc
    exact ⟨not_ne_iff.mp hrc, h⟩

/-- A successful insertion is one in which every call succeeds. -/
theorem insert_ok {alloc : Allocator} {created : Bool × Bool} {ts : Timestamp}
    {c c' : OutPostcard} {name : CString}
    (h : insert_into_postcard alloc created ts c (some name) = (0, c')) :
    ∃ n₀ n₁ n₂ n₃ n', OutPostcard.preInit.init alloc true = (0, n₀) ∧
      n₀.addInt32 alloc (some clockIdName) (Int32.ofInt ts.m_clock_id) = (0, n₁) ∧
      n₁.addInt32 alloc (some tsSecName) (Int32.ofInt ts.m_timestamp.tv_sec) = (0, n₂) ∧
      n₂.addInt32 alloc (some tsNsecName) (Int32.ofInt ts.m_timestamp.tv_nsec) = (0, n₃) ∧
      n₃.finalize alloc = (0, n') ∧ c.addCard alloc (some name) (some n') = (0, c') := by
  unfold insert_into_postcard at h
  simp only [] at h
  split at h
  · cases h
  split at h
  · cases h
  rcases h₀ : OutPostcard.preInit.init alloc created.2 with ⟨rc, n₀⟩
  simp only [h₀] at h
  replace h := of_break (by decide) h
  obtain ⟨rfl, h⟩ := h
  rcases h₁ : n₀.addInt32 alloc (some clockIdName) (Int32.ofInt ts.m_clock_id) with ⟨rc, n₁⟩
  simp only [h₁] at h
  replace h := of_break (by decide) h
  obtain ⟨rfl, h⟩ := h
  rcases h₂ : n₁.addInt32 alloc (some tsSecName) (Int32.ofInt ts.m_timestamp.tv_sec) with ⟨rc, n₂⟩
  simp only [h₂] at h
  replace h := of_break (by decide) h
  obtain ⟨rfl, h⟩ := h
  rcases h₃ : n₂.addInt32 alloc (some tsNsecName) (Int32.ofInt ts.m_timestamp.tv_nsec) with
    ⟨rc, n₃⟩
  simp only [h₃] at h
  replace h := of_break (by decide) h
  obtain ⟨rfl, h⟩ := h
  rcases h₄ : n₃.finalize alloc with ⟨rc, n'⟩
  simp only [h₄] at h
  replace h := of_break (by decide) h
  obtain ⟨rfl, h⟩ := h
  rcases h₅ : c.addCard alloc (some name) (some n') with ⟨rc, c''⟩
  simp only [h₅] at h
  replace h := of_break (by decide) h
  obtain ⟨rfl, h⟩ := h
  cases h
  have hstream : created.2 = true := by
    by_contra hno
    simp [OutPostcard.init, hno] at h₀
  rw [hstream] at h₀
  exact ⟨n₀, n₁, n₂, n₃, n', h₀, h₁, h₂, h₃, h₄, h₅⟩

/-- **What an insertion adds**: the three values, in a card of their own. -/
theorem insert_builds {alloc : Allocator} {created : Bool × Bool} {ts : Timestamp}
    {c c' : OutPostcard} {fs : List Field} {name : CString} (hbuilt : Builds c fs)
    (hinsert : insert_into_postcard alloc created ts c (some name) = (0, c')) :
    Builds c' (fs ++ [.card name (encodeCard (stampFields ts))]) := by
  obtain ⟨n₀, n₁, n₂, n₃, n', hinit, hclock, hsec, hnsec, hfin, hadd⟩ := insert_ok hinsert
  have hnested : Builds n₃ (stampFields ts) :=
    .simple (.simple (.simple (.init hinit (init_placed hinit hclock)) hclock) hsec) hnsec
  have hencoded : n'.encoded = encodeCard (stampFields ts) := by
    refine hnested.encoded hfin ?_
    rw [stampFields_length]
    decide
  rw [← hencoded]
  exact .card hbuilt hnested hfin hadd

/-! ## The round trip -/

/-- Calls that add the fields `fs` to the card `c`, each of them successful, and give `c'`. -/
inductive Adds (c : OutPostcard) : List Field → OutPostcard → Prop
  | nil : Adds c [] c
  | added {alloc : Allocator} {c' : OutPostcard} {fs : List Field} (h : Adds c fs c')
      {call : AddCall} (hok : (call.run alloc c').1 = 0) {f : Field}
      (hfield : call.field = some f) (hplain : ∀ name pCard, call ≠ .card name pCard) :
      Adds c (fs ++ [f]) (call.run alloc c').2
  | addedCard {alloc alloc' : Allocator} {c' n n' : OutPostcard} {fs nested : List Field}
      (h : Adds c fs c') {name : CString} (hn : Builds n nested)
      (hfin : n.finalize alloc' = (0, n'))
      (hok : ((AddCall.card (some name) (some n')).run alloc c').1 = 0) :
      Adds c (fs ++ [.card name n'.encoded]) ((AddCall.card (some name) (some n')).run alloc c').2

theorem Builds.adds {c c' : OutPostcard} {fs fs' : List Field} (hbuilt : Builds c fs)
    (h : Adds c fs' c') : Builds c' (fs ++ fs') := by
  induction h with
  | nil => simpa using hbuilt
  | added _ hok hfield hplain ih =>
    rw [← List.append_assoc]
    exact ih.added hok hfield hplain
  | addedCard _ hn hfin hok ih =>
    rw [← List.append_assoc]
    exact .card ih hn hfin (Prod.ext hok rfl)

/-- The first card under the name. -/
theorem addedUnder_append_cons (fs fs' : List Field) (name : CString) (bytes : List UInt8) :
    (addedUnder (fs ++ .card name bytes :: fs') .card name)[0]? =
      ((addedUnder fs .card name)[0]?).or (some (.card name bytes)) := by
  have hmatch : (Field.card name bytes).matches .card name = true :=
    Field.matches_iff.mpr ⟨rfl, rfl⟩
  rw [addedUnder, List.filter_append, List.filter_cons, if_pos hmatch, addedUnder]
  cases fs.filter (·.matches .card name) <;> rfl

/-- The card that the name stood for before already holds the timestamp. -/
def HeldBefore (fs : List Field) (name : CString) (ts : Timestamp) : Prop :=
  ∃ nested, (∀ g ∈ nested, g.Valid) ∧
    (addedUnder fs .card name)[0]? = some (.card name (encodeCard nested)) ∧ HoldsStamp nested ts

theorem toInt_ofInt_eq_iff (x : Int) : (Int32.ofInt x).toInt = x ↔ InInt x := by
  rw [Int32.toInt_ofInt, InInt, Int.bmod, Int32.size]
  split <;> omega

/-- The nested card holds the timestamp if the seconds fit. -/
theorem stampFields_holds_iff {clock_id : Int} (hclock : InInt clock_id) (t : ValidTime) :
    HoldsStamp (stampFields ⟨true, clock_id, t.1⟩) ⟨true, clock_id, t.1⟩ ↔ InInt t.1.tv_sec := by
  have hnsec : InInt t.1.tv_nsec := by
    obtain ⟨-, hlo, hhi⟩ := t.2
    unfold nanoPerSec at hhi
    exact ⟨by omega, by omega⟩
  constructor
  · intro h
    exact (toInt_ofInt_eq_iff _).mp (Option.some.inj h.ts_sec)
  · intro hsec
    exact ⟨congrArg some ((toInt_ofInt_eq_iff _).mpr hclock),
      congrArg some ((toInt_ofInt_eq_iff _).mpr hsec),
      congrArg some ((toInt_ofInt_eq_iff _).mpr hnsec)⟩

/-- A timestamp of these seconds, inserted into a card beside a number of the same name. -/
def stampAt (sec : Int) : Timestamp := ⟨true, 7, ⟨sec, 6⟩⟩
def stamped (sec : Int) : OutPostcard :=
  (insert_into_postcard zeroed (true, true) (stampAt sec) innerCard (some sampleName)).2
def stampedDone (sec : Int) : OutPostcard := ((stamped sec).finalize zeroed).2
def stampedOpen (sec : Int) : InPostcard :=
  ⟨InMemoryStream.setBufferNoDup (stampedDone sec).encoded (stampedDone sec).encoded.length⟩

end LocationStack.Postcard
