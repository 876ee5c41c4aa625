import LocationStack.Lib.BitMask
import LocationStack.Lib.Guarded
import Mathlib.Tactic.Common

/-! # The messages a modem supports

Asked for them, the modem answers a bitmap with a bit for the id of each message it supports.
`locClientSupportMsgCheck` is given a list of ids and makes a word of 64 bits of them, with a bit
for each position of the list; `checkQmiMsgsSupported` fills in the word.  It goes over as many
positions as the bitmap has bytes, at most, and the bit that it sets for a position is a shift of
an `int` of 32 bits.

A read past the bitmap and a shift past the `int` are faults.
-/
namespace LocationStack.LocApi

/-! ## The code -/

/-- `qmi_get_supported_msgs_resp_v01`; the list has the `supported_msgs_len` bytes that came. -/
structure SupportedMsgsResp where
  supported_msgs_valid : UInt8
  supported_msgs : List UInt8

inductive CheckFault
  | readOutside | shiftOutside
  deriving DecidableEq

/-- `supported_msgs[length]` -/
def SupportedMsgsResp.byteAt (resp : SupportedMsgsResp) (length : UInt32) :
    Except CheckFault UInt8 :=
  match resp.supported_msgs[length.toNat]? with
  | some byte => .ok byte
  | none => .error .readOutside

/-- `1 << idx`, as the word it is put into sees it: the `int` is widened with its sign. -/
def bitOf (idx : Nat) : BitVec 64 := (1#32 <<< idx).signExtend 64

def shiftInt (idx : Nat) : Except CheckFault (BitVec 64) :=
  if idx < 32 then .ok (bitOf idx) else .error .shiftOutside

/-- The body of the loop, with the id and its position. -/
def checkMsg (resp : SupportedMsgsResp) (result : BitVec 64) : UInt32 × Nat →
    Except CheckFault (BitVec 64)
  | (reqId, idx) => do
    let length := reqId >>> 3
    if length.toNat < resp.supported_msgs.length then
      let bit := reqId &&& 7
      let byte ← resp.byteAt length
      if byte.toBitVec.setWidth 32 &&& (1#32 <<< bit.toNat) ≠ 0#32 then
        let word ← shiftInt idx
        return result ||| word
      else return result
    else return result

/-- `sizeof(result) << 3` -/
def maxCheckedMsgsSavedNum : Nat := 8 <<< 3

def checkLoopSize (reqIdArray : List UInt32) (resp : SupportedMsgsResp) : Nat :=
  min (min reqIdArray.length resp.supported_msgs.length) maxCheckedMsgsSavedNum

def checkQmiMsgsSupported (reqIdArray : List UInt32) (resp : SupportedMsgsResp) :
    Except CheckFault (BitVec 64) :=
  if resp.supported_msgs_valid ≠ 0 then
    (reqIdArray.take (checkLoopSize reqIdArray resp)).zipIdx.foldlM (checkMsg resp) 0#64
  else .ok 0#64

/-- The two statics of `locClientSupportMsgCheck`. -/
structure SupportMsgStatics where
  isCheckedAlready : Bool
  supportedMsgChecked : BitVec 64
  deriving DecidableEq

/-- What it returns; with a success comes `*supportedMsg`. -/
inductive SupportMsgStatus
  | success (supportedMsg : BitVec 64)
  | invalidParameter
  | generalFailure
  deriving DecidableEq

/-- `handle` tells if the handle is one of an open client, and `response` is what the modem sends
back, if its status is a success. -/
def locClientSupportMsgCheck (s : SupportMsgStatics) (handle : Bool)
    (msgArray : Option (List UInt32)) (response : Option SupportedMsgsResp) :
    Except CheckFault (SupportMsgStatics × SupportMsgStatus) :=
  match msgArray with
  | none => .ok (s, .invalidParameter)
  | some msgArray =>
    if s.isCheckedAlready then .ok (s, .success s.supportedMsgChecked)
    else if !handle then .ok (s, .generalFailure)
    else
      match response with
      | none => .ok (s, .generalFailure)
      | some resp => do
        let checked ← checkQmiMsgsSupported msgArray resp
        return (⟨true, checked⟩, .success checked)

/-! ## What is asked of it -/

/-- The bitmap that the modem returned; without one it is empty. -/
def SupportedMsgsResp.bitmap (resp : SupportedMsgsResp) : List UInt8 :=
  if resp.supported_msgs_valid ≠ 0 then resp.supported_msgs else []

/-- The id lies within the bitmap, and its bit there is set. -/
def inBitmap (bitmap : List UInt8) (id : UInt32) : Bool :=
  bitmap[id.toNat / 8]?.any fun byte => byte.toBitVec.getLsbD (id.toNat % 8)

/-- The id at a position of the list is supported. -/
def SupportedAt (bitmap : List UInt8) (ids : List UInt32) (i : Nat) : Prop :=
  ∃ id, ids[i]? = some id ∧ inBitmap bitmap id = true

/-- A bit is set exactly if the id at its position is supported. -/
def TellsSupported (bitmap : List UInt8) (ids : List UInt32) (word : BitVec 64) : Prop :=
  ∀ i < 64, word.getLsbD i = true ↔ SupportedAt bitmap ids i

/-! ## One position -/

/-- The bit of a position is one bit, but for the sign of the `int`, which spreads. -/
theorem bitOf_getLsbD {idx : Nat} (hidx : idx < 32) {j : Nat} (hj : j < 64) :
    (bitOf idx).getLsbD j = true ↔ j = idx ∨ idx = 31 ∧ 31 ≤ j := by
  unfold bitOf
  rw [BitVec.getLsbD_signExtend]
  by_cases hlow : j < 32
  · simp [hj, hlow]
    omega
  · simp [hj, hlow, BitVec.msb_shiftLeft]
    omega

/-- Which byte of the bitmap is read, and which bit of it, is as the modem wrote them. -/
theorem checkMsg_eq (resp : SupportedMsgsResp) (result : BitVec 64) (reqId : UInt32) (idx : Nat) :
    checkMsg resp result (reqId, idx) =
      if inBitmap resp.supported_msgs reqId then (shiftInt idx).map (result ||| ·)
      else .ok result := by
  have hlength : (reqId >>> 3).toNat = reqId.toNat / 8 := by simp [Nat.shiftRight_eq_div_pow]
  have hbit : (reqId &&& 7).toNat = reqId.toNat % 8 := by
    simpa using Nat.and_two_pow_sub_one_eq_mod reqId.toNat 3
  simp only [checkMsg, hlength, hbit, SupportedMsgsResp.byteAt, inBitmap]
  by_cases hin : reqId.toNat / 8 < resp.supported_msgs.length
  · have hlt : reqId.toNat % 8 < 32 := by omega
    simp only [hin, if_true, List.getElem?_eq_getElem hin, Option.any_some, ne_eq,
      BitMask.and_shiftLeft_eq_zero _ hlt, BitVec.getLsbD_setWidth, hlt, decide_true,
      Bool.true_and, Bool.not_eq_false, bind, Except.bind]
    split
    · cases shiftInt idx <;> rfl
    · rfl
  · simp [hin, pure, Except.pure]

theorem checkMsg_ne_readOutside (resp : SupportedMsgsResp) (result : BitVec 64)
    (entry : UInt32 × Nat) : checkMsg resp result entry ≠ .error .readOutside := by
  obtain ⟨reqId, idx⟩ := entry
  rw [checkMsg_eq, shiftInt]
  split
  · split <;> simp [Except.map]
  · exact nofun

/-- **No byte outside** the bitmap is read. -/
theorem checkQmiMsgsSupported_ne_readOutside (ids : List UInt32) (resp : SupportedMsgsResp) :
    checkQmiMsgsSupported ids resp ≠ .error .readOutside := by
  unfold checkQmiMsgsSupported
  split
  · exact Guarded.foldlM_ne_error (checkMsg_ne_readOutside resp) _ _
  · exact nofun

/-! ## All positions -/

/-- The bits that a position with a supported id puts into the word. -/
def bitsFor (bitmap : List UInt8) (entry : UInt32 × Nat) : BitVec 64 :=
  if inBitmap bitmap entry.1 then bitOf entry.2 else 0#64

theorem checkMsg_guard (resp : SupportedMsgsResp) (entry : UInt32 × Nat) :
    Guarded.HasGuard (fun result entry => (checkMsg resp result entry).toOption)
      (fun entry => inBitmap resp.supported_msgs entry.1 = true → entry.2 < 32)
      (fun result entry => result ||| bitsFor resp.supported_msgs entry) entry := by
  obtain ⟨reqId, idx⟩ := entry
  intro s t
  simp only [checkMsg_eq, shiftInt, bitsFor]
  by_cases hin : inBitmap resp.supported_msgs reqId = true
  · by_cases hidx : idx < 32
    · simp [hin, hidx, Except.map, Except.toOption]
    · simp [hin, hidx, Except.map, Except.toOption]
  · simp [hin, Except.toOption]

/-- An entry of the loop, by its position. -/
theorem mem_positions {ids : List UInt32} {n : Nat} {entry : UInt32 × Nat} :
    entry ∈ (ids.take n).zipIdx ↔ entry.2 < n ∧ ids[entry.2]? = some entry.1 := by
  rw [List.mem_zipIdx_iff_getElem?, List.getElem?_take]
  split
  · simp [*]
  · simp [*]

theorem mem_loop_iff {ids : List UInt32} {resp : SupportedMsgsResp} (hids : ids.length ≤ 64)
    {entry : UInt32 × Nat} :
    entry ∈ (ids.take (checkLoopSize ids resp)).zipIdx ↔
      entry.2 < resp.supported_msgs.length ∧ ids[entry.2]? = some entry.1 := by
  have hmax : maxCheckedMsgsSavedNum = 64 := rfl
  rw [mem_positions]
  constructor
  · rintro ⟨hlt, hid⟩
    unfold checkLoopSize at hlt
    exact ⟨by omega, hid⟩
  · rintro ⟨hlt, hid⟩
    have hlist := List.getElem?_eq_some_iff.mp hid |>.1
    unfold checkLoopSize
    exact ⟨by omega, hid⟩

theorem bitsFor_getLsbD {bitmap : List UInt8} {entry : UInt32 × Nat}
    (hidx : inBitmap bitmap entry.1 = true → entry.2 < 32) {j : Nat} (hj : j < 64) :
    (bitsFor bitmap entry).getLsbD j = true ↔
      inBitmap bitmap entry.1 = true ∧ (j = entry.2 ∨ entry.2 = 31 ∧ 31 ≤ j) := by
  unfold bitsFor
  split
  case isTrue hin => rw [bitOf_getLsbD (hidx hin) hj, and_iff_right hin]
  case isFalse hin => simp [hin]

/-- The word of the loop, where no shift is too far. -/
def loopWord (ids : List UInt32) (resp : SupportedMsgsResp) : BitVec 64 :=
  (ids.take (checkLoopSize ids resp)).zipIdx.foldl
    (fun result entry => result ||| bitsFor resp.supported_msgs entry) 0#64

theorem shifts_inside_iff {ids : List UInt32} {resp : SupportedMsgsResp}
    (hids : ids.length ≤ 64) :
    (∀ entry ∈ (ids.take (checkLoopSize ids resp)).zipIdx,
        inBitmap resp.supported_msgs entry.1 = true → entry.2 < 32) ↔
      ∀ i < resp.supported_msgs.length, SupportedAt resp.supported_msgs ids i → i < 32 := by
  constructor
  · rintro h i hi ⟨id, hid, hin⟩
    exact h (id, i) ((mem_loop_iff hids).mpr ⟨hi, hid⟩) hin
  · intro h entry hentry hin
    obtain ⟨hi, hid⟩ := (mem_loop_iff hids).mp hentry
    exact h _ hi ⟨_, hid, hin⟩

/-- **The loop has a word** if no supported position past the `int` is looked at. -/
theorem checkQmiMsgsSupported_eq_ok_iff {ids : List UInt32} {resp : SupportedMsgsResp}
    (hids : ids.length ≤ 64) (hvalid : resp.supported_msgs_valid ≠ 0) (word : BitVec 64) :
    checkQmiMsgsSupported ids resp = .ok word ↔
      (∀ i < resp.supported_msgs.length, SupportedAt resp.supported_msgs ids i → i < 32) ∧
        loopWord ids resp = word := by
  have hoption : ∀ x : Except CheckFault (BitVec 64), x = .ok word ↔ x.toOption = some word := by
    rintro (_ | _) <;> simp [Except.toOption]
  rw [checkQmiMsgsSupported, if_pos hvalid, hoption, Guarded.toOption_foldlM,
    Guarded.foldlM_eq_some_iff fun entry _ => checkMsg_guard resp entry, shifts_inside_iff hids,
    loopWord]

/-- The bits of the word are those of the positions below the length of the bitmap. -/
theorem loopWord_getLsbD {ids : List UInt32} {resp : SupportedMsgsResp} (hids : ids.length ≤ 64)
    (hshift : ∀ i < resp.supported_msgs.length, SupportedAt resp.supported_msgs ids i → i < 32)
    {j : Nat} (hj : j < 64) :
    (loopWord ids resp).getLsbD j = true ↔ ∃ i < resp.supported_msgs.length,
      SupportedAt resp.supported_msgs ids i ∧ (j = i ∨ i = 31 ∧ 31 ≤ j) := by
  have hall := (shifts_inside_iff hids).mpr hshift
  rw [loopWord, BitMask.getLsbD_foldl_or, BitVec.getLsbD_zero, Bool.false_or, List.any_eq_true]
  constructor
  · rintro ⟨entry, hentry, hset⟩
    obtain ⟨hi, hid⟩ := (mem_loop_iff hids).mp hentry
    obtain ⟨hin, hplace⟩ := (bitsFor_getLsbD (hall entry hentry) hj).mp hset
    exact ⟨entry.2, hi, ⟨entry.1, hid, hin⟩, hplace⟩
  · rintro ⟨i, hi, ⟨id, hid, hin⟩, hplace⟩
    have hentry : (id, i) ∈ (ids.take (checkLoopSize ids resp)).zipIdx :=
      (mem_loop_iff hids).mpr ⟨hi, hid⟩
    exact ⟨(id, i), hentry, (bitsFor_getLsbD (hall _ hentry) hj).mpr ⟨hin, hplace⟩⟩

/-- No bitmap, no bits. -/
theorem checkQmiMsgsSupported_of_invalid {ids : List UInt32} {resp : SupportedMsgsResp}
    (hinvalid : ¬resp.supported_msgs_valid ≠ 0) :
    checkQmiMsgsSupported ids resp = .ok 0#64 ∧ resp.bitmap = [] :=
  ⟨if_neg hinvalid, if_neg hinvalid⟩

/-! ## When the word is right -/

/-- Every supported id stands below position 31, and below as many positions as the bitmap has
bytes.  Or the bitmap has 32 bytes and all of positions 31 to 63 are supported: then the sign of
the `int` sets the bits of the positions that are not looked at. -/
def PositionsFit (bitmap : List UInt8) (ids : List UInt32) : Prop :=
  (∀ i, SupportedAt bitmap ids i → i < 31 ∧ i < bitmap.length) ∨
    bitmap.length = 32 ∧ ∀ i, 31 ≤ i → i < 64 → SupportedAt bitmap ids i

theorem SupportedAt.lt {bitmap : List UInt8} {ids : List UInt32} {i : Nat}
    (h : SupportedAt bitmap ids i) : i < ids.length := by
  obtain ⟨id, hid, _⟩ := h
  exact (List.getElem?_eq_some_iff.mp hid).1

/-- A list as short as the bitmap, and below the sign. -/
theorem positionsFit_of_length_le {bitmap : List UInt8} {ids : List UInt32}
    (hsign : ids.length ≤ 31) (hbytes : ids.length ≤ bitmap.length) : PositionsFit bitmap ids :=
  .inl fun _ hi => ⟨Nat.lt_of_lt_of_le hi.lt hsign, Nat.lt_of_lt_of_le hi.lt hbytes⟩

theorem not_supportedAt_nil (ids : List UInt32) (i : Nat) : ¬SupportedAt [] ids i := by
  rintro ⟨id, _, hin⟩
  simp [inBitmap] at hin

/-- The word that the loop would leave is right exactly if the positions fit. -/
theorem tells_iff_positionsFit {ids : List UInt32} {bitmap : List UInt8}
    (hids : ids.length ≤ 64) :
    ((∀ i < bitmap.length, SupportedAt bitmap ids i → i < 32) ∧
      ∀ j < 64, SupportedAt bitmap ids j ↔ ∃ i < bitmap.length,
        SupportedAt bitmap ids i ∧ (j = i ∨ i = 31 ∧ 31 ≤ j)) ↔ PositionsFit bitmap ids := by
  constructor
  · rintro ⟨hshift, hbits⟩
    by_cases hsign : 31 < bitmap.length ∧ SupportedAt bitmap ids 31
    · obtain ⟨hlen, hsupported⟩ := hsign
      have hall : ∀ j, 31 ≤ j → j < 64 → SupportedAt bitmap ids j := fun j hj hj' =>
        (hbits j hj').mpr ⟨31, hlen, hsupported, .inr ⟨rfl, hj⟩⟩
      have hlen' : ¬32 < bitmap.length := fun hlt =>
        Nat.lt_irrefl 32 (hshift 32 hlt (hall 32 (by omega) (by omega)))
      exact .inr ⟨by omega, hall⟩
    · refine .inl fun i hi => ?_
      have hi' := hi.lt
      obtain ⟨k, hk, hsupported, rfl | ⟨rfl, _⟩⟩ := (hbits i (by omega)).mp hi
      · have hne : i ≠ 31 := fun heq => hsign (heq ▸ ⟨hk, hi⟩)
        have hlt := hshift i hk hi
        exact ⟨by omega, hk⟩
      · exact absurd ⟨hk, hsupported⟩ hsign
  · rintro (hfit | ⟨hlen, hall⟩)
    · refine ⟨fun i _ hi => ?_, fun j hj => ⟨fun hsupported => ?_, ?_⟩⟩
      · have hlt := (hfit i hi).1
        omega
      · exact ⟨j, (hfit j hsupported).2, hsupported, .inl rfl⟩
      · rintro ⟨i, _, hsupported, rfl | ⟨rfl, _⟩⟩
        · exact hsupported
        · exact absurd (hfit 31 hsupported).1 (Nat.lt_irrefl 31)
    · refine ⟨fun i hi _ => by omega, fun j hj => ⟨fun hsupported => ?_, ?_⟩⟩
      · by_cases hlow : j < 31
        · exact ⟨j, by omega, hsupported, .inl rfl⟩
        · exact ⟨31, by omega, hall 31 (Nat.le_refl _) (by omega), .inr ⟨rfl, by omega⟩⟩
      · rintro ⟨i, _, hsupported, rfl | ⟨rfl, hge⟩⟩
        · exact hsupported
        · exact hall j hge hj

/-- The word of the loop is there, and right, exactly if the positions fit. -/
theorem checkQmiMsgsSupported_tells_iff {ids : List UInt32} (hids : ids.length ≤ 64)
    (resp : SupportedMsgsResp) :
    (∃ word, checkQmiMsgsSupported ids resp = .ok word ∧ TellsSupported resp.bitmap ids word) ↔
      PositionsFit resp.bitmap ids := by
  by_cases hvalid : resp.supported_msgs_valid ≠ 0
  · have hbitmap : resp.bitmap = resp.supported_msgs := if_pos hvalid
    rw [hbitmap, ← tells_iff_positionsFit hids]
    constructor
    · rintro ⟨word, hcheck, htells⟩
      obtain ⟨hshift, rfl⟩ := (checkQmiMsgsSupported_eq_ok_iff hids hvalid word).mp hcheck
      exact ⟨hshift, fun j hj => (htells j hj).symm.trans (loopWord_getLsbD hids hshift hj)⟩
    · rintro ⟨hshift, hbits⟩
      have hcheck := (checkQmiMsgsSupported_eq_ok_iff hids hvalid _).mpr ⟨hshift, rfl⟩
      exact ⟨_, hcheck, fun j hj => (loopWord_getLsbD hids hshift hj).trans (hbits j hj).symm⟩
  · obtain ⟨hcheck, hbitmap⟩ := @checkQmiMsgsSupported_of_invalid ids resp hvalid
    rw [hbitmap]
    refine iff_of_true ⟨_, hcheck, fun j _ => ?_⟩ (.inl fun i hi => ?_)
    · simp [not_supportedAt_nil]
    · exact absurd hi (not_supportedAt_nil ids i)

/-! ## The check -/

/-- The call of a client that is open, while no modem was asked yet. -/
theorem locClientSupportMsgCheck_asks (checked : BitVec 64) (ids : List UInt32)
    (resp : SupportedMsgsResp) :
    locClientSupportMsgCheck ⟨false, checked⟩ true (some ids) (some resp) =
      (checkQmiMsgsSupported ids resp).map fun word => (⟨true, word⟩, .success word) := by
  cases h : checkQmiMsgsSupported ids resp <;> simp [locClientSupportMsgCheck, h] <;> rfl

/-- **The word of a check is right** exactly if the positions fit; no byte outside the bitmap is
read, whatever the list. -/
theorem supported_msgs_told_iff (checked : BitVec 64) {ids : List UInt32}
    (hids : ids.length ≤ 64) (resp : SupportedMsgsResp) :
    (locClientSupportMsgCheck ⟨false, checked⟩ true (some ids) (some resp) ≠
        .error .readOutside ∧
      ∃ s word, locClientSupportMsgCheck ⟨false, checked⟩ true (some ids) (some resp) =
        .ok (s, .success word) ∧ TellsSupported resp.bitmap ids word) ↔
      PositionsFit resp.bitmap ids := by
  have hinside := checkQmiMsgsSupported_ne_readOutside ids resp
  rw [locClientSupportMsgCheck_asks, ← checkQmiMsgsSupported_tells_iff hids]
  cases hcheck : checkQmiMsgsSupported ids resp with
  | error _ => simp [Except.map]
  | ok word => simp [Except.map]

/-- The positions of five ids, the last of them supported, and a bitmap of the messages 0, 1, 30
and 31, which has four bytes. -/
theorem fifth_message_not_told :
    let ids : List UInt32 := [2, 0, 1, 30, 31]
    let resp : SupportedMsgsResp := ⟨1, [0x03, 0x00, 0x00, 0xc0]⟩
    locClientSupportMsgCheck ⟨false, 0⟩ true (some ids) (some resp) =
        .ok (⟨true, 0b01110⟩, .success 0b01110) ∧
      ¬TellsSupported resp.bitmap ids 0b01110 := by
  refine ⟨rfl, fun htells => ?_⟩
  have hfifth := (htells 4 (by decide)).mpr ⟨31, rfl, by decide⟩
  exact absurd hfifth (by decide)

theorem supported_msgs_told_three :
    locClientSupportMsgCheck ⟨false, 0⟩ true (some [4, 1, 17]) (some ⟨1, [0x02, 0x00, 0x02]⟩) ≠
        .error .readOutside ∧
      ∃ s word, locClientSupportMsgCheck ⟨false, 0⟩ true (some [4, 1, 17])
          (some ⟨1, [0x02, 0x00, 0x02]⟩) = .ok (s, .success word) ∧
        TellsSupported [0x02, 0x00, 0x02] [4, 1, 17] word :=
  (supported_msgs_told_iff 0 (by decide) ⟨1, [0x02, 0x00, 0x02]⟩).mpr
    (positionsFit_of_length_le (by decide) (by decide))

/-! ## Later calls

A modem that answered once is not asked again: all clients are told what the first was. -/

/-- What is kept was made of a bitmap that came. -/
def SupportMsgStatics.Kept (ids : List UInt32) (came : List SupportedMsgsResp)
    (s : SupportMsgStatics) : Prop :=
  s.isCheckedAlready = true →
    ∃ resp ∈ came, checkQmiMsgsSupported ids resp = .ok s.supportedMsgChecked

/-- **One call** with the list keeps it so, and tells what is kept. -/
theorem SupportMsgStatics.Kept.call {ids : List UInt32} {came : List SupportedMsgsResp}
    {s s' : SupportMsgStatics} {handle : Bool} {response : Option SupportedMsgsResp}
    {status : SupportMsgStatus} (hs : s.Kept ids came)
    (h : locClientSupportMsgCheck s handle (some ids) response = .ok (s', status)) :
    s'.Kept ids (came ++ response.toList) ∧
      ∀ word, status = .success word → s' = ⟨true, word⟩ := by
  have hmore : s.Kept ids (came ++ response.toList) := fun hchecked => by
    obtain ⟨resp, hresp, hcheck⟩ := hs hchecked
    exact ⟨resp, List.mem_append_left _ hresp, hcheck⟩
  unfold locClientSupportMsgCheck at h
  dsimp only at h
  split at h
  case isTrue hchecked =>
    cases h
    refine ⟨hmore, fun word hword => ?_⟩
    cases hword
    rw [← hchecked]
  case isFalse =>
    split at h
    case isTrue =>
      cases h
      exact ⟨hmore, nofun⟩
    case isFalse =>
      cases response with
      | none =>
        cases h
        exact ⟨hmore, nofun⟩
      | some resp =>
        cases hcheck : checkQmiMsgsSupported ids resp with
        | error _ => simp [hcheck, bind, Except.bind] at h
        | ok checked =>
          simp only [hcheck, bind, Except.bind, pure, Except.pure, Except.ok.injEq,
            Prod.mk.injEq] at h
          obtain ⟨rfl, rfl⟩ := h
          refine ⟨fun _ => ⟨resp, by simp, hcheck⟩, fun word hword => ?_⟩
          cases hword
          rfl

/-- The calls of all clients with one list, each with its handle and what the modem answers. -/
def supportMsgChecks (ids : List UInt32) (s : SupportMsgStatics)
    (calls : List (Bool × Option SupportedMsgsResp)) : Except CheckFault SupportMsgStatics :=
  calls.foldlM (fun s call => (locClientSupportMsgCheck s call.1 (some ids) call.2).map Prod.fst) s

theorem SupportMsgStatics.Kept.calls {ids : List UInt32}
    {calls : List (Bool × Option SupportedMsgsResp)} {came : List SupportedMsgsResp}
    {s s' : SupportMsgStatics} (hs : s.Kept ids came)
    (h : supportMsgChecks ids s calls = .ok s') :
    s'.Kept ids (came ++ calls.filterMap Prod.snd) := by
  induction calls generalizing s came with
  | nil =>
    cases h
    simpa using hs
  | cons call calls ih =>
    obtain ⟨handle, response⟩ := call
    rw [supportMsgChecks, List.foldlM_cons] at h
    cases hcall : locClientSupportMsgCheck s handle (some ids) response with
    | error _ => simp [hcall, Except.map, bind, Except.bind] at h
    | ok result =>
      obtain ⟨s₁, status⟩ := result
      rw [hcall] at h
      have hrest := ih (hs.call hcall).1 h
      cases response <;> simpa using hrest

/-- **What any client is told** is the word of one bitmap that came, and the modem said there which
messages it supports. -/
theorem told_of_checks {ids : List UInt32} (hids : ids.length ≤ 64) {checked : BitVec 64}
    {calls : List (Bool × Option SupportedMsgsResp)} {s s' : SupportMsgStatics}
    (hcalls : supportMsgChecks ids ⟨false, checked⟩ calls = .ok s) {handle : Bool}
    {response : Option SupportedMsgsResp} {word : BitVec 64}
    (hlast : locClientSupportMsgCheck s handle (some ids) response = .ok (s', .success word)) :
    ∃ resp ∈ calls.filterMap Prod.snd ++ response.toList,
      PositionsFit resp.bitmap ids → TellsSupported resp.bitmap ids word := by
  have hkept : s.Kept ids (calls.filterMap Prod.snd) := by
    have hfirst : (⟨false, checked⟩ : SupportMsgStatics).Kept ids [] := nofun
    simpa using hfirst.calls hcalls
  obtain ⟨hnow, hword⟩ := hkept.call hlast
  rw [hword word rfl] at hnow
  obtain ⟨resp, hresp, hcheck⟩ := hnow rfl
  refine ⟨resp, hresp, fun hfit => ?_⟩
  obtain ⟨word', hcheck', htells⟩ := (checkQmiMsgsSupported_tells_iff hids resp).mpr hfit
  cases hcheck.symm.trans hcheck'
  exact htells

end LocationStack.LocApi
