import LocationStack.Lib.Decimal
import Mathlib.Data.List.GetD
import Mathlib.Data.List.TakeWhile

/-! # Socket nodes

A client of the location service is known by the path of its socket, which names the directory,
the program and two numbers, with a dot before each of the numbers.  The service makes a node of
such a path again, by going back from its end to the second dot.
-/
namespace LocationStack
namespace Ipc

open Decimal

/-- `SockNode`. -/
structure SockNode where
  mId1 : Int32
  mId2 : Int32
  mNodePathnamePrefix : List UInt8
  deriving DecidableEq

namespace SockNode

/-- The character `.`. -/
def dot : UInt8 := 46

/-- `strlen` of the string at these bytes, which a zero byte follows. -/
def strlen (s : List UInt8) : Nat := (s.takeWhile (· ≠ 0)).length

/-- The loop of `getId1Id2`, `n` being `indx + 1`: it goes back until two dots were counted. -/
def countBack (fullPathName : List UInt8) : Nat → Nat → Nat × Nat
  | count, 0 => (count, 0)
  | count, n + 1 =>
      if count < 2 then
        countBack fullPathName
          (if fullPathName.getD n 0 = dot then count + 1 else count) n
      else (count, n + 1)

/-- `sscanf(s, "%d.%d", &id1, &id2)`.  A number that is out of range would be cut. -/
def sscanf (s : List UInt8) (id1 id2 : Int32) : Int32 × Int32 :=
  match scanInt s with
  | none => (id1, id2)
  | some (n1, rest) =>
      if rest.head? = some dot then
        match scanInt rest.tail with
        | none => (Int32.ofInt n1, id2)
        | some (n2, _) => (Int32.ofInt n1, Int32.ofInt n2)
      else (Int32.ofInt n1, id2)

/-- `getId1Id2`: the index it returns, and the numbers. -/
def getId1Id2 (fullPathName : Option (List UInt8)) (length id1 id2 : Int32) :
    Nat × Int32 × Int32 :=
  let fullPathName := fullPathName.getD []
  let indx : Int32 := if length < 0 then Int32.ofInt ((strlen fullPathName : Int) - 1) else length
  let (count, indx) := countBack fullPathName 0 (indx.toInt + 1).toNat
  if count = 2 then (indx, sscanf (fullPathName.drop (indx + 1)) id1 id2)
  else (0, id1, id2)

/-- `create(const char*, int32_t)`. -/
def createAt (fullPathName : Option (List UInt8)) (length : Int32) : SockNode :=
  let (indx, id1, id2) := getId1Id2 fullPathName length (-1) (-1)
  ⟨id1, id2, (fullPathName.getD []).take indx⟩

/-- `create(const string)`. -/
def create (fullPathName : List UInt8) : SockNode :=
  createAt (some fullPathName) (Int32.ofNat fullPathName.length)

/-- `getNodePathname`. -/
def getNodePathname (node : SockNode) : List UInt8 :=
  node.mNodePathnamePrefix ++ dot :: ofInt node.mId1.toInt ++ dot :: ofInt node.mId2.toInt

/-- `SockNode::Type`. -/
inductive NodeType
  | Local
  | Eap
  | Other
  deriving DecidableEq, Repr

end SockNode

/-- The strings that the paths are put together from, which the build defines: directories, and
the names of the two interfaces. -/
structure PathStrings where
  SOCKET_LOC_CLIENT_DIR : List UInt8
  EAP_LOC_CLIENT_DIR : List UInt8
  LOC_CLIENT_NAME_PREFIX : List UInt8
  LOC_INTAPI_NAME_PREFIX : List UInt8

namespace SockNode

variable (strings : PathStrings)

/-- `s_CLIENTAPI_LOCAL`. -/
def s_CLIENTAPI_LOCAL : List UInt8 :=
  strings.SOCKET_LOC_CLIENT_DIR ++ strings.LOC_CLIENT_NAME_PREFIX

/-- `s_INTAPI_LOCAL`. -/
def s_INTAPI_LOCAL : List UInt8 := strings.SOCKET_LOC_CLIENT_DIR ++ strings.LOC_INTAPI_NAME_PREFIX

/-- `sEAP`. -/
def sEAP : List UInt8 := strings.EAP_LOC_CLIENT_DIR ++ strings.LOC_CLIENT_NAME_PREFIX

/-- `getNodeType`. -/
def getNodeType (node : SockNode) : NodeType :=
  if node.mNodePathnamePrefix.take strings.SOCKET_LOC_CLIENT_DIR.length =
      strings.SOCKET_LOC_CLIENT_DIR then .Local
  else if node.mNodePathnamePrefix.take (sEAP strings).length = sEAP strings then .Eap
  else .Other

/-- `ClientType`. -/
inductive ClientType
  | LOCATION_CLIENT_API
  | LOCATION_INTEGRATION_API
  deriving DecidableEq, Repr

/-- `MAX_PROGRAM_NAME_LENGTH`. -/
def maxProgramNameLength : Nat := 32

/-- What is taken of `getprogname()`. -/
def programName (progName : Option (List UInt8)) : List UInt8 :=
  (progName.getD []).take maxProgramNameLength

/-- `getSockNodeLocalPrefix`. -/
def getSockNodeLocalPrefix (progName : Option (List UInt8)) (type : ClientType) : List UInt8 :=
  match type with
  | .LOCATION_CLIENT_API => s_CLIENTAPI_LOCAL strings ++ 95 :: programName progName
  | .LOCATION_INTEGRATION_API => s_INTAPI_LOCAL strings ++ 95 :: programName progName

/-- `getSockNodeEapPrefix`. -/
def getSockNodeEapPrefix (progName : Option (List UInt8)) : List UInt8 :=
  sEAP strings ++ 95 :: programName progName

/-- `SockNodeLocal`. -/
def sockNodeLocal (progName : Option (List UInt8)) (type : ClientType) (pid tid : Int32) :
    SockNode := ⟨pid, tid, getSockNodeLocalPrefix strings progName type⟩

/-- `SockNodeEap`. -/
def sockNodeEap (progName : Option (List UInt8)) (service instance_ : Int32) : SockNode :=
  ⟨service, instance_, getSockNodeEapPrefix strings progName⟩

/-! ## Back to the second dot -/

theorem countBack_of_no_dot {s : List UInt8} {count k n : Nat} (hkn : k ≤ n)
    (hno : ∀ i, k ≤ i → i < n → s.getD i 0 ≠ dot) (hcount : count < 2) :
    countBack s count n = countBack s count k := by
  induction n with
  | zero => rw [Nat.le_zero.mp hkn]
  | succ n ih =>
    by_cases hk : k = n + 1
    · rw [hk]
    · rw [countBack, if_pos hcount, if_neg (hno n (by omega) (Nat.lt_succ_self n))]
      exact ih (by omega) fun i hi hlt => hno i hi (by omega)

theorem countBack_dot {s : List UInt8} {count k : Nat} (hdot : s.getD k 0 = dot)
    (hcount : count < 2) : countBack s count (k + 1) = countBack s (count + 1) k := by
  rw [countBack, if_pos hcount, if_pos hdot]

theorem countBack_two (s : List UInt8) (n : Nat) : countBack s 2 n = (2, n) := by
  cases n with
  | zero => rfl
  | succ n => rw [countBack, if_neg (by decide)]

theorem getD_ne_dot {s : List UInt8} (h : dot ∉ s) (i : Nat) : s.getD i 0 ≠ dot := by
  rw [List.getD_eq_getElem?_getD]
  cases hi : s[i]? with
  | none => decide
  | some b => exact fun hb => h (hb ▸ List.mem_of_getElem? hi)

/-- Going back from the end, or from the zero byte after it, over two parts without dots. -/
theorem countBack_two_parts {front a b : List UInt8} (ha : dot ∉ a) (hb : dot ∉ b) {n : Nat}
    (hn : (front ++ dot :: a ++ dot :: b).length ≤ n) :
    countBack (front ++ dot :: a ++ dot :: b) 0 n = (2, front.length) := by
  -- in the whole path, each dot comes where its part begins
  have hsplit : ∀ {l m : List UInt8} (i : Nat), (l ++ m).getD (l.length + i) 0 = m.getD i 0 := by
    intro l m i
    rw [List.getD_append_right _ _ _ _ (by omega), Nat.add_sub_cancel_left]
  have hlen : (front ++ dot :: a).length = front.length + (a.length + 1) := by
    rw [List.length_append, List.length_cons]
  have hback : ∀ i, front.length + (a.length + 1) + 1 ≤ i → i < n →
      (front ++ dot :: a ++ dot :: b).getD i 0 ≠ dot := by
    intro i hi _
    obtain ⟨j, rfl⟩ := Nat.exists_eq_add_of_le hi
    rw [Nat.add_assoc, ← hlen, hsplit, Nat.add_comm, List.getD_cons_succ]
    exact getD_ne_dot hb j
  have hmiddle : ∀ i, front.length + 1 ≤ i → i < front.length + (a.length + 1) →
      (front ++ dot :: a ++ dot :: b).getD i 0 ≠ dot := by
    intro i hi hlt
    obtain ⟨j, rfl⟩ := Nat.exists_eq_add_of_le hi
    rw [List.append_assoc, Nat.add_assoc, hsplit, Nat.add_comm, List.cons_append,
      List.getD_cons_succ, List.getD_append _ _ _ _ (by omega)]
    exact getD_ne_dot ha j
  have hsecond : (front ++ dot :: a ++ dot :: b).getD (front.length + (a.length + 1)) 0 = dot := by
    rw [← hlen]
    exact hsplit 0
  have hfirst : (front ++ dot :: a ++ dot :: b).getD front.length 0 = dot := by
    rw [List.append_assoc]
    exact hsplit 0
  rw [List.length_append, hlen, List.length_cons] at hn
  rw [countBack_of_no_dot (by omega) hback (by decide), countBack_dot hsecond (by decide),
    countBack_of_no_dot (by omega) hmiddle (by decide), countBack_dot hfirst (by decide),
    countBack_two]

/-! ## The round trip -/

theorem dot_notMem_ofInt (x : Int) : dot ∉ ofInt x := by
  intro h
  rcases mem_ofInt h with h | h
  · exact absurd h (by decide)
  · exact absurd h (by decide)

theorem zero_notMem_ofInt (x : Int) : 0 ∉ ofInt x := by
  intro h
  rcases mem_ofInt h with h | h
  · exact absurd h (by decide)
  · exact absurd h (by decide)

/-- The numbers of a path are scanned. -/
theorem sscanf_ids (id1 id2 init1 init2 : Int32) :
    sscanf (ofInt id1.toInt ++ dot :: ofInt id2.toInt) init1 init2 = (id1, id2) := by
  have hdot : Ends (dot :: ofInt id2.toInt) := by
    intro b hb
    obtain rfl : dot = b := by simpa using hb
    decide
  have hend : Ends [] := by
    intro b hb
    cases hb
  have hsecond : scanInt (ofInt id2.toInt) = some (id2.toInt, []) := by
    simpa using scanInt_ofInt id2.toInt hend
  unfold sscanf
  simp only [scanInt_ofInt _ hdot, List.head?_cons, List.tail_cons, hsecond, if_true,
    Int32.ofInt_toInt]

/-- **What is found in a path**, from its end or from the zero byte after it. -/
theorem getId1Id2_pathname (node : SockNode) {length : Int32} (init1 init2 : Int32)
    (hlength : node.getNodePathname.length ≤
      ((if length < 0 then Int32.ofInt ((strlen node.getNodePathname : Int) - 1)
        else length).toInt + 1).toNat) :
    getId1Id2 (some node.getNodePathname) length init1 init2 =
      (node.mNodePathnamePrefix.length, node.mId1, node.mId2) := by
  unfold getId1Id2
  simp only [Option.getD_some]
  rw [show countBack node.getNodePathname 0 _ = _ from
    countBack_two_parts (dot_notMem_ofInt _) (dot_notMem_ofInt _) hlength]
  have hdrop : node.getNodePathname.drop (node.mNodePathnamePrefix.length + 1) =
      ofInt node.mId1.toInt ++ dot :: ofInt node.mId2.toInt := by
    rw [getNodePathname, List.append_assoc, List.drop_append, List.drop_of_length_le (by omega),
      Nat.add_sub_cancel_left]
    rfl
  simp only [if_true, hdrop, sscanf_ids]

theorem createAt_pathname (node : SockNode) {length : Int32}
    (hlength : node.getNodePathname.length ≤
      ((if length < 0 then Int32.ofInt ((strlen node.getNodePathname : Int) - 1)
        else length).toInt + 1).toNat) :
    createAt (some node.getNodePathname) length = node := by
  unfold createAt
  simp only [getId1Id2_pathname node _ _ hlength, Option.getD_some]
  rw [getNodePathname, List.append_assoc, List.take_left']
  rfl

theorem create_pathname {node : SockNode} (hfits : node.getNodePathname.length < 2 ^ 31) :
    create node.getNodePathname = node := by
  have hint : (Int32.ofNat node.getNodePathname.length).toInt = node.getNodePathname.length :=
    Int32.toInt_ofNat_of_lt hfits
  have hpos : ¬ Int32.ofNat node.getNodePathname.length < 0 := by
    rw [Int32.lt_iff_toInt_lt, hint]
    simp
  refine createAt_pathname node ?_
  rw [if_neg hpos, hint]
  omega

/-- The overload without a length looks for the zero byte. -/
theorem createAt_pathname_of_noNul {node : SockNode}
    (hfits : node.getNodePathname.length < 2 ^ 31) (hnul : 0 ∉ node.mNodePathnamePrefix) :
    createAt (some node.getNodePathname) (-1) = node := by
  have hall : 0 ∉ node.getNodePathname := by
    simp [getNodePathname, hnul, zero_notMem_ofInt, dot]
  have hstrlen : strlen node.getNodePathname = node.getNodePathname.length := by
    rw [strlen, List.takeWhile_eq_self_iff.mpr]
    intro b hb
    simpa using fun h : b = 0 => hall (h ▸ hb)
  have hpos : 0 < node.getNodePathname.length := by simp [getNodePathname]
  refine createAt_pathname node ?_
  rw [if_pos (by decide), hstrlen, Int32.toInt_ofInt_of_le (by omega) (by omega)]
  omega

/-- **The round trip of a path.**  The node that is made of a node's path is that node, of the
same type; and nodes with other numbers have other paths. -/
theorem sock_node_round_trip (strings : PathStrings) (node : SockNode)
    (hfits : node.getNodePathname.length < 2 ^ 31) :
    create node.getNodePathname = node ∧
      (0 ∉ node.mNodePathnamePrefix → createAt (some node.getNodePathname) (-1) = node) ∧
      (create node.getNodePathname).getNodeType strings = node.getNodeType strings ∧
      ∀ other : SockNode, (other.mId1, other.mId2) ≠ (node.mId1, node.mId2) →
        other.getNodePathname ≠ node.getNodePathname := by
  have hcreate := create_pathname hfits
  refine ⟨hcreate, createAt_pathname_of_noNul hfits, by rw [hcreate], ?_⟩
  intro other hids heq
  have hother : create other.getNodePathname = other := create_pathname (by rw [heq]; exact hfits)
  rw [heq, hcreate] at hother
  exact hids (by rw [hother])

/-- A client's node, whose type is not `Other`, at a negative number. -/
def sampleStrings : PathStrings := ⟨[47, 108, 46, 100, 47], [47, 101, 47], [99], [105]⟩
def sampleNode : SockNode :=
  sockNodeLocal sampleStrings (some [97, 46, 98]) .LOCATION_CLIENT_API (-2147483648) 7

theorem sock_node_round_trip_sample :
    create sampleNode.getNodePathname = sampleNode ∧
      (create sampleNode.getNodePathname).getNodeType sampleStrings = .Local := by
  obtain ⟨hcreate, -, htype, -⟩ := sock_node_round_trip sampleStrings sampleNode (by decide)
  exact ⟨hcreate, htype.trans (by decide)⟩

/-! ## The nodes of clients -/

/-- `MAX_SOCKET_PATHNAME_LENGTH`. -/
def maxSocketPathnameLength : Nat := 128

/-- None of the strings is longer than a path may be. -/
structure Short (strings : PathStrings) : Prop where
  local_dir : strings.SOCKET_LOC_CLIENT_DIR.length ≤ maxSocketPathnameLength
  eap_dir : strings.EAP_LOC_CLIENT_DIR.length ≤ maxSocketPathnameLength
  client_name : strings.LOC_CLIENT_NAME_PREFIX.length ≤ maxSocketPathnameLength
  intapi_name : strings.LOC_INTAPI_NAME_PREFIX.length ≤ maxSocketPathnameLength

/-- The nodes that clients construct. -/
inductive Constructed (strings : PathStrings) : SockNode → Prop
  | localNode (progName : Option (List UInt8)) (type : ClientType) (pid tid : Int32) :
      Constructed strings (sockNodeLocal strings progName type pid tid)
  | eapNode (progName : Option (List UInt8)) (service instance_ : Int32) :
      Constructed strings (sockNodeEap strings progName service instance_)

theorem ofInt_length_le (id : Int32) : (ofInt id.toInt).length ≤ 11 := by
  have hlo := id.le_toInt
  have hhi := id.toInt_lt
  have hdigits : (ofNat id.toInt.natAbs).length ≤ 10 :=
    ofNat_length_le (by decide) (by norm_num; omega)
  unfold ofInt
  split
  · rw [List.length_cons]
    omega
  · omega

/-- **The paths of clients' nodes** are short enough. -/
theorem Constructed.fits {strings : PathStrings} (hshort : Short strings) {node : SockNode}
    (h : Constructed strings node) : node.getNodePathname.length < 2 ^ 31 := by
  obtain ⟨h1, h2, h3, h4⟩ := hshort
  have hid1 := ofInt_length_le node.mId1
  have hid2 := ofInt_length_le node.mId2
  have hprog : ∀ progName, (programName progName).length ≤ 32 := fun progName =>
    List.length_take_le _ _
  have hprefix : node.mNodePathnamePrefix.length ≤ 289 := by
    unfold maxSocketPathnameLength at *
    cases h with
    | localNode progName type pid tid =>
      have := hprog progName
      cases type <;>
        simp only [sockNodeLocal, getSockNodeLocalPrefix, s_CLIENTAPI_LOCAL, s_INTAPI_LOCAL,
          List.length_append, List.length_cons] <;> omega
    | eapNode progName service instance_ =>
      have := hprog progName
      simp only [sockNodeEap, getSockNodeEapPrefix, sEAP, List.length_append, List.length_cons]
      omega
  simp only [getNodePathname, List.length_append, List.length_cons]
  omega

end SockNode
end Ipc
end LocationStack
