import LocationStack.Config.ConfigFile
import Mathlib.Tactic.Common

/-! # The URLs of XTRA

A client that enables XTRA names servers to download from and servers to take the time from.  Each
URL is looked at by a scan written by hand: `ntpUrlHasPortNum` goes backwards over the digits at the
end, and `isValidUrl` takes the spaces off both ends, compares eight characters and goes forwards
from the first colon behind them.

Each answers 0 for an empty URL, 1 for a valid one and -1 for any other.  The strings are bytes, of
which some may be zero, and are shorter than an `int` can tell.
-/
namespace LocationStack.Integration

open Config (isspace)

/-- `c >= '0' && c <= '9'` -/
def isPortDigit (c : UInt8) : Bool := 48 ≤ c && c ≤ 57

def colon : UInt8 := 58
def slash : UInt8 := 47

/-- `"https://"` -/
def httpsScheme : List UInt8 := [104, 116, 116, 112, 115, 58, 47, 47]

/-! ## The code -/

/-- The loop of `ntpUrlHasPortNum`: the index that it leaves. -/
def ntpScan (ntpURL : List UInt8) : Nat → Nat
  | 0 => 0
  | index + 1 =>
    if 5 < index + 1 ∧ isPortDigit (ntpURL.getD (index + 1) 0) = true then ntpScan ntpURL index
    else index + 1

def ntpUrlHasPortNum (ntpURL : List UInt8) (length : Nat) : Int :=
  if length = 0 then 0
  else
    let index := ntpScan ntpURL (length - 1)
    if 5 ≤ index ∧ index < length - 1 ∧ ntpURL.getD index 0 = colon then 1 else -1

/-- `while (++startPos < endPos && isspace(url[startPos]));` -/
def startScan : List UInt8 → Nat
  | [] => 0
  | c :: url => if isspace c then startScan url + 1 else 0

/-- `while (--endPos >= 0 && isspace(url[endPos]));` -/
def endScan (url : List UInt8) : Nat → Int
  | 0 => -1
  | endPos + 1 => if isspace (url.getD endPos 0) then endScan url endPos else endPos

/-- `url.substr(pos, n)`; a length below zero is a very large one. -/
def substr (url : List UInt8) (pos : Nat) (n : Int) : List UInt8 :=
  if n < 0 then url.drop pos else (url.drop pos).take n.toNat

def trimUrl (url : List UInt8) : List UInt8 :=
  let startPos := startScan url
  let endPos := endScan url url.length
  substr url startPos (endPos - startPos + 1)

/-- `tolower` -/
def lowercase (c : UInt8) : UInt8 := if 65 ≤ c ∧ c ≤ 90 then c + 32 else c

/-- `strncasecmp(url, "https://", 8) == 0` -/
def startsWithHttps (url : List UInt8) : Bool :=
  (url.take httpsScheme.length).map lowercase == httpsScheme

def isValidUrl (url : List UInt8) : Int :=
  if url.length = 0 then 0
  else
    let trimmed := trimUrl url
    if trimmed.length = 0 then -1
    else if !startsWithHttps trimmed then -1
    else
      let hostname := trimmed.drop httpsScheme.length
      -- from the first colon on
      match hostname.dropWhile (· ≠ colon) with
      | [] => -1
      | _ :: port => if port.all isPortDigit then 1 else -1

/-- `url.substr(0, url.rfind('/'))`; without a slash it is all of the URL. -/
def beforeLastSlash (url : List UInt8) : List UInt8 :=
  let upToSlash := url.rdropWhile (· ≠ slash)
  if upToSlash = [] then url else upToSlash.dropLast

def isValidXtraUrl (url : List UInt8) : Int := isValidUrl (beforeLastSlash url)

/-! ## The time servers -/

/-- **A URL of a time server**: at least five characters, a colon and digits. -/
def NtpUrl (url : List UInt8) : Prop :=
  ∃ host port, url = host ++ colon :: port ∧ 5 ≤ host.length ∧ port ≠ [] ∧
    ∀ c ∈ port, isPortDigit c = true

/-- The loop leaves an index behind which there are digits only; past the fifth character it stops
at none. -/
theorem ntpScan_spec (url : List UInt8) (last : Nat) :
    ntpScan url last ≤ last ∧
      (∀ i, ntpScan url last < i → i ≤ last → isPortDigit (url.getD i 0) = true) ∧
      (5 < ntpScan url last → isPortDigit (url.getD (ntpScan url last) 0) = false) := by
  induction last with
  | zero => exact ⟨Nat.le_refl 0, fun i hi hle => absurd hi (Nat.not_lt.mpr hle), nofun⟩
  | succ last ih =>
    obtain ⟨hle, hdigits, hstop⟩ := ih
    by_cases hdigit : 5 < last + 1 ∧ isPortDigit (url.getD (last + 1) 0) = true
    · rw [ntpScan, if_pos hdigit]
      refine ⟨Nat.le_succ_of_le hle, fun i hi hlast => ?_, hstop⟩
      rcases Nat.lt_succ_iff_lt_or_eq.mp (Nat.lt_succ_of_le hlast) with hlt | rfl
      · exact hdigits i hi (Nat.le_of_lt_succ hlt)
      · exact hdigit.2
    · rw [ntpScan, if_neg hdigit]
      refine ⟨Nat.le_refl _, fun i hi hlast => absurd hi (Nat.not_lt.mpr hlast), fun hfive => ?_⟩
      exact Bool.not_eq_true _ ▸ fun h => hdigit ⟨hfive, h⟩

theorem isPortDigit_colon : isPortDigit colon = false := by decide

/-- In a URL of a time server the loop stops at the colon. -/
theorem ntpScan_eq {host port : List UInt8} (hhost : 5 ≤ host.length)
    (hport : ∀ c ∈ port, isPortDigit c = true) :
    ntpScan (host ++ colon :: port) (host.length + port.length) = host.length := by
  obtain ⟨hle, hdigits, hstop⟩ :=
    ntpScan_spec (host ++ colon :: port) (host.length + port.length)
  generalize ntpScan (host ++ colon :: port) (host.length + port.length) = index at *
  rcases Nat.lt_trichotomy index host.length with hlt | heq | hgt
  · have hcolon := hdigits host.length hlt (Nat.le_add_right _ _)
    simp [isPortDigit_colon] at hcolon
  · exact heq
  · have hdigit : isPortDigit ((host ++ colon :: port).getD index 0) = true := by
      obtain ⟨k, rfl⟩ : ∃ k, index = host.length + (k + 1) :=
        ⟨index - host.length - 1, by omega⟩
      have hk : k < port.length := by omega
      have hget : (host ++ colon :: port).getD (host.length + (k + 1)) 0 = port[k] := by
        simp [hk]
      rw [hget]
      exact hport _ (List.getElem_mem hk)
    rw [hstop (Nat.lt_of_le_of_lt hhost hgt)] at hdigit
    exact nomatch hdigit

theorem ntpUrlHasPortNum_eq_one_iff (url : List UInt8) :
    ntpUrlHasPortNum url url.length = 1 ↔ NtpUrl url := by
  constructor
  · intro h
    unfold ntpUrlHasPortNum at h
    split at h
    · exact nomatch h
    · dsimp only at h
      obtain ⟨_, hdigits, _⟩ := ntpScan_spec url (url.length - 1)
      generalize ntpScan url (url.length - 1) = index at h hdigits
      split at h
      case isFalse => exact nomatch h
      case isTrue hcolon =>
        obtain ⟨hfive, hlast, hcolon⟩ := hcolon
        have hindex : index < url.length := by omega
        refine ⟨url.take index, url.drop (index + 1), ?_, ?_, ?_, ?_⟩
        · have hget : url[index] = colon := by simpa [hindex] using hcolon
          rw [← hget, ← List.drop_eq_getElem_cons hindex, List.take_append_drop]
        · rw [List.length_take]
          omega
        · intro hnil
          have := List.drop_eq_nil_iff.mp hnil
          omega
        · intro c hc
          obtain ⟨k, hk, rfl⟩ := List.mem_iff_getElem.mp hc
          rw [List.length_drop] at hk
          have hdigit := hdigits (index + 1 + k) (by omega) (by omega)
          rw [List.getElem_drop]
          simpa [show index + 1 + k < url.length by omega] using hdigit
  · rintro ⟨host, port, rfl, hhost, hport, hdigits⟩
    have hpos := List.length_pos_of_ne_nil hport
    have hlength : (host ++ colon :: port).length - 1 = host.length + port.length := by
      rw [List.length_append, List.length_cons]
      omega
    have hne : (host ++ colon :: port).length ≠ 0 := by simp
    simp only [ntpUrlHasPortNum, if_neg hne, hlength, ntpScan_eq hhost hdigits]
    rw [if_pos ⟨hhost, by omega, by simp⟩]

/-! ## Spaces -/

/-- A URL without the spaces around it. -/
def withoutSpaces (url : List UInt8) : List UInt8 :=
  (url.dropWhile isspace).rdropWhile isspace

theorem drop_startScan (url : List UInt8) : url.drop (startScan url) = url.dropWhile isspace := by
  induction url with
  | nil => rfl
  | cons c url ih =>
    rw [startScan, List.dropWhile_cons]
    split
    · rw [List.drop_succ_cons, ih]
    · rfl

/-- The end is one below the length of what is left without the spaces at the end. -/
theorem endScan_eq {url : List UInt8} {n : Nat} (hn : n ≤ url.length) :
    endScan url n = ((url.take n).rdropWhile isspace).length - 1 := by
  induction n with
  | zero => simp [endScan]
  | succ n ih =>
    have hlt : n < url.length := hn
    have hget : url.getD n 0 = url[n] := by simp [hlt]
    rw [endScan, hget, List.take_succ_eq_append_getElem hlt, List.rdropWhile_concat]
    split
    · exact ih (Nat.le_of_lt hlt)
    · rw [List.length_append, List.length_take, Nat.min_eq_left (Nat.le_of_lt hlt),
        List.length_singleton]
      omega

/-- Where something is not a space, the spaces at the end are behind it. -/
theorem rdropWhile_append_of_ne_nil {l t : List UInt8} (h : t.rdropWhile isspace ≠ []) :
    (l ++ t).rdropWhile isspace = l ++ t.rdropWhile isspace := by
  have hempty : (t.reverse.dropWhile isspace).isEmpty = false := by
    rw [List.isEmpty_eq_false_iff]
    simpa [List.rdropWhile] using h
  simp [List.rdropWhile, List.dropWhile_append, hempty]

/-- What begins with no space is not all spaces. -/
theorem rdropWhile_dropWhile_ne_nil {url : List UInt8} (h : url.dropWhile isspace ≠ []) :
    (url.dropWhile isspace).rdropWhile isspace ≠ [] := by
  intro hall
  have hspace := List.rdropWhile_eq_nil_iff.mp hall _ (List.head_mem h)
  exact absurd hspace (by simpa using List.head_dropWhile_not isspace h)

/-- **Both scans** take the spaces off, and nothing else. -/
theorem trimUrl_eq (url : List UInt8) : trimUrl url = withoutSpaces url := by
  have hend := endScan_eq (Nat.le_refl url.length)
  rw [List.take_length] at hend
  simp only [trimUrl, substr, hend, drop_startScan, withoutSpaces]
  by_cases hrest : url.dropWhile isspace = []
  · simp [hrest]
  · have hne := rdropWhile_dropWhile_ne_nil hrest
    have hstart : startScan url ≤ url.length := by
      refine Nat.le_of_not_lt fun hlt => hrest ?_
      rw [← drop_startScan]
      exact List.drop_eq_nil_of_le (Nat.le_of_lt hlt)
    have hlength : (url.rdropWhile isspace).length =
        startScan url + ((url.dropWhile isspace).rdropWhile isspace).length := by
      conv_lhs => rw [← List.take_append_drop (startScan url) url, drop_startScan]
      rw [rdropWhile_append_of_ne_nil hne, List.length_append, List.length_take,
        Nat.min_eq_left hstart]
    have hcount : ((url.rdropWhile isspace).length : Int) - 1 - startScan url + 1 =
        (((url.dropWhile isspace).rdropWhile isspace).length : Int) := by
      rw [hlength]
      omega
    rw [hcount, if_neg (by omega), Int.toNat_natCast]
    exact (List.prefix_iff_eq_take.mp (List.rdropWhile_prefix _ _)).symm

/-! ## The servers to download from -/

/-- The parts of a URL: `https://`, a host without a colon, a colon and digits. -/
structure HttpsParts (url scheme host port : List UInt8) : Prop where
  url_eq : url = scheme ++ (host ++ colon :: port)
  scheme_eq : scheme.map lowercase = httpsScheme
  host_colon : colon ∉ host
  port_digits : ∀ c ∈ port, isPortDigit c = true

/-- **A URL of a server**: each part is there. -/
def HttpsUrl (url : List UInt8) : Prop :=
  ∃ scheme host port, HttpsParts url scheme host port ∧ host ≠ [] ∧ port ≠ []

/-- A URL with a part that is not there. -/
def PartMissing (url : List UInt8) : Prop :=
  ∃ scheme host port, HttpsParts url scheme host port ∧ (host = [] ∨ port = [])

theorem head_of_dropWhile_eq_cons {p : UInt8 → Bool} {l rest : List UInt8} {c : UInt8}
    (h : l.dropWhile p = c :: rest) : p c = false := by
  induction l with
  | nil => exact nomatch h
  | cons a l ih =>
    rw [List.dropWhile_cons] at h
    split at h
    case isTrue => exact ih h
    case isFalse ha =>
      cases h
      simpa using ha

theorem dropWhile_host {host port : List UInt8} (hhost : colon ∉ host) :
    (host ++ colon :: port).dropWhile (· ≠ colon) = colon :: port := by
  rw [List.dropWhile_append_of_pos]
  · simp
  · intro c hc
    have hne : c ≠ colon := fun heq => hhost (heq ▸ hc)
    simpa using hne

theorem takeWhile_host {host port : List UInt8} (hhost : colon ∉ host) :
    (host ++ colon :: port).takeWhile (· ≠ colon) = host := by
  rw [List.takeWhile_append_of_pos]
  · simp
  · intro c hc
    have hne : c ≠ colon := fun heq => hhost (heq ▸ hc)
    simpa using hne

theorem HttpsParts.scheme_length {url scheme host port : List UInt8}
    (h : HttpsParts url scheme host port) : scheme.length = httpsScheme.length := by
  rw [← h.scheme_eq, List.length_map]

/-- A URL has its parts in one way. -/
theorem HttpsParts.unique {url scheme host port scheme' host' port' : List UInt8}
    (h : HttpsParts url scheme host port) (h' : HttpsParts url scheme' host' port') :
    host = host' ∧ port = port' := by
  have hlength := h.scheme_length.trans h'.scheme_length.symm
  have hrest := (List.append_inj (h.url_eq.symm.trans h'.url_eq) hlength).2
  have hhost := congrArg (List.takeWhile (· ≠ colon)) hrest
  have hport := congrArg (List.dropWhile (· ≠ colon)) hrest
  rw [takeWhile_host h.host_colon, takeWhile_host h'.host_colon] at hhost
  rw [dropWhile_host h.host_colon, dropWhile_host h'.host_colon] at hport
  exact ⟨hhost, (List.cons.inj hport).2⟩

/-- The scan behind the scheme. -/
theorem isValidUrl_of_ne_nil {url : List UInt8} (hurl : url ≠ []) :
    isValidUrl url =
      if startsWithHttps (withoutSpaces url) then
        match ((withoutSpaces url).drop httpsScheme.length).dropWhile (· ≠ colon) with
        | [] => -1
        | _ :: port => if port.all isPortDigit then 1 else -1
      else -1 := by
  have hlength : url.length ≠ 0 := fun h => hurl (List.eq_nil_of_length_eq_zero h)
  simp only [isValidUrl, if_neg hlength, trimUrl_eq]
  by_cases hempty : (withoutSpaces url).length = 0
  · rw [if_pos hempty, List.eq_nil_of_length_eq_zero hempty]
    rfl
  · rw [if_neg hempty]
    cases startsWithHttps (withoutSpaces url) <;> rfl

/-- **What is let in**: the parts of a URL, whether or not something is in them. -/
theorem isValidUrl_eq_one_iff (url : List UInt8) :
    isValidUrl url = 1 ↔ ∃ scheme host port, HttpsParts (withoutSpaces url) scheme host port := by
  constructor
  · intro h
    have hurl : url ≠ [] := by
      rintro rfl
      exact nomatch h
    rw [isValidUrl_of_ne_nil hurl] at h
    split at h
    case isFalse => exact nomatch h
    case isTrue hscheme =>
      split at h
      case h_1 => exact nomatch h
      case h_2 c port hcolon =>
        split at h
        case isFalse => exact nomatch h
        case isTrue hdigits =>
          obtain rfl : c = colon := by simpa using head_of_dropWhile_eq_cons hcolon
          refine ⟨(withoutSpaces url).take httpsScheme.length,
            ((withoutSpaces url).drop httpsScheme.length).takeWhile (· ≠ colon), port, ?_, ?_, ?_,
            List.all_eq_true.mp hdigits⟩
          · rw [← hcolon, List.takeWhile_append_dropWhile, List.take_append_drop]
          · exact beq_iff_eq.mp hscheme
          · intro hmem
            simpa using List.mem_takeWhile_imp hmem
  · rintro ⟨scheme, host, port, h⟩
    have hurl : url ≠ [] := by
      rintro rfl
      have hnil := h.url_eq
      simp [withoutSpaces] at hnil
    have hdrop : (withoutSpaces url).drop httpsScheme.length = host ++ colon :: port := by
      rw [h.url_eq, ← h.scheme_length, List.drop_left]
    have htake : (withoutSpaces url).take httpsScheme.length = scheme := by
      rw [h.url_eq, ← h.scheme_length, List.take_left]
    have hstarts : startsWithHttps (withoutSpaces url) = true := by
      rw [startsWithHttps, htake, h.scheme_eq, beq_self_eq_true]
    rw [isValidUrl_of_ne_nil hurl, if_pos hstarts, hdrop, dropWhile_host h.host_colon]
    exact if_pos (List.all_eq_true.mpr h.port_digits)

theorem isValidUrl_of_ne_nil_cases {url : List UInt8} (hurl : url ≠ []) :
    isValidUrl url = 1 ∨ isValidUrl url = -1 := by
  rw [isValidUrl_of_ne_nil hurl]
  split
  · split
    · exact .inr rfl
    · split
      · exact .inl rfl
      · exact .inr rfl
  · exact .inr rfl

theorem isValidUrl_eq_zero_iff (url : List UInt8) : isValidUrl url = 0 ↔ url = [] := by
  constructor
  · intro h
    by_contra hurl
    rcases isValidUrl_of_ne_nil_cases hurl with h' | h' <;> omega
  · rintro rfl
    rfl

/-- **What an answer should tell**: 1 for a valid string, 0 for an empty one, -1 for any other. -/
structure Tells (answer : Int) (valid empty : Prop) : Prop where
  one_iff : answer = 1 ↔ valid
  zero_iff : answer = 0 ↔ empty
  other : answer = 1 ∨ answer = 0 ∨ answer = -1

theorem ntpUrlHasPortNum_tells (url : List UInt8) :
    Tells (ntpUrlHasPortNum url url.length) (NtpUrl url) (url = []) where
  one_iff := ntpUrlHasPortNum_eq_one_iff url
  zero_iff := by
    unfold ntpUrlHasPortNum
    constructor
    · intro h
      split at h
      case isTrue hlength => exact List.eq_nil_of_length_eq_zero hlength
      case isFalse =>
        dsimp only at h
        split at h <;> exact nomatch h
    · rintro rfl
      rfl
  other := by
    unfold ntpUrlHasPortNum
    dsimp only
    split
    · exact .inr (.inl rfl)
    · split
      · exact .inl rfl
      · exact .inr (.inr rfl)

/-- `isValidUrl` tells what it should exactly if no part is missing that the scan steps over. -/
theorem isValidUrl_tells_iff (url : List UInt8) :
    Tells (isValidUrl url) (HttpsUrl (withoutSpaces url)) (url = []) ↔
      ¬PartMissing (withoutSpaces url) := by
  constructor
  · rintro ⟨hone, _, _⟩ ⟨scheme, host, port, hparts, hmissing⟩
    have hlet := (isValidUrl_eq_one_iff url).mpr ⟨scheme, host, port, hparts⟩
    obtain ⟨scheme', host', port', hparts', hhost, hport⟩ := hone.mp hlet
    obtain ⟨rfl, rfl⟩ := hparts.unique hparts'
    rcases hmissing with h | h
    · exact hhost h
    · exact hport h
  · intro hnone
    refine ⟨?_, isValidUrl_eq_zero_iff url, ?_⟩
    · rw [isValidUrl_eq_one_iff]
      constructor
      · rintro ⟨scheme, host, port, hparts⟩
        refine ⟨scheme, host, port, hparts, fun h => ?_, fun h => ?_⟩
        · exact hnone ⟨scheme, host, port, hparts, .inl h⟩
        · exact hnone ⟨scheme, host, port, hparts, .inr h⟩
      · rintro ⟨scheme, host, port, hparts, _⟩
        exact ⟨scheme, host, port, hparts⟩
    · by_cases hurl : url = []
      · exact .inr (.inl ((isValidUrl_eq_zero_iff url).mpr hurl))
      · rcases isValidUrl_of_ne_nil_cases hurl with h | h
        · exact .inl h
        · exact .inr (.inr h)

/-! ## The part before the file -/

/-- A slash, and none behind it. -/
def OnlySlash (url : List UInt8) : Prop := ∃ file, url = slash :: file ∧ slash ∉ file

theorem beforeLastSlash_eq_nil_iff (url : List UInt8) :
    beforeLastSlash url = [] ↔ url = [] ∨ OnlySlash url := by
  have hsplit := @List.rdropWhile_append_rtakeWhile _ (· ≠ slash) url
  have hfile : slash ∉ url.rtakeWhile (· ≠ slash) := fun hmem => by
    simpa using List.mem_rtakeWhile_imp hmem
  have hlast := List.rdropWhile_last_not (· ≠ slash) url
  unfold beforeLastSlash
  generalize url.rdropWhile (· ≠ slash) = upToSlash at hsplit hlast
  generalize url.rtakeWhile (· ≠ slash) = file at hsplit hfile
  subst hsplit
  cases upToSlash with
  | nil =>
    simp only [if_true, List.nil_append]
    constructor
    · exact .inl
    · rintro (hnil | ⟨rest, rfl, _⟩)
      · exact hnil
      · exact absurd List.mem_cons_self hfile
  | cons c upToSlash =>
    rw [if_neg (List.cons_ne_nil _ _)]
    cases upToSlash with
    | nil =>
      obtain rfl : c = slash :=
        not_not.mp fun hne => hlast (List.cons_ne_nil _ _) (decide_eq_true hne)
      simp only [List.dropLast_singleton, true_iff]
      exact .inr ⟨file, rfl, hfile⟩
    | cons c' upToSlash =>
      refine iff_of_false (by simp) ?_
      rintro (hnil | ⟨rest, heq, hrest⟩)
      · exact nomatch hnil
      · -- the last of two is a slash, and it is behind the first
        have hslash : (c' :: upToSlash).getLast (List.cons_ne_nil _ _) = slash :=
          not_not.mp fun hne => hlast (List.cons_ne_nil _ _) (decide_eq_true hne)
        have hmem : slash ∈ c' :: upToSlash ++ file :=
          List.mem_append_left _ (hslash ▸ List.getLast_mem _)
        rw [List.cons_append] at heq
        exact hrest ((List.cons.inj heq).2 ▸ hmem)

theorem isValidXtraUrl_eq_zero_iff (url : List UInt8) :
    isValidXtraUrl url = 0 ↔ url = [] ∨ OnlySlash url := by
  rw [isValidXtraUrl, isValidUrl_eq_zero_iff, beforeLastSlash_eq_nil_iff]

end LocationStack.Integration
