import LocationStack.Integration.XtraUrls
import LocationStack.PbConv.Xtra

/-! # The parameters of XTRA, as a client gives them

`configXtraParams` copies the parameters of a client into the structure that is sent on.  Each list
has three strings, some of them empty; those that are not are copied to the front of an array of
buffers, and their number is stored.  A URL that is not valid ends the call, and nothing is sent.

The sizes of the buffers are those of the header of the message (`PbConv.Header`).
-/
namespace LocationStack.Integration

open PbConv

/-! ## Parameters -/

/-- `XtraConfigParams` of the API; a log level of another number is `none`. -/
structure XtraApiParams where
  (xtraDownloadIntervalMinute xtraDownloadTimeoutSec : UInt32)
  (xtraDownloadRetryIntervalMinute xtraDownloadRetryAttempts : UInt32)
  xtraCaPath : List UInt8
  xtraServerURLs : Vector (List UInt8) 3
  ntpServerURLs : Vector (List UInt8) 3
  xtraIntegrityDownloadEnable : Bool
  xtraIntegrityDownloadIntervalMinute : UInt32
  xtraDaemonDebugLogLevel : Option DebugLogLevel
  ntsKeServerURL : List UInt8
  xtraDaemonDiagLoggingStatus : UInt32

def getHalLogLevel (logLevel : Option DebugLogLevel) : DebugLogLevel := logLevel.getD .none

variable {h : Header}

/-- `halConfigParams = {}` -/
def emptyXtraParams (h : Header) : XtraConfigParams h where
  xtraDownloadIntervalMinute := 0
  xtraDownloadTimeoutSec := 0
  xtraDownloadRetryIntervalMinute := 0
  xtraDownloadRetryAttempts := 0
  xtraCaPath := Vector.replicate _ 0
  xtraServerURLs := ⟨0, Vector.replicate _ (Vector.replicate _ 0)⟩
  ntpServerURLs := ⟨0, Vector.replicate _ (Vector.replicate _ 0)⟩
  ntsKeServerURL := Vector.replicate _ 0
  xtraDaemonDebugLogLevel := .none
  xtraIntegrityDownloadEnable := false
  xtraIntegrityDownloadIntervalMinute := 0
  xtraDaemonDiagLoggingStatus := 0

/-! ## The code -/

/-- The loop over a list, from an array that has `count` of its URLs; a URL with a verdict below
zero ends the call. -/
def copyServers {capacity size : Nat} (verdict : List UInt8 → Int) :
    List (List UInt8) → ServerURLs capacity size → Option (ServerURLs capacity size)
  | [], servers => some servers
  | url :: urls, servers =>
    if verdict url < 0 then none
    else if verdict url > 0 then
      let i := servers.count.toNat
      let buffer := (strlcpy (servers.data.toList.getD i (Vector.replicate _ 0)) url).value
      copyServers verdict urls ⟨servers.count + 1, servers.data.setIfInBounds i buffer⟩
    else copyServers verdict urls servers

/-- What `mApiImpl->configXtraParams` is called with; `none` if the call returns false before.  It
takes whatever it is called with. -/
def configXtraParams (enable : Bool) (configParams : Option XtraApiParams) :
    Option (Bool × XtraConfigParams h) :=
  if enable = false then some (enable, emptyXtraParams h)
  else
    match configParams with
    | none => none
    | some configParams => do
      let noRetry := configParams.xtraDownloadRetryIntervalMinute = 0 ∨
        configParams.xtraDownloadRetryAttempts = 0
      let hal := emptyXtraParams h
      let xtraServerURLs ←
        copyServers isValidXtraUrl configParams.xtraServerURLs.toList hal.xtraServerURLs
      let ntpServerURLs ← copyServers (fun url => ntpUrlHasPortNum url url.length)
        configParams.ntpServerURLs.toList hal.ntpServerURLs
      let ntsKeValidity := isValidUrl configParams.ntsKeServerURL
      if ntsKeValidity < 0 then none
      else
        some (enable,
          { xtraDownloadIntervalMinute := configParams.xtraDownloadIntervalMinute
            xtraDownloadTimeoutSec := configParams.xtraDownloadTimeoutSec
            xtraDownloadRetryIntervalMinute :=
              if noRetry then 0 else configParams.xtraDownloadRetryIntervalMinute
            xtraDownloadRetryAttempts :=
              if noRetry then 0 else configParams.xtraDownloadRetryAttempts
            xtraCaPath := (strlcpy hal.xtraCaPath configParams.xtraCaPath).value
            xtraServerURLs
            ntpServerURLs
            ntsKeServerURL :=
              if ntsKeValidity > 0 then
                (strlcpy hal.ntsKeServerURL configParams.ntsKeServerURL).value
              else hal.ntsKeServerURL
            xtraDaemonDebugLogLevel := getHalLogLevel configParams.xtraDaemonDebugLogLevel
            xtraIntegrityDownloadEnable := configParams.xtraIntegrityDownloadEnable
            xtraIntegrityDownloadIntervalMinute :=
              if configParams.xtraIntegrityDownloadEnable then
                configParams.xtraIntegrityDownloadIntervalMinute
              else 0
            xtraDaemonDiagLoggingStatus := configParams.xtraDaemonDiagLoggingStatus })

/-! ## Copies -/

/-- What a buffer of a size keeps of a string. -/
def keptOf (size : Nat) (url : List UInt8) : List UInt8 := (PbConv.cString url).take (size - 1)

/-- **A string that does not fit** is cut. -/
theorem cString_strlcpy_eq {n : Nat} (dst : Vector UInt8 n) (src : List UInt8) :
    PbConv.cString (strlcpy dst src).value.toList = keptOf n src := by
  by_cases hfits : (PbConv.cString src).length < n
  · rw [cString_strlcpy hfits, keptOf, List.take_of_length_le (by omega)]
  · rcases Nat.eq_zero_or_pos n with rfl | hn
    · have hempty : (strlcpy dst src).value.toList = [] :=
        List.eq_nil_of_length_eq_zero Vector.length_toList
      simp [keptOf, hempty, PbConv.cString]
    · have hlen : min (PbConv.cString src).length (n - 1) = n - 1 := by omega
      have hvalue : (strlcpy dst src).value = (Logged.fill (n - 1) (PbConv.cString src)
          (fun c _ => pure c) dst).value.setIfInBounds (n - 1) 0 := by
        simp only [strlcpy, hn, if_true, hlen]
        rfl
      have hkept : (keptOf n src).length = n - 1 := by
        rw [keptOf, List.length_take]
        omega
      rw [hvalue]
      refine takeWhile_eq_of_getElem (fun c hc => ?_) ?_ (fun i hi => ?_) ?_
      · simpa using List.mem_takeWhile_imp (List.mem_of_mem_take hc)
      · rw [hkept, Vector.length_toList]
        omega
      · have hi' : i < n - 1 := hkept ▸ hi
        have hlast : i < n := by omega
        have hget : (Logged.fill (n - 1) (PbConv.cString src) (fun c _ => pure c) dst).value[i] =
            if i < n - 1 then (PbConv.cString src).getD i default else dst[i] :=
          Logged.getElem_fill (Nat.sub_le n 1) dst hlast
        have hsrc : i < (PbConv.cString src).length := by omega
        simp [Nat.ne_of_gt hi', hget, hi', keptOf, hsrc]
      · simp [hkept]

/-- A string is kept if it has no zero byte and leaves room for one. -/
theorem keptOf_eq_iff {size : Nat} {url : List UInt8} :
    keptOf size url = url ↔ 0 ∉ url ∧ url.length ≤ size - 1 := by
  have hbegins : PbConv.cString url <+: url := List.takeWhile_prefix _
  constructor
  · intro h
    have hlength := congrArg List.length h
    rw [keptOf, List.length_take] at hlength
    have hall : PbConv.cString url = url := hbegins.eq_of_length (by
      have := hbegins.length_le
      omega)
    refine ⟨fun hzero => ?_, by omega⟩
    rw [← hall] at hzero
    simpa using List.mem_takeWhile_imp hzero
  · rintro ⟨hzero, hlength⟩
    have hall : PbConv.cString url = url := by
      refine List.takeWhile_eq_self_iff.mpr fun c hc => ?_
      have hne : c ≠ 0 := fun heq => hzero (heq ▸ hc)
      simpa using hne
    rw [keptOf, hall, List.take_of_length_le hlength]

/-! ## Lists -/

/-- One more name. -/
theorem toPB_push {capacity size : Nat} {servers : ServerURLs capacity size}
    (hroom : servers.count.toNat < capacity) (hcapacity : capacity < 2 ^ 31)
    (buffer : Vector UInt8 size) :
    (⟨servers.count + 1, servers.data.setIfInBounds servers.count.toNat buffer⟩ :
        ServerURLs capacity size).count.toNat = servers.count.toNat + 1 ∧
      ServerURLs.toPB (⟨servers.count + 1,
        servers.data.setIfInBounds servers.count.toNat buffer⟩ : ServerURLs capacity size) =
      ServerURLs.toPB servers ++ [PbConv.cString buffer.toList] := by
  have hcount : (servers.count + 1).toNat = servers.count.toNat + 1 := by
    rw [UInt32.toNat_add, UInt32.toNat_one, Nat.mod_eq_of_lt (by omega)]
  refine ⟨hcount, ?_⟩
  simp only [ServerURLs.toPB, addAll, hcount, List.range_succ, List.map_append, List.map_cons,
    List.map_nil]
  congr 1
  · refine List.map_congr_left fun i hi => ?_
    have hlt := List.mem_range.mp hi
    have hi' : i < capacity := Nat.lt_trans hlt hroom
    simp [hi', Nat.ne_of_gt hlt]
  · simp [hroom]

/-- **What the loop leaves**: it ends early at a URL that is not valid, and otherwise has appended
what the buffers keep of the valid ones. -/
theorem copyServers_eq {capacity size : Nat} {verdict : List UInt8 → Int}
    (urls : List (List UInt8)) {servers : ServerURLs capacity size}
    (hroom : servers.count.toNat + urls.length ≤ capacity) (hcapacity : capacity < 2 ^ 31) :
    (copyServers verdict urls servers = none ↔ ∃ url ∈ urls, verdict url < 0) ∧
      ∀ servers', copyServers verdict urls servers = some servers' →
        ServerURLs.toPB servers' = ServerURLs.toPB servers ++
          (urls.filter fun url => decide (0 < verdict url)).map (keptOf size) := by
  induction urls generalizing servers with
  | nil => simp [copyServers]
  | cons url urls ih =>
    rw [List.length_cons] at hroom
    by_cases hbad : verdict url < 0
    · simp [copyServers, hbad]
    · by_cases hgood : 0 < verdict url
      · have hspace : servers.count.toNat < capacity := by omega
        obtain ⟨hcount, hpush⟩ := toPB_push hspace hcapacity
          (strlcpy (servers.data.toList.getD servers.count.toNat (Vector.replicate _ 0)) url).value
        have hrest := @ih ⟨servers.count + 1, servers.data.setIfInBounds servers.count.toNat
          (strlcpy (servers.data.toList.getD servers.count.toNat
            (Vector.replicate _ 0)) url).value⟩ (by omega)
        rw [hpush, cString_strlcpy_eq] at hrest
        rw [copyServers, if_neg hbad, if_pos hgood]
        refine ⟨?_, fun servers' hservers' => ?_⟩
        · rw [hrest.1]
          simp [hbad]
        · rw [hrest.2 servers' hservers']
          simp [hgood]
      · have hrest := @ih servers (by omega)
        rw [copyServers, if_neg hbad, if_neg hgood]
        simpa [hbad, hgood] using hrest

/-- A loop from an empty array. -/
theorem copyServers_empty {capacity size : Nat} {verdict : List UInt8 → Int}
    (urls : Vector (List UInt8) 3) (hroom : 3 ≤ capacity) (hcapacity : capacity < 2 ^ 31) :
    (copyServers verdict urls.toList
        (⟨0, Vector.replicate _ (Vector.replicate _ 0)⟩ : ServerURLs capacity size) = none ↔
      ∃ url ∈ urls.toList, verdict url < 0) ∧
    ∀ servers : ServerURLs capacity size, copyServers verdict urls.toList
        ⟨0, Vector.replicate _ (Vector.replicate _ 0)⟩ = some servers →
      ServerURLs.toPB servers =
        (urls.toList.filter fun url => decide (0 < verdict url)).map (keptOf size) := by
  have hlength : urls.toList.length = 3 := Vector.length_toList
  exact copyServers_eq urls.toList (by simpa [hlength] using hroom) hcapacity

/-- A list that is filtered and changed is the list filtered in another way exactly if the second
filter lets nothing more in, and nothing is changed. -/
theorem map_filter_eq_filter_iff {α : Type} {p q : α → Bool} {f : α → α} {l : List α}
    (hpq : ∀ a ∈ l, p a = true → q a = true) :
    (l.filter p).map f = l.filter q ↔ ∀ a ∈ l, q a = true → p a = true ∧ f a = a := by
  have hfilter : l.filter p = (l.filter q).filter p := by
    rw [List.filter_filter]
    refine List.filter_congr fun a ha => ?_
    cases hp : p a with
    | false => rfl
    | true => simp [hpq a ha hp]
  constructor
  · intro heq a ha hqa
    have hmem := List.mem_filter.mpr ⟨ha, hqa⟩
    have hall : ∀ b ∈ l.filter q, p b = true := by
      have hlength := congrArg List.length heq
      rw [List.length_map, hfilter] at hlength
      exact List.length_filter_eq_length_iff.mp hlength
    rw [hfilter, List.filter_eq_self.mpr hall] at heq
    refine ⟨hall a hmem, ?_⟩
    exact List.map_inj_left.mp (heq.trans (List.map_id _).symm) a hmem
  · intro h
    have hall : ∀ b ∈ l.filter q, p b = true := fun b hb =>
      (h b (List.mem_of_mem_filter hb) (List.of_mem_filter hb)).1
    rw [hfilter, List.filter_eq_self.mpr hall]
    have hid : ∀ b ∈ l.filter q, f b = id b := fun b hb =>
      (h b (List.mem_of_mem_filter hb) (List.of_mem_filter hb)).2
    rw [List.map_inj_left.mpr hid, List.map_id]

/-! ## What is sent -/

/-- Some URL is not valid. -/
def SomeInvalid (params : XtraApiParams) : Prop :=
  (∃ url ∈ params.xtraServerURLs.toList, isValidXtraUrl url < 0) ∨
    (∃ url ∈ params.ntpServerURLs.toList, ntpUrlHasPortNum url url.length < 0) ∨
      isValidUrl params.ntsKeServerURL < 0

/-- **The URLs are passed on**: those of each list that are not empty, unaltered and in order, with
their number. -/
structure PassesOn (params : XtraApiParams) (sent : Bool × XtraConfigParams h) : Prop where
  enable : sent.1 = true
  xtraServerURLs : ServerURLs.toPB sent.2.xtraServerURLs =
    params.xtraServerURLs.toList.filter (· ≠ [])
  xtraServerURLsCount : sent.2.xtraServerURLs.count.toNat =
    (params.xtraServerURLs.toList.filter (· ≠ [])).length
  ntpServerURLs : ServerURLs.toPB sent.2.ntpServerURLs =
    params.ntpServerURLs.toList.filter (· ≠ [])
  ntpServerURLsCount : sent.2.ntpServerURLs.count.toNat =
    (params.ntpServerURLs.toList.filter (· ≠ [])).length
  ntsKeServerURL : PbConv.cString sent.2.ntsKeServerURL.toList = params.ntsKeServerURL

/-- What a call that enables XTRA should come to. -/
def SendsOrRefuses (h : Header) (params : XtraApiParams) : Prop :=
  ((configXtraParams true (some params) : Option (Bool × XtraConfigParams h)) = none ∧
      SomeInvalid params) ∨
    ∃ sent : Bool × XtraConfigParams h,
      configXtraParams true (some params) = some sent ∧ PassesOn params sent

/-- A URL has no zero byte and leaves room for one in a buffer. -/
def FitsBuffer (size : Nat) (url : List UInt8) : Prop := 0 ∉ url ∧ url.length ≤ size - 1

/-- The URLs are not valid, or each fits its buffer, and none of a server to download from has its
only slash in front. -/
def UrlsFit (h : Header) (params : XtraApiParams) : Prop :=
  SomeInvalid params ∨
    (∀ url ∈ params.xtraServerURLs.toList, ¬OnlySlash url ∧ FitsBuffer h.xtraServerURL url) ∧
      (∀ url ∈ params.ntpServerURLs.toList, FitsBuffer h.ntpServerURL url) ∧
        FitsBuffer h.ntsKeServerURL params.ntsKeServerURL

theorem fitsBuffer_nil (size : Nat) : FitsBuffer size [] := by
  simp [FitsBuffer]

/-- One list: it is passed on exactly if the verdict drops no URL and each fits its buffer. -/
theorem passed_on_iff {capacity size : Nat} {verdict : List UInt8 → Int}
    {dropped : List UInt8 → Prop} (hzero : ∀ url, verdict url = 0 ↔ url = [] ∨ dropped url)
    (hnil : ¬dropped []) {urls : List (List UInt8)} (hvalid : ∀ url ∈ urls, ¬verdict url < 0)
    {servers : ServerURLs capacity size} (hservers : ServerURLs.toPB servers =
      (urls.filter fun url => decide (0 < verdict url)).map (keptOf size)) :
    ServerURLs.toPB servers = urls.filter (· ≠ []) ↔
      ∀ url ∈ urls, ¬dropped url ∧ FitsBuffer size url := by
  rw [hservers, map_filter_eq_filter_iff]
  · refine forall₂_congr fun url hurl => ?_
    have hpos : 0 < verdict url ↔ verdict url ≠ 0 := by
      have := hvalid url hurl
      omega
    simp only [decide_eq_true_eq, hpos, hzero, ne_eq, not_or, keptOf_eq_iff, FitsBuffer]
    constructor
    · intro h
      by_cases hurl : url = []
      · exact ⟨hurl ▸ hnil, hurl ▸ fitsBuffer_nil size⟩
      · exact ⟨(h hurl).1.2, (h hurl).2⟩
    · rintro ⟨hdropped, hfits⟩ hurl
      exact ⟨⟨hurl, hdropped⟩, hfits⟩
  · intro url _ hpos
    have hne : verdict url ≠ 0 := Int.ne_of_gt (of_decide_eq_true hpos)
    have hurl : url ≠ [] := fun heq => hne ((hzero url).mpr (.inl heq))
    simpa using hurl

theorem ntp_zero_iff (url : List UInt8) :
    ntpUrlHasPortNum url url.length = 0 ↔ url = [] ∨ False := by
  rw [(ntpUrlHasPortNum_tells url).zero_iff, or_false]

theorem cString_zeros (size : Nat) :
    PbConv.cString (Vector.replicate size (0 : UInt8)).toList = [] := by
  cases size with
  | zero => rfl
  | succ n => simp [PbConv.cString, Vector.toList_replicate, List.replicate_succ]

/-- **What the call makes of the parameters.** -/
theorem configXtraParams_enabled (hxtra : 3 ≤ h.xtraServerURLs) (hntp : 3 ≤ h.ntpServerURLs)
    (params : XtraApiParams) :
    (SomeInvalid params ∧
        (configXtraParams true (some params) : Option (Bool × XtraConfigParams h)) = none) ∨
      ¬SomeInvalid params ∧ ∃ sent : Bool × XtraConfigParams h,
        configXtraParams true (some params) = some sent ∧ sent.1 = true ∧
        ServerURLs.toPB sent.2.xtraServerURLs = (params.xtraServerURLs.toList.filter
          fun url => decide (0 < isValidXtraUrl url)).map (keptOf h.xtraServerURL) ∧
        ServerURLs.toPB sent.2.ntpServerURLs = (params.ntpServerURLs.toList.filter
          fun url => decide (0 < ntpUrlHasPortNum url url.length)).map (keptOf h.ntpServerURL) ∧
        PbConv.cString sent.2.ntsKeServerURL.toList =
          keptOf h.ntsKeServerURL params.ntsKeServerURL := by
  obtain ⟨hxtraNone, hxtraSome⟩ := @copyServers_empty h.xtraServerURLs h.xtraServerURL
    isValidXtraUrl params.xtraServerURLs hxtra h.xtraServerURLs_lt
  obtain ⟨hntpNone, hntpSome⟩ := @copyServers_empty h.ntpServerURLs h.ntpServerURL
    (fun url => ntpUrlHasPortNum url url.length) params.ntpServerURLs hntp h.ntpServerURLs_lt
  simp only [configXtraParams, emptyXtraParams, Bool.true_eq_false, if_false]
  cases hxtraCopy : copyServers isValidXtraUrl params.xtraServerURLs.toList
      (⟨0, Vector.replicate _ (Vector.replicate _ 0)⟩ :
        ServerURLs h.xtraServerURLs h.xtraServerURL) with
  | none => exact .inl ⟨.inl (hxtraNone.mp hxtraCopy), rfl⟩
  | some xtraServerURLs =>
    have hxtraValid := mt hxtraNone.mpr (by rw [hxtraCopy]; exact nofun)
    cases hntpCopy : copyServers (fun url => ntpUrlHasPortNum url url.length)
        params.ntpServerURLs.toList (⟨0, Vector.replicate _ (Vector.replicate _ 0)⟩ :
          ServerURLs h.ntpServerURLs h.ntpServerURL) with
    | none => exact .inl ⟨.inr (.inl (hntpNone.mp hntpCopy)), rfl⟩
    | some ntpServerURLs =>
      have hntpValid := mt hntpNone.mpr (by rw [hntpCopy]; exact nofun)
      by_cases hnts : isValidUrl params.ntsKeServerURL < 0
      · exact .inl ⟨.inr (.inr hnts), if_pos hnts⟩
      · refine .inr ⟨?_, _, if_neg hnts, rfl, hxtraSome _ hxtraCopy, hntpSome _ hntpCopy, ?_⟩
        · rintro (hbad | hbad | hbad)
          · exact hxtraValid hbad
          · exact hntpValid hbad
          · exact hnts hbad
        · by_cases hpos : 0 < isValidUrl params.ntsKeServerURL
          · simp only [gt_iff_lt, if_pos hpos, cString_strlcpy_eq]
          · have hzero : params.ntsKeServerURL = [] :=
              (isValidUrl_eq_zero_iff _).mp (Int.le_antisymm (Int.not_lt.mp hpos)
                (Int.not_lt.mp hnts))
            simp only [gt_iff_lt, if_neg hpos, cString_zeros]
            simp [hzero, keptOf, PbConv.cString]

/-- **A call that enables XTRA** does what it should exactly if the URLs fit. -/
theorem sendsOrRefuses_iff (hxtra : 3 ≤ h.xtraServerURLs) (hntp : 3 ≤ h.ntpServerURLs)
    (params : XtraApiParams) : SendsOrRefuses h params ↔ UrlsFit h params := by
  rcases @configXtraParams_enabled h hxtra hntp params with
    ⟨hinvalid, hnone⟩ | ⟨hvalid, sent, hsent, henable, hxtraSent, hntpSent, hntsSent⟩
  · exact iff_of_true (.inl ⟨hnone, hinvalid⟩) (.inl hinvalid)
  · have hxtraIff := passed_on_iff isValidXtraUrl_eq_zero_iff (by simp [OnlySlash])
      (fun url hurl hbad => hvalid (.inl ⟨url, hurl, hbad⟩)) hxtraSent
    have hntpIff := passed_on_iff ntp_zero_iff id
      (fun url hurl hbad => hvalid (.inr (.inl ⟨url, hurl, hbad⟩))) hntpSent
    have hcount : ∀ {capacity size : Nat} {servers : ServerURLs capacity size}
        {names : List (List UInt8)}, ServerURLs.toPB servers = names →
        servers.count.toNat = names.length := by
      rintro _ _ servers _ rfl
      exact (length_addAll _ _ _).symm
    constructor
    · rintro (⟨_, hinvalid⟩ | ⟨sent', hsent', hpasses⟩)
      · exact absurd hinvalid hvalid
      · obtain rfl := Option.some.inj (hsent.symm.trans hsent')
        refine .inr ⟨hxtraIff.mp hpasses.xtraServerURLs, fun url hurl => ?_, ?_⟩
        · exact (hntpIff.mp hpasses.ntpServerURLs url hurl).2
        · exact keptOf_eq_iff.mp (hntsSent.symm.trans hpasses.ntsKeServerURL)
    · rintro (hinvalid | ⟨hxtraFits, hntpFits, hntsFits⟩)
      · exact absurd hinvalid hvalid
      · have hxtraNames := hxtraIff.mpr hxtraFits
        have hntpNames := hntpIff.mpr fun url hurl => ⟨id, hntpFits url hurl⟩
        exact .inr ⟨sent, hsent, henable, hxtraNames, hcount hxtraNames, hntpNames,
          hcount hntpNames, hntsSent.trans (keptOf_eq_iff.mpr hntsFits)⟩

/-- **The URLs of XTRA are told apart and passed on** exactly as far as no part is missing that
`isValidUrl` steps over, and as far as they fit. -/
theorem xtra_urls_iff (hxtra : 3 ≤ h.xtraServerURLs) (hntp : 3 ≤ h.ntpServerURLs)
    (url ntpUrl : List UInt8) (params : XtraApiParams) :
    (Tells (isValidUrl url) (HttpsUrl (withoutSpaces url)) (url = []) ↔
        ¬PartMissing (withoutSpaces url)) ∧
      Tells (ntpUrlHasPortNum ntpUrl ntpUrl.length) (NtpUrl ntpUrl) (ntpUrl = []) ∧
      (SendsOrRefuses h params ↔ UrlsFit h params) :=
  ⟨isValidUrl_tells_iff url, ntpUrlHasPortNum_tells ntpUrl, sendsOrRefuses_iff hxtra hntp params⟩

/-- `https://a:` -/
def noPort : List UInt8 := httpsScheme ++ [97, 58]

/-- A URL with no port is valid. -/
theorem noPort_is_valid :
    isValidUrl noPort = 1 ∧
      ¬Tells (isValidUrl noPort) (HttpsUrl (withoutSpaces noPort)) (noPort = []) := by
  refine ⟨by decide, ?_⟩
  rw [isValidUrl_tells_iff, not_not]
  exact ⟨httpsScheme, [97], [], ⟨by decide, by decide, by decide, nofun⟩, .inr rfl⟩

/-- The header with room for three servers in each list, and for 127 characters in a name. -/
def Header.threeServers : Header :=
  { Header.small with
    xtraServerURLs := 3
    xtraServerURLs_lt := by decide
    xtraServerURL := 128
    ntpServerURLs := 3
    ntpServerURLs_lt := by decide
    ntpServerURL := 128
    ntsKeServerURL := 128 }

/-- No servers. -/
def noServers : XtraApiParams where
  xtraDownloadIntervalMinute := 0
  xtraDownloadTimeoutSec := 0
  xtraDownloadRetryIntervalMinute := 0
  xtraDownloadRetryAttempts := 0
  xtraCaPath := []
  xtraServerURLs := #v[[], [], []]
  ntpServerURLs := #v[[], [], []]
  xtraIntegrityDownloadEnable := false
  xtraIntegrityDownloadIntervalMinute := 0
  xtraDaemonDebugLogLevel := none
  ntsKeServerURL := []
  xtraDaemonDiagLoggingStatus := 0

theorem xtra_urls_iff_noServers :
    (Tells (isValidUrl noPort) (HttpsUrl (withoutSpaces noPort)) (noPort = []) ↔
        ¬PartMissing (withoutSpaces noPort)) ∧
      Tells (ntpUrlHasPortNum noPort noPort.length) (NtpUrl noPort) (noPort = []) ∧
      (SendsOrRefuses Header.threeServers noServers ↔ UrlsFit Header.threeServers noServers) :=
  xtra_urls_iff (by decide) (by decide) noPort noPort noServers

end LocationStack.Integration
