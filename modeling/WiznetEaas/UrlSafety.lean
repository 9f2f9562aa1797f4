import WiznetEaas.UrlParser

/-!
# Which URLs are parsed safely

A token can be missing or end nowhere in the copy of the URL, and both lengths are checked
before the slash and the terminators are added. The parser is safe on a URL that it rejects
before any of this happens, and on a URL whose parts fit. Each of the three tokens gives one
condition; together they are exactly the URLs on which nothing goes wrong.
-/

namespace WiznetEaas.UrlSafety

open CStrings CBuffers Tokens HttpInterface UrlParser

/-- The text is a scheme, a host and a path. -/
def Decomposes (pUrl : List UInt8) : Prop := ∃ url : Url, url.text = pUrl

/-- A call that hands no null pointer on, stays in the copy and in the arrays, and returns
false unless the URL decomposes. -/
structure SafeParse {addressSize pathSize : Nat} (parse : UrlParse addressSize pathSize)
    (decomposes : Prop) : Prop where
  noNull : parse.ending ≠ .nullToken
  inCopy : parse.ending ≠ .beyondTempUrl
  inside : ∀ access ∈ parse.accesses, access.Inside
  refuses : ¬ decomposes → parse.ending = .returned false

/-- Every call with the arrays of `http_get` is safe. -/
def Safe (pUrl : List UInt8) : Prop :=
  ∀ targets : UrlTargets httpDomainMaxSize httpPathMaxSize,
    SafeParse (parseUrlInfoInto pUrl targets) (Decomposes pUrl)

/-- The URLs that cause no harm: the scheme is ended and not known; or the address is ended
and longer than its array; or the address is shorter than its array, and the path is longer
than its own and ended; or it is a URL whose parts fit. -/
inductive Harmless (pUrl : List UInt8) : Prop where
  | scheme (lead scheme rest : List UInt8)
      (cut : Cut (ascii "://") pUrl lead scheme rest)
      (ended : rest ≠ [] ∨ pUrl.length < httpUrlMaxSize)
      (unknown : ¬ ascii "http" <+: scheme)
  | address (lead scheme : List UInt8) (delimiter : UInt8) (rest slashes address after : List UInt8)
      (cut : Cut (ascii "://") pUrl lead scheme (delimiter :: rest))
      (known : ascii "http" <+: scheme)
      (addressCut : Cut (ascii "/") rest slashes address after)
      (ended : after ≠ [] ∨ pUrl.length < httpUrlMaxSize)
      (long : httpDomainMaxSize < address.length)
  | path (lead scheme : List UInt8) (delimiter : UInt8) (rest slashes address : List UInt8)
      (slash : UInt8) (path : List UInt8)
      (cut : Cut (ascii "://") pUrl lead scheme (delimiter :: rest))
      (known : ascii "http" <+: scheme)
      (addressCut : Cut (ascii "/") rest slashes address (slash :: path))
      (short : address.length < httpDomainMaxSize)
      (long : httpPathMaxSize < path.length)
      (ended : pUrl.length < httpUrlMaxSize)
  | url (url : Url) (text : url.text = pUrl) (fits : url.Fits)

variable {addressSize pathSize : Nat} {targets : UrlTargets addressSize pathSize}
  {accesses : List Access} {decomposes : Prop}

theorem null_harms : ¬ SafeParse ⟨.nullToken, targets, accesses⟩ decomposes :=
  fun safe => safe.noNull rfl

theorem beyond_harms : ¬ SafeParse ⟨.beyondTempUrl, targets, accesses⟩ decomposes :=
  fun safe => safe.inCopy rfl

theorem returned_proper (verdict : Bool) :
    Ending.returned verdict ≠ .nullToken ∧ Ending.returned verdict ≠ .beyondTempUrl :=
  ⟨Ending.noConfusion, Ending.noConfusion⟩

theorem refused_safe (inside : ∀ access ∈ accesses, access.Inside) :
    SafeParse ⟨.returned false, targets, accesses⟩ decomposes where
  noNull := (returned_proper false).1
  inCopy := (returned_proper false).2
  inside := inside
  refuses := fun _ => rfl

theorem accepted_safe_iff :
    SafeParse ⟨.returned true, targets, accesses⟩ decomposes ↔
      (∀ access ∈ accesses, access.Inside) ∧ decomposes := by
  constructor
  · intro safe
    refine ⟨safe.inside, Classical.byContradiction fun not => ?_⟩
    cases safe.refuses not
  · rintro ⟨inside, holds⟩
    exact ⟨(returned_proper true).1, (returned_proper true).2, inside,
      fun not => absurd holds not⟩

/-- The third token: there is a path, it is ended, and it is refused or fits with the slash
and the terminator. -/
theorem path_safe_iff (path : List UInt8) (pathText : IsText path) (space : Nat)
    (inside : ∀ access ∈ accesses, access.Inside) :
    SafeParse (parsePath (some (path ++ List.replicate space 0)) targets accesses) decomposes ↔
      path ≠ [] ∧ space ≠ 0 ∧
        (pathSize < path.length ∨ path.length + 2 ≤ pathSize ∧ decomposes) := by
  by_cases empty : path = []
  · have blank : strtok [] ([] ++ List.replicate space 0) =
        if space = 0 then .beyond else .null := strtok_blank isText_nil (blank_nil []) space
    refine iff_of_false ?_ fun conditions => conditions.1 empty
    simp only [parsePath, strtokNext, empty, blank]
    by_cases full : space = 0
    · simp only [if_pos full]
      exact beyond_harms
    · simp only [if_neg full]
      exact null_harms
  · have token := strtok_last (path_cut path empty) pathText space
    by_cases full : space = 0
    · refine iff_of_false ?_ fun conditions => conditions.2.1 full
      simp only [parsePath, strtokNext, token, if_pos full]
      exact beyond_harms
    simp only [parsePath, strtokNext, token, if_neg full]
    by_cases long : path.length > pathSize
    · rw [if_pos long]
      exact iff_of_true (refused_safe inside) ⟨empty, full, .inl long⟩
    rw [if_neg long, accepted_safe_iff, List.forall_mem_append]
    constructor
    · rintro ⟨⟨_, printed⟩, holds⟩
      have room : path.length + 2 ≤ pathSize := printed ⟨pathSize, path.length + 2⟩ (by simp)
      exact ⟨empty, full, .inr ⟨room, holds⟩⟩
    · rintro ⟨_, _, refused | ⟨room, holds⟩⟩
      · exact absurd refused long
      · refine ⟨⟨inside, ?_⟩, holds⟩
        intro access member
        simp only [List.mem_cons, List.not_mem_nil, or_false] at member
        rcases member with rfl | rfl <;> exact room

/-- Accesses are only added. -/
theorem parsePath_accesses (saved : Option (List UInt8)) (access : Access)
    (member : access ∈ accesses) : access ∈ (parsePath saved targets accesses).accesses := by
  unfold parsePath
  split
  next => exact member
  next => exact member
  next =>
    dsimp only
    split
    next => exact member
    next => exact List.mem_append_left _ member

/-- No delimiter is a zero byte. -/
theorem slash_text : IsText (ascii "/") ∧ IsText (ascii "://") := by
  unfold IsText
  decide +kernel

/-- Without an address, the second token is null, or sought outside the copy. -/
theorem address_missing (rest : List UInt8) (blank : Blank (ascii "/") rest) (space : Nat) :
    ¬ SafeParse (parseAddress (some (rest ++ List.replicate space 0)) targets accesses)
      decomposes := by
  have search := strtok_blank slash_text.1 blank space
  by_cases full : space = 0
  · simp only [parseAddress, strtokNext, search, if_pos full]
    exact beyond_harms
  · simp only [parseAddress, strtokNext, search, if_neg full]
    exact null_harms

variable {rest slashes address : List UInt8}

/-- An address without a path is handled only if it is ended and too long. -/
theorem address_last_safe_iff (cut : Cut (ascii "/") rest slashes address [])
    (restText : IsText rest) (space : Nat) (inside : ∀ access ∈ accesses, access.Inside) :
    SafeParse (parseAddress (some (rest ++ List.replicate space 0)) targets accesses) decomposes ↔
      space ≠ 0 ∧ addressSize < address.length := by
  have token := strtok_last cut restText space
  by_cases full : space = 0
  · refine iff_of_false ?_ fun conditions => conditions.1 full
    simp only [parseAddress, strtokNext, token, if_pos full]
    exact beyond_harms
  simp only [parseAddress, strtokNext, token, if_neg full]
  by_cases long : address.length > addressSize
  · rw [if_pos long]
    exact iff_of_true (refused_safe inside) ⟨full, long⟩
  · rw [if_neg long]
    refine iff_of_false ?_ fun conditions => long conditions.2
    exact null_harms

/-- The second token with a path behind it: it is refused, or it fits with its terminator
and the path is safe. -/
theorem address_inner_safe_iff (slash : UInt8) (path : List UInt8)
    (cut : Cut (ascii "/") rest slashes address (slash :: path)) (restText : IsText rest)
    (space : Nat) (inside : ∀ access ∈ accesses, access.Inside) :
    SafeParse (parseAddress (some (rest ++ List.replicate space 0)) targets accesses) decomposes ↔
      addressSize < address.length ∨ address.length < addressSize ∧ path ≠ [] ∧ space ≠ 0 ∧
        (pathSize < path.length ∨ path.length + 2 ≤ pathSize ∧ decomposes) := by
  have pathText : IsText path := rest_text slash cut restText
  simp only [parseAddress, strtokNext, strtok_inner slash cut restText]
  by_cases long : address.length > addressSize
  · rw [if_pos long]
    exact iff_of_true (refused_safe inside) (.inl long)
  rw [if_neg long]
  by_cases short : address.length < addressSize
  · rw [path_safe_iff path pathText space]
    · constructor
      · exact fun conditions => .inr ⟨short, conditions⟩
      · rintro (refused | ⟨_, conditions⟩)
        · exact absurd refused long
        · exact conditions
    · exact List.forall_mem_append.mpr ⟨inside, copied_inside short⟩
  · -- The terminator of an address of the array's size lies behind it.
    refine iff_of_false ?_ ?_
    · intro safe
      have outside := safe.inside ⟨addressSize, address.length + 1⟩
        (parsePath_accesses _ _ (by simp))
      exact short outside
    · rintro (refused | ⟨fits, _⟩)
      · exact long refused
      · exact short fits

/-- Schemes are told by their first letters. -/
theorem schemePort_none_iff (scheme : List UInt8) :
    schemePort scheme = none ↔ ¬ ascii "http" <+: scheme := by
  have letters :
      IsText (ascii "https") ∧ IsText (ascii "http") ∧ ascii "http" <+: ascii "https" := by
    unfold IsText
    decide +kernel
  have longer := strncmpEqual_prefix (ascii "https") scheme letters.1
  have shorter := strncmpEqual_prefix (ascii "http") scheme letters.2.1
  rw [strncmpEqual_comm, show (ascii "https").length = 5 by decide +kernel] at longer
  rw [strncmpEqual_comm, show (ascii "http").length = 4 by decide +kernel] at shorter
  unfold schemePort
  split
  next https =>
    have known : ascii "http" <+: scheme := letters.2.2.trans (longer.mp https)
    simp [known]
  next =>
    split
    next http => simp [shorter.mp http]
    next other => simpa using fun known => other (shorter.mpr known)

/-- A scheme is known exactly if it has a port. -/
theorem known_iff_port (scheme : List UInt8) :
    ascii "http" <+: scheme ↔ ∃ port, schemePort scheme = some port := by
  cases port : schemePort scheme with
  | none =>
    refine iff_of_false ((schemePort_none_iff scheme).mp port) ?_
    rintro ⟨_, ⟨⟩⟩
  | some number =>
    refine iff_of_true (Classical.byContradiction fun unknown => ?_) ⟨number, rfl⟩
    cases port.symm.trans ((schemePort_none_iff scheme).mpr unknown)

variable {pUrl lead scheme : List UInt8}

/-- The copy of the URL fits its array. -/
theorem copy_inside (fits : pUrl.length ≤ httpUrlMaxSize) :
    ∀ access ∈ ([⟨httpUrlMaxSize, pUrl.length⟩] : List Access), access.Inside := by
  intro access member
  rw [List.mem_singleton.mp member]
  exact fits

/-- Without a scheme, the first token is null, or sought outside the copy. -/
theorem scheme_missing (isText : IsText pUrl) (fits : pUrl.length ≤ httpUrlMaxSize)
    (blank : Blank (ascii "://") pUrl) :
    ¬ SafeParse (parseUrlInfoInto pUrl targets) decomposes := by
  rw [parse_copied pUrl isText fits, strtok_blank slash_text.2 blank]
  by_cases full : room pUrl = 0
  · simp only [if_pos full]
    exact beyond_harms
  · simp only [if_neg full]
    exact null_harms

/-- A scheme with nothing behind it is handled only if it is ended and not known. -/
theorem scheme_last_safe_iff (isText : IsText pUrl) (fits : pUrl.length ≤ httpUrlMaxSize)
    (cut : Cut (ascii "://") pUrl lead scheme []) :
    SafeParse (parseUrlInfoInto pUrl targets) decomposes ↔
      room pUrl ≠ 0 ∧ ¬ ascii "http" <+: scheme := by
  rw [parse_copied pUrl isText fits, strtok_last cut isText]
  by_cases full : room pUrl = 0
  · simp only [if_pos full]
    exact iff_of_false beyond_harms fun conditions => conditions.1 full
  simp only [if_neg full]
  cases port : schemePort scheme with
  | none =>
    exact iff_of_true (refused_safe (copy_inside fits)) ⟨full, (schemePort_none_iff scheme).mp port⟩
  | some number =>
    refine iff_of_false null_harms fun conditions => ?_
    cases port.symm.trans ((schemePort_none_iff scheme).mpr conditions.2)

/-- A scheme with something behind it is not known, or the rest is safe. -/
theorem scheme_inner_safe_iff (isText : IsText pUrl) (fits : pUrl.length ≤ httpUrlMaxSize)
    (delimiter : UInt8) (cut : Cut (ascii "://") pUrl lead scheme (delimiter :: rest)) :
    SafeParse (parseUrlInfoInto pUrl targets) decomposes ↔
      ¬ ascii "http" <+: scheme ∨ ∃ port, schemePort scheme = some port ∧
        SafeParse (parseAddress (some (rest ++ List.replicate (room pUrl) 0))
          { targets with port := port } [⟨httpUrlMaxSize, pUrl.length⟩]) decomposes := by
  rw [parse_copied pUrl isText fits, strtok_inner delimiter cut isText]
  dsimp only
  cases port : schemePort scheme with
  | none =>
    exact iff_of_true (refused_safe (copy_inside fits))
      (.inl ((schemePort_none_iff scheme).mp port))
  | some number =>
    constructor
    · exact fun safe => .inr ⟨number, rfl, safe⟩
    · rintro (unknown | ⟨_, same, safe⟩)
      · cases port.symm.trans ((schemePort_none_iff scheme).mpr unknown)
      · cases same
        exact safe

/-- A URL that decomposes is handled exactly if its host is refused, or fits, and so does
its path, which is ended. -/
theorem decomposed_safe_iff (url : Url) (fits : url.text.length ≤ httpUrlMaxSize)
    (targets : UrlTargets httpDomainMaxSize httpPathMaxSize) :
    SafeParse (parseUrlInfoInto url.text targets) (Decomposes url.text) ↔
      httpDomainMaxSize < url.host.length ∨
        url.host.length < httpDomainMaxSize ∧ url.text.length < httpUrlMaxSize ∧
          (httpPathMaxSize < url.path.length ∨ url.path.length + 2 ≤ httpPathMaxSize) := by
  obtain ⟨schemeCut, addressCut⟩ := url.cuts
  have isText := url.isText
  have known : ascii "http" <+: url.scheme := (known_iff_port _).mpr ⟨url.port, url.schemePort⟩
  have decomposes : Decomposes url.text := ⟨url, rfl⟩
  have ended := room_iff url.text
  have restText := rest_text 58 schemeCut isText
  constructor
  · intro safe
    obtain ⟨port, _, addressSafe⟩ :=
      ((scheme_inner_safe_iff isText fits 58 schemeCut).mp safe).resolve_left (not_not_intro known)
    rcases (address_inner_safe_iff 47 url.path addressCut restText _ (copy_inside fits)).mp
      addressSafe with long | ⟨short, _, space, long | ⟨pathFits, _⟩⟩
    · exact .inl long
    · exact .inr ⟨short, ended.mp space, .inl long⟩
    · exact .inr ⟨short, ended.mp space, .inr pathFits⟩
  · intro conditions
    refine (scheme_inner_safe_iff isText fits 58 schemeCut).mpr
      (.inr ⟨url.port, url.schemePort, ?_⟩)
    refine (address_inner_safe_iff 47 url.path addressCut restText _ (copy_inside fits)).mpr ?_
    rcases conditions with long | ⟨short, space, long | pathFits⟩
    · exact .inl long
    · exact .inr ⟨short, url.pathNonempty, ended.mpr space, .inl long⟩
    · exact .inr ⟨short, url.pathNonempty, ended.mpr space, .inr ⟨pathFits, decomposes⟩⟩

/-- A URL that decomposes is harmless if it is handled. -/
theorem harmless_of_url (url : Url) (fits : url.text.length ≤ httpUrlMaxSize)
    (safe : Safe url.text) : Harmless url.text := by
  obtain ⟨schemeCut, addressCut⟩ := url.cuts
  have known : ascii "http" <+: url.scheme := (known_iff_port _).mpr ⟨url.port, url.schemePort⟩
  rcases (decomposed_safe_iff url fits ⟨.zeroed _ [], .zeroed _ [], 0⟩).mp (safe _) with
    long | ⟨short, ended, long | pathFits⟩
  · exact .address [] url.scheme 58 _ [47, 47] url.host _ schemeCut known addressCut
      (.inl (List.cons_ne_nil _ _)) long
  · exact .path [] url.scheme 58 _ [47, 47] url.host 47 url.path schemeCut known addressCut short
      long ended
  · exact .url url rfl ⟨short, pathFits, ended⟩

/-- A URL that does not decompose is harmless if it is refused before anything goes wrong. -/
theorem harmless_of_other (isText : IsText pUrl) (fits : pUrl.length ≤ httpUrlMaxSize)
    (other : ¬ Decomposes pUrl) (safe : Safe pUrl) : Harmless pUrl := by
  let targets : UrlTargets httpDomainMaxSize httpPathMaxSize := ⟨.zeroed _ [], .zeroed _ [], 0⟩
  have space := room_iff pUrl
  have once := safe targets
  rcases cut_exists (ascii "://") pUrl with blank | ⟨lead, scheme, rest, cut⟩
  · exact absurd once (scheme_missing isText fits blank)
  cases rest with
  | nil =>
    obtain ⟨ended, unknown⟩ := (scheme_last_safe_iff isText fits cut).mp once
    exact .scheme lead scheme [] cut (.inr (space.mp ended)) unknown
  | cons delimiter rest =>
    rcases (scheme_inner_safe_iff isText fits delimiter cut).mp once with
      unknown | ⟨port, found, addressSafe⟩
    · exact .scheme lead scheme _ cut (.inl (List.cons_ne_nil _ _)) unknown
    have known : ascii "http" <+: scheme := (known_iff_port scheme).mpr ⟨port, found⟩
    have restText := rest_text delimiter cut isText
    rcases cut_exists (ascii "/") rest with blank | ⟨slashes, address, after, addressCut⟩
    · exact absurd addressSafe (address_missing rest blank _)
    cases after with
    | nil =>
      obtain ⟨ended, long⟩ :=
        (address_last_safe_iff addressCut restText _ (copy_inside fits)).mp addressSafe
      exact .address lead scheme delimiter rest slashes address [] cut known addressCut
        (.inr (space.mp ended)) long
    | cons slash path =>
      rcases (address_inner_safe_iff slash path addressCut restText _ (copy_inside fits)).mp
        addressSafe with long | ⟨short, _, ended, long | ⟨_, decomposes⟩⟩
      · exact .address lead scheme delimiter rest slashes address _ cut known addressCut
          (.inl (List.cons_ne_nil _ _)) long
      · exact .path lead scheme delimiter rest slashes address slash path cut known addressCut
          short long (space.mp ended)
      · exact absurd decomposes other

/-- On a harmless URL every call is safe. -/
theorem safe_of_harmless (isText : IsText pUrl) (fits : pUrl.length ≤ httpUrlMaxSize)
    (harmless : Harmless pUrl) : Safe pUrl := by
  intro targets
  have space := room_iff pUrl
  cases harmless with
  | scheme lead scheme rest cut ended unknown =>
    cases rest with
    | nil =>
      have short : pUrl.length < httpUrlMaxSize := ended.resolve_left (not_not_intro rfl)
      exact (scheme_last_safe_iff isText fits cut).mpr ⟨space.mpr short, unknown⟩
    | cons delimiter rest =>
      exact (scheme_inner_safe_iff isText fits delimiter cut).mpr (.inl unknown)
  | address lead scheme delimiter rest slashes address after cut known addressCut ended long =>
    obtain ⟨port, found⟩ := (known_iff_port scheme).mp known
    have restText := rest_text delimiter cut isText
    refine (scheme_inner_safe_iff isText fits delimiter cut).mpr (.inr ⟨port, found, ?_⟩)
    cases after with
    | nil =>
      have short : pUrl.length < httpUrlMaxSize := ended.resolve_left (not_not_intro rfl)
      exact (address_last_safe_iff addressCut restText _ (copy_inside fits)).mpr
        ⟨space.mpr short, long⟩
    | cons slash path =>
      exact (address_inner_safe_iff slash path addressCut restText _ (copy_inside fits)).mpr
        (.inl long)
  | path lead scheme delimiter rest slashes address slash path cut known addressCut short long
      ended =>
    obtain ⟨port, found⟩ := (known_iff_port scheme).mp known
    have restText := rest_text delimiter cut isText
    have nonempty : path ≠ [] := List.ne_nil_of_length_pos (Nat.zero_lt_of_lt long)
    refine (scheme_inner_safe_iff isText fits delimiter cut).mpr (.inr ⟨port, found, ?_⟩)
    exact (address_inner_safe_iff slash path addressCut restText _ (copy_inside fits)).mpr
      (.inr ⟨short, nonempty, space.mpr ended, .inl long⟩)
  | url url text urlFits =>
    subst text
    exact (decomposed_safe_iff url fits targets).mpr
      (.inr ⟨urlFits.host, urlFits.whole, .inr urlFits.path⟩)

/-- The parser is safe on a URL of at most the copy's size exactly when the URL is
harmless. -/
theorem url_safe_iff (pUrl : List UInt8) (isText : IsText pUrl)
    (fits : pUrl.length ≤ httpUrlMaxSize) : Safe pUrl ↔ Harmless pUrl := by
  constructor
  · intro safe
    by_cases decomposes : Decomposes pUrl
    · obtain ⟨url, rfl⟩ := decomposes
      exact harmless_of_url url fits safe
    · exact harmless_of_other isText fits decomposes safe
  · exact safe_of_harmless isText fits

/-- A plain URL is parsed safely. -/
theorem signed_url_safe : Safe signedUrl.text :=
  (url_safe_iff signedUrl.text signedUrl.isText (by decide +kernel)).mpr
    (.url signedUrl rfl ⟨by decide +kernel, by decide +kernel, by decide +kernel⟩)

/-- Another scheme that begins like a known one is no URL. -/
theorem other_scheme_url : ¬ Decomposes (ascii "httpx://h/p") := by
  rintro ⟨url, text⟩
  have front : url.scheme ++ ascii "://" <+: ascii "httpx://h/p" := by
    rw [← text, Url.text, List.append_assoc (url.scheme ++ ascii "://"), List.append_assoc]
    exact List.prefix_append _ _
  have apart : ∀ scheme ∈ [ascii "http", ascii "https"],
      ¬ scheme ++ ascii "://" <+: ascii "httpx://h/p" := by decide +kernel
  exact apart url.scheme url.known front

/-- A URL that can be passed and is not handled safely. -/
def Harmful (pUrl : List UInt8) : Prop :=
  IsText pUrl ∧ pUrl.length ≤ httpUrlMaxSize ∧ ¬ Safe pUrl

/-- But the parser takes it for one. -/
theorem other_scheme_accepted : Harmful (ascii "httpx://h/p") := by
  have schemeCut : Cut (ascii "://") (ascii "httpx://h/p") [] (ascii "httpx")
      (58 :: ascii "//h/p") := by
    refine ⟨by decide +kernel, by decide +kernel, by decide +kernel, by decide +kernel, ?_⟩
    rintro byte ⟨⟩
    decide +kernel
  have addressCut : Cut (ascii "/") (ascii "//h/p") (ascii "//") (ascii "h") (47 :: ascii "p") := by
    refine ⟨by decide +kernel, by decide +kernel, by decide +kernel, by decide +kernel, ?_⟩
    rintro byte ⟨⟩
    decide +kernel
  have isText : IsText (ascii "httpx://h/p") := by
    unfold IsText
    decide +kernel
  have fits : (ascii "httpx://h/p").length ≤ httpUrlMaxSize := by decide +kernel
  refine ⟨isText, fits, fun safe => ?_⟩
  obtain ⟨port, _, addressSafe⟩ := ((scheme_inner_safe_iff isText fits 58 schemeCut).mp
    (safe ⟨.zeroed _ [], .zeroed _ [], 0⟩)).resolve_left (not_not_intro (by decide +kernel))
  have short :
      ¬ httpDomainMaxSize < (ascii "h").length ∧ ¬ httpPathMaxSize < (ascii "p").length := by
    decide +kernel
  rcases (address_inner_safe_iff 47 (ascii "p") addressCut (rest_text 58 schemeCut isText) _
    (copy_inside fits)).mp addressSafe with long | ⟨_, _, _, long | ⟨_, decomposes⟩⟩
  · exact short.1 long
  · exact short.2 long
  · exact other_scheme_url decomposes

/-- A URL whose host and path have given lengths. -/
def urlOfLengths (host path : Nat) : Url where
  scheme := ascii "http"
  host := List.replicate (host + 1) 104
  path := List.replicate (path + 1) 112
  known := by decide +kernel
  hostText := fun byte member => by
    rw [List.eq_of_mem_replicate member]
    decide
  hostNonempty := List.cons_ne_nil _ _
  hostPlain := fun member => absurd (List.eq_of_mem_replicate member) (by decide)
  pathText := fun byte member => by
    rw [List.eq_of_mem_replicate member]
    decide
  pathNonempty := List.cons_ne_nil _ _

theorem urlOfLengths_length (host path : Nat) :
    (urlOfLengths host path).text.length = host + path + 10 := by
  have letters : (ascii "http").length = 4 ∧ (ascii "://").length = 3 ∧ (ascii "/").length = 1 := by
    decide +kernel
  simp only [Url.text, urlOfLengths, List.length_append, List.length_replicate, letters]
  omega

/-- A URL that decomposes is harmful if its parts do not fit and are not refused. -/
theorem unfit_harmful (host path : Nat) (fits : host + path + 10 ≤ 2176)
    (unfit : ¬ (128 < host + 1 ∨ host + 1 < 128 ∧ host + path + 10 < 2176 ∧
      (2048 < path + 1 ∨ path + 1 + 2 ≤ 2048))) : Harmful (urlOfLengths host path).text := by
  rw [← urlOfLengths_length] at fits
  refine ⟨(urlOfLengths host path).isText, fits, fun safe => unfit ?_⟩
  have conditions := (decomposed_safe_iff _ fits ⟨.zeroed _ [], .zeroed _ [], 0⟩).mp (safe _)
  rw [urlOfLengths_length] at conditions
  simpa only [urlOfLengths, List.length_replicate] using conditions

/-- An empty URL hands the null pointer to `strncmp`, a host of 128 characters is terminated
behind its array, a path of 2047 is printed behind its own, a URL of 2176 has no end, and a
scheme that begins like a known one is accepted. -/
theorem unsafe_urls :
    Harmful [] ∧ Harmful (urlOfLengths 127 0).text ∧ Harmful (urlOfLengths 0 2046).text ∧
      Harmful (urlOfLengths 0 2166).text ∧ Harmful (ascii "httpx://h/p") := by
  refine ⟨?_, unfit_harmful 127 0 (by decide) (by decide),
    unfit_harmful 0 2046 (by decide) (by decide), unfit_harmful 0 2166 (by decide) (by decide),
    other_scheme_accepted⟩
  exact ⟨isText_nil, Nat.zero_le _, fun safe =>
    scheme_missing isText_nil (Nat.zero_le _) (blank_nil _)
      (safe ⟨.zeroed _ [], .zeroed _ [], 0⟩)⟩

end WiznetEaas.UrlSafety
