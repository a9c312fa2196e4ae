import ProviderPlatform.EventWatcher.Councils

/-! # Which hosts are internal

The filter reads a host name by how it begins and how it ends. On the dotted
quads its beginnings are the private ranges, but of the link-local range it
knows one address; and an ending in a dot hides every name it knows by its
ending. -/
namespace ProviderPlatform
open Async Task

/-! ## Hosts -/

/-- The host as the filter reads it: in lower case and without brackets. -/
def hostOf (url : Url) : String :=
  String.ofList ((url.hostname.toList.map Char.toLower).filter fun c => c != '[' && c != ']')

/-- The IPv4 literal of four octets. -/
def dottedQuad (a b c d : Nat) : String :=
  toString a ++ "." ++ toString b ++ "." ++ toString c ++ "." ++ toString d

/-- 127.0.0.0/8, 10.0.0.0/8, 172.16.0.0/12, 192.168.0.0/16, 169.254.0.0/16 and
0.0.0.0. -/
def InternalAddress (a b c d : Nat) : Prop :=
  a = 127 ∨ a = 10 ∨ (a = 172 ∧ 16 ≤ b ∧ b ≤ 31) ∨ (a = 192 ∧ b = 168) ∨ (a = 169 ∧ b = 254) ∨
    (a = 0 ∧ b = 0 ∧ c = 0 ∧ d = 0)

/-- `localhost`, or a name under `.local` or `.internal`. -/
def LocalName (name : String) : Prop :=
  name = "localhost" ∨ finishesWith name ".local" = true ∨ finishesWith name ".internal" = true

/-- A local name with or without a trailing dot. -/
def DenotesLocal (host : String) : Prop :=
  LocalName host ∨ ∃ name, host = name ++ "." ∧ LocalName name

/-- A host that must not be called. -/
def InternalHost (host : String) : Prop :=
  (∃ a b c d, a < 256 ∧ b < 256 ∧ c < 256 ∧ d < 256 ∧ host = dottedQuad a b c d ∧
    InternalAddress a b c d) ∨ DenotesLocal host

/-- The request relays the envelope to no council. -/
def CallsNoCouncil {α : Type} (t : CouncilPromise α) : Prop :=
  t.Uses (fun _ => True) fun q : CouncilReq => ∀ baseUrl envelope providerUrl,
    q ≠ .postJoinRequest baseUrl envelope providerUrl

/-- What the filter owes a URL, and what follows for the handler. -/
structure FiltersInternal (env : CouncilEnv) (url : Url) : Prop where
  quad : ∀ a b c d, a < 256 → b < 256 → c < 256 → d < 256 → hostOf url = dottedQuad a b c d →
    (isInternalUrl env url = true ↔ InternalAddress a b c d)
  named : DenotesLocal (hostOf url) → isInternalUrl env url = true
  uncalled : InternalHost (hostOf url) → ∀ (ppPublicKey : PublicKey) (body : JoinBody),
    body.councilUrl.bind env.parseUrl = some url →
    CallsNoCouncil (handleJoinCouncil env ppPublicKey (some body))

/-! ## The filter on a host -/

/-- What a host begins with that the filter rejects. -/
def internalStart (host : String) : Bool :=
  beginsWith host "::ffff:" || beginsWith host "fe80:" || privateRanges.any (beginsWith host)

def internalHost (host : String) : Bool :=
  !host.toList.contains '.' || isNumericHost host ||
    host == "::1" || beginsWith host "::ffff:" || beginsWith host "fe80:" ||
    host == "0.0.0.0" || finishesWith host ".local" || finishesWith host ".internal" ||
    host == "169.254.169.254" || privateRanges.any (beginsWith host)

/-- A host the filter misses: a link-local address that is not the metadata
endpoint, or a local name with a trailing dot that begins harmlessly. -/
def MissedHost (host : String) : Prop :=
  (∃ c d, c < 256 ∧ d < 256 ∧ host = dottedQuad 169 254 c d ∧ ¬ (c = 169 ∧ d = 254)) ∨
    ((∃ name, host = name ++ "." ∧ LocalName name) ∧ internalStart host = false)

section Hosts
variable {env : CouncilEnv} {url : Url} {host name text start ending : String}
  {a b c d : Nat}

theorem isInternalUrl_eq (hmode : env.mode ≠ "development")
    (hprotocol : url.protocol = "http:" ∨ url.protocol = "https:") :
    isInternalUrl env url = internalHost (hostOf url) := by
  have hhttp : ¬ (url.protocol ≠ "http:" ∧ url.protocol ≠ "https:") := by
    rintro ⟨hnot, hnots⟩
    exact hprotocol.elim hnot hnots
  rw [isInternalUrl, if_neg hmode, if_neg hhttp]
  rfl

/-! ### Beginnings and endings -/

theorem beginsWith_iff : beginsWith text start = true ↔ start.toList <+: text.toList :=
  List.isPrefixOf_iff_prefix

theorem finishesWith_iff : finishesWith text ending = true ↔ ending.toList <:+ text.toList :=
  List.isSuffixOf_iff_suffix

/-- A text begins with nothing that has a character it lacks. -/
theorem beginsWith_of_notMem {x : Char} (hstart : x ∈ start.toList) (htext : x ∉ text.toList) :
    beginsWith text start = false := by
  rw [Bool.eq_false_iff, ne_eq, beginsWith_iff]
  exact fun hbegins => htext (hbegins.subset hstart)

theorem finishesWith_of_notMem {x : Char} (hending : x ∈ ending.toList) (htext : x ∉ text.toList) :
    finishesWith text ending = false := by
  rw [Bool.eq_false_iff, ne_eq, finishesWith_iff]
  exact fun hfinishes => htext (hfinishes.subset hending)

theorem ne_of_notMem {x : Char} {other : String} (hother : x ∈ other.toList)
    (htext : x ∉ text.toList) : (text == other) = false := by
  rw [beq_eq_false_iff_ne]
  rintro rfl
  exact htext hother

/-! ### Dotted quads -/

theorem octet_digits {n : Nat} {x : Char} (h : x ∈ (toString n).toList) : x.isDigit = true := by
  rw [Nat.toString_eq_ofList_toDigits, String.toList_ofList] at h
  exact Nat.isDigit_of_mem_toDigits (by decide) (by decide) h

theorem dot_notMem_octet (n : Nat) : '.' ∉ (toString n).toList := by
  intro hdot
  have hdigit := octet_digits hdot
  exact absurd hdigit (by decide)

theorem octet_inj {m n : Nat} : (toString m).toList = (toString n).toList ↔ m = n := by
  constructor
  · intro h
    have hnum := congrArg (fun digits => Nat.ofDigitChars 10 digits 0) h
    simpa [Nat.toString_eq_ofList_toDigits] using hnum
  · exact fun h => by rw [h]

/-- The first dot ends the first label. -/
theorem label_inj {x y rest more : List Char} (hx : '.' ∉ x) (hy : '.' ∉ y) :
    x ++ '.' :: rest = y ++ '.' :: more ↔ x = y ∧ rest = more := by
  induction x generalizing y with
  | nil =>
    cases y with
    | nil => simp
    | cons c y =>
      have hne : '.' ≠ c := fun he => hy (he ▸ List.mem_cons_self)
      simp [hne]
  | cons b x ih =>
    obtain ⟨hb, hx⟩ := not_or.mp (List.mem_cons.not.mp hx)
    cases y with
    | nil => simp [Ne.symm hb]
    | cons c y =>
      obtain ⟨-, hy⟩ := not_or.mp (List.mem_cons.not.mp hy)
      simp [ih hx hy, and_assoc]

/-- Two texts agree on the octet they begin with and on what follows it. -/
theorem octet_append_inj {m n : Nat} {rest more : List Char} :
    (toString m).toList ++ '.' :: rest = (toString n).toList ++ '.' :: more ↔
      m = n ∧ rest = more := by
  rw [label_inj (dot_notMem_octet m) (dot_notMem_octet n), octet_inj]

theorem octet_prefix {m n : Nat} {rest more : List Char} :
    (toString m).toList ++ '.' :: rest <+: (toString n).toList ++ '.' :: more ↔
      m = n ∧ rest <+: more := by
  constructor
  · rintro ⟨tail, htail⟩
    rw [List.append_assoc, List.cons_append] at htail
    obtain ⟨hlabel, hrest⟩ := octet_append_inj.mp htail
    exact ⟨hlabel, tail, hrest⟩
  · rintro ⟨rfl, tail, rfl⟩
    exact ⟨tail, by simp⟩

theorem dottedQuad_toList (a b c d : Nat) : (dottedQuad a b c d).toList =
    (toString a).toList ++ '.' :: ((toString b).toList ++ '.' :: ((toString c).toList ++
      '.' :: (toString d).toList)) := by
  simp [dottedQuad]

theorem dottedQuad_inj {a' b' c' d' : Nat} : dottedQuad a b c d = dottedQuad a' b' c' d' ↔
    a = a' ∧ b = b' ∧ c = c' ∧ d = d' := by
  rw [← String.toList_inj, dottedQuad_toList, dottedQuad_toList, octet_append_inj,
    octet_append_inj, octet_append_inj, octet_inj]

/-- A quad is made of digits and dots. -/
theorem notMem_dottedQuad {x : Char} (hdigit : x.isDigit = false) (hdot : x ≠ '.') :
    x ∉ (dottedQuad a b c d).toList := by
  have hoctet (n : Nat) : x ∉ (toString n).toList := fun hmem => by
    rw [octet_digits hmem] at hdigit
    cases hdigit
  rw [dottedQuad_toList]
  simp only [List.mem_append, List.mem_cons, not_or]
  exact ⟨hoctet a, hdot, hoctet b, hdot, hoctet c, hdot, hoctet d⟩

/-- A quad begins with one octet. -/
theorem beginsWith_octet (n : Nat) :
    beginsWith (dottedQuad a b c d) (toString n ++ ".") = true ↔ a = n := by
  have hlist : (toString n ++ ".").toList = (toString n).toList ++ '.' :: [] := by simp
  rw [beginsWith_iff, dottedQuad_toList, hlist, octet_prefix]
  simp [eq_comm]

/-- A quad begins with two octets. -/
theorem beginsWith_octets (m n : Nat) :
    beginsWith (dottedQuad a b c d) (toString m ++ "." ++ toString n ++ ".") = true ↔
      a = m ∧ b = n := by
  have hlist : (toString m ++ "." ++ toString n ++ ".").toList =
      (toString m).toList ++ '.' :: ((toString n).toList ++ '.' :: []) := by simp
  rw [beginsWith_iff, dottedQuad_toList, hlist, octet_prefix, octet_prefix]
  simp [eq_comm]

/-- The private ranges on a quad. -/
theorem privateRanges_dottedQuad :
    privateRanges.any (beginsWith (dottedQuad a b c d)) = true ↔
      a = 127 ∨ a = 10 ∨ (a = 192 ∧ b = 168) ∨ (a = 172 ∧ 16 ≤ b ∧ b ≤ 31) := by
  have h127 : beginsWith (dottedQuad a b c d) "127." = true ↔ a = 127 := beginsWith_octet 127
  have h10 : beginsWith (dottedQuad a b c d) "10." = true ↔ a = 10 := beginsWith_octet 10
  have h192 : beginsWith (dottedQuad a b c d) "192.168." = true ↔ a = 192 ∧ b = 168 :=
    beginsWith_octets 192 168
  have h172 (n : Nat) : beginsWith (dottedQuad a b c d) ("172." ++ toString n ++ ".") = true ↔
      a = 172 ∧ b = n := beginsWith_octets 172 n
  simp only [privateRanges, List.any_append, List.any_map, List.any_cons, List.any_nil,
    Bool.or_eq_true, Bool.or_false, List.any_eq_true, Function.comp_apply, h127, h10, h192, h172,
    List.mem_range'_1]
  constructor
  · rintro ((h | h | h) | ⟨n, ⟨hle, hlt⟩, ha, rfl⟩)
    · exact .inl h
    · exact .inr (.inl h)
    · exact .inr (.inr (.inl h))
    · exact .inr (.inr (.inr ⟨ha, hle, by omega⟩))
  · rintro (h | h | h | ⟨ha, hle, hlt⟩)
    · exact .inl (.inl h)
    · exact .inl (.inr (.inl h))
    · exact .inl (.inr (.inr h))
    · exact .inr ⟨b, ⟨hle, by omega⟩, ha, rfl⟩

/-- A text with a dot in it is no number, unless the dot is part of a `0x`. -/
theorem isNumericHost_of_dot (hdot : '.' ∈ host.toList)
    (hhex : beginsWith host "0x" = true → '.' ∈ host.toList.drop 2) :
    isNumericHost host = false := by
  have hall : host.toList.all Char.isDigit = false := by
    rw [List.all_eq_false]
    exact ⟨'.', hdot, by decide⟩
  rw [isNumericHost, hall, Bool.and_false, Bool.false_or]
  cases hstart : beginsWith host "0x" with
  | false => rfl
  | true =>
    have hdigits : ((host.toList.drop 2).all fun c => c.isDigit || ('a' ≤ c && c ≤ 'f')) = false := by
      rw [List.all_eq_false]
      exact ⟨'.', hhex hstart, by decide⟩
    rw [hdigits, Bool.and_false]

/-- The filter on a quad: the private ranges, zero and one address. -/
theorem internalHost_dottedQuad : internalHost (dottedQuad a b c d) = true ↔
    (a = 127 ∨ a = 10 ∨ (a = 192 ∧ b = 168) ∨ (a = 172 ∧ 16 ≤ b ∧ b ≤ 31)) ∨
      (a = 0 ∧ b = 0 ∧ c = 0 ∧ d = 0) ∨ (a = 169 ∧ b = 254 ∧ c = 169 ∧ d = 254) := by
  have hdot : '.' ∈ (dottedQuad a b c d).toList := by
    rw [dottedQuad_toList]
    simp
  have hcolon : ':' ∉ (dottedQuad a b c d).toList := notMem_dottedQuad (by decide) (by decide)
  have hletter : 'l' ∉ (dottedQuad a b c d).toList := notMem_dottedQuad (by decide) (by decide)
  have hx : 'x' ∉ (dottedQuad a b c d).toList := notMem_dottedQuad (by decide) (by decide)
  have hnumeric := isNumericHost_of_dot hdot fun hhex => by
    rw [beginsWith_of_notMem (x := 'x') (by decide) hx] at hhex
    cases hhex
  have hzero : (dottedQuad a b c d == "0.0.0.0") = true ↔ a = 0 ∧ b = 0 ∧ c = 0 ∧ d = 0 := by
    have hquad : "0.0.0.0" = dottedQuad 0 0 0 0 := by decide
    rw [beq_iff_eq, hquad]
    exact dottedQuad_inj
  have hmetadata : (dottedQuad a b c d == "169.254.169.254") = true ↔
      a = 169 ∧ b = 254 ∧ c = 169 ∧ d = 254 := by
    have hquad : "169.254.169.254" = dottedQuad 169 254 169 254 := by decide
    rw [beq_iff_eq, hquad]
    exact dottedQuad_inj
  unfold internalHost
  rw [hnumeric, ne_of_notMem (x := ':') (by decide) hcolon,
    beginsWith_of_notMem (x := ':') (by decide) hcolon,
    beginsWith_of_notMem (x := ':') (by decide) hcolon,
    finishesWith_of_notMem (x := 'l') (by decide) hletter,
    finishesWith_of_notMem (x := 'l') (by decide) hletter]
  simp only [List.contains_iff_mem.mpr hdot, Bool.not_true, Bool.or_false, Bool.false_or,
    Bool.or_eq_true, hzero, hmetadata, privateRanges_dottedQuad]
  constructor
  · rintro ((h | h) | h)
    · exact .inr (.inl h)
    · exact .inr (.inr h)
    · exact .inl h
  · rintro (h | h | h)
    · exact .inr h
    · exact .inl (.inl h)
    · exact .inl (.inr h)

/-- That is what it should be, but for the rest of the link-local range. -/
theorem internalHost_iff (hlink : a = 169 → b = 254 → c = 169 ∧ d = 254) :
    internalHost (dottedQuad a b c d) = true ↔ InternalAddress a b c d := by
  rw [internalHost_dottedQuad]
  constructor
  · rintro ((h | h | h | h) | h | ⟨ha, hb, -, -⟩)
    · exact .inl h
    · exact .inr (.inl h)
    · exact .inr (.inr (.inr (.inl h)))
    · exact .inr (.inr (.inl h))
    · exact .inr (.inr (.inr (.inr (.inr h))))
    · exact .inr (.inr (.inr (.inr (.inl ⟨ha, hb⟩))))
  · rintro (h | h | h | h | ⟨ha, hb⟩ | h)
    · exact .inl (.inl h)
    · exact .inl (.inr (.inl h))
    · exact .inl (.inr (.inr (.inr h)))
    · exact .inl (.inr (.inr (.inl h)))
    · exact .inr (.inr ⟨ha, hb, hlink ha hb⟩)
    · exact .inr (.inl h)

/-! ### Names -/

/-- A local name without a trailing dot is rejected. -/
theorem internalHost_of_localName (h : LocalName host) : internalHost host = true := by
  rcases h with rfl | h | h
  · decide
  · simp [internalHost, h]
  · simp [internalHost, h]

theorem getLast?_dot (name : String) : (name ++ ".").toList.getLast? = some '.' := by
  simp

theorem ne_of_last {x : Char} (hlast : text.toList.getLast? = some x) (hx : x ≠ '.') :
    (name ++ "." == text) = false := by
  rw [beq_eq_false_iff_ne]
  rintro rfl
  rw [getLast?_dot] at hlast
  exact hx (Option.some.inj hlast).symm

theorem finishesWith_of_last {x : Char} (hlast : ending.toList.getLast? = some x) (hx : x ≠ '.') :
    finishesWith (name ++ ".") ending = false := by
  rw [Bool.eq_false_iff, ne_eq, finishesWith_iff]
  rintro ⟨before, hbefore⟩
  have hdot := getLast?_dot name
  rw [← hbefore, List.getLast?_append, hlast] at hdot
  exact hx (Option.some.inj hdot)

theorem LocalName.two_le_length (h : LocalName name) : 2 ≤ name.toList.length := by
  rcases h with rfl | h | h
  · decide
  · have hle := (finishesWith_iff.mp h).length_le
    have hlength : ".local".toList.length = 6 := by decide
    omega
  · have hle := (finishesWith_iff.mp h).length_le
    have hlength : ".internal".toList.length = 9 := by decide
    omega

/-- Of a local name with a trailing dot the filter sees only the beginning. -/
theorem internalHost_dot (hname : LocalName name) :
    internalHost (name ++ ".") = internalStart (name ++ ".") := by
  have hdot : '.' ∈ (name ++ ".").toList := by simp
  have hnumeric : isNumericHost (name ++ ".") = false := by
    refine isNumericHost_of_dot hdot fun _ => ?_
    rw [String.toList_append, List.drop_append_of_le_length hname.two_le_length]
    simp
  unfold internalHost internalStart
  rw [hnumeric, ne_of_last (x := '1') (by decide) (by decide),
    ne_of_last (x := '0') (by decide) (by decide),
    finishesWith_of_last (x := 'l') (by decide) (by decide),
    finishesWith_of_last (x := 'l') (by decide) (by decide),
    ne_of_last (x := '4') (by decide) (by decide)]
  simp only [List.contains_iff_mem.mpr hdot, Bool.not_true, Bool.or_false, Bool.false_or]

/-! ## The handler -/

/-- A URL that is rejected is never called. -/
theorem handleJoinCouncil_calls {ppPublicKey : PublicKey} {body : JoinBody}
    (hurl : body.councilUrl.bind env.parseUrl = some url) (hinternal : isInternalUrl env url = true) :
    CallsNoCouncil (handleJoinCouncil env ppPublicKey (some body)) := by
  have hcheck : ∃ message, checkCouncilUrl env body.councilUrl = .error message := by
    obtain ⟨councilUrl, hbody, hparse⟩ := Option.bind_eq_some_iff.mp hurl
    rw [checkCouncilUrl, hbody]
    cases hfilter : (some councilUrl).filter (· != "") with
    | none => exact ⟨_, rfl⟩
    | some given =>
      obtain ⟨hgiven, -⟩ := Option.filter_eq_some_iff.mp hfilter
      cases hgiven
      simp only [hparse, hinternal, if_true]
      split
      · exact ⟨_, rfl⟩
      · exact ⟨_, rfl⟩
  obtain ⟨message, hmessage⟩ := hcheck
  have hjoin : CallsNoCouncil (joinCouncil env ppPublicKey body) := by
    rw [joinCouncil, hmessage]
    exact Uses.pure _
  exact Uses.recover hjoin fun _ => Uses.pure _

/-- **The filter.** Outside development it keeps its promise about an http(s)
URL exactly if the host is not one that it misses. -/
theorem filtersInternal_iff (env : CouncilEnv) (url : Url) (hmode : env.mode ≠ "development")
    (hprotocol : url.protocol = "http:" ∨ url.protocol = "https:") :
    FiltersInternal env url ↔ ¬ MissedHost (hostOf url) := by
  have heq := isInternalUrl_eq hmode hprotocol
  constructor
  · rintro hfilters (⟨c, d, hc, hd, hhost, hother⟩ | ⟨⟨name, hhost, hname⟩, hstart⟩)
    · have hinternal := (hfilters.quad 169 254 c d (by decide) (by decide) hc hd hhost).mpr (by
        simp [InternalAddress])
      rw [heq, hhost, internalHost_dottedQuad] at hinternal
      omega
    · have hinternal := hfilters.named (.inr ⟨name, hhost, hname⟩)
      rw [heq, hhost, internalHost_dot hname, ← hhost, hstart] at hinternal
      cases hinternal
  · intro hmissed
    have hquad : ∀ a b c d, a < 256 → b < 256 → c < 256 → d < 256 →
        hostOf url = dottedQuad a b c d →
        (isInternalUrl env url = true ↔ InternalAddress a b c d) := by
      intro a b c d _ _ hc hd hhost
      have hlink : a = 169 → b = 254 → c = 169 ∧ d = 254 := by
        rintro rfl rfl
        by_contra hother
        exact hmissed (.inl ⟨c, d, hc, hd, hhost, hother⟩)
      rw [heq, hhost]
      exact internalHost_iff hlink
    have hnamed : DenotesLocal (hostOf url) → isInternalUrl env url = true := by
      rw [heq]
      rintro (hname | ⟨name, hhost, hname⟩)
      · exact internalHost_of_localName hname
      · rw [hhost, internalHost_dot hname, ← hhost]
        by_contra hstart
        exact hmissed (.inr ⟨⟨name, hhost, hname⟩, Bool.eq_false_iff.mpr hstart⟩)
    refine ⟨hquad, hnamed, fun hinternal ppPublicKey body hurl => ?_⟩
    refine handleJoinCouncil_calls hurl ?_
    rcases hinternal with ⟨a, b, c, d, ha, hb, hc, hd, hhost, haddress⟩ | hlocal
    · exact (hquad a b c d ha hb hc hd hhost).mpr haddress
    · exact hnamed hlocal

end Hosts

/-- A process in production. -/
def productionEnv (url : Url) : CouncilEnv where
  mode := "production"
  providerBaseUrl := ""
  bootSyncStartLedgerBlock := none
  parseUrl _ := some url
  publicKeyOf _ := none

theorem filtersInternal_iff_private :
    FiltersInternal (productionEnv ⟨"http:", "10.0.0.1"⟩) ⟨"http:", "10.0.0.1"⟩ := by
  refine (filtersInternal_iff _ _ (by decide) (.inl rfl)).mpr ?_
  have hhost : hostOf ⟨"http:", "10.0.0.1"⟩ = dottedQuad 10 0 0 1 := by decide
  rintro (⟨c, d, -, -, hquad, -⟩ | ⟨⟨name, hdot, -⟩, -⟩)
  · have hoctets := dottedQuad_inj.mp (hhost.symm.trans hquad)
    omega
  · have hlast : (name ++ "." == dottedQuad 10 0 0 1) = false :=
      ne_of_last (x := '1') (by decide) (by decide)
    rw [← hhost, hdot, beq_self_eq_true] at hlast
    cases hlast

/-- `localhost` with a trailing dot passes. -/
theorem localhost_dot_not_filtered :
    ¬ FiltersInternal (productionEnv ⟨"http:", "localhost."⟩) ⟨"http:", "localhost."⟩ := by
  intro hfilters
  have hinternal := hfilters.named (.inr ⟨"localhost", by decide, .inl rfl⟩)
  exact absurd hinternal (by decide)

end ProviderPlatform
