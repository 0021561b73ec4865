import Mathlib.Data.Rat.Floor
import SingleAuth.Lib.Fallible
import SingleAuth.Lib.Int64
import SingleAuth.Lib.Query

open bytes fallible url

namespace singleauth.oauthprovider

/-! ## The canonical form of a query -/

/-- Declares every signed parameter. -/
def signedQueryParameterNameParam : Bytes := ascii "ba_param"

def signedQueryIssuedAtParam : Bytes := ascii "ba_iat"

def signatureParam : Bytes := ascii "sig"

/-- Other implementations also escape a tilde. -/
def oauthFormEscape (value : Bytes) : Bytes :=
  (queryEscape value).flatMap fun b => if b = tilde then ascii "%7E" else [b]

def serializeOAuthQueryPairs (pairs : List (Bytes × Bytes)) : Bytes :=
  join ampersand (pairs.map fun pair => oauthFormEscape pair.1 ++ equalsSign :: oauthFormEscape pair.2)

variable (params : Values)

def canonicalizeOAuthQueryParams : Bytes := serializeOAuthQueryPairs params.sortPairs

/-- `oauthFormEscape`, byte by byte. -/
def formWriter : ComponentWriter where
  write b := if b = tilde then ascii "%7E" else queryEscapeByte b
  read b rest := by
    split
    · next htilde =>
      have hescape : queryUnescape (ascii "%7E") = some [tilde] := by decide +kernel
      rw [htilde]
      exact queryUnescape_append hescape rest
    · exact queryWriter.read b rest
  stands b := by
    split
    · have hescape : ∀ c ∈ ascii "%7E", mayStandInQuery c = true := by decide +kernel
      exact hescape
    · exact queryWriter.stands b

theorem tilde_not_mem_queryEscapeByte {b : UInt8} (h : b ≠ tilde) : tilde ∉ queryEscapeByte b :=
  forall_byte (p := fun b => b ≠ tilde → tilde ∉ queryEscapeByte b) (by decide +kernel) b h

theorem oauthFormEscape_eq (value : Bytes) : oauthFormEscape value = formWriter.component value := by
  unfold oauthFormEscape queryEscape ComponentWriter.component formWriter
  rw [List.flatMap_assoc]
  congr 1
  funext b
  dsimp only
  split
  · next htilde =>
    rw [htilde]
    decide
  rename_i hne
  -- no byte of the escape is a tilde, so each stays as it is
  have hsame : ∀ c ∈ queryEscapeByte b, (if c = tilde then ascii "%7E" else [c]) = [c] := by
    intro c hc
    apply if_neg
    rintro rfl
    exact tilde_not_mem_queryEscapeByte hne hc
  rw [List.flatMap_congr hsame, List.flatMap_singleton']

theorem serializeOAuthQueryPairs_eq (pairs : List (Bytes × Bytes)) :
    serializeOAuthQueryPairs pairs = formWriter.serialize pairs := by
  simp only [serializeOAuthQueryPairs, ComponentWriter.serialize, oauthFormEscape_eq]

variable {first second values : Values} {maxAge now : Int} {secret : Bytes} {signing : QuerySigning}
  {signed : List Values}

/-- Two queries have one canonical form when they have the same pairs, in any order. -/
theorem canonicalizeOAuthQueryParams_eq_iff :
    canonicalizeOAuthQueryParams first = canonicalizeOAuthQueryParams second ↔ first.Perm second := by
  unfold canonicalizeOAuthQueryParams
  rw [serializeOAuthQueryPairs_eq, serializeOAuthQueryPairs_eq, formWriter.serialize_injective.eq_iff,
    Values.sortPairs_eq_iff]

/-! ## Signing and verifying -/

/-- The library functions behind a signed query. -/
structure QuerySigning where
  /-- The authentication code of a message under a secret. -/
  mac : Bytes → Bytes → Bytes
  encodeToString : Bytes → Bytes
  decodeString : Bytes → Option Bytes
  /-- The finite number that a text without the spaces around it denotes. -/
  parseFloat : Bytes → Option ℚ
  mac_injective : ∀ secret, Function.Injective (mac secret)
  decode_encode : ∀ content, decodeString (encodeToString content) = some content
  encode_mac_ne_nil : ∀ secret message, encodeToString (mac secret message) ≠ []

/-- The parameters with their declaration: every name that has a value, and the declaration's own. -/
def setSignedOAuthQueryParameterNames : Values :=
  let others := params.del signedQueryParameterNameParam
  others ++ (Values.sortNames (others.names ++ [signedQueryParameterNameParam])).map
    fun name => (signedQueryParameterNameParam, name)

/-- The largest number of milliseconds, as a floating-point comparison sees it. -/
def maxMilliseconds : ℚ := 9223372036854775808

def getSignedQueryIssuedAt (signing : QuerySigning) (oauthQuery : Bytes) : Option Int := do
  let params ← parseQuery oauthQuery
  let raw := Values.get params signedQueryIssuedAtParam
  if raw = [] then none
  else
    let issuedAt ← signing.parseFloat raw
    if 0 < issuedAt ∧ issuedAt ≤ maxMilliseconds then some (int64.wrap ⌊issuedAt⌋ * 1000000) else none

def serverSignQuery (signing : QuerySigning) (values : Values) (secret : Bytes) : Bytes :=
  let declared := setSignedOAuthQueryParameterNames (values.del signatureParam)
  let code := signing.mac secret (canonicalizeOAuthQueryParams declared)
  (declared.set signatureParam (signing.encodeToString code)).encode

def minute : Int := 60000000000

/-- The time between two moments, within the range of a duration. -/
def timeSub (later earlier : Int) : Int := int64.saturate (later - earlier)

/-- The query was made at most one minute in the future, and not longer ago than the age allowed. -/
def FreshQuery (signing : QuerySigning) (unsigned : Values) (maxAge now : Int) : Prop :=
  ∃ issuedAt, getSignedQueryIssuedAt signing unsigned.encode = some issuedAt ∧
    ¬ now + minute < issuedAt ∧ ¬ maxAge < timeSub now issuedAt

instance (signing : QuerySigning) (unsigned : Values) (maxAge now : Int) :
    Decidable (FreshQuery signing unsigned maxAge now) :=
  match h : getSignedQueryIssuedAt signing unsigned.encode with
  | none => .isFalse fun ⟨_, hsome, _⟩ => nomatch h.symm.trans hsome
  | some issuedAt =>
    decidable_of_iff (¬ now + minute < issuedAt ∧ ¬ maxAge < timeSub now issuedAt)
      ⟨fun hfresh => ⟨issuedAt, h, hfresh⟩,
        fun ⟨_, hsome, hfresh⟩ => Option.some.inj (h.symm.trans hsome) ▸ hfresh⟩

def serverVerifySignedQuery (signing : QuerySigning) (raw secret : Bytes) (maxAge now : Int) :
    Except String Values := do
  let values ← expect (parseQuery raw) "oauthprovider: malformed oauth_query"
  let signatures := Values.all values signatureParam
  require (signatures.length = 1 ∧ signatures.headD [] ≠ []) "oauthprovider: missing signed query signature"
  let provided ← expect (signing.decodeString (signatures.headD []))
    "oauthprovider: malformed signed query signature"
  let unsigned := Values.del values signatureParam
  let declared := unsigned.all signedQueryParameterNameParam
  require (declared ≠ []) "oauthprovider: signed query declaration missing"
  require (∀ key ∈ unsigned.names, key ∈ declared) "oauthprovider: unsigned query parameter"
  require (provided = signing.mac secret (canonicalizeOAuthQueryParams unsigned)) "oauthprovider: invalid signed query"
  require (0 < maxAge → FreshQuery signing unsigned maxAge now) "oauthprovider: signed query expired"
  return unsigned.del signedQueryParameterNameParam

/-- What an accepted text is known to be. -/
structure AcceptedQuery (signing : QuerySigning) (raw secret : Bytes) (maxAge now : Int) (verified : Values) where
  values : Values
  signature : Bytes
  parsed : parseQuery raw = some values
  signatures : values.all signatureParam = [signature]
  nonempty : signature ≠ []
  declares : ∀ key ∈ (values.del signatureParam).names,
    key ∈ (values.del signatureParam).all signedQueryParameterNameParam
  declared : (values.del signatureParam).all signedQueryParameterNameParam ≠ []
  authentic : signing.decodeString signature
    = some (signing.mac secret (canonicalizeOAuthQueryParams (values.del signatureParam)))
  fresh : 0 < maxAge → FreshQuery signing (values.del signatureParam) maxAge now
  result : verified = (values.del signatureParam).del signedQueryParameterNameParam

variable {raw : Bytes} {verified : Values}

theorem serverVerifySignedQuery_eq_ok_iff :
    serverVerifySignedQuery signing raw secret maxAge now = .ok verified
      ↔ Nonempty (AcceptedQuery signing raw secret maxAge now verified) := by
  unfold serverVerifySignedQuery
  simp only [bind_eq_ok_iff, expect_eq_ok_iff, require_eq_ok_iff]
  constructor
  · rintro ⟨values, hparsed, _, ⟨hone, hnonempty⟩, provided, hdecoded, _, hdeclared, _, hdeclares, _, hmac, _, hfresh,
      hresult⟩
    obtain ⟨signature, hsignatures⟩ := List.length_eq_one_iff.mp hone
    rw [hsignatures] at hnonempty hdecoded
    exact ⟨values, signature, hparsed, hsignatures, hnonempty, hdeclares, hdeclared, hmac ▸ hdecoded, hfresh,
      (Except.ok.inj hresult).symm⟩
  rintro ⟨accepted⟩
  refine ⟨accepted.values, accepted.parsed, (), ?_, _, ?_, (), accepted.declared, (), accepted.declares, (), rfl, (),
    accepted.fresh, congrArg Except.ok accepted.result.symm⟩
  · rw [accepted.signatures]
    exact ⟨rfl, accepted.nonempty⟩
  · rw [accepted.signatures]
    exact accepted.authentic

/-! ## What a verified query says -/

/-- The parameters that a signature speaks for. -/
def signedParams (values : Values) : Values := (values.del signatureParam).del signedQueryParameterNameParam

theorem signedParams_of_plain (h : ∀ pair ∈ values, pair.1 ≠ signatureParam
    ∧ pair.1 ≠ signedQueryParameterNameParam) : signedParams values = values := by
  unfold signedParams Values.del
  rw [List.filter_filter, List.filter_eq_self]
  intro pair hpair
  simp [h pair hpair]

theorem plain_of_mem_signedParams {pair : Bytes × Bytes} (h : pair ∈ signedParams values) :
    pair.1 ≠ signatureParam ∧ pair.1 ≠ signedQueryParameterNameParam := by
  unfold signedParams Values.del at h
  rw [List.mem_filter, List.mem_filter, decide_eq_true_eq, decide_eq_true_eq] at h
  exact ⟨h.1.2, h.2⟩

theorem del_setSignedOAuthQueryParameterNames :
    (setSignedOAuthQueryParameterNames params).del signedQueryParameterNameParam
      = params.del signedQueryParameterNameParam := by
  unfold setSignedOAuthQueryParameterNames Values.del
  rw [List.filter_append, List.filter_filter]
  simp [List.filter_map, Function.comp_def]

theorem all_setSignedOAuthQueryParameterNames :
    (setSignedOAuthQueryParameterNames params).all signedQueryParameterNameParam
      = Values.sortNames ((params.del signedQueryParameterNameParam).names ++ [signedQueryParameterNameParam]) := by
  unfold setSignedOAuthQueryParameterNames
  rw [Values.all_append, Values.all_del_self, Values.all_tagged, if_pos rfl, List.nil_append]

theorem all_setSignedOAuthQueryParameterNames_of_ne {name : Bytes} (h : name ≠ signedQueryParameterNameParam)
    (params : Values) : (setSignedOAuthQueryParameterNames params).all name = params.all name := by
  rw [setSignedOAuthQueryParameterNames, Values.all_append, Values.all_tagged, if_neg h.symm,
    Values.all_del_of_ne h, List.append_nil]

def queryCode (signing : QuerySigning) (secret : Bytes) (values : Values) : Bytes :=
  signing.mac secret (canonicalizeOAuthQueryParams (setSignedOAuthQueryParameterNames (values.del signatureParam)))

/-- Two queries have one code when they have the same parameters, in any order. -/
theorem queryCode_eq_of_perm (h : (signedParams first).Perm (signedParams second)) :
    queryCode signing secret first = queryCode signing secret second := by
  have hnames : ∀ names : List Bytes, (Values.sortNames names).Perm names := List.perm_insertionSort (· ≤ ·)
  refine congrArg (signing.mac secret) (canonicalizeOAuthQueryParams_eq_iff.mpr (h.append (List.Perm.map _ ?_)))
  exact (hnames _).trans (((Values.names_perm h).append_right _).trans (hnames _).symm)

/-- The signature in a text is the one made for a query. -/
def CarriesSignatureOf (signing : QuerySigning) (secret raw : Bytes) (values : Values) : Prop :=
  ∃ parsed, parseQuery raw = some parsed ∧
    signing.decodeString (Values.get parsed signatureParam) = some (queryCode signing secret values)

/-- An accepted text has the parameters of the query its signature was made for, in some order. -/
theorem AcceptedQuery.perm (accepted : AcceptedQuery signing raw secret maxAge now verified)
    (hcarries : CarriesSignatureOf signing secret raw values) : verified.Perm (signedParams values) := by
  obtain ⟨parsed, hparsed, hcode⟩ := hcarries
  have hsame : accepted.values = parsed := Option.some.inj (accepted.parsed.symm.trans hparsed)
  rw [Values.get, ← hsame, accepted.signatures, List.headD_cons, accepted.authentic] at hcode
  have hcanonical := signing.mac_injective secret (Option.some.inj hcode)
  have hperm := canonicalizeOAuthQueryParams_eq_iff.mp hcanonical
  have hresult := Values.perm_del hperm signedQueryParameterNameParam
  rw [del_setSignedOAuthQueryParameterNames] at hresult
  rw [accepted.result]
  exact hresult

section

variable (h : first.all signedQueryIssuedAtParam = second.all signedQueryIssuedAtParam)
include h

/-- The time a query was made at is read from its first issue time and nothing else. -/
theorem getSignedQueryIssuedAt_encode_congr :
    getSignedQueryIssuedAt signing first.encode = getSignedQueryIssuedAt signing second.encode := by
  unfold getSignedQueryIssuedAt
  rw [Values.parseQuery_encode, Values.parseQuery_encode]
  simp only [Option.bind_eq_bind, Option.bind_some, Values.get, Values.all_grouped, h]

theorem FreshQuery.congr (hfresh : FreshQuery signing first maxAge now) : FreshQuery signing second maxAge now := by
  obtain ⟨issuedAt, hissued, hbounds⟩ := hfresh
  exact ⟨issuedAt, getSignedQueryIssuedAt_encode_congr h ▸ hissued, hbounds⟩

end

/-- A signed text is read as its parameters followed by their declaration and the signature. -/
theorem parseQuery_serverSignQuery (signing : QuerySigning) (values : Values) (secret : Bytes) :
    ∃ parsed, parseQuery (serverSignQuery signing values secret) = some parsed ∧
      Values.all parsed signatureParam = [signing.encodeToString (queryCode signing secret values)] ∧
      ∀ name, (Values.del parsed signatureParam).all name
        = (setSignedOAuthQueryParameterNames (values.del signatureParam)).all name := by
  refine ⟨_, Values.parseQuery_encode _, ?_, ?_⟩
  · rw [Values.all_grouped, Values.all_set_self]
    rfl
  intro name
  by_cases hname : name = signatureParam
  · rw [hname, Values.all_del_self]
    have hdeclaration : signatureParam ≠ signedQueryParameterNameParam := by decide
    rw [all_setSignedOAuthQueryParameterNames_of_ne hdeclaration, Values.all_del_self]
  · rw [Values.all_del_of_ne hname, Values.all_grouped, Values.all_set_of_ne hname]

/-- The server accepts what it signed, and reads the parameters that were signed. -/
theorem serverVerifySignedQuery_serverSignQuery (signing : QuerySigning) (values : Values) (secret : Bytes)
    (maxAge now : Int) (hfresh : 0 < maxAge → FreshQuery signing values maxAge now) :
    ∃ verified, serverVerifySignedQuery signing (serverSignQuery signing values secret) secret maxAge now
        = .ok verified ∧ ∀ name, verified.all name = (signedParams values).all name := by
  obtain ⟨parsed, hparsed, hsignatures, hall⟩ := parseQuery_serverSignQuery signing values secret
  have hperm := Values.perm_of_all_eq hall
  have hdeclared := hall signedQueryParameterNameParam
  rw [all_setSignedOAuthQueryParameterNames] at hdeclared
  have hself : signedQueryParameterNameParam
      ∈ (Values.del parsed signatureParam).all signedQueryParameterNameParam := by
    rw [hdeclared, Values.mem_sortNames]
    exact List.mem_concat_self
  refine ⟨(Values.del parsed signatureParam).del signedQueryParameterNameParam,
    serverVerifySignedQuery_eq_ok_iff.mpr ⟨parsed, _, hparsed, hsignatures, signing.encode_mac_ne_nil _ _, ?_,
      List.ne_nil_of_mem hself, ?_, ?_, rfl⟩, ?_⟩
  · intro key hkey
    by_cases hdeclaration : key = signedQueryParameterNameParam
    · exact hdeclaration ▸ hself
    rw [Values.mem_names, hall, all_setSignedOAuthQueryParameterNames_of_ne hdeclaration,
      ← Values.all_del_of_ne hdeclaration, ← Values.mem_names] at hkey
    rw [hdeclared, Values.mem_sortNames]
    exact List.mem_append_left _ hkey
  · rw [signing.decode_encode, queryCode, canonicalizeOAuthQueryParams_eq_iff.mpr hperm]
  · intro hage
    apply (hfresh hage).congr
    have hissued : signedQueryIssuedAtParam ≠ signedQueryParameterNameParam := by decide
    have hsignature : signedQueryIssuedAtParam ≠ signatureParam := by decide
    rw [hall, all_setSignedOAuthQueryParameterNames_of_ne hissued, Values.all_del_of_ne hsignature]
  intro name
  by_cases hdeclaration : name = signedQueryParameterNameParam
  · rw [hdeclaration, Values.all_del_self, signedParams, Values.all_del_self]
  · rw [Values.all_del_of_ne hdeclaration, hall, all_setSignedOAuthQueryParameterNames_of_ne hdeclaration,
      signedParams, Values.all_del_of_ne hdeclaration]

/-- Every accepted text whose signature the server made says what one of the signed queries says: the same values
of each name in the same order, and an issue time that is not too old. -/
def VerifiesWhatWasSigned (signing : QuerySigning) (secret : Bytes) (signed : List Values) : Prop :=
  ∀ raw maxAge now verified, serverVerifySignedQuery signing raw secret maxAge now = .ok verified →
    (∃ values ∈ signed, CarriesSignatureOf signing secret raw values) →
    ∃ values ∈ signed,
      (0 < maxAge → ∃ issuedAt, getSignedQueryIssuedAt signing values.encode = some issuedAt ∧
        timeSub now issuedAt ≤ maxAge) ∧
      ∀ name, verified.get name = values.get name ∧ verified.all name = values.all name

/-- Every reordering of the parameters of a signed query says what some signed query says. -/
def ClosedUnderReordering (signed : List Values) : Prop :=
  ∀ values ∈ signed, ∀ other : Values, other.Perm (signedParams values) →
    ∃ known ∈ signed, ∀ name, known.all name = other.all name

theorem ClosedUnderReordering.verifies
    (h : ClosedUnderReordering signed) : VerifiesWhatWasSigned signing secret signed := by
  intro raw maxAge now verified hverified ⟨values, hsigned, hcarries⟩
  obtain ⟨accepted⟩ := serverVerifySignedQuery_eq_ok_iff.mp hverified
  obtain ⟨known, hknown, hall⟩ := h values hsigned verified (accepted.perm hcarries)
  refine ⟨known, hknown, ?_, ?_⟩
  · intro hage
    have hissued : signedQueryIssuedAtParam ≠ signedQueryParameterNameParam := by decide
    have hresult := congrArg (Values.all · signedQueryIssuedAtParam) accepted.result
    have hsame : (accepted.values.del signatureParam).all signedQueryIssuedAtParam
        = known.all signedQueryIssuedAtParam := by
      rw [hall, hresult, Values.all_del_of_ne hissued]
    obtain ⟨issuedAt, htime, -, hold⟩ := (accepted.fresh hage).congr hsame
    exact ⟨issuedAt, htime, by omega⟩
  · intro name
    rw [Values.get, Values.get, hall]
    exact ⟨rfl, rfl⟩

theorem VerifiesWhatWasSigned.closed
    (h : VerifiesWhatWasSigned signing secret signed) : ClosedUnderReordering signed := by
  intro values hsigned other hperm
  have hplain : signedParams other = other :=
    signedParams_of_plain fun pair hpair => plain_of_mem_signedParams (hperm.mem_iff.mp hpair)
  have hparams : (signedParams other).Perm (signedParams values) := hplain.symm ▸ hperm
  -- what the server would write for the reordered query carries the signature of the one it signed
  obtain ⟨verified, hverified, hall⟩ := serverVerifySignedQuery_serverSignQuery signing other secret 0 0
    (fun hage => absurd hage (by decide))
  obtain ⟨parsed, hparsed, hsignatures, -⟩ := parseQuery_serverSignQuery signing other secret
  have hcarries : CarriesSignatureOf signing secret (serverSignQuery signing other secret) values := by
    refine ⟨parsed, hparsed, ?_⟩
    rw [Values.get, hsignatures, List.headD_cons, signing.decode_encode, queryCode_eq_of_perm hparams]
  obtain ⟨known, hknown, -, hnames⟩ := h _ 0 0 verified hverified ⟨values, hsigned, hcarries⟩
  refine ⟨known, hknown, fun name => ?_⟩
  rw [← (hnames name).2, hall, hplain]

/-- The verified queries are the signed ones exactly when reordering the values of a repeated parameter gives
nothing that was not signed too: the signature covers the values of a parameter, not their order. -/
theorem verifiesWhatWasSigned_iff (signing : QuerySigning) (secret : Bytes) (signed : List Values) :
    VerifiesWhatWasSigned signing secret signed ↔ ClosedUnderReordering signed :=
  ⟨VerifiesWhatWasSigned.closed, ClosedUnderReordering.verifies⟩

/-- Codes that are the messages themselves, written behind one letter. -/
def plainSigning : QuerySigning where
  mac _ message := message
  encodeToString content := 65 :: content
  decodeString
    | 65 :: content => some content
    | _ => none
  parseFloat _ := some 1700000000000
  mac_injective _ _ _ h := h
  decode_encode _ := rfl
  encode_mac_ne_nil _ _ := List.cons_ne_nil _ _

/-- A request that names its scope twice, as it is signed for the consent page. -/
def twoScopes : Values :=
  [(ascii "client_id", ascii "shop"), (ascii "scope", ascii "openid"), (ascii "scope", ascii "openid admin"),
    (signedQueryIssuedAtParam, ascii "1700000000000")]

/-- The text of a query with one of its parts moved to the front. -/
def moveFront (part text : Bytes) : Bytes := join ampersand (part :: (text.splitOn ampersand).erase part)

/-- The browser moves the second scope before the first: the text is accepted, and the scope it is read to ask for
is not the one that was signed and shown. -/
theorem signed_query_reordered : ¬ VerifiesWhatWasSigned plainSigning (ascii "secret") [twoScopes] := by
  intro h
  let raw := moveFront (ascii "scope=openid+admin") (serverSignQuery plainSigning twoScopes (ascii "secret"))
  have hverified : serverVerifySignedQuery plainSigning raw (ascii "secret") 600000000000 1700000060000000000
      = .ok [(ascii "scope", ascii "openid admin"), (signedQueryIssuedAtParam, ascii "1700000000000"),
        (ascii "client_id", ascii "shop"), (ascii "scope", ascii "openid")] := by decide +kernel
  have hcarries : ∃ values ∈ [twoScopes], CarriesSignatureOf plainSigning (ascii "secret") raw values := by
    refine ⟨twoScopes, List.mem_singleton_self _, (parseQuery raw).getD [], ?_, ?_⟩
    · decide +kernel
    · decide +kernel
  obtain ⟨values, hvalues, -, hnames⟩ := h raw _ _ _ hverified hcarries
  rw [List.mem_singleton.mp hvalues] at hnames
  exact absurd (hnames (ascii "scope")).1 (by decide +kernel)

end singleauth.oauthprovider
