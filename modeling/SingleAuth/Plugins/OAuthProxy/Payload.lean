import SingleAuth.Plugins.OAuthProxy.Types

open dict json
open singleauth.core

namespace singleauth.oauthproxy

private theorem generic_textOrOmit (content : String) : (textOrOmit content).map generic = textOrOmit content := by
  unfold textOrOmit
  split <;> rfl

private theorem read_textOrOmit (name content : String) :
    Kind.string.read name "" ((textOrOmit content).map (Prod.mk name)).toList = some content := by
  unfold textOrOmit
  split
  · rename_i hempty
    simp [Kind.read, spelled, values, hempty]
  · simp [Kind.read, spelled, values, Kind.string, Kind.scalar]

private theorem read_str (name content old : String) :
    Kind.string.read name old ((some (Value.str content)).map (Prod.mk name)).toList = some content := by
  simp [Kind.read, spelled, values, Kind.string, Kind.scalar]

private theorem read_bool (name : String) (content old : Bool) :
    Kind.bool.read name old ((some (Value.bool content)).map (Prod.mk name)).toList = some content := by
  simp [Kind.read, spelled, values, Kind.bool, Kind.scalar]

namespace PassthroughUser

theorem table_distinct (user : PassthroughUser) : DistinctNames user.table := by
  have hnames : (user.table.map Prod.fst).Pairwise (fun left right => spells left right = false) := by
    simp only [table, List.map_cons, List.map_nil]
    decide
  exact List.pairwise_map.mp hnames

theorem generic_table (user : PassthroughUser) :
    user.table.map (fun entry => (entry.1, entry.2.map generic)) = user.table := by
  simp [table, generic_textOrOmit, generic]

theorem unmarshal_written (user : PassthroughUser) :
    unmarshal zero (Dict.ofEntries (written user.table)).entries = some user := by
  have hdistinct := user.table_distinct
  have hid : ("id", some (Value.str user.id)) ∈ user.table := by simp [table]
  have hemail : ("email", some (Value.str user.email)) ∈ user.table := by simp [table]
  have hname : ("name", some (Value.str user.name)) ∈ user.table := by simp [table]
  have himage : ("image", textOrOmit user.image) ∈ user.table := by simp [table]
  have hverified : ("emailVerified", some (Value.bool user.emailVerified)) ∈ user.table := by simp [table]
  unfold unmarshal
  rw [read_written _ hdistinct hid, read_str, read_written _ hdistinct hemail, read_str,
    read_written _ hdistinct hname, read_str, read_written _ hdistinct himage, zero, read_textOrOmit,
    read_written _ hdistinct hverified, read_bool]
  rfl

end PassthroughUser

namespace PassthroughAccount

variable {F : Type} (host : Host F)

theorem table_distinct (account : PassthroughAccount) : DistinctNames (account.table host) := by
  have hnames : ((account.table host).map Prod.fst).Pairwise (fun left right => spells left right = false) := by
    simp only [table, List.map_cons, List.map_nil]
    decide
  exact List.pairwise_map.mp hnames

theorem generic_table (account : PassthroughAccount) :
    (account.table host).map (fun entry => (entry.1, entry.2.map generic)) = account.table host := by
  cases account.accessTokenExpiresAt <;> cases account.refreshTokenExpiresAt <;>
    simp [table, generic_textOrOmit, generic, Function.comp_def]

theorem unmarshal_written {account got : PassthroughAccount}
    (hgot : unmarshal host zero (Dict.ofEntries (written (account.table host))).entries = some got) :
    got.providerID = account.providerID := by
  have hprovider : ("providerId", some (Value.str account.providerID)) ∈ account.table host := by simp [table]
  unfold unmarshal at hgot
  rw [read_written _ (account.table_distinct host) hprovider, read_str] at hgot
  simp only [Option.bind_eq_bind, Option.bind_some, Option.bind_eq_some_iff, Option.some.injEq] at hgot
  obtain ⟨_, _, _, _, _, _, _, _, _, _, _, _, _, _, rfl⟩ := hgot
  rfl

end PassthroughAccount

namespace PassthroughPayload

variable {F : Type} (host : Host F)

/-- The table of a payload after its document was decoded to generic maps. -/
def genericTable (payload : PassthroughPayload F) : List (String × Option Value) :=
  (payload.table host).map (fun entry => (entry.1, entry.2.map generic))

theorem genericTable_distinct (payload : PassthroughPayload F) : DistinctNames (payload.genericTable host) := by
  have hnames : ((payload.genericTable host).map Prod.fst).Pairwise (fun left right => spells left right = false) := by
    simp only [genericTable, table, List.map_cons, List.map_nil]
    decide
  exact List.pairwise_map.mp hnames

theorem toObject_table (payload : PassthroughPayload F) :
    toObject (written (payload.table host)) = Dict.ofEntries (written (payload.genericTable host)) := by
  rw [toObject, genericMembers_written, genericTable]

/-- Whatever is decoded from a payload's document has its user and its provider. -/
theorem unmarshal_written {payload got : PassthroughPayload F} {timestamp : F}
    (hgot : unmarshal host timestamp (toObject (written (payload.table host))).entries = some got) :
    got.userInfo = payload.userInfo ∧ got.account.providerID = payload.account.providerID := by
  have huser : ("userInfo", some (.obj (Dict.ofEntries (written payload.userInfo.table)).entries)) ∈
      payload.genericTable host := by
    simp [genericTable, table, generic, genericMembers_written, PassthroughUser.generic_table]
  have haccount : ("account", some (.obj (Dict.ofEntries (written (payload.account.table host))).entries)) ∈
      payload.genericTable host := by
    simp [genericTable, table, generic, genericMembers_written, PassthroughAccount.generic_table]
  have hdistinct := payload.genericTable_distinct host
  unfold unmarshal at hgot
  rw [toObject_table, read_written _ hdistinct huser, read_written _ hdistinct haccount] at hgot
  simp only [Option.map_some, Option.toList_some, Kind.read_inline_obj, PassthroughUser.unmarshal_written,
    Option.bind_eq_bind, Option.bind_some, Option.bind_eq_some_iff, Option.some.injEq] at hgot
  obtain ⟨account, hdecoded, _, _, _, _, _, _, _, _, _, _, _, _, rfl⟩ := hgot
  exact ⟨rfl, PassthroughAccount.unmarshal_written host hdecoded⟩

end PassthroughPayload

variable {F : Type}

theorem decodePassthroughPayload_marshal (host : Host F) {payload got : PassthroughPayload F}
    (hgot : decodePassthroughPayload host (payload.marshal host) = some got) :
    got.userInfo = payload.userInfo ∧ got.account.providerID = payload.account.providerID := by
  unfold PassthroughPayload.marshal decodePassthroughPayload at hgot
  simp only [Option.bind_eq_bind, Option.bind_eq_some_iff] at hgot
  obtain ⟨timestamp, _, _, _, _, _, _, _, _, _, hgot⟩ := hgot
  split at hgot
  · cases hgot
  · exact PassthroughPayload.unmarshal_written host hgot

/-- A package does not decode as a profile: it has no timestamp. -/
theorem decodePassthroughPayload_package (host : Host F) (package : StatePackage) :
    decodePassthroughPayload host package.marshal = none := by
  have hmissing : (toObject [("state", .str package.state), ("stateCookie", .str package.stateCookie),
      ("isOAuthProxy", .bool package.isOAuthProxy)]).get? "timestamp" = none := by
    rw [toObject, genericMembers_eq_map]
    exact Dict.empty.get?_setAll_of_not (by simp)
  simp [StatePackage.marshal, decodePassthroughPayload, hmissing, timestampMilliseconds]

/-- The members of the additional data that make a state document a profile: the
server writes a callback URL itself and none of these four. -/
def NamesProfile {F : Type} (host : Host F) (data : Object) : Prop :=
  (timestampMilliseconds host (data.get? "timestamp")).isSome = true ∧
    (∃ state, stringValue (data.get? "state") = some state ∧ state ≠ "") ∧
    ((data.get? "userInfo").bind Value.object?).isSome = true ∧
    ((data.get? "account").bind Value.object?).isSome = true

private theorem timestampMilliseconds_generic (host : Host F) (value : Option Value) :
    timestampMilliseconds host (value.map generic) = timestampMilliseconds host value := by
  cases value with
  | none => rfl
  | some value => cases value <;> rfl

private theorem stringValue_generic (value : Option Value) : stringValue (value.map generic) = stringValue value := by
  cases value with
  | none => rfl
  | some value => cases value <;> rfl

private theorem object?_generic (value : Option Value) :
    ((value.map generic).bind Value.object?).isSome = (value.bind Value.object?).isSome := by
  cases value with
  | none => rfl
  | some value => cases value <;> rfl

/-- A stored state decodes as a profile only if the additional data names one. -/
theorem namesProfile_of_decode (host : Host F) {data : OAuthStateData} {payload : PassthroughPayload F}
    (hdecode : decodePassthroughPayload host (.obj (marshalOAuthState data).entries) = some payload) :
    NamesProfile host data.raw := by
  have hlookup : ∀ key, key ∉ serverNames →
      (toObject (marshalOAuthState data).entries).get? key = (data.raw.get? key).map generic := by
    intro key hkey
    rw [get?_toObject, get?_marshalOAuthState data hkey]
  simp only [decodePassthroughPayload, hlookup "timestamp" (by decide), hlookup "state" (by decide),
    hlookup "userInfo" (by decide), hlookup "account" (by decide), timestampMilliseconds_generic, stringValue_generic,
    Option.bind_eq_bind, Option.bind_eq_some_iff] at hdecode
  obtain ⟨timestamp, htimestamp, state, hstate, _, _, user, huser, account, haccount, hrest⟩ := hdecode
  split at hrest
  · cases hrest
  rename_i hnonempty
  rw [← Option.bind_eq_some_iff] at huser haccount
  refine ⟨by rw [htimestamp]; rfl, ⟨state, hstate, fun hempty => hnonempty (Or.inl hempty)⟩, ?_, ?_⟩
  · rw [← object?_generic, huser]
    rfl
  · rw [← object?_generic, haccount]
    rfl

end singleauth.oauthproxy
