import SingleAuth.Core.OAuthState.Document
import SingleAuth.Core.OAuthState.Generate

open dict json

namespace singleauth.core

/-- A server field of a plain type is left alone by the additional data: the
client's members of its spelling that the server does not overwrite have
the field's type, and the last of them that is read behind the server's own
repeats the server's value. -/
structure LeavesScalar {α : Type} (get : Value → Option α) (name : String) (isWritten : Bool) (content : α)
    (raw : Object) : Prop where
  typed : ∀ member ∈ spelled name raw.entries, (isWritten = true → member.1 ≠ name) →
    (member.2.isNull || (get member.2).isSome) = true
  last : ∀ value, lastOf get (behind name isWritten raw) = some value → value = content

/-- The same for a pointer, where a null behind the server's member counts too. -/
structure LeavesPointer {α : Type} (get : Value → Option α) (name : String) (content : Option α)
    (raw : Object) : Prop where
  typed : ∀ member ∈ spelled name raw.entries, (content.isSome = true → member.1 ≠ name) →
    (member.2.isNull || (get member.2).isSome) = true
  last : ∀ value, (behind name content.isSome raw).getLast? = some value → get value = content

/-- The only spelling of `link` that sorts behind it: the last letter is the Kelvin sign. -/
def kelvinLink : String := "lin\u212a"

/-- The link is left alone: where the server passes none, the client's last
member of that spelling is null; where it passes one, an object under the
only spelling that is read behind it repeats the server's user. -/
structure LeavesLink (link : Option OAuthLinkState) (raw : Object) : Prop where
  typed : ∀ member ∈ spelled "link" raw.entries, (link.isSome = true → member.1 ≠ "link") →
    OAuthLinkState.kind.admits member.2 = true
  absent : link = none → ∀ value, (values (spelled "link" raw.entries)).getLast? = some value → value.isNull = true
  present : ∀ server, link = some server → ∀ value, raw.get? kelvinLink = some value →
    ∃ members, value = .obj members ∧
      (∀ text, lastOf Value.string? (values (spelled "email" members)) = some text → text = server.email) ∧
      (∀ text, lastOf Value.string? (values (spelled "userId" members)) = some text → text = server.userID)

/-- The additional data leaves every field the server chose alone, and the
clock does not put the expiry at zero. -/
structure OAuthStateData.Untouched (data : OAuthStateData) : Prop where
  callbackURL : LeavesScalar Value.string? "callbackURL" true data.callbackURL data.raw
  codeVerifier : LeavesScalar Value.string? "codeVerifier" true data.codeVerifier data.raw
  errorURL : LeavesScalar Value.string? "errorURL" (data.errorURL ≠ "") data.errorURL data.raw
  newUserURL : LeavesScalar Value.string? "newUserURL" (data.newUserURL ≠ "") data.newUserURL data.raw
  oauthState : LeavesScalar Value.string? "oauthState" true data.oauthState data.raw
  link : LeavesLink data.link data.raw
  expiresAt : LeavesScalar Value.int64? "expiresAt" true data.expiresAt data.raw
  requestSignUp : LeavesPointer Value.bool? "requestSignUp" data.requestSignUp data.raw
  expiresAt_ne : data.expiresAt ≠ 0

variable {c : Char} {α : Type} {value : Value}

private theorem foldRune_eq {d : Char} (upper : Char) (hfold : foldRune c = d) (hupper : upper.val + 32 = d.val)
    (hs : d ≠ 's') (hk : d ≠ 'k') : c = d ∨ c = upper := by
  unfold foldRune at hfold
  split at hfold
  · exact absurd hfold.symm hs
  split at hfold
  · exact absurd hfold.symm hk
  unfold Char.toLower at hfold
  split at hfold
  · right
    have hval : c.val + 32 = d.val := congrArg Char.val hfold
    apply Char.ext
    exact (UInt32.add_left_inj 32).mp (hval.trans hupper.symm)
  · exact Or.inl hfold

private theorem foldRune_eq_k (hfold : foldRune c = 'k') : c = 'k' ∨ c = 'K' ∨ c = 'K' := by
  unfold foldRune at hfold
  split at hfold
  · exact absurd hfold (by decide)
  split at hfold
  · rename_i hkelvin
    exact Or.inr (Or.inr hkelvin)
  unfold Char.toLower at hfold
  split at hfold
  · have hval : c.val + 32 = 'k'.val := congrArg Char.val hfold
    have hupper : 'K'.val + 32 = 'k'.val := rfl
    exact Or.inr (Or.inl (Char.ext ((UInt32.add_left_inj 32).mp (hval.trans hupper.symm))))
  · exact Or.inl hfold

/-- Behind `link` itself a decoder reads no other spelling than the Kelvin one. -/
theorem spells_link_behind_iff (key : String) : (spells "link" key = true ∧ "link" < key) ↔ key = kelvinLink := by
  constructor
  · rintro ⟨hspells, hbehind⟩
    have hfold : key.toList.map foldRune = ['l', 'i', 'n', 'k'] := by
      simpa [spells, foldName, foldRune] using hspells
    obtain ⟨l, rest, hl, hfirst, hfold⟩ := List.map_eq_cons_iff.mp hfold
    obtain ⟨i, rest, rfl, hsecond, hfold⟩ := List.map_eq_cons_iff.mp hfold
    obtain ⟨n, rest, rfl, hthird, hfold⟩ := List.map_eq_cons_iff.mp hfold
    obtain ⟨k, rest, rfl, hfourth, hfold⟩ := List.map_eq_cons_iff.mp hfold
    rw [List.map_eq_nil_iff] at hfold
    subst hfold
    have hkey : key = String.ofList [l, i, n, k] := by rw [← hl, String.ofList_toList]
    subst hkey
    rcases foldRune_eq 'L' hfirst rfl (by decide) (by decide) with rfl | rfl <;>
      rcases foldRune_eq 'I' hsecond rfl (by decide) (by decide) with rfl | rfl <;>
      rcases foldRune_eq 'N' hthird rfl (by decide) (by decide) with rfl | rfl <;>
      rcases foldRune_eq_k hfourth with rfl | rfl | rfl <;>
      first
      | exact absurd hbehind (by decide)
      | rfl
  · rintro rfl
    decide

/-- A plain field of the document reads back the server's value exactly when
the additional data leaves it alone. -/
theorem read_scalar_iff (get : Value → Option α) (data : OAuthStateData) (name : String)
    (value? : Option Value) (zero content : α) (hentry : (name, value?) ∈ data.serverTable)
    (hwritten : ∀ value, value? = some value → get value = some content)
    (hunwritten : value? = none → zero = content) :
    (Kind.scalar get).read name zero (marshalOAuthState data).entries = some content ↔
      LeavesScalar get name value?.isSome content data.raw := by
  rw [marshalOAuthState_eq_overlay, read_overlay_eq_some_iff (Kind.scalar get) data.raw
    data.serverTable_distinct hentry (fun value hvalue => by simp [Kind.scalar, hwritten value hvalue]) hunwritten,
    foldl_scalar_eq_iff]
  exact ⟨fun hboth => ⟨hboth.1, hboth.2⟩, fun hleaves => ⟨hleaves.typed, hleaves.last⟩⟩

/-- A string that is written only when it is not empty. -/
theorem read_optional_iff (data : OAuthStateData) (name content : String)
    (hentry : (name, if content ≠ "" then some (Value.str content) else none) ∈ data.serverTable) :
    (Kind.scalar Value.string?).read name "" (marshalOAuthState data).entries = some content ↔
      LeavesScalar Value.string? name (content ≠ "") content data.raw := by
  have hread := read_scalar_iff Value.string? data name _ "" content hentry
  by_cases hempty : content = ""
  · simpa [hempty] using hread
  · simpa [hempty] using hread

theorem read_pointer_iff (get : Value → Option α) (data : OAuthStateData) (name : String)
    (value? : Option Value) (content : Option α) (hentry : (name, value?) ∈ data.serverTable)
    (hwritten : ∀ value, value? = some value → get value = content) (hset : value?.isSome = content.isSome) :
    (Kind.pointer get).read name none (marshalOAuthState data).entries = some content ↔
      LeavesPointer get name content data.raw := by
  have hwrites : ∀ value, value? = some value → (Kind.pointer get).admits value = true ∧
      ∀ current, (Kind.pointer get).store current value = content := by
    intro value hvalue
    have hsome : content.isSome = true := by rw [← hset, hvalue, Option.isSome_some]
    simp [Kind.pointer, hwritten value hvalue, hsome]
  have hleft : value? = none → none = content := by
    intro hnone
    rw [hnone, Option.isSome_none] at hset
    exact (Option.isNone_iff_eq_none.mp (by simpa using hset.symm)).symm
  rw [marshalOAuthState_eq_overlay, read_overlay_eq_some_iff (Kind.pointer get) data.raw
    data.serverTable_distinct hentry hwrites hleft, foldl_pointer_eq_iff, hset]
  exact ⟨fun hboth => ⟨hboth.1, hboth.2⟩, fun hleaves => ⟨hleaves.typed, hleaves.last⟩⟩

private theorem behind_link (raw : Object) : behind "link" true raw = (raw.get? kelvinLink).toList := by
  have hfilter : (spelled "link" raw.entries).filter (fun member => !true || decide ("link" < member.1)) =
      raw.entries.filter (fun member => member.1 == kelvinLink) := by
    rw [spelled, List.filter_filter]
    apply List.filter_congr
    intro member _
    have hiff := spells_link_behind_iff member.1
    simp only [Bool.not_true, Bool.false_or]
    rw [Bool.eq_iff_iff, Bool.and_eq_true, decide_eq_true_eq, beq_iff_eq, and_comm]
    exact hiff
  rw [behind, hfilter, raw.filter_key, values]
  cases raw.get? kelvinLink <;> rfl

/-- An object decoded over a link gives the same link exactly when the last
address and the last user it spells are those of the link. -/
private theorem unmarshal_link_eq_self_iff {link : OAuthLinkState} {members : List (String × Value)}
    (hdecodes : (OAuthLinkState.unmarshal OAuthLinkState.zero members).isSome = true) :
    OAuthLinkState.unmarshal link members = some link ↔
      (∀ text, lastOf Value.string? (values (spelled "email" members)) = some text → text = link.email) ∧
      (∀ text, lastOf Value.string? (values (spelled "userId" members)) = some text → text = link.userID) := by
  obtain ⟨decoded, hdecoded⟩ := Option.isSome_iff_exists.mp hdecodes
  obtain ⟨hemail, huser⟩ := OAuthLinkState.unmarshal_eq_some_iff.mp hdecoded
  rw [OAuthLinkState.unmarshal_eq_some_iff, Kind.read_eq_some_iff, Kind.read_eq_some_iff]
  simp only [Kind.string, foldl_scalar_eq_iff]
  exact ⟨fun hboth => ⟨hboth.1.2, hboth.2.2⟩,
    fun hboth => ⟨⟨(Kind.read_eq_some_iff.mp hemail).1, hboth.1⟩, ⟨(Kind.read_eq_some_iff.mp huser).1, hboth.2⟩⟩⟩

/-- A value decoded over a link leaves it exactly when it is an object that
repeats the link's own address and user. -/
private theorem store_link_eq_self_iff {server : OAuthLinkState} (hadmits : OAuthLinkState.kind.admits value = true) :
    OAuthLinkState.kind.store (some server) value = some server ↔
      ∃ members, value = .obj members ∧
        (∀ text, lastOf Value.string? (values (spelled "email" members)) = some text → text = server.email) ∧
        (∀ text, lastOf Value.string? (values (spelled "userId" members)) = some text → text = server.userID) := by
  cases value with
  | obj members =>
    have hdecodes : (OAuthLinkState.unmarshal OAuthLinkState.zero members).isSome = true := by
      simpa [OAuthLinkState.kind, Kind.struct, Value.isNull] using hadmits
    have hstore : OAuthLinkState.kind.store (some server) (.obj members) =
        OAuthLinkState.unmarshal server members := rfl
    rw [hstore, unmarshal_link_eq_self_iff hdecodes]
    simp
  | null | bool | num | str | arr => simp [OAuthLinkState.kind, Kind.struct, Value.object?]

private theorem kelvinLink_mem_spelled {raw : Object} (hvalue : raw.get? kelvinLink = some value) :
    (kelvinLink, value) ∈ spelled "link" raw.entries := by
  have hmember : (kelvinLink, value) ∈ raw.entries.filter (fun member => member.1 == kelvinLink) := by
    simp [raw.filter_key, hvalue]
  rw [spelled, List.mem_filter]
  exact ⟨(List.mem_filter.mp hmember).1, ((spells_link_behind_iff kelvinLink).mpr rfl).1⟩

theorem read_link_iff (data : OAuthStateData) :
    OAuthLinkState.kind.read "link" none (marshalOAuthState data).entries = some data.link ↔
      LeavesLink data.link data.raw := by
  have hentry : ("link", data.link.map OAuthLinkState.marshal) ∈ data.serverTable := by
    simp [OAuthStateData.serverTable]
  have hwrites : ∀ value, data.link.map OAuthLinkState.marshal = some value →
      OAuthLinkState.kind.admits value = true ∧ ∀ current, OAuthLinkState.kind.store current value = data.link := by
    intro value hvalue
    obtain ⟨server, hserver, rfl⟩ := Option.map_eq_some_iff.mp hvalue
    rw [hserver]
    refine ⟨?_, fun current => OAuthLinkState.unmarshal_marshal _ server⟩
    simp [OAuthLinkState.kind, Kind.struct, OAuthLinkState.marshal, OAuthLinkState.unmarshal_marshal]
  have hleft : data.link.map OAuthLinkState.marshal = none → none = data.link := by
    intro hnone
    exact (Option.map_eq_none_iff.mp hnone).symm
  rw [marshalOAuthState_eq_overlay, read_overlay_eq_some_iff OAuthLinkState.kind data.raw
    data.serverTable_distinct hentry hwrites hleft, Option.isSome_map]
  cases hlink : data.link with
  | none =>
    have hbehind : behind "link" (none : Option OAuthLinkState).isSome data.raw =
        values (spelled "link" data.raw.entries) := by
      simp [behind]
    have hfold : (∀ value ∈ values (spelled "link" data.raw.entries), OAuthLinkState.kind.admits value = true) →
        ((values (spelled "link" data.raw.entries)).foldl OAuthLinkState.kind.store none = none ↔
          ∀ last, (values (spelled "link" data.raw.entries)).getLast? = some last → last.isNull = true) :=
      foldl_struct_eq_none_iff OAuthLinkState.unmarshal_isSome
    rw [hbehind]
    constructor
    · rintro ⟨htyped, hnil⟩
      refine ⟨htyped, fun _ => ?_, by simp⟩
      exact (hfold (List.forall_mem_map.mpr (fun member hmember => htyped member hmember (by simp)))).mp hnil
    intro hleaves
    refine ⟨hleaves.typed, ?_⟩
    exact (hfold (List.forall_mem_map.mpr (fun member hmember =>
      hleaves.typed member hmember (by simp)))).mpr (hleaves.absent rfl)
  | some server =>
    rw [Option.isSome_some, behind_link]
    have hother : kelvinLink ≠ "link" := by decide
    constructor
    · rintro ⟨htyped, hfold⟩
      refine ⟨htyped, by simp, ?_⟩
      intro other hserver value hvalue
      cases hserver
      rw [hvalue] at hfold
      have hadmits := htyped (kelvinLink, value) (kelvinLink_mem_spelled hvalue) (fun _ => hother)
      exact (store_link_eq_self_iff hadmits).mp hfold
    intro hleaves
    refine ⟨hleaves.typed, ?_⟩
    cases hvalue : data.raw.get? kelvinLink with
    | none => rfl
    | some value =>
      have hadmits := hleaves.typed (kelvinLink, value) (kelvinLink_mem_spelled hvalue) (fun _ => hother)
      exact (store_link_eq_self_iff hadmits).mpr (hleaves.present server rfl value hvalue)

/-- The document is decoded to the server's own fields exactly when the
additional data leaves each of them alone. -/
theorem unmarshal_marshal_iff (data : OAuthStateData) :
    OAuthStateData.unmarshal (marshalOAuthState data) = some { data with raw := marshalOAuthState data } ↔
      LeavesScalar Value.string? "callbackURL" true data.callbackURL data.raw ∧
      LeavesScalar Value.string? "codeVerifier" true data.codeVerifier data.raw ∧
      LeavesScalar Value.string? "errorURL" (data.errorURL ≠ "") data.errorURL data.raw ∧
      LeavesScalar Value.string? "newUserURL" (data.newUserURL ≠ "") data.newUserURL data.raw ∧
      LeavesScalar Value.string? "oauthState" true data.oauthState data.raw ∧
      LeavesLink data.link data.raw ∧
      LeavesScalar Value.int64? "expiresAt" true data.expiresAt data.raw ∧
      LeavesPointer Value.bool? "requestSignUp" data.requestSignUp data.raw := by
  have hcallback := read_scalar_iff Value.string? data "callbackURL" (some (.str data.callbackURL)) ""
    data.callbackURL (by simp [OAuthStateData.serverTable]) (by simp) (by simp)
  have hverifier := read_scalar_iff Value.string? data "codeVerifier" (some (.str data.codeVerifier)) ""
    data.codeVerifier (by simp [OAuthStateData.serverTable]) (by simp) (by simp)
  have herror := read_optional_iff data "errorURL" data.errorURL (by simp [OAuthStateData.serverTable])
  have hnew := read_optional_iff data "newUserURL" data.newUserURL (by simp [OAuthStateData.serverTable])
  have hstate := read_scalar_iff Value.string? data "oauthState" (some (.str data.oauthState)) ""
    data.oauthState (by simp [OAuthStateData.serverTable]) (by simp) (by simp)
  have hexpires := read_scalar_iff Value.int64? data "expiresAt" (some (.ofInt64 data.expiresAt)) 0
    data.expiresAt (by simp [OAuthStateData.serverTable]) (by simp) (by simp)
  have hsignUp := read_pointer_iff Value.bool? data "requestSignUp" (data.requestSignUp.map Value.bool)
    data.requestSignUp (by simp [OAuthStateData.serverTable])
    (by cases data.requestSignUp <;> simp) (by cases data.requestSignUp <;> rfl)
  rw [OAuthStateData.unmarshal_eq_some_iff]
  exact and_congr hcallback (and_congr hverifier (and_congr herror (and_congr hnew (and_congr hstate
    (and_congr (read_link_iff data) (and_congr hexpires ((and_iff_left rfl).trans hsignUp)))))))

/-- A generated state is read back with exactly the server's fields if and only
if the client's additional data leaves all of them alone. -/
theorem generateOAuthState_integrity_iff {env : StateEnvironment} {body : Object} {link : Option OAuthLinkState}
    {data : OAuthStateData} {state : String} (hgenerate : generateOAuthState env body link = .ok (data, state)) :
    (∃ got, unmarshalOAuthState (marshalOAuthState data) = .ok got ∧ got.SameServerFields data) ↔
      data.Untouched := by
  have hspec := generateOAuthState_spec hgenerate
  constructor
  · rintro ⟨got, hgot, hsame⟩
    obtain ⟨hdecoded, _, _, hexpires⟩ := unmarshalOAuthState_eq_ok_iff.mp hgot
    have hraw := (OAuthStateData.unmarshal_eq_some_iff.mp hdecoded).2.2.2.2.2.2.2.2
    have hwhole : got = { data with raw := marshalOAuthState data } := by
      cases got
      cases hsame
      simp_all
    rw [hwhole] at hdecoded hexpires
    obtain ⟨hcallback, hverifier, herror, hnew, hstate, hlink, hexpiry, hsignUp⟩ :=
      (unmarshal_marshal_iff data).mp hdecoded
    exact ⟨hcallback, hverifier, herror, hnew, hstate, hlink, hexpiry, hsignUp, hexpires⟩
  · intro huntouched
    refine ⟨{ data with raw := marshalOAuthState data }, ?_, ⟨rfl, rfl, rfl, rfl, rfl, rfl, rfl, rfl⟩⟩
    rw [unmarshalOAuthState_eq_ok_iff, unmarshal_marshal_iff]
    exact ⟨⟨huntouched.callbackURL, huntouched.codeVerifier, huntouched.errorURL, huntouched.newUserURL,
      huntouched.oauthState, huntouched.link, huntouched.expiresAt, huntouched.requestSignUp⟩,
      hspec.callbackURL_ne, hspec.codeVerifier_ne, huntouched.expiresAt_ne⟩

/-- A server reached under one origin, with a random source that holds enough bytes. -/
def sampleEnvironment : StateEnvironment := ⟨"https://auth.example.com", 0, some (List.replicate 400 0)⟩

/-- A sign-in body whose additional data names the user a link is for. -/
def linkInjection : Object :=
  Dict.ofEntries [("provider", .str "github"), ("additionalData", .obj
    [("link", .obj [("email", .str "victim@example.com"), ("userId", .str "victim")])])]

private def teamBody : Object := Dict.ofEntries [("additionalData", .obj [("team", .str "blue")])]

/-- With additional data that spells no server member the state is generated, so the equivalence applies to it. -/
theorem generateOAuthState_integrity_plain :
    ∃ data state, generateOAuthState sampleEnvironment teamBody none = .ok (data, state) ∧
      ((∃ got, unmarshalOAuthState (marshalOAuthState data) = .ok got ∧ got.SameServerFields data) ↔
        data.Untouched) := by
  have hsome : (generateOAuthState sampleEnvironment teamBody none).toOption.isSome = true := by decide +kernel
  cases hgenerate : generateOAuthState sampleEnvironment teamBody none with
  | error failure =>
    rw [hgenerate] at hsome
    cases hsome
  | ok generated => exact ⟨generated.1, generated.2, rfl, generateOAuthState_integrity_iff hgenerate⟩

/-- Additional data with a `link` member makes a sign-in, for which the server
passes no link, come back as a link to the user the client names. -/
theorem generateOAuthState_link_injected :
    ¬ ∀ data state, generateOAuthState sampleEnvironment linkInjection none = .ok (data, state) →
      ∃ got, unmarshalOAuthState (marshalOAuthState data) = .ok got ∧ got.SameServerFields data := by
  have hrun : ((generateOAuthState sampleEnvironment linkInjection none).toOption.bind (fun generated =>
      (unmarshalOAuthState (marshalOAuthState generated.1)).toOption.map OAuthStateData.link)) =
        some (some ⟨"victim@example.com", "victim"⟩) := by decide +kernel
  intro hall
  cases hgenerate : generateOAuthState sampleEnvironment linkInjection none with
  | error failure =>
    rw [hgenerate] at hrun
    cases hrun
  | ok generated =>
    obtain ⟨got, hgot, hsame⟩ := hall generated.1 generated.2 hgenerate
    have hlink : got.link = none := hsame.link.trans (generateOAuthState_spec hgenerate).link_eq
    rw [hgenerate] at hrun
    simp only [Except.toOption, Option.bind_some, hgot, Option.map_some, hlink] at hrun
    cases hrun

end singleauth.core
