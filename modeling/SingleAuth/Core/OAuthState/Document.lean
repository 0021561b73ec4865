import SingleAuth.Core.OAuthState.Codec
import SingleAuth.Lib.Json.Overlay

open dict json

namespace singleauth.core

namespace OAuthStateData

/-- The server's members of the document, absent where the field is not set. -/
def serverTable (data : OAuthStateData) : List (String × Option Value) :=
  [("callbackURL", some (.str data.callbackURL)), ("codeVerifier", some (.str data.codeVerifier)),
    ("expiresAt", some (.ofInt64 data.expiresAt)), ("oauthState", some (.str data.oauthState)),
    ("errorURL", if data.errorURL ≠ "" then some (.str data.errorURL) else none),
    ("newUserURL", if data.newUserURL ≠ "" then some (.str data.newUserURL) else none),
    ("link", data.link.map OAuthLinkState.marshal), ("requestSignUp", data.requestSignUp.map Value.bool)]

theorem serverTable_distinct (data : OAuthStateData) : DistinctNames data.serverTable := by
  have hnames : (data.serverTable.map Prod.fst).Pairwise (fun left right => spells left right = false) := by
    simp only [serverTable, List.map_cons, List.map_nil]
    decide
  exact List.pairwise_map.mp hnames

end OAuthStateData

/-- Writing a state is writing the server's members over the additional data. -/
theorem marshalOAuthState_eq_overlay (data : OAuthStateData) :
    marshalOAuthState data = data.raw.setAll (written data.serverTable) := by
  unfold marshalOAuthState OAuthStateData.serverTable
  by_cases herror : data.errorURL = "" <;> by_cases hnew : data.newUserURL = "" <;>
    cases data.link <;> cases data.requestSignUp <;>
    simp [herror, hnew, written, Dict.setAll]

def serverNames : List String :=
  ["callbackURL", "codeVerifier", "expiresAt", "oauthState", "errorURL", "newUserURL", "link", "requestSignUp"]

private theorem mem_serverNames {data : OAuthStateData} {member : String × Value}
    (hmember : member ∈ written data.serverTable) : member.1 ∈ serverNames := by
  obtain ⟨entry, hentry, hvalue⟩ := List.mem_filterMap.mp hmember
  obtain ⟨_, _, rfl⟩ := Option.map_eq_some_iff.mp hvalue
  have hname : entry.1 ∈ data.serverTable.map Prod.fst := List.mem_map_of_mem hentry
  simpa [OAuthStateData.serverTable, serverNames] using hname

/-- What is looked up in a stored state under a name that is not the server's is
what the client's additional data has there. -/
theorem get?_marshalOAuthState (data : OAuthStateData) {key : String} (hother : key ∉ serverNames) :
    (marshalOAuthState data).get? key = data.raw.get? key := by
  rw [marshalOAuthState_eq_overlay]
  refine data.raw.get?_setAll_of_not ?_
  rintro member hmember rfl
  exact hother (mem_serverNames hmember)

/-- A field that spells none of the server's names is decoded from the stored
state exactly as from the client's additional data. -/
theorem read_marshalOAuthState {α : Type} (kind : Kind α) {name : String} (content : α) (data : OAuthStateData)
    (hother : ∀ server ∈ serverNames, spells name server = false) :
    kind.read name content (marshalOAuthState data).entries = kind.read name content data.raw.entries := by
  rw [marshalOAuthState_eq_overlay]
  exact kind.read_setAll_of_other content data.raw (fun member hmember => hother _ (mem_serverNames hmember))

end singleauth.core
