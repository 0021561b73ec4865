import SingleAuth.Lib.Table
import SingleAuth.Lib.Transition
import SingleAuth.Lib.Text

open table text transition

namespace singleauth.sso

/-- A state of a sign-in. `provider` is the one that it was created for;
`ssoProviderId` is what it records of that. -/
structure SignInState where
  (state provider ssoProviderId : String)

/-- A code that was sent to the token endpoint of a provider. -/
structure Exchange where
  provider : String
  started : SignInState

structure SignIns where
  states : List SignInState := []
  exchanges : List Exchange := []

inductive SignInEvent where
  | start (provider state : String)
  /-- The route names a provider, or the empty one on the shared route. `accepted`
  tells whether the query has a code and the provider can be used. -/
  | callback (providerID state : String) (accepted : Bool)

/-- The provider goes into the state only with a redirect URI of its own. -/
def startOIDC (redirectURI provider state : String) (signIns : SignIns) : SignIns :=
  let ssoProviderId := if trimSpace redirectURI ≠ "" then provider else ""
  { signIns with states := signIns.states ++ [⟨state, provider, ssoProviderId⟩] }

/-- The state is consumed first, whatever comes of it. -/
def handleOIDCCallback (providerID state : String) (accepted : Bool) (signIns : SignIns) : SignIns :=
  match consumeFirst (fun started => started.state = state) signIns.states with
  | none => signIns
  | some (started, states) =>
    let provider := if providerID = "" then started.ssoProviderId else providerID
    if provider ≠ "" && accepted then ⟨states, signIns.exchanges ++ [⟨provider, started⟩]⟩
    else { signIns with states }

def SignIns.step (redirectURI : String) (signIns : SignIns) : SignInEvent → SignIns
  | .start provider state => startOIDC redirectURI provider state signIns
  | .callback providerID state accepted => handleOIDCCallback providerID state accepted signIns

/-- Every code went to the provider that its state was created for. -/
def SignIns.Unmixed (signIns : SignIns) : Prop :=
  ∀ exchange ∈ signIns.exchanges, exchange.provider = exchange.started.provider

/-- A callback on the path of a provider presents a state that was created for the provider.
On the shared route there is nothing to ask for. -/
def SignIns.namesProvider (signIns : SignIns) : SignInEvent → Bool
  | .callback providerID state _ =>
    providerID = "" || signIns.states.all fun started => started.state ≠ state || started.provider = providerID
  | .start .. => true

/-- What a state records of its provider is right. -/
def SignInState.Recorded (started : SignInState) : Prop :=
  started.ssoProviderId = "" ∨ started.ssoProviderId = started.provider

structure SignIns.Sound (signIns : SignIns) : Prop where
  states : ∀ started ∈ signIns.states, started.Recorded
  unmixed : signIns.Unmixed

variable {redirectURI : String} {signIns : SignIns}

theorem SignIns.Sound.step {event : SignInEvent} (h : signIns.Sound) (hnames : signIns.namesProvider event = true) :
    (signIns.step redirectURI event).Sound := by
  cases event with
  | start provider state =>
    refine ⟨fun started hstarted => ?_, h.unmixed⟩
    rcases mem_concat.mp hstarted with hold | rfl
    · exact h.states started hold
    · exact (ite_eq_or_eq _ provider "").symm
  | callback providerID state accepted =>
    unfold SignIns.step handleOIDCCallback
    dsimp only
    split
    · exact h
    next started states hconsumed =>
    obtain ⟨hstate, hperm⟩ := consumeFirst_perm hconsumed
    have hstarted := hperm.mem_iff.mpr List.mem_cons_self
    have hkept : ∀ other ∈ states, other.Recorded :=
      fun other hother => h.states other (hperm.mem_iff.mpr (List.mem_cons_of_mem _ hother))
    have hprovider : ∀ provider, (if providerID = "" then started.ssoProviderId else providerID) = provider →
        provider ≠ "" → provider = started.provider := by
      rintro provider rfl
      split
      · exact (h.states started hstarted).resolve_left
      · next hpath =>
        intro _
        simp only [SignIns.namesProvider, hpath, decide_false, Bool.false_or, List.all_eq_true] at hnames
        have hnamed := hnames started hstarted
        exact (by simpa [of_decide_eq_true hstate] using hnamed : started.provider = providerID).symm
    generalize (if providerID = "" then started.ssoProviderId else providerID) = provider at hprovider ⊢
    split
    · next hused =>
      refine ⟨hkept, fun exchange hexchange => ?_⟩
      rcases mem_concat.mp hexchange with hold | rfl
      · exact h.unmixed exchange hold
      · exact hprovider provider rfl (of_decide_eq_true (Bool.and_eq_true_iff.mp hused).1)
    · exact ⟨hkept, h.unmixed⟩

/-- Where every callback on the path of a provider presents a state of that provider, no code goes
astray, on either route and with a redirect URI or without. -/
theorem unmixed_where_named
    (hreached : Reached (SignIns.step redirectURI) (fun signIns event => signIns.namesProvider event = true) {} signIns) :
    signIns.Unmixed :=
  (hreached.invariant SignIns.Sound ⟨by simp, by simp [SignIns.Unmixed]⟩ fun _ _ h hnames => h.step hnames).unmixed

/-- Two browsers sign in, one through the path of its provider and one on the shared route. -/
def ownCallbacks : List SignInEvent :=
  [.start "acme" "s", .start "other" "t", .callback "acme" "s" true, .callback "" "t" true]

theorem unmixed_where_named_twice :
    (ownCallbacks.foldl (SignIns.step "https://app") {}).exchanges.map (·.provider) = ["acme", "other"] ∧
      SignIns.Unmixed (ownCallbacks.foldl (SignIns.step "https://app") {}) := by
  have hnames : admits (SignIns.step "https://app") SignIns.namesProvider {} ownCallbacks = true := by decide
  exact ⟨by decide, unmixed_where_named (Reached.start.of_admits (fun _ _ h => h) hnames)⟩

/-- A state of one provider comes back on the route of another. -/
theorem mixed_up_providers :
    ¬ SignIns.Unmixed ([.start "acme" "s", .callback "other" "s" true].foldl (SignIns.step "https://app") {}) :=
  fun h => absurd (h ⟨"other", ⟨"s", "acme", _⟩⟩ List.mem_cons_self) (show "other" ≠ "acme" by decide)

end singleauth.sso
