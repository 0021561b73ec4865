import SingleAuth.Lib.Process

open process transition

namespace singleauth.sso

/-! ## Verified domains -/

/-- The row of a provider, and the domains that a proof was found for since the
row's domain value was last changed. -/
structure ProviderRow where
  domain : String
  domainVerified : Bool := false
  proved : List String := []

/-- `pending` tells whether a verification is under way, `found` for which names
the lookup finds its token. -/
inductive DomainRequest where
  | verifyDomain (pending : Bool) (found : String → Bool)
  | updateProvider (domain : Option String)

/-- Where a request is: before it reads the row, before its next lookup, before it writes the
row, or at its end. Between the calls it holds what it has read: the domains that are still to
be looked up, or the domain that it compares with. -/
inductive DomainPhase where
  | read (request : DomainRequest)
  | lookupTXT (found : String → Bool) (domains : List String)
  | writeDomain (domain existing : String)
  | done (answer : Except String Unit)

section

variable (parseProviderDomains : String → Option (List String))

/-- The flag is written by the id of the provider, whatever domain the row has then. Another
domain takes the flag away, compared with the row as it was read. -/
def DomainPhase.step : DomainPhase → ProviderRow → DomainPhase × ProviderRow
  | .read (.verifyDomain pending found), row =>
    if row.domainVerified then (.done (.error "DOMAIN_VERIFIED"), row)
    else if pending = false then (.done (.error "NO_PENDING_VERIFICATION"), row)
    else
      match parseProviderDomains row.domain with
      | none => (.done (.error "INVALID_DOMAIN"), row)
      | some domains => (.lookupTXT found domains, row)
  | .read (.updateProvider none), row => (.done (.ok ()), row)
  | .read (.updateProvider (some domain)), row => (.writeDomain domain row.domain, row)
  | .lookupTXT found (domain :: rest), row =>
    if found domain then (.lookupTXT found rest, { row with proved := domain :: row.proved })
    else (.done (.error "DOMAIN_VERIFICATION_FAILED"), row)
  | .lookupTXT _ [], row => (.done (.ok ()), { row with domainVerified := true })
  | .writeDomain domain existing, row =>
    (.done (.ok ()), { row with
      domain
      domainVerified := row.domainVerified && domain = existing
      proved := if domain = row.domain then row.proved else [] })
  | .done answer, row => (.done answer, row)

inductive DomainTurn where
  | start (request : DomainRequest)
  | step (number : Nat)

/-- A request comes in, or one that is under way makes its next call or lookup. -/
def advanceDomain (system : System ProviderRow DomainPhase) : DomainTurn → System ProviderRow DomainPhase
  | .start request => spawn (.read request) system
  | .step number => turn (DomainPhase.step parseProviderDomains) number system

/-- A verified row was proved for every domain that it has. -/
def ProviderRow.Proved (row : ProviderRow) : Prop :=
  row.domainVerified = true → ∀ domains ∈ parseProviderDomains row.domain, ∀ domain ∈ domains, domain ∈ row.proved

/-- What a request has read still fits the row. -/
def DomainPhase.Fits (row : ProviderRow) : DomainPhase → Prop
  | .lookupTXT _ rest => ∀ domains ∈ parseProviderDomains row.domain, ∀ domain ∈ domains, domain ∈ rest ∨ domain ∈ row.proved
  | .writeDomain _ existing => existing = row.domain
  | _ => True

end

/-- The request is between its read of the row and its write. -/
def DomainPhase.hasRead : DomainPhase → Bool
  | .lookupTXT .. | .writeDomain .. => true
  | _ => false

/-- The next call puts another domain into the row. -/
def DomainPhase.changesDomain (row : ProviderRow) : DomainPhase → Bool
  | .writeDomain domain _ => domain ≠ row.domain
  | _ => false

/-- The domain does not change while another request is between its read and its write. -/
def changesAlone (system : System ProviderRow DomainPhase) : DomainTurn → Bool
  | .start _ => true
  | .step number => (system.threads[number]?).all fun phase =>
    !phase.changesDomain system.shared || (system.threads.eraseIdx number).all fun other => !other.hasRead

variable {parseProviderDomains : String → Option (List String)} {row : ProviderRow} {phase : DomainPhase}

/-- A step of a request whose reading fits the row keeps the row proved, and its reading right. -/
theorem DomainPhase.Fits.step (hfits : phase.Fits parseProviderDomains row) (hproved : row.Proved parseProviderDomains) :
    (phase.step parseProviderDomains row).2.Proved parseProviderDomains ∧
      (phase.step parseProviderDomains row).1.Fits parseProviderDomains (phase.step parseProviderDomains row).2 := by
  match phase with
  | .read (.verifyDomain pending found) =>
    rw [DomainPhase.step]
    split_ifs
    · exact ⟨hproved, trivial⟩
    · exact ⟨hproved, trivial⟩
    split
    · exact ⟨hproved, trivial⟩
    · next domains hdomains =>
      refine ⟨hproved, fun others hothers domain hdomain => .inl ?_⟩
      rw [hdomains] at hothers
      cases hothers
      exact hdomain
  | .read (.updateProvider none) => exact ⟨hproved, trivial⟩
  | .read (.updateProvider (some domain)) => exact ⟨hproved, rfl⟩
  | .lookupTXT found (domain :: rest) =>
    rw [DomainPhase.step]
    split_ifs
    · refine ⟨fun hverified domains hdomains other hother =>
        List.mem_cons_of_mem _ (hproved hverified domains hdomains other hother), fun domains hdomains other hother => ?_⟩
      rcases hfits domains hdomains other hother with hrest | hold
      · rcases List.mem_cons.mp hrest with rfl | hrest
        · exact .inr List.mem_cons_self
        · exact .inl hrest
      · exact .inr (List.mem_cons_of_mem _ hold)
    · exact ⟨hproved, trivial⟩
  | .lookupTXT found [] =>
    -- every domain has been found when none is left to look up
    refine ⟨fun _ domains hdomains domain hdomain => ?_, trivial⟩
    exact (hfits domains hdomains domain hdomain).resolve_left List.not_mem_nil
  | .writeDomain domain existing =>
    refine ⟨fun hverified domains hdomains => ?_, trivial⟩
    obtain ⟨hkept, hsame⟩ := Bool.and_eq_true_iff.mp hverified
    have heq : domain = row.domain := (of_decide_eq_true hsame).trans hfits
    change ∀ other ∈ domains, other ∈ if domain = row.domain then row.proved else []
    rw [if_pos heq]
    exact hproved hkept domains (heq ▸ hdomains)
  | .done answer => exact ⟨hproved, trivial⟩

/-- A step that does not change the domain takes no proof away. -/
theorem DomainPhase.step_keeps (hsame : phase.changesDomain row = false) :
    (phase.step parseProviderDomains row).2.domain = row.domain ∧
      row.proved ⊆ (phase.step parseProviderDomains row).2.proved := by
  match phase with
  | .read (.verifyDomain pending found) =>
    rw [DomainPhase.step]
    split_ifs
    · exact ⟨rfl, List.Subset.refl _⟩
    · exact ⟨rfl, List.Subset.refl _⟩
    · split <;> exact ⟨rfl, List.Subset.refl _⟩
  | .lookupTXT found (domain :: rest) =>
    rw [DomainPhase.step]
    split_ifs
    · exact ⟨rfl, List.subset_cons_self _ _⟩
    · exact ⟨rfl, List.Subset.refl _⟩
  | .writeDomain domain existing =>
    have heq : domain = row.domain := by simpa [DomainPhase.changesDomain] using hsame
    refine ⟨heq, ?_⟩
    change row.proved ⊆ if domain = row.domain then row.proved else []
    rw [if_pos heq]
    exact List.Subset.refl _
  | .read (.updateProvider none) | .read (.updateProvider (some domain)) | .lookupTXT found [] | .done answer =>
    exact ⟨rfl, List.Subset.refl _⟩

/-- What another request has read fits on, if the domain stays or that request holds nothing. -/
theorem DomainPhase.Fits.other {other : DomainPhase} (hfits : other.Fits parseProviderDomains row)
    (halone : phase.changesDomain row = false ∨ other.hasRead = false) :
    other.Fits parseProviderDomains (phase.step parseProviderDomains row).2 := by
  rcases halone with hsame | hidle
  · obtain ⟨hdomain, hproved⟩ := step_keeps hsame
    cases other with
    | lookupTXT found rest =>
      intro domains hdomains domain hmem
      rw [hdomain] at hdomains
      exact (hfits domains hdomains domain hmem).imp_right fun hold => hproved hold
    | writeDomain domain existing => exact Eq.trans hfits hdomain.symm
    | _ => trivial
  · cases other with
    | lookupTXT | writeDomain => cases hidle
    | _ => trivial

/-- However requests, calls and lookups are interleaved, a verified domain was proved, as long as
the domain of the row does not change while another request is between its read of the row and
its write. Verifications may overlap each other and updates that keep the domain. -/
theorem verified_domain_proved {start : ProviderRow} {system : System ProviderRow DomainPhase}
    (hstart : start.Proved parseProviderDomains)
    (hreached : Reached (advanceDomain parseProviderDomains) (fun system event => changesAlone system event = true)
      ⟨start, []⟩ system) :
    system.shared.Proved parseProviderDomains := by
  refine (hreached.invariant (Jointly (ProviderRow.Proved parseProviderDomains)
    (fun row phase => phase.Fits parseProviderDomains row)) ⟨hstart, by simp⟩ ?_).shared
  rintro system (request | number) hsystem halone
  · exact hsystem.spawn trivial
  rcases turn_cases (DomainPhase.step parseProviderDomains) number system with
    hsame | ⟨before, phase, behind, hthreads, rfl, hturn⟩
  · rw [advanceDomain, hsame]
    exact hsystem
  have hfits := hsystem.threads
  rw [changesAlone, hthreads] at halone
  rw [hthreads] at hfits
  simp only [List.getElem?_append_right (Nat.le_refl _), Nat.sub_self, List.getElem?_cons_zero, Option.all_some,
    List.eraseIdx_append_of_length_le (Nat.le_refl _), List.eraseIdx_cons_zero, Bool.or_eq_true, Bool.not_eq_true',
    List.all_eq_true] at halone
  have hown := (hfits phase (by simp)).step hsystem.shared
  rw [advanceDomain, hturn]
  refine ⟨hown.1, fun other hother => ?_⟩
  rcases List.mem_append.mp hother with hbefore | hother
  · exact (hfits other (by simp [hbefore])).other (halone.imp_right fun hall => hall other (by simp [hbefore]))
  rcases List.mem_cons.mp hother with rfl | hbehind
  · exact hown.2
  · exact (hfits other (by simp [hbehind])).other (halone.imp_right fun hall => hall other (by simp [hbehind]))

private def afterTurns (turns : List DomainTurn) : System ProviderRow DomainPhase :=
  turns.foldl (advanceDomain fun domain => some [domain]) ⟨⟨"mine", false, []⟩, []⟩

private def proves (name : String) : DomainRequest := .verifyDomain true fun domain => domain = name

/-- Two verifications overlap. Then the domain changes, and the new one is verified. -/
private def inTurn : List DomainTurn :=
  [.start (proves "mine"), .start (proves "mine"), .step 0, .step 1, .step 0, .step 1, .step 0, .step 1,
    .start (.updateProvider (some "theirs")), .step 2, .start (proves "theirs"), .step 2, .step 3, .step 3, .step 3]

theorem verified_domain_proved_in_turn :
    ((afterTurns inTurn).shared.domain = "theirs" ∧ (afterTurns inTurn).shared.domainVerified = true) ∧
      (afterTurns inTurn).shared.Proved fun domain => some [domain] :=
  ⟨by decide, verified_domain_proved (fun h => by cases h) (Reached.start.of_admits (fun _ _ h => h) (by decide))⟩

/-- The flag is written after the domain has changed. -/
theorem verified_domain_changed :
    ¬ (afterTurns [.start (proves "mine"), .start (.updateProvider (some "theirs")), .step 0, .step 0, .step 1, .step 1,
      .step 0]).shared.Proved fun domain => some [domain] :=
  fun h => absurd (h (by decide) ["theirs"] rfl "theirs" List.mem_cons_self) (by decide)

end singleauth.sso
