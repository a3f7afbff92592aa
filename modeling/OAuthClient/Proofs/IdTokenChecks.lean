import OAuthClient.Identity.IdToken
import OAuthClient.Proofs.FormFields
import OAuthClient.Proofs.SignedAssertions
import OAuthClient.Proofs.StateRoundTrip
import OAuthClient.Proofs.TokenFailures

/-! # Checks of ID tokens

A token about the user is accepted exactly when it is in force, comes from the
expected issuer, is meant for the client and answers the request. These
requirements are checked in turn, and the first one that is not met is the one
that is told. A check can break off instead: an infinite time has no integer,
and only texts within ASCII are compared with a nonce. Then the failure tells
nothing of the token.
-/

namespace OAuthClient.IdToken

/-- What a token is checked against: texts, each of which may be left out, and whole seconds. -/
structure Demand where
  /-- The client for which the token must be issued. -/
  clientId : Option String := none
  /-- The issuer of the token. -/
  issuer : Option String := none
  /-- The nonce of the request. -/
  nonce : Option String := none
  /-- The seconds by which clocks may differ. -/
  skew : Int := clockSkew

/-- The expectation that a demand means. -/
def Demand.expectation (demand : Demand) : Expectation where
  clientId := (demand.clientId.map Value.text).getD .null
  issuer := (demand.issuer.map Value.text).getD .null
  nonce := (demand.nonce.map Value.text).getD .null
  skew := .int demand.skew

/-- The text of the nonce in claims; it is empty if there is none. -/
def nonceText (members : Members) : String :=
  ((Assoc.get? "nonce" members).getD (.text "")).plainText

/-! ### Requirements -/

/-- What is required of the claims of a token. -/
inductive Requirement where
  /-- The token has not expired. -/
  | unexpired
  /-- The token is already in force. -/
  | started
  /-- The token comes from the expected issuer. -/
  | issued
  /-- The token is meant for the client. -/
  | addressed
  /-- The token answers the request. -/
  | answering

namespace Requirement

/-- The requirements in the order in which they are checked. -/
def all : List Requirement := [.unexpired, .started, .issued, .addressed, .answering]

/-- The requirements that are checked before one. -/
def earlier : Requirement → List Requirement
  | .unexpired => []
  | .started => [.unexpired]
  | .issued => [.unexpired, .started]
  | .addressed => [.unexpired, .started, .issued]
  | .answering => [.unexpired, .started, .issued, .addressed]

/-- The name of the claim that a requirement is about. -/
def claim : Requirement → String
  | .unexpired => "exp"
  | .started => "nbf"
  | .issued => "iss"
  | .addressed => "aud"
  | .answering => "nonce"

/-- Whether claims meet a requirement at a time. A claim says seconds if it is an integer or can be
read as one, and empty texts demand nothing. -/
def Met (members : Members) (now : Int) (demand : Demand) : Requirement → Prop
  | .unexpired => ∃ claim seconds, Assoc.get? "exp" members = some claim ∧
      claim.toInteger = .ok seconds ∧ now - demand.skew ≤ seconds
  | .started => ∀ claim, Assoc.get? "nbf" members = some claim →
      ∃ seconds, claim.toInteger = .ok seconds ∧ seconds ≤ now + demand.skew
  | .issued => ∀ issuer, demand.issuer = some issuer → issuer ≠ "" →
      Assoc.get? "iss" members = some (.text issuer)
  | .addressed => ∀ client, demand.clientId = some client → client ≠ "" →
      Assoc.get? "aud" members = some (.text client) ∨
        ∃ audience, Assoc.get? "aud" members = some (.list audience) ∧ .text client ∈ audience
  | .answering => ∀ nonce, demand.nonce = some nonce → nonce ≠ "" → nonceText members = nonce

/-- Whether the check of a requirement breaks off: at an infinite time or at a nonce outside
ASCII. -/
def BreaksOff (members : Members) (demand : Demand) : Requirement → Prop
  | .unexpired => ∃ claim, Assoc.get? "exp" members = some claim ∧ claim.IsInfinite
  | .started => ∃ claim, Assoc.get? "nbf" members = some claim ∧ claim.IsInfinite
  | .answering => ∃ nonce, demand.nonce = some nonce ∧ nonce ≠ "" ∧
      ¬ (Text.IsAscii (nonceText members) ∧ Text.IsAscii nonce)
  | _ => False

def check (members : Members) (now : Int) (expected : Expectation) :
    Requirement → Except Failure Unit
  | .unexpired => checkExpiry members now expected
  | .started => checkStart members now expected
  | .issued => checkIssuer members expected
  | .addressed => checkAudience members expected
  | .answering => checkNonce members expected

theorem exists_later (requirement : Requirement) :
    ∃ later, all = requirement.earlier ++ requirement :: later := by
  cases requirement <;> exact ⟨_, rfl⟩

theorem mem_all (requirement : Requirement) : requirement ∈ all := by
  obtain ⟨later, hall⟩ := requirement.exists_later
  rw [hall]
  exact List.mem_append_right _ List.mem_cons_self

variable {members : Members} {now : Int} {demand : Demand}

/-- What comes of the check of a requirement. -/
inductive Yields (members : Members) (now : Int) (demand : Demand) (requirement : Requirement) :
    Except Failure Unit → Prop where
  | met (hclear : ¬ requirement.BreaksOff members demand)
      (hmet : requirement.Met members now demand) :
      Yields members now demand requirement (.ok ())
  /-- The failure names the claim. -/
  | unmet (hclear : ¬ requirement.BreaksOff members demand)
      (hunmet : ¬ requirement.Met members now demand) (reason : String) :
      Yields members now demand requirement (.error (.authorization requirement.claim reason))
  | brokenOff (hbreaks : requirement.BreaksOff members demand) {failure : Failure}
      (hother : ¬ failure.IsAuthorization) : Yields members now demand requirement (.error failure)

/-! ### Times -/

/-- The integer of a claim is missing for another reason than its kind only if it is infinite. -/
theorem numericClaim_cases (claim : Value) (name : String) :
    (claim.IsInfinite ∧ numericClaim claim name = .error .outOfRange) ∨
    (¬ claim.IsInfinite ∧ ∃ seconds, claim.toInteger = .ok seconds ∧
      numericClaim claim name = .ok seconds) ∨
    (¬ claim.IsInfinite ∧ (∀ seconds, claim.toInteger ≠ .ok seconds) ∧
      ∃ reason, numericClaim claim name = .error (.authorization name reason)) := by
  cases claim with
  | real x => cases x <;> simp [Value.IsInfinite, numericClaim, Value.toInteger]
  | text s =>
      cases hread : Text.readInteger s.toList <;>
        simp [Value.IsInfinite, numericClaim, Value.toInteger, hread]
  | _ => simp [Value.IsInfinite, numericClaim, Value.toInteger]

theorem outOfRange_not_isAuthorization : ¬ Failure.outOfRange.IsAuthorization := by
  rintro ⟨_, _, ⟨⟩⟩

theorem wrongKind_not_isAuthorization : ¬ Failure.wrongKind.IsAuthorization := by
  rintro ⟨_, _, ⟨⟩⟩

/-- The check of a time yields what the comparison of its seconds says, if it has seconds. -/
theorem yields_of_time (requirement : Requirement) {claim : Value} {misses : Int → Prop}
    [DecidablePred misses] (hbreaks : requirement.BreaksOff members demand ↔ claim.IsInfinite)
    (hmet : requirement.Met members now demand ↔
      ∃ seconds, claim.toInteger = .ok seconds ∧ ¬ misses seconds) (reason : String) :
    Yields members now demand requirement
      (numericClaim claim requirement.claim >>= fun seconds =>
        if misses seconds then .error (.authorization requirement.claim reason) else .ok ()) := by
  rcases numericClaim_cases claim requirement.claim with
    ⟨hinfinite, hnumber⟩ | ⟨hfinite, seconds, hseconds, hnumber⟩ |
    ⟨hfinite, hnone, cause, hnumber⟩ <;> rw [hnumber]
  · exact .brokenOff (hbreaks.mpr hinfinite) outOfRange_not_isAuthorization
  · change Yields _ _ _ _ (if misses seconds then _ else _)
    split
    next hmisses =>
      refine .unmet (hbreaks.not.mpr hfinite) ?_ reason
      rw [hmet]
      rintro ⟨other, hother, hkeeps⟩
      obtain rfl := Except.ok.inj (hseconds.symm.trans hother)
      exact hkeeps hmisses
    next hkeeps => exact .met (hbreaks.not.mpr hfinite) (hmet.mpr ⟨seconds, hseconds, hkeeps⟩)
  · refine .unmet (hbreaks.not.mpr hfinite) ?_ cause
    rw [hmet]
    rintro ⟨seconds, hseconds, _⟩
    exact hnone seconds hseconds

theorem yields_unexpired (members : Members) (now : Int) (demand : Demand) :
    Yields members now demand .unexpired (checkExpiry members now demand.expectation) := by
  unfold checkExpiry
  cases hclaim : Assoc.get? "exp" members with
  | none => exact .unmet (by simp [BreaksOff, hclaim]) (by simp [Met, hclaim]) _
  | some claim =>
      change Yields _ _ _ _ (numericClaim claim "exp" >>= fun seconds =>
        if (Number.whole seconds).isBelow (.whole (now - demand.skew)) then _ else _)
      simp only [Number.isBelow_whole, decide_eq_true_eq]
      exact yields_of_time .unexpired (by simp [BreaksOff, hclaim])
        (by simp [Met, hclaim]) _

theorem yields_started (members : Members) (now : Int) (demand : Demand) :
    Yields members now demand .started (checkStart members now demand.expectation) := by
  unfold checkStart
  cases hclaim : Assoc.get? "nbf" members with
  | none => exact .met (by simp [BreaksOff, hclaim]) (by simp [Met, hclaim])
  | some claim =>
      change Yields _ _ _ _ (numericClaim claim "nbf" >>= fun seconds =>
        if (Number.whole (now + demand.skew)).isBelow (.whole seconds) then _ else _)
      simp only [Number.isBelow_whole, decide_eq_true_eq]
      exact yields_of_time .started (by simp [BreaksOff, hclaim])
        (by simp [Met, hclaim]) _

/-! ### Texts -/

theorem same_text_iff {value : Value} {text : String} :
    value.same (.text text) = true ↔ value = .text text := by
  refine ⟨Value.eq_text_of_same, ?_⟩
  rintro rfl
  simp [Value.same]

theorem member_eq_text_iff {name text : String} :
    Value.member members name = .text text ↔ Assoc.get? name members = some (.text text) := by
  rw [Value.member]
  cases Assoc.get? name members <;> simp

/-- A text that is demanded is compared if it is there and not empty. -/
theorem yields_of_text (requirement : Requirement) {given : Option String} (test : Value → Bool)
    (hclear : ¬ requirement.BreaksOff members demand)
    (hmet : requirement.Met members now demand ↔
      ∀ text, given = some text → text ≠ "" → test (.text text) = true) (reason : String) :
    Yields members now demand requirement
      (if ((given.map Value.text).getD .null).isPresent &&
          !test ((given.map Value.text).getD .null) then
        .error (.authorization requirement.claim reason)
      else .ok ()) := by
  have htest : requirement.Met members now demand ↔
      ¬ (((given.map Value.text).getD .null).isPresent &&
        !test ((given.map Value.text).getD .null)) = true := by
    rw [hmet]
    cases given with
    | none => simp
    | some text => simp
  split
  next hmisses => exact .unmet hclear (fun h => htest.mp h hmisses) reason
  next hpasses => exact .met hclear (htest.mpr hpasses)

theorem yields_issued (members : Members) (now : Int) (demand : Demand) :
    Yields members now demand .issued (checkIssuer members demand.expectation) := by
  refine yields_of_text .issued (Value.member members "iss").same id ?_ _
  simp only [Met, same_text_iff, member_eq_text_iff]

theorem mem_audiences_iff {client : String} :
    (audiences members).any (·.same (.text client)) = true ↔
      Assoc.get? "aud" members = some (.text client) ∨
        ∃ audience, Assoc.get? "aud" members = some (.list audience) ∧
          .text client ∈ audience := by
  simp only [List.any_eq_true, same_text_iff]
  rw [audiences, Value.member]
  cases hclaim : Assoc.get? "aud" members with
  | none => simp
  | some claim => cases claim <;> simp [eq_comm]

theorem yields_addressed (members : Members) (now : Int) (demand : Demand) :
    Yields members now demand .addressed (checkAudience members demand.expectation) := by
  refine yields_of_text .addressed (fun client => (audiences members).any (·.same client)) id ?_ _
  simp only [Met, mem_audiences_iff]

theorem yields_answering (members : Members) (now : Int) (demand : Demand) :
    Yields members now demand .answering (checkNonce members demand.expectation) := by
  unfold checkNonce Demand.expectation
  cases hnonce : demand.nonce with
  | none => exact .met (by simp [BreaksOff, hnonce]) (by simp [Met, hnonce])
  | some nonce =>
      by_cases hempty : nonce = ""
      · subst hempty
        exact .met (by simp [BreaksOff, hnonce]) (by simp [Met, hnonce])
      · have hbreaks : Requirement.answering.BreaksOff members demand ↔
            ¬ (Text.IsAscii (nonceText members) ∧ Text.IsAscii nonce) := by
          simp [BreaksOff, hnonce, hempty]
        have hmet : Requirement.answering.Met members now demand ↔ nonceText members = nonce := by
          simp [Met, hnonce, hempty]
        change Yields _ _ _ _ (if !!nonce.isEmpty then _ else
          if (nonceText members).toList.all Text.Percent.isAscii &&
            nonce.toList.all Text.Percent.isAscii then
            if nonceText members = nonce then _ else _
          else _)
        rw [if_neg (by simpa [String.isEmpty_iff] using hempty)]
        split
        next hascii =>
          have hclear := hbreaks.not_left.mpr ((Bool.and_eq_true _ _).mp hascii)
          split
          next heq => exact .met hclear (hmet.mpr heq)
          next hne => exact .unmet hclear (hmet.not.mpr hne) _
        next hforeign =>
          refine .brokenOff (hbreaks.mpr ?_) wrongKind_not_isAuthorization
          exact fun h => hforeign ((Bool.and_eq_true _ _).mpr h)

/-- Every check yields what the claims, the time and the demand make of its requirement. -/
theorem check_yields (members : Members) (now : Int) (demand : Demand)
    (requirement : Requirement) :
    Yields members now demand requirement
      (requirement.check members now demand.expectation) := by
  cases requirement with
  | unexpired => exact yields_unexpired members now demand
  | started => exact yields_started members now demand
  | issued => exact yields_issued members now demand
  | addressed => exact yields_addressed members now demand
  | answering => exact yields_answering members now demand

theorem check_of_met {requirement : Requirement} (hclear : ¬ requirement.BreaksOff members demand)
    (hmet : requirement.Met members now demand) :
    requirement.check members now demand.expectation = .ok () := by
  have hyields := check_yields members now demand requirement
  generalize requirement.check members now demand.expectation = outcome at hyields
  cases hyields with
  | met => rfl
  | unmet _ hunmet => exact absurd hmet hunmet
  | brokenOff hbreaks => exact absurd hbreaks hclear

theorem check_of_not_met {requirement : Requirement}
    (hclear : ¬ requirement.BreaksOff members demand)
    (hunmet : ¬ requirement.Met members now demand) :
    ∃ reason, requirement.check members now demand.expectation =
      .error (.authorization requirement.claim reason) := by
  have hyields := check_yields members now demand requirement
  generalize requirement.check members now demand.expectation = outcome at hyields
  cases hyields with
  | met _ hmet => exact absurd hmet hunmet
  | unmet _ _ reason => exact ⟨reason, rfl⟩
  | brokenOff hbreaks => exact absurd hbreaks hclear

/-! ### Requirements in turn -/

theorem forM_eq_ok_iff {requirements : List Requirement}
    {run : Requirement → Except Failure Unit} :
    forM requirements run = .ok () ↔ ∀ requirement ∈ requirements, run requirement = .ok () := by
  induction requirements with
  | nil => simp [pure, Except.pure]
  | cons first rest ih =>
      rw [List.forM_cons, List.forall_mem_cons, ← ih]
      cases run first with
      | error failure => exact ⟨nofun, fun h => nomatch h.1⟩
      | ok _ => exact ⟨fun h => ⟨rfl, h⟩, fun h => h.2⟩

/-- Checks in turn end with the first one that fails. -/
theorem forM_of_first {before after : List Requirement} {requirement : Requirement}
    {run : Requirement → Except Failure Unit} {failure : Failure}
    (hbefore : ∀ other ∈ before, run other = .ok ()) (h : run requirement = .error failure) :
    forM (before ++ requirement :: after) run = .error failure := by
  induction before with
  | nil =>
      rw [List.nil_append, List.forM_cons, h]
      rfl
  | cons first rest ih =>
      rw [List.cons_append, List.forM_cons, hbefore first List.mem_cons_self]
      exact ih fun other hmem => hbefore other (List.mem_cons_of_mem _ hmem)

theorem checkClaims_object (members : Members) (now : Int) (expected : Expectation) :
    checkClaims (.object members) now expected =
      (forM all (check members now expected)).map fun _ => .object members := by
  simp only [checkClaims, all, List.forM_cons, List.forM_nil, check]
  -- The checks stand in one sequence; at each of them it ends with the failure or goes on.
  cases checkExpiry members now expected with
  | error failure => rfl
  | ok _ =>
      cases checkStart members now expected with
      | error failure => rfl
      | ok _ =>
          cases checkIssuer members expected with
          | error failure => rfl
          | ok _ =>
              cases checkAudience members expected with
              | error failure => rfl
              | ok _ => cases checkNonce members expected <;> rfl

/-- Whether requirements can be checked in turn: the first one does not break off, nor does any
other one that is reached. -/
def CanBeChecked (members : Members) (now : Int) (demand : Demand) : List Requirement → Prop
  | [] => True
  | requirement :: rest => ¬ requirement.BreaksOff members demand ∧
      (requirement.Met members now demand → CanBeChecked members now demand rest)

theorem canBeChecked_of_clear
    (hclear : ∀ requirement : Requirement, ¬ requirement.BreaksOff members demand) (now : Int)
    (requirements : List Requirement) : CanBeChecked members now demand requirements := by
  induction requirements with
  | nil => trivial
  | cons requirement rest ih => exact ⟨hclear requirement, fun _ => ih⟩

theorem forM_failsOnly_iff (requirements : List Requirement) :
    FailsOnly Failure.IsAuthorization
        (forM requirements (check members now demand.expectation)) ↔
      CanBeChecked members now demand requirements := by
  induction requirements with
  | nil => exact ⟨fun _ => trivial, fun _ => FailsOnly.ok _⟩
  | cons requirement rest ih =>
      rw [List.forM_cons, CanBeChecked]
      -- The rest is reached only behind a requirement that is met; else nothing is asked of it.
      have hyields := check_yields members now demand requirement
      generalize requirement.check members now demand.expectation = outcome at hyields
      cases hyields with
      | met hclear hmet => exact ih.trans ⟨fun h => ⟨hclear, fun _ => h⟩, fun h => h.2 hmet⟩
      | unmet hclear hunmet reason =>
          exact ⟨fun _ => ⟨hclear, fun hmet => absurd hmet hunmet⟩,
            fun _ => FailsOnly.error_iff.mpr ⟨_, _, rfl⟩⟩
      | brokenOff hbreaks hother =>
          exact ⟨fun h => absurd (FailsOnly.error_iff.mp h) hother,
            fun h => absurd hbreaks h.1⟩

end Requirement

/-! ### Tokens -/

variable {token : IdToken} {members : Members} {demand : Demand}

theorem check_of_claims (hclaims : token.claims = .ok (.object members)) (now : Int)
    (expected : Expectation) :
    token.check (.int now) expected =
      (forM Requirement.all (Requirement.check members now expected)).map
        fun _ => .object members := by
  rw [← Requirement.checkClaims_object, check, hclaims]
  rfl

/-- Which tokens with some claims are accepted, when, and what is told of the others. -/
structure AcceptsExactly (token : IdToken) (members : Members) (demand : Demand) : Prop where
  accepted : ∀ now : Int, token.check (.int now) demand.expectation = .ok (.object members) ↔
    ∀ requirement : Requirement, requirement.Met members now demand
  /-- The first requirement that is not met is told. -/
  refused : ∀ (now : Int) (requirement : Requirement),
    (∀ other ∈ requirement.earlier, other.Met members now demand) →
    ¬ requirement.Met members now demand →
      ∃ reason, token.check (.int now) demand.expectation =
        .error (.authorization requirement.claim reason)
  interval : ∀ start expiry : Int, Assoc.get? "nbf" members = some (.int start) →
    Assoc.get? "exp" members = some (.int expiry) →
    (∀ requirement ∈ [Requirement.issued, .addressed, .answering], ∀ now,
      requirement.Met members now demand) →
      ∀ now : Int, token.check (.int now) demand.expectation = .ok (.object members) ↔
        start - demand.skew ≤ now ∧ now ≤ expiry + demand.skew
  /-- A token that does not say when it comes into force has always been in force. -/
  untilExpiry : ∀ expiry : Int, Assoc.get? "nbf" members = none →
    Assoc.get? "exp" members = some (.int expiry) →
    (∀ requirement ∈ [Requirement.issued, .addressed, .answering], ∀ now,
      requirement.Met members now demand) →
      ∀ now : Int, token.check (.int now) demand.expectation = .ok (.object members) ↔
        now ≤ expiry + demand.skew

theorem check_eq_ok_iff (hclaims : token.claims = .ok (.object members))
    (hclear : ∀ requirement : Requirement, ¬ requirement.BreaksOff members demand) (now : Int) :
    token.check (.int now) demand.expectation = .ok (.object members) ↔
      ∀ requirement : Requirement, requirement.Met members now demand := by
  have hall : token.check (.int now) demand.expectation = .ok (.object members) ↔
      forM Requirement.all (Requirement.check members now demand.expectation) = .ok () := by
    rw [check_of_claims hclaims]
    cases forM Requirement.all (Requirement.check members now demand.expectation) with
    | error failure => exact ⟨nofun, nofun⟩
    | ok _ => exact ⟨fun _ => rfl, fun _ => rfl⟩
  rw [hall, Requirement.forM_eq_ok_iff]
  constructor
  · intro hpasses requirement
    by_contra hunmet
    obtain ⟨reason, hfails⟩ := Requirement.check_of_not_met (hclear requirement) hunmet
    cases hfails.symm.trans (hpasses requirement requirement.mem_all)
  · intro hmet requirement _
    exact Requirement.check_of_met (hclear requirement) (hmet requirement)

theorem check_of_first_unmet (hclaims : token.claims = .ok (.object members))
    (hclear : ∀ requirement : Requirement, ¬ requirement.BreaksOff members demand) {now : Int}
    {requirement : Requirement}
    (hearlier : ∀ other ∈ requirement.earlier, other.Met members now demand)
    (hunmet : ¬ requirement.Met members now demand) :
    ∃ reason, token.check (.int now) demand.expectation =
      .error (.authorization requirement.claim reason) := by
  obtain ⟨later, hall⟩ := requirement.exists_later
  obtain ⟨reason, hfails⟩ := Requirement.check_of_not_met (hclear requirement) hunmet
  have hpasses : ∀ other ∈ requirement.earlier,
      other.check members now demand.expectation = .ok () :=
    fun other hother => Requirement.check_of_met (hclear other) (hearlier other hother)
  refine ⟨reason, ?_⟩
  rw [check_of_claims hclaims, hall, Requirement.forM_of_first hpasses hfails]
  rfl

/-- Where the other requirements are met, only the times count. -/
theorem forall_met_iff {now : Int}
    (hothers : ∀ requirement ∈ [Requirement.issued, .addressed, .answering], ∀ now,
      requirement.Met members now demand) :
    (∀ requirement : Requirement, requirement.Met members now demand) ↔
      Requirement.unexpired.Met members now demand ∧
        Requirement.started.Met members now demand := by
  constructor
  · intro hall
    exact ⟨hall _, hall _⟩
  · rintro ⟨hunexpired, hstarted⟩ requirement
    cases requirement with
    | unexpired => exact hunexpired
    | started => exact hstarted
    | _ => exact hothers _ (by simp) now

theorem met_unexpired_iff {now expiry : Int}
    (hexpiry : Assoc.get? "exp" members = some (.int expiry)) :
    Requirement.unexpired.Met members now demand ↔ now ≤ expiry + demand.skew := by
  constructor
  · rintro ⟨claim, seconds, hclaim, hseconds, hlate⟩
    cases hexpiry.symm.trans hclaim
    cases hseconds
    omega
  · intro hlate
    exact ⟨_, expiry, hexpiry, rfl, by omega⟩

theorem met_started_iff {now start : Int}
    (hstart : Assoc.get? "nbf" members = some (.int start)) :
    Requirement.started.Met members now demand ↔ start - demand.skew ≤ now := by
  constructor
  · intro hstarted
    obtain ⟨seconds, hseconds, hearly⟩ := hstarted _ hstart
    cases hseconds
    omega
  · rintro hearly claim hclaim
    cases hstart.symm.trans hclaim
    exact ⟨start, rfl, by omega⟩

theorem met_started_of_none {now : Int} (hstart : Assoc.get? "nbf" members = none) :
    Requirement.started.Met members now demand := by
  intro claim hclaim
  cases hstart.symm.trans hclaim

theorem not_breaksOff_of_integers
    (hexpiry : ∀ claim, Assoc.get? "exp" members = some claim → ∃ seconds, claim = .int seconds)
    (hstart : ∀ claim, Assoc.get? "nbf" members = some claim → ∃ seconds, claim = .int seconds)
    (hnonce : ∀ claim, Assoc.get? "nonce" members = some claim →
      ∃ text, claim = .text text ∧ Text.IsAscii text)
    (hsent : ∀ nonce, demand.nonce = some nonce → Text.IsAscii nonce)
    (requirement : Requirement) : ¬ requirement.BreaksOff members demand := by
  cases requirement with
  | unexpired =>
      rintro ⟨claim, hclaim, hinfinite⟩
      obtain ⟨seconds, rfl⟩ := hexpiry claim hclaim
      exact hinfinite
  | started =>
      rintro ⟨claim, hclaim, hinfinite⟩
      obtain ⟨seconds, rfl⟩ := hstart claim hclaim
      exact hinfinite
  | answering =>
      rintro ⟨nonce, hgiven, _, hforeign⟩
      refine hforeign ⟨?_, hsent nonce hgiven⟩
      unfold nonceText
      cases hclaim : Assoc.get? "nonce" members with
      | none => exact rfl
      | some claim =>
          obtain ⟨text, rfl, hascii⟩ := hnonce claim hclaim
          exact hascii
  | _ => exact id

/-- A token with integers as its times and a nonce within ASCII, where they are there, is accepted
exactly when it meets every requirement, and otherwise the first one that it misses is told. -/
theorem check_accepts_exactly (hclaims : token.claims = .ok (.object members))
    (hexpiry : ∀ claim, Assoc.get? "exp" members = some claim → ∃ seconds, claim = .int seconds)
    (hstart : ∀ claim, Assoc.get? "nbf" members = some claim → ∃ seconds, claim = .int seconds)
    (hnonce : ∀ claim, Assoc.get? "nonce" members = some claim →
      ∃ text, claim = .text text ∧ Text.IsAscii text)
    (hsent : ∀ nonce, demand.nonce = some nonce → Text.IsAscii nonce) :
    AcceptsExactly token members demand := by
  -- Integers are finite and both nonces are ASCII, so no check breaks off.
  have hclear := not_breaksOff_of_integers hexpiry hstart hnonce hsent
  have haccepted := check_eq_ok_iff hclaims hclear
  refine ⟨haccepted, fun _ _ => check_of_first_unmet hclaims hclear, ?_, ?_⟩
  · intro start expiry hnbf hexp hothers now
    rw [haccepted, forall_met_iff hothers, met_unexpired_iff hexp, met_started_iff hnbf, and_comm]
  · intro expiry hnbf hexp hothers now
    rw [haccepted, forall_met_iff hothers, met_unexpired_iff hexp,
      and_iff_left (met_started_of_none hnbf)]

/-! ### A token on trial -/

def trialClaims : Members :=
  [("exp", .int 1000), ("nbf", .int 900), ("iss", .text "i"),
    ("aud", .list [.text "c", .text "d"]), ("nonce", .text "n")]

/-- A token on trial, for two clients. -/
def trial : IdToken where
  idToken := .text (Signer.encodeJson (.object []) ++ "." ++
    Signer.encodeJson (.object trialClaims) ++ "." ++ Text.Base64Url.encode [])

def trialDemand : Demand where
  clientId := some "c"
  issuer := some "i"
  nonce := some "n"

theorem plain_trialClaims : Json.Plain (.object trialClaims) := by
  have haudience : Json.Plain (.list [.text "c", .text "d"]) := by
    apply Json.Plain.list
    simp only [List.mem_cons, List.not_mem_nil, or_false]
    rintro _ (rfl | rfl) <;> exact .text _
  apply Json.plain_object_iff.mpr ⟨by decide, _⟩
  simp only [trialClaims, List.mem_cons, List.not_mem_nil, or_false]
  rintro _ (rfl | rfl | rfl | rfl | rfl)
  · exact .int (by decide +kernel)
  · exact .int (by decide +kernel)
  · exact .text _
  · exact haudience
  · exact .text _

theorem trial_claims : trial.claims = .ok (.object trialClaims) := by
  have hparts : ∀ part ∈ [Signer.encodeJson (.object []), Signer.encodeJson (.object trialClaims),
      Text.Base64Url.encode []], Text.Base64Url.IsText part := by
    simp only [List.mem_cons, List.not_mem_nil, or_false]
    rintro _ (rfl | rfl | rfl) <;> exact Text.Base64Url.isText_encode _
  rw [claims, part_of_parts hparts rfl]
  exact decodePart_encodeJson plain_trialClaims

theorem trialClaims_wellFormed :
    (∀ claim, Assoc.get? "exp" trialClaims = some claim → ∃ seconds, claim = .int seconds) ∧
    (∀ claim, Assoc.get? "nbf" trialClaims = some claim → ∃ seconds, claim = .int seconds) ∧
    (∀ claim, Assoc.get? "nonce" trialClaims = some claim →
      ∃ text, claim = .text text ∧ Text.IsAscii text) ∧
    ∀ nonce, trialDemand.nonce = some nonce → Text.IsAscii nonce := by
  refine ⟨?_, ?_, ?_, ?_⟩ <;> rintro _ ⟨⟩
  · exact ⟨1000, rfl⟩
  · exact ⟨900, rfl⟩
  · exact ⟨"n", rfl, by unfold Text.IsAscii; decide⟩
  · unfold Text.IsAscii
    decide

/-- The token on trial is accepted for two minutes before it comes into force until two minutes
after it has expired. -/
theorem trial_accepted_interval :
    trial.claims = .ok (.object trialClaims) ∧
      ∀ now : Int, trial.check (.int now) trialDemand.expectation = .ok (.object trialClaims) ↔
        780 ≤ now ∧ now ≤ 1120 := by
  obtain ⟨hexpiry, hstart, hnonce, hsent⟩ := trialClaims_wellFormed
  have haccepts := check_accepts_exactly trial_claims hexpiry hstart hnonce hsent
  refine ⟨trial_claims, haccepts.interval 900 1000 rfl rfl fun requirement hother now => ?_⟩
  cases requirement with
  | unexpired | started => simp at hother
  | issued | answering =>
      rintro _ ⟨⟩ _
      rfl
  | addressed =>
      rintro _ ⟨⟩ _
      exact .inr ⟨_, rfl, List.mem_cons_self⟩

/-! ### Failures of other kinds -/

theorem undecodable_isAuthorization : undecodable.IsAuthorization := ⟨_, _, rfl⟩

theorem claims_failsOnly {text : String} (htext : token.idToken = .text text) :
    FailsOnly Failure.IsAuthorization token.claims := by
  have hdecode (characters : List Char) :
      FailsOnly Failure.IsAuthorization (decodePart characters) := by
    unfold decodePart
    split
    next => exact FailsOnly.error_iff.mpr undecodable_isAuthorization
    next =>
      split
      next => exact FailsOnly.ok _
      next => exact FailsOnly.error_iff.mpr undecodable_isAuthorization
  rw [claims, part, htext, Value.toText, FailsOnly.bind_iff (FailsOnly.ok _)]
  refine ⟨text, rfl, ?_⟩
  split
  next => exact hdecode _
  next => exact FailsOnly.error_iff.mpr ⟨_, _, rfl⟩

/-- Whether the claims of a token can be checked at a time: those of a list or a text are refused as
such, and those of an object can be checked in turn. -/
def CanBeChecked (now : Int) (demand : Demand) : Value → Prop
  | .object members => Requirement.CanBeChecked members now demand Requirement.all
  | .list _ | .text _ => True
  | _ => False

/-- Claims that are no object but can mention the expiry are refused as such. -/
theorem checkClaims_of_mentions {claims : Value} {mentioned : Bool}
    (hmentions : mentionsExpiry claims = .ok mentioned) (now : Int) (demand : Demand) :
    FailsOnly Failure.IsAuthorization (checkClaims claims now demand.expectation) := by
  suffices hrefused : ∃ reason,
      checkClaims claims now demand.expectation = .error (.authorization "exp" reason) by
    obtain ⟨reason, hrefused⟩ := hrefused
    rw [hrefused]
    exact FailsOnly.error_iff.mpr ⟨_, _, rfl⟩
  cases claims with
  | list _ | text _ =>
      simp only [checkClaims, hmentions]
      cases mentioned <;> exact ⟨_, rfl⟩
  | _ => cases hmentions

theorem checkClaims_failsOnly_iff (claims : Value) (now : Int) :
    FailsOnly Failure.IsAuthorization (checkClaims claims now demand.expectation) ↔
      CanBeChecked now demand claims := by
  have hwrong : ¬ FailsOnly Failure.IsAuthorization
      (.error .wrongKind : Except Failure Value) :=
    fun h => Requirement.wrongKind_not_isAuthorization (FailsOnly.error_iff.mp h)
  cases claims with
  | object members =>
      rw [Requirement.checkClaims_object, FailsOnly.map_iff, Requirement.forM_failsOnly_iff]
      rfl
  | list items =>
      exact ⟨fun _ => trivial, fun _ => checkClaims_of_mentions rfl now demand⟩
  | text s =>
      exact ⟨fun _ => trivial, fun _ => checkClaims_of_mentions rfl now demand⟩
  | _ => exact ⟨fun h => hwrong h, False.elim⟩

/-- The check of a token yields claims or tells what is wrong with the token exactly when the claims
can be checked, if the token has any. -/
theorem check_failsOnly_iff {text : String} (htext : token.idToken = .text text) (now : Int) :
    FailsOnly Failure.IsAuthorization (token.check (.int now) demand.expectation) ↔
      ∀ claims, token.claims = .ok claims → CanBeChecked now demand claims := by
  have hclaims := claims_failsOnly htext
  rw [check]
  cases hread : token.claims with
  | error failure =>
      rw [hread] at hclaims
      refine ⟨fun _ => by rintro _ ⟨⟩, fun _ => ?_⟩
      exact FailsOnly.error_iff.mpr (hclaims failure rfl)
  | ok claims =>
      change FailsOnly Failure.IsAuthorization (checkClaims claims now demand.expectation) ↔ _
      rw [checkClaims_failsOnly_iff]
      constructor
      · rintro h _ ⟨⟩
        exact h
      · intro h
        exact h claims rfl

theorem trial_check_failsOnly :
    FailsOnly Failure.IsAuthorization (trial.check (.int 0) trialDemand.expectation) := by
  obtain ⟨hexpiry, hstart, hnonce, hsent⟩ := trialClaims_wellFormed
  have hclear := not_breaksOff_of_integers hexpiry hstart hnonce hsent
  refine (check_failsOnly_iff rfl 0).mpr fun claims hclaims => ?_
  obtain rfl := Except.ok.inj (trial_claims.symm.trans hclaims)
  exact Requirement.canBeChecked_of_clear hclear 0 _

/-- Claims that are a number, an infinite expiry and a nonce outside ASCII make the check of a token
fail in another way. -/
theorem checks_break_off :
    ¬ FailsOnly Failure.IsAuthorization
        (({ idToken := .text "e30.NQ." } : IdToken).check (.int 0) ({} : Demand).expectation) ∧
      ¬ FailsOnly Failure.IsAuthorization
        (({ idToken := .text "e30.eyJleHAiOkluZmluaXR5fQ." } : IdToken).check (.int 0)
          ({} : Demand).expectation) ∧
      ¬ FailsOnly Failure.IsAuthorization
        (({ idToken := .text "e30.eyJleHAiOjksIm5vbmNlIjoiw6kifQ." } : IdToken).check (.int 0)
          ({ nonce := some "n" } : Demand).expectation) := by
  refine ⟨?_, ?_, ?_⟩ <;> decide +kernel

end OAuthClient.IdToken
