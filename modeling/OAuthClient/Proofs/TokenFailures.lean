import OAuthClient.Proofs.Retries
import OAuthClient.Proofs.SilentAcquisition

/-! # How an acquisition fails

Running the grant is meant to end with a token or with a failure that tells of
the acquisition: a value that is not acceptable, a request that was not
answered, or an error of the service. Any value may stand at any place of an
answer, and some of these values fail in other ways. An answer is called
readable if it holds none of them; the acquisition ends as it is meant to
exactly when the last answer, if one arrived, is readable.
-/

namespace OAuthClient

namespace Failure

/-- Whether a failure tells of an acquisition that failed. -/
def IsOfAcquisition : Failure → Prop
  | .authorization .. | .execution .. | .service _ => True
  | _ => False

instance (failure : Failure) : Decidable failure.IsOfAcquisition := by
  cases failure <;> unfold IsOfAcquisition <;> infer_instance

end Failure

open Failure (IsOfAcquisition)

/-! ### Values of an answer -/

namespace Value

/-- Whether a value is beyond all numbers. -/
def IsInfinite : Value → Prop
  | .real (.infinite _) => True
  | _ => False

/-- Whether a value can be gone through or there is nothing in it. -/
def IsListable : Value → Prop
  | .text _ | .list _ | .object _ => True
  | value => value.isPresent = false

instance (value : Value) : Decidable value.IsListable :=
  match value with
  | .text _ | .list _ | .object _ => isTrue trivial
  | .null => isTrue rfl
  | .bool b => inferInstanceAs (Decidable ((Value.bool b).isPresent = false))
  | .int i => inferInstanceAs (Decidable ((Value.int i).isPresent = false))
  | .real x => inferInstanceAs (Decidable ((Value.real x).isPresent = false))

theorem toItems_failsOnly (value : Value) :
    FailsOnly (fun failure => ¬ failure.IsOfAcquisition) value.toItems := by
  intro failure h
  cases value <;> cases h <;> exact id

/-- The items of a value, if there is anything in it. -/
theorem exists_items_iff (value : Value) :
    (∃ items, (if value.isPresent then value.toItems else pure []) = .ok items) ↔
      value.IsListable := by
  -- A number or a truth value has no items, so it has to count as nothing there.
  cases value with
  | null => exact ⟨fun _ => rfl, fun _ => ⟨[], rfl⟩⟩
  | bool b => cases b <;> simp [IsListable, isPresent, toItems, pure, Except.pure]
  | int i =>
      by_cases hzero : i = 0 <;> simp [IsListable, isPresent, toItems, pure, Except.pure, hzero]
  | real x =>
      cases hzero : x.isZero <;> simp [IsListable, isPresent, toItems, pure, Except.pure, hzero]
  | text s => cases hs : s.isEmpty <;> simp [IsListable, isPresent, toItems, pure, Except.pure, hs]
  | list items =>
      cases hs : items.isEmpty <;> simp [IsListable, isPresent, toItems, pure, Except.pure, hs]
  | object members =>
      cases hs : members.isEmpty <;> simp [IsListable, isPresent, toItems, pure, Except.pure, hs]

end Value

namespace Token

variable {members : Members} {logPii : Bool} {clock : Number}

/-- The lifetime that the members of an answer say; one that cannot be read is the usual one. -/
def lifetimeOf (members : Members) : Int :=
  (Value.member members "expires_in").toInteger.toOption.getD defaultLifetime

/-- Whether the members of an answer make a token when the clock shows a time: no lifetime is
infinite, the scope can be listed, and the token expires at a date. -/
structure IsReadable (members : Members) (clock : Number) : Prop where
  expiresIn : ¬ (Value.member members "expires_in").IsInfinite
  extExpiresIn : ¬ (Value.member members "ext_expires_in").IsInfinite
  scope : (Value.member members "scope").IsListable
  expiry : ∃ received, Instant.ofSeconds clock = .ok received ∧
    (Instant.mk (received.micros + lifetimeOf members * Instant.perSecond)).isValid = true

theorem secondsOf_eq (value : Value) :
    (value.IsInfinite ∧ secondsOf value = .error .outOfRange) ∨
      (¬ value.IsInfinite ∧ secondsOf value = .ok value.toInteger.toOption) := by
  cases value with
  | real x => cases x <;> simp [Value.IsInfinite, secondsOf, Value.toInteger, Except.toOption]
  | text s =>
      refine .inr ⟨id, ?_⟩
      simp only [secondsOf, Value.toInteger]
      cases Text.readInteger s.toList <;> rfl
  | _ => exact .inr ⟨id, rfl⟩

theorem secondsOf_bind_failsOnly_iff {α : Type} {value : Value}
    {next : Option Int → Except Failure α} :
    FailsOnly IsOfAcquisition (secondsOf value >>= next) ↔
      ¬ value.IsInfinite ∧ FailsOnly IsOfAcquisition (next value.toInteger.toOption) := by
  rcases secondsOf_eq value with ⟨hinfinite, heq⟩ | ⟨hfinite, heq⟩ <;> rw [heq]
  · constructor
    · intro h
      exact (h _ rfl).elim
    · intro h
      exact absurd hinfinite h.1
  · exact ⟨fun h => ⟨hfinite, h⟩, fun h => h.2⟩

theorem exists_scopesOf_iff {value : Value} :
    (∃ scopes, scopesOf value = .ok scopes) ↔ value.IsListable := by
  unfold scopesOf
  split
  next s => exact ⟨fun _ => trivial, fun _ => ⟨_, rfl⟩⟩
  next => exact Value.exists_items_iff value

theorem scopesOf_failsOnly (value : Value) :
    FailsOnly (fun failure => ¬ failure.IsOfAcquisition) (scopesOf value) := by
  unfold scopesOf
  split
  next => exact FailsOnly.ok _
  next =>
    split
    next => exact value.toItems_failsOnly
    next => exact FailsOnly.ok _

end Token

namespace Instant

theorem microsOf_failsOnly (clock : Number) :
    FailsOnly (fun failure => ¬ failure.IsOfAcquisition) (microsOf clock) := by
  unfold microsOf
  split
  next => exact FailsOnly.ok _
  next => exact FailsOnly.error_iff.mpr id
  next x _ =>
    cases x.scaled? perSecond.toNat with
    | none => exact FailsOnly.error_iff.mpr id
    | some micros => exact FailsOnly.ok _

theorem ofSeconds_failsOnly (clock : Number) :
    FailsOnly (fun failure => ¬ failure.IsOfAcquisition) (ofSeconds clock) := by
  unfold ofSeconds
  cases hmicros : microsOf clock with
  | error failure => exact FailsOnly.error_iff.mpr (microsOf_failsOnly clock failure hmicros)
  | ok micros =>
      simp only [bind, Except.bind]
      split
      next => exact FailsOnly.ok _
      next => exact FailsOnly.error_iff.mpr id

theorem plus_whole (t : Instant) (seconds : Int) :
    t.plus (.whole seconds) =
      if (Instant.mk (t.micros + seconds * perSecond)).isValid then
        .ok ⟨t.micros + seconds * perSecond⟩
      else .error .outOfRange := rfl

theorem plus_bind_failsOnly_iff {α : Type} {t : Instant} {seconds : Int} {next : Instant → α} :
    FailsOnly IsOfAcquisition (do return next (← t.plus (.whole seconds))) ↔
      (Instant.mk (t.micros + seconds * perSecond)).isValid = true := by
  rw [plus_whole]
  split
  next hvalid => exact ⟨fun _ => hvalid, fun _ => FailsOnly.ok _⟩
  next hinvalid =>
    constructor
    · intro h
      exact (h _ rfl).elim
    · intro hvalid
      exact absurd hvalid hinvalid

end Instant

namespace Token

variable {members : Members} {logPii : Bool} {clock : Number}

/-- An object makes a token or says that it has none exactly when its members are readable, if it
has an access token at all. -/
theorem ofResponse_object_failsOnly_iff :
    FailsOnly IsOfAcquisition (Token.ofResponse (.object members) logPii clock) ↔
      ((Value.member members "access_token").isPresent = true → IsReadable members clock) := by
  change FailsOnly IsOfAcquisition
    (if (Value.member members "access_token").isPresent = true then _ else _) ↔ _
  cases hpresent : (Value.member members "access_token").isPresent with
  | false =>
      refine ⟨fun _ => Bool.noConfusion, fun _ => ?_⟩
      rintro _ ⟨⟩
      trivial
  | true =>
      rw [if_pos rfl]
      dsimp only
      rw [secondsOf_bind_failsOnly_iff, secondsOf_bind_failsOnly_iff,
        FailsOnly.bind_iff (scopesOf_failsOnly _)]
      simp only [FailsOnly.bind_iff (Instant.ofSeconds_failsOnly _),
        Instant.plus_bind_failsOnly_iff]
      constructor
      · rintro ⟨hexpires, hextended, scopes, hscopes, hexpiry⟩ _
        exact ⟨hexpires, hextended, exists_scopesOf_iff.mp ⟨scopes, hscopes⟩, hexpiry⟩
      · intro h
        obtain ⟨hexpires, hextended, hscope, hexpiry⟩ := h trivial
        obtain ⟨scopes, hscopes⟩ := exists_scopesOf_iff.mpr hscope
        exact ⟨hexpires, hextended, scopes, hscopes, hexpiry⟩

/-- The lifetimes of a token that is received at an instant are those that members say. -/
structure TellsLifetimes (token : Token) (members : Members) (received : Instant) : Prop where
  expiresIn : token.expiresIn = .int (lifetimeOf members)
  extExpiresIn : token.extExpiresIn =
    ((Value.member members "ext_expires_in").toInteger.toOption.map .int).getD .null
  timestamp : token.timestamp = received
  expiresOn : token.expiresOn.micros =
    received.micros + lifetimeOf members * Instant.perSecond

/-- An object with an access token and a text or nothing for its scope makes the token that its
members say, or none if there is no such date or number. -/
theorem ofResponse_object_cases {received : Instant}
    (hpresent : (Value.member members "access_token").isPresent = true)
    (hscope : (Value.member members "scope").IsTextOrNull)
    (hclock : Instant.ofSeconds clock = .ok received) :
    (IsReadable members clock ∧ ∃ scopes, ofResponse (.object members) logPii clock =
      .ok (ofReading members logPii (lifetimeOf members)
        (Value.member members "ext_expires_in").toInteger.toOption scopes received
        ⟨received.micros + lifetimeOf members * Instant.perSecond⟩)) ∨
    (¬ IsReadable members clock ∧
      ofResponse (.object members) logPii clock = .error .outOfRange) := by
  obtain ⟨text, htext⟩ := scopesOf_of_isTextOrNull hscope
  rw [ofResponse_object_of_present hpresent]
  rcases secondsOf_eq (Value.member members "expires_in") with ⟨hinfinite, heq⟩ | ⟨hfinite, heq⟩
  · rw [heq]
    exact .inr ⟨fun hreadable => hreadable.expiresIn hinfinite, rfl⟩
  rw [heq]
  rcases secondsOf_eq (Value.member members "ext_expires_in") with
    ⟨hinfinite, heq⟩ | ⟨hextended, heq⟩
  · rw [heq]
    exact .inr ⟨fun hreadable => hreadable.extExpiresIn hinfinite, rfl⟩
  rw [heq, htext, hclock]
  have hexpiry := received.plus_whole (lifetimeOf members)
  split at hexpiry
  next hvalid =>
    refine .inl ⟨⟨hfinite, hextended, exists_scopesOf_iff.mp ⟨_, htext⟩, received, hclock, hvalid⟩,
      (Text.wordsOf text).map .text, ?_⟩
    rw [lifetimeOf] at hexpiry
    simp only [bind, Except.bind, hexpiry]
    rfl
  next hinvalid =>
    refine .inr ⟨?_, ?_⟩
    · intro hreadable
      obtain ⟨other, hother, hvalid⟩ := hreadable.expiry
      obtain rfl := Except.ok.inj (hclock.symm.trans hother)
      exact hinvalid hvalid
    · rw [lifetimeOf] at hexpiry
      simp only [bind, Except.bind, hexpiry]

/-- An object with an access token and a text or nothing for its scope makes a token with the
lifetimes that it says exactly when its members are readable. No other one makes a token. -/
theorem ofResponse_tellsLifetimes_iff {received : Instant}
    (hpresent : (Value.member members "access_token").isPresent = true)
    (hscope : (Value.member members "scope").IsTextOrNull)
    (hclock : Instant.ofSeconds clock = .ok received) :
    ((∃ token, ofResponse (.object members) logPii clock = .ok token ∧
        token.TellsLifetimes members received) ↔ IsReadable members clock) ∧
      (¬ IsReadable members clock →
        ofResponse (.object members) logPii clock = .error .outOfRange) := by
  rcases ofResponse_object_cases hpresent hscope hclock with
    ⟨hreadable, scopes, heq⟩ | ⟨hunreadable, heq⟩
  · refine ⟨iff_of_true ⟨_, heq, ?_⟩ hreadable, absurd hreadable⟩
    exact ⟨rfl, rfl, rfl, rfl⟩
  · refine ⟨iff_of_false ?_ hunreadable, fun _ => heq⟩
    rintro ⟨token, htoken, -⟩
    cases heq.symm.trans htoken

/-- Digits with a sign and blanks, and a number with a fraction, are lifetimes. -/
theorem written_lifetimes_are_told :
    let members : Members := [("access_token", .text "t"), ("expires_in", .text " +1_0\t"),
      ("ext_expires_in", .real (.finite true 7 (-2)))]
    ∃ token received, ofResponse (.object members) false (.whole 5) = .ok token ∧
      Instant.ofSeconds (.whole 5) = .ok received ∧ token.TellsLifetimes members received ∧
      token.expiresIn = .int 10 ∧ token.extExpiresIn = .int (-1) := by
  intro members
  have hclock : Instant.ofSeconds (.whole 5) = .ok ⟨5 * Instant.perSecond⟩ := rfl
  have hreadable : IsReadable members (.whole 5) :=
    ⟨id, id, rfl, _, hclock, by decide⟩
  obtain ⟨token, htoken, htold⟩ :=
    (ofResponse_tellsLifetimes_iff rfl (.inl rfl) hclock).1.mpr hreadable
  exact ⟨token, _, htoken, hclock, htold, htold.expiresIn, htold.extExpiresIn⟩

/-- Lifetimes that are infinite or end after the last date make no token. -/
theorem endless_lifetimes_make_no_token :
    ofResponse (.object [("access_token", .text "t"), ("expires_in", .real (.infinite false))])
      false (.whole 0) = .error .outOfRange ∧
    ofResponse (.object [("access_token", .text "t"), ("ext_expires_in", .real (.infinite true))])
      false (.whole 0) = .error .outOfRange ∧
    ofResponse (.object [("access_token", .text "t"), ("expires_in", .int 1000000000000)])
      false (.whole 0) = .error .outOfRange :=
  ⟨rfl, rfl, rfl⟩

end Token

namespace Response

/-- Whether an answer of the token endpoint can be read when the clock shows a time. The codes of an
error can be listed; anything but an error is an object, which has no access token or makes a token,
or is no JSON at all. -/
def IsReadable (response : Response) (clock : Number) : Prop :=
  if response.isOk = true then
    ∀ body, response.json = .ok body → ∃ members, body = .object members ∧
      ((Value.member members "access_token").isPresent = true → Token.IsReadable members clock)
  else
    ∀ members, response.json = .ok (.object members) →
      (Value.member members "error_codes").IsListable

end Response

namespace ServiceError

variable {response : Response}

/-- The codes of an error. -/
def codesOf (response : Response) : Value :=
  Value.member (response.jsonOrEmpty.members?.getD []) "error_codes"

theorem codesOf_isListable_iff :
    (codesOf response).IsListable ↔ ∀ members, response.json = .ok (.object members) →
      (Value.member members "error_codes").IsListable := by
  rw [codesOf, Response.jsonOrEmpty]
  cases response.json with
  | error failure => exact ⟨fun _ => by rintro _ ⟨⟩, fun _ => rfl⟩
  | ok body =>
      cases body with
      | object members =>
          constructor
          · rintro h _ ⟨⟩
            exact h
          · intro h
            exact h members rfl
      | _ => exact ⟨fun _ => by rintro _ ⟨⟩, fun _ => rfl⟩

/-- An error is read exactly when its codes can be listed, if there are any. -/
theorem ofResponse_cases (response : Response) :
    ((codesOf response).IsListable ∧
      ∃ error, ofResponse response = .ok error ∧ error.status = some response.status) ∨
    (¬ (codesOf response).IsListable ∧
      ∃ failure, ofResponse response = .error failure ∧ ¬ failure.IsOfAcquisition) := by
  rw [← Value.exists_items_iff]
  unfold ofResponse
  dsimp only
  rw [codesOf]
  split
  next =>
    cases hitems : (Value.member (response.jsonOrEmpty.members?.getD []) "error_codes").toItems with
    | ok items => exact .inl ⟨⟨items, rfl⟩, _, rfl, rfl⟩
    | error failure =>
        refine .inr ⟨?_, failure, rfl, Value.toItems_failsOnly _ failure hitems⟩
        rintro ⟨_, ⟨⟩⟩
  next => exact .inl ⟨⟨[], rfl⟩, _, rfl, rfl⟩

end ServiceError

namespace Token

variable {response : Response} {logPii : Bool} {clock : Number}

theorem ofAnswer_of_not_isOk (h : response.isOk = false) :
    Token.ofAnswer response logPii clock =
      ServiceError.ofResponse response >>= fun error => .error (.service error) := by
  rw [ofAnswer, h]
  cases ServiceError.ofResponse response <;> rfl

/-- An answer ends an acquisition as it is meant to exactly when it is readable. -/
theorem ofAnswer_failsOnly_iff :
    FailsOnly IsOfAcquisition (Token.ofAnswer response logPii clock) ↔
      response.IsReadable clock := by
  rw [Response.IsReadable]
  cases hok : response.isOk with
  | false =>
      rw [if_neg Bool.noConfusion, ← ServiceError.codesOf_isListable_iff, ofAnswer_of_not_isOk hok]
      rcases ServiceError.ofResponse_cases response with
        ⟨hcodes, error, heq, _⟩ | ⟨hcodes, failure, heq, hfailure⟩ <;> rw [heq]
      · exact ⟨fun _ => hcodes, fun _ => FailsOnly.error_iff.mpr trivial⟩
      · exact ⟨fun h => absurd (h failure rfl) hfailure, fun h => absurd h hcodes⟩
  | true =>
      rw [ofAnswer, hok]
      simp only [if_true]
      cases response.json with
      | error failure =>
          refine ⟨fun _ => by rintro _ ⟨⟩, fun _ => ?_⟩
          rintro _ ⟨⟩
          trivial
      | ok body =>
          dsimp only
          cases body with
          | object members =>
              rw [ofResponse_object_failsOnly_iff]
              constructor
              · rintro h _ ⟨⟩
                exact ⟨members, rfl, h⟩
              · intro h
                obtain ⟨_, heq, hreadable⟩ := h _ rfl
                cases heq
                exact hreadable
          | _ =>
              constructor
              · intro h
                exact (h _ rfl).elim
              · intro h
                obtain ⟨_, heq, _⟩ := h _ rfl
                cases heq

/-- An error of the service is told as one when it can be read. -/
theorem ofAnswer_of_isReadable (hok : response.isOk = false)
    (hreadable : response.IsReadable clock) :
    ∃ error, Token.ofAnswer response logPii clock = .error (.service error) ∧
      error.status = some response.status := by
  rw [Response.IsReadable, hok, if_neg Bool.noConfusion,
    ← ServiceError.codesOf_isListable_iff] at hreadable
  rw [ofAnswer_of_not_isOk hok]
  rcases ServiceError.ofResponse_cases response with
    ⟨_, error, heq, hstatus⟩ | ⟨hcodes, _⟩
  · rw [heq]
    exact ⟨error, rfl, hstatus⟩
  · exact absurd hreadable hcodes

end Token

/-! ### Running the grant -/

/-- Whether a failure tells that a request got no answer. -/
def Failure.IsUnanswered (failure : Failure) : Prop := ∃ reason, failure = .execution reason none

theorem asExecution_failsOnly (what : String) {request : Action World Response} {world : World}
    (hrequest : FailsOnly Failure.IsTransport (request.perform world).1) :
    FailsOnly Failure.IsUnanswered ((asExecution what request).perform world).1 := by
  intro failure h
  rw [asExecution, Action.perform_attempt_bind] at h
  cases hresult : (request.perform world).1 with
  | ok response =>
      rw [hresult] at h
      cases h
  | error cause =>
      obtain ⟨fault, reason, rfl⟩ := hrequest cause hresult
      rw [hresult] at h
      exact ⟨_, (Except.error.inj h).symm⟩

theorem Credential.execute_failsOnly {credential : Credential} {world : World} {fields : Fields}
    (hform : (credential.form.perform world).1 = .ok fields)
    (hclient : credential.client.CanRetry) (hreplies : ∀ reply ∈ world.replies, ¬ reply.IsStop) :
    FailsOnly Failure.IsUnanswered (credential.execute.perform world).1 := by
  rw [execute, Action.perform_bind]
  split
  next formed reached heq =>
    have hsilence := credential.form_isOffline.sends heq
    exact asExecution_failsOnly _ (HttpClient.send_failsOnly hclient (hsilence.not_isStop hreplies))
  next cause reached heq =>
    rw [heq] at hform
    cases hform

namespace Context

variable {context after : Context} {outcome : Except Failure Token} {fields : Credential.Fields}

/-- A run of the grant that has a form ends without an answer or with what the last answer says. -/
theorem getToken_cases
    (hform : (context.credential.form.perform context.world).1 = .ok fields)
    (hclient : context.credential.client.CanRetry)
    (hreplies : ∀ reply ∈ context.world.replies, ¬ reply.IsStop)
    (h : getToken.perform context = (outcome, after)) :
    (context.world.lastAnswer? after.world = none ∧
      ∃ reason, outcome = .error (.execution reason none)) ∨
    ∃ answer, context.world.lastAnswer? after.world = some answer ∧
      outcome = (Token.ofAnswer answer context.credential.config.logPii after.world.now).map
        (inheriting context.credential) := by
  rcases hexecute : context.credential.execute.perform context.world with ⟨delivered, world⟩
  have hfailed := Credential.execute_failsOnly hform hclient hreplies
  rw [hexecute] at hfailed
  rw [getToken, Action.perform_bind, execute, Action.perform_get_bind, inWorld_perform,
    hexecute] at h
  rcases Credential.execute_cases hexecute with
    ⟨failure, hunformed, _⟩ | ⟨formed, attempts, _, _, hdelivers⟩
  · rw [hunformed] at hform
    cases hform
  · -- The answer that is read is the one that the transcript ends with.
    have hlast := hdelivers.lastAnswer?_eq
    cases delivered with
    | error failure =>
        obtain ⟨rfl, rfl⟩ := Prod.mk.inj h
        obtain ⟨reason, rfl⟩ := hfailed failure rfl
        exact .inl ⟨hlast, reason, rfl⟩
    | ok answer =>
        right
        refine ⟨answer, ?_⟩
        dsimp only at h
        rw [Action.perform_bind, readToken_perform] at h
        cases hanswer : Token.ofAnswer answer context.credential.config.logPii world.now with
        | error failure =>
            rw [hanswer] at h
            obtain ⟨rfl, rfl⟩ := Prod.mk.inj h
            exact ⟨hlast, by rw [hanswer]; rfl⟩
        | ok token =>
            rw [hanswer] at h
            obtain ⟨rfl, rfl⟩ := Prod.mk.inj h
            refine ⟨hlast, ?_⟩
            change _ = Except.map _ (Token.ofAnswer answer _ world.now)
            rw [hanswer]
            rfl

/-- A run of the grant that has a form ends with a token or is told to have failed, exactly when the
last answer, if one arrived, is readable. Without an answer the request is told to have failed, and
a readable error of the service is told as one. -/
theorem getToken_failsOnly_iff
    (hform : (context.credential.form.perform context.world).1 = .ok fields)
    (hclient : context.credential.client.CanRetry)
    (hreplies : ∀ reply ∈ context.world.replies, ¬ reply.IsStop)
    (h : getToken.perform context = (outcome, after)) :
    (FailsOnly IsOfAcquisition outcome ↔
      ∀ answer, context.world.lastAnswer? after.world = some answer →
        answer.IsReadable after.world.now) ∧
    (context.world.lastAnswer? after.world = none →
      ∃ reason, outcome = .error (.execution reason none)) ∧
    ∀ answer, context.world.lastAnswer? after.world = some answer → answer.isOk = false →
      answer.IsReadable after.world.now →
        ∃ error, outcome = .error (.service error) ∧ error.status = some answer.status := by
  rcases getToken_cases hform hclient hreplies h with
    ⟨hlast, reason, rfl⟩ | ⟨answer, hlast, rfl⟩ <;> rw [hlast]
  · refine ⟨⟨fun _ => by rintro _ ⟨⟩, fun _ => FailsOnly.error_iff.mpr trivial⟩,
      fun _ => ⟨reason, rfl⟩, by rintro _ ⟨⟩⟩
  · refine ⟨?_, by rintro ⟨⟩, ?_⟩
    · rw [FailsOnly.map_iff, Token.ofAnswer_failsOnly_iff]
      constructor
      · rintro hreadable _ ⟨⟩
        exact hreadable
      · intro hreadable
        exact hreadable answer rfl
    · rintro _ ⟨⟩ hok hreadable
      obtain ⟨error, heq, hstatus⟩ := Token.ofAnswer_of_isReadable hok hreadable
      rw [heq]
      exact ⟨error, rfl, hstatus⟩

/-- An application with a secret whose requests get some replies, at the beginning of 1970. -/
def answered (replies : List Reply) : Context where
  credential := (trial trialGrant 0 trialToken).credential
  world := {
    start := .whole 0, now := .whole 0, entropy := ⟨fun _ => 0, 0⟩, replies }

/-- A service that refuses after a request that got no answer. -/
def refusedTrial : Context :=
  answered [.fault .timeout "", .response ⟨400, "\x7b\"error\":\"invalid_grant\"\x7d"⟩]

theorem refusedTrial_form : ∃ fields,
    (refusedTrial.credential.form.perform refusedTrial.world).1 = .ok fields :=
  Failure.exists_of_isOk (by decide +kernel)

theorem refusal_is_told : ∃ error, (getToken.perform refusedTrial).1 = .error (.service error) ∧
    error.status = some 400 := by
  obtain ⟨fields, hform⟩ := refusedTrial_form
  have hlast : refusedTrial.world.lastAnswer? (getToken.perform refusedTrial).2.world =
      some ⟨400, "\x7b\"error\":\"invalid_grant\"\x7d"⟩ := by decide +kernel
  refine (getToken_failsOnly_iff hform HttpClient.standard_canRetry (by decide)
    (Prod.eta _).symm).2.2 _ hlast rfl ?_
  rw [Response.IsReadable, if_neg (by decide), ← ServiceError.codesOf_isListable_iff]
  decide +kernel

/-- Whether a run of the grant has a form and nothing breaks off, and yet it neither yields a token
nor is told to have failed. -/
structure Escapes (context : Context) : Prop where
  form : (context.credential.form.perform context.world).1.isOk = true
  replies : ∀ reply ∈ context.world.replies, ¬ reply.IsStop
  failed : ¬ FailsOnly IsOfAcquisition (getToken.perform context).1

/-- An answer that is no object, an infinite lifetime, a scope that is a number and codes that are
no list all escape. -/
theorem unreadable_answers_escape :
    (answered [.response ⟨200, "[]"⟩]).Escapes ∧
    (answered [.response
      ⟨200, "\x7b\"access_token\":\"a\",\"expires_in\":1e999\x7d"⟩]).Escapes ∧
    (answered [.response ⟨200, "\x7b\"access_token\":\"a\",\"scope\":5\x7d"⟩]).Escapes ∧
    (answered [.response ⟨400, "\x7b\"error_codes\":70008\x7d"⟩]).Escapes := by
  refine ⟨⟨?_, ?_, ?_⟩, ⟨?_, ?_, ?_⟩, ⟨?_, ?_, ?_⟩, ⟨?_, ?_, ?_⟩⟩ <;> decide +kernel

end Context

end OAuthClient
