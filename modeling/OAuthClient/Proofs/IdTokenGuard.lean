import OAuthClient.Proofs.UrlFields

/-! # Where identity tokens travel

An identity token must not travel in a query, and where it comes back from the
sign-in itself it must be bound to a nonce. The builders look for the response
type among the choices of a sign-in, while the service reads the words of the
joined text. The two differ for a choice of several words.
-/

namespace OAuthClient

/-- Whether the words of a response type ask for an identity token. -/
def asksForIdToken (responseType : String) : Bool :=
  (Text.splitOn (· == ' ') responseType.toList).contains "id_token".toList

theorem asksForIdToken_iff {responseType : String} :
    asksForIdToken responseType = true ↔
      "id_token".toList ∈ Text.splitOn (· == ' ') responseType.toList :=
  List.contains_iff_mem

/-- A joined text has the words of the texts that were joined. -/
theorem asksForIdToken_intercalate (texts : List String) :
    asksForIdToken (String.intercalate " " texts) = true ↔
      ∃ text ∈ texts, asksForIdToken text = true := by
  cases texts with
  | nil =>
      refine ⟨fun h => absurd h (by decide), ?_⟩
      rintro ⟨text, htext, -⟩
      cases htext
  | cons first texts =>
      rw [asksForIdToken_iff, String.toList_intercalate]
      change _ ∈ Text.splitOn _ ([' '].intercalate _) ↔ _
      rw [Text.splitOn_intercalate (by simp) rfl]
      simp only [List.mem_flatMap, List.mem_map, asksForIdToken_iff]
      constructor
      · rintro ⟨_, ⟨text, htext, rfl⟩, hword⟩
        exact ⟨text, htext, hword⟩
      · rintro ⟨text, htext, hword⟩
        exact ⟨text.toList, ⟨text, htext, rfl⟩, hword⟩

/-- The response modes that keep a token out of the query. -/
def safeResponseModes : List String := ["fragment", "form_post"]

/-- Whether the named values of a query ask for an identity token. -/
def RequestsIdToken (fields : List (String × String)) : Prop :=
  ∃ field ∈ fields, field.1 = "response_type" ∧ asksForIdToken field.2 = true

/-- Whether the named values of a query keep an identity token out of the next query, and bind it
to a nonce unless the flow redeems a code. -/
structure IsGuarded (flow : SignInFlow) (fields : List (String × String)) : Prop where
  carries : ∃ field ∈ fields, field.1 = "response_mode"
  safe : ∀ field ∈ fields, field.1 = "response_mode" → field.2 ∈ safeResponseModes
  bound : flow ≠ .code → ∃ field ∈ fields, field.1 = "nonce" ∧ Text.isBlankText field.2 = false

theorem mem_append_iff_of_ne {pairs more : List (String × String)} {name value : String}
    (hmore : ∀ field ∈ more, field.1 ≠ name) :
    (name, value) ∈ pairs ++ more ↔ (name, value) ∈ pairs := by
  rw [List.mem_append]
  exact ⟨fun h => h.resolve_right fun h => hmore _ h rfl, .inl⟩

namespace Value

theorem filled?_eq_some_of_mem {value : Value} (h : value.plainText ∈ safeResponseModes) :
    value.filled? = some value.plainText := by
  have hfilled : ∀ mode ∈ safeResponseModes, Text.isBlankText mode = false := by decide
  have hnull : value.isNull = false := by
    cases value with
    | null => exact absurd h (by decide +kernel)
    | _ => rfl
  rw [filled?, hnull, hfilled _ h]
  rfl

theorem plainText_of_filled? {value : Value} {text : String} (h : value.filled? = some text) :
    value.plainText = text := by
  unfold filled? at h
  split at h
  next => cases h
  next => exact Option.some.inj h

theorem toTexts_ok {items : List Value} {texts : List String} (h : toTexts items = .ok texts) :
    items = texts.map .text := by
  induction items generalizing texts with
  | nil =>
      cases h
      rfl
  | cons item items ih =>
      rw [toTexts, List.mapM_cons] at h
      obtain ⟨text, htext, h⟩ := Failure.of_bind_ok h
      obtain ⟨rest, hrest, h⟩ := Failure.of_bind_ok h
      cases h
      rw [ih hrest, List.map_cons]
      cases item <;> cases htext
      rfl

end Value

namespace SignIn

variable {options : SignIn} {config : AppConfig} {query : String}

/-- What a sign-in contributes to a query, as far as identity tokens are concerned. -/
structure Renders (options : SignIn) (pairs : List (String × String)) : Prop where
  responseType : ∃ texts, Value.toTexts options.responseTypes = .ok texts ∧
    ∀ value, ("response_type", value) ∈ pairs ↔
      value = String.intercalate " " (TextSet.ofList texts)
  responseMode : ∀ value, ("response_mode", value) ∈ pairs ↔
    options.safeResponseMode.filled? = some value
  nonce : ∀ value, ("nonce", value) ∈ pairs ↔ options.nonce.filled? = some value
  hasNonce : options.flow = .openId ∨ options.flow = .implicit ∧ options.yieldsIdToken = true →
    options.nonce.filled?.isSome = true

/-- The query of a sign-in has what the sign-in says. -/
theorem Queries.renders (h : options.Queries config query) :
    ∃ pairs, Text.Form.encode pairs = query ∧ options.Renders pairs := by
  refine ⟨_, h.query_eq.symm, ?_⟩
  have hmem {parameter : Parameter}
      (hasked : parameter ∈ options.flow.required ++ options.flow.optional) (value : String) :
      (parameter.wireName, value) ∈ ParameterMap.fieldsOf (options.value? config)
        (options.flow.required ++ options.flow.optional) ↔
        options.value? config parameter = some value :=
    ParameterMap.mem_fieldsOf.trans (and_iff_right hasked)
  have hasked : ∀ flow : SignInFlow, ∀ parameter ∈ [Parameter.responseType, .responseMode, .nonce],
      parameter ∈ flow.required ++ flow.optional := by
    intro flow
    cases flow <;> decide
  refine ⟨?_, hmem (hasked _ .responseMode (by decide)), hmem (hasked _ .nonce (by decide)), ?_⟩
  · obtain ⟨text, htext, -⟩ := h.supported
    obtain ⟨texts, htexts, rfl⟩ := Failure.of_map_ok htext
    refine ⟨texts, htexts, fun value => ?_⟩
    have hsome := h.complete .responseType (by
      rw [needed]
      cases options.flow <;> simp [SignInFlow.required])
    refine (hmem (hasked _ .responseType (by decide)) value).trans ?_
    simp only [value?, htext, Except.toOption, Option.bind_some, Value.filled?_text] at hsome ⊢
    split at hsome
    · cases hsome
    next hblank => rw [if_neg hblank, Option.some.injEq, eq_comm]
  · intro hflow
    apply h.complete .nonce
    rw [needed, List.mem_append]
    rcases hflow with hflow | hflow
    · left
      rw [hflow]
      decide
    · right
      rw [if_pos hflow]
      exact List.mem_singleton_self _

/-- Whether an identity token is asked for by the words of a choice. -/
def AsksForIdToken (options : SignIn) : Prop :=
  ∃ choice ∈ options.responseTypes, asksForIdToken choice.plainText = true

/-- Whether a sign-in is guarded: by the builder, which sees an identity token that is a choice of
its own, or by its options as they were given. -/
def IsSafe (options : SignIn) : Prop :=
  options.yieldsIdToken = true ∨ options.responseMode.plainText ∈ safeResponseModes ∧
    (options.flow = .implicit → options.nonce.filled?.isSome = true)

variable {pairs more : List (String × String)}

theorem Renders.requestsIdToken_iff (h : options.Renders pairs) :
    RequestsIdToken (pairs ++ more) ↔ options.AsksForIdToken ∨ RequestsIdToken more := by
  obtain ⟨texts, htexts, htype⟩ := h.responseType
  have hchoices : options.AsksForIdToken ↔ RequestsIdToken pairs := by
    rw [AsksForIdToken, Value.toTexts_ok htexts]
    constructor
    · rintro ⟨_, hchoice, hword⟩
      obtain ⟨text, htext, rfl⟩ := List.mem_map.mp hchoice
      exact ⟨_, (htype _).mpr rfl, rfl, (asksForIdToken_intercalate _).mpr
        ⟨text, TextSet.mem_ofList.mpr htext, hword⟩⟩
    · rintro ⟨⟨name, value⟩, hfield, rfl, hword⟩
      obtain rfl := (htype value).mp hfield
      obtain ⟨text, htext, hword⟩ := (asksForIdToken_intercalate _).mp hword
      exact ⟨.text text, List.mem_map_of_mem (TextSet.mem_ofList.mp htext), hword⟩
  rw [hchoices]
  simp only [RequestsIdToken, List.mem_append, or_and_right, exists_or]

theorem safeResponseMode_of_yieldsIdToken (h : options.yieldsIdToken = true) :
    ∃ mode ∈ safeResponseModes, options.safeResponseMode.filled? = some mode := by
  unfold safeResponseMode
  rw [h, Bool.true_and]
  split
  next => exact ⟨"fragment", by decide, by decide⟩
  next hposted =>
    have hpost : options.responseMode = .text "form_post" := by
      apply Value.eq_text_of_same
      simpa using hposted
    exact ⟨"form_post", by decide, by rw [hpost]; decide⟩

theorem safeResponseMode_of_not_yieldsIdToken (h : options.yieldsIdToken = false) :
    options.safeResponseMode = options.responseMode := by
  rw [safeResponseMode, h]
  rfl

theorem safeResponseMode_of_isSafe (h : options.IsSafe) :
    ∃ mode ∈ safeResponseModes, options.safeResponseMode.filled? = some mode := by
  cases hyields : options.yieldsIdToken with
  | true => exact safeResponseMode_of_yieldsIdToken hyields
  | false =>
      obtain ⟨hmember, -⟩ := h.resolve_left (by rw [hyields]; decide)
      rw [safeResponseMode_of_not_yieldsIdToken hyields]
      exact ⟨_, hmember, Value.filled?_eq_some_of_mem hmember⟩

theorem Renders.nonce_of_isSafe (h : options.Renders pairs) (hsafe : options.IsSafe)
    (hflow : options.flow ≠ .code) : options.nonce.filled?.isSome = true := by
  cases hcase : options.flow with
  | code => exact absurd hcase hflow
  | openId => exact h.hasNonce (.inl hcase)
  | implicit =>
      rcases hsafe with hyields | ⟨-, hgiven⟩
      · exact h.hasNonce (.inr ⟨hcase, hyields⟩)
      · exact hgiven hcase

theorem Renders.isGuarded_iff (h : options.Renders pairs)
    (hmore : ∀ field ∈ more, field.1 ≠ "response_mode" ∧ field.1 ≠ "nonce") :
    IsGuarded options.flow (pairs ++ more) ↔ options.IsSafe := by
  have hmode (value : String) : ("response_mode", value) ∈ pairs ++ more ↔
      options.safeResponseMode.filled? = some value :=
    (mem_append_iff_of_ne fun field hfield => (hmore field hfield).1).trans (h.responseMode value)
  have hnonce (value : String) :
      ("nonce", value) ∈ pairs ++ more ↔ options.nonce.filled? = some value :=
    (mem_append_iff_of_ne fun field hfield => (hmore field hfield).2).trans (h.nonce value)
  constructor
  · intro hguarded
    cases hyields : options.yieldsIdToken with
    | true => exact .inl hyields
    | false =>
        refine .inr ⟨?_, fun hflow => ?_⟩
        · obtain ⟨⟨_, mode⟩, hfield, rfl⟩ := hguarded.carries
          have hfilled := (hmode mode).mp hfield
          rw [safeResponseMode_of_not_yieldsIdToken hyields] at hfilled
          rw [Value.plainText_of_filled? hfilled]
          exact hguarded.safe _ hfield rfl
        · obtain ⟨⟨_, nonce⟩, hfield, rfl, -⟩ := hguarded.bound (by rw [hflow]; decide)
          rw [(hnonce nonce).mp hfield]
          rfl
  · intro hsafe
    obtain ⟨mode, hmember, hfilled⟩ := safeResponseMode_of_isSafe hsafe
    refine ⟨⟨_, (hmode mode).mpr hfilled, rfl⟩, ?_, fun hflow => ?_⟩
    · rintro ⟨_, value⟩ hfield rfl
      rw [Option.some.inj (((hmode value).mp hfield).symm.trans hfilled)]
      exact hmember
    · obtain ⟨nonce, hfilled⟩ :=
        Option.isSome_iff_exists.mp (h.nonce_of_isSafe hsafe hflow)
      exact ⟨_, (hnonce nonce).mpr hfilled, rfl, Value.isBlankText_of_filled? hfilled⟩

end SignIn

namespace AuthorizationUrl

variable {options : SignIn} {config : AppConfig} {query : String}

/-- A sign-in URL that asks for an identity token is guarded exactly when its options are safe:
the builder misses an identity token within a choice of several words. -/
theorem render_isGuarded_iff {url : AuthorizationUrl} {text : String}
    (hpurpose : url.purpose = .signIn options)
    (hextra : ∀ field ∈ url.config.extraQuery, field.1 ≠ "response_mode" ∧ field.1 ≠ "nonce")
    (hrender : url.render = .ok text) :
    ∃ query, text = url.endpoint ++ "?" ++ query ∧
      ((RequestsIdToken (Text.Form.decode true query) →
          IsGuarded options.flow (Text.Form.decode true query)) ↔
        (options.AsksForIdToken ∨ RequestsIdToken (extraFields url.config) → options.IsSafe)) := by
  obtain ⟨query, hquery, rfl⟩ := Failure.of_map_ok hrender
  obtain ⟨pairs, rfl, hrenders⟩ := ((query_eq_ok_iff hpurpose).mp hquery).renders
  refine ⟨_, rfl, ?_⟩
  have hmore : ∀ field ∈ extraFields url.config,
      field.1 ≠ "response_mode" ∧ field.1 ≠ "nonce" := by
    intro field hfield
    obtain ⟨given, hgiven, rfl⟩ := List.mem_map.mp hfield
    exact hextra given hgiven
  rw [decode_withExtra, hrenders.requestsIdToken_iff, hrenders.isGuarded_iff hmore]

/-- A sign-in for a code and an identity token, as one choice of two words. -/
def trialUrl (responseMode : Value) : AuthorizationUrl where
  config := trialApp
  purpose := .signIn {
    flow := .code
    responseTypes := [.text "code id_token"]
    responseMode
    state := .null
    nonce := .null
    prompts := []
    domainHint := .null
    loginHint := .null
    codeChallenge := .null
    codeChallengeMethod := .null }

def trialFields : List (String × String) :=
  [("client_id", "client"), ("response_type", "code id_token"),
    ("redirect_uri", "https://localhost/callback"), ("scope", "User.Read")]

theorem render_trialUrl_posted : (trialUrl (.text "form_post")).render =
    .ok ((trialUrl (.text "form_post")).endpoint ++ "?" ++
      Text.Form.encode (trialFields ++ [("response_mode", "form_post")])) := rfl

theorem posted_choice_is_guarded :
    ∃ query, (trialUrl (.text "form_post")).render =
        .ok ((trialUrl (.text "form_post")).endpoint ++ "?" ++ query) ∧
      RequestsIdToken (Text.Form.decode true query) ∧
      IsGuarded .code (Text.Form.decode true query) := by
  obtain ⟨query, htext, hiff⟩ :=
    render_isGuarded_iff rfl (by rintro field ⟨⟩) render_trialUrl_posted
  obtain rfl := (String.append_right_inj _).mp htext
  have hrequests : RequestsIdToken (Text.Form.decode true
      (Text.Form.encode (trialFields ++ [("response_mode", "form_post")]))) := by
    rw [Text.Form.decode_encode]
    exact ⟨("response_type", "code id_token"), by decide, rfl, by decide⟩
  refine ⟨_, render_trialUrl_posted, hrequests, hiff.mpr ?_ hrequests⟩
  exact fun _ => .inr ⟨by decide, fun hflow => absurd hflow (by decide)⟩

/-- The query of a choice of two words asks for an identity token and leaves the response mode to
the service. -/
theorem joined_choice_is_unguarded :
    ∃ url query, ((openSignIn .code trialApp
        [("response_type", .list [.text "code id_token"])]).perform {
          start := .whole 0, now := .whole 0, entropy := ⟨fun _ => 0, 0⟩, replies := [] }).1 =
        .ok url ∧
      url.render = .ok (url.endpoint ++ "?" ++ query) ∧
      RequestsIdToken (Text.Form.decode true query) ∧
      ¬IsGuarded .code (Text.Form.decode true query) := by
  refine ⟨trialUrl .null, Text.Form.encode trialFields, ?_, ?_, ?_, ?_⟩
  · rfl
  · rfl
  · rw [Text.Form.decode_encode]
    exact ⟨("response_type", "code id_token"), by decide, rfl, by decide⟩
  · rw [Text.Form.decode_encode]
    intro h
    exact absurd h.carries (by decide)

end AuthorizationUrl

end OAuthClient
