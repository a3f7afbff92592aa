import OAuthClient.Proofs.FormEncoding
import OAuthClient.Proofs.FormFields
import OAuthClient.Identity.AuthorizationUrl

/-! # Fields of an authorization URL

The query of an authorization URL carries the parameters that its purpose
requires, then those of the optional ones that have a value, and at its end the
extra parameters of the application. Decoding it yields these fields in this
order and with the values that the options have for them.
-/

namespace OAuthClient

theorem Value.eq_text_of_same {value : Value} {text : String} (h : value.same (.text text) = true) :
    value = .text text := by
  cases value with
  | text s =>
      rw [same, beq_iff_eq] at h
      rw [h]
  | _ => simp [same, sameNumber, compareNumbers?, number?] at h

namespace ParameterMap

/-- The text by which a value is asked for as a scope. -/
def scopeOf? (scope : Value) : Option String :=
  if scope.isPresent && !Text.isBlankText scope.plainText then some (Text.trimmed scope.plainText)
  else none

theorem scopes_addScopes (map : ParameterMap) (scopes : List Value) :
    (map.addScopes scopes).scopes = TextSet.insertAll map.scopes (scopes.filterMap scopeOf?) := by
  induction scopes generalizing map with
  | nil => rfl
  | cons scope rest ih =>
      change ((map.addScope scope).addScopes rest).scopes = _
      rw [ih, addScope, List.filterMap_cons, scopeOf?]
      split <;> rfl

/-- The text that a list of scopes is sent as. -/
def scopeText? (scopes : List Value) : Option String :=
  let texts := TextSet.ofList (scopes.filterMap scopeOf?)
  if texts.isEmpty then none else some (String.intercalate " " texts)

theorem scopes_insert (map : ParameterMap) (parameter : Parameter) (value : Value) :
    (map.insert parameter value).scopes = map.scopes := by
  unfold insert
  split <;> rfl

theorem get?_scope_addScopes (map : ParameterMap) (scopes : List Value) (hnone : map.scopes = []) :
    (map.addScopes scopes).get? .scope = scopeText? scopes := by
  rw [get?_scope, joinScopes, scopes_addScopes, hnone]
  rfl

theorem get?_empty (logPii : Bool) (parameter : Parameter) :
    ({ logPii } : ParameterMap).get? parameter = none := by
  cases parameter <;> rfl

end ParameterMap

/-! ### Sign-in -/

namespace SignInFlow

/-- The parameters that a URL of a flow must have. -/
def required : SignInFlow → List Parameter
  | .code | .implicit => [.clientId, .responseType, .redirectUri, .scope]
  | .openId => [.clientId, .responseType, .scope, .nonce]

/-- The parameters that a URL of a flow may have besides. -/
def optional : SignInFlow → List Parameter
  | .code => SignIn.commonParameters ++ [.nonce, .codeChallenge, .codeChallengeMethod]
  | .openId => SignIn.commonParameters ++ [.redirectUri]
  | .implicit => SignIn.commonParameters ++ [.nonce]

/-- The scopes that a flow asks for. -/
def scopes (flow : SignInFlow) (config : AppConfig) : List Value :=
  match flow with
  | .openId => .text "openid" :: config.scope
  | _ => config.scope

/-- Whether a flow has a response type. -/
def Supports (flow : SignInFlow) (responseType : String) : Prop :=
  match flow with
  | .code => True
  | .openId => responseType ∈ openIdResponseTypes
  | .implicit => responseType ∈ implicitResponseTypes

end SignInFlow

namespace SignIn

variable {options : SignIn} {config : AppConfig} {scopes : List Value} {map : ParameterMap}

/-- What a sign-in says for a parameter. -/
def value? (options : SignIn) (config : AppConfig) : Parameter → Option String
  | .clientId => (Value.text config.clientId).filled?
  | .redirectUri => config.redirectUri.filled?
  | .scope => ParameterMap.scopeText? (options.flow.scopes config)
  | .responseType =>
      (Choice.sortedText options.responseTypes).toOption.bind fun text => (Value.text text).filled?
  | .responseMode => options.safeResponseMode.filled?
  | .state => options.state.filled?
  | .nonce => options.nonce.filled?
  | .prompt => (Value.text (String.intercalate " " options.prompts)).filled?
  | .domainHint => options.domainHint.filled?
  | .loginHint => options.loginHint.filled?
  | .codeChallenge =>
      if options.codeChallenge.isPresent then options.codeChallenge.filled? else none
  | .codeChallengeMethod =>
      if options.codeChallenge.isPresent then
        (options.codeChallengeMethod.orElse (.text ProofKey.digestMethod)).filled?
      else none
  | _ => none

/-- The parameters without which a sign-in is refused: an implicit sign-in that yields an ID token
needs the nonce too. -/
def needed (options : SignIn) : List Parameter :=
  options.flow.required ++
    if options.flow = .implicit ∧ options.yieldsIdToken = true then [.nonce] else []

/-- Whether the response types of a sign-in are texts that its flow takes together. -/
def IsSupported (options : SignIn) : Prop :=
  ∃ text, Choice.sortedText options.responseTypes = .ok text ∧ options.flow.Supports text

/-- Prompts that are none change nothing, like a blank text. -/
theorem insert_prompts (map : ParameterMap) (prompts : List String) :
    (if prompts.isEmpty then map
      else map.insert .prompt (.text (String.intercalate " " prompts))) =
      map.insert .prompt (.text (String.intercalate " " prompts)) := by
  cases prompts <;> rfl

theorem sortedText_of_parameters (h : options.parameters config scopes = .ok map) :
    ∃ text, Choice.sortedText options.responseTypes = .ok text := by
  obtain ⟨typed, htyped, -⟩ := Failure.of_bind_ok h
  obtain ⟨items, hitems, htyped⟩ := Failure.of_bind_ok htyped
  cases hitems
  obtain ⟨texts, htexts, -⟩ := Failure.of_bind_ok htyped
  rw [Choice.sortedText, htexts]
  exact ⟨_, rfl⟩

theorem exists_parameters {text : String}
    (h : Choice.sortedText options.responseTypes = .ok text) (config : AppConfig)
    (scopes : List Value) : ∃ map, options.parameters config scopes = .ok map := by
  obtain ⟨texts, htexts, -⟩ := Failure.of_map_ok h
  rw [parameters, ParameterMap.responseTypes, Value.toItems]
  simp only [bind, Except.bind, htexts]
  exact ⟨_, rfl⟩

/-- The parameters of a sign-in hold what it says for them, the proof key apart. -/
theorem get?_parameters (h : options.parameters config (options.flow.scopes config) = .ok map)
    (parameter : Parameter) :
    map.get? parameter =
      if parameter = .codeChallenge ∨ parameter = .codeChallengeMethod then none
      else options.value? config parameter := by
  obtain ⟨typed, htyped, h⟩ := Failure.of_bind_ok h
  obtain ⟨items, hitems, htyped⟩ := Failure.of_bind_ok htyped
  cases hitems
  obtain ⟨texts, htexts, htyped⟩ := Failure.of_bind_ok htyped
  cases htyped
  cases h
  cases parameter <;>
    simp only [ParameterMap.insertText, insert_prompts, ParameterMap.get?_insert_of_ne,
      ParameterMap.get?_insert_self, ParameterMap.get?_addScopes_of_ne,
      ParameterMap.get?_scope_addScopes, ParameterMap.scopes_insert, ParameterMap.get?_empty,
      ne_eq, reduceCtorEq, not_false_eq_true, Option.or_none, or_false, or_true, if_true, if_false,
      value?, Choice.sortedText, htexts, Except.map, Except.toOption, Option.bind_some]

/-- The parameters of a sign-in with a proof key hold what it says for them. -/
theorem get?_bound (h : options.parameters config (options.flow.scopes config) = .ok map)
    (parameter : Parameter) :
    (options.withProofKey map).get? parameter = options.value? config parameter := by
  have hmap := get?_parameters h
  unfold withProofKey
  split
  next hpresent =>
    by_cases hmethod : parameter = .codeChallengeMethod
    · subst hmethod
      rw [ParameterMap.get?_insert_self _ (by decide),
        ParameterMap.get?_insert_of_ne _ _ (by decide), hmap]
      simp [value?, hpresent]
    · rw [ParameterMap.get?_insert_of_ne _ _ hmethod]
      by_cases hchallenge : parameter = .codeChallenge
      · subst hchallenge
        rw [ParameterMap.get?_insert_self _ (by decide), hmap]
        simp [value?, hpresent]
      · rw [ParameterMap.get?_insert_of_ne _ _ hchallenge, hmap, if_neg]
        simp [hchallenge, hmethod]
  next habsent =>
    rw [hmap]
    split
    next hkey => rcases hkey with rfl | rfl <;> simp [value?, habsent]
    next => rfl

/-- What is needed has a value in a query, and then the query has exactly these fields. -/
structure Queries (options : SignIn) (config : AppConfig) (query : String) : Prop where
  supported : options.IsSupported
  complete : ∀ parameter ∈ options.needed, (options.value? config parameter).isSome
  query_eq : query = Text.Form.encode (ParameterMap.fieldsOf (options.value? config)
    (options.flow.required ++ options.flow.optional))

end SignIn

namespace AuthorizationUrl

variable {options : SignIn} {config : AppConfig} {query : String}

theorem require_eq_ok_iff {value : Value} {parameter : Parameter} :
    require value parameter = .ok () ↔ value.filled?.isSome := by
  unfold require Value.filled?
  split <;> simp

theorem requireScope_eq_ok (h : (ParameterMap.scopeText? config.scope).isSome) :
    requireScope config = .ok () := by
  unfold requireScope
  split
  next hnone =>
    rw [List.isEmpty_iff.mp hnone] at h
    cases h
  next => rfl

theorem toQuery_eq_ok_iff {map : ParameterMap} {optional required : List Parameter}
    {value? : Parameter → Option String}
    (hvalue : ∀ parameter ∈ required ++ optional, map.get? parameter = value? parameter) :
    map.toQuery optional required = .ok query ↔
      (∀ parameter ∈ required, (value? parameter).isSome) ∧
        query = Text.Form.encode (ParameterMap.fieldsOf value? (required ++ optional)) := by
  have hrequired : (∀ parameter ∈ required, (map.get? parameter).isSome) ↔
      ∀ parameter ∈ required, (value? parameter).isSome := by
    refine forall₂_congr fun parameter hparameter => ?_
    rw [hvalue parameter (List.mem_append_left _ hparameter)]
  rw [← hrequired, ← ParameterMap.fieldsOf_congr hvalue]
  constructor
  · intro h
    obtain ⟨pairs, hpairs, rfl⟩ := Failure.of_map_ok h
    obtain ⟨hall, rfl⟩ := ParameterMap.collect_eq_ok_iff.mp hpairs
    exact ⟨hall, rfl⟩
  · rintro ⟨hall, rfl⟩
    rw [ParameterMap.toQuery, ParameterMap.collect_eq_ok_iff.mpr ⟨hall, rfl⟩]
    rfl

theorem parameters_toQuery_eq_ok_iff {map : ParameterMap}
    (hmap : options.parameters config (options.flow.scopes config) = .ok map)
    (hflow : options.flow ≠ .code) :
    map.toQuery options.flow.optional options.flow.required = .ok query ↔
      (∀ parameter ∈ options.flow.required, (options.value? config parameter).isSome) ∧
        query = Text.Form.encode (ParameterMap.fieldsOf (options.value? config)
          (options.flow.required ++ options.flow.optional)) := by
  apply toQuery_eq_ok_iff
  intro parameter hparameter
  rw [SignIn.get?_parameters hmap, if_neg]
  -- No flow but the one for a code asks for a proof key.
  cases hcase : options.flow with
  | code => exact absurd hcase hflow
  | openId | implicit =>
      rw [hcase] at hparameter
      rintro (rfl | rfl) <;> exact absurd hparameter (by decide)

/-- What the flows that ask for the scopes of the application have in common. -/
def scopedQuery (config : AppConfig) (options : SignIn) (change : ParameterMap → ParameterMap)
    (optional required : List Parameter) : Except Failure String := do
  require config.redirectUri .redirectUri
  requireScope config
  let map ← options.parameters config config.scope
  (change map).toQuery optional required

theorem sortedText_of_scopedQuery {change : ParameterMap → ParameterMap}
    {optional required : List Parameter}
    (h : scopedQuery config options change optional required = .ok query) :
    ∃ text, Choice.sortedText options.responseTypes = .ok text := by
  obtain ⟨-, -, h⟩ := Failure.of_bind_ok h
  obtain ⟨-, -, h⟩ := Failure.of_bind_ok h
  obtain ⟨map, hmap, -⟩ := Failure.of_bind_ok h
  exact SignIn.sortedText_of_parameters hmap

theorem scopedQuery_eq_ok_iff {text : String} (change : ParameterMap → ParameterMap)
    (htext : Choice.sortedText options.responseTypes = .ok text)
    (hflow : options.flow ≠ .openId)
    (hquery : ∀ map, options.parameters config (options.flow.scopes config) = .ok map →
      ((change map).toQuery options.flow.optional options.flow.required = .ok query ↔
        (∀ parameter ∈ options.flow.required, (options.value? config parameter).isSome) ∧
          query = Text.Form.encode (ParameterMap.fieldsOf (options.value? config)
            (options.flow.required ++ options.flow.optional)))) :
    scopedQuery config options change options.flow.optional options.flow.required = .ok query ↔
      (∀ parameter ∈ options.flow.required, (options.value? config parameter).isSome) ∧
        query = Text.Form.encode (ParameterMap.fieldsOf (options.value? config)
          (options.flow.required ++ options.flow.optional)) := by
  have hscopes : options.flow.scopes config = config.scope := by
    cases hcase : options.flow with
    | openId => exact absurd hcase hflow
    | code | implicit => rfl
  have hasked : ∀ parameter ∈ [Parameter.redirectUri, .scope],
      parameter ∈ options.flow.required := by
    cases hcase : options.flow with
    | openId => exact absurd hcase hflow
    | code | implicit => decide
  obtain ⟨map, hmap⟩ := SignIn.exists_parameters htext config (options.flow.scopes config)
  have hsent := hquery map hmap
  rw [hscopes] at hmap
  constructor
  · intro h
    obtain ⟨-, -, h⟩ := Failure.of_bind_ok h
    obtain ⟨-, -, h⟩ := Failure.of_bind_ok h
    rw [hmap] at h
    exact hsent.mp h
  · intro h
    have hredirect := h.1 .redirectUri (hasked _ (by simp))
    have hscope := h.1 .scope (hasked _ (by simp))
    rw [SignIn.value?, hscopes] at hscope
    rw [scopedQuery, require_eq_ok_iff.mpr hredirect, requireScope_eq_ok hscope, hmap]
    exact hsent.mpr h

theorem codeQuery_eq_ok_iff (hflow : options.flow = .code) :
    codeQuery config options = .ok query ↔ options.Queries config query := by
  have hcode : codeQuery config options = scopedQuery config options options.withProofKey
      options.flow.optional options.flow.required := by rw [hflow]; rfl
  have hneeded : options.needed = options.flow.required := by simp [SignIn.needed, hflow]
  have hquery {text : String} (htext : Choice.sortedText options.responseTypes = .ok text) :=
    @scopedQuery_eq_ok_iff _ config query _ options.withProofKey htext (by rw [hflow]; decide)
      fun map hmap => toQuery_eq_ok_iff fun parameter _ => SignIn.get?_bound hmap parameter
  rw [hcode]
  constructor
  · intro h
    obtain ⟨text, htext⟩ := sortedText_of_scopedQuery h
    obtain ⟨hall, heq⟩ := (hquery htext).mp h
    exact ⟨⟨text, htext, by rw [hflow]; trivial⟩, hneeded ▸ hall, heq⟩
  · rintro ⟨⟨text, htext, -⟩, hall, heq⟩
    exact (hquery htext).mpr ⟨hneeded ▸ hall, heq⟩

theorem openIdQuery_eq_ok_iff (hflow : options.flow = .openId) :
    openIdQuery config options = .ok query ↔ options.Queries config query := by
  have hscopes : options.flow.scopes config = .text "openid" :: config.scope := by rw [hflow]; rfl
  have hneeded : options.needed = options.flow.required := by simp [SignIn.needed, hflow]
  have hquery {map : ParameterMap}
      (hmap : options.parameters config (.text "openid" :: config.scope) = .ok map) :=
    @parameters_toQuery_eq_ok_iff _ _ query _ (hscopes ▸ hmap) (by rw [hflow]; decide)
  constructor
  · intro h
    obtain ⟨text, htext, h⟩ := Failure.of_bind_ok h
    dsimp only at h
    split at h
    next hsupported =>
      obtain ⟨map, hmap, h⟩ := Failure.of_bind_ok h
      rw [hflow] at hquery
      obtain ⟨hall, rfl⟩ := (hquery hmap).mp h
      refine ⟨⟨text, htext, ?_⟩, by rw [hneeded, hflow]; exact hall, by rw [hflow]⟩
      rw [hflow]
      exact List.contains_iff_mem.mp hsupported
    next => cases h
  · rintro ⟨⟨text, htext, hsupported⟩, hall, heq⟩
    obtain ⟨map, hmap⟩ := SignIn.exists_parameters htext config (.text "openid" :: config.scope)
    rw [hneeded] at hall
    rw [hflow] at hsupported
    have h := (hquery hmap).mpr ⟨hall, heq⟩
    rw [hflow] at h
    rw [openIdQuery, htext]
    dsimp only [bind, Except.bind]
    rw [if_pos (List.contains_iff_mem.mpr hsupported), hmap]
    exact h

/-- What an implicit sign-in needs: its required parameters, and a nonce for an ID token. -/
theorem forall_needed_iff (hflow : options.flow = .implicit) {p : Parameter → Prop} :
    (∀ parameter ∈ options.needed, p parameter) ↔
      (∀ parameter ∈ options.flow.required, p parameter) ∧
        (options.yieldsIdToken = true → p .nonce) := by
  rw [SignIn.needed, List.forall_mem_append]
  refine and_congr_right fun _ => ?_
  cases options.yieldsIdToken <;> simp [hflow]

theorem implicitQuery_eq_ok_iff (hflow : options.flow = .implicit) :
    implicitQuery config options = .ok query ↔ options.Queries config query := by
  -- Both branches of the check of the nonce lead to the part that asks for the scopes.
  have hscoped : scopedQuery config options id (SignIn.commonParameters ++ [.nonce])
      [.clientId, .responseType, .redirectUri, .scope] =
      scopedQuery config options id options.flow.optional options.flow.required := by
    rw [hflow]
    rfl
  have hrest {text : String} (htext : Choice.sortedText options.responseTypes = .ok text) :=
    hscoped ▸ @scopedQuery_eq_ok_iff _ config query _ id htext (by rw [hflow]; decide)
      fun map hmap => parameters_toQuery_eq_ok_iff hmap (by rw [hflow]; decide)
  constructor
  · intro h
    obtain ⟨text, htext, h⟩ := Failure.of_bind_ok h
    dsimp only at h
    split at h
    next hsupported =>
      have hsupports : options.IsSupported :=
        ⟨text, htext, by rw [hflow]; exact List.contains_iff_mem.mp hsupported⟩
      split at h
      next =>
        obtain ⟨_, hnonce, h⟩ := Failure.of_bind_ok h
        obtain ⟨hall, heq⟩ := (hrest htext).mp h
        exact ⟨hsupports,
          (forall_needed_iff hflow).mpr ⟨hall, fun _ => require_eq_ok_iff.mp hnonce⟩, heq⟩
      next hyields =>
        obtain ⟨hall, heq⟩ := (hrest htext).mp h
        exact ⟨hsupports,
          (forall_needed_iff hflow).mpr ⟨hall, fun h => absurd h hyields⟩, heq⟩
    next => cases h
  · rintro ⟨⟨text, htext, hsupported⟩, hneeded, heq⟩
    obtain ⟨hall, hnonce⟩ := (forall_needed_iff hflow).mp hneeded
    have h := (hrest htext).mpr ⟨hall, heq⟩
    rw [hflow] at hsupported
    rw [implicitQuery, htext]
    dsimp only [bind, Except.bind]
    rw [if_pos (List.contains_iff_mem.mpr hsupported)]
    split
    next hyields =>
      rw [require_eq_ok_iff.mpr (hnonce hyields)]
      exact h
    next => exact h

theorem query_eq_ok_iff {url : AuthorizationUrl} (hpurpose : url.purpose = .signIn options) :
    url.query = .ok query ↔ options.Queries url.config query := by
  rw [AuthorizationUrl.query, hpurpose]
  dsimp only
  split
  next hflow => exact codeQuery_eq_ok_iff hflow
  next hflow => exact openIdQuery_eq_ok_iff hflow
  next hflow => exact implicitQuery_eq_ok_iff hflow

/-! ### Consent and whole URLs -/

/-- What the URL for a consent says for a parameter. -/
def consentValue? (config : AppConfig) (state : Value) : Parameter → Option String
  | .clientId => (Value.text config.clientId).filled?
  | .redirectUri => config.redirectUri.filled?
  | .state => state.filled?
  | _ => none

theorem consentQuery_eq_ok_iff {state : Value} :
    consentQuery config state = .ok query ↔
      (∀ parameter ∈ [.clientId, .redirectUri], (consentValue? config state parameter).isSome) ∧
        query = Text.Form.encode (ParameterMap.fieldsOf (consentValue? config state)
          [.clientId, .redirectUri, .state]) := by
  let map := ((({ logPii := config.logPii } : ParameterMap).insertText .clientId
    config.clientId).insert .redirectUri config.redirectUri).insert .state state
  have hmap : ∀ parameter ∈ [.clientId, .redirectUri] ++ [.state],
      map.get? parameter = consentValue? config state parameter := by
    intro parameter hparameter
    simp only [List.cons_append, List.nil_append, List.mem_cons, List.not_mem_nil,
      or_false] at hparameter
    rcases hparameter with rfl | rfl | rfl <;>
      simp [map, ParameterMap.insertText, ParameterMap.get?_insert_of_ne,
        ParameterMap.get?_insert_self, ParameterMap.get?_empty, consentValue?]
  have hquery := @toQuery_eq_ok_iff query map [.state] [.clientId, .redirectUri] _ hmap
  constructor
  · intro h
    obtain ⟨-, -, h⟩ := Failure.of_bind_ok h
    exact hquery.mp h
  · intro h
    rw [consentQuery, require_eq_ok_iff.mpr (h.1 .redirectUri (by decide))]
    exact hquery.mpr h

/-- The named values that the application adds to every query. -/
def extraFields (config : AppConfig) : List (String × String) :=
  config.extraQuery.map fun (name, value) => (name, value.plainText)

theorem decode_withExtra (config : AppConfig) (pairs : List (String × String)) :
    Text.Form.decode true (withExtra config (Text.Form.encode pairs)) =
      pairs ++ extraFields config := by
  unfold withExtra extraFields
  split
  next hnone =>
    rw [List.isEmpty_iff.mp hnone, List.map_nil, List.append_nil, Text.Form.decode_encode]
  next hsome =>
    cases pairs with
    | nil => exact Text.Form.decode_encode _
    | cons pair pairs =>
        have hmore : config.extraQuery.map (fun (name, value) => (name, value.plainText)) ≠ [] := by
          simpa using hsome
        rw [Text.Form.isEmpty_encode (List.cons_ne_nil _ _), if_neg Bool.false_ne_true,
          Text.Form.decode_encode_append (List.cons_ne_nil _ _) hmore]

/-- The parameters that a URL must have. -/
def required (url : AuthorizationUrl) : List Parameter :=
  match url.purpose with
  | .signIn options => options.flow.required
  | .adminConsent _ => [.clientId, .redirectUri]
  | .unspecified => []

/-- The parameters that a URL may have besides. -/
def optional (url : AuthorizationUrl) : List Parameter :=
  match url.purpose with
  | .signIn options => options.flow.optional
  | .adminConsent _ => [.state]
  | .unspecified => []

/-- What a URL says for a parameter. -/
def value? (url : AuthorizationUrl) : Parameter → Option String :=
  match url.purpose with
  | .signIn options => options.value? url.config
  | .adminConsent state => consentValue? url.config state
  | .unspecified => fun _ => none

/-- The named values of a URL in order. -/
def fields (url : AuthorizationUrl) : List (String × String) :=
  ParameterMap.fieldsOf url.value? (url.required ++ url.optional) ++ extraFields url.config

theorem mem_fields_iff {url : AuthorizationUrl} {parameter : Parameter} {given value : String}
    (hparameter : parameter ∈ url.required ++ url.optional)
    (hgiven : url.value? parameter = some given) :
    (parameter.wireName, value) ∈ url.fields ↔
      value = given ∨ (parameter.wireName, value) ∈ extraFields url.config := by
  rw [fields, List.mem_append, ParameterMap.mem_fieldsOf, and_iff_right hparameter, hgiven,
    Option.some.injEq, eq_comm]

theorem query_eq_encode {url : AuthorizationUrl} (h : url.query = .ok query) :
    query = Text.Form.encode (ParameterMap.fieldsOf url.value? (url.required ++ url.optional)) := by
  cases hpurpose : url.purpose with
  | signIn options =>
      simp only [required, optional, value?, hpurpose]
      exact ((query_eq_ok_iff hpurpose).mp h).query_eq
  | adminConsent state =>
      rw [AuthorizationUrl.query, hpurpose] at h
      simp only [required, optional, value?, hpurpose]
      exact (consentQuery_eq_ok_iff.mp h).2
  | unspecified =>
      rw [AuthorizationUrl.query, hpurpose] at h
      cases h

/-- The query of a URL is read as the fields of the URL. -/
theorem render_ok {url : AuthorizationUrl} {text : String} (h : url.render = .ok text) :
    ∃ query, text = url.endpoint ++ "?" ++ query ∧ Text.Form.decode true query = url.fields := by
  obtain ⟨query, hquery, rfl⟩ := Failure.of_map_ok h
  refine ⟨_, rfl, ?_⟩
  rw [query_eq_encode hquery, decode_withExtra]
  rfl

/-- An application that is tried out. -/
def trialApp : AppConfig where
  clientId := "client"
  tenant := .text "contoso"
  authority := ⟨"contoso"⟩
  cloud := .worldwide
  scope := [.text "User.Read"]
  redirectUri := .text "https://localhost/callback"
  extraQuery := []
  extraHeaders := []
  force := .never
  logPii := false

/-- A world in which nothing has happened yet. -/
def trialWorld : World where
  start := .whole 0
  now := .whole 0
  entropy := ⟨fun _ => 0, 0⟩
  replies := []

end AuthorizationUrl

end OAuthClient
