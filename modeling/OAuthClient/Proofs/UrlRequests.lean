import Mathlib.Data.List.Dedup
import Mathlib.Data.List.Sort
import OAuthClient.Proofs.Base64Laws
import OAuthClient.Proofs.UrlFields

/-! # What an authorization URL says

A builder is opened with options by name and then rendered. Either a value is
missing or not acceptable, and exactly then this fails, or the query has the
values that the options and the application gave: first what the URL requires,
then what is left of the optional parameters, then the extra parameters.
-/

namespace OAuthClient

/-! ### Sorted sets -/

namespace TextSet

/-- The distinct texts of a list in the order of their code points. -/
def sortedDistinct (texts : List String) : List String := texts.dedup.mergeSort fun a b => a ≤ b

theorem mem_sortedDistinct {texts : List String} {text : String} :
    text ∈ sortedDistinct texts ↔ text ∈ texts := by
  rw [sortedDistinct, List.mem_mergeSort, List.mem_dedup]

theorem pairwise_sortedDistinct (texts : List String) :
    (sortedDistinct texts).Pairwise (· < ·) := by
  have htrans (a b c : String) (hab : decide (a ≤ b) = true) (hbc : decide (b ≤ c) = true) :
      decide (a ≤ c) = true :=
    decide_eq_true (String.le_trans (of_decide_eq_true hab) (of_decide_eq_true hbc))
  have htotal (a b : String) : (decide (a ≤ b) || decide (b ≤ a)) = true := by
    simp [String.le_total a b]
  have hle : (sortedDistinct texts).Pairwise (· ≤ ·) :=
    (List.pairwise_mergeSort htrans htotal texts.dedup).imp of_decide_eq_true
  have hne : (sortedDistinct texts).Nodup :=
    (List.mergeSort_perm _ _).nodup_iff.mpr texts.nodup_dedup
  refine hle.imp₂ (fun a b hab hne => ?_) hne
  exact String.not_le.mp fun hba => hne (String.le_antisymm hab hba)

theorem pairwise_insert {set : List String} (h : set.Pairwise (· < ·)) (s : String) :
    (insert s set).Pairwise (· < ·) := by
  induction set with
  | nil => simp [insert]
  | cons t rest ih =>
      rw [List.pairwise_cons] at h
      unfold insert
      split
      next hlt =>
        refine List.pairwise_cons.mpr ⟨fun u hu => ?_, List.pairwise_cons.mpr h⟩
        rcases List.mem_cons.mp hu with rfl | hu
        · exact hlt
        · exact String.lt_trans hlt (h.1 u hu)
      next hle =>
        split
        next => exact List.pairwise_cons.mpr h
        next hne =>
          refine List.pairwise_cons.mpr ⟨fun u hu => ?_, ih h.2⟩
          rcases mem_insert.mp hu with rfl | hu
          · exact String.not_le.mp fun hge => hne (String.le_antisymm hge (String.not_lt.mp hle))
          · exact h.1 u hu

theorem pairwise_insertAll {set : List String} (h : set.Pairwise (· < ·)) (items : List String) :
    (insertAll set items).Pairwise (· < ·) := by
  induction items generalizing set with
  | nil => exact h
  | cons s rest ih => exact ih (pairwise_insert h s)

/-- A set is determined by its elements, so it is the one that sorting makes. -/
theorem ofList_eq_sortedDistinct {items texts : List String} (h : ∀ t, t ∈ items ↔ t ∈ texts) :
    ofList items = sortedDistinct texts := by
  apply List.Pairwise.eq_of_mem_iff (pairwise_insertAll .nil items) (pairwise_sortedDistinct texts)
  intro t
  rw [mem_sortedDistinct, ← h t]
  exact mem_ofList

end TextSet

/-! ### Choices -/

namespace Choice

variable {value : Value} {texts : List String}

/-- The texts that a choice names: a text's words or a list's items. -/
def elements : Value → List String
  | .text s => Text.wordsOf s
  | .list items => items.map Value.plainText
  | _ => []

/-- Whether a choice is given in texts, or not given. -/
def IsTextual : Value → Prop
  | .null | .text _ => True
  | .list items => ∃ texts : List String, items = texts.map .text
  | _ => False

theorem same_text (a b : String) : (Value.text a).same (.text b) = (a == b) := by
  rw [Value.same]

theorem distinct_map_text (texts : List String) :
    ∃ kept : List String, distinct (texts.map .text) = kept.map .text ∧
      ∀ t, t ∈ kept ↔ t ∈ texts := by
  have hfold (texts seen : List String) : ∃ kept : List String,
      (texts.map Value.text).foldl (fun seen item =>
        if seen.any (·.same item) then seen else seen ++ [item]) (seen.map .text) =
        kept.map .text ∧ ∀ t, t ∈ kept ↔ t ∈ seen ∨ t ∈ texts := by
    induction texts generalizing seen with
    | nil => exact ⟨seen, rfl, by simp⟩
    | cons text rest ih =>
        have hseen : (seen.map Value.text).any (·.same (.text text)) = seen.contains text := by
          rw [Bool.eq_iff_iff]
          simp [same_text]
        rw [List.map_cons, List.foldl_cons, hseen]
        split
        next hmem =>
          obtain ⟨kept, hkept, hiff⟩ := ih seen
          refine ⟨kept, hkept, fun t => ?_⟩
          rw [List.contains_iff_mem] at hmem
          rw [hiff, List.mem_cons]
          grind
        next =>
          obtain ⟨kept, hkept, hiff⟩ := ih (seen ++ [text])
          refine ⟨kept, by simpa using hkept, fun t => ?_⟩
          rw [hiff, List.mem_append, List.mem_singleton, List.mem_cons, or_assoc]
  obtain ⟨kept, hkept, hiff⟩ := hfold texts []
  exact ⟨kept, hkept, by simpa using hiff⟩

/-- The set that a choice gives has the texts that the choice names. -/
theorem ofValue_of_isTextual (h : IsTextual value) :
    ∃ kept : List String,
      ofValue value = .ok (kept.map .text) ∧ ∀ t, t ∈ kept ↔ t ∈ elements value := by
  cases value with
  | null => exact ⟨[], rfl, by simp [elements]⟩
  | text s =>
      obtain ⟨kept, hkept, hiff⟩ := distinct_map_text (Text.wordsOf s)
      exact ⟨kept, congrArg _ hkept, hiff⟩
  | list items =>
      obtain ⟨texts, rfl⟩ := h
      obtain ⟨kept, hkept, hiff⟩ := distinct_map_text texts
      refine ⟨kept, ?_, fun t => ?_⟩
      · have hatomic : (texts.map Value.text).all (·.isAtomic) = true := by
          simp [Value.isAtomic]
        change (if (texts.map Value.text).all (·.isAtomic) then
          Except.ok (distinct (texts.map .text)) else Except.error Failure.wrongKind) = _
        rw [if_pos hatomic, hkept]
      · rw [hiff, elements, List.map_map]
        simp [Function.comp_def, Value.plainText]
  | bool b | int i | real x | object members => exact absurd h (by simp [IsTextual])

/-- The words of a choice in order and joined by spaces. -/
theorem sortedText_map_text {kept : List String} (h : ∀ t, t ∈ kept ↔ t ∈ texts) :
    sortedText (kept.map .text) = .ok (String.intercalate " " (TextSet.sortedDistinct texts)) := by
  rw [sortedText, Value.toTexts_map_text, ← TextSet.ofList_eq_sortedDistinct h]
  rfl

/-- Prompts are taken as a set, unless one of them is unknown. -/
theorem promptsOf_of_isTextual (h : IsTextual value) :
    (∀ t ∈ elements value, t ∈ prompts) ∧
        promptsOf value = .ok (TextSet.sortedDistinct (elements value)) ∨
      (¬∀ t ∈ elements value, t ∈ prompts) ∧
        ∃ failure, promptsOf value = .error failure ∧ failure.IsAuthorization := by
  obtain ⟨kept, hkept, hiff⟩ := ofValue_of_isTextual h
  have hunknown : ((kept.map Value.text).filter fun choice =>
      !prompts.any fun known => choice.same (.text known)) =
      (kept.filter fun t => t ∉ prompts).map .text := by
    rw [List.filter_map]
    refine congrArg _ (List.filter_congr fun t _ => ?_)
    have hknown : (prompts.any fun known => (Value.text t).same (.text known)) =
        decide (t ∈ prompts) := by
      rw [Bool.eq_iff_iff]
      simp [same_text]
    simp only [Function.comp_apply, hknown, decide_not]
  have hall : (∀ t ∈ elements value, t ∈ prompts) ↔
      ((kept.filter fun t => t ∉ prompts).map Value.text).isEmpty = true := by
    simp [← hiff]
  rw [hall, promptsOf, hkept]
  dsimp only [bind, Except.bind]
  rw [hunknown]
  split
  next hnone =>
    refine .inl ⟨hnone, ?_⟩
    rw [Value.toTexts_map_text, ← TextSet.ofList_eq_sortedDistinct hiff]
    rfl
  next hsome =>
    refine .inr ⟨hsome, ?_⟩
    rw [sorted, Value.toTexts_map_text]
    exact ⟨_, rfl, _, _, rfl⟩

end Choice

/-! ### Options by name -/

namespace SignInOptions

/-- The names of all options. -/
def names : List String :=
  ["response_type", "response_mode", "state", "nonce", "prompt", "domain_hint", "login_hint",
    "code_challenge", "code_challenge_method"]

/-- Options with those changed that named values give. -/
def updated (options : SignInOptions) (given : Members) : SignInOptions where
  responseType := (Assoc.get? "response_type" given).getD options.responseType
  responseMode := (Assoc.get? "response_mode" given).or options.responseMode
  state := (Assoc.get? "state" given).getD options.state
  nonce := (Assoc.get? "nonce" given).getD options.nonce
  prompt := (Assoc.get? "prompt" given).getD options.prompt
  domainHint := (Assoc.get? "domain_hint" given).getD options.domainHint
  loginHint := (Assoc.get? "login_hint" given).getD options.loginHint
  codeChallenge := (Assoc.get? "code_challenge" given).getD options.codeChallenge
  codeChallengeMethod :=
    (Assoc.get? "code_challenge_method" given).getD options.codeChallengeMethod

/-- Options that are given once each and have known names are set to what is given. -/
theorem ofMembers_eq {given : Members} (hdistinct : (given.map Prod.fst).Nodup)
    (hknown : ∀ field ∈ given, field.1 ∈ names) :
    ofMembers given = .ok (updated {} given) := by
  have hset (options : SignInOptions) :
      given.foldlM (fun options field => options.set field.1 field.2) options =
        .ok (options.updated given) := by
    induction given generalizing options with
    | nil => rfl
    | cons field rest ih =>
        obtain ⟨name, value⟩ := field
        rw [List.map_cons, List.nodup_cons] at hdistinct
        rw [List.forall_mem_cons] at hknown
        have hlater : Assoc.get? name rest = none := Assoc.get?_of_not_mem hdistinct.1
        -- The option that is set now is not set again by the rest.
        have hstep : ∃ next, options.set name value = .ok next ∧
            next.updated rest = options.updated ((name, value) :: rest) := by
          have hname := hknown.1
          simp only [names, List.mem_cons, List.not_mem_nil, or_false] at hname
          rcases hname with rfl | rfl | rfl | rfl | rfl | rfl | rfl | rfl | rfl <;>
            exact ⟨_, rfl, by simp [updated, Assoc.get?, hlater]⟩
        obtain ⟨next, hnext, hupdated⟩ := hstep
        rw [List.foldlM_cons]
        dsimp only
        rw [hnext, ← hupdated]
        exact ih hdistinct.2 hknown.2 next
  exact hset {}

end SignInOptions

/-! ### Builders -/

/-- A builder of authorization URLs. -/
inductive UrlBuilder where
  | signIn (flow : SignInFlow)
  | adminConsent

namespace UrlBuilder

variable {builder : UrlBuilder} {config : AppConfig} {given : Members} {world : World}

/-- Opens a URL with options by name. -/
def build (builder : UrlBuilder) (config : AppConfig) (given : Members) :
    Action World AuthorizationUrl :=
  match builder with
  | .signIn flow => AuthorizationUrl.openSignIn flow config given
  | .adminConsent => Action.ofExcept (AuthorizationUrl.openConsent config given)

/-- The address to which the user is sent. -/
def endpoint (builder : UrlBuilder) (config : AppConfig) : String :=
  match builder with
  | .signIn _ => config.cloud.authorizationEndpoint config.authority
  | .adminConsent => config.cloud.adminConsentEndpoint config.authority

/-- The names of the options that a builder has. -/
def optionNames : UrlBuilder → List String
  | .signIn flow => SignInOptions.names.filter flow.takes
  | .adminConsent => ["state"]

/-- What a builder can be given: options of its own, once each, and choices in texts. -/
structure Takes (builder : UrlBuilder) (given : Members) : Prop where
  distinct : (given.map Prod.fst).Nodup
  known : ∀ field ∈ given, field.1 ∈ builder.optionNames
  responseType : Choice.IsTextual (Value.member given "response_type")
  prompt : Choice.IsTextual (Value.member given "prompt")

/-- The parameters that a URL must have. -/
def required : UrlBuilder → List Parameter
  | .signIn flow => flow.required
  | .adminConsent => [.clientId, .redirectUri]

/-- The parameters that a URL may have besides. -/
def optional : UrlBuilder → List Parameter
  | .signIn flow => flow.optional
  | .adminConsent => [.state]

/-- The nonce of a URL: what is given, or for OpenID a random text when nothing is. -/
def nonce (builder : UrlBuilder) (given : Members) (world : World) : Value :=
  match builder with
  | .signIn .openId =>
      (Value.member given "nonce").orElse
        (.text (Text.Base64Url.encode (world.entropy.take 32).1))
  | .signIn _ => Value.member given "nonce"
  | .adminConsent => .null

end UrlBuilder

/-- Texts that are sent together: each one once, in order and joined by spaces. -/
def joined? (texts : List String) : Option String :=
  (Value.text (String.intercalate " " (TextSet.sortedDistinct texts))).filled?

theorem joined?_eq (texts : List String) :
    joined? texts = (Value.text (String.intercalate " " (TextSet.ofList texts))).filled? := by
  rw [joined?, TextSet.ofList_eq_sortedDistinct fun _ => Iff.rfl]

namespace SignInFlow

/-- The response types that are asked for, those of the flow when none are given. -/
def responseTypes (flow : SignInFlow) (given : Members) : List String :=
  let types := Choice.elements (Value.member given "response_type")
  if types.isEmpty then [flow.defaultResponseType] else types

/-- The response mode that is asked for: the fragment for an ID token that is not posted. -/
def responseMode (flow : SignInFlow) (given : Members) : Value :=
  let mode := (Assoc.get? "response_mode" given).getD flow.defaultResponseMode
  if "id_token" ∈ flow.responseTypes given ∧ mode.text? ≠ some "form_post" then .text "fragment"
  else mode

/-- The scopes that are asked for, without their blank ends. -/
def scopeTexts (flow : SignInFlow) (config : AppConfig) : List String :=
  let scopes := (config.scope.map fun scope => Text.trimmed scope.plainText).filter
    fun scope => !Text.isBlankText scope
  if flow = .openId then "openid" :: scopes else scopes

/-- What is asked for a parameter of a sign-in. -/
def asked? (flow : SignInFlow) (config : AppConfig) (given : Members) (nonce : Value) :
    Parameter → Option String
  | .clientId => (Value.text config.clientId).filled?
  | .redirectUri => config.redirectUri.filled?
  | .scope => joined? (flow.scopeTexts config)
  | .responseType => joined? (flow.responseTypes given)
  | .responseMode => (flow.responseMode given).filled?
  | .state => (Value.member given "state").filled?
  | .nonce => nonce.filled?
  | .prompt => joined? (Choice.elements (Value.member given "prompt"))
  | .domainHint => (Value.member given "domain_hint").filled?
  | .loginHint => (Value.member given "login_hint").filled?
  | .codeChallenge =>
      if (Value.member given "code_challenge").isPresent then
        (Value.member given "code_challenge").filled?
      else none
  | .codeChallengeMethod =>
      if (Value.member given "code_challenge").isPresent then
        ((Value.member given "code_challenge_method").orElse (.text "S256")).filled?
      else none
  | _ => none

end SignInFlow

namespace UrlBuilder

/-- What is asked for a parameter. -/
def asked? (builder : UrlBuilder) (config : AppConfig) (given : Members) (nonce : Value) :
    Parameter → Option String :=
  match builder with
  | .signIn flow => flow.asked? config given nonce
  | .adminConsent => AuthorizationUrl.consentValue? config (Value.member given "state")

/-- Whether what is asked can be sent. -/
structure IsAcceptable (builder : UrlBuilder) (config : AppConfig) (given : Members)
    (nonce : Value) : Prop where
  prompts : ∀ flow, builder = .signIn flow →
    ∀ prompt ∈ Choice.elements (Value.member given "prompt"), prompt ∈ Choice.prompts
  responseTypes : ∀ flow, builder = .signIn flow →
    flow.Supports (String.intercalate " " (TextSet.sortedDistinct (flow.responseTypes given)))
  bound : builder = .signIn .implicit → "id_token" ∈ SignInFlow.responseTypes .implicit given →
    nonce.filled?.isSome
  complete : ∀ parameter ∈ builder.required, (builder.asked? config given nonce parameter).isSome

end UrlBuilder

/-! ### Sign-in as it was asked for -/

namespace SignIn

/-- Whether the options of a sign-in are those that were given for a flow. -/
structure Follows (options : SignIn) (flow : SignInFlow) (given : Members) (nonce : Value) :
    Prop where
  flow_eq : options.flow = flow
  responseTypes : ∃ kept : List String, options.responseTypes = kept.map .text ∧
    ∀ t, t ∈ kept ↔ t ∈ flow.responseTypes given
  responseMode :
    options.responseMode = (Assoc.get? "response_mode" given).getD flow.defaultResponseMode
  state : options.state = Value.member given "state"
  nonce : options.nonce = nonce
  prompts : options.prompts =
    TextSet.sortedDistinct (Choice.elements (Value.member given "prompt"))
  domainHint : options.domainHint = Value.member given "domain_hint"
  loginHint : options.loginHint = Value.member given "login_hint"
  codeChallenge : options.codeChallenge = Value.member given "code_challenge"
  codeChallengeMethod : options.codeChallengeMethod = Value.member given "code_challenge_method"

namespace Follows

variable {options : SignIn} {flow : SignInFlow} {config : AppConfig} {given : Members}
  {nonce : Value}

theorem sortedText (h : options.Follows flow given nonce) :
    Choice.sortedText options.responseTypes =
      .ok (String.intercalate " " (TextSet.sortedDistinct (flow.responseTypes given))) := by
  obtain ⟨kept, hkept, hiff⟩ := h.responseTypes
  rw [hkept]
  exact Choice.sortedText_map_text hiff

theorem yieldsIdToken_iff (h : options.Follows flow given nonce) :
    options.yieldsIdToken = true ↔ "id_token" ∈ flow.responseTypes given := by
  obtain ⟨kept, hkept, hiff⟩ := h.responseTypes
  rw [← hiff, yieldsIdToken, Choice.contains, hkept]
  simp [Choice.same_text]

theorem safeResponseMode (h : options.Follows flow given nonce) :
    options.safeResponseMode = flow.responseMode given := by
  have hposted (mode : Value) :
      mode.same (.text "form_post") = true ↔ mode.text? = some "form_post" := by
    constructor
    · intro hsame
      rw [Value.eq_text_of_same hsame]
      rfl
    · intro htext
      cases mode <;> cases htext
      exact Choice.same_text _ _
  rw [SignIn.safeResponseMode, SignInFlow.responseMode, h.responseMode]
  simp only [Bool.and_eq_true, h.yieldsIdToken_iff, Bool.not_eq_true', ← Bool.not_eq_true, hposted,
    ne_eq]

theorem scopeText? (hscope : ∀ scope ∈ config.scope, ∃ text, scope = .text text)
    (flow : SignInFlow) :
    ParameterMap.scopeText? (flow.scopes config) = joined? (flow.scopeTexts config) := by
  have hitems : (flow.scopes config).filterMap ParameterMap.scopeOf? = flow.scopeTexts config := by
    have hgiven : config.scope.filterMap ParameterMap.scopeOf? =
        (config.scope.map fun scope => Text.trimmed scope.plainText).filter
          fun scope => !Text.isBlankText scope := by
      rw [← List.filterMap_eq_filter, List.filterMap_map]
      refine List.filterMap_congr fun scope hmem => ?_
      obtain ⟨text, rfl⟩ := hscope scope hmem
      have hempty : Text.isBlankText text = false → text.isEmpty = false := by
        intro hblank
        rw [Bool.eq_false_iff]
        intro hempty
        rw [String.isEmpty_iff.mp hempty] at hblank
        exact absurd hblank (by decide)
      cases hblank : Text.isBlankText text <;>
        simp_all [ParameterMap.scopeOf?, Value.isPresent, Value.plainText, Option.guard,
          Text.isBlankText_trimmed]
    have hopenId : ParameterMap.scopeOf? (.text "openid") = some "openid" := by decide
    cases flow with
    | code => exact hgiven
    | implicit => exact hgiven
    | openId =>
        rw [SignInFlow.scopes, List.filterMap_cons, hopenId, hgiven]
        rfl
  have hfilled : ∀ text ∈ flow.scopeTexts config, Text.isBlankText text = false := by
    intro text htext
    unfold SignInFlow.scopeTexts at htext
    split at htext
    · rcases List.mem_cons.mp htext with rfl | htext
      · decide
      · simpa using (List.mem_filter.mp htext).2
    · simpa using (List.mem_filter.mp htext).2
  rw [ParameterMap.scopeText?, hitems, TextSet.ofList_eq_sortedDistinct fun _ => Iff.rfl, joined?,
    Value.filled?_text]
  cases hsorted : TextSet.sortedDistinct (flow.scopeTexts config) with
  | nil => rfl
  | cons first rest =>
      rw [Text.isBlankText_intercalate (List.cons_ne_nil _ _) (by
        intro text htext
        rw [← hsorted, TextSet.mem_sortedDistinct] at htext
        exact hfilled text htext)]
      rfl

/-- What a sign-in says is what was asked for. -/
theorem value?_eq (h : options.Follows flow given nonce)
    (hscope : ∀ scope ∈ config.scope, ∃ text, scope = .text text) (parameter : Parameter) :
    options.value? config parameter = flow.asked? config given nonce parameter := by
  cases parameter <;>
    simp only [value?, SignInFlow.asked?, h.flow_eq, h.state, h.nonce, h.prompts, h.domainHint,
      h.loginHint, h.codeChallenge, h.codeChallengeMethod, h.safeResponseMode, h.sortedText,
      scopeText? hscope, joined?, Except.toOption, Option.bind_some, ProofKey.digestMethod]

end Follows

/-- The response types of a sign-in are those that are given, or else that of the flow. -/
theorem exists_responseTypes {kept : List String} {given : Members} (flow : SignInFlow)
    (h : ∀ t, t ∈ kept ↔ t ∈ Choice.elements (Value.member given "response_type")) :
    ∃ types : List String,
      (if (kept.map Value.text).isEmpty then [Value.text flow.defaultResponseType]
        else kept.map Value.text) = types.map Value.text ∧
        ∀ t, t ∈ types ↔ t ∈ flow.responseTypes given := by
  cases kept with
  | nil =>
      refine ⟨[flow.defaultResponseType], rfl, fun t => ?_⟩
      have hnone : Choice.elements (Value.member given "response_type") = [] :=
        List.eq_nil_iff_forall_not_mem.mpr fun t ht => List.not_mem_nil ((h t).mpr ht)
      rw [SignInFlow.responseTypes, hnone]
      rfl
  | cons first rest =>
      refine ⟨first :: rest, rfl, fun t => ?_⟩
      have hsome := List.ne_nil_of_mem ((h first).mp List.mem_cons_self)
      rw [SignInFlow.responseTypes, if_neg (by simpa using hsome), h t]

theorem nonce_of_isPresent {given : Members} {flow : SignInFlow} {world : World}
    (h : ¬(flow == .openId && !(Value.member given "nonce").isPresent) = true) :
    Value.member given "nonce" = (UrlBuilder.signIn flow).nonce given world := by
  cases flow with
  | code | implicit => rfl
  | openId =>
      have hpresent : (Value.member given "nonce").isPresent = true := by simpa using h
      rw [UrlBuilder.nonce, Value.orElse, if_pos hpresent]

theorem nonce_of_not_isPresent {given : Members} {flow : SignInFlow} {world : World}
    (h : (flow == .openId && !(Value.member given "nonce").isPresent) = true) :
    Value.text (Text.Base64Url.encode (world.entropy.take 32).1) =
      (UrlBuilder.signIn flow).nonce given world := by
  rw [Bool.and_eq_true, beq_iff_eq, Bool.not_eq_true'] at h
  obtain ⟨rfl, habsent⟩ := h
  rw [UrlBuilder.nonce, Value.orElse, habsent]
  rfl

/-- Options that are taken give a sign-in that follows them, unless a prompt is unknown. -/
theorem ofOptions_perform {flow : SignInFlow} {given : Members}
    (hgiven : (UrlBuilder.signIn flow).Takes given) (world : World) :
    (∀ prompt ∈ Choice.elements (Value.member given "prompt"), prompt ∈ Choice.prompts) ∧
        (∃ options, ((ofOptions flow (.updated {} given)).perform world).1 = .ok options ∧
          options.Follows flow given ((UrlBuilder.signIn flow).nonce given world)) ∨
      (¬∀ prompt ∈ Choice.elements (Value.member given "prompt"), prompt ∈ Choice.prompts) ∧
        ∃ failure, ((ofOptions flow (.updated {} given)).perform world).1 = .error failure ∧
          failure.IsAuthorization := by
  have hresponseType : (SignInOptions.updated {} given).responseType =
    Value.member given "response_type" := rfl
  have hprompt : (SignInOptions.updated {} given).prompt = Value.member given "prompt" := rfl
  have hnonce : (SignInOptions.updated {} given).nonce = Value.member given "nonce" := rfl
  have hmode : (SignInOptions.updated {} given).responseMode.getD flow.defaultResponseMode =
      (Assoc.get? "response_mode" given).getD flow.defaultResponseMode :=
    congrArg (Option.getD · _) Option.or_none
  obtain ⟨kept, hkept, hiff⟩ := Choice.ofValue_of_isTextual hgiven.responseType
  have htypes := exists_responseTypes flow hiff
  rw [ofOptions, hresponseType, hkept, hprompt, hnonce, Action.perform_ofExcept_bind]
  rcases Choice.promptsOf_of_isTextual hgiven.prompt with
    ⟨hknown, hprompts⟩ | ⟨hunknown, failure, hfailure, hauthorization⟩
  · refine .inl ⟨hknown, ?_⟩
    rw [hprompts]
    dsimp only
    split
    next habsent =>
      have hnonce := @nonce_of_not_isPresent _ _ world habsent
      exact ⟨_, rfl, rfl, htypes, hmode, rfl, hnonce, rfl, rfl, rfl, rfl, rfl⟩
    next hpresent =>
      have hnonce := @nonce_of_isPresent _ _ world hpresent
      exact ⟨_, rfl, rfl, htypes, hmode, rfl, hnonce, rfl, rfl, rfl, rfl, rfl⟩
  · refine .inr ⟨hunknown, failure, ?_, hauthorization⟩
    rw [hfailure]
    rfl

end SignIn

/-! ### Refusals -/

namespace AuthorizationUrl

variable {options : SignIn} {config : AppConfig} {failure : Failure} {text : String}

theorem require_error {value : Value} {parameter : Parameter}
    (h : require value parameter = .error failure) : failure.IsAuthorization := by
  unfold require at h
  split at h
  · cases h
    exact Failure.required_isAuthorization _
  · cases h

theorem requireScope_error (h : requireScope config = .error failure) :
    failure.IsAuthorization := by
  unfold requireScope at h
  split at h
  · cases h
    exact Failure.required_isAuthorization _
  · cases h

theorem parameters_toQuery_error {scopes : List Value} {optional required : List Parameter}
    {change : ParameterMap → ParameterMap}
    (htext : Choice.sortedText options.responseTypes = .ok text)
    (h : (options.parameters config scopes >>= fun map => (change map).toQuery optional required) =
      .error failure) : failure.IsAuthorization := by
  obtain ⟨map, hmap⟩ := SignIn.exists_parameters htext config scopes
  rw [hmap] at h
  exact ParameterMap.collect_error (Failure.of_map_error h)

theorem scopedQuery_error {change : ParameterMap → ParameterMap}
    {optional required : List Parameter}
    (htext : Choice.sortedText options.responseTypes = .ok text)
    (h : scopedQuery config options change optional required = .error failure) :
    failure.IsAuthorization := by
  rcases Failure.of_bind_error h with h | ⟨_, -, h⟩
  · exact require_error h
  rcases Failure.of_bind_error h with h | ⟨_, -, h⟩
  · exact requireScope_error h
  exact parameters_toQuery_error htext h

theorem openIdQuery_error (htext : Choice.sortedText options.responseTypes = .ok text)
    (h : openIdQuery config options = .error failure) : failure.IsAuthorization := by
  rw [openIdQuery, htext] at h
  dsimp only [bind, Except.bind] at h
  split at h
  · exact parameters_toQuery_error htext h
  · cases h
    exact ⟨_, _, rfl⟩

theorem implicitQuery_error (htext : Choice.sortedText options.responseTypes = .ok text)
    (h : implicitQuery config options = .error failure) : failure.IsAuthorization := by
  rcases Failure.of_bind_error h with h | ⟨requested, -, h⟩
  · rw [htext] at h
    cases h
  dsimp only at h
  split at h
  · split at h
    · rcases Failure.of_bind_error h with h | ⟨_, -, h⟩
      · exact require_error h
      · exact @scopedQuery_error _ _ _ _ id _ _ htext h
    · exact @scopedQuery_error _ _ _ _ id _ _ htext h
  · cases h
    exact ⟨_, _, rfl⟩

theorem consentQuery_error {state : Value} (h : consentQuery config state = .error failure) :
    failure.IsAuthorization := by
  rcases Failure.of_bind_error h with h | ⟨_, -, h⟩
  · exact require_error h
  · exact ParameterMap.collect_error (Failure.of_map_error h)

theorem signIn_query_error {url : AuthorizationUrl} (hpurpose : url.purpose = .signIn options)
    (htext : Choice.sortedText options.responseTypes = .ok text)
    (h : url.query = .error failure) : failure.IsAuthorization := by
  rw [AuthorizationUrl.query, hpurpose] at h
  dsimp only at h
  split at h
  · exact scopedQuery_error htext h
  · exact openIdQuery_error htext h
  · exact implicitQuery_error htext h

end AuthorizationUrl

/-! ### What is asked and what is said -/

namespace UrlBuilder

variable {builder : UrlBuilder} {config : AppConfig} {given : Members} {world : World}

/-- The URL is built and rendered. -/
def request (builder : UrlBuilder) (config : AppConfig) (given : Members) :
    Action World (AuthorizationUrl × String) := do
  let url ← builder.build config given
  pure (url, ← Action.ofExcept url.render)

/-- The named values that are asked for, in order. -/
def fields (builder : UrlBuilder) (config : AppConfig) (given : Members) (nonce : Value) :
    List (String × String) :=
  ParameterMap.fieldsOf (builder.asked? config given nonce) builder.required ++
    ParameterMap.fieldsOf (builder.asked? config given nonce) builder.optional ++
    config.extraQuery.map fun (name, value) => (name, value.plainText)

/-- Whether a URL says what was asked for: what it requires is there and not blank, and its query
has the named values in order. -/
structure Says (builder : UrlBuilder) (config : AppConfig) (given : Members) (nonce : Value)
    (url : AuthorizationUrl) (text : String) : Prop where
  nonce_eq : url.nonce = nonce
  filled : ∀ parameter ∈ builder.required, ∃ value,
    builder.asked? config given nonce parameter = some value ∧ Text.isBlankText value = false
  said : ∃ query, text = builder.endpoint config ++ "?" ++ query ∧
    Text.Form.decode true query = builder.fields config given nonce

theorem isBlankText_of_asked? {parameter : Parameter} {nonce : Value} {value : String}
    (h : builder.asked? config given nonce parameter = some value) :
    Text.isBlankText value = false := by
  cases builder with
  | adminConsent =>
      cases parameter <;> first | exact Value.isBlankText_of_filled? h | cases h
  | signIn flow =>
      cases parameter <;> first | exact Value.isBlankText_of_filled? h | cases h | skip
      all_goals
        simp only [asked?, SignInFlow.asked?] at h
        split at h
        · exact Value.isBlankText_of_filled? h
        · cases h

theorem build_signIn {flow : SignInFlow} (hgiven : (signIn flow).Takes given) :
    (signIn flow).build config given = (SignIn.ofOptions flow (.updated {} given) >>= fun options =>
      pure { config, purpose := .signIn options }) := by
  have hknown (field : String × Value) (hfield : field ∈ given) :
      field.1 ∈ SignInOptions.names ∧ flow.takes field.1 = true :=
    List.mem_filter.mp (hgiven.known field hfield)
  have htakes : (given.all fun (name, _) => flow.takes name) = true :=
    List.all_eq_true.mpr fun field hfield => (hknown field hfield).2
  rw [build, AuthorizationUrl.openSignIn, if_pos htakes,
    SignInOptions.ofMembers_eq hgiven.distinct fun field hfield => (hknown field hfield).1]
  rfl

/-- What is asked can be sent exactly when the sign-in that follows it has a query. -/
theorem isAcceptable_iff {options : SignIn} {flow : SignInFlow} {nonce : Value}
    (h : options.Follows flow given nonce)
    (hscope : ∀ scope ∈ config.scope, ∃ text, scope = .text text)
    (hprompts : ∀ prompt ∈ Choice.elements (Value.member given "prompt"),
      prompt ∈ Choice.prompts) :
    (signIn flow).IsAcceptable config given nonce ↔
      options.IsSupported ∧
        ∀ parameter ∈ options.needed, (options.value? config parameter).isSome := by
  have hsupported : options.IsSupported ↔ flow.Supports
      (String.intercalate " " (TextSet.sortedDistinct (flow.responseTypes given))) := by
    simp [SignIn.IsSupported, h.sortedText, h.flow_eq]
  have hneeded : (∀ parameter ∈ options.needed, (options.value? config parameter).isSome) ↔
      (∀ parameter ∈ flow.required, (flow.asked? config given nonce parameter).isSome) ∧
        (flow = .implicit → "id_token" ∈ flow.responseTypes given → nonce.filled?.isSome) := by
    simp only [h.value?_eq hscope, SignIn.needed, h.flow_eq, h.yieldsIdToken_iff,
      List.forall_mem_append]
    refine and_congr_right fun _ => ?_
    split
    next hyields =>
      obtain ⟨rfl, hmem⟩ := hyields
      simp [hmem, SignInFlow.asked?]
    next hnone => simpa using fun hflow hmem => absurd ⟨hflow, hmem⟩ hnone
  rw [hsupported, hneeded]
  constructor
  · intro hacceptable
    refine ⟨hacceptable.responseTypes flow rfl, hacceptable.complete, ?_⟩
    rintro rfl
    exact hacceptable.bound rfl
  · rintro ⟨hsupports, hcomplete, hbound⟩
    refine ⟨?_, ?_, ?_, hcomplete⟩
    · rintro _ ⟨⟩
      exact hprompts
    · rintro _ ⟨⟩
      exact hsupports
    · rintro ⟨⟩
      exact hbound rfl

/-- What comes of a request: a URL that says what was asked for where that can be sent, and
elsewhere a refusal. -/
def Settles (builder : UrlBuilder) (config : AppConfig) (given : Members) (nonce : Value)
    (outcome : Except Failure (AuthorizationUrl × String)) : Prop :=
  (builder.IsAcceptable config given nonce ∧
    ∃ url text, outcome = .ok (url, text) ∧ builder.Says config given nonce url text) ∨
  (¬builder.IsAcceptable config given nonce ∧
    ∃ failure, outcome = .error failure ∧ failure.IsAuthorization)

theorem settles_of_url {url : AuthorizationUrl} {nonce : Value}
    (hacceptable : builder.IsAcceptable config given nonce ↔ ∃ query, url.query = .ok query)
    (hrefused : ∀ failure, url.query = .error failure → failure.IsAuthorization)
    (hnonce : url.nonce = nonce) (hendpoint : url.endpoint = builder.endpoint config)
    (hfields : url.fields = builder.fields config given nonce) :
    builder.Settles config given nonce (url.render.map fun text => (url, text)) := by
  cases hquery : url.query with
  | error failure =>
      right
      refine ⟨?_, failure, ?_, hrefused failure hquery⟩
      · rw [hacceptable, hquery]
        rintro ⟨_, ⟨⟩⟩
      · rw [AuthorizationUrl.render, hquery]
        rfl
  | ok query =>
      left
      have hsend := hacceptable.mpr ⟨query, hquery⟩
      have hrender : url.render =
          .ok (url.endpoint ++ "?" ++ AuthorizationUrl.withExtra url.config query) := by
        rw [AuthorizationUrl.render, hquery]
        rfl
      obtain ⟨carried, htext, hdecode⟩ := AuthorizationUrl.render_ok hrender
      refine ⟨hsend, url, _, by rw [hrender]; rfl, hnonce, ?_, carried, ?_, ?_⟩
      · intro parameter hparameter
        obtain ⟨value, hvalue⟩ :=
          Option.isSome_iff_exists.mp (hsend.complete parameter hparameter)
        exact ⟨value, hvalue, isBlankText_of_asked? hvalue⟩
      · rw [htext, hendpoint]
      · rw [hdecode, hfields]

theorem perform_render (url : AuthorizationUrl) (world : World) :
    ((do pure (url, ← Action.ofExcept url.render) : Action World _).perform world).1 =
      url.render.map fun text => (url, text) := by
  cases url.render <;> rfl

theorem settles_signIn {flow : SignInFlow}
    (hscope : ∀ scope ∈ config.scope, ∃ text, scope = .text text)
    (hgiven : (signIn flow).Takes given) (world : World) :
    (signIn flow).Settles config given ((signIn flow).nonce given world)
      (((signIn flow).request config given).perform world).1 := by
  rw [request, build_signIn hgiven, bind_assoc, Action.perform_bind]
  rcases hperform : (SignIn.ofOptions flow (.updated {} given)).perform world with ⟨outcome, after⟩
  rcases SignIn.ofOptions_perform hgiven world with
    ⟨hprompts, options, hoptions, hfollows⟩ | ⟨hunknown, failure, hfailure, hauthorization⟩
  · rw [hperform] at hoptions
    cases hoptions
    dsimp only
    rw [pure_bind, perform_render]
    apply settles_of_url
    · rw [isAcceptable_iff hfollows hscope hprompts]
      constructor
      · rintro ⟨hsupported, hcomplete⟩
        exact ⟨_, (AuthorizationUrl.query_eq_ok_iff rfl).mpr ⟨hsupported, hcomplete, rfl⟩⟩
      · rintro ⟨query, hquery⟩
        obtain ⟨hsupported, hcomplete, -⟩ := (AuthorizationUrl.query_eq_ok_iff rfl).mp hquery
        exact ⟨hsupported, hcomplete⟩
    · intro failure
      exact AuthorizationUrl.signIn_query_error rfl hfollows.sortedText
    · exact hfollows.nonce
    · rfl
    · have hvalue : options.value? config = flow.asked? config given _ :=
        funext (hfollows.value?_eq hscope)
      rw [fields, ← ParameterMap.fieldsOf_append]
      simp only [AuthorizationUrl.fields, AuthorizationUrl.value?, AuthorizationUrl.required,
        AuthorizationUrl.optional, hvalue, hfollows.flow_eq]
      rfl
  · rw [hperform] at hfailure
    cases hfailure
    exact .inr ⟨fun h => hunknown (h.prompts flow rfl), failure, rfl, hauthorization⟩

theorem settles_adminConsent (hgiven : adminConsent.Takes given) (world : World) :
    adminConsent.Settles config given .null
      ((adminConsent.request config given).perform world).1 := by
  have hstate : (given.all fun (name, _) => name == "state") = true := by
    rw [List.all_eq_true]
    intro field hfield
    simpa [optionNames] using hgiven.known field hfield
  rw [request, build, AuthorizationUrl.openConsent, if_pos hstate, Action.perform_ofExcept_bind]
  dsimp only
  rw [perform_render]
  apply settles_of_url
  · constructor
    · intro hacceptable
      exact ⟨_, AuthorizationUrl.consentQuery_eq_ok_iff.mpr ⟨hacceptable.complete, rfl⟩⟩
    · rintro ⟨query, hquery⟩
      exact ⟨by rintro _ ⟨⟩, by rintro _ ⟨⟩, by rintro ⟨⟩,
        (AuthorizationUrl.consentQuery_eq_ok_iff.mp hquery).1⟩
  · intro failure
    exact AuthorizationUrl.consentQuery_error
  · rfl
  · rfl
  · rw [fields, ← ParameterMap.fieldsOf_append]
    rfl

/-- A builder says what it was asked for, and refuses only what cannot be sent. -/
theorem request_says_what_is_asked (builder : UrlBuilder) (config : AppConfig) (given : Members)
    (world : World) (hscope : ∀ scope ∈ config.scope, ∃ text, scope = .text text)
    (hgiven : builder.Takes given) :
    builder.Settles config given (builder.nonce given world)
      ((builder.request config given).perform world).1 := by
  cases builder with
  | signIn flow => exact settles_signIn hscope hgiven world
  | adminConsent => exact settles_adminConsent hgiven world

/-- Options with characters that a query reserves, and response types out of order. -/
def trialOptions : Members :=
  [("response_type", .text "id_token code"), ("state", .text "a&b=c d"),
    ("prompt", .list [.text "login", .text "login"])]

def trialFields : List (String × String) :=
  [("client_id", "client"), ("response_type", "code id_token"),
    ("redirect_uri", "https://localhost/callback"), ("scope", "User.Read"),
    ("response_mode", "fragment"), ("state", "a&b=c d"), ("prompt", "login")]

/-- What is asked with these options, with the sorted sets computed. -/
theorem asked?_trialOptions (parameter : Parameter) :
    (signIn .code).asked? AuthorizationUrl.trialApp trialOptions .null parameter =
      match parameter with
      | .responseType => some "code id_token"
      | .scope => some "User.Read"
      | .prompt => some "login"
      | other => (signIn .code).asked? AuthorizationUrl.trialApp trialOptions .null other := by
  cases parameter <;> first | rfl | (change joined? _ = _; rw [joined?_eq]; rfl)

theorem fields_trialOptions :
    (signIn .code).fields AuthorizationUrl.trialApp trialOptions .null = trialFields := by
  rw [fields, funext asked?_trialOptions]
  rfl

theorem trialOptions_are_sent :
    ∃ url query, (((signIn .code).request AuthorizationUrl.trialApp trialOptions).perform
        AuthorizationUrl.trialWorld).1 =
        .ok (url, (signIn .code).endpoint AuthorizationUrl.trialApp ++ "?" ++ query) ∧
      Text.Form.decode true query = trialFields := by
  have hacceptable : (signIn .code).IsAcceptable AuthorizationUrl.trialApp trialOptions .null := by
    refine ⟨by rintro _ ⟨⟩; decide, by rintro _ ⟨⟩; trivial, by rintro ⟨⟩, ?_⟩
    rw [funext asked?_trialOptions]
    decide
  have hscope : ∀ scope ∈ AuthorizationUrl.trialApp.scope, ∃ text, scope = .text text := by
    intro scope hmem
    exact ⟨"User.Read", List.mem_singleton.mp hmem⟩
  have hgiven : (signIn .code).Takes trialOptions :=
    ⟨by decide, by decide, trivial, ["login", "login"], rfl⟩
  rcases request_says_what_is_asked (.signIn .code) AuthorizationUrl.trialApp trialOptions
    AuthorizationUrl.trialWorld hscope hgiven with
    ⟨-, url, text, houtcome, hsays⟩ | ⟨hrefused, -⟩
  · obtain ⟨query, rfl, hdecode⟩ := hsays.said
    exact ⟨url, query, houtcome, hdecode.trans fields_trialOptions⟩
  · exact absurd hacceptable hrefused

end UrlBuilder

end OAuthClient
