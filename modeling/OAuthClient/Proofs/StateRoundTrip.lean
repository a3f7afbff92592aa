import OAuthClient.Identity.Redirect
import OAuthClient.Proofs.UrlParts
import OAuthClient.Proofs.UrlRequests

/-! # The state of a sign-in

The state that a URL is built with is in its query, and a redirect that carries
it back is read with this state. Whether the check accepts it then is another
matter: texts are compared only within ASCII, and the check of any other state
breaks off, also when the redirect brought back what was sent.
-/

namespace OAuthClient

/-- Whether a text is within ASCII. -/
def Text.IsAscii (text : String) : Prop := text.toList.all Percent.isAscii = true

namespace Redirect

variable {s : String} {carried : List Char} {logPii : Bool} {response : Redirect}

/-! ### The check -/

theorem checkState_null (hstate : response.state = .null) (expected : Value) :
    response.checkState expected = .error checkState.mismatch := by
  cases response
  cases hstate
  rfl

/-- Two texts are compared where both are within ASCII, and only there. -/
theorem checkState_text {t : String} (hstate : response.state = .text t) :
    response.checkState (.text s) =
      if t.toList.all Text.Percent.isAscii && s.toList.all Text.Percent.isAscii then
        if t = s then .ok response else .error checkState.mismatch
      else .error .wrongKind := by
  cases response
  cases hstate
  rfl

theorem checkState_of_isAscii {t : String} (hstate : response.state = .text t)
    (hreturned : Text.IsAscii t) (hsent : Text.IsAscii s) :
    response.checkState (.text s) = if t = s then .ok response else .error checkState.mismatch := by
  rw [checkState_text hstate, hreturned, hsent]
  rfl

theorem checkState_of_not_isAscii {t : String} (hstate : response.state = .text t)
    (h : ¬(Text.IsAscii t ∧ Text.IsAscii s)) :
    response.checkState (.text s) = .error .wrongKind := by
  rw [checkState_text hstate, if_neg]
  rw [Bool.and_eq_true]
  exact h

/-! ### Values of a redirect -/

/-- Whether a form brings a state back: it is there in form encoding, and no later value has its
name. -/
def CarriesState (s : String) (carried : List Char) : Prop :=
  ∃ before after,
    Text.splitOn (· == '&') carried = before ++ Text.Form.encodePair ("state", s) :: after ∧
      ∀ piece ∈ after, ∀ field,
        Text.Form.decodePair false piece = some field → field.1 ≠ "state"

theorem member_valuesOf (hs : s ≠ "") (h : CarriesState s carried) :
    Value.member (valuesOf (String.ofList carried)) "state" = .text s := by
  obtain ⟨before, after, hpieces, hlater⟩ := h
  have hkey : "state" ∉ ((after.filterMap (Text.Form.decodePair false)).map
      fun field => (field.1, Value.text field.2)).map Prod.fst := by
    simp only [List.map_map, List.mem_map, List.mem_filterMap, not_exists, not_and]
    rintro field ⟨piece, hpiece, hfield⟩ hname
    exact hlater piece hpiece field hfield hname
  have hstate := @Text.Form.decodePair_encodePair false ("state", s) (.inr hs)
  rw [Value.member, valuesOf, Text.Form.decode, String.toList_ofList, hpieces,
    List.filterMap_append, List.filterMap_cons_some hstate, List.map_append, List.map_cons]
  exact congrArg (Option.getD · Value.null) (Assoc.get?_ofPairs_append hkey)

theorem isTextual_valuesOf (form : String) :
    ∀ field ∈ valuesOf form, ∃ text, field.2 = .text text := by
  intro field hfield
  obtain ⟨pair, -, rfl⟩ := List.mem_map.mp (Assoc.mem_ofPairs hfield)
  exact ⟨pair.2, rfl⟩

theorem secondsOf_text (text : String) :
    secondsOf (.text text) = .ok (Value.text text).toInteger.toOption := by
  cases hread : Text.readInteger text.toList with
  | ok seconds => simp [secondsOf, Value.toInteger, hread, Except.toOption]
  | error fault => simp [secondsOf, Value.toInteger, hread, Except.toOption]

theorem member_textual {values : Members} (h : ∀ field ∈ values, ∃ text, field.2 = .text text)
    (name : String) :
    Value.member values name = .null ∨ ∃ text, Value.member values name = .text text := by
  rw [Value.member]
  cases hvalue : Assoc.get? name values with
  | none => exact .inl rfl
  | some value =>
      obtain ⟨text, htext⟩ := h _ (Assoc.mem_of_get? hvalue)
      exact .inr ⟨text, htext⟩

/-- Each value of a redirect is the one of its name, a lifetime being the integer that it says, and
the others are kept aside. -/
structure Reads (response : Redirect) (values : Members) : Prop where
  code : response.code = Value.member values "code"
  idToken : response.idToken = Value.member values "id_token"
  expiresIn : response.expiresIn = (Value.member values "expires_in").toInteger.toOption
  accessToken : response.accessToken = Value.member values "access_token"
  state : response.state = Value.member values "state"
  sessionState : response.sessionState = Value.member values "session_state"
  nonce : response.nonce = Value.member values "nonce"
  error : response.error = Value.member values "error"
  errorDescription : response.errorDescription = Value.member values "error_description"
  errorUri : response.errorUri = Value.member values "error_uri"
  additional : response.additional = Value.without knownNames values

/-- A lifetime that is no integer is ignored, so values that are texts are always read. -/
theorem exists_ofMembers {values : Members} (h : ∀ field ∈ values, ∃ text, field.2 = .text text)
    (logPii : Bool) :
    ∃ response, ofMembers values logPii = .ok response ∧ response.Reads values := by
  have hseconds : secondsOf (Value.member values "expires_in") =
      .ok (Value.member values "expires_in").toInteger.toOption := by
    rcases member_textual h "expires_in" with hnull | ⟨text, htext⟩
    · rw [hnull]
      rfl
    · rw [htext]
      exact secondsOf_text text
  rw [ofMembers, hseconds]
  exact ⟨_, rfl, ⟨rfl, rfl, rfl, rfl, rfl, rfl, rfl, rfl, rfl, rfl, rfl⟩⟩

/-! ### Redirects that bring a state back -/

/-- A redirect that brings a state back: a readable address with a form behind it, in the query or
in the fragment. -/
inductive BringsBack (s : String) : String → Prop
  | query (base carried : String) (hreadable : (Text.Url.split? base.toList).isSome)
      (hbase : ∀ c ∈ base.toList, c ≠ '?' ∧ c ≠ '#')
      (hcarried : ∀ c ∈ carried.toList, c ≠ '#' ∧ Text.Url.isIgnored c = false)
      (hstate : CarriesState s carried.toList) : BringsBack s (base ++ "?" ++ carried)
  | fragment (base carried : String) (hreadable : (Text.Url.split? base.toList).isSome)
      (hbase : ∀ c ∈ base.toList, c ≠ '#')
      (hcarried : ∀ c ∈ carried.toList, Text.Url.isIgnored c = false)
      (hstate : CarriesState s carried.toList) : BringsBack s (base ++ "#" ++ carried)

theorem CarriesState.ne_nil (h : CarriesState s carried) : carried ≠ [] := by
  rintro rfl
  obtain ⟨before, after, hpieces, -⟩ := h
  have hmem : Text.Form.encodePair ("state", s) ∈ Text.splitOn (· == '&') [] := by
    rw [hpieces]
    exact List.mem_append_right _ List.mem_cons_self
  exact Text.Form.encodePair_ne_nil _ (List.mem_singleton.mp hmem)

theorem ofUrl_of_split? {url : String} {parts : Text.Url.Parts} {carried : List Char}
    (hparts : Text.Url.split? url.toList = some parts)
    (hcarried : (if parts.fragment.isEmpty then parts.query else parts.fragment) = carried)
    (hne : carried ≠ []) (logPii : Bool) :
    ofUrl url logPii = ofMembers (valuesOf (String.ofList carried)) logPii := by
  rw [ofUrl, hparts]
  dsimp only
  rw [hcarried, if_neg (by simpa using hne)]

/-- A state that is brought back is the one that is read. -/
theorem ofUrl_of_bringsBack {url : String} (hs : s ≠ "") (h : BringsBack s url) (logPii : Bool) :
    ∃ response, ofUrl url logPii = .ok response ∧ response.state = .text s := by
  obtain ⟨carried, hurl, hstate⟩ : ∃ carried,
      ofUrl url logPii = ofMembers (valuesOf (String.ofList carried)) logPii ∧
        CarriesState s carried := by
    cases h with
    | query base carried hreadable hbase hcarried hstate =>
        obtain ⟨parts, hparts⟩ := Option.isSome_iff_exists.mp hreadable
        have hsplit : Text.Url.split? (base ++ "?" ++ carried).toList =
            some ⟨carried.toList, []⟩ := by
          rw [String.toList_append, String.toList_append, List.append_assoc]
          exact Text.Url.split?_query hparts hbase hcarried
        exact ⟨_, ofUrl_of_split? hsplit rfl hstate.ne_nil logPii, hstate⟩
    | fragment base carried hreadable hbase hcarried hstate =>
        obtain ⟨parts, hparts⟩ := Option.isSome_iff_exists.mp hreadable
        obtain ⟨query, hfragment, -⟩ := Text.Url.split?_fragment hparts hbase hcarried
        have hsplit : Text.Url.split? (base ++ "#" ++ carried).toList =
            some ⟨query, carried.toList⟩ := by
          rw [String.toList_append, String.toList_append, List.append_assoc]
          exact hfragment
        exact ⟨_, ofUrl_of_split? hsplit (if_neg (by simpa using hstate.ne_nil)) hstate.ne_nil
          logPii, hstate⟩
  obtain ⟨response, hresponse, hreads⟩ := exists_ofMembers (isTextual_valuesOf _) logPii
  exact ⟨response, hurl.trans hresponse, hreads.state.trans (member_valuesOf hs hstate)⟩

theorem isTextual_state {url : String} (h : ofUrl url logPii = .ok response) :
    response.state = .null ∨ ∃ text, response.state = .text text := by
  rw [ofUrl] at h
  split at h
  next => cases h
  next parts hparts =>
    dsimp only at h
    generalize (if parts.fragment.isEmpty then parts.query else parts.fragment) = carried at h
    split at h
    · cases h
    · obtain ⟨found, hfound, hreads⟩ := exists_ofMembers (isTextual_valuesOf _) logPii
      rw [hfound] at h
      cases h
      rw [hreads.state]
      exact member_textual (isTextual_valuesOf _) "state"

/-- What was sent is accepted when it comes back exactly if it is within ASCII. -/
theorem checkState_of_bringsBack {url : String} (hs : s ≠ "") (h : BringsBack s url)
    (logPii : Bool) :
    ∃ response, ofUrl url logPii = .ok response ∧ response.state = .text s ∧
      (response.checkState (.text s) = .ok response ↔ Text.IsAscii s) := by
  obtain ⟨response, hresponse, hstate⟩ := ofUrl_of_bringsBack hs h logPii
  refine ⟨response, hresponse, hstate, ?_⟩
  constructor
  · intro hok
    by_cases hascii : Text.IsAscii s
    · exact hascii
    · rw [checkState_of_not_isAscii hstate fun h => hascii h.2] at hok
      cases hok
  · intro hascii
    rw [checkState_of_isAscii hstate hascii hascii, if_pos rfl]

/-- What else comes back is refused, but in the words of a refusal only within ASCII. -/
theorem checkState_of_ne {url : String} (h : ofUrl url logPii = .ok response)
    (hne : response.state ≠ .text s) :
    ∃ failure, response.checkState (.text s) = .error failure ∧
      (failure.IsAuthorization ↔ response.state = .null ∨
        ∃ returned, response.state = .text returned ∧ Text.IsAscii returned ∧ Text.IsAscii s) := by
  have hmismatch : checkState.mismatch.IsAuthorization := ⟨_, _, rfl⟩
  rcases isTextual_state h with hnull | ⟨returned, htext⟩
  · exact ⟨_, checkState_null hnull _, iff_of_true hmismatch (.inl hnull)⟩
  · by_cases hascii : Text.IsAscii returned ∧ Text.IsAscii s
    · refine ⟨_, ?_, iff_of_true hmismatch (.inr ⟨returned, htext, hascii⟩)⟩
      rw [checkState_of_isAscii htext hascii.1 hascii.2, if_neg]
      rintro rfl
      exact hne htext
    · refine ⟨_, checkState_of_not_isAscii htext hascii, iff_of_false ?_ ?_⟩
      · rintro ⟨_, _, ⟨⟩⟩
      · rw [htext]
        rintro (hnull | ⟨_, heq, hboth⟩)
        · cases hnull
        · cases heq
          exact hascii hboth

end Redirect

/-! ### The state of a URL -/

theorem SignInOptions.mem_names_of_set {options next : SignInOptions} {name : String}
    {value : Value} (h : options.set name value = .ok next) : name ∈ names := by
  unfold set at h
  split at h <;> first | decide | cases h

theorem SignInOptions.eq_of_ofMembers {given : Members} {options : SignInOptions}
    (hdistinct : (given.map Prod.fst).Nodup) (h : ofMembers given = .ok options) :
    options = updated {} given := by
  have hknown : ∀ field ∈ given, field.1 ∈ names := by
    rw [ofMembers] at h
    generalize ({} : SignInOptions) = start at h
    induction given generalizing start with
    | nil => simp
    | cons field rest ih =>
        obtain ⟨next, hnext, hrest⟩ := Failure.of_bind_ok h
        rw [List.forall_mem_cons]
        exact ⟨mem_names_of_set hnext, ih (List.nodup_cons.mp hdistinct).2 next hrest⟩
  rw [ofMembers_eq hdistinct hknown] at h
  exact (Except.ok.inj h).symm

theorem SignIn.state_of_ofOptions {flow : SignInFlow} {given : SignInOptions} {options : SignIn}
    {world : World} (h : ((ofOptions flow given).perform world).1 = .ok options) :
    options.state = given.state := by
  obtain ⟨types, _, -, h⟩ := Action.of_perform_bind_ok h
  obtain ⟨prompts, _, -, h⟩ := Action.of_perform_bind_ok h
  dsimp only at h
  split at h
  all_goals
    cases h
    rfl

namespace UrlBuilder

variable {builder : UrlBuilder} {config : AppConfig} {given : Members} {world : World}
  {url : AuthorizationUrl} {text : String}

theorem state_of_build (hdistinct : (given.map Prod.fst).Nodup)
    (h : ((builder.build config given).perform world).1 = .ok url) :
    url.config = config ∧ url.endpoint = builder.endpoint config ∧
      .state ∈ url.required ++ url.optional ∧
      url.value? .state = (Value.member given "state").filled? := by
  cases builder with
  | adminConsent =>
      rw [build, AuthorizationUrl.openConsent, Action.perform_ofExcept] at h
      split at h
      · cases h
        exact ⟨rfl, rfl, List.mem_append_right _ List.mem_cons_self, rfl⟩
      · cases h
  | signIn flow =>
      rw [build, AuthorizationUrl.openSignIn] at h
      split at h
      next =>
        rw [Action.perform_ofExcept_bind] at h
        split at h
        next options hoptions =>
          obtain ⟨result, after, hresult, h⟩ := Action.of_perform_bind_ok h
          cases h
          obtain rfl := SignInOptions.eq_of_ofMembers hdistinct hoptions
          have hstate := SignIn.state_of_ofOptions (congrArg Prod.fst hresult)
          refine ⟨rfl, rfl, ?_, congrArg Value.filled? hstate⟩
          simp only [AuthorizationUrl.required, AuthorizationUrl.optional]
          cases result.flow <;> decide
        next => cases h
      next => cases h

/-- A request that succeeds has built a URL and rendered it. -/
theorem of_request_ok (h : ((builder.request config given).perform world).1 = .ok (url, text)) :
    ((builder.build config given).perform world).1 = .ok url ∧ url.render = .ok text := by
  obtain ⟨built, after, hbuilt, h⟩ := Action.of_perform_bind_ok h
  rw [perform_render] at h
  obtain ⟨rendered, hrendered, hpair⟩ := Failure.of_map_ok h
  cases hpair
  exact ⟨congrArg Prod.fst hbuilt, hrendered⟩

/-- The state that a URL was built with is in its query, and what a redirect brings back is read
as it was sent. It is accepted exactly when it is within ASCII; of all other states, those that are
not there and those within ASCII are refused as such. -/
theorem state_comes_back {s : String} (hdistinct : (given.map Prod.fst).Nodup)
    (hstate : Value.member given "state" = .text s) (hs : Text.isBlankText s = false)
    (hextra : ∀ field ∈ config.extraQuery, field.1 ≠ "state")
    (hrequest : ((builder.request config given).perform world).1 = .ok (url, text))
    (logPii : Bool) :
    (∃ query, text = builder.endpoint config ++ "?" ++ query ∧
      ∀ value, ("state", value) ∈ Text.Form.decode true query ↔ value = s) ∧
    (∀ redirect, Redirect.BringsBack s redirect →
      ∃ response, Redirect.ofUrl redirect logPii = .ok response ∧ response.state = .text s ∧
        (response.checkState (.text s) = .ok response ↔ Text.IsAscii s)) ∧
    ∀ redirect response, Redirect.ofUrl redirect logPii = .ok response →
      response.state ≠ .text s →
      ∃ failure, response.checkState (.text s) = .error failure ∧
        (failure.IsAuthorization ↔ response.state = .null ∨
          ∃ returned, response.state = .text returned ∧
            Text.IsAscii returned ∧ Text.IsAscii s) := by
  have hne : s ≠ "" := by
    rintro rfl
    exact absurd hs (by decide)
  refine ⟨?_, fun redirect h => Redirect.checkState_of_bringsBack hne h logPii,
    fun redirect response => Redirect.checkState_of_ne⟩
  obtain ⟨hbuild, hrender⟩ := of_request_ok hrequest
  obtain ⟨hconfig, hendpoint, hasked, hvalue⟩ := state_of_build hdistinct hbuild
  obtain ⟨query, rfl, hdecode⟩ := AuthorizationUrl.render_ok hrender
  refine ⟨query, by rw [hendpoint], fun value => ?_⟩
  have hmore : ("state", value) ∉ AuthorizationUrl.extraFields url.config := by
    intro hmem
    obtain ⟨field, hfield, hname⟩ := List.mem_map.mp hmem
    exact hextra field (hconfig ▸ hfield) (congrArg Prod.fst hname)
  have hgiven : url.value? .state = some s := by
    rw [hvalue, hstate, Value.filled?_text, hs]
    rfl
  rw [hdecode]
  exact (AuthorizationUrl.mem_fields_iff hasked hgiven).trans (or_iff_left hmore)

theorem trial_state_comes_back :
    ∃ url query, (((signIn .code).request AuthorizationUrl.trialApp
        [("state", .text "a&b")]).perform AuthorizationUrl.trialWorld).1 =
        .ok (url, (signIn .code).endpoint AuthorizationUrl.trialApp ++ "?" ++ query) ∧
      ("state", "a&b") ∈ Text.Form.decode true query ∧
      ∃ response, Redirect.ofUrl "https://localhost/callback#code=c&state=a%26b" false =
          .ok response ∧ response.checkState (.text "a&b") = .ok response := by
  have hrequest : ∃ outcome, (((signIn .code).request AuthorizationUrl.trialApp
      [("state", .text "a&b")]).perform AuthorizationUrl.trialWorld).1 = .ok outcome := ⟨_, rfl⟩
  obtain ⟨⟨url, text⟩, hrequest⟩ := hrequest
  obtain ⟨⟨query, rfl, hquery⟩, hreturned, -⟩ :=
    state_comes_back (by decide) rfl (by decide) (by rintro _ ⟨⟩) hrequest false
  refine ⟨url, query, hrequest, (hquery _).mpr rfl, ?_⟩
  obtain ⟨response, hresponse, -, haccepted⟩ :=
    hreturned _ (.fragment "https://localhost/callback" "code=c&state=a%26b" (by decide)
      (by simp) (by simp [Text.Url.isIgnored]) ⟨["code=c".toList], [], by decide, by simp⟩)
  exact ⟨response, hresponse, haccepted.mpr (by unfold Text.IsAscii; decide)⟩

/-- A state outside ASCII is sent and comes back as it was sent, and its check breaks off. -/
theorem foreign_state_is_not_accepted :
    (∃ outcome, (((signIn .code).request AuthorizationUrl.trialApp
        [("state", .text "été")]).perform AuthorizationUrl.trialWorld).1 = .ok outcome) ∧
      ∃ redirect response, Redirect.BringsBack "été" redirect ∧
        Redirect.ofUrl redirect false = .ok response ∧ response.state = .text "été" ∧
        response.checkState (.text "été") = .error .wrongKind := by
  refine ⟨⟨_, rfl⟩, ?_⟩
  have hback : Redirect.BringsBack "été"
      ("http://localhost:8000/redirect" ++ "?" ++ "code=abc&state=%C3%A9t%C3%A9") :=
    .query _ _ (by decide) (by simp) (by simp [Text.Url.isIgnored])
      ⟨["code=abc".toList], [], by decide, by simp⟩
  obtain ⟨response, hresponse, hstate, -⟩ :=
    Redirect.checkState_of_bringsBack (by decide) hback false
  refine ⟨_, response, hback, hresponse, hstate, ?_⟩
  exact Redirect.checkState_of_not_isAscii hstate (by unfold Text.IsAscii; decide)

end UrlBuilder

end OAuthClient
