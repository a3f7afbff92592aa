import OAuthClient.Proofs.GrantRuns

/-! # Users that share a cache

The cache has one entry for an application, whoever its users are. A credential of
one user that finds there what a call for another user has stored takes it, and
redeems its refresh token. That is the only way in which users can be mixed up:
every other token that a user gets goes back to what this user presented.
-/

namespace OAuthClient

/-! ### What a request is for -/

/-- Whether a grant is that of a user. -/
def Grant.IsOfUser : Grant → Prop
  | .onBehalfOf .. | .password .. => True
  | _ => False

theorem Grant.IsOfUser.isFixed {grant : Grant} (h : grant.IsOfUser) : grant.IsFixed := by
  cases grant with
  | onBehalfOf assertion proof => exact ⟨rfl, rfl⟩
  | password username password => exact ⟨rfl, rfl⟩
  | _ => exact h.elim

theorem Grant.IsOfUser.supportsRefresh {grant : Grant} (h : grant.IsOfUser) :
    grant.supportsRefresh = true := by
  cases grant with
  | onBehalfOf assertion proof => rfl
  | password username password => rfl
  | _ => exact h.elim

/-- Whether a request presents the grant of a user. -/
def Request.Presents (request : Request) : Grant → Prop
  | .onBehalfOf assertion _ =>
      request.field? "grant_type" = some (.text GrantKind.onBehalfOf.word) ∧
        request.field? "assertion" = some (.text assertion.plainText)
  | .password username password =>
      request.field? "grant_type" = some (.text GrantKind.password.word) ∧
        request.field? "username" = some (.text username.plainText) ∧
        request.field? "password" = some (.text password.plainText)
  | _ => False

/-- What is required and set to a value has the text of that value in the form. -/
theorem ParameterMap.get?_toForm_of_required (parameter : Parameter) {map later : ParameterMap}
    {optional required : List Parameter} {fields : List (String × String)} {value : Value}
    (h : later.toForm optional required = .ok fields) (hmem : parameter ∈ required)
    (hscope : parameter ≠ .scope)
    (hlater : later.get? parameter = (map.insert parameter value).get? parameter)
    (hnone : map.get? parameter = none) :
    Assoc.get? parameter.wireName fields = some value.plainText := by
  have hfield := get?_toForm h parameter
  have hsome := get?_isSome_of_toForm h hmem
  rw [if_pos (List.mem_append_left _ hmem)] at hfield
  rw [get?_insert_self map hscope, hnone, Option.or_none] at hlater
  rw [hlater, Value.filled?] at hsome
  rw [hfield, hlater, Value.filled?]
  split
  next hblank =>
    rw [if_pos hblank] at hsome
    cases hsome
  next => rfl

namespace Credential

variable {credential : Credential} {world : World} {fields : Fields} {map : ParameterMap}
  {required : List Parameter}

theorem redeems_of_refreshForm {token : Value} (hmap : map.IsFilled)
    (hnone : map.get? .refreshToken = none) (hproof : required ∈ GrantKind.proofs)
    (h : refreshForm map token required = .ok fields) :
    (credential.tokenRequest fields).Redeems (.text token.plainText) := by
  have hword := (refreshForm_isForm hmap hproof h).word
  have hbefore : (map.insertText .grantType "refresh_token").get? .refreshToken = none := by
    rwa [ParameterMap.insertText, ParameterMap.get?_insert_of_ne _ _ (by decide)]
  have htoken := ParameterMap.get?_toForm_of_required .refreshToken h (by simp) (by decide) rfl
    hbefore
  rw [Request.Redeems, field?_tokenRequest, field?_tokenRequest, hword]
  exact ⟨rfl, congrArg (Option.map Value.text) htoken⟩

theorem presents_of_assertion {assertion : Value} {proof : ClientProof} (hmap : map.IsFilled)
    (hnone : map.get? .assertion = none) (hproof : required ∈ GrantKind.proofs)
    (h : (((map.insertText .grantType onBehalfOfKind).insert .assertion assertion).insertText
      .requestedTokenUse "on_behalf_of").toForm []
        ([.clientId, .grantType, .assertion, .requestedTokenUse, .scope] ++ required) =
          .ok fields) :
    (credential.tokenRequest fields).Presents (.onBehalfOf assertion proof) := by
  have hword := (presentAssertion_isForm hmap hproof h).word
  have hbefore : (map.insertText .grantType onBehalfOfKind).get? .assertion = none := by
    rwa [ParameterMap.insertText, ParameterMap.get?_insert_of_ne _ _ (by decide)]
  have hassertion := ParameterMap.get?_toForm_of_required .assertion h (by simp) (by decide)
    (ParameterMap.get?_insert_of_ne _ _ (by decide)) hbefore
  rw [Request.Presents, field?_tokenRequest, field?_tokenRequest, hword]
  exact ⟨rfl, congrArg (Option.map Value.text) hassertion⟩

theorem presents_of_password {username password : Value} (hmap : map.IsFilled)
    (hname : map.get? .username = none) (hpassword : map.get? .password = none)
    (h : (((map.insertText .grantType "password").insert .username username).insert .password
      password).toForm [.scope] [.clientId, .grantType, .username, .password] = .ok fields) :
    (credential.tokenRequest fields).Presents (.password username password) := by
  have hword := (presentPassword_isForm hmap h).word
  have hbefore : (map.insertText .grantType "password").get? .username = none := by
    rwa [ParameterMap.insertText, ParameterMap.get?_insert_of_ne _ _ (by decide)]
  have hbetween : ((map.insertText .grantType "password").insert .username username).get?
      .password = none := by
    rwa [ParameterMap.get?_insert_of_ne _ _ (by decide), ParameterMap.insertText,
      ParameterMap.get?_insert_of_ne _ _ (by decide)]
  have husername := ParameterMap.get?_toForm_of_required .username h (by decide) (by decide)
    (ParameterMap.get?_insert_of_ne _ _ (by decide)) hbefore
  have hword' := ParameterMap.get?_toForm_of_required .password h (by decide) (by decide) rfl
    hbetween
  rw [Request.Presents, field?_tokenRequest, field?_tokenRequest, field?_tokenRequest, hword]
  exact ⟨rfl, congrArg (Option.map Value.text) husername, congrArg (Option.map Value.text) hword'⟩

/-- A credential of a user redeems its refresh token, or presents its grant if it has none. -/
theorem redeems_or_presents (huser : credential.grant.IsOfUser)
    (h : (credential.form.perform world).1 = .ok fields) :
    if credential.refreshToken.isPresent then
      (credential.tokenRequest fields).Redeems (.text credential.refreshToken.plainText)
    else (credential.tokenRequest fields).Presents credential.grant := by
  have hnone {parameter : Parameter} (hid : parameter ≠ .clientId) (hscope : parameter ≠ .scope) :
      credential.started.get? parameter = none := credential.get?_started parameter hid hscope
  cases hgrant : credential.grant with
  | onBehalfOf assertion proof =>
      have hform : ((credential.onBehalfOfForm assertion proof).perform world).1 = .ok fields := by
        rw [form, hgrant] at h
        exact h
      obtain ⟨⟨map, required⟩, _, hadded, hrendered⟩ := Action.of_perform_bind_ok hform
      obtain ⟨hmap, hproof⟩ := ClientProof.addTo_filled credential.started_isFilled hadded
      dsimp only at hrendered
      split at hrendered <;> rw [Action.perform_ofExcept] at hrendered
      next hpresent =>
        rw [if_pos hpresent]
        refine redeems_of_refreshForm hmap ?_ hproof hrendered
        rw [ClientProof.get?_addTo hadded (by decide), hnone (by decide) (by decide)]
      next hpresent =>
        rw [if_neg hpresent]
        refine presents_of_assertion hmap ?_ hproof hrendered
        rw [ClientProof.get?_addTo hadded (by decide), hnone (by decide) (by decide)]
  | password username password =>
      have hform : credential.passwordForm username password = .ok fields := by
        rw [form, hgrant, Action.perform_ofExcept] at h
        exact h
      unfold passwordForm at hform
      split at hform
      next hpresent =>
        rw [if_pos hpresent]
        exact redeems_of_refreshForm credential.started_isFilled (hnone (by decide) (by decide))
          (by decide) hform
      next hpresent =>
        rw [if_neg hpresent]
        obtain ⟨_, _, hform⟩ := Failure.of_bind_ok hform
        obtain ⟨_, _, hform⟩ := Failure.of_bind_ok hform
        exact presents_of_password credential.started_isFilled (hnone (by decide) (by decide))
          (hnone (by decide) (by decide)) hform
  | _ =>
      rw [hgrant] at huser
      exact huser.elim

end Credential

/-- A request that redeems a refresh token presents no grant of a user. -/
theorem Request.Redeems.not_presents {request : Request} {token : Value} {grant : Grant}
    (h : request.Redeems token) : ¬ request.Presents grant := by
  intro hpresents
  cases grant with
  | onBehalfOf assertion proof =>
      have hword := h.1.symm.trans hpresents.1
      exact absurd (Value.text.inj (Option.some.inj hword)) (by decide)
  | password username password =>
      have hword := h.1.symm.trans hpresents.1
      exact absurd (Value.text.inj (Option.some.inj hword)) (by decide)
  | _ => exact hpresents

/-! ### What a call does -/

/-- The request that was answered with a token between two worlds, and that token. -/
def World.answered? (before after : World) (logPii : Bool) : Option (Request × Token) :=
  match (before.transcript after).getLast? with
  | some (request, .response response) =>
      match Token.ofAnswer response logPii after.now with
      | .ok token => some (request, token)
      | .error _ => none
  | _ => none

namespace Context

variable {before after context : Context} {outcome : Except Failure Token}

/-- The request that was answered with a token between two states, and that token. -/
def answered? (before after : Context) : Option (Request × Token) :=
  before.world.answered? after.world before.credential.config.logPii

theorem answered?_of_silent (h : before.world.transcript after.world = []) :
    before.answered? after = none := by
  rw [answered?, World.answered?, h]
  rfl

theorem answered?_prepared (before after : Context) :
    before.prepared.answered? after = before.answered? after := by
  rw [answered?, answered?, prepared_world, (sameUse_prepared before).logPii]

theorem mem_transcript_of_answered? {request : Request} {token : Token}
    (h : before.answered? after = some (request, token)) :
    ∃ reply, (request, reply) ∈ before.world.transcript after.world := by
  rw [answered?, World.answered?] at h
  split at h
  next response hlast =>
    split at h
    next =>
      cases h
      exact ⟨_, List.mem_of_getLast? hlast⟩
    next => cases h
  next => cases h

/-- A run of the grant fails and keeps nothing, or is answered with the token that it keeps. -/
theorem Asks.answered?_cases (h : before.Asks outcome after) :
    (before.answered? after = none ∧ after.credential = before.credential ∧
      after.cache = before.cache ∧ ∃ failure, outcome = .error failure) ∨
    ∃ fields token world, (before.credential.form.perform before.world).1 = .ok fields ∧
      before.answered? after = some (before.credential.tokenRequest fields, token) ∧
      after = keep { before with world } token ∧
      outcome = .ok (inheriting before.credential token) := by
  cases h with
  | unformed hform =>
      have hsends := before.credential.form_isOffline.sends hform
      exact .inl ⟨answered?_of_silent hsends.transcript_eq, rfl, rfl, _, rfl⟩
  | unanswered hform hcounted hdelivers =>
      rename_i attempts failure world
      refine .inl ⟨?_, rfl, rfl, _, rfl⟩
      by_cases hpos : 0 < attempts
      · rw [answered?, World.answered?, hdelivers.getLast?_transcript hpos]
        cases hreply : before.world.replyAt (attempts - 1) with
        | response response => cases (hdelivers.answered response).mpr ⟨hpos, hreply⟩
        | fault fault reason => rfl
        | stop cause => rfl
      · obtain rfl := Nat.eq_zero_of_not_pos hpos
        exact answered?_of_silent hdelivers.transcript_eq
  | refused hform hdelivers hanswer =>
      rename_i world failure
      obtain ⟨hpos, hreply⟩ := (hdelivers.answered _).mp rfl
      refine .inl ⟨?_, rfl, rfl, _, rfl⟩
      rw [answered?, World.answered?, hdelivers.getLast?_transcript hpos, hreply]
      dsimp only
      rw [hanswer]
  | granted hform hdelivers hanswer =>
      rename_i fields attempts response world token
      obtain ⟨hpos, hreply⟩ := (hdelivers.answered _).mp rfl
      refine .inr ⟨fields, token, world, hform, ?_, rfl, rfl⟩
      change before.world.answered? world before.credential.config.logPii = _
      rw [World.answered?, hdelivers.getLast?_transcript hpos, hreply]
      dsimp only
      rw [hanswer]

/-- A token that is taken from the cache is the cached one, and the cache may be used. -/
theorem of_usable?_eq_some {token : Token} (h : context.usable? = .ok (some token)) :
    context.credential.config.force = .never ∧ context.cached? = some token := by
  have hforce : context.credential.config.force = .never := by
    by_cases hforce : context.credential.config.force = .never
    · exact hforce
    · cases (usable?_of_ne_never hforce).symm.trans h
  refine ⟨hforce, ?_⟩
  rw [usable?, hforce] at h
  dsimp only at h
  cases hcached : context.cached? with
  | none =>
      rw [goodToken?, hcached] at h
      cases h
  | some cached =>
      rw [goodToken?, hcached] at h
      dsimp only at h
      cases hnow : context.world.instant with
      | error failure =>
          rw [hnow] at h
          cases h
      | ok now =>
          rw [hnow] at h
          obtain ⟨stale, -, hgood⟩ := Failure.of_map_ok h
          split at hgood
          · cases hgood
          · exact hgood

end Context

/-! ### Whose tokens -/

/-- A token that was issued to one of some credentials, and the request that it answers. -/
structure Issue (ι : Type) where
  member : ι
  request : Request
  token : Token

/-- Whether a token goes back to what a user presented, or to what the cache held at first. It was
issued in answer to the grant of the user or to the refresh token of a token that goes back to it,
or is such a token with the refresh token of another such one. Refresh tokens are the same when they
are sent as the same text. -/
inductive Owned {ι : Type} (found : Option Token) (grant : Grant) (member : ι)
    (issues : List (Issue ι)) : Token → Prop where
  | found {token : Token} (h : found = some token) : Owned found grant member issues token
  | presented {issue : Issue ι} (hissue : issue ∈ issues) (hmember : issue.member = member)
      (h : issue.request.Presents grant) : Owned found grant member issues issue.token
  | redeemed {issue : Issue ι} {source : Token} (hissue : issue ∈ issues)
      (hmember : issue.member = member) (hsource : Owned found grant member issues source)
      (h : issue.request.Redeems (.text source.refreshToken.plainText)) :
      Owned found grant member issues issue.token
  | inherited {token source : Token} {refreshToken : Value}
      (htoken : Owned found grant member issues token)
      (hsource : Owned found grant member issues source)
      (hsame : source.refreshToken.plainText = refreshToken.plainText) :
      Owned found grant member issues (token.withRefreshToken refreshToken)

/-- What the users of one configuration and one cache do. -/
inductive UserStep (ι : Type) where
  /-- A token is obtained for a user. -/
  | obtain (member : ι)
  /-- A token is wanted silently for a user. -/
  | acquire (member : ι)
  /-- Some seconds pass. -/
  | wait (seconds : Value)

/-- Whether a step is not done for another user than some one. -/
def UserStep.IsFor {ι : Type} (member : ι) : UserStep ι → Prop
  | .obtain caller | .acquire caller => caller = member
  | .wait _ => True

/-- Credentials that share a cache, with the tokens that were issued to them so far. -/
structure Ledger (ι : Type) where
  pool : CredentialPool ι
  issues : List (Issue ι) := []

section

variable {ι : Type} {found : Option Token} {grant : Grant} {member : ι}
  {issues later : List (Issue ι)}

theorem Owned.mono (hsub : issues ⊆ later) {token : Token}
    (h : Owned found grant member issues token) : Owned found grant member later token := by
  induction h with
  | found h => exact .found h
  | presented hissue hmember h => exact .presented (hsub hissue) hmember h
  | redeemed hissue hmember hsource h ih => exact .redeemed (hsub hissue) hmember ih h
  | inherited htoken hsource hsame ihtoken ihsource => exact .inherited ihtoken ihsource hsame

/-- Whether a request presents the grant of a user or redeems a refresh token that goes back to
it. -/
def Request.IsOwn (request : Request) (found : Option Token) (grant : Grant) (member : ι)
    (issues : List (Issue ι)) : Prop :=
  request.Presents grant ∨ ∃ source, Owned found grant member issues source ∧
    request.Redeems (.text source.refreshToken.plainText)

/-- Whether a refresh token, if there is one, is that of a token that goes back to a user. -/
def Value.IsOwn (value : Value) (found : Option Token) (grant : Grant) (member : ι)
    (issues : List (Issue ι)) : Prop :=
  value.isPresent = true → ∃ source, Owned found grant member issues source ∧
    source.refreshToken.plainText = value.plainText

theorem Request.IsOwn.issued {request : Request} {token : Token}
    (h : request.IsOwn found grant member issues) :
    Owned found grant member (⟨member, request, token⟩ :: issues) token := by
  have hissue : (⟨member, request, token⟩ : Issue ι) ∈ ⟨member, request, token⟩ :: issues :=
    List.mem_cons_self
  rcases h with hpresents | ⟨source, hsource, hredeems⟩
  · exact .presented hissue rfl hpresents
  · exact .redeemed hissue rfl (hsource.mono (List.subset_cons_self _ _)) hredeems

theorem Value.IsOwn.mono (hsub : issues ⊆ later) {value : Value}
    (h : value.IsOwn found grant member issues) : value.IsOwn found grant member later := by
  intro hpresent
  obtain ⟨source, hsource, hvalue⟩ := h hpresent
  exact ⟨source, hsource.mono hsub, hvalue⟩

namespace Context

variable {before after : Context} {outcome : Except Failure Token}

/-- A credential with a refresh token of its user asks for what is its user's. -/
theorem isOwn_of_form {credential : Credential} {world : World} {fields : Credential.Fields}
    (hgrant : credential.grant = grant) (huser : grant.IsOfUser)
    (hheld : credential.refreshToken.IsOwn found grant member issues)
    (hform : (credential.form.perform world).1 = .ok fields) :
    (credential.tokenRequest fields).IsOwn found grant member issues := by
  subst hgrant
  have hasked := Credential.redeems_or_presents huser hform
  split at hasked
  next hpresent =>
    obtain ⟨source, hsource, htoken⟩ := hheld hpresent
    rw [← htoken] at hasked
    exact .inr ⟨source, hsource, hasked⟩
  next => exact .inl hasked

/-- A credential whose request asks for what is its user's has a refresh token of its user. -/
theorem isOwn_of_request {credential : Credential} {world : World} {fields : Credential.Fields}
    (huser : credential.grant.IsOfUser)
    (hform : (credential.form.perform world).1 = .ok fields)
    (hrequest : (credential.tokenRequest fields).IsOwn found grant member issues) :
    credential.refreshToken.IsOwn found grant member issues := by
  intro hpresent
  have hredeems := Credential.redeems_or_presents huser hform
  rw [if_pos hpresent] at hredeems
  rcases hrequest with hpresents | ⟨source, hsource, hsame⟩
  · exact absurd hpresents hredeems.not_presents
  · exact ⟨source, hsource, Value.text.inj (Option.some.inj (hsame.2.symm.trans hredeems.2))⟩

/-- A token is kept with the refresh token of its user. -/
theorem owned_inheriting {credential : Credential}
    (hheld : credential.refreshToken.IsOwn found grant member issues) {token : Token}
    (htoken : Owned found grant member issues token) :
    Owned found grant member issues (inheriting credential token) := by
  unfold inheriting
  split
  · exact htoken
  · split
    next hinherits =>
      rw [Bool.and_eq_true] at hinherits
      obtain ⟨source, hsource, hsame⟩ := hheld hinherits.1
      exact htoken.inherited hsource hsame
    next => exact htoken

theorem isOwn_renewed {credential : Credential}
    (hheld : credential.refreshToken.IsOwn found grant member issues) {token : Token}
    (htoken : Owned found grant member issues token) :
    (renewed credential token).refreshToken.IsOwn found grant member issues := by
  unfold renewed
  split
  · exact fun _ => ⟨token, htoken, rfl⟩
  · exact hheld

end Context

end

namespace CredentialPool

variable {ι : Type} [DecidableEq ι]

/-- The pool once one of its credentials has done something; all of them use its configuration. -/
def shareWith (pool : CredentialPool ι) (member : ι) (context : Context) : CredentialPool ι where
  credential other := { (pool.withContext member context).credential other with
    config := context.credential.config }
  cache := context.cache
  world := context.world

theorem credential_shareWith_self (pool : CredentialPool ι) (member : ι) (context : Context) :
    (pool.shareWith member context).credential member = context.credential := by
  simp [shareWith, withContext]

theorem credential_shareWith_of_ne (pool : CredentialPool ι) {member other : ι} (context : Context)
    (hne : other ≠ member) : (pool.shareWith member context).credential other =
      { pool.credential other with config := context.credential.config } := by
  simp [shareWith, withContext, hne]

end CredentialPool

namespace Ledger

variable {ι : Type} {ledger : Ledger ι} {key : String} {found : Option Token} {grant : ι → Grant}
  {member : ι}

/-- Some users at first, with a cache that may hold anything. -/
def fresh (config : AppConfig) (client : ι → HttpClient) (grant : ι → Grant)
    (cache : TokenCache Token) (world : World) : Ledger ι where
  pool := {
    credential := fun member => { config, client := client member, grant := grant member }
    cache, world }

/-- Whether each credential has the grant of its user and no refresh token of another one. -/
structure Sound (ledger : Ledger ι) (key : String) (found : Option Token) (grant : ι → Grant) :
    Prop where
  sameGrant : ∀ member, (ledger.pool.credential member).grant = grant member
  cacheId : ∀ member, (ledger.pool.credential member).config.cacheId = key
  held : ∀ member, (ledger.pool.credential member).refreshToken.IsOwn found (grant member) member
    ledger.issues

theorem fresh_sound (config : AppConfig) (client : ι → HttpClient) (grant : ι → Grant)
    (cache : TokenCache Token) (world : World) :
    (fresh config client grant cache world).Sound config.cacheId (cache.get? config.cacheId)
      grant where
  sameGrant _ := rfl
  cacheId _ := rfl
  held _ := by rintro ⟨⟩

/-- Whether what a silent call takes from the cache is its user's own: the token that it yields, or
the refresh token that it goes on with. -/
structure FindsOwn (ledger : Ledger ι) (found : Option Token) (grant : ι → Grant) (member : ι) :
    Prop where
  token : ∀ token, (ledger.pool.context member).usable? = .ok (some token) →
    Owned found (grant member) member ledger.issues token
  refreshToken : ∀ cached, (ledger.pool.credential member).config.force = .never →
    (ledger.pool.context member).usable? = .ok none →
    (ledger.pool.context member).cached? = some cached →
    cached.refreshToken.IsOwn found (grant member) member ledger.issues

/-- Whether the cached token, if there is one, goes back to a user. -/
def OwnEntry (ledger : Ledger ι) (key : String) (found : Option Token) (grant : ι → Grant)
    (member : ι) : Prop :=
  ∀ token, ledger.pool.cache.get? key = some token →
    Owned found (grant member) member ledger.issues token

theorem fresh_ownEntry (config : AppConfig) (client : ι → HttpClient) (grant : ι → Grant)
    (cache : TokenCache Token) (world : World) (member : ι) :
    (fresh config client grant cache world).OwnEntry config.cacheId (cache.get? config.cacheId)
      grant member :=
  fun _ htoken => .found htoken

theorem Sound.cached?_eq (h : ledger.Sound key found grant) (member : ι) :
    (ledger.pool.context member).cached? = ledger.pool.cache.get? key := by
  rw [← h.cacheId member]
  rfl

/-- A user whose own entry is cached finds nothing else. -/
theorem OwnEntry.findsOwn (hentry : ledger.OwnEntry key found grant member)
    (h : ledger.Sound key found grant) : ledger.FindsOwn found grant member where
  token token husable :=
    hentry token ((h.cached?_eq member).symm.trans (Context.of_usable?_eq_some husable).2)
  refreshToken cached _ _ hcached _ :=
    ⟨cached, hentry cached ((h.cached?_eq member).symm.trans hcached), rfl⟩

/-- What is prepared for a silent call is the user's own where nothing else is found. -/
theorem Sound.held_prepared (h : ledger.Sound key found grant)
    (hfinds : ledger.FindsOwn found grant member)
    (husable : (ledger.pool.context member).usable? = .ok none) :
    (ledger.pool.context member).prepared.credential.refreshToken.IsOwn found (grant member) member
      ledger.issues := by
  rcases (ledger.pool.context member).prepared_cases with
    ⟨_, heq⟩ | ⟨cached, hforce, hcached, _, heq⟩ | ⟨_, heq⟩ <;> rw [heq]
  · exact h.held member
  · exact hfinds.refreshToken cached hforce husable hcached
  · exact h.held member

/-- A silent call of a user's credential goes on with the refresh token of the cached token. -/
theorem Sound.refreshToken_prepared (h : ledger.Sound key found grant)
    (huser : (grant member).IsOfUser)
    (hforce : (ledger.pool.credential member).config.force = .never) {cached : Token}
    (hcached : (ledger.pool.context member).cached? = some cached)
    (hpresent : cached.refreshToken.isPresent = true) :
    (ledger.pool.context member).prepared.credential.refreshToken = cached.refreshToken := by
  have hsupports : (ledger.pool.context member).credential.supportsRefresh = true := by
    change (ledger.pool.credential member).grant.supportsRefresh = true
    rw [h.sameGrant member]
    exact huser.supportsRefresh
  have hforce : (ledger.pool.context member).credential.config.force = .never := hforce
  rw [Context.prepared, hforce, hcached]
  dsimp only
  rw [hpresent, hsupports]
  rfl

/-- The context in which a call for a user runs its grant: that of the user, perhaps with the
refresh token of the cached token. -/
structure Begins (ledger : Ledger ι) (key : String) (grant : ι → Grant) (member : ι)
    (before : Context) : Prop where
  sameGrant : before.credential.grant = grant member
  cacheId : before.credential.config.cacheId = key
  cache : before.cache = ledger.pool.cache
  world : before.world = ledger.pool.world
  answered? : ∀ after, before.answered? after = (ledger.pool.context member).answered? after

theorem Sound.begins (h : ledger.Sound key found grant) (member : ι) :
    ledger.Begins key grant member (ledger.pool.context member) :=
  ⟨h.sameGrant member, h.cacheId member, rfl, rfl, fun _ => rfl⟩

theorem Sound.begins_prepared (h : ledger.Sound key found grant)
    (huser : (grant member).IsOfUser) :
    ledger.Begins key grant member (ledger.pool.context member).prepared := by
  have hfixed : (ledger.pool.context member).credential.grant.IsFixed := by
    rw [(h.begins member).sameGrant]
    exact huser.isFixed
  exact ⟨((Context.prepared_remains _).eq_of_isFixed hfixed).trans (h.sameGrant member),
    (Context.sameUse_prepared _).cacheId.trans (h.cacheId member), Context.prepared_cache _,
    Context.prepared_world _, Context.answered?_prepared _⟩

theorem Begins.grant_eq {before after : Context} {outcome : Except Failure Token}
    (hbegins : ledger.Begins key grant member before)
    (huser : (grant member).IsOfUser) (hasks : before.Asks outcome after) :
    after.credential.grant = grant member := by
  have hfixed : before.credential.grant.IsFixed := by
    rw [hbegins.sameGrant]
    exact huser.isFixed
  exact (hasks.remains.eq_of_isFixed hfixed).trans hbegins.sameGrant

variable [DecidableEq ι]

/-- The ledger once a call for one of the users has been made. -/
def record (ledger : Ledger ι) (member : ι) (after : Context) : Ledger ι :=
  match (ledger.pool.context member).answered? after with
  | some (request, token) =>
      { pool := ledger.pool.shareWith member after
        issues := ⟨member, request, token⟩ :: ledger.issues }
  | none => { ledger with pool := ledger.pool.shareWith member after }

/-- The ledger after a step, whether it succeeds or not. -/
def after (ledger : Ledger ι) : UserStep ι → Ledger ι
  | .obtain member =>
      ledger.record member (Context.getToken.perform (ledger.pool.context member)).2
  | .acquire member =>
      ledger.record member (Context.getTokenSilent.perform (ledger.pool.context member)).2
  | .wait seconds =>
      { ledger with pool := { ledger.pool with
        world := ((World.advance seconds).perform ledger.pool.world).2 } }

/-- The ledger after some steps. -/
def run (ledger : Ledger ι) (steps : List (UserStep ι)) : Ledger ι := steps.foldl after ledger

/-- What a call for a user does: a token that it yields goes back to the user, and so does what its
requests present and the refresh token that the credential has then. -/
structure KeepsApart (ledger : Ledger ι) (found : Option Token) (grant : ι → Grant) (member : ι)
    (outcome : Except Failure Token) (after : Context) : Prop where
  token : ∀ token, outcome = .ok token →
    Owned found (grant member) member (ledger.record member after).issues token
  request : ∀ entry ∈ ledger.pool.world.transcript after.world,
    entry.1.IsOwn found (grant member) member ledger.issues
  held : after.credential.refreshToken.IsOwn found (grant member) member
    (ledger.record member after).issues

/-- Whether a step keeps the users apart. -/
def StepKeepsApart (ledger : Ledger ι) (found : Option Token) (grant : ι → Grant) :
    UserStep ι → Prop
  | .obtain member =>
      ledger.KeepsApart found grant member (Context.getToken.perform (ledger.pool.context member)).1
        (Context.getToken.perform (ledger.pool.context member)).2
  | .acquire member =>
      ledger.KeepsApart found grant member
        (Context.getTokenSilent.perform (ledger.pool.context member)).1
        (Context.getTokenSilent.perform (ledger.pool.context member)).2
  | .wait _ => True

/-- Whether each step of a run keeps the users apart. -/
def KeepsApartAll (ledger : Ledger ι) (found : Option Token) (grant : ι → Grant) :
    List (UserStep ι) → Prop
  | [] => True
  | step :: steps =>
      ledger.StepKeepsApart found grant step ∧ (ledger.after step).KeepsApartAll found grant steps

/-- Whether a step takes nothing from the cache but what is its user's own. -/
def StepFindsOwn (ledger : Ledger ι) (found : Option Token) (grant : ι → Grant) :
    UserStep ι → Prop
  | .acquire member => ledger.FindsOwn found grant member
  | _ => True

/-- Whether no step of a run takes anything from the cache but what is its user's own. -/
def FindsOwnAll (ledger : Ledger ι) (found : Option Token) (grant : ι → Grant) :
    List (UserStep ι) → Prop
  | [] => True
  | step :: steps =>
      ledger.StepFindsOwn found grant step ∧ (ledger.after step).FindsOwnAll found grant steps

theorem record_pool (ledger : Ledger ι) (member : ι) (after : Context) :
    (ledger.record member after).pool = ledger.pool.shareWith member after := by
  unfold record
  split <;> rfl

theorem issues_subset_record (ledger : Ledger ι) (member : ι) (after : Context) :
    ledger.issues ⊆ (ledger.record member after).issues := by
  unfold record
  split
  · exact List.subset_cons_self _ _
  · exact List.Subset.refl _

theorem record_of_none {after : Context}
    (h : (ledger.pool.context member).answered? after = none) :
    ledger.record member after = { ledger with pool := ledger.pool.shareWith member after } := by
  rw [record, h]

theorem record_of_some {after : Context} {request : Request} {token : Token}
    (h : (ledger.pool.context member).answered? after = some (request, token)) :
    ledger.record member after =
      { pool := ledger.pool.shareWith member after
        issues := ⟨member, request, token⟩ :: ledger.issues } := by
  rw [record, h]

theorem Sound.record (h : ledger.Sound key found grant) {after : Context}
    (hgrant : after.credential.grant = grant member)
    (hkey : after.credential.config.cacheId = key)
    (hheld : after.credential.refreshToken.IsOwn found (grant member) member
      (ledger.record member after).issues) :
    (ledger.record member after).Sound key found grant := by
  refine ⟨?_, ?_, ?_⟩
  · intro other
    rw [record_pool]
    by_cases hother : other = member
    · rw [hother, CredentialPool.credential_shareWith_self, hgrant]
    · rw [CredentialPool.credential_shareWith_of_ne _ _ hother]
      exact h.sameGrant other
  · exact fun other => (record_pool ledger member after).symm ▸ hkey
  · intro other
    rw [record_pool]
    by_cases hother : other = member
    · rw [hother, CredentialPool.credential_shareWith_self]
      exact hheld
    · rw [CredentialPool.credential_shareWith_of_ne _ _ hother]
      exact (h.held other).mono (issues_subset_record ledger member after)

namespace Begins

variable {before after : Context} {outcome : Except Failure Token}

/-- A credential that has no refresh token but its user's keeps the users apart. -/
theorem keepsApart (hbegins : ledger.Begins key grant member before)
    (huser : (grant member).IsOfUser) (hasks : before.Asks outcome after)
    (hheld : before.credential.refreshToken.IsOwn found (grant member) member ledger.issues) :
    ledger.KeepsApart found grant member outcome after := by
  have hrequest : ∀ entry ∈ ledger.pool.world.transcript after.world,
      entry.1.IsOwn found (grant member) member ledger.issues := by
    intro entry hentry
    rw [← hbegins.world] at hentry
    obtain ⟨fields, hform, hrequest⟩ := hasks.requests hentry
    rw [hrequest]
    exact Context.isOwn_of_form hbegins.sameGrant huser hheld hform
  have hheld' := hheld.mono (issues_subset_record ledger member after)
  rcases hasks.answered?_cases with ⟨hnone, hcredential, -, failure, rfl⟩ |
    ⟨fields, token, world, hform, hsome, rfl, rfl⟩
  · exact ⟨by rintro _ ⟨⟩, hrequest, hcredential.symm ▸ hheld'⟩
  · have hissued : Owned found (grant member) member
        (ledger.record member (Context.keep { before with world } token)).issues token := by
      rw [record_of_some ((hbegins.answered? _).symm.trans hsome)]
      exact (Context.isOwn_of_form hbegins.sameGrant huser hheld hform).issued
    refine ⟨?_, hrequest, Context.isOwn_renewed hheld' hissued⟩
    rintro other hother
    obtain rfl := Except.ok.inj hother
    exact Context.owned_inheriting hheld' hissued

/-- A call that keeps the users apart has no refresh token but its user's. -/
theorem held_of_keepsApart (hbegins : ledger.Begins key grant member before)
    (huser : (grant member).IsOfUser) (hasks : before.Asks outcome after)
    (hkeeps : ledger.KeepsApart found grant member outcome after) :
    before.credential.refreshToken.IsOwn found (grant member) member ledger.issues := by
  rcases hasks.answered?_cases with ⟨hnone, hcredential, -, -⟩ |
    ⟨fields, token, world, hform, hsome, -, -⟩
  · have hheld := hkeeps.held
    rw [record_of_none ((hbegins.answered? _).symm.trans hnone), hcredential] at hheld
    exact hheld
  · obtain ⟨response, hmem⟩ := Context.mem_transcript_of_answered? hsome
    rw [hbegins.world] at hmem
    exact Context.isOwn_of_request (hbegins.sameGrant.symm ▸ huser) hform (hkeeps.request _ hmem)

/-- A call leaves its user's entry in the cache, or the one that was there. -/
theorem ownEntry (hbegins : ledger.Begins key grant member before)
    (hasks : before.Asks outcome after)
    (hkeeps : ledger.KeepsApart found grant member outcome after)
    (hentry : (∃ token, outcome = .ok token) ∨ ledger.OwnEntry key found grant member) :
    (ledger.record member after).OwnEntry key found grant member := by
  intro stored hstored
  rw [record_pool] at hstored
  change after.cache.get? key = some stored at hstored
  rcases hasks.answered?_cases with ⟨-, -, hcache, failure, rfl⟩ |
    ⟨fields, token, world, -, -, rfl, rfl⟩
  · rcases hentry with ⟨_, ⟨⟩⟩ | hentry
    rw [hcache, hbegins.cache] at hstored
    exact (hentry stored hstored).mono (issues_subset_record _ _ _)
  · have hcached := Context.cached?_keep { before with world } token
    rw [Context.cached?, (Context.sameUse_keep _ _).cacheId] at hcached
    have hsame := hstored.symm.trans (hbegins.cacheId ▸ hcached)
    obtain rfl := Option.some.inj hsame
    exact hkeeps.token _ rfl

end Begins

/-- A call that changes nothing. -/
theorem record_same_issues (ledger : Ledger ι) (member : ι) :
    (ledger.record member (ledger.pool.context member)).issues = ledger.issues := by
  rw [record_of_none (Context.answered?_of_silent (World.transcript_self _))]

/-- A silent call keeps the users apart exactly when what it takes from the cache is its user's. -/
theorem Sound.keepsApart_acquire_iff (h : ledger.Sound key found grant)
    (huser : (grant member).IsOfUser) :
    ledger.StepKeepsApart found grant (.acquire member) ↔ ledger.FindsOwn found grant member := by
  rw [StepKeepsApart]
  rcases hperform : Context.getTokenSilent.perform (ledger.pool.context member) with
    ⟨outcome, after⟩
  have hnothing : ∀ entry ∈ ledger.pool.world.transcript (ledger.pool.context member).world,
      entry.1.IsOwn found (grant member) member ledger.issues :=
    fun entry hentry => absurd hentry (World.not_mem_transcript_self _ entry)
  have hheld : (ledger.pool.context member).credential.refreshToken.IsOwn found (grant member)
      member (ledger.record member (ledger.pool.context member)).issues := by
    rw [record_same_issues]
    exact h.held member
  rcases Context.getTokenSilent_cases hperform with
    ⟨failure, husable, rfl, rfl⟩ | ⟨token, husable, rfl, rfl⟩ | ⟨husable, hasks⟩
  · -- Whether there is a token cannot be told, so nothing is found and nothing is done.
    exact iff_of_true ⟨by rintro _ ⟨⟩, hnothing, hheld⟩
      ⟨fun _ hfound => (by cases husable.symm.trans hfound),
        fun _ _ hfound => (by cases husable.symm.trans hfound)⟩
  · constructor
    · intro hkeeps
      refine ⟨fun other hother => ?_, fun _ _ hfound => by cases husable.symm.trans hfound⟩
      obtain rfl := Option.some.inj (Except.ok.inj (husable.symm.trans hother))
      have htoken := hkeeps.token token rfl
      rwa [record_same_issues] at htoken
    · intro hfinds
      refine ⟨fun other hother => ?_, hnothing, hheld⟩
      obtain rfl := Except.ok.inj hother
      rw [record_same_issues]
      exact hfinds.token token husable
  · have hbegins := h.begins_prepared huser
    constructor
    · intro hkeeps
      refine ⟨fun _ hfound => (by cases husable.symm.trans hfound), ?_⟩
      intro cached hforce _ hcached hpresent
      have hheld := hbegins.held_of_keepsApart huser hasks hkeeps
      rw [h.refreshToken_prepared huser hforce hcached hpresent] at hheld
      exact hheld hpresent
    · intro hfinds
      exact hbegins.keepsApart huser hasks (h.held_prepared hfinds husable)

/-- A call that does not look into the cache keeps the users apart. -/
theorem Sound.keepsApart_obtain (h : ledger.Sound key found grant)
    (huser : (grant member).IsOfUser) :
    ledger.StepKeepsApart found grant (.obtain member) :=
  (h.begins member).keepsApart huser (Context.getToken_asks rfl) (h.held member)

/-- A step keeps the users apart exactly when what it takes from the cache is its user's. -/
theorem Sound.stepKeepsApart_iff (h : ledger.Sound key found grant)
    (huser : ∀ member, (grant member).IsOfUser) (step : UserStep ι) :
    ledger.StepKeepsApart found grant step ↔ ledger.StepFindsOwn found grant step := by
  cases step with
  | obtain member => exact iff_of_true (h.keepsApart_obtain (huser member)) trivial
  | acquire member => exact h.keepsApart_acquire_iff (huser member)
  | wait seconds => exact Iff.rfl

/-- A step that keeps the users apart leaves each credential with what is its user's. -/
theorem Sound.after (h : ledger.Sound key found grant) (huser : ∀ member, (grant member).IsOfUser)
    {step : UserStep ι} (hkeeps : ledger.StepKeepsApart found grant step) :
    (ledger.after step).Sound key found grant := by
  cases step with
  | obtain member =>
      have hasks : (ledger.pool.context member).Asks _
          (Context.getToken.perform (ledger.pool.context member)).2 := Context.getToken_asks rfl
      exact h.record ((h.begins member).grant_eq (huser member) hasks)
        (hasks.sameUse.cacheId.trans (h.cacheId member)) hkeeps.held
  | acquire member =>
      rw [StepKeepsApart] at hkeeps
      rw [Ledger.after]
      rcases hperform : Context.getTokenSilent.perform (ledger.pool.context member) with
        ⟨outcome, after⟩
      rw [hperform] at hkeeps
      rcases Context.getTokenSilent_same_or_asks hperform with rfl | hasks
      · exact h.record (h.sameGrant member) (h.cacheId member) hkeeps.held
      · have hbegins := h.begins_prepared (huser member)
        exact h.record (hbegins.grant_eq (huser member) hasks)
          (hasks.sameUse.cacheId.trans hbegins.cacheId) hkeeps.held
  | wait seconds => exact ⟨h.sameGrant, h.cacheId, h.held⟩

theorem Sound.keepsApartAll_iff (h : ledger.Sound key found grant)
    (huser : ∀ member, (grant member).IsOfUser) (steps : List (UserStep ι)) :
    ledger.KeepsApartAll found grant steps ↔ ledger.FindsOwnAll found grant steps := by
  induction steps generalizing ledger with
  | nil => exact Iff.rfl
  | cons step steps ih =>
      rw [KeepsApartAll, FindsOwnAll, h.stepKeepsApart_iff huser step]
      refine and_congr_right fun hfinds => ih ?_
      exact h.after huser ((h.stepKeepsApart_iff huser step).mpr hfinds)

/-- A token that is obtained for a user is its entry. -/
theorem Sound.ownEntry_obtain (h : ledger.Sound key found grant) (huser : (grant member).IsOfUser)
    (hok : (Context.getToken.perform (ledger.pool.context member)).1.isOk = true) :
    (ledger.after (.obtain member)).OwnEntry key found grant member := by
  obtain ⟨token, htoken⟩ := Action.exists_ok hok
  exact (h.begins member).ownEntry (Context.getToken_asks rfl) (h.keepsApart_obtain huser)
    (.inl ⟨token, congrArg Prod.fst htoken⟩)

/-- A user that shares its entry with no other one is left with its entry. -/
theorem OwnEntry.after (hentry : ledger.OwnEntry key found grant member)
    (h : ledger.Sound key found grant) (huser : (grant member).IsOfUser) {step : UserStep ι}
    (hstep : step.IsFor member) :
    ledger.StepFindsOwn found grant step ∧
      (ledger.after step).OwnEntry key found grant member := by
  cases step with
  | obtain caller =>
      obtain rfl : caller = member := hstep
      exact ⟨trivial, (h.begins caller).ownEntry (Context.getToken_asks rfl)
        (h.keepsApart_obtain huser) (.inr hentry)⟩
  | acquire caller =>
      obtain rfl : caller = member := hstep
      have hfinds := hentry.findsOwn h
      have hkeeps := (h.keepsApart_acquire_iff huser).mpr hfinds
      refine ⟨hfinds, ?_⟩
      rw [StepKeepsApart] at hkeeps
      rw [Ledger.after]
      rcases hperform : Context.getTokenSilent.perform (ledger.pool.context caller) with
        ⟨outcome, after⟩
      rw [hperform] at hkeeps
      rcases Context.getTokenSilent_same_or_asks hperform with rfl | hasks
      · intro stored hstored
        rw [record_same_issues]
        rw [record_pool] at hstored
        exact hentry stored hstored
      · exact (h.begins_prepared huser).ownEntry hasks hkeeps (.inr hentry)
  | wait seconds => exact ⟨trivial, hentry⟩

/-- A user that has the cache for itself finds nothing of another one there. -/
theorem OwnEntry.findsOwnAll (hentry : ledger.OwnEntry key found grant member)
    (h : ledger.Sound key found grant) (huser : ∀ member, (grant member).IsOfUser)
    {steps : List (UserStep ι)} (hsteps : ∀ step ∈ steps, step.IsFor member) :
    ledger.FindsOwnAll found grant steps := by
  induction steps generalizing ledger with
  | nil => trivial
  | cons step steps ih =>
      rw [List.forall_mem_cons] at hsteps
      obtain ⟨hfinds, hafter⟩ := hentry.after h (huser member) hsteps.1
      have hkeeps := (h.stepKeepsApart_iff huser step).mpr hfinds
      exact ⟨hfinds, ih hafter (h.after huser hkeeps) hsteps.2⟩

end Ledger

/-- In every run of users of one configuration and one cache, each token that a user gets goes back
to what this user presented or to what the cache held at first, and so does each refresh token that
is redeemed, exactly where no silent call takes what is another user's from the cache. That is so
where a user has the cache for itself. -/
theorem users_kept_apart_iff {ι : Type} [DecidableEq ι] (config : AppConfig)
    (client : ι → HttpClient) {grant : ι → Grant} (cache : TokenCache Token) (world : World)
    (huser : ∀ member, (grant member).IsOfUser) (steps : List (UserStep ι)) :
    let start := Ledger.fresh config client grant cache world
    let found := cache.get? config.cacheId
    (start.KeepsApartAll found grant steps ↔ start.FindsOwnAll found grant steps) ∧
      ((∃ member, ∀ step ∈ steps, step.IsFor member) → start.KeepsApartAll found grant steps) := by
  intro start found
  have hsound := Ledger.fresh_sound config client grant cache world
  have hiff := hsound.keepsApartAll_iff huser steps
  refine ⟨hiff, ?_⟩
  rintro ⟨member, hsteps⟩
  have hentry := Ledger.fresh_ownEntry config client grant cache world member
  exact hiff.mpr (hentry.findsOwnAll hsound huser hsteps)

/-- The two users of a trial. -/
def Ledger.trialUser (first : Bool) : Grant :=
  .onBehalfOf (.text (if first then "alice" else "bob")) (.secret (.text "secret") false)

/-- A trial of two users that call an application with one cache at the beginning of 1970. -/
def Ledger.trial : Ledger Bool :=
  .fresh { Context.trialConfig with scope := [.text "User.Read"] } (fun _ => .standard) trialUser
    {} {
    start := .whole 0, now := .whole 0, entropy := ⟨fun _ => 0, 0⟩
    replies := [
      .response ⟨200, "\x7b\"access_token\":\"a1\",\"refresh_token\":\"r1\"\x7d"⟩,
      .response ⟨200, "\x7b\"access_token\":\"a2\",\"refresh_token\":\"r2\"\x7d"⟩] }

theorem trial_isOfUser (first : Bool) : (Ledger.trialUser first).IsOfUser := trivial

theorem trial_sound :
    Ledger.trial.Sound Context.trialConfig.cacheId none Ledger.trialUser :=
  Ledger.fresh_sound _ _ _ _ _

theorem trial_users_kept_apart :
    Ledger.trial.KeepsApartAll none Ledger.trialUser
      [.obtain true, .obtain false, .acquire false] := by
  have hfirst := trial_sound.after trial_isOfUser
    (trial_sound.keepsApart_obtain (trial_isOfUser true))
  have hsecond := hfirst.after trial_isOfUser (hfirst.keepsApart_obtain (trial_isOfUser false))
  -- The token of the second user has replaced that of the first one.
  have hentry := hfirst.ownEntry_obtain (trial_isOfUser false) (by decide +kernel)
  exact (users_kept_apart_iff _ _ _ _ trial_isOfUser _).1.mpr
    ⟨trivial, trivial, hentry.findsOwn hsecond, trivial⟩

/-- Nothing goes back to a user to whom nothing was issued, unless it was found. -/
theorem not_owned_of_no_issue {ι : Type} {grant : Grant} {member : ι} {issues : List (Issue ι)}
    (hnone : ∀ issue ∈ issues, issue.member ≠ member) {token : Token} :
    ¬ Owned none grant member issues token := by
  intro h
  induction h with
  | found h => cases h
  | presented hissue hmember => exact hnone _ hissue hmember
  | redeemed hissue hmember => exact hnone _ hissue hmember
  | inherited _ _ _ ih => exact ih

/-- A user gets without a request the token that was issued for another user, and once that has
expired a call for the user redeems the other's refresh token. -/
theorem shared_cache_joins_users :
    Ledger.trialUser true ≠ Ledger.trialUser false ∧
    (Ledger.trial.after (.obtain true)).issues.map (fun issue =>
      (issue.member, issue.request.field? "assertion" |>.bind Value.text?,
        issue.token.accessToken.text?)) = [(true, some "alice", some "a1")] ∧
    ((Context.getTokenSilent.perform ((Ledger.trial.after (.obtain true)).pool.context
      false)).1.toOption.bind fun token => token.accessToken.text?) = some "a1" ∧
    ((Ledger.trial.after (.obtain true)).pool.world.transcript
      ((Ledger.trial.after (.obtain true)).after (.acquire false)).pool.world).length = 0 ∧
    ((Ledger.trial.run [.obtain true, .wait (.int 4000)]).pool.world.transcript
      ((Ledger.trial.run [.obtain true, .wait (.int 4000)]).after
        (.acquire false)).pool.world).map (fun entry =>
          (entry.1.field? "grant_type" |>.bind Value.text?,
            entry.1.field? "refresh_token" |>.bind Value.text?)) =
              [(some "refresh_token", some "r1")] ∧
    ¬ Ledger.trial.KeepsApartAll none Ledger.trialUser [.obtain true, .acquire false] := by
  refine ⟨?_, by decide +kernel, by decide +kernel, by decide +kernel, by decide +kernel, ?_⟩
  · simp [Ledger.trialUser]
  · intro hkeeps
    have hfinds := ((trial_sound.keepsApartAll_iff trial_isOfUser _).mp hkeeps).2.1
    have hfound : (((Ledger.trial.after (.obtain true)).pool.context false).usable?.toOption.bind
        id).isSome = true := by decide +kernel
    obtain ⟨token, htoken⟩ := Option.isSome_iff_exists.mp hfound
    have husable : ((Ledger.trial.after (.obtain true)).pool.context false).usable? =
        .ok (some token) := by
      cases husable : ((Ledger.trial.after (.obtain true)).pool.context false).usable? with
      | error failure =>
          rw [husable] at htoken
          cases htoken
      | ok found =>
          rw [husable] at htoken
          exact congrArg _ htoken
    have hmembers : (Ledger.trial.after (.obtain true)).issues.map (·.member) = [true] := by
      decide +kernel
    refine not_owned_of_no_issue (fun issue hissue => ?_) (hfinds.token token husable)
    have hmember : issue.member ∈ [true] := hmembers ▸ List.mem_map_of_mem hissue
    rw [List.mem_singleton.mp hmember]
    decide

end OAuthClient
