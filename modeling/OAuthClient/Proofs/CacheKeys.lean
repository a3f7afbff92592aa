import OAuthClient.Proofs.Base64Laws
import OAuthClient.Proofs.SilentAcquisition
import OAuthClient.Proofs.Utf8Laws

/-! # Keys of the token cache

The key of an application encodes its tenant and its identifier, joined by a
comma. Where identifiers hold no comma, equal keys mean equal tenants and equal
identifiers, and a credential changes nothing under the keys of others. The key
tells neither the cloud nor an authority that the tenant does not name.
-/

namespace OAuthClient

theorem Text.append_cons_inj {α : Type} {separator : α} {before before' after after' : List α}
    (hafter : separator ∉ after) (hafter' : separator ∉ after')
    (h : before ++ separator :: after = before' ++ separator :: after') :
    before = before' ∧ after = after' := by
  rcases List.append_eq_append_iff.mp h with ⟨middle, rfl, hrest⟩ | ⟨middle, rfl, hrest⟩
  · cases middle with
    | nil => exact ⟨by simp, (List.cons.inj hrest).2⟩
    | cons head middle =>
        obtain ⟨-, rfl⟩ := List.cons.inj hrest
        simp at hafter
  · cases middle with
    | nil => exact ⟨by simp, (List.cons.inj hrest).2.symm⟩
    | cons head middle =>
        obtain ⟨-, rfl⟩ := List.cons.inj hrest
        simp at hafter'

namespace Text.Utf8

theorem ofString_injective {s t : String} (h : ofString s = ofString t) : s = t := by
  have hdecoded := congrArg decode? h
  rw [ofString, ofString, decode?_encode, decode?_encode] at hdecoded
  exact String.toList_inj.mp (Option.some.inj hdecoded)

end Text.Utf8

namespace AppConfig

variable {config first second : AppConfig}

/-- The text of the tenant; it is empty where there is none. -/
def tenantText (config : AppConfig) : String :=
  if config.tenant.isPresent then config.tenant.plainText else ""

/-- Whether the authority is the one that the tenant names. -/
def FollowsTenant (config : AppConfig) : Prop := config.authority = .ofValue config.tenant

/-- What configurations with one key have in common: the application and the tenant, and where
tokens are asked for unless the cloud or an authority of its own makes a difference. -/
structure SameRegistration (first second : AppConfig) : Prop where
  clientId : first.clientId = second.clientId
  tenantText : first.tenantText = second.tenantText
  tokenEndpoint : first.FollowsTenant → second.FollowsTenant → first.cloud = second.cloud →
    first.tokenEndpoint = second.tokenEndpoint

theorem cacheName_eq_of_cacheId_eq (h : first.cacheId = second.cacheId) :
    first.cacheName = second.cacheName :=
  Text.Utf8.ofString_injective (Text.Base64Url.encode_injective h)

theorem toList_cacheName_of_present (h : config.tenant.isPresent = true) :
    config.cacheName.toList = config.tenantText.toList ++ ',' :: config.clientId.toList := by
  simp only [cacheName, tenantText, h, if_true, String.toList_append, List.append_assoc]
  rfl

theorem cacheName_of_absent (h : config.tenant.isPresent = false) :
    config.cacheName = config.clientId := by
  rw [cacheName, h]
  rfl

theorem tenantText_of_absent (h : config.tenant.isPresent = false) : config.tenantText = "" := by
  rw [tenantText, h]
  rfl

/-- Without commas in the identifiers, the last comma of a name parts the tenant from the
identifier. -/
theorem eq_of_cacheName_eq (hfirst : ',' ∉ first.clientId.toList)
    (hsecond : ',' ∉ second.clientId.toList) (h : first.cacheName = second.cacheName) :
    first.clientId = second.clientId ∧ first.tenantText = second.tenantText := by
  cases htenant : first.tenant.isPresent with
  | true =>
      have hname := toList_cacheName_of_present htenant
      cases htenant' : second.tenant.isPresent with
      | true =>
          rw [h, toList_cacheName_of_present htenant'] at hname
          obtain ⟨htext, hclient⟩ := Text.append_cons_inj hsecond hfirst hname
          exact ⟨(String.toList_inj.mp hclient).symm, (String.toList_inj.mp htext).symm⟩
      | false =>
          rw [h, cacheName_of_absent htenant'] at hname
          exact absurd (by rw [hname]; simp) hsecond
  | false =>
      rw [cacheName_of_absent htenant] at h
      cases htenant' : second.tenant.isPresent with
      | true =>
          have hname := toList_cacheName_of_present htenant'
          rw [← h] at hname
          exact absurd (by rw [hname]; simp) hfirst
      | false =>
          rw [cacheName_of_absent htenant'] at h
          exact ⟨h, (tenantText_of_absent htenant).trans (tenantText_of_absent htenant').symm⟩

/-- The text of the tenant decides which authority it names. -/
theorem ofValue_tenant (config : AppConfig) :
    Authority.ofValue config.tenant = .ofValue (.text config.tenantText) := by
  unfold Authority.ofValue tenantText
  cases hpresent : config.tenant.isPresent with
  | false => rfl
  | true =>
      simp only [if_true, Bool.true_and, Value.isPresent_text, Value.plainText_text]
      cases hempty : config.tenant.plainText.isEmpty with
      | false => rfl
      | true => rw [Text.isBlankText_of_isEmpty hempty]; rfl

theorem SameRegistration.of_cacheName_eq (hfirst : ',' ∉ first.clientId.toList)
    (hsecond : ',' ∉ second.clientId.toList) (h : first.cacheName = second.cacheName) :
    first.SameRegistration second := by
  obtain ⟨hclient, htenant⟩ := eq_of_cacheName_eq hfirst hsecond h
  refine ⟨hclient, htenant, fun hfollows hfollows' hcloud => ?_⟩
  rw [FollowsTenant, ofValue_tenant] at hfollows hfollows'
  rw [AppConfig.tokenEndpoint, AppConfig.tokenEndpoint, hfollows, hfollows', htenant, hcloud]

/-- An authority that is not given is the one that the tenant names. -/
theorem followsTenant_of_ofSettings {settings : AppSettings} (h : ofSettings settings = .ok config)
    (hauthority : settings.authority = .named .null) : config.FollowsTenant := by
  unfold ofSettings at h
  split at h
  next => cases h
  next =>
    rw [hauthority] at h
    obtain ⟨scope, _, h⟩ := Failure.of_bind_ok h
    cases h
    rfl

end AppConfig

namespace Context

variable {before after : Context} {outcome : Except Failure Token} {key : String}

/-! ### What is kept under other keys -/

theorem keep_get?_of_ne (context : Context) (token : Token)
    (hkey : key ≠ context.credential.config.cacheId) :
    (context.keep token).cache.get? key = context.cache.get? key :=
  TokenCache.get?_store_of_ne _ _ hkey

theorem Asks.get?_of_ne (h : before.Asks outcome after)
    (hkey : key ≠ before.credential.config.cacheId) :
    after.cache.get? key = before.cache.get? key := by
  cases h with
  | granted => exact keep_get?_of_ne _ _ hkey
  | _ => rfl

theorem getTokenSilent_get?_of_ne (h : getTokenSilent.perform before = (outcome, after))
    (hkey : key ≠ before.credential.config.cacheId) :
    after.cache.get? key = before.cache.get? key := by
  rcases getTokenSilent_cases h with ⟨_, _, _, rfl⟩ | ⟨_, _, _, rfl⟩ | ⟨_, hasks⟩
  · rfl
  · rfl
  · rw [← before.prepared_cache]
    exact hasks.get?_of_ne (by rwa [(sameUse_prepared before).cacheId])

/-- A step with a credential changes nothing under another key. -/
theorem apply_get?_of_ne (step : CredentialStep) (context : Context)
    (hkey : key ≠ context.credential.config.cacheId) :
    (step.apply context).cache.get? key = context.cache.get? key := by
  cases step with
  | acquire => exact getTokenSilent_get?_of_ne rfl hkey
  | obtain => exact (getToken_asks rfl).get?_of_ne hkey
  | clear => exact TokenCache.get?_evict_of_ne _ hkey
  | force setting => rfl
  | wait seconds => rfl

/-- A run of a credential changes nothing under another key. -/
theorem run_get?_of_ne (steps : List CredentialStep) (context : Context)
    (hkey : key ≠ context.credential.config.cacheId) :
    (context.run steps).cache.get? key = context.cache.get? key := by
  induction steps generalizing context with
  | nil => rfl
  | cons step steps ih =>
      rw [run_cons, ih _ (by rwa [(apply_sameUse step context).cacheId]),
        apply_get?_of_ne step context hkey]

end Context

/-- Where identifiers hold no comma, configurations with one key are those of one application and
one tenant, and only to a credential of the same application and tenant is a token handed from the
cache that a run of a credential has put there. -/
theorem cacheId_separates_registrations (first second : AppConfig)
    (hfirst : ',' ∉ first.clientId.toList) (hsecond : ',' ∉ second.clientId.toList) :
    (first.cacheId = second.cacheId → first.SameRegistration second) ∧
    ∀ (writer reader : Context) (steps : List CredentialStep) (token : Token),
      writer.credential.config = first → reader.credential.config = second →
      reader.cache = (writer.run steps).cache → reader.cached? = some token →
      writer.cache.get? second.cacheId ≠ some token → first.SameRegistration second := by
  have hkey : first.cacheId = second.cacheId → first.SameRegistration second := fun h =>
    .of_cacheName_eq hfirst hsecond (AppConfig.cacheName_eq_of_cacheId_eq h)
  refine ⟨hkey, ?_⟩
  rintro writer reader steps token rfl rfl hcache hcached hnew
  by_cases heq : writer.credential.config.cacheId = reader.credential.config.cacheId
  · exact hkey heq
  · have hframe := writer.run_get?_of_ne steps (Ne.symm heq)
    rw [← hcache] at hframe
    exact absurd (hframe.symm.trans hcached) hnew

/-- A trial of an application with a secret and an empty cache, where one token is issued. -/
def Context.keyTrial : Context where
  credential := { config := trialConfig, client := .standard, grant := trialGrant }
  world := {
    start := .whole 0, now := .whole 0, entropy := ⟨fun _ => 0, 0⟩
    replies := [.response ⟨200, "\x7b\"access_token\":\"a\"\x7d"⟩] }

/-- The application on trial with another address for sign-in, which uses the cache of the first. -/
def Context.keyReader : Context where
  credential := { Context.keyTrial.credential with
    config := { trialConfig with redirectUri := .text "https://app.example/back" } }
  cache := (Context.keyTrial.run [.obtain]).cache
  world := Context.keyTrial.world

theorem keyReader_sameRegistration :
    (∃ token, Context.keyReader.cached? = some token) ∧
      Context.trialConfig.SameRegistration Context.keyReader.credential.config ∧
      Context.trialConfig.tokenEndpoint = Context.keyReader.credential.config.tokenEndpoint := by
  have hsome : Context.keyReader.cached?.isSome = true := by decide +kernel
  have hcached := (Option.some_get hsome).symm
  have hsame := (cacheId_separates_registrations Context.trialConfig
    Context.keyReader.credential.config (by decide) (by decide)).2 Context.keyTrial
    Context.keyReader [.obtain] _ rfl rfl (by rw [Context.keyReader]) hcached
    (Option.some_ne_none _).symm
  have hfollows : Context.trialConfig.FollowsTenant :=
    AppConfig.followsTenant_of_ofSettings (show AppConfig.ofSettings {
      clientId := .text "client", tenant := .text "contoso" } = .ok _ from rfl) rfl
  have hfollows' : Context.keyReader.credential.config.FollowsTenant :=
    AppConfig.followsTenant_of_ofSettings (show AppConfig.ofSettings {
      clientId := .text "client", tenant := .text "contoso"
      redirectUri := .text "https://app.example/back" } = .ok _ from rfl) rfl
  exact ⟨⟨_, hcached⟩, hsame, hsame.tokenEndpoint hfollows hfollows' rfl⟩

/-- One key is that of two applications when a comma stands in an identifier, of two clouds, and of
two authorities. -/
theorem cacheId_joins_registrations :
    (∃ first second,
      AppConfig.ofSettings { clientId := .text "b,c", tenant := .text "a" } = .ok first ∧
      AppConfig.ofSettings { clientId := .text "c", tenant := .text "a,b" } = .ok second ∧
      first.cacheId = second.cacheId ∧ first.clientId ≠ second.clientId) ∧
    (∃ first second,
      AppConfig.ofSettings { clientId := .text "app", tenant := .text "contoso" } = .ok first ∧
      AppConfig.ofSettings
        { clientId := .text "app", tenant := .text "contoso", cloud := .china } = .ok second ∧
      first.cacheId = second.cacheId ∧ first.tokenEndpoint ≠ second.tokenEndpoint) ∧
    ∃ first second,
      AppConfig.ofSettings { clientId := .text "app", tenant := .text "contoso" } = .ok first ∧
      AppConfig.ofSettings {
        clientId := .text "app", tenant := .text "contoso"
        authority := .named (.text "fabrikam") } = .ok second ∧
      first.cacheId = second.cacheId ∧ first.tokenEndpoint ≠ second.tokenEndpoint :=
  ⟨⟨_, _, rfl, rfl, by decide +kernel, by decide +kernel⟩,
    ⟨_, _, rfl, rfl, by decide +kernel, by decide +kernel⟩,
    ⟨_, _, rfl, rfl, by decide +kernel, by decide +kernel⟩⟩
end OAuthClient
