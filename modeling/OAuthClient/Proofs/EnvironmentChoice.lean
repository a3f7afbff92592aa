import OAuthClient.Credential.Environment
import OAuthClient.Proofs.DeviceSignIns
import OAuthClient.Proofs.ScopeTexts

/-! # The choice of a credential from an environment

A set of variables is complete when none of them is empty, and the credential
that a complete set describes is the one that is chosen. Its form asks for more:
a text of blanks is no identifier, no secret, no name and no password. So the
choice can fall on a credential without a form, though another set would do.
-/

namespace OAuthClient

/-! ### Forms that can be made -/

namespace ParameterMap

/-- Some scope is sent exactly when one is there and not blank. -/
theorem scopeText?_isSome_iff (scopes : List Value) :
    (scopeText? scopes).isSome = true ↔
      ∃ scope ∈ scopes, scope.isPresent = true ∧ Text.isBlankText scope.plainText = false := by
  refine ⟨fun h => ?_, fun ⟨scope, hmem, hpresent, hwords⟩ =>
    scopeText?_isSome hmem hpresent hwords⟩
  by_contra hnone
  have hasked : scopes.filterMap scopeOf? = [] := by
    rw [List.filterMap_eq_nil_iff]
    intro scope hmem
    rw [scopeOf?, if_neg]
    intro hscope
    obtain ⟨hpresent, hwords⟩ := Bool.and_eq_true_iff.mp hscope
    exact hnone ⟨scope, hmem, hpresent, by simpa using hwords⟩
  rw [scopeText?, hasked] at h
  cases h

end ParameterMap

namespace Credential

variable {credential : Credential}

/-- Whether a credential can make its form whenever it is to ask for a token. -/
def CanAsk (credential : Credential) : Prop :=
  ∀ world, ∃ fields, (credential.form.perform world).1 = .ok fields

theorem canAsk_iff_of_form_eq {form : Except Failure Fields}
    (h : credential.form = Action.ofExcept form) :
    credential.CanAsk ↔ ∃ fields, form = .ok fields := by
  have hworld : Nonempty World := ⟨Context.pollingTrial.world⟩
  simp only [CanAsk, h, Action.perform_ofExcept]
  exact forall_const World

/-- Whether the scopes that are configured leave an application something to ask for: there are
none, so that the default is asked for, or one of them is not blank. -/
def AsksSomething (scopes : List Value) : Prop :=
  scopes = [] ∨
    ∃ scope ∈ scopes, scope.isPresent = true ∧ Text.isBlankText scope.plainText = false

theorem scope_of_application_isSome_iff {proof : Option ClientProof}
    (hgrant : credential.grant = .clientCredentials proof) :
    (credential.started.get? .scope).isSome = true ↔ AsksSomething credential.config.scope := by
  rw [get?_scope_started, scopes, hgrant, AsksSomething]
  cases hscope : credential.config.scope with
  | nil =>
      have hdefault : (ParameterMap.scopeText? [.text defaultScope]).isSome = true :=
        ParameterMap.scopeText?_isSome List.mem_cons_self (by decide) (by decide)
      exact iff_of_true hdefault (.inl rfl)
  | cons first rest =>
      exact (ParameterMap.scopeText?_isSome_iff (first :: rest)).trans
        (or_iff_right (List.cons_ne_nil first rest)).symm

/-- An application with a secret can ask for a token exactly when the secret is not blank and some
scope is left to ask for. -/
theorem canAsk_of_secret_iff {secret : String}
    (hgrant : credential.grant = .clientCredentials (some (.secret (.text secret) false)))
    (hclient : Text.isBlankText credential.config.clientId = false) :
    credential.CanAsk ↔
      Text.isBlankText secret = false ∧ AsksSomething credential.config.scope := by
  let map := credential.started.insertText .grantType "client_credentials"
  have hform : credential.form = Action.ofExcept
      (ClientProof.addSecret map (.text secret) false >>= fun added =>
        added.1.toForm [] ([.clientId, .grantType, .scope] ++ added.2)) := by
    have happlication : credential.form = credential.clientCredentialsForm
        (some (.secret (.text secret) false)) := by rw [form, hgrant]
    rw [happlication, clientCredentialsForm, ClientProof.addTo]
    cases ClientProof.addSecret map (.text secret) false <;> rfl
  rw [canAsk_iff_of_form_eq hform, ClientProof.addSecret_text]
  cases hblank : Text.isBlankText secret with
  | true => exact iff_of_false (by rintro ⟨_, ⟨⟩⟩) (by simp)
  | false =>
      have hkind : Text.isBlankText "client_credentials" = false := by decide
      change (∃ fields, (map.insert .clientSecret (.text secret)).toForm []
        [.clientId, .grantType, .scope, .clientSecret] = .ok fields) ↔ _
      rw [ParameterMap.exists_toForm_iff, ← scope_of_application_isSome_iff hgrant]
      simp (disch := decide) [map, ParameterMap.insertText, ParameterMap.get?_insert_of_ne,
        ParameterMap.get?_insert_text, ParameterMap.scopes_insert,
        get?_clientId_started hclient, hkind, hblank]

/-- A user can ask for a token exactly when neither the name nor the password is blank. -/
theorem canAsk_of_password_iff {username password : String}
    (hgrant : credential.grant = .password (.text username) (.text password))
    (htoken : credential.refreshToken = .null)
    (hclient : Text.isBlankText credential.config.clientId = false) :
    credential.CanAsk ↔
      Text.isBlankText username = false ∧ Text.isBlankText password = false := by
  let named := (credential.started.insertText .grantType "password").insert .username
    (.text username)
  have hform : credential.form = Action.ofExcept (do
      requirePresent (.text username) .username
      requirePresent (.text password) .password
      (named.insert .password (.text password)).toForm [.scope]
        [.clientId, .grantType, .username, .password]) := by
    have huser : credential.form = Action.ofExcept
        (credential.passwordForm (.text username) (.text password)) := by rw [form, hgrant]
    rw [huser, passwordForm, htoken]
    rfl
  rw [canAsk_iff_of_form_eq hform, requirePresent_text, requirePresent_text]
  cases hname : Text.isBlankText username with
  | true => exact iff_of_false (by rintro ⟨_, ⟨⟩⟩) (by simp)
  | false =>
      cases hword : Text.isBlankText password with
      | true => exact iff_of_false (by rintro ⟨_, ⟨⟩⟩) (by simp)
      | false =>
          refine iff_of_true ?_ ⟨rfl, rfl⟩
          change ∃ fields, (named.insert .password (.text password)).toForm [.scope]
            [.clientId, .grantType, .username, .password] = .ok fields
          have hkind : Text.isBlankText "password" = false := by decide
          rw [ParameterMap.exists_toForm_iff]
          simp (disch := decide) [named, ParameterMap.insertText, ParameterMap.get?_insert_of_ne,
            ParameterMap.get?_insert_text, get?_clientId_started hclient, hkind, hname, hword]

end Credential

/-! ### Sets of variables -/

namespace Environment

open Credential (AsksSomething)

variable {environment : Environment} {scope : Value} {client : HttpClient} {name word : String}

theorem value_of_get? (h : environment.get? name = some word) :
    environment.value name = .text word := by
  rw [value, h]
  rfl

theorem isEmpty_of_get? (h : environment.get? name = some word) : word.isEmpty = false := by
  have hkept := (Option.filter_eq_some_iff.mp h).2
  simpa using hkept

/-- Whether a variable has a value that is not blank. -/
def IsWord (environment : Environment) (name : String) : Prop :=
  ∃ word, environment.get? name = some word ∧ Text.isBlankText word = false

theorem isWord_iff (h : environment.get? name = some word) :
    environment.IsWord name ↔ Text.isBlankText word = false := by
  rw [IsWord, h]
  simp

/-- Whether a set of variables is complete: none of them is missing or empty. -/
def IsComplete (environment : Environment) (names : List String) : Prop :=
  ∀ name ∈ names, (environment.get? name).isSome = true

theorem missing_eq_nil_iff (environment : Environment) :
    environment.missing = [] ↔ environment.IsComplete secretVariables := by
  rw [missing, List.filter_eq_nil_iff, IsComplete]
  simp only [Option.isNone_iff_eq_none, ← Option.isSome_iff_ne_none]

/-- The variables that a user with a password needs. -/
def passwordVariables : List String := [clientId, username, password]

/-- The scopes that a configuration lists. -/
def scopeItems (scope : Value) : Except Failure (List Value) :=
  AppConfig.scopeItems (scope.orElse (.list []))

/-- There is a configuration when the identifier is not blank and the scopes can be listed. -/
theorem config_ok_iff {id : String} {items : List Value}
    (hid : environment.get? clientId = some id) :
    (∃ config, environment.config scope = .ok config ∧ config.scope = items) ↔
      Text.isBlankText id = false ∧ scopeItems scope = .ok items := by
  have hpresent : (environment.value clientId).isPresent = true := by
    rw [value_of_get? hid, Value.isPresent_text, isEmpty_of_get? hid]
    rfl
  have hplain : (environment.value clientId).plainText = id := by
    rw [value_of_get? hid]
    rfl
  rw [config, AppConfig.ofSettings, hpresent, hplain]
  cases Text.isBlankText id with
  | true => exact iff_of_false (by rintro ⟨_, ⟨⟩, -⟩) (by simp)
  | false =>
      change (∃ config, (scopeItems scope >>= fun _ => _) = .ok config ∧ _) ↔ _
      cases scopeItems scope with
      | error failure => exact iff_of_false (by rintro ⟨_, ⟨⟩, -⟩) (by simp)
      | ok found =>
          constructor
          · rintro ⟨_, ⟨⟩, rfl⟩
            exact ⟨rfl, rfl⟩
          · rintro ⟨-, hitems⟩
            exact ⟨_, rfl, Except.ok.inj hitems⟩

/-- The application that an environment describes. -/
def application (environment : Environment) (client : HttpClient) (config : AppConfig) :
    Credential where
  config
  client
  grant := .clientCredentials (some (.secret (environment.value clientSecret) false))

/-- The user that an environment describes. -/
def user (environment : Environment) (client : HttpClient) (config : AppConfig) : Credential where
  config
  client
  grant := .password (environment.value username) (environment.value password)

theorem secretCredential_of_complete (h : environment.IsComplete secretVariables) :
    environment.secretCredential scope client =
      (environment.config scope).map fun config =>
        some (environment.application client config) := by
  rw [secretCredential, (missing_eq_nil_iff environment).mpr h]
  cases environment.config scope <;> rfl

theorem secretCredential_of_not_complete (h : ¬ environment.IsComplete secretVariables) :
    environment.secretCredential scope client = .ok none := by
  rw [← missing_eq_nil_iff, ← List.isEmpty_iff] at h
  rw [secretCredential, if_neg h]
  rfl

theorem passwordCredential_of_complete (h : environment.IsComplete passwordVariables) :
    environment.passwordCredential scope client =
      (environment.config scope).map fun config => some (environment.user client config) := by
  have hcomplete : ([clientId, username, password].all fun name =>
      (environment.get? name).isSome) = true := List.all_eq_true.mpr h
  rw [passwordCredential, hcomplete]
  cases environment.config scope <;> rfl

theorem passwordCredential_of_not_complete (h : ¬ environment.IsComplete passwordVariables) :
    environment.passwordCredential scope client = .ok none := by
  have hcomplete : ¬ ([clientId, username, password].all fun name =>
      (environment.get? name).isSome) = true := fun hall => h (List.all_eq_true.mp hall)
  unfold passwordCredential
  dsimp only
  rw [if_neg hcomplete]
  rfl

theorem credential_eq (environment : Environment) (scope : Value) (client : HttpClient) :
    environment.credential scope client =
      match environment.secretCredential scope client with
      | .error failure => .error failure
      | .ok (some credential) => .ok credential
      | .ok none =>
          match environment.passwordCredential scope client with
          | .error failure => .error failure
          | .ok (some credential) => .ok credential
          | .ok none => .error (.authorization "environment"
              ("Set AZURE_TENANT_ID, AZURE_CLIENT_ID and AZURE_CLIENT_SECRET, " ++
                "or AZURE_CLIENT_ID, AZURE_USERNAME and AZURE_PASSWORD")) := by
  unfold credential
  rcases environment.secretCredential scope client with _ | _ | _
  · rfl
  · rcases environment.passwordCredential scope client with _ | _ | _ <;> rfl
  · rfl

/-- Whether a set of variables, as far as it was read, describes a credential that can ask for a
token. -/
def Describes (found : Except Failure (Option Credential)) : Prop :=
  ∃ credential, found = .ok (some credential) ∧ credential.CanAsk

theorem describes_map_iff {found : Except Failure AppConfig} {make : AppConfig → Credential} :
    Describes (found.map fun config => some (make config)) ↔
      ∃ config, found = .ok config ∧ (make config).CanAsk := by
  cases found with
  | error failure => exact iff_of_false (by rintro ⟨_, ⟨⟩, -⟩) (by rintro ⟨_, ⟨⟩, -⟩)
  | ok config =>
      constructor
      · rintro ⟨_, ⟨⟩, hasks⟩
        exact ⟨config, rfl, hasks⟩
      · rintro ⟨_, ⟨⟩, hasks⟩
        exact ⟨_, rfl, hasks⟩

/-- A complete set for an application describes one that can ask for a token exactly when its
identifier and its secret are not blank and some scope is left to ask for. -/
theorem describes_secretCredential_iff (h : environment.IsComplete secretVariables) :
    Describes (environment.secretCredential scope client) ↔
      environment.IsWord clientId ∧ environment.IsWord clientSecret ∧
        ∃ items, scopeItems scope = .ok items ∧ AsksSomething items := by
  obtain ⟨id, hid⟩ := Option.isSome_iff_exists.mp (h clientId (by simp [secretVariables]))
  obtain ⟨secret, hsecret⟩ :=
    Option.isSome_iff_exists.mp (h clientSecret (by simp [secretVariables]))
  have hasks {config : AppConfig} (hconfig : environment.config scope = .ok config) :
      (environment.application client config).CanAsk ↔
        Text.isBlankText secret = false ∧ AsksSomething config.scope := by
    apply Credential.canAsk_of_secret_iff
    · rw [application, value_of_get? hsecret]
    · exact AppConfig.isBlankText_clientId hconfig
  rw [secretCredential_of_complete h, describes_map_iff, isWord_iff hid, isWord_iff hsecret]
  constructor
  · rintro ⟨config, hconfig, hcan⟩
    obtain ⟨hblank, hsomething⟩ := (hasks hconfig).mp hcan
    obtain ⟨hword, hitems⟩ := (config_ok_iff hid).mp ⟨config, hconfig, rfl⟩
    exact ⟨hword, hblank, config.scope, hitems, hsomething⟩
  · rintro ⟨hword, hblank, items, hitems, hsomething⟩
    obtain ⟨config, hconfig, rfl⟩ := (config_ok_iff hid).mpr ⟨hword, hitems⟩
    exact ⟨config, hconfig, (hasks hconfig).mpr ⟨hblank, hsomething⟩⟩

/-- A complete set for a user describes one that can ask for a token exactly when none of its
variables is blank and the scopes can be listed. -/
theorem describes_passwordCredential_iff (h : environment.IsComplete passwordVariables) :
    Describes (environment.passwordCredential scope client) ↔
      environment.IsWord clientId ∧ environment.IsWord username ∧ environment.IsWord password ∧
        ∃ items, scopeItems scope = .ok items := by
  obtain ⟨id, hid⟩ := Option.isSome_iff_exists.mp (h clientId (by simp [passwordVariables]))
  obtain ⟨name, hname⟩ := Option.isSome_iff_exists.mp (h username (by simp [passwordVariables]))
  obtain ⟨word, hword⟩ := Option.isSome_iff_exists.mp (h password (by simp [passwordVariables]))
  have hasks {config : AppConfig} (hconfig : environment.config scope = .ok config) :
      (environment.user client config).CanAsk ↔
        Text.isBlankText name = false ∧ Text.isBlankText word = false := by
    apply Credential.canAsk_of_password_iff
    · rw [user, value_of_get? hname, value_of_get? hword]
    · rfl
    · exact AppConfig.isBlankText_clientId hconfig
  rw [passwordCredential_of_complete h, describes_map_iff, isWord_iff hid, isWord_iff hname,
    isWord_iff hword]
  constructor
  · rintro ⟨config, hconfig, hcan⟩
    obtain ⟨hnamed, hworded⟩ := (hasks hconfig).mp hcan
    obtain ⟨hclient, hitems⟩ := (config_ok_iff hid).mp ⟨config, hconfig, rfl⟩
    exact ⟨hclient, hnamed, hworded, config.scope, hitems⟩
  · rintro ⟨hclient, hnamed, hworded, items, hitems⟩
    obtain ⟨config, hconfig, rfl⟩ := (config_ok_iff hid).mpr ⟨hclient, hitems⟩
    exact ⟨config, hconfig, (hasks hconfig).mpr ⟨hnamed, hworded⟩⟩

/-- What is chosen where each complete set describes a credential that can ask for a token: the
application if its set is complete, else the user, else nothing. -/
theorem credential_cases
    (hsecret : environment.IsComplete secretVariables →
      Describes (environment.secretCredential scope client))
    (hpassword : environment.IsComplete passwordVariables →
      Describes (environment.passwordCredential scope client)) :
    (environment.IsComplete secretVariables ∧ ∃ config,
      environment.credential scope client = .ok (environment.application client config) ∧
        (environment.application client config).CanAsk) ∨
    (¬ environment.IsComplete secretVariables ∧ ∃ config,
      environment.passwordCredential scope client = .ok (some (environment.user client config)) ∧
        environment.credential scope client = .ok (environment.user client config) ∧
          (environment.user client config).CanAsk) ∨
    (¬ environment.IsComplete secretVariables ∧ ¬ environment.IsComplete passwordVariables ∧
      ∃ failure, environment.credential scope client = .error failure ∧
        failure.IsAuthorization) := by
  rw [credential_eq]
  by_cases happlication : environment.IsComplete secretVariables
  · have hdescribes := hsecret happlication
    rw [secretCredential_of_complete happlication] at hdescribes ⊢
    obtain ⟨config, hconfig, hasks⟩ := describes_map_iff.mp hdescribes
    rw [hconfig]
    exact .inl ⟨happlication, config, rfl, hasks⟩
  · -- Only now are the variables of the user looked at.
    rw [secretCredential_of_not_complete happlication]
    by_cases huser : environment.IsComplete passwordVariables
    · have hdescribes := hpassword huser
      rw [passwordCredential_of_complete huser] at hdescribes ⊢
      obtain ⟨config, hconfig, hasks⟩ := describes_map_iff.mp hdescribes
      rw [hconfig]
      exact .inr (.inl ⟨happlication, config, rfl, rfl, hasks⟩)
    · rw [passwordCredential_of_not_complete huser]
      exact .inr (.inr ⟨happlication, huser, _, rfl, _, _, rfl⟩)

theorem map_some_ne_none {found : Except Failure AppConfig} {make : AppConfig → Credential} :
    (found.map fun config => some (make config)) ≠ .ok none := by
  cases found <;> exact nofun

theorem secretCredential_ne_none_iff :
    environment.secretCredential scope client ≠ .ok none ↔
      environment.IsComplete secretVariables := by
  refine ⟨fun hne => ?_, fun h => ?_⟩
  · by_contra h
    exact hne (secretCredential_of_not_complete h)
  · rw [secretCredential_of_complete h]
    exact map_some_ne_none

theorem passwordCredential_ne_none_iff :
    environment.passwordCredential scope client ≠ .ok none ↔
      environment.IsComplete passwordVariables := by
  refine ⟨fun hne => ?_, fun h => ?_⟩
  · by_contra h
    exact hne (passwordCredential_of_not_complete h)
  · rw [passwordCredential_of_complete h]
    exact map_some_ne_none

theorem ne_none_of_describes {found : Except Failure (Option Credential)} (h : Describes found) :
    found ≠ .ok none := by
  obtain ⟨credential, rfl, -⟩ := h
  exact nofun

/-- An environment is resolved as it should be: what is chosen can ask for a token, a set of
variables counts as complete exactly when it describes such a credential, a user with a password is
chosen when the application with a secret cannot be, and no variable is missing exactly when that
application is chosen. -/
structure ResolvesUsably (environment : Environment) (scope : Value) (client : HttpClient) :
    Prop where
  chosen : ∀ credential, environment.credential scope client = .ok credential → credential.CanAsk
  refused : ∀ failure, environment.credential scope client = .error failure →
    failure.IsAuthorization
  secret : environment.secretCredential scope client ≠ .ok none ↔
    Describes (environment.secretCredential scope client)
  password : environment.passwordCredential scope client ≠ .ok none ↔
    Describes (environment.passwordCredential scope client)
  fallback : ¬ Describes (environment.secretCredential scope client) →
    environment.passwordCredential scope client ≠ .ok none →
      ∃ credential, environment.passwordCredential scope client = .ok (some credential) ∧
        environment.credential scope client = .ok credential
  missing : environment.missing = [] ↔ ∃ credential,
    environment.credential scope client = .ok credential ∧
      credential.grant.name = "ClientSecretCredential"

/-- It is enough that each complete set describes a credential that can ask for a token. -/
theorem resolvesUsably_of_describes
    (hsecret : environment.IsComplete secretVariables →
      Describes (environment.secretCredential scope client))
    (hpassword : environment.IsComplete passwordVariables →
      Describes (environment.passwordCredential scope client)) :
    environment.ResolvesUsably scope client := by
  have hcases := credential_cases hsecret hpassword
  refine ⟨?_, ?_, ⟨fun h => hsecret (secretCredential_ne_none_iff.mp h), ne_none_of_describes⟩,
    ⟨fun h => hpassword (passwordCredential_ne_none_iff.mp h), ne_none_of_describes⟩, ?_, ?_⟩
  · intro credential hchosen
    rcases hcases with ⟨-, config, heq, hasks⟩ | ⟨-, config, -, heq, hasks⟩ | ⟨-, -, _, heq, -⟩ <;>
      rw [heq] at hchosen <;> cases hchosen <;> exact hasks
  · intro failure hrefused
    rcases hcases with ⟨-, _, heq, -⟩ | ⟨-, _, -, heq, -⟩ | ⟨-, -, _, heq, hcause⟩ <;>
      rw [heq] at hrefused <;> cases hrefused
    exact hcause
  · intro hnone hfound
    have huser := passwordCredential_ne_none_iff.mp hfound
    rcases hcases with ⟨happlication, -⟩ | ⟨-, config, hdescribed, heq, -⟩ | ⟨-, hmissing, -⟩
    · exact absurd (hsecret happlication) hnone
    · exact ⟨_, hdescribed, heq⟩
    · exact absurd huser hmissing
  · rw [missing_eq_nil_iff]
    rcases hcases with ⟨happlication, config, heq, -⟩ | ⟨hmissing, config, -, heq, -⟩ |
      ⟨hmissing, -, failure, heq, -⟩
    · exact iff_of_true happlication ⟨_, heq, rfl⟩
    · refine iff_of_false hmissing ?_
      rintro ⟨credential, hchosen, hname⟩
      rw [heq] at hchosen
      cases hchosen
      change "ResourceOwnerPasswordCredential" = "ClientSecretCredential" at hname
      revert hname
      decide
    · refine iff_of_false hmissing ?_
      rintro ⟨credential, hchosen, -⟩
      rw [heq] at hchosen
      cases hchosen

/-- An environment is resolved as it should be exactly when no variable of a complete set is blank,
but for the tenant, and the scopes can be listed and, for an application, leave one to ask for. -/
theorem resolvesUsably_iff (environment : Environment) (scope : Value) (client : HttpClient) :
    environment.ResolvesUsably scope client ↔
      (environment.IsComplete secretVariables →
        environment.IsWord clientId ∧ environment.IsWord clientSecret ∧
          ∃ items, scopeItems scope = .ok items ∧ AsksSomething items) ∧
      (environment.IsComplete passwordVariables →
        environment.IsWord clientId ∧ environment.IsWord username ∧ environment.IsWord password ∧
          ∃ items, scopeItems scope = .ok items) := by
  constructor
  · intro h
    constructor
    · intro hcomplete
      have hdescribes := h.secret.mp (secretCredential_ne_none_iff.mpr hcomplete)
      exact (describes_secretCredential_iff hcomplete).mp hdescribes
    · intro hcomplete
      have hdescribes := h.password.mp (passwordCredential_ne_none_iff.mpr hcomplete)
      exact (describes_passwordCredential_iff hcomplete).mp hdescribes
  · rintro ⟨hsecret, hpassword⟩
    exact resolvesUsably_of_describes
      (fun hcomplete => (describes_secretCredential_iff hcomplete).mpr (hsecret hcomplete))
      (fun hcomplete => (describes_passwordCredential_iff hcomplete).mpr (hpassword hcomplete))

/-- A trial with both sets of variables, where the secret is blank. -/
def blankSecretTrial : Environment := [
  (tenantId, "contoso"), (clientId, "client"), (clientSecret, " "), (username, "user"),
  (password, "word")]

/-- With a blank secret no variable is missing and the application is chosen, whose form is refused,
though the user could ask for a token. -/
theorem blank_secret_is_chosen :
    ¬ blankSecretTrial.ResolvesUsably .null .standard ∧ blankSecretTrial.missing = [] ∧
    (∃ credential, blankSecretTrial.credential .null .standard = .ok credential ∧
      ∀ world, (credential.form.perform world).1 = .error (.required "client_secret")) ∧
    Describes (blankSecretTrial.passwordCredential .null .standard) := by
  have hcomplete : blankSecretTrial.IsComplete passwordVariables :=
    show ∀ name ∈ passwordVariables, (blankSecretTrial.get? name).isSome = true by decide
  have huser : Describes (blankSecretTrial.passwordCredential .null .standard) :=
    (describes_passwordCredential_iff hcomplete).mpr
      ⟨⟨"client", rfl, by decide⟩, ⟨"user", rfl, by decide⟩, ⟨"word", rfl, by decide⟩, [], rfl⟩
  have happlication : ∃ credential,
      blankSecretTrial.credential .null .standard = .ok credential ∧
        ∀ world, (credential.form.perform world).1 = .error (.required "client_secret") :=
    ⟨_, rfl, fun _ => rfl⟩
  refine ⟨fun h => ?_, by decide, happlication, huser⟩
  obtain ⟨credential, hchosen, hrefused⟩ := happlication
  obtain ⟨fields, hform⟩ := h.chosen credential hchosen Context.pollingTrial.world
  rw [hrefused] at hform
  cases hform

end Environment

end OAuthClient
