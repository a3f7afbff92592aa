import Mathlib.Data.List.Forall2
import OAuthClient.Credential.Basic
import OAuthClient.DeviceCode.Offer
import OAuthClient.Identity.IdToken
import OAuthClient.Identity.Token
import OAuthClient.Proofs.ParameterEdits

/-! # Secrets and debug texts

Debug texts are compared in pairs: of two things that are the same but for their
secrets both texts are equal, so that no reader of one learns which of the two he
looks at. For parameter maps the comparison starts with the changes that made
them, a change that sets a secret being paired with one that sets another secret.
-/

namespace OAuthClient

namespace ParameterMap

/-- Whether two settings are of one parameter and differ only if it is a secret. -/
def SameSetting (pair twin : Parameter × String) : Prop :=
  pair.1 = twin.1 ∧ (pair.1.isSensitive = false → pair.2 = twin.2)

/-- Whether two maps are the same except for the values of secrets. -/
structure SameButSecrets (map twin : ParameterMap) : Prop where
  parameters : List.Forall₂ SameSetting map.parameters twin.parameters
  scopes : map.scopes = twin.scopes
  logPii : map.logPii = twin.logPii

/-- Whether two changes are the same, or set a secret to two texts that are both blank or both
not. -/
inductive Edit.SameButSecrets : Edit → Edit → Prop where
  | same (edit : Edit) : SameButSecrets edit edit
  | secret {parameter : Parameter} {text twin : String} (hsensitive : parameter.isSensitive = true)
      (hblank : Text.isBlankText text = Text.isBlankText twin) :
      SameButSecrets (.insert parameter text) (.insert parameter twin)

variable {map twin : ParameterMap} {pairs twins : List (Parameter × String)}

theorem SameSetting.refl (pair : Parameter × String) : SameSetting pair pair := ⟨rfl, fun _ => rfl⟩

theorem forall₂_put {parameter : Parameter} {text other : String}
    (hpairs : List.Forall₂ SameSetting pairs twins)
    (hsetting : SameSetting (parameter, text) (parameter, other)) :
    List.Forall₂ SameSetting (Assoc.put parameter text pairs)
      (Assoc.put parameter other twins) := by
  induction hpairs with
  | nil => exact .cons hsetting .nil
  | @cons pair twin rest others hpair hrest ih =>
      -- Both sides have the same parameters, so the text goes to the same place.
      rw [Assoc.put, Assoc.put, ← hpair.1]
      split
      next hkey =>
        subst hkey
        exact .cons hsetting hrest
      next => exact .cons ⟨rfl, hpair.2⟩ ih

theorem forall₂_erase (parameter : Parameter) (hpairs : List.Forall₂ SameSetting pairs twins) :
    List.Forall₂ SameSetting (Assoc.erase parameter pairs) (Assoc.erase parameter twins) := by
  induction hpairs with
  | nil => exact .nil
  | @cons pair twin rest others hpair hrest ih =>
      rw [Assoc.erase, Assoc.erase, List.filter_cons, List.filter_cons, ← hpair.1]
      split
      next => exact .cons hpair ih
      next => exact ih

namespace SameButSecrets

theorem insertText (h : map.SameButSecrets twin) {parameter : Parameter} {text other : String}
    (hsetting : SameSetting (parameter, text) (parameter, other))
    (hblank : Text.isBlankText text = Text.isBlankText other) :
    (map.insertText parameter text).SameButSecrets (twin.insertText parameter other) := by
  simp only [ParameterMap.insertText, insert, Value.isNull, Value.plainText, Bool.false_or, hblank]
  split
  next => exact h
  next => exact ⟨forall₂_put h.parameters hsetting, h.scopes, h.logPii⟩

theorem addScopes (h : map.SameButSecrets twin) (scopes : List Value) :
    (map.addScopes scopes).SameButSecrets (twin.addScopes scopes) := by
  induction scopes generalizing map twin with
  | nil => exact h
  | cons scope rest ih =>
      apply ih
      unfold addScope
      split
      next => exact ⟨h.parameters, by rw [h.scopes], h.logPii⟩
      next => exact h

theorem remove (h : map.SameButSecrets twin) (parameter : Parameter) :
    (map.remove parameter).SameButSecrets (twin.remove parameter) := by
  cases parameter with
  | scope => exact ⟨h.parameters, rfl, h.logPii⟩
  | _ => exact ⟨forall₂_erase _ h.parameters, h.scopes, h.logPii⟩

/-- One change on both sides keeps two maps the same but for their secrets. -/
theorem result (h : map.SameButSecrets twin) {edit other : Edit}
    (hedit : edit.SameButSecrets other) : (edit.result map).SameButSecrets (other.result twin) := by
  cases hedit with
  | secret hsensitive hblank =>
      exact h.insertText ⟨rfl, fun hpublic => by rw [hsensitive] at hpublic; cases hpublic⟩ hblank
  | same =>
      cases edit with
      | insert parameter text => exact h.insertText (.refl _) rfl
      | responseTypes texts => exact h.insertText (.refl _) rfl
      | addScope scope => exact h.addScopes _
      | extendScopes scopes => exact h.addScopes _
      | remove parameter => exact h.remove parameter

theorem foldl (h : map.SameButSecrets twin) {edits others : List Edit}
    (hedits : List.Forall₂ Edit.SameButSecrets edits others) :
    (edits.foldl Edit.result map).SameButSecrets (others.foldl Edit.result twin) := by
  induction hedits generalizing map twin with
  | nil => exact h
  | cons hedit _ ih => exact ih (h.result hedit)

end SameButSecrets

theorem Edit.logPii_result (edit : Edit) (map : ParameterMap) :
    (edit.result map).logPii = map.logPii := by
  have hscopes (scopes : List Value) : (map.addScopes scopes).logPii = map.logPii := by
    induction scopes generalizing map with
    | nil => rfl
    | cons scope rest ih =>
        refine (ih (map.addScope scope)).trans ?_
        unfold ParameterMap.addScope
        split <;> rfl
  have hinsert (parameter : Parameter) (text : String) :
      (map.insertText parameter text).logPii = map.logPii := by
    unfold insertText ParameterMap.insert
    split <;> rfl
  cases edit with
  | insert parameter text => exact hinsert parameter text
  | responseTypes texts => exact hinsert _ _
  | addScope scope => exact hscopes _
  | extendScopes scopes => exact hscopes _
  | remove parameter => cases parameter <;> rfl

theorem logPii_foldl (edits : List Edit) (map : ParameterMap) :
    (edits.foldl Edit.result map).logPii = map.logPii := by
  induction edits generalizing map with
  | nil => rfl
  | cons edit rest ih => exact (ih (edit.result map)).trans (edit.logPii_result map)

/-- A hidden value leaves nothing in the text of a map. -/
theorem SameButSecrets.describe_eq (h : map.SameButSecrets twin) (hlog : map.logPii = false) :
    map.describe = twin.describe := by
  have hshown : map.parameters.map map.shown = twin.parameters.map twin.shown := by
    rw [← List.forall₂_eq_eq_eq, List.forall₂_map_left_iff, List.forall₂_map_right_iff]
    -- A secret is shown as the same text on both sides, and any other text is the same.
    refine h.parameters.imp ?_
    rintro ⟨parameter, text⟩ ⟨_, other⟩ ⟨rfl, hpublic⟩
    simp only [shown, ← h.logPii, hlog]
    cases hsensitive : parameter.isSensitive with
    | true => rfl
    | false =>
        have htext : text = other := hpublic hsensitive
        rw [htext]
  unfold describe
  rw [hshown, h.scopes]

end ParameterMap

/-- Whether two proofs are of one kind. -/
inductive ClientProof.SameKind : ClientProof → ClientProof → Prop where
  | secret (secret twin : Value) (basic : Bool) :
      SameKind (.secret secret basic) (.secret twin basic)
  | assertion (assertion twin : Option ClientAssertion) :
      SameKind (.assertion assertion) (.assertion twin)

/-- Whether two grants are of one kind and, if they are for a user's password, for the same user. -/
inductive Grant.SameKind : Grant → Grant → Prop where
  | unspecified : SameKind .unspecified .unspecified
  | authorizationCode (openId : Bool) (code twinCode verifier twinVerifier : Value)
      {proof twin : ClientProof} (hproof : proof.SameKind twin) :
      SameKind (.authorizationCode openId code verifier proof)
        (.authorizationCode openId twinCode twinVerifier twin)
  | unproven : SameKind (.clientCredentials none) (.clientCredentials none)
  | clientCredentials {proof twin : ClientProof} (hproof : proof.SameKind twin) :
      SameKind (.clientCredentials (some proof)) (.clientCredentials (some twin))
  | deviceCode (code twin : Value) : SameKind (.deviceCode code) (.deviceCode twin)
  | onBehalfOf (assertion twinAssertion : Value) {proof twin : ClientProof}
      (hproof : proof.SameKind twin) :
      SameKind (.onBehalfOf assertion proof) (.onBehalfOf twinAssertion twin)
  | password (username password twin : Value) :
      SameKind (.password username password) (.password username twin)

theorem Grant.SameKind.name_eq {grant twin : Grant} (h : grant.SameKind twin) :
    grant.name = twin.name := by
  cases h with
  | authorizationCode openId _ _ _ _ hproof => cases openId <;> cases hproof <;> rfl
  | clientCredentials hproof => cases hproof <;> rfl
  | _ => rfl

/-- A thing that holds secrets and has a debug text. -/
inductive SecretHolder where
  | parameters (map : ParameterMap)
  | token (token : Token)
  | idToken (token : IdToken)
  | redirect (redirect : Redirect)
  | deviceCode (code : DeviceCode)
  | proofKey (key : ProofKey)
  | credential (credential : Credential)

namespace SecretHolder

/-- The debug text of a thing. -/
def describe : SecretHolder → String
  | .parameters held => held.describe
  | .token held => held.describe
  | .idToken held => held.describe
  | .redirect held => held.describe
  | .deviceCode held => held.describe
  | .proofKey held => held.describe
  | .credential held => held.describe

/-- Whether secrets may be shown. Codes and proof keys have no such setting. -/
def logPii : SecretHolder → Bool
  | .parameters held => held.logPii
  | .token held => held.logPii
  | .idToken held => held.logPii
  | .redirect held => held.logPii
  | .deviceCode _ | .proofKey _ => false
  | .credential held => held.config.logPii

/-- Whether two things of one kind are the same except for their secrets. Where the text says
whether there is a secret, there is one in both or in neither. -/
inductive SameButSecrets : SecretHolder → SecretHolder → Prop where
  | parameters {map twin : ParameterMap} (h : map.SameButSecrets twin) :
      SameButSecrets (.parameters map) (.parameters twin)
  | token (held : Token) {accessToken refreshToken idToken : Value} (clientInfo : Value)
      (additional : Members) (haccess : held.accessToken.isNull = accessToken.isNull)
      (hrefresh : held.refreshToken.isNull = refreshToken.isNull)
      (hid : held.idToken.isNull = idToken.isNull) :
      SameButSecrets (.token held)
        (.token { held with accessToken, refreshToken, idToken, clientInfo, additional })
  | idToken (held : IdToken) (idToken : Value) {code : Value}
      (hcode : held.code.isNull = code.isNull) :
      SameButSecrets (.idToken held) (.idToken { held with idToken, code })
  | redirect (held : Redirect) {code idToken accessToken : Value}
      (hcode : held.code.isNull = code.isNull) (hid : held.idToken.isNull = idToken.isNull)
      (haccess : held.accessToken.isNull = accessToken.isNull) :
      SameButSecrets (.redirect held) (.redirect { held with code, idToken, accessToken })
  | deviceCode (held : DeviceCode) (deviceCode : Value) :
      SameButSecrets (.deviceCode held) (.deviceCode { held with deviceCode })
  | proofKey (held : ProofKey) (verifier challenge : Value) :
      SameButSecrets (.proofKey held) (.proofKey { held with verifier, challenge })
  | credential (held : Credential) (clientId : String) (refreshToken : Value) {grant : Grant}
      (hgrant : held.grant.SameKind grant) :
      SameButSecrets (.credential held) (.credential { held with
        config := { held.config with clientId }, grant, refreshToken })

theorem SameButSecrets.describe_eq {holder twin : SecretHolder} (h : holder.SameButSecrets twin)
    (hlog : holder.logPii = false) : holder.describe = twin.describe := by
  cases h with
  | parameters h => exact h.describe_eq hlog
  | token held clientInfo additional haccess hrefresh hid =>
      change held.logPii = false at hlog
      unfold describe Token.describe
      simp only [hlog]
      rw [masked_congr haccess, masked_congr hrefresh, masked_congr hid]
  | idToken held idToken hcode =>
      change held.logPii = false at hlog
      unfold describe IdToken.describe
      simp only [hlog, Bool.false_eq_true, if_false]
      rw [masked_congr hcode]
  | redirect held hcode hid haccess =>
      change held.logPii = false at hlog
      unfold describe Redirect.describe
      simp only [hlog]
      rw [masked_congr hcode, masked_congr hid, masked_congr haccess]
  | deviceCode | proofKey => rfl
  | credential held clientId refreshToken hgrant =>
      change held.config.logPii = false at hlog
      have hclient : (Value.text held.config.clientId).isNull = (Value.text clientId).isNull := rfl
      unfold describe Credential.describe
      simp only [hlog]
      rw [hgrant.name_eq, masked_congr hclient]

/-- Debug texts that hide secrets do not depend on them: neither the text of two things that are the
same but for their secrets, nor that of two parameter maps that the same changes made but for the
secrets that they set. -/
theorem debug_texts_hide_secrets :
    (∀ holder twin : SecretHolder, holder.SameButSecrets twin → holder.logPii = false →
      holder.describe = twin.describe) ∧
    ∀ edits others, List.Forall₂ ParameterMap.Edit.SameButSecrets edits others →
      ∃ map twin, ParameterMap.run false edits = .ok map ∧
        ParameterMap.run false others = .ok twin ∧ map.SameButSecrets twin ∧
        map.describe = twin.describe := by
  refine ⟨fun holder twin h hlog => h.describe_eq hlog, fun edits others hedits => ?_⟩
  have hempty : ParameterMap.SameButSecrets {} {} := ⟨.nil, rfl, rfl⟩
  have hmaps := hempty.foldl hedits
  exact ⟨_, _, ParameterMap.run_eq false edits, ParameterMap.run_eq false others, hmaps,
    hmaps.describe_eq (ParameterMap.logPii_foldl edits {})⟩

/-- A token as it is just received. -/
def freshToken (accessToken : String) : Token where
  accessToken := .text accessToken
  expiresIn := .int 3600
  timestamp := ⟨0⟩
  expiresOn := ⟨3600000000⟩

theorem freshToken_text_hides_secret :
    (freshToken "first").describe = (freshToken "second").describe ∧
      ∃ map twin, ParameterMap.run false [.insert .state "s", .insert .password "one"] = .ok map ∧
        ParameterMap.run false [.insert .state "s", .insert .password "two"] = .ok twin ∧
        map.describe = twin.describe := by
  obtain ⟨hholders, hmaps⟩ := debug_texts_hide_secrets
  have htoken : (freshToken "first").describe = (freshToken "second").describe :=
    hholders (.token (freshToken "first")) (.token (freshToken "second"))
      (.token (freshToken "first") .null [] rfl rfl rfl) rfl
  obtain ⟨map, twin, hmap, htwin, -, htext⟩ := hmaps
    [.insert .state "s", .insert .password "one"] [.insert .state "s", .insert .password "two"]
    (.cons (.same _) (.cons (.secret rfl (by decide)) .nil))
  exact ⟨htoken, map, twin, hmap, htwin, htext⟩

end SecretHolder

end OAuthClient
