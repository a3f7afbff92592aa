import OAuthClient.Proofs.ParameterEdits
import OAuthClient.Proofs.TokenReading

/-! # Scope texts

The scopes that an application asks for are sent as one text, in the forms of its
credentials and in its sign-in URLs. The words of that text are those of the
configured scopes, however they were grouped. Where no configured scope has more
than one word, the words are sent in order and once each, so that configurations
with the same words send the same text.
-/

namespace OAuthClient

/-! ### Words -/

namespace Text

variable {c : Char} {text blanks : List Char}

/-- A blank ends a word; what else there is to say about words follows from that. -/
theorem words_append_cons (text rest : List Char) (hblank : isBlank c = true) :
    words (text ++ c :: rest) = words text ++ words rest := by
  rw [words, splitOn_append_cons text hblank, List.filter_append]
  rfl

theorem words_of_allBlank (h : allBlank text = true) : words text = [] := by
  induction text with
  | nil => rfl
  | cons c rest ih =>
      rw [allBlank, List.all_cons, Bool.and_eq_true] at h
      exact (words_append_cons [] rest h.1).trans (ih h.2)

theorem words_append_of_allBlank (text : List Char) (h : allBlank blanks = true) :
    words (text ++ blanks) = words text := by
  cases blanks with
  | nil => rw [List.append_nil]
  | cons c rest =>
      rw [allBlank, List.all_cons, Bool.and_eq_true] at h
      rw [words_append_cons text rest h.1, words_of_allBlank h.2, List.append_nil]

theorem words_allBlank_append (text : List Char) (h : allBlank blanks = true) :
    words (blanks ++ text) = words text := by
  induction blanks with
  | nil => rfl
  | cons c rest ih =>
      rw [allBlank, List.all_cons, Bool.and_eq_true] at h
      exact (words_append_cons [] (rest ++ text) h.1).trans (ih h.2)

theorem words_ne_nil (h : allBlank text = false) : words text ≠ [] := by
  induction text with
  | nil => cases h
  | cons c rest ih =>
      cases hblank : isBlank c with
      | true =>
          rw [allBlank, List.all_cons, hblank, Bool.true_and] at h
          rw [← List.nil_append (c :: rest), words_append_cons [] rest hblank]
          exact ih h
      | false =>
          rw [words, splitOn, if_neg (Bool.eq_false_iff.mp hblank)]
          cases splitOn isBlank rest <;> simp

/-- A text without blanks is one word. -/
theorem words_of_solid (hne : text ≠ []) (hsolid : ∀ c ∈ text, isBlank c = false) :
    words text = [text] := by
  rw [words, splitOn_of_not_cut hsolid]
  simpa using hne

theorem allBlank_takeWhile (text : List Char) : allBlank (text.takeWhile isBlank) = true :=
  List.all_takeWhile

/-- What is removed at the two ends of a text is blank. -/
theorem exists_append_trim (text : List Char) :
    ∃ front back, allBlank front = true ∧ allBlank back = true ∧
      text.dropWhile isBlank = trim text ++ back ∧ text = front ++ (trim text ++ back) := by
  refine ⟨text.takeWhile isBlank,
    ((text.dropWhile isBlank).reverse.takeWhile isBlank).reverse, allBlank_takeWhile text, ?_, ?_⟩
  · rw [allBlank, List.all_reverse]
    exact allBlank_takeWhile _
  · have hcore : text.dropWhile isBlank =
        trim text ++ ((text.dropWhile isBlank).reverse.takeWhile isBlank).reverse := by
      rw [trim, ← List.reverse_append, List.takeWhile_append_dropWhile, List.reverse_reverse]
    exact ⟨hcore, by rw [← hcore, List.takeWhile_append_dropWhile]⟩

theorem words_trim (text : List Char) : words (trim text) = words text := by
  obtain ⟨front, back, hfront, hback, -, htext⟩ := exists_append_trim text
  conv_rhs => rw [htext]
  rw [words_allBlank_append _ hfront, words_append_of_allBlank _ hback]

theorem not_isBlank_of_head?_trim (h : (trim text).head? = some c) : isBlank c = false := by
  obtain ⟨front, back, -, -, hcore, -⟩ := exists_append_trim text
  have hhead := List.head?_dropWhile_not isBlank text
  rw [hcore, List.head?_append, h] at hhead
  simpa using hhead

theorem not_isBlank_of_getLast?_trim (h : (trim text).getLast? = some c) : isBlank c = false := by
  have hhead := List.head?_dropWhile_not isBlank (text.dropWhile isBlank).reverse
  rw [trim, List.getLast?_reverse] at h
  rw [h] at hhead
  simpa using hhead

/-- A text with no more than one word is that word, but for its blank ends. -/
theorem words_eq_trim (hwords : (words text).length ≤ 1) (hne : allBlank text = false) :
    words text = [trim text] := by
  have hsome := words_ne_nil hne
  rw [← words_trim] at hwords hsome ⊢
  refine words_of_solid (fun hnil => hsome (by rw [hnil]; rfl)) fun c hc => ?_
  -- A blank within would part two words, since the ends are not blank.
  by_contra hblank
  rw [Bool.not_eq_false] at hblank
  obtain ⟨before, after, hparts⟩ := List.append_of_mem hc
  have hbefore : words before ≠ [] := by
    cases before with
    | nil =>
        have hhead := @not_isBlank_of_head?_trim c text (by rw [hparts]; rfl)
        rw [hblank] at hhead
        cases hhead
    | cons d before =>
        apply words_ne_nil
        rw [allBlank, List.all_cons,
          @not_isBlank_of_head?_trim d text (by rw [hparts]; rfl), Bool.false_and]
  have hafter : words after ≠ [] := by
    rcases List.eq_nil_or_concat after with rfl | ⟨after, d, rfl⟩
    · have hlast := @not_isBlank_of_getLast?_trim c text (by rw [hparts]; simp)
      rw [hblank] at hlast
      cases hlast
    · apply words_ne_nil
      rw [allBlank, List.concat_eq_append, List.all_append, List.all_cons,
        @not_isBlank_of_getLast?_trim d text (by simp [hparts, List.getLast?_cons]), Bool.false_and,
        Bool.and_false]
  rw [hparts, words_append_cons before after hblank, List.length_append] at hwords
  have := List.length_pos_iff.mpr hbefore
  have := List.length_pos_iff.mpr hafter
  omega

theorem wordsOf_trimmed (text : String) : wordsOf (trimmed text) = wordsOf text := by
  rw [wordsOf, trimmed, String.toList_ofList, words_trim]
  rfl

theorem wordsOf_of_isBlankText {text : String} (h : isBlankText text = true) :
    wordsOf text = [] := by
  rw [wordsOf, words_of_allBlank h, List.map_nil]

theorem wordsOf_eq_trimmed {text : String} (hwords : (wordsOf text).length ≤ 1)
    (hne : isBlankText text = false) : wordsOf text = [trimmed text] := by
  rw [wordsOf, List.length_map] at hwords
  rw [wordsOf, words_eq_trim hwords hne]
  rfl

theorem wordsOf_of_mem_wordsOf {text word : String} (h : word ∈ wordsOf text) :
    wordsOf word = [word] := by
  obtain ⟨chars, hchars, rfl⟩ := List.mem_map.mp h
  rw [wordsOf, String.toList_ofList,
    words_of_solid (ne_nil_of_mem_words hchars) (not_isBlank_of_mem_words hchars)]
  rfl

/-- Joining texts by spaces leaves their words. -/
theorem wordsOf_intercalate_space (texts : List String) :
    wordsOf (String.intercalate " " texts) = texts.flatMap wordsOf := by
  cases texts with
  | nil => rfl
  | cons text rest =>
      rw [wordsOf, String.toList_intercalate, words]
      change List.map String.ofList ((splitOn isBlank ([' '].intercalate _)).filter _) = _
      rw [splitOn_intercalate (by simp) rfl, List.filter_flatMap, List.map_flatMap,
        List.flatMap_map]
      rfl

end Text

/-! ### Sets of scopes -/

/-- The words of a text that may be missing. -/
def wordsOf? (text? : Option String) : List String := (text?.map Text.wordsOf).getD []

@[simp] theorem wordsOf?_none : wordsOf? none = [] := rfl

@[simp] theorem wordsOf?_some (text : String) : wordsOf? (some text) = Text.wordsOf text := rfl

namespace ParameterMap

variable {scopes others : List String}

/-- The texts by which scopes are asked for. -/
def scopeTexts (scopes : List String) : List String :=
  scopes.filterMap fun scope => scopeOf? (.text scope)

theorem scopeOf?_text (scope : String) :
    scopeOf? (.text scope) =
      if Text.isBlankText scope then none else some (Text.trimmed scope) := by
  unfold scopeOf?
  cases hempty : scope.isEmpty with
  | true => simp [hempty, Text.isBlankText_of_isEmpty hempty]
  | false => cases hblank : Text.isBlankText scope <;> simp [hempty, hblank, Value.plainText]

theorem wordsOf_scopeOf? (scope : String) :
    wordsOf? (scopeOf? (.text scope)) = Text.wordsOf scope := by
  rw [scopeOf?_text]
  split
  next hblank => rw [wordsOf?_none, Text.wordsOf_of_isBlankText hblank]
  next => rw [wordsOf?_some, Text.wordsOf_trimmed]

theorem toList_scopeOf? {scope : String} (h : (Text.wordsOf scope).length ≤ 1) :
    (scopeOf? (.text scope)).toList = Text.wordsOf scope := by
  rw [scopeOf?_text]
  split
  next hblank => rw [Option.toList_none, Text.wordsOf_of_isBlankText hblank]
  next hne => rw [Option.toList_some, Text.wordsOf_eq_trimmed h (Bool.eq_false_iff.mpr hne)]

theorem flatMap_wordsOf_scopeTexts (scopes : List String) :
    (scopeTexts scopes).flatMap Text.wordsOf = scopes.flatMap Text.wordsOf := by
  induction scopes with
  | nil => rfl
  | cons scope rest ih =>
      rw [scopeTexts, List.filterMap_cons, List.flatMap_cons, ← ih, ← wordsOf_scopeOf? scope]
      cases scopeOf? (.text scope) <;> rfl

theorem scopeTexts_of_plain (h : ∀ scope ∈ scopes, (Text.wordsOf scope).length ≤ 1) :
    scopeTexts scopes = scopes.flatMap Text.wordsOf := by
  rw [scopeTexts, List.filterMap_eq_flatMap_toList]
  exact List.flatMap_congr fun scope hscope => toList_scopeOf? (h scope hscope)

theorem scopeText?_map_text (scopes : List String) :
    scopeText? (scopes.map .text) =
      if (TextSet.ofList (scopeTexts scopes)).isEmpty then none
      else some (String.intercalate " " (TextSet.ofList (scopeTexts scopes))) := by
  rw [scopeText?, List.filterMap_map]
  rfl

theorem wordsOf?_scopeText? (scopes : List String) :
    wordsOf? (scopeText? (scopes.map .text)) =
      (TextSet.ofList (scopeTexts scopes)).flatMap Text.wordsOf := by
  rw [scopeText?_map_text]
  split
  next hnone =>
    rw [List.isEmpty_iff.mp hnone]
    rfl
  next => rw [wordsOf?_some, Text.wordsOf_intercalate_space]

/-- The words that are sent are those of the scopes. -/
theorem mem_wordsOf?_scopeText? {word : String} :
    word ∈ wordsOf? (scopeText? (scopes.map .text)) ↔ word ∈ scopes.flatMap Text.wordsOf := by
  rw [wordsOf?_scopeText?, ← flatMap_wordsOf_scopeTexts scopes, List.mem_flatMap,
    List.mem_flatMap]
  exact exists_congr fun text => and_congr_left fun _ => TextSet.mem_ofList

/-- Words that are asked for one by one are sent in order and once each. -/
theorem pairwise_wordsOf?_scopeText? (h : ∀ scope ∈ scopes, (Text.wordsOf scope).length ≤ 1) :
    (wordsOf? (scopeText? (scopes.map .text))).Pairwise (· < ·) := by
  have hword : ∀ text ∈ TextSet.ofList (scopeTexts scopes), Text.wordsOf text = [text] := by
    intro text htext
    rw [TextSet.mem_ofList, scopeTexts_of_plain h] at htext
    obtain ⟨scope, -, hmem⟩ := List.mem_flatMap.mp htext
    exact Text.wordsOf_of_mem_wordsOf hmem
  rw [wordsOf?_scopeText?, List.flatMap_congr hword, List.flatMap_singleton']
  exact TextSet.pairwise_insertAll .nil _

/-- The text that is sent depends on the set of the texts that are asked for only. -/
theorem scopeText?_congr (h : ∀ text, text ∈ scopeTexts scopes ↔ text ∈ scopeTexts others) :
    scopeText? (scopes.map .text) = scopeText? (others.map .text) := by
  rw [scopeText?_map_text, scopeText?_map_text, TextSet.ofList_eq_sortedDistinct h,
    TextSet.ofList_eq_sortedDistinct fun _ => Iff.rfl]

/-- A text that is sent has words. -/
theorem flatMap_wordsOf_ne_nil (h : (scopeText? (scopes.map .text)).isSome = true) :
    scopes.flatMap Text.wordsOf ≠ [] := by
  obtain ⟨text, htext⟩ : ∃ text, text ∈ scopeTexts scopes := by
    rw [scopeText?_map_text] at h
    split at h
    next => cases h
    next hsome =>
      obtain ⟨text, htext⟩ := List.exists_mem_of_ne_nil _ (by simpa using hsome)
      exact ⟨text, TextSet.mem_ofList.mp htext⟩
  obtain ⟨scope, hscope, hasked⟩ := List.mem_filterMap.mp htext
  rw [scopeOf?_text] at hasked
  split at hasked
  next => cases hasked
  next hfilled =>
    have hwords := Text.words_ne_nil (Bool.eq_false_iff.mpr hfilled)
    intro hnone
    exact hwords (List.map_eq_nil_iff.mp (List.flatMap_eq_nil_iff.mp hnone scope hscope))

theorem scopeTexts_ne_nil (h : (scopeText? (scopes.map .text)).isSome = true) :
    scopeTexts scopes ≠ [] := by
  intro hnone
  apply flatMap_wordsOf_ne_nil h
  rw [← flatMap_wordsOf_scopeTexts, hnone]
  rfl

end ParameterMap

namespace Texts

variable {texts : Texts}

/-- The words of all texts. -/
def words : Texts → List String
  | .one text => Text.wordsOf text
  | .several texts => texts.flatMap Text.wordsOf

/-- Whether no scope has more than one word, as when the scopes are the words of one text. -/
def IsPlain : Texts → Prop
  | .one _ => True
  | .several texts => ∀ text ∈ texts, (Text.wordsOf text).length ≤ 1

instance : (texts : Texts) → Decidable texts.IsPlain
  | .one _ => .isTrue trivial
  | .several texts => inferInstanceAs (Decidable (∀ text ∈ texts, (Text.wordsOf text).length ≤ 1))

theorem flatMap_scopes (texts : Texts) : texts.scopes.flatMap Text.wordsOf = texts.words := by
  cases texts with
  | several texts => rfl
  | one text =>
      have hwords : ∀ word ∈ Text.wordsOf text, Text.wordsOf word = [word] :=
        fun word hword => Text.wordsOf_of_mem_wordsOf hword
      rw [scopes, words, List.flatMap_congr hwords, List.flatMap_singleton']

theorem IsPlain.length_le (h : texts.IsPlain) {scope : String} (hscope : scope ∈ texts.scopes) :
    (Text.wordsOf scope).length ≤ 1 := by
  cases texts with
  | one text => rw [Text.wordsOf_of_mem_wordsOf hscope, List.length_singleton]
  | several texts => exact h scope hscope

end Texts

/-! ### What is asked for -/

/-- How the scopes that are asked for come from those of the application. -/
inductive ScopeRule where
  /-- They are the same. -/
  | configured
  /-- OpenID is asked for as well. -/
  | openId
  /-- An application that names no scopes asks for the default one. -/
  | application

namespace ScopeRule

variable {rule : ScopeRule} {scopes more : List String}

/-- The scopes that are asked for. -/
def asked (rule : ScopeRule) (scopes : List String) : List String :=
  match rule with
  | .configured => scopes
  | .openId => "openid" :: scopes
  | .application => if scopes.isEmpty then [Credential.defaultScope] else scopes

theorem mem_asked_congr (rule : ScopeRule) (h : ∀ scope, scope ∈ scopes ↔ scope ∈ more)
    (scope : String) : scope ∈ rule.asked scopes ↔ scope ∈ rule.asked more := by
  cases rule with
  | configured => exact h scope
  | openId => rw [asked, asked, List.mem_cons, List.mem_cons, h]
  | application =>
      have hempty : scopes.isEmpty = more.isEmpty := by
        rw [Bool.eq_iff_iff, List.isEmpty_iff, List.isEmpty_iff, List.eq_nil_iff_forall_not_mem,
          List.eq_nil_iff_forall_not_mem]
        exact forall_congr' fun scope => not_congr (h scope)
      rw [asked, asked, hempty]
      split
      next => rfl
      next => exact h scope

/-- Scopes may be taken apart before or after the others are added, if something is left of
them. -/
theorem flatMap_asked (parts : String → List String)
    (hopenId : parts "openid" = ["openid"])
    (hdefault : parts Credential.defaultScope = [Credential.defaultScope])
    (hsome : rule = .application → (rule.asked scopes).flatMap parts ≠ []) :
    (rule.asked scopes).flatMap parts = rule.asked (scopes.flatMap parts) := by
  cases rule with
  | configured => rfl
  | openId => rw [asked, asked, List.flatMap_cons, hopenId, List.singleton_append]
  | application =>
      have hsome := hsome rfl
      rw [asked] at hsome ⊢
      split
      next hnone =>
        rw [List.isEmpty_iff.mp hnone]
        simp [asked, hdefault]
      next hscopes =>
        rw [if_neg hscopes] at hsome
        rw [asked, if_neg (by simpa [List.isEmpty_iff] using hsome)]

end ScopeRule

/-- The rule by which a grant asks for scopes. -/
def Grant.scopeRule : Grant → ScopeRule
  | .authorizationCode true .. => .openId
  | .clientCredentials _ => .application
  | _ => .configured

/-- The rule by which a flow asks for scopes. -/
def SignInFlow.scopeRule : SignInFlow → ScopeRule
  | .openId => .openId
  | _ => .configured

/-- Whether the scopes of an application are configured by some texts. -/
def AppConfig.Names (config : AppConfig) (texts : Texts) : Prop :=
  scopeItems texts.toValue = .ok config.scope

theorem AppConfig.names_of_ofSettings {settings : AppSettings} {config : AppConfig} {texts : Texts}
    (h : ofSettings settings = .ok config) (hscope : settings.scope = texts.toValue) :
    config.Names texts := by
  unfold ofSettings at h
  split at h
  next => cases h
  next =>
    obtain ⟨scope, hitems, h⟩ := Failure.of_bind_ok h
    cases h
    rw [hscope] at hitems
    exact hitems

theorem AppConfig.Names.scope_eq {config : AppConfig} {texts : Texts} (h : config.Names texts) :
    config.scope = texts.scopes.map .text := by
  cases texts <;> exact (Except.ok.inj h).symm

theorem SignInFlow.scopes_eq {config : AppConfig} {scopes : List String}
    (h : config.scope = scopes.map .text) (flow : SignInFlow) :
    flow.scopes config = (flow.scopeRule.asked scopes).map .text := by
  cases flow with
  | openId => exact congrArg (Value.text "openid" :: ·) h
  | code | implicit => exact h

namespace ParameterMap

theorem get?_scope_insert (map : ParameterMap) (parameter : Parameter) (value : Value) :
    (map.insert parameter value).get? .scope = map.get? .scope := by
  rw [get?_scope, get?_scope, joinScopes, joinScopes, scopes_insert]

theorem get?_scope_insertText (map : ParameterMap) (parameter : Parameter) (text : String) :
    (map.insertText parameter text).get? .scope = map.get? .scope :=
  map.get?_scope_insert parameter (.text text)

theorem get?_scope_toForm {map : ParameterMap} {optional required : List Parameter}
    {fields : List (String × String)} (h : map.toForm optional required = .ok fields)
    (hasked : .scope ∈ required ++ optional) : Assoc.get? "scope" fields = map.get? .scope :=
  (get?_toForm h .scope).trans (if_pos hasked)

end ParameterMap

namespace Credential

variable {credential : Credential} {fields : Fields} {world : World}

theorem scopes_eq {scopes : List String} (h : credential.config.scope = scopes.map .text) :
    credential.scopes = (credential.grant.scopeRule.asked scopes).map .text := by
  rw [Credential.scopes, h]
  cases credential.grant with
  | authorizationCode openId => cases openId <;> rfl
  | clientCredentials => cases scopes <;> rfl
  | _ => rfl

theorem get?_scope_started (credential : Credential) :
    credential.started.get? .scope = ParameterMap.scopeText? credential.scopes := by
  rw [started, ParameterMap.get?_scope_addScopes _ _ (ParameterMap.scopes_insert _ _ _)]

theorem get?_scope_refreshForm {map : ParameterMap} {token : Value} {proof : List Parameter}
    (h : refreshForm map token proof = .ok fields) :
    Assoc.get? "scope" fields = map.get? .scope := by
  rw [ParameterMap.get?_scope_toForm h (by simp), ParameterMap.get?_scope_insert,
    ParameterMap.get?_scope_insertText]

theorem get?_scope_codeForm {map : ParameterMap} {config : AppConfig} {code verifier : Value}
    {proof : List Parameter} (h : codeForm map config code verifier proof = .ok fields) :
    Assoc.get? "scope" fields = map.get? .scope := by
  rw [ParameterMap.get?_scope_toForm h (by simp), ParameterMap.get?_scope_insert,
    ParameterMap.get?_scope_insert, ParameterMap.get?_scope_insert,
    ParameterMap.get?_scope_insertText]

theorem get?_scope_authorizationCodeForm {code verifier : Value} {proof : ClientProof}
    (h : ((credential.authorizationCodeForm code verifier proof).perform world).1 = .ok fields) :
    Assoc.get? "scope" fields = credential.started.get? .scope := by
  unfold authorizationCodeForm at h
  dsimp only at h
  split at h
  next =>
    obtain ⟨_, reached, _, h⟩ := Action.of_perform_bind_ok h
    obtain ⟨⟨map, required⟩, _, hadded, h⟩ := Action.of_perform_bind_ok h
    rw [Action.perform_ofExcept] at h
    rw [get?_scope_refreshForm h, ClientProof.get?_addToCode hadded (by decide)]
  next =>
    split at h
    next =>
      obtain ⟨_, reached, _, h⟩ := Action.of_perform_bind_ok h
      obtain ⟨⟨map, required⟩, _, hadded, h⟩ := Action.of_perform_bind_ok h
      rw [Action.perform_ofExcept] at h
      rw [get?_scope_codeForm h, ClientProof.get?_addToCode hadded (by decide)]
    next => cases h

/-- The form of an application's own grant has scopes, since it requires them. -/
theorem get?_scope_clientCredentialsForm {proof : Option ClientProof}
    (h : ((credential.clientCredentialsForm proof).perform world).1 = .ok fields) :
    Assoc.get? "scope" fields = credential.started.get? .scope ∧
      (Assoc.get? "scope" fields).isSome = true := by
  cases proof with
  | none => cases h
  | some proof =>
      obtain ⟨⟨map, required⟩, _, hadded, h⟩ := Action.of_perform_bind_ok h
      rw [Action.perform_ofExcept] at h
      have hfield := ParameterMap.get?_scope_toForm h (by simp)
      have hsome := ParameterMap.get?_isSome_of_toForm h (show Parameter.scope ∈ _ by simp)
      refine ⟨?_, by rw [hfield, hsome]⟩
      rw [hfield, ClientProof.get?_addTo hadded (by decide), ParameterMap.get?_scope_insertText]

theorem get?_scope_deviceCodeForm {code : Value} (h : credential.deviceCodeForm code = .ok fields) :
    Assoc.get? "scope" fields = credential.started.get? .scope := by
  unfold deviceCodeForm at h
  dsimp only at h
  split at h
  next =>
    obtain ⟨_, _, h⟩ := Failure.of_bind_ok h
    exact get?_scope_refreshForm h
  next =>
    split at h
    next =>
      obtain ⟨_, _, h⟩ := Failure.of_bind_ok h
      rw [ParameterMap.get?_scope_toForm h (by decide), ParameterMap.get?_scope_insert,
        ParameterMap.get?_scope_insertText]
    next => cases h

theorem get?_scope_onBehalfOfForm {assertion : Value} {proof : ClientProof}
    (h : ((credential.onBehalfOfForm assertion proof).perform world).1 = .ok fields) :
    Assoc.get? "scope" fields = credential.started.get? .scope := by
  obtain ⟨⟨map, required⟩, _, hadded, h⟩ := Action.of_perform_bind_ok h
  dsimp only at h
  split at h
  next =>
    rw [Action.perform_ofExcept] at h
    rw [get?_scope_refreshForm h, ClientProof.get?_addTo hadded (by decide)]
  next =>
    rw [Action.perform_ofExcept] at h
    rw [ParameterMap.get?_scope_toForm h (by simp), ParameterMap.get?_scope_insertText,
      ParameterMap.get?_scope_insert, ParameterMap.get?_scope_insertText,
      ClientProof.get?_addTo hadded (by decide)]

theorem get?_scope_passwordForm {username password : Value}
    (h : credential.passwordForm username password = .ok fields) :
    Assoc.get? "scope" fields = credential.started.get? .scope := by
  unfold passwordForm at h
  split at h
  next => exact get?_scope_refreshForm h
  next =>
    obtain ⟨_, _, h⟩ := Failure.of_bind_ok h
    obtain ⟨_, _, h⟩ := Failure.of_bind_ok h
    rw [ParameterMap.get?_scope_toForm h (by decide), ParameterMap.get?_scope_insert,
      ParameterMap.get?_scope_insert, ParameterMap.get?_scope_insertText]

/-- Whatever a form is for, its scope text is that of the credential's scopes. -/
theorem get?_scope_form (h : (credential.form.perform world).1 = .ok fields) :
    Assoc.get? "scope" fields = ParameterMap.scopeText? credential.scopes := by
  rw [← get?_scope_started]
  unfold form at h
  split at h
  next => cases h
  next => exact get?_scope_authorizationCodeForm h
  next => exact (get?_scope_clientCredentialsForm h).1
  next =>
    rw [Action.perform_ofExcept] at h
    exact get?_scope_deviceCodeForm h
  next => exact get?_scope_onBehalfOfForm h
  next =>
    rw [Action.perform_ofExcept] at h
    exact get?_scope_passwordForm h

theorem get?_scope_form_isSome (hrule : credential.grant.scopeRule = .application)
    (h : (credential.form.perform world).1 = .ok fields) :
    (Assoc.get? "scope" fields).isSome = true := by
  cases hgrant : credential.grant with
  | clientCredentials proof =>
      rw [form, hgrant] at h
      exact (get?_scope_clientCredentialsForm h).2
  | authorizationCode openId =>
      rw [hgrant] at hrule
      cases openId <;> cases hrule
  | _ =>
      rw [hgrant] at hrule
      cases hrule

end Credential

theorem ParameterMap.get?_fieldsOf_append {value? : Parameter → Option String}
    {parameters : List Parameter} {parameter : Parameter} (hmem : parameter ∈ parameters)
    (hsome : (value? parameter).isSome = true) (more : List (String × String)) :
    Assoc.get? parameter.wireName (fieldsOf value? parameters ++ more) = value? parameter := by
  induction parameters with
  | nil => cases hmem
  | cons other rest ih =>
      obtain ⟨value, hvalue⟩ := Option.isSome_iff_exists.mp hsome
      by_cases hne : other = parameter
      · subst hne
        simp [fieldsOf, hvalue, Assoc.get?]
      · have hlater := ih ((List.mem_cons.mp hmem).resolve_left (Ne.symm hne))
        have hname : other.wireName ≠ parameter.wireName := fun h => hne (Parameter.wireName_inj h)
        cases hother : value? other <;>
          simpa [fieldsOf, List.filterMap_cons, hother, Assoc.get?, hname] using hlater

theorem AuthorizationUrl.get?_scope {url : AuthorizationUrl} {options : SignIn} {query : String}
    (hpurpose : url.purpose = .signIn options)
    (h : url.render = .ok (url.endpoint ++ "?" ++ query)) :
    Assoc.get? "scope" (Text.Form.decode true query) =
      ParameterMap.scopeText? (options.flow.scopes url.config) := by
  obtain ⟨carried, htext, hdecode⟩ := render_ok h
  obtain rfl : query = carried := String.append_right_inj _ |>.mp htext
  obtain ⟨_, hquery, -⟩ := Failure.of_map_ok h
  have hmem : Parameter.scope ∈ options.flow.required := by cases options.flow <;> decide
  have hsome := ((query_eq_ok_iff hpurpose).mp hquery).complete .scope
    (List.mem_append_left _ hmem)
  have hvalue : url.value? .scope = ParameterMap.scopeText? (options.flow.scopes url.config) := by
    rw [value?, hpurpose]
    rfl
  rw [hdecode, fields, ← hvalue]
  refine @ParameterMap.get?_fieldsOf_append _ _ .scope ?_ ?_ _
  · rw [required, hpurpose]
    exact List.mem_append_left _ hmem
  · rw [hvalue]
    exact hsome

namespace ScopeRule

/-- What is sent as the scope text by a rule: in the form of a credential, in the form that asks
for a device code, and in a sign-in URL. -/
inductive Sends : ScopeRule → AppConfig → Option String → Prop where
  | form {credential : Credential} {world : World} {fields : Credential.Fields}
      (h : (credential.form.perform world).1 = .ok fields) :
      Sends credential.grant.scopeRule credential.config (Assoc.get? "scope" fields)
  | deviceCode {credential : Credential} {held : Value} {fields : Credential.Fields}
      (hgrant : credential.grant = .deviceCode held)
      (h : credential.started.toForm [] [.clientId, .scope] = .ok fields) :
      Sends .configured credential.config (Assoc.get? "scope" fields)
  | signIn {url : AuthorizationUrl} {options : SignIn} {query : String}
      (hpurpose : url.purpose = .signIn options)
      (h : url.render = .ok (url.endpoint ++ "?" ++ query)) :
      Sends options.flow.scopeRule url.config
        (Assoc.get? "scope" (Text.Form.decode true query))

variable {rule : ScopeRule} {scopes : List String} {config : AppConfig} {texts : Texts}
  {sent? : Option String}

theorem Sends.eq_scopeText? (h : rule.Sends config sent?) (hconfig : config.Names texts) :
    sent? = ParameterMap.scopeText? ((rule.asked texts.scopes).map .text) := by
  cases h with
  | form hform =>
      rw [Credential.get?_scope_form hform, Credential.scopes_eq hconfig.scope_eq]
  | deviceCode hgrant hform =>
      rw [ParameterMap.get?_scope_toForm hform (by decide), Credential.get?_scope_started,
        Credential.scopes_eq hconfig.scope_eq, hgrant]
      rfl
  | signIn hpurpose hrender =>
      rw [AuthorizationUrl.get?_scope hpurpose hrender, SignInFlow.scopes_eq hconfig.scope_eq]

theorem Sends.isSome_of_application (h : rule.Sends config sent?) (hrule : rule = .application) :
    sent?.isSome = true := by
  cases h with
  | form hform => exact Credential.get?_scope_form_isSome hrule hform
  | deviceCode => cases hrule
  | @signIn _ options =>
      cases hflow : options.flow <;> rw [hflow] at hrule <;> cases hrule

theorem length_wordsOf_asked_le (h : ∀ scope ∈ scopes, (Text.wordsOf scope).length ≤ 1) :
    ∀ scope ∈ rule.asked scopes, (Text.wordsOf scope).length ≤ 1 := by
  cases rule with
  | configured => exact h
  | openId => exact List.forall_mem_cons.mpr ⟨by decide, h⟩
  | application =>
      rw [asked]
      split
      next => exact List.forall_mem_singleton.mpr (by decide)
      next => exact h

theorem Sends.flatMap_wordsOf_asked (h : rule.Sends config sent?) (hconfig : config.Names texts) :
    (rule.asked texts.scopes).flatMap Text.wordsOf = rule.asked texts.words := by
  rw [← texts.flatMap_scopes]
  refine flatMap_asked _ (by decide) (by decide) fun hrule => ?_
  exact ParameterMap.flatMap_wordsOf_ne_nil
    (h.eq_scopeText? hconfig ▸ h.isSome_of_application hrule)

theorem Sends.scopeTexts_asked (h : rule.Sends config sent?) (hconfig : config.Names texts) :
    ParameterMap.scopeTexts (rule.asked texts.scopes) =
      rule.asked (ParameterMap.scopeTexts texts.scopes) := by
  simp only [ParameterMap.scopeTexts, List.filterMap_eq_flatMap_toList]
  refine flatMap_asked _ (by decide) (by decide) fun hrule => ?_
  rw [← List.filterMap_eq_flatMap_toList]
  exact ParameterMap.scopeTexts_ne_nil
    (h.eq_scopeText? hconfig ▸ h.isSome_of_application hrule)

/-- What can be said of a scope text from the scopes that are configured. -/
structure IsCanonical (rule : ScopeRule) (texts : Texts) (sent? : Option String) : Prop where
  mem_words_iff : ∀ word, word ∈ wordsOf? sent? ↔ word ∈ rule.asked texts.words
  pairwise_words : texts.IsPlain → (wordsOf? sent?).Pairwise (· < ·)
  /-- The order of the scopes, their blank ends and repetitions do not matter. -/
  eq_of_same_scopes : ∀ {other others other?}, AppConfig.Names other others →
    rule.Sends other other? →
    (∀ text, text ∈ ParameterMap.scopeTexts texts.scopes ↔
      text ∈ ParameterMap.scopeTexts others.scopes) → other? = sent?
  eq_of_same_words : ∀ {other others other?}, AppConfig.Names other others →
    rule.Sends other other? → texts.IsPlain → others.IsPlain →
    (∀ word, word ∈ texts.words ↔ word ∈ others.words) → other? = sent?

/-- What is sent has the words of the configured scopes, and depends on them alone where no scope
has more than one. -/
theorem sent_scope_isCanonical (hconfig : config.Names texts) (h : rule.Sends config sent?) :
    rule.IsCanonical texts sent? := by
  have hsent := h.eq_scopeText? hconfig
  constructor
  · intro word
    rw [hsent, ParameterMap.mem_wordsOf?_scopeText?, h.flatMap_wordsOf_asked hconfig]
  · intro hplain
    rw [hsent]
    exact ParameterMap.pairwise_wordsOf?_scopeText?
      (length_wordsOf_asked_le fun _ => hplain.length_le)
  · intro other others other? hother hsends hsame
    rw [hsent, hsends.eq_scopeText? hother]
    apply ParameterMap.scopeText?_congr
    rw [h.scopeTexts_asked hconfig, hsends.scopeTexts_asked hother]
    exact fun text => (rule.mem_asked_congr hsame text).symm
  · intro other others other? hother hsends hplain hplains hsame
    rw [hsent, hsends.eq_scopeText? hother]
    apply ParameterMap.scopeText?_congr
    rw [ParameterMap.scopeTexts_of_plain (length_wordsOf_asked_le fun _ => hplain.length_le),
      ParameterMap.scopeTexts_of_plain (length_wordsOf_asked_le fun _ => hplains.length_le),
      h.flatMap_wordsOf_asked hconfig, hsends.flatMap_wordsOf_asked hother]
    exact fun word => (rule.mem_asked_congr hsame word).symm

end ScopeRule

/-- The settings of an application that is configured with some scopes. -/
def Texts.trialSettings (texts : Texts) : AppSettings where
  clientId := .text "client"
  tenant := .text "contoso"
  scope := texts.toValue

/-- A trial of that application. -/
def Texts.trial (texts : Texts) (grant : Grant) : Credential where
  config := { Context.trialConfig with scope := texts.scopes.map .text }
  client := .standard
  grant := grant

/-- A grant that asks for the scopes as they are configured. -/
def Texts.trialGrant : Grant := .password (.text "user") (.text "word")

/-- Scopes out of order with a repetition, and the same ones as the words of a text. -/
def Texts.trialScopes : Texts := .several ["b", "a ", "b"]

def Texts.trialWords : Texts := .one "a\tb"

theorem Texts.trialScopes_same_words (word : String) :
    word ∈ trialScopes.words ↔ word ∈ trialWords.words := by
  have hscopes : trialScopes.words = ["b", "a", "b"] := by decide
  have hwords : trialWords.words = ["a", "b"] := by decide
  rw [hscopes, hwords]
  grind

theorem ScopeRule.trialScopes_are_sent_as_trialWords :
    ∃ fields others,
      ((Texts.trialScopes.trial Texts.trialGrant).form.perform Context.rotationTrial.world).1 =
        .ok fields ∧
      ((Texts.trialWords.trial Texts.trialGrant).form.perform Context.rotationTrial.world).1 =
        .ok others ∧
      (wordsOf? (Assoc.get? "scope" fields)).Pairwise (· < ·) ∧
      Assoc.get? "scope" others = Assoc.get? "scope" fields := by
  have hnames : (Texts.trialScopes.trial Texts.trialGrant).config.Names Texts.trialScopes :=
    AppConfig.names_of_ofSettings (show AppConfig.ofSettings Texts.trialScopes.trialSettings =
      .ok (Texts.trialScopes.trial Texts.trialGrant).config from rfl) rfl
  have hothers : (Texts.trialWords.trial Texts.trialGrant).config.Names Texts.trialWords :=
    AppConfig.names_of_ofSettings (show AppConfig.ofSettings Texts.trialWords.trialSettings =
      .ok (Texts.trialWords.trial Texts.trialGrant).config from rfl) rfl
  obtain ⟨fields, hfields⟩ : ∃ fields,
      ((Texts.trialScopes.trial Texts.trialGrant).form.perform Context.rotationTrial.world).1 =
        .ok fields := ⟨_, rfl⟩
  obtain ⟨others, hform⟩ : ∃ fields,
      ((Texts.trialWords.trial Texts.trialGrant).form.perform Context.rotationTrial.world).1 =
        .ok fields := ⟨_, rfl⟩
  have hsends : configured.Sends (Texts.trialWords.trial Texts.trialGrant).config
      (Assoc.get? "scope" others) := .form hform
  have hcanonical := sent_scope_isCanonical hnames (.form hfields)
  have hplain : Texts.trialScopes.IsPlain := by decide
  exact ⟨fields, others, hfields, hform, hcanonical.pairwise_words hplain,
    hcanonical.eq_of_same_words hothers hsends hplain trivial Texts.trialScopes_same_words⟩

/-- Scopes with several words are sent as they are grouped, and an application that names no scopes
asks for one all the same. -/
theorem ScopeRule.grouped_scopes_are_repeated :
    (∃ texts fields, texts = Texts.several ["b a", "a"] ∧
      AppConfig.ofSettings texts.trialSettings = .ok (texts.trial Texts.trialGrant).config ∧
      ((texts.trial Texts.trialGrant).form.perform Context.rotationTrial.world).1 = .ok fields ∧
      Assoc.get? "scope" fields = some "a b a" ∧
      ¬(Text.wordsOf "a b a").Pairwise (· < ·)) ∧
    (∃ texts fields, texts = Texts.several [] ∧
      AppConfig.ofSettings texts.trialSettings = .ok (texts.trial Context.trialGrant).config ∧
      ((texts.trial Context.trialGrant).form.perform Context.rotationTrial.world).1 = .ok fields ∧
      wordsOf? (Assoc.get? "scope" fields) = [Credential.defaultScope]) := by
  refine ⟨⟨_, _, rfl, rfl, rfl, ?_, ?_⟩, ⟨_, _, rfl, rfl, rfl, ?_⟩⟩
  · decide
  · decide
  · decide

end OAuthClient
