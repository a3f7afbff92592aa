import OAuthClient.Proofs.FormEncoding
import OAuthClient.Proofs.GrantForms

/-! # Tokens read and written

An object of the token endpoint becomes a token member by member. The object
that a token is written as holds its parts under their names again, so it is
read as the same token, and whatever else the first object held is still there.
-/

namespace OAuthClient

namespace Text

theorem words_intercalate {texts : List (List Char)} (hne : ∀ word ∈ texts, word ≠ [])
    (hsolid : ∀ word ∈ texts, ∀ c ∈ word, isBlank c = false) :
    words ([' '].intercalate texts) = texts := by
  cases texts with
  | nil => rfl
  | cons first rest =>
      rw [words, splitOn_intercalate (List.cons_ne_nil _ _) rfl, flatMap_splitOn_of_not_cut hsolid]
      apply List.filter_eq_self.mpr
      intro word hword
      simpa using hne word hword

/-- Words that are joined by spaces are found again. -/
theorem wordsOf_intercalate (text : String) :
    wordsOf (String.intercalate " " (wordsOf text)) = wordsOf text := by
  have hwords : ((words text.toList).map String.ofList).map String.toList = words text.toList := by
    simp
  rw [wordsOf, wordsOf, String.toList_intercalate, hwords]
  apply congrArg
  apply words_intercalate
  · intro word hword
    exact ne_nil_of_mem_words hword
  · intro word hword
    exact not_isBlank_of_mem_words hword

end Text

namespace Value

variable {members : Members} {names : List String}

theorem get?_without (names : List String) (members : Members) (name : String) :
    Assoc.get? name (without names members) =
      if name ∈ names then none else Assoc.get? name members := by
  have hfilter := Assoc.get?_filter_keys (fun key => !names.contains key) members name
  simpa [without] using hfilter

theorem without_append_of_subset {more : Members} (h : ∀ pair ∈ more, pair.1 ∈ names) :
    without names (without names members ++ more) = without names members := by
  simp only [without, List.filter_append, List.filter_filter, Bool.and_self]
  have hmore : more.filter (fun pair => !names.contains pair.1) = [] := by
    apply List.filter_eq_nil_iff.mpr
    intro pair hpair
    simpa using h pair hpair
  rw [hmore, List.append_nil]

theorem isNull_of_isPresent {value : Value} (h : value.isPresent = true) :
    value.isNull = false := by
  cases value with
  | null => cases h
  | _ => rfl

theorem isPresent_orElse {value other : Value} (h : other.isPresent = true) :
    (value.orElse other).isPresent = true := by
  rw [orElse]
  split
  next hvalue => exact hvalue
  next => exact h

theorem orElse_of_isPresent {value other : Value} (h : value.isPresent = true) :
    value.orElse other = value := if_pos h

/-- Members that are null can be left out. -/
theorem member_filter_not_isNull {pairs : Members} (hnodup : (pairs.map Prod.fst).Nodup)
    (name : String) :
    member (pairs.filter fun (_, value) => !value.isNull) name = member pairs name := by
  induction pairs with
  | nil => rfl
  | cons pair rest ih =>
      obtain ⟨key, value⟩ := pair
      rw [List.map_cons, List.nodup_cons] at hnodup
      have hrest := ih hnodup.2
      simp only [member] at hrest ⊢
      by_cases hkey : key = name
      · subst hkey
        rw [Assoc.get?, if_pos rfl, List.filter_cons]
        split
        next => rw [Assoc.get?, if_pos rfl]
        next hnull =>
          rw [hrest, Assoc.get?_of_not_mem hnodup.1]
          cases value <;> simp_all [isNull]
      · rw [Assoc.get?, if_neg hkey, ← hrest, List.filter_cons]
        split
        · rw [Assoc.get?, if_neg hkey]
        · rfl

end Value

namespace Token

variable {members written : Members} {logPii : Bool} {clock : Number} {token : Token}

/-! ### Reading -/

/-- The token that members make, once what they say is known. -/
def ofReading (members : Members) (logPii : Bool) (lifetime : Int) (extended : Option Int)
    (scopes : List Value) (received expiresOn : Instant) : Token where
  accessToken := Value.member members "access_token"
  tokenType := (Value.member members "token_type").orElse (.text "Bearer")
  expiresIn := .int lifetime
  extExpiresIn := (extended.map Value.int).getD .null
  scope := .list scopes
  refreshToken := Value.member members "refresh_token"
  idToken := Value.member members "id_token"
  state := Value.member members "state"
  correlationId := Value.member members "correlation_id"
  clientInfo := Value.member members "client_info"
  timestamp := received
  expiresOn := expiresOn
  additional := Value.without knownNames members
  logPii := logPii

theorem ofResponse_object_of_present
    (hpresent : (Value.member members "access_token").isPresent = true) :
    ofResponse (.object members) logPii clock = (do
      let lifetime := (← secondsOf (Value.member members "expires_in")).getD defaultLifetime
      let extended ← secondsOf (Value.member members "ext_expires_in")
      let scopes ← scopesOf (Value.member members "scope")
      let received ← Instant.ofSeconds clock
      let expiresOn ← received.plus (.whole lifetime)
      pure (ofReading members logPii lifetime extended scopes received expiresOn)) := by
  change (if (Value.member members "access_token").isPresent = true then _ else _) = _
  rw [if_pos hpresent]
  rfl

/-- What an object has to say to make a token, and which one it makes. -/
theorem ofResponse_object_eq_ok_iff :
    ofResponse (.object members) logPii clock = .ok token ↔
      (Value.member members "access_token").isPresent = true ∧
      ∃ seconds extended scopes received expiresOn,
        secondsOf (Value.member members "expires_in") = .ok seconds ∧
        secondsOf (Value.member members "ext_expires_in") = .ok extended ∧
        scopesOf (Value.member members "scope") = .ok scopes ∧
        Instant.ofSeconds clock = .ok received ∧
        received.plus (.whole (seconds.getD defaultLifetime)) = .ok expiresOn ∧
        token = ofReading members logPii (seconds.getD defaultLifetime) extended scopes received
          expiresOn := by
  cases hpresent : (Value.member members "access_token").isPresent with
  | false =>
      refine iff_of_false ?_ (fun h => Bool.noConfusion h.1)
      intro h
      change (if (Value.member members "access_token").isPresent = true then _ else _) = _ at h
      rw [hpresent] at h
      cases h
  | true =>
      rw [ofResponse_object_of_present hpresent]
      constructor
      · intro h
        obtain ⟨seconds, hseconds, h⟩ := Failure.of_bind_ok h
        obtain ⟨extended, hextended, h⟩ := Failure.of_bind_ok h
        obtain ⟨scopes, hscopes, h⟩ := Failure.of_bind_ok h
        obtain ⟨received, hreceived, h⟩ := Failure.of_bind_ok h
        obtain ⟨expiresOn, hexpiresOn, h⟩ := Failure.of_bind_ok h
        exact ⟨rfl, seconds, extended, scopes, received, expiresOn, hseconds, hextended, hscopes,
          hreceived, hexpiresOn, (Except.ok.inj h).symm⟩
      · rintro ⟨-, seconds, extended, scopes, received, expiresOn, hseconds, hextended, hscopes,
          hreceived, hexpiresOn, rfl⟩
        simp only [hseconds, hextended, hscopes, hreceived, hexpiresOn, bind, Except.bind, pure,
          Except.pure]

/-! ### Writing -/

/-- The parts of a token under their names, those that are null included. -/
def parts (token : Token) (scope : String) : Members :=
  [("access_token", token.accessToken), ("token_type", token.tokenType),
    ("expires_in", token.expiresIn), ("scope", .text scope)] ++ token.optionalMembers

/-- The parts of a token that are written. -/
def writtenParts (token : Token) (scope : String) : Members :=
  (token.parts scope).filter fun (_, value) => !value.isNull

theorem keys_parts (token : Token) (scope : String) :
    (token.parts scope).map Prod.fst =
      ["access_token", "token_type", "expires_in", "scope", "ext_expires_in", "refresh_token",
        "id_token", "state", "correlation_id", "client_info"] := rfl

theorem nodup_keys_writtenParts (token : Token) (scope : String) :
    ((token.writtenParts scope).map Prod.fst).Nodup := by
  apply (List.filter_sublist.map Prod.fst).nodup
  rw [keys_parts]
  decide

theorem mem_knownNames_of_mem_writtenParts {scope : String} {pair : String × Value}
    (h : pair ∈ token.writtenParts scope) : pair.1 ∈ knownNames := by
  have hkeys : (token.parts scope).map Prod.fst ⊆ knownNames := by
    rw [keys_parts]
    decide
  exact hkeys (List.mem_map_of_mem (List.mem_filter.mp h).1)

theorem get?_writtenParts_of_not_mem {scope name : String} (h : name ∉ knownNames) :
    Assoc.get? name (token.writtenParts scope) = none := by
  apply Assoc.get?_of_not_mem
  intro hmem
  obtain ⟨pair, hpair, rfl⟩ := List.mem_map.mp hmem
  exact h (mem_knownNames_of_mem_writtenParts hpair)

/-- The written parts stand behind the members that a token keeps aside. -/
theorem update_writtenParts (members : Members) (token : Token) (scope : String) :
    Assoc.update (Value.without knownNames members) (token.writtenParts scope) =
      Value.without knownNames members ++ token.writtenParts scope := by
  apply Assoc.update_of_new _ (token.nodup_keys_writtenParts scope)
  intro pair hpair hmem
  obtain ⟨kept, hkept, hkey⟩ := List.mem_map.mp hmem
  have hknown := mem_knownNames_of_mem_writtenParts hpair
  rw [← hkey] at hknown
  simp [Value.without, hknown] at hkept

theorem member_written {scope name : String} (hname : name ∈ knownNames) :
    Value.member (Value.without knownNames members ++ token.writtenParts scope) name =
      Value.member (token.parts scope) name := by
  have hparts : Value.member (token.writtenParts scope) name =
      Value.member (token.parts scope) name := by
    apply Value.member_filter_not_isNull
    rw [keys_parts]
    decide
  rw [← hparts, Value.member, Value.member, ← update_writtenParts,
    Assoc.get?_update _ (token.nodup_keys_writtenParts scope), Value.get?_without, if_pos hname,
    Option.or_none]

theorem get?_written_of_not_mem {scope name : String} (hname : name ∉ knownNames) :
    Assoc.get? name (Value.without knownNames members ++ token.writtenParts scope) =
      Assoc.get? name members := by
  rw [← update_writtenParts, Assoc.get?_update _ (token.nodup_keys_writtenParts scope),
    get?_writtenParts_of_not_mem hname, Value.get?_without, if_neg hname, Option.none_or]

/-- The scopes of a text are its words, and of nothing there are none. -/
theorem scopesOf_of_isTextOrNull {value : Value} (h : value.IsTextOrNull) :
    ∃ text, scopesOf value = .ok ((Text.wordsOf text).map .text) := by
  rcases h with rfl | ⟨text, rfl⟩
  · exact ⟨"", rfl⟩
  · exact ⟨text, rfl⟩

theorem secondsOf_int (seconds : Int) : secondsOf (.int seconds) = .ok (some seconds) := rfl

theorem secondsOf_extended (extended : Option Int) :
    secondsOf ((extended.map Value.int).getD .null) = .ok extended := by
  cases extended <;> rfl

variable {lifetime : Int} {extended : Option Int} {received expiresOn : Instant} {scope : String}

/-- A token whose scopes are words is written with these words joined. -/
theorem toMembers_ofReading (hpresent : (Value.member members "access_token").isPresent = true)
    (text : String) :
    let token := ofReading members logPii lifetime extended ((Text.wordsOf text).map .text)
      received expiresOn
    token.toMembers = .ok (Value.without knownNames members ++
      token.writtenParts (String.intercalate " " (Text.wordsOf text))) := by
  intro token
  have hscope : token.scopeText = .ok (String.intercalate " " (Text.wordsOf text)) := by
    change Value.joinTexts " " _ = _
    rw [Value.joinTexts, Value.toTexts_map_text]
    rfl
  have haccess : token.accessToken.isNull = false := Value.isNull_of_isPresent hpresent
  have htype : token.tokenType.isNull = false := by
    apply Value.isNull_of_isPresent
    apply Value.isPresent_orElse
    rfl
  have hparts : token.writtenParts (String.intercalate " " (Text.wordsOf text)) =
      [("access_token", token.accessToken), ("token_type", token.tokenType),
        ("expires_in", token.expiresIn),
        ("scope", .text (String.intercalate " " (Text.wordsOf text)))] ++
      token.optionalMembers.filter fun (_, value) => !value.isNull := by
    rw [writtenParts, parts, List.filter_append]
    congr 1
    have hlifetime : token.expiresIn.isNull = false := rfl
    have htext : (Value.text (String.intercalate " " (Text.wordsOf text))).isNull = false := rfl
    simp only [List.filter_cons, haccess, htype, hlifetime, htext, Bool.not_false, if_true,
      List.filter_nil]
  rw [toMembers, hscope, ← update_writtenParts, hparts]
  rfl

/-- What a token is written as holds every member that the token was read from. -/
theorem ofReading_written (text : String) :
    let token := ofReading members logPii lifetime extended ((Text.wordsOf text).map .text)
      received expiresOn
    ofReading (Value.without knownNames members ++ token.writtenParts scope) logPii lifetime
      extended ((Text.wordsOf text).map .text) received expiresOn = token := by
  intro token
  have hrest : Value.without knownNames
      (Value.without knownNames members ++ token.writtenParts scope) =
        Value.without knownNames members := by
    apply Value.without_append_of_subset
    intro pair hpair
    exact mem_knownNames_of_mem_writtenParts hpair
  have hmember (name : String) (hname : name ∈ knownNames) :
      Value.member (Value.without knownNames members ++ token.writtenParts scope) name =
        Value.member (token.parts scope) name := member_written hname
  -- A type that is written is present, so the usual one does not replace it again.
  have htype : token.tokenType.orElse (.text "Bearer") = token.tokenType :=
    Value.orElse_of_isPresent (Value.isPresent_orElse rfl)
  rw [ofReading, hrest, hmember _ (by decide), hmember _ (by decide), hmember _ (by decide),
    hmember _ (by decide), hmember _ (by decide), hmember _ (by decide), hmember _ (by decide)]
  change { token with tokenType := token.tokenType.orElse (.text "Bearer") } = token
  rw [htype]

/-! ### A written token reads back -/

/-- An object with a text or nothing for its scope that makes a token: the object that this token is
written as makes the same token at the same time, and it holds each member that is no part of a
token as the first object does. -/
theorem written_token_reads_back (hscope : (Value.member members "scope").IsTextOrNull)
    (h : ofResponse (.object members) logPii clock = .ok token) :
    ∃ written, token.toMembers = .ok written ∧
      ofResponse (.object written) logPii clock = .ok token ∧
      ∀ name, name ∉ knownNames → Assoc.get? name written = Assoc.get? name members := by
  obtain ⟨hpresent, seconds, extended, scopes, received, expiresOn, -, -, hscopes, hreceived,
    hexpiresOn, rfl⟩ := ofResponse_object_eq_ok_iff.mp h
  -- The scopes are the words of a text, so nothing is lost when they are joined.
  obtain ⟨text, htext⟩ := scopesOf_of_isTextOrNull hscope
  obtain rfl : (Text.wordsOf text).map Value.text = scopes := by
    rw [htext] at hscopes
    exact Except.ok.inj hscopes
  refine ⟨_, toMembers_ofReading hpresent text, ?_, fun _ => get?_written_of_not_mem⟩
  apply ofResponse_object_eq_ok_iff.mpr
  refine ⟨?_, some (seconds.getD defaultLifetime), extended, (Text.wordsOf text).map Value.text,
    received, expiresOn, ?lifetime, ?extended, ?scope, hreceived, hexpiresOn,
    (ofReading_written text).symm⟩
  · rw [member_written (by decide)]
    exact hpresent
  case lifetime =>
    rw [member_written (by decide)]
    exact secondsOf_int _
  case extended =>
    rw [member_written (by decide)]
    exact secondsOf_extended extended
  case scope =>
    rw [member_written (by decide)]
    change Except.ok
      ((Text.wordsOf (String.intercalate " " (Text.wordsOf text))).map Value.text) = _
    rw [Text.wordsOf_intercalate]

/-- Blanks between the scopes, a lifetime in digits, an empty type and a null beside an empty text
are each written in another way than they were read. -/
theorem spaced_answer_reads_back :
    let members : Members := [("access_token", .text "t"), ("token_type", .text ""),
      ("expires_in", .text " 6_0 "), ("ext_expires_in", .bool true), ("scope", .text " a  b"),
      ("refresh_token", .null), ("id_token", .text ""), ("foci", .null)]
    ∃ token written, ofResponse (.object members) false (.whole 0) = .ok token ∧
      token.toMembers = .ok written ∧
      ofResponse (.object written) false (.whole 0) = .ok token ∧
      Assoc.get? "foci" written = some .null := by
  intro members
  obtain ⟨token, htoken⟩ : ∃ token, ofResponse (.object members) false (.whole 0) = .ok token :=
    ⟨_, rfl⟩
  obtain ⟨written, hwritten, hread, hkept⟩ :=
    written_token_reads_back (.inr ⟨" a  b", rfl⟩) htoken
  exact ⟨token, written, htoken, hwritten, hread, hkept "foci" (by decide)⟩

end Token

end OAuthClient
