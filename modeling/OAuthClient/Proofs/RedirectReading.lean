import OAuthClient.Identity.IdToken
import OAuthClient.Proofs.StateRoundTrip

/-! # Redirects that are read

Named values that a redirect carries in form encoding are read alike from its
query, from its fragment and from the values themselves, and an ID token that
is read from the form has the same parts. An address whose host holds a
character that is equivalent to a delimiter is refused, whatever it carries.
-/

namespace OAuthClient

namespace Text.Url

/-! ### Addresses -/

/-- Whether a text can be the scheme of a URL. -/
def isScheme : List Char → Bool
  | [] => false
  | first :: rest => isAsciiLetter first && rest.all isSchemeChar

/-- Whether a character ends no path and is not ignored. -/
def isPathChar (c : Char) : Bool := c != '?' && c != '#' && !isIgnored c

/-- Whether a character ends no host, is no bracket and is not ignored. -/
def isHostChar (c : Char) : Bool := isPathChar c && c != '/' && c != '[' && c != ']'

/-- An address with a scheme, a host and a path, in which nothing is carried. -/
structure Address where
  scheme : String
  host : String
  path : String
  isScheme_scheme : isScheme scheme.toList = true
  host_plain : host.toList.all isHostChar = true
  path_plain : path.toList.all isPathChar = true

theorem isPathChar_iff {c : Char} :
    isPathChar c = true ↔ (c ≠ '?' ∧ c ≠ '#') ∧ isIgnored c = false := by
  simp [isPathChar]

theorem isHostChar_iff {c : Char} :
    isHostChar c = true ↔ isPathChar c = true ∧ c ≠ '/' ∧ c ≠ '[' ∧ c ≠ ']' := by
  simp [isHostChar, and_assoc]

/-- The characters that a path does not have. -/
def outsidePaths : List Char := ['?', '#', '\t', '\r', '\n']

theorem mem_outsidePaths {c : Char} (h : isPathChar c = false) : c ∈ outsidePaths := by
  simp only [isPathChar, isIgnored, Bool.and_eq_false_iff, bne_eq_false_iff_eq,
    Bool.not_eq_false', Bool.or_eq_true, beq_iff_eq] at h
  simpa [outsidePaths, or_assoc] using h

theorem isPathChar_of_all {kind : Char → Bool} {c : Char}
    (hkind : outsidePaths.all (fun c => !kind c) = true) (h : kind c = true) :
    isPathChar c = true := by
  cases hpath : isPathChar c with
  | true => rfl
  | false =>
      have hother := List.all_eq_true.mp hkind c (mem_outsidePaths hpath)
      rw [h] at hother
      cases hother

theorem isSchemeChar_of_isAsciiLetter {c : Char} (h : isAsciiLetter c = true) :
    isSchemeChar c = true := by
  unfold isAsciiLetter at h
  simp [isSchemeChar, h]

theorem isSchemeChar_of_mem {scheme : List Char} (h : isScheme scheme = true) :
    ∀ c ∈ scheme, isSchemeChar c = true := by
  cases scheme with
  | nil => cases h
  | cons first rest =>
      rw [isScheme, Bool.and_eq_true, List.all_eq_true] at h
      rw [List.forall_mem_cons]
      exact ⟨isSchemeChar_of_isAsciiLetter h.1, h.2⟩

theorem not_blank_of_isAsciiLetter {c : Char} (h : isAsciiLetter c = true) :
    decide (c.toNat ≤ 0x20) = false := by
  simp only [isAsciiLetter, Bool.or_eq_true, Bool.and_eq_true, decide_eq_true_eq, Char.le_def,
    UInt32.le_iff_toNat_le] at h
  rw [decide_eq_false_iff_not, Nat.not_le]
  rcases h with ⟨ha, -⟩ | ⟨ha, -⟩
  · exact Nat.lt_of_lt_of_le (by decide) ha
  · exact Nat.lt_of_lt_of_le (by decide) ha

theorem afterScheme_of_isScheme {scheme : List Char} (hscheme : isScheme scheme = true)
    (rest : List Char) : afterScheme (scheme ++ ':' :: rest) = rest := by
  have hcut : cutFirst (· == ':') (scheme ++ ':' :: rest) = some (scheme, rest) := by
    apply cutFirst_append_cons _ rfl
    intro c hc
    rw [beq_eq_false_iff_ne]
    rintro rfl
    exact absurd (isSchemeChar_of_mem hscheme _ hc) (by decide)
  rw [afterScheme, hcut]
  cases scheme with
  | nil => cases hscheme
  | cons first more =>
      rw [isScheme] at hscheme
      dsimp only
      rw [if_pos hscheme]

theorem cutAuthority_of_isHostChar {host : List Char} (hhost : ∀ c ∈ host, isHostChar c = true)
    (rest : List Char) :
    cutAuthority ('/' :: '/' :: (host ++ '/' :: rest)) = (host, '/' :: rest) := by
  have hinside : ∀ c ∈ host, (c != '/' && c != '?' && c != '#') = true := by
    intro c hc
    have hchar := isHostChar_iff.mp (hhost c hc)
    simp [hchar.2.1, (isPathChar_iff.mp hchar.1).1]
  rw [cutAuthority_slashes, List.takeWhile_append_of_pos hinside,
    List.dropWhile_append_of_pos hinside, List.takeWhile_cons, List.dropWhile_cons,
    if_neg (by decide), if_neg (by decide), List.append_nil]

namespace Address

variable (address : Address)

/-- The address as it is written. -/
def text : String := address.scheme ++ "://" ++ address.host ++ "/" ++ address.path

/-- Whether no character of the host is equivalent to a delimiter. -/
def IsReadable : Prop :=
  address.host.toList.all (fun c => !delimiterEquivalents.contains c.toNat) = true

instance : Decidable address.IsReadable := by
  unfold IsReadable
  infer_instance

theorem isHostChar_of_mem {c : Char} (h : c ∈ address.host.toList) : isHostChar c = true :=
  List.all_eq_true.mp address.host_plain c h

theorem toList_text :
    address.text.toList = address.scheme.toList ++
      ':' :: '/' :: '/' :: (address.host.toList ++ '/' :: address.path.toList) := by
  simp [text]

theorem isPathChar_of_mem_text {c : Char} (h : c ∈ address.text.toList) :
    isPathChar c = true := by
  rw [toList_text] at h
  simp only [List.mem_append, List.mem_cons] at h
  rcases h with h | rfl | rfl | rfl | h | rfl | h
  · exact isPathChar_of_all rfl (isSchemeChar_of_mem address.isScheme_scheme c h)
  · rfl
  · rfl
  · rfl
  · exact (isHostChar_iff.mp (address.isHostChar_of_mem h)).1
  · rfl
  · exact List.all_eq_true.mp address.path_plain c h

theorem significant_text : significant address.text.toList = address.text.toList := by
  have hstart : address.text.toList.dropWhile (fun c => decide (c.toNat ≤ 0x20)) =
      address.text.toList := by
    have hscheme := address.isScheme_scheme
    rw [toList_text]
    cases hlist : address.scheme.toList with
    | nil =>
        rw [hlist] at hscheme
        cases hscheme
    | cons first rest =>
        rw [hlist, isScheme, Bool.and_eq_true] at hscheme
        rw [List.cons_append, List.dropWhile_cons, not_blank_of_isAsciiLetter hscheme.1]
        rfl
  rw [significant, hstart]
  apply List.filter_eq_self.mpr
  intro c hc
  have hkept := (isPathChar_iff.mp (address.isPathChar_of_mem_text hc)).2
  simpa [isIgnored, and_assoc] using hkept

theorem afterScheme_text :
    afterScheme address.text.toList =
      '/' :: '/' :: (address.host.toList ++ '/' :: address.path.toList) := by
  rw [toList_text, afterScheme_of_isScheme address.isScheme_scheme]

theorem authorityOf_text : authorityOf address.text.toList = address.host.toList := by
  rw [authorityOf, significant_text, afterScheme_text,
    cutAuthority_of_isHostChar fun c => address.isHostChar_of_mem]

theorem isSome_split?_text_iff : (split? address.text.toList).isSome ↔ address.IsReadable := by
  have hopening : address.host.toList.contains '[' = false := by
    rw [List.contains_eq_mem, decide_eq_false_iff_not]
    intro h
    exact (isHostChar_iff.mp (address.isHostChar_of_mem h)).2.2.1 rfl
  have hclosing : address.host.toList.contains ']' = false := by
    rw [List.contains_eq_mem, decide_eq_false_iff_not]
    intro h
    exact (isHostChar_iff.mp (address.isHostChar_of_mem h)).2.2.2 rfl
  rw [isSome_split?_iff, authorityOf_text, isSoundAuthority, hasSoundBrackets, hopening, hclosing,
    Bool.true_and, IsReadable]

end Address

end Text.Url

namespace Text.Form

/-- An encoded list has no mark of a URL in it and nothing that is ignored in one. -/
theorem isPathChar_of_mem_encode {pairs : List (String × String)} {c : Char}
    (h : c ∈ (encode pairs).toList) : Url.isPathChar c = true :=
  Url.isPathChar_of_all rfl (isFormChar_of_mem_encode h)

end Text.Form

open Text.Url (Address)

namespace Redirect

variable {logPii : Bool}

/-- The named values that are not empty; the last one of a repeated name counts. -/
def filled (pairs : List (String × String)) : Members :=
  Assoc.ofPairs ((pairs.filter fun pair => pair.2 != "").map fun pair => (pair.1, .text pair.2))

theorem valuesOf_encode (pairs : List (String × String)) :
    valuesOf (Text.Form.encode pairs) = filled pairs := by
  rw [valuesOf, Text.Form.decode_encode_eq_filter]
  rfl

/-- What is said of a URL that carries nothing. -/
def emptyUrl : Failure := .authorization "url" "Redirect URL has no query or fragment"

/-- A readable address leads to what it carries in the query or in the fragment. -/
theorem ofUrl_of_isReadable {address : Address} (hreadable : address.IsReadable)
    {carried mark : String} (hcarried : ∀ c ∈ carried.toList, Text.Url.isPathChar c = true)
    (hmark : mark ∈ ["?", "#"]) :
    ofUrl (address.text ++ mark ++ carried) logPii =
      if carried = "" then .error emptyUrl else ofMembers (valuesOf carried) logPii := by
  obtain ⟨parts, hparts⟩ := Option.isSome_iff_exists.mp
    (address.isSome_split?_text_iff.mpr hreadable)
  have hbase : ∀ c ∈ address.text.toList, c ≠ '?' ∧ c ≠ '#' := fun c hc =>
    (Text.Url.isPathChar_iff.mp (address.isPathChar_of_mem_text hc)).1
  have hplain : ∀ c ∈ carried.toList, (c ≠ '?' ∧ c ≠ '#') ∧ Text.Url.isIgnored c = false :=
    fun c hc => Text.Url.isPathChar_iff.mp (hcarried c hc)
  -- Where the fragment is empty the query is read, so an empty fragment needs an empty query.
  obtain ⟨found, hfound, hread⟩ : ∃ found,
      Text.Url.split? (address.text ++ mark ++ carried).toList = some found ∧
        (if found.fragment.isEmpty then found.query else found.fragment) = carried.toList := by
    rw [String.toList_append, String.toList_append, List.append_assoc]
    simp only [List.mem_cons, List.not_mem_nil, or_false] at hmark
    rcases hmark with rfl | rfl
    · refine ⟨_, Text.Url.split?_query hparts hbase ?_, rfl⟩
      intro c hc
      exact ⟨(hplain c hc).1.2, (hplain c hc).2⟩
    · obtain ⟨query, hsplit, hquery⟩ := Text.Url.split?_fragment hparts
        (fun c hc => (hbase c hc).2) (fun c hc => (hplain c hc).2)
      refine ⟨_, hsplit, ?_⟩
      dsimp only
      split
      next hempty =>
        rw [hquery fun c hc => (hbase c hc).1, List.isEmpty_iff.mp hempty]
      next => rfl
  by_cases hempty : carried = ""
  · rw [if_pos hempty, ofUrl, hfound]
    dsimp only
    rw [hread, hempty]
    rfl
  · rw [if_neg hempty, ofUrl_of_split? hfound hread (by simpa using hempty), String.ofList_toList]

/-- An address that is not readable is refused, whatever it carries. -/
theorem ofUrl_of_not_isReadable {address : Address} (hunreadable : ¬ address.IsReadable)
    {carried mark : String} (hcarried : ∀ c ∈ carried.toList, Text.Url.isPathChar c = true)
    (hmark : mark ∈ ["?", "#"]) :
    ofUrl (address.text ++ mark ++ carried) logPii = .error (.invalid "") := by
  have hplain : ∀ c ∈ carried.toList, Text.Url.isIgnored c = false := fun c hc =>
    (Text.Url.isPathChar_iff.mp (hcarried c hc)).2
  rw [← address.isSome_split?_text_iff, Option.not_isSome_iff_eq_none] at hunreadable
  have hnone : Text.Url.split? (address.text ++ mark ++ carried).toList = none := by
    rw [String.toList_append, String.toList_append, List.append_assoc]
    simp only [List.mem_cons, List.not_mem_nil, or_false] at hmark
    rcases hmark with rfl | rfl
    · exact Text.Url.split?_append_eq_none hunreadable (by decide) hplain
    · exact Text.Url.split?_append_eq_none hunreadable (by decide) hplain
  rw [ofUrl, hnone]

end Redirect

namespace IdToken

variable {logPii : Bool}

/-- A mark in front of a form is not part of it. -/
theorem ofForm_append {form mark : String}
    (hform : ∀ c ∈ form.toList, Text.Url.isPathChar c = true)
    (hmark : mark ∈ ["", "?", "#"]) :
    ofForm (mark ++ form) logPii = ofResponse (.object (Redirect.valuesOf form)) logPii := by
  have hstart : form.toList.dropWhile (fun c => c == '#' || c == '?') = form.toList := by
    cases hlist : form.toList with
    | nil => rfl
    | cons first rest =>
        have hfirst := hform first (hlist ▸ List.mem_cons_self)
        obtain ⟨hquestion, hnumber⟩ := (Text.Url.isPathChar_iff.mp hfirst).1
        rw [List.dropWhile_cons, if_neg (by simp [hquestion, hnumber])]
  have hmarked : (mark ++ form).toList.dropWhile (fun c => c == '#' || c == '?') =
      form.toList := by
    rw [String.toList_append]
    simp only [List.mem_cons, List.not_mem_nil, or_false] at hmark
    rcases hmark with rfl | rfl | rfl <;> exact hstart
  rw [ofForm, hmarked, String.ofList_toList]

theorem ofResponse_object {values : Members}
    (hpresent : (Value.member values "id_token").isPresent = true) :
    ∃ token : IdToken, ofResponse (.object values) logPii = .ok token ∧
      token.idToken = Value.member values "id_token" ∧ token.code = Value.member values "code" ∧
      token.state = Value.member values "state" ∧
      token.sessionState = Value.member values "session_state" := by
  have hresponse : ofResponse (.object values) logPii =
      if (Value.member values "id_token").isPresent = true then _ else _ := rfl
  rw [if_pos hpresent] at hresponse
  exact ⟨_, hresponse, rfl, rfl, rfl, rfl⟩

end IdToken

namespace Redirect

/-- Named values are read alike wherever a redirect carries them and from themselves, with a value
for each known name and all others kept aside. An ID token among them is read with the same parts.
Only an address that is not readable and one that carries nothing are refused. -/
theorem redirects_agree (address : Address) (pairs : List (String × String)) (logPii : Bool) :
    ∃ response, ofMembers (filled pairs) logPii = .ok response ∧ response.Reads (filled pairs) ∧
      (∀ mark ∈ ["?", "#"],
        ofUrl (address.text ++ mark ++ Text.Form.encode pairs) logPii =
          if address.IsReadable then
            if Text.Form.encode pairs = "" then
              .error (.authorization "url" "Redirect URL has no query or fragment")
            else .ok response
          else .error (.invalid "")) ∧
      ((Value.member (filled pairs) "id_token").isPresent = true →
        ∃ token : IdToken,
          (∀ mark ∈ ["", "?", "#"],
            IdToken.ofForm (mark ++ Text.Form.encode pairs) logPii = .ok token) ∧
          token.idToken = response.idToken ∧ token.code = response.code ∧
          token.state = response.state ∧ token.sessionState = response.sessionState) := by
  have hplain : ∀ c ∈ (Text.Form.encode pairs).toList, Text.Url.isPathChar c = true :=
    fun _ => Text.Form.isPathChar_of_mem_encode
  obtain ⟨response, hresponse, hreads⟩ := exists_ofMembers (isTextual_valuesOf _) logPii
  rw [valuesOf_encode] at hresponse hreads
  refine ⟨response, hresponse, hreads, ?_, ?_⟩
  · intro mark hmark
    split
    next hreadable =>
      rw [ofUrl_of_isReadable hreadable hplain hmark, valuesOf_encode, hresponse]
      rfl
    next hunreadable =>
      exact ofUrl_of_not_isReadable hunreadable hplain hmark
  · intro hpresent
    obtain ⟨token, htoken, hid, hcode, hstate, hsession⟩ := IdToken.ofResponse_object hpresent
    refine ⟨token, ?_, hid.trans hreads.idToken.symm, hcode.trans hreads.code.symm,
      hstate.trans hreads.state.symm, hsession.trans hreads.sessionState.symm⟩
    intro mark hmark
    rw [IdToken.ofForm_append hplain hmark, valuesOf_encode, htoken]

/-- The address of a page on a host. -/
def pageOn (host : String) (hplain : host.toList.all Text.Url.isHostChar = true) : Address :=
  ⟨"http", host, "redirect", rfl, hplain, rfl⟩

/-- Values with reserved characters, a repeated name and an empty value after one that counts. -/
def trialPairs : List (String × String) :=
  [("state", "s#1"), ("id_token", "é"), ("expires_in", " 6_0"), ("code", "a&b"), ("code", ""),
    ("extra", "+?"), ("state", "s 2")]

theorem repeated_values_are_read_alike :
    ∃ response,
      (∀ mark ∈ ["?", "#"], ofUrl ((pageOn "localhost:8000" rfl).text ++ mark ++
        Text.Form.encode trialPairs) false = .ok response) ∧
      response.state = .text "s 2" ∧ response.code = .text "a&b" ∧
      response.expiresIn = some 60 ∧ response.additional = [("extra", .text "+?")] ∧
      ∃ token, IdToken.ofForm ("#" ++ Text.Form.encode trialPairs) false = .ok token ∧
        token.idToken = .text "é" := by
  obtain ⟨response, -, hreads, hurl, hform⟩ :=
    redirects_agree (pageOn "localhost:8000" rfl) trialPairs false
  obtain ⟨token, htoken, hid, -⟩ := hform (by decide)
  refine ⟨response, ?_, hreads.state, hreads.code, hreads.expiresIn, hreads.additional, token,
    htoken "#" (by decide), hid.trans hreads.idToken⟩
  intro mark hmark
  rw [hurl mark hmark, if_pos (by decide), if_neg]
  intro hempty
  have hfilled := Text.Form.isEmpty_encode (List.cons_ne_nil ("state", "s#1") trialPairs.tail)
  exact Bool.noConfusion (hfilled.symm.trans (String.isEmpty_iff.mpr hempty))

/-- A host with a sign that is equivalent to `a/c` is refused, although the values can be read. -/
theorem equivalent_delimiter_is_refused :
    ofUrl ((pageOn "℀" rfl).text ++ "?" ++ Text.Form.encode [("code", "a")]) false =
        .error (.invalid "") ∧
      ∃ response, ofMembers (filled [("code", "a")]) false = .ok response ∧
        response.code = .text "a" :=
  ⟨rfl, _, rfl, rfl⟩

end Redirect

end OAuthClient
