import OAuthClient.Proofs.RedirectReading
import OAuthClient.Upload.Uploader

/-! # Addresses of drive items

The path of an item is percent encoded when its address is made, the identifier
of the user is not. So the address is read as what was asked for exactly where
the identifier is a plain segment of a path, and then no other plain request has
the same address.
-/

namespace OAuthClient

namespace Text

theorem intercalate_splitOn (mark : Char) (text : List Char) :
    [mark].intercalate (splitOn (· == mark) text) = text := by
  induction text with
  | nil => rfl
  | cons c rest ih =>
      rw [splitOn]
      split
      next hmark =>
        cases hpieces : splitOn (· == mark) rest with
        | nil => exact absurd hpieces (splitOn_ne_nil _ _)
        | cons first pieces =>
            rw [List.intercalate_cons_cons, ← hpieces, ih, beq_iff_eq.mp hmark]
            rfl
      next =>
        cases hpieces : splitOn (· == mark) rest with
        | nil => exact absurd hpieces (splitOn_ne_nil _ _)
        | cons first pieces =>
            rw [hpieces] at ih
            cases pieces with
            | nil =>
                rw [List.intercalate_singleton] at ih ⊢
                rw [ih]
            | cons second pieces =>
                rw [List.intercalate_cons_cons] at ih ⊢
                simp [← ih]

theorem length_splitOn (cut : Char → Bool) (text : List Char) :
    (splitOn cut text).length = text.countP cut + 1 := by
  induction text with
  | nil => rfl
  | cons c rest ih =>
      rw [splitOn, List.countP_cons]
      split
      next hcut => rw [List.length_cons, ih]
      next hcut =>
        cases hpieces : splitOn cut rest with
        | nil => exact absurd hpieces (splitOn_ne_nil cut rest)
        | cons first pieces =>
            rw [hpieces] at ih
            simpa using ih

theorem Utf8.length_decodeLossy_le (bytes : Bytes) :
    (Utf8.decodeLossy bytes).length ≤ bytes.length := by
  fun_induction Utf8.decodeLossy bytes with
  | case1 => exact Nat.le_refl _
  | case2 lead rest c? used hseq ih =>
      rw [List.length_drop] at ih
      simp only [List.length_cons]
      omega

namespace Percent

variable {text rest : List Char}

/-- Whether a text starts with a percent form. -/
def startsForm : List Char → Bool
  | '%' :: high :: low :: _ => (hexValue? high).isSome && (hexValue? low).isSome
  | _ => false

/-- Whether a text holds a percent form. -/
def hasForm : List Char → Bool
  | [] => false
  | c :: rest => startsForm (c :: rest) || hasForm rest

theorem startsForm_of_ne {c : Char} (hc : c ≠ '%') (rest : List Char) :
    startsForm (c :: rest) = false := by
  rw [startsForm]
  rintro high low tail ⟨⟩
  exact hc rfl

/-- A form does not reach into a text that starts with no digit of it. -/
theorem hasForm_append (hrest : ∀ c ∈ rest.head?, hexValue? c = none) (text : List Char) :
    hasForm (text ++ rest) = (hasForm text || hasForm rest) := by
  induction text with
  | nil => rfl
  | cons c text ih =>
      have hstart : startsForm (c :: (text ++ rest)) = startsForm (c :: text) := by
        by_cases hc : c = '%'
        · subst hc
          rcases text with _ | ⟨high, _ | ⟨low, text⟩⟩
          · rcases rest with _ | ⟨high, _ | ⟨low, rest⟩⟩
            · rfl
            · rfl
            · simp [startsForm, hrest high rfl]
          · rcases rest with _ | ⟨low, rest⟩
            · rfl
            · simp [startsForm, hrest low rfl]
          · rfl
        · rw [startsForm_of_ne hc, startsForm_of_ne hc]
      rw [List.cons_append, hasForm, hstart, ih, hasForm, Bool.or_assoc]

/-- Resolving a percent form makes a text shorter. -/
theorem length_bytesOf_le (text : List Char) :
    (bytesOf text).length + (hasForm text).toNat ≤ text.length := by
  fun_induction bytesOf text with
  | case1 high low rest h l hhigh hlow ih =>
      have := Bool.toNat_le (hasForm ('%' :: high :: low :: rest))
      simp only [List.length_cons]
      omega
  | case2 high low rest hform ih =>
      have hstart : startsForm ('%' :: high :: low :: rest) = false := by
        rw [startsForm]
        cases hhigh : hexValue? high with
        | none => rfl
        | some h =>
            cases hlow : hexValue? low with
            | none => rfl
            | some l => exact absurd hlow (hform h l hhigh)
      rw [hasForm, hstart, Bool.false_or]
      simp only [List.length_cons] at ih ⊢
      omega
  | case3 c rest hne ih =>
      have hstart : startsForm (c :: rest) = false := by
        rw [startsForm]
        rintro high low tail ⟨⟩
        exact hne high low tail rfl rfl
      rw [hasForm, hstart, Bool.false_or]
      simp only [List.length_cons]
      omega
  | case4 => exact Nat.le_refl _

theorem bytesOf_cons {c : Char} (h : startsForm (c :: rest) = false) :
    bytesOf (c :: rest) = UInt8.ofNat c.toNat :: bytesOf rest := by
  by_cases hc : c = '%'
  · subst hc
    rcases rest with _ | ⟨high, _ | ⟨low, rest⟩⟩
    · rfl
    · rfl
    · rw [bytesOf]
      rw [startsForm] at h
      cases hhigh : hexValue? high with
      | none => rfl
      | some value =>
          rw [hhigh, Option.isSome_some, Bool.true_and] at h
          cases hlow : hexValue? low with
          | none => rfl
          | some value =>
              rw [hlow] at h
              cases h
  · exact bytesOf_cons_of_ne hc rest

/-- Without a percent form the bytes are those of the characters. -/
theorem bytesOf_of_not_hasForm (h : hasForm text = false)
    (hascii : ∀ c ∈ text, isAscii c = true) : bytesOf text = Utf8.encode text := by
  induction text with
  | nil => rfl
  | cons c rest ih =>
      rw [hasForm, Bool.or_eq_false_iff] at h
      rw [List.forall_mem_cons, isAscii, decide_eq_true_eq] at hascii
      rw [bytesOf_cons h.1, ih h.2 hascii.2]
      change _ = Utf8.encodeChar c ++ Utf8.encode rest
      rw [Utf8.encodeChar, if_pos hascii.1]
      rfl

theorem hexValue?_of_not_isAscii {c : Char} (h : isAscii c = false) : hexValue? c = none := by
  rw [isAscii, decide_eq_false_iff_not] at h
  unfold hexValue?
  dsimp only
  rw [if_neg (by omega), if_neg (by omega), if_neg (by omega)]

/-- The percent forms of a text are those of its ASCII runs. -/
theorem hasForm_run (text : List Char) :
    hasForm text = (hasForm (text.takeWhile isAscii) || hasForm (text.dropWhile isAscii)) := by
  conv_lhs => rw [← @List.takeWhile_append_dropWhile _ isAscii text]
  apply hasForm_append
  intro c hc
  have hhead := List.head?_dropWhile_not isAscii text
  rw [Option.mem_def.mp hc] at hhead
  exact hexValue?_of_not_isAscii (by simpa using hhead)

theorem hasForm_cons_of_isAscii {c : Char} (hascii : isAscii c = true) (rest : List Char) :
    hasForm (c :: rest) =
      (hasForm (c :: rest.takeWhile isAscii) || hasForm (rest.dropWhile isAscii)) := by
  rw [hasForm_run, List.takeWhile_cons, List.dropWhile_cons, if_pos hascii, if_pos hascii]

theorem hasForm_cons_of_not_isAscii {c : Char} (hascii : isAscii c = false) (rest : List Char) :
    hasForm (c :: rest) = hasForm rest := by
  rw [hasForm, startsForm_of_ne, Bool.false_or]
  rintro rfl
  cases hascii

theorem length_decode_le (text : List Char) :
    (decode text).length + (hasForm text).toNat ≤ text.length := by
  fun_induction decode text with
  | case1 => exact Nat.le_refl _
  | case2 c rest hascii ih =>
      have hrun := length_bytesOf_le (c :: rest.takeWhile isAscii)
      have hread := Utf8.length_decodeLossy_le (bytesOf (c :: rest.takeWhile isAscii))
      have hlength := congrArg List.length (@List.takeWhile_append_dropWhile _ isAscii rest)
      have hforms : (hasForm (c :: rest)).toNat ≤ (hasForm (c :: rest.takeWhile isAscii)).toNat +
          (hasForm (rest.dropWhile isAscii)).toNat := by
        rw [hasForm_cons_of_isAscii hascii]
        cases hasForm (c :: rest.takeWhile isAscii) <;>
          cases hasForm (rest.dropWhile isAscii) <;> decide
      rw [List.length_append] at hlength ⊢
      simp only [List.length_cons] at hrun ⊢
      omega
  | case3 c rest hascii ih =>
      rw [hasForm_cons_of_not_isAscii (Bool.eq_false_iff.mpr hascii)]
      simp only [List.length_cons]
      omega

theorem decode_of_not_hasForm (h : hasForm text = false) : decode text = text := by
  fun_induction decode text with
  | case1 => rfl
  | case2 c rest hascii ih =>
      rw [hasForm_cons_of_isAscii hascii, Bool.or_eq_false_iff] at h
      have hrun : ∀ d ∈ c :: rest.takeWhile isAscii, isAscii d = true :=
        List.forall_mem_cons.mpr ⟨hascii, fun d hd => List.all_eq_true.mp List.all_takeWhile d hd⟩
      rw [bytesOf_of_not_hasForm h.1 hrun, Utf8.decodeLossy_encode, ih h.2, List.cons_append,
        List.takeWhile_append_dropWhile]
  | case3 c rest hascii ih =>
      rw [hasForm_cons_of_not_isAscii (Bool.eq_false_iff.mpr hascii)] at h
      rw [ih h]

/-- Reading changes exactly the texts that hold a percent form. -/
theorem decode_eq_self_iff : decode text = text ↔ hasForm text = false := by
  refine ⟨fun h => ?_, decode_of_not_hasForm⟩
  have hlength := length_decode_le text
  rw [h] at hlength
  cases hform : hasForm text with
  | false => rfl
  | true =>
      rw [hform, Bool.toNat_true] at hlength
      omega

/-! ### Segments -/

/-- Whether a character separates the segments of a path. -/
def isSlash (c : Char) : Bool := c == '/'

/-- The segments of a path with their percent forms resolved. -/
def segments (path : List Char) : List (List Char) := (splitOn isSlash path).map decode

theorem isAscii_of_isPathSafe {c : Char} (h : isPathSafe c = true) :
    isAscii c = true ∧ c ≠ '%' := by
  rw [isPathSafe, Bool.or_eq_true, beq_iff_eq] at h
  rcases h with h | rfl
  · refine ⟨isAscii_of_isUnreserved h, ?_⟩
    rintro rfl
    exact absurd h (by decide)
  · decide

/-- A mark is in an encoding only where it stands for itself. -/
theorem mem_of_mem_encode {safe : Char → Bool} {mark : Char} (hpercent : mark ≠ '%')
    (hdigit : ∀ n < 16, mark ≠ hexDigitUpper n) (h : mark ∈ encode safe text) : mark ∈ text := by
  obtain ⟨c, hc, hmark⟩ := List.mem_flatMap.mp h
  unfold encodeChar at hmark
  split at hmark
  next =>
    rw [List.mem_singleton.mp hmark]
    exact hc
  next =>
    obtain ⟨b, hb, hmark⟩ := List.mem_flatMap.mp hmark
    have hbound : b.toNat < 256 := b.toNat_lt
    simp only [encodeByte, List.mem_cons, List.not_mem_nil, or_false] at hmark
    rcases hmark with rfl | rfl | rfl
    · exact absurd rfl hpercent
    · exact absurd rfl (hdigit _ (by omega))
    · exact absurd rfl (hdigit _ (by omega))

/-- What stands for itself may follow an encoding. -/
theorem decode_encode_append {safe : Char → Bool}
    (hsafe : ∀ c, safe c = true → isAscii c = true ∧ c ≠ '%') (text : List Char)
    (hrest : ∀ c ∈ rest, isAscii c = true ∧ c ≠ '%') :
    decode (encode safe text ++ rest) = text ++ rest := by
  have hrestBytes : bytesOf rest = Utf8.encode rest := by
    have hkept : ∀ c ∈ rest, (isAscii c && c != '%') = true := by simpa using hrest
    have hbytes := @bytesOf_encode (fun c => isAscii c && c != '%') (by simp) rest
    rwa [encode_of_safe hkept] at hbytes
  have hascii : ∀ c ∈ encode safe text ++ rest, isAscii c = true := by
    rw [List.forall_mem_append]
    exact ⟨fun c hc => isAscii_of_mem_encode (fun d hd => (hsafe d hd).1) hc,
      fun c hc => (hrest c hc).1⟩
  rw [decode_of_isAscii hascii, bytesOf_encode_append hsafe, hrestBytes, ← Utf8.encode_append,
    Utf8.decodeLossy_encode]

theorem segments_append_cons (path rest : List Char) :
    segments (path ++ '/' :: rest) = segments path ++ segments rest := by
  rw [segments, splitOn_append_cons path rfl, List.map_append]
  rfl

theorem segments_cons (rest : List Char) : segments ('/' :: rest) = [] :: segments rest := by
  rw [segments, splitOn, if_pos (show isSlash '/' = true from rfl), List.map_cons, decode]
  rfl

theorem segments_of_not_slash (h : ∀ c ∈ text, isSlash c = false) :
    segments text = [decode text] := by
  rw [segments, splitOn_of_not_cut h]
  rfl

/-- The segments of an encoded path, after the beginning of a segment and before its end. -/
theorem segments_encode_append {front : List Char} (hfront : ∀ c ∈ front, isSlash c = false)
    (text : List Char)
    (hrest : ∀ c ∈ rest, (isAscii c = true ∧ c ≠ '%') ∧ isSlash c = false) :
    segments (encode isPathSafe front ++ (encode isPathSafe text ++ rest)) =
      splitOn isSlash (front ++ (text ++ rest)) := by
  have hencoded {front : List Char} (hfront : ∀ c ∈ front, isSlash c = false) :
      ∀ c ∈ encode isPathSafe front, isSlash c = false := by
    intro c hc
    rw [isSlash, beq_eq_false_iff_ne]
    rintro rfl
    exact absurd (hfront _ (mem_of_mem_encode (by decide) (by decide) hc)) (by decide)
  induction text generalizing front with
  | nil =>
      have hread : segments (encode isPathSafe front ++ rest) = [front ++ rest] := by
        rw [segments_of_not_slash, decode_encode_append (fun c => isAscii_of_isPathSafe) front
          fun c hc => (hrest c hc).1]
        exact List.forall_mem_append.mpr ⟨hencoded hfront, fun c hc => (hrest c hc).2⟩
      rw [List.nil_append, splitOn_of_not_cut]
      · exact hread
      · exact List.forall_mem_append.mpr ⟨hfront, fun c hc => (hrest c hc).2⟩
  | cons c text ih =>
      cases hslash : isSlash c with
      | true =>
          obtain rfl : c = '/' := beq_iff_eq.mp hslash
          have hstart : segments (encode isPathSafe front) = [front] := by
            rw [segments_of_not_slash (hencoded hfront),
              decode_encode fun c => isAscii_of_isPathSafe]
          have hlater := @ih [] (by simp)
          rw [List.nil_append] at hlater
          change segments (encode isPathSafe front ++ '/' :: (encode isPathSafe text ++ rest)) =
            splitOn isSlash (front ++ '/' :: (text ++ rest))
          rw [segments_append_cons, splitOn_append_cons front rfl, hstart,
            splitOn_of_not_cut hfront]
          exact congrArg _ hlater
      | false =>
          have hnext := @ih (front ++ [c])
            (List.forall_mem_append.mpr ⟨hfront, by simpa using hslash⟩)
          rw [encode_append, List.append_assoc, List.append_assoc] at hnext
          change segments (encode isPathSafe front ++
            ((encodeChar isPathSafe c ++ encode isPathSafe text) ++ rest)) = _
          rw [List.append_assoc]
          simpa [encode] using hnext

end Percent

/-- The pieces of a text between its slashes. -/
def slashed (text : String) : List String :=
  (splitOn Percent.isSlash text.toList).map String.ofList

namespace Url

/-- The path of a URL. -/
def pathOf (url : List Char) : List Char :=
  (behindAuthority url).takeWhile fun c => c != '?' && c != '#'

/-- The segments of the path of a URL with their percent forms resolved. -/
def segmentsOf (url : String) : List String :=
  (Percent.segments (pathOf url.toList)).map String.ofList

/-- What stands behind an address is read as it is written, but for what is ignored. -/
theorem Address.cutAuthority_append (address : Address) (rest : List Char) :
    cutAuthority (afterScheme (significant (address.text.toList ++ rest))) =
      (address.host.toList,
        '/' :: (address.path.toList ++ rest.filter fun c => !isIgnored c)) := by
  have hstart : (address.text.toList.dropWhile fun c => c.toNat ≤ 0x20) ≠ [] := by
    intro hnone
    have hsignificant := address.significant_text
    rw [significant, hnone, toList_text] at hsignificant
    simp at hsignificant
  have hsignificant : significant (address.text.toList ++ rest) =
      significant address.text.toList ++ rest.filter fun c => !isIgnored c := by
    rw [significant, List.dropWhile_append, if_neg (by simpa using hstart), List.filter_append,
      significant]
    congr 1
    exact List.filter_congr fun c _ => by simp [isIgnored, bne]
  rw [hsignificant, significant_text, toList_text, List.append_assoc, List.cons_append,
    afterScheme_of_isScheme address.isScheme_scheme]
  simpa using cutAuthority_of_isHostChar (fun c => address.isHostChar_of_mem)
    (address.path.toList ++ rest.filter fun c => !isIgnored c)

end Url

/-- Whether a text stands for itself as a segment of a path: it has no mark of a URL in it, nothing
that is ignored in one and no percent form. -/
def IsSegment (text : String) : Prop :=
  (∀ c ∈ text.toList, Url.isPathChar c = true ∧ Percent.isSlash c = false) ∧
    Percent.hasForm text.toList = false

instance (text : String) : Decidable (IsSegment text) :=
  decidable_of_iff
    (text.toList.all (fun c => Url.isPathChar c && !Percent.isSlash c) = true ∧
      Percent.hasForm text.toList = false)
    (by simp [IsSegment])

namespace IsSegment

variable {text : String}

theorem isPathChar (h : IsSegment text) : ∀ c ∈ text.toList, Url.isPathChar c = true :=
  fun c hc => (h.1 c hc).1

theorem unmarked (h : IsSegment text) : ∀ c ∈ text.toList, c ≠ '?' ∧ c ≠ '#' :=
  fun c hc => (Url.isPathChar_iff.mp (h.isPathChar c hc)).1

theorem splitOn_eq (h : IsSegment text) : splitOn Percent.isSlash text.toList = [text.toList] :=
  splitOn_of_not_cut fun c hc => (h.1 c hc).2

theorem segments_eq (h : IsSegment text) : Percent.segments text.toList = [text.toList] := by
  rw [Percent.segments_of_not_slash fun c hc => (h.1 c hc).2, Percent.decode_of_not_hasForm h.2]

theorem filter_eq (h : IsSegment text) :
    text.toList.filter (fun c => !Url.isIgnored c) = text.toList := by
  apply List.filter_eq_self.mpr
  intro c hc
  simp [(Url.isPathChar_iff.mp (h.isPathChar c hc)).2]

end IsSegment

end Text

namespace UploadTask

open Text

variable {userId destination action : String}

/-- The actions on an item. -/
def itemActions : List String := ["content", "createUploadSession"]

/-- What an address is to be read as. -/
def itemSegments (userId destination action : String) : List String :=
  ["", "v1.0", "users", userId, "drive"] ++ slashed ("root:/" ++ destination ++ ":/" ++ action)

/-- Whether an address is read as that of an action on an item in a user's drive. -/
structure Addresses (url userId destination action : String) : Prop where
  unmarked : ∀ c ∈ url.toList, c ≠ '?' ∧ c ≠ '#'
  host : Url.authorityOf url.toList = "graph.microsoft.com".toList
  segments : Url.segmentsOf url = itemSegments userId destination action

/-- The address of the service. -/
def serviceAddress : Url.Address where
  scheme := "https"
  host := "graph.microsoft.com"
  path := "v1.0"
  isScheme_scheme := by decide
  host_plain := by decide
  path_plain := by decide

theorem text_serviceAddress : serviceAddress.text = serviceUrl := by decide

/-- What stands behind the identifier of the user in the address of an item. -/
def itemSuffix (destination action : String) : List Char :=
  "drive".toList ++ '/' :: ("root:".toList ++
    '/' :: ((Percent.encode Percent.isPathSafe destination.toList ++ [':']) ++
      '/' :: action.toList))

theorem toList_itemUrl (userId destination action : String) :
    (itemUrl userId destination action).toList = serviceAddress.text.toList ++
      '/' :: ("users".toList ++
        '/' :: (userId.toList ++ '/' :: itemSuffix destination action)) := by
  have husers : "/users/".toList = '/' :: ("users".toList ++ ['/']) := by decide
  have hdrive : "/drive".toList = '/' :: "drive".toList := by decide
  have hroot : "/root:/".toList = '/' :: ("root:".toList ++ ['/']) := by decide
  have hcolon : ":/".toList = [':', '/'] := by decide
  simp only [text_serviceAddress, itemUrl, driveUrl, itemSuffix, String.toList_append,
    String.toList_ofList, husers, hdrive, hroot, hcolon, List.append_assoc, List.cons_append,
    List.nil_append]

theorem isSegment_of_mem_itemActions (haction : action ∈ itemActions) : IsSegment action := by
  rcases List.mem_pair.mp haction with rfl | rfl <;> decide

theorem isPathChar_of_mem_itemSuffix (haction : action ∈ itemActions) :
    ∀ c ∈ itemSuffix destination action, Url.isPathChar c = true := by
  have hencoded : ∀ c ∈ Percent.encode Percent.isPathSafe destination.toList,
      Url.isPathChar c = true := by
    intro c hc
    rcases Percent.mem_encode hc with hsafe | rfl | ⟨n, hn, rfl⟩
    · exact Url.isPathChar_of_all rfl hsafe
    · rfl
    · have hdigits : ∀ n < 16, Url.isPathChar (hexDigitUpper n) = true := by decide
      exact hdigits n hn
  have hdrive : IsSegment "drive" := by decide
  have hroot : IsSegment "root:" := by decide
  simp only [itemSuffix, List.forall_mem_append, List.forall_mem_cons]
  exact ⟨hdrive.isPathChar, rfl, hroot.isPathChar, rfl, ⟨hencoded, rfl, by simp⟩, rfl,
    (isSegment_of_mem_itemActions haction).isPathChar⟩

/-- The pieces of what is asked for in a drive. -/
theorem splitOn_item (haction : action ∈ itemActions) :
    splitOn Percent.isSlash ("root:/" ++ destination ++ ":/" ++ action).toList =
      "root:".toList ::
        (splitOn Percent.isSlash (destination.toList ++ [':']) ++ [action.toList]) := by
  have hroot : "root:/".toList = "root:".toList ++ ['/'] := by decide
  have hcolon : ":/".toList = [':', '/'] := by decide
  have hitem : ("root:/" ++ destination ++ ":/" ++ action).toList =
      "root:".toList ++ '/' :: ((destination.toList ++ [':']) ++ '/' :: action.toList) := by
    simp only [String.toList_append, hroot, hcolon, List.append_assoc, List.cons_append,
      List.nil_append]
  have hsegment : IsSegment "root:" := by decide
  rw [hitem, splitOn_append_cons _ rfl, splitOn_append_cons _ rfl, hsegment.splitOn_eq,
    (isSegment_of_mem_itemActions haction).splitOn_eq]
  rfl

theorem segments_itemSuffix (haction : action ∈ itemActions) :
    Percent.segments (itemSuffix destination action) = "drive".toList ::
      splitOn Percent.isSlash ("root:/" ++ destination ++ ":/" ++ action).toList := by
  have hpath := @Percent.segments_encode_append [':'] [] (by simp) destination.toList
    (List.forall_mem_singleton.mpr (by decide))
  have hdrive : IsSegment "drive" := by decide
  have hroot : IsSegment "root:" := by decide
  rw [splitOn_item haction, itemSuffix, Percent.segments_append_cons,
    Percent.segments_append_cons, Percent.segments_append_cons, hdrive.segments_eq,
    hroot.segments_eq, (isSegment_of_mem_itemActions haction).segments_eq]
  exact congrArg (fun pieces => "drive".toList :: "root:".toList :: (pieces ++ [action.toList]))
    hpath

theorem cutAuthority_itemUrl (haction : action ∈ itemActions) (userId destination : String) :
    Url.cutAuthority (Url.afterScheme (Url.significant
        (itemUrl userId destination action).toList)) =
      ("graph.microsoft.com".toList, '/' :: ("v1.0".toList ++ '/' :: ("users".toList ++
        '/' :: (userId.toList.filter (fun c => !Url.isIgnored c) ++
          '/' :: itemSuffix destination action)))) := by
  have husers : IsSegment "users" := by decide
  have hsuffix : (itemSuffix destination action).filter (fun c => !Url.isIgnored c) =
      itemSuffix destination action := by
    apply List.filter_eq_self.mpr
    intro c hc
    simp [(Url.isPathChar_iff.mp (isPathChar_of_mem_itemSuffix haction c hc)).2]
  have hslash (rest : List Char) : ('/' :: rest).filter (fun c => !Url.isIgnored c) =
      '/' :: rest.filter (fun c => !Url.isIgnored c) := rfl
  rw [toList_itemUrl, Url.Address.cutAuthority_append, hslash, List.filter_append, husers.filter_eq,
    hslash, List.filter_append, hslash, hsuffix]
  rfl

/-- What an address of an item is read as, where nothing cuts its path off. -/
theorem segments_itemUrl (haction : action ∈ itemActions)
    (huser : ∀ c ∈ userId.toList, c ≠ '?' ∧ c ≠ '#') :
    Percent.segments (Url.pathOf (itemUrl userId destination action).toList) =
      [[], "v1.0".toList, "users".toList] ++
        (Percent.segments (userId.toList.filter fun c => !Url.isIgnored c) ++
          "drive".toList ::
            splitOn Percent.isSlash ("root:/" ++ destination ++ ":/" ++ action).toList) := by
  have hversion : IsSegment "v1.0" := by decide
  have husers : IsSegment "users" := by decide
  have hpath : Url.pathOf (itemUrl userId destination action).toList =
      '/' :: ("v1.0".toList ++ '/' :: ("users".toList ++
        '/' :: (userId.toList.filter (fun c => !Url.isIgnored c) ++
          '/' :: itemSuffix destination action))) := by
    have hunmarked : ∀ c ∈ '/' :: ("v1.0".toList ++ '/' :: ("users".toList ++
        '/' :: (userId.toList.filter (fun c => !Url.isIgnored c) ++
          '/' :: itemSuffix destination action))), (c != '?' && c != '#') = true := by
      simp only [List.forall_mem_cons, List.forall_mem_append]
      refine ⟨rfl, fun c hc => ?_, rfl, fun c hc => ?_, rfl, fun c hc => ?_, rfl, fun c hc => ?_⟩
      · simpa using hversion.unmarked c hc
      · simpa using husers.unmarked c hc
      · simpa using huser c (List.mem_filter.mp hc).1
      · simpa using (Url.isPathChar_iff.mp (isPathChar_of_mem_itemSuffix haction c hc)).1
    rw [Url.pathOf, Url.behindAuthority, cutAuthority_itemUrl haction]
    simpa using @List.takeWhile_append_of_pos _ _ _ [] hunmarked
  rw [hpath, Percent.segments_cons, Percent.segments_append_cons, Percent.segments_append_cons,
    Percent.segments_append_cons, hversion.segments_eq, husers.segments_eq,
    segments_itemSuffix haction]
  rfl

theorem segments_eq_singleton_iff (huser : ∀ c ∈ userId.toList, c ≠ '?' ∧ c ≠ '#') :
    Percent.segments (userId.toList.filter fun c => !Url.isIgnored c) = [userId.toList] ↔
      IsSegment userId := by
  constructor
  · intro h
    have hcount := congrArg List.length h
    rw [Percent.segments, List.length_map, length_splitOn, List.length_singleton] at hcount
    have hslash : ∀ c ∈ userId.toList.filter fun c => !Url.isIgnored c,
        Percent.isSlash c = false := by
      intro c hc
      exact Bool.eq_false_iff.mpr (List.countP_eq_zero.mp (Nat.succ.inj hcount) c hc)
    rw [Percent.segments_of_not_slash hslash, List.singleton_inj] at h
    -- Nothing is ignored in the identifier, since reading makes no text longer.
    have hread := Percent.length_decode_le (userId.toList.filter fun c => !Url.isIgnored c)
    have hlength := List.length_filter_le (fun c => !Url.isIgnored c) userId.toList
    rw [h] at hread
    have hkept := List.length_filter_eq_length_iff.mp (show
      (userId.toList.filter fun c => !Url.isIgnored c).length = userId.toList.length by omega)
    rw [List.filter_eq_self.mpr hkept] at h hslash
    refine ⟨fun c hc => ⟨Url.isPathChar_iff.mpr ⟨huser c hc, by simpa using hkept c hc⟩,
      hslash c hc⟩, Percent.decode_eq_self_iff.mp h⟩
  · intro h
    rw [h.filter_eq, h.segments_eq]

theorem segmentsOf_itemUrl_iff (haction : action ∈ itemActions)
    (huser : ∀ c ∈ userId.toList, c ≠ '?' ∧ c ≠ '#') :
    Url.segmentsOf (itemUrl userId destination action) = itemSegments userId destination action ↔
      IsSegment userId := by
  have hasked : itemSegments userId destination action =
      ([[], "v1.0".toList, "users".toList] ++ ([userId.toList] ++ "drive".toList ::
        splitOn Percent.isSlash ("root:/" ++ destination ++ ":/" ++ action).toList)).map
          String.ofList := by
    simp [itemSegments, slashed]
  rw [Url.segmentsOf, segments_itemUrl haction huser, hasked,
    List.map_inj_right fun _ _ => String.ofList_inj.mp, List.append_cancel_left_eq,
    List.append_cancel_right_eq, segments_eq_singleton_iff huser]

theorem toList_getLast?_item (haction : action ∈ itemActions) (front : List Char) :
    (front ++ (":/".toList ++ action.toList)).getLast? =
      some (if action = "content" then 't' else 'n') := by
  have hend : (":/".toList ++ action.toList).getLast? =
      some (if action = "content" then 't' else 'n') := by
    rcases List.mem_pair.mp haction with rfl | rfl <;> decide
  rw [List.getLast?_append, hend, Option.some_or]

theorem slashed_item_inj {otherDestination otherAction : String} (haction : action ∈ itemActions)
    (hotherAction : otherAction ∈ itemActions)
    (h : slashed ("root:/" ++ otherDestination ++ ":/" ++ otherAction) =
      slashed ("root:/" ++ destination ++ ":/" ++ action)) :
    otherDestination = destination ∧ otherAction = action := by
  have hpieces := (List.map_inj_right fun _ _ => String.ofList_inj.mp).mp h
  have hjoined := congrArg ['/'].intercalate hpieces
  rw [show Percent.isSlash = (· == '/') from rfl, intercalate_splitOn, intercalate_splitOn]
    at hjoined
  simp only [String.toList_append, List.append_assoc, List.append_cancel_left_eq] at hjoined
  -- The two actions do not end with the same letter.
  have hlast := congrArg List.getLast? hjoined
  rw [toList_getLast?_item haction, toList_getLast?_item hotherAction] at hlast
  obtain rfl : otherAction = action := by
    rcases List.mem_pair.mp haction with rfl | rfl <;>
      rcases List.mem_pair.mp hotherAction with rfl | rfl <;>
      first | rfl | exact absurd hlast (by decide)
  exact ⟨String.toList_inj.mp (List.append_cancel_right hjoined), rfl⟩

/-- The address of an item is read as what was asked for exactly when the identifier of the user is
a segment of a path. Where it is, nothing else has that address that is asked for so. -/
theorem itemUrl_addresses_iff (haction : action ∈ itemActions) :
    (Addresses (itemUrl userId destination action) userId destination action ↔
      IsSegment userId) ∧
    (IsSegment userId → ∀ otherId otherDestination otherAction, otherAction ∈ itemActions →
      IsSegment otherId →
      Url.segmentsOf (itemUrl otherId otherDestination otherAction) =
        Url.segmentsOf (itemUrl userId destination action) →
      otherId = userId ∧ otherDestination = destination ∧ otherAction = action) := by
  refine ⟨⟨fun h => ?_, fun h => ?_⟩, fun h otherId otherDestination otherAction hother hid => ?_⟩
  · refine (segmentsOf_itemUrl_iff haction fun c hc => h.unmarked c ?_).mp h.segments
    simp [toList_itemUrl, hc]
  · refine ⟨?_, ?_, (segmentsOf_itemUrl_iff haction h.unmarked).mpr h⟩
    · have husers : IsSegment "users" := by decide
      rw [toList_itemUrl]
      simp only [List.forall_mem_append, List.forall_mem_cons]
      refine ⟨fun c hc => (Url.isPathChar_iff.mp (serviceAddress.isPathChar_of_mem_text hc)).1,
        by decide, husers.unmarked, by decide, h.unmarked, by decide, fun c hc => ?_⟩
      exact (Url.isPathChar_iff.mp (isPathChar_of_mem_itemSuffix haction c hc)).1
    · rw [Url.authorityOf, cutAuthority_itemUrl haction]
  · rw [(segmentsOf_itemUrl_iff hother hid.unmarked).mpr hid,
      (segmentsOf_itemUrl_iff haction h.unmarked).mpr h]
    intro hsame
    simp only [itemSegments, List.cons_append, List.cons.injEq, List.nil_append, true_and] at hsame
    exact ⟨hsame.1, slashed_item_inj haction hother hsame.2⟩

theorem report_is_addressed :
    "content" ∈ itemActions ∧
      Addresses (itemUrl "user@contoso.com" "reports/50% done.txt" "content") "user@contoso.com"
        "reports/50% done.txt" "content" :=
  ⟨by decide, (itemUrl_addresses_iff (by decide)).1.mpr (by decide)⟩

/-- The identifier of a guest has number signs in it, so nothing behind it is part of the path. -/
theorem guest_is_not_addressed :
    ¬Addresses (itemUrl "guest_fabrikam.com#EXT#@contoso.com" "notes.txt" "content")
        "guest_fabrikam.com#EXT#@contoso.com" "notes.txt" "content" ∧
      String.ofList (Url.pathOf
        (itemUrl "guest_fabrikam.com#EXT#@contoso.com" "notes.txt" "content").toList) =
          "/v1.0/users/guest_fabrikam.com" := by
  constructor
  · intro h
    exact (h.unmarked '#' (by decide)).2 rfl
  · decide

end UploadTask

end OAuthClient
