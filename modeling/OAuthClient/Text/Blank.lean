/-!
# Blank characters

Which characters count as blank, and the two operations on text that depend on it: removing blank
ends and splitting into words. The main facts are that no word is empty and no word holds a blank.
-/

namespace OAuthClient.Text

/-- The blank characters: those of the Unicode `White_Space` class together with the four
information separators U+001C to U+001F. -/
def isBlank (c : Char) : Bool :=
  let n := c.toNat
  (9 ≤ n && n ≤ 13) || (28 ≤ n && n ≤ 32) || n == 0x85 || n == 0xa0 || n == 0x1680 ||
    (0x2000 ≤ n && n ≤ 0x200a) || n == 0x2028 || n == 0x2029 || n == 0x202f || n == 0x205f ||
    n == 0x3000

/-- The text without the blanks at its two ends. -/
def trim (text : List Char) : List Char :=
  ((text.dropWhile isBlank).reverse.dropWhile isBlank).reverse

/-- Cuts a text at every character of a class; `n` cuts give `n + 1` pieces. -/
def splitOn (cut : Char → Bool) : List Char → List (List Char)
  | [] => [[]]
  | c :: rest =>
      if cut c then [] :: splitOn cut rest
      else match splitOn cut rest with
        | [] => [[c]]
        | piece :: pieces => (c :: piece) :: pieces

/-- Cuts a text at the first character of a class, which is dropped. -/
def cutFirst (cut : Char → Bool) : List Char → Option (List Char × List Char)
  | [] => none
  | c :: rest =>
      if cut c then some ([], rest)
      else (cutFirst cut rest).map fun (before, after) => (c :: before, after)

/-- The maximal runs of characters that are not blank. -/
def words (text : List Char) : List (List Char) :=
  (splitOn isBlank text).filter (!·.isEmpty)

/-- Whether a text consists of blanks only; the empty text does. -/
def allBlank (text : List Char) : Bool := text.all isBlank

/-- The words of a string. -/
def wordsOf (text : String) : List String := (words text.toList).map String.ofList

/-- A string without the blanks at its two ends. -/
def trimmed (text : String) : String := String.ofList (trim text.toList)

/-- Whether a string consists of blanks only. -/
def isBlankText (text : String) : Bool := allBlank text.toList

theorem splitOn_ne_nil (cut : Char → Bool) (text : List Char) : splitOn cut text ≠ [] := by
  cases text with
  | nil => simp [splitOn]
  | cons c rest =>
      simp only [splitOn]
      split
      · simp
      · split <;> simp

theorem not_cut_of_mem_splitOn (cut : Char → Bool) {text piece : List Char}
    (hpiece : piece ∈ splitOn cut text) : ∀ c ∈ piece, cut c = false := by
  induction text generalizing piece with
  | nil => simp_all [splitOn]
  | cons c rest ih =>
      simp only [splitOn] at hpiece
      split at hpiece
      next hcut =>
        rcases List.mem_cons.1 hpiece with rfl | hmem
        · simp
        · exact ih hmem
      next hcut =>
        split at hpiece
        next _ => simp_all
        next head tail heq =>
          rcases List.mem_cons.1 hpiece with rfl | hmem
          · intro d hd
            rcases List.mem_cons.1 hd with rfl | hd
            · simpa using hcut
            · exact ih (by simp [heq]) d hd
          · exact ih (by simp [heq, hmem])

theorem ne_nil_of_mem_words {text word : List Char} (hword : word ∈ words text) : word ≠ [] := by
  simpa using (List.mem_filter.1 hword).2

theorem not_isBlank_of_mem_words {text word : List Char} (hword : word ∈ words text) :
    ∀ c ∈ word, isBlank c = false :=
  not_cut_of_mem_splitOn isBlank (List.mem_filter.1 hword).1

theorem all_dropWhile (cut : Char → Bool) (text : List Char) :
    (text.dropWhile cut).all cut = text.all cut := by
  induction text with
  | nil => rfl
  | cons c rest ih => cases h : cut c <;> simp [List.dropWhile, h, ih]

/-- Removing blank ends leaves something exactly when there is something else than blanks. -/
theorem isBlankText_trimmed (text : String) : isBlankText (trimmed text) = isBlankText text := by
  simp only [isBlankText, allBlank, trimmed, trim, String.toList_ofList, List.all_reverse,
    all_dropWhile]

end OAuthClient.Text
