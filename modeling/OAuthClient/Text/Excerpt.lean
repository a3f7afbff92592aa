/-!
# Excerpts

Parts of a sequence named by a signed position: a position below zero counts from the end, and
positions outside the sequence mean its nearer end.
-/

namespace OAuthClient.Text

variable {α : Type}

/-- The part before a signed position. -/
def before (position : Int) (items : List α) : List α :=
  if 0 ≤ position then items.take position.toNat
  else items.take (items.length - (-position).toNat)

/-- The part from a signed position on. -/
def fromPosition (position : Int) (items : List α) : List α :=
  if 0 ≤ position then items.drop position.toNat
  else items.drop (items.length - (-position).toNat)

/-- Whether a sequence occurs within another one. -/
def occursIn [BEq α] (part : List α) : List α → Bool
  | [] => part.isEmpty
  | item :: rest => part.isPrefixOf (item :: rest) || occursIn part rest

end OAuthClient.Text
