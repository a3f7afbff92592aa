import OAuthClient.Json.Coerce
import OAuthClient.Text.Excerpt

/-!
# Redaction

How secrets are kept out of debug text and of tables. A hidden secret leaves no trace of its value;
a shortened one shows its first characters only.
-/

namespace OAuthClient

/-- The text that stands for a secret. -/
def hidden : String := "[REDACTED]"

/-- What debug text shows of a secret: nothing of it unless personal data may be shown. That there
is no secret is not hidden. -/
def masked (logPii : Bool) (secret : Value) : Value :=
  if secret.isNull || logPii then secret else .text hidden

/-- A secret with all but its first items hidden; one that is not longer than twice their number is
hidden as a whole. -/
def redact (logPii : Bool) (keep secret : Value) : Except Failure Value :=
  if secret.isNull || logPii then .ok secret
  else do
    let size ← secret.size
    if (Number.whole size).isAtMost ((← keep.toNumber).times 2) then return .text hidden
    let keep ← keep.toCount
    match secret with
    | .text s => pure (.text (String.ofList (Text.before keep s.toList) ++ "..." ++ hidden))
    | .list items =>
        pure (.text ((Value.list (Text.before keep items)).plainText ++ "..." ++ hidden))
    | _ => throw .wrongKind

/-- Debug text does not depend on the value of a hidden secret. -/
theorem masked_congr {a b : Value} (h : a.isNull = b.isNull) : masked false a = masked false b := by
  unfold masked
  rw [h]
  by_cases hb : b.isNull = true
  · have ha := h.trans hb
    cases a <;> cases b <;> simp_all [Value.isNull]
  · simp [hb]

end OAuthClient
