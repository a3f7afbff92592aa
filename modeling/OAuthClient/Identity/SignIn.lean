import OAuthClient.Json.Coerce
import OAuthClient.Text.SortedSet

/-!
# Sign-in options

The options that a sign-in URL can carry. Response types and prompts are sets, given as a text of
words or as a list.
-/

namespace OAuthClient

/-- The options of a sign-in URL as they are given. -/
structure SignInOptions where
  /-- What sign-in is to yield. -/
  responseType : Value := .null
  /-- How the response is to be carried, if that is said. -/
  responseMode : Option Value := none
  /-- A value that the response brings back. -/
  state : Value := .null
  /-- A value that the ID token brings back. -/
  nonce : Value := .null
  /-- What the user is asked. -/
  prompt : Value := .null
  /-- The domain of the user. -/
  domainHint : Value := .null
  /-- The name of the user. -/
  loginHint : Value := .null
  /-- The challenge of a proof key. -/
  codeChallenge : Value := .null
  /-- How the challenge was made. -/
  codeChallengeMethod : Value := .null

namespace SignInOptions

/-- The options with the one of a name set; an unknown name is refused. -/
def set (options : SignInOptions) (name : String) (value : Value) :
    Except Failure SignInOptions :=
  match name with
  | "response_type" => .ok { options with responseType := value }
  | "response_mode" => .ok { options with responseMode := some value }
  | "state" => .ok { options with state := value }
  | "nonce" => .ok { options with nonce := value }
  | "prompt" => .ok { options with prompt := value }
  | "domain_hint" => .ok { options with domainHint := value }
  | "login_hint" => .ok { options with loginHint := value }
  | "code_challenge" => .ok { options with codeChallenge := value }
  | "code_challenge_method" => .ok { options with codeChallengeMethod := value }
  | _ => .error .wrongKind

/-- The options that named values set. -/
def ofMembers (members : Members) : Except Failure SignInOptions :=
  members.foldlM (fun options (name, value) => options.set name value) {}

end SignInOptions

namespace Choice

/-- The distinct values of a list, in the order in which they first occur. -/
def distinct (items : List Value) : List Value :=
  items.foldl (fun seen item => if seen.any (·.same item) then seen else seen ++ [item]) []

/-- The set that a value gives: nothing, a text's words, or the items of a list. -/
def ofValue : Value → Except Failure (List Value)
  | .null => .ok []
  | .text s => .ok (distinct ((Text.wordsOf s).map .text))
  | value => do
      let items ← value.toItems
      if items.all (·.isAtomic) then pure (distinct items) else throw .wrongKind

/-- Whether a set holds a text. -/
def contains (choices : List Value) (s : String) : Bool := choices.any (·.same (.text s))

/-- The texts of a set in order, joined by spaces. -/
def sortedText (choices : List Value) : Except Failure String :=
  (Value.toTexts choices).map fun texts => String.intercalate " " (TextSet.ofList texts)

/-- Whether a value is a number or a truth value. -/
def isNumber (value : Value) : Bool := value.sameNumber value

/-- A list of values in order, if they can be ordered: texts only or numbers only. -/
def sorted (choices : List Value) : Except Failure (List Value) :=
  match Value.toTexts choices with
  | .ok texts => .ok ((TextSet.ofList texts).map .text)
  | .error _ =>
      if choices.length ≤ 1 then .ok choices
      else if choices.all isNumber then
        .ok (choices.mergeSort fun a b => b.compareNumbers? a != some .lt)
      else .error .wrongKind

/-- The prompts that the service knows. -/
def prompts : List String := ["login", "none", "consent", "select_account", "create"]

/-- The prompts of a value in order; unknown ones are refused. -/
def promptsOf (value : Value) : Except Failure (List String) := do
  let choices ← ofValue value
  let unknown := choices.filter fun choice => !prompts.any fun known => choice.same (.text known)
  if unknown.isEmpty then (Value.toTexts choices).map TextSet.ofList
  else
    let listed ← sorted unknown
    throw (.authorization "prompt" ("Unsupported prompt values: " ++ (Value.list listed).plainText))

end Choice

end OAuthClient
