import OAuthClient.Identity.Parameter
import OAuthClient.Identity.Redaction
import OAuthClient.Text.Form
import OAuthClient.Text.SortedSet

/-!
# Parameter maps

Named parameters and a set of scopes, and their rendering as a query or as a form. A blank value is
never stored, a required parameter must have a value, and no parameter that was not asked for is
rendered.
-/

namespace OAuthClient

/-- Parameters with their values, and scopes. -/
structure ParameterMap where
  /-- The values in the order in which their parameters were first set. -/
  parameters : List (Parameter × String) := []
  /-- The scopes, a sorted set. -/
  scopes : List String := []
  /-- Whether debug text shows secrets. -/
  logPii : Bool := false

namespace ParameterMap

/-- The map with a parameter set to the text of a value; null and blank texts change nothing. -/
def insert (map : ParameterMap) (parameter : Parameter) (value : Value) : ParameterMap :=
  if value.isNull || Text.isBlankText value.plainText then map
  else { map with parameters := Assoc.put parameter value.plainText map.parameters }

/-- The map with a parameter set to a text; a blank text changes nothing. -/
def insertText (map : ParameterMap) (parameter : Parameter) (text : String) : ParameterMap :=
  map.insert parameter (.text text)

/-- The scopes joined by a separator. -/
def joinScopes (map : ParameterMap) (separator : String) : String :=
  String.intercalate separator map.scopes

/-- The value of a parameter. That of the scope parameter is the set of scopes. -/
def get? (map : ParameterMap) : Parameter → Option String
  | .scope => if map.scopes.isEmpty then none else some (map.joinScopes " ")
  | parameter => Assoc.get? parameter map.parameters

/-- Whether a parameter has a value. -/
def contains (map : ParameterMap) (parameter : Parameter) : Bool := (map.get? parameter).isSome

/-- The map without a parameter; the scope parameter stands for the set of scopes. -/
def remove (map : ParameterMap) : Parameter → ParameterMap
  | .scope => { map with scopes := [] }
  | parameter => { map with parameters := Assoc.erase parameter map.parameters }

/-- The map with one more scope, without its blank ends; a blank scope changes nothing. -/
def addScope (map : ParameterMap) (scope : Value) : ParameterMap :=
  if scope.isPresent && !Text.isBlankText scope.plainText then
    { map with scopes := TextSet.insert (Text.trimmed scope.plainText) map.scopes }
  else map

/-- The map with scopes from a list. -/
def addScopes (map : ParameterMap) (scopes : List Value) : ParameterMap :=
  scopes.foldl addScope map

/-- The map with the scopes of a value: a text's words or a value's items. A value that does not
count as present has none. -/
def extendScopes (map : ParameterMap) : Value → Except Failure ParameterMap
  | .text s => .ok (map.addScopes ((Text.wordsOf s).map .text))
  | value => if value.isPresent then value.toItems.map map.addScopes else .ok map

/-- The map with the response type set to the sorted distinct items of a value. -/
def responseTypes (map : ParameterMap) (value : Value) : Except Failure ParameterMap := do
  let texts ← Value.toTexts (← value.toItems)
  pure (map.insertText .responseType (String.intercalate " " (TextSet.ofList texts)))

/-- The names and values of required parameters; the first one without a value is missing. -/
def collectRequired (map : ParameterMap) :
    List Parameter → Except Failure (List (String × String))
  | [] => .ok []
  | parameter :: rest =>
      match map.get? parameter with
      | none => .error (.required parameter.wireName)
      | some value => (map.collectRequired rest).map ((parameter.wireName, value) :: ·)

/-- The names and values of those optional parameters that have one. -/
def collectOptional (map : ParameterMap) (optional : List Parameter) : List (String × String) :=
  optional.filterMap fun parameter =>
    (map.get? parameter).map fun value => (parameter.wireName, value)

/-- The names and values to render: the required parameters, then the optional ones. -/
def collect (map : ParameterMap) (optional required : List Parameter) :
    Except Failure (List (String × String)) :=
  (map.collectRequired required).map (· ++ map.collectOptional optional)

/-- The query of required and optional parameters. -/
def toQuery (map : ParameterMap) (optional required : List Parameter) : Except Failure String :=
  (map.collect optional required).map Text.Form.encode

/-- The form of required and optional parameters. -/
def toForm (map : ParameterMap) (optional required : List Parameter) :
    Except Failure (List (String × String)) :=
  (map.collect optional required).map Assoc.ofPairs

/-- What debug text shows of a parameter. -/
def shown (map : ParameterMap) (pair : Parameter × String) : String × Value :=
  (pair.1.wireName, .text (if pair.1.isSensitive && !map.logPii then hidden else pair.2))

/-- The debug text of a map. Secrets are hidden unless personal data may be shown. -/
def describe (map : ParameterMap) : String :=
  "OAuthSerializer(parameters=" ++ (Value.object (map.parameters.map map.shown)).quotedText ++
    ", scopes=" ++ (Value.list (map.scopes.map .text)).quotedText ++ ")"

@[simp] theorem get?_scope (map : ParameterMap) :
    map.get? .scope = if map.scopes.isEmpty then none else some (map.joinScopes " ") := rfl

theorem get?_of_ne_scope (map : ParameterMap) {parameter : Parameter}
    (h : parameter ≠ .scope) : map.get? parameter = Assoc.get? parameter map.parameters := by
  cases parameter <;> simp_all [get?]

/-- Setting a parameter to a text that is not blank gives it that value. -/
theorem get?_insertText_self (map : ParameterMap) {parameter : Parameter} {text : String}
    (hparameter : parameter ≠ .scope) (htext : Text.isBlankText text = false) :
    (map.insertText parameter text).get? parameter = some text := by
  rw [get?_of_ne_scope _ hparameter]
  simp [insertText, insert, Value.isNull, htext]

/-- Setting a parameter leaves the others alone. -/
theorem get?_insert_of_ne (map : ParameterMap) {parameter other : Parameter} (value : Value)
    (hne : other ≠ parameter) : (map.insert parameter value).get? other = map.get? other := by
  unfold insert
  split
  · rfl
  · cases other <;> first | rfl | exact Assoc.get?_put_of_ne hne _ _

end ParameterMap

end OAuthClient
