import Mathlib.Data.Rat.Floor
import Mathlib.Tactic.Common

/-!
# Question files

What `JSONSerialization` makes of a bundled question file, the casts that
`populateTestQuestionDataFromJson` applies to it, and the questions that come out. A file that is
absent or malformed, and a file whose casts fail, gives no questions (`FileContent.questions`).
-/

namespace Soliu

/-- The JSON values. -/
inductive Json where
  | null
  | bool (b : Bool)
  | number (q : ℚ)
  | string (s : String)
  | array (vs : List Json)
  | object (fs : List (String × Json))

namespace Json

/-- The cast to a dictionary. -/
def asDictionary : Json → Option (List (String × Json))
  | object fs => some fs
  | _ => none

/-- `as? [[String: Any]]`: every element has to be a dictionary. -/
def asDictionaries : Json → Option (List (List (String × Json)))
  | array vs => vs.mapM asDictionary
  | _ => none

/-- `as? Int` of a bridged number: a whole number of 64 bits, or a truth value as 1 or 0. -/
def asInt : Json → Option ℤ
  | number q => if q.den = 1 ∧ -2 ^ 63 ≤ q.num ∧ q.num < 2 ^ 63 then some q.num else none
  | bool b => some (if b then 1 else 0)
  | _ => none

/-- The cast to a string. -/
def asString : Json → Option String
  | string s => some s
  | _ => none

end Json

/-- What the bundle has for a file: nothing, no JSON, or a JSON value. -/
inductive FileContent where
  | absent
  | notJson
  | json (value : Json)

/-- The resource files of the bundle, by name, all of type `json`. -/
abbrev Bundle := String → FileContent

/-- A question, with the number of all questions. -/
structure TestQuestion where
  question : String
  totalQuestionNumber : ℤ
deriving DecidableEq

namespace FileContent

/-- The bindings `results` and `questionNumber` of the loader, if it gets that far. -/
def questions (number : ℤ) : FileContent → Option (List (List (String × Json)) × ℤ)
  | absent => none
  | notJson => none
  | json jsonDict => do
    let jsonResults ← jsonDict.asDictionary
    let results ← (← jsonResults.lookup ("testQuestion" ++ toString number)).asDictionaries
    let questionNumber ← (← jsonResults.lookup "totalQuestionNumber").asInt
    return (results, questionNumber)

end FileContent

/-- The question of a dictionary, with a text of its own where there is none. -/
def TestQuestion.ofDictionary (questionNumber : ℤ) (dict : List (String × Json)) :
    TestQuestion where
  question := ((dict.lookup "question").bind Json.asString).getD "No Question Available"
  totalQuestionNumber := questionNumber

/-- The questions appended by `populateTestQuestionDataFromJson`. -/
def Bundle.loadQuestions (bundle : Bundle) (number : ℤ) : List TestQuestion :=
  match (bundle ("testQuestion" ++ toString number)).questions number with
  | some (results, questionNumber) => results.map (TestQuestion.ofDictionary questionNumber)
  | none => []

/-- The questions of a file that can be read. -/
lemma Bundle.loadQuestions_of_some {bundle : Bundle} {number : ℤ}
    {results : List (List (String × Json))} {total : ℤ}
    (h : (bundle ("testQuestion" ++ toString number)).questions number = some (results, total)) :
    bundle.loadQuestions number = results.map (TestQuestion.ofDictionary total) := by
  rw [loadQuestions, h]

/-- A file that cannot be read gives no questions. -/
lemma Bundle.loadQuestions_of_none {bundle : Bundle} {number : ℤ}
    (h : (bundle ("testQuestion" ++ toString number)).questions number = none) :
    bundle.loadQuestions number = [] := by
  rw [loadQuestions, h]

/-! ## The bundled file -/

/-- The questions of the file in the repository. -/
def testQuestion1 : List String :=
  ["I felt downhearted and blue",
    "I felt that I had nothing to look forward to",
    "I felt that life was meaningless",
    "I felt I wasn’t worth much as a person",
    "I was unable to become enthusiastic about anything",
    "I was aware of dryness of my mouth",
    "I experienced trembling (e.g., in the hands)",
    "I was worried about situations in which I might panic and make a fool of myself",
    "I felt I was close to panic",
    "I felt scared without any good reason",
    "I found it hard to wind down",
    "I felt that I was using a lot of nervous energy",
    "I found myself getting agitated",
    "I tended to over-react to situations",
    "I was intolerant of anything that kept me from getting on with what I was doing"]

/-- A bundle that holds `testQuestion1.json` and nothing else. -/
def Bundle.main : Bundle := fun name =>
  if name = "testQuestion1" then
    .json (.object [("testQuestion1",
        .array (testQuestion1.map fun text => .object [("question", .string text)])),
      ("totalQuestionNumber", .number 15)])
  else .absent

example : Bundle.main.loadQuestions 1 = testQuestion1.map (TestQuestion.mk · 15) := by decide

end Soliu
