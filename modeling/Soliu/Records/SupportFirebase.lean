import Soliu.Records.TestInformation

/-!
# Writing results: `SupportFirebase.swift`

The two writes of a finished test. Each of them reads the clock on its own, and each builds an
untyped dictionary; `testScoreRequest_eq` and `allTestScoreRequest_eq` say that these dictionaries
are the encoded records of `TestInformation.swift`.
-/

namespace Soliu

namespace SupportString

/-- The names of the fields of a user's document. -/
def grade := "grade"
def gender := "gender"
def major := "major"
def testResult := "testResult"

end SupportString

/-- The path of the shared document. -/
def allTestScore := "All_Test_Score"

/-- A uid given out by Firebase Auth: a nonempty string of letters and digits. -/
structure Uid where
  val : String
  nonempty : val ≠ ""
  alphanum : ∀ c ∈ val.toList, c.isAlphanum = true
deriving DecidableEq

namespace Uid

/-- A uid is its text. -/
lemma ext_val {u v : Uid} (h : u.val = v.val) : u = v := by
  cases u; cases v; cases h; rfl

/-- No user has the uid that is the path of the shared document. -/
lemma val_ne_allTestScore (u : Uid) : u.val ≠ allTestScore := by
  intro h
  have hc := u.alphanum '_' (by rw [h]; decide)
  exact absurd hc (by decide)

/-- The uid of one letter or digit. -/
def letter (c : Char) (h : c.isAlphanum = true) : Uid where
  val := String.singleton c
  nonempty := by simp
  alphanum d hd := by
    rw [String.toList_singleton, List.mem_singleton] at hd
    rw [hd, h]

/-- The reference to the document of a user is never refused. -/
@[simp]
lemma document_val (u : Uid) : document u.val = some u.val := if_neg u.nonempty

end Uid

/-- A clock reading, in seconds and nanoseconds since the beginning of 1970. -/
structure Date where
  seconds : ℤ
  nanoseconds : Fin 1000000000
deriving DecidableEq

/-- A number in decimal, filled up with zeros in front to the width. -/
def zeroPadded (width n : ℕ) : String :=
  String.ofList (List.replicate (width - (toString n).length) '0') ++ toString n

/-- `Formatter.iso8601withFractionalSeconds.string(from:)`. The formatter is made with the option
`.withInternetDateTime` alone, so the string ends with the whole second, whatever its name says. -/
def Date.iso8601withFractionalSeconds (date : Date) : String :=
  let secondOfDay := (date.seconds % 86400).toNat
  -- days since 1 March of the year 0, split into eras of 400 years
  let day := date.seconds / 86400 + 719468
  let dayOfEra := (day % 146097).toNat
  let yearOfEra := (dayOfEra - dayOfEra / 1460 + dayOfEra / 36524 - dayOfEra / 146096) / 365
  let dayOfYear := dayOfEra - (365 * yearOfEra + yearOfEra / 4 - yearOfEra / 100)
  let shiftedMonth := (5 * dayOfYear + 2) / 153
  let dayOfMonth := dayOfYear - (153 * shiftedMonth + 2) / 5 + 1
  let month := if shiftedMonth < 10 then shiftedMonth + 3 else shiftedMonth - 9
  let year := day / 146097 * 400 + yearOfEra + (if month ≤ 2 then 1 else 0)
  zeroPadded 4 year.toNat ++ "-" ++ zeroPadded 2 month ++ "-" ++ zeroPadded 2 dayOfMonth ++ "T" ++
    zeroPadded 2 (secondOfDay / 3600) ++ ":" ++ zeroPadded 2 (secondOfDay / 60 % 60) ++ ":" ++
    zeroPadded 2 (secondOfDay % 60) ++ "Z"

/-- The text of a date is not empty. -/
lemma Date.iso8601_ne_empty (date : Date) : date.iso8601withFractionalSeconds ≠ "" := by
  simp [iso8601withFractionalSeconds]

/-- Dates in one second have one text. -/
lemma Date.iso8601_eq_of_seconds {s t : Date} (h : s.seconds = t.seconds) :
    s.iso8601withFractionalSeconds = t.iso8601withFractionalSeconds := by
  simp only [iso8601withFractionalSeconds, h]

example : Date.iso8601withFractionalSeconds ⟨951782400, 500000000⟩ = "2000-02-29T00:00:00Z" := by
  decide

/-- The helper through which results are written and read, with the uid it keeps. -/
structure SupportFirebase where
  /-- `Auth.auth().currentUser?.uid ?? ""`, read once when the object is made. -/
  currentUser : String
deriving DecidableEq

namespace SupportFirebase

/-- The initialiser: the uid is empty if nobody is signed in. -/
def init (auth : Option Uid) : SupportFirebase :=
  { currentUser := (auth.map Uid.val).getD "" }

/-- The request of `updateTestScore` once the clock has been read. -/
def testScoreRequest (self : SupportFirebase) (testScore : List ℤ) (dateString : String) :
    Option Request := do
  let savedDictionaryArray := Value.dictionary
    [("testScore", .array (testScore.map .integer)), ("testDate", .string dateString)]
  let ref ← document self.currentUser
  return .updateData ref "testResult" [savedDictionaryArray]

/-- The request that unites a result into the shared document. -/
def allTestScoreRequest (self : SupportFirebase) (testScore : List ℤ) (dateString : String) :
    Option Request := do
  let dbRef ← document "All_Test_Score"
  let savedDictionaryArray := Value.dictionary
    [("testScore", .array (testScore.map .integer)), ("testDate", .string dateString),
      ("testUid", .string self.currentUser)]
  return .updateData dbRef "testResult" [savedDictionaryArray]

/-- Writes a result to the user's own document, with the clock reading of this call. -/
def updateTestScore (self : SupportFirebase) (testScore : List ℤ) (date : Date) : Option Request :=
  self.testScoreRequest testScore date.iso8601withFractionalSeconds

/-- Writes a result to the shared document, with the clock reading of this call. -/
def updateAllTestScore (self : SupportFirebase) (testScore : List ℤ) (date : Date) :
    Option Request :=
  self.allTestScoreRequest testScore date.iso8601withFractionalSeconds

/-- With a uid at hand, `updateTestScore` adds the encoded record to that user's document. -/
lemma testScoreRequest_eq (self : SupportFirebase) {testScore : List ℤ} {dateString : String}
    (h : self.currentUser ≠ "") :
    self.testScoreRequest testScore dateString =
      some (.updateData self.currentUser "testResult"
        [TestResult.encode ⟨dateString, testScore⟩]) := by
  have e : document self.currentUser = some self.currentUser := if_neg h
  simp [testScoreRequest, e, Value.dictionary, Fields.ofList, Fields.insert, Fields.precedes,
    TestResult.encode]

/-- Without one it traps before it writes anything. -/
lemma testScoreRequest_of_empty {testScore : List ℤ} {dateString : String} :
    testScoreRequest ⟨""⟩ testScore dateString = none := rfl

/-- The request for the shared document carries the encoding of the result. -/
lemma allTestScoreRequest_eq {self : SupportFirebase} {testScore : List ℤ} {dateString : String} :
    self.allTestScoreRequest testScore dateString =
      some (.updateData allTestScore "testResult"
        [TestResultWithUid.encode ⟨dateString, testScore, self.currentUser⟩]) := by
  simp [allTestScoreRequest, document, allTestScore, Value.dictionary, Fields.ofList,
    Fields.insert, Fields.precedes, TestResultWithUid.encode]

end SupportFirebase

end Soliu
