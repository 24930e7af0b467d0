import Soliu.Firestore.Collection

/-!
# The records of `TestInformation.swift`

The record types that the profile decodes, with their `Codable` decoders by key. For each of them
`encode` is the value or the document that holds exactly the record: decoding undoes it
(`decode_encode`), and two test results are equal as records exactly when they are equal as field
values (`encode_injective`), which is what `arrayUnion` compares.
-/

namespace Soliu

/-- One sheet in a user's own document. -/
structure TestResult where
  testDate : String
  testScore : List ℤ
deriving DecidableEq

/-- A user's document. -/
structure TestInformation where
  gender : String
  grade : String
  major : String
  testResult : List TestResult
deriving DecidableEq

/-- One sheet in the document shared by all users. -/
structure TestResultWithUid where
  testDate : String
  testScore : List ℤ
  testUid : String
deriving DecidableEq

/-- The shared document. -/
structure AllTestResult where
  testResult : List TestResultWithUid
deriving DecidableEq

namespace TestResult

/-- The decoding of one result. -/
def decode : Value → Option TestResult :=
  Value.decodeMap fun fs => do
    let testDate ← fs.decode "testDate" Value.decodeString
    let testScore ← fs.decode "testScore" (Value.decodeArray Value.decodeInt)
    return { testDate, testScore }

/-- The dictionary that is written for one result. -/
def encode (r : TestResult) : Value :=
  .map [("testDate", .string r.testDate), ("testScore", .array (r.testScore.map .integer))]

/-- The dictionary written for a result is decoded to it. -/
lemma decode_encode (r : TestResult) : decode r.encode = some r := by
  have h := mapM_decode_map (fun n => (rfl : Value.decodeInt (.integer n) = some n)) r.testScore
  simp [decode, encode, Value.decodeMap, Fields.decode, Fields.lookup_cons, Value.decodeString,
    Value.decodeArray, h]

/-- Different results are written differently. -/
lemma encode_injective : Function.Injective encode := by
  intro r s h
  have e := congrArg decode h
  rw [decode_encode, decode_encode] at e
  exact Option.some.inj e

end TestResult

namespace TestResultWithUid

/-- The decoding of one shared result. -/
def decode : Value → Option TestResultWithUid :=
  Value.decodeMap fun fs => do
    let testDate ← fs.decode "testDate" Value.decodeString
    let testScore ← fs.decode "testScore" (Value.decodeArray Value.decodeInt)
    let testUid ← fs.decode "testUid" Value.decodeString
    return { testDate, testScore, testUid }

/-- The dictionary that is written for one shared result. -/
def encode (r : TestResultWithUid) : Value :=
  .map [("testDate", .string r.testDate), ("testScore", .array (r.testScore.map .integer)),
    ("testUid", .string r.testUid)]

/-- The dictionary written for a shared result is decoded to it. -/
lemma decode_encode (r : TestResultWithUid) : decode r.encode = some r := by
  have h := mapM_decode_map (fun n => (rfl : Value.decodeInt (.integer n) = some n)) r.testScore
  simp [decode, encode, Value.decodeMap, Fields.decode, Fields.lookup_cons, Value.decodeString,
    Value.decodeArray, h]

/-- Different shared results are written differently. -/
lemma encode_injective : Function.Injective encode := by
  intro r s h
  have e := congrArg decode h
  rw [decode_encode, decode_encode] at e
  exact Option.some.inj e

end TestResultWithUid

namespace TestInformation

/-- The decoding of a user's document. -/
def decode (fs : Document) : Option TestInformation := do
  let gender ← fs.decode "gender" Value.decodeString
  let grade ← fs.decode "grade" Value.decodeString
  let major ← fs.decode "major" Value.decodeString
  let testResult ← fs.decode "testResult" (Value.decodeArray TestResult.decode)
  return { gender, grade, major, testResult }

/-- The fields of a user's document. -/
def encode (info : TestInformation) : Document :=
  [("gender", .string info.gender), ("grade", .string info.grade), ("major", .string info.major),
    ("testResult", .array (info.testResult.map TestResult.encode))]

/-- The fields written for a user's document are decoded to it. -/
lemma decode_encode (info : TestInformation) : decode info.encode = some info := by
  have h := mapM_decode_map TestResult.decode_encode info.testResult
  simp [decode, encode, Fields.decode, Fields.lookup_cons, Value.decodeString, Value.decodeArray, h]

end TestInformation

namespace AllTestResult

/-- The decoding of the shared document. -/
def decode (fs : Document) : Option AllTestResult := do
  let testResult ← fs.decode "testResult" (Value.decodeArray TestResultWithUid.decode)
  return { testResult }

/-- The fields of the shared document. -/
def encode (all : AllTestResult) : Document :=
  [("testResult", .array (all.testResult.map TestResultWithUid.encode))]

/-- The fields written for the shared document are decoded to it. -/
lemma decode_encode (all : AllTestResult) : decode all.encode = some all := by
  have h := mapM_decode_map TestResultWithUid.decode_encode all.testResult
  simp [decode, encode, Fields.decode, Value.decodeArray, h]

end AllTestResult

/-! ## Growing a record by one test -/

/-- The record with one more result, if it is new. -/
def TestInformation.record (info : TestInformation) (r : TestResult) : TestInformation :=
  { info with testResult := UnionList.addNew info.testResult r }

/-- The shared results with one more, if it is new. -/
def AllTestResult.record (all : AllTestResult) (r : TestResultWithUid) : AllTestResult :=
  { testResult := UnionList.addNew all.testResult r }

/-- A union into the `testResult` field of an encoded record records the test. -/
lemma TestInformation.insert_arrayUnion (info : TestInformation) (r : TestResult) :
    info.encode.insert "testResult" (arrayUnion (List.lookup "testResult" info.encode) [r.encode]) =
      (info.record r).encode := by
  simp [encode, record, Fields.insert, Fields.precedes, Fields.lookup_cons, arrayUnion,
    UnionList.map_addNew TestResult.encode_injective]

/-- The array union with the encoding of a result records the result. -/
lemma AllTestResult.insert_arrayUnion (all : AllTestResult) (r : TestResultWithUid) :
    all.encode.insert "testResult" (arrayUnion (List.lookup "testResult" all.encode) [r.encode]) =
      (all.record r).encode := by
  simp [encode, record, Fields.insert, arrayUnion,
    UnionList.map_addNew TestResultWithUid.encode_injective]

end Soliu
