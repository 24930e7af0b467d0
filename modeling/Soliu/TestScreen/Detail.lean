import Soliu.Basic.BinaryFormat
import Soliu.Basic.Machine
import Soliu.Basic.Slice
import Soliu.Records.SupportFirebase
import Soliu.TestScreen.Question

/-!
# Taking the test: `TestDetailViewModel.swift` and `TestDetailViewController.swift`

The view model with the questions and its own question counter, and the controller with a second
counter and the answers so far. One tap on an answer button appends the answer (`touchAnswer`),
moves on or submits (`increaseProgress`), and uploads and clears a full sheet (`uploadScore`).
Reading an array out of its bounds is a trap (`none`).
-/

namespace Soliu

/-- The questions, and the number of the one that is shown. -/
structure TestDetailViewModel where
  testQuestion : List TestQuestion := []
  currentQuestionCount : ℕ := 1
deriving DecidableEq

/-- The dictionary that `uploadData` stores under `newUsers`. -/
structure SectionScore where
  depression : ExactDouble
  anxiety : ExactDouble
  stress : ExactDouble
deriving DecidableEq

namespace TestDetailViewModel

/-- The sum of a section over 3; the slice traps on a short list. -/
def sectionScore (testScore : List ExactDouble) (lower upper : ℕ) : Option ExactDouble :=
  (Slice.slice testScore lower upper).map fun scores => scores.foldl (· + ·) 0 / 3

/-- The scores of the three sections, which trap in this order. -/
def sectionScores (testScore : List ExactDouble) : Option SectionScore := do
  let depression ← sectionScore testScore 0 4
  let anxiety ← sectionScore testScore 5 9
  let stress ← sectionScore testScore 10 14
  return { depression, anxiety, stress }

/-- `uploadData`: the value set under `newUsers` for the user signed in, if there is one. -/
def uploadData (testScore : List ExactDouble) (user : Option Uid) :
    Option (Option (Uid × SectionScore)) := do
  let score ← sectionScores testScore
  return user.map (·, score)

/-- Appends the questions of the file. -/
def populateTestQuestionDataFromJson (self : TestDetailViewModel) (bundle : Bundle) (number : ℤ) :
    TestDetailViewModel :=
  { self with testQuestion := self.testQuestion ++ bundle.loadQuestions number }

/-- A quotient of floats, so with a single question there is no trap. -/
def getProgress (self : TestDetailViewModel) : Binary32 :=
  ((self.currentQuestionCount : ℤ) : Binary32) / ((self.testQuestion.length - 1 : ℤ) : Binary32)

/-- The text of the question shown; the index traps. -/
def getQuestionText (self : TestDetailViewModel) : Option String :=
  self.testQuestion[self.currentQuestionCount - 1]?.map (·.question)

/-- Goes to the next question, and back to the first after the last. -/
def nextQuestion (self : TestDetailViewModel) : TestDetailViewModel :=
  if self.currentQuestionCount + 1 < self.testQuestion.length + 1 then
    { self with currentQuestionCount := self.currentQuestionCount + 1 }
  else
    { self with currentQuestionCount := 1 }

/-- The total of the first question; the index traps. -/
def getTotalQuestion (self : TestDetailViewModel) : Option ℤ :=
  self.testQuestion[0]?.map (·.totalQuestionNumber)

end TestDetailViewModel

/-- What the controller asks others for, in order. -/
inductive TestDetailOutput where
  | updateTestScore (testScore : List ℤ)
  | updateAllTestScore (testScore : List ℤ)
  | loadingSpinner
  | uploadData (testScore : List ExactDouble)
deriving DecidableEq

/-- The five answer buttons. -/
inductive AnswerButton where
  | answer1
  | answer2
  | answer3
  | answer4
  | answer5
deriving DecidableEq

/-- The controller; its labels are `none` until they are first set. -/
structure TestDetailViewController where
  currentCount : ℤ := 1
  viewModel : TestDetailViewModel := {}
  testScore : List ExactDouble := []
  question : Option String := none
  totalQuestion : Option String := none
  currentQuestion : Option String := none
  progress : Option Binary32 := none
deriving DecidableEq

namespace TestDetailViewController

/-- `viewDidLoad`, which the source calls with the number 1. -/
def viewDidLoad (self : TestDetailViewController) (bundle : Bundle) (number : ℤ) :
    Option TestDetailViewController := do
  let viewModel := self.viewModel.populateTestQuestionDataFromJson bundle number
  let question ← viewModel.getQuestionText
  let totalQuestion ← viewModel.getTotalQuestion
  return { self with viewModel, question := some question,
                     totalQuestion := some (toString totalQuestion) }

/-- Moves on to the next question, or sends the result off after the last. -/
def increaseProgress (self : TestDetailViewController) :
    Option (TestDetailViewController × List TestDetailOutput) := do
  let total ← self.viewModel.getTotalQuestion
  if self.currentCount ≠ total then
    let currentCount := self.currentCount + 1
    let progress := self.viewModel.getProgress
    let viewModel := self.viewModel.nextQuestion
    let question ← viewModel.getQuestionText
    return ({ self with currentCount, viewModel, progress := some progress,
                        question := some question,
                        currentQuestion := some (toString currentCount) }, [])
  else
    -- `currentCount` stays where it is, so the next tap gets here again
    let testScoreArray ← self.testScore.mapM ExactDouble.toInt?
    return (self, [.updateTestScore testScoreArray, .updateAllTestScore testScoreArray,
      .loadingSpinner])

/-- Uploads the scores of a complete sheet, and begins a new one. -/
def uploadScore (self : TestDetailViewController) :
    Option (TestDetailViewController × List TestDetailOutput) := do
  let total ← self.viewModel.getTotalQuestion
  if self.testScore.length = total then
    -- the slices are taken before anybody asks who is signed in
    let _ ← TestDetailViewModel.sectionScores self.testScore
    return ({ self with testScore := [] }, [.uploadData self.testScore])
  else
    return (self, [])

/-- The body that the five actions share. -/
def touchAnswer (self : TestDetailViewController) (score : ExactDouble) :
    Option (TestDetailViewController × List TestDetailOutput) := do
  let self := { self with testScore := self.testScore ++ [score] }
  let (self, submitted) ← self.increaseProgress
  let (self, uploaded) ← self.uploadScore
  return (self, submitted ++ uploaded)

/-- The actions of the five buttons. -/
def touchAnswer1 (self : TestDetailViewController) := self.touchAnswer 1
def touchAnswer2 (self : TestDetailViewController) := self.touchAnswer 2
def touchAnswer3 (self : TestDetailViewController) := self.touchAnswer 3
def touchAnswer4 (self : TestDetailViewController) := self.touchAnswer 4
def touchAnswer5 (self : TestDetailViewController) := self.touchAnswer 5

/-- The controller as a machine. -/
def machine : Machine TestDetailViewController AnswerButton TestDetailOutput where
  step self
    | .answer1 => self.touchAnswer1
    | .answer2 => self.touchAnswer2
    | .answer3 => self.touchAnswer3
    | .answer4 => self.touchAnswer4
    | .answer5 => self.touchAnswer5

end TestDetailViewController

end Soliu
