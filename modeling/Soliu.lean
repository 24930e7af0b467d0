import Soliu.Basic.Machine
import Soliu.Basic.UnionList
import Soliu.Basic.ExactDouble
import Soliu.Basic.BinaryFormat
import Soliu.Basic.Slice
import Soliu.Basic.Blocks
import Soliu.Basic.Mean
import Soliu.Basic.Lexicographic
import Soliu.Basic.Strtoul
import Soliu.Basic.StrictWeak
import Soliu.Basic.Network
import Soliu.Basic.Greedy
import Soliu.Basic.Gregorian
import Soliu.Basic.Decimal
import Soliu.Basic.Transaction
import Soliu.Firestore.Value
import Soliu.Firestore.Collection
import Soliu.Firestore.Extension
import Soliu.Records.TestInformation
import Soliu.Records.SupportFirebase
import Soliu.Records.Register
import Soliu.Records.Ledger
import Soliu.Records.RoundTrip
import Soliu.Records.Agreement
import Soliu.Records.Announcement
import Soliu.Records.ReEnter
import Soliu.Records.Reading
import Soliu.Records.Timestamps
import Soliu.TestScreen.Question
import Soliu.TestScreen.Detail
import Soliu.TestScreen.Run
import Soliu.TestScreen.Submission
import Soliu.TestScreen.Safety
import Soliu.TestScreen.Alignment
import Soliu.Profile.ViewModel
import Soliu.Profile.Safety
import Soliu.Profile.Reads
import Soliu.Profile.SingleRead
import Soliu.Profile.Averages
import Soliu.Profile.Scorers
import Soliu.Session.Attribution
import Soliu.Session.Navigation
import Soliu.Session.SignInButton
import Soliu.Diary.ViewModel
import Soliu.Diary.Consistency
import Soliu.Diary.Deletion
import Soliu.Diary.Mood
import Soliu.Diary.Note
import Soliu.Diary.Calendar
import Soliu.Diary.Chronology
import Soliu.Diary.Comparator
import Soliu.Diary.Rows
import Soliu.Diary.Launches
import Soliu.Diary.Table
import Soliu.Diary.Screen
import Soliu.Color.UIColor
import Soliu.Color.Ascii
import Soliu.Color.Agreement
import Soliu.Color.Grammar
import Soliu.System.Phone
import Soliu.System.Refinement
import Soliu.System.Backend
import Soliu.System.Results
import Soliu.System.Profile
import Soliu.System.Documents
