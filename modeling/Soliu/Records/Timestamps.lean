import Mathlib.Data.String.Basic
import Soliu.Basic.Decimal
import Soliu.Basic.Gregorian
import Soliu.Basic.Lexicographic
import Soliu.Records.Agreement

/-!
# The dates of the results

A result is stored with the text of its date. In the years 0 to 9999 these texts are ordered as the
seconds are (`iso8601_lt_iff`), and two of them are equal only in the same second. Since a store
that has a result already does not take it again, the results that are lost are those of a user who
has finished two tests with the same answers in the same whole second (`results_kept_iff`).
-/

namespace Soliu

open List Lexicographic Decimal Gregorian

namespace Date

/-- The date is in one of the years 0 to 9999, in which its text is the one of RFC 3339. -/
def HasFourDigits (date : Date) : Prop :=
  -62167219200 ≤ date.seconds ∧ date.seconds < 253402300800

/-- The range of a date is decided by comparing its seconds. -/
instance (date : Date) : Decidable date.HasFourDigits := inferInstanceAs (Decidable (_ ∧ _))

/-- The days since 1 March of the year 0. -/
def day (date : Date) : ℤ := date.seconds / 86400 + 719468

/-- The second within the day of the date. -/
def secondOfDay (date : Date) : ℕ := (date.seconds % 86400).toNat

variable {s t : Date}

/-- A zero-padded number has the padded list of digits. -/
lemma toList_zeroPadded (width n : ℕ) : (zeroPadded width n).toList = padded width n := by
  rw [zeroPadded, String.toList_append, String.toList_ofList, padded]

/-- The digits and separators of the text of a date. -/
lemma toList_iso8601 (date : Date) :
    date.iso8601withFractionalSeconds.toList =
      padded 4 (Gregorian.date date.day).1.toNat ++ '-' ::
        (padded 2 (Gregorian.date date.day).2.1 ++ '-' ::
          (padded 2 (Gregorian.date date.day).2.2 ++ 'T' ::
            (padded 2 (date.secondOfDay / 3600) ++ ':' ::
              (padded 2 (date.secondOfDay / 60 % 60) ++ ':' ::
                (padded 2 (date.secondOfDay % 60) ++ 'Z' :: []))))) := by
  have htext : date.iso8601withFractionalSeconds =
      zeroPadded 4 (Gregorian.date date.day).1.toNat ++ "-" ++
        zeroPadded 2 (Gregorian.date date.day).2.1 ++ "-" ++
        zeroPadded 2 (Gregorian.date date.day).2.2 ++ "T" ++
        zeroPadded 2 (date.secondOfDay / 3600) ++ ":" ++
        zeroPadded 2 (date.secondOfDay / 60 % 60) ++ ":" ++
        zeroPadded 2 (date.secondOfDay % 60) ++ "Z" := rfl
  rw [htext]
  simp only [String.toList_append, toList_zeroPadded, String.reduceToList, List.append_assoc,
    List.cons_append, List.nil_append]

/-- A number of fixed width is compared before what comes after it. -/
lemma padded_append_lex_iff {width m n : ℕ} (hwidth : 0 < width) (hm : m < 10 ^ width)
    (hn : n < 10 ^ width) (c : Char) (cs cs' : List Char) :
    Lex (· < ·) (padded width m ++ c :: cs) (padded width n ++ c :: cs') ↔
      m < n ∨ m = n ∧ Lex (· < ·) cs cs' := by
  rw [lex_append_iff_of_length_eq (by rw [length_padded hwidth hm, length_padded hwidth hn]),
    padded_lex_iff hwidth hm hn, (padded_injective width).eq_iff, lex_cons_self_iff]

/-- The year of a date in the range has at most four digits. -/
lemma HasFourDigits.year_bounds (h : s.HasFourDigits) :
    0 ≤ (Gregorian.date s.day).1 ∧ (Gregorian.date s.day).1 < 10000 := by
  obtain ⟨hlower, hupper⟩ := h
  have hfirst : (Gregorian.date (-60)).1 = 0 := by decide
  have hlast : (Gregorian.date 3652364).1 = 9999 := by decide
  have hstart : -60 ≤ s.day := by
    rw [day]
    omega
  have hend : s.day ≤ 3652364 := by
    rw [day]
    omega
  have hge := year_mono hstart
  have hle := year_mono hend
  omega

/-- Seconds are ordered by the day first, and then by the second of the day. -/
lemma seconds_lt_iff :
    s.seconds < t.seconds ↔ s.day < t.day ∨ s.day = t.day ∧ s.secondOfDay < t.secondOfDay := by
  simp only [day, secondOfDay]
  omega

/-- Seconds of a day are ordered by hour, minute and second. -/
lemma secondOfDay_lt_iff {m n : ℕ} :
    m < n ↔ m / 3600 < n / 3600 ∨ m / 3600 = n / 3600 ∧
      (m / 60 % 60 < n / 60 % 60 ∨ m / 60 % 60 = n / 60 % 60 ∧ m % 60 < n % 60) := by
  omega

end Date

/-- In the years 0 to 9999, comparing the texts of two dates compares their seconds. -/
theorem iso8601_lt_iff (s t : Date) (hs : s.HasFourDigits) (ht : t.HasFourDigits) :
    s.iso8601withFractionalSeconds < t.iso8601withFractionalSeconds ↔ s.seconds < t.seconds := by
  obtain ⟨hs0, hs1⟩ := hs.year_bounds
  obtain ⟨ht0, ht1⟩ := ht.year_bounds
  obtain ⟨hsMonth, hsDay⟩ := date_bounds s.day
  obtain ⟨htMonth, htDay⟩ := date_bounds t.day
  have hsSecond : s.secondOfDay < 86400 := by
    rw [Date.secondOfDay]
    omega
  have htSecond : t.secondOfDay < 86400 := by
    rw [Date.secondOfDay]
    omega
  have hyear : ((Gregorian.date s.day).1.toNat < (Gregorian.date t.day).1.toNat ↔
      (Gregorian.date s.day).1 < (Gregorian.date t.day).1) ∧
      ((Gregorian.date s.day).1.toNat = (Gregorian.date t.day).1.toNat ↔
        (Gregorian.date s.day).1 = (Gregorian.date t.day).1) := by omega
  rw [String.lt_iff_toList_lt, Date.toList_iso8601, Date.toList_iso8601]
  change Lex (· < ·) _ _ ↔ _
  rw [Date.padded_append_lex_iff (by decide) (by omega) (by omega),
    Date.padded_append_lex_iff (by decide) (by omega) (by omega),
    Date.padded_append_lex_iff (by decide) (by omega) (by omega),
    Date.padded_append_lex_iff (by decide) (by omega) (by omega),
    Date.padded_append_lex_iff (by decide) (by omega) (by omega),
    Date.padded_append_lex_iff (by decide) (by omega) (by omega), Date.seconds_lt_iff,
    date_lt_iff (a := s.day), date_inj (a := s.day),
    Date.secondOfDay_lt_iff (m := s.secondOfDay), hyear.1, hyear.2]
  simp only [not_lex_nil, and_false, or_false]
  grind

/-- A leap day begins. -/
theorem iso8601_lt_iff_leap_day :
    Date.iso8601withFractionalSeconds ⟨951782399, 0⟩ <
      Date.iso8601withFractionalSeconds ⟨951782400, 5⟩ :=
  (iso8601_lt_iff ⟨951782399, 0⟩ ⟨951782400, 5⟩ (by decide) (by decide)).mpr (by decide)

/-- Dates in the range have one text exactly if they are in one second. -/
lemma Date.HasFourDigits.iso8601_eq_iff {s t : Date} (hs : s.HasFourDigits)
    (ht : t.HasFourDigits) :
    s.iso8601withFractionalSeconds = t.iso8601withFractionalSeconds ↔ s.seconds = t.seconds := by
  refine ⟨fun h => ?_, Date.iso8601_eq_of_seconds⟩
  have hst : ¬ s.seconds < t.seconds := fun hlt => ((iso8601_lt_iff s t hs ht).mpr hlt).ne h
  have hts : ¬ t.seconds < s.seconds := fun hlt => ((iso8601_lt_iff t s ht hs).mpr hlt).ne h.symm
  omega

/-! ## Which results are kept -/

namespace FinishedTest

/-- The own document of the user accepts the result. -/
def isAcceptedByOwn (users : List (Uid × RegisterForm)) (t : FinishedTest) : Bool :=
  t.ownAccepted && isRegistered users t.uid

/-- Whether the shared document gets the result of a finished test. -/
def isAcceptedByShared (hasShared : Bool) (t : FinishedTest) : Bool :=
  t.sharedAccepted && hasShared

/-- One user has given the same answers twice in the same whole second. -/
def Repeats (date : FinishedTest → Date) (t t' : FinishedTest) : Prop :=
  t.uid = t'.uid ∧ (date t).seconds = (date t').seconds ∧ t.testScore = t'.testScore

end FinishedTest

open FinishedTest

/-- All entries of these tests are kept exactly if no two of them repeat each other. -/
lemma length_eraseDups_entries_iff {date : FinishedTest → Date} {tests : List FinishedTest}
    (hdates : ∀ t ∈ tests, (date t).HasFourDigits) :
    (tests.map fun t => Entry.mk t.uid.val (date t).iso8601withFractionalSeconds
        t.testScore).eraseDups.length = tests.length ↔
      tests.Pairwise fun t t' => ¬ Repeats date t t' := by
  rw [← length_map fun t => Entry.mk t.uid.val (date t).iso8601withFractionalSeconds t.testScore,
    UnionList.length_eraseDups_eq_iff, Nodup, pairwise_map]
  refine Pairwise.iff_of_mem fun {t t'} ht ht' => not_congr ?_
  rw [Entry.mk.injEq, (hdates t ht).iso8601_eq_iff (hdates t' ht'), Repeats]
  exact and_congr_left' ⟨Uid.ext_val, congrArg Uid.val⟩

/-- After any registrations, which have all been accepted, and then any tests that were finished in
the years 0 to 9999, in whatever order the backend applies the requests of the tests: no accepted
result is lost, from the users' own documents or from the shared one, exactly if no two of those
accepted there are of one user, with the same answers and in the same whole second. -/
theorem results_kept_iff (users : List (Uid × RegisterForm)) (hasShared : Bool)
    (tests : List FinishedTest) (writes : List StoreEvent)
    (hw : writes.Perm (tests.flatMap FinishedTest.writes))
    (hdates : ∀ t ∈ tests, t.ownDate.HasFourDigits ∧ t.sharedDate.HasFourDigits) :
    ∃ c, (Collection.start hasShared).run (registrations users ++ writes) = some c ∧
      ((ownRecords c).length = tests.countP (isAcceptedByOwn users) ↔
        (tests.filter (isAcceptedByOwn users)).Pairwise fun t t' => ¬ Repeats ownDate t t') ∧
      ((sharedRecords c).length = tests.countP (isAcceptedByShared hasShared) ↔
        (tests.filter (isAcceptedByShared hasShared)).Pairwise
          fun t t' => ¬ Repeats sharedDate t t') := by
  obtain ⟨c, hc, h⟩ := (Refines.start hasShared).run (registrations users ++ writes)
  refine ⟨c, hc, ?_, ?_⟩
  · rw [(ownRecords_perm hw h).length_eq, countP_eq_length_filter]
    exact length_eraseDups_entries_iff fun t ht => (hdates t (mem_of_mem_filter ht)).1
  · rw [(sharedRecords_perm hw h).length_eq, countP_eq_length_filter]
    exact length_eraseDups_entries_iff fun t ht => (hdates t (mem_of_mem_filter ht)).2

/-- A registered user gives the same answers twice. The readings for the own document fall on both
sides of a second, and those for the shared one in the same second. -/
theorem results_kept_iff_across_second :
    let user :=
      (Uid.letter 'a' rfl, RegisterForm.filledIn "a@x" "secret" "Male" "Junior" "Education")
    let t : FinishedTest :=
      ⟨.letter 'a' rfl, [1, 2], ⟨951782399, 500000000⟩, ⟨951782400, 0⟩, true, true⟩
    let t' : FinishedTest :=
      { t with ownDate := ⟨951782400, 0⟩, sharedDate := ⟨951782400, 500000000⟩ }
    ∃ c, (Collection.start true).run
        (registrations [user] ++ [t, t'].flatMap FinishedTest.writes) = some c ∧
      (ownRecords c).length = 2 ∧ (sharedRecords c).length ≠ 2 := by
  intro user t t'
  obtain ⟨c, hc, hown, hshared⟩ := results_kept_iff [user] true [t, t'] _ (.refl _) (by decide)
  refine ⟨c, hc, (hown.mpr ?_).trans ?_, mt hshared.mp fun hpairwise => ?_⟩
  · rw [filter_eq_self.mpr (by decide)]
    exact pairwise_pair.mpr fun h => absurd h.2.1 (by decide)
  · decide
  · exact (pairwise_cons.mp hpairwise).1 t' (mem_singleton_self t') ⟨rfl, rfl, rfl⟩

end Soliu
