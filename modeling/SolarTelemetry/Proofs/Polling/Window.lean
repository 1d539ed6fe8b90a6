import SolarTelemetry.Proofs.Config.Validation
import SolarTelemetry.Proofs.Polling
import SolarTelemetry.Proofs.Session.Asking

/-!
# The window of daily yields

For daily yields a poller asks for the samples from some moment up to now, once with each attempt.
The moment is worked out in words of thirty-two bits, and a configuration may name any number of
days; so where the span takes more than a word, the poller is gone before it has asked for anything.
-/

namespace SolarTelemetry

namespace Poller

theorem word?_of_lt {n : Nat} (fits : n < 2 ^ 32) : word? n = some (UInt32.ofNat n) := if_pos fits

theorem word?_of_le {n : Nat} (long : 2 ^ 32 ≤ n) : word? n = none := if_neg (Nat.not_lt.mpr long)

/-- Where the span fits a word, the moment is the one that the days call for. -/
theorem exists_archiveStart {now days : UInt32} (fits : (days.toNat + 1) * 86400 < 2 ^ 32) :
    ∃ start, archiveStart? now days = some start ∧
      (start.toNat : Int) = max 0 ((now.toNat : Int) - (days.toNat + 1) * 86400) := by
  have short : days.toNat + 1 < 2 ^ 32 := by omega
  have wanted : (UInt32.ofNat (days.toNat + 1)).toNat = days.toNat + 1 :=
    UInt32.toNat_ofNat_of_lt' short
  have span : (UInt32.ofNat ((days.toNat + 1) * 86400)).toNat = (days.toNat + 1) * 86400 :=
    UInt32.toNat_ofNat_of_lt' fits
  unfold archiveStart?
  simp only [word?_of_lt short, Option.bind_eq_bind, Option.bind_some, wanted, dayLength,
    word?_of_lt fits]
  refine ⟨_, rfl, ?_⟩
  split
  · next early =>
    rw [UInt32.lt_iff_toNat_lt, span] at early
    change (0 : Int) = _
    omega
  · next late =>
    rw [UInt32.lt_iff_toNat_lt, Nat.not_lt] at late
    rw [UInt32.toNat_sub_of_le _ _ late]
    rw [span] at late ⊢
    omega

theorem archiveStart?_of_le {now days : UInt32} (long : 2 ^ 32 ≤ (days.toNat + 1) * 86400) :
    archiveStart? now days = none := by
  unfold archiveStart?
  by_cases short : days.toNat + 1 < 2 ^ 32
  · have wanted : (UInt32.ofNat (days.toNat + 1)).toNat = days.toNat + 1 :=
      UInt32.toNat_ofNat_of_lt' short
    simp only [word?_of_lt short, Option.bind_eq_bind, Option.bind_some, wanted, dayLength,
      word?_of_le long, Option.bind_none]
  · rw [word?_of_le (Nat.not_lt.mp short)]
    rfl

section

variable {i : Inverter} {p : Poller}

theorem recordDailyYields_of_none (serial : UInt32)
    (none : archiveStart? (Calendar.unixSeconds p.session.wallClock) i.archiveDays = none) :
    recordDailyYields i serial p = .ok Option.none p := by
  unfold recordDailyYields
  rw [get_bind]
  simp only [none]
  rfl

/-- All that is done on the session for daily yields is to read an archive. -/
theorem session_recordDailyYields (serial : UInt32) {start : UInt32}
    (begins : archiveStart? (Calendar.unixSeconds p.session.wallClock) i.archiveDays = some start) :
    (Outcome.state (recordDailyYields i serial p)).session =
      Outcome.state (Session.readArchive serial .monthData start
        (Calendar.unixSeconds p.session.wallClock) p.session) := by
  generalize clock : Calendar.unixSeconds p.session.wallClock = now at begins ⊢
  have reading : (Outcome.state (onSession (Session.readMonthSamples serial start now) p)).session =
      Outcome.state (Session.readArchive serial .monthData start now p.session) := by
    rw [state_onSession, Session.readMonthSamples, Session.readSamples]
    exact Action.state_map _ _ _
  have given : (OptionT.mk (pure (some start)) : Polling UInt32) p = .ok (some start) p := rfl
  unfold recordDailyYields
  rw [get_bind, clock]
  simp only [begins]
  rw [bind_of_some given, ← reading]
  cases read : onSession (Session.readMonthSamples serial start now) p with
  | error e q =>
    rw [bind_of_failed read]
    rfl
  | ok samples q =>
    cases samples with
    | none =>
      rw [bind_of_gone read]
      rfl
    | some samples =>
      rw [bind_of_some read]
      rfl

end

end Poller

/-- A configuration that asks for yields of so many days from every inverter. -/
def Config.withArchiveDays (c : Config) (days : UInt32) : Config :=
  { c with inverters := c.inverters.map ({ · with archiveDays := days }) }

theorem Config.error?_withArchiveDays (c : Config) (days : UInt32) :
    (c.withArchiveDays days).error? = c.error? := by
  unfold error? inverterError? withArchiveDays
  simp only [List.zipIdx_map, List.findSome?_map]
  rfl

namespace Poller

/-- If the span of the days fits a word, the month archive is asked for from the moment that they
call for up to now, once with each attempt. Otherwise nothing is asked for, and the poller is gone.
No number of days makes a configuration invalid. -/
theorem dailyYields_window (i : Inverter) (serial : UInt32) (p : Poller)
    (known : Session.Knows serial p.session) :
    let now := Calendar.unixSeconds p.session.wallClock
    let span := (i.archiveDays.toNat + 1) * 86400
    (span < 2 ^ 32 → ∃ start : UInt32, (start.toNat : Int) = max 0 ((now.toNat : Int) - span) ∧
      ∃ count, 0 < count ∧
        Session.Makes (·.AsksFor p.session.ownSerial serial 0x7020 start now) p.session count
          (Outcome.state (recordDailyYields i serial p)).session) ∧
    (2 ^ 32 ≤ span → recordDailyYields i serial p = .ok none p) ∧
    ∀ text c, Config.ofText text = .ok c → ∀ days, (c.withArchiveDays days).error? = none := by
  intro now span
  refine ⟨fun fits => ?_, fun long => ?_, ?_⟩
  · obtain ⟨start, begins, exact⟩ := exists_archiveStart fits
    have made := Session.makes_readArchive .monthData start now known
    rw [← session_recordDailyYields serial begins] at made
    exact ⟨start, exact, _, RetryBudget.attempts_pos _ _ _, made⟩
  · exact recordDailyYields_of_none serial (archiveStart?_of_le long)
  · intro text c read days
    rw [Config.error?_withArchiveDays]
    exact Config.error?_of_ofText read

/-- A configuration that is accepted, with which daily yields are the end of the poller; and one day
less, with which the month archive is asked for from its first sample. -/
theorem dailyYields_window_overflow :
    let i : Inverter := { address := "/d", archiveDays := 49710 }
    let less : Inverter := { address := "/d", archiveDays := 49709 }
    let p : Poller :=
      { session := { Session.ofLink { transport := {} } 7 1000 1700259200 with
          devices := [⟨1, 0x83, .zero, true⟩] } }
    Config.ofText "inverters: [{address: /d, archive_days: 49710}]" = .ok { inverters := [i] } ∧
      recordDailyYields i 1 p = .ok none p ∧
      ∃ count, 0 < count ∧
        Session.Makes (·.AsksFor 7 1 0x7020 0 1700259200) p.session count
          (Outcome.state (recordDailyYields less 1 p)).session := by
  intro i less p
  have known : Session.Knows 1 p.session := by
    unfold Session.Knows
    decide
  have clock : Calendar.unixSeconds p.session.wallClock = 1700259200 := by decide +kernel
  obtain ⟨-, gone, -⟩ := dailyYields_window i 1 p known
  obtain ⟨asked, -, -⟩ := dailyYields_window less 1 p known
  obtain ⟨start, begins, asks⟩ := asked (by decide)
  rw [clock] at begins asks
  have first : max 0 (((1700259200 : UInt32).toNat : Int) -
      ((less.archiveDays.toNat + 1) * 86400 : Nat)) = 0 := by decide
  obtain rfl : start = 0 := UInt32.toNat_inj.mp (Int.ofNat_inj.mp (begins.trans first))
  exact ⟨by decide +kernel, gone (by decide), asks⟩

end Poller

end SolarTelemetry
