/-
  GreenTyper.Usage.Windows — how a Usage Window is resolved from its configured texts
  (`UsageWindow::resolve` of `usage.rs`).

  The calendar library is a parameter: what a timestamp text denotes, which milliseconds
  the calendar reaches, the bundled time zones under their canonical names, the system's
  time zone and the version of the bundled rules.
-/

import GreenTyper.Usage.Model

namespace GreenTyper.Usage

open Lib Provider

structure TimeLibrary where
  /-- The milliseconds of an RFC 3339 text. -/
  timestamp : String → Option Int
  inCalendar : Int → Bool
  /-- The canonical name of a bundled time zone. -/
  bundled : String → Option String
  systemZone : Option String
  rulesVersion : Option String

def maxUsageWindows : Nat := 128
def maxUsageWindowIdBytes : Nat := 64

def UsageTimestamp.fromUnixMillis (time : TimeLibrary) (value : Int) : Except UsageError UsageTimestamp :=
  if fits : -2 ^ 63 ≤ value ∧ value < 2 ^ 63 then
    if time.inCalendar value then .ok ⟨value, fits⟩ else .error .timestampRange
  else .error .timestampRange

def validateWindowId (id : String) : Except UsageError Unit :=
  require (id ≠ "" ∧ byteLen id ≤ maxUsageWindowIdBytes ∧ isIdText id.toList = true) .invalidWindowId

/-- `str::parse` of an unsigned integer below `bound`: decimal digits, perhaps after a plus sign. -/
def parseUnsigned (bound : Nat) (text : List Char) : Option Nat :=
  let digits := if text.head? = some '+' then text.tail else text
  if digits ≠ [] ∧ digits.all isAsciiDigit then
    let value := digits.foldl (fun value c => 10 * value + (c.toNat - 0x30)) 0
    if value < bound then some value else none
  else none

def parseLocalTime (value : String) : Except UsageError Nat := do
  let (hour, minute) ← okOr (splitOnce ':' value) .invalidLocalTime
  require (byteLen hour = 2 ∧ byteLen minute = 2) .invalidLocalTime
  let hour ← okOr (parseUnsigned 65536 hour.toList) .invalidLocalTime
  let minute ← okOr (parseUnsigned 65536 minute.toList) .invalidLocalTime
  require (hour ≤ 23 ∧ minute ≤ 59) .invalidLocalTime
  return hour * 60 + minute

def resolveTimezone (time : TimeLibrary) (value : String) : Except UsageError (String × UsageTimezoneSource) :=
  if value = "local" then do
    let name ← okOr time.systemZone .localTimezoneUnavailable
    let canonical ← okOr (time.bundled name) .unknownTimezone
    return (canonical, .localSystem)
  else do
    let canonical ← okOr (time.bundled value) .unknownTimezone
    return (canonical, .explicit)

/-- The days in their order, which is that of a `BTreeSet`. -/
def allWeekdays : List UsageWeekday := [.mon, .tue, .wed, .thu, .fri, .sat, .sun]

theorem allWeekdays_sorted : allWeekdays.Pairwise (· < ·) := by decide

def collectWeekdays (days : List UsageWeekday) : List UsageWeekday := allWeekdays.filter (· ∈ days)

namespace UsageWindow

def resolve (time : TimeLibrary) (id start finish : String) (days : List UsageWeekday) (timezone : String) :
    Except UsageError UsageWindow := do
  validateWindowId id
  let startMinute ← parseLocalTime start
  let endMinute ← parseLocalTime finish
  require (startMinute ≠ endMinute) .emptyWindow
  require (collectWeekdays days ≠ []) .missingDays
  let (timezone, timezoneSource) ← resolveTimezone time timezone
  let rulesetVersion ← okOr time.rulesVersion .missingRulesetVersion
  return ⟨id, startMinute, endMinute, collectWeekdays days, timezone, timezoneSource, rulesetVersion,
    allWeekdays_sorted.filter _⟩

/-- A window of a stored epoch. -/
def fromResolvedParts (time : TimeLibrary) (id : String) (startMinute endMinute : Nat) (days : List UsageWeekday) (timezone : String)
    (timezoneSource : UsageTimezoneSource) (rulesetVersion : String) : Except UsageError UsageWindow := do
  validateWindowId id
  require (startMinute < 24 * 60 ∧ endMinute < 24 * 60) .invalidLocalTime
  require (startMinute ≠ endMinute) .emptyWindow
  require (collectWeekdays days ≠ []) .missingDays
  let canonical ← okOr (time.bundled timezone) .unknownTimezone
  require (canonical = timezone) .nonCanonicalTimezone
  require (rulesetVersion ≠ "") .missingRulesetVersion
  return ⟨id, startMinute, endMinute, collectWeekdays days, timezone, timezoneSource, rulesetVersion,
    allWeekdays_sorted.filter _⟩

/-- Both ways to a window check its id, and give it minutes of a day. -/
structure Resolved (window : UsageWindow) : Prop where
  id : window.id ≠ "" ∧ byteLen window.id ≤ maxUsageWindowIdBytes ∧ isIdText window.id.toList = true
  startMinute : window.startMinute < 24 * 60
  endMinute : window.endMinute < 24 * 60

end UsageWindow

theorem parseLocalTime_lt {value : String} {minutes : Nat} (h : parseLocalTime value = .ok minutes) : minutes < 24 * 60 := by
  unfold parseLocalTime at h
  simp only [bind_ok, exists_unit, require_ok, pure, Except.pure, Except.ok.injEq] at h
  obtain ⟨_, _, _, hour, _, minute, _, hrange, hminutes⟩ := h
  omega

namespace UsageWindow

variable {time : TimeLibrary} {window : UsageWindow} {id timezone : String} {days : List UsageWeekday}

theorem resolve_resolved {start finish : String} (h : resolve time id start finish days timezone = .ok window) : window.Resolved := by
  unfold resolve validateWindowId at h
  simp only [bind_ok, exists_unit, require_ok, pure, Except.pure, Except.ok.injEq] at h
  obtain ⟨hid, startMinute, hstart, endMinute, hend, _, _, _, _, _, _, rfl⟩ := h
  exact ⟨hid, parseLocalTime_lt hstart, parseLocalTime_lt hend⟩

theorem fromResolvedParts_resolved {startMinute endMinute : Nat} {timezoneSource : UsageTimezoneSource} {rulesetVersion : String}
    (h : fromResolvedParts time id startMinute endMinute days timezone timezoneSource rulesetVersion = .ok window) :
    window.Resolved := by
  unfold fromResolvedParts validateWindowId at h
  simp only [bind_ok, exists_unit, require_ok, pure, Except.pure, Except.ok.injEq] at h
  obtain ⟨hid, hminutes, _, _, _, _, _, _, rfl⟩ := h
  exact ⟨hid, hminutes.1, hminutes.2⟩

end UsageWindow

/-! ## Times in a window -/

/-- What the calendar of a time zone shows at an instant. -/
structure LocalTime where
  minute : Nat
  weekday : UsageWeekday
  yesterday : Except UsageError UsageWeekday

namespace UsageWindow

def requireCurrentRuleset (time : TimeLibrary) (window : UsageWindow) : Except UsageError Unit := do
  let current ← okOr time.rulesVersion .missingRulesetVersion
  require (window.rulesetVersion = current) .rulesetVersionMismatch

/-- Whether a time of a day is inside, and the day that its window began. A window with its end before its start lasts over
    midnight. -/
def occurrence (window : UsageWindow) (shown : LocalTime) : Except UsageError (Bool × UsageWeekday) :=
  if window.startMinute < window.endMinute then
    .ok (decide (window.startMinute ≤ shown.minute ∧ shown.minute < window.endMinute), shown.weekday)
  else if window.startMinute ≤ shown.minute then .ok (true, shown.weekday)
  else if shown.minute < window.endMinute then do
    let yesterday ← shown.yesterday
    return (true, yesterday)
  else .ok (false, shown.weekday)

def contains (time : TimeLibrary) (localTime : String → UsageTimestamp → Except UsageError LocalTime) (window : UsageWindow)
    (timestamp : UsageTimestamp) : Except UsageError Bool := do
  window.requireCurrentRuleset time
  let shown ← localTime window.timezone timestamp
  let (inside, startDay) ← window.occurrence shown
  return inside && decide (startDay ∈ window.days)

end UsageWindow

end GreenTyper.Usage
