/-
This file models the checks of the database, Redis and the message bus, with the text
that a duration is written as, and proves what a response says about the probes.

A duration is cut into hours, minutes and seconds through floating-point numbers, which
round. Below 4096 hours no rounding reaches the next integer, so the text is read back
as the duration in ticks of 100 nanoseconds. The share of a pool's connections that are
in use is a floating-point number too, and its comparison with the threshold, which is
not one, is exact for all counts.
-/

import SharedGo.Health
import SharedGo.Rounding
import SharedGo.Text

namespace SharedGo.Health

open SharedGo Text

/-! ### Durations in floating-point units -/

/-- A result of 64-bit floating-point arithmetic. -/
def binary64 (value : ℚ) : ℚ := Rounding.round 53 value

/-- A duration in a unit: the whole ones, and the rest as a fraction. -/
def inUnits (unit duration : Int) : ℚ :=
  binary64 (binary64 (duration.tdiv unit) + binary64 (binary64 (duration.tmod unit) / unit))

/-- The units, in nanoseconds. -/
def second : Int := 1000000000

def minute : Int := 60 * second

def hour : Int := 60 * minute

def hours (duration : Int) : ℚ := inUnits hour duration

def minutes (duration : Int) : ℚ := inUnits minute duration

def seconds (duration : Int) : ℚ := inUnits second duration

/-- A number with zeros in front, up to a width. -/
def zeroPadded (width : Nat) (value : Int) : String :=
  let sign := if value < 0 then ['-'] else []
  let digits := Nat.toDigits 10 value.natAbs
  String.ofList (sign ++ List.replicate (width - sign.length - digits.length) '0' ++ digits)

def formatDuration (duration : Int) : String :=
  let hours := Rounding.truncate (hours duration)
  let minutes := (Rounding.truncate (minutes duration)).tmod 60
  let seconds := (Rounding.truncate (seconds duration)).tmod 60
  let nanoseconds := duration.tmod 1000000000
  let ticks := nanoseconds.tdiv 100
  zeroPadded 2 hours ++ ":" ++ zeroPadded 2 minutes ++ ":" ++ zeroPadded 2 seconds ++ "." ++
    zeroPadded 7 ticks

/-- The rest of a duration, as a fraction of the unit. -/
theorem binary64_fraction (unit rest : ℕ) (small : rest < unit) (few : unit < 2 ^ 53) :
    0 ≤ binary64 (binary64 rest / unit) ∧
      binary64 (binary64 rest / unit) ≤ 1 - 1 / unit + 1 / 2 ^ 54 := by
  have positive : (0 : ℚ) < unit := by exact_mod_cast Nat.zero_lt_of_lt small
  have cast : binary64 rest = rest := Rounding.round_natCast 53 rest (small.trans few)
  rw [cast]
  rcases Nat.eq_zero_or_pos rest with rfl | some
  · have zero : binary64 ((0 : ℕ) / unit) = 0 := by
      rw [Nat.cast_zero, zero_div]
      exact Rounding.round_zero 53
    rw [zero]
    have part : 1 / (unit : ℚ) ≤ 1 :=
      (div_le_one positive).mpr (by exact_mod_cast Nat.zero_lt_of_lt small)
    exact ⟨le_rfl, by linarith [show (0 : ℚ) ≤ 1 / 2 ^ 54 by norm_num]⟩
  · have fractionPos : (0 : ℚ) < rest / unit := div_pos (by exact_mod_cast some) positive
    have fractionLe : (rest : ℚ) / unit ≤ 1 - 1 / unit := by
      rw [← sub_nonneg]
      have scaled : 1 - 1 / (unit : ℚ) - rest / unit = (unit - 1 - rest) / unit := by
        field_simp
      have enough : (rest : ℚ) + 1 ≤ unit := by exact_mod_cast small
      rw [scaled]
      exact div_nonneg (by linarith) positive.le
    have below : (rest : ℚ) / unit < 2 ^ (0 : ℤ) := by
      have part : 0 < 1 / (unit : ℚ) := one_div_pos.mpr positive
      rw [zpow_zero]
      linarith
    have place := Rounding.lastPlace_le 53 _ 0 fractionPos below
    have near := (abs_le.mp (Rounding.abs_round_sub_le 53 ((rest : ℚ) / unit))).2
    have value : (2 : ℚ) ^ (0 - (53 : ℕ) : ℤ) = 1 / 2 ^ 53 := by norm_num
    rw [value] at place
    refine ⟨?_, ?_⟩
    · exact_mod_cast Rounding.le_round 53 _ 0 (by exact_mod_cast fractionPos.le)
        (place.trans (by norm_num))
    · show Rounding.round 53 _ ≤ _
      linarith [show (1 : ℚ) / 2 ^ 53 / 2 = 1 / 2 ^ 54 by norm_num]

/-- No rounding reaches the next whole unit, as long as there are few. -/
theorem truncate_inUnits (unit exponent duration : ℕ) (few : unit * (2 ^ exponent + 1) < 2 ^ 54)
    (short : duration < unit * 2 ^ exponent) :
    Rounding.truncate (inUnits unit duration) = (duration / unit : ℕ) := by
  have unitPos : 0 < unit := Nat.pos_of_mul_pos_right (Nat.zero_lt_of_lt short)
  have powPos : 1 ≤ 2 ^ exponent := Nat.one_le_two_pow
  have fewUnits : unit < 2 ^ 53 := by nlinarith
  have fewWhole : 2 ^ exponent < 2 ^ 54 := by nlinarith
  have fits : exponent ≤ 53 :=
    Nat.lt_succ_iff.mp ((Nat.pow_lt_pow_iff_right (by decide)).mp fewWhole)
  have wholeLt : duration / unit < 2 ^ exponent := Nat.div_lt_of_lt_mul short
  have positive : (0 : ℚ) < unit := by exact_mod_cast unitPos
  obtain ⟨least, most⟩ := binary64_fraction unit (duration % unit) (Nat.mod_lt _ unitPos) fewUnits
  have whole : binary64 (duration / unit : ℕ) = (duration / unit : ℕ) :=
    Rounding.round_natCast 53 _ (wholeLt.trans_le (Nat.pow_le_pow_right (by decide) fits))
  have apart : (2 : ℚ) ^ exponent / 2 ^ 54 + 1 / 2 ^ 54 < 1 / unit := by
    rw [← add_div, div_lt_div_iff₀ (by norm_num) positive, one_mul, mul_comm]
    exact_mod_cast few
  have halfPlace : (2 : ℚ) ^ ((exponent : ℤ) - (53 : ℕ)) / 2 = 2 ^ exponent / 2 ^ 54 := by
    rw [zpow_sub₀ (by norm_num), zpow_natCast, zpow_natCast, div_div]
    norm_num
  have step : (duration / unit : ℕ) + 1 ≤ (2 : ℚ) ^ exponent := by exact_mod_cast wholeLt
  have small : (0 : ℚ) ≤ 2 ^ exponent / 2 ^ 54 := by positivity
  have parts : inUnits unit duration = Rounding.round 53
      ((duration / unit : ℕ) + binary64 (binary64 (duration % unit : ℕ) / unit)) := by
    rw [inUnits, ← Int.ofNat_tdiv, ← Int.ofNat_tmod, Int.cast_natCast, Int.cast_natCast,
      Int.cast_natCast, whole]
    rfl
  rw [parts]
  refine Rounding.truncate_round 53 _ (duration / unit) exponent ?_ ?_ fits ?_
  · linarith
  · rw [zpow_natCast]
    linarith
  · rw [halfPlace]
    linarith

/-! ### Texts of durations -/

/-- The durations below this one are written without an error. -/
def longest : ℕ := 4096 * 3600000000000

theorem formatDuration_eq (duration : ℕ) (short : duration < longest) :
    formatDuration duration =
      zeroPadded 2 (duration / 3600000000000 : ℕ) ++ ":" ++
        zeroPadded 2 (duration / 60000000000 % 60 : ℕ) ++ ":" ++
        zeroPadded 2 (duration / 1000000000 % 60 : ℕ) ++ "." ++
        zeroPadded 7 (duration % 1000000000 / 100 : ℕ) := by
  unfold longest at short
  have wholeHours := truncate_inUnits 3600000000000 12 duration (by norm_num) (by omega)
  have wholeMinutes := truncate_inUnits 60000000000 18 duration (by norm_num) (by omega)
  have wholeSeconds := truncate_inUnits 1000000000 24 duration (by norm_num) (by omega)
  have isHours : Rounding.truncate (hours duration) = (duration / 3600000000000 : ℕ) := wholeHours
  have isMinutes : Rounding.truncate (minutes duration) = (duration / 60000000000 : ℕ) :=
    wholeMinutes
  have isSeconds : Rounding.truncate (seconds duration) = (duration / 1000000000 : ℕ) :=
    wholeSeconds
  rw [formatDuration, isHours, isMinutes, isSeconds]
  rfl

/-- A text of digits only. -/
def isDigits (text : String) : Bool := text.toList.all Char.isDigit

def readNumber (text : String) : ℕ := Nat.ofDigitChars 10 text.toList 0

/-- Reads hours, minutes, seconds and seven decimals, as a number of ticks. -/
def readTimeSpan (text : String) : Option ℕ :=
  match split text ':' with
  | [hours, minutes, rest] =>
    match split rest '.' with
    | [seconds, ticks] =>
      if [hours, minutes, seconds, ticks].all isDigits ∧ 2 ≤ hours.length ∧ minutes.length = 2 ∧
          seconds.length = 2 ∧ ticks.length = 7 ∧ readNumber minutes < 60 ∧
          readNumber seconds < 60 then
        some (((readNumber hours * 60 + readNumber minutes) * 60 + readNumber seconds) * 10000000 +
          readNumber ticks)
      else none
    | _ => none
  | _ => none

theorem toList_zeroPadded (width number : ℕ) :
    (zeroPadded width number).toList =
      List.replicate (width - (Nat.toDigits 10 number).length) '0' ++ Nat.toDigits 10 number := by
  have nonneg : ¬(number : ℤ) < 0 := by omega
  simp only [zeroPadded, if_neg nonneg, String.toList_ofList, List.nil_append, List.length_nil,
    Nat.sub_zero, Int.natAbs_natCast]

theorem isDigits_zeroPadded (width number : ℕ) : isDigits (zeroPadded width number) = true := by
  rw [isDigits, toList_zeroPadded, List.all_append, Bool.and_eq_true, List.all_eq_true,
    List.all_eq_true]
  refine ⟨fun char member => ?_, fun char member => ?_⟩
  · rw [List.eq_of_mem_replicate member]
    rfl
  · exact Nat.isDigit_of_mem_toDigits (by decide) (by decide) member

theorem readNumber_zeroPadded (width number : ℕ) :
    readNumber (zeroPadded width number) = number := by
  rw [readNumber, toList_zeroPadded, Nat.ofDigitChars_append, Nat.ofDigitChars_replicate_zero,
    Nat.mul_zero, Nat.ofDigitChars_ten_toDigits]

theorem le_length_zeroPadded (width number : ℕ) : width ≤ (zeroPadded width number).length := by
  rw [← String.length_toList, toList_zeroPadded, List.length_append, List.length_replicate]
  omega

theorem length_zeroPadded (width number : ℕ) (positive : 0 < width) (short : number < 10 ^ width) :
    (zeroPadded width number).length = width := by
  have digits := (Nat.length_toDigits_le_iff (by decide) positive).mpr short
  rw [← String.length_toList, toList_zeroPadded, List.length_append, List.length_replicate]
  omega

theorem not_mem_of_isDigits (text : String) (separator : Char) (digits : isDigits text = true)
    (notDigit : separator.isDigit = false) : separator ∉ text.toList := by
  intro member
  rw [List.all_eq_true.mp digits separator member] at notDigit
  cases notDigit

/-- A text of four numbers is read back. -/
theorem readTimeSpan_parts (hours minutes seconds ticks : ℕ) (fewMinutes : minutes < 60)
    (fewSeconds : seconds < 60) (fewTicks : ticks < 10 ^ 7) :
    readTimeSpan (zeroPadded 2 hours ++ ":" ++ zeroPadded 2 minutes ++ ":" ++
        zeroPadded 2 seconds ++ "." ++ zeroPadded 7 ticks) =
      some (((hours * 60 + minutes) * 60 + seconds) * 10000000 + ticks) := by
  have plain (width number : ℕ) (separator : Char) (notDigit : separator.isDigit = false) :=
    not_mem_of_isDigits _ separator (isDigits_zeroPadded width number) notDigit
  have atDot : split (zeroPadded 2 seconds ++ "." ++ zeroPadded 7 ticks) '.' =
      [zeroPadded 2 seconds, zeroPadded 7 ticks] := by
    refine (congrArg (split · '.') ?_).trans
      (split_join '.' [zeroPadded 2 seconds, zeroPadded 7 ticks] (by simp) ?_)
    · rfl
    · simp [plain]
  have atColons : split (zeroPadded 2 hours ++ ":" ++ zeroPadded 2 minutes ++ ":" ++
      zeroPadded 2 seconds ++ "." ++ zeroPadded 7 ticks) ':' =
      [zeroPadded 2 hours, zeroPadded 2 minutes,
        zeroPadded 2 seconds ++ "." ++ zeroPadded 7 ticks] := by
    refine (congrArg (split · ':') ?_).trans (split_join ':' [zeroPadded 2 hours,
      zeroPadded 2 minutes, zeroPadded 2 seconds ++ "." ++ zeroPadded 7 ticks] (by simp) ?_)
    · simp [join, String.append_assoc]
    · simp [plain]
  have lengths : (zeroPadded 2 minutes).length = 2 ∧ (zeroPadded 2 seconds).length = 2 ∧
      (zeroPadded 7 ticks).length = 7 :=
    ⟨length_zeroPadded 2 minutes (by decide) (by omega),
      length_zeroPadded 2 seconds (by decide) (by omega),
      length_zeroPadded 7 ticks (by decide) fewTicks⟩
  simp [readTimeSpan, atColons, atDot, isDigits_zeroPadded, readNumber_zeroPadded,
    le_length_zeroPadded, lengths, fewMinutes, fewSeconds]

/-- What a duration is written as is read back as the duration, in ticks. -/
theorem readTimeSpan_formatDuration (duration : ℕ) (short : duration < longest) :
    readTimeSpan (formatDuration duration) = some (duration / 100) := by
  rw [formatDuration_eq duration short, readTimeSpan_parts _ _ _ _ (Nat.mod_lt _ (by decide))
    (Nat.mod_lt _ (by decide)) (by omega)]
  congr 1
  omega

/-- A longer one may be rounded up to the next hour. -/
example : formatDuration (4097 * hour - 1) = "4097:59:59.9999999" := by decide +kernel

/-! ### The checks -/

/-- The connections of a pool, counted in 32 bits. -/
structure PoolStats where
  totalConns : Fin (2 ^ 31)
  acquiredConns : Fin (2 ^ 31)
  idleConns : Fin (2 ^ 31)
  maxConns : Fin (2 ^ 31)

/-- What a check meets: how its probe fails, if it does, the connections of a pool, and the
nanoseconds until it is done. -/
structure Probe where
  err : Option String
  stats : PoolStats
  duration : ℕ

abbrev Check := Probe → Entry

/-- The probe latency above which a component is degraded. -/
def latencyThreshold : ℕ := 100000000

/-- What a check says, and the tags it has if it is given none. -/
structure CheckTexts where
  uninitialized : String
  failed : String
  running : String
  slow : String
  tags : List String

section Checks

-- How a duration is shown in a description, which is left to the standard library.
variable (showDuration : ℕ → String)

/-- The check of a connection that may be nil. -/
def connectionCheck (texts : CheckTexts) (isNil : Bool) (tags : List String) : Check :=
  let tags := if tags = [] then texts.tags else tags
  fun probe =>
    if isNil then
      ⟨.unhealthy, texts.uninitialized, formatDuration probe.duration, tags, .nil⟩
    else
      match probe.err with
      | some err =>
        ⟨.unhealthy, texts.failed ++ err, formatDuration probe.duration, tags,
          .object [("error", .string err)]⟩
      | none =>
        if latencyThreshold < probe.duration then
          ⟨.degraded, texts.slow ++ " (" ++ showDuration probe.duration ++ ")",
            formatDuration probe.duration, tags, .nil⟩
        else
          ⟨.healthy, texts.running, formatDuration probe.duration, tags, .nil⟩

def busCheck : Bool → List String → Check :=
  connectionCheck showDuration
    { uninitialized := "Bus connection is not initialized"
      failed := "Bus connect failed: "
      running := "Bus is connected"
      slow := "Bus connect latency is high"
      tags := ["bus", "messaging"] }

def redisCheck : Bool → List String → Check :=
  connectionCheck showDuration
    { uninitialized := "Redis client is not initialized"
      failed := "Redis PING failed: "
      running := "Redis is running and responsive"
      slow := "Redis latency is high"
      tags := ["redis", "cache"] }

/-- The share of connections above which a pool is under pressure. -/
def poolPressureThreshold : ℚ := binary64 (4 / 5)

def PoolStats.usageRatio (stats : PoolStats) : ℚ :=
  binary64 (binary64 (stats.acquiredConns : ℕ) / binary64 (stats.maxConns : ℕ))

/-- The connections of a pool, as its check reports them. -/
def PoolStats.data (stats : PoolStats) : List (String × Dynamic) :=
  [("total_conns", .int32 (.ofNat stats.totalConns)),
    ("acquired_conns", .int32 (.ofNat stats.acquiredConns)),
    ("idle_conns", .int32 (.ofNat stats.idleConns)),
    ("max_conns", .int32 (.ofNat stats.maxConns))]

/-- The check of a database pool, which may also be under pressure. -/
def databaseCheck (isNil : Bool) (tags : List String) : Check :=
  let tags := if tags = [] then ["database", "postgresql"] else tags
  fun probe =>
    if isNil then
      ⟨.unhealthy, "Database pool is not initialized", formatDuration probe.duration, tags, .nil⟩
    else
      match probe.err with
      | some err =>
        ⟨.unhealthy, "Database query failed: " ++ err, formatDuration probe.duration, tags,
          .object (probe.stats.data ++ [("error", .string err)])⟩
      | none =>
        let pressed := 0 < probe.stats.maxConns ∧ poolPressureThreshold < probe.stats.usageRatio
        let (status, description) : Status × String :=
          if pressed then
            (.degraded, "Database connection pool usage is high (" ++
              toString (Rounding.nearest (binary64 (probe.stats.usageRatio * 100))) ++ "%)")
          else (.healthy, "Database is running and responsive")
        let (status, description) : Status × String :=
          if latencyThreshold < probe.duration then
            (.degraded, "Database latency is high (" ++ showDuration probe.duration ++ ")")
          else (status, description)
        ⟨status, description, formatDuration probe.duration, tags,
          .object probe.stats.data⟩

/-- The comparison of the rounded share with the rounded threshold is exact. -/
theorem pressure_iff (stats : PoolStats) (positive : 0 < stats.maxConns) :
    poolPressureThreshold < stats.usageRatio ↔
      4 * (stats.maxConns : ℕ) < 5 * (stats.acquiredConns : ℕ) := by
  obtain ⟨total, ⟨acquired, fewAcquired⟩, idle, ⟨maxConns, fewMax⟩⟩ := stats
  have positive : 0 < maxConns := positive
  have maxPos : (maxConns : ℚ) ≠ 0 := by exact_mod_cast positive.ne'
  have exactly (number : ℕ) (few : number < 2 ^ 31) : binary64 number = number :=
    Rounding.round_natCast 53 number (few.trans (by norm_num))
  -- Both sides are fractions of five times the maximum.
  have ratio : PoolStats.usageRatio ⟨total, ⟨acquired, fewAcquired⟩, idle, ⟨maxConns, fewMax⟩⟩ =
      binary64 ((5 * acquired : ℕ) / (5 * maxConns : ℕ)) := by
    rw [PoolStats.usageRatio, exactly acquired fewAcquired, exactly maxConns fewMax]
    push_cast
    rw [mul_div_mul_left _ _ (by norm_num)]
  have threshold : poolPressureThreshold = binary64 ((4 * maxConns : ℕ) / (5 * maxConns : ℕ)) := by
    rw [poolPressureThreshold]
    push_cast
    rw [mul_div_mul_right _ _ maxPos]
  rw [ratio, threshold]
  have apart (first second : ℕ) (some : 0 < first) (less : first < second)
      (few : first + second < 2 ^ 53) :
      binary64 (first / (5 * maxConns : ℕ)) < binary64 (second / (5 * maxConns : ℕ)) :=
    Rounding.round_div_lt 53 first second (5 * maxConns) some less few (by omega)
  show _ ↔ 4 * maxConns < 5 * acquired
  refine ⟨fun pressed => ?_, fun more => apart _ _ (by omega) more (by omega)⟩
  by_contra few
  refine absurd pressed (not_lt.mpr ?_)
  rcases Nat.eq_zero_or_pos acquired with rfl | some
  · rw [← threshold, Nat.mul_zero, Nat.cast_zero, zero_div, binary64, Rounding.round_zero]
    decide +kernel
  · rcases Nat.lt_or_eq_of_le (Nat.le_of_not_lt few) with less | same
    · exact (apart (5 * acquired) (4 * maxConns) (by omega) less (by omega)).le
    · rw [same]

/-! ### What the checks say -/

inductive Component where
  | bus
  | redis
  | database
  deriving DecidableEq, Repr

/-- A check that was made for a component, the client of which may be nil. -/
structure Made where
  component : Component
  isNil : Bool
  tags : List String

def Made.check (made : Made) : Check :=
  match made.component with
  | .bus => busCheck showDuration made.isNil made.tags
  | .redis => redisCheck showDuration made.isNil made.tags
  | .database => databaseCheck showDuration made.isNil made.tags

/-- The component is not there or does not answer. -/
def Made.Fails (made : Made) (probe : Probe) : Prop := made.isNil = true ∨ probe.err ≠ none

/-- The component answers after more than 100 milliseconds, or more than four fifths of its pool are
in use. -/
def Made.Strained (made : Made) (probe : Probe) : Prop :=
  100000000 < probe.duration ∨
    (made.component = .database ∧ 0 < probe.stats.maxConns ∧
      4 * (probe.stats.maxConns : ℕ) < 5 * (probe.stats.acquiredConns : ℕ))

/-- What an entry says about its probe. -/
structure Tells (fails strained : Prop) (duration : ℕ) (entry : Entry) : Prop where
  unhealthy : entry.status = .unhealthy ↔ fails
  degraded : entry.status = .degraded ↔ ¬fails ∧ strained
  duration : entry.duration = formatDuration duration

theorem connectionCheck_tells (texts : CheckTexts) (isNil : Bool) (tags : List String)
    (probe : Probe) :
    Tells (isNil = true ∨ probe.err ≠ none) (100000000 < probe.duration) probe.duration
      (connectionCheck showDuration texts isNil tags probe) := by
  have apart : Status.unhealthy ≠ .degraded ∧ Status.healthy ≠ .unhealthy ∧
      Status.healthy ≠ .degraded := by decide
  unfold connectionCheck latencyThreshold
  cases isNil with
  | true => constructor <;> simp [apart]
  | false =>
    cases err : probe.err with
    | some err => constructor <;> simp [apart]
    | none =>
      by_cases slow : 100000000 < probe.duration
      · constructor <;> simp [slow, apart.1.symm]
      · constructor <;> simp [slow, apart]

theorem databaseCheck_tells (isNil : Bool) (tags : List String) (probe : Probe) :
    Tells (isNil = true ∨ probe.err ≠ none)
      (100000000 < probe.duration ∨ (0 < probe.stats.maxConns ∧
        4 * (probe.stats.maxConns : ℕ) < 5 * (probe.stats.acquiredConns : ℕ)))
      probe.duration (databaseCheck showDuration isNil tags probe) := by
  have apart : Status.unhealthy ≠ .degraded ∧ Status.healthy ≠ .unhealthy ∧
      Status.healthy ≠ .degraded := by decide
  have pressure : (0 < probe.stats.maxConns ∧ poolPressureThreshold < probe.stats.usageRatio) ↔
      (0 < probe.stats.maxConns ∧
        4 * (probe.stats.maxConns : ℕ) < 5 * (probe.stats.acquiredConns : ℕ)) :=
    and_congr_right (pressure_iff probe.stats)
  unfold databaseCheck latencyThreshold
  cases isNil with
  | true => constructor <;> simp [apart]
  | false =>
    cases err : probe.err with
    | some err => constructor <;> simp [apart]
    | none =>
      rw [← pressure]
      by_cases slow : 100000000 < probe.duration
      · constructor <;> simp [slow, apart.1.symm]
      · by_cases pressed : 0 < probe.stats.maxConns ∧
          poolPressureThreshold < probe.stats.usageRatio
        · constructor <;> simp [slow, pressed, apart.1.symm]
        · constructor <;> simp [slow, pressed, apart]

theorem Made.check_tells (made : Made) (probe : Probe) :
    Tells (made.Fails probe) (made.Strained probe) probe.duration
      (made.check showDuration probe) := by
  obtain ⟨component, isNil, tags⟩ := made
  cases component with
  | bus =>
    simpa [Made.Fails, Made.Strained, Made.check, busCheck] using
      connectionCheck_tells showDuration _ isNil tags probe
  | redis =>
    simpa [Made.Fails, Made.Strained, Made.check, redisCheck] using
      connectionCheck_tells showDuration _ isNil tags probe
  | database =>
    simpa [Made.Fails, Made.Strained, Made.check] using
      databaseCheck_tells showDuration isNil tags probe

/-! ### The response -/

/-- The check registered last under some name has a property, with the probe it meets. -/
def SomeCheck (registrations : List (String × Made)) (probes : String → Probe)
    (property : Made → Probe → Prop) : Prop :=
  ∃ name made, lastRegistered registrations name = some made ∧ property made (probes name)

/-- In whatever order the checks return and are recorded, the response is unhealthy exactly when
some component fails, and degraded exactly when none does and some is strained. The texts of the
durations are read back as what the checks and the run took, in ticks. -/
theorem response_tells (registrations : List (String × Made)) (probes : String → Probe)
    (events : List RunEvent) (final : RunState Made) (total : ℕ)
    (run : Runs.exec (runStep fun name made => made.check showDuration (probes name))
      (registerAll registrations).start events = some final)
    (finished : final.finished = true) :
    let response := final.response (formatDuration total)
    (response.status = .unhealthy ↔ SomeCheck registrations probes Made.Fails) ∧
      (response.status = .degraded ↔
        ¬SomeCheck registrations probes Made.Fails ∧ SomeCheck registrations probes Made.Strained) ∧
      (∀ name made, lastRegistered registrations name = some made →
        (probes name).duration < longest →
        ∃ entry, response.entries.lookup name = some entry ∧
          readTimeSpan entry.duration = some ((probes name).duration / 100)) ∧
      (total < longest → readTimeSpan response.totalDuration = some (total / 100)) := by
  intro response
  obtain ⟨located, worst⟩ := run_invariant _ (registerAll registrations) events final run
  have entries (name : String) : final.entries.lookup name =
      (lastRegistered registrations name).map
        fun made => made.check showDuration (probes name) := by
    rw [← lookup_registerAll]
    exact located.entries_of_finished _ finished name
  have has (status : Status) : Has final.entries status ↔ SomeCheck registrations probes
      fun made probe => (made.check showDuration probe).status = status := by
    constructor
    · rintro ⟨name, entry, found, same⟩
      rw [entries] at found
      obtain ⟨made, registered, rfl⟩ := Option.map_eq_some_iff.mp found
      exact ⟨name, made, registered, same⟩
    · rintro ⟨name, made, registered, same⟩
      exact ⟨name, _, by rw [entries, registered]; rfl, same⟩
  have fails : Has final.entries .unhealthy ↔ SomeCheck registrations probes Made.Fails := by
    simp only [has, SomeCheck, (Made.check_tells showDuration _ _).unhealthy]
  refine ⟨worst.1.trans fails, worst.2.1.trans ?_, ?_, ?_⟩
  · rw [fails, and_congr_right_iff]
    intro noneFails
    simp only [has, SomeCheck, (Made.check_tells showDuration _ _).degraded]
    constructor
    · rintro ⟨name, made, registered, _, strained⟩
      exact ⟨name, made, registered, strained⟩
    · rintro ⟨name, made, registered, strained⟩
      exact ⟨name, made, registered, fun fails => noneFails ⟨name, made, registered, fails⟩,
        strained⟩
  · intro name made registered short
    refine ⟨made.check showDuration (probes name), ?_, ?_⟩
    · show final.entries.lookup name = _
      rw [entries, registered]
      rfl
    · rw [(made.check_tells showDuration (probes name)).duration]
      exact readTimeSpan_formatDuration _ short
  · exact readTimeSpan_formatDuration total

end Checks

/-- A database with nine of ten connections in use, and a bus that answers at once. -/
def busyChecks : List (String × Made) :=
  [("database", ⟨.database, false, []⟩), ("bus", ⟨.bus, false, ["events"]⟩)]

def busyProbes (name : String) : Probe :=
  if name = "database" then ⟨none, ⟨10, 9, 1, 10⟩, 2000000⟩ else ⟨none, ⟨0, 0, 0, 0⟩, 40000⟩

theorem busyChecks_degraded :
    ∃ final, Runs.exec (runStep fun name made => made.check toString (busyProbes name))
        (registerAll busyChecks).start
        [.returns "bus", .returns "database", .records "database", .records "bus"] = some final ∧
      (final.response (formatDuration 2100000)).status = .degraded := by
  obtain ⟨final, run, finished⟩ := (Option.any_eq_true _ _).mp (show (Runs.exec
    (runStep fun name made => made.check toString (busyProbes name)) (registerAll busyChecks).start
    [.returns "bus", .returns "database", .records "database", .records "bus"]).any
      (·.finished) = true by decide +kernel)
  obtain ⟨_, degraded, _⟩ :=
    response_tells toString busyChecks busyProbes _ final 2100000 run finished
  refine ⟨final, run, degraded.mpr ⟨?_, "database", _, rfl, Or.inr ⟨rfl, by decide, by decide⟩⟩⟩
  rintro ⟨name, made, registered, fails⟩
  have answers : (busyProbes name).err = none := by
    unfold busyProbes
    split <;> rfl
  have present : made.isNil = false := by
    obtain ⟨_, member, rfl⟩ := Option.map_eq_some_iff.mp registered
    have known := List.mem_reverse.mp (List.mem_of_find?_eq_some member)
    simp only [busyChecks, List.mem_cons, List.not_mem_nil, or_false] at known
    rcases known with rfl | rfl <;> rfl
  rcases fails with isNil | failed
  · rw [present] at isNil
    cases isNil
  · exact failed answers

end SharedGo.Health
