/-
Module: TypingTutor.Core.Rtc
Layer: Core
Purpose: `rtc_read_time` of `rtc.c` and the clock it reads.  The clock holds its time in BCD
  registers behind an address port and a data port, and may advance by a second before any access to
  a port.
Trusted boundary: human-reviewed spec
Main exports: ClockTime, ClockTime.advance, RtcDevice, bcdToBin, rtcReadTime
-/
import TypingTutor.Core.Data
import Mathlib.Tactic.IntervalCases

namespace TypingTutor

/-! ### The clock -/

/-- The length of a month; the clock has the last two digits of the year. -/
def daysInMonth (month year : Nat) : Nat :=
  if month = 2 then if year % 4 = 0 then 29 else 28
  else if month = 4 ∨ month = 6 ∨ month = 9 ∨ month = 11 then 30
  else 31

theorem daysInMonth_bounds (month year : Nat) :
    28 ≤ daysInMonth month year ∧ daysInMonth month year ≤ 31 := by
  unfold daysInMonth
  split_ifs
  all_goals decide

/-- A time and date that the clock can show. -/
structure ClockTime where
  seconds : Nat
  minutes : Nat
  hours : Nat
  day : Nat
  month : Nat
  year : Nat
  seconds_lt : seconds < 60
  minutes_lt : minutes < 60
  hours_lt : hours < 24
  day_pos : 0 < day
  day_le : day ≤ daysInMonth month year
  month_pos : 0 < month
  month_le : month ≤ 12
  year_lt : year < 100

namespace ClockTime

/-- One second later. -/
def advance (time : ClockTime) : ClockTime :=
  have months := daysInMonth_bounds
  if atSecond : time.seconds ≠ 59 then
    { time with
      seconds := time.seconds + 1
      seconds_lt := by have := time.seconds_lt; omega }
  else if atMinute : time.minutes ≠ 59 then
    { time with
      seconds := 0
      minutes := time.minutes + 1
      seconds_lt := by decide
      minutes_lt := by have := time.minutes_lt; omega }
  else if atHour : time.hours ≠ 23 then
    { time with
      seconds := 0
      minutes := 0
      hours := time.hours + 1
      seconds_lt := by decide
      minutes_lt := by decide
      hours_lt := by have := time.hours_lt; omega }
  else if atDay : time.day ≠ daysInMonth time.month time.year then
    { time with
      seconds := 0
      minutes := 0
      hours := 0
      day := time.day + 1
      seconds_lt := by decide
      minutes_lt := by decide
      hours_lt := by decide
      day_pos := Nat.succ_pos _
      day_le := by have := time.day_le; omega }
  else if atMonth : time.month ≠ 12 then
    { time with
      seconds := 0
      minutes := 0
      hours := 0
      day := 1
      month := time.month + 1
      seconds_lt := by decide
      minutes_lt := by decide
      hours_lt := by decide
      day_pos := Nat.one_pos
      day_le := by have := months (time.month + 1) time.year; omega
      month_pos := Nat.succ_pos _
      month_le := by have := time.month_le; omega }
  else
    { seconds := 0
      minutes := 0
      hours := 0
      day := 1
      month := 1
      year := (time.year + 1) % 100
      seconds_lt := by decide
      minutes_lt := by decide
      hours_lt := by decide
      day_pos := Nat.one_pos
      day_le := by have := months 1 ((time.year + 1) % 100); omega
      month_pos := Nat.one_pos
      month_le := by decide
      year_lt := Nat.mod_lt _ (by decide) }

end ClockTime

/-! ### Registers and ports -/

/-- `SECONDS`, `MINUTES`, `HOURS`, `DAY`, `MONTH` and `YEAR` of `rtc.h`. -/
def secondsRegister : UInt8 := 0
def minutesRegister : UInt8 := 2
def hoursRegister : UInt8 := 4
def dayRegister : UInt8 := 7
def monthRegister : UInt8 := 8
def yearRegister : UInt8 := 9

/-- Two decimal digits in one byte. -/
def toBcd (number : Nat) : UInt8 := UInt8.ofNat (number / 10 * 16 + number % 10)

/-- `bcd_to_bin`. -/
def bcdToBin (bcdValue : UInt8) : UInt8 := (bcdValue >>> 4) * 10 + (bcdValue &&& 0x0F)

/-- The contents of a time register; the other registers are not read. -/
def ClockTime.register (time : ClockTime) (address : UInt8) : UInt8 :=
  if address = secondsRegister then toBcd time.seconds
  else if address = minutesRegister then toBcd time.minutes
  else if address = hoursRegister then toBcd time.hours
  else if address = dayRegister then toBcd time.day
  else if address = monthRegister then toBcd time.month
  else if address = yearRegister then toBcd time.year
  else 0

/-- The clock behind its ports: the time, the register that was addressed last, and the number of
port accesses so far. -/
structure RtcDevice where
  time : ClockTime
  address : UInt8
  accesses : Nat

namespace RtcDevice

/-- The clock up to the next access; `advances n` says that it moves on before access `n`. -/
def pass (advances : Nat → Bool) (device : RtcDevice) : RtcDevice :=
  { device with
    time := if advances device.accesses then device.time.advance else device.time
    accesses := device.accesses + 1 }

/-- `sys_outb(REGISTER_INPUT, address)`. -/
def select (advances : Nat → Bool) (address : UInt8) (device : RtcDevice) : RtcDevice :=
  { device.pass advances with address := address }

/-- `sys_inb(REGISTER_OUTPUT, &temp)`. -/
def read (advances : Nat → Bool) (device : RtcDevice) : UInt8 × RtcDevice :=
  ((device.pass advances).time.register device.address, device.pass advances)

/-- One block of `rtc_read_time`: address a register, read it and convert it. -/
def readRegister (advances : Nat → Bool) (address : UInt8) (device : RtcDevice) :
    UInt8 × RtcDevice :=
  let temp := (device.select advances address).read advances
  (bcdToBin temp.1, temp.2)

end RtcDevice

/-- `rtc_read_time` on a structure to fill. -/
def rtcReadTime (advances : Nat → Bool) (device : RtcDevice) : RealTimeInfo × RtcDevice :=
  let seconds := device.readRegister advances secondsRegister
  let minutes := seconds.2.readRegister advances minutesRegister
  let hours := minutes.2.readRegister advances hoursRegister
  let day := hours.2.readRegister advances dayRegister
  let month := day.2.readRegister advances monthRegister
  let year := month.2.readRegister advances yearRegister
  ({ year := year.1
     month := month.1
     day := day.1
     hours := hours.1
     minutes := minutes.1
     seconds := seconds.1 }, year.2)

end TypingTutor
