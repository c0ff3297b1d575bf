/-
Module: TypingTutor.Proofs.ClockReading
Layer: Proofs
Purpose: One reading of the clock.  The six registers are read one after the other and the clock may
  move on between them, so the reading can mix two times.  With one advance during the call it is
  the time of an instant of the call exactly when the carry of that advance does not reach the first
  register that is read after it.
Trusted boundary: none
Main exports: ClockTime.CarriesTo, advance_field_eq_iff, RtcDevice.timeAt, read_eq_shown_iff,
  reading_consistent_iff, torn_hour
-/
import TypingTutor.Core.Rtc

namespace TypingTutor

/-! ### Fields in the order of reading -/

namespace ClockTime

/-- The fields in the order in which they are read; the last one is the year. -/
def field (time : ClockTime) : Nat → Nat
  | 0 => time.seconds
  | 1 => time.minutes
  | 2 => time.hours
  | 3 => time.day
  | 4 => time.month
  | _ => time.year

/-- Whether each of the first five fields stands at its last value. -/
def atLast (time : ClockTime) : List Bool :=
  [decide (time.seconds = 59), decide (time.minutes = 59), decide (time.hours = 23),
    decide (time.day = daysInMonth time.month time.year), decide (time.month = 12)]

/-- The next second carries into the field: all fields before it stand at their last values. -/
def CarriesTo (time : ClockTime) (index : Nat) : Prop :=
  ∀ full ∈ time.atLast.take index, full = true

/-- The structure that shows the time. -/
def shown (time : ClockTime) : RealTimeInfo where
  year := UInt8.ofNat time.year
  month := UInt8.ofNat time.month
  day := UInt8.ofNat time.day
  hours := UInt8.ofNat time.hours
  minutes := UInt8.ofNat time.minutes
  seconds := UInt8.ofNat time.seconds

theorem field_lt (time : ClockTime) (index : Nat) : time.field index < 100 := by
  have dayBound := (daysInMonth_bounds time.month time.year).2
  have := time.seconds_lt
  have := time.minutes_lt
  have := time.hours_lt
  have := time.day_le
  have := time.month_le
  have := time.year_lt
  unfold field
  split
  all_goals omega

theorem carriesTo_zero (time : ClockTime) : time.CarriesTo 0 := by
  intro full member
  cases member

theorem CarriesTo.mono {time : ClockTime} {near far : Nat} (le : near ≤ far)
    (carries : time.CarriesTo far) : time.CarriesTo near := by
  intro full member
  exact carries full ((List.take_sublist_take_left le).subset member)

/-- A second changes exactly the fields that its carry reaches. -/
theorem advance_field_eq_iff (time : ClockTime) {index : Nat} (inside : index < 6) :
    time.advance.field index = time.field index ↔ ¬ time.CarriesTo index := by
  have dayBound := (daysInMonth_bounds time.month time.year).1
  have yearStep : (time.year + 1) % 100 ≠ time.year := by
    have := time.year_lt
    omega
  unfold advance
  split_ifs
  all_goals
    interval_cases index
    all_goals simp_all [field, CarriesTo, atLast]
  all_goals omega

end ClockTime

/-- The fields of the structure, in the same order. -/
def RealTimeInfo.field (info : RealTimeInfo) : Nat → UInt8
  | 0 => info.seconds
  | 1 => info.minutes
  | 2 => info.hours
  | 3 => info.day
  | 4 => info.month
  | _ => info.year

theorem RealTimeInfo.eq_iff_fields {left right : RealTimeInfo} :
    left = right ↔ ∀ index < 6, left.field index = right.field index := by
  constructor
  · rintro rfl index -
    rfl
  · intro same
    cases left
    cases right
    have seconds := same 0 (by decide)
    have minutes := same 1 (by decide)
    have hours := same 2 (by decide)
    have day := same 3 (by decide)
    have month := same 4 (by decide)
    have year := same 5 (by decide)
    simp only [RealTimeInfo.field] at seconds minutes hours day month year
    rw [seconds, minutes, hours, day, month, year]

theorem ClockTime.shown_field (time : ClockTime) (index : Nat) :
    time.shown.field index = UInt8.ofNat (time.field index) := by
  unfold RealTimeInfo.field ClockTime.field
  split
  all_goals rfl

theorem bcdToBin_toBcd {number : Nat} (small : number < 100) :
    bcdToBin (toBcd number) = UInt8.ofNat number := by
  have digits : ∀ n : Fin 100, bcdToBin (toBcd n) = UInt8.ofNat n := by decide
  exact digits ⟨number, small⟩

/-! ### The clock during the call -/

namespace RtcDevice

variable (advances : Nat → Bool)

/-- The time at an access of the call; accesses count from 0. -/
def timeAt (device : RtcDevice) : Nat → ClockTime
  | 0 => (device.pass advances).time
  | k + 1 => (device.pass advances).timeAt k

theorem timeAt_select (address : UInt8) (device : RtcDevice) (k : Nat) :
    (device.select advances address).timeAt advances k = device.timeAt advances (k + 1) := by
  have anyAddress : ∀ (k : Nat) (device : RtcDevice),
      { device with address := address }.timeAt advances k = device.timeAt advances k := by
    intro k
    induction k with
    | zero => intro device; rfl
    | succ k ih => intro device; exact ih (device.pass advances)
  exact anyAddress k (device.pass advances)

theorem readRegister_fst (address : UInt8) (device : RtcDevice) :
    (device.readRegister advances address).1 =
      bcdToBin ((device.timeAt advances 1).register address) := rfl

theorem timeAt_readRegister (address : UInt8) (device : RtcDevice) (k : Nat) :
    (device.readRegister advances address).2.timeAt advances k =
      device.timeAt advances (k + 2) :=
  timeAt_select advances address device (k + 1)

/-- Without an advance up to an access the time has not changed. -/
theorem timeAt_of_still {advances : Nat → Bool} (k : Nat) {device : RtcDevice}
    (still : ∀ i ≤ k, advances (device.accesses + i) = false) :
    device.timeAt advances k = device.time := by
  induction k generalizing device with
  | zero =>
    have here := still 0 le_rfl
    simp only [timeAt, pass, Nat.add_zero] at here ⊢
    rw [here]
    rfl
  | succ k ih =>
    have here := still 0 (Nat.zero_le _)
    have later : ∀ i ≤ k, advances ((device.pass advances).accesses + i) = false := by
      intro i le
      have next := still (i + 1) (by omega)
      have count : (device.pass advances).accesses + i = device.accesses + (i + 1) := by
        simp only [pass]
        omega
      rw [count]
      exact next
    rw [timeAt, ih later]
    simp only [pass, Nat.add_zero] at here ⊢
    rw [here]
    rfl

/-- With one advance, the time is one second later from that access on. -/
theorem timeAt_of_advance {advances : Nat → Bool} (k : Nat) {i : Nat} {device : RtcDevice}
    (advance : advances (device.accesses + i) = true) (le : i ≤ k)
    (once : ∀ j ≤ k, advances (device.accesses + j) = true → j = i) :
    device.timeAt advances k = device.time.advance := by
  have still : ∀ j ≤ k, j ≠ i → advances (device.accesses + j) = false := by
    intro j inside other
    rw [← Bool.not_eq_true]
    intro moves
    exact other (once j inside moves)
  induction k generalizing device i with
  | zero =>
    obtain rfl : i = 0 := Nat.le_zero.mp le
    simp only [timeAt, pass, Nat.add_zero] at advance ⊢
    rw [advance]
    rfl
  | succ k ih =>
    have count : ∀ j, (device.pass advances).accesses + j = device.accesses + (j + 1) := by
      intro j
      simp only [pass]
      omega
    cases i with
    | zero =>
      have quiet : ∀ j ≤ k, advances ((device.pass advances).accesses + j) = false := by
        intro j inside
        rw [count]
        exact still (j + 1) (by omega) (by omega)
      rw [timeAt, timeAt_of_still k quiet]
      simp only [pass, Nat.add_zero] at advance ⊢
      rw [advance]
      rfl
    | succ i =>
      have unchanged : (device.pass advances).time = device.time := by
        have here := still 0 (Nat.zero_le _) (by omega)
        simp only [pass, Nat.add_zero] at here ⊢
        rw [here]
        rfl
      rw [timeAt, ← unchanged]
      apply ih (i := i)
      · rw [count]
        exact advance
      · omega
      · intro j inside moves
        rw [count] at moves
        have same := once (j + 1) (by omega) moves
        omega
      · intro j inside other
        rw [count]
        exact still (j + 1) (by omega) (by omega)

end RtcDevice

/-! ### The reading -/

/-- The registers in the order in which they are read. -/
def registerAt : Nat → UInt8
  | 0 => secondsRegister
  | 1 => minutesRegister
  | 2 => hoursRegister
  | 3 => dayRegister
  | 4 => monthRegister
  | _ => yearRegister

theorem register_registerAt (time : ClockTime) (index : Nat) :
    time.register (registerAt index) = toBcd (time.field index) := by
  unfold registerAt ClockTime.field
  split
  all_goals rfl

/-- Each field of the reading is that field of the time at its own access. -/
theorem reading_field (advances : Nat → Bool) (device : RtcDevice) {index : Nat}
    (inside : index < 6) :
    (rtcReadTime advances device).1.field index =
      UInt8.ofNat ((device.timeAt advances (2 * index + 1)).field index) := by
  rw [← bcdToBin_toBcd (ClockTime.field_lt _ index), ← register_registerAt]
  interval_cases index
  all_goals
    simp only [RealTimeInfo.field, rtcReadTime, RtcDevice.readRegister_fst,
      RtcDevice.timeAt_readRegister, registerAt]

theorem read_eq_shown_iff (advances : Nat → Bool) (device : RtcDevice) (time : ClockTime) :
    (rtcReadTime advances device).1 = time.shown ↔
      ∀ index < 6, (device.timeAt advances (2 * index + 1)).field index = time.field index := by
  rw [RealTimeInfo.eq_iff_fields]
  apply forall₂_congr
  intro index inside
  rw [reading_field advances device inside, time.shown_field]
  constructor
  · intro same
    have values := congrArg UInt8.toNat same
    have read := (device.timeAt advances (2 * index + 1)).field_lt index
    have wanted := time.field_lt index
    have byte : 100 < UInt8.size := by decide
    rwa [UInt8.toNat_ofNat_of_lt' (by omega), UInt8.toNat_ofNat_of_lt' (by omega)] at values
  · intro same
    rw [same]

/-- The reading is the time at an access between the first and the last register read. -/
def ConsistentReading (advances : Nat → Bool) (device : RtcDevice) : Prop :=
  ∃ k, 1 ≤ k ∧ k ≤ 11 ∧ (rtcReadTime advances device).1 = (device.timeAt advances k).shown

/-- At most one advance during the twelve accesses of the call. -/
def AdvancesOnce (advances : Nat → Bool) (device : RtcDevice) : Prop :=
  ∀ i < 12, ∀ j < 12, advances (device.accesses + i) = true →
    advances (device.accesses + j) = true → i = j

/-- An advance after the seconds were read does not carry into the next register to be read. -/
def NoTornCarry (advances : Nat → Bool) (device : RtcDevice) : Prop :=
  ∀ i < 12, 2 ≤ i → advances (device.accesses + i) = true → ¬ device.time.CarriesTo (i / 2)

/-- A reading with one advance before access `i`. -/
theorem consistent_iff_of_advance {advances : Nat → Bool} {device : RtcDevice} {i : Nat}
    (inside : i < 12) (advance : advances (device.accesses + i) = true)
    (once : AdvancesOnce advances device) :
    ConsistentReading advances device ↔ (2 ≤ i → ¬ device.time.CarriesTo (i / 2)) := by
  have before : ∀ k < i, device.timeAt advances k = device.time := by
    intro k early
    apply RtcDevice.timeAt_of_still
    intro j le
    rw [← Bool.not_eq_true]
    intro moves
    have same := once j (by omega) i inside moves advance
    omega
  have after : ∀ k, i ≤ k → k < 12 → device.timeAt advances k = device.time.advance := by
    intro k late bound
    apply RtcDevice.timeAt_of_advance k advance late
    intro j le moves
    exact once j (by omega) i inside moves advance
  constructor
  · rintro ⟨k, low, high, read⟩ afterSeconds carries
    rw [read_eq_shown_iff] at read
    -- The seconds are of the old time, so the whole reading would have to be.
    have old : device.timeAt advances k = device.time := by
      by_cases early : k < i
      · exact before k early
      · have seconds := read 0 (by decide)
        rw [before 1 (by omega), after k (by omega) (by omega)] at seconds
        have changed := (device.time.advance_field_eq_iff (by decide : 0 < 6)).mp seconds.symm
        exact absurd device.time.carriesTo_zero changed
    have next := read (i / 2) (by omega)
    rw [old, after (2 * (i / 2) + 1) (by omega) (by omega)] at next
    exact (device.time.advance_field_eq_iff (by omega)).mp next carries
  · intro noCarry
    by_cases afterSeconds : 2 ≤ i
    · refine ⟨1, le_rfl, by decide, ?_⟩
      rw [read_eq_shown_iff]
      intro index bound
      rw [before 1 (by omega)]
      by_cases early : 2 * index + 1 < i
      · rw [before _ early]
      · rw [after _ (by omega) (by omega), device.time.advance_field_eq_iff bound]
        intro carries
        exact noCarry afterSeconds (carries.mono (by omega))
    · refine ⟨11, by decide, le_rfl, ?_⟩
      rw [read_eq_shown_iff]
      intro index bound
      rw [after 11 (by omega) (by decide), after _ (by omega) (by omega)]

/-- `rtc_read_time` is consistent exactly when no carry is torn. -/
theorem reading_consistent_iff (advances : Nat → Bool) (device : RtcDevice)
    (once : AdvancesOnce advances device) :
    ConsistentReading advances device ↔ NoTornCarry advances device := by
  by_cases moved : ∃ i < 12, advances (device.accesses + i) = true
  · obtain ⟨i, inside, advance⟩ := moved
    rw [consistent_iff_of_advance inside advance once]
    constructor
    · intro noCarry j bound afterSeconds moves
      obtain rfl := once i inside j bound advance moves
      exact noCarry afterSeconds
    · intro noTear afterSeconds
      exact noTear i inside afterSeconds advance
  · push Not at moved
    have still : ∀ k < 12, device.timeAt advances k = device.time := by
      intro k bound
      apply RtcDevice.timeAt_of_still
      intro i le
      exact Bool.not_eq_true _ ▸ moved i (by omega)
    constructor
    · intro _ i inside _ advance
      exact absurd advance (moved i inside)
    · intro _
      refine ⟨1, le_rfl, by decide, ?_⟩
      rw [read_eq_shown_iff]
      intro index bound
      rw [still 1 (by decide), still _ (by omega)]

/-- One second before one o'clock on the first of June. -/
def beforeOne : ClockTime where
  seconds := 59
  minutes := 59
  hours := 12
  day := 1
  month := 6
  year := 24
  seconds_lt := by decide
  minutes_lt := by decide
  hours_lt := by decide
  day_pos := Nat.one_pos
  day_le := by decide
  month_pos := by decide
  month_le := by decide
  year_lt := by decide

/-- The clock at that time, before the first access. -/
def beforeOneDevice : RtcDevice := { time := beforeOne, address := 0, accesses := 0 }

/-- An advance between the seconds and the minutes gives 13:00:59. -/
theorem torn_hour :
    ¬ ∀ (advances : Nat → Bool) (device : RtcDevice),
      AdvancesOnce advances device → ConsistentReading advances device := by
  intro consistent
  have once : AdvancesOnce (fun n => n == 2) beforeOneDevice := by
    intro i _ j _ first second
    simp only [beforeOneDevice, beq_iff_eq, Nat.zero_add] at first second
    omega
  obtain ⟨k, low, high, read⟩ := consistent _ _ once
  interval_cases k
  all_goals exact absurd read (by decide)

/-- An advance within the seconds of a minute is harmless wherever it falls. -/
theorem quiet_minute_is_consistent :
    ConsistentReading (fun n => n == 2) { beforeOneDevice with time := beforeOne.advance } := by
  apply (reading_consistent_iff _ _ _).mpr
  · intro i _ _ _ carries
    have first : beforeOne.advance.CarriesTo 1 := carries.mono (by omega)
    exact absurd (first false (by decide)) (by decide)
  · intro i _ j _ first second
    simp only [beforeOneDevice, beq_iff_eq, Nat.zero_add] at first second
    omega

end TypingTutor
