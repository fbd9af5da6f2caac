import Logicless.Proofs.Yaml.Numbers

/-!
Which scalars of YAML have no value. A scalar with the form of its tag has none in three ways only:
it is a date or a time that the calendar does not have, an integer with more digits than the limit
allows for, or a number with underscores in the place of all its digits.
-/

set_option autoImplicit false

namespace Logicless.Yaml

open Number Calendar

/-- The ways in which the fields of a point in time are out of their ranges. -/
inductive TimestampText.Impossible (written : TimestampText) : CalendarError → Prop where
  | year (out : written.year = 0 ∨ written.year > 9999) : Impossible written (.year written.year)
  | month (out : written.month = 0 ∨ written.month > 12) : Impossible written .month
  | day (out : written.day = 0 ∨ written.day > daysIn written.year written.month) :
    Impossible written .day
  | hour {clock : ClockText} (shown : written.clock = some clock) (out : clock.hour > 23) :
    Impossible written .hour
  | minute {clock : ClockText} (shown : written.clock = some clock) (out : clock.minute > 59) :
    Impossible written .minute
  | second {clock : ClockText} (shown : written.clock = some clock) (out : clock.second > 59) :
    Impossible written .second
  /-- A zone a day or more away from universal time. -/
  | zone {clock : ClockText} {negative : Bool} {hours minutes : Nat} {text : List Char}
    {difference : Int} (shown : written.clock = some clock)
    (zoned : clock.zone = some (.offset negative hours minutes text))
    (far : difference.natAbs = 60 * hours + minutes ∧ 24 * 60 ≤ difference.natAbs) :
    Impossible written (.zone difference)
  /-- A fraction of the last second of the calendar that is rounded up. -/
  | overflow {clock : ClockText} (shown : written.clock = some clock)
    (rounded : microseconds clock.fraction = 1000000)
    (last : written.year = 9999 ∧ written.month = 12 ∧ written.day = 31 ∧ clock.hour = 23 ∧
      clock.minute = 59 ∧ clock.second = 59) : Impossible written .overflow

/-- The scalars without a value, and what is wrong with them. -/
inductive ScalarFault : Tag → List Char → Error → Prop where
  | timestamp {text : List Char} {written : TimestampText} {error : CalendarError}
    (reads : readTimestamp? text = some written) (impossible : written.Impossible error) :
    ScalarFault .timestamp text (.calendar error)
  | tooManyDigits {text : List Char} {count : Nat} (shown : Tag.ofPlain text = .int)
    (long : HoldsLongNumber maxDecimalDigits (withoutUnderscores text) count) :
    ScalarFault .int text (.number (.tooManyDigits maxDecimalDigits count))
  /-- An integer with underscores for its digits. -/
  | noDigits {text : List Char} (shown : Tag.ofPlain text = .int)
    (blank : ∀ c ∈ (markedDigits (unsigned text)).2, c = '_') :
    ScalarFault .int text (.number (.notAnInteger (markedDigits (unsigned text)).1 ""))
  /-- A point with underscores for the digits behind it, and none in front. -/
  | noFraction {text gap power : List Char} (shown : Tag.ofPlain text = .float)
    (split : unsigned text = '.' :: (gap ++ power)) (blank : ∀ c ∈ gap, c = '_')
    (exponent : Json.IsExponent power) :
    ScalarFault .float text (.number (.notAFloat (String.ofList ('.' :: power.map Char.toLower))))
  /-- A text of another form than the tag that it was given. -/
  | otherForm {tag : Tag} {text : List Char} {error : Error} (other : Tag.ofPlain text ≠ tag)
    (asks : tag = .int ∨ tag = .float ∨ tag = .bool) (fails : scalarValue tag text = .error error) :
    ScalarFault tag text error

/-! ### Points in time -/

section

variable {written : TimestampText} {clock : ClockText}

/-- The date that is written, within the calendar. -/
structure TimestampText.Gives (written : TimestampText) (date : Date) : Prop where
  same : date = ⟨written.year, written.month, written.day⟩
  year : written.year ≤ 9999
  month : written.month ≤ 12
  day : written.day ≤ daysIn written.year written.month

end

section

variable {text : List Char}

/-! ### Numbers -/

end

end Logicless.Yaml
