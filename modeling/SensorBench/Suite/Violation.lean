import SensorBench.Direct.Rate
import SensorBench.Hal.Status
import SensorBench.Sensor.Handle
import SensorBench.Text.Numeral

/-!
# Violations

One constructor for each property of the interface that a scenario can find
broken, with what was seen; the wording is in `Violation.message` alone.
-/

set_option autoImplicit false

namespace SensorBench

/-- Why a session cannot be used. -/
inductive SessionError where
  | refusedQueue (status : Status)
  | closed
  deriving DecidableEq, Repr

namespace SessionError

/-- The error in words. -/
def message : SessionError → String
  | .refusedQueue s => "hal initialize failed: " ++ s.name
  | .closed => "session is closed"

end SessionError

/-- A broken property of the interface. -/
inductive Violation where
  | invalidDescriptor (handle : Handle) (name field message : String)
  | unexpectedStatus (operation target : String) (expected actual : Option Status)
  | flushCount (handle : Handle) (expected actual : Nat)
  | noEvents (handle : Handle) (window : String)
  | tooFewEvents (handle : Handle) (expected actual : Nat)
  | foreignEvent (handle : Handle) (expected actual : String)
  | checkFailed (handle : Handle) (time : Int) (message : String)
  | staleEvent (handle : Handle) (delta minGap : Int)
  | rateMismatch (handle : Handle) (requested measured : Int)
  | rateSwitchIndistinct (handle : Handle) (fast slow : Int)
  | invalidChannel (channel : Int)
  | invalidToken (handle : Handle) (token : Int)
  | memoryNotZeroed (offset : Nat)
  | directRecord (handle : Handle) (index : Nat) (message : String)
  | directRateOutOfRange (handle : Handle) (rate : Rate) (count low high : Nat)
  | timeNotIncreasing (handle : Handle) (index : Nat) (previous current : Int)
  | staleSession (count : Nat)
  | sessionStarved (session : String)
  | session (error : SessionError)
  deriving DecidableEq, Repr

namespace Violation

open Text (decimal signedDecimal)

/-- The name of the kind of violation. -/
def name : Violation → String
  | invalidDescriptor .. => "InvalidDescriptor"
  | unexpectedStatus .. => "UnexpectedStatus"
  | flushCount .. => "FlushCount"
  | noEvents .. => "NoEvents"
  | tooFewEvents .. => "TooFewEvents"
  | foreignEvent .. => "ForeignEvent"
  | checkFailed .. => "CheckFailed"
  | staleEvent .. => "StaleEvent"
  | rateMismatch .. => "RateMismatch"
  | rateSwitchIndistinct .. => "RateSwitchIndistinct"
  | invalidChannel _ => "InvalidChannelHandle"
  | invalidToken .. => "InvalidReportToken"
  | memoryNotZeroed _ => "DirectMemoryNotZeroed"
  | directRecord .. => "DirectRecord"
  | directRateOutOfRange .. => "DirectRateOutOfRange"
  | timeNotIncreasing .. => "TimestampNotIncreasing"
  | staleSession _ => "StaleSessionReceived"
  | sessionStarved _ => "SessionStarved"
  | session _ => "Collector"

/-- A violation about a sensor. -/
def about (h : Handle) (what : String) : String := "sensor " ++ h.text ++ ": " ++ what

/-- The violation in words. -/
def message : Violation → String
  | invalidDescriptor h name field message =>
    "sensor " ++ h.text ++ " (" ++ name ++ "): " ++ field ++ " " ++ message
  | unexpectedStatus operation target expected actual =>
    operation ++ "(" ++ target ++ "): expected " ++ Status.outcomeName expected ++ ", got " ++
      Status.outcomeName actual
  | flushCount h expected actual =>
    about h ("expected " ++ decimal expected ++ " flush-complete markers, got " ++ decimal actual)
  | noEvents h window => about h ("no events " ++ window)
  | tooFewEvents h expected actual =>
    about h ("expected at least " ++ decimal expected ++ " events, got " ++ decimal actual)
  | foreignEvent h expected actual =>
    about h ("event of type " ++ actual ++ " delivered for a " ++ expected ++ " sensor")
  | checkFailed h time message =>
    about h ("sample at " ++ signedDecimal time ++ " ns rejected: " ++ message)
  | staleEvent h delta minGap =>
    about h ("first event after reactivation is " ++ signedDecimal delta ++
      " ns after the last one, need " ++ signedDecimal minGap ++ " ns")
  | rateMismatch h requested measured =>
    about h ("requested period " ++ signedDecimal requested ++ " ns, measured " ++
      signedDecimal measured ++ " ns")
  | rateSwitchIndistinct h fast slow =>
    about h ("fast interval " ++ signedDecimal fast ++ " ns and slow interval " ++
      signedDecimal slow ++ " ns are not distinct")
  | invalidChannel channel => "invalid direct channel handle " ++ signedDecimal channel
  | invalidToken h token => about h ("invalid report token " ++ signedDecimal token)
  | memoryNotZeroed offset => "direct channel memory not zeroed at byte " ++ decimal offset
  | directRecord h index message =>
    about h ("direct report record " ++ decimal index ++ ": " ++ message)
  | directRateOutOfRange h rate count low high =>
    about h (decimal count ++ " direct report records at " ++ rate.title ++
      ", expected between " ++ decimal low ++ " and " ++ decimal high)
  | timeNotIncreasing h index previous current =>
    about h ("timestamp " ++ signedDecimal current ++ " at index " ++ decimal index ++
      " does not follow " ++ signedDecimal previous)
  | staleSession count =>
    "replaced session still received " ++ decimal count ++ " events"
  | sessionStarved which => which ++ " session received no events"
  | .session error => "session error: " ++ error.message

end Violation

end SensorBench
