import HostDispatch.Config.Basic
import HostDispatch.Scheduler.Loop
import HostDispatch.Scheduler.Clock

/-!
# The scheduler loop of a configuration

The loop a configuration asks for takes the scheduler's name, workers and queue size as they are.
Its least period and longest sleep are read from their texts as durations; a blank or zero one is
the loop's own default (a millisecond, a minute), and one that does not read is a fault.
-/

namespace HostDispatch

namespace Settings

/-- The longest sleep of a loop when none is set, a minute. -/
def defaultMaxSleep : Int := 60 * Time.nanosPerSecond

/-- The configuration of the scheduler loop. -/
def loopConfig (c : Settings) : Except Fault LoopConfig := do
  let minPeriod ← durationOrDefault "scheduler.min_period" c.scheduler.minPeriod minPeriod
  let maxSleep ← durationOrDefault "scheduler.max_sleep" c.scheduler.maxSleep defaultMaxSleep
  pure { name := c.scheduler.name, workers := c.scheduler.workers,
         queueSize := c.scheduler.queueSize, minPeriod := minPeriod, maxSleep := maxSleep }

end Settings

end HostDispatch
