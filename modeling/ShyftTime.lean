import ShyftTime.Machine
import ShyftTime.Utctime
import ShyftTime.FloorInt64
import ShyftTime.Period
import ShyftTime.Calendar
import ShyftTime.DayNumber
import ShyftTime.TzTable
import ShyftTime.TzInfo
import ShyftTime.DstPeriods
