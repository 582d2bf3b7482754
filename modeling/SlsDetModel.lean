import SlsDetModel.Arithmetic.Rounding
import SlsDetModel.Concurrency.LabelledMachine
import SlsDetModel.Concurrency.BoundedQueue
import SlsDetModel.Concurrency.Resumption
import SlsDetModel.Concurrency.Client
import SlsDetModel.Concurrency.History
import SlsDetModel.Concurrency.Budget
import SlsDetModel.Driver.Message
import SlsDetModel.Driver.Detector
import SlsDetModel.Driver.Handlers
import SlsDetModel.Driver.Driver
import SlsDetModel.Driver.Steps
import SlsDetModel.Driver.Correlation
import SlsDetModel.Driver.Replies
import SlsDetModel.Driver.Capacity
import SlsDetModel.Driver.Teardown
import SlsDetModel.Driver.Synchronous
import SlsDetModel.Driver.Contract
import SlsDetModel.Driver.Strings
import SlsDetModel.Port.Params
import SlsDetModel.Port.Enums
import SlsDetModel.Port.SlsDet
import SlsDetModel.Port.System
import SlsDetModel.Port.Footprint
import SlsDetModel.Port.Atomic
import SlsDetModel.Driver.Progress
import SlsDetModel.Port.Runs
import SlsDetModel.Port.Connection
import SlsDetModel.Port.Counting
import SlsDetModel.Port.Reads
import SlsDetModel.Port.Writes
import SlsDetModel.Port.Isolation
import SlsDetModel.Port.StringReplies
import SlsDetModel.Strings.Delimited
import SlsDetModel.Port.Configure
import SlsDetModel.Driver.Commands
import SlsDetModel.Driver.Initialization
import SlsDetModel.Driver.Lifetime
import SlsDetModel.Port.Guard
import SlsDetModel.Port.Connect
import SlsDetModel.Port.Threshold
import SlsDetModel.Port.History
import SlsDetModel.Port.Termination
import SlsDetModel.Port.Drivers
import SlsDetModel.Driver.Destructor
import SlsDetModel.Port.Teardown
import SlsDetModel.Memory.Heap
import SlsDetModel.Port.ReadEnum
import SlsDetModel.Driver.Serial
import SlsDetModel.Port.Serial
import SlsDetModel.Strings.Numerals
import SlsDetModel.Port.Ids
import SlsDetModel.Driver.Order
import SlsDetModel.Port.Order
import SlsDetModel.Driver.Settings
import SlsDetModel.Port.Settings
