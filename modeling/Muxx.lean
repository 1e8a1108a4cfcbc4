import Muxx.Fifo
import Muxx.MemoryRuns
import Muxx.Placement
import Muxx.Protection
import Muxx.Devices
import Muxx.Lib.Run
import Muxx.Lib.Program
import Muxx.Lib.Interleaving
import Muxx.Lib.Pdp11
import Muxx.Channels
import Muxx.Preemption
import Muxx.Turns
import Muxx.Vacancy
import Muxx.Creations
import Muxx.Privileges
import Muxx.Transfer
import Muxx.Copies
import Muxx.Overwrites
import Muxx.FileNames
import Muxx.Owners
import Muxx.Switch
import Muxx.Calls
import Muxx.Traps
import Muxx.Opens
import Muxx.Offers
import Muxx.Exclusive
import Muxx.Library
import Muxx.ReadWrite
import Muxx.Loading
import Muxx.Images
import Muxx.Registration
import Muxx.Mapping
import Muxx.KernelPages
import Muxx.Clock
import Muxx.Bounds
import Muxx.Handle
import Muxx.Tables
import Muxx.Priority
import Muxx.Limits
import Muxx.Naming
import Muxx.Registers
import Muxx.Lookup
import Muxx.Descriptors
import Muxx.Buffered
import Muxx.Sleep
import Muxx.Decimals
import Muxx.Returns
import Muxx.Fairness
import Muxx.Hexadecimals
import Muxx.Printing
import Muxx.Callbacks
import Muxx.System
