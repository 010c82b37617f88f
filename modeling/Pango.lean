import Pango.Lib.Lts
import Pango.Lib.CInt
import Pango.Lib.Buf
import Pango.Lib.KeyedTable
import Pango.Lib.HexText
import Pango.Lib.Printf
import Pango.Lib.Crc
import Pango.Lib.CrcDivision
import Pango.Frame
import Pango.Stm.Pack
import Pango.Stm.Png
import Pango.Stm.Echo
import Pango.Stm.Service
import Pango.Bbb.ClientFunc
import Pango.Bbb.MainClient
import Pango.Bbb.Loop
import Pango.Bbb.Exit
import Pango.Server.Data
import Pango.Server.ClientThreadFunc
import Pango.Server.NewClient
import Pango.Server.ExistingClient
import Pango.Server.DbUpdate
import Pango.Server.ClientThread
import Pango.Server.Machine
import Pango.Server.Device
import Pango.Server.Handling
import Pango.Server.Conversation
import Pango.Server.Journal
import Pango.Server.Tariff
import Pango.Server.Failures
import Pango.Server.Zombie
import Pango.Server.OneRow
import Pango.Server.Lookup
import Pango.Server.Framing
import Pango.Server.NoStart
import Pango.Server.Intake
import Pango.Server.ExitCause
import Pango.Server.Authority
import Pango.Server.Isolation
import Pango.Server.Turns
import Pango.Server.Meter
import Pango.Server.Ledger
import Pango.Server.Billing
import Pango.Server.Serial
import Pango.Server.Passbook
import Pango.Server.Upkeep
import Pango.Server.Crash
import Pango.Server.Handover
import Pango.Server.Repeated
import Pango.Server.Restart
import Pango.Server.Receipts
import Pango.Server.BackupLoop
import Pango.Server.BackupInterval
import Pango.Server.MainServer
import Pango.Server.Mutex
import Pango.Server.Walk
import Pango.Wire.RoundTrip
import Pango.Wire.Corruption
import Pango.Wire.Division
import Pango.Joint.Machine
import Pango.Joint.Replies
import Pango.Joint.Stage
import Pango.Joint.Agreement
import Pango.Joint.Fleet
import Pango.Joint.Progress
import Pango.Joint.Firmware
import Pango.Joint.Elapsed
import Pango.Joint.Strings
import Pango.Joint.Noise
