import WoaRk3576.Lib.Transition
import WoaRk3576.Lib.Ring
import WoaRk3576.Lib.Loop
import WoaRk3576.Lib.Polling
import WoaRk3576.Lib.Blocks
import WoaRk3576.Lib.Exchange
import WoaRk3576.Lib.Bits
import WoaRk3576.Lib.Calls
import WoaRk3576.Lib.Extents
import WoaRk3576.Lib.Memory
import WoaRk3576.Lib.Builder
import WoaRk3576.Lib.Access
import WoaRk3576.Lib.Ledger
import WoaRk3576.Lib.CString
import WoaRk3576.Lib.Traced
import WoaRk3576.Lib.Arcs
import WoaRk3576.Lib.Lanes
import WoaRk3576.Lib.Segments
import WoaRk3576.Lib.WordArith
import WoaRk3576.Lib.ClockDivider
import WoaRk3576.Lib.ListEntry
import WoaRk3576.Acpi.Argument
import WoaRk3576.Acpi.DeviceProperties
import WoaRk3576.Acpi.DevicePropertiesBounds
import WoaRk3576.Acpi.Packages
import WoaRk3576.Acpi.IntegerArray
import WoaRk3576.Acpi.ValueArrays
import WoaRk3576.Acpi.DsmInput
import WoaRk3576.Acpi.Evaluation
import WoaRk3576.Acpi.EvaluationResult
import WoaRk3576.Acpi.PropertyList
import WoaRk3576.Net.NetRing
import WoaRk3576.Net.TxQueue
import WoaRk3576.Net.TxPacket
import WoaRk3576.Net.TxLog
import WoaRk3576.Net.TxAdvance
import WoaRk3576.Net.TxRun
import WoaRk3576.Net.TxCancel
import WoaRk3576.Net.TxContext
import WoaRk3576.Net.TxCapacity
import WoaRk3576.Net.TxChain
import WoaRk3576.Net.TxProgress
import WoaRk3576.Net.RxQueue
import WoaRk3576.Net.RxAdvance
import WoaRk3576.Net.RxRun
import WoaRk3576.Net.RxCancel
import WoaRk3576.Net.Interrupt
import WoaRk3576.Net.LinkState
import WoaRk3576.Net.LinkInterrupts
import WoaRk3576.Net.DeviceReset
import WoaRk3576.Net.DeviceConfig
import WoaRk3576.Net.ConfigProperties
import WoaRk3576.Dma.Events
import WoaRk3576.Dma.Channels
import WoaRk3576.Dma.Teardown
import WoaRk3576.Dma.Config
import WoaRk3576.Dma.Callbacks
import WoaRk3576.Dma.Microcode
import WoaRk3576.Dma.Pl330
import WoaRk3576.Dma.AudioPass
import WoaRk3576.Audio.Stream
import WoaRk3576.Audio.Position
import WoaRk3576.Audio.Submit
import WoaRk3576.Audio.RkTplg
import WoaRk3576.Audio.RkTplgBounds
import WoaRk3576.Audio.RkTplgFields
import WoaRk3576.Spi.Transfer
import WoaRk3576.Spi.ChipSelect
import WoaRk3576.Spi.Sequence
import WoaRk3576.Spi.SequenceBounds
import WoaRk3576.Spi.BaudRate
import WoaRk3576.I2c.Rk3x
import WoaRk3576.I2c.Completion
import WoaRk3576.I2c.Framing
import WoaRk3576.I2c.MessageData
import WoaRk3576.I2c.WriteData
import WoaRk3576.I2c.ReadData
import WoaRk3576.I2c.Clocks
import WoaRk3576.I2c.Dividers
import WoaRk3576.I2c.TuningWord
import WoaRk3576.Gpio.Registers
import WoaRk3576.Gpio.Callbacks
import WoaRk3576.Gpio.SavedContext
import WoaRk3576.Sd.Port
import WoaRk3576.Sd.Mshc
import WoaRk3576.Sd.MshcLocal
import WoaRk3576.Sd.MshcStop
import WoaRk3576.Sd.MshcBusy
import WoaRk3576.Sd.MshcPhases
import WoaRk3576.Sd.MshcPio
import WoaRk3576.Sd.MshcClock
import WoaRk3576.Sd.MshcBus
import WoaRk3576.Sd.MshcRecovery
import WoaRk3576.Sd.MshcMirror
import WoaRk3576.Sd.MshcPhaseTuning
import WoaRk3576.Sd.MshcBusTuning
import WoaRk3576.Sd.MshcBusLocal
import WoaRk3576.Sd.MshcPioData
import WoaRk3576.Sd.MshcTuningBlock
import WoaRk3576.Sd.MshcEvents
import WoaRk3576.Sd.MshcSignaling
import WoaRk3576.Sd.MshcPlatformList
import WoaRk3576.Sd.Sdhc
import WoaRk3576.Sd.SdhcPhases
import WoaRk3576.Sd.SdhcRegisters
import WoaRk3576.Sd.SdhcSwitches
import WoaRk3576.Sd.SdhcCardClock
import WoaRk3576.Sd.SdhcDataPort
import WoaRk3576.Sd.Sglist
import WoaRk3576.Sd.MshcIdmac
import WoaRk3576.Sd.SdhcAdma
import WoaRk3576.Lib.Writes
import WoaRk3576.Net.ReceiveFilter
import WoaRk3576.Net.Hardware
import WoaRk3576.Lib.Slots
import WoaRk3576.Audio.StreamSlots
import WoaRk3576.Audio.PropertyRequest
import WoaRk3576.Lib.Record
import WoaRk3576.Audio.ProposedFormat
import WoaRk3576.Audio.FormatAgreement
import WoaRk3576.Audio.Endpoints
import WoaRk3576.Lib.Accounts
import WoaRk3576.Audio.EndpointReferences
import WoaRk3576.Audio.EndpointInstall
import WoaRk3576.Audio.EndpointPower
import WoaRk3576.Audio.RangeIntersection
