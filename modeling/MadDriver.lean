import MadDriver.Core.Transition
import MadDriver.Core.CInt
import MadDriver.Core.Shadow
import MadDriver.Core.Critical
import MadDriver.Pcd.Memory
import MadDriver.Pcd.Secrecy
import MadDriver.Pcd.Resize
import MadDriver.Pcd.Stale
import MadDriver.Pcd.Locked
import MadDriver.Pcd.Tables
import MadDriver.Pcd.Seek
import MadDriver.Pcd.Positional
import MadDriver.Pcd.Failure
import MadDriver.Pcd.Pieces
import MadDriver.Pcd.StoreSize
import MadDriver.Pcd.DevRead
import MadDriver.Bus.Group
import MadDriver.Bus.Numbers
import MadDriver.Bus.Rollback
import MadDriver.Lcd.WireFormat
import MadDriver.Lcd.Print
import MadDriver.Lcd.Message
import MadDriver.Lcd.Cursor
import MadDriver.Lcd.XyFrame
import MadDriver.Lcd.Display
import MadDriver.Lcd.Pictures
import MadDriver.Lcd.Lifetime
import MadDriver.Lcd.Scroll
import MadDriver.CharDrv.RoundTrip
import MadDriver.CharDrv.ShareData
import MadDriver.CharDrv.Drain
import MadDriver.Exclusive.Nonblock
import MadDriver.Exclusive.Signals
import MadDriver.Exclusive.Sessions
import MadDriver.Exclusive.Input
import MadDriver.Gpio.Remove
import MadDriver.Gpio.Leftover
import MadDriver.Gpio.Labels
import MadDriver.Usb.Lifetime
import MadDriver.Usb.Slots
import MadDriver.Usb.Stream
import MadDriver.Usb.Errors
import MadDriver.Usb.Pen
import MadDriver.Usb.PenStream
import MadDriver.Sha256.Digest
import MadDriver.Gpio.Attributes
import MadDriver.Modules.Refusals
import MadDriver.Pci.Books
import MadDriver.I2c.Nodes
import MadDriver.I2c.Read
import MadDriver.Pcd.Unlocked
import MadDriver.Usb.Power
import MadDriver.Gpio.Library
import MadDriver.Exclusive.App
import MadDriver.Bus.Files
