import WbMge.Gateway.InOrder
import WbMge.Gateway.Pairing
import WbMge.Gateway.Timing
import WbMge.Sniffer.Provenance
import WbMge.Cache.FullPool
import WbMge.Cache.Snapshot
import WbMge.Cache.JsonExport
import WbMge.Reasm.Resync
import WbMge.Reasm.Soundness
import WbMge.Reasm.Isolation
import WbMge.Cache.Reply
import WbMge.Sniffer.Labels
import WbMge.Sniffer.RespTimer
import WbMge.Sniffer.Splitter
import WbMge.Settings.RoundTrip
import WbMge.Settings.Apply
import WbMge.Auth.Sessions
import WbMge.Ota.Update
import WbMge.Settings.BringUp
import WbMge.Settings.SerialChanges
import WbMge.PortManager.PoolMoves
import WbMge.PortManager.FactoryTest
import WbMge.Firmware.Truncation
import WbMge.Repeater.Teardown
import WbMge.Wifi.ConnectScan
import WbMge.TcpServer.SingleClient
import WbMge.Transparent.Teardown
import WbMge.Settings.Values
import WbMge.PortManager.RawSend
import WbMge.Gateway.OnePass
import WbMge.Serial.Accumulation
import WbMge.VoltageMonitor.Release
import WbMge.ConfigButton.LongPress
import WbMge.Firmware.Install
import WbMge.TcpClient.Pacing
import WbMge.Modbus.CrcStrength
import WbMge.Decoder.ByteRoles
import WbMge.Decoder.Pasted
import WbMge.Decoder.TreeRows
import WbMge.Sender.Agreement
import WbMge.Sender.Transport
