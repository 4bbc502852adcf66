import BleManaged.Lib.Lts
import BleManaged.Lib.Prog
import BleManaged.Lib.Session
import BleManaged.Lib.Source
import BleManaged.Socks.Outbound
import BleManaged.Socks.Parse
import BleManaged.Socks.Delivery
import BleManaged.Socks.Guards
import BleManaged.Socks.Halves
import BleManaged.Socks.Isolation
import BleManaged.Socks.RoundTrip
import BleManaged.Socks.WriteAll
import BleManaged.Socks.Exactness
import BleManaged.Forwarder.Accepting
import BleManaged.Forwarder.Signals
import BleManaged.Socks.FreePort
import BleManaged.Socks.Admission
import BleManaged.Bluetooth.Neighbours
import BleManaged.Bluetooth.Pairing
import BleManaged.Bluetooth.Handshake
import BleManaged.Phone.OneSearch
import BleManaged.Lib.RoundRobin
import BleManaged.Socks.PortNumbers
import BleManaged.Socks.Fifo
import BleManaged.Phone.Turns
import BleManaged.Phone.Release
import BleManaged.Phone.Timeout
import BleManaged.Socks.Pipeline
import BleManaged.Socks.Promptness
import BleManaged.Socks.Drainage
import BleManaged.Socks.Teardown
import BleManaged.Forwarder.Rounds
import BleManaged.Forwarder.Restart
import BleManaged.Phone.Story
import BleManaged.Phone.Searches
import BleManaged.Bluetooth.PsmText
import BleManaged.Bluetooth.Rendezvous
import BleManaged.Phone.Recognition
import BleManaged.Phone.Looking
import BleManaged.Socks.Tenure
