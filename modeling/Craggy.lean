import Craggy.Basic
import Craggy.Time.Epoch
import Craggy.Client.Session
import Craggy.Client.Options
import Craggy.Ubx.Payload
import Craggy.Ubx.Device
import Craggy.Ubx.Nav
import Craggy.Ubx.Rxm
import Craggy.Ubx.Parse
import Craggy.Ubx.Reads
import Craggy.Ubx.Footprint
import Craggy.Ubx.Guards
import Craggy.Ubx.Counts
import Craggy.Ubx.Stores
import Craggy.Ubx.FixTime
import Craggy.Serial.Reassembly
import Craggy.Serial.Thread
