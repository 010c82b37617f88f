import Pango.Bbb.ClientFunc
import Pango.Server.ClientThreadFunc
import Pango.Stm.Pack

/-!
# A frame from the board to the server

The board packs the client data, the BBB reads the status and checks the frame,
the server checks it again and stores it.  Three programs read the same ten bytes, at
offsets each of them has written down for itself, and the address arrives as a text that the
server prints from the bytes.

What travels is whole here; what a damaged or torn frame does is the matter of
`Wire.Corruption` and of `Server.Framing`.

* `crcValid_fillSendBuff` — the frame the board sends passes the check of both receivers.
* `frame_round_trip` — whatever the data, and whatever the buffer and the slot held
  before, everything arrives: the BBB keeps the status, and the server stores status,
  address and coordinates as they were packed and changes nothing else of the slot.
-/

namespace Pango

open Stm in
/-- The frame the board sends passes the check of both receivers. -/
theorem crcValid_fillSendBuff (d : PangoClientData) (b : Frame) :
    Server.CrcValid (fillSendBuff d b) := crc_fillSendBuff d b

open Stm in
/-- **Round trip.**  The BBB reads the packed status and keeps it; the server
accepts the frame and stores status, address and coordinates as they were
packed, and nothing else of the slot changes. -/
theorem frame_round_trip {D : Type*} (d : PangoClientData) (b : Frame) :
    Bbb.getStatus (fillSendBuff d b) = d.status
    ∧ Bbb.crc8Check (fillSendBuff d b) Bbb.pangoDataSize (Bbb.getStatus (fillSendBuff d b))
      = d.status
    ∧ ∀ status, (Server.crc8Check (fillSendBuff d b) Server.pangoDataSize status) = (true, status)
      ∧ (status ≠ Server.crc8TestFailed → ∀ client : Server.PangoData D,
          ∃ m : Buf UInt8 18, cstr m.toList = HexText.colonHex d.macAddress.toList ∧
            Server.storeClientDataInStruct status (fillSendBuff d b) client
              = (d.status, { client with
                  macAddress := m, xAxis := d.xCoor, yAxis := d.yCoor })) := by
  have hv := crcValid_fillSendBuff d b
  have hst : Bbb.getStatus (fillSendBuff d b) = d.status := status_fillSendBuff d b
  refine ⟨hst, ?_, fun status => ⟨Server.crc8Check_of_valid hv status, fun h client => ?_⟩⟩
  · rw [Bbb.crc8Check_of_valid hv, hst]
  · obtain ⟨m, hm, hstore⟩ := Server.storeClientDataInStruct_eq h (fillSendBuff d b) client
    refine ⟨m, ?_, ?_⟩
    · rw [hm, Server.macText, mac_fillSendBuff]
    · rw [hstore, status_fillSendBuff, x_fillSendBuff, y_fillSendBuff]

end Pango
