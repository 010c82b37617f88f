import Pango.Frame

/-!
# The STM board: packing a frame

`pack_pango_buffer` and `calculate_crc8` of the board's firmware, and the three
statements of `main_PNG` that turn the client data into the buffer handed to
the UART.

The buffer is `main_PNG`'s own and is used for every answer without being cleared; one loop
fills it, which tells the fields by the index and writes two of them in its last turn.  So
one has to see that all ten bytes are written, each with what belongs there.

* `packPangoBuffer_toList` — the loop fills the first nine bytes in order, and leaves the
  tenth.
* `fillSendBuff_toList` — **the frame the board sends** is nine bytes of data and their
  checksum, whatever the buffer held.
* `status_fillSendBuff`, `mac_fillSendBuff` and their like — what a receiver finds in it.
-/

namespace Pango.Stm

/-- `struct pango_client_data`. -/
structure PangoClientData where
  /-- A flag indicating if the application has started or ended. -/
  status : UInt8
  macAddress : Buf UInt8 6
  xCoor : UInt8
  yCoor : UInt8
  deriving DecidableEq

/-- One turn of the loop of `pack_pango_buffer`. -/
def packTurn (clientData : PangoClientData) (bufferToSend : Frame) (i : ℕ) : Frame :=
  if i = 0 then bufferToSend.write i [clientData.status]
  else if i > 0 ∧ i < 7 then bufferToSend.write i [clientData.macAddress.getD (i - 1) 0]
  else (bufferToSend.write i [clientData.xCoor]).write (i + 1) [clientData.yCoor]

/-- `pack_pango_buffer`: status, MAC address and coordinates, leaving the place
of the check byte alone. -/
def packPangoBuffer (clientData : PangoClientData) (bufferToSend : Frame) : Frame :=
  (List.range 8).foldl (packTurn clientData) bufferToSend

/-- `calculate_crc8`. -/
def calculateCrc8 (data : List UInt8) (length : ℕ) : UInt8 :=
  crcLoop crcPolynomial (data.take length)

/-- What `main_PNG` makes of `send_buff`: pack, then store the checksum of the
first nine bytes behind them. -/
def fillSendBuff (clientData : PangoClientData) (sendBuff : Frame) : Frame :=
  let packed := packPangoBuffer clientData sendBuff
  packed.write 9 [calculateCrc8 packed.toList 9]

/-- The nine bytes of data a frame is made of. -/
def payload (clientData : PangoClientData) : List UInt8 :=
  clientData.status :: clientData.macAddress.toList ++ [clientData.xCoor, clientData.yCoor]

theorem length_payload (d : PangoClientData) : (payload d).length = 9 := by
  simp [payload, d.macAddress.length_eq]

/-- The loop fills the first nine bytes in order. -/
theorem packPangoBuffer_toList (d : PangoClientData) (b : Frame) :
    (packPangoBuffer d b).toList = payload d ++ [b.crc] := by
  obtain ⟨s, m₀, m₁, m₂, m₃, m₄, m₅, x, y, c, rfl⟩ := b.exists_bytes
  obtain ⟨_, ⟨mac, hmac⟩, _, _⟩ := d
  match mac with
  | [_, _, _, _, _, _] =>
    simp [packPangoBuffer, packTurn, payload, Buf.write, Buf.getD, Frame.crc,
      show List.range 8 = [0, 1, 2, 3, 4, 5, 6, 7] from rfl]

/-- **The frame the board sends**: nine bytes of data and their checksum,
whatever the buffer held. -/
theorem fillSendBuff_toList (d : PangoClientData) (b : Frame) :
    (fillSendBuff d b).toList = payload d ++ [crcLoop crcPolynomial (payload d)] := by
  have hlen := length_payload d
  have htake : (packPangoBuffer d b).toList.take 9 = payload d := by
    rw [packPangoBuffer_toList, List.take_left' hlen]
  have hdrop : (packPangoBuffer d b).toList.drop 10 = [] :=
    List.drop_eq_nil_of_le (packPangoBuffer d b).length_eq.le
  have hfit : Buf.Fits 10 9 [calculateCrc8 (packPangoBuffer d b).toList 9] := by
    unfold Buf.Fits
    simp
  rw [fillSendBuff, Buf.write_toList hfit, calculateCrc8, htake, List.length_singleton, hdrop,
    List.append_nil]

section Layout

variable (d : PangoClientData) (b : Frame)

theorem status_fillSendBuff : (fillSendBuff d b).status = d.status := by
  simp [Frame.status, Buf.getD, fillSendBuff_toList, payload]

theorem mac_fillSendBuff : (fillSendBuff d b).mac = d.macAddress.toList := by
  simp [Frame.mac, fillSendBuff_toList, payload, d.macAddress.length_eq]

theorem x_fillSendBuff : (fillSendBuff d b).x = d.xCoor := by
  simp [Frame.x, Buf.getD, fillSendBuff_toList, payload, d.macAddress.length_eq]

theorem y_fillSendBuff : (fillSendBuff d b).y = d.yCoor := by
  simp [Frame.y, Buf.getD, fillSendBuff_toList, payload, d.macAddress.length_eq]

/-- The check byte is the checksum of the bytes before it. -/
theorem crc_fillSendBuff :
    (fillSendBuff d b).crc = crcLoop crcPolynomial ((fillSendBuff d b).toList.take 9) := by
  rw [Frame.crc, Buf.getD, fillSendBuff_toList, List.take_left' (length_payload d)]
  simp [length_payload]

end Layout

end Pango.Stm
