import TsnFieldbus.Common.L2Types
import TsnFieldbus.Foundations.CheckedAccess

/-!
# The L2 Frame Format

What exactly `parse_l2_frame` accepts, and that it loses nothing of a tagged frame.

- `parseL2Frame_ok`: an accepted frame is a link header of 14 or 18 bytes, followed by the
  bytes of the parsed header, payload and footer.
- `parseL2Frame_isOk_iff`: acceptance in terms of the length and the two type fields.
- `buildL2Frame_of_parseL2Frame`: a tagged frame is rebuilt from what was parsed.
- `parseL2FrameChecked_eq`: the parser with every access to a slice checked, none of which fails.
- `parseL2Frame_inverse_buildL2Frame`: the three together, with the round trip of built frames.
-/

namespace TsnFieldbus

open Foundations

/-! ## Pieces of a frame -/

/-- The big-endian number at an offset, when the frame reaches that far. -/
def typeAt (frame : Frame) (offset : ℕ) : Option UInt16 :=
  match frame[offset]?, frame[offset + 1]? with
  | some hi, some lo => some (u16OfBytes hi lo)
  | _, _ => none

theorem typeAt_eq {frame : Frame} {offset : ℕ} (h : offset + 1 < frame.length) :
    typeAt frame offset = some (u16OfBytes frame[offset] frame[offset + 1]) := by
  have hlo : frame[offset + 1]? = some frame[offset + 1] := List.getElem?_eq_getElem h
  have hhi : frame[offset]? = some frame[offset] := List.getElem?_eq_getElem (by omega)
  simp only [typeAt, hhi, hlo]

/-- A piece of a frame and what follows it. -/
theorem take_drop_append (frame : Frame) (start size : ℕ) :
    (frame.drop start).take size ++ frame.drop (start + size) = frame.drop start := by
  rw [← List.drop_drop, List.take_append_drop]

/-- The two bytes of a type field are those of the frame. -/
theorem u16Bytes_at {frame : Frame} {offset : ℕ} (h : offset + 1 < frame.length) :
    u16Bytes (u16OfBytes frame[offset] frame[offset + 1]) = (frame.drop offset).take 2 := by
  rw [u16Bytes_u16OfBytes, List.drop_eq_getElem_cons (by omega : offset < frame.length),
    List.drop_eq_getElem_cons h]
  rfl

/-- The octets of an address read from a frame are those of the frame. -/
theorem MacAddr.octets_fromFrame {frame : Frame} {offset : ℕ} (h : offset + 6 ≤ frame.length) :
    (MacAddr.fromFrame frame offset h).octets = (frame.drop offset).take 6 := by
  rw [List.drop_eq_getElem_cons (by omega : offset < frame.length),
    List.drop_eq_getElem_cons (by omega : offset + 1 < frame.length),
    List.drop_eq_getElem_cons (by omega : offset + 1 + 1 < frame.length),
    List.drop_eq_getElem_cons (by omega : offset + 1 + 1 + 1 < frame.length),
    List.drop_eq_getElem_cons (by omega : offset + 1 + 1 + 1 + 1 < frame.length),
    List.drop_eq_getElem_cons (by omega : offset + 1 + 1 + 1 + 1 + 1 < frame.length)]
  rfl

/-- Seven bytes read as a header whose bytes they are. -/
theorem L2Header.readFrom_of_length {buf : List UInt8} (h : buf.length = l2HeaderSize) :
    ∃ header, readFrom buf = some header ∧ header.bytes = buf := by
  match buf, h with
  | [version, s1, s0, c1, c0, status, flags], _ =>
    refine ⟨⟨version, u16OfBytes s1 s0, u16OfBytes c1 c0, status, flags⟩, rfl, ?_⟩
    simp [bytes, writeTo, u16Bytes_u16OfBytes]

/-! ## What the parser accepts -/

/-- The two layouts of the link header: with a VLAN tag, or with the protocol's own type. -/
theorem l2HeaderOffset_ok_iff {frame : Frame} (h : 14 + l2HeaderSize ≤ frame.length)
    {vlanIdPcp : UInt16} {offset : ℕ} :
    l2HeaderOffset frame h = .ok (vlanIdPcp, offset) ↔
      (typeAt frame 12 = some vlanEthertype ∧ 18 + l2HeaderSize ≤ frame.length ∧
        typeAt frame 16 = some ethertypeL2Protocol ∧ typeAt frame 14 = some vlanIdPcp ∧
        offset = 18) ∨
      (typeAt frame 12 = some ethertypeL2Protocol ∧ vlanIdPcp = 0 ∧ offset = 14) := by
  have hsize : l2HeaderSize = 7 := rfl
  have hdistinct : ethertypeL2Protocol ≠ vlanEthertype := by decide
  have h12 := typeAt_eq (show 12 + 1 < frame.length by omega)
  have h14 := typeAt_eq (show 14 + 1 < frame.length by omega)
  have h16 := typeAt_eq (show 16 + 1 < frame.length by omega)
  rw [h12, h14, h16]
  unfold l2HeaderOffset
  by_cases houter : u16OfBytes frame[12] frame[13] = vlanEthertype
  -- tagged: the second type field decides
  · by_cases hshort : frame.length < 18 + l2HeaderSize
    · simp [houter, hshort, not_le.mpr hshort, hdistinct.symm]
    · by_cases hinner : u16OfBytes frame[16] frame[17] = ethertypeL2Protocol
      · simp only [houter, hinner, hshort, if_true, dif_neg, not_false_eq_true, ne_eq,
          not_true_eq_false, if_false, Except.ok.injEq, Prod.mk.injEq, Option.some.injEq,
          hdistinct.symm, false_and, or_false, true_and, not_lt.mp hshort]
        constructor
        · intro hok
          exact ⟨hok.1, hok.2.symm⟩
        · intro hlayout
          exact ⟨hlayout.1, hlayout.2.symm⟩
      · simp [houter, hinner, hshort, hdistinct.symm]
  -- untagged: the type field must be the protocol's
  · by_cases hplain : u16OfBytes frame[12] frame[13] = ethertypeL2Protocol
    · simp [hplain, hdistinct, eq_comm]
    · simp [houter, hplain]

/-- An accepted frame is its link header followed by the bytes of what was parsed. -/
theorem parseL2Frame_ok {frame : Frame} {parsed : ParsedL2Frame}
    (h : parseL2Frame frame = .ok parsed) :
    ∃ (hmin : 14 + l2HeaderSize ≤ frame.length) (offset : ℕ),
      l2HeaderOffset frame hmin = .ok (parsed.vlanIdPcp, offset) ∧
      parsed.destination.octets = (frame.drop 0).take 6 ∧
      parsed.source.octets = (frame.drop 6).take 6 ∧
      frame.drop offset = parsed.header.bytes ++
        (parsed.payload ++ (SecurityFooter.mk parsed.sequenceNumber parsed.authTag).bytes) := by
  unfold parseL2Frame at h
  split at h
  · cases h
  · rename_i hlen
    have hmin : 14 + l2HeaderSize ≤ frame.length := not_lt.mp hlen
    split at h
    · cases h
    · rename_i vlanIdPcp offset hoffset
      have hsize : l2HeaderSize = 7 := rfl
      -- both layouts leave room for the seven header bytes
      have hroom : offset + l2HeaderSize ≤ frame.length := by
        rcases (l2HeaderOffset_ok_iff hmin).mp hoffset with ⟨-, hle, -, -, rfl⟩ | ⟨-, -, rfl⟩
        · exact hle
        · exact hmin
      have htake : ((frame.drop offset).take l2HeaderSize).length = l2HeaderSize := by
        rw [List.length_take, List.length_drop]
        omega
      obtain ⟨header, hread, hbytes⟩ := L2Header.readFrom_of_length htake
      rw [hread] at h
      dsimp only at h
      split at h
      · cases h
      · rename_i payload footer hsplit
        cases h
        refine ⟨hmin, offset, hoffset, ?_, ?_, ?_⟩
        · exact MacAddr.octets_fromFrame _
        · exact MacAddr.octets_fromFrame _
        -- header bytes, then what the footer was split from
        · show frame.drop offset = header.bytes ++ (payload ++ footer.bytes)
          rw [hbytes, ← splitPayloadAndFooter_eq_ok hsplit, take_drop_append]

/-- Whatever has a link header and room for header and footer behind it is accepted. -/
theorem parseL2Frame_of_offset {frame : Frame} (hmin : 14 + l2HeaderSize ≤ frame.length)
    {vlanIdPcp : UInt16} {offset : ℕ}
    (hoffset : l2HeaderOffset frame hmin = .ok (vlanIdPcp, offset))
    (hroom : offset + l2HeaderSize + securityFooterSize ≤ frame.length) :
    ∃ parsed, parseL2Frame frame = .ok parsed := by
  have htake : ((frame.drop offset).take l2HeaderSize).length = l2HeaderSize := by
    rw [List.length_take, List.length_drop]
    omega
  obtain ⟨header, hread, -⟩ := L2Header.readFrom_of_length htake
  have hrest : securityFooterSize ≤ (frame.drop (offset + l2HeaderSize)).length := by
    rw [List.length_drop]
    omega
  obtain ⟨payload, footer, hsplit⟩ := exists_splitPayloadAndFooter hrest
  refine ⟨⟨.fromFrame frame 0 (by omega), .fromFrame frame 6 (by omega), vlanIdPcp, header,
    payload, footer.sequenceNumber, footer.authTag⟩, ?_⟩
  simp only [parseL2Frame, dif_neg (not_lt.mpr hmin), hoffset, hread, hsplit]

/-- The frame reaches as far as its link header, header and footer say. -/
theorem length_of_parseL2Frame {frame : Frame} {parsed : ParsedL2Frame} {offset : ℕ}
    (hdrop : frame.drop offset = parsed.header.bytes ++
      (parsed.payload ++ (SecurityFooter.mk parsed.sequenceNumber parsed.authTag).bytes)) :
    offset + 23 ≤ frame.length := by
  have hlength := congrArg List.length hdrop
  have hsizes : l2HeaderSize = 7 ∧ securityFooterSize = 16 := ⟨rfl, rfl⟩
  simp only [List.length_drop, List.length_append, L2Header.length_bytes,
    SecurityFooter.length_bytes] at hlength
  omega

/-- Acceptance is decided by the length and the type fields. -/
theorem parseL2Frame_isOk_iff (frame : Frame) :
    (∃ parsed, parseL2Frame frame = .ok parsed) ↔
      (41 ≤ frame.length ∧ typeAt frame 12 = some vlanEthertype ∧
        typeAt frame 16 = some ethertypeL2Protocol) ∨
      (37 ≤ frame.length ∧ typeAt frame 12 = some ethertypeL2Protocol) := by
  have hsizes : l2HeaderSize = 7 ∧ securityFooterSize = 16 := ⟨rfl, rfl⟩
  constructor
  · intro hok
    obtain ⟨parsed, hparse⟩ := hok
    obtain ⟨hmin, offset, hoffset, -, -, hdrop⟩ := parseL2Frame_ok hparse
    have hlength := length_of_parseL2Frame hdrop
    rcases (l2HeaderOffset_ok_iff hmin).mp hoffset with
      ⟨houter, -, hinner, -, rfl⟩ | ⟨houter, -, rfl⟩
    · exact .inl ⟨hlength, houter, hinner⟩
    · exact .inr ⟨hlength, houter⟩
  · intro hlayout
    rcases hlayout with ⟨hlength, houter, hinner⟩ | ⟨hlength, houter⟩
    -- the tag is whatever stands between the two type fields
    · have hmin : 14 + l2HeaderSize ≤ frame.length := by omega
      apply parseL2Frame_of_offset hmin
      · apply (l2HeaderOffset_ok_iff hmin).mpr
        exact .inl ⟨houter, by omega, hinner, typeAt_eq (by omega), rfl⟩
      · omega
    · have hmin : 14 + l2HeaderSize ≤ frame.length := by omega
      apply parseL2Frame_of_offset hmin
      · apply (l2HeaderOffset_ok_iff hmin).mpr
        exact .inr ⟨houter, rfl, rfl⟩
      · omega

/-! ## Rebuilding -/

/-- A tagged frame is rebuilt byte for byte from what was parsed of it. -/
theorem buildL2Frame_of_parseL2Frame {frame : Frame} {parsed : ParsedL2Frame}
    (htagged : typeAt frame 12 = some vlanEthertype) (h : parseL2Frame frame = .ok parsed) :
    buildL2Frame parsed.source parsed.destination parsed.vlanIdPcp parsed.header parsed.payload
      ⟨parsed.sequenceNumber, parsed.authTag⟩ = frame := by
  obtain ⟨hmin, offset, hoffset, hdst, hsrc, hdrop⟩ := parseL2Frame_ok h
  have hsize : l2HeaderSize = 7 := rfl
  have hdistinct : vlanEthertype ≠ ethertypeL2Protocol := by decide
  rcases (l2HeaderOffset_ok_iff hmin).mp hoffset with
    ⟨-, -, hinner, htag, rfl⟩ | ⟨hplain, -, rfl⟩
  · rw [buildL2Frame_eq, l2FramePrefix, ← hdrop]
    -- the three numbers of the tag are the frame's own bytes
    have houterBytes : u16Bytes vlanEthertype = (frame.drop 12).take 2 := by
      rw [typeAt_eq (show 12 + 1 < frame.length by omega)] at htagged
      rw [← Option.some.inj htagged]
      exact u16Bytes_at (by omega)
    have htagBytes : u16Bytes parsed.vlanIdPcp = (frame.drop 14).take 2 := by
      rw [typeAt_eq (show 14 + 1 < frame.length by omega)] at htag
      rw [← Option.some.inj htag]
      exact u16Bytes_at (by omega)
    have hinnerBytes : u16Bytes ethertypeL2Protocol = (frame.drop 16).take 2 := by
      rw [typeAt_eq (show 16 + 1 < frame.length by omega)] at hinner
      rw [← Option.some.inj hinner]
      exact u16Bytes_at (by omega)
    rw [hdst, hsrc, houterBytes, htagBytes, hinnerBytes]
    -- put the pieces together from the back
    simp only [List.append_assoc]
    rw [take_drop_append frame 16 2, take_drop_append frame 14 2, take_drop_append frame 12 2,
      take_drop_append frame 6 6, take_drop_append frame 0 6]
    rfl
  · rw [htagged] at hplain
    exact absurd (Option.some.inj hplain) hdistinct

/-! ## Every access in bounds -/

/-- `SecurityFooter::read_from` with its slices and copies checked. -/
def SecurityFooter.readFromChecked (input : List UInt8) :
    Option (Except StatusCode SecurityFooter) :=
  if input.length ≠ securityFooterSize then
    some (.error .errInvalidLen)
  else do
    let sequenceBytes ← checkedCopy 8 (← checkedSlice input 0 8)
    let authTag ← checkedCopy authTagSize (← checkedSlice input 8 (8 + authTagSize))
    some (.ok { sequenceNumber := sequenceOfBytes sequenceBytes.toList, authTag := authTag })

/-- `split_payload_and_footer` with its slices checked. -/
def splitPayloadAndFooterChecked (payload : List UInt8) :
    Option (Except StatusCode (List UInt8 × SecurityFooter)) :=
  if payload.length < securityFooterSize then
    some (.error .errInvalidLen)
  else do
    let footerStart := payload.length - securityFooterSize
    match ← SecurityFooter.readFromChecked (← checkedSlice payload footerStart payload.length) with
    | .error code => some (.error code)
    | .ok footer => do
      let front ← checkedSlice payload 0 footerStart
      some (.ok (front, footer))

/-- Six octets of a frame, every index checked. -/
def MacAddr.fromFrameChecked (frame : Frame) (offset : ℕ) : Option MacAddr := do
  some ⟨← frame[offset]?, ← frame[offset + 1]?, ← frame[offset + 2]?, ← frame[offset + 3]?,
    ← frame[offset + 4]?, ← frame[offset + 5]?⟩

/-- The link header of `parse_l2_frame` with every index checked. -/
def l2HeaderOffsetChecked (frame : Frame) : Option (Except StatusCode (UInt16 × ℕ)) := do
  let ethertype ← typeAt frame 12
  if ethertype = vlanEthertype then
    if frame.length < 18 + l2HeaderSize then
      some (.error .errInvalidLen)
    else do
      let vlanIdPcp ← typeAt frame 14
      let innerEthertype ← typeAt frame 16
      if innerEthertype ≠ ethertypeL2Protocol then some (.error .errInvalidEthertype)
      else some (.ok (vlanIdPcp, 18))
  else if ethertype = ethertypeL2Protocol then some (.ok (0, 14))
  else some (.error .errInvalidEthertype)

/-- `parse_l2_frame` with every index and slice checked: `none` is the access out of bounds. -/
def parseL2FrameChecked (frame : Frame) : Option (Except StatusCode ParsedL2Frame) :=
  if frame.length < 14 + l2HeaderSize then
    some (.error .errInvalidLen)
  else do
    let destination ← MacAddr.fromFrameChecked frame 0
    let source ← MacAddr.fromFrameChecked frame 6
    match ← l2HeaderOffsetChecked frame with
    | .error code => some (.error code)
    | .ok (vlanIdPcp, offset) => do
      match L2Header.readFrom (← checkedSlice frame offset (offset + l2HeaderSize)) with
      | none => some (.error .errFrameParsing)
      | some header => do
        let payloadWithFooter ← checkedSlice frame (offset + l2HeaderSize) frame.length
        match ← splitPayloadAndFooterChecked payloadWithFooter with
        | .error code => some (.error code)
        | .ok (payload, securityFooter) =>
          some (.ok
            { destination := destination
              source := source
              vlanIdPcp := vlanIdPcp
              header := header
              payload := payload
              sequenceNumber := securityFooter.sequenceNumber
              authTag := securityFooter.authTag })

theorem SecurityFooter.readFromChecked_eq (input : List UInt8) :
    readFromChecked input = some (readFrom input) := by
  unfold readFromChecked readFrom
  by_cases hlen : input.length = securityFooterSize
  · have hsizes : securityFooterSize = 16 ∧ authTagSize = 8 := ⟨rfl, rfl⟩
    have hfront : (input.take 8).length = 8 := by
      rw [List.length_take]
      omega
    have hback : ((input.drop 8).take (8 + authTagSize - 8)).length = authTagSize := by
      rw [List.length_take, List.length_drop]
      omega
    rw [checkedSlice_take (by omega), checkedSlice_eq (by omega) (by omega)]
    simp only [Option.bind_eq_bind, Option.bind_some, checkedCopy_eq hfront,
      checkedCopy_eq hback, hlen, ne_eq, not_true_eq_false, if_false, dif_neg, not_false_eq_true]
    rfl
  · simp only [ne_eq, hlen, not_false_eq_true, if_true, dif_pos]

theorem splitPayloadAndFooterChecked_eq (payload : List UInt8) :
    splitPayloadAndFooterChecked payload = some (splitPayloadAndFooter payload) := by
  unfold splitPayloadAndFooterChecked splitPayloadAndFooter
  by_cases hshort : payload.length < securityFooterSize
  · simp only [hshort, if_true]
  · have hstart : payload.length - securityFooterSize ≤ payload.length := Nat.sub_le _ _
    simp only [hshort, if_false, checkedSlice_drop hstart, checkedSlice_take hstart,
      Option.bind_eq_bind, Option.bind_some, SecurityFooter.readFromChecked_eq]
    cases SecurityFooter.readFrom (payload.drop (payload.length - securityFooterSize)) with
    | error code => rfl
    | ok footer => rfl

theorem MacAddr.fromFrameChecked_eq {frame : Frame} {offset : ℕ}
    (h : offset + 6 ≤ frame.length) :
    fromFrameChecked frame offset = some (fromFrame frame offset h) := by
  have h0 : offset < frame.length := by omega
  have h1 : offset + 1 < frame.length := by omega
  have h2 : offset + 2 < frame.length := by omega
  have h3 : offset + 3 < frame.length := by omega
  have h4 : offset + 4 < frame.length := by omega
  have h5 : offset + 5 < frame.length := by omega
  simp only [fromFrameChecked, List.getElem?_eq_getElem h0, List.getElem?_eq_getElem h1,
    List.getElem?_eq_getElem h2, List.getElem?_eq_getElem h3, List.getElem?_eq_getElem h4,
    List.getElem?_eq_getElem h5, Option.bind_eq_bind, Option.bind_some]
  rfl

theorem l2HeaderOffsetChecked_eq {frame : Frame} (h : 14 + l2HeaderSize ≤ frame.length) :
    l2HeaderOffsetChecked frame = some (l2HeaderOffset frame h) := by
  have hsize : l2HeaderSize = 7 := rfl
  unfold l2HeaderOffsetChecked l2HeaderOffset
  rw [typeAt_eq (show 12 + 1 < frame.length by omega),
    typeAt_eq (show 14 + 1 < frame.length by omega),
    typeAt_eq (show 16 + 1 < frame.length by omega)]
  simp only [Option.bind_eq_bind, Option.bind_some]
  split
  -- tagged
  · split
    · rfl
    · split <;> rfl
  · split <;> rfl

/-- No access of the parser is out of bounds, whatever the frame. -/
theorem parseL2FrameChecked_eq (frame : Frame) :
    parseL2FrameChecked frame = some (parseL2Frame frame) := by
  have hsize : l2HeaderSize = 7 := rfl
  unfold parseL2FrameChecked parseL2Frame
  by_cases hshort : frame.length < 14 + l2HeaderSize
  · simp only [hshort, if_true, dif_pos]
  · have hmin : 14 + l2HeaderSize ≤ frame.length := not_lt.mp hshort
    rw [MacAddr.fromFrameChecked_eq (show 0 + 6 ≤ frame.length by omega),
      MacAddr.fromFrameChecked_eq (show 6 + 6 ≤ frame.length by omega),
      l2HeaderOffsetChecked_eq hmin]
    simp only [hshort, if_false, dif_neg, not_false_eq_true, Option.bind_eq_bind,
      Option.bind_some]
    cases hoffset : l2HeaderOffset frame hmin with
    | error code => rfl
    | ok found =>
      obtain ⟨vlanIdPcp, offset⟩ := found
      -- either layout has checked the length up to the end of the header
      have hroom : offset + l2HeaderSize ≤ frame.length := by
        rcases (l2HeaderOffset_ok_iff hmin).mp hoffset with ⟨-, hle, -, -, rfl⟩ | ⟨-, -, rfl⟩
        · exact hle
        · exact hmin
      simp only [checkedSlice_eq (Nat.le_add_right _ _) hroom, Nat.add_sub_cancel_left,
        Option.bind_some]
      cases L2Header.readFrom ((frame.drop offset).take l2HeaderSize) with
      | none => rfl
      | some header =>
        simp only [checkedSlice_drop hroom, Option.bind_some, splitPayloadAndFooterChecked_eq]
        cases splitPayloadAndFooter (frame.drop (offset + l2HeaderSize)) with
        | error code => rfl
        | ok split => rfl

/-! ## The format as a whole -/

/-- Parser and builder are inverse to each other: whatever is built is read back, exactly the
frames of the two layouts are read, tagged ones are rebuilt, and nothing is accessed out of
bounds. -/
theorem parseL2Frame_inverse_buildL2Frame :
    (∀ (source destination : MacAddr) (vlanIdPcp : UInt16) (header : L2Header)
        (payload : List UInt8) (footer : SecurityFooter),
      parseL2Frame (buildL2Frame source destination vlanIdPcp header payload footer) =
        .ok ⟨destination, source, vlanIdPcp, header, payload, footer.sequenceNumber,
          footer.authTag⟩) ∧
    (∀ frame : Frame, (∃ parsed, parseL2Frame frame = .ok parsed) ↔
      (41 ≤ frame.length ∧ typeAt frame 12 = some 0x8100 ∧ typeAt frame 16 = some 0x88B6) ∨
      (37 ≤ frame.length ∧ typeAt frame 12 = some 0x88B6)) ∧
    (∀ (frame : Frame) (parsed : ParsedL2Frame),
      typeAt frame 12 = some 0x8100 → parseL2Frame frame = .ok parsed →
      buildL2Frame parsed.source parsed.destination parsed.vlanIdPcp parsed.header
        parsed.payload ⟨parsed.sequenceNumber, parsed.authTag⟩ = frame) ∧
    (∀ frame : Frame, parseL2FrameChecked frame = some (parseL2Frame frame)) := by
  refine ⟨parseL2Frame_build, parseL2Frame_isOk_iff, ?_, parseL2FrameChecked_eq⟩
  intro frame parsed htagged hparse
  exact buildL2Frame_of_parseL2Frame htagged hparse

/-- A tagged frame of 43 bytes, with flags and a version no sender of this project sets. -/
def taggedFrame : Frame :=
  [1, 2, 3, 4, 5, 6] ++ [7, 8, 9, 10, 11, 12] ++ [0x81, 0x00, 0x60, 0x07, 0x88, 0xB6] ++
    [0xFF, 0, 5, 0x12, 0x34, 3, 0xAB] ++ [40, 41] ++ [0, 0, 0, 0, 0, 0, 0, 9] ++
    [1, 1, 2, 3, 5, 8, 13, 21]

theorem parseL2Frame_inverse_buildL2Frame_tagged :
    ∃ parsed, parseL2Frame taggedFrame = .ok parsed ∧ parsed.header.flags = 0xAB ∧
      buildL2Frame parsed.source parsed.destination parsed.vlanIdPcp parsed.header
        parsed.payload ⟨parsed.sequenceNumber, parsed.authTag⟩ = taggedFrame :=
  ⟨_, rfl, rfl, parseL2Frame_inverse_buildL2Frame.2.2.1 taggedFrame _ rfl rfl⟩

end TsnFieldbus
