import TsnFieldbus.Foundations.TransitionSystem
import TsnFieldbus.Master.Discovery

/-!
# A Whole Call of `discover_devices`

The call sends its request, takes in whatever frames arrive until the timeout, and returns
the devices it has not known before. Whether a frame counts depends on the contexts, which
earlier frames of the same call have changed.

- `acceptedDevices`: the devices `process_discover_frame` has returned, in order.
- `discoverDevices_outcome`: returned vector and cache in terms of these.
-/

namespace TsnFieldbus

open Foundations

/-- The relation between the cache before and after a call, the devices accepted in it and the
devices it returns. -/
structure DiscoveryOutcome (before : HashMap MacAddr DiscoveredDevice)
    (accepted returned : List DiscoveredDevice) (after : HashMap MacAddr DiscoveredDevice) :
    Prop where
  distinct : (returned.map (·.macAddress)).Nodup
  new : ∀ device ∈ returned, before.lookup device.macAddress = none
  keys : ∀ mac, (after.lookup mac).isSome = true ↔
    (before.lookup mac).isSome = true ∨ mac ∈ returned.map (·.macAddress)
  /-- The last device accepted under the address, or the old entry. -/
  entries : ∀ mac, after.lookup mac =
    (accepted.reverse.find? (·.macAddress = mac)).or (before.lookup mac)

/-- A call that has accepted nothing yet. -/
theorem DiscoveryOutcome.start (cache : HashMap MacAddr DiscoveredDevice) :
    DiscoveryOutcome cache [] [] cache :=
  ⟨List.nodup_nil, by simp, by simp, by simp⟩

/-- The loop body's treatment of an accepted device. -/
theorem DiscoveryOutcome.accept {before after : HashMap MacAddr DiscoveredDevice}
    {accepted returned : List DiscoveredDevice}
    (h : DiscoveryOutcome before accepted returned after) (device : DiscoveredDevice) :
    DiscoveryOutcome before (accepted ++ [device])
      (if (after.lookup device.macAddress).isNone then returned ++ [device] else returned)
      (after.insert device.macAddress device) := by
  have hentries : ∀ mac, (after.insert device.macAddress device).lookup mac =
      ((accepted ++ [device]).reverse.find? (·.macAddress = mac)).or (before.lookup mac) := by
    intro mac
    rw [List.reverse_append, List.reverse_singleton, List.singleton_append, List.find?_cons]
    by_cases hmac : device.macAddress = mac
    · subst hmac
      simp
    · simp only [hmac, decide_false]
      rw [AList.lookup_insert_ne (Ne.symm hmac)]
      exact h.entries mac
  have hinsert : ∀ mac, ((after.insert device.macAddress device).lookup mac).isSome = true ↔
      (after.lookup mac).isSome = true ∨ mac = device.macAddress := by
    intro mac
    by_cases hmac : mac = device.macAddress
    · subst hmac
      simp
    · simp [AList.lookup_insert_ne hmac, hmac]
  by_cases hnew : (after.lookup device.macAddress).isNone = true
  · have habsent : after.lookup device.macAddress = none := Option.isNone_iff_eq_none.mp hnew
    -- not in the cache, so neither cached before nor returned yet
    have hnot := (h.keys device.macAddress).not.mp (by simp [habsent])
    rw [if_pos hnew]
    refine ⟨?_, ?_, ?_, hentries⟩
    · rw [List.map_append, List.nodup_append]
      refine ⟨h.distinct, List.nodup_singleton _, ?_⟩
      rintro mac hmem other hother rfl
      rw [List.mem_singleton.mp hother] at hmem
      exact hnot (.inr hmem)
    · intro other hother
      rcases List.mem_append.mp hother with hold | hdevice
      · exact h.new other hold
      · rw [List.mem_singleton.mp hdevice]
        simpa using fun hsome => hnot (.inl hsome)
    · intro mac
      rw [hinsert, h.keys, List.map_append, List.mem_append, or_assoc]
      simp
  · have hpresent : (after.lookup device.macAddress).isSome = true := by
      simpa [Option.isSome_iff_ne_none] using hnew
    rw [if_neg hnew]
    refine ⟨h.distinct, h.new, ?_, hentries⟩
    intro mac
    rw [hinsert, h.keys, or_iff_left_iff_imp]
    rintro rfl
    exact (h.keys _).mp hpresent

section DiscoverCall

variable (blake3 : KeyedHash)

/-- The devices `process_discover_frame` returns for the frames of a call. -/
def acceptedDevices (transactionId : UInt16) (handler : DiscoveryAuthHandler) :
    List Frame → List DiscoveredDevice
  | [] => []
  | frameData :: rest =>
    let (device, handler) := processDiscoverFrame blake3 frameData transactionId handler
    device.toList ++ acceptedDevices transactionId handler rest

namespace DiscoveryMaster

/-- The loop of `discover_devices` on the frames that arrive. -/
def discoverLoop (master : DiscoveryMaster) (transactionId : UInt16)
    (newlyDiscovered : List DiscoveredDevice) (frames : List Frame) :
    List DiscoveredDevice × DiscoveryMaster :=
  frames.foldl (fun s frameData => s.2.discoverFrame blake3 transactionId s.1 frameData)
    (newlyDiscovered, master)

/-- A call of `discover_devices` during which these frames arrive. -/
def discoverDevicesCall (master : DiscoveryMaster) (frames : List Frame) :
    Option (MasterPhase × DiscoveryMaster) :=
  let (phase, _, master) := master.discoverDevices blake3 true
  (execute (fun s frameData => s.2.receiveFrame blake3 frameData s.1) (phase, master) frames).bind
    fun s => s.1.timeout.map fun phase => (phase, s.2)

/-- In the loop the master receives every frame with the loop body. -/
theorem execute_discovering (master : DiscoveryMaster) (transactionId : UInt16)
    (newlyDiscovered : List DiscoveredDevice) (frames : List Frame) :
    execute (fun (s : MasterPhase × DiscoveryMaster) frameData =>
        s.2.receiveFrame blake3 frameData s.1)
      (.discovering transactionId newlyDiscovered, master) frames =
      some (.discovering transactionId
          (master.discoverLoop blake3 transactionId newlyDiscovered frames).1,
        (master.discoverLoop blake3 transactionId newlyDiscovered frames).2) := by
  induction frames generalizing master newlyDiscovered with
  | nil => rfl
  | cons frameData rest ih =>
    rw [execute_cons, receiveFrame, Option.bind_some]
    exact ih _ _

/-- One frame extends the outcome by the device it announces, if it is accepted. -/
theorem discoverFrame_outcome {before : HashMap MacAddr DiscoveredDevice}
    {accepted newlyDiscovered : List DiscoveredDevice} {master : DiscoveryMaster}
    (h : DiscoveryOutcome before accepted newlyDiscovered master.discoveredDevices)
    (transactionId : UInt16) (frameData : Frame) :
    DiscoveryOutcome before
      (accepted ++ (processDiscoverFrame blake3 frameData transactionId
        master.authHandler).1.toList)
      (master.discoverFrame blake3 transactionId newlyDiscovered frameData).1
      (master.discoverFrame blake3 transactionId newlyDiscovered frameData).2.discoveredDevices ∧
    (master.discoverFrame blake3 transactionId newlyDiscovered frameData).2.authHandler =
      (processDiscoverFrame blake3 frameData transactionId master.authHandler).2 := by
  unfold discoverFrame
  rcases processDiscoverFrame blake3 frameData transactionId master.authHandler with
    ⟨device, handler⟩
  cases device with
  | none => exact ⟨by simpa using h, rfl⟩
  | some device => exact ⟨h.accept device, rfl⟩

/-- The loop extends the outcome by all devices accepted in it. -/
theorem discoverLoop_outcome {before : HashMap MacAddr DiscoveredDevice}
    {accepted newlyDiscovered : List DiscoveredDevice} {master : DiscoveryMaster}
    (h : DiscoveryOutcome before accepted newlyDiscovered master.discoveredDevices)
    (transactionId : UInt16) (frames : List Frame) :
    DiscoveryOutcome before
      (accepted ++ acceptedDevices blake3 transactionId master.authHandler frames)
      (master.discoverLoop blake3 transactionId newlyDiscovered frames).1
      (master.discoverLoop blake3 transactionId newlyDiscovered frames).2.discoveredDevices := by
  induction frames generalizing accepted newlyDiscovered master with
  | nil =>
    rw [acceptedDevices, List.append_nil]
    exact h
  | cons frameData rest ih =>
    obtain ⟨houtcome, hhandler⟩ := discoverFrame_outcome blake3 h transactionId frameData
    have hrest := ih houtcome
    rw [hhandler, List.append_assoc] at hrest
    exact hrest

/-- `discover_devices` returns at once, or it enters its loop with the transaction id taken
from the counter and an unchanged cache. -/
theorem discoverDevices_cases (master : DiscoveryMaster) :
    (∃ result, (master.discoverDevices blake3 true).1 = .returned .discoverDevices result) ∨
    ((master.discoverDevices blake3 true).1 = .discovering master.transactionCounter [] ∧
      (master.discoverDevices blake3 true).2.2.discoveredDevices = master.discoveredDevices) := by
  by_cases hstate : master.stateManager.state = .discoverySync
  · cases hmac : master.interfaceMac with
    | none =>
      left
      simp [discoverDevices, sendRequest, hstate, nextTransactionId, buildRequestFrame, hmac]
    | some mac =>
      have hbegin := begin_of_state_eq blake3 hmac hstate true .discoverDevices
      simp only [begin] at hbegin
      exact .inr (by rw [hbegin]; exact ⟨rfl, rfl⟩)
  · have hbegin := begin_of_state_ne blake3 hstate true .discoverDevices
    simp only [begin] at hbegin
    exact .inl ⟨_, by rw [hbegin]⟩

/-- The frame holds no authentic, fresh answer to this transaction: it has another ethertype
or layout, operation code or transaction id, or its tag or number is invalid. -/
def Disregards (master : DiscoveryMaster) (transactionId : UInt16) (frameData : Frame) : Prop :=
  ∀ message, frameData.sdcpMessage = some message → AnswersDiscovery message transactionId →
    ¬ AcceptsDiscovery blake3 master.authHandler message

/-- A disregarded frame changes nothing. -/
theorem discoverFrame_of_disregards {master : DiscoveryMaster} {transactionId : UInt16}
    {frameData : Frame} (h : master.Disregards blake3 transactionId frameData)
    (newlyDiscovered : List DiscoveredDevice) :
    master.discoverFrame blake3 transactionId newlyDiscovered frameData =
      (newlyDiscovered, master) := by
  rcases discoverFrame_cases blake3 master transactionId newlyDiscovered frameData with
    ⟨-, hsame⟩ | ⟨message, hmessage, hanswers, haccepts, -⟩
  · exact hsame
  · exact absurd haccepts (h message hmessage hanswers)

/-- A frame of another ethertype is disregarded. -/
theorem disregards_of_ethertype {frameData : Frame} {eth : EthernetPacket}
    (hnew : EthernetPacket.new frameData = some eth) (h : eth.getEthertype ≠ ethertypeSdcp)
    (master : DiscoveryMaster) (transactionId : UInt16) :
    master.Disregards blake3 transactionId frameData := by
  have hnone : Frame.sdcpMessage frameData = none := by
    simp only [Frame.sdcpMessage, hnew, if_pos h]
  intro message hmessage
  rw [hnone] at hmessage
  cases hmessage

/-- **Outcome of `discover_devices`**: the devices returned have distinct addresses that were
not cached; the cached addresses are the old and the returned ones; each entry is the last
device accepted under its address, or the old one. In whatever state the loop is, a frame that
holds no valid answer changes neither cache nor contexts. -/
theorem discoverDevices_outcome {master after : DiscoveryMaster} {frames : List Frame}
    {devices : List DiscoveredDevice}
    (hcall : master.discoverDevicesCall blake3 frames =
      some (.returned .discoverDevices (.discovered devices), after)) :
    DiscoveryOutcome master.discoveredDevices
      (acceptedDevices blake3 master.transactionCounter
        (master.discoverDevices blake3 true).2.2.authHandler frames)
      devices after.discoveredDevices ∧
    ∀ (inLoop : DiscoveryMaster) (newlyDiscovered : List DiscoveredDevice) (frameData : Frame),
      inLoop.Disregards blake3 master.transactionCounter frameData →
      inLoop.discoverFrame blake3 master.transactionCounter newlyDiscovered frameData =
        (newlyDiscovered, inLoop) := by
  refine ⟨?_, fun inLoop newlyDiscovered frameData h =>
    discoverFrame_of_disregards blake3 h newlyDiscovered⟩
  unfold discoverDevicesCall at hcall
  rcases discoverDevices_cases blake3 master with ⟨result, hreturned⟩ | ⟨hloop, hcache⟩
  -- a call that has returned receives nothing and does not time out
  · rcases hbegun : master.discoverDevices blake3 true with ⟨phase, frame, begun⟩
    simp only [hbegun] at hreturned hcall
    subst hreturned
    cases frames with
    | nil => cases hcall
    | cons frameData rest => cases hcall
  · have hstart := DiscoveryOutcome.start master.discoveredDevices
    rw [← hcache] at hstart
    have houtcome := discoverLoop_outcome blake3 hstart master.transactionCounter frames
    rw [hcache, List.nil_append] at houtcome
    rcases hbegun : master.discoverDevices blake3 true with ⟨phase, frame, begun⟩
    simp only [hbegun] at hloop hcall houtcome ⊢
    subst hloop
    rw [execute_discovering, Option.bind_some] at hcall
    cases hcall
    exact houtcome

/-- A master in DiscoverySync that has discovered nothing. -/
def searchingMaster : DiscoveryMaster :=
  .new (some ⟨0xAA, 0xBB, 0xCC, 0xDD, 0xEE, 1⟩) ⟨.discoverySync⟩ zeroSecret

/-- A DiscoverRes to the first request. -/
def discoverResponse (source : MacAddr) (seq : UInt64) (serialNumber : UInt32) : Frame :=
  sdcpFrame ⟨0xAA, 0xBB, 0xCC, 0xDD, 0xEE, 1⟩ source (.new .discoverRes 1)
    (Tlv.deviceInfo 0 0 serialNumber).bytes
    { sequenceNumber := seq
      authTag := tagOf checksumHash zeroSecret
        (signedBytes (.new .discoverRes 1) (Tlv.deviceInfo 0 0 serialNumber).bytes seq) }

/-- Two devices answer, the first one a second time with another serial number. -/
theorem discoverDevices_outcome_two_devices :
    ∃ devices after, searchingMaster.discoverDevicesCall checksumHash
        [discoverResponse ⟨0x11, 0x22, 0x33, 0x44, 0x55, 0x66⟩ 1 7,
          discoverResponse ⟨0x11, 0x22, 0x33, 0x44, 0x55, 0x77⟩ 1 8,
          discoverResponse ⟨0x11, 0x22, 0x33, 0x44, 0x55, 0x66⟩ 2 9] =
        some (.returned .discoverDevices (.discovered devices), after) ∧
      devices.map (·.serialNumber) = [7, 8] ∧ (devices.map (·.macAddress)).Nodup := by
  obtain ⟨devices, after, hcall, hserials⟩ : ∃ devices after,
      searchingMaster.discoverDevicesCall checksumHash
        [discoverResponse ⟨0x11, 0x22, 0x33, 0x44, 0x55, 0x66⟩ 1 7,
          discoverResponse ⟨0x11, 0x22, 0x33, 0x44, 0x55, 0x77⟩ 1 8,
          discoverResponse ⟨0x11, 0x22, 0x33, 0x44, 0x55, 0x66⟩ 2 9] =
        some (.returned .discoverDevices (.discovered devices), after) ∧
      devices.map (·.serialNumber) = [7, 8] := ⟨_, _, rfl, by decide +kernel⟩
  exact ⟨devices, after, hcall, hserials, (discoverDevices_outcome checksumHash hcall).1.distinct⟩

end DiscoveryMaster

end DiscoverCall

end TsnFieldbus
