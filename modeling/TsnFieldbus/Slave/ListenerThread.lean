import TsnFieldbus.Foundations.TransitionSystem
import TsnFieldbus.Slave.Discovery

/-!
# The Discovery Listener among Other Threads

The loop of `start_discovery_listener` one effect at a time: the state check, the received
packet with its authentication, and for a SetIpReq the application of the configuration, the
write of the device info with the response, and the call of `set_target_state`. Between any
two of them another thread may call `set_target_state` on the shared state manager.

- `device_changed_in_discoverySync`: without a change of state behind the listener's back, a
  packet changes the device in `discoverySync` only.
- `execute_handling`: without interruption the steps are one `receiveFrame`.
-/

namespace TsnFieldbus

open Foundations

/-! ## The system -/

/-- Where the listener is in its loop. -/
inductive ListenerThreadPhase where
  /-- At the top of the loop. -/
  | checking
  /-- Found `discoverySync`, at `receiver.next()`. -/
  | receiving
  /-- Has an authentic SetIpReq, before `apply_ip_config`. -/
  | applying (message : SdcpMessage) (config : IpConfig)
  /-- Has applied the configuration, before `write_device_info`. -/
  | storing (message : SdcpMessage) (config : IpConfig)
  /-- Has sent its response, before `set_target_state`. -/
  | finishing
  | exited

/-- The listener has passed its state check and not yet come back to it. -/
def ListenerThreadPhase.pastCheck : ListenerThreadPhase → Bool
  | .receiving | .applying _ _ | .storing _ _ | .finishing => true
  | .checking | .exited => false

/-- The listener thread of a node. -/
structure ListenerThread where
  node : SlaveNode
  phase : ListenerThreadPhase
  /-- What the listener has done outside the node, each with the device state at the time. -/
  log : List (SlaveEffect × DeviceState)
  /-- The device states in which the listener has called `set_target_state(PreOp)`. -/
  triggers : List DeviceState

/-- One move: a call by another thread, or a step of the listener with the answers of the
hardware. -/
inductive ListenerEvent where
  | setTargetState (target : DeviceState)
  | check
  | receiverError
  | receive (frame : Frame) (hw : HardwareResponse)
  | apply (answer : Except HardwareError Unit)
  | store (readAnswer : Except HardwareError Unit)
      (writeAnswer : Except (HardwareError × DeviceInfo) Unit)
  | finish

namespace ListenerThread

variable (blake3 : KeyedHash)

/-- The device state. -/
def state (s : ListenerThread) : DeviceState := s.node.stateManager.state

/-- Go on in a phase, with effects to log. -/
def proceed (s : ListenerThread) (phase : ListenerThreadPhase)
    (outcome : SlaveNode × List SlaveEffect) : ListenerThread :=
  { s with
    node := outcome.1
    phase := phase
    log := s.log ++ outcome.2.map (·, s.state) }

/-- Answer a SetIpReq with a status code, after an effect. -/
def respond (node : SlaveNode) (message : SdcpMessage) (effect : SlaveEffect)
    (code : StatusCode) : SlaveNode × List SlaveEffect :=
  let (node, sent) := node.sendStatusResponse blake3 message.source .setIpRes
    message.parsed.header.transactionId code
  (node, effect :: sent)

/-- The parsing, authentication and dispatch of a received frame. A SetIpReq with a
configuration stops before its first effect. -/
def handle (s : ListenerThread) (frame : Frame) (hw : HardwareResponse) : ListenerThread :=
  match frame.sdcpMessage with
  | none => { s with phase := .checking }
  | some message =>
    match s.node.authHandler.validateAuthTag blake3 message.source message.parsed.header
      message.parsed.tlvPayload message.parsed.sequenceNumber message.parsed.authTag with
    | (false, handler) =>
      { s with node := { s.node with authHandler := handler }, phase := .checking }
    | (true, handler) =>
      let node := { s.node with authHandler := handler }
      match message.parsed.header.opCode with
      | .setIpReq =>
        match SlaveNode.requestedConfig message.parsed.tlvPayload with
        | none => { s with node := node, phase := .checking }
        | some config => { s with node := node, phase := .applying message config }
      | _ => s.proceed .checking (node.dispatchRequest blake3 message.parsed message.source hw)

/-- The effect of one move. -/
def step (s : ListenerThread) : ListenerEvent → Option ListenerThread
  | .setTargetState target =>
    some
      { s with
        node := { s.node with stateManager := s.node.stateManager.trySetTargetState target } }
  | .check =>
    match s.phase with
    | .checking =>
      if s.state ≠ .discoverySync then some { s with phase := .exited }
      else some { s with phase := .receiving }
    | _ => none
  | .receiverError =>
    match s.phase with
    | .receiving => some { s with phase := .checking }
    | _ => none
  | .receive frame hw =>
    match s.phase with
    | .receiving => some (s.handle blake3 frame hw)
    | _ => none
  | .apply answer =>
    match s.phase with
    | .applying message config =>
      match answer with
      | .error _ =>
        some (s.proceed .checking
          (respond blake3 s.node message (.applyIpConfig config false) .errHardwareAccess))
      | .ok () =>
        some (s.proceed (.storing message config) (s.node, [.applyIpConfig config true]))
    | _ => none
  | .store readAnswer writeAnswer =>
    match s.phase with
    | .storing message config =>
      match readAnswer with
      | .error code =>
        some (s.proceed .checking (s.node.sendStatusResponse blake3 message.source .setIpRes
          message.parsed.header.transactionId code.val))
      | .ok () =>
        let info := s.node.configuredInfo config
        match writeAnswer with
        | .error (code, stored) =>
          some (s.proceed .checking
            (respond blake3 { s.node with deviceInfo := stored } message
              (.writeDeviceInfo info false) code.val))
        | .ok () =>
          some (s.proceed .finishing
            (respond blake3 { s.node with deviceInfo := info } message
              (.writeDeviceInfo info true) .noError))
    | _ => none
  | .finish =>
    match s.phase with
    | .finishing =>
      some
        { s with
          node := { s.node with stateManager := s.node.stateManager.trySetTargetState .preOp }
          phase := .checking
          triggers := s.triggers ++ [s.state] }
    | _ => none

/-- The listener as it is started. -/
def start (node : SlaveNode) : ListenerThread :=
  { node := node
    phase := .checking
    log := []
    triggers := [] }

/-! ## One step -/

/-- Sending a status response does not touch the device state. -/
theorem stateManager_sendStatusResponse (node : SlaveNode) (mac : MacAddr) (opCode : SdcpOpCode)
    (transactionId : UInt16) (code : StatusCode) :
    (node.sendStatusResponse blake3 mac opCode transactionId code).1.stateManager =
      node.stateManager := by
  rw [SlaveNode.sendStatusResponse, SlaveNode.sendResponse_eq blake3 _ _ _ _ (.statusReport code)]

theorem stateManager_respond (node : SlaveNode) (message : SdcpMessage) (effect : SlaveEffect)
    (code : StatusCode) :
    (respond blake3 node message effect code).1.stateManager = node.stateManager :=
  stateManager_sendStatusResponse blake3 node _ _ _ code

/-- A packet that is no SetIpReq does not touch the device state. -/
theorem stateManager_dispatchRequest {node : SlaveNode} {parsed : ParsedSdcpPayload}
    {mac : MacAddr} {hw : HardwareResponse} (hop : parsed.header.opCode ≠ .setIpReq) :
    (node.dispatchRequest blake3 parsed mac hw).1.stateManager = node.stateManager := by
  have hconfigured : (node.requestAction parsed hw).configured = false := by
    unfold SlaveNode.requestAction
    split
    · rfl
    · rfl
    · rename_i hsetIp
      exact absurd hsetIp hop
    · rfl
  rw [SlaveNode.dispatchRequest_eq]
  unfold SlaveNode.perform
  simp only [hconfigured, Bool.false_eq_true, if_false]
  split <;> rfl

/-- What a move of the listener leaves alone, and what it logs. -/
structure Proceeds (s t : ListenerThread) : Prop where
  stateManager : t.node.stateManager = s.node.stateManager
  triggers : t.triggers = s.triggers
  pastCheck : t.phase.pastCheck = true → s.phase.pastCheck = true ∨ s.state = .discoverySync
  log : ∃ effects : List SlaveEffect, t.log = s.log ++ effects.map (·, s.state) ∧
    (s.phase.pastCheck = true ∨ effects = [])

/-- A move without effects, behind the state check or to a phase in front of it. -/
theorem Proceeds.of_quiet {s t : ListenerThread}
    (hmanager : t.node.stateManager = s.node.stateManager) (htriggers : t.triggers = s.triggers)
    (hpast : t.phase.pastCheck = true → s.phase.pastCheck = true ∨ s.state = .discoverySync)
    (hlog : t.log = s.log) : Proceeds s t :=
  ⟨hmanager, htriggers, hpast, [], by rw [hlog, List.map_nil, List.append_nil], .inr rfl⟩

/-- A move with effects, behind the state check. -/
theorem proceeds_proceed {s : ListenerThread} {phase : ListenerThreadPhase}
    {outcome : SlaveNode × List SlaveEffect} (hpast : s.phase.pastCheck = true)
    (hmanager : outcome.1.stateManager = s.node.stateManager) :
    Proceeds s (s.proceed phase outcome) :=
  ⟨hmanager, rfl, fun _ => .inl hpast, outcome.2, rfl, .inl hpast⟩

theorem proceeds_handle {s : ListenerThread} (hphase : s.phase = .receiving) (frame : Frame)
    (hw : HardwareResponse) : Proceeds s (s.handle blake3 frame hw) := by
  have hpast : s.phase.pastCheck = true := by rw [hphase]; rfl
  unfold handle
  split
  · exact .of_quiet rfl rfl (fun _ => .inl hpast) rfl
  · rename_i message hmessage
    split
    · exact .of_quiet rfl rfl (fun _ => .inl hpast) rfl
    -- authentic: only a SetIpReq with a configuration goes on
    · rename_i handler hvalid
      dsimp only
      split
      · split
        · exact .of_quiet rfl rfl (fun _ => .inl hpast) rfl
        · exact .of_quiet rfl rfl (fun _ => .inl hpast) rfl
      · rename_i hop
        exact proceeds_proceed hpast
          (@stateManager_dispatchRequest blake3 { s.node with authHandler := handler } _ _ _ hop)

/-- Everything one move can be to the device state and the history. -/
theorem step_cases {s t : ListenerThread} {event : ListenerEvent}
    (hstep : s.step blake3 event = some t) :
    (∃ target, event = .setTargetState target ∧
      t = { s with
        node := { s.node with stateManager := s.node.stateManager.trySetTargetState target } }) ∨
    Proceeds s t ∨
    (s.phase = .finishing ∧ t.phase = .checking ∧ t.log = s.log ∧
      t.triggers = s.triggers ++ [s.state]) := by
  cases event with
  | setTargetState target =>
    cases hstep
    exact .inl ⟨target, rfl, rfl⟩
  | check =>
    right; left
    simp only [step] at hstep
    split at hstep
    · split at hstep
      -- out of the loop
      · cases hstep
        exact .of_quiet rfl rfl (fun hpast => absurd hpast Bool.false_ne_true) rfl
      -- behind the check, which has found `discoverySync`
      · rename_i hstate
        cases hstep
        exact .of_quiet rfl rfl (fun _ => .inr (not_not.mp hstate)) rfl
    · cases hstep
  | receiverError =>
    -- back to the check
    right; left
    simp only [step] at hstep
    split at hstep
    · cases hstep
      exact .of_quiet rfl rfl (fun hpast => absurd hpast Bool.false_ne_true) rfl
    · cases hstep
  | receive frame hw =>
    right; left
    simp only [step] at hstep
    split at hstep
    · rename_i hphase
      cases hstep
      exact proceeds_handle blake3 hphase frame hw
    · cases hstep
  | apply answer =>
    right; left
    simp only [step] at hstep
    split at hstep
    · rename_i message config hphase
      have hpast : s.phase.pastCheck = true := by rw [hphase]; rfl
      split at hstep
      -- the hardware refuses the configuration, which is answered
      · cases hstep
        exact proceeds_proceed hpast (stateManager_respond blake3 s.node message _ _)
      · cases hstep
        exact proceeds_proceed hpast rfl
    · cases hstep
  | store readAnswer writeAnswer =>
    right; left
    simp only [step] at hstep
    split at hstep
    · rename_i message config hphase
      have hpast : s.phase.pastCheck = true := by rw [hphase]; rfl
      split at hstep
      -- the stored device info could not be read
      · cases hstep
        exact proceeds_proceed hpast (stateManager_sendStatusResponse blake3 s.node _ _ _ _)
      -- written or not, the outcome is answered
      · split at hstep
        · cases hstep
          exact proceeds_proceed hpast (stateManager_respond blake3 _ message _ _)
        · cases hstep
          exact proceeds_proceed hpast (stateManager_respond blake3 _ message _ _)
    · cases hstep
  | finish =>
    -- the one move that itself requests a state
    right; right
    simp only [step] at hstep
    split at hstep
    · rename_i hphase
      cases hstep
      exact ⟨hphase, rfl, rfl, rfl⟩
    · cases hstep

/-! ## The device state behind the check -/

/-- Condition on a step: while the listener is past its state check, a call of another thread
leaves the device in its state. -/
def KeepsStateBehindCheck (s : ListenerThread) : ListenerEvent → Prop
  | .setTargetState target => s.phase.pastCheck = true →
      (s.node.stateManager.trySetTargetState target).state = s.state
  | _ => True

instance (s : ListenerThread) (event : ListenerEvent) :
    Decidable (s.KeepsStateBehindCheck event) :=
  match event with
  | .setTargetState target => inferInstanceAs (Decidable (s.phase.pastCheck = true →
      (s.node.stateManager.trySetTargetState target).state = s.state))
  | .check | .receiverError | .receive _ _ | .apply _ | .store _ _ | .finish =>
    inferInstanceAs (Decidable True)

/-- Past its state check the listener finds the device in `discoverySync`, and so did all its
effects and calls. -/
structure ActsInDiscoverySync (s : ListenerThread) : Prop where
  past : s.phase.pastCheck = true → s.state = .discoverySync
  log : ∀ entry ∈ s.log, entry.2 = .discoverySync
  triggers : ∀ state ∈ s.triggers, state = .discoverySync

theorem actsInDiscoverySync_step (s : ListenerThread) (event : ListenerEvent)
    (t : ListenerThread) (h : s.ActsInDiscoverySync) (hguard : s.KeepsStateBehindCheck event)
    (hstep : s.step blake3 event = some t) : t.ActsInDiscoverySync := by
  rcases step_cases blake3 hstep with ⟨target, rfl, rfl⟩ | hproceeds |
    ⟨hphase, hchecking, hlog, htriggers⟩
  -- a call of another thread, guarded
  · refine ⟨?_, h.log, h.triggers⟩
    intro hpast
    exact (hguard hpast).trans (h.past hpast)
  · obtain ⟨effects, hlog, hbehind⟩ := hproceeds.log
    refine ⟨?_, ?_, ?_⟩
    · intro hpast
      rw [state, hproceeds.stateManager]
      rcases hproceeds.pastCheck hpast with hbefore | hfound
      · exact h.past hbefore
      · exact hfound
    -- new effects are logged with the state behind the check
    · intro entry hentry
      rw [hlog] at hentry
      rcases List.mem_append.mp hentry with hold | hnew
      · exact h.log entry hold
      · obtain ⟨effect, heffect, rfl⟩ := List.mem_map.mp hnew
        rcases hbehind with hpast | hnone
        · exact h.past hpast
        · rw [hnone] at heffect
          cases heffect
    · rw [hproceeds.triggers]
      exact h.triggers
  · refine ⟨?_, hlog ▸ h.log, ?_⟩
    · intro hpast
      rw [hchecking] at hpast
      cases hpast
    · intro found hfound
      rw [htriggers] at hfound
      rcases List.mem_append.mp hfound with hold | hnew
      · exact h.triggers found hold
      · rw [List.mem_singleton.mp hnew]
        apply h.past
        rw [hphase]
        rfl

/-- **No effect outside `discoverySync`**: in a run in which no other thread changes the device
state while the listener is past its state check, everything a packet makes the listener do
(apply a configuration, write the device info, respond, call `set_target_state`) happens in
`discoverySync`. -/
theorem device_changed_in_discoverySync {node : SlaveNode} {events : List ListenerEvent}
    {t : ListenerThread}
    (hguard : EveryStep (step blake3) KeepsStateBehindCheck (start node) events)
    (hrun : execute (step blake3) (start node) events = some t) :
    (∀ entry ∈ t.log, entry.2 = .discoverySync) ∧
      ∀ state ∈ t.triggers, state = .discoverySync := by
  have hstart : (start node).ActsInDiscoverySync :=
    ⟨fun hpast => absurd hpast Bool.false_ne_true, List.forall_mem_nil _, List.forall_mem_nil _⟩
  have hend := execute_invariant_of_guarded (actsInDiscoverySync_step blake3) hstart hguard hrun
  exact ⟨hend.log, hend.triggers⟩

/-! ## Packets without interruption -/

/-- `handle_set_ip_request` on a payload with a configuration, split at its effects. -/
theorem handleSetIpRequest_of_requestedConfig (node : SlaveNode) (message : SdcpMessage)
    {config : IpConfig} (hw : HardwareResponse)
    (h : SlaveNode.requestedConfig message.parsed.tlvPayload = some config) :
    node.handleSetIpRequest blake3 message.parsed.header message.parsed.tlvPayload
        message.source hw =
      match hw.applyIpConfig, hw.readDeviceInfo, hw.writeDeviceInfo with
      | .error _, _, _ =>
        respond blake3 node message (.applyIpConfig config false) .errHardwareAccess
      | .ok (), .error code, _ =>
        respond blake3 node message (.applyIpConfig config true) code.val
      | .ok (), .ok (), .error (code, stored) =>
        let outcome := respond blake3 { node with deviceInfo := stored } message
          (.writeDeviceInfo (node.configuredInfo config) false) code.val
        (outcome.1, .applyIpConfig config true :: outcome.2)
      | .ok (), .ok (), .ok () =>
        let outcome := respond blake3 { node with deviceInfo := node.configuredInfo config }
          message (.writeDeviceInfo (node.configuredInfo config) true) .noError
        ({ outcome.1 with
            stateManager := outcome.1.stateManager.trySetTargetState .preOp },
          .applyIpConfig config true :: outcome.2) := by
  unfold SlaveNode.requestedConfig at h
  obtain ⟨tlv, hread, hconfig⟩ := Option.bind_eq_some_iff.mp h
  -- a payload that was read is not empty
  have hpayload : message.parsed.tlvPayload.isEmpty = false := by
    cases hempty : message.parsed.tlvPayload with
    | nil =>
      rw [hempty] at hread
      cases hread
    | cons b bs => rfl
  unfold SlaveNode.handleSetIpRequest
  simp only [hpayload, Bool.false_eq_true, if_false, hread, hconfig]
  -- one hardware call after the other, each may end the handler
  rcases hw.applyIpConfig with code | ok
  · rfl
  · simp only [SlaveNode.readDeviceInfo]
    rcases hw.readDeviceInfo with code | ok
    · rfl
    · rcases hw.writeDeviceInfo with ⟨code, stored⟩ | ok <;> rfl

/-- The steps behind an authentic SetIpReq, without interruption. -/
theorem execute_applying {s : ListenerThread} {message : SdcpMessage} {config : IpConfig}
    (hphase : s.phase = .applying message config)
    (hconfig : SlaveNode.requestedConfig message.parsed.tlvPayload = some config)
    (hw : HardwareResponse) :
    ∃ events t, events <+: [.apply hw.applyIpConfig,
        .store hw.readDeviceInfo hw.writeDeviceInfo, .finish] ∧
      execute (step blake3) s events = some t ∧ t.phase = .checking ∧
      t.node = (s.node.handleSetIpRequest blake3 message.parsed.header
        message.parsed.tlvPayload message.source hw).1 ∧
      t.log = s.log ++ (s.node.handleSetIpRequest blake3 message.parsed.header
        message.parsed.tlvPayload message.source hw).2.map (·, s.state) := by
  rw [handleSetIpRequest_of_requestedConfig blake3 s.node message hw hconfig]
  obtain ⟨node, _, log, triggers⟩ := s
  cases hphase
  rcases hw.applyIpConfig with code | ok
  -- the configuration is refused
  · exact ⟨[.apply (.error code)], _, ⟨_, rfl⟩, rfl, rfl, rfl, rfl⟩
  · rcases hw.readDeviceInfo with code | ok
    · refine ⟨[.apply (.ok ()), .store (.error code) hw.writeDeviceInfo], _, ⟨_, rfl⟩, rfl, rfl,
        rfl, ?_⟩
      simp [proceed, respond, state]
    · rcases hw.writeDeviceInfo with ⟨code, stored⟩ | ok
      · refine ⟨[.apply (.ok ()), .store (.ok ()) (.error (code, stored))], _, ⟨_, rfl⟩, rfl,
          rfl, rfl, ?_⟩
        simp [proceed, respond, state]
      · refine ⟨[.apply (.ok ()), .store (.ok ()) (.ok ()), .finish], _, ⟨_, rfl⟩, rfl, rfl,
          rfl, ?_⟩
        simp [proceed, respond, state]

/-- A packet whose handling nothing interrupts is handled as by `receiveFrame`. -/
theorem execute_handling {s : ListenerThread} (hphase : s.phase = .receiving) (frame : Frame)
    (hw : HardwareResponse) :
    ∃ events t, events <+: [.apply hw.applyIpConfig,
        .store hw.readDeviceInfo hw.writeDeviceInfo, .finish] ∧
      execute (step blake3) s (.receive frame hw :: events) = some t ∧ t.phase = .checking ∧
      t.node = (s.node.receiveFrame blake3 frame hw).1 ∧
      t.log = s.log ++ (s.node.receiveFrame blake3 frame hw).2.map (·, s.state) := by
  have hreceive : s.step blake3 (.receive frame hw) = some (s.handle blake3 frame hw) := by
    simp only [step, hphase]
  -- packets that are handled in one step
  have hdone (hchecking : (s.handle blake3 frame hw).phase = .checking)
      (hnode : (s.handle blake3 frame hw).node = (s.node.receiveFrame blake3 frame hw).1)
      (hlog : (s.handle blake3 frame hw).log =
        s.log ++ (s.node.receiveFrame blake3 frame hw).2.map (·, s.state)) :
      ∃ events t, events <+: [.apply hw.applyIpConfig,
          .store hw.readDeviceInfo hw.writeDeviceInfo, .finish] ∧
        execute (step blake3) s (.receive frame hw :: events) = some t ∧ t.phase = .checking ∧
        t.node = (s.node.receiveFrame blake3 frame hw).1 ∧
        t.log = s.log ++ (s.node.receiveFrame blake3 frame hw).2.map (·, s.state) :=
    ⟨[], s.handle blake3 frame hw, List.nil_prefix,
      execute_cons_eq_some.mpr ⟨_, hreceive, rfl⟩, hchecking, hnode, hlog⟩
  cases hmessage : frame.sdcpMessage with
  | none =>
    -- no SDCP frame
    apply hdone
    · simp only [handle, hmessage]
    · simp only [handle, SlaveNode.receiveFrame, hmessage]
    · simp only [handle, SlaveNode.receiveFrame, hmessage, List.map_nil, List.append_nil]
  | some message =>
    rcases hvalid : s.node.authHandler.validateAuthTag blake3 message.source
      message.parsed.header message.parsed.tlvPayload message.parsed.sequenceNumber
      message.parsed.authTag with ⟨valid, handler⟩
    cases valid with
    | false =>
      -- refused, which costs nothing but the handler's bookkeeping
      apply hdone
      · simp only [handle, hmessage, hvalid]
      · simp only [handle, SlaveNode.receiveFrame, SlaveNode.handlePacket, hmessage, hvalid]
      · simp only [handle, SlaveNode.receiveFrame, SlaveNode.handlePacket, hmessage, hvalid,
          List.map_nil, List.append_nil]
    | true =>
      by_cases hop : message.parsed.header.opCode = .setIpReq
      · cases hconfig : SlaveNode.requestedConfig message.parsed.tlvPayload with
        | none =>
          -- a SetIpReq without a configuration has no effect
          have haction : SlaveNode.dispatchRequest blake3
              { s.node with authHandler := handler } message.parsed message.source hw =
              ({ s.node with authHandler := handler }, []) := by
            rw [SlaveNode.dispatchRequest_eq]
            simp only [SlaveNode.requestAction, hop, hconfig, SlaveNode.perform]
            rfl
          apply hdone
          · simp only [handle, hmessage, hvalid, hop, hconfig]
          · simp only [handle, SlaveNode.receiveFrame, SlaveNode.handlePacket, hmessage, hvalid,
              hop, hconfig, haction]
          · simp only [handle, SlaveNode.receiveFrame, SlaveNode.handlePacket, hmessage, hvalid,
              hop, hconfig, haction, List.map_nil, List.append_nil]
        | some config =>
          -- the one packet with steps of its own
          obtain ⟨held, hheld⟩ : ∃ held : ListenerThread, held = { s with
              node := { s.node with authHandler := handler }
              phase := .applying message config } := ⟨_, rfl⟩
          have hhandle : s.handle blake3 frame hw = held := by
            simp only [handle, hmessage, hvalid, hop, hconfig, hheld]
          have hresult : s.node.receiveFrame blake3 frame hw =
              held.node.handleSetIpRequest blake3 message.parsed.header
                message.parsed.tlvPayload message.source hw := by
            simp only [SlaveNode.receiveFrame, SlaveNode.handlePacket, hmessage, hvalid,
              SlaveNode.dispatchRequest, hop, hheld]
          obtain ⟨events, t, hevents, hrun, hchecking, hnode, hlog⟩ :=
            @execute_applying blake3 held message config (by rw [hheld]) hconfig hw
          refine ⟨events, t, hevents, ?_, hchecking, ?_, ?_⟩
          · rw [hhandle] at hreceive
            exact execute_cons_eq_some.mpr ⟨held, hreceive, hrun⟩
          · rw [hnode, hresult]
          · rw [hlog, hresult, hheld]
            rfl
      -- any other request is one step, with all its effects
      · have hhandle : s.handle blake3 frame hw = s.proceed .checking
            (SlaveNode.dispatchRequest blake3 { s.node with authHandler := handler }
              message.parsed message.source hw) := by
          simp only [handle, hmessage, hvalid]
        have hresult : s.node.receiveFrame blake3 frame hw =
            SlaveNode.dispatchRequest blake3 { s.node with authHandler := handler }
              message.parsed message.source hw := by
          simp only [SlaveNode.receiveFrame, SlaveNode.handlePacket, hmessage, hvalid]
        apply hdone
        · rw [hhandle]
          rfl
        · rw [hhandle, hresult]
          rfl
        · rw [hhandle, hresult]
          rfl

/-! ## Runs with one SetIpReq -/

/-- A listener in `discoverySync` that trusts the master `2:0:0:0:0:9`. -/
def trustingListener : ListenerThread :=
  start
    { interfaceMac := ⟨2, 0, 0, 0, 0, 1⟩
      stateManager := ⟨.discoverySync⟩
      deviceInfo := defaultDeviceInfo
      authHandler := (DiscoveryAuthHandler.new zeroSecret).addNewDevice ⟨2, 0, 0, 0, 0, 9⟩ }

/-- An authentic SetIpReq of the master. -/
def setIpRequestFrame : Frame :=
  let header := SdcpHeader.new .setIpReq 1
  let tlv := (Tlv.ipConfig (.new 10 0 0 50) (.new 255 255 255 0) (.new 10 0 0 1)).bytes
  sdcpFrame ⟨2, 0, 0, 0, 0, 1⟩ ⟨2, 0, 0, 0, 0, 9⟩ header tlv
    ⟨1, tagOf checksumHash zeroSecret (signedBytes header tlv 1)⟩

/-- The listener's steps on the request, with hardware that never fails. -/
def setIpHandling : List ListenerEvent :=
  [.receive setIpRequestFrame ⟨.ok (), .ok (), .ok ()⟩, .apply (.ok ()), .store (.ok ()) (.ok ()),
    .finish]

theorem device_changed_in_discoverySync_uninterrupted :
    ∃ t, execute (step checksumHash) trustingListener
        (.check :: setIpHandling ++ [.setTargetState .safeOp, .check]) = some t ∧
      t.log.length = 3 ∧ (∀ entry ∈ t.log, entry.2 = .discoverySync) ∧
      ∀ state ∈ t.triggers, state = .discoverySync := by
  have hcount : (execute (step checksumHash) trustingListener
      (.check :: setIpHandling ++ [.setTargetState .safeOp, .check])).map
      (fun t => t.log.length) = some 3 := by decide +kernel
  obtain ⟨t, hrun, hlength⟩ := Option.map_eq_some_iff.mp hcount
  exact ⟨t, hrun, hlength, device_changed_in_discoverySync checksumHash (by decide +kernel) hrun⟩

/-- Another thread takes the device to `safeOp` while the listener waits for a packet. The
SetIpReq that arrives then is applied and stored there, and pushes the device back to
`preOp`. -/
theorem device_changed_in_safeOp :
    (execute (step checksumHash) trustingListener
        (.check :: .setTargetState .preOp :: .setTargetState .safeOp :: setIpHandling)).map
        (fun t => (t.log.map (·.2), t.triggers, t.node.deviceInfo.ipAddress, t.state)) =
      some ([.safeOp, .safeOp, .safeOp], [.safeOp], [10, 0, 0, 50], .preOp) := by
  decide +kernel

end ListenerThread

end TsnFieldbus
