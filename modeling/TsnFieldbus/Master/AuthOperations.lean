import TsnFieldbus.Foundations.HighWaterMark
import TsnFieldbus.Master.Discovery

/-!
# Any Order of Authentication Operations

`DiscoveryAuthHandler` is used by four operations: registering a device, creating a tag,
validating a tag, and the check of `process_discover_frame`, which registers unknown devices
and sets their mark by itself. The master runs them one after the other, since its calls take
`&mut self`.

Beside the handler stand the numbers it has given out and accepted.
- `Consistent`: what ties these numbers to the contexts.
- `numbers_of_every_run`: the result for all runs.
-/

namespace TsnFieldbus

open Foundations

/-- An operation on the handler. -/
inductive AuthOperation where
  | addNewDevice (deviceMac : MacAddr)
  | createAuthTag (deviceMac : MacAddr) (header : SdcpHeader) (payload : List UInt8)
  | validateAuthTag (deviceMac : MacAddr) (header : SdcpHeader) (payload : List UInt8)
      (sequenceNumber : UInt64) (authTag : AuthTag)
  | processDiscoverFrame (frameData : Frame) (expectedTransactionId : UInt16)

/-- The MAC address an operation is about. -/
def AuthOperation.subject : AuthOperation → Option MacAddr
  | .addNewDevice deviceMac => some deviceMac
  | .createAuthTag deviceMac _ _ => some deviceMac
  | .validateAuthTag deviceMac _ _ _ _ => some deviceMac
  | .processDiscoverFrame frameData _ => frameData.sdcpMessage.map (·.source)

/-- The numbers of one MAC address in a log, oldest first. -/
def numbersOf (mac : MacAddr) (log : List (MacAddr × UInt64)) : List ℕ :=
  (log.filter (·.1 = mac)).map (·.2.toNat)

theorem numbersOf_concat_self (mac : MacAddr) (log : List (MacAddr × UInt64)) (seq : UInt64) :
    numbersOf mac (log ++ [(mac, seq)]) = numbersOf mac log ++ [seq.toNat] := by
  simp [numbersOf]

theorem numbersOf_concat_ne {mac other : MacAddr} (h : other ≠ mac)
    (log : List (MacAddr × UInt64)) (seq : UInt64) :
    numbersOf other (log ++ [(mac, seq)]) = numbersOf other log := by
  simp [numbersOf, Ne.symm h]

/-- The handler and the numbers it has created and accepted. -/
structure AuthRun where
  handler : DiscoveryAuthHandler
  created : List (MacAddr × UInt64)
  accepted : List (MacAddr × UInt64)

namespace AuthRun

variable (blake3 : KeyedHash)

/-- Source and number of the message whose tag `process_discover_frame` finds valid. -/
def discoverFrameAccepts (handler : DiscoveryAuthHandler) (frameData : Frame)
    (expectedTransactionId : UInt16) : Option (MacAddr × UInt64) :=
  frameData.sdcpMessage.bind fun message =>
    if AnswersDiscovery message expectedTransactionId ∧
        (handler.discoveryAuthValid blake3 message).1 = true then
      some (message.source, message.parsed.sequenceNumber)
    else none

/-- One operation. -/
def step (run : AuthRun) : AuthOperation → AuthRun
  | .addNewDevice deviceMac => { run with handler := run.handler.addNewDevice deviceMac }
  | .createAuthTag deviceMac header payload =>
    match run.handler.createAuthTag blake3 deviceMac header payload with
    | none => run
    | some ((sequenceNumber, _), handler) =>
      { run with
        handler := handler
        created := run.created ++ [(deviceMac, sequenceNumber)] }
  | .validateAuthTag deviceMac header payload sequenceNumber authTag =>
    match run.handler.validateAuthTag blake3 deviceMac header payload sequenceNumber authTag with
    | (false, handler) => { run with handler := handler }
    | (true, handler) =>
      { run with
        handler := handler
        accepted := run.accepted ++ [(deviceMac, sequenceNumber)] }
  | .processDiscoverFrame frameData expectedTransactionId =>
    { run with
      handler := (processDiscoverFrame blake3 frameData expectedTransactionId run.handler).2
      accepted := run.accepted ++
        (discoverFrameAccepts blake3 run.handler frameData expectedTransactionId).toList }

/-- The validation in the operation returns `false`. -/
def Refuses (run : AuthRun) : AuthOperation → Prop
  | .validateAuthTag deviceMac header payload sequenceNumber authTag =>
    (run.handler.validateAuthTag blake3 deviceMac header payload sequenceNumber authTag).1 = false
  | .processDiscoverFrame frameData expectedTransactionId =>
    discoverFrameAccepts blake3 run.handler frameData expectedTransactionId = none
  | _ => False

/-- A run from `DiscoveryAuthHandler::new`. -/
def after (sharedSecret : Secret) (operations : List AuthOperation) : AuthRun :=
  operations.foldl (step blake3) { handler := .new sharedSecret, created := [], accepted := [] }

/-! ## One operation -/

/-- Everything an operation can do: nothing, a registration, the next number of a known
device, or the acceptance of a number above the mark. -/
inductive StepCase (run next : AuthRun) (operation : AuthOperation) : Prop where
  | unchanged (h : next = run)
  | registers (mac : MacAddr) (hsubject : mac ∈ operation.subject)
      (h : next = { run with handler := run.handler.addNewDevice mac })
      (hnot : ¬ run.Refuses blake3 operation)
  | creates (mac : MacAddr) (ctx : DeviceSecurityContext) (hsubject : mac ∈ operation.subject)
      (hcontext : run.handler.context mac = some ctx)
      (h : next =
        { run with
          handler := run.handler.withContext mac
            { ctx with transmitterSequenceNumber :=
                saturatingAdd ctx.transmitterSequenceNumber 1 }
          created := run.created ++ [(mac, ctx.transmitterSequenceNumber)] })
      (hnot : ¬ run.Refuses blake3 operation)
  | accepts (mac : MacAddr) (seq : UInt64) (hsubject : mac ∈ operation.subject)
      (hmark : run.handler.mark mac < seq.toNat)
      (h : next =
        { run with
          handler := run.handler.raiseMark mac seq
          accepted := run.accepted ++ [(mac, seq)] })
      (hnot : ¬ run.Refuses blake3 operation)

/-- A message that passes the discovery check has a number above its source's mark. -/
theorem mark_lt_of_acceptsDiscovery {handler : DiscoveryAuthHandler} {message : SdcpMessage}
    (h : AcceptsDiscovery blake3 handler message) :
    handler.mark message.source < message.parsed.sequenceNumber.toNat := by
  obtain ⟨hfresh | ⟨hnone, hone⟩, -⟩ := h
  · exact (DiscoveryAuthHandler.fresh_iff.mp hfresh).2
  -- an unknown source has the mark zero, and its first number is one
  · rw [DiscoveryAuthHandler.mark, DiscoveryAuthHandler.sendContext, hnone, hone]
    decide

theorem step_processDiscoverFrame (run : AuthRun) (frameData : Frame)
    (expectedTransactionId : UInt16) :
    StepCase blake3 run (run.step blake3 (.processDiscoverFrame frameData expectedTransactionId))
      (.processDiscoverFrame frameData expectedTransactionId) := by
  by_cases hanswers : ∃ message, frameData.sdcpMessage = some message ∧
      AnswersDiscovery message expectedTransactionId
  · obtain ⟨message, hmessage, hanswers⟩ := hanswers
    have hframe := processDiscoverFrame_of_answers blake3 hmessage hanswers run.handler
    rcases discoveryAuthValid_cases blake3 run.handler message with ⟨-, heq⟩ | ⟨haccepts, heq⟩
    · refine .unchanged ?_
      simp [step, hframe, heq, discoverFrameAccepts, hmessage]
    -- accepted under the address the frame itself names
    · have haccepted : discoverFrameAccepts blake3 run.handler frameData expectedTransactionId =
          some (message.source, message.parsed.sequenceNumber) := by
        simp [discoverFrameAccepts, hmessage, hanswers, heq]
      refine .accepts message.source message.parsed.sequenceNumber ?_
        (mark_lt_of_acceptsDiscovery blake3 haccepts) ?_ ?_
      · rw [AuthOperation.subject, hmessage]
        rfl
      · simp only [step, hframe, heq, haccepted, Option.toList_some]
      · rw [Refuses, haccepted]
        exact Option.some_ne_none _
  -- a frame that is no answer is passed over before the tag
  · have hskip : ∀ message, frameData.sdcpMessage = some message →
        ¬ AnswersDiscovery message expectedTransactionId :=
      fun message hmessage h => hanswers ⟨message, hmessage, h⟩
    have hnone :
        discoverFrameAccepts blake3 run.handler frameData expectedTransactionId = none := by
      rw [discoverFrameAccepts, Option.bind_eq_none_iff]
      intro message hmessage
      exact if_neg fun h => hskip message hmessage h.1
    refine .unchanged ?_
    simp [step, processDiscoverFrame_of_not_answers blake3 hskip, hnone]

theorem step_cases (run : AuthRun) (operation : AuthOperation) :
    StepCase blake3 run (run.step blake3 operation) operation := by
  cases operation with
  | addNewDevice mac => exact .registers mac rfl rfl id
  | createAuthTag mac header payload =>
    -- a tag for an unknown device is refused
    cases hcontext : run.handler.context mac with
    | none =>
      refine .unchanged ?_
      simp only [step, DiscoveryAuthHandler.createAuthTag, hcontext]
    | some ctx =>
      refine .creates mac ctx rfl hcontext ?_ id
      simp only [step, DiscoveryAuthHandler.createAuthTag_eq blake3 hcontext]
  | validateAuthTag mac header payload seq tag =>
    -- a valid tag raises the mark, and a valid one only
    rcases DiscoveryAuthHandler.validateAuthTag_cases blake3 run.handler mac header payload seq
      tag with ⟨-, heq⟩ | ⟨hfresh, -, heq⟩
    · refine .unchanged ?_
      simp only [step, heq]
    · refine .accepts mac seq rfl (DiscoveryAuthHandler.fresh_iff.mp hfresh).2 ?_ ?_
      · simp only [step, heq]
      · simp [Refuses, heq]
  | processDiscoverFrame frameData tid => exact step_processDiscoverFrame blake3 run frameData tid

/-- An operation on one MAC address leaves the contexts of the others alone. -/
theorem context_step_of_ne {run : AuthRun} {operation : AuthOperation} {mac : MacAddr}
    (h : mac ∉ operation.subject) :
    (run.step blake3 operation).handler.context mac = run.handler.context mac := by
  have hne : ∀ other ∈ operation.subject, mac ≠ other := fun other hmem heq => h (heq ▸ hmem)
  rcases step_cases blake3 run operation with heq | ⟨other, hsubject, heq, -⟩ |
    ⟨other, ctx, hsubject, -, heq, -⟩ | ⟨other, seq, hsubject, -, heq, -⟩
  · rw [heq]
  · rw [heq]
    exact DiscoveryAuthHandler.context_addNewDevice_ne (hne other hsubject)
  · rw [heq]
    exact DiscoveryAuthHandler.context_withContext_ne (hne other hsubject)
  · rw [heq]
    exact DiscoveryAuthHandler.context_withContext_ne (hne other hsubject)

/-- A validation that returns `false` changes nothing. -/
theorem step_of_refuses {run : AuthRun} {operation : AuthOperation}
    (h : run.Refuses blake3 operation) : run.step blake3 operation = run := by
  rcases step_cases blake3 run operation with heq | ⟨_, _, _, hnot⟩ | ⟨_, _, _, _, _, hnot⟩ |
    ⟨_, _, _, _, _, hnot⟩
  · exact heq
  all_goals exact absurd h hnot

/-! ## Whole runs -/

/-- The numbers given out under an address count from one, and the next one follows; the
numbers accepted from it increase up to its mark. -/
structure Consistent (run : AuthRun) (mac : MacAddr) : Prop where
  created : (numbersOf mac run.created).length < 2 ^ 64 - 1 →
    numbersOf mac run.created = List.range' 1 (numbersOf mac run.created).length ∧
    run.handler.nextNumber mac = (numbersOf mac run.created).length + 1
  accepted : HighWaterMark.Tracks (run.handler.mark mac) (numbersOf mac run.accepted)

/-- Creating a tag takes the next number of the address. -/
theorem Consistent.creates {run : AuthRun} {mac other : MacAddr} {ctx : DeviceSecurityContext}
    (h : run.Consistent mac) (hcontext : run.handler.context other = some ctx) :
    Consistent
      { run with
        handler := run.handler.withContext other
          { ctx with transmitterSequenceNumber := saturatingAdd ctx.transmitterSequenceNumber 1 }
        created := run.created ++ [(other, ctx.transmitterSequenceNumber)] } mac := by
  have hsend := DiscoveryAuthHandler.sendContext_of_context hcontext
  by_cases hmac : mac = other
  swap
  · refine ⟨?_, ?_⟩
    · rw [numbersOf_concat_ne hmac, DiscoveryAuthHandler.nextNumber,
        DiscoveryAuthHandler.sendContext_withContext_ne hmac]
      exact h.created
    · rw [DiscoveryAuthHandler.mark, DiscoveryAuthHandler.sendContext_withContext_ne hmac]
      exact h.accepted
  subst hmac
  refine ⟨?_, ?_⟩
  · rw [numbersOf_concat_self, List.length_append, List.length_singleton]
    intro hlen
    obtain ⟨hcount, hnext⟩ := h.created (by omega)
    rw [DiscoveryAuthHandler.nextNumber, hsend] at hnext
    refine ⟨?_, ?_⟩
    · rw [List.range'_1_concat, ← hcount, hnext, Nat.add_comm 1]
    -- the counter is not at its end yet
    · rw [DiscoveryAuthHandler.nextNumber, DiscoveryAuthHandler.sendContext_withContext,
        toNat_saturatingAdd, hnext]
      exact min_eq_left (by simp; omega)
  · have haccepted := h.accepted
    rw [DiscoveryAuthHandler.mark, hsend] at haccepted
    rw [DiscoveryAuthHandler.mark, DiscoveryAuthHandler.sendContext_withContext]
    exact haccepted

/-- Accepting a number above the mark extends the accepted numbers. -/
theorem Consistent.accepts {run : AuthRun} {mac other : MacAddr} {seq : UInt64}
    (h : run.Consistent mac) (hmark : run.handler.mark other < seq.toNat) :
    Consistent
      { run with
        handler := run.handler.raiseMark other seq
        accepted := run.accepted ++ [(other, seq)] } mac := by
  refine ⟨?_, ?_⟩
  · rw [DiscoveryAuthHandler.nextNumber_raiseMark]
    exact h.created
  · by_cases hmac : mac = other
    · subst hmac
      rw [DiscoveryAuthHandler.mark_raiseMark, numbersOf_concat_self]
      exact h.accepted.take hmark
    · rw [DiscoveryAuthHandler.mark_raiseMark_ne hmac, numbersOf_concat_ne hmac]
      exact h.accepted

theorem consistent_step {run : AuthRun} {mac : MacAddr} (h : run.Consistent mac)
    (operation : AuthOperation) : (run.step blake3 operation).Consistent mac := by
  rcases step_cases blake3 run operation with heq | ⟨other, -, heq, -⟩ |
    ⟨other, ctx, -, hcontext, heq, -⟩ | ⟨other, seq, -, hmark, heq, -⟩
  · rw [heq]
    exact h
  -- registering a known or unknown device changes neither counter nor mark
  · rw [heq]
    refine ⟨?_, ?_⟩
    · rw [DiscoveryAuthHandler.nextNumber_addNewDevice]
      exact h.created
    · rw [DiscoveryAuthHandler.mark_addNewDevice]
      exact h.accepted
  · rw [heq]
    exact h.creates hcontext
  · rw [heq]
    exact h.accepts hmark

theorem consistent_after (sharedSecret : Secret) (operations : List AuthOperation)
    (mac : MacAddr) : (after blake3 sharedSecret operations).Consistent mac := by
  refine List.foldlRecOn (motive := fun run => run.Consistent mac) operations (step blake3) ?_ ?_
  · exact ⟨fun _ => ⟨rfl, rfl⟩, .nil _⟩
  · intro run h operation _
    exact consistent_step blake3 h operation

/-- **Numbers of every run**: for every MAC address the numbers created are `1, 2, 3, …` (up to
the end of the counter) and the numbers accepted increase. At every point of a run, an
operation about another address keeps the address's context, and a validation that returns
`false` changes nothing. -/
theorem numbers_of_every_run (sharedSecret : Secret) (operations : List AuthOperation)
    (mac : MacAddr) :
    ((numbersOf mac (after blake3 sharedSecret operations).created).length < 2 ^ 64 - 1 →
      numbersOf mac (after blake3 sharedSecret operations).created =
        List.range' 1 (numbersOf mac (after blake3 sharedSecret operations).created).length) ∧
    (numbersOf mac (after blake3 sharedSecret operations).accepted).Pairwise (· < ·) ∧
    (∀ operation, mac ∉ AuthOperation.subject operation →
      ((after blake3 sharedSecret operations).step blake3 operation).handler.context mac =
        (after blake3 sharedSecret operations).handler.context mac) ∧
    ∀ operation, (after blake3 sharedSecret operations).Refuses blake3 operation →
      ((after blake3 sharedSecret operations).step blake3 operation).handler =
        (after blake3 sharedSecret operations).handler := by
  have hconsistent := consistent_after blake3 sharedSecret operations mac
  refine ⟨fun hlen => (hconsistent.created hlen).1, hconsistent.accepted.increasing, ?_, ?_⟩
  · intro operation hother
    exact context_step_of_ne blake3 hother
  · intro operation hrefuses
    rw [step_of_refuses blake3 hrefuses]

end AuthRun

end TsnFieldbus
