import SehDispatch.Loop
import SehDispatch.Records

/-!
# RtlUnwind

The unwind driver sets EXCEPTION_UNWINDING (and EXCEPTION_EXIT_UNWIND when no target frame is
given) in its exception record, captures its caller's context, and walks the chain from its
head. At each record it continues at the target with `ZwContinue` when the record is the
target, raises STATUS_INVALID_UNWIND_TARGET when a present target lies below the record, tests
the record against the stack limits (switching to the DPC stack as the dispatcher does, and
raising STATUS_BAD_STACK otherwise), calls its handler through `RtlpExecuteHandlerForUnwind`,
picks up the registration pointer of a collided unwind, steps to the next record and unlinks
the one it leaves. Off the end of the chain it continues when the target was
EXCEPTION_CHAIN_END and hands the exception to `ZwRaiseException` otherwise.

`UnwindState` holds the locals at the top of the loop, the records the handlers see, the
thread's chain head, and the events so far: each handler invocation and each unlinking.
As for the dispatcher, the second half says once what a pass can do.
-/

namespace SehDispatch

/-- What RtlUnwind does that the later passes and the caller can see. -/
inductive UnwindEvent where
  /-- A handler invocation through RtlpExecuteHandlerForUnwind. -/
  | call (i : Invocation)
  /-- `RtlpUnlinkHandler(PriorPointer)`. -/
  | unlink (prior : UInt32)
deriving DecidableEq, Repr

/-- RtlUnwind at the top of its loop. -/
structure UnwindState where
  registrationPointer : UInt32
  lowLimit : UInt32
  highLimit : UInt32
  exceptionRecord : ExceptionRecord
  context : Context
  exceptionList : UInt32
  log : List UnwindEvent
deriving DecidableEq, Repr

/-- How RtlUnwind ends: `ZwContinue(ContextRecord, FALSE)`,
`ZwRaiseException(ExceptionRecord, ContextRecord, FALSE)`, or a raised noncontinuable exception
`ExceptionRecord2`. None of them returns; the records ZwContinue and ZwRaiseException receive
are those of the final state. -/
inductive UnwindExit where
  | zwContinue
  | zwRaiseException
  | raise (exceptionRecord : RaisedRecord)
deriving DecidableEq, Repr

/-- Modelled from the spec: RtlpUnlinkHandler, an assembler routine of the x86 runtime,
removes the record at `unlinkPointer` from the chain: the thread's chain head becomes the
record's Next. -/
def rtlpUnlinkHandler (m : Machine) (unlinkPointer : UInt32) : UInt32 := m.next unlinkPointer

namespace UnwindState

variable (m : Machine) (s : UnwindState)

/-- `HighLimit = DpcStack; LowLimit = DpcStack - KERNEL_STACK_SIZE`. -/
def toDpcStack : UnwindState :=
  { s with lowLimit := m.dpcStack - kernelStackSize, highLimit := m.dpcStack }

/-- The call of the handler of the record at RegistrationPointer. -/
def handlerCall : HandlerCall :=
  ⟨s.exceptionRecord, s.registrationPointer, s.context, m.handler s.registrationPointer,
    s.exceptionList⟩

/-- The state once the call `c` has returned `r`. -/
def afterCall (c : HandlerCall) (r : HandlerReturn) : UnwindState :=
  { s with
    exceptionRecord := { s.exceptionRecord with exceptionFlags := r.exceptionFlags }
    context := r.context
    exceptionList := r.exceptionList
    log := s.log ++ [.call ⟨c, r, s.lowLimit, s.highLimit⟩] }

/-- `PriorPointer = RegistrationPointer; RegistrationPointer = RegistrationPointer->Next;
RtlpUnlinkHandler(PriorPointer)`, RegistrationPointer being `prior`. -/
def unlinkStep (prior : UInt32) : UnwindState :=
  { s with
    registrationPointer := m.next prior
    exceptionList := rtlpUnlinkHandler m prior
    log := s.log ++ [.unlink prior] }

end UnwindState

/-- The `switch` on the disposition of `r`, in the state `s` after the call: on
ExceptionCollidedUnwind the registration pointer of the colliding unwind replaces
RegistrationPointer; then the step to the next record and the unlinking. -/
def unwindDisposition (m : Machine) (r : HandlerReturn) (s : UnwindState) :
    Pass UnwindState UnwindExit :=
  if r.disposition = exceptionContinueSearch then .loop (s.unlinkStep m s.registrationPointer)
  else if r.disposition = exceptionCollidedUnwind then .loop (s.unlinkStep m r.dispatcherContext)
  else .exit (.raise (raisedRecord statusInvalidDisposition s.exceptionRecord)) s

/-- The handler of the record at RegistrationPointer is called, and its disposition acted on. -/
def unwindCall (m : Machine) (hs : Handlers UnwindEvent) (s : UnwindState) :
    Pass UnwindState UnwindExit :=
  let c := s.handlerCall m
  let r := hs s.log c
  unwindDisposition m r (s.afterCall c r)

/-- One pass of the loop of RtlUnwind towards `targetFrame` (NULL, `0`, when absent); at
EXCEPTION_CHAIN_END, the code after the loop. -/
def unwindPass (m : Machine) (hs : Handlers UnwindEvent) (targetFrame : UInt32)
    (s : UnwindState) : Pass UnwindState UnwindExit :=
  if s.registrationPointer = exceptionChainEnd then
    if targetFrame = exceptionChainEnd then .exit .zwContinue s else .exit .zwRaiseException s
  else if s.registrationPointer = targetFrame then .exit .zwContinue s
  else if targetFrame ≠ 0 ∧ targetFrame < s.registrationPointer then
    .exit (.raise (raisedRecord statusInvalidUnwindTarget s.exceptionRecord)) s
  else
    match checkFrame m s.lowLimit s.highLimit s.registrationPointer with
    | .dpcStack => .loop (s.toDpcStack m)
    | .invalid => .exit (.raise (raisedRecord statusBadStack s.exceptionRecord)) s
    | .inBounds => unwindCall m hs s

/-- The exception record the unwind works on: the one supplied, or a local STATUS_UNWIND record
raised at the caller's return address; with EXCEPTION_UNWINDING set, and EXCEPTION_EXIT_UNWIND
as well when no target frame is given. -/
def unwindRecord (m : Machine) (targetFrame : UInt32) (er : Option ExceptionRecord) :
    ExceptionRecord :=
  let er := er.getD ⟨statusUnwind, 0, 0, m.returnAddress, 0⟩
  if targetFrame ≠ 0 then er.orFlags exceptionUnwinding
  else er.orFlags (exceptionUnwinding ||| exceptionExitUnwind)

/-- The captured context: integer, control and segment registers, Esp past the four ULONG
arguments, and the return value in Eax. -/
def unwindContext (m : Machine) (returnValue : UInt32) : Context :=
  { m.capturedContext with
    contextFlags := contextInteger ||| contextControl ||| contextSegments
    esp := m.capturedContext.esp + 16
    eax := returnValue }

/-- The state on entry to the loop. -/
def unwindStart (m : Machine) (targetFrame : UInt32) (er : Option ExceptionRecord)
    (returnValue : UInt32) : UnwindState :=
  ⟨m.exceptionList, m.lowLimit, m.highLimit, unwindRecord m targetFrame er,
    unwindContext m returnValue, m.exceptionList, []⟩

/-- RtlUnwind after `n` passes of its loop. TargetIp is not read by the routine. -/
def rtlUnwind (m : Machine) (hs : Handlers UnwindEvent) (targetFrame _targetIp : UInt32)
    (er : Option ExceptionRecord) (returnValue : UInt32) (n : Nat) : Run UnwindState UnwindExit :=
  runLoop (unwindPass m hs targetFrame) n (unwindStart m targetFrame er returnValue)

/-! ### The state updates -/

namespace UnwindState

variable (m : Machine) (s : UnwindState)

@[simp] theorem toDpcStack_registrationPointer :
    (s.toDpcStack m).registrationPointer = s.registrationPointer := rfl
@[simp] theorem toDpcStack_log : (s.toDpcStack m).log = s.log := rfl
@[simp] theorem toDpcStack_exceptionList : (s.toDpcStack m).exceptionList = s.exceptionList := rfl
@[simp] theorem toDpcStack_exceptionRecord :
    (s.toDpcStack m).exceptionRecord = s.exceptionRecord := rfl
@[simp] theorem toDpcStack_lowLimit : (s.toDpcStack m).lowLimit = m.dpcStack - kernelStackSize :=
  rfl
@[simp] theorem toDpcStack_highLimit : (s.toDpcStack m).highLimit = m.dpcStack := rfl

@[simp] theorem handlerCall_establisherFrame :
    (s.handlerCall m).establisherFrame = s.registrationPointer := rfl
@[simp] theorem handlerCall_exceptionList : (s.handlerCall m).exceptionList = s.exceptionList :=
  rfl
@[simp] theorem handlerCall_exceptionRecord :
    (s.handlerCall m).exceptionRecord = s.exceptionRecord := rfl

variable (c : HandlerCall) (r : HandlerReturn)

@[simp] theorem afterCall_registrationPointer :
    (s.afterCall c r).registrationPointer = s.registrationPointer := rfl
@[simp] theorem afterCall_log :
    (s.afterCall c r).log = s.log ++ [.call ⟨c, r, s.lowLimit, s.highLimit⟩] := rfl
@[simp] theorem afterCall_exceptionList : (s.afterCall c r).exceptionList = r.exceptionList := rfl
@[simp] theorem afterCall_lowLimit : (s.afterCall c r).lowLimit = s.lowLimit := rfl
@[simp] theorem afterCall_highLimit : (s.afterCall c r).highLimit = s.highLimit := rfl
@[simp] theorem afterCall_exceptionFlags :
    (s.afterCall c r).exceptionRecord.exceptionFlags = r.exceptionFlags := rfl

variable (p : UInt32)

@[simp] theorem unlinkStep_registrationPointer :
    (s.unlinkStep m p).registrationPointer = m.next p := rfl
@[simp] theorem unlinkStep_exceptionList : (s.unlinkStep m p).exceptionList = m.next p := rfl
@[simp] theorem unlinkStep_log : (s.unlinkStep m p).log = s.log ++ [.unlink p] := rfl
@[simp] theorem unlinkStep_lowLimit : (s.unlinkStep m p).lowLimit = s.lowLimit := rfl
@[simp] theorem unlinkStep_highLimit : (s.unlinkStep m p).highLimit = s.highLimit := rfl
@[simp] theorem unlinkStep_exceptionRecord :
    (s.unlinkStep m p).exceptionRecord = s.exceptionRecord := rfl

end UnwindState

@[simp] theorem unwindStart_registrationPointer (m : Machine) (targetFrame : UInt32)
    (er : Option ExceptionRecord) (returnValue : UInt32) :
    (unwindStart m targetFrame er returnValue).registrationPointer = m.exceptionList := rfl
@[simp] theorem unwindStart_exceptionList (m : Machine) (targetFrame : UInt32)
    (er : Option ExceptionRecord) (returnValue : UInt32) :
    (unwindStart m targetFrame er returnValue).exceptionList = m.exceptionList := rfl
@[simp] theorem unwindStart_log (m : Machine) (targetFrame : UInt32) (er : Option ExceptionRecord)
    (returnValue : UInt32) : (unwindStart m targetFrame er returnValue).log = [] := rfl

theorem unwindRecord_unwinding (m : Machine) {targetFrame : UInt32} (er : Option ExceptionRecord)
    (ht : targetFrame ≠ 0) :
    (unwindRecord m targetFrame er).exceptionFlags &&& exceptionUnwinding = exceptionUnwinding := by
  simp only [unwindRecord, if_pos ht, ExceptionRecord.orFlags_exceptionFlags, or_and_self_mask]

theorem unwindRecord_exitUnwind (m : Machine) (er : Option ExceptionRecord) :
    (unwindRecord m 0 er).exceptionFlags &&& (exceptionUnwinding ||| exceptionExitUnwind) =
      exceptionUnwinding ||| exceptionExitUnwind := by
  simp only [unwindRecord, ne_eq, not_true_eq_false, if_false,
    ExceptionRecord.orFlags_exceptionFlags, or_and_self_mask]

/-! ### What a pass can do -/

section Pass

variable {m : Machine} {hs : Handlers UnwindEvent} {targetFrame : UInt32} {r : HandlerReturn}
  {s s' : UnwindState} {x : UnwindExit}

theorem unwindDisposition_eq_loop (h : unwindDisposition m r s = .loop s') :
    (r.disposition = exceptionContinueSearch ∧ s' = s.unlinkStep m s.registrationPointer) ∨
      (r.disposition = exceptionCollidedUnwind ∧ s' = s.unlinkStep m r.dispatcherContext) := by
  unfold unwindDisposition at h
  split_ifs at h with h1 h2 <;> cases h
  · exact .inl ⟨h1, rfl⟩
  · exact .inr ⟨h2, rfl⟩

theorem unwindDisposition_eq_exit (h : unwindDisposition m r s = .exit x s') :
    r.disposition ≠ exceptionContinueSearch ∧ r.disposition ≠ exceptionCollidedUnwind ∧
      x = .raise (raisedRecord statusInvalidDisposition s.exceptionRecord) ∧ s' = s := by
  unfold unwindDisposition at h
  split_ifs at h with h1 h2
  cases h
  exact ⟨h1, h2, rfl, rfl⟩

/-- A handler call that goes back to the top of the loop steps past, and unlinks, the record
it was made at or the one a collided unwind supplied. -/
theorem unwindCall_eq_loop (h : unwindCall m hs s = .loop s') :
    ∃ p, s' = (s.afterCall (s.handlerCall m) (hs s.log (s.handlerCall m))).unlinkStep m p ∧
      ((hs s.log (s.handlerCall m)).disposition = exceptionContinueSearch ∧
          p = s.registrationPointer ∨
        (hs s.log (s.handlerCall m)).disposition = exceptionCollidedUnwind ∧
          p = (hs s.log (s.handlerCall m)).dispatcherContext) := by
  rcases unwindDisposition_eq_loop h with ⟨hd, rfl⟩ | ⟨hd, rfl⟩
  · exact ⟨_, rfl, .inl ⟨hd, rfl⟩⟩
  · exact ⟨_, rfl, .inr ⟨hd, rfl⟩⟩

theorem unwindCall_eq_exit (h : unwindCall m hs s = .exit x s') :
    x = .raise (raisedRecord statusInvalidDisposition s'.exceptionRecord) ∧
      s' = s.afterCall (s.handlerCall m) (hs s.log (s.handlerCall m)) := by
  obtain ⟨-, -, hx, rfl⟩ := unwindDisposition_eq_exit h
  exact ⟨hx, rfl⟩

/-- A pass back to the top of the loop examines a record that is not the target, with the
target not below it; it switches to the DPC stack, or calls the record's handler. -/
theorem unwindPass_eq_loop (h : unwindPass m hs targetFrame s = .loop s') :
    s.registrationPointer ≠ exceptionChainEnd ∧ s.registrationPointer ≠ targetFrame ∧
      ¬ (targetFrame ≠ 0 ∧ targetFrame < s.registrationPointer) ∧
      ((checkFrame m s.lowLimit s.highLimit s.registrationPointer = .dpcStack ∧
          s' = s.toDpcStack m) ∨
        (checkFrame m s.lowLimit s.highLimit s.registrationPointer = .inBounds ∧
          unwindCall m hs s = .loop s')) := by
  unfold unwindPass at h
  split_ifs at h with hend _ ht hb
  refine ⟨hend, ht, hb, ?_⟩
  rcases hc : checkFrame m s.lowLimit s.highLimit s.registrationPointer <;> rw [hc] at h
  · exact .inr ⟨rfl, h⟩
  · cases h
    exact .inl ⟨rfl, rfl⟩
  · cases h

/-- No pass of RtlUnwind stalls: the routine calls nothing that may not return. -/
theorem unwindPass_ne_stall : unwindPass m hs targetFrame s ≠ .stall := fun h => by
  unfold unwindPass at h
  split_ifs at h
  rcases hc : checkFrame m s.lowLimit s.highLimit s.registrationPointer <;> rw [hc] at h
  · unfold unwindCall unwindDisposition at h
    dsimp only at h
    split_ifs at h
  · cases h
  · cases h

/-- A pass leaves the routine after the loop, at the target, on a target below the record, on
a bad stack, or through the handler call. -/
theorem unwindPass_eq_exit (h : unwindPass m hs targetFrame s = .exit x s') :
    (s.registrationPointer = exceptionChainEnd ∧ s' = s ∧
        (targetFrame = exceptionChainEnd ∧ x = .zwContinue ∨
          targetFrame ≠ exceptionChainEnd ∧ x = .zwRaiseException)) ∨
      (s.registrationPointer ≠ exceptionChainEnd ∧ s.registrationPointer = targetFrame ∧
        x = .zwContinue ∧ s' = s) ∨
      (s.registrationPointer ≠ exceptionChainEnd ∧ s.registrationPointer ≠ targetFrame ∧
        targetFrame ≠ 0 ∧ targetFrame < s.registrationPointer ∧
        x = .raise (raisedRecord statusInvalidUnwindTarget s.exceptionRecord) ∧ s' = s) ∨
      (s.registrationPointer ≠ exceptionChainEnd ∧ s.registrationPointer ≠ targetFrame ∧
        ¬ (targetFrame ≠ 0 ∧ targetFrame < s.registrationPointer) ∧
        checkFrame m s.lowLimit s.highLimit s.registrationPointer = .invalid ∧
        x = .raise (raisedRecord statusBadStack s.exceptionRecord) ∧ s' = s) ∨
      (s.registrationPointer ≠ exceptionChainEnd ∧ s.registrationPointer ≠ targetFrame ∧
        ¬ (targetFrame ≠ 0 ∧ targetFrame < s.registrationPointer) ∧
        checkFrame m s.lowLimit s.highLimit s.registrationPointer = .inBounds ∧
        unwindCall m hs s = .exit x s') := by
  unfold unwindPass at h
  split_ifs at h with hend hF ht hb <;> try cases h
  · exact .inl ⟨hend, rfl, .inl ⟨hF, rfl⟩⟩
  · exact .inl ⟨hend, rfl, .inr ⟨hF, rfl⟩⟩
  · exact .inr (.inl ⟨hend, ht, rfl, rfl⟩)
  · exact .inr (.inr (.inl ⟨hend, ht, hb.1, hb.2, rfl, rfl⟩))
  -- the stack test
  rcases hc : checkFrame m s.lowLimit s.highLimit s.registrationPointer <;> rw [hc] at h
  · exact .inr (.inr (.inr (.inr ⟨hend, ht, hb, rfl, h⟩)))
  · cases h
  · cases h
    exact .inr (.inr (.inr (.inl ⟨hend, ht, hb, rfl, rfl, rfl⟩)))

theorem unwindPass_of_chainEnd (hend : s.registrationPointer = exceptionChainEnd) :
    unwindPass m hs targetFrame s =
      .exit (if targetFrame = exceptionChainEnd then .zwContinue else .zwRaiseException) s := by
  unfold unwindPass
  rw [if_pos hend]
  split_ifs <;> rfl

theorem unwindPass_of_target (hend : s.registrationPointer ≠ exceptionChainEnd)
    (ht : s.registrationPointer = targetFrame) :
    unwindPass m hs targetFrame s = .exit .zwContinue s := by
  simp only [unwindPass, if_neg hend, if_pos ht]

theorem unwindPass_of_below (hend : s.registrationPointer ≠ exceptionChainEnd)
    (ht : s.registrationPointer ≠ targetFrame)
    (hb : targetFrame ≠ 0 ∧ targetFrame < s.registrationPointer) :
    unwindPass m hs targetFrame s =
      .exit (.raise (raisedRecord statusInvalidUnwindTarget s.exceptionRecord)) s := by
  simp only [unwindPass, if_neg hend, if_neg ht, if_pos hb]

theorem unwindPass_of_inBounds (hend : s.registrationPointer ≠ exceptionChainEnd)
    (ht : s.registrationPointer ≠ targetFrame)
    (hb : ¬ (targetFrame ≠ 0 ∧ targetFrame < s.registrationPointer))
    (hc : checkFrame m s.lowLimit s.highLimit s.registrationPointer = .inBounds) :
    unwindPass m hs targetFrame s = unwindCall m hs s := by
  simp only [unwindPass, if_neg hend, if_neg ht, if_neg hb, hc]

theorem unwindDisposition_of_continueSearch (hd : r.disposition = exceptionContinueSearch) :
    unwindDisposition m r s = .loop (s.unlinkStep m s.registrationPointer) := by
  simp [unwindDisposition, hd]

end Pass

end SehDispatch
