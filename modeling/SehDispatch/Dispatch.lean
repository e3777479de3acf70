import SehDispatch.ValidHandler

/-!
# RtlDispatchException

The dispatcher walks the chain from its head. For each record it tests the record against
the stack limits (switching to the DPC stack when the record lies there), checks the record's
handler with `RtlIsValidHandler`, calls the handler through `RtlpExecuteHandlerForException`,
leaves a nested region whose last frame it has reached, and acts on the disposition.

`DispatchState` holds the locals at the top of the loop, the exception and context records
the handlers see and change, the thread's chain head, and the invocations made so far.
`dispatchPass` is one pass of the loop, split as the source is: the tests on the record, then
`dispatchCall` for the handler call, then `dispatchDisposition` for the `switch`.

The second half says once what a pass can do (`dispatchPass_eq_loop`, `dispatchPass_eq_exit`
and the two lemmas on `dispatchDisposition`); the invariants of the later modules are proved
from these and do not unfold the pass.
-/

namespace SehDispatch

/-- RtlDispatchException at the top of its loop. -/
structure DispatchState where
  registrationPointer : UInt32
  nestedRegistration : UInt32
  lowLimit : UInt32
  highLimit : UInt32
  exceptionRecord : ExceptionRecord
  context : Context
  exceptionList : UInt32
  log : List Invocation
deriving DecidableEq, Repr

/-- How RtlDispatchException ends: it returns Completion, or it raises the noncontinuable
exception `ExceptionRecord1`, which does not come back. -/
inductive DispatchExit where
  | completion (b : Bool)
  | raise (exceptionRecord : RaisedRecord)
deriving DecidableEq, Repr

namespace DispatchState

variable (m : Machine) (s : DispatchState)

/-- `HighLimit = DpcStack; LowLimit = DpcStack - KERNEL_STACK_SIZE`. -/
def toDpcStack : DispatchState :=
  { s with lowLimit := m.dpcStack - kernelStackSize, highLimit := m.dpcStack }

/-- `ExceptionRecord->ExceptionFlags |= EXCEPTION_STACK_INVALID`. -/
def stackInvalid : DispatchState :=
  { s with exceptionRecord := s.exceptionRecord.orFlags exceptionStackInvalid }

/-- The call of the handler of the record at RegistrationPointer. -/
def handlerCall : HandlerCall :=
  ⟨s.exceptionRecord, s.registrationPointer, s.context, m.handler s.registrationPointer,
    s.exceptionList⟩

/-- The state once the call `c` has returned `r`: the handler's writes, and the invocation
logged with the limits the record passed. -/
def afterCall (c : HandlerCall) (r : HandlerReturn) : DispatchState :=
  { s with
    exceptionRecord := { s.exceptionRecord with exceptionFlags := r.exceptionFlags }
    context := r.context
    exceptionList := r.exceptionList
    log := s.log ++ [⟨c, r, s.lowLimit, s.highLimit⟩] }

/-- `if (NestedRegistration == RegistrationPointer)`: the end of a nested region clears
EXCEPTION_NESTED_CALL and NestedRegistration. -/
def leaveNested : DispatchState :=
  if s.nestedRegistration = s.registrationPointer then
    { s with
      exceptionRecord := s.exceptionRecord.clearFlags exceptionNestedCall
      nestedRegistration := 0 }
  else s

/-- ExceptionNestedException: set EXCEPTION_NESTED_CALL, and raise NestedRegistration to the
frame `p` reported through the DispatcherContext when `p` is above it. -/
def nest (p : UInt32) : DispatchState :=
  { s with
    exceptionRecord := s.exceptionRecord.orFlags exceptionNestedCall
    nestedRegistration := if p > s.nestedRegistration then p else s.nestedRegistration }

/-- `RegistrationPointer = RegistrationPointer->Next`. -/
def advance : DispatchState := { s with registrationPointer := m.next s.registrationPointer }

end DispatchState

/-- The `switch` on the disposition of `r`, in the state `s` after the call, and the step to the
next record. A raised noncontinuable exception does not come back. -/
def dispatchDisposition (m : Machine) (r : HandlerReturn) (s : DispatchState) :
    Pass DispatchState DispatchExit :=
  if r.disposition = exceptionContinueExecution then
    if s.exceptionRecord.exceptionFlags &&& exceptionNoncontinuable ≠ 0 then
      .exit (.raise (raisedRecord statusNoncontinuableException s.exceptionRecord)) s
    else .exit (.completion true) s
  else if r.disposition = exceptionContinueSearch then
    if s.exceptionRecord.exceptionFlags &&& exceptionStackInvalid ≠ 0 then
      .exit (.completion false) s
    else .loop (s.advance m)
  else if r.disposition = exceptionNestedException then
    .loop ((s.nest r.dispatcherContext).advance m)
  else .exit (.raise (raisedRecord statusInvalidDisposition s.exceptionRecord)) s

/-- The handler of the record at RegistrationPointer is called, and its disposition acted on. -/
def dispatchCall (m : Machine) (hs : Handlers Invocation) (s : DispatchState) :
    Pass DispatchState DispatchExit :=
  let c := s.handlerCall m
  let r := hs s.log c
  dispatchDisposition m r (s.afterCall c r).leaveNested

/-- One pass of the loop of RtlDispatchException; at EXCEPTION_CHAIN_END the routine returns
Completion, which is still FALSE. -/
def dispatchPass (m : Machine) (hs : Handlers Invocation) (s : DispatchState) :
    Pass DispatchState DispatchExit :=
  if s.registrationPointer = exceptionChainEnd then .exit (.completion false) s
  else
    match checkFrame m s.lowLimit s.highLimit s.registrationPointer with
    | .dpcStack => .loop (s.toDpcStack m)
    | .invalid => .exit (.completion false) s.stackInvalid
    | .inBounds =>
      match rtlIsValidHandler m (m.handler s.registrationPointer) with
      | none => .stall
      | some false => .exit (.completion false) s.stackInvalid
      | some true => dispatchCall m hs s

/-- The state on entry: the stack limits, the chain head, no nested region, no invocation. -/
def dispatchStart (m : Machine) (er : ExceptionRecord) (ctx : Context) : DispatchState :=
  ⟨m.exceptionList, 0, m.lowLimit, m.highLimit, er, ctx, m.exceptionList, []⟩

/-- RtlDispatchException after `n` passes of its loop. -/
def rtlDispatchException (m : Machine) (hs : Handlers Invocation) (er : ExceptionRecord)
    (ctx : Context) (n : Nat) : Run DispatchState DispatchExit :=
  runLoop (dispatchPass m hs) n (dispatchStart m er ctx)

/-! ### The state updates -/

namespace DispatchState

variable (m : Machine) (s : DispatchState)

@[simp] theorem toDpcStack_registrationPointer :
    (s.toDpcStack m).registrationPointer = s.registrationPointer := rfl
@[simp] theorem toDpcStack_log : (s.toDpcStack m).log = s.log := rfl
@[simp] theorem toDpcStack_lowLimit : (s.toDpcStack m).lowLimit = m.dpcStack - kernelStackSize :=
  rfl
@[simp] theorem toDpcStack_highLimit : (s.toDpcStack m).highLimit = m.dpcStack := rfl
@[simp] theorem toDpcStack_exceptionRecord :
    (s.toDpcStack m).exceptionRecord = s.exceptionRecord := rfl
@[simp] theorem toDpcStack_nestedRegistration :
    (s.toDpcStack m).nestedRegistration = s.nestedRegistration := rfl

@[simp] theorem stackInvalid_log : s.stackInvalid.log = s.log := rfl
@[simp] theorem stackInvalid_registrationPointer :
    s.stackInvalid.registrationPointer = s.registrationPointer := rfl
@[simp] theorem stackInvalid_nestedRegistration :
    s.stackInvalid.nestedRegistration = s.nestedRegistration := rfl
@[simp] theorem stackInvalid_exceptionFlags :
    s.stackInvalid.exceptionRecord.exceptionFlags =
      s.exceptionRecord.exceptionFlags ||| exceptionStackInvalid := rfl

@[simp] theorem handlerCall_establisherFrame :
    (s.handlerCall m).establisherFrame = s.registrationPointer := rfl
@[simp] theorem handlerCall_handler : (s.handlerCall m).handler = m.handler s.registrationPointer :=
  rfl
@[simp] theorem handlerCall_exceptionRecord :
    (s.handlerCall m).exceptionRecord = s.exceptionRecord := rfl

variable (c : HandlerCall) (r : HandlerReturn)

@[simp] theorem afterCall_registrationPointer :
    (s.afterCall c r).registrationPointer = s.registrationPointer := rfl
@[simp] theorem afterCall_log :
    (s.afterCall c r).log = s.log ++ [⟨c, r, s.lowLimit, s.highLimit⟩] := rfl
@[simp] theorem afterCall_lowLimit : (s.afterCall c r).lowLimit = s.lowLimit := rfl
@[simp] theorem afterCall_highLimit : (s.afterCall c r).highLimit = s.highLimit := rfl
@[simp] theorem afterCall_exceptionFlags :
    (s.afterCall c r).exceptionRecord.exceptionFlags = r.exceptionFlags := rfl
@[simp] theorem afterCall_nestedRegistration :
    (s.afterCall c r).nestedRegistration = s.nestedRegistration := rfl

@[simp] theorem leaveNested_registrationPointer :
    s.leaveNested.registrationPointer = s.registrationPointer := by
  unfold leaveNested; split <;> rfl
@[simp] theorem leaveNested_log : s.leaveNested.log = s.log := by
  unfold leaveNested; split <;> rfl
@[simp] theorem leaveNested_lowLimit : s.leaveNested.lowLimit = s.lowLimit := by
  unfold leaveNested; split <;> rfl
@[simp] theorem leaveNested_highLimit : s.leaveNested.highLimit = s.highLimit := by
  unfold leaveNested; split <;> rfl

theorem leaveNested_nestedRegistration :
    s.leaveNested.nestedRegistration =
      if s.nestedRegistration = s.registrationPointer then 0 else s.nestedRegistration := by
  unfold leaveNested; split <;> rfl

theorem leaveNested_exceptionFlags_nested :
    s.leaveNested.exceptionRecord.exceptionFlags &&& exceptionNestedCall =
      if s.nestedRegistration = s.registrationPointer then 0
      else s.exceptionRecord.exceptionFlags &&& exceptionNestedCall := by
  unfold leaveNested
  split
  · exact and_not_and_self_mask _ _
  · rfl

theorem leaveNested_exceptionFlags_and {mask : UInt32} (h : exceptionNestedCall &&& mask = 0) :
    s.leaveNested.exceptionRecord.exceptionFlags &&& mask =
      s.exceptionRecord.exceptionFlags &&& mask := by
  unfold leaveNested
  split
  · exact and_not_and_of_disjoint _ h
  · rfl

@[simp] theorem leaveNested_context : s.leaveNested.context = s.context := by
  unfold leaveNested; split <;> rfl

theorem leaveNested_exceptionRecord_clearFlags :
    s.leaveNested.exceptionRecord.clearFlags exceptionNestedCall =
      s.exceptionRecord.clearFlags exceptionNestedCall := by
  unfold leaveNested
  split
  · exact ExceptionRecord.clearFlags_clearFlags _ (by decide)
  · rfl

variable (p : UInt32)

@[simp] theorem nest_registrationPointer : (s.nest p).registrationPointer = s.registrationPointer :=
  rfl
@[simp] theorem nest_log : (s.nest p).log = s.log := rfl
@[simp] theorem nest_lowLimit : (s.nest p).lowLimit = s.lowLimit := rfl
@[simp] theorem nest_highLimit : (s.nest p).highLimit = s.highLimit := rfl
@[simp] theorem nest_exceptionFlags :
    (s.nest p).exceptionRecord.exceptionFlags =
      s.exceptionRecord.exceptionFlags ||| exceptionNestedCall := rfl
@[simp] theorem nest_nestedRegistration :
    (s.nest p).nestedRegistration =
      if p > s.nestedRegistration then p else s.nestedRegistration := rfl

@[simp] theorem advance_registrationPointer :
    (s.advance m).registrationPointer = m.next s.registrationPointer := rfl
@[simp] theorem advance_log : (s.advance m).log = s.log := rfl
@[simp] theorem advance_lowLimit : (s.advance m).lowLimit = s.lowLimit := rfl
@[simp] theorem advance_highLimit : (s.advance m).highLimit = s.highLimit := rfl
@[simp] theorem advance_exceptionRecord : (s.advance m).exceptionRecord = s.exceptionRecord := rfl
@[simp] theorem advance_nestedRegistration :
    (s.advance m).nestedRegistration = s.nestedRegistration := rfl

end DispatchState

@[simp] theorem dispatchStart_registrationPointer (m : Machine) (er : ExceptionRecord)
    (ctx : Context) : (dispatchStart m er ctx).registrationPointer = m.exceptionList := rfl
@[simp] theorem dispatchStart_log (m : Machine) (er : ExceptionRecord) (ctx : Context) :
    (dispatchStart m er ctx).log = [] := rfl
@[simp] theorem dispatchStart_lowLimit (m : Machine) (er : ExceptionRecord) (ctx : Context) :
    (dispatchStart m er ctx).lowLimit = m.lowLimit := rfl
@[simp] theorem dispatchStart_highLimit (m : Machine) (er : ExceptionRecord) (ctx : Context) :
    (dispatchStart m er ctx).highLimit = m.highLimit := rfl

/-! ### What a pass can do -/

section Pass

variable {m : Machine} {hs : Handlers Invocation} {r : HandlerReturn} {s s' : DispatchState}
  {x : DispatchExit}

/-- The switch goes back to the top of the loop on ExceptionContinueSearch with the stack
still valid, and on ExceptionNestedException; both step to the next record. -/
theorem dispatchDisposition_eq_loop (h : dispatchDisposition m r s = .loop s') :
    (r.disposition = exceptionContinueSearch ∧
        s.exceptionRecord.exceptionFlags &&& exceptionStackInvalid = 0 ∧ s' = s.advance m) ∨
      (r.disposition = exceptionNestedException ∧ s' = (s.nest r.dispatcherContext).advance m) := by
  unfold dispatchDisposition at h
  split_ifs at h with h1 h2 h3 h4 h5 <;> cases h
  · exact .inl ⟨h3, not_not.mp h4, rfl⟩
  · exact .inr ⟨h5, rfl⟩

/-- The switch leaves the routine in the state it was given: TRUE on ExceptionContinueExecution
of a continuable exception, a raise on one that is noncontinuable, FALSE on
ExceptionContinueSearch when a handler set EXCEPTION_STACK_INVALID, and a raise on any
disposition outside the four. -/
theorem dispatchDisposition_eq_exit (h : dispatchDisposition m r s = .exit x s') :
    s' = s ∧
      ((r.disposition = exceptionContinueExecution ∧
          (s.exceptionRecord.exceptionFlags &&& exceptionNoncontinuable = 0 ∧ x = .completion true ∨
            s.exceptionRecord.exceptionFlags &&& exceptionNoncontinuable ≠ 0 ∧
              x = .raise (raisedRecord statusNoncontinuableException s.exceptionRecord))) ∨
        (r.disposition = exceptionContinueSearch ∧
          s.exceptionRecord.exceptionFlags &&& exceptionStackInvalid ≠ 0 ∧ x = .completion false) ∨
        (r.disposition ≠ exceptionContinueExecution ∧ r.disposition ≠ exceptionContinueSearch ∧
          r.disposition ≠ exceptionNestedException ∧
          x = .raise (raisedRecord statusInvalidDisposition s.exceptionRecord))) := by
  unfold dispatchDisposition at h
  split_ifs at h with h1 h2 h3 h4 h5 <;> cases h
  · exact ⟨rfl, .inl ⟨h1, .inr ⟨h2, rfl⟩⟩⟩
  · exact ⟨rfl, .inl ⟨h1, .inl ⟨not_not.mp h2, rfl⟩⟩⟩
  · exact ⟨rfl, .inr (.inl ⟨h3, h4, rfl⟩)⟩
  · exact ⟨rfl, .inr (.inr ⟨h1, h3, h5, rfl⟩)⟩

/-- A pass back to the top of the loop either switches to the DPC stack, or calls the handler
of a record that passed the stack test and whose handler RtlIsValidHandler accepted. -/
theorem dispatchPass_eq_loop (h : dispatchPass m hs s = .loop s') :
    s.registrationPointer ≠ exceptionChainEnd ∧
      ((checkFrame m s.lowLimit s.highLimit s.registrationPointer = .dpcStack ∧
          s' = s.toDpcStack m) ∨
        (checkFrame m s.lowLimit s.highLimit s.registrationPointer = .inBounds ∧
          rtlIsValidHandler m (m.handler s.registrationPointer) = some true ∧
          dispatchCall m hs s = .loop s')) := by
  unfold dispatchPass at h
  split_ifs at h with hend
  refine ⟨hend, ?_⟩
  rcases hc : checkFrame m s.lowLimit s.highLimit s.registrationPointer <;> rw [hc] at h
  · rcases hv : rtlIsValidHandler m (m.handler s.registrationPointer) with _ | _ | _ <;>
      rw [hv] at h
    · cases h
    · cases h
    · exact .inr ⟨rfl, rfl, h⟩
  · cases h
    exact .inl ⟨rfl, rfl⟩
  · cases h

/-- A pass leaves the routine at EXCEPTION_CHAIN_END, on an invalid stack or handler (with
EXCEPTION_STACK_INVALID set), or through the handler call. -/
theorem dispatchPass_eq_exit (h : dispatchPass m hs s = .exit x s') :
    (s.registrationPointer = exceptionChainEnd ∧ x = .completion false ∧ s' = s) ∨
      (s.registrationPointer ≠ exceptionChainEnd ∧ x = .completion false ∧
        s' = s.stackInvalid) ∨
      (s.registrationPointer ≠ exceptionChainEnd ∧
        checkFrame m s.lowLimit s.highLimit s.registrationPointer = .inBounds ∧
        rtlIsValidHandler m (m.handler s.registrationPointer) = some true ∧
        dispatchCall m hs s = .exit x s') := by
  unfold dispatchPass at h
  split_ifs at h with hend
  · cases h
    exact .inl ⟨hend, rfl, rfl⟩
  rcases hc : checkFrame m s.lowLimit s.highLimit s.registrationPointer <;> rw [hc] at h
  · rcases hv : rtlIsValidHandler m (m.handler s.registrationPointer) with _ | _ | _ <;>
      rw [hv] at h
    · cases h
    · cases h
      exact .inr (.inl ⟨hend, rfl, rfl⟩)
    · exact .inr (.inr ⟨hend, rfl, rfl, h⟩)
  · cases h
  · cases h
    exact .inr (.inl ⟨hend, rfl, rfl⟩)

/-- A pass stalls only in RtlIsValidHandler, at a record that passed the stack test. -/
theorem dispatchPass_eq_stall (h : dispatchPass m hs s = .stall) :
    s.registrationPointer ≠ exceptionChainEnd ∧
      rtlIsValidHandler m (m.handler s.registrationPointer) = none := by
  unfold dispatchPass at h
  split_ifs at h with hend
  refine ⟨hend, ?_⟩
  rcases hc : checkFrame m s.lowLimit s.highLimit s.registrationPointer <;> rw [hc] at h
  · -- the search of RtlIsValidHandler is the only call of the pass that may not return
    rcases hv : rtlIsValidHandler m (m.handler s.registrationPointer) with _ | _ | _ <;>
      rw [hv] at h
    · cases h
    · unfold dispatchCall dispatchDisposition at h
      dsimp only at h
      split_ifs at h
  · cases h
  · cases h

theorem dispatchPass_of_accepted (hend : s.registrationPointer ≠ exceptionChainEnd)
    (hc : checkFrame m s.lowLimit s.highLimit s.registrationPointer = .inBounds)
    (hv : rtlIsValidHandler m (m.handler s.registrationPointer) = some true) :
    dispatchPass m hs s = dispatchCall m hs s := by
  simp [dispatchPass, hend, hc, hv]

theorem dispatchDisposition_of_continueSearch (hd : r.disposition = exceptionContinueSearch)
    (hsi : s.exceptionRecord.exceptionFlags &&& exceptionStackInvalid = 0) :
    dispatchDisposition m r s = .loop (s.advance m) := by
  simp [dispatchDisposition, hd, hsi, exceptionContinueSearch, exceptionContinueExecution]

end Pass

end SehDispatch
