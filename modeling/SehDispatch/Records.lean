import SehDispatch.Word

/-!
# Records, the machine, and the stack test

The data both routines work on:

* the constants of the NT headers `exdsptch.c` includes through `ntrtlp.h`: the exception
  flags, the handler dispositions, the status codes, `EXCEPTION_CHAIN_END`;
* the EXCEPTION_RECORD and CONTEXT fields the routines read or write;
* `Machine`: memory (one ULONG per address) and what the collaborators `RtlpGetStackLimits`,
  `RtlpGetRegistrationHead`, `KeGetCurrentIrql`, `KeGetCurrentPrcb`, `RtlLookupFunctionTable`
  and `RtlpCaptureContext` report;
* the registration records in memory and the chain they form (`IsChain`);
* the test at the top of both loops, with its DPC-stack fallback (`checkFrame`), and what it
  guarantees (`CalledInBounds`): a record that passes lies inside the limits unless its
  HighAddress wraps;
* what a handler invocation receives and leaves behind. The handlers are arbitrary code: the
  routines are modelled over every function `Handlers` from the invocations already made and
  the arguments of the call to the disposition and the writes of the handler.
-/

namespace SehDispatch

/-! ### Constants of the NT headers -/

/-- EXCEPTION_NONCONTINUABLE. -/
def exceptionNoncontinuable : UInt32 := 0x1
/-- EXCEPTION_UNWINDING. -/
def exceptionUnwinding : UInt32 := 0x2
/-- EXCEPTION_EXIT_UNWIND. -/
def exceptionExitUnwind : UInt32 := 0x4
/-- EXCEPTION_STACK_INVALID. -/
def exceptionStackInvalid : UInt32 := 0x8
/-- EXCEPTION_NESTED_CALL. -/
def exceptionNestedCall : UInt32 := 0x10

/-- ExceptionContinueExecution, the first value of EXCEPTION_DISPOSITION. -/
def exceptionContinueExecution : UInt32 := 0
/-- ExceptionContinueSearch. -/
def exceptionContinueSearch : UInt32 := 1
/-- ExceptionNestedException. -/
def exceptionNestedException : UInt32 := 2
/-- ExceptionCollidedUnwind. -/
def exceptionCollidedUnwind : UInt32 := 3

/-- STATUS_NONCONTINUABLE_EXCEPTION. -/
def statusNoncontinuableException : UInt32 := 0xC0000025
/-- STATUS_INVALID_DISPOSITION. -/
def statusInvalidDisposition : UInt32 := 0xC0000026
/-- STATUS_UNWIND. -/
def statusUnwind : UInt32 := 0xC0000027
/-- STATUS_BAD_STACK. -/
def statusBadStack : UInt32 := 0xC0000028
/-- STATUS_INVALID_UNWIND_TARGET. -/
def statusInvalidUnwindTarget : UInt32 := 0xC0000029

/-- EXCEPTION_CHAIN_END, the record pointer `-1` that ends the chain. -/
def exceptionChainEnd : UInt32 := 0xFFFFFFFF

/-- DISPATCH_LEVEL on x86. -/
def dispatchLevel : UInt8 := 2

/-- KERNEL_STACK_SIZE on x86: the size of the DPC stack window. -/
def kernelStackSize : UInt32 := 12288

/-- CONTEXT_INTEGER, CONTEXT_CONTROL and CONTEXT_SEGMENTS, as RtlUnwind asks for them. -/
def contextInteger : UInt32 := 0x10002
/-- CONTEXT_CONTROL. -/
def contextControl : UInt32 := 0x10001
/-- CONTEXT_SEGMENTS. -/
def contextSegments : UInt32 := 0x10004

theorem exceptionChainEnd_toNat : exceptionChainEnd.toNat = 4294967295 := rfl

/-! ### Exception and context records -/

/-- An EXCEPTION_RECORD: the fields the routines read or write. The parameters are never
read, and `exceptionRecord` is the pointer to a chained record (NULL is `0`). -/
structure ExceptionRecord where
  exceptionCode : UInt32
  exceptionFlags : UInt32
  exceptionRecord : UInt32
  exceptionAddress : UInt32
  numberParameters : UInt32
deriving DecidableEq, Repr

/-- `ExceptionRecord->ExceptionFlags |= mask`. -/
def ExceptionRecord.orFlags (er : ExceptionRecord) (mask : UInt32) : ExceptionRecord :=
  { er with exceptionFlags := er.exceptionFlags ||| mask }

/-- `ExceptionRecord->ExceptionFlags &= ~mask`. -/
def ExceptionRecord.clearFlags (er : ExceptionRecord) (mask : UInt32) : ExceptionRecord :=
  { er with exceptionFlags := er.exceptionFlags &&& ~~~mask }

@[simp] theorem ExceptionRecord.orFlags_exceptionFlags (er : ExceptionRecord) (mask : UInt32) :
    (er.orFlags mask).exceptionFlags = er.exceptionFlags ||| mask := rfl

@[simp] theorem ExceptionRecord.clearFlags_exceptionFlags (er : ExceptionRecord) (mask : UInt32) :
    (er.clearFlags mask).exceptionFlags = er.exceptionFlags &&& ~~~mask := rfl

theorem ExceptionRecord.orFlags_clearFlags (er : ExceptionRecord) {m mask : UInt32}
    (h : m &&& ~~~mask = 0) : (er.orFlags m).clearFlags mask = er.clearFlags mask := by
  simp only [ExceptionRecord.orFlags, ExceptionRecord.clearFlags, or_and_of_disjoint _ h]

theorem ExceptionRecord.clearFlags_clearFlags (er : ExceptionRecord) {m mask : UInt32}
    (h : m &&& ~~~mask = 0) : (er.clearFlags m).clearFlags mask = er.clearFlags mask := by
  simp only [ExceptionRecord.clearFlags, and_not_and_of_disjoint _ h]

/-- ExceptionRecord1 of RtlDispatchException, and ExceptionRecord2 of RtlUnwind, as the
routines fill them before RtlRaiseException: a status, the flags, the record their
ExceptionRecord field points to, which is the working exception record as it stands, and
NumberParameters. ExceptionAddress is left for RtlRaiseException to fill. -/
structure RaisedRecord where
  exceptionCode : UInt32
  exceptionFlags : UInt32
  exceptionRecord : ExceptionRecord
  numberParameters : UInt32
deriving DecidableEq, Repr

/-- The record every raise of the two routines builds, with the status `exceptionCode`:
EXCEPTION_NONCONTINUABLE, the working record `er`, and no parameters. -/
def raisedRecord (exceptionCode : UInt32) (er : ExceptionRecord) : RaisedRecord :=
  ⟨exceptionCode, exceptionNoncontinuable, er, 0⟩

@[simp] theorem raisedRecord_exceptionCode (exceptionCode : UInt32) (er : ExceptionRecord) :
    (raisedRecord exceptionCode er).exceptionCode = exceptionCode := rfl

/-- The fields of a CONTEXT the routines touch: ContextFlags, Eax and Esp. -/
structure Context where
  contextFlags : UInt32
  eax : UInt32
  esp : UInt32
deriving DecidableEq, Repr

/-- What RtlLookupFunctionTable reports for an address: the table (NULL when the image has
none registered), the image base, and the number of entries. -/
structure FunctionTableInfo where
  functionTable : UInt32
  base : UInt32
  functionTableLength : UInt32
deriving DecidableEq, Repr

/-! ### The machine -/

/-- The state the routines read and the collaborators that only read it: memory, one ULONG per
address; the function table of each address; the stack limits; the thread's chain head; the
IRQL and the PRCB's DPC fields; the registers `RtlpCaptureContext` records, and the return
address of RtlUnwind. -/
structure Machine where
  mem : UInt32 → UInt32
  lookupFunctionTable : UInt32 → FunctionTableInfo
  lowLimit : UInt32
  highLimit : UInt32
  exceptionList : UInt32
  irql : UInt8
  dpcRoutineActive : Bool
  dpcStack : UInt32
  capturedContext : Context
  returnAddress : UInt32

/-! ### Registration records and the chain -/

/-- Modelled from the spec: EXCEPTION_REGISTRATION_RECORD, whose declaration the file takes
from the NT headers, holds the pointer to the next record at offset 0 and the pointer to the
handler at offset 4. -/
def sizeofRegistrationRecord : UInt32 := 8

/-- `RegistrationPointer->Next`. -/
def Machine.next (m : Machine) (r : UInt32) : UInt32 := m.mem r

/-- `RegistrationPointer->Handler`. -/
def Machine.handler (m : Machine) (r : UInt32) : UInt32 := m.mem (r + 4)

/-- `rs` are the records of the chain from `p`, in order: each record's Next is the following
one, the last one's Next is EXCEPTION_CHAIN_END, and no record is EXCEPTION_CHAIN_END. -/
def IsChain (m : Machine) : UInt32 → List UInt32 → Prop
  | p, [] => p = exceptionChainEnd
  | p, r :: rs => p = r ∧ r ≠ exceptionChainEnd ∧ IsChain m (m.next r) rs

@[simp] theorem isChain_nil {m : Machine} {p : UInt32} : IsChain m p [] ↔ p = exceptionChainEnd :=
  Iff.rfl

@[simp] theorem isChain_cons {m : Machine} {p r : UInt32} {rs : List UInt32} :
    IsChain m p (r :: rs) ↔ p = r ∧ r ≠ exceptionChainEnd ∧ IsChain m (m.next r) rs :=
  Iff.rfl

theorem IsChain.getElem {m : Machine} :
    ∀ {p : UInt32} {rs : List UInt32}, IsChain m p rs →
      ∀ (i : Nat) (hi : i < rs.length), rs[i] = m.next^[i] p
  | _, [], _, i, hi => absurd hi (Nat.not_lt_zero i)
  | _, r :: rs, ⟨rfl, _, hc⟩, 0, _ => rfl
  | _, r :: rs, ⟨rfl, _, hc⟩, i + 1, hi => by
    rw [Function.iterate_succ_apply]
    exact hc.getElem i (Nat.lt_of_succ_lt_succ hi)

theorem IsChain.iterate_length {m : Machine} :
    ∀ {p : UInt32} {rs : List UInt32}, IsChain m p rs → m.next^[rs.length] p = exceptionChainEnd
  | _, [], h => h
  | _, r :: rs, ⟨rfl, _, hc⟩ => by
    rw [List.length_cons, Function.iterate_succ_apply]
    exact hc.iterate_length

theorem IsChain.getElem_of_ne {m : Machine} {p : UInt32} {rs : List UInt32}
    (hc : IsChain m p rs) {k : Nat} (hk : k ≤ rs.length)
    (hend : m.next^[k] p ≠ exceptionChainEnd) : ∃ hk : k < rs.length, m.next^[k] p = rs[k] := by
  have hlt : k < rs.length := by
    by_contra hge
    exact hend (by rw [show k = rs.length by omega]; exact hc.iterate_length)
  exact ⟨hlt, (hc.getElem k hlt).symm⟩

theorem IsChain.ne_chainEnd {m : Machine} :
    ∀ {p : UInt32} {rs : List UInt32}, IsChain m p rs → ∀ r ∈ rs, r ≠ exceptionChainEnd
  | _, [], _, _, h => absurd h (List.not_mem_nil _)
  | _, r :: rs, ⟨rfl, hr, hc⟩, _, h => by
    rcases List.mem_cons.mp h with rfl | h
    · exact hr
    · exact hc.ne_chainEnd _ h

/-- No record is on a chain twice: from a repeated record the walk would never reach
EXCEPTION_CHAIN_END. -/
theorem IsChain.nodup {m : Machine} {p : UInt32} {rs : List UInt32} (hc : IsChain m p rs) :
    rs.Nodup := by
  refine List.pairwise_iff_getElem.mpr fun i j hi hj hij heq => ?_
  -- the same number of Next links leads from the `j`-th record to EXCEPTION_CHAIN_END and
  -- from the `i`-th to a record of the chain
  have hend : m.next^[rs.length - j] rs[j] = exceptionChainEnd := by
    rw [hc.getElem j hj, ← Function.iterate_add_apply, Nat.sub_add_cancel hj.le]
    exact hc.iterate_length
  have hmid : m.next^[rs.length - j] rs[i] = rs[rs.length - j + i] := by
    rw [hc.getElem i hi, ← Function.iterate_add_apply, hc.getElem _ (by omega)]
  exact hc.ne_chainEnd _ (List.getElem_mem (by omega)) (hmid ▸ heq ▸ hend)

/-! ### The stack test -/

/-- The test at the top of both loops: the record at `r` starts below LowLimit, ends above
HighLimit, or is unaligned. HighAddress is computed in ULONG, as in the source. -/
def outsideLimits (lowLimit highLimit r : UInt32) : Bool :=
  r < lowLimit || r + sizeofRegistrationRecord > highLimit || r &&& 3 ≠ 0

/-- The DPC-stack fallback: the record is aligned, the processor runs at DISPATCH_LEVEL or
above with a DPC routine active, and the record lies in the window of KERNEL_STACK_SIZE bytes
below the DPC stack. -/
def onDpcStack (m : Machine) (r : UInt32) : Bool :=
  r &&& 3 = 0 && m.irql ≥ dispatchLevel && m.dpcRoutineActive &&
    r + sizeofRegistrationRecord ≤ m.dpcStack && r ≥ m.dpcStack - kernelStackSize

/-- What the test at the top of the loop decides for the record at RegistrationPointer. -/
inductive FrameCheck where
  /-- The record passed; the pass goes on with it. -/
  | inBounds
  /-- The record is on the DPC stack: the limits become the DPC window and the pass restarts. -/
  | dpcStack
  /-- The stack is invalid. -/
  | invalid
deriving DecidableEq, Repr

/-- The stack test with its fallback, shared by RtlDispatchException and RtlUnwind. -/
def checkFrame (m : Machine) (lowLimit highLimit r : UInt32) : FrameCheck :=
  if outsideLimits lowLimit highLimit r then
    if onDpcStack m r then .dpcStack else .invalid
  else .inBounds

theorem checkFrame_eq_inBounds {m : Machine} {lowLimit highLimit r : UInt32} :
    checkFrame m lowLimit highLimit r = .inBounds ↔ outsideLimits lowLimit highLimit r = false := by
  unfold checkFrame
  split <;> [split; skip] <;> simp_all

theorem checkFrame_eq_dpcStack {m : Machine} {lowLimit highLimit r : UInt32} :
    checkFrame m lowLimit highLimit r = .dpcStack ↔
      outsideLimits lowLimit highLimit r = true ∧ onDpcStack m r = true := by
  unfold checkFrame
  split <;> [split; skip] <;> simp_all

theorem outsideLimits_eq_false {lowLimit highLimit r : UInt32} :
    outsideLimits lowLimit highLimit r = false ↔
      lowLimit ≤ r ∧ r + sizeofRegistrationRecord ≤ highLimit ∧ r &&& 3 = 0 := by
  simp [outsideLimits, UInt32.not_lt, and_assoc]

/-- A record that passes the test lies inside the limits, measured without wrap, or starts in
the last eight bytes of the address space, where HighAddress wraps past `2^32`. -/
theorem inside_of_outsideLimits_eq_false {lowLimit highLimit r : UInt32}
    (h : outsideLimits lowLimit highLimit r = false) :
    r.toNat + sizeofRegistrationRecord.toNat ≤ highLimit.toNat ∨ 0xFFFFFFF8 ≤ r := by
  have hhi := (outsideLimits_eq_false.mp h).2.1
  rw [ulong_le_iff, ulong_toNat_add] at hhi
  rw [ulong_le_iff, show (0xFFFFFFF8 : UInt32).toNat = 4294967288 from rfl]
  have := ulong_toNat_lt r
  have : sizeofRegistrationRecord.toNat = 8 := rfl
  omega

/-- The fallback asks exactly the stack test against the DPC window, so a record it accepts
passes that test. -/
theorem outsideLimits_dpcWindow {m : Machine} {r : UInt32} (h : onDpcStack m r = true) :
    outsideLimits (m.dpcStack - kernelStackSize) m.dpcStack r = false := by
  simp only [onDpcStack, Bool.and_eq_true, decide_eq_true_eq] at h
  exact outsideLimits_eq_false.mpr ⟨h.2, h.1.2, h.1.1.1.1⟩

theorem checkFrame_dpcWindow {m : Machine} {lowLimit highLimit r : UInt32}
    (h : checkFrame m lowLimit highLimit r = .dpcStack) :
    checkFrame m (m.dpcStack - kernelStackSize) m.dpcStack r = .inBounds :=
  checkFrame_eq_inBounds.mpr (outsideLimits_dpcWindow (checkFrame_eq_dpcStack.mp h).2)

theorem checkFrame_dpcWindow_ne_dpcStack {m : Machine} {r : UInt32} :
    checkFrame m (m.dpcStack - kernelStackSize) m.dpcStack r ≠ .dpcStack := fun h => by
  cases h.symm.trans (checkFrame_dpcWindow h)

/-- The record at `r` lies inside the thread's stack limits, measured without wrap. -/
def InsideLimits (m : Machine) (r : UInt32) : Prop :=
  m.lowLimit ≤ r ∧ r.toNat + sizeofRegistrationRecord.toNat ≤ m.highLimit.toNat

instance (m : Machine) (r : UInt32) : Decidable (InsideLimits m r) :=
  inferInstanceAs (Decidable (_ ∧ _))

theorem checkFrame_of_insideLimits {m : Machine} {r : UInt32} (h : InsideLimits m r)
    (ha : r &&& 3 = 0) : checkFrame m m.lowLimit m.highLimit r = .inBounds := by
  refine checkFrame_eq_inBounds.mpr (outsideLimits_eq_false.mpr ⟨h.1, ?_, ha⟩)
  rw [ulong_le_iff, ulong_toNat_add]
  have := ulong_toNat_lt m.highLimit
  have := h.2
  omega

/-- The two pairs of limits a loop can have in force: the thread's stack limits, and the
window below the DPC stack that the fallback switches to. -/
def LimitsInForce (m : Machine) (lowLimit highLimit : UInt32) : Prop :=
  (lowLimit = m.lowLimit ∧ highLimit = m.highLimit) ∨
    (lowLimit = m.dpcStack - kernelStackSize ∧ highLimit = m.dpcStack)

theorem LimitsInForce.start (m : Machine) : LimitsInForce m m.lowLimit m.highLimit :=
  .inl ⟨rfl, rfl⟩

theorem LimitsInForce.dpc (m : Machine) :
    LimitsInForce m (m.dpcStack - kernelStackSize) m.dpcStack := .inr ⟨rfl, rfl⟩

/-! ### Handler invocations -/

/-- What RtlpExecuteHandlerForException or RtlpExecuteHandlerForUnwind passes to a handler,
with the chain head the call finds. -/
structure HandlerCall where
  exceptionRecord : ExceptionRecord
  establisherFrame : UInt32
  context : Context
  handler : UInt32
  exceptionList : UInt32
deriving DecidableEq, Repr

/-- What a handler invocation leaves behind: its disposition, the exception flags and the
context record as it left them, DispatcherContext.RegistrationPointer as the routine reads it
after the call, and the thread's chain head. -/
structure HandlerReturn where
  disposition : UInt32
  exceptionFlags : UInt32
  context : Context
  dispatcherContext : UInt32
  exceptionList : UInt32
deriving DecidableEq, Repr

/-- A handler invocation as it happened: the call, the return, and the stack limits in force
when the record passed the stack test. -/
structure Invocation where
  call : HandlerCall
  ret : HandlerReturn
  lowLimit : UInt32
  highLimit : UInt32
deriving DecidableEq, Repr

/-- The record whose handler was invoked. -/
def Invocation.frame (i : Invocation) : UInt32 := i.call.establisherFrame

/-- The record of `i` passed the stack test against limits in force, and the handler called is
the record's Handler. -/
def PassedStackTest (m : Machine) (i : Invocation) : Prop :=
  LimitsInForce m i.lowLimit i.highLimit ∧ outsideLimits i.lowLimit i.highLimit i.frame = false ∧
    i.call.handler = m.handler i.frame

/-- What the stack test guarantees of the record whose handler `i` called: the limits were in
force, the record is aligned, starts at LowLimit or above, and ends at HighLimit or below,
unless it starts in the last eight bytes of the address space; and the routine called is the
record's Handler. -/
def CalledInBounds (m : Machine) (i : Invocation) : Prop :=
  LimitsInForce m i.lowLimit i.highLimit ∧ i.frame &&& 3 = 0 ∧ i.lowLimit ≤ i.frame ∧
    (i.frame.toNat + sizeofRegistrationRecord.toNat ≤ i.highLimit.toNat ∨ 0xFFFFFFF8 ≤ i.frame) ∧
    i.call.handler = m.handler i.frame

theorem PassedStackTest.calledInBounds {m : Machine} {i : Invocation} (h : PassedStackTest m i) :
    CalledInBounds m i :=
  ⟨h.1, (outsideLimits_eq_false.mp h.2.1).2.2, (outsideLimits_eq_false.mp h.2.1).1,
    inside_of_outsideLimits_eq_false h.2.1, h.2.2⟩

/-- The behaviour of the handlers: from the history of the routine so far (of events of type
`ε`) and the arguments of a call, what the call leaves behind. Every handler behaviour, however
stateful, is one such function. -/
def Handlers (ε : Type) : Type := List ε → HandlerCall → HandlerReturn

end SehDispatch
