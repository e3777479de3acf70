import SehDispatch.UnwindWalk

/-!
# RtlUnwind on a well-formed chain

On a chain that is what the runtime means it to be, an unwind is a simple thing: walk the
records, stop at the target, and otherwise call each handler and unlink its record.
`unwindSpec` says this on the list of records alone, with no memory, no stack test and no
handler: the records whose handlers are called, and how the unwind ends.

* `rtlUnwind_refines_unwindSpec`: when the records lie inside the stack limits, aligned, and
  every handler lets the unwind go on, RtlUnwind calls exactly the handlers `unwindSpec`
  names, each followed by the unlinking of its record, and ends as `unwindSpec` says, within
  one pass per record and one more; what the handlers keep of the flags, every call sees.
* `unwindSpec_of_sorted`: on a chain whose records increase, the abstract unwind towards a
  present target calls the records below the target and ends according to where the target
  lies; an exit unwind calls every record and raises (`unwindSpec_exit`).
* `rtlUnwind_increasing_chain` puts the two together.

The hypotheses are all needed: a record inside the limits but not aligned fails the stack
test, and in an exit unwind a record at NULL equals the absent target
(`rtlUnwind_unaligned_or_null_record`).
-/

namespace SehDispatch

/-! ### The abstract unwind -/

/-- How the abstract unwind ends: as RtlUnwind does, a raise being named by its status. -/
inductive UnwindEnd where
  | zwContinue
  | zwRaiseException
  | raise (exceptionCode : UInt32)
deriving DecidableEq, Repr

/-- The exit of RtlUnwind an abstract end stands for, over the working exception record `er`:
a raise builds its record over `er`. -/
def UnwindEnd.exit : UnwindEnd → ExceptionRecord → UnwindExit
  | .zwContinue, _ => .zwContinue
  | .zwRaiseException, _ => .zwRaiseException
  | .raise c, er => .raise (raisedRecord c er)

/-- The unwind towards `targetFrame` over the records `rs` of a chain, each handler letting
the unwind go on: the records whose handlers are called, in order, and how it ends. -/
def unwindSpec (targetFrame : UInt32) : List UInt32 → List UInt32 × UnwindEnd
  | [] => ([], if targetFrame = exceptionChainEnd then .zwContinue else .zwRaiseException)
  | r :: rs =>
    if r = targetFrame then ([], .zwContinue)
    else if targetFrame ≠ 0 ∧ targetFrame < r then ([], .raise statusInvalidUnwindTarget)
    else (r :: (unwindSpec targetFrame rs).1, (unwindSpec targetFrame rs).2)

/-- The events `log` are the calls of the Handlers of the records `fs`, in order, each
followed by the unlinking of its record, each call finding exception flags that satisfy `P`. -/
def UnwoundInOrder (m : Machine) (log : List UnwindEvent) (fs : List UInt32) (P : UInt32 → Prop) :
    Prop :=
  ∃ invs : List Invocation, invs.map Invocation.frame = fs ∧
    (∀ i ∈ invs, P i.call.exceptionRecord.exceptionFlags) ∧
    (∀ i ∈ invs, i.call.handler = m.handler i.frame) ∧
    log = invs.flatMap fun i => [.call i, .unlink i.frame]

section InOrder

variable {m : Machine} {log : List UnwindEvent} {fs : List UInt32} {P : UInt32 → Prop}

theorem UnwoundInOrder.nil (P : UInt32 → Prop) : UnwoundInOrder m [] [] P :=
  ⟨[], rfl, by simp, by simp, rfl⟩

theorem UnwoundInOrder.cons {i : Invocation} (h : UnwoundInOrder m log fs P)
    (hi : P i.call.exceptionRecord.exceptionFlags) (hh : i.call.handler = m.handler i.frame) :
    UnwoundInOrder m ([.call i, .unlink i.frame] ++ log) (i.frame :: fs) P := by
  obtain ⟨invs, hf, hp, hhs, rfl⟩ := h
  exact ⟨i :: invs, by simp [hf], by simpa using ⟨hi, hp⟩, by simpa using ⟨hh, hhs⟩, by simp⟩

theorem UnwoundInOrder.mono {Q : UInt32 → Prop} (h : UnwoundInOrder m log fs P)
    (hPQ : ∀ f, P f → Q f) : UnwoundInOrder m log fs Q := by
  obtain ⟨invs, hf, hp, hhs, rfl⟩ := h
  exact ⟨invs, hf, fun i hi => hPQ _ (hp i hi), hhs, rfl⟩

end InOrder

/-! ### The code refines the abstract unwind -/

/-- Every handler lets the unwind go on, and leaves exception flags satisfying `P` when it
found them so. -/
def ContinuesKeeping {ε : Type} (P : UInt32 → Prop) (hs : Handlers ε) : Prop :=
  ∀ hist c, (hs hist c).disposition = exceptionContinueSearch ∧
    (P c.exceptionRecord.exceptionFlags → P (hs hist c).exceptionFlags)

/-- Every handler lets the unwind go on and leaves the exception flags as it found them. -/
def ContinuesKeepingFlags {ε : Type} (hs : Handlers ε) : Prop :=
  ∀ hist c, (hs hist c).disposition = exceptionContinueSearch ∧
    (hs hist c).exceptionFlags = c.exceptionRecord.exceptionFlags

theorem ContinuesKeepingFlags.keeping {ε : Type} {hs : Handlers ε} (h : ContinuesKeepingFlags hs)
    (f : UInt32) : ContinuesKeeping (· = f) hs :=
  fun hist c => ⟨(h hist c).1, (h hist c).2.trans⟩

section Refines

variable {m : Machine} {hs : Handlers UnwindEvent} {targetFrame : UInt32}

/-- One pass at an aligned record inside the limits that is not the target, with the target
not below it, whose handler lets the unwind go on: the handler is called and the record
unlinked. -/
theorem unwindPass_of_insideLimits {s : UnwindState}
    (hcs : (hs s.log (s.handlerCall m)).disposition = exceptionContinueSearch)
    (hend : s.registrationPointer ≠ exceptionChainEnd) (ht : s.registrationPointer ≠ targetFrame)
    (hb : ¬ (targetFrame ≠ 0 ∧ targetFrame < s.registrationPointer))
    (hin : InsideLimits m s.registrationPointer) (ha : s.registrationPointer &&& 3 = 0)
    (hlo : s.lowLimit = m.lowLimit) (hhi : s.highLimit = m.highLimit) :
    ∃ i, i.frame = s.registrationPointer ∧ i.call.handler = m.handler i.frame ∧
      i.call.exceptionRecord.exceptionFlags = s.exceptionRecord.exceptionFlags ∧
      unwindPass m hs targetFrame s =
        .loop ((s.afterCall (s.handlerCall m) (hs s.log (s.handlerCall m))).unlinkStep m
          s.registrationPointer) ∧
      (s.afterCall (s.handlerCall m) (hs s.log (s.handlerCall m))).log = s.log ++ [.call i] := by
  refine ⟨⟨s.handlerCall m, hs s.log (s.handlerCall m), s.lowLimit, s.highLimit⟩, rfl, rfl, rfl, ?_,
    rfl⟩
  rw [unwindPass_of_inBounds hend ht hb (hlo ▸ hhi ▸ checkFrame_of_insideLimits hin ha)]
  exact unwindDisposition_of_continueSearch hcs

/-- **Refinement, pass by pass.** From a state at the head of a chain of aligned records
inside the limits, with the thread's limits in force and exception flags satisfying `P`, the
loop ends within one pass per record and one more, as the abstract unwind says, having logged
the calls of its handlers, each followed by the unlinking of its record, each call finding
flags that satisfy `P`. -/
theorem runLoop_unwindPass_refines {P : UInt32 → Prop} (hhs : ContinuesKeeping P hs)
    {rs : List UInt32} :
    ∀ {s : UnwindState}, IsChain m s.registrationPointer rs →
      (∀ r ∈ rs, InsideLimits m r ∧ r &&& 3 = 0) → s.lowLimit = m.lowLimit →
      s.highLimit = m.highLimit → P s.exceptionRecord.exceptionFlags →
      ∃ s', runLoop (unwindPass m hs targetFrame) (rs.length + 1) s =
          .exited ((unwindSpec targetFrame rs).2.exit s'.exceptionRecord) s' ∧
        ∃ tail, s'.log = s.log ++ tail ∧ UnwoundInOrder m tail (unwindSpec targetFrame rs).1 P := by
  induction rs with
  | nil =>
    intro s hc _ _ _ _
    refine ⟨s, runLoop_succ_of_exit 0 ?_, [], by simp, .nil _⟩
    rw [unwindPass_of_chainEnd hc, unwindSpec]
    split_ifs <;> rfl
  | cons r rs ih =>
    rintro s ⟨hpr, hr, hc⟩ hin hlo hhi hP
    have hend : s.registrationPointer ≠ exceptionChainEnd := hpr ▸ hr
    by_cases ht : r = targetFrame
    · rw [unwindSpec, if_pos ht]
      exact ⟨s, runLoop_succ_of_exit _ (unwindPass_of_target hend (hpr.trans ht)), [], by simp,
        .nil _⟩
    by_cases hb : targetFrame ≠ 0 ∧ targetFrame < r
    · rw [unwindSpec, if_neg ht, if_pos hb]
      exact ⟨s, runLoop_succ_of_exit _ (unwindPass_of_below hend (hpr ▸ ht) (hpr ▸ hb)), [],
        by simp, .nil _⟩
    -- the handler of `r` is called and `r` unlinked; the rest of the chain follows
    rw [unwindSpec, if_neg ht, if_neg hb]
    obtain ⟨hinr, har⟩ := hin r (List.mem_cons_self r rs)
    obtain ⟨hcs, hkeep⟩ := hhs s.log (s.handlerCall m)
    obtain ⟨i, hif, hih, hifl, hpass, hlog⟩ :=
      unwindPass_of_insideLimits hcs hend (hpr ▸ ht) (hpr ▸ hb) (hpr ▸ hinr) (hpr ▸ har) hlo hhi
    obtain ⟨s', hrun, tail, hlog', htail⟩ :=
      @ih ((s.afterCall (s.handlerCall m) (hs s.log (s.handlerCall m))).unlinkStep m
          s.registrationPointer)
        (by rw [UnwindState.unlinkStep_registrationPointer, hpr]; exact hc)
        (fun r' h => hin r' (List.mem_cons_of_mem r h)) (by simp [hlo]) (by simp [hhi]) (hkeep hP)
    refine ⟨s', by rw [List.length_cons, runLoop_succ_of_loop _ hpass]; exact hrun,
      [.call i, .unlink i.frame] ++ tail, ?_, ?_⟩
    · rw [hlog', UnwindState.unlinkStep_log, hlog, hif]
      simp
    · rw [← hpr, ← hif]
      exact htail.cons (hifl ▸ hP) hih

/-- **RtlUnwind refines the abstract unwind.** On a chain of aligned records inside the
stack limits, with every handler letting the unwind go on, RtlUnwind ends within one pass per
record and one more, as `unwindSpec` says, having called the handlers of the records
`unwindSpec` names, in order, each followed by the unlinking of its record. A property `P` of
the exception flags that holds of the unwind's record and that every handler keeps holds at
every call. -/
theorem rtlUnwind_refines_unwindSpec (m : Machine) (hs : Handlers UnwindEvent)
    (targetFrame targetIp : UInt32) (er : Option ExceptionRecord) (returnValue : UInt32)
    {rs : List UInt32} (P : UInt32 → Prop) (hc : IsChain m m.exceptionList rs)
    (hin : ∀ r ∈ rs, InsideLimits m r ∧ r &&& 3 = 0) (hhs : ContinuesKeeping P hs)
    (hP : P (unwindRecord m targetFrame er).exceptionFlags) :
    ∃ s, rtlUnwind m hs targetFrame targetIp er returnValue (rs.length + 1) =
        .exited ((unwindSpec targetFrame rs).2.exit s.exceptionRecord) s ∧
      UnwoundInOrder m s.log (unwindSpec targetFrame rs).1 P := by
  obtain ⟨s, hrun, tail, hlog, htail⟩ := @runLoop_unwindPass_refines m hs targetFrame P hhs rs
    (unwindStart m targetFrame er returnValue) hc hin rfl rfl hP
  exact ⟨s, hrun, by rwa [hlog, unwindStart_log, List.nil_append]⟩

end Refines

theorem rtlUnwind_refines_unwindSpec_two_records :
    ∃ s, rtlUnwind twoRecordMachine searchingHandlers 0x1010 0 none 0 3 =
        .exited ((unwindSpec 0x1010 [0x1000, 0x1010]).2.exit s.exceptionRecord) s ∧
      UnwoundInOrder twoRecordMachine s.log (unwindSpec 0x1010 [0x1000, 0x1010]).1
        (· &&& exceptionUnwinding = exceptionUnwinding) :=
  rtlUnwind_refines_unwindSpec twoRecordMachine searchingHandlers 0x1010 0 none 0
    (· &&& exceptionUnwinding = exceptionUnwinding) twoRecordMachine_isChain (by decide)
    (fun _ _ => ⟨rfl, id⟩) (unwindRecord_unwinding twoRecordMachine none (by decide))

/-! ### The abstract unwind on an increasing chain -/

/-- `targetFrame` lies below the head of the chain `rs`, or strictly between two consecutive
records. -/
def BelowHeadOrBetween (targetFrame : UInt32) (rs : List UInt32) : Prop :=
  (∃ r rs', rs = r :: rs' ∧ targetFrame < r) ∨
    ∃ l₁ a b l₂, rs = l₁ ++ a :: b :: l₂ ∧ a < targetFrame ∧ targetFrame < b

/-- On an increasing chain, a target below the head or between two records is no record, and
some record lies above it. -/
theorem BelowHeadOrBetween.not_mem {targetFrame : UInt32} {rs : List UInt32}
    (hs : rs.Pairwise (· < ·)) (h : BelowHeadOrBetween targetFrame rs) :
    targetFrame ∉ rs ∧ ∃ r ∈ rs, targetFrame < r := by
  rcases h with ⟨r, rs', rfl, hlt⟩ | ⟨l₁, a, b, l₂, rfl, ha, hb⟩
  · refine ⟨fun hm => ?_, r, List.mem_cons_self r rs', hlt⟩
    rcases List.mem_cons.mp hm with rfl | hm
    · exact UInt32.lt_irrefl _ hlt
    · exact UInt32.lt_asymm hlt ((List.pairwise_cons.mp hs).1 _ hm)
  · obtain ⟨-, hab, hcross⟩ := List.pairwise_append.mp hs
    obtain ⟨hbl, -⟩ := List.pairwise_cons.mp (List.pairwise_cons.mp hab).2
    refine ⟨fun hm => ?_, b, by simp, hb⟩
    rcases List.mem_append.mp hm with hm | hm
    · exact UInt32.lt_asymm ha (hcross _ hm a (List.mem_cons_self a _))
    · simp only [List.mem_cons] at hm
      rcases hm with rfl | rfl | hm
      · exact UInt32.lt_irrefl _ ha
      · exact UInt32.lt_irrefl _ hb
      · exact UInt32.lt_asymm hb (hbl _ hm)

/-- **The unwind towards a present target on an increasing chain.** The handlers called are
those of the records below the target, in chain order; the unwind continues when the target is
a record, raises when a record lies above the target, and otherwise runs off the end. -/
theorem unwindSpec_of_sorted {targetFrame : UInt32} (hF : targetFrame ≠ 0) :
    ∀ {rs : List UInt32}, rs.Pairwise (· < ·) →
      unwindSpec targetFrame rs = (rs.filter (· < targetFrame),
        if targetFrame ∈ rs then .zwContinue
        else if ∃ r ∈ rs, targetFrame < r then .raise statusInvalidUnwindTarget
        else if targetFrame = exceptionChainEnd then .zwContinue else .zwRaiseException)
  | [], _ => by simp [unwindSpec]
  | r :: rs, hs => by
    obtain ⟨hr, hs⟩ := List.pairwise_cons.mp hs
    by_cases ht : r = targetFrame
    · -- the target is the head: every later record lies above it
      subst ht
      have hnil : rs.filter (· < r) = [] :=
        List.filter_eq_nil_iff.mpr fun a ha h => UInt32.lt_asymm (hr a ha) (of_decide_eq_true h)
      simp [unwindSpec, hnil]
    by_cases hb : targetFrame < r
    · -- the target lies below the head
      have hnil : (r :: rs).filter (· < targetFrame) = [] :=
        List.filter_eq_nil_iff.mpr fun a ha h => by
          rcases List.mem_cons.mp ha with rfl | ha
          · exact UInt32.lt_asymm hb (of_decide_eq_true h)
          · exact UInt32.lt_asymm (UInt32.lt_trans hb (hr a ha)) (of_decide_eq_true h)
      have hnm : targetFrame ∉ rs := fun hm => UInt32.lt_asymm hb (hr _ hm)
      rw [hnil]
      simp [unwindSpec, ht, hF, hb, hnm, Ne.symm ht]
    · -- the head lies below the target: its handler is called, and the rest is the same
      have hlt : r < targetFrame := ulong_lt_of_not_lt_of_ne hb ht
      simp [unwindSpec, ht, hb, hlt, Ne.symm ht, unwindSpec_of_sorted hF hs]

/-- **The exit unwind.** With no target frame and no record at NULL, the abstract unwind calls
every record and raises off the end. -/
theorem unwindSpec_exit : ∀ {rs : List UInt32}, 0 ∉ rs → unwindSpec 0 rs = (rs, .zwRaiseException)
  | [], _ => rfl
  | r :: rs, h => by
    obtain ⟨h0, h⟩ := not_or.mp (List.mem_cons.not.mp h)
    rw [unwindSpec, if_neg (Ne.symm h0), if_neg fun hb => hb.1 rfl, unwindSpec_exit h]

/-! ### The unwind on an increasing chain -/

/-- **RtlUnwind on an increasing chain.** On a chain of aligned records at increasing
addresses inside the stack limits, with every handler letting the unwind go on and leaving
the flags alone, RtlUnwind ends within one pass per record and one more. With a target frame it
calls, in chain order and with EXCEPTION_UNWINDING set, the handlers of exactly the records
below the target, unlinking each after its call; it continues when the target is a record or
EXCEPTION_CHAIN_END, raises STATUS_INVALID_UNWIND_TARGET when the target lies below the head or
between two records, and hands the exception to ZwRaiseException when the target lies above
every record. An exit unwind, with no record at NULL, calls every handler with
EXCEPTION_UNWINDING and EXCEPTION_EXIT_UNWIND set and ends in ZwRaiseException. -/
theorem rtlUnwind_increasing_chain (m : Machine) (hs : Handlers UnwindEvent)
    (targetFrame targetIp : UInt32) (er : Option ExceptionRecord) (returnValue : UInt32)
    {rs : List UInt32} (hc : IsChain m m.exceptionList rs) (hsorted : rs.Pairwise (· < ·))
    (hin : ∀ r ∈ rs, InsideLimits m r ∧ r &&& 3 = 0) (hhs : ContinuesKeepingFlags hs) :
    ∃ x s, rtlUnwind m hs targetFrame targetIp er returnValue (rs.length + 1) = .exited x s ∧
      (targetFrame ≠ 0 →
        UnwoundInOrder m s.log (rs.filter (· < targetFrame))
          (fun f => f &&& exceptionUnwinding = exceptionUnwinding) ∧
        (targetFrame ∈ rs ∨ targetFrame = exceptionChainEnd → x = .zwContinue) ∧
        (BelowHeadOrBetween targetFrame rs →
          x = .raise (raisedRecord statusInvalidUnwindTarget s.exceptionRecord)) ∧
        ((∀ r ∈ rs, r < targetFrame) → targetFrame ≠ exceptionChainEnd →
          x = .zwRaiseException)) ∧
      (targetFrame = 0 → 0 ∉ rs →
        UnwoundInOrder m s.log rs (fun f => f &&& (exceptionUnwinding ||| exceptionExitUnwind) =
          exceptionUnwinding ||| exceptionExitUnwind) ∧
        x = .zwRaiseException) := by
  obtain ⟨s, hrun, tail, hlog, hun⟩ := @runLoop_unwindPass_refines m hs targetFrame _
    (hhs.keeping (unwindRecord m targetFrame er).exceptionFlags) rs
    (unwindStart m targetFrame er returnValue) hc hin rfl rfl rfl
  rw [unwindStart_log, List.nil_append] at hlog
  rw [← hlog] at hun
  refine ⟨_, s, hrun, fun hF => ?_, fun hF h0 => ?_⟩
  · simp only [unwindSpec_of_sorted hF hsorted] at hun ⊢
    refine ⟨hun.mono fun f hf => hf ▸ unwindRecord_unwinding m er hF, fun h => ?_,
      fun h => ?_, fun h hE => ?_⟩
    · rcases h with h | h
      · simp only [if_pos h, UnwindEnd.exit]
      · -- no record lies above EXCEPTION_CHAIN_END
        have hnone : ¬ ∃ r ∈ rs, targetFrame < r := fun ⟨r, _, hr⟩ => by
          rw [ulong_lt_iff, h, exceptionChainEnd_toNat] at hr
          exact absurd (ulong_toNat_lt r) (by omega)
        split_ifs <;> trivial
    · obtain ⟨hnm, hab⟩ := h.not_mem hsorted
      simp only [if_neg hnm, if_pos hab, UnwindEnd.exit]
    · have hnm : targetFrame ∉ rs := fun hm => UInt32.lt_irrefl _ (h _ hm)
      have hnone : ¬ ∃ r ∈ rs, targetFrame < r := fun ⟨r, hm, hr⟩ => UInt32.lt_asymm hr (h r hm)
      simp only [if_neg hnm, if_neg hnone, if_neg hE, UnwindEnd.exit]
  · subst hF
    rw [unwindSpec_exit h0] at hun ⊢
    exact ⟨hun.mono fun f hf => hf ▸ unwindRecord_exitUnwind m er, rfl⟩

theorem rtlUnwind_increasing_chain_two_records :
    ∃ x s, rtlUnwind twoRecordMachine searchingHandlers 0x1010 0 none 0 3 = .exited x s ∧
      ((0x1010 : UInt32) ≠ 0 →
        UnwoundInOrder twoRecordMachine s.log ([0x1000, 0x1010].filter (· < 0x1010))
          (fun f => f &&& exceptionUnwinding = exceptionUnwinding) ∧
        ((0x1010 : UInt32) ∈ [0x1000, 0x1010] ∨ (0x1010 : UInt32) = exceptionChainEnd →
          x = .zwContinue) ∧
        (BelowHeadOrBetween 0x1010 [0x1000, 0x1010] →
          x = .raise (raisedRecord statusInvalidUnwindTarget s.exceptionRecord)) ∧
        ((∀ r ∈ [0x1000, 0x1010], r < (0x1010 : UInt32)) → (0x1010 : UInt32) ≠ exceptionChainEnd →
          x = .zwRaiseException)) ∧
      ((0x1010 : UInt32) = 0 → (0 : UInt32) ∉ [0x1000, 0x1010] →
        UnwoundInOrder twoRecordMachine s.log [0x1000, 0x1010]
          (fun f => f &&& (exceptionUnwinding ||| exceptionExitUnwind) =
            exceptionUnwinding ||| exceptionExitUnwind) ∧
        x = .zwRaiseException) :=
  rtlUnwind_increasing_chain twoRecordMachine searchingHandlers 0x1010 0 none 0
    twoRecordMachine_isChain (by decide) (by decide) fun _ _ => ⟨rfl, rfl⟩

/-! ### Where the hypotheses are needed -/

/-- Stack limits `[0x1000, 0x2000)`, no DPC routine active, and a chain of one record at
`0x1001`, inside the limits but not aligned. -/
def unalignedMachine : Machine :=
  { cycleMachine with
    mem := fun a => if a = 0x1001 then exceptionChainEnd else 0x00401000
    exceptionList := 0x1001 }

/-- Stack limits `[0, 0x2000)`, no DPC routine active, and a chain of one record at NULL. -/
def nullRecordMachine : Machine :=
  { cycleMachine with
    mem := fun a => if a = 0 then exceptionChainEnd else 0x00401000
    lowLimit := 0
    exceptionList := 0 }

/-- Two one-record chains inside the stack limits, with handlers that let the unwind go on.
Unwinding the unaligned record to EXCEPTION_CHAIN_END raises STATUS_BAD_STACK without calling
its handler; an exit unwind of the aligned record at NULL continues at once, without calling
it either. -/
theorem rtlUnwind_unaligned_or_null_record :
    ContinuesKeepingFlags (@searchingHandlers UnwindEvent) ∧
      (IsChain unalignedMachine unalignedMachine.exceptionList [0x1001] ∧
        InsideLimits unalignedMachine 0x1001 ∧
        ∃ s, rtlUnwind unalignedMachine searchingHandlers exceptionChainEnd 0 none 0 1 =
          .exited (.raise (raisedRecord statusBadStack s.exceptionRecord)) s ∧ s.log = []) ∧
      (IsChain nullRecordMachine nullRecordMachine.exceptionList [0] ∧
        InsideLimits nullRecordMachine 0 ∧ (0 : UInt32) &&& 3 = 0 ∧
        ∃ s, rtlUnwind nullRecordMachine searchingHandlers 0 0 none 0 1 = .exited .zwContinue s ∧
          s.log = []) :=
  ⟨fun _ _ => ⟨rfl, rfl⟩, ⟨⟨rfl, by decide, rfl⟩, by decide, _, rfl, rfl⟩,
    ⟨rfl, by decide, rfl⟩, by decide, by decide, _, rfl, rfl⟩

end SehDispatch
