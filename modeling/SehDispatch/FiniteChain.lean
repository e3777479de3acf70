import SehDispatch.DpcStack
import SehDispatch.Handoff

/-!
# Both loops end on every finite chain

Neither loop checks that the chain ends; both rely on it. On a chain that does end at
EXCEPTION_CHAIN_END, whatever the records' addresses and alignment, the stack limits, the DPC
state and the handlers, both leave within one pass per record and two more: a pass per record
the walk steps past, one for the switch to the DPC stack, which happens at most once, and one
at the record where the walk stops. RtlUnwind needs one promise from its handlers: a collided
unwind reports a record at or beyond the one whose handler reports it, as the frame that
another unwind is working on is.

* `ChainRanked` grades a position on the chain by the passes back to the top it has left:
  one per record from there on, and one more while the DPC window is not in force. A step to
  the Next of the current record, or of a record beyond it, lowers the rank
  (`ChainRanked.jump`), and so does the switch to the DPC stack (`ChainRanked.toDpc`).
* `rtlDispatchException_ends_on_finite_chain` and `rtlUnwind_ends_on_finite_chain` follow by
  `runLoop_exits_of_ranked`.
* Under the same promise RtlUnwind never goes back along the chain: it calls the handler of each
  record, and unlinks each record, at most once and in chain order
  (`rtlUnwind_each_record_once`), carried by `UnwoundBefore`.
-/

namespace SehDispatch

/-- A walk of the chain `rs` at RegistrationPointer `rp`, with the limits `lowLimit` and
`highLimit` in force, has at most `n` passes back to the top left: `rp` is the record `k` Next
links from the chain head, with one pass per record from there on, and one more while the DPC
window is not in force. -/
def ChainRanked (m : Machine) (rs : List UInt32) (n : Nat) (rp lowLimit highLimit : UInt32) :
    Prop :=
  ∃ k ≤ rs.length, rp = m.next^[k] m.exceptionList ∧ rs.length - k ≤ n ∧
    (DpcWindowInForce m lowLimit highLimit ∨ rs.length - k < n)

section Ranked

variable {m : Machine} {rs : List UInt32} {n : Nat} {rp lowLimit highLimit : UInt32}

theorem ChainRanked.start (lowLimit highLimit : UInt32) :
    ChainRanked m rs (rs.length + 1) m.exceptionList lowLimit highLimit :=
  ⟨0, Nat.zero_le _, rfl, by omega, .inr (by omega)⟩

theorem ChainRanked.toDpc (h : ChainRanked m rs (n + 1) rp lowLimit highLimit)
    (hw : ¬ DpcWindowInForce m lowLimit highLimit) :
    ChainRanked m rs n rp (m.dpcStack - kernelStackSize) m.dpcStack := by
  obtain ⟨k, hk, hrp, -, hlt⟩ := h
  exact ⟨k, hk, hrp, by have := hlt.resolve_left hw; omega, .inl ⟨rfl, rfl⟩⟩

variable (hc : IsChain m m.exceptionList rs)
include hc

/-- Away from EXCEPTION_CHAIN_END the walk stands at a record of the chain. -/
theorem ChainRanked.index (h : ChainRanked m rs n rp lowLimit highLimit)
    (hend : rp ≠ exceptionChainEnd) :
    ∃ k, ∃ hk : k < rs.length, rp = rs[k] ∧ rs.length - k ≤ n ∧
      (DpcWindowInForce m lowLimit highLimit ∨ rs.length - k < n) := by
  obtain ⟨k, hk, rfl, hle, hw⟩ := h
  obtain ⟨hlt, heq⟩ := hc.getElem_of_ne hk hend
  exact ⟨k, hlt, heq, hle, hw⟩

theorem ChainRanked.chainEnd (h : ChainRanked m rs 0 rp lowLimit highLimit) :
    rp = exceptionChainEnd := by
  by_contra hend
  obtain ⟨k, hk, -, hle, -⟩ := h.index hc hend
  omega

theorem ChainRanked.mem (h : ChainRanked m rs n rp lowLimit highLimit)
    (hend : rp ≠ exceptionChainEnd) : rp ∈ rs := by
  obtain ⟨k, hk, rfl, -⟩ := h.index hc hend
  exact List.getElem_mem hk

/-- A step to the Next of a record at or beyond the current one lowers the rank. -/
theorem ChainRanked.jump {p : UInt32} (h : ChainRanked m rs (n + 1) rp lowLimit highLimit)
    (hend : rp ≠ exceptionChainEnd)
    (hp : ∀ i (hi : i < rs.length), rs[i] = rp → ∃ j, ∃ hj : j < rs.length, i ≤ j ∧ p = rs[j]) :
    ChainRanked m rs n (m.next p) lowLimit highLimit := by
  obtain ⟨k, hk, hrp, hle, hw⟩ := h.index hc hend
  obtain ⟨j, hj, hkj, rfl⟩ := hp k hk hrp.symm
  refine ⟨j + 1, hj, by rw [hc.getElem j hj, Function.iterate_succ_apply'], by omega, ?_⟩
  exact hw.imp_right fun _ => by omega

theorem ChainRanked.advance (h : ChainRanked m rs (n + 1) rp lowLimit highLimit)
    (hend : rp ≠ exceptionChainEnd) : ChainRanked m rs n (m.next rp) lowLimit highLimit :=
  h.jump hc hend fun i hi hri => ⟨i, hi, le_rfl, hri.symm⟩

end Ranked

/-! ### RtlDispatchException -/

/-- **RtlDispatchException ends on every finite chain.** On a chain of `n` records ending at
EXCEPTION_CHAIN_END, whose handlers RtlIsValidHandler decides, RtlDispatchException leaves its
loop within `n + 2` passes, whatever the records' addresses and alignment, the stack limits,
the DPC state and the handlers. -/
theorem rtlDispatchException_ends_on_finite_chain (m : Machine) (hs : Handlers Invocation)
    (er : ExceptionRecord) (ctx : Context) {rs : List UInt32} (hc : IsChain m m.exceptionList rs)
    (hv : ∀ r ∈ rs, rtlIsValidHandler m (m.handler r) ≠ none) :
    ∃ x s, rtlDispatchException m hs er ctx (rs.length + 2) = .exited x s := by
  refine runLoop_exits_of_ranked
    (fun n s => ChainRanked m rs n s.registrationPointer s.lowLimit s.highLimit)
    (fun n s s' h hp => ?_) (fun s s' h hp => (dispatchPass_eq_loop hp).1 (h.chainEnd hc))
    (fun n s h hp => ?_) (rs.length + 1) _ (ChainRanked.start _ _)
  · obtain ⟨hend, ⟨hcf, rfl⟩ | ⟨-, -, hcall⟩⟩ := dispatchPass_eq_loop hp
    · exact h.toDpc fun hw => hw.not_dispatchDpcRestart ⟨hend, hcf⟩
    · obtain ⟨-, -, -, hrp, hlo, hhi⟩ := dispatchCall_eq_loop hcall
      rw [hrp, hlo, hhi]
      exact h.advance hc hend
  · -- the search of RtlIsValidHandler, the only call that may not return, is decided
    obtain ⟨hend, hnone⟩ := dispatchPass_eq_stall hp
    exact hv _ (h.mem hc hend) hnone

theorem rtlDispatchException_ends_on_finite_chain_two_records :
    IsChain twoRecordMachine twoRecordMachine.exceptionList [0x1000, 0x1010] ∧
      (∀ r ∈ [0x1000, 0x1010],
        rtlIsValidHandler twoRecordMachine (twoRecordMachine.handler r) ≠ none) ∧
      ∃ x s, rtlDispatchException twoRecordMachine searchingHandlers ⟨0xC0000005, 0, 0, 0, 0⟩
        ⟨0, 0, 0⟩ 4 = .exited x s :=
  ⟨twoRecordMachine_isChain, by decide,
    rtlDispatchException_ends_on_finite_chain twoRecordMachine searchingHandlers _ _
      twoRecordMachine_isChain (by decide)⟩

/-! ### RtlUnwind -/

/-- A collided unwind reported by the handler of a record of `rs` names a record of `rs` at or
beyond it. -/
def CollidesForward {ε : Type} (rs : List UInt32) (hs : Handlers ε) : Prop :=
  ∀ hist c, (hs hist c).disposition = exceptionCollidedUnwind →
    ∀ i (hi : i < rs.length), rs[i] = c.establisherFrame →
      ∃ j, ∃ hj : j < rs.length, i ≤ j ∧ (hs hist c).dispatcherContext = rs[j]

/-- **RtlUnwind ends on every finite chain.** On a chain of `n` records ending at
EXCEPTION_CHAIN_END, with handlers whose collided unwinds report a record at or beyond their
own, RtlUnwind leaves its loop within `n + 2` passes, whatever the target, the records'
addresses and alignment, the stack limits, the DPC state and what else the handlers do. -/
theorem rtlUnwind_ends_on_finite_chain (m : Machine) (hs : Handlers UnwindEvent)
    (targetFrame targetIp : UInt32) (er : Option ExceptionRecord) (returnValue : UInt32)
    {rs : List UInt32} (hc : IsChain m m.exceptionList rs) (hcol : CollidesForward rs hs) :
    ∃ x s, rtlUnwind m hs targetFrame targetIp er returnValue (rs.length + 2) = .exited x s := by
  refine runLoop_exits_of_ranked
    (fun n s => ChainRanked m rs n s.registrationPointer s.lowLimit s.highLimit)
    (fun n s s' h hp => ?_) (fun s s' h hp => (unwindPass_eq_loop hp).1 (h.chainEnd hc))
    (fun _ _ _ hp => unwindPass_ne_stall hp) (rs.length + 1) _ (ChainRanked.start _ _)
  obtain ⟨hend, ht, hb, ⟨hcf, rfl⟩ | ⟨-, hcall⟩⟩ := unwindPass_eq_loop hp
  · exact h.toDpc fun hw => hw.not_unwindDpcRestart ⟨hend, ht, hb, hcf⟩
  · -- the walk goes on past the record, or past the record a collided unwind reported
    obtain ⟨p, rfl, hpc⟩ := unwindCall_eq_loop hcall
    refine h.jump hc hend fun i hi hri => ?_
    rcases hpc with ⟨-, rfl⟩ | ⟨hcu, rfl⟩
    · exact ⟨i, hi, le_rfl, hri.symm⟩
    · exact hcol _ _ hcu i hi hri

/-- Handlers that report a collided unwind at the record `0x1000`, naming the record `0x1010`
as the frame of the other unwind, and let the unwind go on elsewhere. -/
def collidingHandlers : Handlers UnwindEvent := fun _ c =>
  if c.establisherFrame = 0x1000 then
    ⟨exceptionCollidedUnwind, c.exceptionRecord.exceptionFlags, c.context, 0x1010, c.exceptionList⟩
  else ⟨exceptionContinueSearch, c.exceptionRecord.exceptionFlags, c.context, 0, c.exceptionList⟩

theorem collidingHandlers_collidesForward : CollidesForward [0x1000, 0x1010] collidingHandlers := by
  intro hist c hcu i hi _
  unfold collidingHandlers at hcu ⊢
  split_ifs at hcu ⊢
  · exact ⟨1, by simp, by simp at hi; omega, rfl⟩
  · simp [exceptionContinueSearch, exceptionCollidedUnwind] at hcu

theorem rtlUnwind_ends_on_finite_chain_collided :
    IsChain twoRecordMachine twoRecordMachine.exceptionList [0x1000, 0x1010] ∧
      CollidesForward [0x1000, 0x1010] collidingHandlers ∧
      ∃ x s, rtlUnwind twoRecordMachine collidingHandlers 0 0 none 0 4 = .exited x s :=
  ⟨twoRecordMachine_isChain, collidingHandlers_collidesForward,
    rtlUnwind_ends_on_finite_chain twoRecordMachine collidingHandlers 0 0 none 0
      twoRecordMachine_isChain collidingHandlers_collidesForward⟩

/-! ### Each record once -/

/-- The records RtlUnwind unlinked among its events, in order. -/
def UnwindEvent.unlinks (log : List UnwindEvent) : List UInt32 :=
  log.filterMap fun
    | .call _ => none
    | .unlink p => some p

@[simp] theorem UnwindEvent.unlinks_nil : UnwindEvent.unlinks [] = [] := rfl

@[simp] theorem UnwindEvent.unlinks_append_call (log : List UnwindEvent) (i : Invocation) :
    UnwindEvent.unlinks (log ++ [.call i]) = UnwindEvent.unlinks log := by
  simp [UnwindEvent.unlinks]

@[simp] theorem UnwindEvent.unlinks_append_unlink (log : List UnwindEvent) (p : UInt32) :
    UnwindEvent.unlinks (log ++ [.unlink p]) = UnwindEvent.unlinks log ++ [p] := by
  simp [UnwindEvent.unlinks]

/-- The records whose Handlers were called in `log`, and the records unlinked, are records of
the chain `rs` in chain order, none of them twice. -/
def EachRecordOnce (m : Machine) (rs : List UInt32) (log : List UnwindEvent) : Prop :=
  ((UnwindEvent.calls log).map Invocation.frame).Sublist rs ∧ (UnwindEvent.unlinks log).Sublist rs ∧
    ((UnwindEvent.calls log).map Invocation.frame).Nodup ∧ (UnwindEvent.unlinks log).Nodup ∧
    ∀ i ∈ UnwindEvent.calls log, i.call.handler = m.handler i.frame

/-- RtlUnwind stands at the `k`-th record of the chain `rs`, or at EXCEPTION_CHAIN_END past its
last, and the records whose Handlers it called, and those it unlinked, lie before it in chain
order. -/
def UnwoundBefore (m : Machine) (rs : List UInt32) (s : UnwindState) : Prop :=
  ∃ k ≤ rs.length, s.registrationPointer = m.next^[k] m.exceptionList ∧
    ((UnwindEvent.calls s.log).map Invocation.frame).Sublist (rs.take k) ∧
    (UnwindEvent.unlinks s.log).Sublist (rs.take k) ∧
    ∀ i ∈ UnwindEvent.calls s.log, i.call.handler = m.handler i.frame

private theorem snoc_sublist_take {l₁ l : List UInt32} {k j : Nat} (h : l₁.Sublist (l.take k))
    (hkj : k ≤ j) (hj : j < l.length) : (l₁ ++ [l[j]]).Sublist (l.take (j + 1)) := by
  rw [List.take_succ, List.getElem?_eq_getElem hj, Option.toList_some]
  exact (h.trans (List.take_sublist_take_left l hkj)).append (List.Sublist.refl _)

section Once

variable {m : Machine} {rs : List UInt32} {s : UnwindState}

theorem EachRecordOnce.of_take (hc : IsChain m m.exceptionList rs) {log : List UnwindEvent}
    {k k' : Nat} (hcalls : ((UnwindEvent.calls log).map Invocation.frame).Sublist (rs.take k))
    (hunl : (UnwindEvent.unlinks log).Sublist (rs.take k'))
    (hh : ∀ i ∈ UnwindEvent.calls log, i.call.handler = m.handler i.frame) :
    EachRecordOnce m rs log := by
  have hcalls := hcalls.trans (List.take_sublist k rs)
  have hunl := hunl.trans (List.take_sublist k' rs)
  exact ⟨hcalls, hunl, hcalls.nodup hc.nodup, hunl.nodup hc.nodup, hh⟩

theorem UnwoundBefore.start (targetFrame : UInt32) (er : Option ExceptionRecord)
    (returnValue : UInt32) : UnwoundBefore m rs (unwindStart m targetFrame er returnValue) :=
  ⟨0, Nat.zero_le _, by simp, by simp, by simp, by simp⟩

variable (hc : IsChain m m.exceptionList rs)
include hc

theorem UnwoundBefore.eachRecordOnce (h : UnwoundBefore m rs s) : EachRecordOnce m rs s.log := by
  obtain ⟨k, -, -, hcalls, hunl, hh⟩ := h
  exact .of_take hc hcalls hunl hh

/-- A handler call at the `k`-th record adds that record to the records called, which then lie
before the next one. -/
theorem UnwoundBefore.afterCall (h : UnwoundBefore m rs s)
    (hend : s.registrationPointer ≠ exceptionChainEnd) (r : HandlerReturn) :
    ∃ k, ∃ hk : k < rs.length, s.registrationPointer = rs[k] ∧
      ((UnwindEvent.calls (s.afterCall (s.handlerCall m) r).log).map Invocation.frame).Sublist
        (rs.take (k + 1)) ∧
      (UnwindEvent.unlinks (s.afterCall (s.handlerCall m) r).log).Sublist (rs.take k) ∧
      ∀ i ∈ UnwindEvent.calls (s.afterCall (s.handlerCall m) r).log,
        i.call.handler = m.handler i.frame := by
  obtain ⟨k, hk, hrp, hcalls, hunl, hh⟩ := h
  obtain ⟨hlt, heq⟩ := hc.getElem_of_ne hk (hrp ▸ hend)
  refine ⟨k, hlt, hrp.trans heq, ?_, by simpa using hunl, fun i hi => ?_⟩
  · simpa [Invocation.frame, hrp, heq] using snoc_sublist_take hcalls le_rfl hlt
  · -- the routine called is the Handler of the record at RegistrationPointer
    rw [UnwindState.afterCall_log, UnwindEvent.calls_append_call, List.mem_append,
      List.mem_singleton] at hi
    rcases hi with hi | rfl
    exacts [hh i hi, rfl]

/-- The unlinking after a call, of the record called or of one beyond it, moves RtlUnwind to
the Next of the record unlinked. -/
theorem UnwoundBefore.unlinkStep (h : UnwoundBefore m rs s)
    (hend : s.registrationPointer ≠ exceptionChainEnd) (r : HandlerReturn) {p : UInt32}
    (hp : ∀ k (hk : k < rs.length), rs[k] = s.registrationPointer →
      ∃ j, ∃ hj : j < rs.length, k ≤ j ∧ p = rs[j]) :
    UnwoundBefore m rs ((s.afterCall (s.handlerCall m) r).unlinkStep m p) := by
  obtain ⟨k, hk, hrp, hcalls, hunl, hh⟩ := h.afterCall hc hend r
  obtain ⟨j, hj, hkj, rfl⟩ := hp k hk hrp.symm
  refine ⟨j + 1, hj, ?_, ?_, ?_, ?_⟩
  · rw [UnwindState.unlinkStep_registrationPointer, hc.getElem j hj,
      Function.iterate_succ_apply']
  · simpa only [UnwindState.unlinkStep_log, UnwindEvent.calls_append_unlink] using
      hcalls.trans (List.take_sublist_take_left rs (Nat.succ_le_succ hkj))
  · simpa only [UnwindState.unlinkStep_log, UnwindEvent.unlinks_append_unlink] using
      snoc_sublist_take hunl hkj hj
  · simpa only [UnwindState.unlinkStep_log, UnwindEvent.calls_append_unlink] using hh

end Once

/-- **RtlUnwind calls and unlinks each record at most once.** On a chain ending at
EXCEPTION_CHAIN_END, with handlers whose collided unwinds report a record at or beyond their
own, in every run of RtlUnwind, whatever the target, the stack limits, the DPC state and what
else the handlers do: the records whose Handlers it called, and the records it unlinked, are
records of the chain, in chain order, none of them twice. -/
theorem rtlUnwind_each_record_once (m : Machine) (hs : Handlers UnwindEvent)
    (targetFrame targetIp : UInt32) (er : Option ExceptionRecord) (returnValue : UInt32)
    {rs : List UInt32} (hc : IsChain m m.exceptionList rs) (hcol : CollidesForward rs hs)
    (n : Nat) :
    (rtlUnwind m hs targetFrame targetIp er returnValue n).Satisfies
      (fun s => EachRecordOnce m rs s.log) (fun _ s => EachRecordOnce m rs s.log) := by
  refine (runLoop_satisfies (UnwoundBefore m rs) (fun _ s => EachRecordOnce m rs s.log)
    (fun s s' h hp => ?_) (fun s x s' h hp => ?_) n _ (.start _ _ _)).mono
    (fun _ h => h.eachRecordOnce hc) fun _ _ h => h
  · obtain ⟨hend, -, -, ⟨-, rfl⟩ | ⟨-, hcall⟩⟩ := unwindPass_eq_loop hp
    · -- the switch to the DPC stack leaves the walk and the events as they were
      exact h
    · -- the walk goes on past the record, or past the record a collided unwind reported
      obtain ⟨p, rfl, hpc⟩ := unwindCall_eq_loop hcall
      refine h.unlinkStep hc hend _ fun k hk hrk => ?_
      rcases hpc with ⟨-, rfl⟩ | ⟨hcu, rfl⟩
      · exact ⟨k, hk, le_rfl, hrk.symm⟩
      · exact hcol _ _ hcu k hk hrk
  · rcases unwindPass_eq_exit hp with ⟨-, rfl, -⟩ | ⟨-, -, -, rfl⟩ | ⟨-, -, -, -, -, rfl⟩ |
      ⟨-, -, -, -, -, rfl⟩ | ⟨hend, -, -, -, hcall⟩
    iterate 4 exact h.eachRecordOnce hc
    -- a last call, left without its unlinking
    obtain ⟨-, rfl⟩ := unwindCall_eq_exit hcall
    obtain ⟨k, -, -, hcalls, hunl, hh⟩ := h.afterCall hc hend _
    exact .of_take hc hcalls hunl hh

theorem rtlUnwind_each_record_once_collided :
    IsChain twoRecordMachine twoRecordMachine.exceptionList [0x1000, 0x1010] ∧
      CollidesForward [0x1000, 0x1010] collidingHandlers ∧
      (rtlUnwind twoRecordMachine collidingHandlers 0 0 none 0 4).Satisfies
        (fun s => EachRecordOnce twoRecordMachine [0x1000, 0x1010] s.log)
        (fun _ s => EachRecordOnce twoRecordMachine [0x1000, 0x1010] s.log) :=
  ⟨twoRecordMachine_isChain, collidingHandlers_collidesForward,
    rtlUnwind_each_record_once twoRecordMachine collidingHandlers 0 0 none 0
      twoRecordMachine_isChain collidingHandlers_collidesForward 4⟩

end SehDispatch
