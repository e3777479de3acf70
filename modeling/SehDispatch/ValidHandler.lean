import SehDispatch.Loop
import SehDispatch.Records

/-!
# RtlIsValidHandler

The handler check looks the handler's image up with `RtlLookupFunctionTable`. No table means
the handler cannot be checked and is accepted; the sentinel `(-1, -1)` marks an image that must
not hold handlers and rejects it; otherwise the handler, biased down by the image base, is
searched for in the table by a binary search on the LONG locals Low and High.

The search is a `while` loop and is modelled as one (`searchPass`): its locals are `Search`,
and each pass reads `FunctionTable[Middle]` from memory. The search starts with
`High = FunctionTableLength`, one past the last entry, so the word just after the table can
be read, and can decide the answer.

* `rtlIsValidHandler_accepts_word_past_table`: a handler outside a one-entry table is accepted
  because the word after the table holds it.
* `SearchInv` bounds Low and High for a table of `n` entries; every pass keeps it
  (`SearchInv.pass`), and with `n < 2^30` it keeps `Low + High` inside a LONG.
* `rtlIsValidHandler_search_ends`: the search ends within `n + 2` passes, and at every
  iteration `Low <= Middle <= High` and `High - Low` goes down.
* `rtlIsValidHandler_reads_at_most_one_past`: every index read lies in `[0, n]`;
  `rtlIsValidHandler_reads_past_table`: a handler above every entry gets index `n` read.
-/

namespace SehDispatch

/-- The locals Low and High of the binary search. -/
structure Search where
  low : Int
  high : Int
deriving DecidableEq, Repr

/-- `Middle = (Low + High) >> 1`, in LONG. -/
def Search.middle (s : Search) : Int := Int.shiftRight (toLong (s.low + s.high)) 1

/-- One pass of `while (High >= Low)`: `entry Middle` is FunctionEntry, compared with the
biased handler as a pointer. -/
def searchPass (entry : Int → UInt32) (handler : UInt32) (s : Search) : Pass Search Bool :=
  if s.low ≤ s.high then
    if handler < entry s.middle then .loop ⟨s.low, toLong (s.middle - 1)⟩
    else if handler > entry s.middle then .loop ⟨toLong (s.middle + 1), s.high⟩
    else .exit true s
  else .exit false s

/-- `FunctionTable[i]`: the ULONG at index `i` of the table, the LONG index scaled by four. -/
def functionTableEntry (m : Machine) (functionTable : UInt32) (i : Int) : UInt32 :=
  m.mem (functionTable + 4 * ulongOfLong i)

/-- The passes the model gives the search: Low and High take `2^64` values together, so a
search that ends at all ends within this many passes. -/
def searchPasses : Nat := 18446744073709551616

/-- The search loop RtlIsValidHandler runs for `handler`: over the table RtlLookupFunctionTable
reports, for the handler biased down by the image base. -/
def validHandlerSearch (m : Machine) (handler : UInt32) : Search → Pass Search Bool :=
  searchPass (functionTableEntry m (m.lookupFunctionTable handler).functionTable)
    (handler - (m.lookupFunctionTable handler).base)

/-- `Low = 0; High = FunctionTableLength`. -/
def searchStart (m : Machine) (handler : UInt32) : Search :=
  ⟨0, toLong (m.lookupFunctionTable handler).functionTableLength.toNat⟩

/-- RtlIsValidHandler; `none` when the search does not end. -/
def rtlIsValidHandler (m : Machine) (handler : UInt32) : Option Bool :=
  let t := m.lookupFunctionTable handler
  if t.functionTable ≠ 0 ∧ t.functionTableLength ≠ 0 then
    if t.functionTable = 0xFFFFFFFF ∧ t.functionTableLength = 0xFFFFFFFF then some false
    else
      match runLoop (validHandlerSearch m handler) searchPasses (searchStart m handler) with
      | .exited found _ => some found
      | .running _ => none
  else some true

theorem rtlIsValidHandler_ne_none_of_exited {m : Machine} {handler : UInt32} {k : Nat}
    {found : Bool} {s : Search} (hk : k ≤ searchPasses)
    (h : runLoop (validHandlerSearch m handler) k (searchStart m handler) = .exited found s) :
    rtlIsValidHandler m handler ≠ none := by
  have hrun := runLoop_of_exited h (searchPasses - k)
  rw [Nat.add_sub_cancel' hk] at hrun
  simp only [rtlIsValidHandler]
  split_ifs <;> simp [hrun]

section Table

variable {m : Machine} {handler : UInt32}
  (ht : (m.lookupFunctionTable handler).functionTable ≠ 0)
  (hn : (m.lookupFunctionTable handler).functionTableLength.toNat < 2 ^ 30)
  (hpos : 0 < (m.lookupFunctionTable handler).functionTableLength.toNat)
include ht hn hpos

omit ht in
theorem functionTableLength_searched :
    (m.lookupFunctionTable handler).functionTableLength ≠ 0 ∧
      (m.lookupFunctionTable handler).functionTableLength ≠ 0xFFFFFFFF := by
  constructor <;> intro h <;> rw [h] at hpos hn
  · exact absurd hpos (by decide)
  · exact absurd hn (by decide)

theorem rtlIsValidHandler_of_exited {k : Nat} {found : Bool} {s : Search} (hk : k ≤ searchPasses)
    (h : runLoop (validHandlerSearch m handler) k (searchStart m handler) = .exited found s) :
    rtlIsValidHandler m handler = some found := by
  have hrun := runLoop_of_exited h (searchPasses - k)
  rw [Nat.add_sub_cancel' hk] at hrun
  obtain ⟨hlen, hsent⟩ := functionTableLength_searched hn hpos
  simp only [rtlIsValidHandler, if_pos (And.intro ht hlen), hsent, and_false, if_false, hrun]

theorem exited_of_rtlIsValidHandler {found : Bool} (h : rtlIsValidHandler m handler = some found) :
    ∃ s, runLoop (validHandlerSearch m handler) searchPasses (searchStart m handler) =
      .exited found s := by
  obtain ⟨hlen, hsent⟩ := functionTableLength_searched hn hpos
  simp only [rtlIsValidHandler, if_pos (And.intro ht hlen), hsent, and_false, if_false] at h
  split at h
  · cases h
    exact ⟨_, by assumption⟩
  · cases h

end Table

/-- A machine whose handlers all lie in an image with a one-entry table at `0x5000`, the
entry being `0x10` and the word after the table `0x20`. -/
def pastTableMachine : Machine where
  mem a := if a = 0x5000 then 0x10 else if a = 0x5004 then 0x20 else 0
  lookupFunctionTable _ := ⟨0x5000, 0, 1⟩
  lowLimit := 0
  highLimit := 0
  exceptionList := exceptionChainEnd
  irql := 0
  dpcRoutineActive := false
  dpcStack := 0
  capturedContext := ⟨0, 0, 0⟩
  returnAddress := 0

/-- The handler `0x20` is not in the table, yet it is accepted: the search reads the word
after the table, which holds `0x20`. -/
theorem rtlIsValidHandler_accepts_word_past_table :
    rtlIsValidHandler pastTableMachine 0x20 = some true ∧
      ∀ i : Nat, i < (pastTableMachine.lookupFunctionTable 0x20).functionTableLength.toNat →
        functionTableEntry pastTableMachine 0x5000 i ≠ 0x20 - 0 :=
  ⟨by decide, by decide⟩

/-! ### The bounds of the search -/

/-- Low and High within their bounds for a table of `n` entries: `0 ≤ Low ≤ n + 1` and
`-1 ≤ High ≤ n`. -/
def SearchInv (n : Nat) (s : Search) : Prop :=
  0 ≤ s.low ∧ s.low ≤ n + 1 ∧ -1 ≤ s.high ∧ s.high ≤ n

/-- At an iteration that passes the test `High >= Low`: `Low + High` fits a LONG,
`Low <= Middle <= High`, and a pass back to the top leaves `High - Low` smaller. -/
def SearchWellBehaved (search : Search → Pass Search Bool) (s : Search) : Prop :=
  s.low ≤ s.high → toLong (s.low + s.high) = s.low + s.high ∧ s.low ≤ s.middle ∧
    s.middle ≤ s.high ∧ ∀ s', search s = .loop s' → s'.high - s'.low < s.high - s.low

section Bounds

variable {n : Nat} {entry : Int → UInt32} {handler : UInt32} {s s' : Search}

theorem SearchInv.start (hn : n < 2 ^ 30) : SearchInv n ⟨0, toLong n⟩ := by
  rw [toLong_of_lt (by omega) (by omega)]
  simp only [SearchInv]
  omega

theorem SearchInv.middle_eq (h : SearchInv n s) (hn : n < 2 ^ 30) (hle : s.low ≤ s.high) :
    toLong (s.low + s.high) = s.low + s.high ∧ s.middle = (s.low + s.high) / 2 := by
  obtain ⟨h1, -, -, h4⟩ := h
  have hsum : toLong (s.low + s.high) = s.low + s.high := toLong_of_lt (by omega) (by omega)
  exact ⟨hsum, by rw [Search.middle, hsum, shiftRight_one]⟩

theorem searchPass_eq_loop (h : searchPass entry handler s = .loop s') :
    s.low ≤ s.high ∧
      (s' = ⟨s.low, toLong (s.middle - 1)⟩ ∨ s' = ⟨toLong (s.middle + 1), s.high⟩) := by
  unfold searchPass at h
  split_ifs at h with h1 <;> cases h
  · exact ⟨h1, .inl rfl⟩
  · exact ⟨h1, .inr rfl⟩

theorem searchPass_loop_cases (h : searchPass entry handler s = .loop s') :
    s.low ≤ s.high ∧
      (handler < entry s.middle ∧ s' = ⟨s.low, toLong (s.middle - 1)⟩ ∨
        entry s.middle < handler ∧ s' = ⟨toLong (s.middle + 1), s.high⟩) := by
  unfold searchPass at h
  split_ifs at h with h1 h2 h3 <;> cases h
  · exact ⟨h1, .inl ⟨h2, rfl⟩⟩
  · exact ⟨h1, .inr ⟨h3, rfl⟩⟩

theorem searchPass_eq_exit {found : Bool} (h : searchPass entry handler s = .exit found s') :
    s' = s ∧ (found = true ∧ s.low ≤ s.high ∧ entry s.middle = handler ∨
      found = false ∧ s.high < s.low) := by
  unfold searchPass at h
  split_ifs at h with h1 h2 h3 <;> cases h
  · refine ⟨rfl, .inl ⟨rfl, h1, ?_⟩⟩
    rw [ulong_lt_iff] at h2
    rw [gt_iff_lt, ulong_lt_iff] at h3
    exact ulong_eq_iff.mpr (by omega)
  · exact ⟨rfl, .inr ⟨rfl, by omega⟩⟩

theorem SearchInv.pass (h : SearchInv n s) (hn : n < 2 ^ 30)
    (hp : searchPass entry handler s = .loop s') :
    SearchInv n s' ∧ s'.high - s'.low < s.high - s.low := by
  obtain ⟨hle, rfl | rfl⟩ := searchPass_eq_loop hp <;>
  obtain ⟨-, hm⟩ := h.middle_eq hn hle <;>
  obtain ⟨h1, h2, h3, h4⟩ := h <;>
  rw [toLong_of_lt (by omega) (by omega)] <;>
  simp only [SearchInv] <;>
  omega

theorem SearchInv.wellBehaved (h : SearchInv n s) (hn : n < 2 ^ 30) :
    SearchWellBehaved (searchPass entry handler) s := fun hle => by
  obtain ⟨hsum, hm⟩ := h.middle_eq hn hle
  exact ⟨hsum, by omega, by omega, fun _ hp => (h.pass hn hp).2⟩

theorem SearchInv.middle_mem (h : SearchInv n s) (hn : n < 2 ^ 30) (hle : s.low ≤ s.high) :
    0 ≤ s.middle ∧ s.middle ≤ n := by
  obtain ⟨-, hm⟩ := h.middle_eq hn hle
  obtain ⟨h1, -, -, h4⟩ := h
  omega

/-- From inside the bounds, the search ends within `High - Low + 2` passes. -/
theorem runLoop_search_exits (hn : n < 2 ^ 30) :
    ∀ (k : Nat) (s : Search), SearchInv n s → s.high - s.low + 1 ≤ k →
      ∃ found s', runLoop (searchPass entry handler) (k + 1) s = .exited found s'
  | 0, s, _, hk => by
    -- `High < Low`: the test of the loop fails
    have hlt : ¬ s.low ≤ s.high := by omega
    exact ⟨false, s, runLoop_succ_of_exit 0 (by rw [searchPass, if_neg hlt])⟩
  | k + 1, s, h, hk => by
    cases hp : searchPass entry handler s with
    | loop s' =>
      obtain ⟨h', hlt⟩ := h.pass hn hp
      obtain ⟨found, s'', hrun⟩ := runLoop_search_exits hn k s' h' (by omega)
      exact ⟨found, s'', (runLoop_succ_of_loop _ hp).trans hrun⟩
    | exit found s' => exact ⟨found, s', runLoop_succ_of_exit _ hp⟩
    | stall =>
      -- the search never stalls
      unfold searchPass at hp
      split_ifs at hp

theorem searchPass_of_above (h : SearchInv n s) (hn : n < 2 ^ 30) (hle : s.low ≤ s.high)
    (habove : entry s.middle < handler) :
    searchPass entry handler s = .loop ⟨s.middle + 1, s.high⟩ := by
  obtain ⟨-, hm⟩ := h.middle_eq hn hle
  obtain ⟨h1, -, -, h4⟩ := h
  have hnlt : ¬ handler < entry s.middle := by rw [ulong_lt_iff] at habove ⊢; omega
  rw [searchPass, if_pos hle, if_neg hnlt, if_pos (show handler > entry s.middle from habove),
    toLong_of_lt (by omega) (by omega)]

/-- With the handler above every entry, each pass moves Low past Middle and keeps `High = n`,
until `Low = High = n`. -/
theorem search_reaches_last (hn : n < 2 ^ 30)
    (habove : ∀ i : Int, 0 ≤ i → i < n → entry i < handler) :
    ∀ (d : Nat) (low : Int), 0 ≤ low → low ≤ n → n - low ≤ d →
      ∃ k, runLoop (searchPass entry handler) k ⟨low, n⟩ = .running ⟨n, n⟩
  | 0, low, _, _, hd => ⟨0, by rw [show low = n by omega]; rfl⟩
  | d + 1, low, h0, hle, hd => by
    rcases hle.eq_or_lt with rfl | hlt
    · exact ⟨0, rfl⟩
    have hinv : SearchInv n ⟨low, n⟩ := by simp only [SearchInv]; omega
    have hm : (⟨low, n⟩ : Search).middle = (low + n) / 2 := (hinv.middle_eq hn hlt.le).2
    obtain ⟨k, hk⟩ :=
      search_reaches_last hn habove d ((low + n) / 2 + 1) (by omega) (by omega) (by omega)
    have hp := searchPass_of_above hinv hn hlt.le (habove _ (by omega) (by omega))
    rw [hm] at hp
    exact ⟨k + 1, (runLoop_succ_of_loop k hp).trans hk⟩

end Bounds

theorem validHandlerSearch_inv (m : Machine) (handler : UInt32)
    (hn : (m.lookupFunctionTable handler).functionTableLength.toNat < 2 ^ 30) (k : Nat) :
    (runLoop (validHandlerSearch m handler) k (searchStart m handler)).Satisfies
      (SearchInv (m.lookupFunctionTable handler).functionTableLength.toNat) fun _ _ => True :=
  runLoop_satisfies _ _ (fun _ _ h hp => (h.pass hn hp).1) (fun _ _ _ _ _ => trivial) k _
    (SearchInv.start hn)

/-- **The search of RtlIsValidHandler ends.** For every table of `n < 2^30` entries, whatever it
holds, every handler and every image base: at every iteration of the binary search that passes
the test `High >= Low`, `Low + High` fits a LONG, `Low <= Middle <= High`, and a pass back to
the top leaves `High - Low` smaller; the search ends within `n + 2` passes, and
RtlIsValidHandler returns. -/
theorem rtlIsValidHandler_search_ends (m : Machine) (handler : UInt32)
    (hn : (m.lookupFunctionTable handler).functionTableLength.toNat < 2 ^ 30) :
    (∀ k, (runLoop (validHandlerSearch m handler) k (searchStart m handler)).Satisfies
        (SearchWellBehaved (validHandlerSearch m handler)) fun _ _ => True) ∧
      (∃ k ≤ (m.lookupFunctionTable handler).functionTableLength.toNat + 2, ∃ found s,
        runLoop (validHandlerSearch m handler) k (searchStart m handler) = .exited found s) ∧
      rtlIsValidHandler m handler ≠ none := by
  have hstart : SearchInv _ (searchStart m handler) := SearchInv.start hn
  obtain ⟨found, s, hrun⟩ :=
    runLoop_search_exits hn ((m.lookupFunctionTable handler).functionTableLength.toNat + 1) _
      hstart (by obtain ⟨h1, -, -, h4⟩ := hstart; omega)
  exact ⟨fun k => (validHandlerSearch_inv m handler hn k).mono (fun _ h => h.wellBehaved hn)
      fun _ _ h => h, ⟨_, le_rfl, found, s, hrun⟩,
    rtlIsValidHandler_ne_none_of_exited (by unfold searchPasses; omega) hrun⟩

theorem rtlIsValidHandler_search_ends_one_entry :
    (pastTableMachine.lookupFunctionTable 0x20).functionTableLength.toNat < 2 ^ 30 ∧
      (∀ k, (runLoop (validHandlerSearch pastTableMachine 0x20) k
          (searchStart pastTableMachine 0x20)).Satisfies
          (SearchWellBehaved (validHandlerSearch pastTableMachine 0x20)) fun _ _ => True) ∧
      (∃ k ≤ (pastTableMachine.lookupFunctionTable 0x20).functionTableLength.toNat + 2,
        ∃ found s, runLoop (validHandlerSearch pastTableMachine 0x20) k
          (searchStart pastTableMachine 0x20) = .exited found s) ∧
      rtlIsValidHandler pastTableMachine 0x20 ≠ none :=
  ⟨by decide, rtlIsValidHandler_search_ends pastTableMachine 0x20 (by decide)⟩

/-- **The search reads at most one word past the table.** For every table of `n < 2^30` entries,
whatever it holds, every handler and every image base: every index Middle at which the search
reads the table lies in `[0, n]`. -/
theorem rtlIsValidHandler_reads_at_most_one_past (m : Machine) (handler : UInt32)
    (hn : (m.lookupFunctionTable handler).functionTableLength.toNat < 2 ^ 30) (k : Nat) :
    (runLoop (validHandlerSearch m handler) k (searchStart m handler)).Satisfies
      (fun s => s.low ≤ s.high →
        0 ≤ s.middle ∧ s.middle ≤ ((m.lookupFunctionTable handler).functionTableLength.toNat : Int))
      fun _ _ => True :=
  (validHandlerSearch_inv m handler hn k).mono (fun _ h => h.middle_mem hn) fun _ _ h => h

theorem rtlIsValidHandler_reads_at_most_one_past_one_entry :
    (pastTableMachine.lookupFunctionTable 0x20).functionTableLength.toNat < 2 ^ 30 ∧
      (runLoop (validHandlerSearch pastTableMachine 0x20) 1
        (searchStart pastTableMachine 0x20)).Satisfies
        (fun s => s.low ≤ s.high → 0 ≤ s.middle ∧
          s.middle ≤ ((pastTableMachine.lookupFunctionTable 0x20).functionTableLength.toNat : Int))
        fun _ _ => True :=
  ⟨by decide, rtlIsValidHandler_reads_at_most_one_past pastTableMachine 0x20 (by decide) 1⟩

/-! ### The word past the table -/

/-- **A handler above every entry makes the search read past the table.** For every table of
`n < 2^30` entries, every image base and every handler that, biased down by the base, lies
above every entry: the search reaches an iteration with `Low <= High` and `Middle = n`, which
reads `FunctionTable[n]`, the word just past the table. -/
theorem rtlIsValidHandler_reads_past_table (m : Machine) (handler : UInt32)
    (hn : (m.lookupFunctionTable handler).functionTableLength.toNat < 2 ^ 30)
    (habove : ∀ i : Nat, i < (m.lookupFunctionTable handler).functionTableLength.toNat →
      functionTableEntry m (m.lookupFunctionTable handler).functionTable i <
        handler - (m.lookupFunctionTable handler).base) :
    ∃ k s, runLoop (validHandlerSearch m handler) k (searchStart m handler) = .running s ∧
      s.low ≤ s.high ∧
      s.middle = ((m.lookupFunctionTable handler).functionTableLength.toNat : Int) := by
  generalize hN : (m.lookupFunctionTable handler).functionTableLength.toNat = N at hn habove
  have hstart : searchStart m handler = ⟨0, N⟩ := by
    rw [searchStart, hN, toLong_of_lt (by omega) (by omega)]
  have hlast : SearchInv N ⟨N, N⟩ := by simp only [SearchInv]; omega
  have hmid : (⟨N, N⟩ : Search).middle = N := by
    rw [(hlast.middle_eq hn le_rfl).2]
    dsimp only
    omega
  obtain ⟨k, hk⟩ := search_reaches_last hn (fun i h0 hi => by
    simpa only [Int.toNat_of_nonneg h0] using habove i.toNat (by omega)) N 0 le_rfl (by omega)
    (by omega)
  exact ⟨k, _, hstart ▸ hk, le_rfl, hmid⟩

theorem rtlIsValidHandler_reads_past_one_entry :
    (pastTableMachine.lookupFunctionTable 0x20).functionTableLength.toNat < 2 ^ 30 ∧
      (∀ i : Nat, i < (pastTableMachine.lookupFunctionTable 0x20).functionTableLength.toNat →
        functionTableEntry pastTableMachine
          (pastTableMachine.lookupFunctionTable 0x20).functionTable i <
          0x20 - (pastTableMachine.lookupFunctionTable 0x20).base) ∧
      ∃ k s, runLoop (validHandlerSearch pastTableMachine 0x20) k
          (searchStart pastTableMachine 0x20) = .running s ∧ s.low ≤ s.high ∧
        s.middle = ((pastTableMachine.lookupFunctionTable 0x20).functionTableLength.toNat : Int) :=
  ⟨by decide, by decide, rtlIsValidHandler_reads_past_table pastTableMachine 0x20 (by decide)
    (by decide)⟩
end SehDispatch
