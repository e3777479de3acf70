import SehDispatch.ValidHandler

/-!
# RtlIsValidHandler on a sorted table

An image's safe handlers are registered as a table of offsets from the image base, sorted in
increasing order. On such a table the search of RtlIsValidHandler is a binary search over the
entries and one word more: since it starts with `High = FunctionTableLength`, the word just past
the table takes part whenever the biased handler lies above every entry.

* `TableAccepts` is the answer the search gives: the biased handler is one of the entries, or it
  lies above every entry and equals the word past the table. `TableHit` names the index that
  decides it.
* `SortedSearch` is the invariant of the search on a sorted table: every entry below Low is
  below the biased handler, and every deciding index lies in `[Low, High]`. One lemma per
  direction of the pass keeps it (`SortedSearch.pass`), and an exit answers `TableAccepts`
  (`SortedSearch.exit`).
* `rtlIsValidHandler_sorted_table`: RtlIsValidHandler answers exactly `TableAccepts`.
* `rtlIsValidHandler_search_log_passes`: whatever the table holds, the search ends within
  `⌊log₂ (n + 1)⌋ + 2` passes, since every pass back to the top halves `High - Low + 1`.
* `rtlIsValidHandler_accepts_only_table_words`: on any table, sorted or not, a handler is
  accepted only when it is one of the entries or the word past them; what sortedness adds is
  the converse, which fails on a table out of order (`rtlIsValidHandler_rejects_unsorted_entry`).
-/

namespace SehDispatch

/-- The entries `T 0, …, T (n - 1)` are in increasing order, as unsigned values. -/
def TableSorted (T : Int → UInt32) (n : Nat) : Prop :=
  ∀ j < n, ∀ i ≤ j, T i ≤ T j

instance (T : Int → UInt32) (n : Nat) : Decidable (TableSorted T n) :=
  inferInstanceAs (Decidable (∀ j < n, ∀ i ≤ j, T i ≤ T j))

/-- The search of a table `T` of `n` entries for `hb` answers TRUE: `hb` is one of the entries,
or it lies above every entry and equals the word `T n` just past the table. -/
def TableAccepts (T : Int → UInt32) (n : Nat) (hb : UInt32) : Prop :=
  (∃ i < n, T i = hb) ∨ ((∀ i < n, T i < hb) ∧ T n = hb)

instance (T : Int → UInt32) (n : Nat) (hb : UInt32) : Decidable (TableAccepts T n hb) :=
  inferInstanceAs (Decidable (_ ∨ _))

/-- The index `i` decides the search for `hb`: an entry equal to `hb`, or the word past the table
when `hb` lies above every entry and equals it. -/
def TableHit (T : Int → UInt32) (n : Nat) (hb : UInt32) (i : Int) : Prop :=
  (0 ≤ i ∧ i < n ∧ T i = hb) ∨ (i = n ∧ (∀ j < n, T j < hb) ∧ T n = hb)

/-- The invariant of the search on a sorted table. -/
structure SortedSearch (T : Int → UInt32) (n : Nat) (hb : UInt32) (s : Search) : Prop where
  bounds : SearchInv n s
  below : ∀ j : Nat, (j : Int) < s.low → j < n → T j < hb
  hits : ∀ i, TableHit T n hb i → s.low ≤ i ∧ i ≤ s.high

section Sorted

variable {T : Int → UInt32} {n : Nat} {hb : UInt32} {s s' : Search}

theorem TableSorted.le (hs : TableSorted T n) {i j : Int} (h0 : 0 ≤ i) (hij : i ≤ j)
    (hj : j < n) : T i ≤ T j := by
  have h := hs j.toNat (by omega) i.toNat (by omega)
  rwa [Int.toNat_of_nonneg h0, Int.toNat_of_nonneg (by omega)] at h

theorem tableAccepts_iff_hit : TableAccepts T n hb ↔ ∃ i, TableHit T n hb i := by
  constructor
  · rintro (⟨i, hi, he⟩ | ⟨hall, he⟩)
    · exact ⟨i, .inl ⟨by omega, by omega, he⟩⟩
    · exact ⟨n, .inr ⟨rfl, hall, he⟩⟩
  · rintro ⟨i, ⟨h0, hi, he⟩ | ⟨rfl, hall, he⟩⟩
    · exact .inl ⟨i.toNat, by omega, by rwa [Int.toNat_of_nonneg h0]⟩
    · exact .inr ⟨hall, he⟩

theorem SortedSearch.start (hn : n < 2 ^ 30) : SortedSearch T n hb ⟨0, toLong n⟩ := by
  refine ⟨SearchInv.start hn, fun j hj _ => absurd hj (by dsimp only; omega), fun i hi => ?_⟩
  rw [toLong_of_lt (by omega) (by omega)]
  rcases hi with ⟨h0, hi, -⟩ | ⟨rfl, -⟩ <;> dsimp only <;> omega

theorem SearchInv.low_eq_of_middle_eq (h : SearchInv n s) (hn : n < 2 ^ 30)
    (hle : s.low ≤ s.high) (hm : s.middle = n) : s.low = n := by
  have := (h.middle_eq hn hle).2
  have := h.2.2.2
  omega

theorem SearchInv.middle_lt (h : SearchInv n s) (hn : n < 2 ^ 30) (hle : s.low ≤ s.high)
    {j : Int} (hj : s.low ≤ j) (hjn : j < n) : s.middle < n := by
  by_contra hge
  have := h.low_eq_of_middle_eq hn hle (by have := (h.middle_eq hn hle).2; have := h.2.2.2; omega)
  omega

variable (hs : TableSorted T n) (hn : n < 2 ^ 30)
include hs hn

/-- The handler lies below the entry at Middle: no deciding index is at Middle or above. -/
theorem SortedSearch.pass_below (h : SortedSearch T n hb s) (hle : s.low ≤ s.high)
    (hlt : hb < T s.middle) (hb' : SearchInv n ⟨s.low, toLong (s.middle - 1)⟩) :
    SortedSearch T n hb ⟨s.low, toLong (s.middle - 1)⟩ := by
  obtain ⟨h1, -, -, h4⟩ := h.bounds
  have hm := (h.bounds.middle_eq hn hle).2
  rw [toLong_of_lt (by omega) (by omega)] at hb' ⊢
  refine ⟨hb', h.below, fun i hi => ⟨(h.hits i hi).1, ?_⟩⟩
  dsimp only
  by_contra hgt
  rw [ulong_lt_iff] at hlt
  rcases hi with ⟨h0, hi, he⟩ | ⟨rfl, hall, he⟩
  · -- an entry at or above Middle is at least the entry there
    have := hs.le (by omega) (show s.middle ≤ i by omega) hi
    rw [he, ulong_le_iff] at this
    omega
  · rcases (show s.middle < n ∨ s.middle = n by omega) with hmid | hmid
    · -- the entry at Middle is below the handler, as every entry is
      have := hall s.middle.toNat (by omega)
      rw [Int.toNat_of_nonneg (by omega), ulong_lt_iff] at this
      omega
    · rw [hmid, he] at hlt
      omega

/-- The handler lies above the entry at Middle: so do the entries up to Middle, and no deciding
index is at Middle or below. -/
theorem SortedSearch.pass_above (h : SortedSearch T n hb s) (hle : s.low ≤ s.high)
    (hgt : T s.middle < hb) (hb' : SearchInv n ⟨toLong (s.middle + 1), s.high⟩) :
    SortedSearch T n hb ⟨toLong (s.middle + 1), s.high⟩ := by
  obtain ⟨h1, -, -, h4⟩ := h.bounds
  have hm := (h.bounds.middle_eq hn hle).2
  rw [ulong_lt_iff] at hgt
  rw [toLong_of_lt (by omega) (by omega)] at hb' ⊢
  refine ⟨hb', fun j hj hjn => ?_, fun i hi => ⟨?_, (h.hits i hi).2⟩⟩
  · dsimp only at hj
    by_cases hjl : (j : Int) < s.low
    · exact h.below j hjl hjn
    -- an entry from Low up to Middle, which is then inside the table, is at most the entry there
    have := hs.le (by omega) (show (j : Int) ≤ s.middle by omega)
      (h.bounds.middle_lt hn hle (not_lt.mp hjl) (by omega))
    rw [ulong_le_iff] at this
    exact ulong_lt_iff.mpr (by omega)
  · dsimp only
    by_contra hle'
    have hlo := (h.hits i hi).1
    rcases hi with ⟨h0, hi, he⟩ | ⟨rfl, -, he⟩
    · have := hs.le h0 (show i ≤ s.middle by omega) (h.bounds.middle_lt hn hle hlo hi)
      rw [he, ulong_le_iff] at this
      omega
    · rw [show s.middle = n by omega, he] at hgt
      omega

theorem SortedSearch.pass (h : SortedSearch T n hb s) (hp : searchPass T hb s = .loop s') :
    SortedSearch T n hb s' := by
  have hb' := (h.bounds.pass hn hp).1
  obtain ⟨hle, ⟨hlt, rfl⟩ | ⟨hgt, rfl⟩⟩ := searchPass_loop_cases hp
  · exact h.pass_below hs hn hle hlt hb'
  · exact h.pass_above hs hn hle hgt hb'

omit hs in
/-- The search answers `TableAccepts`: TRUE at an entry equal to the handler, which is the
word past the table only when Low has passed every entry; FALSE once no index is left that
could decide it. -/
theorem SortedSearch.exit {found : Bool} (h : SortedSearch T n hb s)
    (hp : searchPass T hb s = .exit found s') : found = decide (TableAccepts T n hb) := by
  obtain ⟨-, ⟨rfl, hle, he⟩ | ⟨rfl, hlt⟩⟩ := searchPass_eq_exit hp
  · obtain ⟨h1, -, -, h4⟩ := h.bounds
    have hm := (h.bounds.middle_eq hn hle).2
    refine (decide_eq_true (tableAccepts_iff_hit.mpr ⟨s.middle, ?_⟩)).symm
    rcases (show s.middle < n ∨ s.middle = n by omega) with hmid | hmid
    · exact .inl ⟨by omega, hmid, he⟩
    · have hlow := h.bounds.low_eq_of_middle_eq hn hle hmid
      exact .inr ⟨hmid, fun j hj => h.below j (by omega) hj, hmid ▸ he⟩
  · refine (decide_eq_false fun ha => ?_).symm
    obtain ⟨i, hi⟩ := tableAccepts_iff_hit.mp ha
    have := h.hits i hi
    omega

/-- Every run of the search on a sorted table keeps `SortedSearch`, and ends answering
`TableAccepts`. -/
theorem runLoop_sortedSearch (k : Nat) :
    (runLoop (searchPass T hb) k ⟨0, toLong n⟩).Satisfies (SortedSearch T n hb)
      fun found _ => found = decide (TableAccepts T n hb) :=
  runLoop_satisfies _ _ (fun _ _ h hp => h.pass hs hn hp) (fun _ _ _ h hp => h.exit hn hp) k _
    (SortedSearch.start hn)

theorem runLoop_sortedSearch_exited {k : Nat} {found : Bool} {s : Search}
    (h : runLoop (searchPass T hb) k ⟨0, toLong n⟩ = .exited found s) :
    found = decide (TableAccepts T n hb) := by
  have hrun := @runLoop_sortedSearch T n hb hs hn k
  rwa [h] at hrun

end Sorted

/-- **What RtlIsValidHandler accepts on a sorted table.** For every image whose table of
`0 < n < 2^30` entries is sorted, every image base and every handler, whatever the memory past
the table holds: RtlIsValidHandler returns, and accepts the handler exactly when, biased down by
the image base, it is one of the entries, or it lies above every entry and equals the word just
past the table. -/
theorem rtlIsValidHandler_sorted_table (m : Machine) (handler : UInt32)
    (ht : (m.lookupFunctionTable handler).functionTable ≠ 0)
    (hpos : 0 < (m.lookupFunctionTable handler).functionTableLength.toNat)
    (hn : (m.lookupFunctionTable handler).functionTableLength.toNat < 2 ^ 30)
    (hs : TableSorted (functionTableEntry m (m.lookupFunctionTable handler).functionTable)
      (m.lookupFunctionTable handler).functionTableLength.toNat) :
    rtlIsValidHandler m handler =
      some (decide (TableAccepts
        (functionTableEntry m (m.lookupFunctionTable handler).functionTable)
        (m.lookupFunctionTable handler).functionTableLength.toNat
        (handler - (m.lookupFunctionTable handler).base))) := by
  have hstart := SearchInv.start hn
  obtain ⟨found, s, hrun⟩ := @runLoop_search_exits _
    (functionTableEntry m (m.lookupFunctionTable handler).functionTable)
    (handler - (m.lookupFunctionTable handler).base) hn
    ((m.lookupFunctionTable handler).functionTableLength.toNat + 1) _ hstart
    (by obtain ⟨h1, -, -, h4⟩ := hstart; omega)
  have hk : (m.lookupFunctionTable handler).functionTableLength.toNat + 1 + 1 ≤ searchPasses := by
    unfold searchPasses; omega
  rw [rtlIsValidHandler_of_exited ht hn hpos hk hrun, runLoop_sortedSearch_exited hs hn hrun]

theorem rtlIsValidHandler_sorted_one_entry :
    (pastTableMachine.lookupFunctionTable 0x20).functionTable ≠ 0 ∧
      0 < (pastTableMachine.lookupFunctionTable 0x20).functionTableLength.toNat ∧
      (pastTableMachine.lookupFunctionTable 0x20).functionTableLength.toNat < 2 ^ 30 ∧
      TableSorted
        (functionTableEntry pastTableMachine
          (pastTableMachine.lookupFunctionTable 0x20).functionTable)
        (pastTableMachine.lookupFunctionTable 0x20).functionTableLength.toNat ∧
      rtlIsValidHandler pastTableMachine 0x20 =
        some (decide (TableAccepts
          (functionTableEntry pastTableMachine
            (pastTableMachine.lookupFunctionTable 0x20).functionTable)
          (pastTableMachine.lookupFunctionTable 0x20).functionTableLength.toNat
          (0x20 - (pastTableMachine.lookupFunctionTable 0x20).base))) :=
  ⟨by decide, by decide, by decide, by decide,
    rtlIsValidHandler_sorted_table pastTableMachine 0x20 (by decide) (by decide) (by decide)
      (by decide)⟩

/-! ### The number of passes -/

section Passes

variable {n : Nat} {entry : Int → UInt32} {handler : UInt32} {s s' : Search}

/-- A pass back to the top at least halves `High - Low + 1`. -/
theorem SearchInv.pass_halves (h : SearchInv n s) (hn : n < 2 ^ 30)
    (hp : searchPass entry handler s = .loop s') :
    2 * (s'.high - s'.low + 1) ≤ s.high - s.low + 1 := by
  obtain ⟨hle, rfl | rfl⟩ := searchPass_eq_loop hp <;>
  obtain ⟨-, hm⟩ := h.middle_eq hn hle <;>
  obtain ⟨h1, -, -, h4⟩ := h <;>
  rw [toLong_of_lt (by omega) (by omega)] <;>
  dsimp only <;>
  omega

/-- From inside the bounds, with `High - Low + 1 < 2^k`, the search ends within `k + 1`
passes. -/
theorem runLoop_search_exits_log (hn : n < 2 ^ 30) :
    ∀ (k : Nat) (s : Search), SearchInv n s → s.high - s.low + 1 < 2 ^ k →
      ∃ found s', runLoop (searchPass entry handler) (k + 1) s = .exited found s'
  | 0, s, _, hk => by
    -- `High < Low`: the test of the loop fails
    have hlt : ¬ s.low ≤ s.high := by rw [pow_zero] at hk; omega
    exact ⟨false, s, runLoop_succ_of_exit 0 (by rw [searchPass, if_neg hlt])⟩
  | k + 1, s, h, hk => by
    cases hp : searchPass entry handler s with
    | loop s' =>
      have hhalf := h.pass_halves hn hp
      rw [pow_succ] at hk
      obtain ⟨found, s'', hrun⟩ := runLoop_search_exits_log hn k s' (h.pass hn hp).1 (by omega)
      exact ⟨found, s'', (runLoop_succ_of_loop _ hp).trans hrun⟩
    | exit found s' => exact ⟨found, s', runLoop_succ_of_exit _ hp⟩
    | stall =>
      -- the search never stalls
      unfold searchPass at hp
      split_ifs at hp

end Passes

/-- **The search reads a logarithmic number of entries.** For every table of `n < 2^30`
entries, whatever it holds, every handler and every image base, the search of RtlIsValidHandler
ends within `⌊log₂ (n + 1)⌋ + 2` passes, each reading at most one word of the table. -/
theorem rtlIsValidHandler_search_log_passes (m : Machine) (handler : UInt32)
    (hn : (m.lookupFunctionTable handler).functionTableLength.toNat < 2 ^ 30) :
    ∃ k ≤ Nat.log2 ((m.lookupFunctionTable handler).functionTableLength.toNat + 1) + 2,
      ∃ found s,
        runLoop (validHandlerSearch m handler) k (searchStart m handler) = .exited found s := by
  have hstart : SearchInv _ (searchStart m handler) := SearchInv.start hn
  have hlog := @Nat.lt_log2_self ((m.lookupFunctionTable handler).functionTableLength.toNat + 1)
  have hlog' : (((m.lookupFunctionTable handler).functionTableLength.toNat + 1 : Nat) : Int) <
      (2 : Int) ^
        (Nat.log2 ((m.lookupFunctionTable handler).functionTableLength.toNat + 1) + 1) := by
    exact_mod_cast hlog
  obtain ⟨found, s, hrun⟩ := @runLoop_search_exits_log _
    (functionTableEntry m (m.lookupFunctionTable handler).functionTable)
    (handler - (m.lookupFunctionTable handler).base) hn
    (Nat.log2 ((m.lookupFunctionTable handler).functionTableLength.toNat + 1) + 1) _ hstart
    (by obtain ⟨h1, -, -, h4⟩ := hstart; omega)
  exact ⟨_, le_rfl, found, s, hrun⟩

theorem rtlIsValidHandler_search_log_passes_one_entry :
    (pastTableMachine.lookupFunctionTable 0x20).functionTableLength.toNat < 2 ^ 30 ∧
      ∃ k ≤ Nat.log2
          ((pastTableMachine.lookupFunctionTable 0x20).functionTableLength.toNat + 1) + 2,
        ∃ found s, runLoop (validHandlerSearch pastTableMachine 0x20) k
          (searchStart pastTableMachine 0x20) = .exited found s :=
  ⟨by decide, rtlIsValidHandler_search_log_passes pastTableMachine 0x20 (by decide)⟩

/-! ### Any table -/

/-- A run of the search that ends with TRUE has found, at an index in `[0, n]`, a word equal to
the handler, whatever the table holds. -/
theorem runLoop_search_exited_true {n : Nat} {entry : Int → UInt32} {handler : UInt32} {k : Nat}
    {s : Search} (hn : n < 2 ^ 30)
    (h : runLoop (searchPass entry handler) k ⟨0, toLong n⟩ = .exited true s) :
    ∃ i ≤ n, entry i = handler := by
  have hsat := runLoop_satisfies (SearchInv n)
    (fun found _ => found = true → ∃ i ≤ n, entry i = handler)
    (fun _ _ hs hp => (hs.pass hn hp).1) (fun s x _ hs hp hx => by
      -- TRUE is answered at Middle, an index in `[0, n]`, whose word equals the handler
      obtain ⟨-, ⟨-, hle, he⟩ | ⟨rfl, -⟩⟩ := searchPass_eq_exit hp
      · obtain ⟨h0, hle'⟩ := hs.middle_mem hn hle
        exact ⟨s.middle.toNat, by omega, by rwa [Int.toNat_of_nonneg h0]⟩
      · cases hx) k _ (SearchInv.start hn)
  rw [h] at hsat
  exact hsat rfl

/-- **RtlIsValidHandler accepts only words of the table.** For every table of `0 < n < 2^30`
entries, whatever it holds and in whatever order, every image base and every handler: when
RtlIsValidHandler accepts the handler, the handler biased down by the image base is one of the
entries or the word just past them. -/
theorem rtlIsValidHandler_accepts_only_table_words (m : Machine) (handler : UInt32)
    (ht : (m.lookupFunctionTable handler).functionTable ≠ 0)
    (hpos : 0 < (m.lookupFunctionTable handler).functionTableLength.toNat)
    (hn : (m.lookupFunctionTable handler).functionTableLength.toNat < 2 ^ 30)
    (h : rtlIsValidHandler m handler = some true) :
    ∃ i ≤ (m.lookupFunctionTable handler).functionTableLength.toNat,
      functionTableEntry m (m.lookupFunctionTable handler).functionTable i =
        handler - (m.lookupFunctionTable handler).base := by
  obtain ⟨s, hrun⟩ := exited_of_rtlIsValidHandler ht hn hpos h
  exact runLoop_search_exited_true hn hrun

theorem rtlIsValidHandler_accepts_only_table_words_one_entry :
    (pastTableMachine.lookupFunctionTable 0x20).functionTable ≠ 0 ∧
      0 < (pastTableMachine.lookupFunctionTable 0x20).functionTableLength.toNat ∧
      (pastTableMachine.lookupFunctionTable 0x20).functionTableLength.toNat < 2 ^ 30 ∧
      rtlIsValidHandler pastTableMachine 0x20 = some true ∧
      ∃ i ≤ (pastTableMachine.lookupFunctionTable 0x20).functionTableLength.toNat,
        functionTableEntry pastTableMachine
          (pastTableMachine.lookupFunctionTable 0x20).functionTable i =
          0x20 - (pastTableMachine.lookupFunctionTable 0x20).base :=
  ⟨by decide, by decide, by decide, by decide,
    rtlIsValidHandler_accepts_only_table_words pastTableMachine 0x20 (by decide) (by decide)
      (by decide) (by decide)⟩

/-- A three-entry table out of order, `0x30, 0x10, 0x20`, at `0x5000` in an image at base `0`. -/
def unsortedTableMachine : Machine :=
  { pastTableMachine with
    mem := fun a =>
      if a = 0x5000 then 0x30 else if a = 0x5004 then 0x10 else if a = 0x5008 then 0x20 else 0
    lookupFunctionTable := fun _ => ⟨0x5000, 0, 3⟩ }

/-- Without the order the converse fails: the handler `0x30` is the first entry of the table, yet
the search steps right past it and RtlIsValidHandler rejects it. -/
theorem rtlIsValidHandler_rejects_unsorted_entry :
    functionTableEntry unsortedTableMachine 0x5000 0 = 0x30 - 0 ∧
      ¬ TableSorted (functionTableEntry unsortedTableMachine 0x5000) 3 ∧
      rtlIsValidHandler unsortedTableMachine 0x30 = some false :=
  ⟨by decide, by decide, by decide⟩

end SehDispatch
